import Heritage.Journeys.System
import Heritage.Proposals.Writes

/-!
# The writes of the journey system

What one attempt can do to the database: nothing, one write of the proposals,
one response, one new booking or one transition of a booking.
-/

namespace Heritage.Journeys

open Heritage.Store
open Heritage.Proposals
open Heritage.Bookings
open Heritage.Payments (Booking BookingStatus withBookingStatus)

/-- The database after one transition of a booking. -/
def withTransition (database : Database) (row : BookingStatusHistory)
    (logs : List BookingAuditLog) : Database :=
  { database with
    booking :=
      { ledger :=
          { database.booking.ledger with
            bookings :=
              updateBy Booking.id row.bookingId
                (withBookingStatus row.newStatus) database.bookings }
        statusHistory := database.booking.statusHistory ++ [row]
        auditLogs := logs } }

/-- One committed write of an attempt. -/
inductive Commit (database : Database) : Database → Prop where
  | unchanged : Commit database database
  | authored (tables : Proposals.Tables)
      (write : Write database.proposing.toTables tables) :
      Commit database
        { database with
          proposing := { database.proposing with toTables := tables } }
  | responded (row : ProposalAcceptance) (tables : PortalTables)
      (response : Response database.proposing row tables) :
      Commit database { database with proposing := tables }
  | booked (versionId : Uuid) (booking : Booking)
      (history : BookingStatusHistory) (after : Database)
      (creation : Creation database versionId booking history after) :
      Commit database after
  | moved (booking : Booking) (row : BookingStatusHistory)
      (logs : List BookingAuditLog)
      (found : findBy Booking.id row.bookingId database.bookings = some booking)
      (allowed : isTransitionAllowed booking.status row.newStatus)
      (previous : row.previousStatus = some booking.status) :
      Commit database (withTransition database row logs)

/-- The version that the call responds to. -/
def Call.respondsTo : Call → Option Uuid
  | .recordProposalResponse _ versionId _ => some versionId
  | .submitClientProposalResponse _ _ input => some input.proposalVersionId
  | _ => none

/-- The answer of a response call that was refused. -/
def Answer.isRefusal : Answer → Bool
  | .recorded (.error _) => true
  | .submitted (.error _) => true
  | _ => false

section Attempts

variable {context : AttemptContext} {number : Nat} {database : Database}

/-- A call that responds is refused and changes nothing, or it adds the first
response of its version. -/
theorem attempt_responds {call : Call} {versionId : Uuid}
    (responds : call.respondsTo = some versionId) :
    ((attempt context call number database).1.isRefusal ∧
        (attempt context call number database).2 = database) ∨
      ∃ row tables,
        row.proposalVersionId = versionId ∧
          Response database.proposing row tables ∧
          (attempt context call number database).1.isRefusal = false ∧
          (attempt context call number database).2 =
            { database with proposing := tables } := by
  cases call with
  | recordProposalResponse actor respondedId input =>
      obtain rfl := Option.some.inj responds
      simp only [attempt]
      cases outcome :
          recordProposalResponseTransaction context.toRequestContext actor
            respondedId input database.proposing with
      | error failure =>
          rw [transact_of_error outcome]
          exact Or.inl ⟨rfl, rfl⟩
      | ok result =>
          rw [transact_of_ok outcome]
          obtain ⟨ofVersion, response⟩ :=
            recordProposalResponseTransaction_ok outcome
          exact Or.inr ⟨_, _, ofVersion, response, rfl, rfl⟩
  | submitClientProposalResponse actor ownedClientId input =>
      obtain rfl := Option.some.inj responds
      simp only [attempt]
      cases outcome :
          submitClientProposalResponseTransaction context.toRequestContext
            actor ownedClientId input database.proposing with
      | error failure =>
          rw [transact_of_error outcome]
          exact Or.inl ⟨rfl, rfl⟩
      | ok result =>
          rw [transact_of_ok outcome]
          obtain ⟨row, ofVersion, response⟩ :=
            submitClientProposalResponseTransaction_ok outcome
          exact Or.inr ⟨row, _, ofVersion, response, rfl, rfl⟩
  | author | createBooking | readRaced | updateBookingStatus =>
      cases responds

theorem commit_of_responds {call : Call} {versionId : Uuid}
    (responds : call.respondsTo = some versionId) :
    Commit database (attempt context call number database).2 := by
  rcases attempt_responds responds with
    ⟨-, unchanged⟩ | ⟨row, tables, -, response, -, after⟩
  · rw [unchanged]
    exact .unchanged
  · rw [after]
    exact .responded row tables response

theorem createBookingAttempt_database (actor : BookingActor)
    (input : CreateBookingInput) :
    (createBookingAttempt context actor input number database).2 =
      (transact (attemptCreateBooking context actor input) database).2 := by
  unfold createBookingAttempt
  rcases transact (attemptCreateBooking context actor input) database with
    ⟨outcome, stored⟩
  cases outcome <;> rfl

/-- A status update that takes effect found the booking in the status its
caller expected, or it changes nothing. -/
theorem updateBookingStatus_attempt {actor : AuthenticatedUser} {id : Uuid}
    {input : UpdateBookingStatusInput} :
    (attempt context (.updateBookingStatus actor id input) number
          database).2 =
        database ∨
      ∃ booking row logs,
        findBy Booking.id row.bookingId database.bookings = some booking ∧
          row.bookingId = id ∧
          booking.status = input.expectedStatus ∧
          row.newStatus = input.newStatus ∧
          isTransitionAllowed booking.status row.newStatus ∧
          row.previousStatus = some booking.status ∧
          (attempt context (.updateBookingStatus actor id input) number
              database).2 =
            withTransition database row logs := by
  simp only [attempt]
  apply
    @updateBookingStatus_after database.booking context.toRequestContext
      (fun after =>
        { database with booking := after } = database ∨
          ∃ booking row logs,
            findBy Booking.id row.bookingId database.bookings =
                some booking ∧
              row.bookingId = id ∧
              booking.status = input.expectedStatus ∧
              row.newStatus = input.newStatus ∧
              isTransitionAllowed booking.status row.newStatus ∧
              row.previousStatus = some booking.status ∧
              { database with booking := after } =
                withTransition database row logs)
      actor id input (Or.inl rfl)
  intro bookingActor record after succeeds
  rcases updateBookingStatusTransaction_ok succeeds with
    rfl | ⟨booking, row, logs, found, expected, allowed, rfl, previous, next,
      rfl⟩
  · exact Or.inl rfl
  · right
    rw [← next] at allowed ⊢
    exact
      ⟨booking, row, _, found, rfl, expected, rfl, allowed, previous, rfl⟩

theorem attempt_commits (context : AttemptContext) (call : Call)
    (number : Nat) (database : Database) :
    Commit database (attempt context call number database).2 := by
  cases call with
  | author author operation =>
      simp only [attempt, attempt_tables]
      rcases
        transact_state_cases
          (transaction context.toRequestContext author operation)
          database.proposing.toTables with unchanged | ⟨answer, succeeds⟩
      · rw [unchanged]
        exact .unchanged
      · rcases transaction_ok succeeds with silent | write
        · rw [silent]
          exact .unchanged
        · exact .authored _ write
  | recordProposalResponse | submitClientProposalResponse =>
      exact commit_of_responds rfl
  | createBooking actor input =>
      simp only [attempt, createBookingAttempt_database]
      rcases
        transact_state_cases (attemptCreateBooking context actor input)
          database with unchanged | ⟨result, succeeds⟩
      · rw [unchanged]
        exact .unchanged
      · rcases attemptCreateBooking_ok succeeds with
          ⟨-, -, silent⟩ | ⟨booking, history, -, creation⟩
        · rw [silent]
          exact .unchanged
        · exact .booked _ booking history _ creation
  | readRaced actor input =>
      exact .unchanged
  | updateBookingStatus actor id input =>
      rcases updateBookingStatus_attempt with
        unchanged |
          ⟨booking, row, logs, found, -, -, -, allowed, previous, after⟩
      · rw [unchanged]
        exact .unchanged
      · rw [after]
        exact .moved booking row logs found allowed previous

end Attempts

/-- What holds of a database after any write of an attempt, any change of the
assignments and any new profile, holds after a step. -/
theorem step_commits {property : Database → Prop} (state : State)
    (request : Request)
    (reassigned :
      ∀ staffAssignments,
        property (withStaffAssignments staffAssignments state.database))
    (profiled : ∀ profile, property (withProfile profile state.database))
    (committed : ∀ after, Commit state.database after → property after) :
    property (step state request).database :=
  step_database state request (committed _ .unchanged) reassigned profiled
    fun context waiting _ =>
      committed _
        (attempt_commits context waiting.call waiting.attempt state.database)

end Heritage.Journeys
