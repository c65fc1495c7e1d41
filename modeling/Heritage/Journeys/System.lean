import Heritage.Journeys.Creation

/-!
# The system of proposals, responses and bookings

Calls arrive, pass their first checks and wait; each attempt of a waiting call
is one transaction on whatever the others have committed meanwhile.
-/

namespace Heritage.Journeys

open Heritage.Store
open Heritage.Proposals
open Heritage.Bookings

/-- What a caller asks for. -/
inductive Operation where
  | author (operation : Proposals.Operation)
  | recordProposalResponse (versionId : Uuid)
      (input : RecordProposalResponseInput)
  | submitClientProposalResponse (input : SubmitClientProposalResponseInput)
  | createBooking (input : CreateBookingInput)
  | updateBookingStatus (id : Uuid) (input : UpdateBookingStatusInput)

/-- A call after its first checks, with what these found. -/
inductive Call where
  | author (author : ProposalActor) (operation : Proposals.Operation)
  | recordProposalResponse (actor : ProposalActor) (versionId : Uuid)
      (input : RecordProposalResponseInput)
  | submitClientProposalResponse (actor : AuthenticatedUser)
      (ownedClientId : Uuid) (input : SubmitClientProposalResponseInput)
  | createBooking (actor : BookingActor) (input : CreateBookingInput)
  | readRaced (actor : BookingActor) (input : CreateBookingInput)
  | updateBookingStatus (actor : AuthenticatedUser) (id : Uuid)
      (input : UpdateBookingStatusInput)
  deriving DecidableEq

structure WaitingCall where
  callId : Nat
  call : Call
  attempt : Nat
  deriving DecidableEq

structure State where
  database : Database
  waiting : List WaitingCall
  deriving DecidableEq

/-- Nothing stored and nobody waiting. -/
def State.initial : State where
  database := Database.empty
  waiting := []

/-- The checks of an operation before its transaction. -/
def firstChecks (actor : AuthenticatedUser) (operation : Operation)
    (database : Database) : Option Call :=
  match operation with
  | .author operation =>
      (assertProposalAuthorActor actor >>= fun author =>
        checks author operation database.proposing.toTables >>= fun _ =>
          .ok (Call.author author operation)).toOption
  | .recordProposalResponse versionId input =>
      ((recordProposalResponseChecks actor versionId
        database.proposing).toOption).map fun proposalActor =>
          .recordProposalResponse proposalActor versionId input
  | .submitClientProposalResponse input =>
      ((submitClientProposalResponseChecks actor input
        database.proposing).toOption).map fun ownedClientId =>
          .submitClientProposalResponse actor ownedClientId input
  | .createBooking input =>
      ((assertBookingActor actor).toOption).map fun bookingActor =>
        .createBooking bookingActor input
  | .updateBookingStatus id input =>
      some (.updateBookingStatus actor id input)

/-- A call that arrives under a fresh id and passes its first checks waits. -/
def arrive (state : State) (callId : Nat) (actor : AuthenticatedUser)
    (operation : Operation) : State :=
  match firstChecks actor operation state.database with
  | none => state
  | some call =>
      if (findBy WaitingCall.callId callId state.waiting).isSome then
        state
      else
        { state with waiting := state.waiting ++ [⟨callId, call, 1⟩] }

inductive Answer where
  | authored (outcome : Proposals.Outcome)
  | recorded (result : Except Proposals.TxError ProposalAcceptance)
  | submitted (result : Except Proposals.TxError ProposalResponseType)
  | booked (outcome : CreateBookingOutcome)
  | statusUpdated (result : Except Bookings.TxError BookingRecord)

/-- One attempt of a call: its transaction, and what it answers. -/
def attempt (context : AttemptContext) (call : Call) (number : Nat)
    (database : Database) : Answer × Database :=
  match call with
  | .author author operation =>
      let (outcome, stored) :=
        Proposals.attempt context.toRequestContext author operation number
          database.proposing.toTables
      (.authored outcome,
        { database with
          proposing := { database.proposing with toTables := stored } })
  | .recordProposalResponse actor versionId input =>
      let (result, stored) :=
        transact
          (recordProposalResponseTransaction context.toRequestContext actor
            versionId input)
          database.proposing
      (.recorded (result.mapError caughtResponse),
        { database with proposing := stored })
  | .submitClientProposalResponse actor ownedClientId input =>
      let (result, stored) :=
        transact
          (submitClientProposalResponseTransaction context.toRequestContext
            actor ownedClientId input)
          database.proposing
      (.submitted (result.mapError caughtResponse),
        { database with proposing := stored })
  | .createBooking actor input =>
      let (outcome, stored) :=
        createBookingAttempt context actor input number database
      (.booked outcome, stored)
  | .readRaced actor input =>
      (.booked (readRacedBooking actor input database), database)
  | .updateBookingStatus actor id input =>
      let (result, stored) :=
        updateBookingStatus context.toRequestContext actor id input
          database.booking
      (.statusUpdated result, { database with booking := stored })

/-- What a call does after an answer that does not end it. -/
def continuation (waiting : WaitingCall) : Answer → Option WaitingCall
  | .authored .tryAgain =>
      some { waiting with attempt := waiting.attempt + 1 }
  | .booked .tryAgain =>
      some { waiting with attempt := waiting.attempt + 1 }
  | .booked .readRaced =>
      match waiting.call with
      | .createBooking actor input =>
          some { waiting with call := .readRaced actor input }
      | _ => none
  | _ => none

/-- The waiting calls after the one with this id was answered. -/
def answered (waiting : List WaitingCall) (callId : Nat)
    (next : Option WaitingCall) : List WaitingCall :=
  match next with
  | some continued =>
      updateBy WaitingCall.callId callId (fun _ => continued) waiting
  | none => waiting.filter fun other => other.callId ≠ callId

/-- A waiting call makes its next attempt. -/
def proceed (state : State) (callId : Nat) (context : AttemptContext) :
    State :=
  match findBy WaitingCall.callId callId state.waiting with
  | none => state
  | some waiting =>
      let (answer, stored) :=
        attempt context waiting.call waiting.attempt state.database
      { database := stored
        waiting := answered state.waiting callId (continuation waiting answer) }

inductive Request where
  | call (callId : Nat) (actor : AuthenticatedUser) (operation : Operation)
  | attempt (callId : Nat) (context : AttemptContext)
  | assignmentsChanged (staffAssignments : List StaffAssignment)
  | profileAdded (profile : ClientProfile)

/-- A portal account of a client; ids, users and clients are unique. -/
def addProfile (profiles : List ClientProfile) (profile : ClientProfile) :
    List ClientProfile :=
  if (findBy ClientProfile.id profile.id profiles).isNone ∧
      (findBy ClientProfile.userId profile.userId profiles).isNone ∧
      (findBy ClientProfile.clientId profile.clientId profiles).isNone then
    profiles ++ [profile]
  else
    profiles

/-- Both features see the new assignments. -/
def withStaffAssignments (staffAssignments : List StaffAssignment)
    (database : Database) : Database :=
  { database with
    proposing :=
      { database.proposing with staffAssignments := staffAssignments }
    booking :=
      { database.booking with
        ledger :=
          { database.booking.ledger with
            staffAssignments := staffAssignments } } }

def withProfile (profile : ClientProfile) (database : Database) : Database :=
  { database with
    proposing :=
      { database.proposing with
        clientProfiles :=
          addProfile database.proposing.clientProfiles profile } }

def step (state : State) : Request → State
  | .call callId actor operation => arrive state callId actor operation
  | .attempt callId context => proceed state callId context
  | .assignmentsChanged staffAssignments =>
      { state with
        database := withStaffAssignments staffAssignments state.database }
  | .profileAdded profile =>
      { state with database := withProfile profile state.database }

/-- The state after `requests` from the initial one. -/
def stateAfter (requests : List Request) : State :=
  run step State.initial requests

/-- The database after `requests`. -/
def databaseAfter (requests : List Request) : Database :=
  (stateAfter requests).database

theorem step_attempt_database {state : State} {callId : Nat}
    {context : AttemptContext} {waiting : WaitingCall}
    (found : findBy WaitingCall.callId callId state.waiting = some waiting) :
    (step state (.attempt callId context)).database =
      (attempt context waiting.call waiting.attempt state.database).2 := by
  simp only [step, proceed, found]

theorem databaseAfter_concat (requests : List Request) (request : Request) :
    databaseAfter (requests ++ [request]) =
      (step (stateAfter requests) request).database := by
  unfold databaseAfter stateAfter
  rw [run_append]
  rfl

theorem arrive_database (state : State) (callId : Nat)
    (actor : AuthenticatedUser) (operation : Operation) :
    (step state (.call callId actor operation)).database =
      state.database := by
  unfold step arrive
  dsimp only
  split
  · rfl
  · split <;> rfl

/-- A step leaves the database alone, changes the assignments or the profiles,
or is one attempt of a waiting call. -/
theorem step_database {property : Database → Prop} (state : State)
    (request : Request) (silent : property state.database)
    (reassigned :
      ∀ staffAssignments,
        property (withStaffAssignments staffAssignments state.database))
    (profiled : ∀ profile, property (withProfile profile state.database))
    (attempted :
      ∀ context waiting,
        waiting ∈ state.waiting →
          property
            (attempt context waiting.call waiting.attempt
              state.database).2) :
    property (step state request).database := by
  cases request with
  | call callId actor operation =>
      unfold step arrive
      dsimp only
      split
      · exact silent
      · split <;> exact silent
  | attempt callId context =>
      unfold step proceed
      dsimp only
      cases found : findBy WaitingCall.callId callId state.waiting with
      | none =>
          exact silent
      | some waiting =>
          exact attempted context waiting (mem_of_findBy found)
  | assignmentsChanged staffAssignments =>
      exact reassigned staffAssignments
  | profileAdded profile =>
      exact profiled profile

end Heritage.Journeys
