import Heritage.Payments.System

/-!
# Booking statuses

`transitions.ts`, and the status update of `service.ts` with the repository
functions it calls.  A booking keeps its price and its payments in the ledger;
its status history and the entries about it stand beside the ledger.
-/

namespace Heritage.Bookings

open Heritage.Store
open Heritage.Payments (Booking BookingStatus withBookingStatus)

/-- `TRANSITION_MATRIX`. -/
def transitionMatrix : BookingStatus → List BookingStatus
  | .draft => [.pendingConfirmation, .cancelled]
  | .pendingConfirmation => [.confirmed, .cancelled]
  | .confirmed => [.inPreparation, .cancelled]
  | .inPreparation =>
      [.documentsRequired, .visaProcessing, .readyForTravel, .cancelled]
  | .documentsRequired => [.visaProcessing, .readyForTravel, .cancelled]
  | .visaProcessing => [.documentsRequired, .readyForTravel, .cancelled]
  | .readyForTravel => [.inProgress, .cancelled]
  | .inProgress => [.completed, .cancelled]
  | .completed => []
  | .cancelled => []

def isTransitionAllowed (current next : BookingStatus) : Bool :=
  next ∈ transitionMatrix current

/-- The database's spelling of a status. -/
def statusText : BookingStatus → String
  | .draft => "DRAFT"
  | .pendingConfirmation => "PENDING_CONFIRMATION"
  | .confirmed => "CONFIRMED"
  | .inPreparation => "IN_PREPARATION"
  | .documentsRequired => "DOCUMENTS_REQUIRED"
  | .visaProcessing => "VISA_PROCESSING"
  | .readyForTravel => "READY_FOR_TRAVEL"
  | .inProgress => "IN_PROGRESS"
  | .completed => "COMPLETED"
  | .cancelled => "CANCELLED"

inductive BookingErrorCode where
  | roleNotPermitted
  | proposalVersionNotFound
  | proposalVersionForbidden
  | proposalVersionNotAccepted
  | bookingNotFound
  | bookingForbidden
  | bookingConflict
  | invalidStatusTransition
  deriving DecidableEq, Repr

structure BookingError where
  code : BookingErrorCode
  message : String
  deriving DecidableEq, Repr

inductive TxError where
  | booking (error : BookingError)
  | uniqueViolation (modelName : String) (fields : List String)
  deriving DecidableEq, Repr

def bookingError (code : BookingErrorCode) (message : String) : TxError :=
  .booking ⟨code, message⟩

/-- `isResidualDatabaseConflict` for serialised transactions: a unique
violation. -/
def isOtherKnownConflict : TxError → Bool
  | .uniqueViolation _ _ => true
  | .booking _ => false

structure BookingStatusHistory where
  id : Uuid
  bookingId : Uuid
  previousStatus : Option BookingStatus
  newStatus : BookingStatus
  changedByUserId : Uuid
  deriving DecidableEq, Repr

/-- An entry about a booking; the states are the statuses. -/
structure BookingAuditLog where
  actorId : Uuid
  action : String
  entityType : String
  entityId : Uuid
  beforeState : Option String
  afterState : Option String
  deriving DecidableEq, Repr

/-- The ledger with what the booking feature keeps beside it. -/
structure Database where
  ledger : Payments.Tables
  statusHistory : List BookingStatusHistory
  auditLogs : List BookingAuditLog
  deriving DecidableEq, Repr

/-- No row in any table. -/
def Database.empty : Database where
  ledger := Payments.Tables.empty
  statusHistory := []
  auditLogs := []

inductive BookingActorRole where
  | adminManager
  | travelConsultant
  deriving DecidableEq, Repr

structure BookingActor where
  id : Uuid
  role : BookingActorRole
  deriving DecidableEq, Repr

def assertBookingActor (actor : AuthenticatedUser) :
    Except TxError BookingActor :=
  match actor.role with
  | .adminManager => .ok ⟨actor.id, .adminManager⟩
  | .travelConsultant => .ok ⟨actor.id, .travelConsultant⟩
  | _ =>
      .error <|
        bookingError .roleNotPermitted
          "This role is not permitted to manage bookings."

/-- Whether the client passes the actor's filter: a Travel Consultant needs an
active assignment of the client. -/
def clientAssignmentFilter (staffAssignments : List StaffAssignment)
    (actor : BookingActor) (clientId : Uuid) : Bool :=
  match actor.role with
  | .adminManager => true
  | .travelConsultant =>
      staffAssignments.any fun assignment =>
        assignment.clientId = some clientId ∧
          assignment.assignedStaffId = actor.id ∧
          assignment.endedAt = none

structure BookingRecord where
  id : Uuid
  bookingReference : String
  clientId : Uuid
  status : BookingStatus
  createdAt : Timestamp
  deriving DecidableEq, Repr

/-- `BOOKING_SELECT`. -/
def selectBooking (booking : Booking) : BookingRecord where
  id := booking.id
  bookingReference := booking.bookingReference
  clientId := booking.clientId
  status := booking.status
  createdAt := booking.createdAt

def findBookingByIdForActor (database : Database) (actor : BookingActor)
    (id : Uuid) : Option BookingRecord :=
  ((findBy Booking.id id database.ledger.bookings).filter fun booking =>
    clientAssignmentFilter database.ledger.staffAssignments actor
      booking.clientId).map selectBooking

/-- The booking's new status and the history row, in one write. -/
def updateBookingStatusWithHistory (database : Database)
    (booking : BookingRecord) (row : BookingStatusHistory) :
    Except TxError (BookingRecord × Database) := do
  require
    (findBy BookingStatusHistory.id row.id database.statusHistory).isNone
    (.uniqueViolation "Booking" ["id"])
  .ok
    ({ booking with status := row.newStatus },
      { database with
        ledger :=
          { database.ledger with
            bookings :=
              updateBy Booking.id row.bookingId
                (withBookingStatus row.newStatus)
                database.ledger.bookings }
        statusHistory := database.statusHistory ++ [row] })

def insertAuditLog (database : Database) (entry : BookingAuditLog) :
    Database :=
  { database with auditLogs := database.auditLogs ++ [entry] }

structure UpdateBookingStatusInput where
  expectedStatus : BookingStatus
  newStatus : BookingStatus
  deriving DecidableEq

def staleStatusMessage : String :=
  "This booking has changed since it was last loaded. Refresh and try again."

def conflictMessage : String :=
  "This booking could not be completed because of a conflicting update. " ++
    "Please try again."

def notFoundOrForbidden (actor : BookingActor) : TxError :=
  match actor.role with
  | .adminManager => bookingError .bookingNotFound "Booking not found."
  | .travelConsultant =>
      bookingError .bookingForbidden "Booking not found or not accessible."

def updateBookingStatusTransaction (context : RequestContext)
    (actor : BookingActor) (id : Uuid) (input : UpdateBookingStatusInput)
    (database : Database) : Except TxError (BookingRecord × Database) := do
  let found ←
    demand (findBookingByIdForActor database actor id)
      (notFoundOrForbidden actor)
  if found.status = input.newStatus then
    .ok (found, database)
  else
    require (found.status = input.expectedStatus)
      (bookingError .bookingConflict staleStatusMessage)
    require (isTransitionAllowed found.status input.newStatus)
      (bookingError .invalidStatusTransition
        ("Cannot transition a booking from " ++ statusText found.status ++
          " to " ++ statusText input.newStatus ++ "."))
    let (updated, written) ←
      updateBookingStatusWithHistory database found
        { id := context.randomUuid 0
          bookingId := id
          previousStatus := some found.status
          newStatus := input.newStatus
          changedByUserId := actor.id }
    .ok
      (updated,
        insertAuditLog written
          { actorId := actor.id
            action := "BOOKING_STATUS_CHANGED"
            entityType := "Booking"
            entityId := id
            beforeState := some (statusText found.status)
            afterState := some (statusText updated.status) })

def updateBookingStatus (context : RequestContext)
    (actor : AuthenticatedUser) (id : Uuid)
    (input : UpdateBookingStatusInput) (database : Database) :
    Except TxError BookingRecord × Database :=
  match assertBookingActor actor with
  | .error failure => (.error failure, database)
  | .ok bookingActor =>
      match
        transact
          (updateBookingStatusTransaction context bookingActor id input)
          database with
      | (.ok booking, committed) => (.ok booking, committed)
      | (.error failure, stored) =>
          (.error
              (if isOtherKnownConflict failure then
                bookingError .bookingConflict conflictMessage
              else
                failure),
            stored)

variable {database after : Database} {context : RequestContext}

/-- A completed or cancelled booking is left by no transition. -/
theorem not_allowed_of_terminal {current next : BookingStatus}
    (terminal : current = .completed ∨ current = .cancelled) :
    isTransitionAllowed current next = false := by
  rcases terminal with rfl | rfl <;> simp [isTransitionAllowed, transitionMatrix]

/-- No status lists itself. -/
theorem not_allowed_self (current : BookingStatus) :
    isTransitionAllowed current current = false := by
  cases current <;> decide

theorem updateBookingStatusTransaction_ok {actor : BookingActor} {id : Uuid}
    {input : UpdateBookingStatusInput} {record : BookingRecord}
    (succeeds :
      updateBookingStatusTransaction context actor id input database =
        .ok (record, after)) :
    after = database ∨
      ∃ booking row logs,
        findBy Booking.id id database.ledger.bookings = some booking ∧
          booking.status = input.expectedStatus ∧
          isTransitionAllowed booking.status input.newStatus ∧
          row.bookingId = id ∧
          row.previousStatus = some booking.status ∧
          row.newStatus = input.newStatus ∧
          after =
            { ledger :=
                { database.ledger with
                  bookings :=
                    updateBy Booking.id id
                      (withBookingStatus input.newStatus)
                      database.ledger.bookings }
              statusHistory := database.statusHistory ++ [row]
              auditLogs := database.auditLogs ++ logs } := by
  simp only [updateBookingStatusTransaction, bind_eq_ok, demand_eq_ok,
    findBookingByIdForActor, Option.map_eq_some_iff,
    Option.filter_eq_some_iff] at succeeds
  obtain ⟨found, ⟨booking, ⟨foundBooking, -⟩, rfl⟩, rest⟩ := succeeds
  split at rest
  · simp only [Except.ok.injEq, Prod.mk.injEq] at rest
    exact Or.inl rest.2.symm
  · simp only [bind_eq_ok, require_eq_ok, updateBookingStatusWithHistory,
      Except.ok.injEq] at rest
    obtain ⟨-, expected, -, allowed, written, ⟨-, -, rfl⟩, rest⟩ := rest
    simp only [Prod.mk.injEq] at rest
    obtain ⟨-, rfl⟩ := rest
    right
    exact
      ⟨booking, _, _, foundBooking, expected, allowed, rfl, rfl, rfl, rfl⟩

/-- An update leaves the database alone, or moves one booking along an allowed
transition. -/
theorem updateBookingStatus_after {property : Database → Prop}
    {actor : AuthenticatedUser} {id : Uuid} {input : UpdateBookingStatusInput}
    (silent : property database)
    (commits :
      ∀ bookingActor value after,
        updateBookingStatusTransaction context bookingActor id input
            database =
            .ok (value, after) →
          property after) :
    property (updateBookingStatus context actor id input database).2 := by
  unfold updateBookingStatus
  cases assertBookingActor actor with
  | error failure =>
      exact silent
  | ok bookingActor =>
      cases outcome :
          updateBookingStatusTransaction context bookingActor id input
            database with
      | error failure =>
          dsimp only
          rw [transact_of_error outcome]
          exact silent
      | ok result =>
          dsimp only
          rw [transact_of_ok outcome]
          exact commits bookingActor result.1 result.2 outcome

end Heritage.Bookings
