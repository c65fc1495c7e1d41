import Heritage.Bookings.Service
import Heritage.Proposals.Responses

/-!
# Creating a booking

`createBooking` of `features/bookings`, over the proposals it reads and the
bookings it writes.  The ledger's bookings have no `proposalVersionId`; that
column stands beside them.
-/

namespace Heritage.Journeys

open Heritage.Store
open Heritage.Proposals
open Heritage.Bookings
open Heritage.Payments (Booking BookingStatus)

/-- The column `proposalVersionId` of a row of `booking`. -/
structure BookingSource where
  bookingId : Uuid
  proposalVersionId : Uuid
  deriving DecidableEq, Repr

structure AuditBookingSnapshot where
  id : Uuid
  bookingReference : String
  clientId : Uuid
  proposalVersionId : Uuid
  status : String
  deriving DecidableEq, Repr

/-- An entry about a new booking. -/
structure BookingCreatedAuditLog where
  actorId : Uuid
  action : String
  entityType : String
  entityId : Uuid
  afterState : AuditBookingSnapshot
  deriving DecidableEq, Repr

/-- The proposals with their responses, and the bookings made from them.  Both
parts hold the one table of staff assignments. -/
structure Database where
  proposing : PortalTables
  booking : Bookings.Database
  sources : List BookingSource
  creationLogs : List BookingCreatedAuditLog
  deriving DecidableEq, Repr

/-- No row in any table. -/
def Database.empty : Database where
  proposing := PortalTables.empty
  booking := Bookings.Database.empty
  sources := []
  creationLogs := []

/-- The rows of `booking`. -/
def Database.bookings (database : Database) : List Booking :=
  database.booking.ledger.bookings

/-- `BOOKING_SELECT` with the version the booking was made from. -/
structure CreatedBookingRecord extends BookingRecord where
  proposalVersionId : Uuid
  deriving DecidableEq, Repr

def findBookingByProposalVersionIdForActor (database : Database)
    (actor : BookingActor) (proposalVersionId : Uuid) :
    Option CreatedBookingRecord := do
  let source ←
    findBy BookingSource.proposalVersionId proposalVersionId database.sources
  let booking ←
    (findBy Booking.id source.bookingId database.bookings).filter
      fun booking =>
        Bookings.clientAssignmentFilter
          database.booking.ledger.staffAssignments actor booking.clientId
  some ⟨selectBooking booking, source.proposalVersionId⟩

structure ProposalVersionEligibility where
  id : Uuid
  clientId : Uuid
  hasAcceptedAcceptance : Bool
  deriving DecidableEq, Repr

def findEligibleProposalVersionForActor (tables : PortalTables)
    (actor : BookingActor) (proposalVersionId : Uuid) :
    Option ProposalVersionEligibility := do
  let found ← findBy ProposalVersion.id proposalVersionId tables.versions
  let proposal ←
    (findBy Proposal.id found.proposalId tables.proposals).filter
      fun proposal =>
        Bookings.clientAssignmentFilter tables.staffAssignments actor
          proposal.clientId
  some
    { id := found.id
      clientId := proposal.clientId
      hasAcceptedAcceptance :=
        (findProposalAcceptanceForVersion tables found.id).any
          fun acceptance => acceptance.responseType = .accept }

structure CreateBookingRow where
  id : Uuid
  bookingReference : String
  clientId : Uuid
  proposalVersionId : Uuid
  changedByUserId : Uuid

/-- A booking in `DRAFT` with the first row of its history, under the unique
id, reference and version. -/
def createBookingWithInitialHistory (database : Database)
    (context : RequestContext) (input : CreateBookingRow) :
    Except Bookings.TxError (CreatedBookingRecord × Database) := do
  let booking : Booking :=
    { id := input.id
      clientId := input.clientId
      bookingReference := input.bookingReference
      status := .draft
      totalAmount := none
      currencyCode := none
      createdAt := context.now
      paired := rfl }
  let history : BookingStatusHistory :=
    { id := context.randomUuid 1
      bookingId := input.id
      previousStatus := none
      newStatus := .draft
      changedByUserId := input.changedByUserId }
  require (findBy Booking.id booking.id database.bookings).isNone
    (.uniqueViolation "Booking" ["id"])
  require
    (findBy Booking.bookingReference booking.bookingReference
      database.bookings).isNone
    (.uniqueViolation "Booking" ["bookingReference"])
  require
    (findBy BookingSource.proposalVersionId input.proposalVersionId
      database.sources).isNone
    (.uniqueViolation "Booking" ["proposalVersionId"])
  require
    (findBy BookingStatusHistory.id history.id
      database.booking.statusHistory).isNone
    (.uniqueViolation "Booking" ["id"])
  .ok
    (⟨selectBooking booking, input.proposalVersionId⟩,
      { database with
        booking :=
          { database.booking with
            ledger :=
              { database.booking.ledger with
                bookings := database.bookings ++ [booking] }
            statusHistory := database.booking.statusHistory ++ [history] }
        sources :=
          database.sources ++ [⟨booking.id, input.proposalVersionId⟩] })

def sanitizeBookingSnapshot (record : CreatedBookingRecord) :
    AuditBookingSnapshot where
  id := record.id
  bookingReference := record.bookingReference
  clientId := record.clientId
  proposalVersionId := record.proposalVersionId
  status := statusText record.status

structure CreateBookingInput where
  proposalVersionId : Uuid
  deriving DecidableEq

structure CreateBookingResult where
  booking : CreatedBookingRecord
  created : Bool
  deriving DecidableEq, Repr

def bookingReferencePrefix : String := "HPB-"

def maxBookingReferenceAttempts : Nat := 3

/-- What one attempt draws from outside the database; `randomHex` is the
upper-case text of ten random bytes. -/
structure AttemptContext extends RequestContext where
  randomHex : String

def generateBookingReference (context : AttemptContext) : String :=
  bookingReferencePrefix ++ context.randomHex

def proposalVersionNotFoundOrForbidden (actor : BookingActor) :
    Bookings.TxError :=
  match actor.role with
  | .adminManager =>
      bookingError .proposalVersionNotFound "Proposal version not found."
  | .travelConsultant =>
      bookingError .proposalVersionForbidden
        "Proposal version not found or not accessible."

def notAcceptedMessage : String :=
  "A booking can only be created from a proposal version the client has " ++
    "accepted."

def attemptCreateBooking (context : AttemptContext) (actor : BookingActor)
    (input : CreateBookingInput) (database : Database) :
    Except Bookings.TxError (CreateBookingResult × Database) :=
  match
    findBookingByProposalVersionIdForActor database actor
      input.proposalVersionId
  with
  | some existing => .ok (⟨existing, false⟩, database)
  | none => do
      let eligible ←
        demand
          (findEligibleProposalVersionForActor database.proposing actor
            input.proposalVersionId)
          (proposalVersionNotFoundOrForbidden actor)
      require eligible.hasAcceptedAcceptance
        (bookingError .proposalVersionNotAccepted notAcceptedMessage)
      let (created, written) ←
        createBookingWithInitialHistory database context.toRequestContext
          { id := context.randomUuid 0
            bookingReference := generateBookingReference context
            clientId := eligible.clientId
            proposalVersionId := input.proposalVersionId
            changedByUserId := actor.id }
      .ok
        (⟨created, true⟩,
          { written with
            creationLogs :=
              written.creationLogs ++
                [{ actorId := actor.id
                   action := "BOOKING_CREATED"
                   entityType := "Booking"
                   entityId := created.id
                   afterState := sanitizeBookingSnapshot created }] })

/-- What a call does with the outcome of an attempt. -/
inductive CreateBookingOutcome where
  | returned (result : CreateBookingResult)
  | thrown (failure : Bookings.TxError)
  | tryAgain
  | readRaced
  deriving DecidableEq, Repr

def referenceConflictMessage : String :=
  "Could not generate a unique booking reference. Please try again."

/-- The `catch` of the attempt with this number. -/
def caughtCreation (number : Nat) (failure : Bookings.TxError) :
    CreateBookingOutcome :=
  if failure = .uniqueViolation "Booking" ["bookingReference"] then
    if number < maxBookingReferenceAttempts then
      .tryAgain
    else
      .thrown (bookingError .bookingConflict referenceConflictMessage)
  else if failure = .uniqueViolation "Booking" ["proposalVersionId"] then
    .readRaced
  else if isOtherKnownConflict failure then
    .thrown (bookingError .bookingConflict conflictMessage)
  else
    .thrown failure

/-- One attempt of a call: its transaction, and what becomes of it. -/
def createBookingAttempt (context : AttemptContext) (actor : BookingActor)
    (input : CreateBookingInput) (number : Nat) (database : Database) :
    CreateBookingOutcome × Database :=
  match transact (attemptCreateBooking context actor input) database with
  | (.ok result, committed) => (.returned result, committed)
  | (.error failure, stored) => (caughtCreation number failure, stored)

/-- The read after an attempt that lost the race for its version. -/
def readRacedBooking (actor : BookingActor) (input : CreateBookingInput)
    (database : Database) : CreateBookingOutcome :=
  match
    findBookingByProposalVersionIdForActor database actor
      input.proposalVersionId
  with
  | some raced => .returned ⟨raced, false⟩
  | none => .thrown (bookingError .bookingConflict conflictMessage)

/-- One committed booking. -/
structure Creation (database : Database) (versionId : Uuid)
    (booking : Booking) (history : BookingStatusHistory)
    (after : Database) : Prop where
  freshId : findBy Booking.id booking.id database.bookings = none
  freshVersion :
    findBy BookingSource.proposalVersionId versionId database.sources = none
  draft : booking.status = .draft
  ofBooking : history.bookingId = booking.id
  fromNothing : history.previousStatus = none
  toDraft : history.newStatus = .draft
  accepted :
    ∃ acceptance,
      findProposalAcceptanceForVersion database.proposing versionId =
          some acceptance ∧
        acceptance.responseType = .accept
  ownClient :
    versionClient database.proposing.toTables versionId =
      some booking.clientId
  written :
    ∃ logs,
      after =
        { database with
          booking :=
            { database.booking with
              ledger :=
                { database.booking.ledger with
                  bookings := database.bookings ++ [booking] }
              statusHistory := database.booking.statusHistory ++ [history] }
          sources := database.sources ++ [⟨booking.id, versionId⟩]
          creationLogs := logs }

/-- An attempt that succeeds found a booking of its version and wrote nothing,
or made the first one of an accepted version. -/
theorem attemptCreateBooking_ok {context : AttemptContext}
    {actor : BookingActor} {input : CreateBookingInput}
    {database after : Database} {result : CreateBookingResult}
    (succeeds :
      attemptCreateBooking context actor input database =
        .ok (result, after)) :
    (findBookingByProposalVersionIdForActor database actor
          input.proposalVersionId =
        some result.booking ∧
      result.created = false ∧ after = database) ∨
      ∃ booking history,
        result =
            ⟨⟨selectBooking booking, input.proposalVersionId⟩, true⟩ ∧
          Creation database input.proposalVersionId booking history after := by
  unfold attemptCreateBooking at succeeds
  cases existing :
      findBookingByProposalVersionIdForActor database actor
        input.proposalVersionId with
  | some found =>
      simp only [existing, Except.ok.injEq, Prod.mk.injEq] at succeeds
      obtain ⟨rfl, rfl⟩ := succeeds
      exact Or.inl ⟨rfl, rfl, rfl⟩
  | none =>
      simp only [existing, bind_eq_ok, demand_eq_ok,
        findEligibleProposalVersionForActor, Option.bind_eq_bind,
        Option.bind_eq_some_iff, Option.filter_eq_some_iff,
        Option.some.injEq, require_eq_ok, createBookingWithInitialHistory,
        Option.isNone_iff_eq_none] at succeeds
      obtain
        ⟨eligible, ⟨version, foundVersion, proposal, ⟨foundProposal, -⟩, rfl⟩,
          -, accepted, ⟨created, written⟩,
          ⟨-, freshId, -, -, -, freshVersion, -, -, creates⟩, answered⟩ :=
        succeeds
      simp only [Except.ok.injEq, Prod.mk.injEq] at creates answered
      obtain ⟨rfl, rfl⟩ := creates
      obtain ⟨rfl, rfl⟩ := answered
      have sameKey : version.id = input.proposalVersionId :=
        key_of_findBy foundVersion
      obtain ⟨acceptance, foundAcceptance, isAccept⟩ :=
        (Option.any_eq_true ..).mp accepted
      have ownClient :
          versionClient database.proposing.toTables input.proposalVersionId =
            some proposal.clientId := by
        simp only [versionClient, findProposalVersionContext,
          Option.bind_eq_bind, foundVersion, foundProposal, Option.bind_some,
          Option.map_some]
      rw [sameKey] at foundAcceptance
      exact
        Or.inr
          ⟨_, _, rfl, freshId, freshVersion, rfl, rfl, rfl, rfl,
            ⟨acceptance, foundAcceptance, of_decide_eq_true isAccept⟩,
            ownClient, _, rfl⟩

end Heritage.Journeys
