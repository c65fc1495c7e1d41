import Heritage.Journeys.Bookings
import Heritage.Store.Grouping

/-!
# The travel status of a client

The facts that `features/client-portal` reads of a client's proposals and
bookings, and the two lines `travel-status.ts` derives from them.
-/

namespace Heritage.Journeys

open Heritage.Store
open Heritage.Proposals
open Heritage.Bookings
open Heritage.Payments (Booking BookingStatus)

structure ClientProposalFacts where
  currentVisibleTotal : Nat
  awaitingResponse : Nat
  accepted : Nat
  acceptedWithoutClientVisibleBooking : Nat
  respondedNonAccept : Nat
  deriving DecidableEq, Repr

def clientVisibleVersionBaseWhere (tables : Tables) (clientId : Uuid)
    (version : ProposalVersion) : Bool :=
  (findBy Proposal.id version.proposalId tables.proposals).any
      (fun proposal => proposal.clientId = clientId) &&
    version.clientVisibleAt.isSome && version.supersededAt.isNone

/-- `acceptance: { is: null }`. -/
def isUnanswered (database : Database) (version : ProposalVersion) : Bool :=
  database.proposing.acceptances.all fun acceptance =>
    acceptance.proposalVersionId ≠ version.id

/-- `acceptance: { is: { responseType: { in: types } } }`. -/
def isAnsweredBy (database : Database) (types : List ProposalResponseType)
    (version : ProposalVersion) : Bool :=
  database.proposing.acceptances.any fun acceptance =>
    acceptance.proposalVersionId = version.id ∧
      acceptance.responseType ∈ types

/-- No booking of the version, or one in `DRAFT`. -/
def isWithoutClientVisibleBooking (database : Database)
    (version : ProposalVersion) : Bool :=
  bookingsOfVersion database version.id = [] ∨
    (bookingsOfVersion database version.id).any fun booking =>
      booking.status = .draft

def findClientProposalFacts (database : Database) (clientId : Uuid) :
    ClientProposalFacts :=
  let base :=
    clientVisibleVersionBaseWhere database.proposing.toTables clientId
  let versions := database.proposing.versions
  { currentVisibleTotal := versions.countP base
    awaitingResponse :=
      versions.countP fun version =>
        base version && isUnanswered database version
    accepted :=
      versions.countP fun version =>
        base version && isAnsweredBy database [.accept] version
    acceptedWithoutClientVisibleBooking :=
      versions.countP fun version =>
        base version && isAnsweredBy database [.accept] version &&
          isWithoutClientVisibleBooking database version
    respondedNonAccept :=
      versions.countP fun version =>
        base version &&
          isAnsweredBy database [.decline, .requestChanges] version }

def nonDraftBookingStatuses : List BookingStatus :=
  [.pendingConfirmation, .confirmed, .inPreparation, .documentsRequired,
    .visaProcessing, .readyForTravel, .inProgress, .completed, .cancelled]

structure ClientBookingFacts where
  byStatus : Entries BookingStatus Nat
  deriving DecidableEq, Repr

/-- `byStatus[status] ?? 0`. -/
def ClientBookingFacts.count (facts : ClientBookingFacts)
    (status : BookingStatus) : Nat :=
  (facts.byStatus.get status).getD 0

def emptyByStatus : Entries BookingStatus Nat :=
  nonDraftBookingStatuses.foldl (fun record status => record.set status 0) []

/-- The client's bookings outside `DRAFT`, counted by status. -/
def groupClientBookings (database : Database) (clientId : Uuid) :
    Entries BookingStatus Nat :=
  let visible :=
    database.bookings.filter fun booking =>
      booking.clientId = clientId ∧ booking.status ≠ .draft
  (visible.map Booking.status).dedup.map fun status =>
    (status, visible.countP fun booking => booking.status = status)

def findClientBookingFacts (database : Database) (clientId : Uuid) :
    ClientBookingFacts where
  byStatus :=
    (groupClientBookings database clientId).foldl
      (fun byStatus row =>
        if row.1 ≠ .draft then byStatus.set row.1 row.2 else byStatus)
      emptyByStatus

inductive ProposalLineState where
  | proposalsAwaitingYou
  | responseRecorded
  deriving DecidableEq, Repr

inductive ProgressLineState where
  | bookingPendingConfirmation
  | bookingConfirmed
  | tripInPreparation
  | documentsRequired
  | visaInProgress
  | readyForTravel
  | tripInProgress
  | proposalAcceptedAwaitingBooking
  | tripCompleted
  | proposalInReview
  | noActiveBooking
  | awaitingFirstProposal
  deriving DecidableEq, Repr

structure TravelStatus where
  proposalLine : Option ProposalLineState
  progressLine : ProgressLineState
  deriving DecidableEq, Repr

/-- `ACTIVE_ORDINAL`. -/
def activeOrdinal : List (BookingStatus × Nat) :=
  [(.pendingConfirmation, 1), (.confirmed, 2), (.inPreparation, 3),
    (.documentsRequired, 4), (.visaProcessing, 5), (.readyForTravel, 6),
    (.inProgress, 7)]

def deriveProposalLine (facts : ClientProposalFacts) :
    Option ProposalLineState :=
  if facts.awaitingResponse > 0 then
    some .proposalsAwaitingYou
  else if facts.respondedNonAccept > 0 then
    some .responseRecorded
  else
    none

/-- The number of active bookings and the highest ordinal among them. -/
structure ActiveBookings where
  activeCount : Nat
  peakActiveOrdinal : Nat
  deriving DecidableEq, Repr

def countActive (facts : ClientBookingFacts) (found : ActiveBookings)
    (entry : BookingStatus × Nat) : ActiveBookings :=
  if facts.count entry.1 > 0 then
    { activeCount := found.activeCount + facts.count entry.1
      peakActiveOrdinal :=
        if entry.2 > found.peakActiveOrdinal then entry.2
        else found.peakActiveOrdinal }
  else
    found

def activeBookings (facts : ClientBookingFacts) : ActiveBookings :=
  activeOrdinal.foldl (countActive facts) ⟨0, 0⟩

/-- Rules 1 to 7. -/
def activeLine : Nat → Option ProgressLineState
  | 1 => some .bookingPendingConfirmation
  | 2 => some .bookingConfirmed
  | 3 => some .tripInPreparation
  | 4 => some .documentsRequired
  | 5 => some .visaInProgress
  | 6 => some .readyForTravel
  | 7 => some .tripInProgress
  | _ => none

/-- Rules 8 to 12. -/
def deriveQuietLine (proposalFacts : ClientProposalFacts)
    (bookingFacts : ClientBookingFacts) : ProgressLineState :=
  let completedCount := bookingFacts.count .completed
  let cancelledCount := bookingFacts.count .cancelled
  if proposalFacts.acceptedWithoutClientVisibleBooking > 0 then
    .proposalAcceptedAwaitingBooking
  else if completedCount > 0 ∧ proposalFacts.awaitingResponse = 0 then
    .tripCompleted
  else if proposalFacts.awaitingResponse > 0 then
    .proposalInReview
  else if completedCount = 0 ∧
      (cancelledCount > 0 ∨ proposalFacts.respondedNonAccept > 0) then
    .noActiveBooking
  else
    .awaitingFirstProposal

def deriveProgressLine (proposalFacts : ClientProposalFacts)
    (bookingFacts : ClientBookingFacts) : ProgressLineState :=
  let active := activeBookings bookingFacts
  if active.activeCount > 0 then
    (activeLine active.peakActiveOrdinal).getD
      (deriveQuietLine proposalFacts bookingFacts)
  else
    deriveQuietLine proposalFacts bookingFacts

def deriveTravelStatus (proposalFacts : ClientProposalFacts)
    (bookingFacts : ClientBookingFacts) : TravelStatus where
  proposalLine := deriveProposalLine proposalFacts
  progressLine := deriveProgressLine proposalFacts bookingFacts

/-- The status of a client as the portal derives it. -/
def travelStatus (database : Database) (clientId : Uuid) : TravelStatus :=
  deriveTravelStatus (findClientProposalFacts database clientId)
    (findClientBookingFacts database clientId)

end Heritage.Journeys
