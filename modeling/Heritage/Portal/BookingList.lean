import Heritage.Bookings.Service
import Heritage.Calendar.DateTime
import Heritage.Portal.ProposalReview

/-!
# The booking pages of a client

`findClientBookingListPage` and `getClientBookingListPage`, and what both
paginated reads of the portal show over all their pages.
-/

namespace Heritage.Portal

open Heritage.Store
open Heritage.Calendar (CalendarDay)
open Heritage.Payments (Booking BookingStatus)
open Heritage.Bookings (bookingError)

/-- A row of `booking` with the columns a client's list shows. -/
structure ListedBooking extends Booking where
  travelStartDate : Option CalendarDay
  travelEndDate : Option CalendarDay
  destination : Option String
  tourPackageName : Option String
  deriving DecidableEq, Repr

structure BookingTables where
  bookings : List ListedBooking
  staffAssignments : List StaffAssignment
  clientProfiles : List ClientProfile

def clientBookingListPageSize : Nat := 10

structure ClientBookingPreviewRow where
  bookingReference : String
  status : BookingStatus
  travelStartDate : Option CalendarDay
  travelEndDate : Option CalendarDay
  destination : Option String
  tourPackageName : Option String
  deriving DecidableEq, Repr

/-- A booking of the client that is no draft. -/
def isListed (clientId : Uuid) (booking : ListedBooking) : Bool :=
  booking.clientId = clientId ∧ booking.status ≠ .draft

def countClientBookings (tables : BookingTables) (clientId : Uuid) : Nat :=
  tables.bookings.countP (isListed clientId)

def listedBookings (tables : BookingTables) (clientId : Uuid) :
    List ListedBooking :=
  newestFirst (fun booking : ListedBooking => booking.createdAt)
    (fun booking => booking.id) (tables.bookings.filter (isListed clientId))

def previewRow (booking : ListedBooking) : ClientBookingPreviewRow where
  bookingReference := booking.bookingReference
  status := booking.status
  travelStartDate := booking.travelStartDate
  travelEndDate := booking.travelEndDate
  destination := booking.destination
  tourPackageName := booking.tourPackageName

def findClientBookingListPage (tables : BookingTables) (clientId : Uuid)
    (skip take : Nat) : List ClientBookingPreviewRow :=
  (((listedBookings tables clientId).drop skip).take take).map previewRow

/-- `CLIENT_BOOKING_STATUS_LABELS`; a draft has no label. -/
def clientBookingStatusLabel : BookingStatus → Option String
  | .draft => none
  | .pendingConfirmation => some "Pending confirmation"
  | .confirmed => some "Confirmed"
  | .inPreparation => some "In preparation"
  | .documentsRequired => some "Documents required"
  | .visaProcessing => some "Visa processing"
  | .readyForTravel => some "Ready for travel"
  | .inProgress => some "Travel in progress"
  | .completed => some "Completed"
  | .cancelled => some "Cancelled"

structure ClientBookingPreviewItem where
  bookingReference : String
  statusLabel : Option String
  travelStartDate : Option CalendarDay
  travelEndDate : Option CalendarDay
  destination : Option String
  tourPackageName : Option String
  deriving DecidableEq, Repr

structure ClientBookingListPage where
  items : List ClientBookingPreviewItem
  page : Nat
  hasNext : Bool
  deriving DecidableEq, Repr

def previewItem (row : ClientBookingPreviewRow) :
    ClientBookingPreviewItem where
  bookingReference := row.bookingReference
  statusLabel := clientBookingStatusLabel row.status
  travelStartDate := row.travelStartDate
  travelEndDate := row.travelEndDate
  destination := row.destination
  tourPackageName := row.tourPackageName

def toClientBookingListPage (rows : List ClientBookingPreviewRow)
    (page : Nat) : ClientBookingListPage :=
  let hasNext := clientBookingListPageSize < rows.length
  let pageRows :=
    if hasNext then rows.take clientBookingListPageSize else rows
  { items := pageRows.map previewItem
    page := page
    hasNext := hasNext }

def assertClientBookingAccess (tables : BookingTables)
    (actor : AuthenticatedUser) (clientId : Uuid) :
    Except Bookings.TxError Unit := do
  require (actor.role = .client)
    (bookingError .roleNotPermitted
      "This role is not permitted to access client portal bookings.")
  require
    (canAccessClient tables.staffAssignments tables.clientProfiles actor
      clientId)
    (bookingError .bookingForbidden
      "Bookings for this client are not accessible.")

def getClientBookingListPage (tables : BookingTables)
    (actor : AuthenticatedUser) (clientId : Uuid) (page : Rat) :
    Except Bookings.TxError (PageResult ClientBookingListPage) := do
  assertClientBookingAccess tables actor clientId
  .ok <|
    readPage clientBookingListPageSize (countClientBookings tables clientId)
      (findClientBookingListPage tables clientId)
      (fun rows number _ => toClientBookingListPage rows number) page

section Pages

variable (tables : BookingTables) (clientId : Uuid)

/-- The rows of a client's list, in the order of the query. -/
def listRows : List ClientBookingPreviewRow :=
  (listedBookings tables clientId).map previewRow

/-- The page that shows these rows. -/
def listPageFor (number : Nat) (rows : List ClientBookingPreviewRow)
    (hasNext : Bool) : ClientBookingListPage where
  items := rows.map previewItem
  page := number
  hasNext := hasNext

theorem length_listRows :
    (listRows tables clientId).length = countClientBookings tables clientId := by
  rw [listRows, List.length_map, listedBookings,
    (newestFirst_perm _ _ _).length_eq]
  exact List.countP_eq_length_filter.symm

/-- Cutting off the row ahead only when it is there is cutting at the page
size. -/
theorem sliced_eq_take (rows : List ClientBookingPreviewRow) :
    (if clientBookingListPageSize < rows.length then
        rows.take clientBookingListPageSize
      else rows) = rows.take clientBookingListPageSize := by
  split
  next =>
    rfl
  next short =>
    exact (List.take_of_length_le (not_lt.mp short)).symm

theorem listPages_showAll
    (counted : (listRows tables clientId).length ≤ maxSafeInteger) :
    ShowsAll clientBookingListPageSize (listRows tables clientId)
      (readPage clientBookingListPageSize
        (countClientBookings tables clientId)
        (findClientBookingListPage tables clientId)
        fun rows number _ => toClientBookingListPage rows number)
      listPageFor := by
  rw [← length_listRows]
  apply readPage_showsAll (by decide) counted
  · intro skip take
    rw [findClientBookingListPage, listRows, List.map_take, List.map_drop]
  · intro number isPage
    unfold toClientBookingListPage listPageFor
    simp only [sliced_eq_take]
    simp only [take_lookAhead,
      lt_length_lookAhead_iff (by decide : 0 < clientBookingListPageSize)
        isPage]

end Pages

/-- The client's rows that a review page may show, and their order. -/
structure ReviewOrder (tables : Proposals.PortalTables) (clientId : Uuid) :
    Prop where
  visible :
    (visibleVersions tables clientId).Perm
      (tables.versions.filter
        (Journeys.clientVisibleVersionBaseWhere tables.toTables clientId))
  ordered :
    (visibleVersions tables clientId).Pairwise fun first second =>
      proposalCreatedAt tables second < proposalCreatedAt tables first ∨
        proposalCreatedAt tables first = proposalCreatedAt tables second ∧
          first.proposalId ≤ second.proposalId

structure ListOrder (tables : BookingTables) (clientId : Uuid) : Prop where
  visible :
    (listedBookings tables clientId).Perm
      (tables.bookings.filter (isListed clientId))
  ordered :
    (listedBookings tables clientId).Pairwise fun first second =>
      second.createdAt < first.createdAt ∨
        first.createdAt = second.createdAt ∧ first.id ≤ second.id

/-- Both paginated reads of the portal show the rows of a client in order,
each on one page, and know which page is the last. -/
theorem client_pages_show_all {proposing : Proposals.PortalTables}
    {booking : BookingTables} {actor : AuthenticatedUser} {clientId : Uuid}
    (seesProposals :
      assertClientPortalAccess proposing actor clientId = .ok ())
    (seesBookings : assertClientBookingAccess booking actor clientId = .ok ())
    (versionsCounted :
      (reviewRows proposing clientId).length ≤ maxSafeInteger)
    (bookingsCounted :
      (listRows booking clientId).length ≤ maxSafeInteger) :
    (ReviewOrder proposing clientId ∧
      ∃ read,
        (∀ page,
          getClientProposalReviewPage proposing actor clientId page =
            .ok (read page)) ∧
        ShowsAll clientProposalReviewPageSize (reviewRows proposing clientId)
          read reviewPageFor) ∧
    ListOrder booking clientId ∧
      ∃ read,
        (∀ page,
          getClientBookingListPage booking actor clientId page =
            .ok (read page)) ∧
        ShowsAll clientBookingListPageSize (listRows booking clientId) read
          listPageFor := by
  refine ⟨⟨⟨?_, ?_⟩, _, ?_, reviewPages_showAll _ _ versionsCounted⟩,
    ⟨?_, ?_⟩, _, ?_, listPages_showAll _ _ bookingsCounted⟩
  · exact newestFirst_perm _ _ _
  · exact newestFirst_pairwise _ _ _
  · intro page
    simp only [getClientProposalReviewPage, seesProposals, ok_bind]
  · exact newestFirst_perm _ _ _
  · exact newestFirst_pairwise _ _ _
  · intro page
    simp only [getClientBookingListPage, seesBookings, ok_bind]

/-- The portal user 5 of client 1, with one published version. -/
def oneReview : Proposals.PortalTables where
  toTables :=
    { Proposals.Tables.empty with
      proposals := [⟨30, 1, 100, 100⟩]
      versions := [⟨31, 30, 1, some "Cebu, 3 days", some 200, none, 4, 100, 200⟩] }
  acceptances := []
  clientProfiles := [⟨20, 5, 1⟩]

theorem unpriced_paired :
    (none : Option Payments.MoneyAmount).isSome =
      (none : Option String).isSome :=
  rfl

/-- Eleven bookings of client 1, one more than a page has. -/
def elevenBookings : BookingTables where
  bookings :=
    (List.range 11).map fun index =>
      { id := index
        clientId := 1
        bookingReference := "BK-" ++ toString index
        status := .confirmed
        totalAmount := none
        currencyCode := none
        createdAt := 7
        paired := unpriced_paired
        travelStartDate := none
        travelEndDate := none
        destination := none
        tourPackageName := none }
  staffAssignments := []
  clientProfiles := [⟨20, 5, 1⟩]

theorem eleven_bookings_show_all :
    (ReviewOrder oneReview 1 ∧
      ∃ read,
        (∀ page,
          getClientProposalReviewPage oneReview ⟨5, .client⟩ 1 page =
            .ok (read page)) ∧
        ShowsAll clientProposalReviewPageSize (reviewRows oneReview 1) read
          reviewPageFor) ∧
    ListOrder elevenBookings 1 ∧
      ∃ read,
        (∀ page,
          getClientBookingListPage elevenBookings ⟨5, .client⟩ 1 page =
            .ok (read page)) ∧
        ShowsAll clientBookingListPageSize (listRows elevenBookings 1) read
          listPageFor :=
  @client_pages_show_all oneReview elevenBookings ⟨5, .client⟩ 1
    (by decide) (by decide)
    (by rw [length_reviewRows]; decide) (by rw [length_listRows]; decide)

end Heritage.Portal
