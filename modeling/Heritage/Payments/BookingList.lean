import Heritage.Payments.Replay
import Heritage.Payments.Summary
import Heritage.Shared.Contact
import Heritage.Store.Paging

/-!
# The list of payment bookings

`listPaymentBookingsForActor` with its filter on the state of the payment
plan.  The four states are separate conditions on all plans of a booking; they
divide the bookings because a booking has at most one active plan.
-/

namespace Heritage.Payments

open Heritage.Store
open Repository

inductive PaymentBookingPlanFilter where
  | none
  | proposed
  | approved
  | withdrawn
  deriving DecidableEq, Repr

structure PaymentBookingHeader where
  id : Uuid
  bookingReference : String
  status : BookingStatus
  clientFullName : Option String
  deriving DecidableEq, Repr

/-- `paymentPlans: { some: … }`. -/
def somePlan (tables : Tables) (bookingId : Uuid)
    (condition : PaymentPlanStatus → Bool) : Bool :=
  tables.paymentPlans.any fun plan =>
    plan.bookingId = bookingId ∧ condition plan.status

def isActiveStatus (status : PaymentPlanStatus) : Bool :=
  status ≠ .withdrawn

def planWhere (tables : Tables)
    (planState : Option PaymentBookingPlanFilter) (bookingId : Uuid) :
    Bool :=
  match planState with
  | some .none => ¬ somePlan tables bookingId fun _ => true
  | some .withdrawn =>
      somePlan tables bookingId (fun status => status = .withdrawn) ∧
        ¬ somePlan tables bookingId isActiveStatus
  | some .proposed =>
      somePlan tables bookingId fun status => status = .proposed
  | some .approved =>
      somePlan tables bookingId fun status => status = .approved
  | .none => true

/-- `contains` is the database's case-insensitive search; an empty search is
none. -/
def searchWhere (contains : String → String → Bool) (search : Option String)
    (booking : Booking) : Bool :=
  match search with
  | .none => true
  | some text => text = "" ∨ contains booking.bookingReference text

structure ListPaymentBookingsInput where
  search : Option String
  planState : Option PaymentBookingPlanFilter
  page : Nat
  pageSize : Nat
  deriving DecidableEq, Repr

structure PaymentBookingPage where
  items : List PaymentBookingHeader
  total : Nat
  deriving DecidableEq, Repr

def selectHeader (clients : List Client) (booking : Booking) :
    PaymentBookingHeader where
  id := booking.id
  bookingReference := booking.bookingReference
  status := booking.status
  clientFullName :=
    (findBy Client.id booking.clientId clients).map Client.fullName

/-- `where`. -/
def isPaymentBooking (contains : String → String → Bool) (tables : Tables)
    (actor : PaymentActor) (search : Option String)
    (planState : Option PaymentBookingPlanFilter) (booking : Booking) :
    Bool :=
  bookingAssignmentFilter tables actor booking.id &&
    planWhere tables planState booking.id &&
    searchWhere contains search booking

def listPaymentBookingsForActor (contains : String → String → Bool)
    (clients : List Client) (tables : Tables) (actor : AuthenticatedUser)
    (input : ListPaymentBookingsInput) :
    Except TxError PaymentBookingPage := do
  let paymentActor ← assertStaffReadActor actor
  let found :=
    tables.bookings.filter
      (isPaymentBooking contains tables paymentActor input.search
        input.planState)
  .ok
    { items :=
        (pageOf input.page input.pageSize
          (latestFirst Booking.createdAt Booking.id found)).map
          (selectHeader clients)
      total := found.length }

section Listed

variable (contains : String → String → Bool) (clients : List Client)
  (tables : Tables) (actor : AuthenticatedUser) (search : Option String)
  (pageSize : Nat)

/-- The booking stands on some page of the list. -/
def Listed (planState : Option PaymentBookingPlanFilter)
    (bookingId : Uuid) : Prop :=
  ∃ page result,
    1 ≤ page ∧
      listPaymentBookingsForActor contains clients tables actor
          ⟨search, planState, page, pageSize⟩ =
        .ok result ∧
      ∃ header ∈ result.items, header.id = bookingId

variable {contains clients tables actor search pageSize}

/-- The pages together show the bookings that the conditions select, to the
roles that may see the list at all. -/
theorem listed_iff {planState : Option PaymentBookingPlanFilter}
    {bookingId : Uuid} :
    Listed contains clients tables actor search pageSize planState bookingId ↔
      0 < pageSize ∧
        ∃ paymentActor, assertStaffReadActor actor = .ok paymentActor ∧
          ∃ booking ∈ tables.bookings,
            booking.id = bookingId ∧
              isPaymentBooking contains tables paymentActor search planState
                booking := by
  unfold Listed listPaymentBookingsForActor
  constructor
  · rintro ⟨page, result, -, read, header, isItem, sameId⟩
    obtain ⟨paymentActor, isActor, built⟩ := bind_eq_ok.mp read
    rw [← Except.ok.inj built] at isItem
    obtain ⟨booking, onPage, rfl⟩ := List.mem_map.mp isItem
    have positive : 0 < pageSize := by
      rcases Nat.eq_zero_or_pos pageSize with zero | positive
      · rw [zero, pageOf, List.take_zero] at onPage
        exact absurd onPage List.not_mem_nil
      · exact positive
    have selected := mem_of_mem_pageOf onPage
    rw [mem_latestFirst, List.mem_filter] at selected
    exact
      ⟨positive, paymentActor, isActor, booking, selected.1, sameId,
        selected.2⟩
  · rintro ⟨positive, paymentActor, isActor, booking, member, sameId,
      selected⟩
    have ordered :
        booking ∈
          latestFirst Booking.createdAt Booking.id
            (tables.bookings.filter
              (isPaymentBooking contains tables paymentActor search
                planState)) := by
      rw [mem_latestFirst, List.mem_filter]
      exact ⟨member, selected⟩
    obtain ⟨page, isPage, onPage⟩ :=
      (mem_iff_exists_page positive).mp ordered
    simp only [isActor, ok_bind, Except.ok.injEq]
    exact
      ⟨page, _, isPage, rfl, _, List.mem_map_of_mem onPage, sameId⟩

/-- What the list shows is stored. -/
theorem exists_booking_of_listed
    {planState : Option PaymentBookingPlanFilter} {bookingId : Uuid}
    (listed :
      Listed contains clients tables actor search pageSize planState
        bookingId) :
    ∃ booking ∈ tables.bookings, booking.id = bookingId := by
  obtain ⟨-, paymentActor, -, booking, member, sameId, -⟩ :=
    listed_iff.mp listed
  exact ⟨booking, member, sameId⟩

end Listed

section States

variable {tables : Tables} {bookingId : Uuid}

theorem somePlan_iff {condition : PaymentPlanStatus → Bool} :
    somePlan tables bookingId condition = true ↔
      ∃ plan ∈ tables.paymentPlans,
        plan.bookingId = bookingId ∧ condition plan.status = true := by
  simp [somePlan]

/-- The plan state that asks for this status. -/
def filterFor : PaymentPlanStatus → PaymentBookingPlanFilter
  | .proposed => .proposed
  | .approved => .approved
  | .withdrawn => .withdrawn

/-- The state the plans of a booking are in. -/
def planStateOf (tables : Tables) (bookingId : Uuid) :
    PaymentBookingPlanFilter :=
  match shownPlan tables bookingId with
  | some plan => filterFor plan.status
  | .none =>
      if somePlan tables bookingId fun _ => true then .withdrawn else .none

/-- While a plan is active, an active status is some plan's status exactly when
it is that plan's. -/
theorem somePlan_status_iff (balanced : Balanced tables) {plan : PaymentPlan}
    (shown : shownPlan tables bookingId = some plan)
    {status : PaymentPlanStatus} (isActive : status ≠ .withdrawn) :
    somePlan tables bookingId (fun other => other = status) = true ↔
      plan.status = status := by
  obtain ⟨member, ofBooking, active⟩ := shownPlan_active shown
  rw [somePlan_iff]
  constructor
  · rintro ⟨other, otherMember, otherBooking, isStatus⟩
    have isStatus : other.status = status := of_decide_eq_true isStatus
    have otherActive : other.status ≠ .withdrawn := by
      rw [isStatus]
      exact isActive
    have same : plan = other :=
      balanced.activePlan_unique member otherMember
        (ofBooking.trans otherBooking.symm) active otherActive
    rw [same]
    exact isStatus
  · intro isStatus
    exact ⟨plan, member, ofBooking, decide_eq_true isStatus⟩

theorem somePlan_active_eq :
    somePlan tables bookingId isActiveStatus =
      (shownPlan tables bookingId).isSome := by
  rw [Bool.eq_iff_iff, somePlan_iff, shownPlan, List.find?_isSome]
  simp [isActiveStatus, isActivePlan]

/-- Without an active plan all plans of the booking are withdrawn. -/
theorem somePlan_of_hidden (hidden : shownPlan tables bookingId = none)
    (status : PaymentPlanStatus) :
    somePlan tables bookingId (fun other => other = status) = true ↔
      status = .withdrawn ∧
        somePlan tables bookingId (fun _ => true) = true := by
  have allWithdrawn :
      ∀ plan ∈ tables.paymentPlans, plan.bookingId = bookingId →
        plan.status = .withdrawn := by
    intro plan member ofBooking
    by_contra active
    exact shownPlan_none hidden plan member ⟨ofBooking, active⟩
  rw [somePlan_iff, somePlan_iff]
  constructor
  · rintro ⟨plan, member, ofBooking, holds⟩
    have isStatus : plan.status = status := of_decide_eq_true holds
    rw [allWithdrawn plan member ofBooking] at isStatus
    exact ⟨isStatus.symm, plan, member, ofBooking, rfl⟩
  · rintro ⟨rfl, plan, member, ofBooking, -⟩
    have isStatus := allWithdrawn plan member ofBooking
    exact ⟨plan, member, ofBooking, decide_eq_true isStatus⟩

/-- The four conditions tell the state of the booking's plans. -/
theorem planWhere_iff (balanced : Balanced tables)
    {planState : PaymentBookingPlanFilter} :
    planWhere tables (some planState) bookingId = true ↔
      planStateOf tables bookingId = planState := by
  have active := @somePlan_active_eq tables bookingId
  cases shown : shownPlan tables bookingId with
  | none =>
      rw [shown, Option.isSome_none] at active
      have ofStatus := somePlan_of_hidden shown
      cases planState <;>
        cases anyPlan : somePlan tables bookingId (fun _ => true) <;>
        simp [planWhere, planStateOf, shown, active, anyPlan, ofStatus]
  | some plan =>
      rw [shown, Option.isSome_some] at active
      obtain ⟨member, ofBooking, isActive⟩ := shownPlan_active shown
      have anyPlan : somePlan tables bookingId (fun _ => true) = true :=
        somePlan_iff.mpr ⟨plan, member, ofBooking, rfl⟩
      have proposed :=
        @somePlan_status_iff _ _ balanced _ shown .proposed (by decide)
      have approved :=
        @somePlan_status_iff _ _ balanced _ shown .approved (by decide)
      cases planState <;> cases isStatus : plan.status <;>
        simp_all [planWhere, planStateOf, filterFor]

end States

/-! ## The lists together -/

section Partition

variable {contains : String → String → Bool} {clients : List Client}
  {tables : Tables} {actor : AuthenticatedUser} {search : Option String}
  {pageSize : Nat} {bookingId : Uuid}

/-- A list with a plan state shows the bookings of the unfiltered list that
are in that state. -/
theorem listed_some_iff (balanced : Balanced tables)
    {planState : PaymentBookingPlanFilter} :
    Listed contains clients tables actor search pageSize (some planState)
        bookingId ↔
      Listed contains clients tables actor search pageSize none bookingId ∧
        planStateOf tables bookingId = planState := by
  rw [listed_iff, listed_iff]
  simp only [isPaymentBooking, Bool.and_eq_true]
  constructor
  · rintro ⟨positive, paymentActor, isActor, booking, member, rfl,
      ⟨assigned, inState⟩, found⟩
    exact
      ⟨⟨positive, paymentActor, isActor, booking, member, rfl,
        ⟨assigned, rfl⟩, found⟩, (planWhere_iff balanced).mp inState⟩
  · rintro ⟨⟨positive, paymentActor, isActor, booking, member, rfl,
      ⟨assigned, -⟩, found⟩, inState⟩
    exact
      ⟨positive, paymentActor, isActor, booking, member, rfl,
        ⟨assigned, (planWhere_iff balanced).mpr inState⟩, found⟩

/-- The payment summary of the booking has a plan with this status. -/
def ReportsPlan (tables : Tables) (bookingId : Uuid)
    (status : PaymentPlanStatus) : Prop :=
  ∃ data plan,
    findBookingPaymentSummaryData tables bookingId = some data ∧
      data.plan = some plan ∧ plan.status = status

theorem reportsPlan_iff
    (stored : ∃ booking ∈ tables.bookings, booking.id = bookingId)
    {status : PaymentPlanStatus} :
    ReportsPlan tables bookingId status ↔
      ∃ plan, shownPlan tables bookingId = some plan ∧
        plan.status = status := by
  obtain ⟨booking, found⟩ :=
    Option.isSome_iff_exists.mp (findBy_isSome_iff.mpr stored)
  unfold ReportsPlan findBookingPaymentSummaryData
  rw [found]
  simp [summaryPlan, shownPlan]

theorem planStateOf_eq_filterFor_iff {status : PaymentPlanStatus}
    (isActive : status ≠ .withdrawn) :
    planStateOf tables bookingId = filterFor status ↔
      ∃ plan, shownPlan tables bookingId = some plan ∧
        plan.status = status := by
  unfold planStateOf
  cases shown : shownPlan tables bookingId with
  | none =>
      cases somePlan tables bookingId (fun _ => true) <;>
        cases status <;> simp_all [filterFor]
  | some plan =>
      cases isStatus : plan.status <;> cases status <;>
        simp_all [filterFor]

/-- Within the list the filter for an active status asks what the summary
reports. -/
theorem listed_filterFor_iff (balanced : Balanced tables)
    {status : PaymentPlanStatus} (isActive : status ≠ .withdrawn)
    (listed :
      Listed contains clients tables actor search pageSize none bookingId) :
    Listed contains clients tables actor search pageSize
        (some (filterFor status)) bookingId ↔
      ReportsPlan tables bookingId status := by
  rw [listed_some_iff balanced, planStateOf_eq_filterFor_iff isActive,
    reportsPlan_iff (exists_booking_of_listed listed)]
  exact and_iff_right listed

end Partition

/-- The plan states divide the list of payment bookings, and proposed and
approved are what the booking's payment summary reports. -/
theorem plan_states_divide_bookings (contains : String → String → Bool)
    (clients : List Client) (requests : List Request)
    (actor : AuthenticatedUser) (search : Option String) (pageSize : Nat)
    (bookingId : Uuid) :
    (Listed contains clients (tablesAfter requests) actor search pageSize none
          bookingId ↔
        ∃ planState,
          Listed contains clients (tablesAfter requests) actor search pageSize
            (some planState) bookingId) ∧
      (∀ left right,
        Listed contains clients (tablesAfter requests) actor search pageSize
            (some left) bookingId →
          Listed contains clients (tablesAfter requests) actor search pageSize
              (some right) bookingId →
            left = right) ∧
      (Listed contains clients (tablesAfter requests) actor search pageSize
          none bookingId →
        (Listed contains clients (tablesAfter requests) actor search pageSize
              (some .proposed) bookingId ↔
            ReportsPlan (tablesAfter requests) bookingId .proposed) ∧
          (Listed contains clients (tablesAfter requests) actor search
                pageSize (some .approved) bookingId ↔
              ReportsPlan (tablesAfter requests) bookingId .approved)) := by
  have balanced := balanced_tablesAfter requests
  refine ⟨?_, ?_, ?_⟩
  · constructor
    · intro listed
      exact ⟨_, (listed_some_iff balanced).mpr ⟨listed, rfl⟩⟩
    · rintro ⟨planState, listed⟩
      exact ((listed_some_iff balanced).mp listed).1
  · intro left right listedLeft listedRight
    have isLeft := ((listed_some_iff balanced).mp listedLeft).2
    have isRight := ((listed_some_iff balanced).mp listedRight).2
    exact isLeft.symm.trans isRight
  · intro listed
    have proposed : PaymentPlanStatus.proposed ≠ .withdrawn := by decide
    have approved : PaymentPlanStatus.approved ≠ .withdrawn := by decide
    exact
      ⟨listed_filterFor_iff balanced proposed listed,
        listed_filterFor_iff balanced approved listed⟩

def planner : AuthenticatedUser := ⟨2, .travelConsultant⟩

def plannerInput : ProposePaymentPlanInput :=
  ⟨10, [⟨1, true, bookingTotal, 5⟩]⟩

/-- The planner's first plan was withdrawn, the second one is proposed. -/
def secondPlanProposed : List Request :=
  [.bookingAdded cashierBooking,
    .assignmentsChanged
      [{ id := 6
         assignedStaffId := 2
         role := .travelConsultant
         assignedByUserId := 3
         leadId := none
         clientId := none
         bookingId := some 10
         endedAt := none }],
    .operation (contextOf 1) planner (.proposePaymentPlan plannerInput),
    .operation (contextOf 2) planner (.withdrawPaymentPlan ⟨100, "late"⟩),
    .operation (contextOf 3) planner (.proposePaymentPlan plannerInput)]

theorem second_plan_listed_as_proposed :
    Listed (fun _ _ => false) [] (tablesAfter secondPlanProposed) planner none
        20 (some .proposed) 10 ∧
      ¬ Listed (fun _ _ => false) [] (tablesAfter secondPlanProposed) planner
          none 20 (some .withdrawn) 10 := by
  have listed :
      Listed (fun _ _ => false) [] (tablesAfter secondPlanProposed) planner
        none 20 (some .proposed) 10 :=
    listed_iff.mpr
      ⟨by decide, _, rfl, cashierBooking, by decide +kernel, rfl,
        by decide +kernel⟩
  refine ⟨listed, ?_⟩
  intro withdrawn
  have same :=
    (plan_states_divide_bookings (fun _ _ => false) [] secondPlanProposed
      planner none 20 10).2.1 _ _ listed withdrawn
  exact absurd same (by decide)

end Heritage.Payments
