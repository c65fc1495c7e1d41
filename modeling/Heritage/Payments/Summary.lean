import Heritage.Payments.Capacity
import Heritage.Payments.Plans

/-!
# The booking payment summary ties out

The summary computes each figure from its own rows.  On the tables the
service reaches, the figures agree: what is paid is what is allocated plus
the unapplied credit, and an approved plan's outstanding amounts are the
remaining balance up to that credit.
-/

namespace Heritage.Payments

open Heritage.Store
open Repository

theorem computeNetConfirmedAmountPaid_eq
    (payments : List PaymentForCalculation) :
    computeNetConfirmedAmountPaid payments =
      (payments.map computeNetContribution).sum := by
  unfold computeNetConfirmedAmountPaid
  rw [foldl_add_eq_sum, zero_add]

/-- What one allocation adds to its installment. -/
def activeWeight (allocation : ActiveAllocationForCalculation) : Int :=
  if allocation.isReversed then
    0
  else if allocation.paymentStatus.counts then
    allocation.amount - allocation.refundAllocatedTotal
  else
    0

theorem computeNetActiveAllocation_eq
    (allocations : List ActiveAllocationForCalculation) :
    computeNetActiveAllocation allocations =
      (allocations.map activeWeight).sum := by
  have oneAllocation :
      ∀ (total : Int) (allocation : ActiveAllocationForCalculation),
        (if allocation.isReversed then
          total
        else if allocation.paymentStatus ≠ .confirmed ∧
            allocation.paymentStatus ≠ .refunded then
          total
        else
          total + allocation.amount - allocation.refundAllocatedTotal) =
          total + activeWeight allocation := by
    intro total allocation
    unfold activeWeight PaymentStatus.counts
    cases allocation.isReversed <;>
      cases allocation.paymentStatus <;>
        simp [add_sub_assoc]
  unfold computeNetActiveAllocation
  simp only [oneAllocation]
  rw [foldl_add_eq_sum, zero_add]

theorem computeUnappliedCredit_eq (paid : Int) (active : List Int) :
    computeUnappliedCredit paid active = paid - active.sum := by
  have total :
      active.foldl (fun sum allocation => sum + allocation) 0 =
        active.sum := by
    simpa using foldl_add_eq_sum id active 0
  simp only [computeUnappliedCredit, total]

/-- Sorting the rows does not change a sum over them. -/
theorem sum_map_mergeSort {ρ : Type*} (weight : ρ → Int) (rows : List ρ)
    (before : ρ → ρ → Bool) :
    ((rows.mergeSort before).map weight).sum = (rows.map weight).sum :=
  ((List.mergeSort_perm rows before).map weight).sum_eq

/-- A fallible loop over checks that all pass. -/
theorem forM_eq_ok {ε ρ : Type} {rows : List ρ} {check : ρ → Except ε Unit}
    (passes : ∀ row ∈ rows, check row = .ok ()) :
    rows.forM check = .ok () := by
  induction rows with
  | nil =>
      rfl
  | cons head tail inductionHypothesis =>
      have tailPasses : tail.forM check = .ok () :=
        inductionHypothesis fun row member =>
          passes row (List.mem_cons_of_mem _ member)
      simp only [List.forM, passes head List.mem_cons_self]
      exact tailPasses

variable {tables : Tables}

/-- The payments of a booking. -/
def paymentsOf (tables : Tables) (bookingId : Uuid) : List Payment :=
  tables.payments.filter fun payment => payment.bookingId = bookingId

/-- The installments of a plan. -/
def installmentsOf (tables : Tables) (paymentPlanId : Uuid) :
    List Installment :=
  tables.installments.filter
    fun installment => installment.paymentPlanId = paymentPlanId

/-- What a payment contributes to its booking. -/
def contribution (tables : Tables) (payment : Payment) : Int :=
  if payment.status.counts then
    payment.amount.value - sumRefundsForPayment tables payment.id
  else
    0

/-- The allocation's payment was made for the booking. -/
def ofBooking (tables : Tables) (bookingId : Uuid)
    (allocation : PaymentAllocation) : Bool :=
  (findBy Payment.id allocation.paymentId tables.payments).any
    fun payment => payment.bookingId = bookingId

/-- Net active allocations of the payments of a booking. -/
def netActiveOfBooking (tables : Tables) (bookingId : Uuid) : Int :=
  ((tables.allocations.filter (ofBooking tables bookingId)).map
    (countedWeight tables)).sum

theorem summaryPayment_refundedTotal (payment : Payment) :
    (summaryPayment tables payment).refundedTotal =
      sumRefundsForPayment tables payment.id := by
  simp only [summaryPayment]
  rw [foldl_add_eq_sum, zero_add]
  rfl

theorem summaryPayment_contribution (solvent : Solvent tables)
    {payment : Payment} (member : payment ∈ tables.payments) :
    computeNetContribution
        { status := (summaryPayment tables payment).status
          amount := (summaryPayment tables payment).amount.value
          refundedTotal := (summaryPayment tables payment).refundedTotal } =
      contribution tables payment := by
  rw [summaryPayment_refundedTotal]
  exact
    computeNetContribution_eq (solvent.payments payment member).refundsWithin

theorem activeWeight_summaryAllocation (allocation : PaymentAllocation) :
    activeWeight
        (summaryAllocation tables allocation).toActiveAllocationForCalculation =
      countedWeight tables allocation := by
  unfold activeWeight countedWeight netWeight isCounted summaryAllocation
  simp only [refundAllocatedTotal_eq]
  cases findBy Payment.id allocation.paymentId tables.payments with
  | none =>
      cases isReversed tables allocation.id <;>
        simp [PaymentStatus.counts]
  | some payment =>
      cases isReversed tables allocation.id <;>
        cases payment.status.counts <;>
          simp_all

theorem netActiveAllocation_summaryInstallment (installment : Installment) :
    netActiveAllocation (summaryInstallment tables installment) =
      netActiveOfInstallment tables installment.id := by
  have sameWeight :
      (activeWeight ∘ SummaryAllocation.toActiveAllocationForCalculation) ∘
          summaryAllocation tables =
        countedWeight tables := by
    funext allocation
    exact activeWeight_summaryAllocation allocation
  unfold netActiveAllocation summaryInstallment
  rw [computeNetActiveAllocation_eq, List.map_map, List.map_map, sameWeight,
    sum_map_mergeSort]
  rfl

theorem ofBooking_iff_payment (integrity : Integrity tables)
    {bookingId : Uuid} {allocation : PaymentAllocation} :
    ofBooking tables bookingId allocation ↔
      allocation.paymentId ∈ (paymentsOf tables bookingId).map Payment.id := by
  constructor
  · intro own
    obtain ⟨payment, found, sameBooking⟩ := (Option.any_eq_true ..).mp own
    refine List.mem_map.mpr ⟨payment, ?_, key_of_findBy found⟩
    exact List.mem_filter.mpr ⟨mem_of_findBy found, sameBooking⟩
  · intro listed
    obtain ⟨payment, member, sameId⟩ := List.mem_map.mp listed
    obtain ⟨stored, sameBooking⟩ := List.mem_filter.mp member
    have found := findBy_of_mem integrity.paymentIds stored
    rw [sameId] at found
    exact (Option.any_eq_true ..).mpr ⟨payment, found, sameBooking⟩

/-- Towards a booking, allocations can be counted by its payments. -/
theorem netActiveOfBooking_by_payments (integrity : Integrity tables)
    (bookingId : Uuid) :
    netActiveOfBooking tables bookingId =
      ((paymentsOf tables bookingId).map fun payment =>
        groupSum PaymentAllocation.paymentId (countedWeight tables)
          payment.id tables.allocations).sum := by
  have distinct : ((paymentsOf tables bookingId).map Payment.id).Nodup :=
    integrity.paymentIds.sublist (List.filter_sublist.map _)
  have byIds :
      (((paymentsOf tables bookingId).map Payment.id).map fun paymentId =>
        groupSum PaymentAllocation.paymentId (countedWeight tables)
          paymentId tables.allocations).sum =
        ((tables.allocations.filter fun allocation =>
          decide (allocation.paymentId ∈
            (paymentsOf tables bookingId).map Payment.id)).map
          (countedWeight tables)).sum :=
    sum_groupSum distinct
  rw [List.map_map] at byIds
  refine Eq.trans ?_ byIds.symm
  unfold netActiveOfBooking
  congr 2
  apply List.filter_congr
  intro allocation _
  rw [Bool.eq_iff_iff, decide_eq_true_iff]
  exact ofBooking_iff_payment integrity

/-- Allocations of one payment stay within what it contributes. -/
theorem allocated_le_contribution (integrity : Integrity tables)
    (solvent : Solvent tables) {payment : Payment}
    (member : payment ∈ tables.payments) :
    groupSum PaymentAllocation.paymentId (countedWeight tables) payment.id
        tables.allocations ≤
      contribution tables payment := by
  have found := findBy_of_mem integrity.paymentIds member
  have countedIff :
      ∀ allocation : PaymentAllocation, allocation.paymentId = payment.id →
        isCounted tables allocation = payment.status.counts := by
    intro allocation own
    unfold isCounted
    rw [own, found]
    rfl
  unfold contribution
  by_cases counts : payment.status.counts
  · have allCounted :
        groupSum PaymentAllocation.paymentId (countedWeight tables)
            payment.id tables.allocations =
          netActiveOfPayment tables payment.id := by
      apply groupSum_congr
      intro allocation _ own
      unfold countedWeight
      rw [countedIff allocation own, if_pos counts]
    rw [allCounted, if_pos counts]
    exact (solvent.payments payment member).covered counts
  · have noneCounted :
        groupSum PaymentAllocation.paymentId (countedWeight tables)
            payment.id tables.allocations ≤
          groupSum PaymentAllocation.paymentId (fun _ => (0 : Int))
            payment.id tables.allocations := by
      apply groupSum_le_groupSum
      intro allocation _ own
      unfold countedWeight
      rw [countedIff allocation own, if_neg counts]
    rw [if_neg counts]
    simpa [groupSum] using noneCounted

theorem netActiveOfBooking_le_contributions (integrity : Integrity tables)
    (solvent : Solvent tables) (bookingId : Uuid) :
    netActiveOfBooking tables bookingId ≤
      ((paymentsOf tables bookingId).map (contribution tables)).sum := by
  rw [netActiveOfBooking_by_payments integrity]
  apply List.sum_le_sum
  intro payment member
  exact
    allocated_le_contribution integrity solvent (List.mem_of_mem_filter member)

/-- What the summary needs to know about the tables. -/
structure Balanced (tables : Tables) : Prop where
  integrity : Integrity tables
  solvent : Solvent tables
  placed : ∀ allocation ∈ tables.allocations, Placed tables allocation
  capped : Capped tables
  reconciled : Reconciled tables

theorem balanced_tablesAfter (requests : List Request) :
    Balanced (tablesAfter requests) where
  integrity := integrity_tablesAfter requests
  solvent := solvent_tablesAfter requests
  placed := placed_tablesAfter requests
  capped := capped_tablesAfter requests
  reconciled := reconciled_tablesAfter requests

/-- Two active plans of one booking are one plan. -/
theorem Balanced.activePlan_unique (balanced : Balanced tables)
    {left right : PaymentPlan} (leftMember : left ∈ tables.paymentPlans)
    (rightMember : right ∈ tables.paymentPlans)
    (sameBooking : left.bookingId = right.bookingId)
    (leftActive : left.status ≠ .withdrawn)
    (rightActive : right.status ≠ .withdrawn) : left = right :=
  List.inj_on_of_nodup_map balanced.integrity.planIds leftMember rightMember
    (balanced.reconciled.onePlan left leftMember right rightMember sameBooking
      leftActive rightActive)

/-- An allocation is of a booking exactly when its installment is one of the
booking's active plan. -/
theorem Balanced.ofBooking_iff_installment (balanced : Balanced tables)
    {plan : PaymentPlan} (member : plan ∈ tables.paymentPlans)
    (active : plan.status ≠ .withdrawn) {allocation : PaymentAllocation}
    (allocationMember : allocation ∈ tables.allocations) :
    ofBooking tables plan.bookingId allocation ↔
      allocation.installmentId ∈
        (installmentsOf tables plan.id).map Installment.id := by
  obtain ⟨payment, installment, own, foundPayment, foundInstallment,
    foundPlan, sameBooking, approved⟩ :=
      balanced.placed allocation allocationMember
  have ownActive : own.status ≠ .withdrawn := by
    rw [approved]
    decide
  constructor
  · intro ofIt
    have paidFor : payment.bookingId = plan.bookingId := by
      simpa [ofBooking, foundPayment] using ofIt
    have ownIsPlan : own = plan :=
      balanced.activePlan_unique (mem_of_findBy foundPlan) member
        (sameBooking.trans paidFor) ownActive active
    refine
      List.mem_map.mpr ⟨installment, ?_, key_of_findBy foundInstallment⟩
    have inPlan : installment.paymentPlanId = plan.id := by
      rw [← ownIsPlan]
      exact (key_of_findBy foundPlan).symm
    exact
      List.mem_filter.mpr
        ⟨mem_of_findBy foundInstallment, decide_eq_true inPlan⟩
  · intro listed
    obtain ⟨other, otherMember, sameId⟩ := List.mem_map.mp listed
    obtain ⟨stored, inPlan⟩ := List.mem_filter.mp otherMember
    have foundOther := findBy_of_mem balanced.integrity.installmentIds stored
    rw [sameId, foundInstallment] at foundOther
    cases foundOther
    have foundOwn := foundPlan
    rw [of_decide_eq_true inPlan,
      findBy_of_mem balanced.integrity.planIds member] at foundOwn
    cases foundOwn
    simpa [ofBooking, foundPayment] using sameBooking.symm

theorem Balanced.netActiveOfBooking_by_installments
    (balanced : Balanced tables) {plan : PaymentPlan}
    (member : plan ∈ tables.paymentPlans)
    (active : plan.status ≠ .withdrawn) :
    netActiveOfBooking tables plan.bookingId =
      ((installmentsOf tables plan.id).map fun installment =>
        netActiveOfInstallment tables installment.id).sum := by
  have distinct :
      ((installmentsOf tables plan.id).map Installment.id).Nodup :=
    balanced.integrity.installmentIds.sublist (List.filter_sublist.map _)
  have byIds :
      (((installmentsOf tables plan.id).map Installment.id).map
        (netActiveOfInstallment tables)).sum =
        ((tables.allocations.filter fun allocation =>
          decide (allocation.installmentId ∈
            (installmentsOf tables plan.id).map Installment.id)).map
          (countedWeight tables)).sum :=
    sum_groupSum distinct
  rw [List.map_map] at byIds
  refine Eq.trans ?_ byIds.symm
  unfold netActiveOfBooking
  congr 2
  apply List.filter_congr
  intro allocation allocationMember
  rw [Bool.eq_iff_iff, decide_eq_true_iff]
  exact balanced.ofBooking_iff_installment member active allocationMember

/-- Without an approved plan a booking has no allocation. -/
theorem Balanced.netActiveOfBooking_of_unapproved (balanced : Balanced tables)
    {bookingId : Uuid}
    (unapproved : ∀ plan ∈ tables.paymentPlans,
      ¬ (plan.bookingId = bookingId ∧ plan.status = .approved)) :
    netActiveOfBooking tables bookingId = 0 := by
  have nothing :
      tables.allocations.filter (ofBooking tables bookingId) = [] := by
    rw [List.filter_eq_nil_iff]
    intro allocation member ofIt
    obtain ⟨payment, installment, own, foundPayment, foundInstallment,
      foundPlan, sameBooking, approved⟩ := balanced.placed allocation member
    have paidFor : payment.bookingId = bookingId := by
      simpa [ofBooking, foundPayment] using ofIt
    exact
      unapproved own (mem_of_findBy foundPlan)
        ⟨sameBooking.trans paidFor, approved⟩
  unfold netActiveOfBooking
  rw [nothing]
  rfl

/-! ## The summary of a stored booking -/

/-- The plan the summary shows. -/
def shownPlan (tables : Tables) (bookingId : Uuid) : Option PaymentPlan :=
  tables.paymentPlans.find? fun plan =>
    plan.bookingId = bookingId ∧ isActivePlan plan

theorem shownPlan_active {bookingId : Uuid} {plan : PaymentPlan}
    (shown : shownPlan tables bookingId = some plan) :
    plan ∈ tables.paymentPlans ∧ plan.bookingId = bookingId ∧
      plan.status ≠ .withdrawn := by
  have stored := List.mem_of_find?_eq_some shown
  have accepted := List.find?_some shown
  simp only [isActivePlan, decide_eq_true_eq] at accepted
  exact ⟨stored, accepted.1, accepted.2⟩

theorem shownPlan_none {bookingId : Uuid}
    (hidden : shownPlan tables bookingId = none) :
    ∀ plan ∈ tables.paymentPlans,
      ¬ (plan.bookingId = bookingId ∧ plan.status ≠ .withdrawn) := by
  intro plan member active
  have refused := List.find?_eq_none.mp hidden plan member
  apply refused
  simpa [isActivePlan] using active

/-- An approved plan is the one shown. -/
theorem Balanced.shownPlan_of_approved (balanced : Balanced tables)
    {plan : PaymentPlan} (member : plan ∈ tables.paymentPlans)
    (approved : plan.status = .approved) :
    shownPlan tables plan.bookingId = some plan := by
  have active : plan.status ≠ .withdrawn := by
    rw [approved]
    decide
  cases shown : shownPlan tables plan.bookingId with
  | none =>
      exact absurd ⟨rfl, active⟩ (shownPlan_none shown plan member)
  | some other =>
      obtain ⟨stored, sameBooking, otherActive⟩ := shownPlan_active shown
      rw [balanced.activePlan_unique stored member sameBooking otherActive
        active]

/-- The installments the summary shows. -/
def shownInstallments (tables : Tables) (bookingId : Uuid) :
    List SummaryInstallment :=
  (((shownPlan tables bookingId).map (summaryPlan tables)).map
    SummaryPlan.installments).getD []

/-- The payments the summary shows. -/
def shownPayments (tables : Tables) (bookingId : Uuid) :
    List SummaryPayment :=
  ((paymentsOf tables bookingId).mergeSort fun left right =>
    createdBefore left.createdAt left.id right.createdAt right.id).map
    (summaryPayment tables)

/-- A sum over the shown installments is a sum over the plan's rows. -/
theorem sum_shownInstallments {bookingId : Uuid} {plan : PaymentPlan}
    (shown : shownPlan tables bookingId = some plan)
    (figure : SummaryInstallment → Int) :
    ((shownInstallments tables bookingId).map figure).sum =
      ((installmentsOf tables plan.id).map
        (figure ∘ summaryInstallment tables)).sum := by
  unfold shownInstallments
  rw [shown]
  simp only [Option.map_some, Option.getD_some, summaryPlan, List.map_map]
  exact sum_map_mergeSort _ _ _

theorem Balanced.sum_netActiveAllocation (balanced : Balanced tables)
    (bookingId : Uuid) :
    ((shownInstallments tables bookingId).map netActiveAllocation).sum =
      netActiveOfBooking tables bookingId := by
  cases shown : shownPlan tables bookingId with
  | none =>
      have unapproved :
          ∀ plan ∈ tables.paymentPlans,
            ¬ (plan.bookingId = bookingId ∧ plan.status = .approved) := by
        rintro plan member ⟨own, approved⟩
        apply shownPlan_none shown plan member
        rw [approved]
        exact ⟨own, by decide⟩
      rw [balanced.netActiveOfBooking_of_unapproved unapproved]
      simp [shownInstallments, shown]
  | some plan =>
      obtain ⟨stored, rfl, active⟩ := shownPlan_active shown
      rw [balanced.netActiveOfBooking_by_installments stored active,
        sum_shownInstallments shown]
      congr 1
      apply List.map_congr_left
      intro installment _
      exact netActiveAllocation_summaryInstallment installment

/-- Under an approved plan the outstanding amounts are the total less what is
allocated. -/
theorem Balanced.sum_outstandingAmount (balanced : Balanced tables)
    {booking : Booking} (bookingMember : booking ∈ tables.bookings)
    {totalAmount : MoneyAmount}
    (priced : booking.totalAmount = some totalAmount)
    {plan : PaymentPlan} (member : plan ∈ tables.paymentPlans)
    (ownPlan : plan.bookingId = booking.id)
    (approved : plan.status = .approved) :
    (((shownInstallments tables booking.id).map summarizeInstallment).map
        StaffInstallmentSummary.outstandingAmount).sum =
      totalAmount.value - netActiveOfBooking tables booking.id := by
  have active : plan.status ≠ .withdrawn := by
    rw [approved]
    decide
  have shown := balanced.shownPlan_of_approved member approved
  have byInstallments :=
    balanced.netActiveOfBooking_by_installments member active
  rw [ownPlan] at shown byInstallments
  have planSum :
      ((installmentsOf tables plan.id).map
        fun installment => installment.amount.value).sum =
        totalAmount.value := by
    obtain ⟨found, ownTotal, foundBooking, ownPriced, sum⟩ :=
      balanced.reconciled.approvedPlans plan member approved
    rw [ownPlan,
      findBy_of_mem balanced.integrity.bookingIds bookingMember]
      at foundBooking
    cases foundBooking
    rw [priced] at ownPriced
    cases ownPriced
    exact sum
  have unclamped :
      ∀ installment ∈ installmentsOf tables plan.id,
        (StaffInstallmentSummary.outstandingAmount ∘
            summarizeInstallment ∘ summaryInstallment tables) installment =
          installment.amount.value -
            netActiveOfInstallment tables installment.id := by
    intro installment installmentMember
    have within :=
      balanced.capped installment (List.mem_of_mem_filter installmentMember)
    simp only [Function.comp_apply, summarizeInstallment,
      netActiveAllocation_summaryInstallment,
      computeOutstandingInstallmentAmount_eq]
    exact max_eq_left (by simpa [summaryInstallment] using within)
  rw [List.map_map, sum_shownInstallments shown, Function.comp_assoc,
    List.map_congr_left unclamped, sum_map_sub, planSum, byInstallments]

theorem Balanced.refundedTotal_le (balanced : Balanced tables)
    {bookingId : Uuid} {payment : SummaryPayment}
    (member : payment ∈ shownPayments tables bookingId) :
    payment.refundedTotal ≤ payment.amount.value := by
  obtain ⟨row, rowMember, rfl⟩ := List.mem_map.mp member
  have stored : row ∈ tables.payments :=
    List.mem_of_mem_filter (List.mem_mergeSort.mp rowMember)
  rw [summaryPayment_refundedTotal]
  exact (balanced.solvent.payments row stored).refundsWithin

/-- The integrity check of the summary passes. -/
theorem Balanced.refunds_within (balanced : Balanced tables)
    {bookingId : Uuid} {payment : SummaryPayment}
    (member : payment ∈ shownPayments tables bookingId) :
    requireStoredRefundsWithinAmount "Payment summary" payment.amount
      payment.refundedTotal = .ok () := by
  apply require_of
  exact not_lt_of_ge (balanced.refundedTotal_le member)

theorem Balanced.confirmedAmountPaid_eq (balanced : Balanced tables)
    (bookingId : Uuid) :
    (computeNetConfirmedAmountPaid <|
      (shownPayments tables bookingId).map fun payment =>
        { status := payment.status
          amount := payment.amount.value
          refundedTotal := payment.refundedTotal }) =
      ((paymentsOf tables bookingId).map (contribution tables)).sum := by
  unfold shownPayments
  rw [computeNetConfirmedAmountPaid_eq, List.map_map, List.map_map,
    sum_map_mergeSort]
  congr 1
  apply List.map_congr_left
  intro payment member
  exact
    summaryPayment_contribution balanced.solvent
      (List.mem_of_mem_filter member)

theorem findBookingPaymentSummaryData_eq {booking : Booking}
    (integrity : Integrity tables) (member : booking ∈ tables.bookings) :
    findBookingPaymentSummaryData tables booking.id =
      some
        { booking := selectFinancials booking
          bookingReference := booking.bookingReference
          plan :=
            (shownPlan tables booking.id).map (summaryPlan tables)
          payments := shownPayments tables booking.id } := by
  unfold findBookingPaymentSummaryData
  rw [findBy_of_mem integrity.bookingIds member]
  rfl

/-- A summary shows its booking's reference, total and currency. -/
theorem buildBookingPaymentSummary_booking {bookingId : Uuid}
    {data : BookingPaymentSummaryData}
    {summary : StaffBookingPaymentBalances}
    (built : buildBookingPaymentSummary bookingId data = .ok summary) :
    summary.bookingReference = data.bookingReference ∧
      summary.totalAmount = data.booking.totalAmount ∧
      summary.currencyCode = data.booking.currencyCode := by
  unfold buildBookingPaymentSummary at built
  obtain ⟨_, _, same⟩ := bind_eq_ok.mp built
  rw [← Except.ok.inj same]
  exact ⟨rfl, rfl, rfl⟩

/-- What the payments of a booking contribute. -/
def paidTowards (tables : Tables) (bookingId : Uuid) : Int :=
  ((paymentsOf tables bookingId).map (contribution tables)).sum

/-- The summary is computed, and each figure is a sum over the tables. -/
theorem Balanced.exists_summary (balanced : Balanced tables)
    {booking : Booking} (member : booking ∈ tables.bookings) :
    ∃ data summary,
      findBookingPaymentSummaryData tables booking.id = some data ∧
        buildBookingPaymentSummary booking.id data = .ok summary ∧
        summary.confirmedAmountPaid = paidTowards tables booking.id ∧
        summary.unappliedCredit =
          paidTowards tables booking.id -
            netActiveOfBooking tables booking.id ∧
        summary.remainingBalance =
          booking.totalAmount.map (fun totalAmount =>
            computeRemainingBalance totalAmount.value
              (paidTowards tables booking.id)) ∧
        summary.overpayment =
          booking.totalAmount.map (fun totalAmount =>
            computeOverpayment totalAmount.value
              (paidTowards tables booking.id)) ∧
        summary.installments =
          (shownInstallments tables booking.id).map summarizeInstallment := by
  have checks :
      ((shownPayments tables booking.id).forM fun payment =>
        requireStoredRefundsWithinAmount "Payment summary" payment.amount
          payment.refundedTotal) = .ok () :=
    forM_eq_ok fun payment shown => balanced.refunds_within shown
  have paid := balanced.confirmedAmountPaid_eq booking.id
  have found := findBookingPaymentSummaryData_eq balanced.integrity member
  obtain ⟨summary, built⟩ :
      ∃ summary,
        buildBookingPaymentSummary booking.id
          { booking := selectFinancials booking
            bookingReference := booking.bookingReference
            plan := (shownPlan tables booking.id).map (summaryPlan tables)
            payments := shownPayments tables booking.id } = .ok summary := by
    unfold buildBookingPaymentSummary
    rw [checks]
    exact ⟨_, rfl⟩
  refine ⟨_, summary, found, built, ?_⟩
  unfold buildBookingPaymentSummary at built
  rw [checks, ok_bind, paid] at built
  cases built
  refine ⟨rfl, ?_, rfl, rfl, rfl⟩
  rw [← balanced.sum_netActiveAllocation booking.id]
  exact computeUnappliedCredit_eq _ _

/-- The summary of every booking with a total is computed, and its figures
agree with one another and with the allocation rows. -/
def SummariesTieOut (tables : Tables) : Prop :=
  ∀ booking ∈ tables.bookings, ∀ totalAmount,
    booking.totalAmount = some totalAmount →
      ∃ data summary,
        findBookingPaymentSummaryData tables booking.id = some data ∧
          buildBookingPaymentSummary booking.id data = .ok summary ∧
          0 ≤ summary.unappliedCredit ∧
          summary.unappliedCredit + netActiveOfBooking tables booking.id =
            summary.confirmedAmountPaid ∧
          ∃ remainingBalance overpayment,
            summary.remainingBalance = some remainingBalance ∧
              summary.overpayment = some overpayment ∧
              ¬ (0 < remainingBalance ∧ 0 < overpayment) ∧
              remainingBalance - overpayment =
                totalAmount.value - summary.confirmedAmountPaid ∧
              ((∃ plan ∈ tables.paymentPlans,
                  plan.bookingId = booking.id ∧ plan.status = .approved) →
                (summary.installments.map
                    StaffInstallmentSummary.outstandingAmount).sum -
                    summary.unappliedCredit =
                  remainingBalance - overpayment)

theorem Balanced.summariesTieOut (balanced : Balanced tables) :
    SummariesTieOut tables := by
  intro booking member totalAmount priced
  obtain ⟨data, summary, found, built, paid, credit, remaining, excess,
    installments⟩ := balanced.exists_summary member
  have covered :
      netActiveOfBooking tables booking.id ≤ paidTowards tables booking.id :=
    netActiveOfBooking_le_contributions balanced.integrity balanced.solvent
      booking.id
  rw [priced, Option.map_some, computeRemainingBalance_eq] at remaining
  rw [priced, Option.map_some, computeOverpayment_eq] at excess
  refine
    ⟨data, summary, found, built, ?_, ?_, _, _, remaining, excess, ?_, ?_, ?_⟩
  · omega
  · omega
  · omega
  · omega
  · rintro ⟨plan, planMember, ownPlan, approved⟩
    rw [installments,
      balanced.sum_outstandingAmount member priced planMember ownPlan
        approved]
    omega

theorem summaries_tie_out (requests : List Request) :
    SummariesTieOut (tablesAfter requests) :=
  (balanced_tablesAfter requests).summariesTieOut

end Heritage.Payments
