import Heritage.Exports.Amounts
import Heritage.Exports.Filters

/-!
# The figures of a row

On balanced tables no integrity check of a row fires, and each derived cell
shows a total of the ledger.
-/

namespace Heritage.Exports

open Heritage.Store Heritage.Payments
open Repository

variable {tables : Tables} {asOf : String}

structure PaymentRowShows (row : List String)
    (contribution allocated : Int) : Prop where
  netContribution :
    ShowsAmount .payments "derivedNetContribution" row contribution
  netAllocated : ShowsAmount .payments "derivedNetAllocated" row allocated
  unallocated :
    ShowsAmount .payments "derivedUnallocated" row (contribution - allocated)

theorem formatNonNegativeDerived_ok {column : String} {value : Int}
    (nonnegative : 0 ≤ value) :
    formatNonNegativeDerived column value = .ok (formatAmount value) := by
  unfold formatNonNegativeDerived
  rw [require_of (not_lt.mpr nonnegative), ok_bind]

theorem exists_paymentRow {payment : PaymentExportRecord}
    {currencyCode : String} {contribution allocated : Int}
    (priced : payment.booking.currencyCode = some currencyCode)
    (within : sumAmounts payment.refunds ≤ payment.amount.value)
    (contributes :
      computeNetContribution
          { status := payment.status
            amount := payment.amount.value
            refundedTotal := sumAmounts payment.refunds } =
        contribution)
    (allocates :
      (computeNetActiveAllocation <|
        payment.allocations.map fun allocation =>
          { amount := allocation.amount.value
            paymentStatus := payment.status
            isReversed := allocation.reversal.isSome
            refundAllocatedTotal := sumAmounts allocation.refundAllocations }) =
        allocated)
    (nonnegative : 0 ≤ allocated) (covered : allocated ≤ contribution) :
    ∃ row, shapePaymentRow asOf payment = .ok row ∧
      PaymentRowShows row contribution allocated := by
  have notOver : ¬ payment.amount.value < sumAmounts payment.refunds :=
    not_lt.mpr within
  simp only [shapePaymentRow, requireRefundsWithinAmount,
    require_of notOver, ok_bind, requireCurrencyCode, priced, demand,
    contributes, allocates, formatNonNegativeDerived_ok nonnegative,
    formatNonNegativeDerived_ok (sub_nonneg.mpr covered)]
  refine ⟨_, rfl, ?_⟩
  constructor
  · exact showsAmount_of_cell 11 (by decide) rfl
  · exact showsAmount_of_cell 12 (by decide) rfl
  · exact showsAmount_of_cell 13 (by decide) rfl

theorem exists_refundRow {refund : RefundExportRecord} {currencyCode : String}
    (priced : refund.booking.currencyCode = some currencyCode) :
    ∃ row, shapeRefundRow asOf refund = .ok row := by
  simp only [shapeRefundRow, requireCurrencyCode, priced, demand, ok_bind]
  exact ⟨_, rfl⟩

theorem exists_allocationRow {allocation : AllocationExportRecord}
    {currencyCode : String} {netActive : Int}
    (priced : allocation.booking.currencyCode = some currencyCode)
    (weighs :
      activeWeight
          { amount := allocation.amount.value
            paymentStatus := allocation.paymentStatus
            isReversed := allocation.reversal.isSome
            refundAllocatedTotal := sumAmounts allocation.refundAllocations } =
        netActive)
    (nonnegative : 0 ≤ netActive) :
    ∃ row, shapeAllocationRow asOf allocation = .ok row ∧
      ShowsAmount .allocations "derivedNetActive" row netActive := by
  simp only [shapeAllocationRow, requireCurrencyCode, priced, demand, ok_bind,
    computeNetActiveAllocation_eq, List.map_cons, List.map_nil,
    List.sum_singleton, weighs, formatNonNegativeDerived_ok nonnegative]
  refine ⟨_, rfl, ?_⟩
  exact showsAmount_of_cell 13 (by decide) rfl

theorem exists_installmentRow {installment : InstallmentExportRecord}
    {currencyCode : String} {netActive : Int}
    (priced : installment.booking.currencyCode = some currencyCode)
    (allocates :
      (computeNetActiveAllocation <|
        installment.allocations.map fun allocation =>
          { amount := allocation.amount.value
            paymentStatus := allocation.paymentStatus
            isReversed := allocation.reversal.isSome
            refundAllocatedTotal := sumAmounts allocation.refundAllocations }) =
        netActive)
    (nonnegative : 0 ≤ netActive) :
    ∃ row, shapeInstallmentRow asOf installment = .ok row ∧
      ShowsAmount .installments "derivedNetActiveAllocation" row
        netActive := by
  simp only [shapeInstallmentRow, requireCurrencyCode, priced, demand,
    ok_bind, allocates, formatNonNegativeDerived_ok nonnegative]
  refine ⟨_, rfl, ?_⟩
  exact showsAmount_of_cell 6 (by decide) rfl

structure BookingRowShows (row : List String) (paid credit : Int) : Prop where
  netConfirmedPaid :
    ShowsAmount .bookings "derivedNetConfirmedPaid" row paid
  unappliedCredit :
    ShowsAmount .bookings "derivedUnappliedCredit" row credit

theorem exists_bookingRow (asOf : String)
    {summary : StaffBookingPaymentBalances}
    (planStatus : Option PaymentPlanStatus) (clientName : String)
    {totalAmount : MoneyAmount} {remainingBalance overpayment : Int}
    {currencyCode : String} (total : summary.totalAmount = some totalAmount)
    (remaining : summary.remainingBalance = some remainingBalance)
    (excess : summary.overpayment = some overpayment)
    (priced : summary.currencyCode = some currencyCode)
    (nonnegative : 0 ≤ summary.unappliedCredit) :
    ∃ row, shapeBookingRow summary planStatus clientName asOf = .ok row ∧
      BookingRowShows row summary.confirmedAmountPaid
        summary.unappliedCredit := by
  simp only [shapeBookingRow, total, remaining, excess, requireCurrencyCode,
    priced, demand, ok_bind, formatNonNegativeDerived_ok nonnegative]
  refine ⟨_, rfl, ?_⟩
  constructor
  · exact showsAmount_of_cell 4 (by decide) rfl
  · exact showsAmount_of_cell 7 (by decide) rfl

theorem ledger_allocations :
    tables.ledger.allocations =
      tables.allocations.map AllocationRow.toPaymentAllocation :=
  rfl

theorem sumAmounts_refunds (paymentId : Uuid) :
    sumAmounts (refundAmounts tables paymentId) =
      sumRefundsForPayment tables.ledger paymentId := by
  unfold sumAmounts refundAmounts
  rw [foldl_add_eq_sum, zero_add, List.map_map]
  rfl

theorem sumAmounts_links (allocationId : Uuid) :
    sumAmounts (linkAmounts tables allocationId) =
      linkedTotal tables.ledger allocationId := by
  rw [← refundAllocatedTotal_eq]
  exact foldl_links allocationId

theorem reversalOf_isSome (allocationId : Uuid) :
    (reversalOf tables allocationId).isSome =
      Payments.Repository.isReversed tables.ledger allocationId := by
  rw [Bool.eq_iff_iff, isReversed_iff_mem, reversalOf, findBy_isSome_iff]

/-- An exported allocation weighs what it weighs in the ledger. -/
theorem activeWeight_exported (tables : Tables) (allocation : AllocationRow) :
    activeWeight
        { amount := allocation.amount.value
          paymentStatus := statusOfPayment tables allocation.paymentId
          isReversed := (reversalOf tables allocation.id).isSome
          refundAllocatedTotal :=
            sumAmounts (linkAmounts tables allocation.id) } =
      countedWeight tables.ledger allocation.toPaymentAllocation := by
  rw [reversalOf_isSome, sumAmounts_links]
  have sameStatus :
      (statusOfPayment tables allocation.paymentId).counts =
        Payments.Repository.isCounted tables.ledger
          allocation.toPaymentAllocation := by
    unfold statusOfPayment Payments.Repository.isCounted Tables.ledger
    cases findBy Payment.id allocation.paymentId tables.payments with
    | none =>
        rfl
    | some payment =>
        rfl
  unfold activeWeight countedWeight netWeight
  rw [sameStatus]
  cases Payments.Repository.isReversed tables.ledger allocation.id <;>
    simp

section Ledger

variable (constraints : Constraints tables)

/-- The allocations of a payment, towards their installments. -/
def allocatedOf (tables : Tables) (payment : Payment) : Int :=
  groupSum PaymentAllocation.paymentId (countedWeight tables.ledger)
    payment.id tables.ledger.allocations

include constraints in
theorem netAllocated_paymentRecord {payment : Payment}
    (member : payment ∈ tables.payments) :
    (computeNetActiveAllocation <|
      (paymentRecord tables payment).allocations.map fun allocation =>
        { amount := allocation.amount.value
          paymentStatus := payment.status
          isReversed := allocation.reversal.isSome
          refundAllocatedTotal := sumAmounts allocation.refundAllocations }) =
      allocatedOf tables payment := by
  have status : statusOfPayment tables payment.id = payment.status := by
    have found : findBy Payment.id payment.id tables.payments = some payment :=
      findBy_of_mem constraints.ledger.paymentIds member
    unfold statusOfPayment
    rw [found]
    rfl
  unfold allocatedOf
  rw [computeNetActiveAllocation_eq, List.map_map, ledger_allocations,
    groupSum_map, paymentRecord, List.map_map, groupSum]
  congr 1
  apply List.map_congr_left
  intro allocation ofIt
  have own : allocation.paymentId = payment.id :=
    of_decide_eq_true (List.mem_filter.mp ofIt).2
  have weight := activeWeight_exported tables allocation
  rw [own, status] at weight
  simpa [paymentAllocation] using weight

theorem netActive_installmentRecord (installment : Installment) :
    (computeNetActiveAllocation <|
      (installmentRecord tables installment).allocations.map
        fun allocation =>
          { amount := allocation.amount.value
            paymentStatus := allocation.paymentStatus
            isReversed := allocation.reversal.isSome
            refundAllocatedTotal := sumAmounts allocation.refundAllocations }) =
      netActiveOfInstallment tables.ledger installment.id := by
  unfold netActiveOfInstallment
  rw [computeNetActiveAllocation_eq, List.map_map, ledger_allocations,
    groupSum_map, installmentRecord, List.map_map, groupSum]
  congr 1
  apply List.map_congr_left
  intro allocation _
  have weight := activeWeight_exported tables allocation
  simpa [installmentAllocation] using weight

/-- A booking with a total has a currency. -/
theorem exists_currencyCode {bookingId : Uuid}
    (priced : PricedBooking tables.ledger bookingId) :
    ∃ currencyCode,
      (labelOfBooking tables bookingId).currencyCode = some currencyCode := by
  obtain ⟨booking, found, hasTotal⟩ := priced
  rw [booking.paired] at hasTotal
  obtain ⟨currencyCode, hasCurrency⟩ := Option.isSome_iff_exists.mp hasTotal
  have stored : findBy Booking.id bookingId tables.bookings = some booking :=
    found
  refine ⟨currencyCode, ?_⟩
  unfold labelOfBooking
  rw [stored]
  exact hasCurrency

end Ledger

/-! ## Rows on balanced tables -/

section Balanced

variable (constraints : Constraints tables)
  (balanced : Balanced tables.ledger)

include balanced

theorem countedWeight_exported_nonneg {allocation : AllocationRow}
    (member : allocation ∈ tables.allocations) :
    0 ≤ countedWeight tables.ledger allocation.toPaymentAllocation :=
  countedWeight_nonneg
    (balanced.solvent.allocations _ (List.mem_map_of_mem member)).linkedWithin

/-- A grouped sum over the allocations is not negative. -/
theorem groupSum_countedWeight_nonneg (key : PaymentAllocation → Uuid)
    (sought : Uuid) :
    0 ≤ groupSum key (countedWeight tables.ledger) sought
      tables.ledger.allocations := by
  apply groupSum_nonneg
  intro allocation member _
  obtain ⟨row, stored, rfl⟩ := List.mem_map.mp member
  exact countedWeight_exported_nonneg balanced stored

theorem exists_currencyOfPayment {paymentId : Uuid}
    (listed : paymentId ∈ tables.payments.map Payment.id) :
    ∃ currencyCode,
      (labelOfPayment tables paymentId).currencyCode = some currencyCode := by
  obtain ⟨payment, found⟩ := exists_findBy_of_mem_map listed
  have priced :=
    balanced.reconciled.pricedPayments payment (mem_of_findBy found)
  obtain ⟨currencyCode, hasCurrency⟩ := exists_currencyCode priced
  refine ⟨currencyCode, ?_⟩
  unfold labelOfPayment
  rw [found]
  exact hasCurrency

theorem exists_rowOfRefund {refund : PaymentRefund}
    (member : refund ∈ tables.refunds) :
    ∃ row, exportedRow tables asOf (.refund refund) = .ok row := by
  obtain ⟨currencyCode, priced⟩ :=
    exists_currencyOfPayment balanced
      (balanced.integrity.refundPayments (List.mem_map_of_mem member))
  have named :
      (refundRecord tables refund).booking.currencyCode =
        some currencyCode :=
    priced
  exact exists_refundRow named

theorem exists_rowOfAllocation {allocation : AllocationRow}
    (member : allocation ∈ tables.allocations) :
    ∃ row, exportedRow tables asOf (.allocation allocation) = .ok row ∧
      ShowsAmount .allocations "derivedNetActive" row
        (countedWeight tables.ledger allocation.toPaymentAllocation) := by
  have listed : allocation.paymentId ∈ tables.payments.map Payment.id := by
    apply balanced.integrity.allocationPayments
    rw [ledger_allocations, List.map_map]
    exact List.mem_map_of_mem member
  obtain ⟨currencyCode, priced⟩ := exists_currencyOfPayment balanced listed
  have named :
      (allocationRecord tables allocation).booking.currencyCode =
        some currencyCode :=
    priced
  apply exists_allocationRow named _
    (countedWeight_exported_nonneg balanced member)
  rw [← activeWeight_exported tables allocation]
  simp [allocationRecord]

theorem exists_rowOfInstallment {installment : Installment}
    (member : installment ∈ tables.installments) :
    ∃ row, exportedRow tables asOf (.installment installment) = .ok row ∧
      ShowsAmount .installments "derivedNetActiveAllocation" row
        (netActiveOfInstallment tables.ledger installment.id) := by
  have listed :
      installment.paymentPlanId ∈ tables.paymentPlans.map PaymentPlan.id :=
    balanced.integrity.installmentPlans (List.mem_map_of_mem member)
  obtain ⟨plan, found⟩ := exists_findBy_of_mem_map listed
  obtain ⟨currencyCode, priced⟩ :=
    exists_currencyCode
      (balanced.reconciled.pricedPlans plan (mem_of_findBy found))
  have named :
      (installmentRecord tables installment).booking.currencyCode =
        some currencyCode := by
    change (labelOfPlan tables installment.paymentPlanId).currencyCode = _
    unfold labelOfPlan
    rw [found]
    exact priced
  exact
    exists_installmentRow named (netActive_installmentRecord installment)
      (groupSum_countedWeight_nonneg balanced _ _)

include constraints

theorem exists_rowOfPayment {payment : Payment}
    (member : payment ∈ tables.payments) :
    ∃ row, exportedRow tables asOf (.payment payment) = .ok row ∧
      PaymentRowShows row (contribution tables.ledger payment)
        (allocatedOf tables payment) := by
  obtain ⟨currencyCode, priced⟩ :=
    exists_currencyCode (balanced.reconciled.pricedPayments payment member)
  have within :
      sumAmounts (refundAmounts tables payment.id) ≤ payment.amount.value := by
    rw [sumAmounts_refunds]
    exact (balanced.solvent.payments payment member).refundsWithin
  have contributes :
      computeNetContribution
          { status := payment.status
            amount := payment.amount.value
            refundedTotal :=
              sumAmounts (refundAmounts tables payment.id) } =
        contribution tables.ledger payment := by
    rw [computeNetContribution_eq within, sumAmounts_refunds]
    rfl
  have named :
      (paymentRecord tables payment).booking.currencyCode =
        some currencyCode :=
    priced
  exact
    exists_paymentRow named within contributes
      (netAllocated_paymentRecord constraints member)
      (groupSum_countedWeight_nonneg balanced _ _)
      (allocated_le_contribution balanced.integrity balanced.solvent member)

theorem exists_rowOfBooking {booking : Booking}
    (member : booking ∈ tables.bookings)
    (hasTotal : booking.totalAmount.isSome) :
    ∃ row, exportedRow tables asOf (.booking booking) = .ok row ∧
      BookingRowShows row (paidTowards tables.ledger booking.id)
        (paidTowards tables.ledger booking.id -
          netActiveOfBooking tables.ledger booking.id) := by
  obtain ⟨data, summary, found, built, paid, credit, remaining, excess, -⟩ :=
    balanced.exists_summary member
  rw [findBookingPaymentSummaryData_ledger constraints member] at found
  obtain rfl : summaryData tables booking = data := Option.some.inj found
  obtain ⟨-, total, currency⟩ := buildBookingPaymentSummary_booking built
  have hasCurrency := hasTotal
  rw [booking.paired] at hasCurrency
  obtain ⟨totalAmount, priced⟩ := Option.isSome_iff_exists.mp hasTotal
  obtain ⟨currencyCode, paired⟩ := Option.isSome_iff_exists.mp hasCurrency
  rw [priced, Option.map_some] at remaining excess
  have checks :
      requireBookingRefundsWithinAmounts
        (summaryData tables booking).payments = .ok () := by
    apply forM_eq_ok
    intro payment shown
    apply require_of
    exact not_lt_of_ge (balanced.refundedTotal_le shown)
  have nonnegative : 0 ≤ summary.unappliedCredit := by
    have covered :=
      netActiveOfBooking_le_contributions balanced.integrity
        balanced.solvent booking.id
    rw [credit]
    exact sub_nonneg.mpr covered
  obtain ⟨row, shaped, shows⟩ :=
    exists_bookingRow asOf
      ((summaryData tables booking).plan.map
        Payments.Repository.SummaryPlan.status)
      (clientFullName tables booking.clientId) (total.trans priced) remaining
      excess (currency.trans paired) nonnegative
  refine ⟨row, ?_, ?_⟩
  · simp only [exportedRow, checks, ok_bind, built]
    exact shaped
  · rw [← credit, ← paid]
    exact shows

end Balanced

end Heritage.Exports
