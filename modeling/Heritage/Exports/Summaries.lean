import Heritage.Exports.Joins

/-!
# The bulk read is the single read

What the bookings export assembles for a booking from its nine queries is
what the booking payment summary reads for that booking alone.
-/

namespace Heritage.Exports.Repository

open Heritage.Store Heritage.Calendar
open Heritage.Payments
open Heritage.Payments.Repository hiding AllocationRecord

section Ledger

variable {tables : Exports.Tables}

theorem isReversed_iff_mem (allocationId : Uuid) :
    isReversed tables.ledger allocationId ↔
      ∃ reversal ∈ tables.allocationReversals,
        reversal.paymentAllocationId = allocationId := by
  unfold isReversed
  rw [findBy_isSome_iff]
  simp [Tables.ledger]

/-- The sum over the links of an allocation. -/
theorem foldl_links (allocationId : Uuid) :
    ((tables.refundAllocations.filter fun link =>
        link.paymentAllocationId = allocationId).map
        PaymentRefundAllocation.amount).foldl
        (fun total amount => total + amount.value) (0 : Int) =
      refundAllocatedTotal tables.ledger allocationId := by
  rw [List.foldl_map]
  rfl

/-- The allocations of an installment in the order of the summary. -/
theorem allocations_sorted (installmentId : Uuid) :
    ((tables.allocations.filter fun row =>
        row.installmentId = installmentId).mergeSort
        (byInstant (·.createdAt) (·.id))).map
        AllocationRow.toPaymentAllocation =
      (tables.ledger.allocations.filter fun allocation =>
        allocation.installmentId = installmentId).mergeSort
        fun left right =>
          createdBefore left.createdAt left.id right.createdAt right.id := by
  have sameOrder :
      ((tables.allocations.filter fun row =>
          row.installmentId = installmentId).mergeSort
          (byInstant (·.createdAt) (·.id))).map
          AllocationRow.toPaymentAllocation =
        ((tables.allocations.filter fun row =>
          row.installmentId = installmentId).map
          AllocationRow.toPaymentAllocation).mergeSort
          fun left right =>
            createdBefore left.createdAt left.id right.createdAt right.id := by
    apply List.map_mergeSort
    intro left _ right _
    rfl
  rw [sameOrder]
  unfold Tables.ledger
  rw [List.filter_map]
  rfl

end Ledger

/-- What the single read returns for a stored booking. -/
def summaryData (tables : Exports.Tables) (booking : Booking) :
    BookingPaymentSummaryData where
  booking := selectFinancials booking
  bookingReference := booking.bookingReference
  plan :=
    (shownPlan tables.ledger booking.id).map (summaryPlan tables.ledger)
  payments := shownPayments tables.ledger booking.id

def bookingRecord (tables : Exports.Tables) (booking : Booking) :
    BookingExportRecord where
  clientFullName := clientFullName tables booking.clientId
  data := summaryData tables booking

section Joins

variable {tables : Exports.Tables} (constraints : Constraints tables)
  {bookingWhere : Booking → Bool} {booking : Booking}
  (member : booking ∈ tables.bookings) (selected : bookingWhere booking)

include constraints member selected

/-- The active plan of a selected booking. -/
theorem plan_join :
    (keyedBy PaymentPlan.bookingId
        (tables.paymentPlans.filter fun plan =>
          ofBooking tables plan.bookingId bookingWhere &&
            isActivePlan plan)).get booking.id =
      shownPlan tables.ledger booking.id := by
  have onePlan :
      ((tables.paymentPlans.filter fun plan =>
        ofBooking tables plan.bookingId bookingWhere &&
          isActivePlan plan).map PaymentPlan.bookingId).Nodup := by
    have fewer :
        (tables.paymentPlans.filter fun plan =>
            ofBooking tables plan.bookingId bookingWhere &&
              isActivePlan plan).Sublist
          (tables.paymentPlans.filter fun plan =>
            plan.status ≠ .withdrawn) := by
      apply List.monotone_filter_right
      intro plan kept
      exact (Bool.and_eq_true_iff.mp kept).2
    exact constraints.activePlans.sublist (fewer.map _)
  have inScope : ofBooking tables booking.id bookingWhere := by
    rw [ofBooking_of_mem constraints member]
    exact selected
  rw [get_keyedBy_of_nodup onePlan]
  unfold findBy shownPlan Tables.ledger
  rw [List.find?_filter]
  congr 1
  funext plan
  by_cases own : plan.bookingId = booking.id
  · simp [own, inScope]
  · simp [own]

theorem payments_join :
    ((groupBy Payment.bookingId
        ((tables.payments.filter fun payment =>
          ofBooking tables payment.bookingId bookingWhere).mergeSort
          (byInstant (·.createdAt) (·.id)))).get booking.id).getD [] =
      (paymentsOf tables.ledger booking.id).mergeSort fun left right =>
        createdBefore left.createdAt left.id right.createdAt right.id := by
  rw [get_groupBy_mergeSort byInstant_trans byInstant_total]
  · rfl
  · intro payment _ own
    rw [own, ofBooking_of_mem constraints member]
    exact selected

end Joins

section Plans

variable {tables : Exports.Tables} (constraints : Constraints tables)

include constraints

theorem installments_join {planWhere : PaymentPlan → Bool}
    {plan : PaymentPlan} (member : plan ∈ tables.paymentPlans)
    (selected : planWhere plan) :
    ((groupBy Installment.paymentPlanId
        ((tables.installments.filter fun installment =>
          ofPlan tables installment.paymentPlanId planWhere).mergeSort
          installmentsBySequence)).get plan.id).getD [] =
      installmentsInSequence tables.ledger plan.id := by
  rw [get_groupBy_mergeSort installmentsBySequence_trans
    installmentsBySequence_total]
  · rfl
  · intro installment _ own
    rw [own, ofPlan_of_mem constraints member]
    exact selected

theorem allocations_join {installmentWhere : Installment → Bool}
    {installment : Installment} (member : installment ∈ tables.installments)
    (selected : installmentWhere installment) :
    ((groupBy (fun row : AllocationRow => row.installmentId)
        ((tables.allocations.filter fun allocation =>
          ofInstallment tables allocation.installmentId
            installmentWhere).mergeSort
          (byInstant (·.createdAt) (·.id)))).get installment.id).getD [] =
      (tables.allocations.filter fun row =>
        row.installmentId = installment.id).mergeSort
        (byInstant (·.createdAt) (·.id)) := by
  apply get_groupBy_mergeSort byInstant_trans byInstant_total
  intro allocation _ own
  rw [own, ofInstallment_of_mem constraints member]
  exact selected

theorem reversed_join {test : AllocationRow → Bool}
    {allocation : AllocationRow} (member : allocation ∈ tables.allocations)
    (selected : test allocation) :
    decide
        (allocation.id ∈
          (tables.allocationReversals.filter fun reversal =>
            ofAllocation tables reversal.paymentAllocationId test).map
            fun reversal => reversal.paymentAllocationId) =
      isReversed tables.ledger allocation.id := by
  rw [Bool.eq_iff_iff, decide_eq_true_iff, isReversed_iff_mem, List.mem_map]
  constructor
  · rintro ⟨reversal, kept, own⟩
    exact ⟨reversal, List.mem_of_mem_filter kept, own⟩
  · rintro ⟨reversal, stored, own⟩
    refine ⟨reversal, List.mem_filter.mpr ⟨stored, ?_⟩, own⟩
    rw [own, ofAllocation_of_mem constraints member]
    exact selected

end Plans

theorem findBookingExportRecords_eq {tables : Exports.Tables}
    (constraints : Constraints tables) (actor : FinanceExportActor)
    (bookingReference : Option String) :
    findBookingExportRecords tables actor bookingReference =
      ((tables.bookings.filter
        (bookingExportWhere tables actor bookingReference)).mergeSort
        bookingsByReference).map (bookingRecord tables) := by
  unfold findBookingExportRecords
  apply List.map_congr_left
  intro booking kept
  obtain ⟨member, selected⟩ :=
    List.mem_filter.mp (List.mem_mergeSort.mp kept)
  unfold bookingRecord summaryData
  congr 2
  · rw [plan_join constraints member selected]
    apply Option.map_congr
    intro plan shown
    obtain ⟨planMember, ownPlan, active⟩ := shownPlan_active shown
    have planSelected :
        (ofBooking tables plan.bookingId
            (bookingExportWhere tables actor bookingReference) &&
          isActivePlan plan) = true := by
      rw [ownPlan, ofBooking_of_mem constraints member, selected]
      simpa [isActivePlan] using active
    unfold summaryPlan
    congr 1
    rw [installments_join constraints planMember planSelected]
    apply List.map_congr_left
    intro installment inPlan
    obtain ⟨installmentMember, ownInstallment⟩ :=
      List.mem_filter.mp (List.mem_mergeSort.mp inPlan)
    have installmentSelected :
        ofPlan tables installment.paymentPlanId (fun plan =>
          ofBooking tables plan.bookingId
              (bookingExportWhere tables actor bookingReference) &&
            isActivePlan plan) = true := by
      rw [of_decide_eq_true ownInstallment,
        ofPlan_of_mem constraints planMember]
      exact planSelected
    unfold summaryInstallment
    congr 1
    rw [allocations_join constraints installmentMember installmentSelected,
      ← allocations_sorted, List.map_map]
    apply List.map_congr_left
    intro allocation toInstallment
    obtain ⟨allocationMember, ownAllocation⟩ :=
      List.mem_filter.mp (List.mem_mergeSort.mp toInstallment)
    have allocationSelected :
        ofInstallment tables allocation.installmentId (fun installment =>
          ofPlan tables installment.paymentPlanId fun plan =>
            ofBooking tables plan.bookingId
                (bookingExportWhere tables actor bookingReference) &&
              isActivePlan plan) = true := by
      rw [of_decide_eq_true ownAllocation,
        ofInstallment_of_mem constraints installmentMember]
      exact installmentSelected
    rw [reversed_join constraints allocationMember allocationSelected,
      links_join constraints allocationMember allocationSelected]
    simp only [foldl_links]
    rfl
  · rw [payments_join constraints member selected]
    apply List.map_congr_left
    intro payment ofIt
    obtain ⟨paymentMember, ownPayment⟩ :=
      List.mem_filter.mp (List.mem_mergeSort.mp ofIt)
    have paymentSelected :
        ofBooking tables payment.bookingId
          (bookingExportWhere tables actor bookingReference) = true := by
      rw [of_decide_eq_true ownPayment, ofBooking_of_mem constraints member]
      exact selected
    rw [refunds_join constraints paymentMember paymentSelected,
      receipt_join constraints paymentMember paymentSelected]
    simp only [List.foldl_map]
    rfl

theorem findBookingPaymentSummaryData_ledger {tables : Exports.Tables}
    (constraints : Constraints tables) {booking : Booking}
    (member : booking ∈ tables.bookings) :
    findBookingPaymentSummaryData tables.ledger booking.id =
      some (summaryData tables booking) :=
  findBookingPaymentSummaryData_eq constraints.ledger member

/-- For every selected booking, in the order of the references, the export
assembles what the summary reads for that booking alone. -/
theorem bulk_read_eq_single_read (database : Database)
    (actor : FinanceExportActor) (bookingReference : Option String) :
    (findBookingExportRecords database.tables actor bookingReference).map
        (fun record => some record.data) =
      ((database.tables.bookings.filter
        (bookingExportWhere database.tables actor
          bookingReference)).mergeSort bookingsByReference).map
        fun booking =>
          findBookingPaymentSummaryData database.tables.ledger booking.id := by
  rw [findBookingExportRecords_eq database.constraints, List.map_map]
  apply List.map_congr_left
  intro booking kept
  have member : booking ∈ database.tables.bookings :=
    List.mem_of_mem_filter (List.mem_mergeSort.mp kept)
  exact
    (findBookingPaymentSummaryData_ledger database.constraints member).symm

end Heritage.Exports.Repository
