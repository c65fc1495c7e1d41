import Heritage.Payments.Summary
import Heritage.Exports.Repository

/-!
# The joins of an export

Every export reads its related rows under the parent's clause and joins them
in memory.  For a row that passes the clause, what the join assembles is what
the row's own references name, whatever else the export holds.
-/

namespace Heritage.Exports.Repository

open Heritage.Store Heritage.Calendar
open Heritage.Payments
open Heritage.Payments.Repository hiding AllocationRecord

section Orders

variable {ρ : Type} {instant : ρ → Timestamp} {id : ρ → Uuid}
  {tables : Exports.Tables}

theorem byInstant_iff {left right : ρ} :
    byInstant instant id left right ↔ Precedes instant id left right := by
  simp [byInstant, createdBefore, Precedes]

theorem byInstant_trans (first second third : ρ) :
    byInstant instant id first second → byInstant instant id second third →
      byInstant instant id first third := by
  rw [byInstant_iff, byInstant_iff, byInstant_iff]
  exact Precedes.trans

theorem byInstant_total (left right : ρ) :
    byInstant instant id left right || byInstant instant id right left := by
  rw [Bool.or_eq_true, byInstant_iff, byInstant_iff]
  exact precedes_total left right

theorem installmentsByBooking_iff {left right : Installment} :
    installmentsByBooking tables left right ↔
      Precedes
        (fun row : Installment =>
          (labelOfPlan tables row.paymentPlanId).bookingReference)
        Installment.sequenceNumber left right := by
  simp [installmentsByBooking, Precedes]

theorem installmentsByBooking_trans (first second third : Installment) :
    installmentsByBooking tables first second →
      installmentsByBooking tables second third →
        installmentsByBooking tables first third := by
  rw [installmentsByBooking_iff, installmentsByBooking_iff,
    installmentsByBooking_iff]
  exact Precedes.trans

theorem installmentsByBooking_total (left right : Installment) :
    installmentsByBooking tables left right ||
      installmentsByBooking tables right left := by
  rw [Bool.or_eq_true, installmentsByBooking_iff, installmentsByBooking_iff]
  exact precedes_total left right

theorem bookingsByReference_trans (first second third : Booking) :
    bookingsByReference first second → bookingsByReference second third →
      bookingsByReference first third := by
  simp only [bookingsByReference, decide_eq_true_eq]
  exact le_trans

theorem bookingsByReference_total (left right : Booking) :
    bookingsByReference left right || bookingsByReference right left := by
  simp only [bookingsByReference, Bool.or_eq_true, decide_eq_true_eq]
  exact le_total _ _

theorem installmentsBySequence_trans (first second third : Installment) :
    installmentsBySequence first second →
      installmentsBySequence second third →
        installmentsBySequence first third := by
  simp only [installmentsBySequence, decide_eq_true_eq]
  exact le_trans

theorem installmentsBySequence_total (left right : Installment) :
    installmentsBySequence left right ||
      installmentsBySequence right left := by
  simp only [installmentsBySequence, Bool.or_eq_true, decide_eq_true_eq]
  exact le_total _ _

end Orders

section Children

variable {tables : Exports.Tables} (constraints : Constraints tables)

include constraints

/-- The primary key of the allocations. -/
theorem allocationIds :
    (tables.allocations.map fun row : AllocationRow => row.id).Nodup := by
  have ids := constraints.ledger.allocationIds
  rw [Tables.ledger, List.map_map] at ids
  exact ids

theorem ofBooking_of_mem {booking : Booking}
    (member : booking ∈ tables.bookings) (test : Booking → Bool) :
    ofBooking tables booking.id test = test booking :=
  any_findBy_of_mem constraints.ledger.bookingIds member test

theorem ofPlan_of_mem {plan : PaymentPlan}
    (member : plan ∈ tables.paymentPlans) (test : PaymentPlan → Bool) :
    ofPlan tables plan.id test = test plan :=
  any_findBy_of_mem constraints.ledger.planIds member test

theorem ofInstallment_of_mem {installment : Installment}
    (member : installment ∈ tables.installments)
    (test : Installment → Bool) :
    ofInstallment tables installment.id test = test installment :=
  any_findBy_of_mem constraints.ledger.installmentIds member test

theorem ofPayment_of_mem {payment : Payment}
    (member : payment ∈ tables.payments) (test : Payment → Bool) :
    ofPayment tables payment.id test = test payment :=
  any_findBy_of_mem constraints.ledger.paymentIds member test

theorem ofRefund_of_mem {refund : PaymentRefund}
    (member : refund ∈ tables.refunds) (test : PaymentRefund → Bool) :
    ofRefund tables refund.id test = test refund :=
  any_findBy_of_mem constraints.refundIds member test

theorem ofAllocation_of_mem {allocation : AllocationRow}
    (member : allocation ∈ tables.allocations)
    (test : AllocationRow → Bool) :
    ofAllocation tables allocation.id test = test allocation :=
  any_findBy_of_mem (allocationIds constraints) member test

/-- The refund links of a selected allocation. -/
theorem links_join {test : AllocationRow → Bool}
    {allocation : AllocationRow} (member : allocation ∈ tables.allocations)
    (selected : test allocation) :
    amountsOf PaymentRefundAllocation.amount
        ((groupBy PaymentRefundAllocation.paymentAllocationId
          (tables.refundAllocations.filter fun link =>
            ofAllocation tables link.paymentAllocationId test)).get
          allocation.id) =
      (tables.refundAllocations.filter fun link =>
        link.paymentAllocationId = allocation.id).map
        PaymentRefundAllocation.amount := by
  unfold amountsOf
  rw [get_groupBy_filter]
  intro link _ own
  rw [own, ofAllocation_of_mem constraints member]
  exact selected

/-- The reversal of a selected allocation. -/
theorem reversal_join {test : AllocationRow → Bool}
    {allocation : AllocationRow} (member : allocation ∈ tables.allocations)
    (selected : test allocation) :
    (keyedBy (fun row : ReversalRow => row.paymentAllocationId)
        (tables.allocationReversals.filter fun reversal =>
          ofAllocation tables reversal.paymentAllocationId test)).get
        allocation.id =
      findBy (fun row : ReversalRow => row.paymentAllocationId)
        allocation.id tables.allocationReversals := by
  apply get_keyedBy_filter constraints.reversedAllocations
  intro reversal _ own
  rw [own, ofAllocation_of_mem constraints member]
  exact selected

/-- The receipt of a selected payment. -/
theorem receipt_join {test : Payment → Bool} {payment : Payment}
    (member : payment ∈ tables.payments) (selected : test payment) :
    (keyedBy Receipt.paymentId
        (tables.receipts.filter fun receipt =>
          ofPayment tables receipt.paymentId test)).get payment.id =
      findBy Receipt.paymentId payment.id tables.receipts := by
  apply get_keyedBy_filter constraints.receiptPayments
  intro receipt _ own
  rw [own, ofPayment_of_mem constraints member]
  exact selected

/-- The refunds of a selected payment. -/
theorem refunds_join {test : Payment → Bool} {payment : Payment}
    (member : payment ∈ tables.payments) (selected : test payment) :
    amountsOf PaymentRefund.amount
        ((groupBy PaymentRefund.paymentId
          (tables.refunds.filter fun refund =>
            ofPayment tables refund.paymentId test)).get payment.id) =
      (tables.refunds.filter fun refund =>
        refund.paymentId = payment.id).map PaymentRefund.amount := by
  unfold amountsOf
  rw [get_groupBy_filter]
  intro refund _ own
  rw [own, ofPayment_of_mem constraints member]
  exact selected

end Children

end Heritage.Exports.Repository
