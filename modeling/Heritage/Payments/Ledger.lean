import Mathlib
import Heritage.Payments.Repository

/-!
# Ledger totals

What the aggregate queries compute, as grouped sums over one table each.  An
allocation weighs its amount less the refunds linked to it, and nothing once
it is reversed; towards an installment it counts only while its payment
does.
-/

namespace Heritage.Payments

open Heritage.Store
open Repository

/-- Refunds linked to an allocation. -/
def linkedTotal (tables : Tables) (allocationId : Uuid) : Int :=
  groupSum PaymentRefundAllocation.paymentAllocationId
    (fun link => link.amount.value) allocationId tables.refundAllocations

/-- Net active amount of one allocation. -/
def netWeight (tables : Tables) (allocation : PaymentAllocation) : Int :=
  if isReversed tables allocation.id then 0
  else allocation.amount.value - linkedTotal tables allocation.id

/-- Net active amount of one allocation towards its installment. -/
def countedWeight (tables : Tables) (allocation : PaymentAllocation) : Int :=
  if isCounted tables allocation then netWeight tables allocation else 0

/-- Net active allocation of a payment. -/
def netActiveOfPayment (tables : Tables) (paymentId : Uuid) : Int :=
  groupSum PaymentAllocation.paymentId (netWeight tables) paymentId
    tables.allocations

/-- Net active allocation of an installment. -/
def netActiveOfInstallment (tables : Tables) (installmentId : Uuid) : Int :=
  groupSum PaymentAllocation.installmentId (countedWeight tables)
    installmentId tables.allocations

variable {tables : Tables}

theorem refundAllocatedTotal_eq (allocationId : Uuid) :
    refundAllocatedTotal tables allocationId =
      linkedTotal tables allocationId := by
  unfold refundAllocatedTotal
  rw [foldl_add_eq_sum, zero_add]
  rfl

theorem reduceNetActive_eq (allocations : List PaymentAllocation) :
    reduceNetActive tables allocations =
      (allocations.map fun allocation =>
        allocation.amount.value - linkedTotal tables allocation.id).sum := by
  have oneAllocation :
      ∀ (total : Int) (allocation : PaymentAllocation),
        (refundAllocationsOf tables allocation.id).foldl
            (fun net link => net - link.amount.value)
            (total + allocation.amount.value) =
          total +
            (allocation.amount.value - linkedTotal tables allocation.id) := by
    intro total allocation
    rw [foldl_sub_eq_sum, add_sub_assoc]
    rfl
  unfold reduceNetActive
  simp only [oneAllocation]
  rw [foldl_add_eq_sum, zero_add]

theorem sumNetActiveAllocationsForPayment_eq (paymentId : Uuid) :
    sumNetActiveAllocationsForPayment tables paymentId =
      netActiveOfPayment tables paymentId := by
  unfold sumNetActiveAllocationsForPayment
  rw [reduceNetActive_eq, sum_filter_eq_groupSum]
  apply groupSum_congr
  intro allocation _ _
  cases reversed : isReversed tables allocation.id <;>
    simp [netWeight, reversed]

theorem sumNetActiveAllocationsForInstallment_eq (installmentId : Uuid) :
    sumNetActiveAllocationsForInstallment tables installmentId =
      netActiveOfInstallment tables installmentId := by
  unfold sumNetActiveAllocationsForInstallment
  rw [reduceNetActive_eq, sum_filter_eq_groupSum]
  apply groupSum_congr
  intro allocation _ _
  cases reversed : isReversed tables allocation.id <;>
    cases counted : isCounted tables allocation <;>
      simp [countedWeight, netWeight, reversed, counted]

/-- A payment whose refunds do not exceed zero has no refund row. -/
theorem no_refund_of_sumRefunds_nonpos {paymentId : Uuid}
    (nothing : sumRefundsForPayment tables paymentId ≤ 0) :
    ∀ refund ∈ tables.refunds, refund.paymentId ≠ paymentId :=
  absent_of_groupSum_nonpos
    (fun refund _ => refund.amount.positive) nothing

theorem sumRefundsForPayment_eq_zero {paymentId : Uuid}
    (absent : ∀ refund ∈ tables.refunds, refund.paymentId ≠ paymentId) :
    sumRefundsForPayment tables paymentId = 0 :=
  groupSum_eq_zero absent

theorem netWeight_nonneg {allocation : PaymentAllocation}
    (within :
      linkedTotal tables allocation.id ≤ allocation.amount.value) :
    0 ≤ netWeight tables allocation := by
  unfold netWeight
  split <;> omega

theorem countedWeight_nonneg {allocation : PaymentAllocation}
    (within :
      linkedTotal tables allocation.id ≤ allocation.amount.value) :
    0 ≤ countedWeight tables allocation := by
  have nonnegative := netWeight_nonneg within
  unfold countedWeight
  split <;> omega

end Heritage.Payments
