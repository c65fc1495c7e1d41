import Heritage.Payments.Integrity

/-!
# How the writes move the totals

The totals read five tables.  Writes elsewhere leave them alone; each of the
others is followed here through the totals once and for all.
-/

namespace Heritage.Payments

open Heritage.Store
open Repository

variable {tables after : Tables}

/-- The five tables the totals read are the same. -/
structure SameLedger (tables after : Tables) : Prop where
  payments : after.payments = tables.payments
  refunds : after.refunds = tables.refunds
  refundAllocations : after.refundAllocations = tables.refundAllocations
  allocations : after.allocations = tables.allocations
  allocationReversals :
    after.allocationReversals = tables.allocationReversals

theorem SameLedger.of_audited (logs : List AuditLog) :
    SameLedger tables (audited tables logs) :=
  ⟨rfl, rfl, rfl, rfl, rfl⟩

section Frame

variable (same : SameLedger tables after)

include same

theorem SameLedger.sumRefunds (paymentId : Uuid) :
    sumRefundsForPayment after paymentId =
      sumRefundsForPayment tables paymentId := by
  unfold sumRefundsForPayment
  rw [same.refunds]

theorem SameLedger.linkedTotal (allocationId : Uuid) :
    linkedTotal after allocationId = linkedTotal tables allocationId := by
  unfold Payments.linkedTotal
  rw [same.refundAllocations]

theorem SameLedger.isReversed (allocationId : Uuid) :
    isReversed after allocationId = isReversed tables allocationId := by
  unfold Repository.isReversed
  rw [same.allocationReversals]

theorem SameLedger.netWeight : netWeight after = netWeight tables := by
  funext allocation
  unfold Payments.netWeight
  rw [same.isReversed, same.linkedTotal]

theorem SameLedger.countedWeight :
    countedWeight after = countedWeight tables := by
  funext allocation
  unfold Payments.countedWeight isCounted
  rw [same.netWeight, same.payments]

theorem SameLedger.netActiveOfPayment (paymentId : Uuid) :
    netActiveOfPayment after paymentId =
      netActiveOfPayment tables paymentId := by
  unfold Payments.netActiveOfPayment
  rw [same.netWeight, same.allocations]

theorem SameLedger.netActiveOfInstallment (installmentId : Uuid) :
    netActiveOfInstallment after installmentId =
      netActiveOfInstallment tables installmentId := by
  unfold Payments.netActiveOfInstallment
  rw [same.countedWeight, same.allocations]

end Frame

/-- A payment that is not stored has no refund. -/
theorem no_refund_of_unknown (integrity : Integrity tables) {paymentId : Uuid}
    (unknown : findBy Payment.id paymentId tables.payments = none) :
    ∀ refund ∈ tables.refunds, refund.paymentId ≠ paymentId :=
  unreferenced_of_unknown integrity.refundPayments unknown

/-- A payment that is not stored has no allocation. -/
theorem no_allocation_of_unknown (integrity : Integrity tables)
    {paymentId : Uuid}
    (unknown : findBy Payment.id paymentId tables.payments = none) :
    ∀ allocation ∈ tables.allocations,
      allocation.paymentId ≠ paymentId :=
  unreferenced_of_unknown integrity.allocationPayments unknown

/-- An allocation that is not stored is not linked to a refund. -/
theorem no_link_of_unknown (integrity : Integrity tables)
    {allocationId : Uuid}
    (unknown :
      findBy PaymentAllocation.id allocationId tables.allocations = none) :
    ∀ link ∈ tables.refundAllocations,
      link.paymentAllocationId ≠ allocationId :=
  unreferenced_of_unknown integrity.linkAllocations unknown

/-- An allocation that is not stored is not reversed. -/
theorem isReversed_of_unknown (integrity : Integrity tables)
    {allocationId : Uuid}
    (unknown :
      findBy PaymentAllocation.id allocationId tables.allocations = none) :
    isReversed tables allocationId = false := by
  have noReversal :=
    unreferenced_of_unknown integrity.reversalAllocations unknown
  unfold isReversed
  rw [findBy_eq_none_iff.mpr noReversal]
  rfl

section Refund

variable (row : CreateRefundInput)

theorem refunded_sumRefunds (paymentId : Uuid) :
    sumRefundsForPayment (refunded tables row) paymentId =
      sumRefundsForPayment tables paymentId +
        (if row.paymentId = paymentId then row.amount.value else 0) :=
  groupSum_concat row.row

theorem refunded_linkedTotal (allocationId : Uuid) :
    linkedTotal (refunded tables row) allocationId =
      linkedTotal tables allocationId +
        (if row.allocationId = some allocationId then row.amount.value
          else 0) := by
  unfold linkedTotal refunded CreateRefundInput.linkRows
  cases row.allocationId with
  | none =>
      simp
  | some linked =>
      simp only [Option.toList_some, List.map_cons, List.map_nil,
        groupSum_concat, Option.some.injEq]

theorem refunded_netWeight_of_other {allocation : PaymentAllocation}
    (other : row.allocationId ≠ some allocation.id) :
    netWeight (refunded tables row) allocation =
      netWeight tables allocation := by
  unfold netWeight
  rw [refunded_linkedTotal, if_neg other, add_zero]
  rfl

/-- The linked allocation loses the refunded amount, so its payment and its
installment do. -/
theorem refunded_netWeight_of_linked {allocation : PaymentAllocation}
    (linked : row.allocationId = some allocation.id)
    (notReversed : isReversed tables allocation.id = false) :
    netWeight (refunded tables row) allocation =
      netWeight tables allocation - row.amount.value := by
  have stillNotReversed :
      isReversed (refunded tables row) allocation.id = false := notReversed
  unfold netWeight
  rw [refunded_linkedTotal, if_pos linked, notReversed, stillNotReversed]
  simp only [Bool.false_eq_true, if_false]
  omega

end Refund

/-- The payment's net active total loses what is refunded through a linked
allocation. -/
theorem refunded_netActiveOfPayment (integrity : Integrity tables)
    {payment : Payment} {row : CreateRefundInput}
    (permitted : RefundPermitted tables payment row) (paymentId : Uuid) :
    netActiveOfPayment (refunded tables row) paymentId =
      netActiveOfPayment tables paymentId -
        (if row.allocationId.isSome ∧ payment.id = paymentId then
          row.amount.value
        else
          0) := by
  cases linked : row.allocationId with
  | none =>
      have unchanged :
          netWeight (refunded tables row) = netWeight tables := by
        funext allocation
        apply refunded_netWeight_of_other
        simp [linked]
      unfold netActiveOfPayment
      rw [unchanged]
      simp [refunded]
  | some allocationId =>
      obtain ⟨allocation, found, ownPayment, notReversed, -⟩ :=
        permitted.linkable allocationId linked
      have sameId : allocation.id = allocationId := key_of_findBy found
      rw [← sameId] at linked notReversed
      have moved :
          netActiveOfPayment (refunded tables row) paymentId =
            netActiveOfPayment tables paymentId +
              (if allocation.paymentId = paymentId then
                netWeight (refunded tables row) allocation -
                  netWeight tables allocation
              else
                0) := by
        apply groupSum_replace integrity.allocationIds (mem_of_findBy found)
        intro other _ different
        apply refunded_netWeight_of_other
        rw [linked]
        intro same
        exact different (Option.some.inj same).symm
      rw [moved, refunded_netWeight_of_linked row linked notReversed,
        ownPayment]
      by_cases atPayment : payment.id = paymentId
      · simp only [atPayment, if_true, Option.isSome_some, and_self]
        omega
      · simp [atPayment]

/-- A new allocation weighs its full amount. -/
theorem netWeight_of_fresh (integrity : Integrity tables)
    {row : PaymentAllocation}
    (freshId : findBy PaymentAllocation.id row.id tables.allocations = none) :
    netWeight tables row = row.amount.value := by
  have notLinked : linkedTotal tables row.id = 0 :=
    groupSum_eq_zero (no_link_of_unknown integrity freshId)
  have notReversed := isReversed_of_unknown integrity freshId
  simp [netWeight, notLinked, notReversed]

theorem allocated_netActiveOfPayment (integrity : Integrity tables)
    {row : PaymentAllocation}
    (freshId : findBy PaymentAllocation.id row.id tables.allocations = none)
    (paymentId : Uuid) :
    netActiveOfPayment (allocated tables row) paymentId =
      netActiveOfPayment tables paymentId +
        (if row.paymentId = paymentId then row.amount.value else 0) := by
  have appended :
      netActiveOfPayment (allocated tables row) paymentId =
        netActiveOfPayment tables paymentId +
          (if row.paymentId = paymentId then netWeight tables row else 0) :=
    groupSum_concat row
  rw [appended, netWeight_of_fresh integrity freshId]

theorem unallocated_isReversed {row : PaymentAllocationReversal}
    {allocationId : Uuid} :
    isReversed (unallocated tables row) allocationId = true ↔
      isReversed tables allocationId = true ∨
        row.paymentAllocationId = allocationId := by
  unfold isReversed unallocated
  simp only [findBy_isSome_iff, List.mem_append, List.mem_singleton]
  constructor
  · rintro ⟨reversal, member | rfl, sameId⟩
    · exact Or.inl ⟨reversal, member, sameId⟩
    · exact Or.inr sameId
  · rintro (⟨reversal, member, sameId⟩ | sameId)
    · exact ⟨reversal, Or.inl member, sameId⟩
    · exact ⟨row, Or.inr rfl, sameId⟩

/-- A reversal takes weight away and adds none. -/
theorem unallocated_netWeight_le {row : PaymentAllocationReversal}
    {allocation : PaymentAllocation}
    (within :
      linkedTotal tables allocation.id ≤ allocation.amount.value) :
    netWeight (unallocated tables row) allocation ≤
      netWeight tables allocation := by
  cases reversed : isReversed (unallocated tables row) allocation.id with
  | true =>
      have nothing :
          netWeight (unallocated tables row) allocation = 0 := by
        simp [netWeight, reversed]
      rw [nothing]
      exact netWeight_nonneg within
  | false =>
      have notReversed : isReversed tables allocation.id = false := by
        cases earlier : isReversed tables allocation.id with
        | false =>
            rfl
        | true =>
            have still :
                isReversed (unallocated tables row) allocation.id = true :=
              unallocated_isReversed.mpr (Or.inl earlier)
            rw [reversed] at still
            cases still
      simp only [netWeight, reversed, notReversed]
      exact le_refl _

end Heritage.Payments
