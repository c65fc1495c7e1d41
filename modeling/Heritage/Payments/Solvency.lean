import Heritage.Payments.Totals

/-!
# Solvency of the payment ledger

No payment is refunded beyond its amount, its refunds decide whether it is
`REFUNDED`, and while it counts its allocations never exceed what is left of
it.
-/

namespace Heritage.Payments

open Heritage.Store
open Repository

structure SolventPayment (tables : Tables) (payment : Payment) : Prop where
  refundsWithin :
    sumRefundsForPayment tables payment.id ≤ payment.amount.value
  refundedIff :
    payment.status = .refunded ↔
      sumRefundsForPayment tables payment.id = payment.amount.value
  unrefunded :
    payment.status = .pending ∨ payment.status = .reversed →
      ∀ refund ∈ tables.refunds, refund.paymentId ≠ payment.id
  unallocated :
    payment.status = .pending →
      ∀ allocation ∈ tables.allocations, allocation.paymentId ≠ payment.id
  covered :
    payment.status.counts →
      netActiveOfPayment tables payment.id ≤
        payment.amount.value - sumRefundsForPayment tables payment.id

structure SolventAllocation (tables : Tables)
    (allocation : PaymentAllocation) : Prop where
  linkedWithin : linkedTotal tables allocation.id ≤ allocation.amount.value
  exclusive :
    isReversed tables allocation.id →
      ∀ link ∈ tables.refundAllocations,
        link.paymentAllocationId ≠ allocation.id

structure Solvent (tables : Tables) : Prop where
  payments : ∀ payment ∈ tables.payments, SolventPayment tables payment
  allocations :
    ∀ allocation ∈ tables.allocations, SolventAllocation tables allocation

theorem solvent_empty : Solvent Tables.empty := by
  constructor <;> simp [Tables.empty]

variable {tables after : Tables} {kind : WriteKind}

theorem SolventPayment.frame {payment : Payment}
    (solvent : SolventPayment tables payment)
    (same : SameLedger tables after) : SolventPayment after payment where
  refundsWithin := by
    rw [same.sumRefunds]
    exact solvent.refundsWithin
  refundedIff := by
    rw [same.sumRefunds]
    exact solvent.refundedIff
  unrefunded := by
    rw [same.refunds]
    exact solvent.unrefunded
  unallocated := by
    rw [same.allocations]
    exact solvent.unallocated
  covered := by
    rw [same.sumRefunds, same.netActiveOfPayment]
    exact solvent.covered

theorem SolventAllocation.frame {allocation : PaymentAllocation}
    (solvent : SolventAllocation tables allocation)
    (same : SameLedger tables after) :
    SolventAllocation after allocation where
  linkedWithin := by
    rw [same.linkedTotal]
    exact solvent.linkedWithin
  exclusive := by
    rw [same.isReversed, same.refundAllocations]
    exact solvent.exclusive

theorem Solvent.frame (solvent : Solvent tables)
    (same : SameLedger tables after) : Solvent after where
  payments := by
    rw [same.payments]
    intro payment member
    exact (solvent.payments payment member).frame same
  allocations := by
    rw [same.allocations]
    intro allocation member
    exact (solvent.allocations allocation member).frame same

theorem Solvent.audited (solvent : Solvent tables) (logs : List AuditLog) :
    Solvent (audited tables logs) :=
  solvent.frame (.of_audited logs)

/-- A payment without refunds is solvent in every status but `REFUNDED`, as
far as its allocations allow. -/
theorem SolventPayment.of_unrefunded {payment : Payment}
    (noRefund : ∀ refund ∈ tables.refunds, refund.paymentId ≠ payment.id)
    (notRefunded : payment.status ≠ .refunded)
    (unallocated :
      payment.status = .pending →
        ∀ allocation ∈ tables.allocations,
          allocation.paymentId ≠ payment.id)
    (covered :
      payment.status.counts →
        netActiveOfPayment tables payment.id ≤ payment.amount.value) :
    SolventPayment tables payment := by
  have nothing : sumRefundsForPayment tables payment.id = 0 :=
    sumRefundsForPayment_eq_zero noRefund
  have positive := payment.amount.positive
  have short :
      sumRefundsForPayment tables payment.id ≠ payment.amount.value := by
    omega
  refine
    ⟨?_, iff_of_false notRefunded short, fun _ => noRefund, unallocated, ?_⟩
  · omega
  · intro counts
    have withinAmount := covered counts
    omega

theorem Solvent.recorded (integrity : Integrity tables)
    (solvent : Solvent tables) {booking : Booking}
    {row : CreatePendingPaymentInput}
    (permitted : RecordPermitted tables booking row) :
    Solvent (recorded tables row) where
  payments := by
    intro payment member
    rcases List.mem_append.mp member with old | new
    · have earlier := solvent.payments payment old
      exact
        ⟨earlier.refundsWithin, earlier.refundedIff, earlier.unrefunded,
          earlier.unallocated, earlier.covered⟩
    · rw [List.mem_singleton.mp new]
      have noRefund := no_refund_of_unknown integrity permitted.freshId
      have noAllocation :=
        no_allocation_of_unknown integrity permitted.freshId
      apply SolventPayment.of_unrefunded noRefund
      · simp [CreatePendingPaymentInput.row]
      · exact fun _ => noAllocation
      · simp [CreatePendingPaymentInput.row, PaymentStatus.counts]
  allocations := by
    intro allocation member
    have earlier := solvent.allocations allocation member
    exact ⟨earlier.linkedWithin, earlier.exclusive⟩

/-- A transition of one payment asks only about that payment. -/
theorem Solvent.transitioned (integrity : Integrity tables)
    {payment : Payment} {newStatus : PaymentStatus}
    {entry : PaymentStatusHistory}
    (foundPayment :
      findBy Payment.id payment.id tables.payments = some payment)
    (changed : SolventPayment tables (withStatus newStatus payment))
    (others :
      ∀ other ∈ tables.payments, other.id ≠ payment.id →
        SolventPayment tables other)
    (allocations :
      ∀ allocation ∈ tables.allocations,
        SolventAllocation tables allocation) :
    Solvent (transitioned tables payment.id newStatus entry) where
  payments := by
    have inTables :
        ∀ other ∈ (Payments.transitioned tables payment.id newStatus
            entry).payments,
          SolventPayment tables other :=
      forall_mem_updateBy integrity.paymentIds foundPayment changed others
    intro other member
    have earlier := inTables other member
    exact
      ⟨earlier.refundsWithin, earlier.refundedIff, earlier.unrefunded,
        earlier.unallocated, earlier.covered⟩
  allocations := by
    intro allocation member
    have earlier := allocations allocation member
    exact ⟨earlier.linkedWithin, earlier.exclusive⟩

theorem Solvent.confirmed (integrity : Integrity tables)
    (solvent : Solvent tables) {payment : Payment}
    {entry : PaymentStatusHistory}
    (foundPayment :
      findBy Payment.id payment.id tables.payments = some payment)
    (pending : payment.status = .pending) :
    Solvent (Payments.transitioned tables payment.id .confirmed entry) := by
  have earlier := solvent.payments payment (mem_of_findBy foundPayment)
  have noRefund := earlier.unrefunded (Or.inl pending)
  have noAllocation := earlier.unallocated pending
  have idle : netActiveOfPayment tables payment.id = 0 :=
    groupSum_eq_zero noAllocation
  apply Solvent.transitioned integrity foundPayment _
    (fun other member _ => solvent.payments other member) solvent.allocations
  apply SolventPayment.of_unrefunded
  · exact noRefund
  · simp
  · exact fun _ => noAllocation
  · intro _
    rw [withStatus_id, idle]
    exact payment.amount.positive.le

theorem Solvent.reversed (integrity : Integrity tables)
    (solvent : Solvent tables) {payment : Payment}
    {entry : PaymentStatusHistory}
    (foundPayment :
      findBy Payment.id payment.id tables.payments = some payment)
    (unrefunded : sumRefundsForPayment tables payment.id ≤ 0) :
    Solvent (Payments.transitioned tables payment.id .reversed entry) := by
  have noRefund := no_refund_of_sumRefunds_nonpos unrefunded
  apply Solvent.transitioned integrity foundPayment _
    (fun other member _ => solvent.payments other member) solvent.allocations
  apply SolventPayment.of_unrefunded
  · exact noRefund
  · simp
  · simp
  · simp [PaymentStatus.counts]

section Refund

variable {payment : Payment} {row : CreateRefundInput}

/-- A refund does not touch the other payments. -/
theorem SolventPayment.refunded_other (integrity : Integrity tables)
    (permitted : RefundPermitted tables payment row) {other : Payment}
    (solvent : SolventPayment tables other) (different : other.id ≠ payment.id) :
    SolventPayment (refunded tables row) other := by
  have notItsRefund : ¬ row.paymentId = other.id := by
    rw [permitted.ownPayment]
    exact fun same => different same.symm
  have sameRefunds :
      sumRefundsForPayment (refunded tables row) other.id =
        sumRefundsForPayment tables other.id := by
    rw [refunded_sumRefunds, if_neg notItsRefund, add_zero]
  have sameActive :
      netActiveOfPayment (refunded tables row) other.id =
        netActiveOfPayment tables other.id := by
    rw [refunded_netActiveOfPayment integrity permitted]
    simp [Ne.symm different]
  refine ⟨?_, ?_, ?_, solvent.unallocated, ?_⟩
  · rw [sameRefunds]
    exact solvent.refundsWithin
  · rw [sameRefunds]
    exact solvent.refundedIff
  · intro unrefundedStatus refund member
    rcases List.mem_append.mp member with old | new
    · exact solvent.unrefunded unrefundedStatus refund old
    · rw [List.mem_singleton.mp new]
      exact notItsRefund
  · rw [sameRefunds, sameActive]
    exact solvent.covered

/-- The refunded payment in the status its new refund total calls for. -/
theorem SolventPayment.refunded_self (integrity : Integrity tables)
    (permitted : RefundPermitted tables payment row)
    {status : PaymentStatus}
    (settled :
      status = .refunded ∧
          sumRefundsForPayment tables payment.id + row.amount.value =
            payment.amount.value ∨
        status = .confirmed ∧
          sumRefundsForPayment tables payment.id + row.amount.value ≠
            payment.amount.value) :
    SolventPayment (refunded tables row) (withStatus status payment) := by
  have moreRefunds :
      sumRefundsForPayment (refunded tables row) payment.id =
        sumRefundsForPayment tables payment.id + row.amount.value := by
    rw [refunded_sumRefunds, if_pos permitted.ownPayment]
  have lessActive :
      netActiveOfPayment (refunded tables row) payment.id =
        netActiveOfPayment tables payment.id -
          (if row.allocationId.isSome then row.amount.value else 0) := by
    rw [refunded_netActiveOfPayment integrity permitted]
    simp
  refine ⟨?_, ?_, ?_, ?_, fun _ => ?_⟩
  · simpa [moreRefunds] using permitted.within
  · simp only [withStatus_id, withStatus_status, withStatus_amount,
      moreRefunds]
    rcases settled with ⟨rfl, completes⟩ | ⟨rfl, remaining⟩
    · exact iff_of_true rfl completes
    · exact iff_of_false (by simp) remaining
  · rcases settled with ⟨rfl, -⟩ | ⟨rfl, -⟩ <;> simp
  · rcases settled with ⟨rfl, -⟩ | ⟨rfl, -⟩ <;> simp
  · simp only [withStatus_id, withStatus_amount, moreRefunds, lessActive]
    exact permitted.covered

theorem SolventAllocation.refunded (integrity : Integrity tables)
    (permitted : RefundPermitted tables payment row)
    {allocation : PaymentAllocation} (member : allocation ∈ tables.allocations)
    (solvent : SolventAllocation tables allocation) :
    SolventAllocation (refunded tables row) allocation := by
  have foundSelf := findBy_of_mem integrity.allocationIds member
  constructor
  · rw [refunded_linkedTotal]
    by_cases linked : row.allocationId = some allocation.id
    · obtain ⟨target, found, -, -, within⟩ :=
        permitted.linkable allocation.id linked
      rw [foundSelf] at found
      cases found
      rw [if_pos linked]
      exact within
    · rw [if_neg linked, add_zero]
      exact solvent.linkedWithin
  · intro reversed link linkMember
    rcases List.mem_append.mp linkMember with old | new
    · exact solvent.exclusive reversed link old
    · intro toAllocation
      simp only [CreateRefundInput.linkRows, List.mem_map,
        Option.mem_toList] at new
      obtain ⟨allocationId, linked, rfl⟩ := new
      have sameId : allocationId = allocation.id := toAllocation
      obtain ⟨target, -, -, notReversed, -⟩ :=
        permitted.linkable allocationId linked
      rw [sameId] at notReversed
      have stillReversed : isReversed tables allocation.id = true := reversed
      rw [notReversed] at stillReversed
      cases stillReversed

theorem Solvent.refundIssued (integrity : Integrity tables)
    (solvent : Solvent tables)
    (permitted : RefundPermitted tables payment row)
    (remaining :
      sumRefundsForPayment tables payment.id + row.amount.value ≠
        payment.amount.value) :
    Solvent (refunded tables row) where
  payments := by
    intro other member
    by_cases isPayment : other.id = payment.id
    · have foundOther := findBy_of_mem integrity.paymentIds member
      rw [isPayment, permitted.foundPayment] at foundOther
      cases foundOther
      have settled :=
        SolventPayment.refunded_self integrity permitted
          (Or.inr ⟨permitted.confirmed, remaining⟩)
      exact settled
    · exact
        SolventPayment.refunded_other integrity permitted
          (solvent.payments other member) isPayment
  allocations := by
    intro allocation member
    exact
      (solvent.allocations allocation member).refunded integrity permitted
        member

theorem Solvent.refundCompleted (integrity : Integrity tables)
    (solvent : Solvent tables) {entry : PaymentStatusHistory}
    (permitted : RefundPermitted tables payment row)
    (completes :
      sumRefundsForPayment tables payment.id + row.amount.value =
        payment.amount.value) :
    Solvent
      (Payments.transitioned (refunded tables row) payment.id .refunded
        entry) := by
  apply
    Solvent.transitioned (integrity.refunded permitted)
      permitted.foundPayment
  · exact
      SolventPayment.refunded_self integrity permitted
        (Or.inl ⟨rfl, completes⟩)
  · intro other member different
    exact
      SolventPayment.refunded_other integrity permitted
        (solvent.payments other member) different
  · intro allocation member
    exact
      (solvent.allocations allocation member).refunded integrity permitted
        member

end Refund

theorem Solvent.allocated (integrity : Integrity tables)
    (solvent : Solvent tables) {payment : Payment}
    {installment : Installment} {plan : PaymentPlan}
    {row : PaymentAllocation}
    (permitted : AllocationPermitted tables payment installment plan row) :
    Solvent (allocated tables row) where
  payments := by
    intro other member
    have earlier := solvent.payments other member
    have active :=
      allocated_netActiveOfPayment integrity permitted.freshId other.id
    by_cases isPayment : row.paymentId = other.id
    · have foundOther := findBy_of_mem integrity.paymentIds member
      rw [← isPayment, permitted.foundPayment] at foundOther
      cases foundOther
      have contribution := permitted.withinPayment
      rw [computeNetContribution_eq permitted.refundsWithin] at contribution
      have positive := row.amount.positive
      have nonnegative : 0 ≤ netActiveOfPayment tables row.paymentId :=
        groupSum_nonneg fun allocation allocationMember _ =>
          netWeight_nonneg
            (solvent.allocations allocation allocationMember).linkedWithin
      -- An uncounted payment contributes nothing, so the cap refuses it.
      have counts : payment.status.counts := by
        by_contra uncounted
        simp only [uncounted] at contribution
        simp at contribution
        omega
      rw [if_pos counts] at contribution
      refine
        ⟨earlier.refundsWithin, earlier.refundedIff, earlier.unrefunded, ?_,
          fun _ => ?_⟩
      · intro pending
        rw [pending] at counts
        cases counts
      · rw [active, if_pos isPayment, ← isPayment]
        exact contribution
    · refine
        ⟨earlier.refundsWithin, earlier.refundedIff, earlier.unrefunded, ?_,
          ?_⟩
      · intro pending allocation allocationMember
        rcases List.mem_append.mp allocationMember with old | new
        · exact earlier.unallocated pending allocation old
        · rw [List.mem_singleton.mp new]
          exact isPayment
      · rw [active, if_neg isPayment, add_zero]
        exact earlier.covered
  allocations := by
    intro allocation member
    rcases List.mem_append.mp member with old | new
    · have earlier := solvent.allocations allocation old
      exact ⟨earlier.linkedWithin, earlier.exclusive⟩
    · rw [List.mem_singleton.mp new]
      have noLink := no_link_of_unknown integrity permitted.freshId
      have nothing : linkedTotal tables row.id = 0 :=
        groupSum_eq_zero noLink
      exact ⟨nothing.trans_le row.amount.positive.le, fun _ => noLink⟩

theorem Solvent.unallocated (solvent : Solvent tables)
    {row : PaymentAllocationReversal}
    (notLinked :
      ∀ link ∈ tables.refundAllocations,
        link.paymentAllocationId ≠ row.paymentAllocationId) :
    Solvent (unallocated tables row) where
  payments := by
    intro payment member
    have earlier := solvent.payments payment member
    have lessActive :
        netActiveOfPayment (Payments.unallocated tables row) payment.id ≤
          netActiveOfPayment tables payment.id :=
      groupSum_le_groupSum fun allocation allocationMember _ =>
        unallocated_netWeight_le
          (solvent.allocations allocation allocationMember).linkedWithin
    exact
      ⟨earlier.refundsWithin, earlier.refundedIff, earlier.unrefunded,
        earlier.unallocated,
        fun counts => lessActive.trans (earlier.covered counts)⟩
  allocations := by
    intro allocation member
    have earlier := solvent.allocations allocation member
    refine ⟨earlier.linkedWithin, ?_⟩
    intro reversed
    rcases unallocated_isReversed.mp reversed with old | new
    · exact earlier.exclusive old
    · rw [← new]
      exact notLinked

/-! ## Every commit -/

theorem Solvent.commit (integrity : Integrity tables)
    (solvent : Solvent tables) (commit : Commit tables kind after) :
    Solvent after := by
  cases commit with
  | bookingAdded booking freshId =>
      exact solvent.frame ⟨rfl, rfl, rfl, rfl, rfl⟩
  | bookingStatusChanged bookingId status =>
      exact solvent.frame ⟨rfl, rfl, rfl, rfl, rfl⟩
  | assignmentsChanged staffAssignments =>
      exact solvent.frame ⟨rfl, rfl, rfl, rfl, rfl⟩
  | financialsSet bookingId totalAmount currencyCode logs unlocked =>
      exact solvent.frame ⟨rfl, rfl, rfl, rfl, rfl⟩
  | planProposed booking rows logs permitted =>
      exact solvent.frame ⟨rfl, rfl, rfl, rfl, rfl⟩
  | planApproved plan booking totalAmount row logs permitted =>
      exact solvent.frame ⟨rfl, rfl, rfl, rfl, rfl⟩
  | planWithdrawn plan row logs foundPlan isProposed =>
      exact solvent.frame ⟨rfl, rfl, rfl, rfl, rfl⟩
  | paymentRecorded booking row logs permitted =>
      exact (solvent.recorded integrity permitted).audited logs
  | paymentConfirmed payment entry logs foundPayment ownEntry pending =>
      exact (solvent.confirmed integrity foundPayment pending).audited logs
  | paymentReversed payment entry logs foundPayment ownEntry confirmed
      unrefunded =>
      exact (solvent.reversed integrity foundPayment unrefunded).audited logs
  | refundIssued payment row logs permitted remaining =>
      exact (solvent.refundIssued integrity permitted remaining).audited logs
  | refundCompleted payment row entry logs permitted ownEntry completes =>
      exact
        (solvent.refundCompleted integrity permitted completes).audited logs
  | allocationCreated payment installment plan row logs permitted =>
      exact (solvent.allocated integrity permitted).audited logs
  | allocationReversed allocation row logs foundAllocation notReversed
      notLinked =>
      exact (solvent.unallocated notLinked).audited logs
  | receiptIssued payment booking row logs foundPayment foundBooking
      sameAmount sameCurrency =>
      exact solvent.frame ⟨rfl, rfl, rfl, rfl, rfl⟩

theorem solvent_tablesAfter (requests : List Request) :
    Solvent (tablesAfter requests) :=
  invariant_of_sound_commits solvent_empty
    (fun _ _ _ integrity solvent commit => solvent.commit integrity commit)
    requests

/-- Solvency of every payment and every allocation, as the service's own
queries report it. -/
def SolventLedger (tables : Tables) : Prop :=
  (∀ payment ∈ tables.payments,
    sumRefundsForPayment tables payment.id ≤ payment.amount.value ∧
      (payment.status = .refunded ↔
        sumRefundsForPayment tables payment.id = payment.amount.value) ∧
      (payment.status = .pending ∨ payment.status = .reversed →
        ∀ refund ∈ tables.refunds, refund.paymentId ≠ payment.id) ∧
      (payment.status = .pending →
        ∀ allocation ∈ tables.allocations,
          allocation.paymentId ≠ payment.id) ∧
      (payment.status = .confirmed ∨ payment.status = .refunded →
        sumNetActiveAllocationsForPayment tables payment.id ≤
          payment.amount.value -
            sumRefundsForPayment tables payment.id)) ∧
  ∀ allocation ∈ tables.allocations,
    refundAllocatedTotal tables allocation.id ≤ allocation.amount.value ∧
      ¬ (isReversed tables allocation.id ∧
        ∃ link ∈ tables.refundAllocations,
          link.paymentAllocationId = allocation.id)

theorem ledger_solvent (requests : List Request) :
    SolventLedger (tablesAfter requests) := by
  have solvent := solvent_tablesAfter requests
  constructor
  · intro payment member
    have own := solvent.payments payment member
    refine
      ⟨own.refundsWithin, own.refundedIff, own.unrefunded, own.unallocated,
        ?_⟩
    intro counts
    rw [sumNetActiveAllocationsForPayment_eq]
    apply own.covered
    simpa [PaymentStatus.counts] using counts
  · intro allocation member
    have own := solvent.allocations allocation member
    rw [refundAllocatedTotal_eq]
    refine ⟨own.linkedWithin, ?_⟩
    rintro ⟨reversed, link, linkMember, sameAllocation⟩
    exact own.exclusive reversed link linkMember sameAllocation

end Heritage.Payments
