import Heritage.Payments.Refinement

/-!
# Keys and references

Primary keys are distinct and every reference names a stored row.  Both hold
after any requests.
-/

namespace Heritage.Payments

open Heritage.Store
open Repository

section Columns

variable (status : PaymentStatus) (payment : Payment)
variable (bookingStatus : BookingStatus) (totalAmount : MoneyAmount)
variable (currencyCode : String) (booking : Booking)
variable (approval : ApprovePaymentPlanRowInput)
variable (withdrawal : WithdrawPaymentPlanRowInput) (plan : PaymentPlan)

@[simp]
theorem withStatus_id : (withStatus status payment).id = payment.id :=
  rfl

@[simp]
theorem withStatus_amount :
    (withStatus status payment).amount = payment.amount :=
  rfl

@[simp]
theorem withStatus_status : (withStatus status payment).status = status :=
  rfl

@[simp]
theorem approval_id : (approval.change plan).id = plan.id :=
  rfl

@[simp]
theorem approval_bookingId :
    (approval.change plan).bookingId = plan.bookingId :=
  rfl

@[simp]
theorem withdrawal_id : (withdrawal.change plan).id = plan.id :=
  rfl

@[simp]
theorem withdrawal_bookingId :
    (withdrawal.change plan).bookingId = plan.bookingId :=
  rfl

end Columns

structure Integrity (tables : Tables) : Prop where
  bookingIds : (tables.bookings.map Booking.id).Nodup
  planIds : (tables.paymentPlans.map PaymentPlan.id).Nodup
  installmentIds : (tables.installments.map Installment.id).Nodup
  paymentIds : (tables.payments.map Payment.id).Nodup
  allocationIds : (tables.allocations.map PaymentAllocation.id).Nodup
  planBookings :
    tables.paymentPlans.map PaymentPlan.bookingId ⊆
      tables.bookings.map Booking.id
  installmentPlans :
    tables.installments.map Installment.paymentPlanId ⊆
      tables.paymentPlans.map PaymentPlan.id
  paymentBookings :
    tables.payments.map Payment.bookingId ⊆ tables.bookings.map Booking.id
  historyPayments :
    tables.statusHistory.map PaymentStatusHistory.paymentId ⊆
      tables.payments.map Payment.id
  refundPayments :
    tables.refunds.map PaymentRefund.paymentId ⊆
      tables.payments.map Payment.id
  linkRefunds :
    tables.refundAllocations.map PaymentRefundAllocation.paymentRefundId ⊆
      tables.refunds.map PaymentRefund.id
  linkAllocations :
    tables.refundAllocations.map
        PaymentRefundAllocation.paymentAllocationId ⊆
      tables.allocations.map PaymentAllocation.id
  allocationPayments :
    tables.allocations.map PaymentAllocation.paymentId ⊆
      tables.payments.map Payment.id
  allocationInstallments :
    tables.allocations.map PaymentAllocation.installmentId ⊆
      tables.installments.map Installment.id
  reversalAllocations :
    tables.allocationReversals.map
        PaymentAllocationReversal.paymentAllocationId ⊆
      tables.allocations.map PaymentAllocation.id
  receiptPayments :
    tables.receipts.map Receipt.paymentId ⊆ tables.payments.map Payment.id

theorem integrity_empty : Integrity Tables.empty := by
  constructor <;> simp [Tables.empty]

variable {tables after : Tables} {kind : WriteKind}

theorem Integrity.audited (integrity : Integrity tables)
    (logs : List AuditLog) : Integrity (audited tables logs) :=
  { integrity with }

/-- A change of bookings that keeps their ids. -/
theorem Integrity.updateBookings (integrity : Integrity tables)
    (bookings : List Booking)
    (kept : bookings.map Booking.id = tables.bookings.map Booking.id) :
    Integrity { tables with bookings := bookings } :=
  { integrity with
    bookingIds := by simpa only [kept] using integrity.bookingIds
    planBookings := by simpa only [kept] using integrity.planBookings
    paymentBookings := by simpa only [kept] using integrity.paymentBookings }

theorem Integrity.proposed (integrity : Integrity tables) {booking : Booking}
    {rows : CreatePaymentPlanInput}
    (permitted : ProposalPermitted tables booking rows) :
    Integrity (proposed tables rows) :=
  { integrity with
    planIds := nodup_map_concat integrity.planIds permitted.freshId
    installmentIds := permitted.distinctInstallments
    planBookings :=
      references_concat integrity.planBookings
        (mem_map_of_findBy permitted.foundBooking)
    installmentPlans := by
      apply references_append_rows
      · exact references_append_targets _ integrity.installmentPlans
      · intro installment member
        obtain ⟨_, _, rfl⟩ := List.mem_map.mp member
        simp [Payments.proposed, CreatePaymentPlanInput.row]
    allocationInstallments :=
      references_append_targets _ integrity.allocationInstallments }

/-- A change of plans that keeps their ids and their bookings. -/
theorem Integrity.replanned (integrity : Integrity tables)
    (paymentPlanId : Uuid) {change : PaymentPlan → PaymentPlan}
    (keptId : ∀ plan, (change plan).id = plan.id)
    (keptBooking : ∀ plan, (change plan).bookingId = plan.bookingId) :
    Integrity (replanned tables paymentPlanId change) :=
  { integrity with
    planIds := by
      simpa only [Payments.replanned, map_updateBy_of_kept keptId]
        using integrity.planIds
    planBookings := by
      simpa only [Payments.replanned, map_updateBy_of_kept keptBooking]
        using integrity.planBookings
    installmentPlans := by
      simpa only [Payments.replanned, map_updateBy_of_kept keptId]
        using integrity.installmentPlans }

theorem Integrity.recorded (integrity : Integrity tables) {booking : Booking}
    {row : CreatePendingPaymentInput}
    (permitted : RecordPermitted tables booking row) :
    Integrity (recorded tables row) :=
  { integrity with
    paymentIds := nodup_map_concat integrity.paymentIds permitted.freshId
    paymentBookings :=
      references_concat integrity.paymentBookings
        (mem_map_of_findBy permitted.foundBooking)
    historyPayments := by
      apply references_append_rows
      · exact references_append_targets _ integrity.historyPayments
      · simp [Payments.recorded, CreatePendingPaymentInput.row,
          CreatePendingPaymentInput.historyRow]
    refundPayments :=
      references_append_targets _ integrity.refundPayments
    allocationPayments :=
      references_append_targets _ integrity.allocationPayments
    receiptPayments :=
      references_append_targets _ integrity.receiptPayments }

theorem Integrity.transitioned (integrity : Integrity tables)
    {payment : Payment} (newStatus : PaymentStatus)
    {entry : PaymentStatusHistory}
    (foundPayment :
      findBy Payment.id payment.id tables.payments = some payment)
    (ownEntry : entry.paymentId = payment.id) :
    Integrity (transitioned tables payment.id newStatus entry) := by
  have keptIds :
      (updateBy Payment.id payment.id (withStatus newStatus)
          tables.payments).map Payment.id =
        tables.payments.map Payment.id :=
    map_updateBy_of_kept fun _ => rfl
  have keptBookings :
      (updateBy Payment.id payment.id (withStatus newStatus)
          tables.payments).map Payment.bookingId =
        tables.payments.map Payment.bookingId :=
    map_updateBy_of_kept fun _ => rfl
  have listed : entry.paymentId ∈ tables.payments.map Payment.id := by
    rw [ownEntry]
    exact mem_map_of_findBy foundPayment
  exact
    { integrity with
      paymentIds := by
        simpa only [Payments.transitioned, keptIds]
          using integrity.paymentIds
      paymentBookings := by
        simpa only [Payments.transitioned, keptBookings]
          using integrity.paymentBookings
      historyPayments := by
        simp only [Payments.transitioned, keptIds]
        exact references_concat integrity.historyPayments listed
      refundPayments := by
        simpa only [Payments.transitioned, keptIds]
          using integrity.refundPayments
      allocationPayments := by
        simpa only [Payments.transitioned, keptIds]
          using integrity.allocationPayments
      receiptPayments := by
        simpa only [Payments.transitioned, keptIds]
          using integrity.receiptPayments }

theorem Integrity.refunded (integrity : Integrity tables) {payment : Payment}
    {row : CreateRefundInput}
    (permitted : RefundPermitted tables payment row) :
    Integrity (refunded tables row) :=
  { integrity with
    refundPayments := by
      have listed : payment.id ∈ tables.payments.map Payment.id :=
        mem_map_of_findBy permitted.foundPayment
      rw [← permitted.ownPayment] at listed
      exact references_concat integrity.refundPayments listed
    linkRefunds := by
      apply references_append_rows
      · exact references_append_targets _ integrity.linkRefunds
      · intro link member
        simp only [CreateRefundInput.linkRows, List.mem_map] at member
        obtain ⟨allocationId, -, rfl⟩ := member
        simp [Payments.refunded, CreateRefundInput.row]
    linkAllocations := by
      apply references_append_rows integrity.linkAllocations
      intro link member
      simp only [CreateRefundInput.linkRows, List.mem_map,
        Option.mem_toList] at member
      obtain ⟨allocationId, named, rfl⟩ := member
      obtain ⟨allocation, found, -⟩ := permitted.linkable allocationId named
      exact mem_map_of_findBy found }

theorem Integrity.allocated (integrity : Integrity tables)
    {payment : Payment} {installment : Installment} {plan : PaymentPlan}
    {row : PaymentAllocation}
    (permitted : AllocationPermitted tables payment installment plan row) :
    Integrity (allocated tables row) :=
  { integrity with
    allocationIds :=
      nodup_map_concat integrity.allocationIds permitted.freshId
    linkAllocations :=
      references_append_targets _ integrity.linkAllocations
    allocationPayments :=
      references_concat integrity.allocationPayments
        (mem_map_of_findBy permitted.foundPayment)
    allocationInstallments :=
      references_concat integrity.allocationInstallments
        (mem_map_of_findBy permitted.foundInstallment)
    reversalAllocations :=
      references_append_targets _ integrity.reversalAllocations }

theorem Integrity.unallocated (integrity : Integrity tables)
    {allocation : PaymentAllocation} {row : PaymentAllocationReversal}
    (foundAllocation :
      findBy PaymentAllocation.id row.paymentAllocationId
        tables.allocations = some allocation) :
    Integrity (unallocated tables row) :=
  { integrity with
    reversalAllocations :=
      references_concat integrity.reversalAllocations
        (mem_map_of_findBy foundAllocation) }

theorem Integrity.commit (integrity : Integrity tables)
    (commit : Commit tables kind after) : Integrity after := by
  cases commit with
  | bookingAdded booking freshId =>
      exact
        { integrity with
          bookingIds := nodup_map_concat integrity.bookingIds freshId
          planBookings :=
            references_append_targets _ integrity.planBookings
          paymentBookings :=
            references_append_targets _ integrity.paymentBookings }
  | bookingStatusChanged bookingId status =>
      exact integrity.updateBookings _ (map_updateBy_of_kept fun _ => rfl)
  | assignmentsChanged staffAssignments =>
      exact { integrity with }
  | financialsSet bookingId totalAmount currencyCode logs unlocked =>
      have repriced :
          Integrity (repriced tables bookingId totalAmount currencyCode) :=
        integrity.updateBookings _ (map_updateBy_of_kept fun _ => rfl)
      exact repriced.audited logs
  | planProposed booking rows logs permitted =>
      exact (integrity.proposed permitted).audited logs
  | planApproved plan booking totalAmount row logs permitted =>
      have replanned :=
        integrity.replanned plan.id (approval_id row) (approval_bookingId row)
      exact replanned.audited logs
  | planWithdrawn plan row logs foundPlan isProposed =>
      have replanned :=
        integrity.replanned plan.id (withdrawal_id row)
          (withdrawal_bookingId row)
      exact replanned.audited logs
  | paymentRecorded booking row logs permitted =>
      exact (integrity.recorded permitted).audited logs
  | paymentConfirmed payment entry logs foundPayment ownEntry pending =>
      exact (integrity.transitioned _ foundPayment ownEntry).audited logs
  | paymentReversed payment entry logs foundPayment ownEntry confirmed
      unrefunded =>
      exact (integrity.transitioned _ foundPayment ownEntry).audited logs
  | refundIssued payment row logs permitted remaining =>
      exact (integrity.refunded permitted).audited logs
  | refundCompleted payment row entry logs permitted ownEntry completes =>
      have refunded := integrity.refunded permitted
      have transitioned :=
        refunded.transitioned .refunded permitted.foundPayment ownEntry
      exact transitioned.audited logs
  | allocationCreated payment installment plan row logs permitted =>
      exact (integrity.allocated permitted).audited logs
  | allocationReversed allocation row logs foundAllocation notReversed
      notLinked =>
      exact (integrity.unallocated foundAllocation).audited logs
  | receiptIssued payment booking row logs foundPayment foundBooking
      sameAmount sameCurrency =>
      exact
        { integrity with
          receiptPayments :=
            references_concat integrity.receiptPayments
              (mem_map_of_findBy foundPayment) }

theorem integrity_tablesAfter (requests : List Request) :
    Integrity (tablesAfter requests) :=
  invariant_of_commits integrity_empty
    (fun _ _ _ integrity commit => integrity.commit commit) requests

/-- What every commit to sound tables preserves holds after any requests. -/
theorem invariant_of_sound_commits {invariant : Tables → Prop}
    (initial : invariant Tables.empty)
    (preserved :
      ∀ current kind after,
        Integrity current → invariant current →
          Commit current kind after → invariant after)
    (requests : List Request) :
    invariant (tablesAfter requests) := by
  have together :
      Integrity (tablesAfter requests) ∧
        invariant (tablesAfter requests) := by
    refine
      @invariant_of_commits
        (fun current => Integrity current ∧ invariant current) ?_ ?_ requests
    · exact ⟨integrity_empty, initial⟩
    · intro current kind after holds commit
      exact
        ⟨holds.1.commit commit,
          preserved current kind after holds.1 holds.2 commit⟩
  exact together.2

end Heritage.Payments
