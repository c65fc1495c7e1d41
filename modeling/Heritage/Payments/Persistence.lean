import Heritage.Payments.Integrity

/-!
# What later requests keep

Histories, refunds, allocations, reversals, receipts and installments are only
ever appended to.  A payment changes its status and nothing else, and a plan
that is no longer `PROPOSED` does not change at all.
-/

namespace Heritage.Payments

open Heritage.Store
open Repository

/-- The columns of a payment no operation writes again. -/
def paymentTerms (payment : Payment) : Payment :=
  withStatus .pending payment

/-- The columns of a plan no operation writes again. -/
def planTerms (plan : PaymentPlan) : Uuid × Uuid × Uuid × Uuid :=
  (plan.id, plan.bookingId, plan.clientId, plan.proposedByStaffUserId)

structure Extends (tables after : Tables) : Prop where
  bookings : tables.bookings.map Booking.id <+: after.bookings.map Booking.id
  paymentPlans :
    tables.paymentPlans.map planTerms <+: after.paymentPlans.map planTerms
  settledPlans :
    ∀ plan ∈ tables.paymentPlans, plan.status ≠ .proposed →
      plan ∈ after.paymentPlans
  installments : tables.installments <+: after.installments
  payments :
    tables.payments.map paymentTerms <+: after.payments.map paymentTerms
  statusHistory : tables.statusHistory <+: after.statusHistory
  refunds : tables.refunds <+: after.refunds
  refundLinks :
    ∀ refund ∈ tables.refunds,
      linkedAllocation after refund.id = linkedAllocation tables refund.id
  allocations : tables.allocations <+: after.allocations
  allocationReversals :
    tables.allocationReversals <+: after.allocationReversals
  receipts : tables.receipts <+: after.receipts

variable {tables middle after : Tables} {kind : WriteKind}

theorem Extends.refl (tables : Tables) : Extends tables tables where
  bookings := List.prefix_rfl
  paymentPlans := List.prefix_rfl
  settledPlans := fun _ member _ => member
  installments := List.prefix_rfl
  payments := List.prefix_rfl
  statusHistory := List.prefix_rfl
  refunds := List.prefix_rfl
  refundLinks := fun _ _ => rfl
  allocations := List.prefix_rfl
  allocationReversals := List.prefix_rfl
  receipts := List.prefix_rfl

theorem Extends.trans (first : Extends tables middle)
    (second : Extends middle after) : Extends tables after where
  bookings := first.bookings.trans second.bookings
  paymentPlans := first.paymentPlans.trans second.paymentPlans
  settledPlans := by
    intro plan member settled
    exact
      second.settledPlans plan (first.settledPlans plan member settled)
        settled
  installments := first.installments.trans second.installments
  payments := first.payments.trans second.payments
  statusHistory := first.statusHistory.trans second.statusHistory
  refunds := first.refunds.trans second.refunds
  refundLinks := by
    intro refund member
    rw [second.refundLinks refund (first.refunds.subset member)]
    exact first.refundLinks refund member
  allocations := first.allocations.trans second.allocations
  allocationReversals :=
    first.allocationReversals.trans second.allocationReversals
  receipts := first.receipts.trans second.receipts

theorem Extends.audited (grew : Extends tables after) (logs : List AuditLog) :
    Extends tables (audited after logs) :=
  { grew with }

/-- A column that an update keeps only grows. -/
theorem prefix_map_updateBy {ρ κ τ : Type*} [DecidableEq κ] {key : ρ → κ}
    {sought : κ} {change : ρ → ρ} {rows : List ρ} {column : ρ → τ}
    (kept : ∀ row, column (change row) = column row) :
    rows.map column <+: (updateBy key sought change rows).map column := by
  rw [map_updateBy_of_kept kept]

/-- An inserted row only makes a column grow. -/
theorem prefix_map_append {ρ τ : Type*} {column : ρ → τ}
    (rows inserted : List ρ) :
    rows.map column <+: (rows ++ inserted).map column := by
  rw [List.map_append]
  exact List.prefix_append _ _

theorem Extends.replanned (integrity : Integrity tables) {plan : PaymentPlan}
    {change : PaymentPlan → PaymentPlan}
    (foundPlan :
      findBy PaymentPlan.id plan.id tables.paymentPlans = some plan)
    (isProposed : plan.status = .proposed)
    (kept : ∀ row, planTerms (change row) = planTerms row) :
    Extends tables (replanned tables plan.id change) :=
  { Extends.refl tables with
    paymentPlans := prefix_map_updateBy kept
    settledPlans := by
      intro settledPlan member settled
      have different : settledPlan.id ≠ plan.id := by
        intro same
        have foundSettled := findBy_of_mem integrity.planIds member
        rw [same, foundPlan] at foundSettled
        cases foundSettled
        exact settled isProposed
      have updated :
          (if settledPlan.id = plan.id then change settledPlan
            else settledPlan) ∈
          updateBy PaymentPlan.id plan.id change tables.paymentPlans :=
        mem_updateBy_of_mem member
      rw [if_neg different] at updated
      exact updated }

theorem Extends.transitioned (paymentId : Uuid) (newStatus : PaymentStatus)
    (entry : PaymentStatusHistory) :
    Extends tables (transitioned tables paymentId newStatus entry) :=
  { Extends.refl tables with
    payments := prefix_map_updateBy fun _ => rfl
    statusHistory := List.prefix_append _ _ }

theorem Extends.refunded (row : CreateRefundInput)
    (freshId : findBy PaymentRefund.id row.id tables.refunds = none) :
    Extends tables (refunded tables row) :=
  { Extends.refl tables with
    refunds := List.prefix_append _ _
    refundLinks := by
      intro refund member
      have otherRefund : row.id ≠ refund.id := fun same =>
        findBy_eq_none_iff.mp freshId refund member same.symm
      have noNewLink :
          findBy PaymentRefundAllocation.paymentRefundId refund.id
            row.linkRows = none := by
        apply findBy_eq_none_iff.mpr
        intro link linkMember
        simp only [CreateRefundInput.linkRows, List.mem_map] at linkMember
        obtain ⟨_, -, rfl⟩ := linkMember
        exact otherRefund
      unfold linkedAllocation Payments.refunded
      rw [findBy_append, noNewLink, Option.or_none] }

theorem Extends.commit (integrity : Integrity tables)
    (commit : Commit tables kind after) : Extends tables after := by
  have unchanged := Extends.refl tables
  cases commit with
  | bookingAdded booking freshId =>
      exact { unchanged with bookings := prefix_map_append _ _ }
  | bookingStatusChanged bookingId status =>
      exact
        { unchanged with bookings := prefix_map_updateBy fun _ => rfl }
  | assignmentsChanged staffAssignments =>
      exact { unchanged with }
  | financialsSet bookingId totalAmount currencyCode logs unlocked =>
      exact
        { unchanged with bookings := prefix_map_updateBy fun _ => rfl }
  | planProposed booking rows logs permitted =>
      exact
        { unchanged with
          paymentPlans := prefix_map_append _ _
          settledPlans := fun _ member _ => List.mem_append_left _ member
          installments := List.prefix_append _ _ }
  | planApproved plan booking totalAmount row logs permitted =>
      have replanned :
          Extends tables (Payments.replanned tables plan.id row.change) :=
        Extends.replanned integrity permitted.foundPlan
          permitted.isProposed fun _ => rfl
      exact replanned.audited logs
  | planWithdrawn plan row logs foundPlan isProposed =>
      have replanned :
          Extends tables (Payments.replanned tables plan.id row.change) :=
        Extends.replanned integrity foundPlan isProposed fun _ => rfl
      exact replanned.audited logs
  | paymentRecorded booking row logs permitted =>
      exact
        { unchanged with
          payments := prefix_map_append _ _
          statusHistory := List.prefix_append _ _ }
  | paymentConfirmed payment entry logs foundPayment ownEntry pending =>
      exact (Extends.transitioned payment.id .confirmed entry).audited logs
  | paymentReversed payment entry logs foundPayment ownEntry confirmed
      unrefunded =>
      exact (Extends.transitioned payment.id .reversed entry).audited logs
  | refundIssued payment row logs permitted remaining =>
      exact (Extends.refunded row permitted.freshId).audited logs
  | refundCompleted payment row entry logs permitted ownEntry completes =>
      have issued := Extends.refunded row permitted.freshId
      have completed :=
        issued.trans (Extends.transitioned payment.id .refunded entry)
      exact completed.audited logs
  | allocationCreated payment installment plan row logs permitted =>
      exact { unchanged with allocations := List.prefix_append _ _ }
  | allocationReversed allocation row logs foundAllocation notReversed
      notLinked =>
      exact
        { unchanged with allocationReversals := List.prefix_append _ _ }
  | receiptIssued payment booking row logs foundPayment foundBooking
      sameAmount sameCurrency =>
      exact { unchanged with receipts := List.prefix_append _ _ }

theorem extends_step (integrity : Integrity tables) (request : Request) :
    Extends tables (step tables request) := by
  rcases step_commits tables request with silent | commit
  · rw [silent]
    exact Extends.refl tables
  · exact Extends.commit integrity commit

theorem integrity_step (integrity : Integrity tables) (request : Request) :
    Integrity (step tables request) := by
  rcases step_commits tables request with silent | commit
  · rw [silent]
    exact integrity
  · exact integrity.commit commit

/-- Later requests only extend the tables. -/
theorem extends_run (integrity : Integrity tables)
    (requests : List Request) : Extends tables (run step tables requests) :=
  run_related Extends.refl Extends.trans
    (fun _ request holds => integrity_step holds request)
    (fun _ request holds => extends_step holds request) integrity requests

/-- A stored payment keeps everything but its status. -/
theorem Extends.findPaymentTerms (grew : Extends tables after)
    {paymentId : Uuid} {payment : Payment}
    (found : findBy Payment.id paymentId tables.payments = some payment) :
    ∃ later,
      findBy Payment.id paymentId after.payments = some later ∧
        paymentTerms later = paymentTerms payment :=
  findBy_of_column_grown Payment.id (fun _ => rfl) grew.payments found

theorem Extends.findPayment (grew : Extends tables after) {paymentId : Uuid}
    {payment : Payment}
    (found : findBy Payment.id paymentId tables.payments = some payment) :
    ∃ later,
      findBy Payment.id paymentId after.payments = some later ∧
        later.id = payment.id ∧
        later.bookingId = payment.bookingId ∧
        later.amount = payment.amount := by
  obtain ⟨later, foundLater, sameTerms⟩ := grew.findPaymentTerms found
  simp only [paymentTerms, withStatus, Payment.mk.injEq] at sameTerms
  exact
    ⟨later, foundLater, sameTerms.1, sameTerms.2.1, sameTerms.2.2.2.1⟩

theorem Extends.findHistory (grew : Extends tables after)
    {idempotencyKey : String} {history : PaymentStatusHistory}
    (found :
      findStatusHistoryByIdempotencyKey tables idempotencyKey =
        some history) :
    findStatusHistoryByIdempotencyKey after idempotencyKey = some history :=
  findBy_of_grown grew.statusHistory found

theorem Extends.findRefund (grew : Extends tables after)
    {idempotencyKey : String} {existing : RefundIdempotencyRecord}
    (found :
      findRefundByIdempotencyKey tables idempotencyKey = some existing) :
    findRefundByIdempotencyKey after idempotencyKey = some existing := by
  obtain ⟨refund, foundRefund, rfl⟩ := Option.map_eq_some_iff.mp found
  apply Option.map_eq_some_iff.mpr
  refine ⟨refund, findBy_of_grown grew.refunds foundRefund, ?_⟩
  rw [grew.refundLinks refund (mem_of_findBy foundRefund)]

theorem Extends.findAllocation (grew : Extends tables after)
    {idempotencyKey : String} {record : AllocationRecord}
    (found :
      findAllocationByIdempotencyKey tables idempotencyKey = some record) :
    findAllocationByIdempotencyKey after idempotencyKey = some record := by
  obtain ⟨allocation, foundAllocation, rfl⟩ :=
    Option.map_eq_some_iff.mp found
  apply Option.map_eq_some_iff.mpr
  exact ⟨allocation, findBy_of_grown grew.allocations foundAllocation, rfl⟩

theorem Extends.findReversal (grew : Extends tables after)
    {idempotencyKey : String} {record : AllocationReversalRecord}
    (found :
      findAllocationReversalByIdempotencyKey tables idempotencyKey =
        some record) :
    findAllocationReversalByIdempotencyKey after idempotencyKey =
      some record := by
  obtain ⟨reversal, foundReversal, rfl⟩ := Option.map_eq_some_iff.mp found
  apply Option.map_eq_some_iff.mpr
  exact
    ⟨reversal, findBy_of_grown grew.allocationReversals foundReversal, rfl⟩

end Heritage.Payments
