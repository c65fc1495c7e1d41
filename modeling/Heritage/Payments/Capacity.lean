import Heritage.Payments.Persistence
import Heritage.Payments.Solvency

/-!
# Capacity of the installments

Every allocation pays an installment of an approved plan of its payment's own
booking.  An installment is never filled beyond its amount, and nothing but a
new allocation fills it further.
-/

namespace Heritage.Payments

open Heritage.Store
open Repository

/-- The payment and the installment of an allocation are of one booking, and
the installment's plan is approved. -/
def Placed (tables : Tables) (allocation : PaymentAllocation) : Prop :=
  ∃ payment installment plan,
    findBy Payment.id allocation.paymentId tables.payments =
        some payment ∧
      findBy Installment.id allocation.installmentId tables.installments =
        some installment ∧
      findBy PaymentPlan.id installment.paymentPlanId tables.paymentPlans =
        some plan ∧
      plan.bookingId = payment.bookingId ∧
      plan.status = .approved

variable {tables after : Tables} {kind : WriteKind}

/-- A placed allocation stays placed: approved plans never change again. -/
theorem Placed.extends (integrityAfter : Integrity after)
    (grew : Extends tables after) {allocation : PaymentAllocation}
    (placed : Placed tables allocation) : Placed after allocation := by
  obtain ⟨payment, installment, plan, foundPayment, foundInstallment,
    foundPlan, sameBooking, approved⟩ := placed
  obtain ⟨laterPayment, foundLater, -, keptBooking, -⟩ :=
    grew.findPayment foundPayment
  have settled : plan.status ≠ .proposed := by
    rw [approved]
    decide
  have planMember : plan ∈ after.paymentPlans :=
    grew.settledPlans plan (mem_of_findBy foundPlan) settled
  have foundLaterPlan :
      findBy PaymentPlan.id installment.paymentPlanId after.paymentPlans =
        some plan := by
    have foundSelf := findBy_of_mem integrityAfter.planIds planMember
    rw [key_of_findBy foundPlan] at foundSelf
    exact foundSelf
  exact
    ⟨laterPayment, installment, plan, foundLater,
      findBy_of_grown grew.installments foundInstallment, foundLaterPlan,
      sameBooking.trans keptBooking.symm, approved⟩

theorem placed_commit (integrity : Integrity tables)
    (placed : ∀ allocation ∈ tables.allocations, Placed tables allocation)
    (commit : Commit tables kind after) :
    ∀ allocation ∈ after.allocations, Placed after allocation := by
  have grew := Extends.commit integrity commit
  have integrityAfter := integrity.commit commit
  have old :
      ∀ allocation ∈ tables.allocations, Placed after allocation :=
    fun allocation member =>
      (placed allocation member).extends integrityAfter grew
  cases commit with
  | allocationCreated payment installment plan row logs permitted =>
      intro allocation member
      rcases List.mem_append.mp member with earlier | new
      · exact old allocation earlier
      · rw [List.mem_singleton.mp new]
        exact
          ⟨payment, installment, plan, permitted.foundPayment,
            permitted.foundInstallment, permitted.foundPlan,
            permitted.sameBooking, permitted.approved⟩
  | _ =>
      exact old

theorem placed_tablesAfter (requests : List Request) :
    ∀ allocation ∈ (tablesAfter requests).allocations,
      Placed (tablesAfter requests) allocation := by
  refine
    @invariant_of_sound_commits
      (fun current =>
        ∀ allocation ∈ current.allocations, Placed current allocation)
      ?_ ?_ requests
  · intro allocation member
    exact absurd member List.not_mem_nil
  · intro current kind next integrity placed commit
    exact placed_commit integrity placed commit

theorem findPayment_transitioned (paymentId : Uuid)
    (newStatus : PaymentStatus) (entry : PaymentStatusHistory)
    (sought : Uuid) :
    findBy Payment.id sought
        (transitioned tables paymentId newStatus entry).payments =
      (findBy Payment.id sought tables.payments).map fun payment =>
        if payment.id = paymentId then withStatus newStatus payment
        else payment :=
  findBy_updateBy fun _ => rfl

theorem isCounted_transitioned_other {paymentId : Uuid}
    {newStatus : PaymentStatus} {entry : PaymentStatusHistory}
    {allocation : PaymentAllocation}
    (other : allocation.paymentId ≠ paymentId) :
    isCounted (transitioned tables paymentId newStatus entry) allocation =
      isCounted tables allocation := by
  unfold isCounted
  rw [findPayment_transitioned]
  cases found :
      findBy Payment.id allocation.paymentId tables.payments with
  | none =>
      rfl
  | some payment =>
      have notTarget : payment.id ≠ paymentId := by
        rw [key_of_findBy found]
        exact other
      simp [notTarget]

theorem isCounted_transitioned_self {paymentId : Uuid}
    {newStatus : PaymentStatus} {entry : PaymentStatusHistory}
    {allocation : PaymentAllocation} {payment : Payment}
    (found : findBy Payment.id paymentId tables.payments = some payment)
    (own : allocation.paymentId = paymentId) :
    isCounted (transitioned tables paymentId newStatus entry) allocation =
      newStatus.counts := by
  unfold isCounted
  rw [findPayment_transitioned, own, found]
  simp [key_of_findBy found]

/-- The weight of an allocation only falls when neither its net weight nor
its payment's standing rises. -/
theorem countedWeight_le {allocation : PaymentAllocation}
    (lighter : netWeight after allocation ≤ netWeight tables allocation)
    (nonnegative : 0 ≤ netWeight tables allocation)
    (counted :
      isCounted after allocation = true →
        isCounted tables allocation = true) :
    countedWeight after allocation ≤ countedWeight tables allocation := by
  unfold countedWeight
  cases countedAfter : isCounted after allocation with
  | true =>
      rw [counted countedAfter]
      exact lighter
  | false =>
      cases isCounted tables allocation with
      | true =>
          exact nonnegative
      | false =>
          exact le_refl _

/-- Lighter allocations fill an installment less. -/
theorem netActiveOfInstallment_le
    (sameAllocations : after.allocations = tables.allocations)
    (lighter :
      ∀ allocation ∈ tables.allocations,
        countedWeight after allocation ≤ countedWeight tables allocation)
    (installmentId : Uuid) :
    netActiveOfInstallment after installmentId ≤
      netActiveOfInstallment tables installmentId := by
  unfold netActiveOfInstallment
  rw [sameAllocations]
  exact
    groupSum_le_groupSum fun allocation member _ =>
      lighter allocation member

theorem refunded_netWeight_le {payment : Payment} {row : CreateRefundInput}
    {allocation : PaymentAllocation}
    (permitted : RefundPermitted tables payment row) :
    netWeight (refunded tables row) allocation ≤
      netWeight tables allocation := by
  by_cases linked : row.allocationId = some allocation.id
  · obtain ⟨-, -, -, notReversed, -⟩ := permitted.linkable _ linked
    rw [refunded_netWeight_of_linked row linked notReversed]
    have positive := row.amount.positive
    omega
  · rw [refunded_netWeight_of_other row linked]

section Lighter

variable (solvent : Solvent tables)
variable {allocation : PaymentAllocation}
variable (member : allocation ∈ tables.allocations)

include solvent member

theorem Solvent.netWeight_nonneg : 0 ≤ netWeight tables allocation :=
  Payments.netWeight_nonneg
    (solvent.allocations allocation member).linkedWithin

theorem recorded_lighter {row : CreatePendingPaymentInput}
    (integrity : Integrity tables) :
    countedWeight (recorded tables row) allocation ≤
      countedWeight tables allocation := by
  refine countedWeight_le ?_ (solvent.netWeight_nonneg member) ?_
  · exact le_refl _
  intro counted
  have listed :
      allocation.paymentId ∈ tables.payments.map Payment.id :=
    integrity.allocationPayments (List.mem_map_of_mem member)
  obtain ⟨payment, found⟩ := exists_findBy_of_mem_map listed
  unfold isCounted recorded at counted
  unfold isCounted
  rw [findBy_append_of_found _ found] at counted
  rw [found]
  exact counted

theorem confirmed_lighter {payment : Payment} {entry : PaymentStatusHistory}
    (foundPayment :
      findBy Payment.id payment.id tables.payments = some payment)
    (pending : payment.status = .pending) :
    countedWeight (transitioned tables payment.id .confirmed entry)
        allocation ≤
      countedWeight tables allocation := by
  refine countedWeight_le ?_ (solvent.netWeight_nonneg member) ?_
  · exact le_refl _
  -- A pending payment has no allocation, so confirming it counts none.
  have other : allocation.paymentId ≠ payment.id :=
    (solvent.payments payment (mem_of_findBy foundPayment)).unallocated
      pending allocation member
  rw [isCounted_transitioned_other other]
  exact id

theorem reversed_lighter {payment : Payment} {entry : PaymentStatusHistory}
    (foundPayment :
      findBy Payment.id payment.id tables.payments = some payment) :
    countedWeight (transitioned tables payment.id .reversed entry)
        allocation ≤
      countedWeight tables allocation := by
  refine countedWeight_le ?_ (solvent.netWeight_nonneg member) ?_
  · exact le_refl _
  by_cases own : allocation.paymentId = payment.id
  · rw [isCounted_transitioned_self foundPayment own]
    simp [PaymentStatus.counts]
  · rw [isCounted_transitioned_other own]
    exact id

theorem refundIssued_lighter {payment : Payment} {row : CreateRefundInput}
    (permitted : RefundPermitted tables payment row) :
    countedWeight (refunded tables row) allocation ≤
      countedWeight tables allocation :=
  countedWeight_le (refunded_netWeight_le permitted)
    (solvent.netWeight_nonneg member) id

theorem refundCompleted_lighter {payment : Payment}
    {row : CreateRefundInput} {entry : PaymentStatusHistory}
    (permitted : RefundPermitted tables payment row) :
    countedWeight
        (transitioned (refunded tables row) payment.id .refunded entry)
        allocation ≤
      countedWeight tables allocation := by
  have lighter :
      netWeight
          (transitioned (refunded tables row) payment.id .refunded entry)
          allocation ≤
        netWeight tables allocation :=
    refunded_netWeight_le permitted
  apply countedWeight_le lighter (solvent.netWeight_nonneg member)
  intro counted
  by_cases own : allocation.paymentId = payment.id
  · unfold isCounted
    rw [own, permitted.foundPayment]
    simp [permitted.confirmed, PaymentStatus.counts]
  · rw [isCounted_transitioned_other own] at counted
    exact counted

theorem unallocated_lighter {row : PaymentAllocationReversal} :
    countedWeight (unallocated tables row) allocation ≤
      countedWeight tables allocation :=
  countedWeight_le
    (unallocated_netWeight_le
      (solvent.allocations allocation member).linkedWithin)
    (solvent.netWeight_nonneg member) id

end Lighter

/-- No write but an allocation raises what an installment holds. -/
theorem netActiveOfInstallment_commit_le (integrity : Integrity tables)
    (solvent : Solvent tables) (commit : Commit tables kind after)
    (otherKind : kind ≠ .allocation) (installmentId : Uuid) :
    netActiveOfInstallment after installmentId ≤
      netActiveOfInstallment tables installmentId := by
  cases commit with
  | paymentRecorded booking row logs permitted =>
      rw [(SameLedger.of_audited logs).netActiveOfInstallment]
      apply netActiveOfInstallment_le
      · rfl
      · intro allocation member
        exact recorded_lighter solvent member integrity
  | paymentConfirmed payment entry logs foundPayment ownEntry pending =>
      rw [(SameLedger.of_audited logs).netActiveOfInstallment]
      apply netActiveOfInstallment_le
      · rfl
      · intro allocation member
        exact confirmed_lighter solvent member foundPayment pending
  | paymentReversed payment entry logs foundPayment ownEntry confirmed
      unrefunded =>
      rw [(SameLedger.of_audited logs).netActiveOfInstallment]
      apply netActiveOfInstallment_le
      · rfl
      · intro allocation member
        exact reversed_lighter solvent member foundPayment
  | refundIssued payment row logs permitted remaining =>
      rw [(SameLedger.of_audited logs).netActiveOfInstallment]
      apply netActiveOfInstallment_le
      · rfl
      · intro allocation member
        exact refundIssued_lighter solvent member permitted
  | refundCompleted payment row entry logs permitted ownEntry completes =>
      rw [(SameLedger.of_audited logs).netActiveOfInstallment]
      apply netActiveOfInstallment_le
      · rfl
      · intro allocation member
        exact refundCompleted_lighter solvent member permitted
  | allocationCreated payment installment plan row logs permitted =>
      exact absurd rfl otherKind
  | allocationReversed allocation row logs foundAllocation notReversed
      notLinked =>
      rw [(SameLedger.of_audited logs).netActiveOfInstallment]
      apply netActiveOfInstallment_le
      · rfl
      · intro allocation member
        exact unallocated_lighter solvent member
  | _ =>
      exact le_refl _

/-! ## The cap -/

/-- No installment holds more than its amount. -/
def Capped (tables : Tables) : Prop :=
  ∀ installment ∈ tables.installments,
    netActiveOfInstallment tables installment.id ≤ installment.amount.value

/-- An installment that is not stored holds nothing. -/
theorem netActiveOfInstallment_of_unknown (integrity : Integrity tables)
    {installmentId : Uuid}
    (unknown : installmentId ∉ tables.installments.map Installment.id) :
    netActiveOfInstallment tables installmentId = 0 := by
  apply groupSum_eq_zero
  intro allocation member sameInstallment
  exact
    unknown
      (integrity.allocationInstallments
        (sameInstallment ▸ List.mem_map_of_mem member))

theorem Capped.proposed (integrity : Integrity tables)
    (capped : Capped tables) {booking : Booking}
    {rows : CreatePaymentPlanInput}
    (permitted : ProposalPermitted tables booking rows) :
    Capped (proposed tables rows) := by
  intro installment member
  have unmoved :
      netActiveOfInstallment (Payments.proposed tables rows) installment.id =
        netActiveOfInstallment tables installment.id := rfl
  rw [unmoved]
  rcases List.mem_append.mp member with old | new
  · exact capped installment old
  · have distinct := permitted.distinctInstallments
    rw [List.map_append, List.nodup_append] at distinct
    have unknown :
        installment.id ∉ tables.installments.map Installment.id :=
      fun listed =>
        distinct.2.2 _ listed _ (List.mem_map_of_mem new) rfl
    rw [netActiveOfInstallment_of_unknown integrity unknown]
    exact installment.amount.positive.le

theorem Capped.allocated (integrity : Integrity tables)
    (capped : Capped tables) {payment : Payment} {installment : Installment}
    {plan : PaymentPlan} {row : PaymentAllocation}
    (permitted : AllocationPermitted tables payment installment plan row) :
    Capped (allocated tables row) := by
  intro target member
  have appended :
      netActiveOfInstallment (Payments.allocated tables row) target.id =
        netActiveOfInstallment tables target.id +
          (if row.installmentId = target.id then countedWeight tables row
            else 0) :=
    groupSum_concat row
  rw [appended]
  by_cases own : row.installmentId = target.id
  · have foundTarget := findBy_of_mem integrity.installmentIds member
    have foundOwn := permitted.foundInstallment
    rw [own] at foundOwn
    have same : installment = target :=
      Option.some.inj (foundOwn.symm.trans foundTarget)
    have room := permitted.withinInstallment
    rw [own, same] at room
    have weight : countedWeight tables row ≤ row.amount.value := by
      have full := netWeight_of_fresh integrity permitted.freshId
      have positive := row.amount.positive
      unfold countedWeight
      split <;> omega
    rw [if_pos own]
    omega
  · rw [if_neg own, add_zero]
    exact capped target member

theorem Capped.commit (integrity : Integrity tables)
    (solvent : Solvent tables) (capped : Capped tables)
    (commit : Commit tables kind after) : Capped after := by
  have falls :
      kind ≠ .allocation →
        after.installments = tables.installments → Capped after := by
    intro otherKind sameInstallments installment member
    rw [sameInstallments] at member
    exact
      (netActiveOfInstallment_commit_le integrity solvent commit otherKind
        installment.id).trans (capped installment member)
  cases commit with
  | planProposed booking rows logs permitted =>
      exact capped.proposed integrity permitted
  | allocationCreated payment installment plan row logs permitted =>
      exact capped.allocated integrity permitted
  | _ =>
      exact falls (by simp) rfl

theorem capped_tablesAfter (requests : List Request) :
    Capped (tablesAfter requests) := by
  have together :
      Solvent (tablesAfter requests) ∧ Capped (tablesAfter requests) := by
    refine
      @invariant_of_sound_commits
        (fun current => Solvent current ∧ Capped current) ?_ ?_ requests
    · refine ⟨solvent_empty, ?_⟩
      intro installment member
      exact absurd member List.not_mem_nil
    · intro current kind next integrity holds commit
      exact
        ⟨holds.1.commit integrity commit,
          holds.2.commit integrity holds.1 commit⟩
  exact together.2

/-- Placement and cap, as the service's own queries report them. -/
def InstallmentsRespected (tables : Tables) : Prop :=
  (∀ allocation ∈ tables.allocations,
    ∃ payment ∈ tables.payments,
      ∃ installment ∈ tables.installments,
        ∃ plan ∈ tables.paymentPlans,
          payment.id = allocation.paymentId ∧
            installment.id = allocation.installmentId ∧
            plan.id = installment.paymentPlanId ∧
            plan.bookingId = payment.bookingId ∧
            plan.status = .approved) ∧
  ∀ installment ∈ tables.installments,
    0 ≤ sumNetActiveAllocationsForInstallment tables installment.id ∧
      sumNetActiveAllocationsForInstallment tables installment.id ≤
        installment.amount.value

/-- The installments are respected after any requests, and a next request
that is not `createAllocation` raises what no installment holds. -/
theorem installment_cap (requests : List Request) :
    InstallmentsRespected (tablesAfter requests) ∧
      ∀ request : Request, request.kind ≠ .allocation →
        ∀ installmentId,
          sumNetActiveAllocationsForInstallment
              (step (tablesAfter requests) request) installmentId ≤
            sumNetActiveAllocationsForInstallment (tablesAfter requests)
              installmentId := by
  have solvent := solvent_tablesAfter requests
  refine ⟨⟨?_, ?_⟩, ?_⟩
  · intro allocation member
    obtain ⟨payment, installment, plan, foundPayment, foundInstallment,
      foundPlan, sameBooking, approved⟩ :=
        placed_tablesAfter requests allocation member
    exact
      ⟨payment, mem_of_findBy foundPayment,
        installment, mem_of_findBy foundInstallment,
        plan, mem_of_findBy foundPlan,
        key_of_findBy foundPayment, key_of_findBy foundInstallment,
        key_of_findBy foundPlan, sameBooking, approved⟩
  · intro installment member
    rw [sumNetActiveAllocationsForInstallment_eq]
    refine ⟨?_, capped_tablesAfter requests installment member⟩
    exact
      groupSum_nonneg fun allocation allocationMember _ =>
        countedWeight_nonneg
          (solvent.allocations allocation allocationMember).linkedWithin
  · intro request otherKind installmentId
    simp only [sumNetActiveAllocationsForInstallment_eq]
    rcases step_commits (tablesAfter requests) request with silent | commit
    · rw [silent]
    · exact
        netActiveOfInstallment_commit_le (integrity_tablesAfter requests)
          solvent commit otherKind installmentId

end Heritage.Payments
