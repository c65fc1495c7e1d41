import Heritage.Bookings.System
import Heritage.Payments.Replay
import Heritage.Payments.Summary

/-!
# A cancelled booking takes in no more money

What the ledger says about a booking can still change after it is cancelled,
but in one direction only.  Every kind of write respects that by itself,
except the kinds whose transaction checks the booking first; for these the
check puts the write on another booking.
-/

namespace Heritage.Bookings

open Heritage.Store
open Heritage.Payments
open Heritage.Payments.Repository

/-- The plans of a booking. -/
def plansOf (tables : Tables) (bookingId : Uuid) : List PaymentPlan :=
  tables.paymentPlans.filter fun plan => plan.bookingId = bookingId

/-- The installment belongs to a plan of the booking. -/
def dueFor (tables : Tables) (bookingId : Uuid)
    (installment : Installment) : Bool :=
  (findBy PaymentPlan.id installment.paymentPlanId tables.paymentPlans).any
    fun plan => plan.bookingId = bookingId

/-- Between two states the booking's row is kept, nothing is added to it, no
plan of it is approved and no payment of it confirmed, and neither what is
paid towards it nor what fills its installments rises. -/
structure Closed (bookingId : Uuid) (tables after : Tables) : Prop where
  booking :
    findBy Booking.id bookingId after.bookings =
      findBy Booking.id bookingId tables.bookings
  payments :
    (paymentsOf after bookingId).map paymentTerms =
      (paymentsOf tables bookingId).map paymentTerms
  plans :
    (plansOf after bookingId).map planTerms =
      (plansOf tables bookingId).map planTerms
  installments :
    after.installments.filter (dueFor after bookingId) =
      tables.installments.filter (dueFor tables bookingId)
  allocations :
    after.allocations.filter (ofBooking after bookingId) =
      tables.allocations.filter (ofBooking tables bookingId)
  approved :
    ∀ plan ∈ after.paymentPlans, plan.bookingId = bookingId →
      plan.status = .approved → plan ∈ tables.paymentPlans
  confirmed :
    ∀ payment ∈ after.payments, payment.bookingId = bookingId →
      payment.status = .confirmed → payment ∈ tables.payments
  paid : paidTowards after bookingId ≤ paidTowards tables bookingId
  filled :
    ∀ installment ∈ tables.installments,
      dueFor tables bookingId installment →
        netActiveOfInstallment after installment.id ≤
          netActiveOfInstallment tables installment.id

variable {bookingId : Uuid} {tables middle after : Tables}
  {kind : WriteKind}

theorem Closed.refl (tables : Tables) : Closed bookingId tables tables where
  booking := rfl
  payments := rfl
  plans := rfl
  installments := rfl
  allocations := rfl
  approved := fun _ member _ _ => member
  confirmed := fun _ member _ _ => member
  paid := le_refl _
  filled := fun _ _ _ => le_refl _

theorem Closed.trans (first : Closed bookingId tables middle)
    (second : Closed bookingId middle after) :
    Closed bookingId tables after where
  booking := second.booking.trans first.booking
  payments := second.payments.trans first.payments
  plans := second.plans.trans first.plans
  installments := second.installments.trans first.installments
  allocations := second.allocations.trans first.allocations
  approved := by
    intro plan member own approved
    exact
      first.approved plan (second.approved plan member own approved) own
        approved
  confirmed := by
    intro payment member own confirmed
    exact
      first.confirmed payment (second.confirmed payment member own confirmed)
        own confirmed
  paid := second.paid.trans first.paid
  filled := by
    intro installment member due
    have kept :
        installment ∈ middle.installments.filter (dueFor middle bookingId) := by
      rw [first.installments]
      exact List.mem_filter.mpr ⟨member, due⟩
    obtain ⟨keptMember, keptDue⟩ := List.mem_filter.mp kept
    exact
      (second.filled installment keptMember keptDue).trans
        (first.filled installment member due)

/-- A payment contributes no more when its refunds only grew and it did not
begin to count. -/
theorem contribution_le {payment later : Payment}
    (sameAmount : later.amount = payment.amount)
    (refunds :
      sumRefundsForPayment tables payment.id ≤
        sumRefundsForPayment after later.id)
    (within : sumRefundsForPayment tables payment.id ≤ payment.amount.value)
    (counted : later.status.counts → payment.status.counts) :
    contribution after later ≤ contribution tables payment := by
  unfold contribution
  by_cases laterCounts : later.status.counts
  · rw [if_pos laterCounts, if_pos (counted laterCounts), sameAmount]
    omega
  · rw [if_neg laterCounts]
    split <;> omega

/-- A sum over rows of which some were rewritten. -/
theorem groupSum_updateBy {ρ κ ι : Type} [DecidableEq κ] [DecidableEq ι]
    {key : ρ → κ} {id : ρ → ι} {weight : ρ → Int} {sought : κ} {target : ι}
    {change : ρ → ρ} {rows : List ρ}
    (kept : ∀ row, key (change row) = key row) :
    groupSum key weight sought (updateBy id target change rows) =
      groupSum key
        (fun row => weight (if id row = target then change row else row))
        sought rows := by
  induction rows with
  | nil =>
      rfl
  | cons head tail inductionHypothesis =>
      have headKey :
          key (if id head = target then change head else head) = key head := by
        split
        · exact kept head
        · rfl
      rw [updateBy, List.map_cons, groupSum_cons, groupSum_cons, headKey,
        ← inductionHypothesis]
      rfl

/-- Payments that each contribute no more pay no more in total. -/
theorem paidTowards_transitioned_le {paymentId : Uuid}
    {newStatus : PaymentStatus} {entry : PaymentStatusHistory}
    {logs : List AuditLog}
    (samePayments : middle.payments = tables.payments)
    (lighter :
      ∀ payment ∈ tables.payments, payment.bookingId = bookingId →
        contribution middle
            (if payment.id = paymentId then withStatus newStatus payment
            else payment) ≤
          contribution tables payment) :
    paidTowards
        (audited (transitioned middle paymentId newStatus entry) logs)
        bookingId ≤
      paidTowards tables bookingId := by
  have asSum :
      paidTowards
          (audited (transitioned middle paymentId newStatus entry) logs)
          bookingId =
        groupSum Payment.bookingId (contribution middle) bookingId
          (updateBy Payment.id paymentId (withStatus newStatus)
            middle.payments) := rfl
  have keptBooking :
      ∀ payment : Payment,
        (withStatus newStatus payment).bookingId = payment.bookingId :=
    fun _ => rfl
  rw [asSum, groupSum_updateBy keptBooking, samePayments]
  exact groupSum_le_groupSum lighter

theorem refunded_contribution_le (solvent : Solvent tables)
    {row : CreateRefundInput} {payment : Payment}
    (member : payment ∈ tables.payments) :
    contribution (refunded tables row) payment ≤
      contribution tables payment := by
  apply contribution_le rfl
  · rw [refunded_sumRefunds]
    have positive := row.amount.positive
    split <;> omega
  · exact (solvent.payments payment member).refundsWithin
  · exact id

/-- No write but a confirmation raises what is paid towards a booking. -/
theorem paidTowards_commit_le (integrity : Integrity tables)
    (solvent : Solvent tables) (commit : Commit tables kind after)
    (otherKind : kind ≠ .confirmation) :
    paidTowards after bookingId ≤ paidTowards tables bookingId := by
  cases commit with
  | paymentRecorded booking row logs permitted =>
      have appended :
          paidTowards (audited (recorded tables row) logs) bookingId =
            paidTowards tables bookingId +
              (if row.row.bookingId = bookingId then
                contribution tables row.row
              else
                0) :=
        groupSum_concat row.row
      have nothing : contribution tables row.row = 0 := rfl
      rw [appended, nothing, ite_self, add_zero]
  | paymentConfirmed payment entry logs foundPayment ownEntry pending =>
      exact absurd rfl otherKind
  | paymentReversed payment entry logs foundPayment ownEntry confirmed
      unrefunded =>
      have lighter :
          ∀ other ∈ tables.payments, other.bookingId = bookingId →
            contribution tables
                (if other.id = payment.id then withStatus .reversed other
                else other) ≤
              contribution tables other := by
        intro other member _
        have within := (solvent.payments other member).refundsWithin
        split
        · exact
            contribution_le rfl (le_refl _) within
              (by simp [PaymentStatus.counts])
        · exact le_refl _
      exact paidTowards_transitioned_le rfl lighter
  | refundIssued payment row logs permitted remaining =>
      have lighter :
          groupSum Payment.bookingId (contribution (refunded tables row))
              bookingId tables.payments ≤
            groupSum Payment.bookingId (contribution tables) bookingId
              tables.payments :=
        groupSum_le_groupSum fun other member _ =>
          refunded_contribution_le solvent member
      exact lighter
  | refundCompleted payment row entry logs permitted ownEntry completes =>
      have lighter :
          ∀ other ∈ tables.payments, other.bookingId = bookingId →
            contribution (refunded tables row)
                (if other.id = payment.id then withStatus .refunded other
                else other) ≤
              contribution tables other := by
        intro other member _
        split
        · rename_i same
          have isPayment : other = payment := by
            have found := findBy_of_mem integrity.paymentIds member
            rw [same, permitted.foundPayment] at found
            exact (Option.some.inj found).symm
          have positive := row.amount.positive
          have within := permitted.within
          rw [isPayment]
          apply contribution_le (withStatus_amount .refunded payment)
          · rw [withStatus_id, refunded_sumRefunds,
              if_pos permitted.ownPayment]
            omega
          · omega
          · rw [permitted.confirmed]
            exact fun _ => rfl
        · exact refunded_contribution_le solvent member
      have samePayments : (refunded tables row).payments = tables.payments :=
        rfl
      exact paidTowards_transitioned_le samePayments lighter
  | _ =>
      exact le_refl _

/-- What the check of its booking adds to a write: it leaves this booking
alone. -/
def Guarded (bookingId : Uuid) (tables after : Tables) : WriteKind → Prop
  | .booking | .bookingStatus | .financials =>
      findBy Booking.id bookingId after.bookings =
        findBy Booking.id bookingId tables.bookings
  | .recording =>
      (paymentsOf after bookingId).map paymentTerms =
          (paymentsOf tables bookingId).map paymentTerms ∧
        after.allocations.filter (ofBooking after bookingId) =
          tables.allocations.filter (ofBooking tables bookingId)
  | .proposal =>
      (plansOf after bookingId).map planTerms =
          (plansOf tables bookingId).map planTerms ∧
        after.installments.filter (dueFor after bookingId) =
          tables.installments.filter (dueFor tables bookingId)
  | .approval =>
      ∀ plan ∈ after.paymentPlans, plan.bookingId = bookingId →
        plan.status = .approved → plan ∈ tables.paymentPlans
  | .confirmation =>
      (∀ payment ∈ after.payments, payment.bookingId = bookingId →
          payment.status = .confirmed → payment ∈ tables.payments) ∧
        paidTowards after bookingId ≤ paidTowards tables bookingId
  | .allocation =>
      after.allocations.filter (ofBooking after bookingId) =
          tables.allocations.filter (ofBooking tables bookingId) ∧
        ∀ installment ∈ tables.installments,
          dueFor tables bookingId installment →
            netActiveOfInstallment after installment.id ≤
              netActiveOfInstallment tables installment.id
  | _ => True

section Terms

variable
  (samePayments :
    after.payments.map paymentTerms = tables.payments.map paymentTerms)
  (samePlans :
    after.paymentPlans.map planTerms = tables.paymentPlans.map planTerms)

include samePayments in
theorem paymentsOf_terms :
    (paymentsOf after bookingId).map paymentTerms =
      (paymentsOf tables bookingId).map paymentTerms :=
  map_filter_of_map_eq (fun terms => terms.bookingId = bookingId)
    samePayments fun _ => rfl

include samePayments in
theorem allocations_terms
    (sameAllocations : after.allocations = tables.allocations) :
    after.allocations.filter (ofBooking after bookingId) =
      tables.allocations.filter (ofBooking tables bookingId) := by
  rw [sameAllocations]
  congr 1
  funext allocation
  exact
    any_findBy_of_map_eq Payment.id (fun terms => terms.bookingId = bookingId)
      samePayments (fun _ => rfl) fun _ => rfl

include samePlans in
theorem plansOf_terms :
    (plansOf after bookingId).map planTerms =
      (plansOf tables bookingId).map planTerms :=
  map_filter_of_map_eq (fun terms => terms.2.1 = bookingId) samePlans
    fun _ => rfl

include samePlans in
theorem installments_terms
    (sameInstallments : after.installments = tables.installments) :
    after.installments.filter (dueFor after bookingId) =
      tables.installments.filter (dueFor tables bookingId) := by
  rw [sameInstallments]
  congr 1
  funext installment
  exact
    any_findBy_of_map_eq Prod.fst (fun terms => terms.2.1 = bookingId)
      samePlans (fun _ => rfl) fun _ => rfl

end Terms

theorem transitioned_terms (paymentId : Uuid) (newStatus : PaymentStatus) :
    (updateBy Payment.id paymentId (withStatus newStatus)
        tables.payments).map paymentTerms =
      tables.payments.map paymentTerms :=
  map_updateBy_of_kept fun _ => rfl

theorem replanned_terms (paymentPlanId : Uuid)
    {change : PaymentPlan → PaymentPlan}
    (kept : ∀ plan, planTerms (change plan) = planTerms plan) :
    (updateBy PaymentPlan.id paymentPlanId change
        tables.paymentPlans).map planTerms =
      tables.paymentPlans.map planTerms :=
  map_updateBy_of_kept kept

theorem approved_replanned (integrity : Integrity tables)
    {plan : PaymentPlan} {change : PaymentPlan → PaymentPlan}
    (foundPlan :
      findBy PaymentPlan.id plan.id tables.paymentPlans = some plan)
    (other :
      (change plan).bookingId = bookingId → (change plan).status ≠ .approved) :
    ∀ later ∈ (replanned tables plan.id change).paymentPlans,
      later.bookingId = bookingId → later.status = .approved →
        later ∈ tables.paymentPlans := by
  intro later member own approved
  rcases mem_replanned integrity foundPlan member with rfl | ⟨kept, -⟩
  · exact absurd approved (other own)
  · exact kept

theorem confirmed_transitioned (integrity : Integrity tables)
    {payment : Payment} {newStatus : PaymentStatus}
    (foundPayment :
      findBy Payment.id payment.id tables.payments = some payment)
    (other : payment.bookingId = bookingId → newStatus ≠ .confirmed) :
    ∀ later ∈
        updateBy Payment.id payment.id (withStatus newStatus)
          tables.payments,
      later.bookingId = bookingId → later.status = .confirmed →
        later ∈ tables.payments := by
  apply
    @forall_mem_updateBy _ _ _ _ _ (withStatus newStatus) _
      (fun later =>
        later.bookingId = bookingId → later.status = .confirmed →
          later ∈ tables.payments)
      payment integrity.paymentIds foundPayment
  · intro own confirmed
    exact absurd confirmed (other own)
  · exact fun row member _ _ _ => member

/-- A write that is guarded where its kind needs it closes the booking. -/
theorem Closed.of_commit (integrity : Integrity tables)
    (solvent : Solvent tables) (commit : Commit tables kind after)
    (guarded : Guarded bookingId tables after kind) :
    Closed bookingId tables after where
  booking := by
    cases commit with
    | bookingAdded => exact guarded
    | bookingStatusChanged => exact guarded
    | financialsSet => exact guarded
    | _ => rfl
  payments := by
    cases commit with
    | paymentRecorded => exact guarded.1
    | paymentConfirmed => exact paymentsOf_terms (transitioned_terms _ _)
    | paymentReversed => exact paymentsOf_terms (transitioned_terms _ _)
    | refundCompleted => exact paymentsOf_terms (transitioned_terms _ _)
    | _ => rfl
  plans := by
    cases commit with
    | planProposed => exact guarded.1
    | planApproved => exact plansOf_terms (replanned_terms _ fun _ => rfl)
    | planWithdrawn => exact plansOf_terms (replanned_terms _ fun _ => rfl)
    | _ => rfl
  installments := by
    cases commit with
    | planProposed => exact guarded.2
    | planApproved =>
        exact installments_terms (replanned_terms _ fun _ => rfl) rfl
    | planWithdrawn =>
        exact installments_terms (replanned_terms _ fun _ => rfl) rfl
    | _ => rfl
  allocations := by
    cases commit with
    | paymentRecorded => exact guarded.2
    | allocationCreated => exact guarded.1
    | paymentConfirmed => exact allocations_terms (transitioned_terms _ _) rfl
    | paymentReversed => exact allocations_terms (transitioned_terms _ _) rfl
    | refundCompleted => exact allocations_terms (transitioned_terms _ _) rfl
    | _ => rfl
  approved := by
    cases commit with
    | planApproved => exact guarded
    | planProposed booking rows logs permitted =>
        intro plan member own approved
        rcases List.mem_append.mp member with old | new
        · exact old
        · rw [List.mem_singleton.mp new] at approved
          cases approved
    | planWithdrawn plan row logs foundPlan isProposed =>
        refine approved_replanned integrity foundPlan ?_
        intro _ approved
        cases approved
    | _ => exact fun _ member _ _ => member
  confirmed := by
    cases commit with
    | paymentConfirmed => exact guarded.1
    | paymentRecorded booking row logs permitted =>
        intro payment member own confirmed
        rcases List.mem_append.mp member with old | new
        · exact old
        · rw [List.mem_singleton.mp new] at confirmed
          cases confirmed
    | paymentReversed payment entry logs foundPayment =>
        exact confirmed_transitioned integrity foundPayment (by simp)
    | refundCompleted payment row entry logs permitted =>
        exact
          confirmed_transitioned integrity permitted.foundPayment (by simp)
    | _ => exact fun _ member _ _ => member
  paid := by
    by_cases confirms : kind = .confirmation
    · subst confirms
      exact guarded.2
    · exact paidTowards_commit_le integrity solvent commit confirms
  filled := by
    by_cases allocates : kind = .allocation
    · subst allocates
      exact guarded.2
    · intro installment _ _
      exact
        netActiveOfInstallment_commit_le integrity solvent commit allocates
          installment.id

/-! ## The guarded operations -/

section Guards

variable (cancelled : findBookingStatus tables bookingId = some .cancelled)

include cancelled in
theorem other_of_open {otherId : Uuid} (isOpen : OpenBooking tables otherId) :
    otherId ≠ bookingId := by
  rintro rfl
  exact isOpen cancelled

theorem recorded_guarded (integrity : Integrity tables)
    {row : CreatePendingPaymentInput} {logs : List AuditLog}
    (other : row.bookingId ≠ bookingId) :
    Guarded bookingId tables (audited (recorded tables row) logs)
      .recording := by
  constructor
  · have appended :
        paymentsOf (audited (recorded tables row) logs) bookingId =
          paymentsOf tables bookingId ++
            [row.row].filter fun payment => payment.bookingId = bookingId :=
      List.filter_append ..
    have notOurs :
        ([row.row].filter fun payment => payment.bookingId = bookingId) =
          [] := by
      simpa [CreatePendingPaymentInput.row] using other
    rw [appended, notOurs, List.append_nil]
  · apply List.filter_congr
    intro allocation member
    obtain ⟨payment, found⟩ :=
      exists_findBy_of_mem_map
        (integrity.allocationPayments (List.mem_map_of_mem member))
    have foundAfter :
        findBy Payment.id allocation.paymentId
            (tables.payments ++ [row.row]) =
          some payment :=
      findBy_append_of_found _ found
    unfold ofBooking
    rw [found]
    exact congrArg (fun found => Option.any _ found) foundAfter

theorem proposed_guarded (integrity : Integrity tables) {booking : Booking}
    {rows : CreatePaymentPlanInput} {logs : List AuditLog}
    (permitted : ProposalPermitted tables booking rows)
    (other : rows.bookingId ≠ bookingId) :
    Guarded bookingId tables (audited (proposed tables rows) logs)
      .proposal := by
  constructor
  · have appended :
        plansOf (audited (proposed tables rows) logs) bookingId =
          plansOf tables bookingId ++
            [rows.row].filter fun plan => plan.bookingId = bookingId :=
      List.filter_append ..
    have notOurs :
        ([rows.row].filter fun plan => plan.bookingId = bookingId) = [] := by
      simpa [CreatePaymentPlanInput.row] using other
    rw [appended, notOurs, List.append_nil]
  · have appended :
        (audited (proposed tables rows) logs).installments.filter
            (dueFor (audited (proposed tables rows) logs) bookingId) =
          tables.installments.filter
              (dueFor (audited (proposed tables rows) logs) bookingId) ++
            rows.installmentRows.filter
              (dueFor (audited (proposed tables rows) logs) bookingId) :=
      List.filter_append ..
    have notOurs :
        rows.installmentRows.filter
            (dueFor (audited (proposed tables rows) logs) bookingId) =
          [] := by
      apply List.filter_eq_nil_iff.mpr
      intro installment member
      obtain ⟨_, -, rfl⟩ := List.mem_map.mp member
      have ownPlan :
          findBy PaymentPlan.id rows.id
              (tables.paymentPlans ++ [rows.row]) =
            some rows.row :=
        @findBy_concat_self _ _ _ _ _ rows.row permitted.freshId
      have notDue :
          (findBy PaymentPlan.id rows.id
              (tables.paymentPlans ++ [rows.row])).any
              (fun plan => plan.bookingId = bookingId) =
            false := by
        rw [ownPlan]
        simpa [CreatePaymentPlanInput.row] using other
      simpa [dueFor, audited, proposed] using notDue
    rw [appended, notOurs, List.append_nil]
    apply List.filter_congr
    intro installment member
    obtain ⟨plan, found⟩ :=
      exists_findBy_of_mem_map
        (integrity.installmentPlans (List.mem_map_of_mem member))
    have foundAfter :
        findBy PaymentPlan.id installment.paymentPlanId
            (tables.paymentPlans ++ [rows.row]) =
          some plan :=
      findBy_append_of_found _ found
    unfold dueFor
    rw [found]
    exact congrArg (fun found => Option.any _ found) foundAfter

theorem confirmed_guarded (integrity : Integrity tables) {payment : Payment}
    {entry : PaymentStatusHistory} {logs : List AuditLog}
    (foundPayment :
      findBy Payment.id payment.id tables.payments = some payment)
    (other : payment.bookingId ≠ bookingId) :
    Guarded bookingId tables
      (audited (transitioned tables payment.id .confirmed entry) logs)
      .confirmation := by
  constructor
  · exact
      confirmed_transitioned integrity foundPayment fun own =>
        absurd own other
  · apply paidTowards_transitioned_le rfl
    intro row member own
    have different : row.id ≠ payment.id := by
      intro same
      have found := findBy_of_mem integrity.paymentIds member
      rw [same, foundPayment] at found
      cases found
      exact other own
    rw [if_neg different]

theorem allocated_guarded (integrity : Integrity tables) {payment : Payment}
    {installment : Installment} {plan : PaymentPlan}
    {row : PaymentAllocation} {logs : List AuditLog}
    (permitted : AllocationPermitted tables payment installment plan row)
    (other : payment.bookingId ≠ bookingId) :
    Guarded bookingId tables (audited (allocated tables row) logs)
      .allocation := by
  constructor
  · have appended :
        (audited (allocated tables row) logs).allocations.filter
            (ofBooking tables bookingId) =
          tables.allocations.filter (ofBooking tables bookingId) ++
            [row].filter (ofBooking tables bookingId) :=
      List.filter_append ..
    have notOurs : [row].filter (ofBooking tables bookingId) = [] := by
      simp [ofBooking, permitted.foundPayment, other]
    rw [notOurs, List.append_nil] at appended
    exact appended
  · intro target member due
    have different : row.installmentId ≠ target.id := by
      intro same
      have foundInstallment := permitted.foundInstallment
      rw [same, findBy_of_mem integrity.installmentIds member]
        at foundInstallment
      cases foundInstallment
      unfold dueFor at due
      rw [permitted.foundPlan] at due
      have ours : plan.bookingId = bookingId := of_decide_eq_true due
      exact other (permitted.sameBooking.symm.trans ours)
    have appended :
        netActiveOfInstallment (audited (allocated tables row) logs)
            target.id =
          netActiveOfInstallment tables target.id +
            (if row.installmentId = target.id then countedWeight tables row
              else 0) :=
      groupSum_concat row
    rw [appended, if_neg different, add_zero]

end Guards

section Operations

variable {context : RequestContext} {actor : AuthenticatedUser}
  (integrity : Integrity tables) (solvent : Solvent tables)
  (cancelled : findBookingStatus tables bookingId = some .cancelled)

include integrity solvent

/-- A write of a kind that checks no booking closes the booking as it is. -/
theorem unguarded_closed (outcome : SilentOrCommit tables kind after)
    (unguarded : Guarded bookingId tables after kind) :
    Closed bookingId tables after := by
  rcases outcome with rfl | commit
  · exact Closed.refl _
  · exact Closed.of_commit integrity solvent commit unguarded

include cancelled

theorem setBookingFinancials_closed (input : SetBookingFinancialsInput) :
    Closed bookingId tables (setBookingFinancials actor input tables).2 := by
  unfold setBookingFinancials
  apply operation_after (Closed.refl tables)
  intro paymentActor value after succeeds
  rcases setBookingFinancialsTransaction_ok succeeds with
    rfl | ⟨isOpen, unlocked, logs, -, rfl⟩
  · exact Closed.refl _
  · apply
      Closed.of_commit integrity solvent
        (.financialsSet _ _ _ logs unlocked)
    have other : bookingId ≠ input.bookingId :=
      (other_of_open cancelled isOpen).symm
    exact findBy_updateBy_other (fun _ => rfl) other

theorem proposePaymentPlan_closed (input : ProposePaymentPlanInput) :
    Closed bookingId tables
      (proposePaymentPlan context actor input tables).2 := by
  apply proposePaymentPlan_after (Closed.refl tables)
  intro paymentActor value after succeeds
  obtain ⟨booking, rows, logs, isOpen, permitted, -, rfl⟩ :=
    proposePaymentPlanTransaction_ok succeeds
  exact
    Closed.of_commit integrity solvent
      (.planProposed booking rows logs permitted)
      (proposed_guarded integrity permitted (other_of_open cancelled isOpen))

theorem approvePaymentPlan_closed (input : ApprovePaymentPlanInput) :
    Closed bookingId tables
      (approvePaymentPlan context actor input tables).2 := by
  unfold approvePaymentPlan
  apply operation_after (Closed.refl tables)
  intro paymentActor value after succeeds
  rcases approvePaymentPlanTransaction_ok succeeds with
    rfl | ⟨plan, booking, totalAmount, isOpen, permitted, row, logs, -, rfl⟩
  · exact Closed.refl _
  · have other := other_of_open cancelled isOpen
    apply
      Closed.of_commit integrity solvent
        (.planApproved plan booking totalAmount row logs permitted)
    exact
      approved_replanned integrity permitted.foundPlan fun own =>
        absurd own other

theorem recordPayment_closed (input : RecordPaymentInput) :
    Closed bookingId tables
      (recordPayment context actor input tables).2 := by
  unfold recordPayment
  apply operation_after (Closed.refl tables)
  intro paymentActor value after succeeds
  rcases recordPaymentTransaction_written succeeds with
    ⟨-, rfl⟩ | ⟨booking, row, isOpen, permitted, -, -, -, -, -, -, rfl⟩
  · exact Closed.refl _
  · exact
      Closed.of_commit integrity solvent
        (.paymentRecorded booking row _ permitted)
        (recorded_guarded integrity (other_of_open cancelled isOpen))

theorem confirmPayment_closed (input : ConfirmPaymentInput) :
    Closed bookingId tables (confirmPayment actor input tables).2 := by
  unfold confirmPayment
  apply operation_after (Closed.refl tables)
  intro paymentActor value after succeeds
  rcases confirmPaymentTransaction_written succeeds with
    ⟨-, rfl⟩ | ⟨payment, isOpen, -, foundPayment, pending, -, -, rfl⟩
  · exact Closed.refl _
  · exact
      Closed.of_commit integrity solvent
        (.paymentConfirmed payment _ _ foundPayment rfl pending)
        (confirmed_guarded integrity foundPayment
          (other_of_open cancelled isOpen))

theorem createAllocation_closed (input : CreateAllocationInput) :
    Closed bookingId tables
      (Payments.createAllocation context actor input tables).2 := by
  unfold Payments.createAllocation
  apply operation_after (Closed.refl tables)
  intro paymentActor value after succeeds
  rcases createAllocationTransaction_ok succeeds with
    ⟨-, rfl⟩ |
      ⟨payment, installment, plan, row, logs, isOpen, permitted, -, -, -, -, -,
        -, -, rfl⟩
  · exact Closed.refl _
  · exact
      Closed.of_commit integrity solvent
        (.allocationCreated payment installment plan row logs permitted)
        (allocated_guarded integrity permitted
          (other_of_open cancelled isOpen))

theorem perform_closed (operation : Operation) :
    Closed bookingId tables (perform context actor operation tables).2 := by
  cases operation with
  | setBookingFinancials input =>
      exact setBookingFinancials_closed integrity solvent cancelled input
  | proposePaymentPlan input =>
      exact proposePaymentPlan_closed integrity solvent cancelled input
  | approvePaymentPlan input =>
      exact approvePaymentPlan_closed integrity solvent cancelled input
  | recordPayment input =>
      exact recordPayment_closed integrity solvent cancelled input
  | confirmPayment input =>
      exact confirmPayment_closed integrity solvent cancelled input
  | createAllocation input =>
      exact createAllocation_closed integrity solvent cancelled input
  | withdrawPaymentPlan input =>
      exact
        unguarded_closed integrity solvent (withdrawPaymentPlan_state input)
          trivial
  | reversePayment input =>
      exact
        unguarded_closed integrity solvent (reversePayment_state input)
          trivial
  | refundPayment input =>
      exact
        unguarded_closed integrity solvent (refundPayment_state input)
          trivial
  | issueReceipt input =>
      exact
        unguarded_closed integrity solvent (issueReceipt_state input)
          trivial
  | reverseAllocation input =>
      exact
        unguarded_closed integrity solvent (reverseAllocation_state input)
          trivial

end Operations

theorem step_closed {database : Database}
    (integrity : Integrity database.ledger)
    (solvent : Solvent database.ledger)
    (cancelled :
      findBookingStatus database.ledger bookingId = some .cancelled)
    (request : Request) :
    Closed bookingId database.ledger (step database request).ledger := by
  obtain ⟨booking, found, isCancelled⟩ := Option.map_eq_some_iff.mp cancelled
  cases request with
  | operation context actor operation =>
      exact perform_closed integrity solvent cancelled operation
  | updateBookingStatus context actor id input =>
      apply
        @updateBookingStatus_after database context
          (fun after => Closed bookingId database.ledger after.ledger) actor id
          input (Closed.refl _)
      intro bookingActor record after succeeds
      rcases updateBookingStatusTransaction_ok succeeds with
        rfl | ⟨moved, row, logs, foundMoved, -, allowed, -, -, -, rfl⟩
      · exact Closed.refl _
      · apply
          Closed.of_commit integrity solvent
            (.bookingStatusChanged id input.newStatus)
        have other : bookingId ≠ id := by
          rintro rfl
          obtain rfl : booking = moved :=
            Option.some.inj (found.symm.trans foundMoved)
          rw [not_allowed_of_terminal (Or.inr isCancelled)] at allowed
          cases allowed
        exact findBy_updateBy_other (fun _ => rfl) other
  | bookingAdded added =>
      simp only [step, addBooking]
      split
      · rename_i fresh
        apply
          Closed.of_commit integrity solvent
            (.bookingAdded added (Option.isNone_iff_eq_none.mp fresh.1))
        exact (findBy_append_of_found [added] found).trans found.symm
      · exact Closed.refl _
  | assignmentsChanged staffAssignments =>
      exact
        Closed.of_commit integrity solvent
          (.assignmentsChanged staffAssignments) trivial

/-! ## Every run -/

/-- The ledger can be reached, and the booking in it is cancelled. -/
structure HasCancelled (bookingId : Uuid) (database : Database) : Prop where
  reached : ∃ seen, database.ledger = tablesAfter seen
  cancelled : findBookingStatus database.ledger bookingId = some .cancelled

theorem HasCancelled.closed {database : Database}
    (holds : HasCancelled bookingId database) (request : Request) :
    Closed bookingId database.ledger (step database request).ledger := by
  obtain ⟨seen, same⟩ := holds.reached
  apply step_closed _ _ holds.cancelled
  · rw [same]
    exact integrity_tablesAfter seen
  · rw [same]
    exact solvent_tablesAfter seen

theorem HasCancelled.step {database : Database}
    (holds : HasCancelled bookingId database) (request : Request) :
    HasCancelled bookingId (step database request) where
  reached := ledger_run holds.reached [request]
  cancelled := by
    rw [findBookingStatus, (holds.closed request).booking]
    exact holds.cancelled

theorem HasCancelled.closed_run {database : Database}
    (holds : HasCancelled bookingId database) (more : List Request) :
    Closed bookingId database.ledger
      (run Bookings.step database more).ledger :=
  @run_related _ _ Bookings.step (HasCancelled bookingId)
    (fun earlier later => Closed bookingId earlier.ledger later.ledger)
    (fun current => Closed.refl current.ledger)
    (fun first second => first.trans second)
    (fun _ request holds => holds.step request)
    (fun _ request holds => holds.closed request) _ holds more

/-- Once a booking is cancelled it takes in no more money: its row is kept, it
is closed, the paid amount reported for it does not rise and its installments
are filled no further. -/
theorem cancelled_booking_takes_no_money (requests more : List Request)
    (bookingId : Uuid) (booking : Booking)
    (found :
      findBy Booking.id bookingId (databaseAfter requests).ledger.bookings =
        some booking)
    (cancelled : booking.status = .cancelled) :
    findBy Booking.id bookingId
          (databaseAfter (requests ++ more)).ledger.bookings =
        some booking ∧
      Closed bookingId (databaseAfter requests).ledger
        (databaseAfter (requests ++ more)).ledger ∧
      (∃ data summary laterData laterSummary,
        findBookingPaymentSummaryData (databaseAfter requests).ledger
            bookingId = some data ∧
          buildBookingPaymentSummary bookingId data = .ok summary ∧
          findBookingPaymentSummaryData
              (databaseAfter (requests ++ more)).ledger bookingId =
            some laterData ∧
          buildBookingPaymentSummary bookingId laterData =
            .ok laterSummary ∧
          laterSummary.confirmedAmountPaid ≤ summary.confirmedAmountPaid) ∧
      ∀ installment ∈ (databaseAfter (requests ++ more)).ledger.installments,
        dueFor (databaseAfter (requests ++ more)).ledger bookingId
            installment →
          sumNetActiveAllocationsForInstallment
              (databaseAfter (requests ++ more)).ledger installment.id ≤
            sumNetActiveAllocationsForInstallment
              (databaseAfter requests).ledger installment.id := by
  have holds : HasCancelled bookingId (databaseAfter requests) :=
    ⟨ledger_databaseAfter requests,
      Option.map_eq_some_iff.mpr ⟨booking, found, cancelled⟩⟩
  have closed :
      Closed bookingId (databaseAfter requests).ledger
        (databaseAfter (requests ++ more)).ledger := by
    rw [databaseAfter, databaseAfter, run_append]
    exact holds.closed_run more
  have kept :
      findBy Booking.id bookingId
          (databaseAfter (requests ++ more)).ledger.bookings =
        some booking :=
    closed.booking.trans found
  refine ⟨kept, closed, ?_, ?_⟩
  · obtain ⟨seen, same⟩ := ledger_databaseAfter requests
    obtain ⟨laterSeen, laterSame⟩ := ledger_databaseAfter (requests ++ more)
    obtain ⟨data, summary, read, built, paid, -⟩ :=
      (balanced_tablesAfter seen).exists_summary
        (same ▸ mem_of_findBy found)
    obtain ⟨laterData, laterSummary, laterRead, laterBuilt, laterPaid, -⟩ :=
      (balanced_tablesAfter laterSeen).exists_summary
        (laterSame ▸ mem_of_findBy kept)
    rw [← same, key_of_findBy found] at read paid
    rw [← laterSame, key_of_findBy kept] at laterRead laterPaid
    rw [key_of_findBy found] at built laterBuilt
    refine
      ⟨data, summary, laterData, laterSummary, read, built, laterRead,
        laterBuilt, ?_⟩
    rw [paid, laterPaid]
    exact closed.paid
  · intro installment member due
    rw [sumNetActiveAllocationsForInstallment_eq,
      sumNetActiveAllocationsForInstallment_eq]
    have earlier :
        installment ∈
          (databaseAfter requests).ledger.installments.filter
            (dueFor (databaseAfter requests).ledger bookingId) := by
      rw [← closed.installments]
      exact List.mem_filter.mpr ⟨member, due⟩
    obtain ⟨earlierMember, earlierDue⟩ := List.mem_filter.mp earlier
    exact closed.filled installment earlierMember earlierDue

section Sample

/-- The deposit is recorded, then its booking is cancelled. -/
def cancelledOpening : List Request :=
  [.bookingAdded cashierBooking,
    .assignmentsChanged
      [{ id := 5
         assignedStaffId := 1
         role := .financeAccounting
         assignedByUserId := 3
         leadId := none
         clientId := none
         bookingId := some 10
         endedAt := none }],
    .operation (contextOf 1) cashier (.recordPayment deposit),
    .updateBookingStatus (contextOf 2) ⟨3, .adminManager⟩ 10
      ⟨.confirmed, .cancelled⟩]

theorem late_deposit_not_confirmed :
    findBy Booking.id 10
        (databaseAfter
          (cancelledOpening ++
            [.operation (contextOf 3) cashier
              depositConfirmed])).ledger.bookings =
      some (withBookingStatus .cancelled cashierBooking) :=
  (cancelled_booking_takes_no_money cancelledOpening
    [.operation (contextOf 3) cashier depositConfirmed] 10
    (withBookingStatus .cancelled cashierBooking) rfl rfl).1

end Sample

end Heritage.Bookings
