import Heritage.Payments.Scope
import Heritage.Store.Trail

/-!
# The audit entries of payments

Every payment operation answers from what it reads, or writes and adds entries
that name its actor.  A replay reads.
-/

namespace Heritage.Payments

open Heritage.Store
open Repository

section Writes

variable {tables : Tables}

theorem updateBookingFinancials_leaves (bookingId : Uuid)
    (totalAmount : MoneyAmount) (currencyCode : String) :
    Leaves (updateBookingFinancials tables bookingId totalAmount currencyCode)
      fun written => written.auditLogs = tables.auditLogs := by
  unfold updateBookingFinancials
  split
  · exact leaves_error _
  · exact leaves_ok rfl

theorem createPaymentPlanWithInstallments_leaves
    (input : CreatePaymentPlanInput) :
    Leaves (createPaymentPlanWithInstallments tables input) fun written =>
      written.auditLogs = tables.auditLogs := by
  iterate 5
    apply leaves_bind
    intro _ _
  exact leaves_ok rfl

theorem auditLogs_updateProposedPlan (id : Uuid)
    (change : PaymentPlan → PaymentPlan) :
    (updateProposedPlan tables id change).2.auditLogs = tables.auditLogs := by
  unfold updateProposedPlan
  cases findBy PaymentPlan.id id tables.paymentPlans with
  | none => rfl
  | some plan =>
      dsimp only
      split <;> rfl

theorem createPendingPayment_leaves (input : CreatePendingPaymentInput) :
    Leaves (createPendingPayment tables input) fun written =>
      written.auditLogs = tables.auditLogs := by
  iterate 2
    apply leaves_bind
    intro _ _
  exact leaves_ok rfl

theorem transitionPaymentStatus_leaves
    (input : TransitionPaymentStatusInput) :
    Leaves (transitionPaymentStatus tables input) fun written =>
      written.auditLogs = tables.auditLogs := by
  unfold transitionPaymentStatus
  split
  · exact leaves_error _
  · exact leaves_bind fun _ _ => leaves_ok rfl

theorem createRefund_leaves (input : CreateRefundInput) :
    Leaves (createRefund tables input) fun written =>
      written.auditLogs = tables.auditLogs := by
  iterate 2
    apply leaves_bind
    intro _ _
  exact leaves_ok rfl

theorem createAllocation_leaves (row : PaymentAllocation) :
    Leaves (Repository.createAllocation tables row) fun written =>
      written.auditLogs = tables.auditLogs := by
  iterate 2
    apply leaves_bind
    intro _ _
  exact leaves_ok rfl

theorem createAllocationReversal_leaves (row : PaymentAllocationReversal) :
    Leaves (createAllocationReversal tables row) fun written =>
      written.auditLogs = tables.auditLogs := by
  iterate 3
    apply leaves_bind
    intro _ _
  exact leaves_ok rfl

theorem createReceipt_leaves (row : Receipt) :
    Leaves (createReceipt tables row) fun written =>
      written.auditLogs = tables.auditLogs := by
  iterate 3
    apply leaves_bind
    intro _ _
  exact leaves_ok rfl

end Writes

/-- The change is documented by entries of one user. -/
def DocumentedBy (actorId : Uuid) : Tables → Tables → Prop :=
  Documented Tables.auditLogs fun entry => entry.actorId = actorId

section Transactions

variable {context : RequestContext} {actor : PaymentActor} {tables : Tables}

theorem setBookingFinancialsTransaction_documented
    (input : SetBookingFinancialsInput) :
    Leaves (setBookingFinancialsTransaction actor input tables)
      (DocumentedBy actor.id tables) := by
  apply leaves_bind
  intro before _
  iterate 3
    apply leaves_bind
    intro _ _
  dsimp only
  split
  · exact leaves_ok documented_refl
  · apply leaves_bind
    intro _ _
    refine leaves_seq (updateBookingFinancials_leaves _ _ _) ?_
    intro updated written same
    exact leaves_ok (documented_insert (continues_of_eq same) rfl rfl)

theorem proposePaymentPlanTransaction_documented
    (input : ProposePaymentPlanInput) :
    Leaves (proposePaymentPlanTransaction context actor input tables)
      (DocumentedBy actor.id tables) := by
  apply leaves_bind
  intro booking _
  iterate 4
    apply leaves_bind
    intro _ _
  refine leaves_seq (createPaymentPlanWithInstallments_leaves _) ?_
  intro created written same
  exact leaves_ok (documented_insert (continues_of_eq same) rfl rfl)

theorem approvePaymentPlanTransaction_documented
    (input : ApprovePaymentPlanInput) :
    Leaves (approvePaymentPlanTransaction context actor input tables)
      (DocumentedBy actor.id tables) := by
  apply leaves_bind
  intro found _
  dsimp only
  split
  · exact leaves_ok documented_refl
  · iterate 4
      apply leaves_bind
      intro _ _
    apply leaves_bind
    intro updated _
    have same := @auditLogs_updateProposedPlan tables found.1.id
    exact leaves_ok (documented_insert (continues_of_eq (same _)) rfl rfl)

theorem withdrawPaymentPlanTransaction_documented
    (input : WithdrawPaymentPlanInput) :
    Leaves (withdrawPaymentPlanTransaction context actor input tables)
      (DocumentedBy actor.id tables) := by
  apply leaves_bind
  intro found _
  dsimp only
  split
  · exact leaves_ok documented_refl
  · iterate 2
      apply leaves_bind
      intro _ _
    apply leaves_bind
    intro withdrawn _
    have same := @auditLogs_updateProposedPlan tables found.1.id
    exact leaves_ok (documented_insert (continues_of_eq (same _)) rfl rfl)

theorem recordPaymentTransaction_documented (input : RecordPaymentInput) :
    Leaves (recordPaymentTransaction context actor input tables)
      (DocumentedBy actor.id tables) := by
  apply leaves_bind
  intro booking _
  apply leaves_bind
  intro replayed _
  cases replayed with
  | some replay =>
      exact leaves_ok documented_refl
  | none =>
      iterate 3
        apply leaves_bind
        intro _ _
      refine leaves_seq (createPendingPayment_leaves _) ?_
      intro created written same
      exact leaves_ok (documented_insert (continues_of_eq same) rfl rfl)

/-- A status change goes on from a state that is documented. -/
theorem changePaymentStatus_documented {found : PaymentRecord}
    {newStatus : PaymentStatus} {reason idempotencyKey : String}
    {audited : Tables}
    (earlier :
      Continues Tables.auditLogs (fun entry => entry.actorId = actor.id)
        tables audited) :
    Leaves
      (changePaymentStatus actor found newStatus reason idempotencyKey
        audited)
      (DocumentedBy actor.id tables) := by
  refine leaves_seq (transitionPaymentStatus_leaves _) ?_
  intro updated written same
  exact leaves_ok (documented_insert (continues_beside earlier same) rfl rfl)

theorem confirmPaymentTransaction_documented (input : ConfirmPaymentInput) :
    Leaves (confirmPaymentTransaction actor input tables)
      (DocumentedBy actor.id tables) := by
  apply leaves_bind
  intro replayed _
  cases replayed with
  | some replay =>
      exact leaves_ok documented_refl
  | none =>
      iterate 3
        apply leaves_bind
        intro _ _
      exact changePaymentStatus_documented (continues_of_eq rfl)

theorem reversePaymentTransaction_documented (input : ReversePaymentInput) :
    Leaves (reversePaymentTransaction actor input tables)
      (DocumentedBy actor.id tables) := by
  apply leaves_bind
  intro replayed _
  cases replayed with
  | some replay =>
      exact leaves_ok documented_refl
  | none =>
      iterate 3
        apply leaves_bind
        intro _ _
      exact changePaymentStatus_documented (continues_of_eq rfl)

theorem refundPaymentTransaction_documented (input : RefundPaymentInput) :
    Leaves (refundPaymentTransaction context actor input tables)
      (DocumentedBy actor.id tables) := by
  apply leaves_bind
  intro replayed _
  cases replayed with
  | some replay =>
      exact leaves_ok documented_refl
  | none =>
      apply leaves_bind
      intro _ _
      apply leaves_bind
      intro found _
      iterate 5
        apply leaves_bind
        intro _ _
      refine leaves_seq (createRefund_leaves _) ?_
      intro refund written same
      dsimp only
      -- A refund that completes its payment moves it too.
      split
      · apply leaves_bind
        intro moved moves
        apply leaves_ok
        apply changePaymentStatus_documented _ _ _ moves
        exact continues_insert (continues_of_eq same) rfl rfl
      · exact leaves_ok (documented_insert (continues_of_eq same) rfl rfl)

theorem issueReceiptTransaction_documented (input : IssueReceiptInput) :
    Leaves (issueReceiptTransaction context actor input tables)
      (DocumentedBy actor.id tables) := by
  apply leaves_bind
  intro found _
  dsimp only
  split
  · exact leaves_ok documented_refl
  · iterate 2
      apply leaves_bind
      intro _ _
    refine leaves_seq (createReceipt_leaves _) ?_
    intro created written same
    exact leaves_ok (documented_insert (continues_of_eq same) rfl rfl)

theorem createAllocationTransaction_documented
    (input : CreateAllocationInput) :
    Leaves (createAllocationTransaction context actor input tables)
      (DocumentedBy actor.id tables) := by
  apply leaves_bind
  intro replayed _
  cases replayed with
  | some replay =>
      exact leaves_ok documented_refl
  | none =>
      iterate 9
        apply leaves_bind
        intro _ _
      refine leaves_seq (createAllocation_leaves _) ?_
      intro created written same
      exact leaves_ok (documented_insert (continues_of_eq same) rfl rfl)

theorem reverseAllocationTransaction_documented
    (input : ReverseAllocationInput) :
    Leaves (reverseAllocationTransaction context actor input tables)
      (DocumentedBy actor.id tables) := by
  apply leaves_bind
  intro replayed _
  cases replayed with
  | some replay =>
      exact leaves_ok documented_refl
  | none =>
      iterate 4
        apply leaves_bind
        intro _ _
      refine leaves_seq (createAllocationReversal_leaves _) ?_
      intro created written same
      exact leaves_ok (documented_insert (continues_of_eq same) rfl rfl)

end Transactions

section Operations

variable {context : RequestContext} {user : AuthenticatedUser}
  {tables : Tables}

/-- The role assertions keep the user's id, and a `catch` block writes
nothing. -/
theorem operation_documented {α : Type}
    {checked : Except TxError PaymentActor}
    {body : PaymentActor → Tables → Except TxError (α × Tables)}
    {replay : PaymentActor → TxError → Tables → Except TxError (Option α)}
    {conflict : TxError}
    (acting : ∀ actor, checked = .ok actor → ActsFor actor user)
    (leaves :
      ∀ actor, Leaves (body actor tables) (DocumentedBy actor.id tables)) :
    DocumentedBy user.id tables
      (withActor checked
        (fun actor => serve (body actor) (replay actor) conflict)
        tables).2 := by
  cases outcome : checked with
  | error failure =>
      exact documented_refl
  | ok actor =>
      rw [← (acting actor outcome).1]
      exact serve_after documented_refl (leaves actor)

theorem proposePaymentPlan_documented (input : ProposePaymentPlanInput) :
    DocumentedBy user.id tables
      (proposePaymentPlan context user input tables).2 := by
  unfold proposePaymentPlan
  cases outcome : assertProposerActor user with
  | error failure =>
      exact documented_refl
  | ok actor =>
      rw [← (actsFor_of_proposer outcome).1]
      unfold withActor
      dsimp only
      cases installmentStructureViolation input.installments with
      | some violation =>
          exact documented_refl
      | none =>
          exact
            serve_after documented_refl
              (proposePaymentPlanTransaction_documented input)

/-- A payment operation accounts for what it writes in the name of its
user. -/
theorem perform_documented (operation : Operation) :
    DocumentedBy user.id tables
      (perform context user operation tables).2 := by
  cases operation with
  | setBookingFinancials input =>
      exact
        operation_documented (fun _ => actsFor_of_finance)
          fun _ => setBookingFinancialsTransaction_documented input
  | proposePaymentPlan input =>
      exact proposePaymentPlan_documented input
  | approvePaymentPlan input =>
      exact
        operation_documented (fun _ => actsFor_of_finance)
          fun _ => approvePaymentPlanTransaction_documented input
  | withdrawPaymentPlan input =>
      exact
        operation_documented (fun _ => actsFor_of_withdrawer)
          fun _ => withdrawPaymentPlanTransaction_documented input
  | recordPayment input =>
      exact
        operation_documented (fun _ => actsFor_of_finance)
          fun _ => recordPaymentTransaction_documented input
  | confirmPayment input =>
      exact
        operation_documented (fun _ => actsFor_of_finance)
          fun _ => confirmPaymentTransaction_documented input
  | reversePayment input =>
      exact
        operation_documented (fun _ => actsFor_of_finance)
          fun _ => reversePaymentTransaction_documented input
  | refundPayment input =>
      exact
        operation_documented (fun _ => actsFor_of_finance)
          fun _ => refundPaymentTransaction_documented input
  | issueReceipt input =>
      exact
        operation_documented (fun _ => actsFor_of_finance)
          fun _ => issueReceiptTransaction_documented input
  | createAllocation input =>
      exact
        operation_documented (fun _ => actsFor_of_finance)
          fun _ => createAllocationTransaction_documented input
  | reverseAllocation input =>
      exact
        operation_documented (fun _ => actsFor_of_finance)
          fun _ => reverseAllocationTransaction_documented input

end Operations

end Heritage.Payments
