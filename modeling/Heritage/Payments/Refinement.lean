import Heritage.Payments.Inversion

/-!
# The service refines the commits

Every request leaves the tables as they were or commits one write.  Hence the
tables after any requests are reached by commits from the empty database.
-/

namespace Heritage.Payments

open Heritage.Store
open Repository

variable {tables : Tables} {kind : WriteKind}

/-- The tables are left alone or written once. -/
def SilentOrCommit (tables : Tables) (kind : WriteKind)
    (after : Tables) : Prop :=
  after = tables ∨ Commit tables kind after

section Around

variable {α : Type} {property : Tables → Prop}

/-- What holds of the tables as they are, and of what a transaction commits,
holds after the operation around it. -/
theorem serve_after
    {body : Tables → Except TxError (α × Tables)}
    {replay : TxError → Tables → Except TxError (Option α)}
    {conflict : TxError} (silent : property tables)
    (commits :
      ∀ value after, body tables = .ok (value, after) → property after) :
    property (serve body replay conflict tables).2 := by
  unfold serve
  cases outcome : body tables with
  | error failure =>
      rw [transact_of_error outcome]
      exact silent
  | ok result =>
      rw [transact_of_ok outcome]
      exact commits result.1 result.2 outcome

theorem withActor_after
    {checked : Except TxError PaymentActor}
    {operation : PaymentActor → Effect α} (silent : property tables)
    (commits : ∀ actor, property (operation actor tables).2) :
    property (withActor checked operation tables).2 := by
  cases checked with
  | error failure =>
      exact silent
  | ok actor =>
      exact commits actor

theorem operation_after
    {checked : Except TxError PaymentActor}
    {body : PaymentActor → Tables → Except TxError (α × Tables)}
    {replay : PaymentActor → TxError → Tables → Except TxError (Option α)}
    {conflict : TxError} (silent : property tables)
    (commits :
      ∀ actor value after, body actor tables = .ok (value, after) →
        property after) :
    property
      (withActor checked
        (fun actor => serve (body actor) (replay actor) conflict)
        tables).2 := by
  apply withActor_after silent
  intro actor
  exact serve_after silent (commits actor)

/-- A proposal is checked before its transaction. -/
theorem proposePaymentPlan_after
    {context : RequestContext} {actor : AuthenticatedUser}
    {input : ProposePaymentPlanInput} (silent : property tables)
    (commits :
      ∀ paymentActor value after,
        proposePaymentPlanTransaction context paymentActor input tables =
            .ok (value, after) →
          property after) :
    property (proposePaymentPlan context actor input tables).2 := by
  unfold proposePaymentPlan
  apply withActor_after silent
  intro paymentActor
  cases installmentStructureViolation input.installments with
  | some violation =>
      exact silent
  | none =>
      exact serve_after silent (commits paymentActor)

end Around

theorem silentOrCommit_self : SilentOrCommit tables kind tables :=
  Or.inl rfl

section Operations

variable {context : RequestContext} {actor : AuthenticatedUser}

theorem setBookingFinancials_state (input : SetBookingFinancialsInput) :
    SilentOrCommit tables .financials
      (setBookingFinancials actor input tables).2 := by
  unfold setBookingFinancials
  apply operation_after silentOrCommit_self
  intro paymentActor value after succeeds
  rcases setBookingFinancialsTransaction_ok succeeds with
    silent | ⟨-, unlocked, logs, -, rfl⟩
  · exact Or.inl silent
  · exact Or.inr (.financialsSet _ _ _ logs unlocked)

theorem proposePaymentPlan_state (input : ProposePaymentPlanInput) :
    SilentOrCommit tables .proposal
      (proposePaymentPlan context actor input tables).2 := by
  apply proposePaymentPlan_after silentOrCommit_self
  intro paymentActor value after succeeds
  obtain ⟨booking, rows, logs, -, permitted, -, rfl⟩ :=
    proposePaymentPlanTransaction_ok succeeds
  exact Or.inr (.planProposed booking rows logs permitted)

theorem approvePaymentPlan_state (input : ApprovePaymentPlanInput) :
    SilentOrCommit tables .approval
      (approvePaymentPlan context actor input tables).2 := by
  unfold approvePaymentPlan
  apply operation_after silentOrCommit_self
  intro paymentActor value after succeeds
  rcases approvePaymentPlanTransaction_ok succeeds with
    silent | ⟨plan, booking, totalAmount, -, permitted, row, logs, -, rfl⟩
  · exact Or.inl silent
  · exact Or.inr (.planApproved plan booking totalAmount row logs permitted)

theorem withdrawPaymentPlan_state (input : WithdrawPaymentPlanInput) :
    SilentOrCommit tables .withdrawal
      (withdrawPaymentPlan context actor input tables).2 := by
  unfold withdrawPaymentPlan
  apply operation_after silentOrCommit_self
  intro paymentActor value after succeeds
  rcases withdrawPaymentPlanTransaction_ok succeeds with
    silent | ⟨plan, foundPlan, isProposed, row, logs, -, rfl⟩
  · exact Or.inl silent
  · exact Or.inr (.planWithdrawn plan row logs foundPlan isProposed)

theorem recordPayment_state (input : RecordPaymentInput) :
    SilentOrCommit tables .recording
      (recordPayment context actor input tables).2 := by
  unfold recordPayment
  apply operation_after silentOrCommit_self
  intro paymentActor value after succeeds
  rcases recordPaymentTransaction_ok succeeds with
    ⟨-, silent⟩ |
      ⟨booking, row, logs, permitted, -, -, -, -, -, rfl⟩
  · exact Or.inl silent
  · exact Or.inr (.paymentRecorded booking row logs permitted)

theorem confirmPayment_state (input : ConfirmPaymentInput) :
    SilentOrCommit tables .confirmation
      (confirmPayment actor input tables).2 := by
  unfold confirmPayment
  apply operation_after silentOrCommit_self
  intro paymentActor value after succeeds
  rcases confirmPaymentTransaction_ok succeeds with
    ⟨-, silent⟩ |
      ⟨payment, entry, logs, -, foundPayment, pending, -, -, ownEntry, -,
        -, rfl⟩
  · exact Or.inl silent
  · exact
      Or.inr
        (.paymentConfirmed payment entry logs foundPayment ownEntry
          pending)

theorem reversePayment_state (input : ReversePaymentInput) :
    SilentOrCommit tables .paymentReversal
      (reversePayment actor input tables).2 := by
  unfold reversePayment
  apply operation_after silentOrCommit_self
  intro paymentActor value after succeeds
  rcases reversePaymentTransaction_ok succeeds with
    ⟨-, silent⟩ |
      ⟨payment, entry, logs, -, foundPayment, confirmed, unrefunded, -, -,
        ownEntry, -, -, rfl⟩
  · exact Or.inl silent
  · exact
      Or.inr
        (.paymentReversed payment entry logs foundPayment ownEntry
          confirmed unrefunded)

theorem refundPayment_state (input : RefundPaymentInput) :
    SilentOrCommit tables .refund
      (refundPayment context actor input tables).2 := by
  unfold refundPayment
  apply operation_after silentOrCommit_self
  intro paymentActor value after succeeds
  rcases refundPaymentTransaction_ok succeeds with
    ⟨-, silent⟩ |
      ⟨payment, row, entry, logs, -, permitted, -, -, -, -, -, ownEntry,
        ⟨remaining, -, rfl⟩ | ⟨completes, -, rfl⟩⟩
  · exact Or.inl silent
  · exact Or.inr (.refundIssued payment row logs permitted remaining)
  · exact
      Or.inr
        (.refundCompleted payment row entry logs permitted ownEntry
          completes)

theorem issueReceipt_state (input : IssueReceiptInput) :
    SilentOrCommit tables .receipt
      (issueReceipt context actor input tables).2 := by
  unfold issueReceipt
  apply operation_after silentOrCommit_self
  intro paymentActor value after succeeds
  rcases issueReceiptTransaction_ok succeeds with
    silent |
      ⟨payment, booking, row, logs, foundPayment, foundBooking,
        sameAmount, sameCurrency, -, rfl⟩
  · exact Or.inl silent
  · exact
      Or.inr
        (.receiptIssued payment booking row logs foundPayment
          foundBooking sameAmount sameCurrency)

theorem createAllocation_state (input : CreateAllocationInput) :
    SilentOrCommit tables .allocation
      (createAllocation context actor input tables).2 := by
  unfold createAllocation
  apply operation_after silentOrCommit_self
  intro paymentActor value after succeeds
  rcases createAllocationTransaction_ok succeeds with
    ⟨-, silent⟩ |
      ⟨payment, installment, plan, row, logs, -, permitted, -, -, -, -, -, -,
        -, rfl⟩
  · exact Or.inl silent
  · exact
      Or.inr
        (.allocationCreated payment installment plan row logs permitted)

theorem reverseAllocation_state (input : ReverseAllocationInput) :
    SilentOrCommit tables .allocationReversal
      (reverseAllocation context actor input tables).2 := by
  unfold reverseAllocation
  apply operation_after silentOrCommit_self
  intro paymentActor value after succeeds
  rcases reverseAllocationTransaction_ok succeeds with
    ⟨-, silent⟩ |
      ⟨allocation, payment, row, logs, foundAllocation, -, notReversed,
        notLinked, -, -, -, -, -, rfl⟩
  · exact Or.inl silent
  · exact
      Or.inr
        (.allocationReversed allocation row logs foundAllocation
          notReversed notLinked)

end Operations

theorem perform_state (context : RequestContext) (actor : AuthenticatedUser)
    (operation : Operation) :
    SilentOrCommit tables operation.kind
      (perform context actor operation tables).2 := by
  cases operation with
  | setBookingFinancials input => exact setBookingFinancials_state input
  | proposePaymentPlan input => exact proposePaymentPlan_state input
  | approvePaymentPlan input => exact approvePaymentPlan_state input
  | withdrawPaymentPlan input => exact withdrawPaymentPlan_state input
  | recordPayment input => exact recordPayment_state input
  | confirmPayment input => exact confirmPayment_state input
  | reversePayment input => exact reversePayment_state input
  | refundPayment input => exact refundPayment_state input
  | issueReceipt input => exact issueReceipt_state input
  | createAllocation input => exact createAllocation_state input
  | reverseAllocation input => exact reverseAllocation_state input

theorem step_commits (tables : Tables) (request : Request) :
    SilentOrCommit tables request.kind (step tables request) := by
  cases request with
  | operation context actor operation =>
      exact perform_state context actor operation
  | bookingAdded booking =>
      simp only [step]
      split
      · rename_i fresh
        exact Or.inr (.bookingAdded booking (by simpa using fresh))
      · exact Or.inl rfl
  | bookingStatusChanged bookingId status =>
      exact Or.inr (.bookingStatusChanged bookingId status)
  | assignmentsChanged staffAssignments =>
      exact Or.inr (.assignmentsChanged staffAssignments)

/-- Some write happened. -/
def Committed (tables after : Tables) : Prop :=
  ∃ kind, Commit tables kind after

/-- A run of requests is a run of commits. -/
theorem run_commits (tables : Tables) (requests : List Request) :
    Relation.ReflTransGen Committed tables (run step tables requests) := by
  apply run_refines
  intro current request
  rcases step_commits current request with silent | commit
  · exact Or.inl silent
  · exact Or.inr ⟨_, commit⟩

/-- What every commit preserves holds after any requests. -/
theorem invariant_of_commits {invariant : Tables → Prop}
    (initial : invariant Tables.empty)
    (preserved :
      ∀ current kind after,
        invariant current → Commit current kind after → invariant after)
    (requests : List Request) :
    invariant (tablesAfter requests) := by
  have stepPreserved :
      ∀ current request,
        invariant current → invariant (step current request) := by
    intro current request holds
    rcases step_commits current request with silent | commit
    · rw [silent]
      exact holds
    · exact preserved current _ _ holds commit
  exact run_invariant initial stepPreserved requests

end Heritage.Payments
