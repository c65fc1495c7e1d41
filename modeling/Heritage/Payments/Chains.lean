import Heritage.Payments.Replay
import Heritage.Payments.Totals
import Heritage.Store.History

/-!
# Histories and refund entries

A payment's status rows and its refund entries in the audit log are written
beside the payment, one by one.  Each continues where the one before it
ended, so the rows tell the whole life of the payment and the entries add up
to its refunds.
-/

namespace Heritage.Payments

open Heritage.Store
open Repository

def historyOf (tables : Tables) (paymentId : Uuid) :
    List PaymentStatusHistory :=
  tables.statusHistory.filter fun row => row.paymentId = paymentId

def refundsOf (tables : Tables) (paymentId : Uuid) : List PaymentRefund :=
  tables.refunds.filter fun refund => refund.paymentId = paymentId

/-- The audit entry is about a refund of the payment. -/
def isRefundEntryOf (paymentId : Uuid) (log : AuditLog) : Bool :=
  log.action = .paymentRefunded ∧ log.entityId = paymentId

def refundEntriesOf (tables : Tables) (paymentId : Uuid) : List AuditLog :=
  tables.auditLogs.filter (isRefundEntryOf paymentId)

/-- The statuses a history row leads from and to. -/
def statusChange (row : PaymentStatusHistory) :
    Option PaymentStatus × PaymentStatus :=
  (row.previousStatus, row.newStatus)

/-- The refunded total an entry starts from. -/
def refundedBefore (log : AuditLog) : Option String :=
  match log.beforeState with
  | some (.paymentRefundBefore _ refundedTotal) => some refundedTotal
  | _ => none

/-- The refunded total an entry ends at. -/
def refundedAfter (log : AuditLog) : Option String :=
  match log.afterState with
  | some (.paymentRefund _ _ _ _ _ refundedTotal) => some refundedTotal
  | _ => none

/-- The amount an entry reports. -/
def refundedAmount (log : AuditLog) : Option String :=
  match log.afterState with
  | some (.paymentRefund _ amount _ _ _ _) => some amount
  | _ => none

/-- The changes that lead to a status. -/
def lifecycle : PaymentStatus → List (Option PaymentStatus × PaymentStatus)
  | .pending => [(none, .pending)]
  | .confirmed => [(none, .pending), (some .pending, .confirmed)]
  | .reversed =>
      [(none, .pending), (some .pending, .confirmed),
        (some .confirmed, .reversed)]
  | .refunded =>
      [(none, .pending), (some .pending, .confirmed),
        (some .confirmed, .refunded)]
  | .rejected | .cancelled | .failed => []

/-- The rows of the payment lead to its status, one change after another and
no status twice. -/
structure StatusChain (tables : Tables) (payment : Payment) : Prop where
  changes :
    (historyOf tables payment.id).map statusChange =
      lifecycle payment.status
  chained :
    Chained PaymentStatusHistory.previousStatus
      (fun row => some row.newStatus) none (historyOf tables payment.id)
      (some payment.status)
  once :
    ((historyOf tables payment.id).map
      PaymentStatusHistory.newStatus).Nodup
  last :
    (historyOf tables payment.id).getLast?.map
        PaymentStatusHistory.newStatus =
      some payment.status

/-- Every refund of the payment has its entry, and the entries lead from nothing
refunded to the sum of the refunds. -/
structure RefundChain (tables : Tables) (payment : Payment) : Prop where
  amounts :
    (refundEntriesOf tables payment.id).map refundedAmount =
      (refundsOf tables payment.id).map fun refund =>
        some (toFixed2 refund.amount.value)
  chained :
    Chained refundedBefore refundedAfter (some "0.00")
      (refundEntriesOf tables payment.id)
      (some (toFixed2 (sumRefundsForPayment tables payment.id)))

theorem statusChain_of_changes {tables : Tables} {payment : Payment}
    (changes :
      (historyOf tables payment.id).map statusChange =
        lifecycle payment.status)
    (living : lifecycle payment.status ≠ []) :
    StatusChain tables payment := by
  have newStatuses :
      (historyOf tables payment.id).map PaymentStatusHistory.newStatus =
        (lifecycle payment.status).map Prod.snd := by
    rw [← changes, List.map_map]
    rfl
  have lifecycleChained :
      Chained Prod.fst (some ∘ Prod.snd) none (lifecycle payment.status)
        (some payment.status) := by
    cases status : payment.status <;> simp [status, lifecycle] at living <;>
      exact ⟨rfl, by simp [Chained]⟩
  rw [← changes] at lifecycleChained
  refine ⟨changes, chained_of_map lifecycleChained, ?_, ?_⟩
  · rw [newStatuses]
    cases payment.status <;> decide
  · rw [← List.getLast?_map, newStatuses]
    cases status : payment.status <;> simp [status, lifecycle] at living ⊢

/-- One request, seen by the payments, their histories, their refunds and the
audit log. -/
inductive ChainStep (tables : Tables) : Tables → Prop where
  | elsewhere (after : Tables) (logs : List AuditLog)
      (samePayments : after.payments = tables.payments)
      (sameHistory : after.statusHistory = tables.statusHistory)
      (sameRefunds : after.refunds = tables.refunds)
      (logged : after.auditLogs = tables.auditLogs ++ logs)
      (unrelated : NoRefundEntry logs) :
      ChainStep tables after
  | recorded (booking : Booking) (row : CreatePendingPaymentInput)
      (logs : List AuditLog)
      (permitted : RecordPermitted tables booking row)
      (unrelated : NoRefundEntry logs) :
      ChainStep tables (audited (recorded tables row) logs)
  | transitioned (payment : Payment) (newStatus : PaymentStatus)
      (entry : PaymentStatusHistory) (logs : List AuditLog)
      (foundPayment :
        findBy Payment.id payment.id tables.payments = some payment)
      (ownEntry : entry.paymentId = payment.id)
      (continues :
        lifecycle newStatus =
          lifecycle payment.status ++ [statusChange entry])
      (unrelated : NoRefundEntry logs) :
      ChainStep tables
        (audited (transitioned tables payment.id newStatus entry) logs)
  | refundIssued (payment : Payment) (row : CreateRefundInput)
      (actorId : Uuid) (reason : String) (allocationId : Option Uuid)
      (permitted : RefundPermitted tables payment row) :
      ChainStep tables
        (audited (refunded tables row)
          [paymentRefundedLog tables actorId payment row.amount reason
            allocationId])
  | refundCompleted (payment : Payment) (row : CreateRefundInput)
      (actorId : Uuid) (reason : String) (allocationId : Option Uuid)
      (entry : PaymentStatusHistory) (logs : List AuditLog)
      (permitted : RefundPermitted tables payment row)
      (ownEntry : entry.paymentId = payment.id)
      (continues :
        lifecycle .refunded =
          lifecycle payment.status ++ [statusChange entry])
      (unrelated : NoRefundEntry logs) :
      ChainStep tables
        (audited
          (Payments.transitioned
            (audited (refunded tables row)
              [paymentRefundedLog tables actorId payment row.amount reason
                allocationId])
            payment.id .refunded entry)
          logs)

section Steps

variable {tables : Tables} {context : RequestContext}
  {user : AuthenticatedUser}

theorem noRefundEntry_nil : NoRefundEntry [] := by
  intro log member
  cases member

theorem chainStep_self : ChainStep tables tables :=
  .elsewhere tables [] rfl rfl rfl (List.append_nil _).symm noRefundEntry_nil

theorem recordPayment_chainStep (input : RecordPaymentInput) :
    ChainStep tables (recordPayment context user input tables).2 := by
  unfold recordPayment
  apply operation_after chainStep_self
  intro actor record after succeeds
  rcases recordPaymentTransaction_written succeeds with
    ⟨-, rfl⟩ | ⟨booking, row, -, permitted, -, -, -, -, -, -, rfl⟩
  · exact chainStep_self
  · apply ChainStep.recorded booking row _ permitted
    exact noRefundEntry_singleton (by simp [paymentRecordedLog])

theorem confirmPayment_chainStep (input : ConfirmPaymentInput) :
    ChainStep tables (confirmPayment user input tables).2 := by
  unfold confirmPayment
  apply operation_after chainStep_self
  intro actor record after succeeds
  rcases confirmPaymentTransaction_written succeeds with
    ⟨-, rfl⟩ | ⟨payment, -, -, foundPayment, pending, -, -, rfl⟩
  · exact chainStep_self
  · apply ChainStep.transitioned payment _ _ _ foundPayment rfl
    · rw [pending]
      simp [lifecycle, statusChange, transitionRow, pending]
    · exact noRefundEntry_singleton (by simp [statusChangedLog])

theorem reversePayment_chainStep (input : ReversePaymentInput) :
    ChainStep tables (reversePayment user input tables).2 := by
  unfold reversePayment
  apply operation_after chainStep_self
  intro actor record after succeeds
  rcases reversePaymentTransaction_written succeeds with
    ⟨-, rfl⟩ | ⟨payment, -, foundPayment, confirmed, -, -, -, rfl⟩
  · exact chainStep_self
  · apply ChainStep.transitioned payment _ _ _ foundPayment rfl
    · rw [confirmed]
      simp [lifecycle, statusChange, transitionRow, confirmed]
    · exact noRefundEntry_singleton (by simp [statusChangedLog])

theorem refundPayment_chainStep (input : RefundPaymentInput) :
    ChainStep tables (refundPayment context user input tables).2 := by
  unfold refundPayment
  apply operation_after chainStep_self
  intro actor result after succeeds
  rcases refundPaymentTransaction_written succeeds with
    ⟨-, rfl⟩ |
      ⟨payment, row, -, permitted, -, -, -, -, -,
        ⟨-, -, rfl⟩ | ⟨-, -, rfl⟩⟩
  · exact chainStep_self
  · exact .refundIssued payment row _ _ _ permitted
  · rw [← List.singleton_append, ← audited_transitioned_audited]
    apply ChainStep.refundCompleted payment row _ _ _ _ _ permitted rfl
    · rw [permitted.confirmed]
      simp [lifecycle, statusChange, transitionRow, permitted.confirmed]
    · exact noRefundEntry_singleton (by simp [statusChangedLog])

theorem perform_chainStep (operation : Operation) :
    ChainStep tables (perform context user operation tables).2 := by
  cases operation with
  | recordPayment input => exact recordPayment_chainStep input
  | confirmPayment input => exact confirmPayment_chainStep input
  | reversePayment input => exact reversePayment_chainStep input
  | refundPayment input => exact refundPayment_chainStep input
  | setBookingFinancials input =>
      unfold perform answering setBookingFinancials
      apply operation_after chainStep_self
      intro actor value after succeeds
      rcases setBookingFinancialsTransaction_ok succeeds with
        rfl | ⟨-, -, logs, unrelated, rfl⟩
      · exact chainStep_self
      · exact .elsewhere _ logs rfl rfl rfl rfl unrelated
  | proposePaymentPlan input =>
      apply proposePaymentPlan_after chainStep_self
      intro actor value after succeeds
      obtain ⟨booking, rows, logs, -, -, unrelated, rfl⟩ :=
        proposePaymentPlanTransaction_ok succeeds
      exact .elsewhere _ logs rfl rfl rfl rfl unrelated
  | approvePaymentPlan input =>
      unfold perform answering approvePaymentPlan
      apply operation_after chainStep_self
      intro actor value after succeeds
      rcases approvePaymentPlanTransaction_ok succeeds with
        rfl | ⟨plan, booking, totalAmount, -, -, row, logs, unrelated, rfl⟩
      · exact chainStep_self
      · exact .elsewhere _ logs rfl rfl rfl rfl unrelated
  | withdrawPaymentPlan input =>
      unfold perform answering withdrawPaymentPlan
      apply operation_after chainStep_self
      intro actor value after succeeds
      rcases withdrawPaymentPlanTransaction_ok succeeds with
        rfl | ⟨plan, -, -, row, logs, unrelated, rfl⟩
      · exact chainStep_self
      · exact .elsewhere _ logs rfl rfl rfl rfl unrelated
  | issueReceipt input =>
      unfold perform answering issueReceipt
      apply operation_after chainStep_self
      intro actor value after succeeds
      rcases issueReceiptTransaction_ok succeeds with
        rfl | ⟨payment, booking, row, logs, -, -, -, -, unrelated, rfl⟩
      · exact chainStep_self
      · exact .elsewhere _ logs rfl rfl rfl rfl unrelated
  | createAllocation input =>
      unfold perform answering createAllocation
      apply operation_after chainStep_self
      intro actor value after succeeds
      rcases createAllocationTransaction_ok succeeds with
        ⟨-, rfl⟩ |
          ⟨payment, installment, plan, row, logs, -, -, -, -, -, -, -, -,
            unrelated, rfl⟩
      · exact chainStep_self
      · exact .elsewhere _ logs rfl rfl rfl rfl unrelated
  | reverseAllocation input =>
      unfold perform answering reverseAllocation
      apply operation_after chainStep_self
      intro actor value after succeeds
      rcases reverseAllocationTransaction_ok succeeds with
        ⟨-, rfl⟩ |
          ⟨allocation, payment, row, logs, -, -, -, -, -, -, -, -,
            unrelated, rfl⟩
      · exact chainStep_self
      · exact .elsewhere _ logs rfl rfl rfl rfl unrelated

theorem step_chainStep (request : Request) :
    ChainStep tables (step tables request) := by
  cases request with
  | operation context actor operation =>
      exact perform_chainStep operation
  | bookingAdded booking =>
      simp only [step]
      split
      · exact
          .elsewhere _ [] rfl rfl rfl (List.append_nil _).symm
            noRefundEntry_nil
      · exact chainStep_self
  | bookingStatusChanged bookingId status =>
      exact
        .elsewhere _ [] rfl rfl rfl (List.append_nil _).symm
          noRefundEntry_nil
  | assignmentsChanged staffAssignments =>
      exact
        .elsewhere _ [] rfl rfl rfl (List.append_nil _).symm
          noRefundEntry_nil

end Steps

/-! ## The invariant -/

/-- Every payment's rows lead to its status, its refund entries follow its
refunds, and no refund entry is about a payment that is not stored. -/
structure PaymentChains (tables : Tables) : Prop where
  changes :
    ∀ payment ∈ tables.payments,
      (historyOf tables payment.id).map statusChange =
        lifecycle payment.status
  living : ∀ payment ∈ tables.payments, lifecycle payment.status ≠ []
  refunds : ∀ payment ∈ tables.payments, RefundChain tables payment
  entries :
    ∀ log ∈ tables.auditLogs, log.action = .paymentRefunded →
      log.entityId ∈ tables.payments.map Payment.id

theorem paymentChains_empty : PaymentChains Tables.empty := by
  constructor <;> simp [Tables.empty]

section Preserved

variable {tables after : Tables} {payment : Payment}

theorem RefundChain.frame {later : Payment}
    (chain : RefundChain tables payment) (sameId : later.id = payment.id)
    (sameRefunds : after.refunds = tables.refunds)
    (sameEntries :
      refundEntriesOf after payment.id = refundEntriesOf tables payment.id) :
    RefundChain after later where
  amounts := by
    rw [refundsOf, sameRefunds, sameId, sameEntries]
    exact chain.amounts
  chained := by
    rw [sumRefundsForPayment, sameRefunds, sameId, sameEntries]
    exact chain.chained

theorem refundEntriesOf_append {logs : List AuditLog} (paymentId : Uuid)
    (logged : after.auditLogs = tables.auditLogs ++ logs)
    (unrelated : NoRefundEntry logs) :
    refundEntriesOf after paymentId = refundEntriesOf tables paymentId := by
  have noneKept : logs.filter (isRefundEntryOf paymentId) = [] := by
    apply List.filter_eq_nil_iff.mpr
    intro log member
    simp [isRefundEntryOf, unrelated log member]
  rw [refundEntriesOf, logged, List.filter_append, noneKept,
    List.append_nil]
  rfl

/-- New entries about other things do not disturb the old ones. -/
theorem entries_append {logs : List AuditLog}
    (chains : PaymentChains tables)
    (logged : after.auditLogs = tables.auditLogs ++ logs)
    (unrelated : NoRefundEntry logs)
    (listed :
      tables.payments.map Payment.id ⊆ after.payments.map Payment.id) :
    ∀ log ∈ after.auditLogs, log.action = .paymentRefunded →
      log.entityId ∈ after.payments.map Payment.id := by
  intro log member isRefund
  rw [logged, List.mem_append] at member
  rcases member with old | new
  · exact listed (chains.entries log old isRefund)
  · exact absurd isRefund (unrelated log new)

theorem PaymentChains.elsewhere {logs : List AuditLog}
    (chains : PaymentChains tables)
    (samePayments : after.payments = tables.payments)
    (sameHistory : after.statusHistory = tables.statusHistory)
    (sameRefunds : after.refunds = tables.refunds)
    (logged : after.auditLogs = tables.auditLogs ++ logs)
    (unrelated : NoRefundEntry logs) : PaymentChains after where
  changes := by
    unfold historyOf
    rw [samePayments, sameHistory]
    exact chains.changes
  living := by
    rw [samePayments]
    exact chains.living
  refunds := by
    intro payment member
    rw [samePayments] at member
    exact
      (chains.refunds payment member).frame rfl sameRefunds
        (refundEntriesOf_append payment.id logged unrelated)
  entries := by
    apply entries_append chains logged unrelated
    rw [samePayments]
    exact List.Subset.refl _

theorem PaymentChains.recorded (integrity : Integrity tables)
    (chains : PaymentChains tables) {booking : Booking}
    {row : CreatePendingPaymentInput} {logs : List AuditLog}
    (permitted : RecordPermitted tables booking row)
    (unrelated : NoRefundEntry logs) :
    PaymentChains (audited (recorded tables row) logs) := by
  have noHistory : historyOf tables row.id = [] := by
    simpa [historyOf, List.filter_eq_nil_iff] using
      unreferenced_of_unknown integrity.historyPayments permitted.freshId
  have noRefund := no_refund_of_unknown integrity permitted.freshId
  have noRefunds : refundsOf tables row.id = [] := by
    simpa [refundsOf, List.filter_eq_nil_iff] using noRefund
  have noEntries : refundEntriesOf tables row.id = [] := by
    apply List.filter_eq_nil_iff.mpr
    intro log member
    simp only [isRefundEntryOf, decide_eq_true_eq, not_and]
    intro isRefund own
    have listed := chains.entries log member isRefund
    rw [own] at listed
    obtain ⟨known, found⟩ := exists_findBy_of_mem_map listed
    rw [permitted.freshId] at found
    cases found
  have historyAfter :
      ∀ paymentId,
        historyOf (audited (Payments.recorded tables row) logs) paymentId =
          historyOf tables paymentId ++
            [row.historyRow].filter fun entry =>
              entry.paymentId = paymentId :=
    fun paymentId => List.filter_append ..
  have sameEntries :
      ∀ paymentId,
        refundEntriesOf (audited (Payments.recorded tables row) logs)
            paymentId =
          refundEntriesOf tables paymentId :=
    fun paymentId => refundEntriesOf_append paymentId rfl unrelated
  have different :
      ∀ payment ∈ tables.payments, ¬ row.historyRow.paymentId = payment.id := by
    intro payment member same
    exact findBy_eq_none_iff.mp permitted.freshId payment member same.symm
  refine ⟨?_, ?_, ?_, ?_⟩
  · intro payment member
    rw [historyAfter, List.map_append]
    rcases List.mem_append.mp member with old | new
    · rw [chains.changes payment old]
      simp [different payment old]
    · rw [List.mem_singleton.mp new]
      simp [CreatePendingPaymentInput.row, noHistory,
        CreatePendingPaymentInput.historyRow, statusChange, lifecycle]
  · intro payment member
    rcases List.mem_append.mp member with old | new
    · exact chains.living payment old
    · rw [List.mem_singleton.mp new]
      simp [CreatePendingPaymentInput.row, lifecycle]
  · intro payment member
    rcases List.mem_append.mp member with old | new
    · exact
        (chains.refunds payment old).frame rfl rfl (sameEntries payment.id)
    · rw [List.mem_singleton.mp new]
      constructor
      · rw [sameEntries]
        change (refundEntriesOf tables row.id).map _ =
          (refundsOf tables row.id).map _
        rw [noEntries, noRefunds]
        rfl
      · rw [sameEntries]
        change Chained _ _ _ (refundEntriesOf tables row.id)
          (some (toFixed2 (sumRefundsForPayment tables row.id)))
        rw [noEntries, sumRefundsForPayment_eq_zero noRefund]
        have zero : "0.00" = toFixed2 0 := by decide
        exact congrArg some zero
  · apply entries_append chains rfl unrelated
    exact List.map_subset _ (List.subset_append_left _ _)

/-- A statement about every payment after a transition of one. -/
theorem forall_payment_transitioned {statement : Payment → Prop}
    {newStatus : PaymentStatus} {entry : PaymentStatusHistory}
    {logs : List AuditLog}
    (unique : (tables.payments.map Payment.id).Nodup)
    (foundPayment :
      findBy Payment.id payment.id tables.payments = some payment)
    (changed : statement (withStatus newStatus payment))
    (others :
      ∀ other ∈ tables.payments, other.id ≠ payment.id → statement other) :
    ∀ later ∈
        (audited (transitioned tables payment.id newStatus entry)
          logs).payments,
      statement later :=
  forall_mem_updateBy unique foundPayment changed others

/-- The row of a transition continues the history of its payment. -/
theorem PaymentChains.transitioned (chains : PaymentChains tables)
    (unique : (tables.payments.map Payment.id).Nodup) {newStatus : PaymentStatus}
    {entry : PaymentStatusHistory} {logs : List AuditLog}
    (foundPayment :
      findBy Payment.id payment.id tables.payments = some payment)
    (ownEntry : entry.paymentId = payment.id)
    (continues :
      lifecycle newStatus =
        lifecycle payment.status ++ [statusChange entry])
    (unrelated : NoRefundEntry logs) :
    PaymentChains
      (audited (transitioned tables payment.id newStatus entry) logs) := by
  have historyAfter :
      ∀ paymentId,
        historyOf
            (audited
              (Payments.transitioned tables payment.id newStatus entry) logs)
            paymentId =
          historyOf tables paymentId ++
            [entry].filter fun row => row.paymentId = paymentId :=
    fun paymentId => List.filter_append ..
  have sameEntries :
      ∀ paymentId,
        refundEntriesOf
            (audited
              (Payments.transitioned tables payment.id newStatus entry) logs)
            paymentId =
          refundEntriesOf tables paymentId :=
    fun paymentId => refundEntriesOf_append paymentId rfl unrelated
  refine ⟨?_, ?_, ?_, ?_⟩
  · refine forall_payment_transitioned unique foundPayment ?_ ?_
    · rw [historyAfter, List.map_append, withStatus_id,
        chains.changes payment (mem_of_findBy foundPayment)]
      simp [ownEntry, continues]
    · intro other member different
      have notItsEntry : ¬ entry.paymentId = other.id := by
        rw [ownEntry]
        exact fun same => different same.symm
      rw [historyAfter, List.map_append, chains.changes other member]
      simp [notItsEntry]
  · refine forall_payment_transitioned unique foundPayment ?_ ?_
    · rw [withStatus_status, continues]
      simp
    · exact fun other member _ => chains.living other member
  · refine forall_payment_transitioned unique foundPayment ?_ ?_
    · exact
        (chains.refunds payment (mem_of_findBy foundPayment)).frame rfl rfl
          (sameEntries payment.id)
    · exact
        fun other member _ =>
          (chains.refunds other member).frame rfl rfl (sameEntries other.id)
  · apply entries_append chains rfl unrelated
    have keptIds :
        (updateBy Payment.id payment.id (withStatus newStatus)
            tables.payments).map Payment.id =
          tables.payments.map Payment.id :=
      map_updateBy_of_kept fun _ => rfl
    intro paymentId listed
    rw [← keptIds] at listed
    exact listed

/-- The entry of a refund continues the entries of its payment. -/
theorem PaymentChains.refunded (chains : PaymentChains tables)
    {row : CreateRefundInput} {actorId : Uuid} {reason : String}
    {allocationId : Option Uuid}
    (permitted : RefundPermitted tables payment row) :
    PaymentChains
      (audited (refunded tables row)
        [paymentRefundedLog tables actorId payment row.amount reason
          allocationId]) := by
  have stored := mem_of_findBy permitted.foundPayment
  have entriesAfter :
      ∀ paymentId,
        refundEntriesOf
            (audited (Payments.refunded tables row)
              [paymentRefundedLog tables actorId payment row.amount reason
                allocationId])
            paymentId =
          refundEntriesOf tables paymentId ++
            [paymentRefundedLog tables actorId payment row.amount reason
              allocationId].filter (isRefundEntryOf paymentId) :=
    fun paymentId => List.filter_append ..
  have refundsAfter :
      ∀ paymentId,
        refundsOf (Payments.refunded tables row) paymentId =
          refundsOf tables paymentId ++
            [row.row].filter fun refund => refund.paymentId = paymentId :=
    fun paymentId => List.filter_append ..
  refine ⟨chains.changes, chains.living, ?_, ?_⟩
  · intro other member
    have chain := chains.refunds other member
    by_cases own : payment.id = other.id
    · have ownRefund : row.paymentId = other.id :=
        permitted.ownPayment.trans own
      constructor
      · rw [entriesAfter]
        change _ = (refundsOf (Payments.refunded tables row) other.id).map _
        rw [refundsAfter, List.map_append, List.map_append, chain.amounts]
        simp [isRefundEntryOf, paymentRefundedLog, own, ownRefund,
          refundedAmount, CreateRefundInput.row]
      · have moreRefunds :
            sumRefundsForPayment (Payments.refunded tables row) other.id =
              sumRefundsForPayment tables other.id + row.amount.value := by
          rw [refunded_sumRefunds, if_pos ownRefund]
        have ownEntry :
            [paymentRefundedLog tables actorId payment row.amount reason
                allocationId].filter (isRefundEntryOf other.id) =
              [paymentRefundedLog tables actorId payment row.amount reason
                allocationId] := by
          simp [isRefundEntryOf, paymentRefundedLog, own]
        rw [entriesAfter, ownEntry]
        apply chained_concat
        · simp only [refundedBefore, paymentRefundedLog, own]
          exact chain.chained
        · change _ = some (toFixed2 (sumRefundsForPayment
            (Payments.refunded tables row) other.id))
          rw [moreRefunds, ← own]
          rfl
    · have otherEntry :
          [paymentRefundedLog tables actorId payment row.amount reason
            allocationId].filter (isRefundEntryOf other.id) = [] := by
        simp [isRefundEntryOf, paymentRefundedLog, own]
      have otherRefund : ¬ row.paymentId = other.id := by
        rw [permitted.ownPayment]
        exact own
      constructor
      · rw [entriesAfter, otherEntry, List.append_nil]
        change _ = (refundsOf (Payments.refunded tables row) other.id).map _
        rw [refundsAfter]
        simpa [otherRefund, CreateRefundInput.row] using chain.amounts
      · rw [entriesAfter, otherEntry, List.append_nil]
        change Chained _ _ _ _ (some (toFixed2 (sumRefundsForPayment
          (Payments.refunded tables row) other.id)))
        rw [refunded_sumRefunds, if_neg otherRefund, add_zero]
        exact chain.chained
  · intro log member isRefund
    rcases List.mem_append.mp member with old | new
    · exact chains.entries log old isRefund
    · rw [List.mem_singleton.mp new]
      exact List.mem_map_of_mem stored

theorem PaymentChains.step (integrity : Integrity tables)
    (chains : PaymentChains tables) (moved : ChainStep tables after) :
    PaymentChains after := by
  cases moved with
  | elsewhere after logs samePayments sameHistory sameRefunds logged
      unrelated =>
      exact
        chains.elsewhere samePayments sameHistory sameRefunds logged
          unrelated
  | recorded booking row logs permitted unrelated =>
      exact chains.recorded integrity permitted unrelated
  | transitioned payment newStatus entry logs foundPayment ownEntry continues
      unrelated =>
      exact
        chains.transitioned integrity.paymentIds foundPayment ownEntry
          continues unrelated
  | refundIssued payment row actorId reason allocationId permitted =>
      exact chains.refunded permitted
  | refundCompleted payment row actorId reason allocationId entry logs
      permitted ownEntry continues unrelated =>
      exact
        (chains.refunded permitted).transitioned integrity.paymentIds
          permitted.foundPayment ownEntry continues unrelated

/-- No change leads away from a status that took three. -/
theorem settled_kept (moved : ChainStep tables after)
    (found : findBy Payment.id payment.id tables.payments = some payment)
    (settled : payment.status = .reversed ∨ payment.status = .refunded) :
    findBy Payment.id payment.id after.payments = some payment := by
  have transitioned_kept :
      ∀ {other : Payment} {newStatus : PaymentStatus}
        {change : Option PaymentStatus × PaymentStatus},
        findBy Payment.id other.id tables.payments = some other →
          lifecycle newStatus = lifecycle other.status ++ [change] →
            findBy Payment.id payment.id
                (updateBy Payment.id other.id (withStatus newStatus)
                  tables.payments) =
              some payment := by
    intro other newStatus change foundOther continues
    have different : payment.id ≠ other.id := by
      intro same
      rw [← same, found] at foundOther
      cases foundOther
      have longer := congrArg List.length continues
      rcases settled with reversed | refunded
      · cases newStatus <;> simp [reversed, lifecycle] at longer
      · cases newStatus <;> simp [refunded, lifecycle] at longer
    have kept :
        findBy Payment.id payment.id
            (updateBy Payment.id other.id (withStatus newStatus)
              tables.payments) =
          some
            (if payment.id = other.id then withStatus newStatus payment
            else payment) :=
      findBy_updateBy_of_found (fun _ => rfl) found
    rw [kept, if_neg different]
  cases moved with
  | elsewhere after logs samePayments sameHistory sameRefunds logged
      unrelated =>
      rw [samePayments]
      exact found
  | recorded booking row logs permitted unrelated =>
      exact findBy_append_of_found _ found
  | transitioned other newStatus entry logs foundOther ownEntry continues
      unrelated =>
      exact transitioned_kept foundOther continues
  | refundIssued other row actorId reason allocationId permitted =>
      exact found
  | refundCompleted other row actorId reason allocationId entry logs
      permitted ownEntry continues unrelated =>
      exact transitioned_kept permitted.foundPayment continues

end Preserved

/-! ## Runs -/

theorem paymentChains_tablesAfter (requests : List Request) :
    PaymentChains (tablesAfter requests) := by
  have both :
      Integrity (tablesAfter requests) ∧
        PaymentChains (tablesAfter requests) := by
    apply
      @run_invariant _ _ _
        (fun tables => Integrity tables ∧ PaymentChains tables)
        Tables.empty ⟨integrity_empty, paymentChains_empty⟩
    rintro current request ⟨integrity, chains⟩
    exact
      ⟨integrity_step integrity request,
        chains.step integrity (step_chainStep request)⟩
  exact both.2

/-- A reversed or refunded payment stays as it is. -/
theorem settled_run {tables : Tables} {payment : Payment}
    (found : findBy Payment.id payment.id tables.payments = some payment)
    (settled : payment.status = .reversed ∨ payment.status = .refunded)
    (requests : List Request) :
    findBy Payment.id payment.id (run step tables requests).payments =
      some payment := by
  apply
    @run_invariant _ _ step
      (fun current =>
        findBy Payment.id payment.id current.payments = some payment)
      tables found
  intro current request kept
  exact settled_kept (step_chainStep request) kept settled

/-- The operations that record a payment or change its status or refunds. -/
def Operation.movesPayment : Operation → Bool
  | .recordPayment _ | .confirmPayment _ | .reversePayment _
  | .refundPayment _ => true
  | _ => false

/-- The key of the operation is on a row already. -/
def keyUsed (tables : Tables) : Operation → Bool
  | .recordPayment input =>
      (findStatusHistoryByIdempotencyKey tables input.idempotencyKey).isSome
  | .confirmPayment input =>
      (findStatusHistoryByIdempotencyKey tables input.idempotencyKey).isSome
  | .reversePayment input =>
      (findStatusHistoryByIdempotencyKey tables input.idempotencyKey).isSome
  | .refundPayment input =>
      (findRefundByIdempotencyKey tables input.idempotencyKey).isSome
  | _ => false

/-- The audit entries of an operation that is carried out. -/
def owedEntries (tables : Tables) (context : RequestContext)
    (actor : AuthenticatedUser) : Operation → List AuditLog
  | .recordPayment input =>
      [paymentRecordedLog actor.id (context.randomUuid 0) input.bookingId
        input.amount]
  | .confirmPayment input =>
      (findBy Payment.id input.paymentId tables.payments).toList.map
        fun payment =>
          statusChangedLog actor.id payment .confirmed input.reason
  | .reversePayment input =>
      (findBy Payment.id input.paymentId tables.payments).toList.map
        fun payment =>
          statusChangedLog actor.id payment .reversed input.reason
  | .refundPayment input =>
      (findBy Payment.id input.paymentId tables.payments).toList.flatMap
        fun payment =>
          paymentRefundedLog tables actor.id payment input.amount
              input.reason input.allocationId ::
            if sumRefundsForPayment tables payment.id + input.amount.value =
                payment.amount.value then
              [statusChangedLog actor.id payment .refunded input.reason]
            else
              []
  | _ => []

/-- What an answered operation did to the audit log. -/
def Accounted (tables after : Tables) (context : RequestContext)
    (user : AuthenticatedUser) (operation : Operation) : Prop :=
  keyUsed tables operation = true ∧ after = tables ∨
    keyUsed tables operation = false ∧
      after.auditLogs =
        tables.auditLogs ++ owedEntries tables context user operation

section Entries

variable {tables after : Tables} {context : RequestContext}
  {user : AuthenticatedUser} {operation : Operation} {response : Response}

theorem recordKey_used {actor : PaymentActor} {input : RecordPaymentInput}
    {record : PaymentRecord}
    (resolved : resolveRecordReplay actor input tables = .ok (some record)) :
    keyUsed tables (.recordPayment input) = true := by
  obtain ⟨history, payment, found, -⟩ :=
    resolveRecordReplay_eq_some.mp resolved
  exact Option.isSome_of_eq_some found

theorem transitionKey_used {actor : PaymentActor} {paymentId : Uuid}
    {idempotencyKey : String} {status : PaymentStatus} {record : PaymentRecord}
    (resolved :
      resolveStatusTransitionReplay actor paymentId idempotencyKey status
        tables = .ok (some record)) :
    (findStatusHistoryByIdempotencyKey tables idempotencyKey).isSome =
      true := by
  obtain ⟨history, payment, found, -⟩ :=
    resolveStatusTransitionReplay_eq_some.mp resolved
  exact Option.isSome_of_eq_some found

theorem refundKey_used {actor : PaymentActor} {input : RefundPaymentInput}
    {result : RefundPaymentResult}
    (resolved : resolveRefundReplay actor input tables = .ok (some result)) :
    keyUsed tables (.refundPayment input) = true := by
  obtain ⟨existing, payment, found, -⟩ :=
    resolveRefundReplay_eq_some.mp resolved
  exact Option.isSome_of_eq_some found

theorem accounted_of_answered (moves : operation.movesPayment)
    (answered :
      perform context user operation tables = (.ok response, after)) :
    Accounted tables after context user operation := by
  cases operation with
  | recordPayment input =>
      obtain ⟨actor, record, admitted, rfl, computed | ⟨rfl, resolved⟩⟩ :=
        answered_ok answered
      · rcases recordPaymentTransaction_written computed with
          ⟨resolved, rfl⟩ |
            ⟨booking, row, -, -, ownId, ownBooking, ownAmount, -, freshKey, -,
              rfl⟩
        · exact Or.inl ⟨recordKey_used resolved, rfl⟩
        · obtain ⟨-, rfl⟩ := assertFinanceActor_eq_ok.mp admitted
          refine Or.inr ⟨by simp [keyUsed, freshKey], ?_⟩
          rw [ownId, ownBooking, ownAmount]
          rfl
      · exact Or.inl ⟨recordKey_used resolved, rfl⟩
  | confirmPayment input =>
      obtain ⟨actor, record, admitted, rfl, computed | ⟨rfl, resolved⟩⟩ :=
        answered_ok answered
      · rcases confirmPaymentTransaction_written computed with
          ⟨resolved, rfl⟩ |
            ⟨payment, -, sameId, foundPayment, -, freshKey, -, rfl⟩
        · exact Or.inl ⟨transitionKey_used resolved, rfl⟩
        · obtain ⟨-, rfl⟩ := assertFinanceActor_eq_ok.mp admitted
          refine Or.inr ⟨by simp [keyUsed, freshKey], ?_⟩
          rw [sameId] at foundPayment
          rw [owedEntries, foundPayment]
          rfl
      · exact Or.inl ⟨transitionKey_used resolved, rfl⟩
  | reversePayment input =>
      obtain ⟨actor, record, admitted, rfl, computed | ⟨rfl, resolved⟩⟩ :=
        answered_ok answered
      · rcases reversePaymentTransaction_written computed with
          ⟨resolved, rfl⟩ |
            ⟨payment, sameId, foundPayment, -, -, freshKey, -, rfl⟩
        · exact Or.inl ⟨transitionKey_used resolved, rfl⟩
        · obtain ⟨-, rfl⟩ := assertFinanceActor_eq_ok.mp admitted
          refine Or.inr ⟨by simp [keyUsed, freshKey], ?_⟩
          rw [sameId] at foundPayment
          rw [owedEntries, foundPayment]
          rfl
      · exact Or.inl ⟨transitionKey_used resolved, rfl⟩
  | refundPayment input =>
      obtain ⟨actor, result, admitted, rfl, computed | ⟨rfl, resolved⟩⟩ :=
        answered_ok answered
      · rcases refundPaymentTransaction_written computed with
          ⟨resolved, rfl⟩ |
            ⟨payment, row, sameId, permitted, ownAmount, -, -, freshKey, -,
              written⟩
        · exact Or.inl ⟨refundKey_used resolved, rfl⟩
        · obtain ⟨-, rfl⟩ := assertFinanceActor_eq_ok.mp admitted
          refine Or.inr ⟨by simp [keyUsed, freshKey], ?_⟩
          have foundPayment := permitted.foundPayment
          rw [sameId] at foundPayment
          rw [ownAmount] at written
          rcases written with ⟨remaining, -, rfl⟩ | ⟨completes, -, rfl⟩
          · rw [owedEntries, foundPayment, Option.toList_some,
              List.flatMap_singleton, if_neg remaining]
            rfl
          · rw [owedEntries, foundPayment, Option.toList_some,
              List.flatMap_singleton, if_pos completes]
            rfl
      · exact Or.inl ⟨refundKey_used resolved, rfl⟩
  | _ =>
      cases moves

theorem unchanged_of_failed {failure : TxError}
    (moves : operation.movesPayment)
    (failed :
      perform context user operation tables = (.error failure, after)) :
    after = tables := by
  cases operation with
  | recordPayment input => exact failed_unchanged failed
  | confirmPayment input => exact failed_unchanged failed
  | reversePayment input => exact failed_unchanged failed
  | refundPayment input => exact failed_unchanged failed
  | _ => cases moves

end Entries

/-- After any requests every payment's status rows form one path to its status
and its refund entries one chain to its refunded total; a reversed or refunded
payment stays as it is; and an operation on a payment adds its audit entries
once, when it is first carried out, and never when it is replayed or fails. -/
theorem payment_chains (requests : List Request) :
    (∀ payment ∈ (tablesAfter requests).payments,
        StatusChain (tablesAfter requests) payment ∧
          RefundChain (tablesAfter requests) payment) ∧
      (∀ payment ∈ (tablesAfter requests).payments,
        payment.status = .reversed ∨ payment.status = .refunded →
          ∀ more,
            findBy Payment.id payment.id
                (tablesAfter (requests ++ more)).payments =
              some payment) ∧
      ∀ context user operation, operation.movesPayment →
        ∀ after,
          (∀ response,
            perform context user operation (tablesAfter requests) =
                (.ok response, after) →
              Accounted (tablesAfter requests) after context user
                operation) ∧
          ∀ failure,
            perform context user operation (tablesAfter requests) =
                (.error failure, after) →
              after = tablesAfter requests := by
  have chains := paymentChains_tablesAfter requests
  refine ⟨?_, ?_, ?_⟩
  · intro payment member
    exact
      ⟨statusChain_of_changes (chains.changes payment member)
          (chains.living payment member),
        chains.refunds payment member⟩
  · intro payment member settled more
    have found :=
      findBy_of_mem (integrity_tablesAfter requests).paymentIds member
    unfold tablesAfter
    rw [run_append]
    exact settled_run found settled more
  · intro context user operation moves after
    exact
      ⟨fun response => accounted_of_answered moves,
        fun failure => unchanged_of_failed moves⟩

end Heritage.Payments
