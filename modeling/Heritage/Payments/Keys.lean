import Heritage.Payments.Enumeration
import Heritage.Payments.Refinement

/-!
# The keys of the ledger

An operation stores no key but its own.  It is refused for its key only when
the key was stored for something else: never under a key that no row carries,
nor under the key of the same operation.
-/

namespace Heritage.Payments

open Heritage.Store
open Repository

/-- The key of a money operation. -/
def Operation.idempotencyKey : Operation → Option String
  | .recordPayment input => some input.idempotencyKey
  | .confirmPayment input => some input.idempotencyKey
  | .reversePayment input => some input.idempotencyKey
  | .refundPayment input => some input.idempotencyKey
  | .createAllocation input => some input.idempotencyKey
  | .reverseAllocation input => some input.idempotencyKey
  | _ => none

/-- The keys on the rows of the ledger. -/
def storedKeys (tables : Tables) : List String :=
  tables.statusHistory.filterMap PaymentStatusHistory.idempotencyKey ++
    (tables.refunds.map PaymentRefund.idempotencyKey ++
      (tables.allocations.map PaymentAllocation.idempotencyKey ++
        tables.allocationReversals.map
          PaymentAllocationReversal.idempotencyKey))

variable {tables after : Tables} {context : RequestContext}
  {user : AuthenticatedUser} {operation : Operation} {response : Response}

theorem mem_storedKeys {key : String} :
    key ∈ storedKeys tables ↔
      (∃ history ∈ tables.statusHistory,
        history.idempotencyKey = some key) ∨
      (∃ refund ∈ tables.refunds, refund.idempotencyKey = key) ∨
      (∃ allocation ∈ tables.allocations,
        allocation.idempotencyKey = key) ∨
      ∃ reversal ∈ tables.allocationReversals,
        reversal.idempotencyKey = key := by
  simp only [storedKeys, List.mem_append, List.mem_filterMap, List.mem_map]

/-- Every key stored afterwards was stored before or is `own`. -/
def StoresOnly (own : Option String) (tables after : Tables) : Prop :=
  ∀ key ∈ storedKeys after, key ∈ storedKeys tables ∨ own = some key

theorem storesOnly_of_same {own : Option String}
    (same : storedKeys after = storedKeys tables) :
    StoresOnly own tables after := by
  intro key stored
  rw [same] at stored
  exact Or.inl stored

/-- A new history row under the own key. -/
theorem storesOnly_history {own : String} {entry : PaymentStatusHistory}
    (ownKey : entry.idempotencyKey = some own)
    (history : after.statusHistory = tables.statusHistory ++ [entry])
    (refunds : after.refunds = tables.refunds)
    (allocations : after.allocations = tables.allocations)
    (reversals : after.allocationReversals = tables.allocationReversals) :
    StoresOnly (some own) tables after := by
  intro key stored
  rw [mem_storedKeys, history, refunds, allocations, reversals] at stored
  rcases stored with ⟨row, member, carries⟩ | elsewhere
  · rcases List.mem_append.mp member with old | new
    · exact Or.inl (mem_storedKeys.mpr (Or.inl ⟨row, old, carries⟩))
    · obtain rfl := List.mem_singleton.mp new
      rw [ownKey] at carries
      exact Or.inr carries
  · exact Or.inl (mem_storedKeys.mpr (Or.inr elsewhere))

/-- A new refund under the own key. -/
theorem storesOnly_refunded {row : CreateRefundInput} :
    StoresOnly (some row.idempotencyKey) tables (refunded tables row) := by
  intro key stored
  rcases mem_storedKeys.mp stored with
    history | ⟨refund, member, carries⟩ | elsewhere
  · exact Or.inl (mem_storedKeys.mpr (Or.inl history))
  · rcases List.mem_append.mp member with old | new
    · exact
        Or.inl (mem_storedKeys.mpr (Or.inr (Or.inl ⟨refund, old, carries⟩)))
    · obtain rfl := List.mem_singleton.mp new
      exact Or.inr (congrArg some carries)
  · exact Or.inl (mem_storedKeys.mpr (Or.inr (Or.inr elsewhere)))

theorem storesOnly_allocated {row : PaymentAllocation} :
    StoresOnly (some row.idempotencyKey) tables (allocated tables row) := by
  intro key stored
  rcases mem_storedKeys.mp stored with
    history | refunds | ⟨allocation, member, carries⟩ | reversals
  · exact Or.inl (mem_storedKeys.mpr (Or.inl history))
  · exact Or.inl (mem_storedKeys.mpr (Or.inr (Or.inl refunds)))
  · rcases List.mem_append.mp member with old | new
    · exact
        Or.inl
          (mem_storedKeys.mpr
            (Or.inr (Or.inr (Or.inl ⟨allocation, old, carries⟩))))
    · obtain rfl := List.mem_singleton.mp new
      exact Or.inr (congrArg some carries)
  · exact
      Or.inl (mem_storedKeys.mpr (Or.inr (Or.inr (Or.inr reversals))))

theorem storesOnly_unallocated {row : PaymentAllocationReversal} :
    StoresOnly (some row.idempotencyKey) tables (unallocated tables row) := by
  intro key stored
  rcases mem_storedKeys.mp stored with
    history | refunds | allocations | ⟨reversal, member, carries⟩
  · exact Or.inl (mem_storedKeys.mpr (Or.inl history))
  · exact Or.inl (mem_storedKeys.mpr (Or.inr (Or.inl refunds)))
  · exact
      Or.inl (mem_storedKeys.mpr (Or.inr (Or.inr (Or.inl allocations))))
  · rcases List.mem_append.mp member with old | new
    · exact
        Or.inl
          (mem_storedKeys.mpr
            (Or.inr (Or.inr (Or.inr ⟨reversal, old, carries⟩))))
    · obtain rfl := List.mem_singleton.mp new
      exact Or.inr (congrArg some carries)

theorem StoresOnly.trans {own : Option String} {middle : Tables}
    (first : StoresOnly own tables middle)
    (second : StoresOnly own middle after) : StoresOnly own tables after := by
  intro key stored
  rcases second key stored with middleKey | isOwn
  · exact first key middleKey
  · exact Or.inr isOwn

/-- Audit entries carry no key. -/
theorem StoresOnly.audited {own : Option String} {logs : List AuditLog}
    (stores : StoresOnly own tables after) :
    StoresOnly own tables (audited after logs) :=
  stores

/-- The kinds of writes that store no key. -/
def WriteKind.keepsKeys : WriteKind → Bool
  | .recording | .confirmation | .paymentReversal | .refund | .allocation
  | .allocationReversal => false
  | _ => true

theorem storedKeys_of_commit {kind : WriteKind}
    (commit : Commit tables kind after) (keeps : kind.keepsKeys) :
    storedKeys after = storedKeys tables := by
  cases commit with
  | paymentRecorded => cases keeps
  | paymentConfirmed => cases keeps
  | paymentReversed => cases keeps
  | refundIssued => cases keeps
  | refundCompleted => cases keeps
  | allocationCreated => cases keeps
  | allocationReversed => cases keeps
  | _ => rfl

theorem storesOnly_of_keepsKeys (keeps : operation.kind.keepsKeys)
    (own : Option String) :
    StoresOnly own tables (perform context user operation tables).2 := by
  rcases perform_state context user operation with silent | commit
  · exact storesOnly_of_same (congrArg storedKeys silent)
  · exact storesOnly_of_same (storedKeys_of_commit commit keeps)

theorem recordPayment_storesOnly {actor : PaymentActor}
    {input : RecordPaymentInput} {record : PaymentRecord}
    (succeeds :
      recordPaymentTransaction context actor input tables =
        .ok (record, after)) :
    StoresOnly (some input.idempotencyKey) tables after := by
  rcases recordPaymentTransaction_ok succeeds with
    ⟨-, rfl⟩ | ⟨booking, row, logs, -, -, -, ownKey, -, -, rfl⟩
  · exact storesOnly_of_same rfl
  · have ownEntry : row.historyRow.idempotencyKey = some input.idempotencyKey :=
      congrArg some ownKey
    exact storesOnly_history ownEntry rfl rfl rfl rfl

theorem confirmPayment_storesOnly {actor : PaymentActor}
    {input : ConfirmPaymentInput} {record : PaymentRecord}
    (succeeds :
      confirmPaymentTransaction actor input tables = .ok (record, after)) :
    StoresOnly (some input.idempotencyKey) tables after := by
  rcases confirmPaymentTransaction_ok succeeds with
    ⟨-, rfl⟩ | ⟨payment, entry, logs, -, -, -, -, -, -, -, ownKey, rfl⟩
  · exact storesOnly_of_same rfl
  · exact storesOnly_history ownKey rfl rfl rfl rfl

theorem reversePayment_storesOnly {actor : PaymentActor}
    {input : ReversePaymentInput} {record : PaymentRecord}
    (succeeds :
      reversePaymentTransaction actor input tables = .ok (record, after)) :
    StoresOnly (some input.idempotencyKey) tables after := by
  rcases reversePaymentTransaction_ok succeeds with
    ⟨-, rfl⟩ | ⟨payment, entry, logs, -, -, -, -, -, -, -, -, ownKey, rfl⟩
  · exact storesOnly_of_same rfl
  · exact storesOnly_history ownKey rfl rfl rfl rfl

theorem refundPayment_storesOnly {actor : PaymentActor}
    {input : RefundPaymentInput} {result : RefundPaymentResult}
    (succeeds :
      refundPaymentTransaction context actor input tables =
        .ok (result, after)) :
    StoresOnly (some input.idempotencyKey) tables after := by
  rcases refundPaymentTransaction_written succeeds with
    ⟨-, rfl⟩ |
      ⟨payment, row, -, -, -, ownKey, -, -, -, ⟨-, -, rfl⟩ | ⟨-, -, rfl⟩⟩
  · exact storesOnly_of_same rfl
  · rw [← ownKey]
    exact storesOnly_refunded.audited
  · rw [← ownKey]
    have refundStored : StoresOnly (some row.idempotencyKey) tables
        (refunded tables row) := storesOnly_refunded
    exact refundStored.trans (storesOnly_history rfl rfl rfl rfl rfl)

theorem createAllocation_storesOnly {actor : PaymentActor}
    {input : CreateAllocationInput} {record : AllocationRecord}
    (succeeds :
      createAllocationTransaction context actor input tables =
        .ok (record, after)) :
    StoresOnly (some input.idempotencyKey) tables after := by
  rcases createAllocationTransaction_ok succeeds with
    ⟨-, rfl⟩ |
      ⟨payment, installment, plan, row, logs, -, -, -, -, -, ownKey, -, -, -,
        rfl⟩
  · exact storesOnly_of_same rfl
  · rw [← ownKey]
    exact storesOnly_allocated.audited

theorem reverseAllocation_storesOnly {actor : PaymentActor}
    {input : ReverseAllocationInput} {record : AllocationReversalRecord}
    (succeeds :
      reverseAllocationTransaction context actor input tables =
        .ok (record, after)) :
    StoresOnly (some input.idempotencyKey) tables after := by
  rcases reverseAllocationTransaction_ok succeeds with
    ⟨-, rfl⟩ |
      ⟨allocation, payment, row, logs, -, -, -, -, -, ownKey, -, -, -, rfl⟩
  · exact storesOnly_of_same rfl
  · rw [← ownKey]
    exact storesOnly_unallocated.audited

/-- An operation stores no key but its own. -/
theorem perform_storesOnly :
    StoresOnly operation.idempotencyKey tables
      (perform context user operation tables).2 := by
  have silent : ∀ own, StoresOnly own tables tables :=
    fun _ => storesOnly_of_same rfl
  cases operation with
  | recordPayment input =>
      apply operation_after (silent _)
      intro actor record after succeeds
      exact recordPayment_storesOnly succeeds
  | confirmPayment input =>
      apply operation_after (silent _)
      intro actor record after succeeds
      exact confirmPayment_storesOnly succeeds
  | reversePayment input =>
      apply operation_after (silent _)
      intro actor record after succeeds
      exact reversePayment_storesOnly succeeds
  | refundPayment input =>
      apply operation_after (silent _)
      intro actor result after succeeds
      exact refundPayment_storesOnly succeeds
  | createAllocation input =>
      apply operation_after (silent _)
      intro actor record after succeeds
      exact createAllocation_storesOnly succeeds
  | reverseAllocation input =>
      apply operation_after (silent _)
      intro actor record after succeeds
      exact reverseAllocation_storesOnly succeeds
  | _ => exact storesOnly_of_keepsKeys rfl none

/-- The key a request brings. -/
def Request.idempotencyKey : Request → Option String
  | .operation _ _ operation => operation.idempotencyKey
  | _ => none

/-- A request stores no key but its own. -/
theorem step_storesOnly (request : Request) :
    StoresOnly request.idempotencyKey tables (step tables request) := by
  cases request with
  | operation context user operation => exact perform_storesOnly
  | bookingAdded booking =>
      simp only [step]
      split
      · exact storesOnly_of_same rfl
      · exact storesOnly_of_same rfl
  | bookingStatusChanged bookingId status => exact storesOnly_of_same rfl
  | assignmentsChanged staffAssignments => exact storesOnly_of_same rfl

/-! ## Under a key that no row carries -/

theorem findHistory_of_unstored {key : String}
    (unstored : key ∉ storedKeys tables) :
    findStatusHistoryByIdempotencyKey tables key = none := by
  apply findBy_eq_none_iff.mpr
  intro history member carries
  exact unstored (mem_storedKeys.mpr (Or.inl ⟨history, member, carries⟩))

theorem findRefund_of_unstored {key : String}
    (unstored : key ∉ storedKeys tables) :
    findRefundByIdempotencyKey tables key = none := by
  apply Option.map_eq_none_iff.mpr
  apply findBy_eq_none_iff.mpr
  intro refund member carries
  exact
    unstored (mem_storedKeys.mpr (Or.inr (Or.inl ⟨refund, member, carries⟩)))

theorem findAllocation_of_unstored {key : String}
    (unstored : key ∉ storedKeys tables) :
    findAllocationByIdempotencyKey tables key = none := by
  apply Option.map_eq_none_iff.mpr
  apply findBy_eq_none_iff.mpr
  intro allocation member carries
  exact
    unstored
      (mem_storedKeys.mpr (Or.inr (Or.inr (Or.inl ⟨_, member, carries⟩))))

theorem findReversal_of_unstored {key : String}
    (unstored : key ∉ storedKeys tables) :
    findAllocationReversalByIdempotencyKey tables key = none := by
  apply Option.map_eq_none_iff.mpr
  apply findBy_eq_none_iff.mpr
  intro reversal member carries
  exact
    unstored
      (mem_storedKeys.mpr (Or.inr (Or.inr (Or.inr ⟨_, member, carries⟩))))

/-- Another domain error than the key conflict. -/
theorem paymentError_ne_conflict {code : PaymentErrorCode} {message : String}
    (other : code ≠ .idempotencyKeyConflict) :
    paymentError code message ≠ idempotencyKeyConflict := by
  intro same
  simp only [paymentError, idempotencyKeyConflict, TxError.payment.injEq,
    PaymentError.mk.injEq] at same
  exact other same.1

section Shape

variable {α : Type} {respond : α → Response}
  {checked : Except TxError PaymentActor}
  {body : PaymentActor → Tables → Except TxError (α × Tables)}
  {matched : TxError → Bool}
  {resolve : PaymentActor → Tables → Except TxError (Option α)}
  {conflict : TxError}

/-- An operation whose replay finds nothing avoids what its parts avoid. -/
theorem avoids_operation {failure : TxError}
    (checkedAvoids : Avoids checked failure) (conflictAvoids : conflict ≠ failure)
    (bodyAvoids : ∀ actor, Avoids (body actor tables) failure)
    (nothing : ∀ actor, resolve actor tables = .ok none) :
    Avoids
      (answering respond
        (withActor checked fun actor =>
          serve (body actor) (replayOn matched (resolve actor)) conflict)
        tables).1 failure := by
  apply avoids_map
  cases checked with
  | error refusal =>
      intro ends
      exact checkedAvoids (congrArg Except.error (Except.error.inj ends))
  | ok actor =>
      simp only [withActor, serve]
      have avoids := bodyAvoids actor
      cases outcome : body actor tables with
      | ok result =>
          rw [transact_of_ok outcome]
          exact avoids_ok _
      | error refusal =>
          rw [outcome] at avoids
          have otherRefusal : refusal ≠ failure := fun same =>
            avoids (congrArg Except.error same)
          have noReplayFound :
              replayOn matched (resolve actor) refusal tables = .ok none := by
            unfold replayOn
            split
            · exact nothing actor
            · rfl
          rw [transact_of_error outcome]
          cases refusal with
          | payment error =>
              intro ends
              exact otherRefusal (Except.error.inj ends)
          | uniqueViolation model columns =>
              simpa [Avoids, rescue, noReplayFound, isOtherKnownConflict]
                using conflictAvoids
          | unknown message =>
              simpa [Avoids, rescue, noReplayFound, isOtherKnownConflict]
                using otherRefusal

end Shape

section Guards

variable {α : Type}

/-- A guard with another refusal. -/
theorem avoids_guard {condition : Prop} [Decidable condition]
    {refusal : TxError} {rest : Unit → Except TxError α}
    (other : refusal ≠ idempotencyKeyConflict)
    (restAvoids : Avoids (rest ()) idempotencyKeyConflict) :
    Avoids (require condition refusal >>= rest) idempotencyKeyConflict := by
  apply avoids_bind (avoids_require fun _ => other)
  intro _ _
  exact restAvoids

/-- A lookup with another refusal. -/
theorem avoids_lookup {β : Type} {found : Option β} {refusal : TxError}
    {rest : β → Except TxError α} (other : refusal ≠ idempotencyKeyConflict)
    (restAvoids : ∀ value, Avoids (rest value) idempotencyKeyConflict) :
    Avoids (demand found refusal >>= rest) idempotencyKeyConflict := by
  apply avoids_bind (avoids_demand other)
  intro value _
  exact restAvoids value

end Guards

theorem changePaymentStatus_avoids {actor : PaymentActor}
    {found : PaymentRecord} {newStatus : PaymentStatus}
    {reason idempotencyKey : String} :
    Avoids
      (changePaymentStatus actor found newStatus reason idempotencyKey tables)
      idempotencyKeyConflict := by
  apply avoids_bind
  · unfold transitionPaymentStatus
    split
    · simp [Avoids, recordNotFound, idempotencyKeyConflict, paymentError]
    · apply avoids_guard
      · simp [idempotencyKeyConflict, paymentError]
      · exact avoids_ok _
  · intro updated _
    exact avoids_ok _

theorem assertBookingAmountPrecision_avoids {bookingId : Uuid}
    {amount : MoneyAmount} :
    Avoids (assertBookingAmountPrecision tables bookingId amount)
      idempotencyKeyConflict := by
  apply avoids_lookup (paymentError_ne_conflict (by decide))
  intro currencyCode
  exact avoids_require fun _ => paymentError_ne_conflict (by decide)

theorem assertRefundableAllocation_avoids {paymentId : Uuid}
    {amount : MoneyAmount} {allocationId : Option Uuid} :
    Avoids (assertRefundableAllocation tables paymentId amount allocationId)
      idempotencyKeyConflict := by
  cases allocationId with
  | none => exact avoids_ok _
  | some id =>
      apply avoids_lookup (paymentError_ne_conflict (by decide))
      intro allocation
      apply avoids_guard (paymentError_ne_conflict (by decide))
      exact avoids_require fun _ => paymentError_ne_conflict (by decide)

theorem recordPayment_avoids {actor : PaymentActor}
    {input : RecordPaymentInput}
    (unused : resolveRecordReplay actor input tables = .ok none) :
    Avoids (recordPaymentTransaction context actor input tables)
      idempotencyKeyConflict := by
  apply avoids_lookup (paymentError_ne_conflict (by decide))
  intro booking
  rw [unused, ok_bind]
  apply avoids_guard (paymentError_ne_conflict (by decide))
  apply avoids_lookup (paymentError_ne_conflict (by decide))
  intro currencyCode
  apply avoids_guard (paymentError_ne_conflict (by decide))
  apply avoids_bind
  · apply avoids_guard
    · simp [idempotencyKeyConflict, paymentError]
    · apply avoids_guard
      · simp [idempotencyKeyConflict, paymentError]
      · exact avoids_ok _
  · intro created _
    exact avoids_ok _

theorem confirmPayment_avoids {actor : PaymentActor}
    {input : ConfirmPaymentInput}
    (unused :
      resolveStatusTransitionReplay actor input.paymentId
        input.idempotencyKey .confirmed tables = .ok none) :
    Avoids (confirmPaymentTransaction actor input tables)
      idempotencyKeyConflict := by
  unfold confirmPaymentTransaction
  rw [unused, ok_bind]
  apply avoids_lookup (paymentError_ne_conflict (by decide))
  intro found
  apply avoids_guard (paymentError_ne_conflict (by decide))
  apply avoids_guard (paymentError_ne_conflict (by decide))
  exact changePaymentStatus_avoids

theorem reversePayment_avoids {actor : PaymentActor}
    {input : ReversePaymentInput}
    (unused :
      resolveStatusTransitionReplay actor input.paymentId
        input.idempotencyKey .reversed tables = .ok none) :
    Avoids (reversePaymentTransaction actor input tables)
      idempotencyKeyConflict := by
  unfold reversePaymentTransaction
  rw [unused, ok_bind]
  apply avoids_lookup (paymentError_ne_conflict (by decide))
  intro found
  apply avoids_guard (paymentError_ne_conflict (by decide))
  apply avoids_guard (paymentError_ne_conflict (by decide))
  exact changePaymentStatus_avoids

theorem refundPayment_avoids {actor : PaymentActor}
    {input : RefundPaymentInput}
    (unused : resolveRefundReplay actor input tables = .ok none)
    (unusedInHistory :
      findStatusHistoryByIdempotencyKey tables input.idempotencyKey =
        none) :
    Avoids (refundPaymentTransaction context actor input tables)
      idempotencyKeyConflict := by
  have newKey :
      (findStatusHistoryByIdempotencyKey tables
        input.idempotencyKey).isNone :=
    Option.isNone_iff_eq_none.mpr unusedInHistory
  unfold refundPaymentTransaction
  rw [unused, ok_bind, require_of newKey, ok_bind]
  apply avoids_lookup (paymentError_ne_conflict (by decide))
  intro found
  apply avoids_guard (paymentError_ne_conflict (by decide))
  apply avoids_bind assertBookingAmountPrecision_avoids
  intro _ _
  apply avoids_guard (paymentError_ne_conflict (by decide))
  apply avoids_bind assertRefundableAllocation_avoids
  intro _ _
  apply avoids_guard (paymentError_ne_conflict (by decide))
  apply avoids_bind
  · apply avoids_guard
    · simp [idempotencyKeyConflict, paymentError]
    · apply avoids_guard
      · simp [idempotencyKeyConflict, paymentError]
      · exact avoids_ok _
  · intro created _
    dsimp only
    split
    · apply avoids_bind changePaymentStatus_avoids
      intro updated _
      exact avoids_ok _
    · exact avoids_ok _

theorem createAllocation_avoids {actor : PaymentActor}
    {input : CreateAllocationInput}
    (unused : resolveAllocationReplay actor input tables = .ok none) :
    Avoids (createAllocationTransaction context actor input tables)
      idempotencyKeyConflict := by
  unfold createAllocationTransaction
  rw [unused, ok_bind]
  apply avoids_lookup (paymentError_ne_conflict (by decide))
  intro payment
  apply avoids_guard (paymentError_ne_conflict (by decide))
  apply avoids_bind assertBookingAmountPrecision_avoids
  intro _ _
  apply avoids_lookup (paymentError_ne_conflict (by decide))
  intro installment
  apply avoids_guard (paymentError_ne_conflict (by decide))
  apply avoids_guard (paymentError_ne_conflict (by decide))
  apply avoids_guard
  · simp [idempotencyKeyConflict, paymentError]
  apply avoids_guard (paymentError_ne_conflict (by decide))
  apply avoids_guard (paymentError_ne_conflict (by decide))
  apply avoids_bind
  · apply avoids_guard
    · simp [idempotencyKeyConflict, paymentError]
    · apply avoids_guard
      · simp [idempotencyKeyConflict, paymentError]
      · exact avoids_ok _
  · intro created _
    exact avoids_ok _

theorem reverseAllocation_avoids {actor : PaymentActor}
    {input : ReverseAllocationInput}
    (unused :
      resolveAllocationReversalReplay actor input tables = .ok none) :
    Avoids (reverseAllocationTransaction context actor input tables)
      idempotencyKeyConflict := by
  unfold reverseAllocationTransaction
  rw [unused, ok_bind]
  apply avoids_lookup (paymentError_ne_conflict (by decide))
  intro allocation
  apply avoids_lookup (paymentError_ne_conflict (by decide))
  intro payment
  apply avoids_guard (paymentError_ne_conflict (by decide))
  apply avoids_guard (paymentError_ne_conflict (by decide))
  apply avoids_bind
  · apply avoids_guard
    · simp [idempotencyKeyConflict, paymentError]
    · apply avoids_guard
      · simp [idempotencyKeyConflict, paymentError]
      · apply avoids_guard
        · simp [idempotencyKeyConflict, paymentError]
        · exact avoids_ok _
  · intro created _
    exact avoids_ok _

theorem assertFinanceActor_avoids :
    Avoids (assertFinanceActor user) idempotencyKeyConflict := by
  unfold assertFinanceActor
  split
  · exact avoids_ok _
  · exact fun same =>
      paymentError_ne_conflict (by decide) (Except.error.inj same)

/-- Under a key that no row carries a money operation is not refused for its
key. -/
theorem avoids_of_unstored {key : String}
    (own : operation.idempotencyKey = some key)
    (unstored : key ∉ storedKeys tables) :
    Avoids (perform context user operation tables).1
      idempotencyKeyConflict := by
  cases operation with
  | recordPayment input =>
      obtain rfl := Option.some.inj own
      have unused :
          ∀ actor, resolveRecordReplay actor input tables = .ok none := by
        intro actor
        unfold resolveRecordReplay
        rw [findHistory_of_unstored unstored]
      exact
        avoids_operation assertFinanceActor_avoids
          (paymentError_ne_conflict (by decide))
          (fun actor => recordPayment_avoids (unused actor)) unused
  | confirmPayment input =>
      obtain rfl := Option.some.inj own
      have unused :
          ∀ actor,
            resolveStatusTransitionReplay actor input.paymentId
              input.idempotencyKey .confirmed tables = .ok none := by
        intro actor
        unfold resolveStatusTransitionReplay
        rw [findHistory_of_unstored unstored]
      exact
        avoids_operation assertFinanceActor_avoids
          (paymentError_ne_conflict (by decide))
          (fun actor => confirmPayment_avoids (unused actor)) unused
  | reversePayment input =>
      obtain rfl := Option.some.inj own
      have unused :
          ∀ actor,
            resolveStatusTransitionReplay actor input.paymentId
              input.idempotencyKey .reversed tables = .ok none := by
        intro actor
        unfold resolveStatusTransitionReplay
        rw [findHistory_of_unstored unstored]
      exact
        avoids_operation assertFinanceActor_avoids
          (paymentError_ne_conflict (by decide))
          (fun actor => reversePayment_avoids (unused actor)) unused
  | refundPayment input =>
      obtain rfl := Option.some.inj own
      have unused :
          ∀ actor, resolveRefundReplay actor input tables = .ok none := by
        intro actor
        unfold resolveRefundReplay
        rw [findRefund_of_unstored unstored]
      exact
        avoids_operation assertFinanceActor_avoids
          (paymentError_ne_conflict (by decide))
          (fun actor =>
            refundPayment_avoids (unused actor)
              (findHistory_of_unstored unstored))
          unused
  | createAllocation input =>
      obtain rfl := Option.some.inj own
      have unused :
          ∀ actor, resolveAllocationReplay actor input tables = .ok none := by
        intro actor
        unfold resolveAllocationReplay
        rw [findAllocation_of_unstored unstored]
      exact
        avoids_operation assertFinanceActor_avoids
          (paymentError_ne_conflict (by decide))
          (fun actor => createAllocation_avoids (unused actor)) unused
  | reverseAllocation input =>
      obtain rfl := Option.some.inj own
      have unused :
          ∀ actor,
            resolveAllocationReversalReplay actor input tables =
              .ok none := by
        intro actor
        unfold resolveAllocationReversalReplay
        rw [findReversal_of_unstored unstored]
      exact
        avoids_operation assertFinanceActor_avoids
          (paymentError_ne_conflict (by decide))
          (fun actor => reverseAllocation_avoids (unused actor)) unused
  | _ => cases own

/-! ## Under the key of the operation itself -/

/-- The operations with a key are the money operations. -/
theorem isMoneyOperation_of_key {key : String}
    (own : operation.idempotencyKey = some key) :
    operation.isMoneyOperation := by
  cases operation <;> first | rfl | cases own

/-- A keyed operation that fails writes nothing. -/
theorem unchanged_of_key {key : String} {failure : TxError}
    (own : operation.idempotencyKey = some key)
    (failed :
      perform context user operation tables = (.error failure, after)) :
    after = tables := by
  cases operation with
  | recordPayment input => exact failed_unchanged failed
  | confirmPayment input => exact failed_unchanged failed
  | reversePayment input => exact failed_unchanged failed
  | refundPayment input => exact failed_unchanged failed
  | createAllocation input => exact failed_unchanged failed
  | reverseAllocation input => exact failed_unchanged failed
  | _ => cases own

/-- A traced operation has stored its key. -/
theorem stored_of_traced {key : String}
    (own : operation.idempotencyKey = some key)
    (traced : Traced tables operation response) :
    key ∈ storedKeys tables := by
  by_contra unstored
  have noHistory := findHistory_of_unstored unstored
  cases operation <;> cases response <;> try exact False.elim traced
  all_goals obtain rfl := Option.some.inj own
  case recordPayment.payment input record =>
    obtain ⟨-, -, -, history, found, -⟩ := traced
    rw [noHistory] at found
    cases found
  case confirmPayment.payment input record =>
    obtain ⟨history, found, -⟩ := traced
    rw [noHistory] at found
    cases found
  case reversePayment.payment input record =>
    obtain ⟨history, found, -⟩ := traced
    rw [noHistory] at found
    cases found
  case refundPayment.refund input result =>
    obtain ⟨-, -, existing, found, -⟩ := traced
    rw [findRefund_of_unstored unstored] at found
    cases found
  case createAllocation.allocation input record =>
    obtain ⟨found, -⟩ := traced
    rw [findAllocation_of_unstored unstored] at found
    cases found
  case reverseAllocation.allocationReversal input record =>
    obtain ⟨found, -⟩ := traced
    rw [findReversal_of_unstored unstored] at found
    cases found

theorem transitionReplay_of_hidden {actor : PaymentActor}
    {paymentId : Uuid} {idempotencyKey : String} {newStatus : PaymentStatus}
    {record : PaymentRecord}
    (traced :
      TransitionTraced tables paymentId idempotencyKey newStatus record)
    (hidden :
      (bookingOfPayment tables paymentId).any
        (bookingAssignmentFilter tables actor) = false) :
    resolveStatusTransitionReplay actor paymentId idempotencyKey newStatus
      tables = .error paymentForbidden := by
  obtain ⟨history, found, ownPayment, ownStatus, -⟩ := traced
  have own :
      history.paymentId = paymentId ∧ history.newStatus = newStatus :=
    ⟨ownPayment, ownStatus⟩
  unfold resolveStatusTransitionReplay
  rw [found]
  simp only [require_of own, ok_bind]
  rw [ownPayment, findScopedPayment_of_hidden hidden, error_bind]

/-- An operation whose target its actor may not access is refused for that,
also when it was carried out before. -/
theorem refused_of_traced (traced : Traced tables operation response)
    (finance : user.role = .financeAccounting)
    (hidden :
      (targetBooking tables operation).any
        (bookingAssignmentFilter tables (financeActor user)) = false) :
    perform context user operation tables =
        (.error bookingForbidden, tables) ∨
      perform context user operation tables =
        (.error paymentForbidden, tables) := by
  have admitted : assertFinanceActor user = .ok (financeActor user) :=
    assertFinanceActor_eq_ok.mpr ⟨finance, rfl⟩
  cases operation <;> cases response <;> try exact False.elim traced
  case recordPayment.payment input record =>
    have unseen :
        findBookingFinancialsForActor tables (financeActor user)
          input.bookingId = none := by
      apply Option.eq_none_iff_forall_not_mem.mpr
      intro financials found
      obtain ⟨booking, stored, visible, -⟩ :=
        findBookingFinancialsForActor_eq_some.mp found
      simp [targetBooking, stored, key_of_findBy stored, visible] at hidden
    apply Or.inl
    apply refused_of_error admitted
    unfold recordPaymentTransaction
    rw [unseen]
    rfl
  case confirmPayment.payment input record =>
    apply Or.inr
    apply refused_of_error admitted
    unfold confirmPaymentTransaction
    rw [transitionReplay_of_hidden traced hidden]
    rfl
  case reversePayment.payment input record =>
    apply Or.inr
    apply refused_of_error admitted
    unfold reversePaymentTransaction
    rw [transitionReplay_of_hidden traced hidden]
    rfl
  case refundPayment.refund input result =>
    obtain ⟨-, -, existing, found, ownPayment, ownAmount, ownAllocation, -⟩ :=
      traced
    have own :
        existing.paymentId = input.paymentId ∧
          existing.amount = input.amount ∧
          existing.allocationId = input.allocationId :=
      ⟨ownPayment, ownAmount, ownAllocation⟩
    apply Or.inr
    apply refused_of_error admitted
    unfold refundPaymentTransaction resolveRefundReplay
    rw [found]
    simp only [require_of own, ok_bind]
    rw [ownPayment, findScopedPayment_of_hidden hidden]
    rfl
  case createAllocation.allocation input record =>
    obtain ⟨found, own⟩ := traced
    apply Or.inr
    apply refused_of_error admitted
    unfold createAllocationTransaction resolveAllocationReplay
    rw [found]
    simp only [require_of own, ok_bind]
    rw [own.1, findScopedPayment_of_hidden hidden]
    rfl
  case reverseAllocation.allocationReversal input record =>
    obtain ⟨found, own⟩ := traced
    apply Or.inr
    apply refused_of_error admitted
    unfold reverseAllocationTransaction resolveAllocationReversalReplay
    rw [found]
    simp only [require_of own, ok_bind]
    rw [own]
    cases stored : findAllocationForReversal tables input.allocationId with
    | none => rfl
    | some allocation =>
        obtain ⟨row, foundRow, rfl⟩ :=
          findAllocationForReversal_eq_some.mp stored
        have hiddenPayment :
            (bookingOfPayment tables row.paymentId).any
              (bookingAssignmentFilter tables (financeActor user)) =
              false := by
          simpa [targetBooking, foundRow] using hidden
        simp only [demand, ok_bind]
        rw [findScopedPayment_of_hidden hiddenPayment]
        rfl

/-- A traced operation is answered for what it named, or refused for its
actor; it writes nothing either way. -/
theorem perform_of_traced (traced : Traced tables operation response) :
    (∃ again,
      perform context user operation tables = (.ok again, tables) ∧
        again.named = response.named) ∨
      ∃ failure,
        failure ≠ idempotencyKeyConflict ∧
          perform context user operation tables =
            (.error failure, tables) := by
  by_cases finance : user.role = .financeAccounting
  · by_cases permitted : mayAccess tables user operation
    · exact Or.inl (answered_of_traced traced permitted)
    · have hidden :
          (targetBooking tables operation).any
            (bookingAssignmentFilter tables (financeActor user)) = false := by
        simpa [mayAccess, finance] using permitted
      rcases refused_of_traced traced finance hidden with refused | refused
      · exact
          Or.inr ⟨_, paymentError_ne_conflict (by decide), refused⟩
      · exact
          Or.inr ⟨_, paymentError_ne_conflict (by decide), refused⟩
  · refine
      Or.inr ⟨financeRoleRequired, paymentError_ne_conflict (by decide), ?_⟩
    have refused := assertFinanceActor_of_other finance
    cases operation <;> cases response <;> try exact False.elim traced
    all_goals exact refused_of_actor refused

theorem recordTerms_of_stored {record other : PaymentRecord}
    (stored : RecordStored tables record)
    (otherStored : RecordStored tables other) (sameId : other.id = record.id) :
    recordTerms other = recordTerms record := by
  obtain ⟨payment, found, same⟩ := stored
  obtain ⟨otherPayment, foundOther, sameOther⟩ := otherStored
  rw [sameId, found] at foundOther
  obtain rfl := Option.some.inj foundOther
  rw [← sameOther, same]

/-- What was answered for one operation names one record. -/
theorem named_of_traced {other : Response}
    (traced : Traced tables operation response)
    (otherTraced : Traced tables operation other) :
    other.named = response.named := by
  have transitions :
      ∀ {paymentId idempotencyKey newStatus record otherRecord},
        TransitionTraced tables paymentId idempotencyKey newStatus record →
          TransitionTraced tables paymentId idempotencyKey newStatus
            otherRecord →
            recordTerms otherRecord = recordTerms record := by
    rintro paymentId idempotencyKey newStatus record otherRecord
      ⟨-, -, -, -, named, stored⟩ ⟨-, -, -, -, otherNamed, otherStored⟩
    exact
      recordTerms_of_stored stored otherStored (otherNamed.trans named.symm)
  cases operation <;> cases response <;> try exact False.elim traced
  all_goals cases other <;> try exact False.elim otherTraced
  case recordPayment.payment.payment input record otherRecord =>
    obtain ⟨-, -, stored, history, found, -, -, named⟩ := traced
    obtain ⟨-, -, otherStored, otherHistory, foundOther, -, -, otherNamed⟩ :=
      otherTraced
    rw [found] at foundOther
    obtain rfl := Option.some.inj foundOther
    exact
      congrArg Response.payment
        (recordTerms_of_stored stored otherStored
          (otherNamed.symm.trans named))
  case confirmPayment.payment.payment input record otherRecord =>
    exact congrArg Response.payment (transitions traced otherTraced)
  case reversePayment.payment.payment input record otherRecord =>
    exact congrArg Response.payment (transitions traced otherTraced)
  case refundPayment.refund.refund input result otherResult =>
    obtain ⟨named, stored, existing, found, -, -, -, same⟩ := traced
    obtain ⟨otherNamed, otherStored, otherExisting, foundOther, -, -, -,
      otherSame⟩ := otherTraced
    rw [found] at foundOther
    obtain rfl := Option.some.inj foundOther
    have sameTerms :=
      recordTerms_of_stored stored otherStored
        (otherNamed.trans named.symm)
    simp only [Response.named, ← same, otherSame, sameTerms]
  case createAllocation.allocation.allocation input record otherRecord =>
    obtain ⟨found, -⟩ := traced
    obtain ⟨foundOther, -⟩ := otherTraced
    rw [found] at foundOther
    exact congrArg Response.allocation (Option.some.inj foundOther).symm
  case reverseAllocation.allocationReversal.allocationReversal input record
      otherRecord =>
    obtain ⟨found, -⟩ := traced
    obtain ⟨foundOther, -⟩ := otherTraced
    rw [found] at foundOther
    exact
      congrArg Response.allocationReversal (Option.some.inj foundOther).symm

end Heritage.Payments
