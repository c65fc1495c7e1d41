import Heritage.Payments.Persistence

/-!
# Idempotent money operations

A money operation that succeeded leaves its key in the table it checks, next
to what it did.  Nothing removes that trace, so the same request succeeds
again without a write, and a different request under the same key is refused.
-/

namespace Heritage.Payments

open Heritage.Store
open Repository

/-- The operations that carry an idempotency key. -/
def Operation.isMoneyOperation : Operation → Bool
  | .recordPayment _ | .confirmPayment _ | .reversePayment _
  | .refundPayment _ | .createAllocation _ | .reverseAllocation _ => true
  | _ => false

/-- The booking of the payment behind an id. -/
def bookingOfPayment (tables : Tables) (paymentId : Uuid) : Option Uuid :=
  (findBy Payment.id paymentId tables.payments).map Payment.bookingId

/-- The booking of what a money operation names, when that exists. -/
def targetBooking (tables : Tables) : Operation → Option Uuid
  | .recordPayment input =>
      (findBy Booking.id input.bookingId tables.bookings).map Booking.id
  | .confirmPayment input => bookingOfPayment tables input.paymentId
  | .reversePayment input => bookingOfPayment tables input.paymentId
  | .refundPayment input => bookingOfPayment tables input.paymentId
  | .createAllocation input => bookingOfPayment tables input.paymentId
  | .reverseAllocation input =>
      (findBy PaymentAllocation.id input.allocationId
        tables.allocations).bind fun allocation =>
          bookingOfPayment tables allocation.paymentId
  | _ => none

/-- The actor of an operation that only Finance may perform. -/
def financeActor (actor : AuthenticatedUser) : PaymentActor :=
  ⟨actor.id, .financeAccounting⟩

/-- The actor is a Finance user, what the operation names exists, and its
booking is assigned to the actor. -/
def mayAccess (tables : Tables) (actor : AuthenticatedUser)
    (operation : Operation) : Bool :=
  actor.role = .financeAccounting &&
    (targetBooking tables operation).any
      (bookingAssignmentFilter tables (financeActor actor))

/-- A payment record apart from the status the payment is in. -/
def recordTerms (record : PaymentRecord) : PaymentRecord :=
  { record with status := .pending }

/-- The record a response names, apart from the status its payment is in. -/
def Response.named : Response → Response
  | .payment record => .payment (recordTerms record)
  | .refund result => .refund ⟨result.refund, recordTerms result.payment⟩
  | response => response

section Shape

variable {α : Type} {respond : α → Response} {response : Response}
  {tables after : Tables} {checked : Except TxError PaymentActor}
  {body : PaymentActor → Tables → Except TxError (α × Tables)}
  {matched : TxError → Bool}
  {resolve : PaymentActor → Tables → Except TxError (Option α)}
  {conflict : TxError}

/-- A `catch` block answers only with what the replay found. -/
theorem rescue_eq_ok {replay : TxError → Tables → Except TxError (Option α)}
    {failure : TxError} {value : α}
    (answered : rescue replay conflict failure tables = .ok value) :
    replay failure tables = .ok (some value) := by
  cases replayed : replay failure tables with
  | error refusal =>
      cases failure <;> simp [rescue, replayed] at answered
  | ok found =>
      cases found with
      | none =>
          by_cases known : isOtherKnownConflict failure = true
          · cases failure <;> simp [rescue, replayed, known] at answered
          · cases failure <;> simp [rescue, replayed, known] at answered
      | some answer =>
          cases failure <;> simp [rescue, replayed] at answered <;>
            rw [answered]

/-- A value was computed by the transaction, or read by the replay of a lost
race. -/
theorem operation_ok {value : α}
    (returned :
      withActor checked (fun actor =>
          serve (body actor) (replayOn matched (resolve actor)) conflict)
        tables = (.ok value, after)) :
    ∃ actor,
      checked = .ok actor ∧
        (body actor tables = .ok (value, after) ∨
          after = tables ∧ resolve actor tables = .ok (some value)) := by
  cases checked with
  | error failure =>
      simp [withActor] at returned
  | ok actor =>
      refine ⟨actor, rfl, ?_⟩
      simp only [withActor, serve] at returned
      cases outcome : body actor tables with
      | ok result =>
          rw [transact_of_ok outcome] at returned
          simp only [Prod.mk.injEq, Except.ok.injEq] at returned
          obtain ⟨rfl, rfl⟩ := returned
          exact Or.inl rfl
      | error failure =>
          rw [transact_of_error outcome] at returned
          simp only [Prod.mk.injEq] at returned
          obtain ⟨rescued, rfl⟩ := returned
          have replayed := rescue_eq_ok rescued
          unfold replayOn at replayed
          split at replayed
          · exact Or.inr ⟨rfl, replayed⟩
          · simp at replayed

/-- An answer carries such a value. -/
theorem answered_ok
    (answered :
      answering respond
          (withActor checked fun actor =>
            serve (body actor) (replayOn matched (resolve actor)) conflict)
          tables = (.ok response, after)) :
    ∃ actor value,
      checked = .ok actor ∧
        respond value = response ∧
        (body actor tables = .ok (value, after) ∨
          after = tables ∧ resolve actor tables = .ok (some value)) := by
  simp only [answering, Prod.mk.injEq] at answered
  obtain ⟨mapped, stored⟩ := answered
  cases outcome :
      (withActor checked fun actor =>
        serve (body actor) (replayOn matched (resolve actor)) conflict)
      tables with
  | mk result committed =>
      rw [outcome] at mapped stored
      cases stored
      cases result with
      | error failure =>
          cases mapped
      | ok value =>
          cases mapped
          obtain ⟨actor, admitted, computed⟩ := operation_ok outcome
          exact ⟨actor, value, admitted, rfl, computed⟩

/-- An operation that fails writes nothing. -/
theorem failed_unchanged {failure : TxError}
    (failed :
      answering respond
          (withActor checked fun actor =>
            serve (body actor) (replayOn matched (resolve actor)) conflict)
          tables = (.error failure, after)) :
    after = tables := by
  simp only [answering, Prod.mk.injEq] at failed
  obtain ⟨mapped, rfl⟩ := failed
  cases checked with
  | error refusal =>
      rfl
  | ok actor =>
      simp only [withActor, serve] at mapped ⊢
      cases outcome : body actor tables with
      | ok result =>
          rw [transact_of_ok outcome] at mapped
          cases mapped
      | error refusal =>
          rw [transact_of_error outcome]

/-- A transaction that returns. -/
theorem answered_of_ok {actor : PaymentActor} {value : α}
    (admitted : checked = .ok actor)
    (returns : body actor tables = .ok (value, after)) :
    answering respond
        (withActor checked fun actor =>
          serve (body actor) (replayOn matched (resolve actor)) conflict)
        tables = (.ok (respond value), after) := by
  simp [answering, withActor, admitted, serve, transact_of_ok returns,
    Except.map]

/-- A transaction that is refused. -/
theorem refused_of_error {actor : PaymentActor} {error : PaymentError}
    (admitted : checked = .ok actor)
    (refuses : body actor tables = .error (.payment error)) :
    answering respond
        (withActor checked fun actor =>
          serve (body actor) (replayOn matched (resolve actor)) conflict)
        tables = (.error (.payment error), tables) := by
  simp [answering, withActor, admitted, serve, transact_of_error refuses,
    rescue, Except.map]

/-- An actor that is not admitted. -/
theorem refused_of_actor {operation : PaymentActor → Effect α}
    {failure : TxError} (refused : checked = .error failure) :
    answering respond (withActor checked operation) tables =
      (.error failure, tables) := by
  simp [answering, withActor, refused, Except.map]

end Shape

theorem assertFinanceActor_eq_ok {actor : AuthenticatedUser}
    {paymentActor : PaymentActor} :
    assertFinanceActor actor = .ok paymentActor ↔
      actor.role = .financeAccounting ∧ paymentActor = financeActor actor := by
  unfold assertFinanceActor financeActor
  cases actor.role <;> simp [eq_comm]

/-- The payment a record was read from is stored. -/
def RecordStored (tables : Tables) (record : PaymentRecord) : Prop :=
  ∃ payment,
    findBy Payment.id record.id tables.payments = some payment ∧
      recordTerms (selectPayment payment) = recordTerms record

/-- A status transition of a payment under a key. -/
def TransitionTraced (tables : Tables) (paymentId : Uuid)
    (idempotencyKey : String) (newStatus : PaymentStatus)
    (record : PaymentRecord) : Prop :=
  ∃ history,
    findStatusHistoryByIdempotencyKey tables idempotencyKey =
        some history ∧
      history.paymentId = paymentId ∧
      history.newStatus = newStatus ∧
      record.id = paymentId ∧
      RecordStored tables record

/-- What a money operation that was answered leaves in the tables. -/
def Traced (tables : Tables) : Operation → Response → Prop
  | .recordPayment input, .payment record =>
      record.bookingId = input.bookingId ∧
        record.amount = input.amount ∧
        RecordStored tables record ∧
        ∃ history,
          findStatusHistoryByIdempotencyKey tables input.idempotencyKey =
              some history ∧
            history.previousStatus = none ∧
            history.newStatus = .pending ∧
            history.paymentId = record.id
  | .confirmPayment input, .payment record =>
      TransitionTraced tables input.paymentId input.idempotencyKey
        .confirmed record
  | .reversePayment input, .payment record =>
      TransitionTraced tables input.paymentId input.idempotencyKey
        .reversed record
  | .refundPayment input, .refund result =>
      result.payment.id = input.paymentId ∧
        RecordStored tables result.payment ∧
        ∃ existing,
          findRefundByIdempotencyKey tables input.idempotencyKey =
              some existing ∧
            existing.paymentId = input.paymentId ∧
            existing.amount = input.amount ∧
            existing.allocationId = input.allocationId ∧
            existing.toRefundRecord = result.refund
  | .createAllocation input, .allocation record =>
      findAllocationByIdempotencyKey tables input.idempotencyKey =
          some record ∧
        record.paymentId = input.paymentId ∧
        record.installmentId = input.installmentId ∧
        record.amount = input.amount
  | .reverseAllocation input, .allocationReversal record =>
      findAllocationReversalByIdempotencyKey tables input.idempotencyKey =
          some record ∧
        record.paymentAllocationId = input.allocationId
  | _, _ => False

variable {tables after : Tables} {actor : PaymentActor}

theorem RecordStored.extends (grew : Extends tables after)
    {record : PaymentRecord} (stored : RecordStored tables record) :
    RecordStored after record := by
  obtain ⟨payment, found, same⟩ := stored
  obtain ⟨later, foundLater, sameTerms⟩ := grew.findPaymentTerms found
  refine ⟨later, foundLater, Eq.trans ?_ same⟩
  simp only [paymentTerms, withStatus, Payment.mk.injEq] at sameTerms
  simp only [recordTerms, selectPayment, PaymentRecord.mk.injEq]
  exact
    ⟨sameTerms.1, sameTerms.2.1, sameTerms.2.2.1, sameTerms.2.2.2.1, trivial⟩

theorem TransitionTraced.extends (grew : Extends tables after)
    {paymentId : Uuid} {idempotencyKey : String} {newStatus : PaymentStatus}
    {record : PaymentRecord}
    (traced :
      TransitionTraced tables paymentId idempotencyKey newStatus record) :
    TransitionTraced after paymentId idempotencyKey newStatus record := by
  obtain ⟨history, found, ownPayment, ownStatus, named, stored⟩ := traced
  exact
    ⟨history, grew.findHistory found, ownPayment, ownStatus, named,
      stored.extends grew⟩

theorem Traced.extends (grew : Extends tables after) {operation : Operation}
    {response : Response} (traced : Traced tables operation response) :
    Traced after operation response := by
  cases operation <;> cases response <;>
    simp only [Traced] at traced ⊢
  case recordPayment.payment input record =>
    obtain ⟨ownBooking, ownAmount, stored, history, found, kind⟩ := traced
    exact
      ⟨ownBooking, ownAmount, stored.extends grew, history,
        grew.findHistory found, kind⟩
  case confirmPayment.payment input record =>
    exact TransitionTraced.extends grew traced
  case reversePayment.payment input record =>
    exact TransitionTraced.extends grew traced
  case refundPayment.refund input result =>
    obtain ⟨named, stored, existing, found, same⟩ := traced
    exact
      ⟨named, stored.extends grew, existing, grew.findRefund found, same⟩
  case createAllocation.allocation input record =>
    exact ⟨grew.findAllocation traced.1, traced.2⟩
  case reverseAllocation.allocationReversal input record =>
    exact ⟨grew.findReversal traced.1, traced.2⟩

theorem recordStored_of_found {paymentId : Uuid} {payment : Payment}
    (found : findBy Payment.id paymentId tables.payments = some payment) :
    RecordStored tables (selectPayment payment) := by
  refine ⟨payment, ?_, rfl⟩
  rw [selectPayment, key_of_findBy found]
  exact found

theorem traced_of_recordReplay {input : RecordPaymentInput}
    {record : PaymentRecord}
    (replayed :
      resolveRecordReplay actor input tables = .ok (some record)) :
    Traced tables (.recordPayment input) (.payment record) := by
  obtain ⟨history, payment, foundHistory, initial, pending, found, -,
    ownBooking, ownAmount, rfl⟩ := resolveRecordReplay_eq_some.mp replayed
  exact
    ⟨ownBooking, ownAmount, recordStored_of_found found, history,
      foundHistory, initial, pending, (key_of_findBy found).symm⟩

theorem traced_of_transitionReplay {paymentId : Uuid}
    {idempotencyKey : String} {newStatus : PaymentStatus}
    {record : PaymentRecord}
    (replayed :
      resolveStatusTransitionReplay actor paymentId idempotencyKey newStatus
        tables = .ok (some record)) :
    TransitionTraced tables paymentId idempotencyKey newStatus record := by
  obtain ⟨history, payment, foundHistory, ownPayment, ownStatus, found, -,
    rfl⟩ := resolveStatusTransitionReplay_eq_some.mp replayed
  have sameId : payment.id = paymentId := key_of_findBy found
  exact
    ⟨history, foundHistory, ownPayment, ownStatus, sameId,
      recordStored_of_found found⟩

theorem traced_of_refundReplay {input : RefundPaymentInput}
    {result : RefundPaymentResult}
    (replayed :
      resolveRefundReplay actor input tables = .ok (some result)) :
    Traced tables (.refundPayment input) (.refund result) := by
  obtain ⟨existing, payment, foundRefund, ownPayment, ownAmount,
    ownAllocation, found, -, rfl⟩ := resolveRefundReplay_eq_some.mp replayed
  have sameId : payment.id = input.paymentId := key_of_findBy found
  exact
    ⟨sameId, recordStored_of_found found, existing, foundRefund, ownPayment,
      ownAmount, ownAllocation, rfl⟩

theorem traced_of_allocationReplay {input : CreateAllocationInput}
    {record : AllocationRecord}
    (replayed :
      resolveAllocationReplay actor input tables = .ok (some record)) :
    Traced tables (.createAllocation input) (.allocation record) := by
  obtain ⟨payment, found, ownPayment, ownInstallment, ownAmount, -⟩ :=
    resolveAllocationReplay_eq_some.mp replayed
  exact ⟨found, ownPayment, ownInstallment, ownAmount⟩

theorem traced_of_reversalReplay {input : ReverseAllocationInput}
    {record : AllocationReversalRecord}
    (replayed :
      resolveAllocationReversalReplay actor input tables =
        .ok (some record)) :
    Traced tables (.reverseAllocation input)
      (.allocationReversal record) := by
  obtain ⟨allocation, payment, found, ownAllocation, -⟩ :=
    resolveAllocationReversalReplay_eq_some.mp replayed
  exact ⟨found, ownAllocation⟩

/-- A history row inserted under a new key is the one the key finds. -/
theorem findHistory_concat {entry : PaymentStatusHistory}
    {idempotencyKey : String}
    (freshKey :
      findStatusHistoryByIdempotencyKey tables idempotencyKey = none)
    (ownKey : entry.idempotencyKey = some idempotencyKey) :
    findBy PaymentStatusHistory.idempotencyKey (some idempotencyKey)
        (tables.statusHistory ++ [entry]) = some entry := by
  rw [← ownKey]
  apply findBy_concat_self
  rw [ownKey]
  exact freshKey

/-- A transition that was written is traced. -/
theorem traced_of_transitioned {payment : Payment}
    {newStatus : PaymentStatus} {entry : PaymentStatusHistory}
    {idempotencyKey : String} (logs : List AuditLog)
    (found : findBy Payment.id payment.id tables.payments = some payment)
    (freshKey :
      findStatusHistoryByIdempotencyKey tables idempotencyKey = none)
    (ownEntry : entry.paymentId = payment.id)
    (ownStatus : entry.newStatus = newStatus)
    (ownKey : entry.idempotencyKey = some idempotencyKey) :
    TransitionTraced
      (audited (transitioned tables payment.id newStatus entry) logs)
      payment.id idempotencyKey newStatus
      (selectPayment (withStatus newStatus payment)) := by
  have foundAfter :
      findBy Payment.id payment.id
          (updateBy Payment.id payment.id (withStatus newStatus)
            tables.payments) = some (withStatus newStatus payment) :=
    findBy_updateBy_self (fun _ => rfl) found
  exact
    ⟨entry, findHistory_concat freshKey ownKey, ownEntry, ownStatus, rfl,
      withStatus newStatus payment, foundAfter, rfl⟩

theorem recordPayment_traced {context : RequestContext}
    {input : RecordPaymentInput} {record : PaymentRecord}
    (succeeds :
      recordPaymentTransaction context actor input tables =
        .ok (record, after)) :
    Traced after (.recordPayment input) (.payment record) := by
  rcases recordPaymentTransaction_ok succeeds with
    ⟨replayed, rfl⟩ |
      ⟨booking, row, logs, permitted, ownBooking, ownAmount, ownKey,
        freshKey, rfl, rfl⟩
  · exact traced_of_recordReplay replayed
  · have foundRow :
        findBy Payment.id row.row.id (tables.payments ++ [row.row]) =
          some row.row :=
      findBy_concat_self permitted.freshId
    have ownHistoryKey :
        row.historyRow.idempotencyKey = some input.idempotencyKey :=
      congrArg some ownKey
    exact
      ⟨ownBooking, ownAmount, ⟨row.row, foundRow, rfl⟩, row.historyRow,
        findHistory_concat freshKey ownHistoryKey, rfl, rfl, rfl⟩

theorem confirmPayment_traced {input : ConfirmPaymentInput}
    {record : PaymentRecord}
    (succeeds :
      confirmPaymentTransaction actor input tables = .ok (record, after)) :
    Traced after (.confirmPayment input) (.payment record) := by
  rcases confirmPaymentTransaction_ok succeeds with
    ⟨replayed, rfl⟩ |
      ⟨payment, entry, logs, sameId, found, -, freshKey, rfl, ownEntry,
        ownStatus, ownKey, rfl⟩
  · exact traced_of_transitionReplay replayed
  · rw [Traced, ← sameId]
    exact
      traced_of_transitioned logs found freshKey ownEntry ownStatus ownKey

theorem reversePayment_traced {input : ReversePaymentInput}
    {record : PaymentRecord}
    (succeeds :
      reversePaymentTransaction actor input tables = .ok (record, after)) :
    Traced after (.reversePayment input) (.payment record) := by
  rcases reversePaymentTransaction_ok succeeds with
    ⟨replayed, rfl⟩ |
      ⟨payment, entry, logs, sameId, found, -, -, freshKey, rfl, ownEntry,
        ownStatus, ownKey, rfl⟩
  · exact traced_of_transitionReplay replayed
  · rw [Traced, ← sameId]
    exact
      traced_of_transitioned logs found freshKey ownEntry ownStatus ownKey

/-- The refund that was written is the one its key finds, together with the
allocation it is linked to. -/
theorem findRefund_refunded (integrity : Integrity tables)
    {row : CreateRefundInput} {payment : Payment}
    (permitted : RefundPermitted tables payment row)
    (freshKey :
      findRefundByIdempotencyKey tables row.idempotencyKey = none) :
    findRefundByIdempotencyKey (refunded tables row) row.idempotencyKey =
      some
        { toRefundRecord := selectRefund row.row
          allocationId := row.allocationId } := by
  have foundRow :
      findBy PaymentRefund.idempotencyKey row.row.idempotencyKey
          (tables.refunds ++ [row.row]) = some row.row :=
    findBy_concat_self (Option.map_eq_none_iff.mp freshKey)
  have noLink :
      findBy PaymentRefundAllocation.paymentRefundId row.id
        tables.refundAllocations = none :=
    findBy_eq_none_iff.mpr
      (unreferenced_of_unknown integrity.linkRefunds permitted.freshId)
  have ownLink :
      linkedAllocation (refunded tables row) row.id = row.allocationId := by
    unfold linkedAllocation refunded
    rw [findBy_append, noLink]
    cases row with
    | mk id paymentId amount reason performedBy idempotencyKey allocationId
        performedAt =>
        cases allocationId <;> simp [CreateRefundInput.linkRows, findBy]
  have found := congrArg
    (Option.map fun refund : PaymentRefund =>
      ({ toRefundRecord := selectRefund refund
         allocationId := linkedAllocation (refunded tables row) refund.id } :
        RefundIdempotencyRecord)) foundRow
  rw [Option.map_some] at found
  have sameRow : row.row.id = row.id := rfl
  rw [sameRow, ownLink] at found
  exact found

theorem refundPayment_traced (integrity : Integrity tables)
    {context : RequestContext} {input : RefundPaymentInput}
    {result : RefundPaymentResult}
    (succeeds :
      refundPaymentTransaction context actor input tables =
        .ok (result, after)) :
    Traced after (.refundPayment input) (.refund result) := by
  rcases refundPaymentTransaction_ok succeeds with
    ⟨replayed, rfl⟩ |
      ⟨payment, row, entry, logs, sameId, permitted, ownAmount, ownKey,
        ownAllocation, freshKey, answered, -, written⟩
  · exact traced_of_refundReplay replayed
  · rw [← ownKey] at freshKey
    have foundRefund := findRefund_refunded integrity permitted freshKey
    have ownPayment : row.paymentId = input.paymentId :=
      permitted.ownPayment.trans sameId
    have foundPayment := permitted.foundPayment
    rw [Traced, ← ownKey]
    rcases written with ⟨-, answeredPayment, rfl⟩ |
      ⟨-, answeredPayment, rfl⟩
    · refine
        ⟨?_, ?_, _, foundRefund, ownPayment, ownAmount, ownAllocation,
          answered.symm⟩
      · rw [answeredPayment]
        exact sameId
      · rw [answeredPayment]
        exact ⟨payment, foundPayment, rfl⟩
    · refine
        ⟨?_, ?_, _, foundRefund, ownPayment, ownAmount, ownAllocation,
          answered.symm⟩
      · rw [answeredPayment]
        exact sameId
      · rw [answeredPayment]
        exact
          ⟨withStatus .refunded payment,
            findBy_updateBy_self (fun _ => rfl) foundPayment, rfl⟩

theorem createAllocation_traced {context : RequestContext}
    {input : CreateAllocationInput} {record : AllocationRecord}
    (succeeds :
      createAllocationTransaction context actor input tables =
        .ok (record, after)) :
    Traced after (.createAllocation input) (.allocation record) := by
  rcases createAllocationTransaction_ok succeeds with
    ⟨replayed, rfl⟩ |
      ⟨payment, installment, plan, row, logs, -, permitted, ownPayment,
        ownInstallment, ownAmount, ownKey, freshKey, rfl, -, rfl⟩
  · exact traced_of_allocationReplay replayed
  · refine ⟨?_, ownPayment, ownInstallment, ownAmount⟩
    rw [← ownKey] at freshKey ⊢
    have foundRow :
        findBy PaymentAllocation.idempotencyKey row.idempotencyKey
            (tables.allocations ++ [row]) = some row :=
      findBy_concat_self (Option.map_eq_none_iff.mp freshKey)
    exact congrArg (Option.map selectAllocation) foundRow

theorem reverseAllocation_traced {context : RequestContext}
    {input : ReverseAllocationInput} {record : AllocationReversalRecord}
    (succeeds :
      reverseAllocationTransaction context actor input tables =
        .ok (record, after)) :
    Traced after (.reverseAllocation input)
      (.allocationReversal record) := by
  rcases reverseAllocationTransaction_ok succeeds with
    ⟨replayed, rfl⟩ |
      ⟨allocation, payment, row, logs, -, -, -, -, ownAllocation, ownKey,
        freshKey, rfl, -, rfl⟩
  · exact traced_of_reversalReplay replayed
  · refine ⟨?_, ownAllocation⟩
    rw [← ownKey] at freshKey ⊢
    have foundRow :
        findBy PaymentAllocationReversal.idempotencyKey row.idempotencyKey
            (tables.allocationReversals ++ [row]) = some row :=
      findBy_concat_self (Option.map_eq_none_iff.mp freshKey)
    exact congrArg (Option.map selectReversal) foundRow

section Answers

variable {context : RequestContext} {user : AuthenticatedUser}
  {operation : Operation} {response : Response}

/-- An answered money operation is traced. -/
theorem traced_of_answered (integrity : Integrity tables)
    (money : operation.isMoneyOperation)
    (answered :
      perform context user operation tables = (.ok response, after)) :
    Traced after operation response := by
  cases operation with
  | recordPayment input =>
      obtain ⟨actor, record, -, rfl, computed | ⟨rfl, replayed⟩⟩ :=
        answered_ok answered
      · exact recordPayment_traced computed
      · exact traced_of_recordReplay replayed
  | confirmPayment input =>
      obtain ⟨actor, record, -, rfl, computed | ⟨rfl, replayed⟩⟩ :=
        answered_ok answered
      · exact confirmPayment_traced computed
      · exact traced_of_transitionReplay replayed
  | reversePayment input =>
      obtain ⟨actor, record, -, rfl, computed | ⟨rfl, replayed⟩⟩ :=
        answered_ok answered
      · exact reversePayment_traced computed
      · exact traced_of_transitionReplay replayed
  | refundPayment input =>
      obtain ⟨actor, result, -, rfl, computed | ⟨rfl, replayed⟩⟩ :=
        answered_ok answered
      · exact refundPayment_traced integrity computed
      · exact traced_of_refundReplay replayed
  | createAllocation input =>
      obtain ⟨actor, record, -, rfl, computed | ⟨rfl, replayed⟩⟩ :=
        answered_ok answered
      · exact createAllocation_traced computed
      · exact traced_of_allocationReplay replayed
  | reverseAllocation input =>
      obtain ⟨actor, record, -, rfl, computed | ⟨rfl, replayed⟩⟩ :=
        answered_ok answered
      · exact reverseAllocation_traced computed
      · exact traced_of_reversalReplay replayed
  | _ =>
      cases money

end Answers

/-! ## What is traced is answered again -/

theorem recordReplay_of_traced {input : RecordPaymentInput}
    {record : PaymentRecord}
    (traced : Traced tables (.recordPayment input) (.payment record))
    (visible : bookingAssignmentFilter tables actor input.bookingId) :
    ∃ again,
      resolveRecordReplay actor input tables = .ok (some again) ∧
        recordTerms again = recordTerms record := by
  obtain ⟨ownBooking, ownAmount, ⟨payment, found, sameTerms⟩, history,
    foundHistory, initial, pending, named⟩ := traced
  have same := sameTerms
  simp only [recordTerms, selectPayment, PaymentRecord.mk.injEq] at same
  have sameBooking : payment.bookingId = input.bookingId :=
    same.2.1.trans ownBooking
  have sameAmount : payment.amount = input.amount :=
    same.2.2.2.1.trans ownAmount
  refine ⟨selectPayment payment, ?_, sameTerms⟩
  apply resolveRecordReplay_eq_some.mpr
  rw [← named] at found
  rw [← sameBooking] at visible
  exact
    ⟨history, payment, foundHistory, initial, pending, found, visible,
      sameBooking, sameAmount, rfl⟩

/-- A payment whose booking is assigned to the actor. -/
theorem visible_of_bookingOfPayment {paymentId : Uuid} {payment : Payment}
    (found : findBy Payment.id paymentId tables.payments = some payment)
    (access :
      (bookingOfPayment tables paymentId).any
        (bookingAssignmentFilter tables actor)) :
    bookingAssignmentFilter tables actor payment.bookingId := by
  simpa [bookingOfPayment, found] using access

theorem transitionReplay_of_traced {paymentId : Uuid}
    {idempotencyKey : String} {newStatus : PaymentStatus}
    {record : PaymentRecord}
    (traced :
      TransitionTraced tables paymentId idempotencyKey newStatus record)
    (access :
      (bookingOfPayment tables paymentId).any
        (bookingAssignmentFilter tables actor)) :
    ∃ again,
      resolveStatusTransitionReplay actor paymentId idempotencyKey newStatus
          tables = .ok (some again) ∧
        recordTerms again = recordTerms record := by
  obtain ⟨history, foundHistory, ownPayment, ownStatus, rfl, payment, found,
    sameTerms⟩ := traced
  refine ⟨selectPayment payment, ?_, sameTerms⟩
  apply resolveStatusTransitionReplay_eq_some.mpr
  exact
    ⟨history, payment, foundHistory, ownPayment, ownStatus, found,
      visible_of_bookingOfPayment found access, rfl⟩

theorem refundReplay_of_traced {input : RefundPaymentInput}
    {result : RefundPaymentResult}
    (traced : Traced tables (.refundPayment input) (.refund result))
    (access :
      (bookingOfPayment tables input.paymentId).any
        (bookingAssignmentFilter tables actor)) :
    ∃ again,
      resolveRefundReplay actor input tables = .ok (some again) ∧
        again.refund = result.refund ∧
        recordTerms again.payment = recordTerms result.payment := by
  obtain ⟨named, ⟨payment, found, sameTerms⟩, existing, foundRefund,
    ownPayment, ownAmount, ownAllocation, sameRefund⟩ := traced
  rw [named] at found
  refine
    ⟨⟨existing.toRefundRecord, selectPayment payment⟩, ?_, sameRefund,
      sameTerms⟩
  apply resolveRefundReplay_eq_some.mpr
  exact
    ⟨existing, payment, foundRefund, ownPayment, ownAmount, ownAllocation,
      found, visible_of_bookingOfPayment found access, rfl⟩

theorem allocationReplay_of_traced {input : CreateAllocationInput}
    {record : AllocationRecord}
    (traced : Traced tables (.createAllocation input) (.allocation record))
    (access :
      (bookingOfPayment tables input.paymentId).any
        (bookingAssignmentFilter tables actor)) :
    resolveAllocationReplay actor input tables = .ok (some record) := by
  obtain ⟨foundAllocation, ownPayment, ownInstallment, ownAmount⟩ := traced
  obtain ⟨bookingId, named, visible⟩ := (Option.any_eq_true ..).mp access
  obtain ⟨payment, found, rfl⟩ := Option.map_eq_some_iff.mp named
  apply resolveAllocationReplay_eq_some.mpr
  exact
    ⟨payment, foundAllocation, ownPayment, ownInstallment, ownAmount, found,
      visible⟩

theorem reversalReplay_of_traced {input : ReverseAllocationInput}
    {record : AllocationReversalRecord}
    (traced :
      Traced tables (.reverseAllocation input) (.allocationReversal record))
    (access :
      (targetBooking tables (.reverseAllocation input)).any
        (bookingAssignmentFilter tables actor)) :
    resolveAllocationReversalReplay actor input tables =
      .ok (some record) := by
  obtain ⟨foundReversal, ownAllocation⟩ := traced
  obtain ⟨bookingId, named, visible⟩ := (Option.any_eq_true ..).mp access
  obtain ⟨allocation, foundAllocation, ofPayment⟩ :=
    Option.bind_eq_some_iff.mp named
  obtain ⟨payment, found, rfl⟩ := Option.map_eq_some_iff.mp ofPayment
  apply resolveAllocationReversalReplay_eq_some.mpr
  exact
    ⟨allocation, payment, foundReversal, ownAllocation, foundAllocation,
      found, visible⟩

theorem mayAccess_iff {user : AuthenticatedUser} {operation : Operation} :
    mayAccess tables user operation ↔
      user.role = .financeAccounting ∧
        (targetBooking tables operation).any
          (bookingAssignmentFilter tables (financeActor user)) := by
  rw [mayAccess, Bool.and_eq_true, decide_eq_true_iff]

/-- A permitted recording finds its booking. -/
theorem scopedBooking_of_mayAccess {user : AuthenticatedUser}
    {input : RecordPaymentInput}
    (permitted : mayAccess tables user (.recordPayment input)) :
    (∃ booking,
      findBookingFinancialsForActor tables (financeActor user)
        input.bookingId = some booking) ∧
      bookingAssignmentFilter tables (financeActor user) input.bookingId := by
  have access := (mayAccess_iff.mp permitted).2
  obtain ⟨bookingId, named, visible⟩ := (Option.any_eq_true ..).mp access
  obtain ⟨booking, found, rfl⟩ := Option.map_eq_some_iff.mp named
  rw [key_of_findBy found] at visible
  have inScope :
      findBookingFinancialsForActor tables (financeActor user)
          input.bookingId = some (selectFinancials booking) :=
    findBookingFinancialsForActor_eq_some.mpr ⟨booking, found, visible, rfl⟩
  exact ⟨⟨_, inScope⟩, visible⟩

/-- A traced money operation is answered without a write. -/
theorem answered_of_traced {context : RequestContext}
    {user : AuthenticatedUser} {operation : Operation} {response : Response}
    (traced : Traced tables operation response)
    (permitted : mayAccess tables user operation) :
    ∃ again,
      perform context user operation tables = (.ok again, tables) ∧
        again.named = response.named := by
  obtain ⟨finance, access⟩ := mayAccess_iff.mp permitted
  have admitted : assertFinanceActor user = .ok (financeActor user) :=
    assertFinanceActor_eq_ok.mpr ⟨finance, rfl⟩
  cases operation <;> cases response <;> try exact False.elim traced
  case recordPayment.payment input record =>
    obtain ⟨⟨booking, inScope⟩, visible⟩ :=
      scopedBooking_of_mayAccess permitted
    obtain ⟨again, replayed, same⟩ := recordReplay_of_traced traced visible
    refine ⟨.payment again, answered_of_ok admitted ?_, ?_⟩
    · unfold recordPaymentTransaction
      rw [inScope, demand, ok_bind, replayed]
      rfl
    · exact congrArg Response.payment same
  case confirmPayment.payment input record =>
    obtain ⟨again, replayed, same⟩ := transitionReplay_of_traced traced access
    refine ⟨.payment again, answered_of_ok admitted ?_, ?_⟩
    · unfold confirmPaymentTransaction
      rw [replayed]
      rfl
    · exact congrArg Response.payment same
  case reversePayment.payment input record =>
    obtain ⟨again, replayed, same⟩ := transitionReplay_of_traced traced access
    refine ⟨.payment again, answered_of_ok admitted ?_, ?_⟩
    · unfold reversePaymentTransaction
      rw [replayed]
      rfl
    · exact congrArg Response.payment same
  case refundPayment.refund input result =>
    obtain ⟨again, replayed, sameRefund, sameTerms⟩ :=
      refundReplay_of_traced traced access
    refine ⟨.refund again, answered_of_ok admitted ?_, ?_⟩
    · unfold refundPaymentTransaction
      rw [replayed]
      rfl
    · simp only [Response.named, sameRefund, sameTerms]
  case createAllocation.allocation input record =>
    have replayed := allocationReplay_of_traced traced access
    refine ⟨.allocation record, answered_of_ok admitted ?_, rfl⟩
    unfold createAllocationTransaction
    rw [replayed]
    rfl
  case reverseAllocation.allocationReversal input record =>
    have replayed := reversalReplay_of_traced traced access
    refine
      ⟨.allocationReversal record, answered_of_ok admitted ?_, rfl⟩
    unfold reverseAllocationTransaction
    rw [replayed]
    rfl

/-- The key is in the table the operation checks, next to another target,
another amount or another kind of transition. -/
def KeyClash (tables : Tables) : Operation → Prop
  | .recordPayment input =>
      ∃ history,
        findStatusHistoryByIdempotencyKey tables input.idempotencyKey =
            some history ∧
          (¬ (history.previousStatus = none ∧
              history.newStatus = .pending) ∨
            ∃ payment,
              findBy Payment.id history.paymentId tables.payments =
                  some payment ∧
                (payment.bookingId ≠ input.bookingId ∨
                  payment.amount ≠ input.amount))
  | .confirmPayment input =>
      ∃ history,
        findStatusHistoryByIdempotencyKey tables input.idempotencyKey =
            some history ∧
          (history.paymentId ≠ input.paymentId ∨
            history.newStatus ≠ .confirmed)
  | .reversePayment input =>
      ∃ history,
        findStatusHistoryByIdempotencyKey tables input.idempotencyKey =
            some history ∧
          (history.paymentId ≠ input.paymentId ∨
            history.newStatus ≠ .reversed)
  | .refundPayment input =>
      (∃ existing,
        findRefundByIdempotencyKey tables input.idempotencyKey =
            some existing ∧
          (existing.paymentId ≠ input.paymentId ∨
            existing.amount ≠ input.amount ∨
            existing.allocationId ≠ input.allocationId)) ∨
        (findRefundByIdempotencyKey tables input.idempotencyKey = none ∧
          (findStatusHistoryByIdempotencyKey tables
            input.idempotencyKey).isSome)
  | .createAllocation input =>
      ∃ existing,
        findAllocationByIdempotencyKey tables input.idempotencyKey =
            some existing ∧
          (existing.paymentId ≠ input.paymentId ∨
            existing.installmentId ≠ input.installmentId ∨
            existing.amount ≠ input.amount)
  | .reverseAllocation input =>
      ∃ existing,
        findAllocationReversalByIdempotencyKey tables
            input.idempotencyKey = some existing ∧
          existing.paymentAllocationId ≠ input.allocationId
  | _ => False

theorem resolveRecordReplay_of_clash {input : RecordPaymentInput}
    (clash : KeyClash tables (.recordPayment input)) :
    resolveRecordReplay actor input tables =
      .error idempotencyKeyConflict := by
  obtain ⟨history, found, otherKind | ⟨payment, foundPayment, differs⟩⟩ :=
    clash
  · unfold resolveRecordReplay
    rw [found]
    simp only [require_of_not otherKind, error_bind]
  · unfold resolveRecordReplay
    rw [found]
    by_cases initial :
        history.previousStatus = none ∧ history.newStatus = .pending
    · simp only [require_of initial, ok_bind]
      cases scopedPayment :
          findPaymentForActor tables actor history.paymentId with
      | none =>
          rfl
      | some record =>
          obtain ⟨other, foundOther, -, rfl⟩ :=
            findPaymentForActor_eq_some.mp scopedPayment
          rw [foundPayment] at foundOther
          cases foundOther
          have notSame :
              ¬ (payment.bookingId = input.bookingId ∧
                payment.amount = input.amount) := by
            rintro ⟨sameBooking, sameAmount⟩
            exact differs.elim (· sameBooking) (· sameAmount)
          simp only [demand, ok_bind, selectPayment, require_of_not notSame,
            error_bind]
    · simp only [require_of_not initial, error_bind]

theorem resolveStatusTransitionReplay_of_clash {paymentId : Uuid}
    {idempotencyKey : String} {targetStatus : PaymentStatus}
    {history : PaymentStatusHistory}
    (found :
      findStatusHistoryByIdempotencyKey tables idempotencyKey =
        some history)
    (differs :
      history.paymentId ≠ paymentId ∨ history.newStatus ≠ targetStatus) :
    resolveStatusTransitionReplay actor paymentId idempotencyKey
        targetStatus tables =
      .error idempotencyKeyConflict := by
  have notSame :
      ¬ (history.paymentId = paymentId ∧
        history.newStatus = targetStatus) := by
    rintro ⟨samePayment, sameStatus⟩
    exact differs.elim (· samePayment) (· sameStatus)
  unfold resolveStatusTransitionReplay
  rw [found]
  simp only [require_of_not notSame, error_bind]

theorem resolveRefundReplay_of_clash {input : RefundPaymentInput}
    {existing : RefundIdempotencyRecord}
    (found :
      findRefundByIdempotencyKey tables input.idempotencyKey =
        some existing)
    (differs :
      existing.paymentId ≠ input.paymentId ∨
        existing.amount ≠ input.amount ∨
        existing.allocationId ≠ input.allocationId) :
    resolveRefundReplay actor input tables =
      .error idempotencyKeyConflict := by
  have notSame :
      ¬ (existing.paymentId = input.paymentId ∧
        existing.amount = input.amount ∧
        existing.allocationId = input.allocationId) := by
    rintro ⟨samePayment, sameAmount, sameAllocation⟩
    rcases differs with other | other | other
    · exact other samePayment
    · exact other sameAmount
    · exact other sameAllocation
  unfold resolveRefundReplay
  rw [found]
  simp only [require_of_not notSame, error_bind]

theorem resolveAllocationReplay_of_clash {input : CreateAllocationInput}
    (clash : KeyClash tables (.createAllocation input)) :
    resolveAllocationReplay actor input tables =
      .error idempotencyKeyConflict := by
  obtain ⟨existing, found, differs⟩ := clash
  have notSame :
      ¬ (existing.paymentId = input.paymentId ∧
        existing.installmentId = input.installmentId ∧
        existing.amount = input.amount) := by
    rintro ⟨samePayment, sameInstallment, sameAmount⟩
    rcases differs with other | other | other
    · exact other samePayment
    · exact other sameInstallment
    · exact other sameAmount
  unfold resolveAllocationReplay
  rw [found]
  simp only [require_of_not notSame, error_bind]

theorem resolveAllocationReversalReplay_of_clash
    {input : ReverseAllocationInput}
    (clash : KeyClash tables (.reverseAllocation input)) :
    resolveAllocationReversalReplay actor input tables =
      .error idempotencyKeyConflict := by
  obtain ⟨existing, found, differs⟩ := clash
  unfold resolveAllocationReversalReplay
  rw [found]
  simp only [require_of_not differs, error_bind]

/-- A clash is refused before anything else about the target is checked;
only a recording looks at the booking first. -/
theorem refused_of_clash {context : RequestContext}
    {user : AuthenticatedUser} {operation : Operation}
    (finance : user.role = .financeAccounting)
    (clash : KeyClash tables operation)
    (recordable :
      ∀ input, operation = .recordPayment input →
        mayAccess tables user operation) :
    perform context user operation tables =
      (.error idempotencyKeyConflict, tables) := by
  have admitted : assertFinanceActor user = .ok (financeActor user) :=
    assertFinanceActor_eq_ok.mpr ⟨finance, rfl⟩
  cases operation with
  | recordPayment input =>
      obtain ⟨⟨booking, inScope⟩, -⟩ :=
        scopedBooking_of_mayAccess (recordable input rfl)
      apply refused_of_error admitted
      unfold recordPaymentTransaction
      rw [inScope, demand, ok_bind, resolveRecordReplay_of_clash clash]
      rfl
  | confirmPayment input =>
      obtain ⟨history, found, differs⟩ := clash
      apply refused_of_error admitted
      unfold confirmPaymentTransaction
      rw [resolveStatusTransitionReplay_of_clash found differs]
      rfl
  | reversePayment input =>
      obtain ⟨history, found, differs⟩ := clash
      apply refused_of_error admitted
      unfold reversePaymentTransaction
      rw [resolveStatusTransitionReplay_of_clash found differs]
      rfl
  | refundPayment input =>
      apply refused_of_error admitted
      unfold refundPaymentTransaction
      rcases clash with ⟨existing, found, differs⟩ | ⟨noRefund, inHistory⟩
      · rw [resolveRefundReplay_of_clash found differs]
        rfl
      · have resolved :
            resolveRefundReplay (financeActor user) input tables =
              .ok none := by
          unfold resolveRefundReplay
          rw [noRefund]
        have used :
            ¬ (findStatusHistoryByIdempotencyKey tables
              input.idempotencyKey).isNone := by
          simpa [Option.isSome_iff_ne_none] using inHistory
        rw [resolved, ok_bind, require_of_not used, error_bind]
        rfl
  | createAllocation input =>
      apply refused_of_error admitted
      unfold createAllocationTransaction
      rw [resolveAllocationReplay_of_clash clash]
      rfl
  | reverseAllocation input =>
      apply refused_of_error admitted
      unfold reverseAllocationTransaction
      rw [resolveAllocationReversalReplay_of_clash clash]
      rfl
  | _ =>
      exact False.elim clash

/-! ## Idempotence -/

/-- A money operation that was answered is answered again, naming the same
record and writing nothing, after any later requests; and one whose key was
used for something else is refused. -/
theorem money_operations_idempotent (requests more : List Request)
    (context retryContext : RequestContext) (user : AuthenticatedUser)
    (operation : Operation) (money : operation.isMoneyOperation) :
    (∀ response later,
      (perform context user operation (tablesAfter requests)).1 =
          .ok response →
        later =
            tablesAfter
              (requests ++ .operation context user operation :: more) →
          mayAccess later user operation →
            ∃ again,
              perform retryContext user operation later =
                  (.ok again, later) ∧
                again.named = response.named) ∧
      (user.role = .financeAccounting →
        KeyClash (tablesAfter requests) operation →
          (∀ input, operation = .recordPayment input →
            mayAccess (tablesAfter requests) user operation) →
            perform context user operation (tablesAfter requests) =
              (.error idempotencyKeyConflict, tablesAfter requests)) := by
  refine ⟨?_, refused_of_clash⟩
  rintro response later answered rfl access
  have integrity := integrity_tablesAfter requests
  have traced :=
    traced_of_answered integrity money (Prod.ext answered rfl)
  have grew :
      Extends
        (step (tablesAfter requests) (.operation context user operation))
        (tablesAfter
          (requests ++ .operation context user operation :: more)) := by
    unfold tablesAfter
    rw [run_append, run_cons]
    exact extends_run (integrity_step integrity _) more
  exact answered_of_traced (traced.extends grew) access

section Deposit

/-- A Finance user with one assigned booking. -/
def cashier : AuthenticatedUser := ⟨1, .financeAccounting⟩

def bookingTotal : MoneyAmount := ⟨100000, by decide, by decide⟩

def cashierBooking : Booking where
  id := 10
  clientId := 20
  bookingReference := "HP-10"
  status := .confirmed
  totalAmount := some bookingTotal
  currencyCode := some "PHP"
  createdAt := 0
  paired := rfl

def cashierOpening : List Request :=
  [.bookingAdded cashierBooking,
    .assignmentsChanged
      [{ id := 5
         assignedStaffId := 1
         role := .financeAccounting
         assignedByUserId := 3
         leadId := none
         clientId := none
         bookingId := some 10
         endedAt := none }]]

/-- The context of the `n`-th request. -/
def contextOf (n : Nat) : RequestContext := ⟨fun index => 100 * n + index, n⟩

def deposit : RecordPaymentInput :=
  ⟨10, ⟨30000, by decide, by decide⟩, "deposit-1"⟩

/-- The same key for another amount. -/
def largerDeposit : RecordPaymentInput :=
  ⟨10, ⟨40000, by decide, by decide⟩, "deposit-1"⟩

def depositConfirmed : Operation :=
  .confirmPayment ⟨100, "bank statement", "confirm-1"⟩

def depositRecorded : Request :=
  .operation (contextOf 1) cashier (.recordPayment deposit)

/-- The deposit is confirmed and the booking cancelled before the retry. -/
def afterDeposit : List Request :=
  [.operation (contextOf 2) cashier depositConfirmed,
    .bookingStatusChanged 10 .cancelled]

theorem deposit_retried :
    (∃ again,
      perform (contextOf 3) cashier (.recordPayment deposit)
          (tablesAfter (cashierOpening ++ depositRecorded :: afterDeposit)) =
        (.ok again,
          tablesAfter
            (cashierOpening ++ depositRecorded :: afterDeposit)) ∧
        again.named =
          .payment ⟨100, 10, 20, deposit.amount, .pending⟩) ∧
      perform (contextOf 3) cashier (.recordPayment largerDeposit)
          (tablesAfter (cashierOpening ++ [depositRecorded])) =
        (.error idempotencyKeyConflict,
          tablesAfter (cashierOpening ++ [depositRecorded])) := by
  constructor
  · exact
      (money_operations_idempotent cashierOpening afterDeposit (contextOf 1)
        (contextOf 3) cashier (.recordPayment deposit) rfl).1
        (.payment ⟨100, 10, 20, deposit.amount, .pending⟩) _ rfl rfl
        (by decide)
  · apply
      (money_operations_idempotent (cashierOpening ++ [depositRecorded]) []
        (contextOf 3) (contextOf 3) cashier (.recordPayment largerDeposit)
        rfl).2 rfl
    · exact ⟨_, rfl, Or.inr ⟨_, rfl, Or.inr (by decide)⟩⟩
    · intro input same
      decide

end Deposit

end Heritage.Payments
