import Heritage.Payments.Chains
import Heritage.Payments.Keys

/-!
# One key for each record

Two keyed operations of one kind that name the same record were carried out
under the same key: a payment is recorded, confirmed and reversed once, a
refund and an allocation belong to one request, and an allocation is reversed
once.
-/

namespace Heritage.Payments

open Heritage.Store
open Repository

variable {tables after : Tables} {kind : WriteKind}

/-- Refunds and reversals are told apart as their unique indexes do. -/
structure RecordsApart (tables : Tables) : Prop where
  refundIds : (tables.refunds.map PaymentRefund.id).Nodup
  reversedAllocations :
    (tables.allocationReversals.map
      PaymentAllocationReversal.paymentAllocationId).Nodup

theorem recordsApart_empty : RecordsApart Tables.empty where
  refundIds := List.nodup_nil
  reversedAllocations := List.nodup_nil

theorem RecordsApart.commit (apart : RecordsApart tables)
    (commit : Commit tables kind after) : RecordsApart after := by
  cases commit with
  | refundIssued payment row logs permitted remaining =>
      exact
        { apart with
          refundIds := nodup_map_concat apart.refundIds permitted.freshId }
  | refundCompleted payment row entry logs permitted ownEntry completes =>
      exact
        { apart with
          refundIds := nodup_map_concat apart.refundIds permitted.freshId }
  | allocationReversed allocation row logs foundAllocation notReversed
      notLinked =>
      have fresh :
          findBy PaymentAllocationReversal.paymentAllocationId
              row.paymentAllocationId tables.allocationReversals =
            none := by
        rwa [isReversed, Option.isSome_eq_false_iff, Option.isNone_iff_eq_none]
          at notReversed
      exact
        { apart with
          reversedAllocations :=
            nodup_map_concat apart.reversedAllocations fresh }
  | _ => exact { apart with }

theorem recordsApart_tablesAfter (requests : List Request) :
    RecordsApart (tablesAfter requests) :=
  invariant_of_commits recordsApart_empty
    (fun _ _ _ apart commit => apart.commit commit) requests

/-- A payment reaches a status once. -/
theorem history_eq_of_status (integrity : Integrity tables)
    (chains : PaymentChains tables) {row other : PaymentStatusHistory}
    (member : row ∈ tables.statusHistory)
    (otherMember : other ∈ tables.statusHistory)
    (samePayment : row.paymentId = other.paymentId)
    (sameStatus : row.newStatus = other.newStatus) : row = other := by
  obtain ⟨payment, stored, sameId⟩ :=
    List.mem_map.mp
      (integrity.historyPayments (List.mem_map_of_mem member))
  have chain :=
    statusChain_of_changes (chains.changes payment stored)
      (chains.living payment stored)
  have listed : row ∈ historyOf tables payment.id :=
    List.mem_filter.mpr ⟨member, decide_eq_true sameId.symm⟩
  have otherListed : other ∈ historyOf tables payment.id :=
    List.mem_filter.mpr
      ⟨otherMember, decide_eq_true (samePayment.symm.trans sameId.symm)⟩
  exact List.inj_on_of_nodup_map chain.once listed otherListed sameStatus

/-- The key under which a status was reached. -/
theorem key_of_history (integrity : Integrity tables)
    (chains : PaymentChains tables) {key otherKey : String}
    {row other : PaymentStatusHistory}
    (found : findStatusHistoryByIdempotencyKey tables key = some row)
    (otherFound :
      findStatusHistoryByIdempotencyKey tables otherKey = some other)
    (samePayment : row.paymentId = other.paymentId)
    (sameStatus : row.newStatus = other.newStatus) : key = otherKey := by
  have sameRow :=
    history_eq_of_status integrity chains (mem_of_findBy found)
      (mem_of_findBy otherFound) samePayment sameStatus
  have hasKey := key_of_findBy found
  have hasOther := key_of_findBy otherFound
  rw [sameRow, hasOther] at hasKey
  exact (Option.some.inj hasKey).symm

theorem id_of_recordTerms {record other : PaymentRecord}
    (same : recordTerms record = recordTerms other) :
    record.id = other.id := by
  have sameIds := congrArg PaymentRecord.id same
  exact sameIds

theorem key_of_transition (integrity : Integrity tables)
    (chains : PaymentChains tables) {paymentId otherId : Uuid}
    {key otherKey : String} {status : PaymentStatus}
    {record other : PaymentRecord}
    (traced : TransitionTraced tables paymentId key status record)
    (otherTraced : TransitionTraced tables otherId otherKey status other)
    (sameRecord : recordTerms record = recordTerms other) :
    key = otherKey := by
  obtain ⟨row, found, rowPayment, rowStatus, named, -⟩ := traced
  obtain ⟨otherRow, otherFound, otherPayment, otherStatus, otherNamed, -⟩ :=
    otherTraced
  have sameId := id_of_recordTerms sameRecord
  apply key_of_history integrity chains found otherFound
  · rw [rowPayment, otherPayment, ← named, ← otherNamed, sameId]
  · rw [rowStatus, otherStatus]

/-- Two operations of one kind that name one record have one key. -/
theorem key_of_sameRecord {requests : List Request}
    {operation other : Operation} {response otherResponse : Response}
    (traced : Traced (tablesAfter requests) operation response)
    (otherTraced : Traced (tablesAfter requests) other otherResponse)
    (sameKind : operation.kind = other.kind)
    (sameRecord : response.named = otherResponse.named) :
    operation.idempotencyKey = other.idempotencyKey := by
  have integrity := integrity_tablesAfter requests
  have chains := paymentChains_tablesAfter requests
  have apart := recordsApart_tablesAfter requests
  cases operation <;> cases other <;> try cases sameKind
  all_goals cases response <;> try exact False.elim traced
  all_goals cases otherResponse <;> try exact False.elim otherTraced
  case recordPayment.recordPayment.refl.payment.payment input otherInput
      record otherRecord =>
    obtain ⟨-, -, -, row, found, -, isPending, named⟩ := traced
    obtain ⟨-, -, -, otherRow, otherFound, -, otherPending, otherNamed⟩ :=
      otherTraced
    have sameId := id_of_recordTerms (Response.payment.inj sameRecord)
    apply congrArg some
    apply key_of_history integrity chains found otherFound
    · rw [named, otherNamed, sameId]
    · rw [isPending, otherPending]
  case confirmPayment.confirmPayment.refl.payment.payment =>
    exact
      congrArg some
        (key_of_transition integrity chains traced otherTraced
          (Response.payment.inj sameRecord))
  case reversePayment.reversePayment.refl.payment.payment =>
    exact
      congrArg some
        (key_of_transition integrity chains traced otherTraced
          (Response.payment.inj sameRecord))
  case refundPayment.refundPayment.refl.refund.refund input otherInput result
      otherResult =>
    obtain ⟨-, -, existing, found, -, -, -, isRecord⟩ := traced
    obtain ⟨-, -, otherExisting, otherFound, -, -, -, otherRecord⟩ :=
      otherTraced
    obtain ⟨refund, foundRefund, rfl⟩ := Option.map_eq_some_iff.mp found
    obtain ⟨otherRefund, foundOther, rfl⟩ :=
      Option.map_eq_some_iff.mp otherFound
    have sameRefund : result.refund = otherResult.refund :=
      (RefundPaymentResult.mk.inj (Response.refund.inj sameRecord)).1
    rw [← isRecord, ← otherRecord] at sameRefund
    exact
      congrArg some
        (sought_eq_of_column apart.refundIds foundRefund foundOther
          (congrArg RefundRecord.id sameRefund))
  case createAllocation.createAllocation.refl.allocation.allocation input
      otherInput record otherRecord =>
    obtain ⟨allocation, foundRow, rfl⟩ :=
      Option.map_eq_some_iff.mp traced.1
    obtain ⟨otherAllocation, foundOther, rfl⟩ :=
      Option.map_eq_some_iff.mp otherTraced.1
    exact
      congrArg some
        (sought_eq_of_column integrity.allocationIds foundRow foundOther
          (congrArg AllocationRecord.id
            (Response.allocation.inj sameRecord)))
  case reverseAllocation.reverseAllocation.refl.allocationReversal.allocationReversal
      input otherInput record otherRecord =>
    obtain ⟨reversal, foundRow, rfl⟩ :=
      Option.map_eq_some_iff.mp traced.1
    obtain ⟨otherReversal, foundOther, rfl⟩ :=
      Option.map_eq_some_iff.mp otherTraced.1
    exact
      congrArg some
        (sought_eq_of_column apart.reversedAllocations foundRow foundOther
          (congrArg AllocationReversalRecord.paymentAllocationId
            (Response.allocationReversal.inj sameRecord)))

end Heritage.Payments
