import Heritage.Payments.Replay

/-!
# What an unassigned actor observes

A request that names a record of a booking the actor is not assigned to should
be refused exactly as one that names nothing.  The replay of every operation
but `recordPayment` looks the idempotency key up before the actor's access is
checked, so this holds only while the key is new.
-/

namespace Heritage.Payments

open Heritage.Store
open Repository

/-- The operations that name a payment or an allocation. -/
def Operation.namesRecord : Operation → Bool
  | .confirmPayment _ | .reversePayment _ | .refundPayment _
  | .createAllocation _ | .reverseAllocation _ => true
  | _ => false

/-- The same request with another payment or allocation id. -/
def Operation.retarget (id : Uuid) : Operation → Operation
  | .confirmPayment input => .confirmPayment { input with paymentId := id }
  | .reversePayment input => .reversePayment { input with paymentId := id }
  | .refundPayment input => .refundPayment { input with paymentId := id }
  | .createAllocation input =>
      .createAllocation { input with paymentId := id }
  | .reverseAllocation input =>
      .reverseAllocation { input with allocationId := id }
  | operation => operation

/-- The key is in a table the operation checks. -/
def keyKnown (tables : Tables) : Operation → Bool
  | .confirmPayment input =>
      (findStatusHistoryByIdempotencyKey tables input.idempotencyKey).isSome
  | .reversePayment input =>
      (findStatusHistoryByIdempotencyKey tables input.idempotencyKey).isSome
  | .refundPayment input =>
      (findRefundByIdempotencyKey tables input.idempotencyKey).isSome ||
        (findStatusHistoryByIdempotencyKey tables
          input.idempotencyKey).isSome
  | .createAllocation input =>
      (findAllocationByIdempotencyKey tables input.idempotencyKey).isSome
  | .reverseAllocation input =>
      (findAllocationReversalByIdempotencyKey tables
        input.idempotencyKey).isSome
  | _ => false

/-- What an actor who may not perform the request is told. -/
def refusal (user : AuthenticatedUser) : TxError :=
  if user.role = .financeAccounting then paymentForbidden
  else financeRoleRequired

variable {tables : Tables} {context : RequestContext}
  {user : AuthenticatedUser} {operation : Operation}

theorem retarget_namesRecord (id : Uuid) :
    (operation.retarget id).namesRecord = operation.namesRecord := by
  cases operation <;> rfl

theorem keyKnown_retarget (id : Uuid) :
    keyKnown tables (operation.retarget id) = keyKnown tables operation := by
  cases operation <;> rfl

theorem assertFinanceActor_of_other
    (notFinance : user.role ≠ .financeAccounting) :
    assertFinanceActor user = .error financeRoleRequired := by
  unfold assertFinanceActor
  cases role : user.role with
  | financeAccounting =>
      exact absurd role notFinance
  | _ =>
      rfl

theorem refused_of_role (named : operation.namesRecord)
    (notFinance : user.role ≠ .financeAccounting) :
    perform context user operation tables =
      (.error (refusal user), tables) := by
  have refused := assertFinanceActor_of_other notFinance
  rw [refusal, if_neg notFinance]
  cases operation with
  | confirmPayment input =>
      exact refused_of_actor refused
  | reversePayment input =>
      exact refused_of_actor refused
  | refundPayment input =>
      exact refused_of_actor refused
  | createAllocation input =>
      exact refused_of_actor refused
  | reverseAllocation input =>
      exact refused_of_actor refused
  | _ =>
      cases named

/-- A payment that is missing or not assigned to the actor. -/
theorem findScopedPayment_of_hidden {actor : PaymentActor}
    {paymentId : Uuid}
    (hidden :
      (bookingOfPayment tables paymentId).any
        (bookingAssignmentFilter tables actor) = false) :
    findScopedPaymentOrForbidden tables actor paymentId =
      .error paymentForbidden := by
  have unseen : findPaymentForActor tables actor paymentId = none := by
    cases found : findPaymentForActor tables actor paymentId with
    | none =>
        rfl
    | some record =>
        obtain ⟨payment, foundPayment, visible, -⟩ :=
          findPaymentForActor_eq_some.mp found
        simp [bookingOfPayment, foundPayment, visible] at hidden
  rw [findScopedPaymentOrForbidden, unseen]
  rfl

theorem eq_none_of_isSome_eq_false {α : Type} {found : Option α}
    (absent : found.isSome = false) : found = none :=
  Option.isNone_iff_eq_none.mp (Option.isSome_eq_false_iff.mp absent)

/-- With a new key a Finance user who may not access the target is told that
it is not accessible. -/
theorem refused_of_newKey (named : operation.namesRecord)
    (finance : user.role = .financeAccounting)
    (newKey : keyKnown tables operation = false)
    (hidden :
      (targetBooking tables operation).any
        (bookingAssignmentFilter tables (financeActor user)) = false) :
    perform context user operation tables =
      (.error (refusal user), tables) := by
  have admitted : assertFinanceActor user = .ok (financeActor user) :=
    assertFinanceActor_eq_ok.mpr ⟨finance, rfl⟩
  rw [refusal, if_pos finance]
  cases operation with
  | confirmPayment input =>
      have unused := eq_none_of_isSome_eq_false newKey
      apply refused_of_error admitted
      unfold confirmPaymentTransaction resolveStatusTransitionReplay
      rw [unused, ok_bind, findScopedPayment_of_hidden hidden]
      rfl
  | reversePayment input =>
      have unused := eq_none_of_isSome_eq_false newKey
      apply refused_of_error admitted
      unfold reversePaymentTransaction resolveStatusTransitionReplay
      rw [unused, ok_bind, findScopedPayment_of_hidden hidden]
      rfl
  | refundPayment input =>
      obtain ⟨newRefund, newHistory⟩ := Bool.or_eq_false_iff.mp newKey
      have unused := eq_none_of_isSome_eq_false newRefund
      have unusedInHistory := Option.isSome_eq_false_iff.mp newHistory
      apply refused_of_error admitted
      unfold refundPaymentTransaction resolveRefundReplay
      rw [unused, ok_bind, require_of unusedInHistory, ok_bind,
        findScopedPayment_of_hidden hidden]
      rfl
  | createAllocation input =>
      have unused := eq_none_of_isSome_eq_false newKey
      apply refused_of_error admitted
      unfold createAllocationTransaction resolveAllocationReplay
      rw [unused, ok_bind, findScopedPayment_of_hidden hidden]
      rfl
  | reverseAllocation input =>
      have unused := eq_none_of_isSome_eq_false newKey
      apply refused_of_error admitted
      unfold reverseAllocationTransaction resolveAllocationReversalReplay
      rw [unused, ok_bind]
      cases found : findAllocationForReversal tables input.allocationId with
      | none =>
          rfl
      | some record =>
          obtain ⟨allocation, foundAllocation, rfl⟩ :=
            findAllocationForReversal_eq_some.mp found
          have hiddenPayment :
              (bookingOfPayment tables allocation.paymentId).any
                (bookingAssignmentFilter tables (financeActor user)) =
                false := by
            simpa [targetBooking, foundAllocation] using hidden
          rw [demand, ok_bind, findScopedPayment_of_hidden hiddenPayment]
          rfl
  | _ =>
      cases named

/-! ## A known key gives a missing target away -/

/-- A stored payment has a booking. -/
theorem bookingOfPayment_isSome {paymentId : Uuid}
    (listed : paymentId ∈ tables.payments.map Payment.id) :
    bookingOfPayment tables paymentId ≠ none := by
  obtain ⟨payment, found⟩ := exists_findBy_of_mem_map listed
  simp [bookingOfPayment, found]

/-- Under a known key every missing target clashes: the key's row names one
that exists. -/
theorem keyClash_of_missing (integrity : Integrity tables)
    (named : operation.namesRecord) (known : keyKnown tables operation)
    (missing : targetBooking tables operation = none) :
    KeyClash tables operation := by
  have historyPayment :
      ∀ {idempotencyKey history},
        findStatusHistoryByIdempotencyKey tables idempotencyKey =
            some history →
          bookingOfPayment tables history.paymentId ≠ none := by
    intro idempotencyKey history found
    exact
      bookingOfPayment_isSome
        (integrity.historyPayments
          (List.mem_map_of_mem (mem_of_findBy found)))
  cases operation with
  | confirmPayment input =>
      obtain ⟨history, found⟩ := Option.isSome_iff_exists.mp known
      refine ⟨history, found, Or.inl ?_⟩
      intro same
      exact historyPayment found (same ▸ missing)
  | reversePayment input =>
      obtain ⟨history, found⟩ := Option.isSome_iff_exists.mp known
      refine ⟨history, found, Or.inl ?_⟩
      intro same
      exact historyPayment found (same ▸ missing)
  | refundPayment input =>
      cases found :
          findRefundByIdempotencyKey tables input.idempotencyKey with
      | some existing =>
          obtain ⟨refund, foundRefund, rfl⟩ := Option.map_eq_some_iff.mp found
          refine Or.inl ⟨_, found, Or.inl ?_⟩
          intro same
          have ownPayment : refund.paymentId = input.paymentId := same
          have listed :=
            integrity.refundPayments
              (List.mem_map_of_mem (mem_of_findBy foundRefund))
          rw [ownPayment] at listed
          exact bookingOfPayment_isSome listed missing
      | none =>
          refine Or.inr ⟨found, ?_⟩
          simpa [keyKnown, found] using known
  | createAllocation input =>
      obtain ⟨existing, found⟩ := Option.isSome_iff_exists.mp known
      obtain ⟨allocation, foundAllocation, rfl⟩ :=
        Option.map_eq_some_iff.mp found
      refine ⟨_, found, Or.inl ?_⟩
      intro same
      have ownPayment : allocation.paymentId = input.paymentId := same
      have listed :=
        integrity.allocationPayments
          (List.mem_map_of_mem (mem_of_findBy foundAllocation))
      rw [ownPayment] at listed
      exact bookingOfPayment_isSome listed missing
  | reverseAllocation input =>
      obtain ⟨existing, found⟩ := Option.isSome_iff_exists.mp known
      obtain ⟨reversal, foundReversal, rfl⟩ :=
        Option.map_eq_some_iff.mp found
      refine ⟨_, found, ?_⟩
      intro same
      have ownAllocation :
          reversal.paymentAllocationId = input.allocationId := same
      have listed :=
        integrity.reversalAllocations
          (List.mem_map_of_mem (mem_of_findBy foundReversal))
      rw [ownAllocation] at listed
      obtain ⟨allocation, foundAllocation⟩ := exists_findBy_of_mem_map listed
      have paymentListed :=
        integrity.allocationPayments
          (List.mem_map_of_mem (mem_of_findBy foundAllocation))
      rw [targetBooking, foundAllocation] at missing
      exact bookingOfPayment_isSome paymentListed missing
  | _ =>
      cases named

/-- Both requests are refused alike and change nothing. -/
def RefusedAlike (tables : Tables) (context otherContext : RequestContext)
    (user : AuthenticatedUser) (operation : Operation) (missing : Uuid) :
    Prop :=
  perform context user operation tables =
      (.error (refusal user), tables) ∧
    perform otherContext user (operation.retarget missing) tables =
      (.error (refusal user), tables)

/-- A target the actor may not access and an id that does not exist are
refused alike exactly when the actor is not a Finance user or the key is
new. -/
theorem refused_alike_iff_new_key (requests : List Request)
    (context otherContext : RequestContext) (user : AuthenticatedUser)
    (operation : Operation) (missing : Uuid)
    (named : operation.namesRecord)
    (unassigned : mayAccess (tablesAfter requests) user operation = false)
    (absent :
      targetBooking (tablesAfter requests) (operation.retarget missing) =
        none) :
    RefusedAlike (tablesAfter requests) context otherContext user operation
        missing ↔
      user.role ≠ .financeAccounting ∨
        keyKnown (tablesAfter requests) operation = false := by
  have namedMissing : (operation.retarget missing).namesRecord := by
    rw [retarget_namesRecord]
    exact named
  by_cases finance : user.role = .financeAccounting
  · have hidden :
        (targetBooking (tablesAfter requests) operation).any
          (bookingAssignmentFilter (tablesAfter requests)
            (financeActor user)) = false := by
      simpa [mayAccess, finance] using unassigned
    have hiddenMissing :
        (targetBooking (tablesAfter requests)
            (operation.retarget missing)).any
          (bookingAssignmentFilter (tablesAfter requests)
            (financeActor user)) = false := by
      rw [absent]
      rfl
    cases known : keyKnown (tablesAfter requests) operation with
    | false =>
        have newKey := known
        rw [← keyKnown_retarget missing] at newKey
        simp only [or_true, iff_true]
        exact
          ⟨refused_of_newKey named finance known hidden,
            refused_of_newKey namedMissing finance newKey hiddenMissing⟩
    | true =>
        rw [← keyKnown_retarget missing] at known
        have clash :=
          keyClash_of_missing (integrity_tablesAfter requests) namedMissing
            known absent
        have recordable :
            ∀ input, operation.retarget missing = .recordPayment input →
              mayAccess (tablesAfter requests) user
                (operation.retarget missing) := by
          intro input same
          rw [same] at namedMissing
          cases namedMissing
        have conflict :=
          @refused_of_clash (tablesAfter requests) otherContext user
            (operation.retarget missing) finance clash recordable
        simp only [finance, ne_eq, not_true, Bool.true_eq_false, or_self,
          iff_false]
        rintro ⟨-, alike⟩
        rw [alike, refusal, if_pos finance] at conflict
        simp [paymentForbidden, idempotencyKeyConflict, paymentError]
          at conflict
  · simp only [ne_eq, finance, not_false_eq_true, true_or, iff_true]
    exact
      ⟨refused_of_role named finance, refused_of_role namedMissing finance⟩

section Outsider

/-- A Finance user without any assignment. -/
def outsider : AuthenticatedUser := ⟨2, .financeAccounting⟩

/-- The deposit of another user's booking, confirmed. -/
def confirmedDeposit : List Request :=
  cashierOpening ++
    [depositRecorded, .operation (contextOf 2) cashier depositConfirmed]

/-- The outsider repeats the confirmation under the key of the first one. -/
def foreignConfirmation : Operation :=
  .confirmPayment ⟨100, "bank statement", "confirm-1"⟩

/-- The outsider's confirmation under a key of its own. -/
def newConfirmation : Operation :=
  .confirmPayment ⟨100, "bank statement", "confirm-2"⟩

/-- Naming the existing payment is forbidden, naming a missing one is a key
conflict: the difference gives both the payment and the key away. -/
theorem foreign_payment_observed :
    mayAccess (tablesAfter confirmedDeposit) outsider foreignConfirmation =
        false ∧
      targetBooking (tablesAfter confirmedDeposit) foreignConfirmation =
        some 10 ∧
      targetBooking (tablesAfter confirmedDeposit)
          (foreignConfirmation.retarget 999) = none ∧
      (perform (contextOf 3) outsider foreignConfirmation
          (tablesAfter confirmedDeposit)).1 = .error paymentForbidden ∧
      (perform (contextOf 3) outsider (foreignConfirmation.retarget 999)
          (tablesAfter confirmedDeposit)).1 =
        .error idempotencyKeyConflict ∧
      perform (contextOf 3) outsider foreignConfirmation
          (tablesAfter confirmedDeposit) ≠
        perform (contextOf 3) outsider (foreignConfirmation.retarget 999)
          (tablesAfter confirmedDeposit) := by
  refine ⟨by decide, rfl, rfl, rfl, rfl, ?_⟩
  intro same
  have sameError := congrArg Prod.fst same
  have forbidden :
      (Except.error paymentForbidden : Except TxError Response) =
        .error idempotencyKeyConflict := sameError
  simp [paymentForbidden, idempotencyKeyConflict, paymentError] at forbidden

theorem newConfirmation_refused_alike :
    RefusedAlike (tablesAfter confirmedDeposit) (contextOf 3) (contextOf 4)
      outsider newConfirmation 999 :=
  (refused_alike_iff_new_key confirmedDeposit (contextOf 3) (contextOf 4)
    outsider newConfirmation 999 rfl (by decide) rfl).mpr (Or.inr rfl)

end Outsider

end Heritage.Payments
