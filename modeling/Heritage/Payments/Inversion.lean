import Heritage.Payments.Commits

/-!
# What a successful transaction did

One inversion lemma for each read, each write and each transaction.  A
transaction that returns either replayed an earlier answer and wrote nothing,
or passed every guard and appended or updated the rows listed here.  Nothing
after this module unfolds a transaction to learn what it wrote.
-/

namespace Heritage.Payments

open Heritage.Store
open Repository

variable {tables after : Tables} {actor : PaymentActor}

theorem findBookingFinancialsForActor_eq_some
    {bookingId : Uuid} {found : BookingFinancials} :
    findBookingFinancialsForActor tables actor bookingId = some found ↔
      ∃ booking,
        findBy Booking.id bookingId tables.bookings = some booking ∧
          bookingAssignmentFilter tables actor bookingId ∧
          selectFinancials booking = found := by
  constructor
  · intro lookup
    obtain ⟨booking, kept, selected⟩ := Option.map_eq_some_iff.mp lookup
    obtain ⟨foundRow, visible⟩ := Option.filter_eq_some_iff.mp kept
    rw [key_of_findBy foundRow] at visible
    exact ⟨booking, foundRow, visible, selected⟩
  · rintro ⟨booking, foundRow, visible, rfl⟩
    apply Option.map_eq_some_iff.mpr
    refine ⟨booking, Option.filter_eq_some_iff.mpr ⟨foundRow, ?_⟩, rfl⟩
    rw [key_of_findBy foundRow]
    exact visible

theorem findPaymentForActor_eq_some
    {paymentId : Uuid} {found : PaymentRecord} :
    findPaymentForActor tables actor paymentId = some found ↔
      ∃ payment,
        findBy Payment.id paymentId tables.payments = some payment ∧
          bookingAssignmentFilter tables actor payment.bookingId ∧
          selectPayment payment = found := by
  simp only [findPaymentForActor, Option.map_eq_some_iff,
    Option.filter_eq_some_iff, and_assoc]

@[simp]
theorem findScopedPaymentOrForbidden_eq_ok
    {paymentId : Uuid} {found : PaymentRecord} :
    findScopedPaymentOrForbidden tables actor paymentId = .ok found ↔
      ∃ payment,
        findBy Payment.id paymentId tables.payments = some payment ∧
          bookingAssignmentFilter tables actor payment.bookingId ∧
          selectPayment payment = found := by
  rw [findScopedPaymentOrForbidden, demand_eq_ok, findPaymentForActor_eq_some]

theorem findPaymentPlanWithBookingForActor_eq_some
    {paymentPlanId : Uuid} {plan : PaymentPlan}
    {financials : BookingFinancials} :
    findPaymentPlanWithBookingForActor tables actor paymentPlanId =
        some (plan, financials) ↔
      findBy PaymentPlan.id paymentPlanId tables.paymentPlans = some plan ∧
        bookingAssignmentFilter tables actor plan.bookingId ∧
        ∃ booking,
          findBy Booking.id plan.bookingId tables.bookings = some booking ∧
            selectFinancials booking = financials := by
  simp only [findPaymentPlanWithBookingForActor, Option.bind_eq_some_iff,
    Option.filter_eq_some_iff, Option.map_eq_some_iff, Prod.mk.injEq]
  constructor
  · rintro ⟨other, ⟨foundPlan, visible⟩, booking, foundBooking, rfl, same⟩
    exact ⟨foundPlan, visible, booking, foundBooking, same⟩
  · rintro ⟨foundPlan, visible, booking, foundBooking, same⟩
    exact ⟨plan, ⟨foundPlan, visible⟩, booking, foundBooking, rfl, same⟩

theorem findInstallmentForAllocation_eq_some
    {installmentId : Uuid} {found : InstallmentForAllocation} :
    findInstallmentForAllocation tables installmentId = some found ↔
      ∃ installment plan,
        findBy Installment.id installmentId tables.installments =
            some installment ∧
          findBy PaymentPlan.id installment.paymentPlanId
            tables.paymentPlans = some plan ∧
          found =
            { id := installment.id
              paymentPlanId := installment.paymentPlanId
              bookingId := plan.bookingId
              amount := installment.amount
              planStatus := plan.status } := by
  simp only [findInstallmentForAllocation, Option.bind_eq_some_iff,
    Option.map_eq_some_iff]
  constructor
  · rintro ⟨installment, foundInstallment, plan, foundPlan, rfl⟩
    exact ⟨installment, plan, foundInstallment, foundPlan, rfl⟩
  · rintro ⟨installment, plan, foundInstallment, foundPlan, rfl⟩
    exact ⟨installment, foundInstallment, plan, foundPlan, rfl⟩

/-- Without the lock the booking has neither an active plan nor a
payment. -/
theorem hasFinancialLock_eq_false {bookingId : Uuid} :
    hasFinancialLock tables bookingId = false ↔
      (∀ plan ∈ tables.paymentPlans,
        plan.bookingId = bookingId → plan.status = .withdrawn) ∧
      ∀ payment ∈ tables.payments, payment.bookingId ≠ bookingId := by
  simp [hasFinancialLock, isActivePlan]

theorem createPaymentPlanWithInstallments_eq_ok
    {input : CreatePaymentPlanInput} {plan : PaymentPlan} :
    createPaymentPlanWithInstallments tables input = .ok (plan, after) ↔
      findBy PaymentPlan.id input.id tables.paymentPlans = none ∧
        (∀ other ∈ tables.paymentPlans,
          other.bookingId = input.bookingId → other.status = .withdrawn) ∧
        ((tables.installments ++ input.installmentRows).map
          Installment.id).Nodup ∧
        (input.installments.map
          ProposedInstallmentInput.sequenceNumber).Nodup ∧
        (input.installments.filter
          ProposedInstallmentInput.isDeposit).length ≤ 1 ∧
        input.row = plan ∧
        { tables with
            paymentPlans := tables.paymentPlans ++ [input.row]
            installments := tables.installments ++ input.installmentRows } =
          after := by
  simp only [createPaymentPlanWithInstallments, bind_eq_ok, require_eq_ok,
    Option.isNone_iff_eq_none, Except.ok.injEq, Prod.mk.injEq, exists_const]
  simp [isActivePlan]

/-- A conditional update that returns a plan has written it. -/
theorem updateProposedPlan_written
    {id : Uuid} {change : PaymentPlan → PaymentPlan} {updated : PaymentPlan}
    (outcome : (updateProposedPlan tables id change).1 = some updated) :
    (updateProposedPlan tables id change).2 =
      replanned tables id change := by
  unfold updateProposedPlan at outcome ⊢
  cases found : findBy PaymentPlan.id id tables.paymentPlans with
  | none =>
      simp [found] at outcome
  | some plan =>
      by_cases proposed : plan.status = .proposed
      · simp [proposed, replanned]
      · simp [found, proposed] at outcome

theorem createPendingPayment_eq_ok
    {input : CreatePendingPaymentInput} {record : PaymentRecord} :
    createPendingPayment tables input = .ok (record, after) ↔
      findBy Payment.id input.id tables.payments = none ∧
        findStatusHistoryByIdempotencyKey tables input.idempotencyKey =
          none ∧
        selectPayment input.row = record ∧
        { tables with
            payments := tables.payments ++ [input.row]
            statusHistory := tables.statusHistory ++ [input.historyRow] } =
          after := by
  simp only [createPendingPayment, bind_eq_ok, require_eq_ok,
    Option.isNone_iff_eq_none, Except.ok.injEq, Prod.mk.injEq, exists_const]

theorem transitionPaymentStatus_eq_ok
    {input : TransitionPaymentStatusInput} {record : PaymentRecord}
    {idempotencyKey : String}
    (keyed : input.idempotencyKey = some idempotencyKey) :
    transitionPaymentStatus tables input = .ok (record, after) ↔
      ∃ payment,
        findBy Payment.id input.paymentId tables.payments = some payment ∧
          findStatusHistoryByIdempotencyKey tables idempotencyKey = none ∧
          selectPayment (withStatus input.newStatus payment) = record ∧
          { tables with
              payments :=
                updateBy Payment.id input.paymentId
                  (withStatus input.newStatus) tables.payments
              statusHistory :=
                tables.statusHistory ++ [input.historyRow] } =
            after := by
  unfold transitionPaymentStatus
  cases findBy Payment.id input.paymentId tables.payments with
  | none =>
      simp
  | some payment =>
      simp only [keyed, bind_eq_ok, require_eq_ok, Option.all_some,
        Option.isNone_iff_eq_none, Except.ok.injEq, Prod.mk.injEq,
        exists_const, Option.some.injEq, exists_eq_left']

theorem createRefund_eq_ok
    {input : CreateRefundInput} {record : RefundRecord} :
    createRefund tables input = .ok (record, after) ↔
      findBy PaymentRefund.id input.id tables.refunds = none ∧
        findRefundByIdempotencyKey tables input.idempotencyKey = none ∧
        selectRefund input.row = record ∧
        { tables with
            refunds := tables.refunds ++ [input.row]
            refundAllocations :=
              tables.refundAllocations ++ input.linkRows } =
          after := by
  simp only [createRefund, bind_eq_ok, require_eq_ok,
    Option.isNone_iff_eq_none, Except.ok.injEq, Prod.mk.injEq, exists_const]

theorem createAllocation_eq_ok
    {row : PaymentAllocation} {record : AllocationRecord} :
    Repository.createAllocation tables row = .ok (record, after) ↔
      findBy PaymentAllocation.id row.id tables.allocations = none ∧
        findAllocationByIdempotencyKey tables row.idempotencyKey = none ∧
        selectAllocation row = record ∧
        { tables with allocations := tables.allocations ++ [row] } =
          after := by
  simp only [Repository.createAllocation, bind_eq_ok, require_eq_ok,
    Option.isNone_iff_eq_none, Except.ok.injEq, Prod.mk.injEq, exists_const]

theorem createAllocationReversal_eq_ok
    {row : PaymentAllocationReversal} {record : AllocationReversalRecord} :
    createAllocationReversal tables row = .ok (record, after) ↔
      findBy PaymentAllocationReversal.id row.id
          tables.allocationReversals = none ∧
        isReversed tables row.paymentAllocationId = false ∧
        findAllocationReversalByIdempotencyKey tables row.idempotencyKey =
          none ∧
        selectReversal row = record ∧
        { tables with
            allocationReversals := tables.allocationReversals ++ [row] } =
          after := by
  simp only [createAllocationReversal, bind_eq_ok, require_eq_ok,
    Option.isNone_iff_eq_none, Except.ok.injEq, Prod.mk.injEq, exists_const,
    Bool.not_eq_true]

theorem createReceipt_eq_ok
    {row : Receipt} {record : ReceiptRecord} :
    createReceipt tables row = .ok (record, after) ↔
      findBy Receipt.id row.id tables.receipts = none ∧
        findReceiptByPaymentId tables row.paymentId = none ∧
        findBy Receipt.receiptNumber row.receiptNumber tables.receipts =
          none ∧
        selectReceipt row = record ∧
        { tables with receipts := tables.receipts ++ [row] } = after := by
  simp only [createReceipt, bind_eq_ok, require_eq_ok,
    Option.isNone_iff_eq_none, Except.ok.injEq, Prod.mk.injEq, exists_const]

theorem resolveRecordReplay_eq_some
    {input : RecordPaymentInput} {record : PaymentRecord} :
    resolveRecordReplay actor input tables = .ok (some record) ↔
      ∃ history payment,
        findStatusHistoryByIdempotencyKey tables input.idempotencyKey =
            some history ∧
          history.previousStatus = none ∧
          history.newStatus = .pending ∧
          findBy Payment.id history.paymentId tables.payments =
            some payment ∧
          bookingAssignmentFilter tables actor payment.bookingId ∧
          payment.bookingId = input.bookingId ∧
          payment.amount = input.amount ∧
          selectPayment payment = record := by
  unfold resolveRecordReplay
  cases findStatusHistoryByIdempotencyKey tables input.idempotencyKey with
  | none =>
      simp
  | some history =>
      simp only [bind_eq_ok, require_eq_ok, demand_eq_ok,
        findPaymentForActor_eq_some, Except.ok.injEq, Option.some.injEq,
        exists_const]
      constructor
      · rintro ⟨⟨initial, pending⟩, found, ⟨payment, foundPayment, visible,
          rfl⟩, ⟨sameBooking, sameAmount⟩, rfl⟩
        exact
          ⟨history, payment, rfl, initial, pending, foundPayment, visible,
            sameBooking, sameAmount, rfl⟩
      · rintro ⟨_, payment, rfl, initial, pending, foundPayment, visible,
          sameBooking, sameAmount, rfl⟩
        exact
          ⟨⟨initial, pending⟩, _, ⟨payment, foundPayment, visible, rfl⟩,
            ⟨sameBooking, sameAmount⟩, rfl⟩

theorem resolveStatusTransitionReplay_eq_some
    {paymentId : Uuid} {idempotencyKey : String}
    {targetStatus : PaymentStatus} {record : PaymentRecord} :
    resolveStatusTransitionReplay actor paymentId idempotencyKey
          targetStatus tables =
        .ok (some record) ↔
      ∃ history payment,
        findStatusHistoryByIdempotencyKey tables idempotencyKey =
            some history ∧
          history.paymentId = paymentId ∧
          history.newStatus = targetStatus ∧
          findBy Payment.id paymentId tables.payments = some payment ∧
          bookingAssignmentFilter tables actor payment.bookingId ∧
          selectPayment payment = record := by
  unfold resolveStatusTransitionReplay
  cases findStatusHistoryByIdempotencyKey tables idempotencyKey with
  | none =>
      simp
  | some history =>
      simp only [bind_eq_ok, require_eq_ok,
        findScopedPaymentOrForbidden_eq_ok, Except.ok.injEq,
        Option.some.injEq, exists_const]
      constructor
      · rintro ⟨⟨rfl, sameStatus⟩, found, ⟨payment, foundPayment, visible,
          rfl⟩, rfl⟩
        exact
          ⟨history, payment, rfl, rfl, sameStatus, foundPayment, visible, rfl⟩
      · rintro ⟨_, payment, rfl, rfl, sameStatus, foundPayment, visible, rfl⟩
        exact
          ⟨⟨rfl, sameStatus⟩, _, ⟨payment, foundPayment, visible, rfl⟩, rfl⟩

theorem resolveRefundReplay_eq_some
    {input : RefundPaymentInput} {result : RefundPaymentResult} :
    resolveRefundReplay actor input tables = .ok (some result) ↔
      ∃ existing payment,
        findRefundByIdempotencyKey tables input.idempotencyKey =
            some existing ∧
          existing.paymentId = input.paymentId ∧
          existing.amount = input.amount ∧
          existing.allocationId = input.allocationId ∧
          findBy Payment.id input.paymentId tables.payments = some payment ∧
          bookingAssignmentFilter tables actor payment.bookingId ∧
          ⟨existing.toRefundRecord, selectPayment payment⟩ = result := by
  unfold resolveRefundReplay
  cases findRefundByIdempotencyKey tables input.idempotencyKey with
  | none =>
      simp
  | some existing =>
      simp only [bind_eq_ok, require_eq_ok,
        findScopedPaymentOrForbidden_eq_ok, Except.ok.injEq,
        Option.some.injEq, exists_const]
      constructor
      · rintro ⟨⟨samePayment, sameAmount, sameAllocation⟩, found, ⟨payment,
          foundPayment, visible, rfl⟩, rfl⟩
        rw [samePayment] at foundPayment
        exact
          ⟨existing, payment, rfl, samePayment, sameAmount, sameAllocation,
            foundPayment, visible, rfl⟩
      · rintro ⟨_, payment, rfl, samePayment, sameAmount, sameAllocation,
          foundPayment, visible, rfl⟩
        rw [← samePayment] at foundPayment
        exact
          ⟨⟨samePayment, sameAmount, sameAllocation⟩, _,
            ⟨payment, foundPayment, visible, rfl⟩, rfl⟩

theorem resolveAllocationReplay_eq_some
    {input : CreateAllocationInput} {record : AllocationRecord} :
    resolveAllocationReplay actor input tables = .ok (some record) ↔
      ∃ payment,
        findAllocationByIdempotencyKey tables input.idempotencyKey =
            some record ∧
          record.paymentId = input.paymentId ∧
          record.installmentId = input.installmentId ∧
          record.amount = input.amount ∧
          findBy Payment.id input.paymentId tables.payments = some payment ∧
          bookingAssignmentFilter tables actor payment.bookingId := by
  unfold resolveAllocationReplay
  cases findAllocationByIdempotencyKey tables input.idempotencyKey with
  | none =>
      simp
  | some existing =>
      simp only [bind_eq_ok, require_eq_ok,
        findScopedPaymentOrForbidden_eq_ok, Except.ok.injEq,
        Option.some.injEq, exists_const]
      constructor
      · rintro ⟨⟨samePayment, sameInstallment, sameAmount⟩, found, ⟨payment,
          foundPayment, visible, rfl⟩, rfl⟩
        rw [samePayment] at foundPayment
        exact
          ⟨payment, rfl, samePayment, sameInstallment, sameAmount,
            foundPayment, visible⟩
      · rintro ⟨payment, rfl, samePayment, sameInstallment, sameAmount,
          foundPayment, visible⟩
        rw [← samePayment] at foundPayment
        exact
          ⟨⟨samePayment, sameInstallment, sameAmount⟩, _,
            ⟨payment, foundPayment, visible, rfl⟩, rfl⟩

theorem findAllocationForReversal_eq_some
    {allocationId : Uuid} {found : AllocationForReversal} :
    findAllocationForReversal tables allocationId = some found ↔
      ∃ allocation,
        findBy PaymentAllocation.id allocationId tables.allocations =
            some allocation ∧
          { id := allocation.id
            paymentId := allocation.paymentId
            installmentId := allocation.installmentId
            amount := allocation.amount
            hasReversal := isReversed tables allocation.id
            hasRefundAllocation :=
              0 < ((refundAllocationsOf tables allocation.id).take
                1).length } = found := by
  simp only [findAllocationForReversal, Option.map_eq_some_iff]

theorem resolveAllocationReversalReplay_eq_some
    {input : ReverseAllocationInput} {record : AllocationReversalRecord} :
    resolveAllocationReversalReplay actor input tables =
        .ok (some record) ↔
      ∃ allocation payment,
        findAllocationReversalByIdempotencyKey tables input.idempotencyKey =
            some record ∧
          record.paymentAllocationId = input.allocationId ∧
          findBy PaymentAllocation.id input.allocationId
            tables.allocations = some allocation ∧
          findBy Payment.id allocation.paymentId tables.payments =
            some payment ∧
          bookingAssignmentFilter tables actor payment.bookingId := by
  unfold resolveAllocationReversalReplay
  cases
      findAllocationReversalByIdempotencyKey tables input.idempotencyKey with
  | none =>
      simp
  | some existing =>
      simp only [bind_eq_ok, require_eq_ok, demand_eq_ok,
        findAllocationForReversal_eq_some,
        findScopedPaymentOrForbidden_eq_ok, Except.ok.injEq,
        Option.some.injEq, exists_const]
      constructor
      · rintro ⟨sameAllocation, found, ⟨allocation, foundAllocation, rfl⟩,
          scopedPayment, ⟨payment, foundPayment, visible, rfl⟩, rfl⟩
        rw [sameAllocation] at foundAllocation
        exact
          ⟨allocation, payment, rfl, sameAllocation, foundAllocation,
            foundPayment, visible⟩
      · rintro ⟨allocation, payment, rfl, sameAllocation, foundAllocation,
          foundPayment, visible⟩
        rw [← sameAllocation] at foundAllocation
        exact
          ⟨sameAllocation, _, ⟨allocation, foundAllocation, rfl⟩, _,
            ⟨payment, foundPayment, visible, rfl⟩, rfl⟩

/-- No replay means that the key is new. -/
theorem freshKey_of_statusTransition
    {paymentId : Uuid} {idempotencyKey : String}
    {targetStatus : PaymentStatus}
    (resolved :
      resolveStatusTransitionReplay actor paymentId idempotencyKey
          targetStatus tables =
        .ok none) :
    findStatusHistoryByIdempotencyKey tables idempotencyKey = none := by
  unfold resolveStatusTransitionReplay at resolved
  cases found :
      findStatusHistoryByIdempotencyKey tables idempotencyKey with
  | none =>
      rfl
  | some history =>
      simp [found] at resolved

/-! ## Transactions -/

theorem noRefundEntry_singleton {log : AuditLog}
    (other : log.action ≠ .paymentRefunded) : NoRefundEntry [log] := by
  intro entry member
  rw [List.mem_singleton.mp member]
  exact other

theorem openBooking_of_found {bookingId : Uuid} {booking : Booking}
    (found : findBy Booking.id bookingId tables.bookings = some booking)
    (isOpen : some (selectFinancials booking).status ≠ some .cancelled) :
    OpenBooking tables bookingId := by
  rw [OpenBooking, findBookingStatus, found]
  exact isOpen

theorem setBookingFinancialsTransaction_ok
    {input : SetBookingFinancialsInput} {financials : BookingFinancials}
    (succeeds :
      setBookingFinancialsTransaction actor input tables =
        .ok (financials, after)) :
    after = tables ∨
      OpenBooking tables input.bookingId ∧
      hasFinancialLock tables input.bookingId = false ∧
      ∃ logs,
        NoRefundEntry logs ∧
        after =
          audited
            (repriced tables input.bookingId input.totalAmount
              input.currencyCode)
            logs := by
  simp only [setBookingFinancialsTransaction, bind_eq_ok, demand_eq_ok,
    findBookingFinancialsForActor_eq_some, assertBookingOpenForPayment,
    assertAmountPrecision, require_eq_ok] at succeeds
  obtain
    ⟨before, ⟨booking, foundBooking, -, rfl⟩, -, isOpen, -, -, -, unlocked,
      rest⟩ := succeeds
  split at rest
  · simp only [Except.ok.injEq, Prod.mk.injEq] at rest
    exact Or.inl rest.2.symm
  · simp only [bind_eq_ok, require_eq_ok, updateBookingFinancials,
      foundBooking, Except.ok.injEq] at rest
    obtain ⟨-, -, written, rfl, rest⟩ := rest
    simp only [Prod.mk.injEq] at rest
    right
    refine
      ⟨openBooking_of_found foundBooking isOpen, by simpa using unlocked, _,
        noRefundEntry_singleton ?_, rest.2.symm⟩
    dsimp only
    split <;> simp

theorem proposePaymentPlanTransaction_ok
    {context : RequestContext} {input : ProposePaymentPlanInput}
    {plan : PaymentPlan}
    (succeeds :
      proposePaymentPlanTransaction context actor input tables =
        .ok (plan, after)) :
    ∃ booking rows logs,
      OpenBooking tables rows.bookingId ∧
        ProposalPermitted tables booking rows ∧
        NoRefundEntry logs ∧
        after = audited (proposed tables rows) logs := by
  simp only [proposePaymentPlanTransaction, bind_eq_ok, demand_eq_ok,
    findBookingFinancialsForActor_eq_some, assertBookingOpenForPayment,
    require_eq_ok] at succeeds
  obtain
    ⟨financials, ⟨booking, foundBooking, -, rfl⟩, -, isOpen, -, priced, -, -,
      -, -, ⟨created, written⟩, creates, rest⟩ := succeeds
  simp only [Except.ok.injEq, Prod.mk.injEq] at rest
  obtain ⟨-, rfl⟩ := rest
  obtain ⟨freshId, noActivePlan, distinct, -, -, -, rfl⟩ :=
    createPaymentPlanWithInstallments_eq_ok.mp creates
  exact
    ⟨booking, _, _, openBooking_of_found foundBooking isOpen,
      ⟨foundBooking, priced.1, freshId, noActivePlan, distinct⟩,
      noRefundEntry_singleton (by simp), rfl⟩

theorem approvePaymentPlanTransaction_ok
    {context : RequestContext} {input : ApprovePaymentPlanInput}
    {result : PaymentPlan}
    (succeeds :
      approvePaymentPlanTransaction context actor input tables =
        .ok (result, after)) :
    after = tables ∨
      ∃ plan booking totalAmount,
        OpenBooking tables plan.bookingId ∧
          ApprovalPermitted tables plan booking totalAmount ∧
          ∃ (row : ApprovePaymentPlanRowInput) (logs : List AuditLog),
            NoRefundEntry logs ∧
              after = audited (replanned tables plan.id row.change) logs := by
  simp only [approvePaymentPlanTransaction, bind_eq_ok,
    demand_eq_ok] at succeeds
  obtain ⟨⟨plan, financials⟩, lookup, rest⟩ := succeeds
  obtain ⟨foundPlan, -, booking, foundBooking, rfl⟩ :=
    findPaymentPlanWithBookingForActor_eq_some.mp lookup
  dsimp only at rest
  split at rest
  · simp only [Except.ok.injEq, Prod.mk.injEq] at rest
    exact Or.inl rest.2.symm
  · simp only [bind_eq_ok, demand_eq_ok, assertBookingOpenForPayment,
      require_eq_ok] at rest
    obtain
      ⟨-, isOpen, -, isProposed, totalAmount, priced, -, reconciled, updated,
        outcome, rest⟩ := rest
    simp only [Except.ok.injEq, Prod.mk.injEq] at rest
    obtain ⟨-, rfl⟩ := rest
    have written := updateProposedPlan_written outcome
    rw [← key_of_findBy foundPlan] at foundPlan
    right
    refine
      ⟨plan, booking, totalAmount, openBooking_of_found foundBooking isOpen,
        ⟨foundPlan, isProposed, foundBooking, priced, reconciled⟩,
        ⟨plan.id, actor.id, context.now⟩, ?_⟩
    rw [approvePaymentPlanRow, written]
    exact ⟨_, noRefundEntry_singleton (by simp), rfl⟩

theorem withdrawPaymentPlanTransaction_ok
    {context : RequestContext} {input : WithdrawPaymentPlanInput}
    {result : PaymentPlan}
    (succeeds :
      withdrawPaymentPlanTransaction context actor input tables =
        .ok (result, after)) :
    after = tables ∨
      ∃ plan,
        findBy PaymentPlan.id plan.id tables.paymentPlans = some plan ∧
          plan.status = .proposed ∧
          ∃ (row : WithdrawPaymentPlanRowInput) (logs : List AuditLog),
            NoRefundEntry logs ∧
              after = audited (replanned tables plan.id row.change) logs := by
  simp only [withdrawPaymentPlanTransaction, bind_eq_ok,
    demand_eq_ok] at succeeds
  obtain ⟨⟨plan, financials⟩, lookup, rest⟩ := succeeds
  obtain ⟨foundPlan, -, -⟩ :=
    findPaymentPlanWithBookingForActor_eq_some.mp lookup
  dsimp only at rest
  split at rest
  · simp only [Except.ok.injEq, Prod.mk.injEq] at rest
    exact Or.inl rest.2.symm
  · simp only [bind_eq_ok, demand_eq_ok, require_eq_ok] at rest
    obtain ⟨-, isProposed, -, -, withdrawn, outcome, rest⟩ := rest
    simp only [Except.ok.injEq, Prod.mk.injEq] at rest
    obtain ⟨-, rfl⟩ := rest
    have written := updateProposedPlan_written outcome
    rw [← key_of_findBy foundPlan] at foundPlan
    right
    refine
      ⟨plan, foundPlan, isProposed,
        ⟨plan.id, actor.id, context.now, input.reason⟩, ?_⟩
    rw [withdrawPaymentPlanRow, written]
    exact ⟨_, noRefundEntry_singleton (by simp), rfl⟩

/-- A transaction that asks for a replay first returns the answer it finds, or
goes on with none. -/
theorem replay_cases {α : Type} {resolved : Except TxError (Option α)}
    {next : Option α → Except TxError (α × Tables)} {value : α}
    (answers : ∀ replay, next (some replay) = .ok (replay, tables))
    (succeeds : (resolved >>= next) = .ok (value, after)) :
    resolved = .ok (some value) ∧ after = tables ∨
      resolved = .ok none ∧ next none = .ok (value, after) := by
  rw [bind_eq_ok] at succeeds
  obtain ⟨replay, found, rest⟩ := succeeds
  cases replay with
  | some answer =>
      rw [answers answer] at rest
      obtain ⟨rfl, rfl⟩ := Prod.mk.inj (Except.ok.inj rest)
      exact Or.inl ⟨found, rfl⟩
  | none =>
      exact Or.inr ⟨found, rest⟩

/-- A recording that is no replay wrote the payment, its first history row and
one audit entry. -/
theorem recordPaymentTransaction_written
    {context : RequestContext} {input : RecordPaymentInput}
    {record : PaymentRecord}
    (succeeds :
      recordPaymentTransaction context actor input tables =
        .ok (record, after)) :
    resolveRecordReplay actor input tables = .ok (some record) ∧
        after = tables ∨
      ∃ booking row,
        OpenBooking tables row.bookingId ∧
          RecordPermitted tables booking row ∧
          row.id = context.randomUuid 0 ∧
          row.bookingId = input.bookingId ∧
          row.amount = input.amount ∧
          row.idempotencyKey = input.idempotencyKey ∧
          findStatusHistoryByIdempotencyKey tables input.idempotencyKey =
            none ∧
          record = selectPayment row.row ∧
          after =
            audited (recorded tables row)
              [paymentRecordedLog actor.id row.id row.bookingId
                row.amount] := by
  unfold recordPaymentTransaction at succeeds
  rw [bind_eq_ok] at succeeds
  obtain ⟨financials, lookup, succeeds⟩ := succeeds
  obtain ⟨booking, foundBooking, -, rfl⟩ :=
    findBookingFinancialsForActor_eq_some.mp (demand_eq_ok.mp lookup)
  rcases replay_cases (fun _ => rfl) succeeds with replayed | ⟨resolved, rest⟩
  · exact Or.inl replayed
  · simp only [bind_eq_ok, demand_eq_ok, assertBookingOpenForPayment,
      assertAmountPrecision, require_eq_ok] at rest
    obtain ⟨-, isOpen, currencyCode, priced, -, -, ⟨created, written⟩,
      creates, rest⟩ := rest
    simp only [Except.ok.injEq, Prod.mk.injEq] at rest
    obtain ⟨rfl, rfl⟩ := rest
    have stored : booking.currencyCode = some currencyCode := priced
    obtain ⟨freshId, freshKey, rfl, rfl⟩ :=
      createPendingPayment_eq_ok.mp creates
    right
    exact
      ⟨booking, _, openBooking_of_found foundBooking isOpen,
        ⟨foundBooking, by simp [stored], freshId⟩, rfl, rfl, rfl, rfl,
        freshKey, rfl, rfl⟩

theorem recordPaymentTransaction_ok
    {context : RequestContext} {input : RecordPaymentInput}
    {record : PaymentRecord}
    (succeeds :
      recordPaymentTransaction context actor input tables =
        .ok (record, after)) :
    resolveRecordReplay actor input tables = .ok (some record) ∧
        after = tables ∨
      ∃ booking row logs,
        RecordPermitted tables booking row ∧
          row.bookingId = input.bookingId ∧
          row.amount = input.amount ∧
          row.idempotencyKey = input.idempotencyKey ∧
          findStatusHistoryByIdempotencyKey tables input.idempotencyKey =
            none ∧
          record = selectPayment row.row ∧
          after = audited (recorded tables row) logs := by
  rcases recordPaymentTransaction_written succeeds with
    replayed |
      ⟨booking, row, -, permitted, -, ownBooking, ownAmount, ownKey,
        freshKey, answered, written⟩
  · exact Or.inl replayed
  · right
    exact
      ⟨booking, row, _, permitted, ownBooking, ownAmount, ownKey, freshKey,
        answered, written⟩

/-- The audit entries before and after a transition are appended in order. -/
theorem audited_transitioned_audited
    {paymentId : Uuid} {newStatus : PaymentStatus}
    {entry : PaymentStatusHistory} (first second : List AuditLog) :
    audited (transitioned (audited tables first) paymentId newStatus entry)
        second =
      audited (transitioned tables paymentId newStatus entry)
        (first ++ second) := by
  simp only [audited, transitioned, List.append_assoc]

theorem changePaymentStatus_written
    {payment : Payment} {newStatus : PaymentStatus}
    {reason idempotencyKey : String} {record : PaymentRecord}
    (succeeds :
      changePaymentStatus actor (selectPayment payment) newStatus reason
          idempotencyKey tables =
        .ok (record, after))
    (foundPayment :
      findBy Payment.id payment.id tables.payments = some payment) :
    record = selectPayment (withStatus newStatus payment) ∧
      after =
        audited
          (transitioned tables payment.id newStatus
            (transitionRow actor.id payment newStatus reason idempotencyKey))
          [statusChangedLog actor.id payment newStatus reason] := by
  simp only [changePaymentStatus, bind_eq_ok] at succeeds
  obtain ⟨⟨updated, written⟩, transitions, rest⟩ := succeeds
  simp only [Except.ok.injEq, Prod.mk.injEq] at rest
  obtain ⟨rfl, rfl⟩ := rest
  obtain ⟨other, foundOther, -, rfl, rfl⟩ :=
    (transitionPaymentStatus_eq_ok rfl).mp transitions
  have same : some other = some payment :=
    foundOther.symm.trans foundPayment
  cases same
  exact ⟨rfl, rfl⟩

theorem confirmPaymentTransaction_written
    {input : ConfirmPaymentInput} {record : PaymentRecord}
    (succeeds :
      confirmPaymentTransaction actor input tables = .ok (record, after)) :
    resolveStatusTransitionReplay actor input.paymentId
          input.idempotencyKey .confirmed tables =
        .ok (some record) ∧
        after = tables ∨
      ∃ payment,
        OpenBooking tables payment.bookingId ∧
          payment.id = input.paymentId ∧
          findBy Payment.id payment.id tables.payments = some payment ∧
          payment.status = .pending ∧
          findStatusHistoryByIdempotencyKey tables input.idempotencyKey =
            none ∧
          record = selectPayment (withStatus .confirmed payment) ∧
          after =
            audited
              (transitioned tables payment.id .confirmed
                (transitionRow actor.id payment .confirmed input.reason
                  input.idempotencyKey))
              [statusChangedLog actor.id payment .confirmed
                input.reason] := by
  unfold confirmPaymentTransaction at succeeds
  rcases replay_cases (fun _ => rfl) succeeds with replayed | ⟨resolved, rest⟩
  · exact Or.inl replayed
  · simp only [bind_eq_ok, findScopedPaymentOrForbidden_eq_ok,
      assertBookingOpenForPayment, require_eq_ok] at rest
    obtain ⟨found, ⟨payment, foundPayment, -, rfl⟩, -, isOpen, -, pending,
      changes⟩ := rest
    have sameId : payment.id = input.paymentId := key_of_findBy foundPayment
    rw [← sameId] at foundPayment
    obtain ⟨answered, written⟩ :=
      changePaymentStatus_written changes foundPayment
    right
    exact
      ⟨payment, isOpen, sameId, foundPayment, pending,
        freshKey_of_statusTransition resolved, answered, written⟩

theorem confirmPaymentTransaction_ok
    {input : ConfirmPaymentInput} {record : PaymentRecord}
    (succeeds :
      confirmPaymentTransaction actor input tables = .ok (record, after)) :
    resolveStatusTransitionReplay actor input.paymentId
          input.idempotencyKey .confirmed tables =
        .ok (some record) ∧
        after = tables ∨
      ∃ payment entry logs,
        payment.id = input.paymentId ∧
          findBy Payment.id payment.id tables.payments = some payment ∧
          payment.status = .pending ∧
          findStatusHistoryByIdempotencyKey tables input.idempotencyKey =
            none ∧
          record = selectPayment (withStatus .confirmed payment) ∧
          entry.paymentId = payment.id ∧
          entry.newStatus = .confirmed ∧
          entry.idempotencyKey = some input.idempotencyKey ∧
          after =
            audited (transitioned tables payment.id .confirmed entry)
              logs := by
  rcases confirmPaymentTransaction_written succeeds with
    replayed |
      ⟨payment, -, sameId, foundPayment, pending, freshKey, answered, written⟩
  · exact Or.inl replayed
  · right
    exact
      ⟨payment, _, _, sameId, foundPayment, pending, freshKey, answered, rfl,
        rfl, rfl, written⟩

theorem reversePaymentTransaction_written
    {input : ReversePaymentInput} {record : PaymentRecord}
    (succeeds :
      reversePaymentTransaction actor input tables = .ok (record, after)) :
    resolveStatusTransitionReplay actor input.paymentId
          input.idempotencyKey .reversed tables =
        .ok (some record) ∧
        after = tables ∨
      ∃ payment,
        payment.id = input.paymentId ∧
          findBy Payment.id payment.id tables.payments = some payment ∧
          payment.status = .confirmed ∧
          sumRefundsForPayment tables payment.id ≤ 0 ∧
          findStatusHistoryByIdempotencyKey tables input.idempotencyKey =
            none ∧
          record = selectPayment (withStatus .reversed payment) ∧
          after =
            audited
              (transitioned tables payment.id .reversed
                (transitionRow actor.id payment .reversed input.reason
                  input.idempotencyKey))
              [statusChangedLog actor.id payment .reversed
                input.reason] := by
  unfold reversePaymentTransaction at succeeds
  rcases replay_cases (fun _ => rfl) succeeds with replayed | ⟨resolved, rest⟩
  · exact Or.inl replayed
  · simp only [bind_eq_ok, findScopedPaymentOrForbidden_eq_ok,
      require_eq_ok, not_lt] at rest
    obtain ⟨found, ⟨payment, foundPayment, -, rfl⟩, -, confirmed, -,
      unrefunded, changes⟩ := rest
    have sameId : payment.id = input.paymentId := key_of_findBy foundPayment
    rw [← sameId] at foundPayment
    obtain ⟨answered, written⟩ :=
      changePaymentStatus_written changes foundPayment
    right
    exact
      ⟨payment, sameId, foundPayment, confirmed, unrefunded,
        freshKey_of_statusTransition resolved, answered, written⟩

theorem reversePaymentTransaction_ok
    {input : ReversePaymentInput} {record : PaymentRecord}
    (succeeds :
      reversePaymentTransaction actor input tables = .ok (record, after)) :
    resolveStatusTransitionReplay actor input.paymentId
          input.idempotencyKey .reversed tables =
        .ok (some record) ∧
        after = tables ∨
      ∃ payment entry logs,
        payment.id = input.paymentId ∧
          findBy Payment.id payment.id tables.payments = some payment ∧
          payment.status = .confirmed ∧
          sumRefundsForPayment tables payment.id ≤ 0 ∧
          findStatusHistoryByIdempotencyKey tables input.idempotencyKey =
            none ∧
          record = selectPayment (withStatus .reversed payment) ∧
          entry.paymentId = payment.id ∧
          entry.newStatus = .reversed ∧
          entry.idempotencyKey = some input.idempotencyKey ∧
          after =
            audited (transitioned tables payment.id .reversed entry)
              logs := by
  rcases reversePaymentTransaction_written succeeds with
    replayed |
      ⟨payment, sameId, foundPayment, confirmed, unrefunded, freshKey,
        answered, written⟩
  · exact Or.inl replayed
  · right
    exact
      ⟨payment, _, _, sameId, foundPayment, confirmed, unrefunded, freshKey,
        answered, rfl, rfl, rfl, written⟩

theorem assertRefundableAllocation_eq_ok
    {paymentId : Uuid} {amount : MoneyAmount} {sought : Option Uuid}
    {value : Unit} :
    assertRefundableAllocation tables paymentId amount sought = .ok value ↔
      ∀ allocationId, sought = some allocationId →
        ∃ allocation,
          findBy PaymentAllocation.id allocationId tables.allocations =
              some allocation ∧
            allocation.paymentId = paymentId ∧
            isReversed tables allocationId = false ∧
            linkedTotal tables allocationId + amount.value ≤
              allocation.amount.value := by
  cases sought with
  | none =>
      simp [assertRefundableAllocation]
  | some allocationId =>
      simp only [assertRefundableAllocation, bind_eq_ok, demand_eq_ok,
        require_eq_ok, findAllocationForRefund, Option.map_eq_some_iff,
        exists_const, refundAllocatedTotal_eq, Option.some.injEq,
        forall_eq', not_lt, gt_iff_lt, Bool.not_eq_true]
      constructor
      · rintro ⟨_, ⟨allocation, found, rfl⟩, ⟨ownPayment, notReversed⟩,
          within⟩
        have sameId : allocation.id = allocationId := key_of_findBy found
        rw [sameId] at notReversed within
        exact ⟨allocation, found, ownPayment, notReversed, within⟩
      · rintro ⟨allocation, found, ownPayment, notReversed, within⟩
        have sameId : allocation.id = allocationId := key_of_findBy found
        rw [← sameId] at notReversed within
        exact
          ⟨_, ⟨allocation, found, rfl⟩, ⟨ownPayment, notReversed⟩, within⟩

/-- A refund that is no replay wrote the refund and its audit entry, and when it
completes the payment also the transition and the transition's entry. -/
theorem refundPaymentTransaction_written
    {context : RequestContext} {input : RefundPaymentInput}
    {result : RefundPaymentResult}
    (succeeds :
      refundPaymentTransaction context actor input tables =
        .ok (result, after)) :
    resolveRefundReplay actor input tables = .ok (some result) ∧
        after = tables ∨
      ∃ payment row,
        payment.id = input.paymentId ∧
          RefundPermitted tables payment row ∧
          row.amount = input.amount ∧
          row.idempotencyKey = input.idempotencyKey ∧
          row.allocationId = input.allocationId ∧
          findRefundByIdempotencyKey tables input.idempotencyKey = none ∧
          result.refund = selectRefund row.row ∧
          (sumRefundsForPayment tables payment.id + row.amount.value ≠
                payment.amount.value ∧
              result.payment = selectPayment payment ∧
              after =
                audited (refunded tables row)
                  [paymentRefundedLog tables actor.id payment row.amount
                    input.reason input.allocationId] ∨
            sumRefundsForPayment tables payment.id + row.amount.value =
                payment.amount.value ∧
              result.payment =
                selectPayment (withStatus .refunded payment) ∧
              after =
                audited
                  (transitioned (refunded tables row) payment.id .refunded
                    (transitionRow actor.id payment .refunded input.reason
                      input.idempotencyKey))
                  [paymentRefundedLog tables actor.id payment row.amount
                      input.reason input.allocationId,
                    statusChangedLog actor.id payment .refunded
                      input.reason]) := by
  unfold refundPaymentTransaction at succeeds
  rcases replay_cases (fun _ => rfl) succeeds with replayed | ⟨resolved, rest⟩
  · exact Or.inl replayed
  · simp only [bind_eq_ok, findScopedPaymentOrForbidden_eq_ok,
      require_eq_ok, assertRefundableAllocation_eq_ok,
      sumNetActiveAllocationsForPayment_eq, not_lt, gt_iff_lt] at rest
    obtain ⟨-, -, found, ⟨payment, foundPayment, -, rfl⟩, -, confirmed, -,
      -, -, within, -, linkable, -, covered, ⟨refund, written⟩, creates,
      finishes⟩ := rest
    have sameId : payment.id = input.paymentId := key_of_findBy foundPayment
    rw [← sameId] at foundPayment
    obtain ⟨freshId, freshKey, rfl, rfl⟩ := createRefund_eq_ok.mp creates
    have permitted :
        RefundPermitted tables payment
          { id := context.randomUuid 0
            paymentId := payment.id
            amount := input.amount
            reason := input.reason
            performedByStaffUserId := actor.id
            idempotencyKey := input.idempotencyKey
            allocationId := input.allocationId
            performedAt := context.now } :=
      ⟨foundPayment, rfl, confirmed, freshId, within, linkable, covered⟩
    right
    refine
      ⟨payment, _, sameId, permitted, rfl, rfl, rfl, freshKey, ?_⟩
    split at finishes
    · rename_i completes
      simp only [bind_eq_ok] at finishes
      obtain ⟨⟨transitionedPayment, afterTransition⟩, changes, rest⟩ :=
        finishes
      simp only [Except.ok.injEq, Prod.mk.injEq] at rest
      obtain ⟨rfl, rfl⟩ := rest
      obtain ⟨answered, rfl⟩ :=
        changePaymentStatus_written changes foundPayment
      have completed :
          sumRefundsForPayment tables payment.id + input.amount.value =
            payment.amount.value := completes
      refine ⟨rfl, Or.inr ⟨completed, answered, ?_⟩⟩
      rw [paymentRefundedLog, if_pos completed]
      exact audited_transitioned_audited [_] [_]
    · rename_i remaining
      simp only [Except.ok.injEq, Prod.mk.injEq] at finishes
      obtain ⟨rfl, rfl⟩ := finishes
      refine ⟨rfl, Or.inl ⟨remaining, rfl, ?_⟩⟩
      have remained :
          sumRefundsForPayment tables payment.id + input.amount.value ≠
            payment.amount.value := remaining
      rw [paymentRefundedLog, if_neg remained]
      rfl

theorem refundPaymentTransaction_ok
    {context : RequestContext} {input : RefundPaymentInput}
    {result : RefundPaymentResult}
    (succeeds :
      refundPaymentTransaction context actor input tables =
        .ok (result, after)) :
    resolveRefundReplay actor input tables = .ok (some result) ∧
        after = tables ∨
      ∃ payment row entry logs,
        payment.id = input.paymentId ∧
          RefundPermitted tables payment row ∧
          row.amount = input.amount ∧
          row.idempotencyKey = input.idempotencyKey ∧
          row.allocationId = input.allocationId ∧
          findRefundByIdempotencyKey tables input.idempotencyKey = none ∧
          result.refund = selectRefund row.row ∧
          entry.paymentId = payment.id ∧
          (sumRefundsForPayment tables payment.id + row.amount.value ≠
                payment.amount.value ∧
              result.payment = selectPayment payment ∧
              after = audited (refunded tables row) logs ∨
            sumRefundsForPayment tables payment.id + row.amount.value =
                payment.amount.value ∧
              result.payment =
                selectPayment (withStatus .refunded payment) ∧
              after =
                audited
                  (transitioned (refunded tables row) payment.id .refunded
                    entry)
                  logs) := by
  rcases refundPaymentTransaction_written succeeds with
    replayed |
      ⟨payment, row, sameId, permitted, ownAmount, ownKey, ownAllocation,
        freshKey, answered, remaining | completes⟩
  · exact Or.inl replayed
  · right
    exact
      ⟨payment, row,
        transitionRow actor.id payment .refunded input.reason
          input.idempotencyKey,
        _, sameId, permitted, ownAmount, ownKey, ownAllocation, freshKey,
        answered, rfl, Or.inl remaining⟩
  · right
    exact
      ⟨payment, row, _, _, sameId, permitted, ownAmount, ownKey,
        ownAllocation, freshKey, answered, rfl, Or.inr completes⟩

theorem issueReceiptTransaction_ok
    {context : RequestContext} {input : IssueReceiptInput}
    {result : IssueReceiptResult}
    (succeeds :
      issueReceiptTransaction context actor input tables =
        .ok (result, after)) :
    after = tables ∨
      ∃ payment booking row logs,
        findBy Payment.id row.paymentId tables.payments = some payment ∧
          findBy Booking.id payment.bookingId tables.bookings =
            some booking ∧
          row.amount = payment.amount.value ∧
          booking.currencyCode = some row.currencyCode ∧
          NoRefundEntry logs ∧
          after = audited (receipted tables row) logs := by
  simp only [issueReceiptTransaction, bind_eq_ok,
    findScopedPaymentOrForbidden_eq_ok] at succeeds
  obtain ⟨found, ⟨payment, foundPayment, -, rfl⟩, rest⟩ := succeeds
  cases earlier : findReceiptByPaymentId tables (selectPayment payment).id with
  | some existing =>
      simp only [earlier, Except.ok.injEq, Prod.mk.injEq] at rest
      exact Or.inl rest.2.symm
  | none =>
      simp only [earlier, bind_eq_ok, require_eq_ok, demand_eq_ok,
        findBookingCurrencyCode, Option.filter_eq_some_iff,
        Option.bind_eq_some_iff] at rest
      obtain ⟨-, -, currencyCode, ⟨⟨booking, foundBooking, currency⟩, -⟩,
        ⟨created, written⟩, creates, rest⟩ := rest
      simp only [Except.ok.injEq, Prod.mk.injEq] at rest
      obtain ⟨rfl, rfl⟩ := rest
      obtain ⟨-, -, -, -, rfl⟩ := createReceipt_eq_ok.mp creates
      rw [← key_of_findBy foundPayment] at foundPayment
      right
      exact
        ⟨payment, booking, _, _, foundPayment, foundBooking, rfl, currency,
          noRefundEntry_singleton (by simp), rfl⟩

theorem createAllocationTransaction_ok
    {context : RequestContext} {input : CreateAllocationInput}
    {record : AllocationRecord}
    (succeeds :
      createAllocationTransaction context actor input tables =
        .ok (record, after)) :
    resolveAllocationReplay actor input tables = .ok (some record) ∧
        after = tables ∨
      ∃ payment installment plan row logs,
        OpenBooking tables payment.bookingId ∧
          AllocationPermitted tables payment installment plan row ∧
          row.paymentId = input.paymentId ∧
          row.installmentId = input.installmentId ∧
          row.amount = input.amount ∧
          row.idempotencyKey = input.idempotencyKey ∧
          findAllocationByIdempotencyKey tables input.idempotencyKey =
            none ∧
          record = selectAllocation row ∧
          NoRefundEntry logs ∧
          after = audited (allocated tables row) logs := by
  unfold createAllocationTransaction at succeeds
  rcases replay_cases (fun _ => rfl) succeeds with replayed | ⟨resolved, rest⟩
  · exact Or.inl replayed
  · simp only [bind_eq_ok, findScopedPaymentOrForbidden_eq_ok,
      assertBookingOpenForPayment, require_eq_ok, demand_eq_ok,
      findInstallmentForAllocation_eq_some,
      requireStoredRefundsWithinAmount,
      sumNetActiveAllocationsForPayment_eq,
      sumNetActiveAllocationsForInstallment_eq, not_lt,
      gt_iff_lt] at rest
    obtain ⟨found, ⟨payment, foundPayment, -, rfl⟩, -, isOpen, -, -, -,
      ⟨installment, plan, foundInstallment, foundPlan, rfl⟩, -,
      sameBooking, -, approved, -, refundsWithin, -, withinPayment, -,
      withinInstallment, ⟨created, written⟩, creates, rest⟩ := rest
    simp only [Except.ok.injEq, Prod.mk.injEq] at rest
    obtain ⟨rfl, rfl⟩ := rest
    obtain ⟨freshId, freshKey, rfl, rfl⟩ := createAllocation_eq_ok.mp creates
    have samePayment : payment.id = input.paymentId :=
      key_of_findBy foundPayment
    have sameInstallment : installment.id = input.installmentId :=
      key_of_findBy foundInstallment
    simp only [selectPayment, samePayment] at refundsWithin withinPayment
    simp only [sameInstallment] at withinInstallment
    right
    exact
      ⟨payment, installment, plan, _, _, isOpen,
        ⟨foundPayment, foundInstallment, foundPlan, sameBooking, approved,
          freshId, refundsWithin, withinPayment, withinInstallment⟩,
        rfl, rfl, rfl, rfl, freshKey, rfl,
        noRefundEntry_singleton (by simp), rfl⟩

theorem reverseAllocationTransaction_ok
    {context : RequestContext} {input : ReverseAllocationInput}
    {record : AllocationReversalRecord}
    (succeeds :
      reverseAllocationTransaction context actor input tables =
        .ok (record, after)) :
    resolveAllocationReversalReplay actor input tables =
          .ok (some record) ∧
        after = tables ∨
      ∃ allocation payment row logs,
        findBy PaymentAllocation.id row.paymentAllocationId
            tables.allocations = some allocation ∧
          findBy Payment.id allocation.paymentId tables.payments =
            some payment ∧
          isReversed tables row.paymentAllocationId = false ∧
          (∀ link ∈ tables.refundAllocations,
            link.paymentAllocationId ≠ row.paymentAllocationId) ∧
          row.paymentAllocationId = input.allocationId ∧
          row.idempotencyKey = input.idempotencyKey ∧
          findAllocationReversalByIdempotencyKey tables
            input.idempotencyKey = none ∧
          record = selectReversal row ∧
          NoRefundEntry logs ∧
          after = audited (unallocated tables row) logs := by
  unfold reverseAllocationTransaction at succeeds
  rcases replay_cases (fun _ => rfl) succeeds with replayed | ⟨resolved, rest⟩
  · exact Or.inl replayed
  · simp only [bind_eq_ok, findScopedPaymentOrForbidden_eq_ok,
      require_eq_ok, demand_eq_ok,
      findAllocationForReversal_eq_some] at rest
    obtain ⟨found, ⟨allocation, foundAllocation, rfl⟩, scopedPayment,
      ⟨payment, foundPayment, -, rfl⟩, -, -, -, notLinked,
      ⟨created, written⟩, creates, rest⟩ := rest
    simp only [Except.ok.injEq, Prod.mk.injEq] at rest
    obtain ⟨rfl, rfl⟩ := rest
    obtain ⟨-, notReversed, freshKey, rfl, rfl⟩ :=
      createAllocationReversal_eq_ok.mp creates
    have sameId : allocation.id = input.allocationId :=
      key_of_findBy foundAllocation
    rw [← sameId] at foundAllocation
    have noLinks :
        ∀ link ∈ tables.refundAllocations,
          link.paymentAllocationId ≠ allocation.id := by
      simpa [refundAllocationsOf] using notLinked
    right
    exact
      ⟨allocation, payment, _, _, foundAllocation, foundPayment,
        notReversed, noLinks, sameId, rfl, freshKey, rfl,
        noRefundEntry_singleton (by simp), rfl⟩

end Heritage.Payments
