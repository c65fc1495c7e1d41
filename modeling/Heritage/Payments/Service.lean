import Heritage.Payments.Repository

/-!
# Payment operations

`service.ts`.  Every operation asserts the actor's role, runs one serialised
transaction, and answers a failed transaction from its `catch` block, which
reads but never writes.
-/

namespace Heritage.Payments

open Heritage.Store
open Repository

/-- `reason` is trimmed and not empty when present. -/
structure SetBookingFinancialsInput where
  bookingId : Uuid
  totalAmount : MoneyAmount
  currencyCode : String
  reason : Option String
  deriving DecidableEq

structure ProposedInstallment where
  sequenceNumber : Nat
  isDeposit : Bool
  amount : MoneyAmount
  dueDate : Timestamp
  deriving DecidableEq

structure ProposePaymentPlanInput where
  bookingId : Uuid
  installments : List ProposedInstallment
  deriving DecidableEq

structure ApprovePaymentPlanInput where
  paymentPlanId : Uuid
  deriving DecidableEq

structure WithdrawPaymentPlanInput where
  paymentPlanId : Uuid
  reason : String
  deriving DecidableEq

structure RecordPaymentInput where
  bookingId : Uuid
  amount : MoneyAmount
  idempotencyKey : String
  deriving DecidableEq

structure ConfirmPaymentInput where
  paymentId : Uuid
  reason : String
  idempotencyKey : String
  deriving DecidableEq

structure ReversePaymentInput where
  paymentId : Uuid
  reason : String
  idempotencyKey : String
  deriving DecidableEq

structure RefundPaymentInput where
  paymentId : Uuid
  amount : MoneyAmount
  reason : String
  idempotencyKey : String
  allocationId : Option Uuid
  deriving DecidableEq

structure IssueReceiptInput where
  paymentId : Uuid
  deriving DecidableEq

structure CreateAllocationInput where
  paymentId : Uuid
  installmentId : Uuid
  amount : MoneyAmount
  idempotencyKey : String
  deriving DecidableEq

structure ReverseAllocationInput where
  allocationId : Uuid
  reason : String
  idempotencyKey : String
  deriving DecidableEq

def assertProposerActor (actor : AuthenticatedUser) :
    Except TxError PaymentActor :=
  match actor.role with
  | .travelConsultant => .ok ⟨actor.id, .travelConsultant⟩
  | _ =>
      .error <|
        paymentError .roleNotPermitted
          "Only a Travel Consultant may propose a payment plan."

/-- What a caller without the Finance role is told. -/
def financeRoleRequired : TxError :=
  paymentError .roleNotPermitted
    "Only Finance/Accounting may perform this payment operation."

def assertFinanceActor (actor : AuthenticatedUser) :
    Except TxError PaymentActor :=
  match actor.role with
  | .financeAccounting => .ok ⟨actor.id, .financeAccounting⟩
  | _ => .error financeRoleRequired

def assertWithdrawerActor (actor : AuthenticatedUser) :
    Except TxError PaymentActor :=
  match actor.role with
  | .travelConsultant => .ok ⟨actor.id, .travelConsultant⟩
  | .financeAccounting => .ok ⟨actor.id, .financeAccounting⟩
  | _ =>
      .error <|
        paymentError .roleNotPermitted
          ("Only the assigned Travel Consultant or Finance/Accounting user " ++
            "may withdraw a payment plan.")

def assertStaffReadActor (actor : AuthenticatedUser) :
    Except TxError PaymentActor :=
  match actor.role with
  | .adminManager => .ok ⟨actor.id, .adminManager⟩
  | .travelConsultant => .ok ⟨actor.id, .travelConsultant⟩
  | .financeAccounting => .ok ⟨actor.id, .financeAccounting⟩
  | _ =>
      .error <|
        paymentError .roleNotPermitted
          "This role is not permitted to view payment records."

/-- What an operation does to the tables, and what its caller gets. -/
abbrev Effect (α : Type) := Tables → Except TxError α × Tables

/-- Run `operation` as the actor the role assertion admits. -/
def withActor {α : Type} (checked : Except TxError PaymentActor)
    (operation : PaymentActor → Effect α) : Effect α :=
  fun tables =>
    match checked with
    | .error failure => (.error failure, tables)
    | .ok actor => operation actor tables

/-- The `catch` block: a domain error is thrown again, a replay may answer a
lost race, and any other unique violation becomes `conflict`. -/
def rescue {α : Type}
    (replay : TxError → Tables → Except TxError (Option α))
    (conflict failure : TxError) (tables : Tables) : Except TxError α :=
  match failure with
  | .payment error => .error (.payment error)
  | _ => do
      match ← replay failure tables with
      | some answer => .ok answer
      | none =>
          if isOtherKnownConflict failure then .error conflict
          else .error failure

/-- A transaction with its `catch` block. -/
def serve {α : Type} (body : Tables → Except TxError (α × Tables))
    (replay : TxError → Tables → Except TxError (Option α))
    (conflict : TxError) : Effect α :=
  fun tables =>
    match transact body tables with
    | (.ok value, committed) => (.ok value, committed)
    | (.error failure, stored) =>
        (rescue replay conflict failure stored, stored)

/-- No lost race is answered by a replay. -/
def noReplay {α : Type} (_ : TxError) (_ : Tables) :
    Except TxError (Option α) :=
  .ok none

/-- A violation that `matched` recognises is answered by `resolve`. -/
def replayOn {α : Type} (matched : TxError → Bool)
    (resolve : Tables → Except TxError (Option α))
    (failure : TxError) (tables : Tables) : Except TxError (Option α) :=
  if matched failure then resolve tables else .ok none

def assertBookingOpenForPayment (status : Option BookingStatus) :
    Except TxError Unit :=
  require (status ≠ some .cancelled)
    (paymentError .bookingStatusNotPermitted "This booking is cancelled.")

def assertAmountPrecision (amount : MoneyAmount) (currencyCode : String) :
    Except TxError Unit :=
  require (hasSupportedCurrencyPrecision amount currencyCode)
    (paymentError .paymentConflict
      "The amount or currency precision is not supported.")

def assertBookingAmountPrecision (tables : Tables) (bookingId : Uuid)
    (amount : MoneyAmount) : Except TxError Unit := do
  let currencyCode ←
    demand (findBookingCurrencyCode tables bookingId)
      (paymentError .bookingCurrencyNotSet
        "This booking's currency is not set yet.")
  assertAmountPrecision amount currencyCode

def bookingForbidden : TxError :=
  paymentError .bookingForbidden "Booking not found or not accessible."

def paymentPlanForbidden : TxError :=
  paymentError .paymentPlanForbidden
    "Payment plan not found or not accessible."

def paymentForbidden : TxError :=
  paymentError .paymentForbidden "Payment not found or not accessible."

def setBookingFinancialsTransaction (actor : PaymentActor)
    (input : SetBookingFinancialsInput) (tables : Tables) :
    Except TxError (BookingFinancials × Tables) := do
  let before ←
    demand (findBookingFinancialsForActor tables actor input.bookingId)
      bookingForbidden
  assertBookingOpenForPayment (some before.status)
  assertAmountPrecision input.totalAmount input.currencyCode
  require (¬ hasFinancialLock tables input.bookingId)
    (paymentError .bookingFinancialsLocked
      "The booking financials are locked.")
  if before.currencyCode = some input.currencyCode ∧
      before.totalAmount = some input.totalAmount then
    .ok (before, tables)
  else
    require (before.totalAmount = none ∨ input.reason.getD "" ≠ "")
      (paymentError .paymentConflict
        "A reason is required to change booking financials.")
    let (updated, written) ←
      updateBookingFinancials tables input.bookingId input.totalAmount
        input.currencyCode
    .ok
      (updated,
        insertAuditLog written
          { actorId := actor.id
            action :=
              if before.totalAmount = none then .bookingFinancialsSet
              else .bookingFinancialsChanged
            entityType := .booking
            entityId := input.bookingId
            beforeState :=
              some <|
                .bookingFinancials
                  (before.totalAmount.map fun amount => toFixed2 amount.value)
                  before.currencyCode
            afterState :=
              some <|
                .bookingFinancialsSet
                  (updated.totalAmount.map fun amount =>
                    toFixed2 amount.value)
                  updated.currencyCode currencyListVersion
                  (if before.totalAmount = none then none
                    else input.reason) })

def setBookingFinancials (actor : AuthenticatedUser)
    (input : SetBookingFinancialsInput) : Effect BookingFinancials :=
  withActor (assertFinanceActor actor) fun paymentActor =>
    serve (setBookingFinancialsTransaction paymentActor input) noReplay
      (paymentError .paymentConflict
        "Booking financials could not be updated. Please try again.")

def idempotencyKeyConflict : TxError :=
  paymentError .idempotencyKeyConflict
    "This idempotency key has already been used for a different request."

def findScopedPaymentOrForbidden (tables : Tables) (actor : PaymentActor)
    (paymentId : Uuid) : Except TxError PaymentRecord :=
  demand (findPaymentForActor tables actor paymentId) paymentForbidden

def resolveRecordReplay (actor : PaymentActor) (input : RecordPaymentInput)
    (tables : Tables) : Except TxError (Option PaymentRecord) :=
  match findStatusHistoryByIdempotencyKey tables input.idempotencyKey with
  | none => .ok none
  | some history => do
      require
        (history.previousStatus = none ∧ history.newStatus = .pending)
        idempotencyKeyConflict
      let payment ←
        demand (findPaymentForActor tables actor history.paymentId)
          idempotencyKeyConflict
      require
        (payment.bookingId = input.bookingId ∧ payment.amount = input.amount)
        idempotencyKeyConflict
      .ok (some payment)

def resolveStatusTransitionReplay (actor : PaymentActor)
    (paymentId : Uuid) (idempotencyKey : String)
    (targetStatus : PaymentStatus) (tables : Tables) :
    Except TxError (Option PaymentRecord) :=
  match findStatusHistoryByIdempotencyKey tables idempotencyKey with
  | none => .ok none
  | some history => do
      require
        (history.paymentId = paymentId ∧ history.newStatus = targetStatus)
        idempotencyKeyConflict
      let payment ←
        findScopedPaymentOrForbidden tables actor history.paymentId
      .ok (some payment)

structure RefundPaymentResult where
  refund : RefundRecord
  payment : PaymentRecord
  deriving DecidableEq

def resolveRefundReplay (actor : PaymentActor) (input : RefundPaymentInput)
    (tables : Tables) : Except TxError (Option RefundPaymentResult) :=
  match findRefundByIdempotencyKey tables input.idempotencyKey with
  | none => .ok none
  | some existing => do
      require
        (existing.paymentId = input.paymentId ∧
          existing.amount = input.amount ∧
          existing.allocationId = input.allocationId)
        idempotencyKeyConflict
      let payment ←
        findScopedPaymentOrForbidden tables actor existing.paymentId
      .ok (some ⟨existing.toRefundRecord, payment⟩)

def resolveAllocationReplay (actor : PaymentActor)
    (input : CreateAllocationInput) (tables : Tables) :
    Except TxError (Option AllocationRecord) :=
  match findAllocationByIdempotencyKey tables input.idempotencyKey with
  | none => .ok none
  | some existing => do
      require
        (existing.paymentId = input.paymentId ∧
          existing.installmentId = input.installmentId ∧
          existing.amount = input.amount)
        idempotencyKeyConflict
      let _ ← findScopedPaymentOrForbidden tables actor existing.paymentId
      .ok (some existing)

def resolveAllocationReversalReplay (actor : PaymentActor)
    (input : ReverseAllocationInput) (tables : Tables) :
    Except TxError (Option AllocationReversalRecord) :=
  match
    findAllocationReversalByIdempotencyKey tables input.idempotencyKey with
  | none => .ok none
  | some existing => do
      require (existing.paymentAllocationId = input.allocationId)
        idempotencyKeyConflict
      let allocation ←
        demand
          (findAllocationForReversal tables existing.paymentAllocationId)
          paymentForbidden
      let _ ← findScopedPaymentOrForbidden tables actor allocation.paymentId
      .ok (some existing)

/-- The message of the violation, or `none` when the structure is valid. -/
def installmentStructureViolation (installments : List ProposedInstallment) :
    Option String :=
  let sequenceNumbers :=
    (installments.map ProposedInstallment.sequenceNumber).dedup
  let deposits := installments.filter ProposedInstallment.isDeposit
  if sequenceNumbers.length ≠ installments.length then
    some "Each installment must have a distinct sequence number."
  else if 1 < deposits.length then
    some "A payment plan may have at most one deposit installment."
  else if deposits.head?.any fun deposit => deposit.sequenceNumber ≠ 1 then
    some <|
      "A deposit installment must be the first installment " ++
        "(sequence number 1)."
  else
    none

def sanitizePaymentPlanSnapshot (plan : PaymentPlan) :
    AuditPaymentPlanSnapshot where
  id := plan.id
  bookingId := plan.bookingId
  clientId := plan.clientId
  approvedByStaffUserId := plan.approvedByStaffUserId
  approvedAt := plan.approvedAt
  status := plan.status.text

def sanitizePaymentPlanWithdrawalBeforeSnapshot (plan : PaymentPlan)
    (installments : List Installment) : AuditSnapshot :=
  .paymentPlanWithdrawalBefore (sanitizePaymentPlanSnapshot plan) <|
    installments.map fun installment =>
      { sequenceNumber := installment.sequenceNumber
        isDeposit := installment.isDeposit
        amount := toFixed2 installment.amount.value
        dueDate := installment.dueDate }

/-- The rows of a proposal.  The plan draws the request's first random id and
the installments the next ones. -/
def proposedPlanInput (context : RequestContext) (actor : PaymentActor)
    (booking : BookingFinancials) (input : ProposePaymentPlanInput) :
    CreatePaymentPlanInput where
  id := context.randomUuid 0
  bookingId := input.bookingId
  clientId := booking.clientId
  proposedByStaffUserId := actor.id
  installments :=
    input.installments.zipIdx.map fun (installment, index) =>
      { id := context.randomUuid (index + 1)
        sequenceNumber := installment.sequenceNumber
        isDeposit := installment.isDeposit
        amount := installment.amount
        dueDate := installment.dueDate }

def proposePaymentPlanTransaction (context : RequestContext)
    (actor : PaymentActor) (input : ProposePaymentPlanInput)
    (tables : Tables) : Except TxError (PaymentPlan × Tables) := do
  let booking ←
    demand (findBookingFinancialsForActor tables actor input.bookingId)
      bookingForbidden
  assertBookingOpenForPayment (some booking.status)
  require (booking.totalAmount.isSome ∧ booking.currencyCode.isSome)
    (paymentError .paymentPlanConflict
      ("This booking has no total amount and currency set yet; a payment " ++
        "plan cannot be proposed until both exist."))
  require
    (∀ installment ∈ input.installments,
      hasSupportedCurrencyPrecision installment.amount
        (booking.currencyCode.getD ""))
    (paymentError .paymentConflict
      "The amount or currency precision is not supported.")
  require
    (findPaymentPlanByBookingIdForActor tables actor input.bookingId).isNone
    (paymentError .paymentPlanConflict
      "An active payment plan already exists for this booking.")
  let (created, written) ←
    createPaymentPlanWithInstallments tables
      (proposedPlanInput context actor booking input)
  .ok
    (created,
      insertAuditLog written
        { actorId := actor.id
          action := .paymentPlanProposed
          entityType := .paymentPlan
          entityId := created.id
          beforeState := none
          afterState :=
            some (.paymentPlan (sanitizePaymentPlanSnapshot created)) })

def proposePaymentPlan (context : RequestContext) (actor : AuthenticatedUser)
    (input : ProposePaymentPlanInput) : Effect PaymentPlan :=
  withActor (assertProposerActor actor) fun paymentActor tables =>
    match installmentStructureViolation input.installments with
    | some violation =>
        (.error (paymentError .paymentPlanConflict violation), tables)
    | none =>
        serve (proposePaymentPlanTransaction context paymentActor input)
          noReplay
          (paymentError .paymentPlanConflict
            "An active payment plan already exists for this booking.")
          tables

def approvePaymentPlanTransaction (context : RequestContext)
    (actor : PaymentActor) (input : ApprovePaymentPlanInput)
    (tables : Tables) : Except TxError (PaymentPlan × Tables) := do
  let (plan, booking) ←
    demand
      (findPaymentPlanWithBookingForActor tables actor input.paymentPlanId)
      paymentPlanForbidden
  if plan.status = .approved then
    .ok (plan, tables)
  else
    assertBookingOpenForPayment (some booking.status)
    require (plan.status = .proposed)
      (paymentError .paymentPlanConflict
        "This payment plan has been withdrawn and cannot be approved.")
    let totalAmount ←
      demand booking.totalAmount
        (paymentError .paymentPlanConflict
          ("This booking has no total amount set; the payment plan cannot " ++
            "be approved."))
    require (sumInstallmentAmounts tables plan.id = totalAmount.value)
      (paymentError .paymentPlanConflict
        ("The installments do not sum to the booking total amount; the " ++
          "payment plan cannot be approved."))
    let (outcome, written) :=
      approvePaymentPlanRow tables
        { id := plan.id
          approvedByStaffUserId := actor.id
          approvedAt := context.now }
    let updated ←
      demand outcome
        (paymentError .paymentPlanConflict
          "This payment plan is no longer proposed and cannot be approved.")
    .ok
      (updated,
        insertAuditLog written
          { actorId := actor.id
            action := .paymentPlanApproved
            entityType := .paymentPlan
            entityId := updated.id
            beforeState := some (.paymentPlanUnapproved plan.status.text)
            afterState :=
              some (.paymentPlan (sanitizePaymentPlanSnapshot updated)) })

def approvePaymentPlan (context : RequestContext) (actor : AuthenticatedUser)
    (input : ApprovePaymentPlanInput) : Effect PaymentPlan :=
  withActor (assertFinanceActor actor) fun paymentActor =>
    serve (approvePaymentPlanTransaction context paymentActor input) noReplay
      (paymentError .paymentPlanConflict
        "This payment plan could not be approved.")

def withdrawPaymentPlanTransaction (context : RequestContext)
    (actor : PaymentActor) (input : WithdrawPaymentPlanInput)
    (tables : Tables) : Except TxError (PaymentPlan × Tables) := do
  let (plan, _) ←
    demand
      (findPaymentPlanWithBookingForActor tables actor input.paymentPlanId)
      paymentPlanForbidden
  if plan.status = .withdrawn then
    .ok (plan, tables)
  else
    require (plan.status = .proposed)
      (paymentError .paymentPlanConflict
        "An approved payment plan cannot be withdrawn.")
    require (¬ 0 < countAllocationsForPlan tables plan.id)
      (paymentError .paymentPlanConflict
        "This payment plan has allocations and cannot be withdrawn.")
    let installments := findInstallmentsForPlanSnapshot tables plan.id
    let (outcome, written) :=
      withdrawPaymentPlanRow tables
        { id := plan.id
          withdrawnByStaffUserId := actor.id
          withdrawnAt := context.now
          withdrawalReason := input.reason }
    let withdrawn ←
      demand outcome
        (paymentError .paymentPlanConflict
          "This payment plan is no longer proposed and cannot be withdrawn.")
    .ok
      (withdrawn,
        insertAuditLog written
          { actorId := actor.id
            action := .paymentPlanWithdrawn
            entityType := .paymentPlan
            entityId := plan.id
            beforeState :=
              some <|
                sanitizePaymentPlanWithdrawalBeforeSnapshot plan installments
            afterState :=
              some <|
                .paymentPlanWithdrawalAfter PaymentPlanStatus.withdrawn.text
                  context.now actor.id input.reason })

def withdrawPaymentPlan (context : RequestContext) (actor : AuthenticatedUser)
    (input : WithdrawPaymentPlanInput) : Effect PaymentPlan :=
  withActor (assertWithdrawerActor actor) fun paymentActor =>
    serve (withdrawPaymentPlanTransaction context paymentActor input) noReplay
      (paymentError .paymentPlanConflict
        "This payment plan could not be withdrawn.")

def isStatusHistoryKeyViolation (failure : TxError) : Bool :=
  isUniqueViolationOn failure "Payment" ["idempotencyKey"]

def recordPaymentTransaction (context : RequestContext)
    (actor : PaymentActor) (input : RecordPaymentInput)
    (tables : Tables) : Except TxError (PaymentRecord × Tables) := do
  let booking ←
    demand (findBookingFinancialsForActor tables actor input.bookingId)
      bookingForbidden
  match ← resolveRecordReplay actor input tables with
  | some replay => .ok (replay, tables)
  | none =>
      assertBookingOpenForPayment (some booking.status)
      let currencyCode ←
        demand booking.currencyCode
          (paymentError .bookingCurrencyNotSet
            ("This booking's currency is not set yet; a payment cannot be " ++
              "recorded against it."))
      assertAmountPrecision input.amount currencyCode
      let (created, written) ←
        createPendingPayment tables
          { id := context.randomUuid 0
            bookingId := input.bookingId
            clientId := booking.clientId
            amount := input.amount
            changedByUserId := actor.id
            idempotencyKey := input.idempotencyKey
            createdAt := context.now }
      .ok
        (created,
          insertAuditLog written
            { actorId := actor.id
              action := .paymentRecorded
              entityType := .payment
              entityId := created.id
              beforeState := none
              afterState :=
                some <|
                  .paymentRecorded created.bookingId
                    (toFixed2 input.amount.value) })

def recordPayment (context : RequestContext) (actor : AuthenticatedUser)
    (input : RecordPaymentInput) : Effect PaymentRecord :=
  withActor (assertFinanceActor actor) fun paymentActor =>
    serve (recordPaymentTransaction context paymentActor input)
      (replayOn isStatusHistoryKeyViolation
        (resolveRecordReplay paymentActor input))
      (paymentError .paymentConflict
        "This payment could not be recorded. Please try again.")

/-- The status transition of a payment together with its audit entry. -/
def changePaymentStatus (actor : PaymentActor) (found : PaymentRecord)
    (newStatus : PaymentStatus) (reason idempotencyKey : String)
    (tables : Tables) : Except TxError (PaymentRecord × Tables) := do
  let (updated, written) ←
    transitionPaymentStatus tables
      { paymentId := found.id
        previousStatus := found.status
        newStatus := newStatus
        changedByUserId := actor.id
        reason := reason
        idempotencyKey := some idempotencyKey }
  .ok
    (updated,
      insertAuditLog written
        { actorId := actor.id
          action := .paymentStatusChanged
          entityType := .payment
          entityId := updated.id
          beforeState := some (.paymentStatus found.status.text)
          afterState :=
            some (.paymentStatusChange updated.status.text reason) })

def confirmPaymentTransaction (actor : PaymentActor)
    (input : ConfirmPaymentInput) (tables : Tables) :
    Except TxError (PaymentRecord × Tables) := do
  match ←
    resolveStatusTransitionReplay actor input.paymentId input.idempotencyKey
      .confirmed tables with
  | some replay => .ok (replay, tables)
  | none =>
      let found ← findScopedPaymentOrForbidden tables actor input.paymentId
      assertBookingOpenForPayment (findBookingStatus tables found.bookingId)
      require (found.status = .pending)
        (paymentError .invalidPaymentTransition
          ("Only a PENDING payment may be confirmed (current status: " ++
            found.status.text ++ ")."))
      changePaymentStatus actor found .confirmed input.reason
        input.idempotencyKey tables

def confirmPayment (actor : AuthenticatedUser) (input : ConfirmPaymentInput) :
    Effect PaymentRecord :=
  withActor (assertFinanceActor actor) fun paymentActor =>
    serve (confirmPaymentTransaction paymentActor input)
      (replayOn isStatusHistoryKeyViolation
        (resolveStatusTransitionReplay paymentActor input.paymentId
          input.idempotencyKey .confirmed))
      (paymentError .paymentConflict
        "This payment could not be confirmed. Please try again.")

def reversePaymentTransaction (actor : PaymentActor)
    (input : ReversePaymentInput) (tables : Tables) :
    Except TxError (PaymentRecord × Tables) := do
  match ←
    resolveStatusTransitionReplay actor input.paymentId input.idempotencyKey
      .reversed tables with
  | some replay => .ok (replay, tables)
  | none =>
      let found ← findScopedPaymentOrForbidden tables actor input.paymentId
      require (found.status = .confirmed)
        (paymentError .invalidPaymentTransition
          ("Only a CONFIRMED payment may be reversed (current status: " ++
            found.status.text ++ ")."))
      require (¬ 0 < sumRefundsForPayment tables found.id)
        (paymentError .invalidPaymentTransition
          ("A payment with any refund recorded against it can never be " ++
            "reversed."))
      changePaymentStatus actor found .reversed input.reason
        input.idempotencyKey tables

def reversePayment (actor : AuthenticatedUser) (input : ReversePaymentInput) :
    Effect PaymentRecord :=
  withActor (assertFinanceActor actor) fun paymentActor =>
    serve (reversePaymentTransaction paymentActor input)
      (replayOn isStatusHistoryKeyViolation
        (resolveStatusTransitionReplay paymentActor input.paymentId
          input.idempotencyKey .reversed))
      (paymentError .paymentConflict
        "This payment could not be reversed. Please try again.")

/-- A refund that names an allocation: the allocation is the payment's own, is
not reversed, and has `amount` left. -/
def assertRefundableAllocation (tables : Tables) (paymentId : Uuid)
    (amount : MoneyAmount) (allocationId : Option Uuid) :
    Except TxError Unit :=
  match allocationId with
  | none => .ok ()
  | some allocationId => do
      let notPermitted :=
        paymentError .allocationNotPermitted
          ("The specified allocation does not belong to this payment or is " ++
            "no longer active.")
      let allocation ←
        demand (findAllocationForRefund tables allocationId) notPermitted
      require
        (allocation.paymentId = paymentId ∧ ¬ allocation.isReversed)
        notPermitted
      require
        (¬ allocation.refundAllocatedTotal + amount.value >
          allocation.amount.value)
        (paymentError .refundExceedsRemaining
          ("This refund would exceed the remaining allocated amount for " ++
            "the specified allocation."))

def refundPaymentTransaction (context : RequestContext)
    (actor : PaymentActor) (input : RefundPaymentInput) (tables : Tables) :
    Except TxError (RefundPaymentResult × Tables) := do
  match ← resolveRefundReplay actor input tables with
  | some replay => .ok (replay, tables)
  | none =>
      require
        (findStatusHistoryByIdempotencyKey tables
          input.idempotencyKey).isNone
        idempotencyKeyConflict
      let found ← findScopedPaymentOrForbidden tables actor input.paymentId
      require (found.status = .confirmed)
        (paymentError .invalidPaymentTransition
          ("Only a CONFIRMED payment may be refunded (current status: " ++
            found.status.text ++ ")."))
      assertBookingAmountPrecision tables found.bookingId input.amount
      let existingRefundTotal := sumRefundsForPayment tables found.id
      let newRefundTotal := existingRefundTotal + input.amount.value
      require (¬ newRefundTotal > found.amount.value)
        (paymentError .refundExceedsRemaining
          ("This refund would exceed the payment amount not already " ++
            "refunded."))
      assertRefundableAllocation tables found.id input.amount
        input.allocationId
      let netActiveAfter :=
        sumNetActiveAllocationsForPayment tables found.id -
          (if input.allocationId.isSome then input.amount.value else 0)
      let netContributionAfter := found.amount.value - newRefundTotal
      require (¬ netActiveAfter > netContributionAfter)
        (paymentError .refundExceedsRemaining
          (if input.allocationId.isSome then
            "This refund would leave the payment's allocations exceeding " ++
              "what it still contributes."
          else
            "This refund would exceed this payment's own unallocated " ++
              "credit; link it to the allocation whose installment " ++
              "balance it reopens."))
      let (refund, written) ←
        createRefund tables
          { id := context.randomUuid 0
            paymentId := found.id
            amount := input.amount
            reason := input.reason
            performedByStaffUserId := actor.id
            idempotencyKey := input.idempotencyKey
            allocationId := input.allocationId
            performedAt := context.now }
      let completesRefund := newRefundTotal = found.amount.value
      let audited :=
        insertAuditLog written
          { actorId := actor.id
            action := .paymentRefunded
            entityType := .payment
            entityId := found.id
            beforeState :=
              some <|
                .paymentRefundBefore found.status.text
                  (toFixed2 existingRefundTotal)
            afterState :=
              some <|
                .paymentRefund found.id (toFixed2 input.amount.value)
                  input.reason input.allocationId
                  (if completesRefund then PaymentStatus.refunded.text
                    else found.status.text)
                  (toFixed2 newRefundTotal) }
      if completesRefund then
        let (payment, transitioned) ←
          changePaymentStatus actor found .refunded input.reason
            input.idempotencyKey audited
        .ok (⟨refund, payment⟩, transitioned)
      else
        .ok (⟨refund, found⟩, audited)

def refundPayment (context : RequestContext) (actor : AuthenticatedUser)
    (input : RefundPaymentInput) : Effect RefundPaymentResult :=
  withActor (assertFinanceActor actor) fun paymentActor =>
    serve (refundPaymentTransaction context paymentActor input)
      (replayOn
        (fun failure =>
          isUniqueViolationOn failure "PaymentRefund" ["idempotencyKey"])
        (resolveRefundReplay paymentActor input))
      (paymentError .paymentConflict
        "This refund could not be recorded. Please try again.")

structure IssueReceiptResult where
  receipt : ReceiptRecord
  paymentStatus : PaymentStatus
  deriving DecidableEq

def issueReceiptTransaction (context : RequestContext)
    (actor : PaymentActor) (input : IssueReceiptInput) (tables : Tables) :
    Except TxError (IssueReceiptResult × Tables) := do
  let found ← findScopedPaymentOrForbidden tables actor input.paymentId
  match findReceiptByPaymentId tables found.id with
  | some existing => .ok (⟨existing, found.status⟩, tables)
  | none =>
      require (found.status = .confirmed)
        (paymentError .receiptNotPermitted
          ("A new receipt may only be issued for a CONFIRMED payment " ++
            "(current status: " ++ found.status.text ++ ")."))
      let currencyCode ←
        demand
          ((findBookingCurrencyCode tables found.bookingId).filter
            fun code => code ≠ "")
          (paymentError .receiptNotPermitted
            ("This booking has no currency set; a receipt cannot be " ++
              "issued."))
      let (created, written) ←
        createReceipt tables
          { id := context.randomUuid 0
            paymentId := found.id
            receiptNumber := context.randomUuid 1
            issuedByStaffUserId := actor.id
            amount := found.amount.value
            currencyCode := currencyCode
            issuedAt := context.now }
      .ok
        (⟨created, found.status⟩,
          insertAuditLog written
            { actorId := actor.id
              action := .receiptIssued
              entityType := .receipt
              entityId := created.id
              beforeState := none
              afterState :=
                some <|
                  .receipt created.paymentId created.receiptNumber
                    (toFixed2 created.amount) })

/-- The receipt a concurrent request issued first. -/
def resolveReceiptReplay (actor : PaymentActor) (input : IssueReceiptInput)
    (tables : Tables) : Except TxError (Option IssueReceiptResult) := do
  let payment ← findScopedPaymentOrForbidden tables actor input.paymentId
  .ok <|
    (findReceiptByPaymentId tables payment.id).map fun existing =>
      ⟨existing, payment.status⟩

def issueReceipt (context : RequestContext) (actor : AuthenticatedUser)
    (input : IssueReceiptInput) : Effect IssueReceiptResult :=
  withActor (assertFinanceActor actor) fun paymentActor =>
    serve (issueReceiptTransaction context paymentActor input)
      (replayOn
        (fun failure => isUniqueViolationOn failure "Receipt" ["paymentId"])
        (resolveReceiptReplay paymentActor input))
      (paymentError .receiptNotPermitted
        "This receipt could not be issued. Please try again.")

/-- A plain error, which no caller recognises. -/
def requireStoredRefundsWithinAmount (operation : String)
    (amount : MoneyAmount) (refundedTotal : Int) : Except TxError Unit :=
  require (¬ refundedTotal > amount.value)
    (.unknown
      (operation ++ " refused: stored refunds exceed a payment's amount."))

def createAllocationTransaction (context : RequestContext)
    (actor : PaymentActor) (input : CreateAllocationInput)
    (tables : Tables) : Except TxError (AllocationRecord × Tables) := do
  match ← resolveAllocationReplay actor input tables with
  | some replay => .ok (replay, tables)
  | none =>
      let payment ← findScopedPaymentOrForbidden tables actor input.paymentId
      assertBookingOpenForPayment (findBookingStatus tables payment.bookingId)
      assertBookingAmountPrecision tables payment.bookingId input.amount
      let notItsBooking :=
        paymentError .allocationNotPermitted
          "The installment does not belong to this payment's booking."
      let installment ←
        demand (findInstallmentForAllocation tables input.installmentId)
          notItsBooking
      require (installment.bookingId = payment.bookingId) notItsBooking
      require (installment.planStatus = .approved)
        (paymentError .allocationNotPermitted
          ("An allocation may only target an installment belonging to an " ++
            "already-approved payment plan."))
      let refundedTotal := sumRefundsForPayment tables payment.id
      requireStoredRefundsWithinAmount "Allocation" payment.amount
        refundedTotal
      let netContribution :=
        computeNetContribution
          { status := payment.status
            amount := payment.amount.value
            refundedTotal := refundedTotal }
      require
        (¬ sumNetActiveAllocationsForPayment tables payment.id +
            input.amount.value > netContribution)
        (paymentError .allocationNotPermitted
          "This allocation would exceed the payment's own net contribution.")
      require
        (¬ sumNetActiveAllocationsForInstallment tables installment.id +
            input.amount.value > installment.amount.value)
        (paymentError .allocationNotPermitted
          ("This allocation would exceed the installment's remaining " ++
            "amount."))
      let (created, written) ←
        Repository.createAllocation tables
          { id := context.randomUuid 0
            paymentId := input.paymentId
            installmentId := input.installmentId
            amount := input.amount
            allocatedByStaffUserId := actor.id
            idempotencyKey := input.idempotencyKey
            createdAt := context.now }
      .ok
        (created,
          insertAuditLog written
            { actorId := actor.id
              action := .paymentAllocationCreated
              entityType := .paymentAllocation
              entityId := created.id
              beforeState := none
              afterState :=
                some <|
                  .allocation created.paymentId created.installmentId
                    (toFixed2 input.amount.value) })

def createAllocation (context : RequestContext) (actor : AuthenticatedUser)
    (input : CreateAllocationInput) : Effect AllocationRecord :=
  withActor (assertFinanceActor actor) fun paymentActor =>
    serve (createAllocationTransaction context paymentActor input)
      (replayOn
        (fun failure =>
          isUniqueViolationOn failure "PaymentAllocation" ["idempotencyKey"])
        (resolveAllocationReplay paymentActor input))
      (paymentError .allocationNotPermitted
        "This allocation could not be created.")

def reverseAllocationTransaction (context : RequestContext)
    (actor : PaymentActor) (input : ReverseAllocationInput)
    (tables : Tables) :
    Except TxError (AllocationReversalRecord × Tables) := do
  match ← resolveAllocationReversalReplay actor input tables with
  | some replay => .ok (replay, tables)
  | none =>
      let allocation ←
        demand (findAllocationForReversal tables input.allocationId)
          paymentForbidden
      let _ ← findScopedPaymentOrForbidden tables actor allocation.paymentId
      require (¬ allocation.hasReversal)
        (paymentError .allocationReversalNotPermitted
          "This allocation has already been reversed.")
      require (¬ allocation.hasRefundAllocation)
        (paymentError .allocationReversalNotPermitted
          ("This allocation already has a refund allocated against it and " ++
            "cannot be reversed."))
      let (created, written) ←
        createAllocationReversal tables
          { id := context.randomUuid 0
            paymentAllocationId := allocation.id
            reversedByStaffUserId := actor.id
            reason := input.reason
            idempotencyKey := input.idempotencyKey }
      .ok
        (created,
          insertAuditLog written
            { actorId := actor.id
              action := .paymentAllocationReversed
              entityType := .paymentAllocation
              entityId := allocation.id
              beforeState := none
              afterState :=
                some (.allocationReversal allocation.id input.reason) })

def reverseAllocation (context : RequestContext) (actor : AuthenticatedUser)
    (input : ReverseAllocationInput) : Effect AllocationReversalRecord :=
  withActor (assertFinanceActor actor) fun paymentActor =>
    serve (reverseAllocationTransaction context paymentActor input)
      (replayOn
        (fun failure =>
          isUniqueViolationOn failure "PaymentAllocationReversal"
              ["idempotencyKey"] ||
            isUniqueViolationOn failure "PaymentAllocationReversal"
              ["paymentAllocationId"])
        (resolveAllocationReversalReplay paymentActor input))
      (paymentError .allocationReversalNotPermitted
        "This reversal could not be recorded.")

structure AllocationSummary where
  id : Uuid
  paymentId : Uuid
  amount : Int
  refundedAmount : Int
  isReversed : Bool

structure StaffInstallmentSummary where
  id : Uuid
  dueDate : Timestamp
  amount : MoneyAmount
  outstandingAmount : Int
  allocations : List AllocationSummary

structure PaymentSummaryItem where
  id : Uuid
  amount : MoneyAmount
  status : PaymentStatus
  receipt : Option SummaryReceipt

structure StaffBookingPaymentBalances where
  bookingId : Uuid
  bookingReference : String
  totalAmount : Option MoneyAmount
  currencyCode : Option String
  planApproved : Bool
  confirmedAmountPaid : Int
  remainingBalance : Option Int
  overpayment : Option Int
  unappliedCredit : Int
  nextPaymentDue : Option Timestamp
  nextPaymentDueAmount : Option Int
  installments : List StaffInstallmentSummary
  payments : List PaymentSummaryItem

/-- The net active allocation of one installment of the summary. -/
def netActiveAllocation (installment : SummaryInstallment) : Int :=
  computeNetActiveAllocation <|
    installment.allocations.map
      SummaryAllocation.toActiveAllocationForCalculation

def summarizeInstallment (installment : SummaryInstallment) :
    StaffInstallmentSummary where
  id := installment.id
  dueDate := installment.dueDate
  amount := installment.amount
  outstandingAmount :=
    computeOutstandingInstallmentAmount installment.amount.value
      (netActiveAllocation installment)
  allocations :=
    installment.allocations.map fun allocation =>
      { id := allocation.id
        paymentId := allocation.paymentId
        amount := allocation.amount
        refundedAmount := allocation.refundAllocatedTotal
        isReversed := allocation.isReversed }

def buildBookingPaymentSummary (bookingId : Uuid)
    (data : BookingPaymentSummaryData) :
    Except TxError StaffBookingPaymentBalances := do
  data.payments.forM fun payment =>
    requireStoredRefundsWithinAmount "Payment summary" payment.amount
      payment.refundedTotal
  let netConfirmedAmountPaid :=
    computeNetConfirmedAmountPaid <|
      data.payments.map fun payment =>
        { status := payment.status
          amount := payment.amount.value
          refundedTotal := payment.refundedTotal }
  let planInstallments :=
    (data.plan.map SummaryPlan.installments).getD []
  let installments := planInstallments.map summarizeInstallment
  let nextDueInputs : List InstallmentForNextDue :=
    installments.map fun installment =>
      { dueDate := installment.dueDate
        outstandingAmount := installment.outstandingAmount }
  .ok
    { bookingId := bookingId
      bookingReference := data.bookingReference
      totalAmount := data.booking.totalAmount
      currencyCode := data.booking.currencyCode
      planApproved := data.plan.any fun plan => plan.status = .approved
      confirmedAmountPaid := netConfirmedAmountPaid
      remainingBalance :=
        data.booking.totalAmount.map fun totalAmount =>
          computeRemainingBalance totalAmount.value netConfirmedAmountPaid
      overpayment :=
        data.booking.totalAmount.map fun totalAmount =>
          computeOverpayment totalAmount.value netConfirmedAmountPaid
      unappliedCredit :=
        computeUnappliedCredit netConfirmedAmountPaid
          (planInstallments.map netActiveAllocation)
      nextPaymentDue := computeNextPaymentDue nextDueInputs
      nextPaymentDueAmount := computeNextPaymentDueAmount nextDueInputs
      installments := installments
      payments :=
        data.payments.map fun payment =>
          { id := payment.id
            amount := payment.amount
            status := payment.status
            receipt := payment.receipt } }

structure StaffBookingPaymentSummary extends StaffBookingPaymentBalances where
  activePlan : Option (Uuid × PaymentPlanStatus)

def getBookingPaymentSummaryForStaff (actor : AuthenticatedUser)
    (bookingId : Uuid) (tables : Tables) :
    Except TxError StaffBookingPaymentSummary := do
  let paymentActor ← assertStaffReadActor actor
  let _ ←
    demand (findBookingFinancialsForActor tables paymentActor bookingId)
      (if paymentActor.role = .adminManager then
        paymentError .bookingNotFound "Booking not found."
      else
        bookingForbidden)
  let data ←
    demand (findBookingPaymentSummaryData tables bookingId)
      (paymentError .bookingNotFound "Booking not found.")
  let balances ← buildBookingPaymentSummary bookingId data
  .ok
    { toStaffBookingPaymentBalances := balances
      activePlan := data.plan.map fun plan => (plan.id, plan.status) }

end Heritage.Payments
