import Heritage.Store.Transaction
import Heritage.Store.Table
import Heritage.Store.Aggregate
import Heritage.Payments.Errors
import Heritage.Payments.Calculations

/-!
# Reads and writes of the payment tables

`repository.ts`.  Reads are functions of the tables.  A write returns the row
it wrote together with the new tables, and fails where a unique index or a
missing record would make the database refuse it.  A violation inside a
nested write is reported against the parent model.
-/

namespace Heritage.Payments.Repository

open Heritage.Store

inductive PaymentActorRole where
  | adminManager
  | travelConsultant
  | financeAccounting
  deriving DecidableEq, Repr

def PaymentActorRole.toRole : PaymentActorRole → Role
  | .adminManager => .adminManager
  | .travelConsultant => .travelConsultant
  | .financeAccounting => .financeAccounting

structure PaymentActor where
  id : Uuid
  role : PaymentActorRole
  deriving DecidableEq, Repr

/-- Whether the booking passes the actor's assignment filter: always for an
Admin/Manager, otherwise through an active assignment in the actor's own
role. -/
def bookingAssignmentFilter (tables : Tables) (actor : PaymentActor)
    (bookingId : Uuid) : Bool :=
  match actor.role with
  | .adminManager => true
  | .travelConsultant | .financeAccounting =>
      tables.staffAssignments.any fun assignment =>
        assignment.bookingId = some bookingId ∧
          assignment.assignedStaffId = actor.id ∧
          assignment.role = actor.role.toRole ∧
          assignment.endedAt = none

/-- An `update` of a record that is not there. -/
def recordNotFound : TxError :=
  .unknown "No record was found for an update."

structure BookingFinancials where
  id : Uuid
  clientId : Uuid
  status : BookingStatus
  totalAmount : Option MoneyAmount
  currencyCode : Option String
  deriving DecidableEq, Repr

/-- `BOOKING_FINANCIALS_SELECT`. -/
def selectFinancials (booking : Booking) : BookingFinancials where
  id := booking.id
  clientId := booking.clientId
  status := booking.status
  totalAmount := booking.totalAmount
  currencyCode := booking.currencyCode

def findBookingFinancialsForActor (tables : Tables) (actor : PaymentActor)
    (bookingId : Uuid) : Option BookingFinancials :=
  ((findBy Booking.id bookingId tables.bookings).filter fun booking =>
    bookingAssignmentFilter tables actor booking.id).map selectFinancials

/-- The plan is `PROPOSED` or `APPROVED`. -/
def isActivePlan (plan : PaymentPlan) : Bool :=
  plan.status ≠ .withdrawn

def hasFinancialLock (tables : Tables) (bookingId : Uuid) : Bool :=
  (tables.paymentPlans.any fun plan =>
    plan.bookingId = bookingId ∧ isActivePlan plan) ||
  tables.payments.any fun payment => payment.bookingId = bookingId

/-- The booking with both financial fields set. -/
def withFinancials (totalAmount : MoneyAmount) (currencyCode : String)
    (booking : Booking) : Booking :=
  { booking with
    totalAmount := some totalAmount
    currencyCode := some currencyCode
    paired := rfl }

def updateBookingFinancials (tables : Tables) (bookingId : Uuid)
    (totalAmount : MoneyAmount) (currencyCode : String) :
    Except TxError (BookingFinancials × Tables) :=
  match findBy Booking.id bookingId tables.bookings with
  | none => .error recordNotFound
  | some booking =>
      .ok
        (selectFinancials (withFinancials totalAmount currencyCode booking),
          { tables with
            bookings :=
              updateBy Booking.id bookingId
                (withFinancials totalAmount currencyCode) tables.bookings })

def findBookingStatus (tables : Tables) (bookingId : Uuid) :
    Option BookingStatus :=
  (findBy Booking.id bookingId tables.bookings).map Booking.status

def findBookingCurrencyCode (tables : Tables) (bookingId : Uuid) :
    Option String :=
  (findBy Booking.id bookingId tables.bookings).bind Booking.currencyCode

def findPaymentPlanByBookingIdForActor (tables : Tables)
    (actor : PaymentActor) (bookingId : Uuid) : Option PaymentPlan :=
  tables.paymentPlans.find? fun plan =>
    plan.bookingId = bookingId ∧ isActivePlan plan ∧
      bookingAssignmentFilter tables actor plan.bookingId

def findPaymentPlanWithBookingForActor (tables : Tables)
    (actor : PaymentActor) (paymentPlanId : Uuid) :
    Option (PaymentPlan × BookingFinancials) :=
  ((findBy PaymentPlan.id paymentPlanId tables.paymentPlans).filter
    fun plan => bookingAssignmentFilter tables actor plan.bookingId).bind
    fun plan =>
      (findBy Booking.id plan.bookingId tables.bookings).map
        fun booking => (plan, selectFinancials booking)

structure ProposedInstallmentInput where
  id : Uuid
  sequenceNumber : Nat
  isDeposit : Bool
  amount : MoneyAmount
  dueDate : Timestamp

structure CreatePaymentPlanInput where
  id : Uuid
  bookingId : Uuid
  clientId : Uuid
  proposedByStaffUserId : Uuid
  installments : List ProposedInstallmentInput

/-- The plan row a proposal inserts. -/
def CreatePaymentPlanInput.row (input : CreatePaymentPlanInput) :
    PaymentPlan where
  id := input.id
  bookingId := input.bookingId
  clientId := input.clientId
  proposedByStaffUserId := input.proposedByStaffUserId
  approvedByStaffUserId := none
  approvedAt := none
  status := .proposed
  withdrawnAt := none
  withdrawnByStaffUserId := none
  withdrawalReason := none

/-- The installment rows a proposal inserts. -/
def CreatePaymentPlanInput.installmentRows (input : CreatePaymentPlanInput) :
    List Installment :=
  input.installments.map fun installment =>
    { id := installment.id
      paymentPlanId := input.id
      sequenceNumber := installment.sequenceNumber
      isDeposit := installment.isDeposit
      amount := installment.amount
      dueDate := installment.dueDate }

/-- The unique indexes are the two primary keys,
`payment_plan_active_booking_key`, the installments' sequence numbers and
`installment_active_deposit_key`. -/
def createPaymentPlanWithInstallments (tables : Tables)
    (input : CreatePaymentPlanInput) :
    Except TxError (PaymentPlan × Tables) := do
  require (findBy PaymentPlan.id input.id tables.paymentPlans).isNone
    (.uniqueViolation "PaymentPlan" ["id"])
  require
    (¬ tables.paymentPlans.any fun plan =>
      plan.bookingId = input.bookingId ∧ isActivePlan plan)
    (.uniqueViolation "PaymentPlan" ["bookingId"])
  require
    ((tables.installments ++ input.installmentRows).map Installment.id).Nodup
    (.uniqueViolation "PaymentPlan" ["id"])
  require
    (input.installments.map ProposedInstallmentInput.sequenceNumber).Nodup
    (.uniqueViolation "PaymentPlan" ["paymentPlanId", "sequenceNumber"])
  require
    ((input.installments.filter ProposedInstallmentInput.isDeposit).length ≤ 1)
    (.uniqueViolation "PaymentPlan" ["paymentPlanId"])
  .ok
    (input.row,
      { tables with
        paymentPlans := tables.paymentPlans ++ [input.row]
        installments := tables.installments ++ input.installmentRows })

def sumInstallmentAmounts (tables : Tables) (paymentPlanId : Uuid) : Int :=
  groupSum Installment.paymentPlanId (fun row => row.amount.value)
    paymentPlanId tables.installments

/-- A conditional update of one plan that must still be `PROPOSED`; `none`
when no row matched. -/
def updateProposedPlan (tables : Tables) (id : Uuid)
    (change : PaymentPlan → PaymentPlan) : Option PaymentPlan × Tables :=
  match findBy PaymentPlan.id id tables.paymentPlans with
  | none => (none, tables)
  | some plan =>
      if plan.status = .proposed then
        (some (change plan),
          { tables with
            paymentPlans :=
              updateBy PaymentPlan.id id change tables.paymentPlans })
      else
        (none, tables)

structure ApprovePaymentPlanRowInput where
  id : Uuid
  approvedByStaffUserId : Uuid
  approvedAt : Timestamp

/-- The plan with its approval fields written. -/
def ApprovePaymentPlanRowInput.change (input : ApprovePaymentPlanRowInput)
    (plan : PaymentPlan) : PaymentPlan :=
  { plan with
    status := .approved
    approvedByStaffUserId := some input.approvedByStaffUserId
    approvedAt := some input.approvedAt }

def approvePaymentPlanRow (tables : Tables)
    (input : ApprovePaymentPlanRowInput) : Option PaymentPlan × Tables :=
  updateProposedPlan tables input.id input.change

structure WithdrawPaymentPlanRowInput where
  id : Uuid
  withdrawnByStaffUserId : Uuid
  withdrawnAt : Timestamp
  withdrawalReason : String

/-- The plan with its withdrawal fields written. -/
def WithdrawPaymentPlanRowInput.change (input : WithdrawPaymentPlanRowInput)
    (plan : PaymentPlan) : PaymentPlan :=
  { plan with
    status := .withdrawn
    withdrawnAt := some input.withdrawnAt
    withdrawnByStaffUserId := some input.withdrawnByStaffUserId
    withdrawalReason := some input.withdrawalReason }

def withdrawPaymentPlanRow (tables : Tables)
    (input : WithdrawPaymentPlanRowInput) : Option PaymentPlan × Tables :=
  updateProposedPlan tables input.id input.change

/-- The plan's installments in sequence order. -/
def installmentsInSequence (tables : Tables) (paymentPlanId : Uuid) :
    List Installment :=
  (tables.installments.filter
    fun installment => installment.paymentPlanId = paymentPlanId).mergeSort
    fun left right => left.sequenceNumber ≤ right.sequenceNumber

def findInstallmentsForPlanSnapshot (tables : Tables)
    (paymentPlanId : Uuid) : List Installment :=
  installmentsInSequence tables paymentPlanId

def countAllocationsForPlan (tables : Tables) (paymentPlanId : Uuid) : Nat :=
  tables.allocations.countP fun allocation =>
    (findBy Installment.id allocation.installmentId tables.installments).any
      fun installment => installment.paymentPlanId = paymentPlanId

structure InstallmentForAllocation where
  id : Uuid
  paymentPlanId : Uuid
  bookingId : Uuid
  amount : MoneyAmount
  planStatus : PaymentPlanStatus

def findInstallmentForAllocation (tables : Tables) (installmentId : Uuid) :
    Option InstallmentForAllocation :=
  (findBy Installment.id installmentId tables.installments).bind
    fun installment =>
      (findBy PaymentPlan.id installment.paymentPlanId
        tables.paymentPlans).map
        fun plan =>
          { id := installment.id
            paymentPlanId := installment.paymentPlanId
            bookingId := plan.bookingId
            amount := installment.amount
            planStatus := plan.status }

structure PaymentRecord where
  id : Uuid
  bookingId : Uuid
  clientId : Uuid
  amount : MoneyAmount
  status : PaymentStatus
  deriving DecidableEq, Repr

/-- `PAYMENT_SELECT`. -/
def selectPayment (payment : Payment) : PaymentRecord where
  id := payment.id
  bookingId := payment.bookingId
  clientId := payment.clientId
  amount := payment.amount
  status := payment.status

def findPaymentForActor (tables : Tables) (actor : PaymentActor)
    (paymentId : Uuid) : Option PaymentRecord :=
  ((findBy Payment.id paymentId tables.payments).filter fun payment =>
    bookingAssignmentFilter tables actor payment.bookingId).map selectPayment

def findStatusHistoryByIdempotencyKey (tables : Tables)
    (idempotencyKey : String) : Option PaymentStatusHistory :=
  findBy PaymentStatusHistory.idempotencyKey (some idempotencyKey)
    tables.statusHistory

structure CreatePendingPaymentInput where
  id : Uuid
  bookingId : Uuid
  clientId : Uuid
  amount : MoneyAmount
  changedByUserId : Uuid
  idempotencyKey : String
  createdAt : Timestamp

/-- The payment row a recording inserts. -/
def CreatePendingPaymentInput.row (input : CreatePendingPaymentInput) :
    Payment where
  id := input.id
  bookingId := input.bookingId
  clientId := input.clientId
  amount := input.amount
  status := .pending
  createdAt := input.createdAt

/-- The initial history row a recording inserts. -/
def CreatePendingPaymentInput.historyRow (input : CreatePendingPaymentInput) :
    PaymentStatusHistory where
  paymentId := input.id
  previousStatus := none
  newStatus := .pending
  changedByUserId := input.changedByUserId
  reason := none
  idempotencyKey := some input.idempotencyKey

def createPendingPayment (tables : Tables)
    (input : CreatePendingPaymentInput) :
    Except TxError (PaymentRecord × Tables) := do
  require (findBy Payment.id input.id tables.payments).isNone
    (.uniqueViolation "Payment" ["id"])
  require
    (findStatusHistoryByIdempotencyKey tables input.idempotencyKey).isNone
    (.uniqueViolation "Payment" ["idempotencyKey"])
  .ok
    (selectPayment input.row,
      { tables with
        payments := tables.payments ++ [input.row]
        statusHistory := tables.statusHistory ++ [input.historyRow] })

def sumRefundsForPayment (tables : Tables) (paymentId : Uuid) : Int :=
  groupSum PaymentRefund.paymentId (fun row => row.amount.value)
    paymentId tables.refunds

structure TransitionPaymentStatusInput where
  paymentId : Uuid
  previousStatus : PaymentStatus
  newStatus : PaymentStatus
  changedByUserId : Uuid
  reason : String
  idempotencyKey : Option String

/-- The history row a transition inserts. -/
def TransitionPaymentStatusInput.historyRow
    (input : TransitionPaymentStatusInput) : PaymentStatusHistory where
  paymentId := input.paymentId
  previousStatus := some input.previousStatus
  newStatus := input.newStatus
  changedByUserId := input.changedByUserId
  reason := some input.reason
  idempotencyKey := input.idempotencyKey

/-- The payment in another status. -/
def withStatus (status : PaymentStatus) (payment : Payment) : Payment :=
  { payment with status := status }

def transitionPaymentStatus (tables : Tables)
    (input : TransitionPaymentStatusInput) :
    Except TxError (PaymentRecord × Tables) :=
  match findBy Payment.id input.paymentId tables.payments with
  | none => .error recordNotFound
  | some payment => do
      require
        (input.idempotencyKey.all fun key =>
          (findStatusHistoryByIdempotencyKey tables key).isNone)
        (.uniqueViolation "Payment" ["idempotencyKey"])
      .ok
        (selectPayment (withStatus input.newStatus payment),
          { tables with
            payments :=
              updateBy Payment.id input.paymentId
                (withStatus input.newStatus) tables.payments
            statusHistory := tables.statusHistory ++ [input.historyRow] })

structure RefundRecord where
  id : Uuid
  paymentId : Uuid
  amount : MoneyAmount
  reason : String
  deriving DecidableEq, Repr

structure RefundIdempotencyRecord extends RefundRecord where
  allocationId : Option Uuid
  deriving DecidableEq, Repr

/-- The columns of a refund every caller selects. -/
def selectRefund (refund : PaymentRefund) : RefundRecord where
  id := refund.id
  paymentId := refund.paymentId
  amount := refund.amount
  reason := refund.reason

/-- The allocation a refund is linked to. -/
def linkedAllocation (tables : Tables) (refundId : Uuid) : Option Uuid :=
  (findBy PaymentRefundAllocation.paymentRefundId refundId
    tables.refundAllocations).map
    PaymentRefundAllocation.paymentAllocationId

def findRefundByIdempotencyKey (tables : Tables) (idempotencyKey : String) :
    Option RefundIdempotencyRecord :=
  (findBy PaymentRefund.idempotencyKey idempotencyKey tables.refunds).map
    fun refund =>
      { toRefundRecord := selectRefund refund
        allocationId := linkedAllocation tables refund.id }

structure CreateRefundInput where
  id : Uuid
  paymentId : Uuid
  amount : MoneyAmount
  reason : String
  performedByStaffUserId : Uuid
  idempotencyKey : String
  allocationId : Option Uuid
  performedAt : Timestamp

/-- The refund row. -/
def CreateRefundInput.row (input : CreateRefundInput) : PaymentRefund where
  id := input.id
  paymentId := input.paymentId
  amount := input.amount
  reason := input.reason
  performedByStaffUserId := input.performedByStaffUserId
  idempotencyKey := input.idempotencyKey
  performedAt := input.performedAt

/-- The link row, for a refund that names an allocation. -/
def CreateRefundInput.linkRows (input : CreateRefundInput) :
    List PaymentRefundAllocation :=
  input.allocationId.toList.map fun allocationId =>
    { paymentRefundId := input.id
      paymentAllocationId := allocationId
      amount := input.amount }

def createRefund (tables : Tables) (input : CreateRefundInput) :
    Except TxError (RefundRecord × Tables) := do
  require (findBy PaymentRefund.id input.id tables.refunds).isNone
    (.uniqueViolation "PaymentRefund" ["id"])
  require (findRefundByIdempotencyKey tables input.idempotencyKey).isNone
    (.uniqueViolation "PaymentRefund" ["idempotencyKey"])
  .ok
    (selectRefund input.row,
      { tables with
        refunds := tables.refunds ++ [input.row]
        refundAllocations := tables.refundAllocations ++ input.linkRows })

structure AllocationRecord where
  id : Uuid
  paymentId : Uuid
  installmentId : Uuid
  amount : MoneyAmount
  deriving DecidableEq, Repr

/-- The columns of an allocation every caller selects. -/
def selectAllocation (allocation : PaymentAllocation) :
    AllocationRecord where
  id := allocation.id
  paymentId := allocation.paymentId
  installmentId := allocation.installmentId
  amount := allocation.amount

def findAllocationByIdempotencyKey (tables : Tables)
    (idempotencyKey : String) : Option AllocationRecord :=
  (findBy PaymentAllocation.idempotencyKey idempotencyKey
    tables.allocations).map selectAllocation

/-- The row carries the database's default for `createdAt`. -/
def createAllocation (tables : Tables) (row : PaymentAllocation) :
    Except TxError (AllocationRecord × Tables) := do
  require (findBy PaymentAllocation.id row.id tables.allocations).isNone
    (.uniqueViolation "PaymentAllocation" ["id"])
  require (findAllocationByIdempotencyKey tables row.idempotencyKey).isNone
    (.uniqueViolation "PaymentAllocation" ["idempotencyKey"])
  .ok
    (selectAllocation row,
      { tables with allocations := tables.allocations ++ [row] })

/-- The allocation has a reversal. -/
def isReversed (tables : Tables) (allocationId : Uuid) : Bool :=
  (findBy PaymentAllocationReversal.paymentAllocationId allocationId
    tables.allocationReversals).isSome

/-- The refund links of an allocation. -/
def refundAllocationsOf (tables : Tables) (allocationId : Uuid) :
    List PaymentRefundAllocation :=
  tables.refundAllocations.filter
    fun link => link.paymentAllocationId = allocationId

/-- The allocation's payment is `CONFIRMED` or `REFUNDED`. -/
def isCounted (tables : Tables) (allocation : PaymentAllocation) : Bool :=
  (findBy Payment.id allocation.paymentId tables.payments).any
    fun payment => payment.status.counts

/-- The `reduce` both net sums share. -/
def reduceNetActive (tables : Tables) (allocations : List PaymentAllocation) :
    Int :=
  allocations.foldl
    (fun total allocation =>
      (refundAllocationsOf tables allocation.id).foldl
        (fun net link => net - link.amount.value)
        (total + allocation.amount.value))
    0

def sumNetActiveAllocationsForInstallment (tables : Tables)
    (installmentId : Uuid) : Int :=
  reduceNetActive tables <|
    tables.allocations.filter fun allocation =>
      allocation.installmentId = installmentId ∧
        ¬ isReversed tables allocation.id ∧
        isCounted tables allocation

def sumNetActiveAllocationsForPayment (tables : Tables)
    (paymentId : Uuid) : Int :=
  reduceNetActive tables <|
    tables.allocations.filter fun allocation =>
      allocation.paymentId = paymentId ∧
        ¬ isReversed tables allocation.id

/-- `SUM(PaymentRefundAllocation.amount)` over one allocation. -/
def refundAllocatedTotal (tables : Tables) (allocationId : Uuid) : Int :=
  (refundAllocationsOf tables allocationId).foldl
    (fun total link => total + link.amount.value) 0

structure AllocationForRefund where
  id : Uuid
  paymentId : Uuid
  amount : MoneyAmount
  isReversed : Bool
  refundAllocatedTotal : Int

def findAllocationForRefund (tables : Tables) (allocationId : Uuid) :
    Option AllocationForRefund :=
  (findBy PaymentAllocation.id allocationId tables.allocations).map
    fun row =>
      { id := row.id
        paymentId := row.paymentId
        amount := row.amount
        isReversed := isReversed tables row.id
        refundAllocatedTotal := refundAllocatedTotal tables row.id }

structure AllocationForReversal where
  id : Uuid
  paymentId : Uuid
  installmentId : Uuid
  amount : MoneyAmount
  hasReversal : Bool
  hasRefundAllocation : Bool

def findAllocationForReversal (tables : Tables) (allocationId : Uuid) :
    Option AllocationForReversal :=
  (findBy PaymentAllocation.id allocationId tables.allocations).map
    fun row =>
      { id := row.id
        paymentId := row.paymentId
        installmentId := row.installmentId
        amount := row.amount
        hasReversal := isReversed tables row.id
        hasRefundAllocation :=
          0 < ((refundAllocationsOf tables row.id).take 1).length }

structure AllocationReversalRecord where
  id : Uuid
  paymentAllocationId : Uuid
  deriving DecidableEq, Repr

/-- The columns of a reversal every caller selects. -/
def selectReversal (reversal : PaymentAllocationReversal) :
    AllocationReversalRecord where
  id := reversal.id
  paymentAllocationId := reversal.paymentAllocationId

def findAllocationReversalByIdempotencyKey (tables : Tables)
    (idempotencyKey : String) : Option AllocationReversalRecord :=
  (findBy PaymentAllocationReversal.idempotencyKey idempotencyKey
    tables.allocationReversals).map selectReversal

def createAllocationReversal (tables : Tables)
    (row : PaymentAllocationReversal) :
    Except TxError (AllocationReversalRecord × Tables) := do
  require
    (findBy PaymentAllocationReversal.id row.id
      tables.allocationReversals).isNone
    (.uniqueViolation "PaymentAllocationReversal" ["id"])
  require (¬ isReversed tables row.paymentAllocationId)
    (.uniqueViolation "PaymentAllocationReversal" ["paymentAllocationId"])
  require
    (findAllocationReversalByIdempotencyKey tables row.idempotencyKey).isNone
    (.uniqueViolation "PaymentAllocationReversal" ["idempotencyKey"])
  .ok
    (selectReversal row,
      { tables with
        allocationReversals := tables.allocationReversals ++ [row] })

structure ReceiptRecord where
  id : Uuid
  paymentId : Uuid
  receiptNumber : Uuid
  amount : Int
  currencyCode : String
  deriving DecidableEq, Repr

/-- The columns of a receipt every caller selects. -/
def selectReceipt (receipt : Receipt) : ReceiptRecord where
  id := receipt.id
  paymentId := receipt.paymentId
  receiptNumber := receipt.receiptNumber
  amount := receipt.amount
  currencyCode := receipt.currencyCode

def findReceiptByPaymentId (tables : Tables) (paymentId : Uuid) :
    Option ReceiptRecord :=
  (findBy Receipt.paymentId paymentId tables.receipts).map selectReceipt

def createReceipt (tables : Tables) (row : Receipt) :
    Except TxError (ReceiptRecord × Tables) := do
  require (findBy Receipt.id row.id tables.receipts).isNone
    (.uniqueViolation "Receipt" ["id"])
  require (findReceiptByPaymentId tables row.paymentId).isNone
    (.uniqueViolation "Receipt" ["paymentId"])
  require (findBy Receipt.receiptNumber row.receiptNumber
      tables.receipts).isNone
    (.uniqueViolation "Receipt" ["receiptNumber"])
  .ok
    (selectReceipt row, { tables with receipts := tables.receipts ++ [row] })

def insertAuditLog (tables : Tables) (entry : AuditLog) : Tables :=
  { tables with auditLogs := tables.auditLogs ++ [entry] }

structure SummaryAllocation extends ActiveAllocationForCalculation where
  id : Uuid
  paymentId : Uuid

structure SummaryInstallment where
  id : Uuid
  dueDate : Timestamp
  amount : MoneyAmount
  allocations : List SummaryAllocation

structure SummaryPlan where
  id : Uuid
  status : PaymentPlanStatus
  approvedByStaffUserId : Option Uuid
  approvedAt : Option Timestamp
  installments : List SummaryInstallment

structure SummaryReceipt where
  receiptNumber : Uuid
  issuedAt : Timestamp

structure SummaryPayment where
  id : Uuid
  amount : MoneyAmount
  status : PaymentStatus
  refundedTotal : Int
  receipt : Option SummaryReceipt

structure BookingPaymentSummaryData where
  booking : BookingFinancials
  bookingReference : String
  plan : Option SummaryPlan
  payments : List SummaryPayment

/-- `orderBy: [{ createdAt: 'asc' }, { id: 'asc' }]`. -/
def createdBefore (leftAt : Timestamp) (left : Uuid) (rightAt : Timestamp)
    (right : Uuid) : Bool :=
  leftAt < rightAt ∨ leftAt = rightAt ∧ left ≤ right

def summaryAllocation (tables : Tables) (allocation : PaymentAllocation) :
    SummaryAllocation where
  id := allocation.id
  paymentId := allocation.paymentId
  amount := allocation.amount.value
  -- A foreign key gives every allocation its payment.
  paymentStatus :=
    ((findBy Payment.id allocation.paymentId tables.payments).map
      Payment.status).getD .pending
  isReversed := isReversed tables allocation.id
  refundAllocatedTotal := refundAllocatedTotal tables allocation.id

def summaryInstallment (tables : Tables) (installment : Installment) :
    SummaryInstallment where
  id := installment.id
  dueDate := installment.dueDate
  amount := installment.amount
  allocations :=
    ((tables.allocations.filter
      fun allocation => allocation.installmentId = installment.id).mergeSort
      fun left right =>
        createdBefore left.createdAt left.id right.createdAt right.id).map
      (summaryAllocation tables)

def summaryPlan (tables : Tables) (plan : PaymentPlan) : SummaryPlan where
  id := plan.id
  status := plan.status
  approvedByStaffUserId := plan.approvedByStaffUserId
  approvedAt := plan.approvedAt
  installments :=
    (installmentsInSequence tables plan.id).map (summaryInstallment tables)

def summaryPayment (tables : Tables) (payment : Payment) :
    SummaryPayment where
  id := payment.id
  amount := payment.amount
  status := payment.status
  refundedTotal :=
    (tables.refunds.filter
      fun refund => refund.paymentId = payment.id).foldl
      (fun total refund => total + refund.amount.value) 0
  receipt :=
    (findBy Receipt.paymentId payment.id tables.receipts).map fun receipt =>
      { receiptNumber := receipt.receiptNumber
        issuedAt := receipt.issuedAt }

def findBookingPaymentSummaryData (tables : Tables) (bookingId : Uuid) :
    Option BookingPaymentSummaryData :=
  (findBy Booking.id bookingId tables.bookings).map fun booking =>
    { booking := selectFinancials booking
      bookingReference := booking.bookingReference
      plan :=
        (tables.paymentPlans.find? fun plan =>
          plan.bookingId = bookingId ∧ isActivePlan plan).map
          (summaryPlan tables)
      payments :=
        ((tables.payments.filter
          fun payment => payment.bookingId = bookingId).mergeSort
          fun left right =>
            createdBefore left.createdAt left.id
              right.createdAt right.id).map
          (summaryPayment tables) }

end Heritage.Payments.Repository
