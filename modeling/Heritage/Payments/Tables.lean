import Heritage.Shared.Identity

/-!
# Payment tables

Rows of the payment schema and the state of the ledger.  Money is counted in
hundredths: every stored amount is `DECIMAL(18,2)` and the program adds and
subtracts exact decimals.  A column whose CHECK constraint bounds a single
row carries the bound in its type: amounts are positive, and a booking has
its total and its currency together or not at all.
-/

namespace Heritage.Payments

/-- `positiveMoneyAmountSchema`: a decimal string with at most sixteen digits
before the point and exactly two after it, greater than zero. -/
structure MoneyAmount where
  value : Int
  positive : 0 < value
  bounded : value < 10 ^ 18
  deriving DecidableEq, Repr

inductive BookingStatus where
  | draft
  | pendingConfirmation
  | confirmed
  | inPreparation
  | documentsRequired
  | visaProcessing
  | readyForTravel
  | inProgress
  | completed
  | cancelled
  deriving DecidableEq, Repr

inductive PaymentStatus where
  | pending
  | confirmed
  | rejected
  | cancelled
  | failed
  | refunded
  | reversed
  deriving DecidableEq, Repr

/-- The database's spelling of a status. -/
def PaymentStatus.text : PaymentStatus → String
  | .pending => "PENDING"
  | .confirmed => "CONFIRMED"
  | .rejected => "REJECTED"
  | .cancelled => "CANCELLED"
  | .failed => "FAILED"
  | .refunded => "REFUNDED"
  | .reversed => "REVERSED"

inductive PaymentPlanStatus where
  | proposed
  | approved
  | withdrawn
  deriving DecidableEq, Repr

def PaymentPlanStatus.text : PaymentPlanStatus → String
  | .proposed => "PROPOSED"
  | .approved => "APPROVED"
  | .withdrawn => "WITHDRAWN"

/-- `paired` is the CHECK `booking_financials_pairing`. -/
structure Booking where
  id : Uuid
  clientId : Uuid
  bookingReference : String
  status : BookingStatus
  totalAmount : Option MoneyAmount
  currencyCode : Option String
  createdAt : Timestamp
  paired : totalAmount.isSome = currencyCode.isSome
  deriving DecidableEq, Repr

structure PaymentPlan where
  id : Uuid
  bookingId : Uuid
  clientId : Uuid
  proposedByStaffUserId : Uuid
  approvedByStaffUserId : Option Uuid
  approvedAt : Option Timestamp
  status : PaymentPlanStatus
  withdrawnAt : Option Timestamp
  withdrawnByStaffUserId : Option Uuid
  withdrawalReason : Option String
  deriving DecidableEq, Repr

structure Installment where
  id : Uuid
  paymentPlanId : Uuid
  sequenceNumber : Nat
  isDeposit : Bool
  amount : MoneyAmount
  dueDate : Timestamp
  deriving DecidableEq, Repr

structure Payment where
  id : Uuid
  bookingId : Uuid
  clientId : Uuid
  amount : MoneyAmount
  status : PaymentStatus
  createdAt : Timestamp
  deriving DecidableEq, Repr

structure PaymentStatusHistory where
  paymentId : Uuid
  previousStatus : Option PaymentStatus
  newStatus : PaymentStatus
  changedByUserId : Uuid
  reason : Option String
  idempotencyKey : Option String
  deriving DecidableEq, Repr

structure PaymentRefund where
  id : Uuid
  paymentId : Uuid
  amount : MoneyAmount
  reason : String
  performedByStaffUserId : Uuid
  idempotencyKey : String
  performedAt : Timestamp
  deriving DecidableEq, Repr

structure PaymentRefundAllocation where
  paymentRefundId : Uuid
  paymentAllocationId : Uuid
  amount : MoneyAmount
  deriving DecidableEq, Repr

structure PaymentAllocation where
  id : Uuid
  paymentId : Uuid
  installmentId : Uuid
  amount : MoneyAmount
  allocatedByStaffUserId : Uuid
  idempotencyKey : String
  createdAt : Timestamp
  deriving DecidableEq, Repr

structure PaymentAllocationReversal where
  id : Uuid
  paymentAllocationId : Uuid
  reversedByStaffUserId : Uuid
  reason : String
  idempotencyKey : String
  deriving DecidableEq, Repr

structure Receipt where
  id : Uuid
  paymentId : Uuid
  receiptNumber : Uuid
  issuedByStaffUserId : Uuid
  amount : Int
  currencyCode : String
  issuedAt : Timestamp
  deriving DecidableEq, Repr

inductive PaymentAuditAction where
  | bookingFinancialsSet
  | bookingFinancialsChanged
  | paymentPlanProposed
  | paymentPlanApproved
  | paymentPlanWithdrawn
  | paymentRecorded
  | paymentStatusChanged
  | paymentRefunded
  | paymentAllocationCreated
  | paymentAllocationReversed
  | receiptIssued
  deriving DecidableEq, Repr

inductive AuditEntityType where
  | booking
  | paymentPlan
  | payment
  | paymentAllocation
  | receipt
  deriving DecidableEq, Repr

structure AuditInstallmentSnapshot where
  sequenceNumber : Nat
  isDeposit : Bool
  amount : String
  dueDate : Timestamp
  deriving DecidableEq, Repr

structure AuditPaymentPlanSnapshot where
  id : Uuid
  bookingId : Uuid
  clientId : Uuid
  approvedByStaffUserId : Option Uuid
  approvedAt : Option Timestamp
  status : String
  deriving DecidableEq, Repr

/-- The objects stored as `beforeState` and `afterState`, one constructor for
each shape. -/
inductive AuditSnapshot where
  | bookingFinancials
      (totalAmount : Option String) (currencyCode : Option String)
  | bookingFinancialsSet
      (totalAmount : Option String) (currencyCode : Option String)
      (currencyListVersion : String) (reason : Option String)
  | paymentPlan (plan : AuditPaymentPlanSnapshot)
  | paymentPlanUnapproved (status : String)
  | paymentPlanWithdrawalBefore
      (plan : AuditPaymentPlanSnapshot)
      (installments : List AuditInstallmentSnapshot)
  | paymentPlanWithdrawalAfter
      (status : String) (withdrawnAt : Timestamp)
      (withdrawnByStaffUserId : Uuid) (reason : String)
  | paymentRecorded (bookingId : Uuid) (amount : String)
  | paymentStatus (status : String)
  | paymentStatusChange (status : String) (reason : String)
  | paymentRefundBefore (status : String) (refundedTotal : String)
  | paymentRefund
      (paymentId : Uuid) (amount : String) (reason : String)
      (allocationId : Option Uuid) (status : String)
      (refundedTotal : String)
  | allocation (paymentId : Uuid) (installmentId : Uuid) (amount : String)
  | allocationReversal (paymentAllocationId : Uuid) (reason : String)
  | receipt (paymentId : Uuid) (receiptNumber : Uuid) (amount : String)
  deriving DecidableEq, Repr

structure AuditLog where
  actorId : Uuid
  action : PaymentAuditAction
  entityType : AuditEntityType
  entityId : Uuid
  beforeState : Option AuditSnapshot
  afterState : Option AuditSnapshot
  deriving DecidableEq, Repr

/-- The part of the database the payment features read and write.  Rows stand
in insertion order. -/
structure Tables where
  bookings : List Booking
  staffAssignments : List StaffAssignment
  paymentPlans : List PaymentPlan
  installments : List Installment
  payments : List Payment
  statusHistory : List PaymentStatusHistory
  refunds : List PaymentRefund
  refundAllocations : List PaymentRefundAllocation
  allocations : List PaymentAllocation
  allocationReversals : List PaymentAllocationReversal
  receipts : List Receipt
  auditLogs : List AuditLog
  deriving DecidableEq, Repr

/-- No row in any table. -/
def Tables.empty : Tables where
  bookings := []
  staffAssignments := []
  paymentPlans := []
  installments := []
  payments := []
  statusHistory := []
  refunds := []
  refundAllocations := []
  allocations := []
  allocationReversals := []
  receipts := []
  auditLogs := []

end Heritage.Payments
