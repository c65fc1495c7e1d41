import Heritage.Payments.System
import Heritage.Payments.Ledger

/-!
# The writes of the payment system

What a committed transaction may do to the tables, without the order of the
checks, the replays and the error messages: one constructor of `Commit` for
each kind of write, with the facts its transaction established before it.
-/

namespace Heritage.Payments

open Heritage.Store
open Repository

/-- Tables with more audit entries. -/
def audited (tables : Tables) (logs : List AuditLog) : Tables :=
  { tables with auditLogs := tables.auditLogs ++ logs }

def repriced (tables : Tables) (bookingId : Uuid)
    (totalAmount : MoneyAmount) (currencyCode : String) : Tables :=
  { tables with
    bookings :=
      updateBy Booking.id bookingId (withFinancials totalAmount currencyCode)
        tables.bookings }

def proposed (tables : Tables) (rows : CreatePaymentPlanInput) : Tables :=
  { tables with
    paymentPlans := tables.paymentPlans ++ [rows.row]
    installments := tables.installments ++ rows.installmentRows }

def replanned (tables : Tables) (paymentPlanId : Uuid)
    (change : PaymentPlan → PaymentPlan) : Tables :=
  { tables with
    paymentPlans :=
      updateBy PaymentPlan.id paymentPlanId change tables.paymentPlans }

def recorded (tables : Tables) (row : CreatePendingPaymentInput) : Tables :=
  { tables with
    payments := tables.payments ++ [row.row]
    statusHistory := tables.statusHistory ++ [row.historyRow] }

def transitioned (tables : Tables) (paymentId : Uuid)
    (newStatus : PaymentStatus) (entry : PaymentStatusHistory) : Tables :=
  { tables with
    payments :=
      updateBy Payment.id paymentId (withStatus newStatus) tables.payments
    statusHistory := tables.statusHistory ++ [entry] }

def refunded (tables : Tables) (row : CreateRefundInput) : Tables :=
  { tables with
    refunds := tables.refunds ++ [row.row]
    refundAllocations := tables.refundAllocations ++ row.linkRows }

def allocated (tables : Tables) (row : PaymentAllocation) : Tables :=
  { tables with allocations := tables.allocations ++ [row] }

def unallocated (tables : Tables) (row : PaymentAllocationReversal) :
    Tables :=
  { tables with
    allocationReversals := tables.allocationReversals ++ [row] }

def receipted (tables : Tables) (row : Receipt) : Tables :=
  { tables with receipts := tables.receipts ++ [row] }

/-- None of the entries is about a refund. -/
def NoRefundEntry (logs : List AuditLog) : Prop :=
  ∀ log ∈ logs, log.action ≠ .paymentRefunded

def paymentRecordedLog (actorId paymentId bookingId : Uuid)
    (amount : MoneyAmount) : AuditLog where
  actorId := actorId
  action := .paymentRecorded
  entityType := .payment
  entityId := paymentId
  beforeState := none
  afterState := some (.paymentRecorded bookingId (toFixed2 amount.value))

def transitionRow (actorId : Uuid) (payment : Payment)
    (newStatus : PaymentStatus) (reason idempotencyKey : String) :
    PaymentStatusHistory where
  paymentId := payment.id
  previousStatus := some payment.status
  newStatus := newStatus
  changedByUserId := actorId
  reason := some reason
  idempotencyKey := some idempotencyKey

def statusChangedLog (actorId : Uuid) (payment : Payment)
    (newStatus : PaymentStatus) (reason : String) : AuditLog where
  actorId := actorId
  action := .paymentStatusChanged
  entityType := .payment
  entityId := payment.id
  beforeState := some (.paymentStatus payment.status.text)
  afterState := some (.paymentStatusChange newStatus.text reason)

def paymentRefundedLog (tables : Tables) (actorId : Uuid)
    (payment : Payment) (amount : MoneyAmount) (reason : String)
    (allocationId : Option Uuid) : AuditLog :=
  let refundedTotal := sumRefundsForPayment tables payment.id
  { actorId := actorId
    action := .paymentRefunded
    entityType := .payment
    entityId := payment.id
    beforeState :=
      some (.paymentRefundBefore payment.status.text (toFixed2 refundedTotal))
    afterState :=
      some <|
        .paymentRefund payment.id (toFixed2 amount.value) reason allocationId
          (if refundedTotal + amount.value = payment.amount.value then
            PaymentStatus.refunded.text
          else
            payment.status.text)
          (toFixed2 (refundedTotal + amount.value)) }

/-- The booking is not cancelled. -/
def OpenBooking (tables : Tables) (bookingId : Uuid) : Prop :=
  findBookingStatus tables bookingId ≠ some .cancelled

structure ProposalPermitted (tables : Tables) (booking : Booking)
    (rows : CreatePaymentPlanInput) : Prop where
  foundBooking :
    findBy Booking.id rows.bookingId tables.bookings = some booking
  priced : booking.totalAmount.isSome
  freshId : findBy PaymentPlan.id rows.id tables.paymentPlans = none
  noActivePlan :
    ∀ plan ∈ tables.paymentPlans,
      plan.bookingId = rows.bookingId → plan.status = .withdrawn
  distinctInstallments :
    ((tables.installments ++ rows.installmentRows).map Installment.id).Nodup

structure ApprovalPermitted (tables : Tables) (plan : PaymentPlan)
    (booking : Booking) (totalAmount : MoneyAmount) : Prop where
  foundPlan :
    findBy PaymentPlan.id plan.id tables.paymentPlans = some plan
  isProposed : plan.status = .proposed
  foundBooking :
    findBy Booking.id plan.bookingId tables.bookings = some booking
  priced : booking.totalAmount = some totalAmount
  reconciled : sumInstallmentAmounts tables plan.id = totalAmount.value

structure RecordPermitted (tables : Tables) (booking : Booking)
    (row : CreatePendingPaymentInput) : Prop where
  foundBooking :
    findBy Booking.id row.bookingId tables.bookings = some booking
  priced : booking.currencyCode.isSome
  freshId : findBy Payment.id row.id tables.payments = none

structure RefundPermitted (tables : Tables) (payment : Payment)
    (row : CreateRefundInput) : Prop where
  foundPayment : findBy Payment.id payment.id tables.payments = some payment
  ownPayment : row.paymentId = payment.id
  confirmed : payment.status = .confirmed
  freshId : findBy PaymentRefund.id row.id tables.refunds = none
  within :
    sumRefundsForPayment tables payment.id + row.amount.value ≤
      payment.amount.value
  linkable :
    ∀ allocationId, row.allocationId = some allocationId →
      ∃ allocation,
        findBy PaymentAllocation.id allocationId tables.allocations =
            some allocation ∧
          allocation.paymentId = payment.id ∧
          isReversed tables allocationId = false ∧
          linkedTotal tables allocationId + row.amount.value ≤
            allocation.amount.value
  covered :
    netActiveOfPayment tables payment.id -
        (if row.allocationId.isSome then row.amount.value else 0) ≤
      payment.amount.value -
        (sumRefundsForPayment tables payment.id + row.amount.value)

structure AllocationPermitted (tables : Tables) (payment : Payment)
    (installment : Installment) (plan : PaymentPlan)
    (row : PaymentAllocation) : Prop where
  foundPayment :
    findBy Payment.id row.paymentId tables.payments = some payment
  foundInstallment :
    findBy Installment.id row.installmentId tables.installments =
      some installment
  foundPlan :
    findBy PaymentPlan.id installment.paymentPlanId tables.paymentPlans =
      some plan
  sameBooking : plan.bookingId = payment.bookingId
  approved : plan.status = .approved
  freshId : findBy PaymentAllocation.id row.id tables.allocations = none
  refundsWithin :
    sumRefundsForPayment tables row.paymentId ≤ payment.amount.value
  withinPayment :
    netActiveOfPayment tables row.paymentId + row.amount.value ≤
      computeNetContribution
        { status := payment.status
          amount := payment.amount.value
          refundedTotal := sumRefundsForPayment tables row.paymentId }
  withinInstallment :
    netActiveOfInstallment tables row.installmentId + row.amount.value ≤
      installment.amount.value

inductive WriteKind where
  | booking
  | bookingStatus
  | assignments
  | financials
  | proposal
  | approval
  | withdrawal
  | recording
  | confirmation
  | paymentReversal
  | refund
  | allocation
  | allocationReversal
  | receipt
  deriving DecidableEq

/-- One committed write of a kind.  The two refund constructors differ in
whether the refund completes its payment. -/
inductive Commit (tables : Tables) : WriteKind → Tables → Prop where
  | bookingAdded (booking : Booking)
      (freshId : findBy Booking.id booking.id tables.bookings = none) :
      Commit tables .booking { tables with bookings := tables.bookings ++ [booking] }
  | bookingStatusChanged (bookingId : Uuid) (status : BookingStatus) :
      Commit tables .bookingStatus
        { tables with
          bookings :=
            updateBy Booking.id bookingId (withBookingStatus status)
              tables.bookings }
  | assignmentsChanged (staffAssignments : List StaffAssignment) :
      Commit tables .assignments { tables with staffAssignments := staffAssignments }
  | financialsSet (bookingId : Uuid) (totalAmount : MoneyAmount)
      (currencyCode : String) (logs : List AuditLog)
      (unlocked : hasFinancialLock tables bookingId = false) :
      Commit tables .financials
        (audited (repriced tables bookingId totalAmount currencyCode) logs)
  | planProposed (booking : Booking) (rows : CreatePaymentPlanInput)
      (logs : List AuditLog)
      (permitted : ProposalPermitted tables booking rows) :
      Commit tables .proposal (audited (proposed tables rows) logs)
  | planApproved (plan : PaymentPlan) (booking : Booking)
      (totalAmount : MoneyAmount) (row : ApprovePaymentPlanRowInput)
      (logs : List AuditLog)
      (permitted : ApprovalPermitted tables plan booking totalAmount) :
      Commit tables .approval (audited (replanned tables plan.id row.change) logs)
  | planWithdrawn (plan : PaymentPlan) (row : WithdrawPaymentPlanRowInput)
      (logs : List AuditLog)
      (foundPlan :
        findBy PaymentPlan.id plan.id tables.paymentPlans = some plan)
      (isProposed : plan.status = .proposed) :
      Commit tables .withdrawal (audited (replanned tables plan.id row.change) logs)
  | paymentRecorded (booking : Booking) (row : CreatePendingPaymentInput)
      (logs : List AuditLog)
      (permitted : RecordPermitted tables booking row) :
      Commit tables .recording (audited (recorded tables row) logs)
  | paymentConfirmed (payment : Payment) (entry : PaymentStatusHistory)
      (logs : List AuditLog)
      (foundPayment :
        findBy Payment.id payment.id tables.payments = some payment)
      (ownEntry : entry.paymentId = payment.id)
      (pending : payment.status = .pending) :
      Commit tables .confirmation
        (audited (transitioned tables payment.id .confirmed entry) logs)
  | paymentReversed (payment : Payment) (entry : PaymentStatusHistory)
      (logs : List AuditLog)
      (foundPayment :
        findBy Payment.id payment.id tables.payments = some payment)
      (ownEntry : entry.paymentId = payment.id)
      (confirmed : payment.status = .confirmed)
      (unrefunded : sumRefundsForPayment tables payment.id ≤ 0) :
      Commit tables .paymentReversal
        (audited (transitioned tables payment.id .reversed entry) logs)
  | refundIssued (payment : Payment) (row : CreateRefundInput)
      (logs : List AuditLog)
      (permitted : RefundPermitted tables payment row)
      (remaining :
        sumRefundsForPayment tables payment.id + row.amount.value ≠
          payment.amount.value) :
      Commit tables .refund (audited (refunded tables row) logs)
  | refundCompleted (payment : Payment) (row : CreateRefundInput)
      (entry : PaymentStatusHistory) (logs : List AuditLog)
      (permitted : RefundPermitted tables payment row)
      (ownEntry : entry.paymentId = payment.id)
      (completes :
        sumRefundsForPayment tables payment.id + row.amount.value =
          payment.amount.value) :
      Commit tables .refund
        (audited
          (transitioned (refunded tables row) payment.id .refunded entry)
          logs)
  | allocationCreated (payment : Payment) (installment : Installment)
      (plan : PaymentPlan) (row : PaymentAllocation) (logs : List AuditLog)
      (permitted :
        AllocationPermitted tables payment installment plan row) :
      Commit tables .allocation (audited (allocated tables row) logs)
  | allocationReversed (allocation : PaymentAllocation)
      (row : PaymentAllocationReversal) (logs : List AuditLog)
      (foundAllocation :
        findBy PaymentAllocation.id row.paymentAllocationId
          tables.allocations = some allocation)
      (notReversed : isReversed tables row.paymentAllocationId = false)
      (notLinked :
        ∀ link ∈ tables.refundAllocations,
          link.paymentAllocationId ≠ row.paymentAllocationId) :
      Commit tables .allocationReversal (audited (unallocated tables row) logs)
  | receiptIssued (payment : Payment) (booking : Booking) (row : Receipt)
      (logs : List AuditLog)
      (foundPayment :
        findBy Payment.id row.paymentId tables.payments = some payment)
      (foundBooking :
        findBy Booking.id payment.bookingId tables.bookings = some booking)
      (sameAmount : row.amount = payment.amount.value)
      (sameCurrency : booking.currencyCode = some row.currencyCode) :
      Commit tables .receipt (audited (receipted tables row) logs)

def Operation.kind : Operation → WriteKind
  | .setBookingFinancials _ => .financials
  | .proposePaymentPlan _ => .proposal
  | .approvePaymentPlan _ => .approval
  | .withdrawPaymentPlan _ => .withdrawal
  | .recordPayment _ => .recording
  | .confirmPayment _ => .confirmation
  | .reversePayment _ => .paymentReversal
  | .refundPayment _ => .refund
  | .issueReceipt _ => .receipt
  | .createAllocation _ => .allocation
  | .reverseAllocation _ => .allocationReversal

def Request.kind : Request → WriteKind
  | .operation _ _ requested => requested.kind
  | .bookingAdded _ => .booking
  | .bookingStatusChanged _ _ => .bookingStatus
  | .assignmentsChanged _ => .assignments

end Heritage.Payments
