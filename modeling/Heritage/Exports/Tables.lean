import Heritage.Shared.Contact
import Heritage.Payments.Integrity

/-!
# The database an export reads

The payment tables with the columns the payment features do not read, the
accounts and clients beside them, and the audit entries of both.  A
`Database` is tables that satisfy the keys, indexes and references of the
schema.
-/

namespace Heritage.Exports

open Heritage.Payments (Booking PaymentPlan Installment Payment PaymentRefund
  PaymentRefundAllocation PaymentAllocation PaymentAllocationReversal Receipt
  PaymentStatusHistory AuditLog Integrity)

/-- A row of `user`, as far as the export reads it. -/
structure User where
  id : Uuid
  role : Role
  isActive : Bool
  deriving DecidableEq, Repr

structure StatusHistoryRow extends PaymentStatusHistory where
  id : Uuid
  createdAt : Timestamp
  deriving DecidableEq, Repr

structure AllocationRow extends PaymentAllocation where
  allocatedAt : Timestamp
  deriving DecidableEq, Repr

structure ReversalRow extends PaymentAllocationReversal where
  createdAt : Timestamp
  deriving DecidableEq, Repr

inductive FinanceExportScope where
  | allBookings
  | assignedBookings
  deriving DecidableEq, Repr

/-- `AuditFinanceExportSnapshot`. -/
structure AuditFinanceExportSnapshot where
  dataset : String
  formatVersion : String
  rangeFrom : Option String
  rangeTo : Option String
  bookingReference : Option String
  status : Option String
  scope : FinanceExportScope
  actorRole : Role
  rowCount : Nat
  bookingCount : Nat
  asOf : String
  deriving DecidableEq, Repr

/-- An entry with action `FINANCE_EXPORT_GENERATED` on a `FinanceExport`. -/
structure FinanceExportAuditLog where
  actorId : Uuid
  entityId : Uuid
  afterState : AuditFinanceExportSnapshot
  deriving DecidableEq, Repr

inductive AuditEntry where
  | payment (log : AuditLog)
  | financeExport (log : FinanceExportAuditLog)
  deriving DecidableEq, Repr

/-- The entry of a payment feature. -/
def AuditEntry.payment? : AuditEntry → Option AuditLog
  | .payment log => some log
  | .financeExport _ => none

structure Tables where
  users : List User
  clients : List Client
  bookings : List Booking
  staffAssignments : List StaffAssignment
  paymentPlans : List PaymentPlan
  installments : List Installment
  payments : List Payment
  statusHistory : List StatusHistoryRow
  refunds : List PaymentRefund
  refundAllocations : List PaymentRefundAllocation
  allocations : List AllocationRow
  allocationReversals : List ReversalRow
  receipts : List Receipt
  auditLogs : List AuditEntry
  deriving DecidableEq

/-- The columns and tables of the payment features. -/
def Tables.ledger (tables : Tables) : Payments.Tables where
  bookings := tables.bookings
  staffAssignments := tables.staffAssignments
  paymentPlans := tables.paymentPlans
  installments := tables.installments
  payments := tables.payments
  statusHistory :=
    tables.statusHistory.map StatusHistoryRow.toPaymentStatusHistory
  refunds := tables.refunds
  refundAllocations := tables.refundAllocations
  allocations := tables.allocations.map AllocationRow.toPaymentAllocation
  allocationReversals :=
    tables.allocationReversals.map ReversalRow.toPaymentAllocationReversal
  receipts := tables.receipts
  auditLogs := tables.auditLogs.filterMap AuditEntry.payment?

/-- What the database enforces on the rows an export reads. -/
structure Constraints (tables : Tables) : Prop where
  /-- The primary keys and references of the payment tables. -/
  ledger : Integrity tables.ledger
  userIds : (tables.users.map User.id).Nodup
  clientIds : (tables.clients.map Client.id).Nodup
  refundIds : (tables.refunds.map PaymentRefund.id).Nodup
  bookingClients :
    tables.bookings.map Booking.clientId ⊆ tables.clients.map Client.id
  bookingReferences : (tables.bookings.map Booking.bookingReference).Nodup
  /-- `payment_plan_active_booking_key`. -/
  activePlans :
    ((tables.paymentPlans.filter fun plan => plan.status ≠ .withdrawn).map
      PaymentPlan.bookingId).Nodup
  receiptPayments : (tables.receipts.map Receipt.paymentId).Nodup
  reversedAllocations :
    (tables.allocationReversals.map
      fun reversal => reversal.paymentAllocationId).Nodup

structure Database where
  tables : Tables
  constraints : Constraints tables

end Heritage.Exports
