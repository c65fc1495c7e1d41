import Heritage.Payments.Service
import Heritage.Exports.Csv
import Heritage.Exports.Repository

/-!
# Rows of a finance export

`export-rows.ts`: a record becomes a row of cells.  A value that breaks an
invariant of the ledger refuses the export and names its column.
-/

namespace Heritage.Exports

open Heritage.Store Heritage.Payments
open Payments.Repository (SummaryPayment)
open Repository (PaymentExportRecord RefundExportRecord
  AllocationExportRecord InstallmentExportRecord)

/-- `FINANCE_EXPORT_COLUMNS`. -/
def financeExportColumns : FinanceExportDataset → List String
  | .bookings =>
      ["bookingReference", "clientFullName", "currencyCode",
        "bookingTotalAmount", "derivedNetConfirmedPaid",
        "derivedRemainingBalance", "derivedOverpayment",
        "derivedUnappliedCredit", "derivedNextDueDate",
        "derivedNextDueOutstandingAmount", "paymentPlanStatus", "asOf"]
  | .payments =>
      ["paymentId", "bookingReference", "clientFullName", "currencyCode",
        "amount", "status", "recordedAt", "confirmedAt", "reversedAt",
        "fullyRefundedAt", "derivedRefundedTotal", "derivedNetContribution",
        "derivedNetAllocated", "derivedUnallocated", "receiptNumber",
        "receiptIssuedAt", "asOf"]
  | .refunds =>
      ["refundId", "paymentId", "bookingReference", "currencyCode", "amount",
        "performedAt", "derivedAllocatedPortion", "asOf"]
  | .allocations =>
      ["allocationId", "paymentId", "paymentStatus", "bookingReference",
        "currencyCode", "installmentSequenceNumber", "installmentIsDeposit",
        "installmentDueDate", "amount", "allocatedAt", "reversed",
        "reversedAt", "derivedRefundedThroughAllocation", "derivedNetActive",
        "asOf"]
  | .installments =>
      ["bookingReference", "currencyCode", "sequenceNumber", "isDeposit",
        "amount", "dueDate", "derivedNetActiveAllocation",
        "derivedOutstandingAmount", "asOf"]

def blank : String := ""

def sumAmounts (items : List MoneyAmount) : Int :=
  items.foldl (fun total item => total + item.value) 0

def integrityFailure (column : String) : TxError :=
  .unknown
    ("Finance export refused: stored data failed the integrity check for " ++
      column ++ ".")

def requireCurrencyCode (column : String) (currencyCode : Option String) :
    Except TxError String :=
  demand currencyCode (integrityFailure column)

def formatNonNegativeDerived (column : String) (value : Int) :
    Except TxError String := do
  require (¬ value < 0) (integrityFailure column)
  .ok (formatAmount value)

def formatBoolean (value : Bool) : String :=
  if value then "true" else "false"

def requireRefundsWithinAmount (column : String) (amount : MoneyAmount)
    (refundedTotal : Int) : Except TxError Unit :=
  require (¬ amount.value < refundedTotal) (integrityFailure column)

def requireBookingRefundsWithinAmounts (payments : List SummaryPayment) :
    Except TxError Unit :=
  payments.forM fun payment =>
    requireRefundsWithinAmount "bookings.derivedNetConfirmedPaid"
      payment.amount payment.refundedTotal

def shapeBookingRow (summary : StaffBookingPaymentBalances)
    (planStatus : Option PaymentPlanStatus) (clientFullName asOf : String) :
    Except TxError (List String) := do
  let noTotal : TxError :=
    .unknown "A finance export booking row has no total amount."
  let totalAmount ← demand summary.totalAmount noTotal
  let remainingBalance ← demand summary.remainingBalance noTotal
  let overpayment ← demand summary.overpayment noTotal
  let nextDue := if summary.planApproved then summary.nextPaymentDue else none
  let nextDueAmount :=
    if summary.planApproved then summary.nextPaymentDueAmount else none
  let currencyCode ←
    requireCurrencyCode "bookings.currencyCode" summary.currencyCode
  let unappliedCredit ←
    formatNonNegativeDerived "bookings.derivedUnappliedCredit"
      summary.unappliedCredit
  .ok
    [summary.bookingReference, clientFullName, currencyCode,
      formatAmount totalAmount.value,
      formatAmount summary.confirmedAmountPaid,
      formatAmount remainingBalance, formatAmount overpayment,
      unappliedCredit, (nextDue.map formatDateOnly).getD blank,
      (nextDueAmount.map formatAmount).getD blank,
      (planStatus.map PaymentPlanStatus.text).getD blank, asOf]

/-- The time of the first change to a status. -/
def statusTime (payment : PaymentExportRecord) (status : PaymentStatus) :
    String :=
  ((payment.statusHistory.find? fun change => change.newStatus = status).map
    fun change => formatManilaTimestamp change.createdAt).getD blank

def shapePaymentRow (asOf : String) (payment : PaymentExportRecord) :
    Except TxError (List String) := do
  let refundedTotal := sumAmounts payment.refunds
  requireRefundsWithinAmount "payments.derivedRefundedTotal" payment.amount
    refundedTotal
  let netContribution :=
    computeNetContribution
      { status := payment.status
        amount := payment.amount.value
        refundedTotal := refundedTotal }
  let netAllocated :=
    computeNetActiveAllocation <|
      payment.allocations.map fun allocation =>
        { amount := allocation.amount.value
          paymentStatus := payment.status
          isReversed := allocation.reversal.isSome
          refundAllocatedTotal := sumAmounts allocation.refundAllocations }
  let currencyCode ←
    requireCurrencyCode "payments.currencyCode" payment.booking.currencyCode
  let allocatedText ←
    formatNonNegativeDerived "payments.derivedNetAllocated" netAllocated
  let unallocatedText ←
    formatNonNegativeDerived "payments.derivedUnallocated"
      (netContribution - netAllocated)
  .ok
    [uuidText payment.id, payment.booking.bookingReference,
      payment.clientFullName, currencyCode,
      formatAmount payment.amount.value, payment.status.text,
      formatManilaTimestamp payment.createdAt, statusTime payment .confirmed,
      statusTime payment .reversed, statusTime payment .refunded,
      formatAmount refundedTotal, formatAmount netContribution,
      allocatedText, unallocatedText,
      (payment.receipt.map fun receipt =>
        uuidText receipt.receiptNumber).getD blank,
      (payment.receipt.map fun receipt =>
        formatManilaTimestamp receipt.issuedAt).getD blank,
      asOf]

def shapeRefundRow (asOf : String) (refund : RefundExportRecord) :
    Except TxError (List String) := do
  let currencyCode ←
    requireCurrencyCode "refunds.currencyCode" refund.booking.currencyCode
  .ok
    [uuidText refund.id, uuidText refund.paymentId,
      refund.booking.bookingReference, currencyCode,
      formatAmount refund.amount.value,
      formatManilaTimestamp refund.performedAt,
      formatAmount (sumAmounts refund.refundAllocations), asOf]

def shapeAllocationRow (asOf : String) (allocation : AllocationExportRecord) :
    Except TxError (List String) := do
  let isReversed := allocation.reversal.isSome
  let refundedThroughAllocation := sumAmounts allocation.refundAllocations
  let currencyCode ←
    requireCurrencyCode "allocations.currencyCode"
      allocation.booking.currencyCode
  let netActive ←
    formatNonNegativeDerived "allocations.derivedNetActive" <|
      computeNetActiveAllocation
        [{ amount := allocation.amount.value
           paymentStatus := allocation.paymentStatus
           isReversed := isReversed
           refundAllocatedTotal := refundedThroughAllocation }]
  .ok
    [uuidText allocation.id, uuidText allocation.paymentId,
      allocation.paymentStatus.text, allocation.booking.bookingReference,
      currencyCode, toString allocation.installment.sequenceNumber,
      formatBoolean allocation.installment.isDeposit,
      formatDateOnly allocation.installment.dueDate,
      formatAmount allocation.amount.value,
      formatManilaTimestamp allocation.allocatedAt, formatBoolean isReversed,
      (allocation.reversal.map formatManilaTimestamp).getD blank,
      formatAmount refundedThroughAllocation, netActive, asOf]

def shapeInstallmentRow (asOf : String)
    (installment : InstallmentExportRecord) : Except TxError (List String) := do
  let netActiveAllocation :=
    computeNetActiveAllocation <|
      installment.allocations.map fun allocation =>
        { amount := allocation.amount.value
          paymentStatus := allocation.paymentStatus
          isReversed := allocation.reversal.isSome
          refundAllocatedTotal := sumAmounts allocation.refundAllocations }
  let currencyCode ←
    requireCurrencyCode "installments.currencyCode"
      installment.booking.currencyCode
  let allocatedText ←
    formatNonNegativeDerived "installments.derivedNetActiveAllocation"
      netActiveAllocation
  .ok
    [installment.booking.bookingReference, currencyCode,
      toString installment.sequenceNumber,
      formatBoolean installment.isDeposit,
      formatAmount installment.amount.value,
      formatDateOnly installment.dueDate, allocatedText,
      formatAmount
        (computeOutstandingInstallmentAmount installment.amount.value
          netActiveAllocation),
      asOf]

end Heritage.Exports
