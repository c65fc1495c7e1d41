import Heritage.Payments.Service

/-!
# The payment system

One request after another against one database.  Besides the payment
operations the database sees what other features write: new bookings, booking
statuses and staff assignments.
-/

namespace Heritage.Payments

open Heritage.Store
open Repository

inductive Operation where
  | setBookingFinancials (input : SetBookingFinancialsInput)
  | proposePaymentPlan (input : ProposePaymentPlanInput)
  | approvePaymentPlan (input : ApprovePaymentPlanInput)
  | withdrawPaymentPlan (input : WithdrawPaymentPlanInput)
  | recordPayment (input : RecordPaymentInput)
  | confirmPayment (input : ConfirmPaymentInput)
  | reversePayment (input : ReversePaymentInput)
  | refundPayment (input : RefundPaymentInput)
  | issueReceipt (input : IssueReceiptInput)
  | createAllocation (input : CreateAllocationInput)
  | reverseAllocation (input : ReverseAllocationInput)
  deriving DecidableEq

inductive Response where
  | bookingFinancials (financials : BookingFinancials)
  | paymentPlan (plan : PaymentPlan)
  | payment (payment : PaymentRecord)
  | refund (result : RefundPaymentResult)
  | receipt (result : IssueReceiptResult)
  | allocation (allocation : AllocationRecord)
  | allocationReversal (reversal : AllocationReversalRecord)
  deriving DecidableEq

/-- An operation with its result as a `Response`. -/
def answering {α : Type} (respond : α → Response) (operation : Effect α) :
    Effect Response :=
  fun tables => ((operation tables).1.map respond, (operation tables).2)

def perform (context : RequestContext) (actor : AuthenticatedUser) :
    Operation → Effect Response
  | .setBookingFinancials input =>
      answering .bookingFinancials (setBookingFinancials actor input)
  | .proposePaymentPlan input =>
      answering .paymentPlan (proposePaymentPlan context actor input)
  | .approvePaymentPlan input =>
      answering .paymentPlan (approvePaymentPlan context actor input)
  | .withdrawPaymentPlan input =>
      answering .paymentPlan (withdrawPaymentPlan context actor input)
  | .recordPayment input =>
      answering .payment (recordPayment context actor input)
  | .confirmPayment input =>
      answering .payment (confirmPayment actor input)
  | .reversePayment input =>
      answering .payment (reversePayment actor input)
  | .refundPayment input =>
      answering .refund (refundPayment context actor input)
  | .issueReceipt input =>
      answering .receipt (issueReceipt context actor input)
  | .createAllocation input =>
      answering .allocation (createAllocation context actor input)
  | .reverseAllocation input =>
      answering .allocationReversal (reverseAllocation context actor input)

inductive Request where
  | operation (context : RequestContext) (actor : AuthenticatedUser)
      (operation : Operation)
  | bookingAdded (booking : Booking)
  | bookingStatusChanged (bookingId : Uuid) (status : BookingStatus)
  | assignmentsChanged (staffAssignments : List StaffAssignment)

/-- The booking in another status. -/
def withBookingStatus (status : BookingStatus) (booking : Booking) :
    Booking :=
  { booking with status := status }

def step (tables : Tables) : Request → Tables
  | .operation context actor operation =>
      (perform context actor operation tables).2
  | .bookingAdded booking =>
      if (findBy Booking.id booking.id tables.bookings).isNone then
        { tables with bookings := tables.bookings ++ [booking] }
      else
        tables
  | .bookingStatusChanged bookingId status =>
      { tables with
        bookings :=
          updateBy Booking.id bookingId (withBookingStatus status)
            tables.bookings }
  | .assignmentsChanged staffAssignments =>
      { tables with staffAssignments := staffAssignments }

/-- The tables after `requests` on an empty database. -/
def tablesAfter (requests : List Request) : Tables :=
  run step Tables.empty requests

end Heritage.Payments
