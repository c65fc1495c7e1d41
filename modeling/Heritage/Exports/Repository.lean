import Heritage.Store.Grouping
import Heritage.Payments.Repository
import Heritage.Exports.Schemas
import Heritage.Exports.Tables

/-!
# Reads of a finance export

`export-repository.ts`.  A `where` clause is a test of one row; a filter
through a required relation tests the row the reference names.  Related rows
are read by their own query under the same clause and joined through groups
and maps.  A query without an `orderBy` returns rows in insertion order.
-/

namespace Heritage.Exports.Repository

open Heritage.Store Heritage.Calendar
open Heritage.Payments
open Heritage.Payments.Repository hiding AllocationRecord

inductive FinanceExportRole where
  | adminManager
  | financeAccounting
  deriving DecidableEq, Repr

def FinanceExportRole.toRole : FinanceExportRole → Role
  | .adminManager => .adminManager
  | .financeAccounting => .financeAccounting

structure FinanceExportActor where
  id : Uuid
  role : FinanceExportRole
  deriving DecidableEq, Repr

/-- The actor as the assignment filter takes it. -/
def FinanceExportActor.toPaymentActor (actor : FinanceExportActor) :
    PaymentActor where
  id := actor.id
  role :=
    match actor.role with
    | .adminManager => .adminManager
    | .financeAccounting => .financeAccounting

structure FinanceExportActorRecheck where
  isActive : Bool
  role : Role
  asOf : Timestamp

/-- The instant in milliseconds, rounded up, of a clock that counts
microseconds. -/
def ceilToMilliseconds (clock : Int) : Timestamp :=
  -(-clock / 1000)

def recheckExportActorAndReadClock (tables : Exports.Tables) (clock : Int)
    (actorId : Uuid) : Option FinanceExportActorRecheck :=
  (findBy User.id actorId tables.users).map fun user =>
    { isActive := user.isActive
      role := user.role
      asOf := ceilToMilliseconds clock }

/-- Instants from `gte` on and before `lt`. -/
structure InstantRange where
  gte : Timestamp
  lt : Timestamp

def InstantRange.holds (range : InstantRange) (instant : Timestamp) : Bool :=
  range.gte ≤ instant ∧ instant < range.lt

/-- Days from `gte` to `lte`, each as its midnight in UTC. -/
structure DayRange where
  gte : Timestamp
  lte : Timestamp

def DayRange.holds (range : DayRange) (day : Timestamp) : Bool :=
  range.gte ≤ day ∧ day ≤ range.lte

/-- A query with an `Invalid Date` among its arguments. -/
def invalidDate : TxError :=
  .unknown "Provided Date object is invalid."

def manilaDayRange (platform : Platform) (filters : DatedFilters) :
    Except TxError (Option InstantRange) :=
  match filters.rangeFrom, filters.rangeTo with
  | some first, some last => do
      let gte ←
        demand (parseDay platform first "T00:00:00.000+08:00") invalidDate
      let start ←
        demand (parseDay platform last "T00:00:00.000+08:00") invalidDate
      let lt ← demand (timeClip (start + millisecondsPerDay)) invalidDate
      .ok (some { gte := gte, lt := lt })
  | _, _ => .ok none

def dateOnlyRange (platform : Platform) (filters : DatedFilters) :
    Except TxError (Option DayRange) :=
  match filters.rangeFrom, filters.rangeTo with
  | some first, some last => do
      let gte ← demand (parseDay platform first "T00:00:00.000Z") invalidDate
      let lte ← demand (parseDay platform last "T00:00:00.000Z") invalidDate
      .ok (some { gte := gte, lte := lte })
  | _, _ => .ok none

section Relations

variable (tables : Exports.Tables)

def ofBooking (bookingId : Uuid) (test : Booking → Bool) : Bool :=
  (findBy Booking.id bookingId tables.bookings).any test

def ofPlan (paymentPlanId : Uuid) (test : PaymentPlan → Bool) : Bool :=
  (findBy PaymentPlan.id paymentPlanId tables.paymentPlans).any test

def ofInstallment (installmentId : Uuid) (test : Installment → Bool) :
    Bool :=
  (findBy Installment.id installmentId tables.installments).any test

def ofPayment (paymentId : Uuid) (test : Payment → Bool) : Bool :=
  (findBy Payment.id paymentId tables.payments).any test

def ofRefund (refundId : Uuid) (test : PaymentRefund → Bool) : Bool :=
  (findBy PaymentRefund.id refundId tables.refunds).any test

def ofAllocation (allocationId : Uuid) (test : AllocationRow → Bool) :
    Bool :=
  (findBy (fun row : AllocationRow => row.id) allocationId
    tables.allocations).any test

end Relations

section Where

variable (platform : Platform) (tables : Exports.Tables)
  (actor : FinanceExportActor)

def scopedBookingWhere (bookingReference : Option String)
    (booking : Booking) : Bool :=
  bookingAssignmentFilter tables.ledger actor.toPaymentActor booking.id &&
    bookingReference.all fun sought => booking.bookingReference = sought

def bookingExportWhere (bookingReference : Option String)
    (booking : Booking) : Bool :=
  scopedBookingWhere tables actor bookingReference booking &&
    booking.totalAmount.isSome && booking.currencyCode.isSome

def paymentExportWhere (filters : DatedFilters)
    (status : Option PaymentStatus) : Except TxError (Payment → Bool) := do
  let range ← manilaDayRange platform filters
  .ok fun payment =>
    ofBooking tables payment.bookingId
        (scopedBookingWhere tables actor filters.bookingReference) &&
      range.all (·.holds payment.createdAt) &&
      status.all fun sought => payment.status = sought

def refundExportWhere (filters : DatedFilters) :
    Except TxError (PaymentRefund → Bool) := do
  let range ← manilaDayRange platform filters
  .ok fun refund =>
    ofPayment tables refund.paymentId
        (fun payment =>
          ofBooking tables payment.bookingId
            (scopedBookingWhere tables actor filters.bookingReference)) &&
      range.all (·.holds refund.performedAt)

def allocationExportWhere (filters : DatedFilters) :
    Except TxError (AllocationRow → Bool) := do
  let range ← manilaDayRange platform filters
  .ok fun allocation =>
    ofPayment tables allocation.paymentId
        (fun payment =>
          ofBooking tables payment.bookingId
            (scopedBookingWhere tables actor filters.bookingReference)) &&
      range.all (·.holds allocation.allocatedAt)

def installmentExportWhere (filters : DatedFilters) :
    Except TxError (Installment → Bool) := do
  let range ← dateOnlyRange platform filters
  .ok fun installment =>
    ofPlan tables installment.paymentPlanId
        (fun plan =>
          plan.status = .approved &&
            ofBooking tables plan.bookingId
              (scopedBookingWhere tables actor filters.bookingReference)) &&
      range.all (·.holds installment.dueDate)

end Where

/-- `BOOKING_LABEL_SELECT`. -/
structure BookingLabel where
  bookingReference : String
  currencyCode : Option String
  deriving DecidableEq, Repr

def selectLabel (booking : Booking) : BookingLabel where
  bookingReference := booking.bookingReference
  currencyCode := booking.currencyCode

section Relations

variable (tables : Exports.Tables)

-- References are resolved: no selection below meets a missing row.
def missingLabel : BookingLabel where
  bookingReference := ""
  currencyCode := none

def labelOfBooking (bookingId : Uuid) : BookingLabel :=
  ((findBy Booking.id bookingId tables.bookings).map selectLabel).getD
    missingLabel

def labelOfPayment (paymentId : Uuid) : BookingLabel :=
  ((findBy Payment.id paymentId tables.payments).map fun payment =>
    labelOfBooking tables payment.bookingId).getD missingLabel

def labelOfPlan (paymentPlanId : Uuid) : BookingLabel :=
  ((findBy PaymentPlan.id paymentPlanId tables.paymentPlans).map fun plan =>
    labelOfBooking tables plan.bookingId).getD missingLabel

def clientFullName (clientId : Uuid) : String :=
  ((findBy Client.id clientId tables.clients).map Client.fullName).getD ""

def clientOfBooking (bookingId : Uuid) : String :=
  ((findBy Booking.id bookingId tables.bookings).map fun booking =>
    clientFullName tables booking.clientId).getD ""

def statusOfPayment (paymentId : Uuid) : PaymentStatus :=
  ((findBy Payment.id paymentId tables.payments).map Payment.status).getD
    .pending

end Relations

/-- `amountsOf`. -/
def amountsOf {ρ : Type} (amount : ρ → MoneyAmount)
    (rows : Option (List ρ)) : List MoneyAmount :=
  (rows.getD []).map amount

/-- `orderBy: [{ createdAt: 'asc' }, { id: 'asc' }]` of any two columns. -/
def byInstant {ρ : Type} (instant : ρ → Timestamp) (id : ρ → Uuid)
    (left right : ρ) : Bool :=
  createdBefore (instant left) (id left) (instant right) (id right)

structure BookingExportRecord where
  clientFullName : String
  data : BookingPaymentSummaryData

def bookingsByReference (left right : Booking) : Bool :=
  left.bookingReference ≤ right.bookingReference

def installmentsBySequence (left right : Installment) : Bool :=
  left.sequenceNumber ≤ right.sequenceNumber

def findBookingExportRecords (tables : Exports.Tables)
    (actor : FinanceExportActor) (bookingReference : Option String) :
    List BookingExportRecord :=
  let bookingWhere := bookingExportWhere tables actor bookingReference
  let planWhere := fun plan : PaymentPlan =>
    ofBooking tables plan.bookingId bookingWhere && isActivePlan plan
  let planAllocationWhere := fun allocation : AllocationRow =>
    ofInstallment tables allocation.installmentId fun installment =>
      ofPlan tables installment.paymentPlanId planWhere
  let paymentWhere := fun payment : Payment =>
    ofBooking tables payment.bookingId bookingWhere
  let bookings :=
    (tables.bookings.filter bookingWhere).mergeSort bookingsByReference
  let plans := tables.paymentPlans.filter planWhere
  let installments :=
    (tables.installments.filter fun installment =>
      ofPlan tables installment.paymentPlanId planWhere).mergeSort
      installmentsBySequence
  let allocations :=
    (tables.allocations.filter planAllocationWhere).mergeSort
      (byInstant (·.createdAt) (·.id))
  let reversals :=
    tables.allocationReversals.filter fun reversal =>
      ofAllocation tables reversal.paymentAllocationId planAllocationWhere
  let refundAllocations :=
    tables.refundAllocations.filter fun link =>
      ofAllocation tables link.paymentAllocationId planAllocationWhere
  let payments :=
    (tables.payments.filter paymentWhere).mergeSort
      (byInstant (·.createdAt) (·.id))
  let refunds :=
    tables.refunds.filter fun refund =>
      ofPayment tables refund.paymentId paymentWhere
  let receipts :=
    tables.receipts.filter fun receipt =>
      ofPayment tables receipt.paymentId paymentWhere
  let planByBooking := keyedBy PaymentPlan.bookingId plans
  let installmentsByPlan := groupBy Installment.paymentPlanId installments
  let allocationsByInstallment :=
    groupBy (fun row : AllocationRow => row.installmentId) allocations
  let reversedAllocationIds :=
    reversals.map fun reversal => reversal.paymentAllocationId
  let refundAllocationsByAllocation :=
    groupBy PaymentRefundAllocation.paymentAllocationId refundAllocations
  let paymentsByBooking := groupBy Payment.bookingId payments
  let refundsByPayment := groupBy PaymentRefund.paymentId refunds
  let receiptByPayment := keyedBy Receipt.paymentId receipts
  let sum := fun amounts : List MoneyAmount =>
    amounts.foldl (fun total amount => total + amount.value) (0 : Int)
  bookings.map fun booking =>
    { clientFullName := clientFullName tables booking.clientId
      data :=
        { booking := selectFinancials booking
          bookingReference := booking.bookingReference
          plan :=
            (planByBooking.get booking.id).map fun plan =>
              { id := plan.id
                status := plan.status
                approvedByStaffUserId := plan.approvedByStaffUserId
                approvedAt := plan.approvedAt
                installments :=
                  ((installmentsByPlan.get plan.id).getD []).map
                    fun installment =>
                      { id := installment.id
                        dueDate := installment.dueDate
                        amount := installment.amount
                        allocations :=
                          ((allocationsByInstallment.get
                              installment.id).getD []).map
                            fun allocation =>
                              { id := allocation.id
                                paymentId := allocation.paymentId
                                amount := allocation.amount.value
                                isReversed :=
                                  allocation.id ∈ reversedAllocationIds
                                refundAllocatedTotal :=
                                  sum <|
                                    amountsOf PaymentRefundAllocation.amount <|
                                      refundAllocationsByAllocation.get
                                        allocation.id
                                paymentStatus :=
                                  statusOfPayment tables
                                    allocation.paymentId } } }
          payments :=
            ((paymentsByBooking.get booking.id).getD []).map fun payment =>
              { id := payment.id
                amount := payment.amount
                status := payment.status
                refundedTotal :=
                  sum <|
                    amountsOf PaymentRefund.amount <|
                      refundsByPayment.get payment.id
                receipt :=
                  (receiptByPayment.get payment.id).map fun receipt =>
                    { receiptNumber := receipt.receiptNumber
                      issuedAt := receipt.issuedAt } } } }

structure StatusChange where
  newStatus : PaymentStatus
  createdAt : Timestamp
  deriving DecidableEq, Repr

structure PaymentExportAllocation where
  amount : MoneyAmount
  reversal : Option Uuid
  refundAllocations : List MoneyAmount
  deriving DecidableEq, Repr

structure PaymentExportRecord where
  id : Uuid
  amount : MoneyAmount
  status : PaymentStatus
  createdAt : Timestamp
  booking : BookingLabel
  clientFullName : String
  statusHistory : List StatusChange
  refunds : List MoneyAmount
  receipt : Option SummaryReceipt
  allocations : List PaymentExportAllocation

/-- The statuses whose times an export shows. -/
def isTimedStatus (status : PaymentStatus) : Bool :=
  status = .confirmed ∨ status = .reversed ∨ status = .refunded

def findPaymentExportRecords (platform : Platform) (tables : Exports.Tables)
    (actor : FinanceExportActor) (filters : DatedFilters)
    (status : Option PaymentStatus) :
    Except TxError (List PaymentExportRecord) := do
  let paymentWhere ← paymentExportWhere platform tables actor filters status
  let allocationWhere := fun allocation : AllocationRow =>
    ofPayment tables allocation.paymentId paymentWhere
  let payments :=
    (tables.payments.filter paymentWhere).mergeSort
      (byInstant (·.createdAt) (·.id))
  let statusHistory :=
    (tables.statusHistory.filter fun change =>
      ofPayment tables change.paymentId paymentWhere &&
        isTimedStatus change.newStatus).mergeSort
      (byInstant (·.createdAt) (·.id))
  let refunds :=
    tables.refunds.filter fun refund =>
      ofPayment tables refund.paymentId paymentWhere
  let receipts :=
    tables.receipts.filter fun receipt =>
      ofPayment tables receipt.paymentId paymentWhere
  let allocations := tables.allocations.filter allocationWhere
  let reversals :=
    tables.allocationReversals.filter fun reversal =>
      ofAllocation tables reversal.paymentAllocationId allocationWhere
  let refundAllocations :=
    tables.refundAllocations.filter fun link =>
      ofAllocation tables link.paymentAllocationId allocationWhere
  let historyByPayment :=
    groupBy (fun change : StatusHistoryRow => change.paymentId) statusHistory
  let refundsByPayment := groupBy PaymentRefund.paymentId refunds
  let receiptByPayment := keyedBy Receipt.paymentId receipts
  let allocationsByPayment :=
    groupBy (fun row : AllocationRow => row.paymentId) allocations
  let reversalByAllocation :=
    keyedBy (fun row : ReversalRow => row.paymentAllocationId) reversals
  let refundAllocationsByAllocation :=
    groupBy PaymentRefundAllocation.paymentAllocationId refundAllocations
  .ok <|
    payments.map fun payment =>
      { id := payment.id
        amount := payment.amount
        status := payment.status
        createdAt := payment.createdAt
        booking := labelOfBooking tables payment.bookingId
        clientFullName := clientOfBooking tables payment.bookingId
        statusHistory :=
          ((historyByPayment.get payment.id).getD []).map fun change =>
            { newStatus := change.newStatus, createdAt := change.createdAt }
        refunds :=
          amountsOf PaymentRefund.amount (refundsByPayment.get payment.id)
        receipt :=
          (receiptByPayment.get payment.id).map fun receipt =>
            { receiptNumber := receipt.receiptNumber
              issuedAt := receipt.issuedAt }
        allocations :=
          ((allocationsByPayment.get payment.id).getD []).map fun allocation =>
            { amount := allocation.amount
              reversal :=
                (reversalByAllocation.get allocation.id).map fun reversal =>
                  reversal.id
              refundAllocations :=
                amountsOf PaymentRefundAllocation.amount
                  (refundAllocationsByAllocation.get allocation.id) } }

structure RefundExportRecord where
  id : Uuid
  paymentId : Uuid
  amount : MoneyAmount
  performedAt : Timestamp
  booking : BookingLabel
  refundAllocations : List MoneyAmount

def findRefundExportRecords (platform : Platform) (tables : Exports.Tables)
    (actor : FinanceExportActor) (filters : DatedFilters) :
    Except TxError (List RefundExportRecord) := do
  let refundWhere ← refundExportWhere platform tables actor filters
  let refunds :=
    (tables.refunds.filter refundWhere).mergeSort
      (byInstant (·.performedAt) (·.id))
  let refundAllocations :=
    tables.refundAllocations.filter fun link =>
      ofRefund tables link.paymentRefundId refundWhere
  let refundAllocationsByRefund :=
    groupBy PaymentRefundAllocation.paymentRefundId refundAllocations
  .ok <|
    refunds.map fun refund =>
      { id := refund.id
        paymentId := refund.paymentId
        amount := refund.amount
        performedAt := refund.performedAt
        booking := labelOfPayment tables refund.paymentId
        refundAllocations :=
          amountsOf PaymentRefundAllocation.amount
            (refundAllocationsByRefund.get refund.id) }

structure AllocationExportInstallment where
  sequenceNumber : Nat
  isDeposit : Bool
  dueDate : Timestamp
  deriving DecidableEq, Repr

structure AllocationExportRecord where
  id : Uuid
  paymentId : Uuid
  amount : MoneyAmount
  allocatedAt : Timestamp
  paymentStatus : PaymentStatus
  booking : BookingLabel
  installment : AllocationExportInstallment
  reversal : Option Timestamp
  refundAllocations : List MoneyAmount

def findAllocationExportRecords (platform : Platform)
    (tables : Exports.Tables) (actor : FinanceExportActor)
    (filters : DatedFilters) :
    Except TxError (List AllocationExportRecord) := do
  let allocationWhere ← allocationExportWhere platform tables actor filters
  let allocations :=
    (tables.allocations.filter allocationWhere).mergeSort
      (byInstant (·.allocatedAt) (·.id))
  let installments :=
    tables.installments.filter fun installment =>
      tables.allocations.any fun allocation =>
        allocation.installmentId = installment.id &&
          allocationWhere allocation
  let reversals :=
    tables.allocationReversals.filter fun reversal =>
      ofAllocation tables reversal.paymentAllocationId allocationWhere
  let refundAllocations :=
    tables.refundAllocations.filter fun link =>
      ofAllocation tables link.paymentAllocationId allocationWhere
  let installmentById := keyedBy Installment.id installments
  let reversalByAllocation :=
    keyedBy (fun row : ReversalRow => row.paymentAllocationId) reversals
  let refundAllocationsByAllocation :=
    groupBy PaymentRefundAllocation.paymentAllocationId refundAllocations
  allocations.mapM fun allocation => do
    let installment ←
      demand (installmentById.get allocation.installmentId)
        (.unknown "A payment allocation has no installment.")
    .ok
      { id := allocation.id
        paymentId := allocation.paymentId
        amount := allocation.amount
        allocatedAt := allocation.allocatedAt
        paymentStatus := statusOfPayment tables allocation.paymentId
        booking := labelOfPayment tables allocation.paymentId
        installment :=
          { sequenceNumber := installment.sequenceNumber
            isDeposit := installment.isDeposit
            dueDate := installment.dueDate }
        reversal :=
          (reversalByAllocation.get allocation.id).map ReversalRow.createdAt
        refundAllocations :=
          amountsOf PaymentRefundAllocation.amount
            (refundAllocationsByAllocation.get allocation.id) }

structure InstallmentExportAllocation where
  amount : MoneyAmount
  reversal : Option Uuid
  refundAllocations : List MoneyAmount
  paymentStatus : PaymentStatus
  deriving DecidableEq, Repr

structure InstallmentExportRecord where
  sequenceNumber : Nat
  isDeposit : Bool
  amount : MoneyAmount
  dueDate : Timestamp
  booking : BookingLabel
  allocations : List InstallmentExportAllocation

/-- `orderBy` the booking's reference, then the sequence number. -/
def installmentsByBooking (tables : Exports.Tables)
    (left right : Installment) : Bool :=
  let leftReference := (labelOfPlan tables left.paymentPlanId).bookingReference
  let rightReference :=
    (labelOfPlan tables right.paymentPlanId).bookingReference
  leftReference < rightReference ∨
    leftReference = rightReference ∧
      left.sequenceNumber ≤ right.sequenceNumber

def findInstallmentExportRecords (platform : Platform)
    (tables : Exports.Tables) (actor : FinanceExportActor)
    (filters : DatedFilters) :
    Except TxError (List InstallmentExportRecord) := do
  let installmentWhere ← installmentExportWhere platform tables actor filters
  let allocationWhere := fun allocation : AllocationRow =>
    ofInstallment tables allocation.installmentId installmentWhere
  let installments :=
    (tables.installments.filter installmentWhere).mergeSort
      (installmentsByBooking tables)
  let allocations := tables.allocations.filter allocationWhere
  let reversals :=
    tables.allocationReversals.filter fun reversal =>
      ofAllocation tables reversal.paymentAllocationId allocationWhere
  let refundAllocations :=
    tables.refundAllocations.filter fun link =>
      ofAllocation tables link.paymentAllocationId allocationWhere
  let allocationsByInstallment :=
    groupBy (fun row : AllocationRow => row.installmentId) allocations
  let reversalByAllocation :=
    keyedBy (fun row : ReversalRow => row.paymentAllocationId) reversals
  let refundAllocationsByAllocation :=
    groupBy PaymentRefundAllocation.paymentAllocationId refundAllocations
  .ok <|
    installments.map fun installment =>
      { sequenceNumber := installment.sequenceNumber
        isDeposit := installment.isDeposit
        amount := installment.amount
        dueDate := installment.dueDate
        booking := labelOfPlan tables installment.paymentPlanId
        allocations :=
          ((allocationsByInstallment.get installment.id).getD []).map
            fun allocation =>
              { amount := allocation.amount
                reversal :=
                  (reversalByAllocation.get allocation.id).map
                    fun reversal => reversal.id
                refundAllocations :=
                  amountsOf PaymentRefundAllocation.amount
                    (refundAllocationsByAllocation.get allocation.id)
                paymentStatus :=
                  statusOfPayment tables allocation.paymentId } }

def countFinanceExportRows (platform : Platform) (tables : Exports.Tables)
    (actor : FinanceExportActor) :
    FinanceExportRequest → Except TxError Nat
  | .bookings bookingReference =>
      .ok
        (tables.bookings.countP
          (bookingExportWhere tables actor bookingReference))
  | .payments filters status => do
      let test ← paymentExportWhere platform tables actor filters status
      .ok (tables.payments.countP test)
  | .refunds filters => do
      let test ← refundExportWhere platform tables actor filters
      .ok (tables.refunds.countP test)
  | .allocations filters => do
      let test ← allocationExportWhere platform tables actor filters
      .ok (tables.allocations.countP test)
  | .installments filters => do
      let test ← installmentExportWhere platform tables actor filters
      .ok (tables.installments.countP test)

end Heritage.Exports.Repository
