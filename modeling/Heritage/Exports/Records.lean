import Heritage.Store.Loops
import Heritage.Exports.Summaries

/-!
# The record of a row

What an export assembles for one payment, refund, allocation or installment,
as a function of the stored rows alone; each dataset is its selected rows, in
its order, each turned into its record.
-/

namespace Heritage.Exports.Repository

open Heritage.Store Heritage.Calendar
open Heritage.Payments
open Heritage.Payments.Repository hiding AllocationRecord

section Rows

variable (tables : Exports.Tables)

def linkAmounts (allocationId : Uuid) : List MoneyAmount :=
  (tables.refundAllocations.filter fun link =>
    link.paymentAllocationId = allocationId).map
    PaymentRefundAllocation.amount

def reversalOf (allocationId : Uuid) : Option ReversalRow :=
  findBy (fun row : ReversalRow => row.paymentAllocationId) allocationId
    tables.allocationReversals

def refundAmounts (paymentId : Uuid) : List MoneyAmount :=
  (tables.refunds.filter fun refund => refund.paymentId = paymentId).map
    PaymentRefund.amount

def receiptOf (paymentId : Uuid) : Option SummaryReceipt :=
  (findBy Receipt.paymentId paymentId tables.receipts).map fun receipt =>
    { receiptNumber := receipt.receiptNumber, issuedAt := receipt.issuedAt }

def statusChanges (paymentId : Uuid) : List StatusChange :=
  ((tables.statusHistory.filter fun change =>
      change.paymentId = paymentId && isTimedStatus change.newStatus).mergeSort
    (byInstant (·.createdAt) (·.id))).map fun change =>
    { newStatus := change.newStatus, createdAt := change.createdAt }

def paymentAllocation (allocation : AllocationRow) :
    PaymentExportAllocation where
  amount := allocation.amount
  reversal := (reversalOf tables allocation.id).map fun row => row.id
  refundAllocations := linkAmounts tables allocation.id

def paymentRecord (payment : Payment) : PaymentExportRecord where
  id := payment.id
  amount := payment.amount
  status := payment.status
  createdAt := payment.createdAt
  booking := labelOfBooking tables payment.bookingId
  clientFullName := clientOfBooking tables payment.bookingId
  statusHistory := statusChanges tables payment.id
  refunds := refundAmounts tables payment.id
  receipt := receiptOf tables payment.id
  allocations :=
    (tables.allocations.filter fun row =>
      row.paymentId = payment.id).map (paymentAllocation tables)

def refundRecord (refund : PaymentRefund) : RefundExportRecord where
  id := refund.id
  paymentId := refund.paymentId
  amount := refund.amount
  performedAt := refund.performedAt
  booking := labelOfPayment tables refund.paymentId
  refundAllocations :=
    (tables.refundAllocations.filter fun link =>
      link.paymentRefundId = refund.id).map PaymentRefundAllocation.amount

def missingInstallment : AllocationExportInstallment where
  sequenceNumber := 0
  isDeposit := false
  dueDate := 0

def selectInstallment (installment : Installment) :
    AllocationExportInstallment where
  sequenceNumber := installment.sequenceNumber
  isDeposit := installment.isDeposit
  dueDate := installment.dueDate

/-- The installment is stored, as it is referred to. -/
def allocationRecord (allocation : AllocationRow) :
    AllocationExportRecord where
  id := allocation.id
  paymentId := allocation.paymentId
  amount := allocation.amount
  allocatedAt := allocation.allocatedAt
  paymentStatus := statusOfPayment tables allocation.paymentId
  booking := labelOfPayment tables allocation.paymentId
  installment :=
    ((findBy Installment.id allocation.installmentId
      tables.installments).map selectInstallment).getD missingInstallment
  reversal := (reversalOf tables allocation.id).map ReversalRow.createdAt
  refundAllocations := linkAmounts tables allocation.id

def installmentAllocation (allocation : AllocationRow) :
    InstallmentExportAllocation where
  amount := allocation.amount
  reversal := (reversalOf tables allocation.id).map fun row => row.id
  refundAllocations := linkAmounts tables allocation.id
  paymentStatus := statusOfPayment tables allocation.paymentId

def installmentRecord (installment : Installment) :
    InstallmentExportRecord where
  sequenceNumber := installment.sequenceNumber
  isDeposit := installment.isDeposit
  amount := installment.amount
  dueDate := installment.dueDate
  booking := labelOfPlan tables installment.paymentPlanId
  allocations :=
    (tables.allocations.filter fun row =>
      row.installmentId = installment.id).map (installmentAllocation tables)

end Rows

section Children

variable {tables : Exports.Tables} (constraints : Constraints tables)

include constraints

theorem statusChanges_join {test : Payment → Bool} {payment : Payment}
    (member : payment ∈ tables.payments) (selected : test payment) :
    ((groupBy (fun change : StatusHistoryRow => change.paymentId)
        ((tables.statusHistory.filter fun change =>
          ofPayment tables change.paymentId test &&
            isTimedStatus change.newStatus).mergeSort
          (byInstant (·.createdAt) (·.id)))).get payment.id).getD [] =
      (tables.statusHistory.filter fun change =>
        change.paymentId = payment.id &&
          isTimedStatus change.newStatus).mergeSort
        (byInstant (·.createdAt) (·.id)) := by
  rw [get_groupBy, filter_mergeSort byInstant_trans byInstant_total,
    List.filter_filter]
  congr 1
  apply List.filter_congr
  intro change _
  by_cases own : change.paymentId = payment.id
  · rw [own, ofPayment_of_mem constraints member, selected]
    simp
  · simp [own]

/-- The allocations of a selected payment. -/
theorem paymentAllocations_join {test : Payment → Bool} {payment : Payment}
    (member : payment ∈ tables.payments) (selected : test payment) :
    ((groupBy (fun row : AllocationRow => row.paymentId)
        (tables.allocations.filter fun allocation =>
          ofPayment tables allocation.paymentId test)).get
        payment.id).getD [] =
      tables.allocations.filter fun row => row.paymentId = payment.id := by
  apply get_groupBy_filter
  intro allocation _ own
  rw [own, ofPayment_of_mem constraints member]
  exact selected

/-- The allocations of a selected installment. -/
theorem installmentAllocations_join {test : Installment → Bool}
    {installment : Installment} (member : installment ∈ tables.installments)
    (selected : test installment) :
    ((groupBy (fun row : AllocationRow => row.installmentId)
        (tables.allocations.filter fun allocation =>
          ofInstallment tables allocation.installmentId test)).get
        installment.id).getD [] =
      tables.allocations.filter fun row =>
        row.installmentId = installment.id := by
  apply get_groupBy_filter
  intro allocation _ own
  rw [own, ofInstallment_of_mem constraints member]
  exact selected

/-- The links of a selected refund. -/
theorem refundLinks_join {test : PaymentRefund → Bool}
    {refund : PaymentRefund} (member : refund ∈ tables.refunds)
    (selected : test refund) :
    amountsOf PaymentRefundAllocation.amount
        ((groupBy PaymentRefundAllocation.paymentRefundId
          (tables.refundAllocations.filter fun link =>
            ofRefund tables link.paymentRefundId test)).get refund.id) =
      (tables.refundAllocations.filter fun link =>
        link.paymentRefundId = refund.id).map
        PaymentRefundAllocation.amount := by
  unfold amountsOf
  rw [get_groupBy_filter]
  intro link _ own
  rw [own, ofRefund_of_mem constraints member]
  exact selected

/-- The installment of a selected allocation. -/
theorem installment_join {test : AllocationRow → Bool}
    {allocation : AllocationRow} (member : allocation ∈ tables.allocations)
    (selected : test allocation) :
    (keyedBy Installment.id
        (tables.installments.filter fun installment =>
          tables.allocations.any fun allocation =>
            allocation.installmentId = installment.id &&
              test allocation)).get allocation.installmentId =
      findBy Installment.id allocation.installmentId tables.installments := by
  apply get_keyedBy_filter constraints.ledger.installmentIds
  intro installment _ named
  rw [List.any_eq_true]
  exact ⟨allocation, member, by simp [named, selected]⟩

end Children

section Datasets

variable {tables : Exports.Tables} (constraints : Constraints tables)
  (platform : Platform) (actor : FinanceExportActor) (filters : DatedFilters)

include constraints

theorem findPaymentExportRecords_eq (status : Option PaymentStatus) :
    findPaymentExportRecords platform tables actor filters status =
      (paymentExportWhere platform tables actor filters status).map
        fun test =>
          ((tables.payments.filter test).mergeSort
            (byInstant (·.createdAt) (·.id))).map (paymentRecord tables) := by
  unfold findPaymentExportRecords
  cases paymentExportWhere platform tables actor filters status with
  | error failure =>
      rfl
  | ok test =>
      rw [ok_bind]
      apply congrArg Except.ok
      apply List.map_congr_left
      intro payment kept
      obtain ⟨member, selected⟩ :=
        List.mem_filter.mp (List.mem_mergeSort.mp kept)
      rw [statusChanges_join constraints member selected,
        refunds_join constraints member selected,
        receipt_join constraints member selected,
        paymentAllocations_join constraints member selected]
      unfold paymentRecord
      congr 1
      apply List.map_congr_left
      intro allocation ofIt
      obtain ⟨allocationMember, own⟩ := List.mem_filter.mp ofIt
      have allocationSelected :
          ofPayment tables allocation.paymentId test = true := by
        rw [of_decide_eq_true own, ofPayment_of_mem constraints member]
        exact selected
      rw [reversal_join constraints allocationMember allocationSelected,
        links_join constraints allocationMember allocationSelected]
      rfl

theorem findRefundExportRecords_eq :
    findRefundExportRecords platform tables actor filters =
      (refundExportWhere platform tables actor filters).map fun test =>
        ((tables.refunds.filter test).mergeSort
          (byInstant (·.performedAt) (·.id))).map (refundRecord tables) := by
  unfold findRefundExportRecords
  cases refundExportWhere platform tables actor filters with
  | error failure =>
      rfl
  | ok test =>
      rw [ok_bind]
      apply congrArg Except.ok
      apply List.map_congr_left
      intro refund kept
      obtain ⟨member, selected⟩ :=
        List.mem_filter.mp (List.mem_mergeSort.mp kept)
      rw [refundLinks_join constraints member selected]
      rfl

theorem findAllocationExportRecords_eq :
    findAllocationExportRecords platform tables actor filters =
      (allocationExportWhere platform tables actor filters).map fun test =>
        ((tables.allocations.filter test).mergeSort
          (byInstant (·.allocatedAt) (·.id))).map
          (allocationRecord tables) := by
  unfold findAllocationExportRecords
  cases allocationExportWhere platform tables actor filters with
  | error failure =>
      rfl
  | ok test =>
      rw [ok_bind]
      apply mapM_eq_ok_map
      intro allocation kept
      obtain ⟨member, selected⟩ :=
        List.mem_filter.mp (List.mem_mergeSort.mp kept)
      obtain ⟨installment, found⟩ :
          ∃ installment,
            findBy Installment.id allocation.installmentId
              tables.installments = some installment := by
        apply exists_findBy_of_mem_map
        apply constraints.ledger.allocationInstallments
        unfold Tables.ledger
        rw [List.map_map]
        exact List.mem_map_of_mem member
      rw [installment_join constraints member selected,
        reversal_join constraints member selected,
        links_join constraints member selected, found]
      unfold allocationRecord
      rw [found]
      rfl

theorem findInstallmentExportRecords_eq :
    findInstallmentExportRecords platform tables actor filters =
      (installmentExportWhere platform tables actor filters).map fun test =>
        ((tables.installments.filter test).mergeSort
          (installmentsByBooking tables)).map (installmentRecord tables) := by
  unfold findInstallmentExportRecords
  cases installmentExportWhere platform tables actor filters with
  | error failure =>
      rfl
  | ok test =>
      rw [ok_bind]
      apply congrArg Except.ok
      apply List.map_congr_left
      intro installment kept
      obtain ⟨member, selected⟩ :=
        List.mem_filter.mp (List.mem_mergeSort.mp kept)
      rw [installmentAllocations_join constraints member selected]
      unfold installmentRecord
      congr 1
      apply List.map_congr_left
      intro allocation ofIt
      obtain ⟨allocationMember, own⟩ := List.mem_filter.mp ofIt
      have allocationSelected :
          ofInstallment tables allocation.installmentId test = true := by
        rw [of_decide_eq_true own, ofInstallment_of_mem constraints member]
        exact selected
      rw [reversal_join constraints allocationMember allocationSelected,
        links_join constraints allocationMember allocationSelected]
      rfl

end Datasets

end Heritage.Exports.Repository
