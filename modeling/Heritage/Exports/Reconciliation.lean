import Heritage.Payments.Replay
import Heritage.Exports.Accepted
import Heritage.Exports.Figures

/-!
# The datasets tie out

On the tables that the payment operations reach, every export that can be
read is shaped, and over the exports of one booking the columns of the
datasets add up to the same totals.
-/

namespace Heritage.Exports

open Heritage.Store Heritage.Payments
open Payments.Repository (bookingAssignmentFilter)
open Repository

variable {tables : Tables} {platform : Platform} {actor : FinanceExportActor}
  {asOf : String}

section Rows

variable (constraints : Constraints tables)
  (balanced : Balanced tables.ledger)

include constraints balanced

theorem exists_rowOfVisible {dataset : FinanceExportDataset}
    {record : ExportedRecord}
    (member : record ∈ visibleRecords tables actor dataset) :
    ∃ row, exportedRow tables asOf record = .ok row := by
  obtain ⟨stored, seen⟩ := List.mem_filter.mp member
  cases dataset with
  | bookings =>
      obtain ⟨booking, listed, rfl⟩ := List.mem_map.mp stored
      have hasTotal : booking.totalAmount.isSome := by
        simp only [visible, Bool.and_eq_true] at seen
        exact seen.1.2
      obtain ⟨row, shaped, -⟩ :=
        exists_rowOfBooking constraints balanced (List.mem_mergeSort.mp listed)
          hasTotal
      exact ⟨row, shaped⟩
  | payments =>
      obtain ⟨payment, listed, rfl⟩ := List.mem_map.mp stored
      obtain ⟨row, shaped, -⟩ :=
        exists_rowOfPayment constraints balanced (List.mem_mergeSort.mp listed)
      exact ⟨row, shaped⟩
  | refunds =>
      obtain ⟨refund, listed, rfl⟩ := List.mem_map.mp stored
      exact exists_rowOfRefund balanced (List.mem_mergeSort.mp listed)
  | allocations =>
      obtain ⟨allocation, listed, rfl⟩ := List.mem_map.mp stored
      obtain ⟨row, shaped, -⟩ :=
        exists_rowOfAllocation balanced (List.mem_mergeSort.mp listed)
      exact ⟨row, shaped⟩
  | installments =>
      obtain ⟨installment, listed, rfl⟩ := List.mem_map.mp stored
      obtain ⟨row, shaped, -⟩ :=
        exists_rowOfInstallment balanced (List.mem_mergeSort.mp listed)
      exact ⟨row, shaped⟩

/-- An export whose days can be read is not refused. -/
theorem exists_rows_of_read {request : FinanceExportRequest}
    {filter : RecordFilter}
    (read : recordFilter platform request = .ok filter) :
    ∃ rows, readAndShapeRows platform tables actor asOf request = .ok rows := by
  rw [readAndShapeRows_eq constraints, read]
  apply exists_mapM_eq_ok
  intro record chosen
  exact
    exists_rowOfVisible constraints balanced (List.mem_of_mem_filter chosen)

end Rows

section OneBooking

/-- The rows of a dataset that a filter keeps, in the order of the dataset,
with what they show. -/
theorem exists_keptRows (constraints : Constraints tables) {ρ : Type}
    {rows : List ρ} {le : ρ → ρ → Bool} {wrap : ρ → ExportedRecord}
    (platform : Platform) (actor : FinanceExportActor) (asOf : String)
    (request : FinanceExportRequest) (keep : ρ → Bool)
    (shows : ρ → List String → Prop) {filter : RecordFilter}
    (read : recordFilter platform request = .ok filter)
    (trans : ∀ a b c, le a b → le b c → le a c)
    (total : ∀ a b, le a b || le b a)
    (stored :
      storedRecords tables request.dataset = (rows.mergeSort le).map wrap)
    (kept :
      ∀ row ∈ rows,
        keep row =
          (filter.holds tables (wrap row) &&
            visible tables actor (wrap row)))
    (shaped :
      ∀ row ∈ rows, keep row →
        ∃ cells, exportedRow tables asOf (wrap row) = .ok cells ∧
          shows row cells) :
    ∃ cells,
      readAndShapeRows platform tables actor asOf request = .ok cells ∧
        List.Forall₂ shows ((rows.filter keep).mergeSort le) cells := by
  have chosen :
      (visibleRecords tables actor request.dataset).filter
          (filter.holds tables) =
        ((rows.filter keep).mergeSort le).map wrap := by
    unfold visibleRecords
    rw [List.filter_filter, stored, ← map_mergeSort_filter trans total kept]
  obtain ⟨cells, converted, shown⟩ :
      ∃ cells,
        ((rows.filter keep).mergeSort le).mapM
            (exportedRow tables asOf ∘ wrap) = .ok cells ∧
          List.Forall₂ shows ((rows.filter keep).mergeSort le) cells := by
    apply exists_results
    intro row member
    obtain ⟨listed, isKept⟩ := List.mem_filter.mp (List.mem_mergeSort.mp member)
    exact shaped row listed isKept
  refine ⟨cells, ?_, shown⟩
  rw [readAndShapeRows_eq constraints, read]
  change chosenRows tables actor asOf request.dataset filter = _
  rw [chosenRows, chosen, List.mapM_map]
  exact converted

variable (constraints : Constraints tables)
  (balanced : Balanced tables.ledger)
  {booking : Booking} (member : booking ∈ tables.bookings)

include constraints member

/-- A reference belongs to one booking. -/
theorem reference_eq_iff {bookingId : Uuid}
    (listed : bookingId ∈ tables.bookings.map Booking.id) :
    (labelOfBooking tables bookingId).bookingReference =
        booking.bookingReference ↔
      bookingId = booking.id := by
  obtain ⟨other, found⟩ := exists_findBy_of_mem_map listed
  have label :
      (labelOfBooking tables bookingId).bookingReference =
        other.bookingReference := by
    unfold labelOfBooking
    rw [found]
    rfl
  have sameId : other.id = bookingId := key_of_findBy found
  rw [label, ← sameId]
  constructor
  · intro sameReference
    rw [List.inj_on_of_nodup_map constraints.bookingReferences
      (mem_of_findBy found) member sameReference]
  · intro same
    rw [List.inj_on_of_nodup_map constraints.ledger.bookingIds
      (mem_of_findBy found) member same]

/-- For an actor who sees the booking, its reference keeps what refers to
it. -/
theorem kept_iff_own
    (sees :
      bookingAssignmentFilter tables.ledger actor.toPaymentActor booking.id)
    {bookingId : Uuid}
    (listed : bookingId ∈ tables.bookings.map Booking.id) :
    decide (bookingId = booking.id) =
      (decide
          ((labelOfBooking tables bookingId).bookingReference =
            booking.bookingReference) &&
        visible.assigned tables actor bookingId) := by
  by_cases own : bookingId = booking.id
  · have named := (reference_eq_iff constraints member listed).mpr own
    have assigned : visible.assigned tables actor bookingId = true := by
      rw [own]
      exact sees
    rw [decide_eq_true own, decide_eq_true named, assigned]
    rfl
  · have other := mt (reference_eq_iff constraints member listed).mp own
    rw [decide_eq_false own, decide_eq_false other]
    rfl

end OneBooking

/-- The filters of one booking. -/
def referenceFilters (reference : String) : DatedFilters :=
  ⟨none, none, some reference⟩

/-- What the installments of the approved plan hold is what the payments of
the booking are allocated. -/
theorem sum_approvedInstallments (constraints : Constraints tables)
    (balanced : Balanced tables.ledger) (bookingId : Uuid) :
    ((tables.installments.filter fun installment =>
        ofPlan tables installment.paymentPlanId fun plan =>
          plan.status = .approved && plan.bookingId = bookingId).map
        fun installment =>
          netActiveOfInstallment tables.ledger installment.id).sum =
      netActiveOfBooking tables.ledger bookingId := by
  by_cases approved :
      ∃ plan ∈ tables.paymentPlans,
        plan.bookingId = bookingId ∧ plan.status = .approved
  · obtain ⟨plan, stored, own, isApproved⟩ := approved
    have active : plan.status ≠ .withdrawn := by
      rw [isApproved]
      decide
    have byInstallments :=
      balanced.netActiveOfBooking_by_installments stored active
    rw [own] at byInstallments
    rw [byInstallments]
    congr 2
    apply List.filter_congr
    intro installment installmentStored
    have listed :
        installment.paymentPlanId ∈ tables.paymentPlans.map PaymentPlan.id :=
      constraints.ledger.installmentPlans
        (List.mem_map_of_mem installmentStored)
    obtain ⟨other, found⟩ := exists_findBy_of_mem_map listed
    have sameId : other.id = installment.paymentPlanId := key_of_findBy found
    rw [Bool.eq_iff_iff, decide_eq_true_iff, ofPlan, found, Option.any_some,
      Bool.and_eq_true, decide_eq_true_iff, decide_eq_true_iff, ← sameId]
    constructor
    · rintro ⟨otherApproved, otherOwn⟩
      have otherActive : other.status ≠ .withdrawn := by
        rw [otherApproved]
        decide
      rw [balanced.activePlan_unique (mem_of_findBy found) stored
        (otherOwn.trans own.symm) otherActive active]
    · intro same
      obtain rfl : other = plan :=
        List.inj_on_of_nodup_map constraints.ledger.planIds
          (mem_of_findBy found) stored same
      exact ⟨isApproved, own⟩
  · have unapproved :
        ∀ plan ∈ tables.paymentPlans,
          ¬ (plan.bookingId = bookingId ∧ plan.status = .approved) := by
      intro plan stored isApproved
      exact approved ⟨plan, stored, isApproved⟩
    have noInstallment :
        (tables.installments.filter fun installment =>
          ofPlan tables installment.paymentPlanId fun plan =>
            plan.status = .approved && plan.bookingId = bookingId) = [] := by
      rw [List.filter_eq_nil_iff]
      intro installment _ kept
      obtain ⟨plan, found, accepted⟩ := (Option.any_eq_true ..).mp kept
      rw [Bool.and_eq_true, decide_eq_true_iff, decide_eq_true_iff] at accepted
      exact
        unapproved plan (mem_of_findBy found) ⟨accepted.2, accepted.1⟩
    rw [balanced.netActiveOfBooking_of_unapproved unapproved, noInstallment]
    rfl

section Exports

variable (constraints : Constraints tables)
  (balanced : Balanced tables.ledger)
  {booking : Booking} (member : booking ∈ tables.bookings)
  (sees :
    bookingAssignmentFilter tables.ledger actor.toPaymentActor booking.id)

include constraints balanced member sees

theorem bookingExport (hasTotal : booking.totalAmount.isSome) :
    ∃ row,
      readAndShapeRows platform tables actor asOf
          (.bookings (some booking.bookingReference)) = .ok [row] ∧
        BookingRowShows row (paidTowards tables.ledger booking.id)
          (paidTowards tables.ledger booking.id -
            netActiveOfBooking tables.ledger booking.id) := by
  have alone :
      (tables.bookings.filter fun row => decide (row.id = booking.id)) =
        [booking] :=
    filter_key_eq constraints.ledger.bookingIds member
  have itself :
      ∀ row ∈ tables.bookings, row.id = booking.id → row = booking := by
    intro row stored same
    exact
      List.inj_on_of_nodup_map constraints.ledger.bookingIds stored member same
  have hasCurrency := hasTotal
  rw [booking.paired] at hasCurrency
  obtain ⟨cells, read, shown⟩ :
      ∃ cells,
        readAndShapeRows platform tables actor asOf
            (.bookings (some booking.bookingReference)) = .ok cells ∧
          List.Forall₂
            (fun row cells =>
              BookingRowShows cells (paidTowards tables.ledger row.id)
                (paidTowards tables.ledger row.id -
                  netActiveOfBooking tables.ledger row.id))
            ((tables.bookings.filter fun row =>
              decide (row.id = booking.id)).mergeSort bookingsByReference)
            cells := by
    refine
      exists_keptRows constraints platform actor asOf _ _ _ rfl
        bookingsByReference_trans bookingsByReference_total rfl ?_ ?_
    · intro row stored
      by_cases own : row.id = booking.id
      · obtain rfl := itself row stored own
        simp [RecordFilter.holds, referenceOf, visible, sees, hasTotal,
          hasCurrency]
      · have otherReference :
            row.bookingReference ≠ booking.bookingReference := by
          intro same
          exact
            own
              (congrArg Booking.id
                (List.inj_on_of_nodup_map constraints.bookingReferences stored
                  member same))
        simp [RecordFilter.holds, referenceOf, own, otherReference]
    · intro row stored own
      rw [itself row stored (of_decide_eq_true own)]
      exact exists_rowOfBooking constraints balanced member hasTotal
  rw [alone, List.mergeSort_singleton] at shown
  cases shown with
  | cons shows rest =>
      cases rest with
      | nil =>
          exact ⟨_, read, shows⟩

theorem paymentExport :
    ∃ rows,
      readAndShapeRows platform tables actor asOf
          (.payments (referenceFilters booking.bookingReference) none) =
            .ok rows ∧
        columnTotal .payments "derivedNetContribution" rows =
          some ((paidTowards tables.ledger booking.id : ℚ) / 100) ∧
        columnTotal .payments "derivedNetAllocated" rows =
          some ((netActiveOfBooking tables.ledger booking.id : ℚ) / 100) ∧
        columnTotal .payments "derivedUnallocated" rows =
          some
            (((paidTowards tables.ledger booking.id -
              netActiveOfBooking tables.ledger booking.id : Int) : ℚ) /
                100) := by
  obtain ⟨rows, read, shown⟩ :
      ∃ rows,
        readAndShapeRows platform tables actor asOf
            (.payments (referenceFilters booking.bookingReference) none) =
              .ok rows ∧
          List.Forall₂
            (fun payment row =>
              PaymentRowShows row (contribution tables.ledger payment)
                (allocatedOf tables payment))
            ((paymentsOf tables.ledger booking.id).mergeSort
              (byInstant (·.createdAt) (·.id)))
            rows := by
    refine
      exists_keptRows constraints platform actor asOf _
        (fun payment : Payment => decide (payment.bookingId = booking.id)) _ rfl
        byInstant_trans byInstant_total rfl ?_ ?_
    · intro payment stored
      have listed : payment.bookingId ∈ tables.bookings.map Booking.id :=
        constraints.ledger.paymentBookings (List.mem_map_of_mem stored)
      rw [kept_iff_own constraints member sees listed]
      simp only [RecordFilter.holds, referenceOf, visible, referenceFilters,
        Option.all_some, Option.all_none, Bool.and_true]
      rfl
    · intro payment stored _
      exact exists_rowOfPayment constraints balanced stored
  have allocated :
      netActiveOfBooking tables.ledger booking.id =
        ((paymentsOf tables.ledger booking.id).map
          (allocatedOf tables)).sum :=
    netActiveOfBooking_by_payments constraints.ledger booking.id
  refine ⟨rows, read, ?_, ?_, ?_⟩
  · rw [columnTotal_of_shown (shown.imp fun _ _ shows => shows.netContribution),
      sum_map_mergeSort]
    rfl
  · rw [columnTotal_of_shown (shown.imp fun _ _ shows => shows.netAllocated),
      sum_map_mergeSort, allocated]
  · rw [columnTotal_of_shown (shown.imp fun _ _ shows => shows.unallocated),
      sum_map_mergeSort, sum_map_sub, allocated]
    rfl

theorem allocationExport :
    ∃ rows,
      readAndShapeRows platform tables actor asOf
          (.allocations (referenceFilters booking.bookingReference)) =
            .ok rows ∧
        columnTotal .allocations "derivedNetActive" rows =
          some ((netActiveOfBooking tables.ledger booking.id : ℚ) / 100) := by
  obtain ⟨rows, read, shown⟩ :
      ∃ rows,
        readAndShapeRows platform tables actor asOf
            (.allocations (referenceFilters booking.bookingReference)) =
              .ok rows ∧
          List.Forall₂
            (fun allocation row =>
              ShowsAmount .allocations "derivedNetActive" row
                (countedWeight tables.ledger
                  (AllocationRow.toPaymentAllocation allocation)))
            ((tables.allocations.filter fun allocation =>
              Payments.ofBooking tables.ledger booking.id
                allocation.toPaymentAllocation).mergeSort
              (byInstant (·.allocatedAt) (·.id)))
            rows := by
    refine
      exists_keptRows constraints platform actor asOf _ _ _ rfl
        byInstant_trans byInstant_total rfl ?_ ?_
    · intro allocation stored
      have paymentListed :
          allocation.paymentId ∈ tables.payments.map Payment.id := by
        apply constraints.ledger.allocationPayments
        rw [ledger_allocations, List.map_map]
        exact List.mem_map_of_mem stored
      obtain ⟨payment, found⟩ := exists_findBy_of_mem_map paymentListed
      have listed : payment.bookingId ∈ tables.bookings.map Booking.id :=
        constraints.ledger.paymentBookings
          (List.mem_map_of_mem (mem_of_findBy found))
      have ofIt :
          Payments.ofBooking tables.ledger booking.id
              allocation.toPaymentAllocation =
            decide (payment.bookingId = booking.id) := by
        simp [Payments.ofBooking, Tables.ledger, found]
      rw [ofIt, kept_iff_own constraints member sees listed]
      simp [RecordFilter.holds, referenceOf, visible, referenceFilters,
        labelOfPayment, ofPayment, found]
    · intro allocation stored _
      exact exists_rowOfAllocation balanced stored
  refine ⟨rows, read, ?_⟩
  rw [columnTotal_of_shown shown, sum_map_mergeSort]
  unfold netActiveOfBooking
  rw [ledger_allocations, List.filter_map, List.map_map]
  rfl

theorem installmentExport :
    ∃ rows,
      readAndShapeRows platform tables actor asOf
          (.installments (referenceFilters booking.bookingReference)) =
            .ok rows ∧
        columnTotal .installments "derivedNetActiveAllocation" rows =
          some ((netActiveOfBooking tables.ledger booking.id : ℚ) / 100) := by
  obtain ⟨rows, read, shown⟩ :
      ∃ rows,
        readAndShapeRows platform tables actor asOf
            (.installments (referenceFilters booking.bookingReference)) =
              .ok rows ∧
          List.Forall₂
            (fun installment row =>
              ShowsAmount .installments "derivedNetActiveAllocation" row
                (netActiveOfInstallment tables.ledger
                  (Installment.id installment)))
            ((tables.installments.filter fun installment =>
              ofPlan tables installment.paymentPlanId fun plan =>
                plan.status = .approved &&
                  plan.bookingId = booking.id).mergeSort
              (installmentsByBooking tables))
            rows := by
    refine
      exists_keptRows constraints platform actor asOf _ _ _ rfl
        installmentsByBooking_trans installmentsByBooking_total rfl ?_ ?_
    · intro installment stored
      have planListed :
          installment.paymentPlanId ∈
            tables.paymentPlans.map PaymentPlan.id :=
        constraints.ledger.installmentPlans (List.mem_map_of_mem stored)
      obtain ⟨plan, found⟩ := exists_findBy_of_mem_map planListed
      have listed : plan.bookingId ∈ tables.bookings.map Booking.id :=
        constraints.ledger.planBookings
          (List.mem_map_of_mem (mem_of_findBy found))
      have kept := kept_iff_own constraints member sees listed
      simp only [ofPlan, found, Option.any_some, RecordFilter.holds,
        referenceOf, visible, referenceFilters, labelOfPlan, Option.map_some,
        Option.getD_some, Option.all_some, Option.all_none, Bool.and_true,
        kept]
      ac_rfl
    · intro installment stored _
      exact exists_rowOfInstallment balanced stored
  refine ⟨rows, read, ?_⟩
  rw [columnTotal_of_shown shown, sum_map_mergeSort,
    sum_approvedInstallments constraints balanced]

end Exports

/-! ## The datasets tie out -/

/-- The columns of one booking's exports, as exact decimals. -/
structure SameTotals (bookingRow : List String)
    (paymentRows allocationRows installmentRows : List (List String)) :
    Prop where
  paid :
    ∃ total,
      cellAmount .bookings "derivedNetConfirmedPaid" bookingRow =
          some total ∧
        columnTotal .payments "derivedNetContribution" paymentRows =
          some total
  credit :
    ∃ total,
      cellAmount .bookings "derivedUnappliedCredit" bookingRow =
          some total ∧
        columnTotal .payments "derivedUnallocated" paymentRows = some total
  allocated :
    ∃ total,
      columnTotal .allocations "derivedNetActive" allocationRows =
          some total ∧
        columnTotal .payments "derivedNetAllocated" paymentRows =
          some total ∧
        columnTotal .installments "derivedNetActiveAllocation"
            installmentRows = some total

/-- The exports of one booking's reference are made and tie out. -/
def TiesOut (platform : Platform) (tables : Tables)
    (actor : FinanceExportActor) (asOf reference : String) : Prop :=
  ∃ bookingRow paymentRows allocationRows installmentRows,
    readAndShapeRows platform tables actor asOf (.bookings (some reference)) =
        .ok [bookingRow] ∧
      readAndShapeRows platform tables actor asOf
          (.payments (referenceFilters reference) none) = .ok paymentRows ∧
      readAndShapeRows platform tables actor asOf
          (.allocations (referenceFilters reference)) = .ok allocationRows ∧
      readAndShapeRows platform tables actor asOf
          (.installments (referenceFilters reference)) =
            .ok installmentRows ∧
      SameTotals bookingRow paymentRows allocationRows installmentRows

theorem tiesOut (constraints : Constraints tables)
    (balanced : Balanced tables.ledger) {booking : Booking}
    (member : booking ∈ tables.bookings)
    (hasTotal : booking.totalAmount.isSome)
    (sees :
      bookingAssignmentFilter tables.ledger actor.toPaymentActor booking.id) :
    TiesOut platform tables actor asOf booking.bookingReference := by
  obtain ⟨bookingRow, readBooking, shows⟩ :=
    bookingExport constraints balanced member sees hasTotal
  obtain ⟨paymentRows, readPayments, contributed, allocatedByPayment,
    unallocated⟩ := paymentExport constraints balanced member sees
  obtain ⟨allocationRows, readAllocations, active⟩ :=
    allocationExport constraints balanced member sees
  obtain ⟨installmentRows, readInstallments, held⟩ :=
    installmentExport constraints balanced member sees
  refine
    ⟨bookingRow, paymentRows, allocationRows, installmentRows, readBooking,
      readPayments, readAllocations, readInstallments, ?_⟩
  exact
    { paid := ⟨_, shows.netConfirmedPaid, contributed⟩
      credit := ⟨_, shows.unappliedCredit, unallocated⟩
      allocated := ⟨_, active, allocatedByPayment, held⟩ }

/-- On every database the payment operations reach, no export that can be
read is refused, every accepted request can be read, and the exports of a
booking with a total tie out for everyone who sees it. -/
theorem datasets_tie_out (database : Database) (requests : List Request)
    (reached : database.tables.ledger = tablesAfter requests)
    (platform : Platform) (actor : FinanceExportActor) (asOf : String) :
    (∀ request filter,
      recordFilter platform request = .ok filter →
        ∃ rows,
          readAndShapeRows platform database.tables actor asOf request =
            .ok rows) ∧
      (∀ raw request,
        financeExportRequestSchema platform raw = .ok request →
          ∃ rows,
            readAndShapeRows platform database.tables actor asOf request =
              .ok rows) ∧
      ∀ booking ∈ database.tables.bookings,
        booking.totalAmount.isSome →
          bookingAssignmentFilter database.tables.ledger
              actor.toPaymentActor booking.id →
            TiesOut platform database.tables actor asOf
              booking.bookingReference := by
  have balanced : Balanced database.tables.ledger := by
    rw [reached]
    exact balanced_tablesAfter requests
  refine ⟨?_, ?_, ?_⟩
  · intro request filter read
    exact exists_rows_of_read database.constraints balanced read
  · intro raw request accepted
    obtain ⟨filter, read⟩ := exists_recordFilter accepted
    exact exists_rows_of_read database.constraints balanced read
  · intro booking member hasTotal sees
    exact tiesOut database.constraints balanced member hasTotal sees

section Deposit

/-- A Travel Consultant of the same booking. -/
def planner : AuthenticatedUser := ⟨2, .travelConsultant⟩

/-- One installment for the whole total, a deposit that stays unallocated, and
a larger payment that is allocated and partly refunded. -/
def depositRequests : List Request :=
  [.bookingAdded cashierBooking,
    .assignmentsChanged
      [⟨5, 1, .financeAccounting, 3, none, none, some 10, none⟩,
        ⟨6, 2, .travelConsultant, 3, none, none, some 10, none⟩],
    .operation (contextOf 1) planner
      (.proposePaymentPlan ⟨10, [⟨1, true, bookingTotal, 30⟩]⟩),
    .operation (contextOf 2) cashier (.approvePaymentPlan ⟨100⟩),
    .operation (contextOf 3) cashier (.recordPayment deposit),
    .operation (contextOf 4) cashier
      (.confirmPayment ⟨300, "bank statement", "confirm-1"⟩),
    .operation (contextOf 5) cashier
      (.recordPayment ⟨10, largerDeposit.amount, "balance-1"⟩),
    .operation (contextOf 6) cashier
      (.confirmPayment ⟨500, "bank statement", "confirm-2"⟩),
    .operation (contextOf 7) cashier
      (.createAllocation ⟨500, 101, largerDeposit.amount, "allocate-1"⟩),
    .operation (contextOf 8) cashier
      (.refundPayment ⟨500, deposit.amount, "paid twice", "refund-1",
        some 700⟩)]

def depositTables : Tables where
  users := []
  clients :=
    [{ id := 20
       fullName := "Maria Cruz"
       email := none
       phone := none
       normalizedEmail := none
       normalizedPhone := none }]
  bookings := (tablesAfter depositRequests).bookings
  staffAssignments := (tablesAfter depositRequests).staffAssignments
  paymentPlans := (tablesAfter depositRequests).paymentPlans
  installments := (tablesAfter depositRequests).installments
  payments := (tablesAfter depositRequests).payments
  statusHistory :=
    (tablesAfter depositRequests).statusHistory.map fun change =>
      { change with id := 0, createdAt := 0 }
  refunds := (tablesAfter depositRequests).refunds
  refundAllocations := (tablesAfter depositRequests).refundAllocations
  allocations :=
    (tablesAfter depositRequests).allocations.map fun allocation =>
      { allocation with allocatedAt := 7 }
  allocationReversals := []
  receipts := []
  auditLogs := (tablesAfter depositRequests).auditLogs.map .payment

theorem ledger_depositTables :
    depositTables.ledger = tablesAfter depositRequests := by
  decide +kernel

def depositDatabase : Database where
  tables := depositTables
  constraints :=
    { ledger := by
        rw [ledger_depositTables]
        exact integrity_tablesAfter depositRequests
      userIds := by decide
      clientIds := by decide
      refundIds := by decide
      bookingClients := by decide
      bookingReferences := by decide
      activePlans := by decide
      receiptPayments := by decide
      reversedAllocations := by decide }

theorem deposit_ties_out :
    TiesOut strictPlatform depositTables ⟨1, .financeAccounting⟩
      "2026-01-05T09:00:00.000+08:00" "HP-10" :=
  (datasets_tie_out depositDatabase depositRequests ledger_depositTables
    strictPlatform ⟨1, .financeAccounting⟩
    "2026-01-05T09:00:00.000+08:00").2.2 cashierBooking (by decide) rfl
    (by decide)

end Deposit

end Heritage.Exports
