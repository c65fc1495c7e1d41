import Heritage.Exports.Dates
import Heritage.Exports.Records
import Heritage.Exports.Service

/-!
# A filter chooses rows and never changes them

The unfiltered set of an actor depends on the actor, the filter on the
request, and the row of a record on neither.
-/

namespace Heritage.Exports

open Heritage.Store Heritage.Calendar Heritage.Payments
open Payments.Repository (bookingAssignmentFilter SummaryPlan)
open Repository

inductive ExportedRecord where
  | booking (row : Booking)
  | payment (row : Payment)
  | refund (row : PaymentRefund)
  | allocation (row : AllocationRow)
  | installment (row : Installment)
  deriving DecidableEq

/-- Every record of a dataset's table, in the order of the dataset. -/
def storedRecords (tables : Tables) :
    FinanceExportDataset → List ExportedRecord
  | .bookings =>
      (tables.bookings.mergeSort bookingsByReference).map .booking
  | .payments =>
      (tables.payments.mergeSort
        (byInstant (·.createdAt) (·.id))).map .payment
  | .refunds =>
      (tables.refunds.mergeSort
        (byInstant (·.performedAt) (·.id))).map .refund
  | .allocations =>
      (tables.allocations.mergeSort
        (byInstant (·.allocatedAt) (·.id))).map .allocation
  | .installments =>
      (tables.installments.mergeSort
        (installmentsByBooking tables)).map .installment

/-- The record belongs to the actor's unfiltered set. -/
def visible (tables : Tables) (actor : FinanceExportActor) :
    ExportedRecord → Bool
  | .booking row =>
      bookingAssignmentFilter tables.ledger actor.toPaymentActor row.id &&
        row.totalAmount.isSome && row.currencyCode.isSome
  | .payment row => assigned row.bookingId
  | .refund row =>
      ofPayment tables row.paymentId fun payment => assigned payment.bookingId
  | .allocation row =>
      ofPayment tables row.paymentId fun payment => assigned payment.bookingId
  | .installment row =>
      ofPlan tables row.paymentPlanId fun plan =>
        plan.status = .approved && assigned plan.bookingId
where
  assigned (bookingId : Uuid) : Bool :=
    bookingAssignmentFilter tables.ledger actor.toPaymentActor bookingId

def referenceOf (tables : Tables) : ExportedRecord → String
  | .booking row => row.bookingReference
  | .payment row => (labelOfBooking tables row.bookingId).bookingReference
  | .refund row => (labelOfPayment tables row.paymentId).bookingReference
  | .allocation row => (labelOfPayment tables row.paymentId).bookingReference
  | .installment row =>
      (labelOfPlan tables row.paymentPlanId).bookingReference

structure RecordFilter where
  bookingReference : Option String
  instants : Option InstantRange
  days : Option DayRange
  status : Option PaymentStatus

/-- The record satisfies the filter. -/
def RecordFilter.holds (filter : RecordFilter) (tables : Tables)
    (record : ExportedRecord) : Bool :=
  (filter.bookingReference.all fun sought =>
    referenceOf tables record = sought) &&
  match record with
  | .booking _ => true
  | .payment row =>
      filter.instants.all (·.holds row.createdAt) &&
        filter.status.all fun sought => row.status = sought
  | .refund row => filter.instants.all (·.holds row.performedAt)
  | .allocation row => filter.instants.all (·.holds row.allocatedAt)
  | .installment row => filter.days.all (·.holds row.dueDate)

/-- The filter of a request; reading a day may fail. -/
def recordFilter (platform : Platform) :
    FinanceExportRequest → Except TxError RecordFilter
  | .bookings bookingReference => .ok ⟨bookingReference, none, none, none⟩
  | .payments filters status =>
      (manilaDayRange platform filters).map fun range =>
        ⟨filters.bookingReference, range, none, status⟩
  | .refunds filters =>
      (manilaDayRange platform filters).map fun range =>
        ⟨filters.bookingReference, range, none, none⟩
  | .allocations filters =>
      (manilaDayRange platform filters).map fun range =>
        ⟨filters.bookingReference, range, none, none⟩
  | .installments filters =>
      (dateOnlyRange platform filters).map fun range =>
        ⟨filters.bookingReference, none, range, none⟩

/-- The request for a dataset without a filter. -/
def unfiltered : FinanceExportDataset → FinanceExportRequest
  | .bookings => .bookings none
  | .payments => .payments ⟨none, none, none⟩ none
  | .refunds => .refunds ⟨none, none, none⟩
  | .allocations => .allocations ⟨none, none, none⟩
  | .installments => .installments ⟨none, none, none⟩

/-- The row of a record: a function of the stored rows and the time of the
export. -/
def exportedRow (tables : Tables) (asOf : String) :
    ExportedRecord → Except TxError (List String)
  | .booking row => do
      let data := summaryData tables row
      requireBookingRefundsWithinAmounts data.payments
      let summary ← buildBookingPaymentSummary row.id data
      shapeBookingRow summary (data.plan.map SummaryPlan.status)
        (clientFullName tables row.clientId) asOf
  | .payment row => shapePaymentRow asOf (paymentRecord tables row)
  | .refund row => shapeRefundRow asOf (refundRecord tables row)
  | .allocation row => shapeAllocationRow asOf (allocationRecord tables row)
  | .installment row =>
      shapeInstallmentRow asOf (installmentRecord tables row)

/-- The records of an actor's unfiltered set, in the order of the dataset. -/
def visibleRecords (tables : Tables) (actor : FinanceExportActor)
    (dataset : FinanceExportDataset) : List ExportedRecord :=
  (storedRecords tables dataset).filter (visible tables actor)

section Clauses

variable {tables : Tables} (constraints : Constraints tables)
  (actor : FinanceExportActor) (reference : Option String)

theorem ofBooking_scoped {bookingId : Uuid}
    (listed : bookingId ∈ tables.bookings.map Booking.id) :
    ofBooking tables bookingId (scopedBookingWhere tables actor reference) =
      (visible.assigned tables actor bookingId &&
        reference.all fun sought =>
          (labelOfBooking tables bookingId).bookingReference = sought) := by
  obtain ⟨booking, found⟩ := exists_findBy_of_mem_map listed
  have sameId : booking.id = bookingId := key_of_findBy found
  simp only [Repository.ofBooking, labelOfBooking, found, Option.any_some,
    Option.map_some, Option.getD_some, scopedBookingWhere, sameId,
    visible.assigned, selectLabel]

include constraints

theorem ofPayment_scoped {paymentId : Uuid}
    (listed : paymentId ∈ tables.payments.map Payment.id) :
    ofPayment tables paymentId
        (fun payment =>
          ofBooking tables payment.bookingId
            (scopedBookingWhere tables actor reference)) =
      (ofPayment tables paymentId
          (fun payment =>
            visible.assigned tables actor payment.bookingId) &&
        reference.all fun sought =>
          (labelOfPayment tables paymentId).bookingReference = sought) := by
  obtain ⟨payment, found⟩ := exists_findBy_of_mem_map listed
  have bookingListed :
      payment.bookingId ∈ tables.bookings.map Booking.id :=
    constraints.ledger.paymentBookings
      (List.mem_map_of_mem (mem_of_findBy found))
  simp only [ofPayment, labelOfPayment, found, Option.any_some,
    Option.map_some, Option.getD_some,
    ofBooking_scoped actor reference bookingListed]

theorem ofPlan_scoped {paymentPlanId : Uuid}
    (listed : paymentPlanId ∈ tables.paymentPlans.map PaymentPlan.id) :
    ofPlan tables paymentPlanId
        (fun plan =>
          plan.status = .approved &&
            ofBooking tables plan.bookingId
              (scopedBookingWhere tables actor reference)) =
      (ofPlan tables paymentPlanId
          (fun plan =>
            plan.status = .approved &&
              visible.assigned tables actor plan.bookingId) &&
        reference.all fun sought =>
          (labelOfPlan tables paymentPlanId).bookingReference = sought) := by
  obtain ⟨plan, found⟩ := exists_findBy_of_mem_map listed
  have bookingListed : plan.bookingId ∈ tables.bookings.map Booking.id :=
    constraints.ledger.planBookings
      (List.mem_map_of_mem (mem_of_findBy found))
  simp only [ofPlan, labelOfPlan, found, Option.any_some, Option.map_some,
    Option.getD_some, ofBooking_scoped actor reference
      bookingListed, Bool.and_assoc]

end Clauses

section Datasets

variable {tables : Tables} (constraints : Constraints tables)
  (platform : Platform) (actor : FinanceExportActor) (asOf : String)

/-- The rows of the visible records that satisfy a filter. -/
def chosenRows (tables : Tables) (actor : FinanceExportActor) (asOf : String)
    (dataset : FinanceExportDataset) (filter : RecordFilter) :
    Except TxError (List (List String)) :=
  ((visibleRecords tables actor dataset).filter (filter.holds tables)).mapM
    (exportedRow tables asOf)

/-- A sorted selection of stored rows, shaped through their records, is a
selection of the visible records. -/
theorem mapM_records_eq {ρ τ : Type} {le : ρ → ρ → Bool} {rows : List ρ}
    {wrap : ρ → ExportedRecord} {test : ρ → Bool} {filter : RecordFilter}
    {dataset : FinanceExportDataset} {recordOf : ρ → τ}
    {shape : τ → Except TxError (List String)}
    (trans : ∀ a b c, le a b → le b c → le a c)
    (total : ∀ a b, le a b || le b a)
    (stored : storedRecords tables dataset = (rows.mergeSort le).map wrap)
    (shaped :
      ∀ row, exportedRow tables asOf (wrap row) = shape (recordOf row))
    (same :
      ∀ row ∈ rows,
        test row =
          (visible tables actor (wrap row) &&
            filter.holds tables (wrap row))) :
    (((rows.filter test).mergeSort le).map recordOf).mapM shape =
      chosenRows tables actor asOf dataset filter := by
  have selected :
      ∀ row ∈ rows,
        test row =
          (filter.holds tables (wrap row) &&
            visible tables actor (wrap row)) := by
    intro row member
    rw [same row member, Bool.and_comm]
  have sameShape :
      shape ∘ recordOf = exportedRow tables asOf ∘ wrap := by
    funext row
    exact (shaped row).symm
  unfold chosenRows visibleRecords
  rw [List.filter_filter, stored, ← map_mergeSort_filter trans total selected,
    List.mapM_map, List.mapM_map, sameShape]

include constraints

theorem readAndShapeRows_bookings (bookingReference : Option String) :
    readAndShapeRows platform tables actor asOf (.bookings bookingReference) =
      chosenRows tables actor asOf .bookings
        ⟨bookingReference, none, none, none⟩ := by
  simp only [readAndShapeRows, findBookingExportRecords_eq constraints]
  apply mapM_records_eq actor asOf bookingsByReference_trans
    bookingsByReference_total rfl
  · intro booking
    rfl
  · intro booking _
    simp only [bookingExportWhere, scopedBookingWhere, visible,
      RecordFilter.holds, referenceOf, Bool.and_true]
    ac_rfl

theorem readAndShapeRows_payments (filters : DatedFilters)
    (status : Option PaymentStatus) :
    readAndShapeRows platform tables actor asOf (.payments filters status) =
      (manilaDayRange platform filters).bind fun range =>
        chosenRows tables actor asOf .payments
          ⟨filters.bookingReference, range, none, status⟩ := by
  simp only [readAndShapeRows, findPaymentExportRecords_eq constraints,
    paymentExportWhere]
  cases manilaDayRange platform filters with
  | error failure =>
      rfl
  | ok range =>
      apply mapM_records_eq actor asOf byInstant_trans byInstant_total rfl
      · intro payment
        rfl
      · intro payment member
        have listed :=
          constraints.ledger.paymentBookings (List.mem_map_of_mem member)
        rw [ofBooking_scoped actor filters.bookingReference listed]
        simp only [visible, RecordFilter.holds, referenceOf, Bool.and_assoc]
        rfl

theorem readAndShapeRows_refunds (filters : DatedFilters) :
    readAndShapeRows platform tables actor asOf (.refunds filters) =
      (manilaDayRange platform filters).bind fun range =>
        chosenRows tables actor asOf .refunds
          ⟨filters.bookingReference, range, none, none⟩ := by
  simp only [readAndShapeRows, findRefundExportRecords_eq constraints,
    refundExportWhere]
  cases manilaDayRange platform filters with
  | error failure =>
      rfl
  | ok range =>
      apply mapM_records_eq actor asOf byInstant_trans byInstant_total rfl
      · intro refund
        rfl
      · intro refund member
        have listed :=
          constraints.ledger.refundPayments (List.mem_map_of_mem member)
        rw [ofPayment_scoped constraints actor filters.bookingReference listed]
        simp only [visible, RecordFilter.holds, referenceOf, Bool.and_assoc]
        rfl

theorem readAndShapeRows_allocations (filters : DatedFilters) :
    readAndShapeRows platform tables actor asOf (.allocations filters) =
      (manilaDayRange platform filters).bind fun range =>
        chosenRows tables actor asOf .allocations
          ⟨filters.bookingReference, range, none, none⟩ := by
  simp only [readAndShapeRows, findAllocationExportRecords_eq constraints,
    allocationExportWhere]
  cases manilaDayRange platform filters with
  | error failure =>
      rfl
  | ok range =>
      apply mapM_records_eq actor asOf byInstant_trans byInstant_total rfl
      · intro allocation
        rfl
      · intro allocation member
        have listed : allocation.paymentId ∈ tables.payments.map Payment.id := by
          apply constraints.ledger.allocationPayments
          unfold Tables.ledger
          rw [List.map_map]
          exact List.mem_map_of_mem member
        rw [ofPayment_scoped constraints actor filters.bookingReference listed]
        simp only [visible, RecordFilter.holds, referenceOf, Bool.and_assoc]
        rfl

theorem readAndShapeRows_installments (filters : DatedFilters) :
    readAndShapeRows platform tables actor asOf (.installments filters) =
      (dateOnlyRange platform filters).bind fun range =>
        chosenRows tables actor asOf .installments
          ⟨filters.bookingReference, none, range, none⟩ := by
  simp only [readAndShapeRows, findInstallmentExportRecords_eq constraints,
    installmentExportWhere]
  cases dateOnlyRange platform filters with
  | error failure =>
      rfl
  | ok range =>
      apply mapM_records_eq actor asOf installmentsByBooking_trans
        installmentsByBooking_total rfl
      · intro installment
        rfl
      · intro installment member
        have listed :=
          constraints.ledger.installmentPlans (List.mem_map_of_mem member)
        rw [ofPlan_scoped constraints actor filters.bookingReference listed]
        simp only [visible, RecordFilter.holds, referenceOf, Bool.and_assoc]
        rfl

/-- Every export is the rows of the visible records its filter chooses. -/
theorem readAndShapeRows_eq (request : FinanceExportRequest) :
    readAndShapeRows platform tables actor asOf request =
      (recordFilter platform request).bind
        (chosenRows tables actor asOf request.dataset) := by
  cases request with
  | bookings bookingReference =>
      exact readAndShapeRows_bookings constraints platform actor asOf _
  | payments filters status =>
      rw [readAndShapeRows_payments constraints, recordFilter, bind_map]
      rfl
  | refunds filters =>
      rw [readAndShapeRows_refunds constraints, recordFilter, bind_map]
      rfl
  | allocations filters =>
      rw [readAndShapeRows_allocations constraints, recordFilter, bind_map]
      rfl
  | installments filters =>
      rw [readAndShapeRows_installments constraints, recordFilter, bind_map]
      rfl

end Datasets

/-- The calendar day of an instant in the Philippines, as its number. -/
def manilaDay (instant : Timestamp) : Int :=
  (instant + philippineUtcOffsetMs) / millisecondsPerDay

section Days

variable {platform : Platform} {filters : DatedFilters}
  {first last : String} {start finish : CalendarDay}

/-- A day is parsed as its midnight in the Philippines, on every platform. -/
theorem NamesDay.parseManilaDay_eq {value : String} {date : CalendarDay}
    (names : NamesDay value date) (platform : Platform) :
    parseDay platform value "T00:00:00.000+08:00" =
      some (date.number * millisecondsPerDay - philippineUtcOffsetMs) := by
  have small : date.year.natAbs < 10 ^ 6 := by
    obtain ⟨atLeast, atMost⟩ := names.1
    omega
  have time :
      readTime "00:00:00.000+08:00".toList = some (0, "+08:00".toList) := by
    decide
  have zone : readZone "+08:00".toList = some philippineUtcOffsetMs := by
    decide
  have split :
      "T00:00:00.000+08:00".toList = 'T' :: "00:00:00.000+08:00".toList := by
    decide
  have read :
      readDateTime (date.text ++ "T00:00:00.000+08:00".toList) =
        some (date.number * millisecondsPerDay - philippineUtcOffsetMs) := by
    rw [split, readDateTime_of_parts (date.readDate_text small _) time zone,
      Nat.cast_zero, add_zero]
  have inRange :
      -maxTime ≤ date.number * millisecondsPerDay - philippineUtcOffsetMs ∧
        date.number * millisecondsPerDay - philippineUtcOffsetMs ≤ maxTime := by
    have bounds := names.number_bounds
    unfold maxTime millisecondsPerDay philippineUtcOffsetMs
    omega
  rw [parseDay, names.2, dateParse, read]
  exact if_pos inRange

/-- The range of instants is a range of Philippine days. -/
theorem manilaDayRange_of_names (ofFirst : filters.rangeFrom = some first)
    (ofLast : filters.rangeTo = some last) (namesFirst : NamesDay first start)
    (namesLast : NamesDay last finish) :
    ∃ range,
      manilaDayRange platform filters = .ok (some range) ∧
        ∀ instant,
          range.holds instant ↔
            start.number ≤ manilaDay instant ∧
              manilaDay instant ≤ finish.number := by
  have inRange :
      timeClip
          (finish.number * millisecondsPerDay - philippineUtcOffsetMs +
            millisecondsPerDay) =
        some
          (finish.number * millisecondsPerDay - philippineUtcOffsetMs +
            millisecondsPerDay) := by
    have bounds := namesLast.number_bounds
    apply if_pos
    unfold maxTime millisecondsPerDay philippineUtcOffsetMs
    omega
  have read :
      manilaDayRange platform filters =
        .ok
          (some
            { gte := start.number * millisecondsPerDay - philippineUtcOffsetMs
              lt :=
                finish.number * millisecondsPerDay - philippineUtcOffsetMs +
                  millisecondsPerDay }) := by
    simp only [manilaDayRange, ofFirst, ofLast,
      namesFirst.parseManilaDay_eq, namesLast.parseManilaDay_eq, demand,
      ok_bind, inRange]
  refine ⟨_, read, ?_⟩
  intro instant
  have inside :
      ∀ gte lt time : Int,
        InstantRange.holds ⟨gte, lt⟩ time ↔ gte ≤ time ∧ time < lt := by
    simp [InstantRange.holds]
  rw [inside]
  unfold manilaDay millisecondsPerDay philippineUtcOffsetMs
  omega

/-- The range of due dates is a range of days. -/
theorem dateOnlyRange_of_names (ofFirst : filters.rangeFrom = some first)
    (ofLast : filters.rangeTo = some last) (namesFirst : NamesDay first start)
    (namesLast : NamesDay last finish) :
    ∃ range,
      dateOnlyRange platform filters = .ok (some range) ∧
        ∀ date : CalendarDay,
          range.holds (date.number * millisecondsPerDay) ↔
            start.number ≤ date.number ∧ date.number ≤ finish.number := by
  have read :
      dateOnlyRange platform filters =
        .ok
          (some
            { gte := start.number * millisecondsPerDay
              lte := finish.number * millisecondsPerDay }) := by
    simp only [dateOnlyRange, ofFirst, ofLast, namesFirst.parseDay_eq,
      namesLast.parseDay_eq, demand, ok_bind]
  refine ⟨_, read, ?_⟩
  intro date
  have inside :
      ∀ gte lte day : Int,
        DayRange.holds ⟨gte, lte⟩ day ↔ gte ≤ day ∧ day ≤ lte := by
    simp [DayRange.holds]
  rw [inside]
  unfold millisecondsPerDay
  omega

end Days

/-! ## Choosing rows -/

/-- A row stands for a record. -/
def IsRowOf (tables : Tables) (asOf : String) (record : ExportedRecord)
    (row : List String) : Prop :=
  exportedRow tables asOf record = .ok row

/-- An export holds a record, shaped into a row. -/
def Exported (platform : Platform) (tables : Tables)
    (actor : FinanceExportActor) (asOf : String)
    (request : FinanceExportRequest) (record : ExportedRecord)
    (row : List String) : Prop :=
  ∃ filter rows,
    recordFilter platform request = .ok filter ∧
      readAndShapeRows platform tables actor asOf request = .ok rows ∧
      (record, row) ∈
        ((visibleRecords tables actor request.dataset).filter
          (filter.holds tables)).zip rows

/-- What an export of one actor and one request holds. -/
structure ChoosesRows (platform : Platform) (tables : Tables)
    (asOf : String) (actor : FinanceExportActor)
    (request : FinanceExportRequest) : Prop where
  /-- Every record of the unfiltered set is in it once. -/
  once : (visibleRecords tables actor request.dataset).Nodup
  /-- The unfiltered export has the rows of the unfiltered set, in order. -/
  everyRow :
    ∀ rows,
      readAndShapeRows platform tables actor asOf
          (unfiltered request.dataset) = .ok rows ↔
        List.Forall₂ (IsRowOf tables asOf)
          (visibleRecords tables actor request.dataset) rows
  /-- The filtered export has the rows of the records that satisfy the
  filter, in order. -/
  someRows :
    ∀ rows,
      readAndShapeRows platform tables actor asOf request = .ok rows ↔
        ∃ filter,
          recordFilter platform request = .ok filter ∧
            List.Forall₂ (IsRowOf tables asOf)
              ((visibleRecords tables actor request.dataset).filter
                (filter.holds tables)) rows
  /-- The rows of the filtered export are rows of the unfiltered one. -/
  fromEveryRow :
    ∀ filter allRows,
      recordFilter platform request = .ok filter →
        readAndShapeRows platform tables actor asOf
            (unfiltered request.dataset) = .ok allRows →
          readAndShapeRows platform tables actor asOf request =
            .ok
              ((((visibleRecords tables actor request.dataset).zip
                allRows).filter fun pair =>
                  filter.holds tables pair.1).map Prod.snd)

section Choice

variable {tables : Tables} (constraints : Constraints tables)

/-- Rows with distinct keys make distinct records. -/
theorem nodup_wrapped {ρ κ : Type} {key : ρ → κ} {rows : List ρ}
    (unique : (rows.map key).Nodup) (le : ρ → ρ → Bool)
    {wrap : ρ → ExportedRecord} (injective : Function.Injective wrap) :
    ((rows.mergeSort le).map wrap).Nodup := by
  have distinct : rows.Nodup := List.Nodup.of_map key unique
  have sorted : (rows.mergeSort le).Nodup :=
    (List.mergeSort_perm rows le).nodup_iff.mpr distinct
  exact sorted.map injective

include constraints

theorem nodup_storedRecords (dataset : FinanceExportDataset) :
    (storedRecords tables dataset).Nodup := by
  cases dataset with
  | bookings =>
      apply nodup_wrapped constraints.ledger.bookingIds
      intro left right same
      exact ExportedRecord.booking.inj same
  | payments =>
      apply nodup_wrapped constraints.ledger.paymentIds
      intro left right same
      exact ExportedRecord.payment.inj same
  | refunds =>
      apply nodup_wrapped constraints.refundIds
      intro left right same
      exact ExportedRecord.refund.inj same
  | allocations =>
      apply nodup_wrapped (allocationIds constraints)
      intro left right same
      exact ExportedRecord.allocation.inj same
  | installments =>
      apply nodup_wrapped constraints.ledger.installmentIds
      intro left right same
      exact ExportedRecord.installment.inj same

theorem readAndShapeRows_eq_ok_iff (platform : Platform)
    (actor : FinanceExportActor) (asOf : String)
    (request : FinanceExportRequest) (rows : List (List String)) :
    readAndShapeRows platform tables actor asOf request = .ok rows ↔
      ∃ filter,
        recordFilter platform request = .ok filter ∧
          List.Forall₂ (IsRowOf tables asOf)
            ((visibleRecords tables actor request.dataset).filter
              (filter.holds tables)) rows := by
  rw [readAndShapeRows_eq constraints]
  change (recordFilter platform request >>= _) = _ ↔ _
  rw [bind_eq_ok]
  apply exists_congr
  intro filter
  apply and_congr_right
  intro _
  exact mapM_eq_ok_iff

theorem unfiltered_eq_ok_iff (platform : Platform)
    (actor : FinanceExportActor) (asOf : String)
    (dataset : FinanceExportDataset) (rows : List (List String)) :
    readAndShapeRows platform tables actor asOf (unfiltered dataset) =
        .ok rows ↔
      List.Forall₂ (IsRowOf tables asOf) (visibleRecords tables actor dataset)
        rows := by
  have sameDataset : (unfiltered dataset).dataset = dataset := by
    cases dataset <;> rfl
  have noFilter :
      recordFilter platform (unfiltered dataset) =
        .ok ⟨none, none, none, none⟩ := by
    cases dataset <;> rfl
  have everyRecord :
      RecordFilter.holds ⟨none, none, none, none⟩ tables =
        fun _ => true := by
    funext record
    cases record <;> rfl
  rw [readAndShapeRows_eq_ok_iff constraints, sameDataset, noFilter]
  constructor
  · rintro ⟨filter, same, matched⟩
    obtain rfl := Except.ok.inj same
    rw [everyRecord, List.filter_true] at matched
    exact matched
  · intro matched
    refine ⟨_, rfl, ?_⟩
    rw [everyRecord, List.filter_true]
    exact matched

theorem choosesRows (platform : Platform) (asOf : String)
    (actor : FinanceExportActor) (request : FinanceExportRequest) :
    ChoosesRows platform tables asOf actor request where
  once := (nodup_storedRecords constraints request.dataset).filter _
  everyRow := unfiltered_eq_ok_iff constraints platform actor asOf _
  someRows := readAndShapeRows_eq_ok_iff constraints platform actor asOf _
  fromEveryRow := by
    intro filter allRows read everyRow
    rw [unfiltered_eq_ok_iff constraints] at everyRow
    rw [readAndShapeRows_eq_ok_iff constraints]
    exact ⟨filter, read, forall₂_filter_zip _ everyRow⟩

/-- A row in an export is the row of its record. -/
theorem Exported.isRowOf {platform : Platform} {actor : FinanceExportActor}
    {asOf : String} {request : FinanceExportRequest}
    {record : ExportedRecord} {row : List String}
    (exported : Exported platform tables actor asOf request record row) :
    IsRowOf tables asOf record row := by
  obtain ⟨filter, rows, read, shaped, paired⟩ := exported
  obtain ⟨other, otherRead, matched⟩ :=
    (readAndShapeRows_eq_ok_iff constraints platform actor asOf request
      rows).mp shaped
  obtain rfl : filter = other := Except.ok.inj (read.symm.trans otherRead)
  exact List.forall₂_zip matched paired

end Choice

/-- The ranges of a filter are the days it names: Philippine days for
instants, plain days for due dates. -/
structure RangesAreDays (platform : Platform) (filters : DatedFilters)
    (start finish : CalendarDay) : Prop where
  manila :
    ∃ range,
      manilaDayRange platform filters = .ok (some range) ∧
        ∀ instant,
          range.holds instant ↔
            start.number ≤ manilaDay instant ∧
              manilaDay instant ≤ finish.number
  due :
    ∃ range,
      dateOnlyRange platform filters = .ok (some range) ∧
        ∀ date : CalendarDay,
          range.holds (date.number * millisecondsPerDay) ↔
            start.number ≤ date.number ∧ date.number ≤ finish.number

/-- Whatever the actor and the request, an export is a selection of the
actor's unfiltered rows, and two exports shape a record they share alike. -/
theorem filters_choose_rows (database : Database) (platform : Platform)
    (asOf : String) :
    (∀ actor request,
      ChoosesRows platform database.tables asOf actor request) ∧
    (∀ filters first last start finish,
      filters.rangeFrom = some first → filters.rangeTo = some last →
        NamesDay first start → NamesDay last finish →
          RangesAreDays platform filters start finish) ∧
    ∀ actor otherActor request otherRequest record row otherRow,
      Exported platform database.tables actor asOf request record row →
        Exported platform database.tables otherActor asOf otherRequest record
            otherRow →
          row = otherRow := by
  refine ⟨choosesRows database.constraints platform asOf, ?_, ?_⟩
  · intro filters first last start finish ofFirst ofLast namesFirst namesLast
    exact
      { manila := manilaDayRange_of_names ofFirst ofLast namesFirst namesLast
        due := dateOnlyRange_of_names ofFirst ofLast namesFirst namesLast }
  intro actor otherActor request otherRequest record row otherRow exported
    otherExported
  have shaped := exported.isRowOf database.constraints
  have otherShaped := otherExported.isRowOf database.constraints
  exact Except.ok.inj (shaped.symm.trans otherShaped)

end Heritage.Exports
