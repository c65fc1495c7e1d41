import Heritage.Store.Loops
import Heritage.Payments.Summary
import Heritage.Exports.Service

/-!
# The audit entry of an export

An export that returns a file has written one entry that counts the rows of
that file; an export that is refused has changed nothing.
-/

namespace Heritage.Exports

open Heritage.Store Heritage.Payments
open Repository

variable {platform : Platform} {tables : Tables} {actor : FinanceExportActor}
  {asOf : String} {row : List String}

/-- Where a dataset shows the booking reference. -/
def referenceIndex : FinanceExportDataset → Nat
  | .bookings => 0
  | .payments => 1
  | .refunds => 2
  | .allocations => 3
  | .installments => 0

theorem idxOf_bookingReference (dataset : FinanceExportDataset) :
    (financeExportColumns dataset).idxOf "bookingReference" =
      referenceIndex dataset := by
  cases dataset <;> decide

theorem bookingReferenceCell_eq (dataset : FinanceExportDataset)
    (row : List String) :
    bookingReferenceCell dataset row = row[referenceIndex dataset]? := by
  unfold bookingReferenceCell
  rw [idxOf_bookingReference]

/-- The row is as wide as the header and shows the reference. -/
def Aligned (dataset : FinanceExportDataset) (reference : String)
    (row : List String) : Prop :=
  row.length = (financeExportColumns dataset).length ∧
    row[referenceIndex dataset]? = some reference

theorem aligned_shapeBookingRow {summary : StaffBookingPaymentBalances}
    {planStatus : Option PaymentPlanStatus} {clientName : String}
    (shaped : shapeBookingRow summary planStatus clientName asOf = .ok row) :
    Aligned .bookings summary.bookingReference row := by
  simp only [shapeBookingRow, bind_eq_ok] at shaped
  obtain ⟨_, _, _, _, _, _, _, _, _, _, same⟩ := shaped
  rw [← Except.ok.inj same]
  simp [Aligned, financeExportColumns, referenceIndex]

theorem aligned_shapePaymentRow {payment : PaymentExportRecord}
    (shaped : shapePaymentRow asOf payment = .ok row) :
    Aligned .payments payment.booking.bookingReference row := by
  simp only [shapePaymentRow, bind_eq_ok] at shaped
  obtain ⟨_, _, _, _, _, _, _, _, same⟩ := shaped
  rw [← Except.ok.inj same]
  simp [Aligned, financeExportColumns, referenceIndex]

theorem aligned_shapeRefundRow {refund : RefundExportRecord}
    (shaped : shapeRefundRow asOf refund = .ok row) :
    Aligned .refunds refund.booking.bookingReference row := by
  simp only [shapeRefundRow, bind_eq_ok] at shaped
  obtain ⟨_, _, same⟩ := shaped
  rw [← Except.ok.inj same]
  simp [Aligned, financeExportColumns, referenceIndex]

theorem aligned_shapeAllocationRow {allocation : AllocationExportRecord}
    (shaped : shapeAllocationRow asOf allocation = .ok row) :
    Aligned .allocations allocation.booking.bookingReference row := by
  simp only [shapeAllocationRow, bind_eq_ok] at shaped
  obtain ⟨_, _, _, _, same⟩ := shaped
  rw [← Except.ok.inj same]
  simp [Aligned, financeExportColumns, referenceIndex]

theorem aligned_shapeInstallmentRow {installment : InstallmentExportRecord}
    (shaped : shapeInstallmentRow asOf installment = .ok row) :
    Aligned .installments installment.booking.bookingReference row := by
  simp only [shapeInstallmentRow, bind_eq_ok] at shaped
  obtain ⟨_, _, _, _, same⟩ := shaped
  rw [← Except.ok.inj same]
  simp [Aligned, financeExportColumns, referenceIndex]

/-- The reference of a stored booking, or the one that stands for none. -/
def StoredReference (tables : Tables) (reference : String) : Prop :=
  reference = "" ∨ reference ∈ tables.bookings.map Booking.bookingReference

theorem storedReference_labelOfBooking (bookingId : Uuid) :
    StoredReference tables
      (labelOfBooking tables bookingId).bookingReference := by
  unfold labelOfBooking
  cases found : findBy Booking.id bookingId tables.bookings with
  | none =>
      exact Or.inl rfl
  | some booking =>
      exact Or.inr (List.mem_map_of_mem (mem_of_findBy found))

theorem storedReference_labelOfPayment (paymentId : Uuid) :
    StoredReference tables
      (labelOfPayment tables paymentId).bookingReference := by
  unfold labelOfPayment
  cases findBy Payment.id paymentId tables.payments with
  | none =>
      exact Or.inl rfl
  | some payment =>
      exact storedReference_labelOfBooking payment.bookingId

theorem storedReference_labelOfPlan (paymentPlanId : Uuid) :
    StoredReference tables
      (labelOfPlan tables paymentPlanId).bookingReference := by
  unfold labelOfPlan
  cases findBy PaymentPlan.id paymentPlanId tables.paymentPlans with
  | none =>
      exact Or.inl rfl
  | some plan =>
      exact storedReference_labelOfBooking plan.bookingId

/-- Rows as wide as the header, each with a stored reference. -/
def AlignedRows (tables : Tables) (dataset : FinanceExportDataset)
    (rows : List (List String)) : Prop :=
  ∀ row ∈ rows, ∃ reference,
    Aligned dataset reference row ∧ StoredReference tables reference

section Read

variable {filters : DatedFilters} {rows : List (List String)} {count : Nat}

theorem read_bookings {bookingReference : Option String}
    (read :
      readAndShapeRows platform tables actor asOf
        (.bookings bookingReference) = .ok rows)
    (counted :
      countFinanceExportRows platform tables actor
        (.bookings bookingReference) = .ok count) :
    rows.length = count ∧ AlignedRows tables .bookings rows := by
  simp only [readAndShapeRows] at read
  constructor
  · rw [length_of_mapM read, ← Except.ok.inj counted]
    simp only [findBookingExportRecords, List.length_map,
      List.length_mergeSort, List.countP_eq_length_filter]
  · refine forall_mem_of_mapM read ?_
    intro record member row shaped
    obtain ⟨_, _, continued⟩ := bind_eq_ok.mp shaped
    obtain ⟨summary, built, rowShaped⟩ := bind_eq_ok.mp continued
    refine ⟨_, aligned_shapeBookingRow rowShaped, ?_⟩
    rw [(buildBookingPaymentSummary_booking built).1]
    obtain ⟨booking, kept, rfl⟩ := List.mem_map.mp member
    have stored : booking ∈ tables.bookings :=
      List.mem_of_mem_filter (List.mem_mergeSort.mp kept)
    exact Or.inr (List.mem_map_of_mem stored)

/-- What one condition selects is read, shaped and counted. -/
theorem read_of_condition {τ ρ : Type} {stored : List τ}
    {order : τ → τ → Bool} {condition : Except TxError (τ → Bool)}
    {record : (τ → Bool) → τ → ρ} {shape : ρ → Except TxError (List String)}
    {dataset : FinanceExportDataset}
    (read :
      ((condition >>= fun test =>
          .ok
            (((stored.filter test).mergeSort order).map (record test))) >>=
        fun records => records.mapM shape) = .ok rows)
    (counted :
      (condition >>= fun test => .ok (stored.countP test)) = .ok count)
    (shows :
      ∀ test value row, shape (record test value) = .ok row →
        ∃ reference,
          Aligned dataset reference row ∧ StoredReference tables reference) :
    rows.length = count ∧ AlignedRows tables dataset rows := by
  obtain ⟨records, found, shaped⟩ := bind_eq_ok.mp read
  obtain ⟨test, isCondition, sameCount⟩ := bind_eq_ok.mp counted
  obtain ⟨readTest, readCondition, sameRecords⟩ := bind_eq_ok.mp found
  obtain rfl : test = readTest :=
    Except.ok.inj (isCondition.symm.trans readCondition)
  obtain rfl := Except.ok.inj sameRecords
  constructor
  · rw [length_of_mapM shaped, ← Except.ok.inj sameCount, List.length_map,
      List.length_mergeSort, List.countP_eq_length_filter]
  · refine forall_mem_of_mapM shaped ?_
    intro converted member row rowShaped
    obtain ⟨value, -, rfl⟩ := List.mem_map.mp member
    exact shows test value row rowShaped

theorem read_payments {status : Option PaymentStatus}
    (read :
      readAndShapeRows platform tables actor asOf
        (.payments filters status) = .ok rows)
    (counted :
      countFinanceExportRows platform tables actor
        (.payments filters status) = .ok count) :
    rows.length = count ∧ AlignedRows tables .payments rows := by
  refine read_of_condition read counted ?_
  intro test payment row shaped
  exact
    ⟨_, aligned_shapePaymentRow shaped, storedReference_labelOfBooking _⟩

theorem read_refunds
    (read :
      readAndShapeRows platform tables actor asOf (.refunds filters) =
        .ok rows)
    (counted :
      countFinanceExportRows platform tables actor (.refunds filters) =
        .ok count) :
    rows.length = count ∧ AlignedRows tables .refunds rows := by
  refine read_of_condition read counted ?_
  intro test refund row shaped
  exact
    ⟨_, aligned_shapeRefundRow shaped, storedReference_labelOfPayment _⟩

theorem read_allocations
    (read :
      readAndShapeRows platform tables actor asOf (.allocations filters) =
        .ok rows)
    (counted :
      countFinanceExportRows platform tables actor (.allocations filters) =
        .ok count) :
    rows.length = count ∧ AlignedRows tables .allocations rows := by
  simp only [readAndShapeRows] at read
  obtain ⟨records, found, shaped⟩ := bind_eq_ok.mp read
  obtain ⟨test, clause, sameCount⟩ := bind_eq_ok.mp counted
  obtain ⟨readTest, readClause, joined⟩ := bind_eq_ok.mp found
  obtain rfl : test = readTest :=
    Except.ok.inj (clause.symm.trans readClause)
  have references :
      ∀ record ∈ records,
        StoredReference tables record.booking.bookingReference := by
    refine forall_mem_of_mapM joined ?_
    intro allocation _ record built
    obtain ⟨installment, _, same⟩ := bind_eq_ok.mp built
    rw [← Except.ok.inj same]
    exact storedReference_labelOfPayment allocation.paymentId
  constructor
  · rw [length_of_mapM shaped, length_of_mapM joined,
      ← Except.ok.inj sameCount]
    simp only [List.length_mergeSort, List.countP_eq_length_filter]
  · refine forall_mem_of_mapM shaped ?_
    intro record member row rowShaped
    exact ⟨_, aligned_shapeAllocationRow rowShaped, references record member⟩

theorem read_installments
    (read :
      readAndShapeRows platform tables actor asOf (.installments filters) =
        .ok rows)
    (counted :
      countFinanceExportRows platform tables actor (.installments filters) =
        .ok count) :
    rows.length = count ∧ AlignedRows tables .installments rows := by
  refine read_of_condition read counted ?_
  intro test installment row shaped
  exact
    ⟨_, aligned_shapeInstallmentRow shaped, storedReference_labelOfPlan _⟩

/-- The rows that are read are the rows that were counted. -/
theorem read_as_counted {request : FinanceExportRequest}
    (read :
      readAndShapeRows platform tables actor asOf request = .ok rows)
    (counted :
      countFinanceExportRows platform tables actor request = .ok count) :
    rows.length = count ∧ AlignedRows tables request.dataset rows := by
  cases request with
  | bookings bookingReference =>
      exact read_bookings read counted
  | payments filters status =>
      exact read_payments read counted
  | refunds filters =>
      exact read_refunds read counted
  | allocations filters =>
      exact read_allocations read counted
  | installments filters =>
      exact read_installments read counted

end Read

/-- What a committed export read, and the entry it wrote. -/
structure AuditedRows (platform : Platform) (actor : AuthenticatedUser)
    (tables : Tables) (request : FinanceExportRequest)
    (role : FinanceExportRole) (committed : CommittedExport)
    (entry : FinanceExportAuditLog) : Prop where
  /-- The role is that of the stored account. -/
  storedActor :
    ∃ user,
      findBy User.id actor.id tables.users = some user ∧ user.isActive ∧
        exportRole user.role = some role
  rowsRead :
    readAndShapeRows platform tables ⟨actor.id, role⟩
        (formatManilaTimestamp committed.asOf) request =
      .ok committed.rows
  counted :
    countFinanceExportRows platform tables ⟨actor.id, role⟩ request =
      .ok committed.rows.length
  withinLimit : committed.rows.length ≤ financeExportRowLimit
  scope :
    committed.scope = scopeOf role ∧
      entry.afterState.scope = scopeOf role ∧
      entry.afterState.actorRole = role.toRole
  rowCount : entry.afterState.rowCount = committed.rows.length
  bookingCount :
    entry.afterState.bookingCount = committed.bookingCount ∧
      committed.bookingCount =
        distinctCount
          (committed.rows.map (bookingReferenceCell request.dataset))
  entryOf :
    entry.actorId = actor.id ∧ entry.entityId = committed.exportId ∧
      entry.afterState.dataset = request.dataset.text

theorem mapError_eq_ok {ε φ α : Type} {computation : Except ε α}
    {change : ε → φ} {value : α} :
    computation.mapError change = .ok value ↔ computation = .ok value := by
  cases computation with
  | error failure =>
      simp [Except.mapError]
  | ok result =>
      simp [Except.mapError]

theorem exportTransaction_ok {context : ExportContext}
    {user : AuthenticatedUser} {request : FinanceExportRequest}
    {committed : CommittedExport} {after : Tables}
    (succeeds :
      exportTransaction platform context user request tables =
        .ok (committed, after)) :
    ∃ role entry,
      AuditedRows platform user tables request role committed entry ∧
        AlignedRows tables request.dataset committed.rows ∧
        after = insertExportAuditLog tables entry := by
  unfold exportTransaction at succeeds
  obtain ⟨recheck, found, succeeds⟩ := bind_eq_ok.mp succeeds
  obtain ⟨_, active, succeeds⟩ := bind_eq_ok.mp succeeds
  obtain ⟨role, permitted, succeeds⟩ := bind_eq_ok.mp succeeds
  obtain ⟨count, counted, succeeds⟩ := bind_eq_ok.mp succeeds
  obtain ⟨_, limited, succeeds⟩ := bind_eq_ok.mp succeeds
  obtain ⟨rows, read, same⟩ := bind_eq_ok.mp succeeds
  rw [demand_eq_ok] at found permitted
  rw [require_eq_ok] at active limited
  rw [mapError_eq_ok] at counted read
  obtain ⟨stored, foundUser, rfl⟩ := Option.map_eq_some_iff.mp found
  obtain ⟨sameCount, aligned⟩ := read_as_counted read counted
  obtain ⟨rfl, rfl⟩ := Prod.mk.inj (Except.ok.inj same)
  refine ⟨role, _, ?_, aligned, rfl⟩
  exact
    { storedActor := ⟨stored, foundUser, active, permitted⟩
      rowsRead := read
      counted := by rw [counted, sameCount]
      withinLimit := by
        rw [sameCount]
        exact not_lt.mp limited
      scope := ⟨rfl, rfl, rfl⟩
      rowCount := rfl
      bookingCount := ⟨rfl, rfl⟩
      entryOf := ⟨rfl, rfl, rfl⟩ }

/-- Rows as they stand in the file. -/
def fileRows (rows : List (List String)) : List (List String) :=
  rows.map fun row => row.map neutralizeFormulaCell

/-- What the returned file holds. -/
structure HoldsRows (tables : Tables) (request : FinanceExportRequest)
    (committed : CommittedExport) (result : FinanceExportResult) : Prop where
  /-- The file is the header and the rows that were read. -/
  content :
    ∃ text,
      result.content = text.toUTF8 ∧
        readCsv text =
          some
            (financeExportColumns request.dataset :: fileRows committed.rows)
  rowCount : result.rowCount = (fileRows committed.rows).length
  bookingCount : result.bookingCount = committed.bookingCount
  /-- References of the issued form stand in the file as they are. -/
  references :
    (∀ booking ∈ tables.bookings,
        isValidClientBookingReference booking.bookingReference) →
      distinctCount
          ((fileRows committed.rows).map
            (bookingReferenceCell request.dataset)) =
        result.bookingCount
  scope : result.scope = committed.scope
  identity :
    result.exportId = committed.exportId ∧
      result.dataset = request.dataset ∧ result.asOf = committed.asOf

theorem neutralizeFormulaCell_of_head {value : String} {letter : Char}
    (atHead : value.toList.head? = some letter)
    (plain : letter ∉ formulaLeadingCharacters) :
    neutralizeFormulaCell value = value := by
  simp [neutralizeFormulaCell, atHead, plain]

theorem neutralizeFormulaCell_reference {reference : String}
    (valid :
      ∀ booking ∈ tables.bookings,
        isValidClientBookingReference booking.bookingReference)
    (stored : StoredReference tables reference) :
    neutralizeFormulaCell reference = reference := by
  rcases stored with rfl | listed
  · decide
  · obtain ⟨booking, member, rfl⟩ := List.mem_map.mp listed
    have form := valid booking member
    simp only [isValidClientBookingReference, decide_eq_true_eq,
      Bool.decide_and, Bool.and_eq_true] at form
    have atHead :
        (booking.bookingReference.toList.take 4).head? = some 'H' := by
      rw [form.1]
      decide
    rw [List.head?_take, if_neg (by decide)] at atHead
    exact neutralizeFormulaCell_of_head atHead (by decide)

/-- In the file the references are those of the rows. -/
theorem fileRows_references {dataset : FinanceExportDataset}
    {rows : List (List String)}
    (valid :
      ∀ booking ∈ tables.bookings,
        isValidClientBookingReference booking.bookingReference)
    (aligned : AlignedRows tables dataset rows) :
    (fileRows rows).map (bookingReferenceCell dataset) =
      rows.map (bookingReferenceCell dataset) := by
  unfold fileRows
  rw [List.map_map]
  apply List.map_congr_left
  intro row member
  obtain ⟨reference, ⟨_, shown⟩, stored⟩ := aligned row member
  rw [Function.comp_apply, bookingReferenceCell_eq, bookingReferenceCell_eq,
    List.getElem?_map, shown, Option.map_some,
    neutralizeFormulaCell_reference valid stored]

theorem header_plain (dataset : FinanceExportDataset) :
    (financeExportColumns dataset).map neutralizeFormulaCell =
      financeExportColumns dataset := by
  cases dataset <;> decide

theorem assembleExport_ok {request : FinanceExportRequest}
    {committed : CommittedExport}
    (aligned : AlignedRows tables request.dataset committed.rows)
    (counted :
      committed.bookingCount =
        distinctCount
          (committed.rows.map (bookingReferenceCell request.dataset))) :
    ∃ result,
      assembleExport request committed = .ok result ∧
        HoldsRows tables request committed result := by
  have headerNonempty : financeExportColumns request.dataset ≠ [] := by
    cases request <;> simp [financeExportColumns, FinanceExportRequest.dataset]
  have widths :
      ∀ row ∈ committed.rows,
        row.length = (financeExportColumns request.dataset).length := by
    intro row member
    obtain ⟨_, ⟨width, _⟩, _⟩ := aligned row member
    exact width
  obtain ⟨text, written, readBack⟩ := csvText_readCsv headerNonempty widths
  rw [List.map_cons, header_plain] at readBack
  refine ⟨committed.result request text.toUTF8, ?_, ?_⟩
  · unfold assembleExport encodeCsv
    rw [written]
    rfl
  · exact
      { content := ⟨text, rfl, readBack⟩
        rowCount := (List.length_map _).symm
        bookingCount := rfl
        references := by
          intro valid
          rw [fileRows_references valid aligned, ← counted]
          rfl
        scope := rfl
        identity := ⟨rfl, rfl, rfl⟩ }

/-! ## The request -/

section Request

variable (platform : Platform) (context : ExportContext)
  (actor : AuthenticatedUser) (rawInput : RawValue) (tables : Tables)

/-- A refused export changes nothing. -/
theorem refused_unchanged {failure : ExportFailure} {after : Tables}
    (refused :
      generateFinanceExport platform context actor rawInput tables =
        (.error failure, after)) :
    after = tables := by
  unfold generateFinanceExport at refused
  cases permitted : exportRole actor.role with
  | none =>
      rw [permitted] at refused
      exact (Prod.mk.inj refused).2.symm
  | some sessionRole =>
      cases parsed : financeExportRequestSchema platform rawInput with
      | error issues =>
          rw [permitted, parsed] at refused
          exact (Prod.mk.inj refused).2.symm
      | ok request =>
          rw [permitted, parsed] at refused
          cases outcome :
              exportTransaction platform context actor request tables with
          | error reason =>
              simp only [transact, outcome] at refused
              exact (Prod.mk.inj refused).2.symm
          | ok value =>
              obtain ⟨committed, stored⟩ := value
              obtain ⟨role, entry, audited, aligned, _⟩ :=
                exportTransaction_ok outcome
              obtain ⟨result, assembled, _⟩ :=
                assembleExport_ok aligned audited.bookingCount.2
              simp only [transact, outcome, assembled] at refused
              cases (Prod.mk.inj refused).1

theorem returned_audited {result : FinanceExportResult} {after : Tables}
    (returned :
      generateFinanceExport platform context actor rawInput tables =
        (.ok result, after)) :
    ∃ request role committed entry,
      financeExportRequestSchema platform rawInput = .ok request ∧
        AuditedRows platform actor tables request role committed entry ∧
        HoldsRows tables request committed result ∧
        after = insertExportAuditLog tables entry := by
  unfold generateFinanceExport at returned
  cases permitted : exportRole actor.role with
  | none =>
      rw [permitted] at returned
      cases (Prod.mk.inj returned).1
  | some sessionRole =>
      cases parsed : financeExportRequestSchema platform rawInput with
      | error issues =>
          rw [permitted, parsed] at returned
          cases (Prod.mk.inj returned).1
      | ok request =>
          rw [permitted, parsed] at returned
          cases outcome :
              exportTransaction platform context actor request tables with
          | error reason =>
              simp only [transact, outcome] at returned
              cases (Prod.mk.inj returned).1
          | ok value =>
              obtain ⟨committed, stored⟩ := value
              obtain ⟨role, entry, audited, aligned, written⟩ :=
                exportTransaction_ok outcome
              obtain ⟨assembledResult, assembled, holds⟩ :=
                assembleExport_ok aligned audited.bookingCount.2
              simp only [transact, outcome, assembled] at returned
              obtain ⟨sameResult, rfl⟩ := Prod.mk.inj returned
              obtain rfl := Except.ok.inj sameResult
              exact ⟨request, role, committed, entry, rfl, audited, holds, written⟩

/-- A returned export has added one entry, which counts the rows of its file;
a refused one has changed nothing; and the session's role does no more than
permit the request. -/
theorem export_audited :
    (∀ failure after,
      generateFinanceExport platform context actor rawInput tables =
          (.error failure, after) →
        after = tables) ∧
    (∀ result after,
      generateFinanceExport platform context actor rawInput tables =
          (.ok result, after) →
        ∃ request role committed entry,
          financeExportRequestSchema platform rawInput = .ok request ∧
            AuditedRows platform actor tables request role committed entry ∧
            HoldsRows tables request committed result ∧
            after = insertExportAuditLog tables entry) ∧
    ∀ sessionRole,
      (exportRole sessionRole).isSome → (exportRole actor.role).isSome →
        generateFinanceExport platform context ⟨actor.id, sessionRole⟩
            rawInput tables =
          generateFinanceExport platform context actor rawInput tables := by
  refine ⟨?_, ?_, ?_⟩
  · intro failure after refused
    exact refused_unchanged platform context actor rawInput tables refused
  · intro result after returned
    exact returned_audited platform context actor rawInput tables returned
  · intro sessionRole otherPermitted permitted
    obtain ⟨otherRole, foundOther⟩ := Option.isSome_iff_exists.mp otherPermitted
    obtain ⟨role, found⟩ := Option.isSome_iff_exists.mp permitted
    unfold generateFinanceExport
    rw [foundOther, found]
    rfl

end Request

end Heritage.Exports
