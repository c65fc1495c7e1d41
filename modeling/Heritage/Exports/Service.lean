import Heritage.Exports.Rows

/-!
# Generating an export

`export-service.ts`: the role and the request are checked, one transaction
reads the rows and writes the audit entry, and the committed rows are
assembled into a file.
-/

namespace Heritage.Exports

open Heritage.Store
open Heritage.Payments (TxError paymentError buildBookingPaymentSummary)
open Payments.Repository (SummaryPlan)
open Repository

structure FinanceExportResult where
  exportId : Uuid
  dataset : FinanceExportDataset
  formatVersion : String
  asOf : Timestamp
  scope : FinanceExportScope
  rowCount : Nat
  bookingCount : Nat
  filename : String
  content : ByteArray

/-- `request` is a `FinanceExportRequestError` with its issues. -/
inductive ExportFailure where
  | request (issues : List Issue)
  | failed (error : TxError)
  deriving DecidableEq

/-- What a request draws from outside the database: the identifier of the
export and the database server's clock in microseconds. -/
structure ExportContext where
  exportId : Uuid
  clock : Int

/-- `isExportRole`. -/
def exportRole : Role → Option FinanceExportRole
  | .adminManager => some .adminManager
  | .financeAccounting => some .financeAccounting
  | _ => none

def exportNotPermitted : ExportFailure :=
  .failed <|
    paymentError .roleNotPermitted
      "This account is not permitted to export finance records."

def rowLimitExceeded : ExportFailure :=
  .failed <|
    paymentError .exportRowLimitExceeded
      ("This export would hold more than " ++
        toString financeExportRowLimit ++
        " rows. Narrow the date range or export one booking.")

def readAndShapeRows (platform : Platform) (tables : Tables)
    (actor : FinanceExportActor) (asOf : String) :
    FinanceExportRequest → Except TxError (List (List String))
  | .bookings bookingReference =>
      (findBookingExportRecords tables actor bookingReference).mapM
        fun record => do
          requireBookingRefundsWithinAmounts record.data.payments
          let summary ←
            buildBookingPaymentSummary record.data.booking.id record.data
          shapeBookingRow summary (record.data.plan.map SummaryPlan.status)
            record.clientFullName asOf
  | .payments filters status => do
      let records ←
        findPaymentExportRecords platform tables actor filters status
      records.mapM (shapePaymentRow asOf)
  | .refunds filters => do
      let records ← findRefundExportRecords platform tables actor filters
      records.mapM (shapeRefundRow asOf)
  | .allocations filters => do
      let records ← findAllocationExportRecords platform tables actor filters
      records.mapM (shapeAllocationRow asOf)
  | .installments filters => do
      let records ← findInstallmentExportRecords platform tables actor filters
      records.mapM (shapeInstallmentRow asOf)

/-- The booking reference of a row of a dataset. -/
def bookingReferenceCell (dataset : FinanceExportDataset)
    (row : List String) : Option String :=
  row[(financeExportColumns dataset).idxOf "bookingReference"]?

/-- The number of values a list holds. -/
def distinctCount {α : Type} [DecidableEq α] (values : List α) : Nat :=
  values.dedup.length

/-- `'status' in input ? input.status : undefined`. -/
def FinanceExportRequest.status? :
    FinanceExportRequest → Option Payments.PaymentStatus
  | .payments _ status => status
  | _ => none

structure CommittedExport where
  exportId : Uuid
  asOf : Timestamp
  scope : FinanceExportScope
  rows : List (List String)
  bookingCount : Nat

/-- `insertAuditLog` with `FINANCE_EXPORT_GENERATED`. -/
def insertExportAuditLog (tables : Tables) (entry : FinanceExportAuditLog) :
    Tables :=
  { tables with auditLogs := tables.auditLogs ++ [.financeExport entry] }

def scopeOf : FinanceExportRole → FinanceExportScope
  | .adminManager => .allBookings
  | .financeAccounting => .assignedBookings

/-- The body of the transaction. -/
def exportTransaction (platform : Platform) (context : ExportContext)
    (actor : AuthenticatedUser) (input : FinanceExportRequest)
    (tables : Tables) : Except ExportFailure (CommittedExport × Tables) := do
  let recheck ←
    demand (recheckExportActorAndReadClock tables context.clock actor.id)
      exportNotPermitted
  require recheck.isActive exportNotPermitted
  let role ← demand (exportRole recheck.role) exportNotPermitted
  let exportActor : FinanceExportActor := { id := actor.id, role := role }
  let asOfText := formatManilaTimestamp recheck.asOf
  let rowCount ←
    (countFinanceExportRows platform tables exportActor input).mapError .failed
  require (¬ financeExportRowLimit < rowCount) rowLimitExceeded
  let rows ←
    (readAndShapeRows platform tables exportActor asOfText input).mapError
      .failed
  let bookingCount :=
    distinctCount (rows.map (bookingReferenceCell input.dataset))
  let entry : FinanceExportAuditLog :=
    { actorId := actor.id
      entityId := context.exportId
      afterState :=
        { dataset := input.dataset.text
          formatVersion := financeExportFormatVersion
          rangeFrom := input.dated.bind DatedFilters.rangeFrom
          rangeTo := input.dated.bind DatedFilters.rangeTo
          bookingReference := input.bookingReference
          status := input.status?.map Payments.PaymentStatus.text
          scope := scopeOf role
          actorRole := role.toRole
          rowCount := rows.length
          bookingCount := bookingCount
          asOf := asOfText } }
  .ok
    ({ exportId := context.exportId
       asOf := recheck.asOf
       scope := scopeOf role
       rows := rows
       bookingCount := bookingCount },
      insertExportAuditLog tables entry)

/-- The result of a committed export. -/
def CommittedExport.result (committed : CommittedExport)
    (input : FinanceExportRequest) (content : ByteArray) :
    FinanceExportResult where
  exportId := committed.exportId
  dataset := input.dataset
  formatVersion := financeExportFormatVersion
  asOf := committed.asOf
  scope := committed.scope
  rowCount := committed.rows.length
  bookingCount := committed.bookingCount
  filename :=
    buildFinanceExportFilename input.dataset.text financeExportFormatVersion
      (input.dated.bind DatedFilters.rangeFrom)
      (input.dated.bind DatedFilters.rangeTo) committed.asOf
  content := content

/-- The file is assembled after the commit. -/
def assembleExport (input : FinanceExportRequest)
    (committed : CommittedExport) : Except ExportFailure FinanceExportResult :=
  ((encodeCsv (financeExportColumns input.dataset)
    committed.rows).mapError .failed).map (committed.result input)

def generateFinanceExport (platform : Platform) (context : ExportContext)
    (actor : AuthenticatedUser) (rawInput : RawValue) (tables : Tables) :
    Except ExportFailure FinanceExportResult × Tables :=
  match exportRole actor.role with
  | none => (.error exportNotPermitted, tables)
  | some _ =>
      match financeExportRequestSchema platform rawInput with
      | .error issues => (.error (.request issues), tables)
      | .ok input =>
          match transact (exportTransaction platform context actor input)
              tables with
          | (.error failure, after) => (.error failure, after)
          | (.ok committed, after) => (assembleExport input committed, after)

end Heritage.Exports
