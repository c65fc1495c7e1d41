import Heritage.Calendar.DateTime
import Heritage.Payments.Tables

/-!
# Requests for a finance export

`export-schemas.ts` with `isRealCalendarDate` and the booking-reference
pattern.  A schema is a function from a raw value to the value it accepts and
the issues it raises; a refinement that fails raises an issue and keeps the
value, so that the later checks still run on it.
-/

namespace Heritage.Exports

open Heritage.Calendar
open Heritage.Payments (PaymentStatus)

inductive RawValue where
  | undefined
  | null
  | boolean (value : Bool)
  | number (value : Rat)
  | string (text : String)
  | array (items : List RawValue)
  | object (fields : List (String × RawValue))

/-- What a property is; a missing one is `undefined`. -/
def property (fields : List (String × RawValue)) (key : String) : RawValue :=
  ((fields.find? fun field => field.1 = key).map Prod.snd).getD .undefined

inductive Issue where
  | custom (path : List String) (message : String)
  | invalidType (path : List String)
  | invalidValue (path : List String)
  | invalidDiscriminator (path : List String)
  | unrecognizedKeys (keys : List String)
  deriving DecidableEq, Repr

/-- A failed refinement lets the later checks run; the other issues do not. -/
def Issue.continues : Issue → Bool
  | .custom _ _ => true
  | _ => false

/-- A value that may be missing, and the issues raised on the way to it. -/
structure Checked (α : Type) where
  value : Option α
  issues : List Issue

def financeExportFormatVersion : String := "v1"

def financeExportRowLimit : Nat := 10000

def financeExportMaxRangeDays : Int := 366

inductive FinanceExportDataset where
  | bookings
  | payments
  | refunds
  | allocations
  | installments
  deriving DecidableEq, Repr

def FinanceExportDataset.text : FinanceExportDataset → String
  | .bookings => "bookings"
  | .payments => "payments"
  | .refunds => "refunds"
  | .allocations => "allocations"
  | .installments => "installments"

/-- `FINANCE_EXPORT_DATASETS`. -/
def financeExportDatasets : List FinanceExportDataset :=
  [.bookings, .payments, .refunds, .allocations, .installments]

def paymentStatuses : List PaymentStatus :=
  [.pending, .confirmed, .rejected, .cancelled, .failed, .refunded, .reversed]

structure DatedFilters where
  rangeFrom : Option String
  rangeTo : Option String
  bookingReference : Option String
  deriving DecidableEq, Repr

inductive FinanceExportRequest where
  | bookings (bookingReference : Option String)
  | payments (filters : DatedFilters) (status : Option PaymentStatus)
  | refunds (filters : DatedFilters)
  | allocations (filters : DatedFilters)
  | installments (filters : DatedFilters)
  deriving DecidableEq, Repr

def FinanceExportRequest.dataset :
    FinanceExportRequest → FinanceExportDataset
  | .bookings _ => .bookings
  | .payments _ _ => .payments
  | .refunds _ => .refunds
  | .allocations _ => .allocations
  | .installments _ => .installments

/-- The filters of a dated dataset. -/
def FinanceExportRequest.dated :
    FinanceExportRequest → Option DatedFilters
  | .bookings _ => none
  | .payments filters _ => some filters
  | .refunds filters => some filters
  | .allocations filters => some filters
  | .installments filters => some filters

def FinanceExportRequest.bookingReference :
    FinanceExportRequest → Option String
  | .bookings bookingReference => bookingReference
  | .payments filters _ => filters.bookingReference
  | .refunds filters => filters.bookingReference
  | .allocations filters => filters.bookingReference
  | .installments filters => filters.bookingReference

/-- What an implementation makes of the strings that the date-time string
format leaves to it. -/
abbrev Platform := List Char → Option Int

/-- `Date.parse(value + time)`. -/
def parseDay (platform : Platform) (value time : String) : Option Int :=
  dateParse platform (value.toList ++ time.toList)

def isRealCalendarDate (platform : Platform) (value : String) : Bool :=
  (parseDay platform value "T00:00:00.000Z").any fun parsed =>
    (toISOString parsed).take 10 = value.toList

/-- The inclusive number of days; `none` stands for `NaN`. -/
def countInclusiveDays (platform : Platform) (first last : String) :
    Option Int := do
  let start ← parseDay platform first "T00:00:00.000Z"
  let finish ← parseDay platform last "T00:00:00.000Z"
  -- `Math.round` of the quotient
  some ((finish - start + millisecondsPerDay / 2) / millisecondsPerDay + 1)

/-- `/^HPB-[0-9A-F]{20}$/`. -/
def isValidClientBookingReference (value : String) : Bool :=
  value.toList.take 4 = "HPB-".toList ∧ value.toList.length = 24 ∧
    (value.toList.drop 4).all fun letter =>
      letter.isDigit || ('A' ≤ letter && letter ≤ 'F')

/-- A string under a refinement. -/
def refinedString (refinement : String → Bool) (message key : String) :
    RawValue → Checked String
  | .string text =>
      { value := some text
        issues := if refinement text then [] else [.custom [key] message] }
  | _ => { value := none, issues := [.invalidType [key]] }

/-- A property that may be missing. -/
def optional {α : Type} (schema : RawValue → Checked α) :
    RawValue → Checked (Option α)
  | .undefined => { value := some none, issues := [] }
  | value =>
      { value := (schema value).value.map some
        issues := (schema value).issues }

def calendarDaySchema (platform : Platform) (key : String) :
    RawValue → Checked String :=
  refinedString (isRealCalendarDate platform)
    "must be a real calendar date in YYYY-MM-DD form" key

def bookingReferenceSchema (key : String) : RawValue → Checked String :=
  refinedString isValidClientBookingReference
    "bookingReference is not a valid booking reference" key

def statusSchema (key : String) : RawValue → Checked PaymentStatus
  | .string text =>
      match paymentStatuses.find? fun status => status.text = text with
      | some status => { value := some status, issues := [] }
      | none => { value := none, issues := [.invalidValue [key]] }
  | _ => { value := none, issues := [.invalidValue [key]] }

/-- `.strict()`: the keys that are none of the schema's. -/
def strictIssues (allowed : List String)
    (fields : List (String × RawValue)) : List Issue :=
  match (fields.map Prod.fst).filter fun key => key ∉ allowed with
  | [] => []
  | keys => [.unrecognizedKeys keys]

def datedKeys : List String := ["dataset", "from", "to", "bookingReference"]

/-- `datedFilters`. -/
def datedFilters (platform : Platform) (fields : List (String × RawValue)) :
    Checked DatedFilters :=
  let rangeFrom :=
    optional (calendarDaySchema platform "from") (property fields "from")
  let rangeTo :=
    optional (calendarDaySchema platform "to") (property fields "to")
  let bookingReference :=
    optional (bookingReferenceSchema "bookingReference")
      (property fields "bookingReference")
  { value := do
      some
        { rangeFrom := ← rangeFrom.value
          rangeTo := ← rangeTo.value
          bookingReference := ← bookingReference.value }
    issues := rangeFrom.issues ++ rangeTo.issues ++ bookingReference.issues }

/-- A dated dataset without further fields. -/
def datedSchema (platform : Platform)
    (request : DatedFilters → FinanceExportRequest)
    (fields : List (String × RawValue)) : Checked FinanceExportRequest :=
  let filters := datedFilters platform fields
  { value := filters.value.map request
    issues := filters.issues ++ strictIssues datedKeys fields }

/-- The members of the discriminated union. -/
def memberSchema (platform : Platform) (fields : List (String × RawValue)) :
    FinanceExportDataset → Checked FinanceExportRequest
  | .bookings =>
      let bookingReference :=
        optional (bookingReferenceSchema "bookingReference")
          (property fields "bookingReference")
      { value := bookingReference.value.map .bookings
        issues :=
          bookingReference.issues ++
            strictIssues ["dataset", "bookingReference"] fields }
  | .payments =>
      let filters := datedFilters platform fields
      let status := optional (statusSchema "status") (property fields "status")
      { value := do some (.payments (← filters.value) (← status.value))
        issues :=
          filters.issues ++ status.issues ++
            strictIssues (datedKeys ++ ["status"]) fields }
  | .refunds => datedSchema platform .refunds fields
  | .allocations => datedSchema platform .allocations fields
  | .installments => datedSchema platform .installments fields

/-- `superRefine`. -/
def rangeIssues (platform : Platform) (request : FinanceExportRequest) :
    List Issue :=
  match request.dated with
  | none => []
  | some filters =>
      match filters.rangeFrom, filters.rangeTo with
      | some _, none =>
          [.custom ["to"] "A date range needs both from and to."]
      | none, some _ =>
          [.custom ["from"] "A date range needs both from and to."]
      | none, none =>
          if filters.bookingReference = none then
            [.custom ["from"]
              ("This dataset needs a date range, a booking reference, " ++
                "or both.")]
          else
            []
      | some first, some last =>
          if codeUnits last.toList < codeUnits first.toList then
            [.custom ["from"] "from must not be after to."]
          else if (countInclusiveDays platform first last).any
              fun days => financeExportMaxRangeDays < days then
            [.custom ["to"] "A date range may cover at most 366 days."]
          else
            []

def datasetOf : RawValue → Option FinanceExportDataset
  | .string text =>
      financeExportDatasets.find? fun dataset => dataset.text = text
  | _ => none

/-- The issues of a member, and of the range when no issue stopped the
checks. -/
def allIssues (platform : Platform) (member : Checked FinanceExportRequest) :
    List Issue :=
  if member.issues.all Issue.continues then
    member.issues ++ (member.value.map (rangeIssues platform)).getD []
  else
    member.issues

def financeExportRequestSchema (platform : Platform) :
    RawValue → Except (List Issue) FinanceExportRequest
  | .object fields =>
      match datasetOf (property fields "dataset") with
      | none => .error [.invalidDiscriminator ["dataset"]]
      | some dataset =>
          let member := memberSchema platform fields dataset
          match member.value, allIssues platform member with
          | some request, [] => .ok request
          | _, issues => .error issues
  | _ => .error [.invalidType []]

end Heritage.Exports
