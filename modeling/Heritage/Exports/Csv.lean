import Heritage.Calendar.DateTime
import Heritage.Store.Transaction
import Heritage.Text.Rfc4180
import Heritage.Payments.Calculations
import Heritage.Payments.Errors

/-!
# Cells and files

`export-csv.ts`: how an export writes amounts, instants and days, and how it
assembles rows of cells into a file.
-/

namespace Heritage.Exports

open Heritage.Calendar Heritage.Text
open Heritage.Payments (TxError toFixed2)

/-- `replaceAll`, for one letter. -/
def replaceAll (text : String) (letter : Char) (replacement : String) :
    String :=
  String.ofList <|
    text.toList.flatMap fun other =>
      if other = letter then replacement.toList else [other]

/-- `/^[=+\-@\t\r]/`. -/
def formulaLeadingCharacters : List Char := ['=', '+', '-', '@', '\t', '\r']

def neutralizeFormulaCell (value : String) : String :=
  if value.toList.head?.any fun letter => letter ∈ formulaLeadingCharacters then
    "'" ++ value
  else
    value

def encodeCell (value : String) : String :=
  "\"" ++ replaceAll (neutralizeFormulaCell value) '"' "\"\"" ++ "\""

def utf8ByteOrderMark : String := String.singleton '\uFEFF'

def rowEnding : String := "\r\n"

def encodeRow (row : List String) : String :=
  ",".intercalate (row.map encodeCell) ++ rowEnding

/-- The text of the file.  A row of another width than the header throws. -/
def csvText (header : List String) (rows : List (List String)) :
    Except TxError String :=
  rows.foldlM
    (fun text row =>
      if row.length ≠ header.length then
        .error
          (.unknown
            ("CSV row has " ++ toString row.length ++
              " cells but the header has " ++ toString header.length ++
              " columns."))
      else
        .ok (text ++ encodeRow row))
    (utf8ByteOrderMark ++ encodeRow header)

def encodeCsv (header : List String) (rows : List (List String)) :
    Except TxError ByteArray :=
  (csvText header rows).map String.toUTF8

def formatAmount (value : Int) : String := toFixed2 value

def philippineUtcOffsetMs : Int := 8 * 60 * 60 * 1000

def formatManilaTimestamp (value : Timestamp) : String :=
  String.ofList ((toISOString (value + philippineUtcOffsetMs)).take 23) ++
    "+08:00"

def formatDateOnly (value : Timestamp) : String :=
  String.ofList ((toISOString value).take 10)

/-- Identifiers in their canonical form, 32 hexadecimal digits in five
groups. -/
def uuidText (id : Uuid) : String :=
  let digits := Nat.toDigits 16 id
  let padded := List.replicate (32 - digits.length) '0' ++ digits
  String.ofList
    (padded.take 8 ++ '-' :: ((padded.drop 8).take 4 ++
      '-' :: ((padded.drop 12).take 4 ++
        '-' :: ((padded.drop 16).take 4 ++ '-' :: padded.drop 20))))

def buildFinanceExportFilename (dataset formatVersion : String)
    (rangeFrom rangeTo : Option String) (asOf : Timestamp) : String :=
  let stamp :=
    ((formatManilaTimestamp asOf).toList.take 19).filter fun letter =>
      letter ≠ '-' ∧ letter ≠ ':'
  let generatedAt := String.ofList stamp ++ "+0800"
  let range :=
    match rangeFrom, rangeTo with
    | some first, some last =>
        replaceAll first '-' "" ++ "_" ++ replaceAll last '-' ""
    | _, _ => "all-dates"
  "heritage-finance-" ++ dataset ++ "-" ++ formatVersion ++ "-" ++ range ++
    "-" ++ generatedAt ++ ".csv"

/-- The records of a file: its text without the byte-order mark. -/
def readCsv (text : String) : Option (List (List String)) :=
  match text.toList with
  | '\uFEFF' :: letters =>
      (readRecords letters).map fun records =>
        records.map fun fields => fields.map String.ofList
  | _ => none

/-- The letters of a cell as they stand in the file. -/
def cellLetters (value : String) : List Char :=
  (neutralizeFormulaCell value).toList

theorem encodeCell_toList (value : String) :
    (encodeCell value).toList = writeField (cellLetters value) := by
  simp [encodeCell, replaceAll, writeField, doubleQuotes, cellLetters]

theorem intercalate_encodeCell (row : List String) :
    (",".intercalate (row.map encodeCell)).toList =
      writeFields (row.map cellLetters) := by
  induction row with
  | nil =>
      rfl
  | cons value rest inductionHypothesis =>
      cases rest with
      | nil =>
          simp [writeFields, encodeCell_toList]
      | cons next others =>
          simp only [List.map_cons, writeFields] at inductionHypothesis ⊢
          rw [String.intercalate_cons_cons, String.toList_append,
            String.toList_append, inductionHypothesis, encodeCell_toList]
          simp

theorem encodeRow_toList (row : List String) :
    (encodeRow row).toList = writeRecord (row.map cellLetters) := by
  unfold encodeRow
  rw [String.toList_append, intercalate_encodeCell]
  rfl

theorem csvText_eq_ok {header : List String} {rows : List (List String)}
    (aligned : ∀ row ∈ rows, row.length = header.length) :
    csvText header rows =
      .ok
        (rows.foldl (fun text row => text ++ encodeRow row)
          (utf8ByteOrderMark ++ encodeRow header)) := by
  unfold csvText
  generalize utf8ByteOrderMark ++ encodeRow header = start
  induction rows generalizing start with
  | nil =>
      rfl
  | cons row rest inductionHypothesis =>
      have width : ¬ row.length ≠ header.length := by
        simpa using aligned row List.mem_cons_self
      have restAligned : ∀ row ∈ rest, row.length = header.length := by
        intro other member
        exact aligned other (List.mem_cons_of_mem _ member)
      rw [List.foldlM_cons, if_neg width, Store.ok_bind,
        inductionHypothesis restAligned, List.foldl_cons]

theorem foldl_encodeRow_toList (rows : List (List String)) (start : String) :
    (rows.foldl (fun text row => text ++ encodeRow row) start).toList =
      start.toList ++ writeRecords (rows.map fun row => row.map cellLetters) := by
  induction rows generalizing start with
  | nil =>
      simp [writeRecords]
  | cons row rest inductionHypothesis =>
      rw [List.foldl_cons, inductionHypothesis, String.toList_append,
        encodeRow_toList]
      simp [writeRecords]

/-- The letters of the file of rows as wide as its header. -/
theorem csvText_toList {header : List String} {rows : List (List String)}
    (aligned : ∀ row ∈ rows, row.length = header.length) :
    ∃ text,
      csvText header rows = .ok text ∧
        text.toList =
          '\uFEFF' ::
            writeRecords
              ((header :: rows).map fun row => row.map cellLetters) := by
  refine ⟨_, csvText_eq_ok aligned, ?_⟩
  rw [foldl_encodeRow_toList, String.toList_append, encodeRow_toList]
  simp [writeRecords, utf8ByteOrderMark]

theorem cellLetters_nonempty {header : List String}
    {rows : List (List String)} (nonempty : header ≠ [])
    (aligned : ∀ row ∈ rows, row.length = header.length) :
    ∀ fields ∈ (header :: rows).map fun row => row.map cellLetters,
      fields ≠ [] := by
  intro fields member
  obtain ⟨row, rowMember, rfl⟩ := List.mem_map.mp member
  rw [ne_eq, List.map_eq_nil_iff]
  rcases List.mem_cons.mp rowMember with rfl | later
  · exact nonempty
  · intro isEmpty
    have width := aligned row later
    rw [isEmpty, List.length_nil] at width
    exact nonempty (List.length_eq_zero_iff.mp width.symm)

/-- The cells as `neutralizeFormulaCell` leaves them have these letters. -/
theorem map_ofList_cellLetters (rows : List (List String)) :
    (rows.map fun row => row.map cellLetters).map
        (fun fields => fields.map String.ofList) =
      rows.map fun row => row.map neutralizeFormulaCell := by
  rw [List.map_map]
  apply List.map_congr_left
  intro row _
  simp only [Function.comp_apply, List.map_map]
  apply List.map_congr_left
  intro value _
  simp [cellLetters]

/-- A file of rows as wide as its header is written, and it holds the header
and the rows, each cell as `neutralizeFormulaCell` leaves it. -/
theorem csvText_readCsv {header : List String} {rows : List (List String)}
    (nonempty : header ≠ [])
    (aligned : ∀ row ∈ rows, row.length = header.length) :
    ∃ text,
      csvText header rows = .ok text ∧
        readCsv text =
          some
            ((header :: rows).map fun row =>
              row.map neutralizeFormulaCell) := by
  obtain ⟨text, written, letters⟩ := csvText_toList aligned
  refine ⟨text, written, ?_⟩
  unfold readCsv
  rw [letters]
  simp only [
    readRecords_writeRecords (cellLetters_nonempty nonempty aligned),
    Option.map_some, map_ofList_cellLetters]

/-- The records of a file's bytes, as the grammar of comma-separated values
reads them after the byte-order mark. -/
def decodeCsv (bytes : ByteArray) : Option (List (List String)) :=
  (String.fromUTF8? bytes).bind fun text =>
    match text.toList with
    | '\uFEFF' :: letters =>
        (Rfc4180.parse letters).map fun records =>
          records.map fun fields => fields.map String.ofList
    | _ => none

theorem fromUTF8?_toUTF8 (text : String) :
    String.fromUTF8? text.toUTF8 = some text := by
  unfold String.fromUTF8?
  exact dif_pos text.isValidUTF8

/-- No spreadsheet reads the cell as a formula. -/
def IsInert (value : String) : Prop :=
  ∀ letter ∈ value.toList.head?, letter ∉ formulaLeadingCharacters

theorem neutralizeFormulaCell_isInert (value : String) :
    IsInert (neutralizeFormulaCell value) := by
  unfold neutralizeFormulaCell
  split
  · intro letter first
    obtain rfl : '\'' = letter := by
      simpa using first
    decide
  next notFormula =>
    intro letter first isFormula
    apply notFormula
    rw [Option.mem_def.mp first]
    simpa using isFormula

theorem csvText_error {header : List String} {rows : List (List String)}
    {row : List String} (member : row ∈ rows)
    (otherWidth : row.length ≠ header.length) :
    ∃ failure, csvText header rows = .error failure := by
  unfold csvText
  generalize utf8ByteOrderMark ++ encodeRow header = start
  induction rows generalizing start with
  | nil =>
      cases member
  | cons head rest inductionHypothesis =>
      rw [List.foldlM_cons]
      by_cases headWidth : head.length ≠ header.length
      · rw [if_pos headWidth]
        exact ⟨_, rfl⟩
      · rw [if_neg headWidth, Store.ok_bind]
        rcases List.mem_cons.mp member with rfl | later
        · exact absurd otherWidth headWidth
        · exact inductionHypothesis later _

/-- A file holds the header and the rows, each cell as `neutralizeFormulaCell`
leaves it, whatever its text; and a row of another width is refused. -/
theorem csv_round_trip {header : List String} (rows : List (List String))
    (nonempty : header ≠ []) :
    ((∃ failure, encodeCsv header rows = .error failure) ↔
        ∃ row ∈ rows, row.length ≠ header.length) ∧
      ∀ bytes, encodeCsv header rows = .ok bytes →
        ∃ records,
          decodeCsv bytes = some records ∧
            records =
              (header :: rows).map (fun row =>
                row.map neutralizeFormulaCell) ∧
            ∀ record ∈ records, ∀ cell ∈ record, IsInert cell := by
  by_cases aligned : ∀ row ∈ rows, row.length = header.length
  · obtain ⟨text, written, letters⟩ := csvText_toList aligned
    have encoded : encodeCsv header rows = .ok text.toUTF8 := by
      rw [encodeCsv, written]
      rfl
    constructor
    · constructor
      · rintro ⟨failure, refused⟩
        rw [encoded] at refused
        cases refused
      · rintro ⟨row, member, otherWidth⟩
        exact absurd (aligned row member) otherWidth
    · intro bytes isEncoded
      rw [encoded] at isEncoded
      cases isEncoded
      refine ⟨_, ?_, rfl, ?_⟩
      · rw [decodeCsv, fromUTF8?_toUTF8, Option.bind_some, letters]
        simp only [
          Rfc4180.parse_of_fileText
            (Rfc4180.fileText_writeRecords
              (cellLetters_nonempty nonempty aligned)),
          Option.map_some, map_ofList_cellLetters]
      · intro record member cell isCell
        obtain ⟨row, -, rfl⟩ := List.mem_map.mp member
        obtain ⟨value, -, rfl⟩ := List.mem_map.mp isCell
        exact neutralizeFormulaCell_isInert value
  · simp only [not_forall] at aligned
    obtain ⟨row, member, otherWidth⟩ := aligned
    obtain ⟨failure, refused⟩ := csvText_error member otherWidth
    have encoded : encodeCsv header rows = .error failure := by
      rw [encodeCsv, refused]
      rfl
    constructor
    · exact iff_of_true ⟨failure, encoded⟩ ⟨row, member, otherWidth⟩
    · intro bytes isEncoded
      rw [encoded] at isEncoded
      cases isEncoded

/-- A name that looks like a formula, with a note that has quotes, a comma
and a line break. -/
theorem csv_round_trip_name :
    ∃ bytes,
      encodeCsv ["name", "note"] [["=SUM(A1)", "say \"hi\",\r\nJun"]] =
          .ok bytes ∧
        decodeCsv bytes =
          some [["name", "note"], ["'=SUM(A1)", "say \"hi\",\r\nJun"]] := by
  obtain ⟨throws, holds⟩ :=
    csv_round_trip [["=SUM(A1)", "say \"hi\",\r\nJun"]]
      (List.cons_ne_nil "name" ["note"])
  cases outcome :
      encodeCsv ["name", "note"] [["=SUM(A1)", "say \"hi\",\r\nJun"]] with
  | error failure =>
      obtain ⟨row, member, otherWidth⟩ := throws.mp ⟨failure, outcome⟩
      obtain rfl := List.mem_singleton.mp member
      exact absurd rfl otherWidth
  | ok bytes =>
      obtain ⟨records, decoded, rfl, -⟩ := holds bytes outcome
      have neutralized :
          neutralizeFormulaCell "=SUM(A1)" = "'=SUM(A1)" := by
        decide
      refine ⟨bytes, rfl, decoded.trans ?_⟩
      rw [← neutralized]
      rfl

end Heritage.Exports
