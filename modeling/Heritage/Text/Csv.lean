import Mathlib

/-!
# Quoted records

Comma-separated records in which every field is quoted, a quote inside a field
is doubled, and every record ends with a line break.  The reader takes one
character at a time; what is written is read back.
-/

namespace Heritage.Text

/-- The letters of a field with its quotes doubled. -/
def doubleQuotes (field : List Char) : List Char :=
  field.flatMap fun letter => if letter = '"' then ['"', '"'] else [letter]

def writeField (field : List Char) : List Char :=
  '"' :: (doubleQuotes field ++ ['"'])

/-- The fields of a record, separated by commas. -/
def writeFields : List (List Char) → List Char
  | [] => []
  | [field] => writeField field
  | field :: next :: rest =>
      writeField field ++ ',' :: writeFields (next :: rest)

def writeRecord (fields : List (List Char)) : List Char :=
  writeFields fields ++ ['\r', '\n']

def writeRecords (records : List (List (List Char))) : List Char :=
  records.flatMap writeRecord

inductive ReaderPhase where
  | recordStart
  | fieldStart
  | insideField
  /-- A quote inside a field: the field ends or a doubled quote follows. -/
  | quoteSeen
  | lineBreak
  deriving DecidableEq

structure Reader where
  phase : ReaderPhase
  field : List Char
  fields : List (List Char)
  records : List (List (List Char))
  deriving DecidableEq

namespace Reader

def initial : Reader where
  phase := .recordStart
  field := []
  fields := []
  records := []

/-- The field that was read joins its record. -/
def endField (reader : Reader) (phase : ReaderPhase) : Reader :=
  { reader with
    phase := phase
    field := []
    fields := reader.fields ++ [reader.field] }

def endRecord (reader : Reader) : Reader :=
  { reader with
    phase := .recordStart
    fields := []
    records := reader.records ++ [reader.fields] }

def step (reader : Reader) (letter : Char) : Option Reader :=
  match reader.phase with
  | .recordStart | .fieldStart =>
      if letter = '"' then some { reader with phase := .insideField }
      else none
  | .insideField =>
      if letter = '"' then some { reader with phase := .quoteSeen }
      else some { reader with field := reader.field ++ [letter] }
  | .quoteSeen =>
      if letter = '"' then
        some
          { reader with
            phase := .insideField
            field := reader.field ++ ['"'] }
      else if letter = ',' then some (reader.endField .fieldStart)
      else if letter = '\r' then some (reader.endField .lineBreak)
      else none
  | .lineBreak =>
      if letter = '\n' then some reader.endRecord else none

end Reader

def readRecords (letters : List Char) : Option (List (List (List Char))) :=
  (letters.foldlM Reader.step Reader.initial).bind fun reader =>
    if reader.phase = .recordStart then some reader.records else none

variable {reader : Reader}

/-- Inside a field the reader collects the letters that were written. -/
theorem foldlM_doubleQuotes (inside : reader.phase = .insideField)
    (field : List Char) :
    (doubleQuotes field).foldlM Reader.step reader =
      some { reader with field := reader.field ++ field } := by
  induction field generalizing reader with
  | nil =>
      simp [doubleQuotes]
  | cons letter rest inductionHypothesis =>
      have oneLetter :
          (if letter = '"' then ['"', '"'] else [letter]).foldlM
              Reader.step reader =
            some { reader with field := reader.field ++ [letter] } := by
        by_cases isQuote : letter = '"'
        · simp [isQuote, Reader.step, inside]
        · simp [isQuote, Reader.step, inside]
      have continued :
          (doubleQuotes rest).foldlM Reader.step
              { reader with field := reader.field ++ [letter] } =
            some { reader with field := (reader.field ++ [letter]) ++ rest } :=
        inductionHypothesis inside
      unfold doubleQuotes at continued ⊢
      rw [List.flatMap_cons, List.foldlM_append, oneLetter,
        Option.bind_eq_bind, Option.bind_some, continued]
      simp

/-- A written field takes the reader to its closing quote. -/
theorem foldlM_writeField
    (atStart : reader.phase = .recordStart ∨ reader.phase = .fieldStart)
    (empty : reader.field = []) (field : List Char) :
    (writeField field).foldlM Reader.step reader =
      some { reader with phase := .quoteSeen, field := field } := by
  have opened :
      reader.step '"' = some { reader with phase := .insideField } := by
    unfold Reader.step
    rcases atStart with atStart | atStart <;>
      simp [atStart]
  unfold writeField
  rw [List.foldlM_cons, opened, Option.bind_eq_bind, Option.bind_some,
    List.foldlM_append, foldlM_doubleQuotes rfl]
  simp [Reader.step, empty]

/-- The fields of a record join those read before. -/
theorem foldlM_writeFields {fields : List (List Char)} (nonempty : fields ≠ [])
    (atStart : reader.phase = .recordStart ∨ reader.phase = .fieldStart)
    (empty : reader.field = []) :
    (writeFields fields ++ ['\r']).foldlM Reader.step reader =
      some
        { reader with
          phase := .lineBreak
          fields := reader.fields ++ fields } := by
  induction fields generalizing reader with
  | nil =>
      exact absurd rfl nonempty
  | cons field rest inductionHypothesis =>
      cases rest with
      | nil =>
          rw [writeFields, List.foldlM_append, foldlM_writeField atStart empty]
          simp [Reader.step, Reader.endField, empty]
      | cons next others =>
          have separated :
              Reader.step { reader with phase := .quoteSeen, field := field }
                  ',' =
                some
                  { reader with
                    phase := .fieldStart
                    field := []
                    fields := reader.fields ++ [field] } := by
            simp [Reader.step, Reader.endField]
          rw [writeFields, List.append_assoc, List.foldlM_append,
            foldlM_writeField atStart empty, Option.bind_eq_bind,
            Option.bind_some, List.cons_append, List.foldlM_cons, separated,
            Option.bind_eq_bind, Option.bind_some,
            inductionHypothesis (List.cons_ne_nil _ _) (Or.inr rfl) rfl]
          simp [empty]

theorem foldlM_writeRecord {fields : List (List Char)} (nonempty : fields ≠ [])
    (atStart : reader.phase = .recordStart) (noField : reader.field = [])
    (noFields : reader.fields = []) :
    (writeRecord fields).foldlM Reader.step reader =
      some { reader with records := reader.records ++ [fields] } := by
  have broken :
      writeRecord fields = (writeFields fields ++ ['\r']) ++ ['\n'] := by
    simp [writeRecord]
  rw [broken, List.foldlM_append,
    foldlM_writeFields nonempty (Or.inl atStart) noField]
  simp [Reader.step, Reader.endRecord, noFields, atStart]

/-- Records with at least one field are read back. -/
theorem readRecords_writeRecords {records : List (List (List Char))}
    (nonempty : ∀ fields ∈ records, fields ≠ []) :
    readRecords (writeRecords records) = some records := by
  have collected :
      ∀ {reader : Reader}, reader.phase = .recordStart → reader.field = [] →
        reader.fields = [] →
          (writeRecords records).foldlM Reader.step reader =
            some { reader with records := reader.records ++ records } := by
    induction records with
    | nil =>
        intro reader _ _ _
        simp [writeRecords]
    | cons fields rest inductionHypothesis =>
        intro reader atStart noField noFields
        have restNonempty : ∀ fields ∈ rest, fields ≠ [] := by
          intro others member
          exact nonempty others (List.mem_cons_of_mem _ member)
        have restRead :
            (writeRecords rest).foldlM Reader.step
                { reader with records := reader.records ++ [fields] } =
              some
                { reader with
                  records := (reader.records ++ [fields]) ++ rest } :=
          inductionHypothesis restNonempty atStart noField noFields
        unfold writeRecords at restRead ⊢
        rw [List.flatMap_cons, List.foldlM_append,
          foldlM_writeRecord (nonempty fields List.mem_cons_self) atStart
            noField noFields,
          Option.bind_eq_bind, Option.bind_some, restRead]
        simp
  unfold readRecords
  rw [collected rfl rfl rfl]
  simp [Reader.initial]

end Heritage.Text
