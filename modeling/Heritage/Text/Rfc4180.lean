import Heritage.Text.Csv

/-!
# The grammar of comma-separated values

The grammar of RFC 4180 with any letter as data: a field is plain or escaped
between quotes, fields are separated by commas, records by line breaks, and the
last record may end with a line break or without one.  A scanner reads what the
grammar derives; so a text has at most one derivation.
-/

namespace Heritage.Text.Rfc4180

open Heritage.Text

/-- `TEXTDATA`: anything but a quote, a comma and the letters of a line
break. -/
def IsTextData (letter : Char) : Prop :=
  letter ≠ '"' ∧ letter ≠ ',' ∧ letter ≠ '\r' ∧ letter ≠ '\n'

/-- The text between the quotes of an escaped field, with its value. -/
inductive EscapedText : List Char → List Char → Prop where
  | nil : EscapedText [] []
  | letter {letter : Char} {text value : List Char} (notQuote : letter ≠ '"')
      (rest : EscapedText text value) :
      EscapedText (letter :: text) (letter :: value)
  | doubledQuote {text value : List Char} (rest : EscapedText text value) :
      EscapedText ('"' :: '"' :: text) ('"' :: value)

inductive FieldText : List Char → List Char → Prop where
  | plain {text : List Char}
      (textData : ∀ letter ∈ text, IsTextData letter) : FieldText text text
  | escaped {text value : List Char} (inner : EscapedText text value) :
      FieldText ('"' :: (text ++ ['"'])) value

inductive RecordText : List Char → List (List Char) → Prop where
  | single {text value : List Char} (field : FieldText text value) :
      RecordText text [value]
  | more {text value rest : List Char} {values : List (List Char)}
      (field : FieldText text value) (others : RecordText rest values) :
      RecordText (text ++ ',' :: rest) (value :: values)

/-- A line break at the end ends the last record; it is not followed by an
empty one. -/
inductive FileText : List Char → List (List (List Char)) → Prop where
  | nil : FileText [] []
  | last {text : List Char} {values : List (List Char)}
      (record : RecordText text values) (nonempty : text ≠ []) :
      FileText text [values]
  | more {text rest : List Char} {values : List (List Char)}
      {records : List (List (List Char))} (record : RecordText text values)
      (others : FileText rest records) :
      FileText (text ++ '\r' :: '\n' :: rest) (values :: records)

inductive Phase where
  | recordStart
  | fieldStart
  | plain
  | escaped
  /-- A quote in an escaped field: the field ends or a doubled quote
  follows. -/
  | quoteSeen
  | lineBreak
  deriving DecidableEq

structure Scanner where
  phase : Phase
  field : List Char
  fields : List (List Char)
  records : List (List (List Char))
  deriving DecidableEq

namespace Scanner

def initial : Scanner where
  phase := .recordStart
  field := []
  fields := []
  records := []

def collect (scanner : Scanner) (phase : Phase) (letter : Char) : Scanner :=
  { scanner with phase := phase, field := scanner.field ++ [letter] }

def endField (scanner : Scanner) (phase : Phase) : Scanner :=
  { scanner with
    phase := phase
    field := []
    fields := scanner.fields ++ [scanner.field] }

def endRecord (scanner : Scanner) : Scanner :=
  { scanner with
    phase := .recordStart
    fields := []
    records := scanner.records ++ [scanner.fields] }

/-- A letter where a field may end. -/
def separate (scanner : Scanner) (letter : Char) (other : Option Scanner) :
    Option Scanner :=
  if letter = ',' then some (scanner.endField .fieldStart)
  else if letter = '\r' then some (scanner.endField .lineBreak)
  else other

def step (scanner : Scanner) (letter : Char) : Option Scanner :=
  match scanner.phase with
  | .recordStart | .fieldStart =>
      scanner.separate letter <|
        if letter = '"' then some { scanner with phase := .escaped }
        else if letter = '\n' then none
        else some (scanner.collect .plain letter)
  | .plain =>
      scanner.separate letter <|
        if letter = '"' ∨ letter = '\n' then none
        else some (scanner.collect .plain letter)
  | .escaped =>
      if letter = '"' then some { scanner with phase := .quoteSeen }
      else some (scanner.collect .escaped letter)
  | .quoteSeen =>
      scanner.separate letter <|
        if letter = '"' then some (scanner.collect .escaped letter) else none
  | .lineBreak => if letter = '\n' then some scanner.endRecord else none

/-- The records at the end of the text. -/
def finish (scanner : Scanner) : Option (List (List (List Char))) :=
  match scanner.phase with
  | .recordStart => some scanner.records
  | .fieldStart | .plain | .quoteSeen =>
      some (scanner.endField .lineBreak).endRecord.records
  | .escaped | .lineBreak => none

end Scanner

def parse (letters : List Char) : Option (List (List (List Char))) :=
  (letters.foldlM Scanner.step Scanner.initial).bind Scanner.finish

/-! ## The scanner reads what the grammar derives -/

variable {scanner : Scanner}

/-- A field may end here. -/
def Scanner.Endable (scanner : Scanner) : Prop :=
  scanner.phase ≠ .escaped ∧ scanner.phase ≠ .lineBreak

/-- The beginning of a field. -/
def Scanner.AtStart (scanner : Scanner) : Prop :=
  (scanner.phase = .recordStart ∨ scanner.phase = .fieldStart) ∧
    scanner.field = []

theorem step_comma (endable : scanner.Endable) :
    scanner.step ',' = some (scanner.endField .fieldStart) := by
  obtain ⟨phase, field, fields, records⟩ := scanner
  cases phase with
  | escaped => exact absurd rfl endable.1
  | lineBreak => exact absurd rfl endable.2
  | _ => rfl

theorem step_lineBreak (endable : scanner.Endable) :
    scanner.step '\r' = some (scanner.endField .lineBreak) := by
  obtain ⟨phase, field, fields, records⟩ := scanner
  cases phase with
  | escaped => exact absurd rfl endable.1
  | lineBreak => exact absurd rfl endable.2
  | _ => rfl

theorem foldlM_escapedText {text value : List Char}
    (inner : EscapedText text value) (escaped : scanner.phase = .escaped) :
    text.foldlM Scanner.step scanner =
      some { scanner with field := scanner.field ++ value } := by
  induction inner generalizing scanner with
  | nil =>
      simp
  | @letter letter text value notQuote rest inductionHypothesis =>
      have collected :
          scanner.step letter = some (scanner.collect .escaped letter) := by
        simp [Scanner.step, escaped, notQuote]
      have continued :=
        @inductionHypothesis (scanner.collect .escaped letter) rfl
      rw [List.foldlM_cons, collected, Option.bind_eq_bind, Option.bind_some,
        continued]
      simp [Scanner.collect, escaped]
  | @doubledQuote text value rest inductionHypothesis =>
      have collected :
          ['"', '"'].foldlM Scanner.step scanner =
            some (scanner.collect .escaped '"') := by
        simp [Scanner.step, Scanner.separate, Scanner.collect, escaped]
      have continued :=
        @inductionHypothesis (scanner.collect .escaped '"') rfl
      change (['"', '"'] ++ text).foldlM Scanner.step scanner = _
      rw [List.foldlM_append, collected, Option.bind_eq_bind,
        Option.bind_some, continued]
      simp [Scanner.collect, escaped]

theorem step_textData {letter : Char} (textData : IsTextData letter)
    (readable :
      scanner.phase = .recordStart ∨ scanner.phase = .fieldStart ∨
        scanner.phase = .plain) :
    scanner.step letter = some (scanner.collect .plain letter) := by
  obtain ⟨notQuote, notComma, notReturn, notNewline⟩ := textData
  rcases readable with isPhase | isPhase | isPhase <;>
    simp [Scanner.step, Scanner.separate, isPhase, notQuote, notComma,
      notReturn, notNewline]

theorem foldlM_plainText {text : List Char}
    (textData : ∀ letter ∈ text, IsTextData letter)
    (plain : scanner.phase = .plain) :
    text.foldlM Scanner.step scanner =
      some { scanner with field := scanner.field ++ text } := by
  induction text generalizing scanner with
  | nil =>
      simp
  | cons letter rest inductionHypothesis =>
      have collected :=
        step_textData (textData letter List.mem_cons_self)
          (Or.inr (Or.inr plain))
      have restTextData : ∀ other ∈ rest, IsTextData other := by
        intro other member
        exact textData other (List.mem_cons_of_mem _ member)
      have continued :=
        @inductionHypothesis (scanner.collect .plain letter) restTextData rfl
      rw [List.foldlM_cons, collected, Option.bind_eq_bind, Option.bind_some,
        continued]
      simp [Scanner.collect, plain]

/-- A field takes the scanner to a place where the field may end. -/
theorem exists_foldlM_fieldText {text value : List Char}
    (field : FieldText text value) (atStart : scanner.AtStart) :
    ∃ phase,
      text.foldlM Scanner.step scanner =
          some { scanner with phase := phase, field := value } ∧
        phase ≠ .escaped ∧ phase ≠ .lineBreak ∧
        (phase = .recordStart → text = []) := by
  obtain ⟨starts, empty⟩ := atStart
  cases field with
  | plain textData =>
      cases text with
      | nil =>
          refine ⟨scanner.phase, ?_, ?_, ?_, fun _ => rfl⟩
          · change some scanner = some { scanner with field := [] }
            rw [← empty]
          · rcases starts with isPhase | isPhase <;> simp [isPhase]
          · rcases starts with isPhase | isPhase <;> simp [isPhase]
      | cons letter rest =>
          have collected :=
            step_textData (textData letter List.mem_cons_self)
              (starts.imp_right Or.inl)
          have restTextData : ∀ other ∈ rest, IsTextData other := by
            intro other member
            exact textData other (List.mem_cons_of_mem _ member)
          have continued :=
            @foldlM_plainText (scanner.collect .plain letter) rest
              restTextData rfl
          refine ⟨.plain, ?_, by simp, by simp, by simp⟩
          rw [List.foldlM_cons, collected, Option.bind_eq_bind,
            Option.bind_some, continued]
          simp [Scanner.collect, empty]
  | @escaped text value inner =>
      have opened :
          scanner.step '"' = some { scanner with phase := .escaped } := by
        rcases starts with isPhase | isPhase <;>
          simp [Scanner.step, Scanner.separate, isPhase]
      have continued :=
        @foldlM_escapedText { scanner with phase := .escaped } text value
          inner rfl
      refine ⟨.quoteSeen, ?_, by simp, by simp, by simp⟩
      rw [List.foldlM_cons, opened, Option.bind_eq_bind, Option.bind_some,
        List.foldlM_append, continued]
      simp [Scanner.step, empty]

/-- A record takes the scanner to a place where its last field may end. -/
theorem exists_foldlM_recordText {text : List Char}
    {values : List (List Char)} (record : RecordText text values)
    (atStart : scanner.AtStart) :
    ∃ phase field fields,
      text.foldlM Scanner.step scanner =
          some
            { scanner with phase := phase, field := field, fields := fields } ∧
        fields ++ [field] = scanner.fields ++ values ∧
        phase ≠ .escaped ∧ phase ≠ .lineBreak ∧
        (phase = .recordStart → text = []) := by
  induction record generalizing scanner with
  | @single text value field =>
      obtain ⟨phase, read, notEscaped, notBroken, onlyEmpty⟩ :=
        exists_foldlM_fieldText field atStart
      exact
        ⟨phase, value, scanner.fields, read, rfl, notEscaped, notBroken,
          onlyEmpty⟩
  | @more text value rest values field others inductionHypothesis =>
      obtain ⟨phase, read, notEscaped, notBroken, -⟩ :=
        exists_foldlM_fieldText field atStart
      have separated :=
        @step_comma { scanner with phase := phase, field := value }
          ⟨notEscaped, notBroken⟩
      obtain ⟨lastPhase, last, fields, continued, collected, lastNotEscaped,
        lastNotBroken, onlyEmpty⟩ :=
        @inductionHypothesis
          (Scanner.endField { scanner with phase := phase, field := value }
            .fieldStart)
          ⟨Or.inr rfl, rfl⟩
      refine
        ⟨lastPhase, last, fields, ?_, ?_, lastNotEscaped, lastNotBroken, ?_⟩
      · rw [List.foldlM_append, read, Option.bind_eq_bind, Option.bind_some,
          List.foldlM_cons, separated, Option.bind_eq_bind, Option.bind_some,
          continued]
        rfl
      · rw [collected]
        simp [Scanner.endField]
      · -- after a comma the scanner is not at the start of a record
        intro isStart
        have restEmpty := onlyEmpty isStart
        rw [restEmpty] at continued
        simp only [List.foldlM_nil, Option.pure_def, Option.some.injEq,
          Scanner.endField, Scanner.mk.injEq] at continued
        rw [isStart] at continued
        cases continued.1

/-- A derived file is read, after the records read before. -/
theorem exists_foldlM_fileText {text : List Char}
    {records : List (List (List Char))} (file : FileText text records)
    (atStart : scanner.phase = .recordStart) (noField : scanner.field = [])
    (noFields : scanner.fields = []) :
    (text.foldlM Scanner.step scanner).bind Scanner.finish =
      some (scanner.records ++ records) := by
  induction file generalizing scanner with
  | nil =>
      simp [Scanner.finish, atStart]
  | @last text values record nonempty =>
      obtain ⟨phase, field, fields, read, collected, notEscaped, notBroken,
        onlyEmpty⟩ :=
        @exists_foldlM_recordText scanner _ _ record ⟨Or.inl atStart, noField⟩
      rw [noFields, List.nil_append] at collected
      have notStart : phase ≠ .recordStart := by
        intro isStart
        exact nonempty (onlyEmpty isStart)
      rw [read, Option.bind_some]
      cases phase with
      | recordStart => exact absurd rfl notStart
      | escaped => exact absurd rfl notEscaped
      | lineBreak => exact absurd rfl notBroken
      | _ =>
          simp [Scanner.finish, Scanner.endField, Scanner.endRecord,
            collected]
  | @more text rest values records record others inductionHypothesis =>
      obtain ⟨phase, field, fields, read, collected, notEscaped, notBroken,
        -⟩ :=
        @exists_foldlM_recordText scanner _ _ record ⟨Or.inl atStart, noField⟩
      rw [noFields, List.nil_append] at collected
      have broken :=
        @step_lineBreak
          { scanner with phase := phase, field := field, fields := fields }
          ⟨notEscaped, notBroken⟩
      have ended :
          (Scanner.endField
              { scanner with phase := phase, field := field, fields := fields }
              .lineBreak).step '\n' =
            some
              { phase := .recordStart
                field := []
                fields := []
                records := scanner.records ++ [values] } := by
        simp [Scanner.step, Scanner.endField, Scanner.endRecord, collected]
      rw [List.foldlM_append, read, Option.bind_eq_bind, Option.bind_some,
        List.foldlM_cons, broken, Option.bind_eq_bind, Option.bind_some,
        List.foldlM_cons, ended, Option.bind_eq_bind, Option.bind_some,
        inductionHypothesis rfl rfl rfl]
      simp

/-- The scanner reads what the grammar derives. -/
theorem parse_of_fileText {text : List Char}
    {records : List (List (List Char))} (file : FileText text records) :
    parse text = some records :=
  exists_foldlM_fileText file rfl rfl rfl

theorem escapedText_doubleQuotes (field : List Char) :
    EscapedText (doubleQuotes field) field := by
  induction field with
  | nil =>
      exact .nil
  | cons letter rest inductionHypothesis =>
      unfold doubleQuotes at inductionHypothesis ⊢
      rw [List.flatMap_cons]
      by_cases isQuote : letter = '"'
      · rw [if_pos isQuote, isQuote]
        exact .doubledQuote inductionHypothesis
      · rw [if_neg isQuote]
        exact .letter isQuote inductionHypothesis

theorem recordText_writeFields {fields : List (List Char)}
    (nonempty : fields ≠ []) : RecordText (writeFields fields) fields := by
  induction fields with
  | nil =>
      exact absurd rfl nonempty
  | cons field rest inductionHypothesis =>
      have written : FieldText (writeField field) field :=
        .escaped (escapedText_doubleQuotes field)
      cases rest with
      | nil =>
          exact .single written
      | cons next others =>
          exact
            .more written (inductionHypothesis (List.cons_ne_nil _ _))

/-- The grammar derives what the writer writes. -/
theorem fileText_writeRecords {records : List (List (List Char))}
    (nonempty : ∀ fields ∈ records, fields ≠ []) :
    FileText (writeRecords records) records := by
  induction records with
  | nil =>
      exact .nil
  | cons fields rest inductionHypothesis =>
      have restNonempty : ∀ others ∈ rest, others ≠ [] := by
        intro others member
        exact nonempty others (List.mem_cons_of_mem _ member)
      have written :=
        FileText.more
          (recordText_writeFields (nonempty fields List.mem_cons_self))
          (inductionHypothesis restNonempty)
      simpa [writeRecords, writeRecord] using written

end Heritage.Text.Rfc4180
