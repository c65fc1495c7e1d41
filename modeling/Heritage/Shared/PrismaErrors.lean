import Heritage.Text.Trim

/-!
# Database errors

`prisma-errors.ts`: which thrown values are write conflicts, and which unique
key a violation names.
-/

namespace Heritage

open Heritage.Text

/-- The `constraint` of an adapter error; an entry that is not a string is
`none`. -/
structure ConstraintReport where
  fields : Option (List (Option String))
  deriving DecidableEq, Repr

structure DriverAdapterCause where
  kind : Option String
  constraint : Option ConstraintReport
  deriving DecidableEq, Repr

/-- An object with its `name`, when that is a string, and its `cause`, when
that is an object. -/
structure ErrorObject where
  name : Option String
  cause : Option DriverAdapterCause
  deriving DecidableEq, Repr

/-- The `meta` of a known request error, by the types its members have. -/
structure RequestMeta where
  modelName : Option String
  driverAdapterError : Option ErrorObject
  target : Option (List (Option String))
  deriving DecidableEq, Repr

/-- What a transaction may throw; the domain errors of a feature are `δ`. -/
inductive Thrown (δ : Type) where
  | knownRequest (code : String) (report : Option RequestMeta)
  | retriesExhausted (attempts : Nat) (cause : Thrown δ)
  | domain (error : δ)
  | object (error : ErrorObject)
  | primitive
  deriving DecidableEq, Repr

variable {δ : Type}

def driverAdapterCause (error : ErrorObject) : Option DriverAdapterCause :=
  if error.name ≠ some "DriverAdapterError" then
    none
  else
    error.cause

/-- Only plain objects carry the name of the adapter's error. -/
def isRetryableWriteConflict : Thrown δ → Bool
  | .knownRequest code _ => code = "P2034"
  | .object error =>
      (driverAdapterCause error).any fun cause =>
        cause.kind = some "TransactionWriteConflict"
  | _ => false

def isSerializableRetriesExhausted : Thrown δ → Bool
  | .retriesExhausted _ _ => true
  | _ => false

/-- `replaceAll` of two quotes by one. -/
def undoubleQuotes : List Char → List Char
  | '"' :: '"' :: rest => '"' :: undoubleQuotes rest
  | letter :: rest => letter :: undoubleQuotes rest
  | [] => []

def unquoteIdentifier (identifier : String) : String :=
  let trimmed := trim identifier
  if trimmed.length ≥ 2 ∧ trimmed.toList.head? = some '"' ∧
      trimmed.toList.getLast? = some '"' then
    String.ofList (undoubleQuotes trimmed.toList.tail.dropLast)
  else
    trimmed

structure UniqueViolation where
  modelName : Option String
  fields : List String
  deriving DecidableEq, Repr

/-- The columns of a violation: those of the adapter, else those of the legacy
`target`. -/
def violatedFields (report : RequestMeta) : List String :=
  let cause := report.driverAdapterError.bind driverAdapterCause
  let constraint := cause.bind DriverAdapterCause.constraint
  match constraint.bind ConstraintReport.fields with
  | some fields => (fields.filterMap id).map unquoteIdentifier
  | none =>
      match report.target with
      | some target => target.filterMap id
      | none => []

def uniqueViolation : Thrown δ → Option UniqueViolation
  | .knownRequest code report =>
      if code ≠ "P2002" then
        none
      else
        let report := report.getD ⟨none, none, none⟩
        some ⟨report.modelName, violatedFields report⟩
  | _ => none

def isUniqueViolationOn (error : Thrown δ) (modelName : String)
    (fields : List String) : Bool :=
  match uniqueViolation error with
  | none => false
  | some violation =>
      if violation.modelName ≠ some modelName then
        false
      else if violation.fields.length ≠ fields.length then
        false
      else
        violation.fields.all fun field => field ∈ fields

def isResidualDatabaseConflict (error : Thrown δ) : Bool :=
  if isSerializableRetriesExhausted error ∨ isRetryableWriteConflict error then
    true
  else
    match error with
    | .knownRequest code _ => code = "P2002"
    | _ => false

/-- The two shapes of a serialisation failure. -/
inductive WriteConflict : Thrown δ → Prop where
  | atStatement (report : Option RequestMeta) :
      WriteConflict (.knownRequest "P2034" report)
  | atCommit (constraint : Option ConstraintReport) :
      WriteConflict
        (.object
          ⟨some "DriverAdapterError",
            some ⟨some "TransactionWriteConflict", constraint⟩⟩)

theorem driverAdapterCause_eq_some {error : ErrorObject}
    {cause : DriverAdapterCause} :
    driverAdapterCause error = some cause ↔
      error = ⟨some "DriverAdapterError", some cause⟩ := by
  obtain ⟨name, reported⟩ := error
  unfold driverAdapterCause
  by_cases named : name = some "DriverAdapterError"
  · simp [named]
  · simp [named]

theorem isRetryableWriteConflict_iff {error : Thrown δ} :
    isRetryableWriteConflict error ↔ WriteConflict error := by
  constructor
  · intro retryable
    cases error with
    | knownRequest code report =>
        obtain rfl : code = "P2034" := of_decide_eq_true retryable
        exact WriteConflict.atStatement report
    | object error =>
        obtain ⟨⟨kind, constraint⟩, found, isConflict⟩ :=
          (Option.any_eq_true _ _).mp retryable
        obtain rfl := driverAdapterCause_eq_some.mp found
        obtain rfl : kind = some "TransactionWriteConflict" :=
          of_decide_eq_true isConflict
        exact WriteConflict.atCommit constraint
    | retriesExhausted | domain | primitive =>
        exact absurd retryable Bool.false_ne_true
  · intro conflict
    cases conflict with
    | atStatement report =>
        rfl
    | atCommit constraint =>
        rfl

/-- A `P2002` of this model whose columns are those of the key, as many as the
key has. -/
def ViolatesKey (modelName : String) (fields : List String)
    (error : Thrown δ) : Prop :=
  ∃ report,
    error = .knownRequest "P2002" (some report) ∧
      report.modelName = some modelName ∧
      (violatedFields report).length = fields.length ∧
      ∀ field ∈ violatedFields report, field ∈ fields

theorem uniqueViolation_eq_some {error : Thrown δ}
    {violation : UniqueViolation} {modelName : String}
    (named : violation.modelName = some modelName) :
    uniqueViolation error = some violation ↔
      ∃ report,
        error = .knownRequest "P2002" (some report) ∧
          violation = ⟨report.modelName, violatedFields report⟩ := by
  constructor
  · intro violates
    cases error with
    | knownRequest code report =>
        obtain ⟨isUnique, same⟩ := Option.ite_none_left_eq_some.mp violates
        obtain rfl := Option.some.inj same
        cases report with
        | none =>
            cases named
        | some report =>
            exact ⟨report, by rw [not_not.mp isUnique], rfl⟩
    | retriesExhausted | domain | object | primitive =>
        cases violates
  · rintro ⟨report, rfl, rfl⟩
    unfold uniqueViolation
    exact if_neg (not_not.mpr rfl)

theorem isUniqueViolationOn_iff {error : Thrown δ} {modelName : String}
    {fields : List String} :
    isUniqueViolationOn error modelName fields ↔
      ViolatesKey modelName fields error := by
  have isOn :
      isUniqueViolationOn error modelName fields ↔
        ∃ violation, uniqueViolation error = some violation ∧
          violation.modelName = some modelName ∧
          violation.fields.length = fields.length ∧
          ∀ field ∈ violation.fields, field ∈ fields := by
    unfold isUniqueViolationOn
    cases uniqueViolation error with
    | none =>
        simp
    | some violation =>
        by_cases named : violation.modelName = some modelName
        · by_cases sameLength : violation.fields.length = fields.length
          · simp [named, sameLength]
          · simp [named, sameLength]
        · simp [named]
  rw [isOn]
  constructor
  · rintro ⟨violation, violates, named, columns⟩
    obtain ⟨report, isReport, rfl⟩ :=
      (uniqueViolation_eq_some named).mp violates
    exact ⟨report, isReport, named, columns⟩
  · rintro ⟨report, isReport, named, columns⟩
    exact ⟨_, (uniqueViolation_eq_some named).mpr ⟨report, isReport, rfl⟩,
      named, columns⟩

/-- When no column is named twice, a violation names exactly the columns of the
key. -/
theorem perm_of_violatesKey {modelName : String} {fields : List String}
    {report : RequestMeta} (distinct : (violatedFields report).Nodup)
    (violates :
      ViolatesKey modelName fields
        (.knownRequest "P2002" (some report) : Thrown δ)) :
    report.modelName = some modelName ∧
      (violatedFields report).Perm fields := by
  obtain ⟨found, same, named, sameLength, known⟩ := violates
  obtain ⟨-, isReport⟩ := Thrown.knownRequest.inj same
  obtain rfl := Option.some.inj isReport
  exact ⟨named, (distinct.subperm known).perm_of_length_le sameLength.ge⟩

/-- Every quote twice. -/
def doubleQuotes : List Char → List Char
  | [] => []
  | letter :: rest =>
      if letter = '"' then
        '"' :: '"' :: doubleQuotes rest
      else
        letter :: doubleQuotes rest

def isPlainLetter (letter : Char) : Bool :=
  letter.isLower || letter.isDigit || letter = '_'

/-- A column as the database prints it in the detail of a violation. -/
def quoteIdentifier (identifier : String) : String :=
  if identifier.toList.all isPlainLetter then
    identifier
  else
    String.ofList ('"' :: doubleQuotes identifier.toList ++ ['"'])

theorem undoubleQuotes_doubleQuotes (letters : List Char) :
    undoubleQuotes (doubleQuotes letters) = letters := by
  induction letters with
  | nil =>
      rfl
  | cons letter rest inductionHypothesis =>
      by_cases quote : letter = '"'
      · rw [doubleQuotes, if_pos quote, undoubleQuotes, inductionHypothesis,
          quote]
      · have single :
            undoubleQuotes (letter :: doubleQuotes rest) =
              letter :: undoubleQuotes (doubleQuotes rest) := by
          rw [undoubleQuotes]
          intro following isQuote
          exact absurd isQuote quote
        rw [doubleQuotes, if_neg quote, single, inductionHypothesis]

theorem isWhiteSpace_of_isPlainLetter {letter : Char}
    (plain : isPlainLetter letter) : isWhiteSpace letter = false := by
  have noSpacePlain : ∀ space ∈ whiteSpaces, ¬ isPlainLetter space := by
    simp [whiteSpaces, isPlainLetter]
  apply decide_eq_false
  intro isSpace
  exact noSpacePlain letter isSpace plain

theorem trim_plain {identifier : String}
    (plain : identifier.toList.all isPlainLetter) :
    trim identifier = identifier := by
  rw [List.all_eq_true] at plain
  apply trim_of_solid
  · intro letter atHead
    exact isWhiteSpace_of_isPlainLetter (plain _ (List.mem_of_head? atHead))
  · intro letter atLast
    exact isWhiteSpace_of_isPlainLetter
      (plain _ (List.mem_of_getLast? atLast))

theorem unquoteIdentifier_quoteIdentifier (identifier : String) :
    unquoteIdentifier (quoteIdentifier identifier) = identifier := by
  unfold quoteIdentifier
  by_cases plain : identifier.toList.all isPlainLetter
  · rw [if_pos plain, unquoteIdentifier, trim_plain plain]
    apply if_neg
    rintro ⟨-, atHead, -⟩
    have isPlain :=
      List.all_eq_true.mp plain _ (List.mem_of_head? atHead)
    revert isPlain
    decide
  · have kept :
        trim (String.ofList ('"' :: doubleQuotes identifier.toList ++ ['"'])) =
          String.ofList ('"' :: doubleQuotes identifier.toList ++ ['"']) := by
      apply trim_of_solid
      · rw [String.toList_ofList]
        rintro letter ⟨rfl⟩
        decide
      · rw [String.toList_ofList, List.getLast?_append_cons]
        rintro letter ⟨rfl⟩
        decide
    have inner :
        ('"' :: doubleQuotes identifier.toList ++ ['"']).tail.dropLast =
          doubleQuotes identifier.toList := by
      rw [List.cons_append, List.tail_cons, List.dropLast_concat]
    have isQuoted :
        (String.ofList
              ('"' :: doubleQuotes identifier.toList ++ ['"'])).length ≥ 2 ∧
          ('"' :: doubleQuotes identifier.toList ++ ['"']).head? = some '"' ∧
          ('"' :: doubleQuotes identifier.toList ++ ['"']).getLast? =
            some '"' := by
      refine ⟨?_, rfl, List.getLast?_concat⟩
      rw [String.length_ofList, List.length_append, List.length_cons]
      exact Nat.le_add_left 2 _
    rw [if_neg plain, unquoteIdentifier, kept, String.toList_ofList,
      if_pos isQuoted, inner, undoubleQuotes_doubleQuotes,
      String.ofList_toList]

/-- The adapter's report of a violated key of a model. -/
def reportedViolation (modelName : String) (fields : List String) :
    RequestMeta where
  modelName := some modelName
  driverAdapterError :=
    some
      ⟨some "DriverAdapterError",
        some
          ⟨some "UniqueConstraintViolation",
            some ⟨some (fields.map fun field => some (quoteIdentifier field))⟩⟩⟩
  target := none

/-- The error a write throws that violates this key. -/
def thrownViolation (modelName : String) (fields : List String) : Thrown δ :=
  .knownRequest "P2002" (some (reportedViolation modelName fields))

theorem violatedFields_reportedViolation (modelName : String)
    (fields : List String) :
    violatedFields (reportedViolation modelName fields) = fields := by
  have unquoted :
      ((fields.map fun field => some (quoteIdentifier field)).filterMap id).map
          unquoteIdentifier =
        fields := by
    induction fields with
    | nil =>
        rfl
    | cons field rest inductionHypothesis =>
        have isText :
            id (some (quoteIdentifier field)) = some (quoteIdentifier field) :=
          rfl
        rw [List.map_cons, List.filterMap_cons_some isText, List.map_cons,
          unquoteIdentifier_quoteIdentifier, inductionHypothesis]
  unfold violatedFields reportedViolation
  dsimp only
  rw [Option.bind_some, driverAdapterCause_eq_some.mpr rfl, Option.bind_some,
    Option.bind_some]
  exact unquoted

/-- The violation of a key is recognised as one of exactly that key. -/
theorem isUniqueViolationOn_thrownViolation {modelName otherModel : String}
    {fields otherFields : List String} (distinct : otherFields.Nodup) :
    isUniqueViolationOn (thrownViolation otherModel otherFields : Thrown δ)
        modelName fields ↔
      otherModel = modelName ∧ otherFields.Perm fields := by
  have columns := violatedFields_reportedViolation otherModel otherFields
  rw [isUniqueViolationOn_iff]
  constructor
  · intro violates
    rw [← columns] at distinct
    obtain ⟨named, sameColumns⟩ := perm_of_violatesKey distinct violates
    rw [columns] at sameColumns
    exact ⟨Option.some.inj named, sameColumns⟩
  · rintro ⟨rfl, sameColumns⟩
    refine ⟨_, rfl, rfl, ?_⟩
    rw [columns]
    exact ⟨sameColumns.length_eq, fun field => sameColumns.mem_iff.mp⟩

end Heritage
