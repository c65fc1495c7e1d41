import Heritage.Clients.DateOfBirth
import Heritage.Clients.Edits
import Heritage.Text.Trim

/-!
# The form that edits a client

`EditClientForm` and the request it sends, read by `updateClientSchema`.  The
texts shown next to the fields are left out.
-/

namespace Heritage.Clients

open Heritage.Calendar (CalendarDay codeUnits)
open Heritage.Exports (NamesDay)
open Heritage.Text (trim)
open Repository

inductive FieldName where
  | fullName
  | email
  | phone
  | address
  | nationality
  | dateOfBirth
  | emergencyContact
  | notes
  deriving DecidableEq, Repr

/-- `FIELD_NAMES`. -/
def fieldNames : List FieldName :=
  [.fullName, .email, .phone, .address, .nationality, .dateOfBirth,
    .emergencyContact, .notes]

abbrev FormFields := FieldName → String

/-- The texts of a form for the client. -/
def toFormFields (client : ClientDetailRecord) : FormFields
  | .fullName => client.fullName
  | .email => (client.email.map NonBlank.value).getD ""
  | .phone => (client.phone.map NonBlank.value).getD ""
  | .address => client.address.getD ""
  | .nationality => client.nationality.getD ""
  | .dateOfBirth => client.dateOfBirth.getD ""
  | .emergencyContact => client.emergencyContact.getD ""
  | .notes => client.notes.getD ""

/-- What the form takes from a read of the client. -/
structure ClientPage where
  fields : FormFields
  updatedAt : Timestamp

def pageOf (client : ClientDetailRecord) : ClientPage where
  fields := toFormFields client
  updatedAt := client.updatedAt

def isNonEmptyTrimmedString (value : String) : Bool :=
  trim value ≠ ""

/-- The checks of `isClientDetail` on the texts of the response. -/
def isClientDetail (client : ClientDetailRecord) : Bool :=
  isNonEmptyTrimmedString client.fullName &&
    client.email.all (fun email => isNonEmptyTrimmedString email.value) &&
    client.phone.all (fun phone => isNonEmptyTrimmedString phone.value) &&
    client.address.all isNonEmptyTrimmedString &&
    client.nationality.all isNonEmptyTrimmedString &&
    client.dateOfBirth.all isNonEmptyTrimmedString &&
    client.emergencyContact.all isNonEmptyTrimmedString &&
    client.notes.all isNonEmptyTrimmedString &&
    client.originatingLeads.all fun lead =>
      isNonEmptyTrimmedString lead.fullName &&
        isNonEmptyTrimmedString lead.source

inductive SaveOutcome where
  | saved (page : ClientPage)
  | conflict
  | failed

/-- How the form takes a response. -/
def SaveOutcome.ofResult :
    Except ClientError UpdateClientResult → SaveOutcome
  | .ok result =>
      if isClientDetail result.client then .saved (pageOf result.client)
      else .failed
  | .error error =>
      if error.code = .clientConflict then .conflict else .failed

structure EditClientForm where
  /-- The `initial` props of the last render. -/
  props : ClientPage
  baseline : FormFields
  fields : FormFields
  expectedUpdatedAt : Timestamp
  submitting : Bool
  conflict : Bool
  conflictRefreshRequested : Bool

namespace EditClientForm

def mount (page : ClientPage) : EditClientForm where
  props := page
  baseline := page.fields
  fields := page.fields
  expectedUpdatedAt := page.updatedAt
  submitting := false
  conflict := false
  conflictRefreshRequested := false

/-- The adjustment of the state during a render. -/
def render (form : EditClientForm) : EditClientForm :=
  if form.conflict ∧ form.conflictRefreshRequested ∧
      form.props.updatedAt ≠ form.expectedUpdatedAt then
    { form with
      baseline := form.props.fields
      fields := form.props.fields
      expectedUpdatedAt := form.props.updatedAt
      conflict := false
      conflictRefreshRequested := false }
  else
    form

def updateField (form : EditClientForm) (name : FieldName)
    (value : String) : EditClientForm :=
  { form with fields := Function.update form.fields name value }

/-- The inputs are disabled while a request is under way and in conflict. -/
def enabled (form : EditClientForm) : Bool :=
  !form.submitting && !form.conflict

/-- The click on "Refresh and try again", which a conflict shows. -/
def requestRefresh (form : EditClientForm) : EditClientForm :=
  { form with
    conflictRefreshRequested :=
      form.conflict || form.conflictRefreshRequested }

/-- The fields that differ from the baseline, with their texts. -/
def buildPatch (form : EditClientForm) (name : FieldName) : Option String :=
  if form.fields name ≠ form.baseline name then some (form.fields name)
  else none

/-- The form after a submit, and whether it sends its patch. -/
def handleSubmit (form : EditClientForm) : EditClientForm × Bool :=
  if form.submitting || form.conflict then
    (form, false)
  else if fieldNames.all fun name => (form.buildPatch name).isNone then
    (form, false)
  else if (form.buildPatch .fullName).any fun name => trim name = "" then
    (form, false)
  else
    ({ form with submitting := true }, true)

def settle (form : EditClientForm) : SaveOutcome → EditClientForm
  | .saved page =>
      { form with
        baseline := page.fields
        fields := page.fields
        expectedUpdatedAt := page.updatedAt
        submitting := false }
  | .conflict => { form with conflict := true, submitting := false }
  | .failed => { form with submitting := false }

end EditClientForm

/-- `toNullIfBlank`. -/
def toNullIfBlank (value : String) : Option NonBlank :=
  if notBlank : value ≠ "" then some ⟨value, notBlank⟩ else none

/-- A trimmed text of at most `limit` code units. -/
def limitedText (limit : Nat) (text : String) : Option String :=
  if (codeUnits (trim text).toList).length ≤ limit then some (trim text)
  else none

/-- `fullNameSchema`. -/
def fullNameSchema (text : String) : Option String :=
  (limitedText 200 text).filter fun name => name ≠ ""

/-- A text that a blank value clears. -/
def clearableSchema (limit : Nat) (text : String) :
    Option (Option NonBlank) :=
  (limitedText limit text).map toNullIfBlank

/-- A field that the request may leave out. -/
def optionalField {τ : Type} (schema : String → Option τ) :
    Option String → Option (Option τ)
  | none => some none
  | some text => (schema text).map some

/-- `updateClientSchema` on a body whose fields are texts; `none` stands for
issues. -/
def updateClientSchema (dates : DatePlatform) (now : Timestamp)
    (patch : FieldName → Option String) (expectedUpdatedAt : Timestamp) :
    Option UpdateClientRequest := do
  let fullName ← optionalField fullNameSchema (patch .fullName)
  let email ← optionalField (clearableSchema 320) (patch .email)
  let phone ← optionalField (clearableSchema 50) (patch .phone)
  let address ← optionalField (clearableSchema 500) (patch .address)
  let nationality ← optionalField (clearableSchema 100) (patch .nationality)
  let dateOfBirth ←
    optionalField
      (fun text => (dateOfBirthSchema dates now (some text)).toOption)
      (patch .dateOfBirth)
  let emergencyContact ←
    optionalField (clearableSchema 200) (patch .emergencyContact)
  let notes ← optionalField (clearableSchema 2000) (patch .notes)
  if editsSomething :
      fullName.isSome ∨ email.isSome ∨ phone.isSome ∨ address.isSome ∨
        nationality.isSome ∨ dateOfBirth.isSome ∨ emergencyContact.isSome ∨
        notes.isSome then
    some
      { fullName := fullName
        email := email
        phone := phone
        address := address.map fun value => value.map NonBlank.value
        nationality := nationality.map fun value => value.map NonBlank.value
        dateOfBirth := dateOfBirth
        emergencyContact :=
          emergencyContact.map fun value => value.map NonBlank.value
        notes := notes.map fun value => value.map NonBlank.value
        expectedUpdatedAt := expectedUpdatedAt
        editsSomething := by simpa using editsSomething }
  else
    none

/-! ## What a request does to the texts -/

/-- The texts of a form for the row. -/
def fieldsOf (row : ClientRecord) : FormFields
  | .fullName => row.contact.fullName
  | .email => (row.contact.email.map NonBlank.value).getD ""
  | .phone => (row.contact.phone.map NonBlank.value).getD ""
  | .address => row.details.address.getD ""
  | .nationality => row.details.nationality.getD ""
  | .dateOfBirth => (row.details.dateOfBirth.map toDateOnlyString).getD ""
  | .emergencyContact => row.details.emergencyContact.getD ""
  | .notes => row.details.notes.getD ""

/-- How a field shows a text that was entered and saved: trimmed.  A date of
birth is shown as entered from the year 1000 on, and before it without the
leading zeros of its year. -/
def ShowsEntered (name : FieldName) (entered shown : String) : Prop :=
  match name with
  | .dateOfBirth =>
      (entered = "" ∧ shown = "") ∨
        ∃ date,
          NamesDay entered date ∧
            shown = toDateOnlyString date ∧
              (shown = entered ↔ 1000 ≤ date.year)
  | _ => shown = trim entered

/-- A read shows the texts and the version of the row. -/
theorem pageOf_read {database : Database} {id : Uuid} {actor : ClientActor}
    {client : ClientDetailRecord}
    (found : findClientByIdForRead database id actor = some client) :
    ∃ row,
      findClientById database id = some row ∧
        pageOf client = ⟨fieldsOf row, row.details.updatedAt⟩ := by
  obtain ⟨row, foundRow, rfl⟩ := Option.map_eq_some_iff.mp found
  refine ⟨row, foundRow, ?_⟩
  rw [pageOf]
  congr 1

section Texts

variable {dates : DatePlatform} {now : Timestamp} {limit : Nat}

theorem value_toNullIfBlank (value : String) :
    ((toNullIfBlank value).map NonBlank.value).getD "" = value := by
  unfold toNullIfBlank
  split
  next => rfl
  next blank => exact (not_not.mp blank).symm

theorem clearableSchema_eq_some {text : String} {saved : Option NonBlank}
    (accepted : clearableSchema limit text = some saved) :
    (saved.map NonBlank.value).getD "" = trim text := by
  obtain ⟨kept, limited, rfl⟩ := Option.map_eq_some_iff.mp accepted
  unfold limitedText at limited
  split at limited
  next =>
    obtain rfl := Option.some.inj limited
    exact value_toNullIfBlank _
  next => cases limited

theorem optionalField_some {τ : Type} {schema : String → Option τ}
    {text : String} {saved : Option τ}
    (accepted : optionalField schema (some text) = some saved) :
    ∃ value, schema text = some value ∧ some value = saved :=
  Option.map_eq_some_iff.mp accepted

/-- A clearable field of the request: left out with the patch, and otherwise
the trimmed text. -/
theorem clearable_field {patched : Option String}
    {saved : Option (Option NonBlank)} {before : Option NonBlank}
    (accepted : optionalField (clearableSchema limit) patched = some saved) :
    (patched = none → saved.getD before = before) ∧
      ∀ text, patched = some text →
        ((saved.getD before).map NonBlank.value).getD "" = trim text := by
  cases patched with
  | none =>
      obtain rfl := Option.some.inj accepted
      constructor
      · intro _
        rfl
      · intro text present
        cases present
  | some entered =>
      obtain ⟨value, read, rfl⟩ := optionalField_some accepted
      constructor
      · intro absent
        cases absent
      intro text present
      obtain rfl := Option.some.inj present
      exact clearableSchema_eq_some read

/-- The same for a column that keeps plain texts. -/
theorem clearable_text {patched : Option String}
    {saved : Option (Option NonBlank)} {before : Option String}
    (accepted : optionalField (clearableSchema limit) patched = some saved) :
    (patched = none →
        ((saved.map fun value => value.map NonBlank.value).getD
          before).getD "" = before.getD "") ∧
      ∀ text, patched = some text →
        ((saved.map fun value => value.map NonBlank.value).getD
          before).getD "" = trim text := by
  cases patched with
  | none =>
      obtain rfl := Option.some.inj accepted
      constructor
      · intro _
        rfl
      · intro text present
        cases present
  | some entered =>
      obtain ⟨value, read, rfl⟩ := optionalField_some accepted
      constructor
      · intro absent
        cases absent
      intro text present
      obtain rfl := Option.some.inj present
      exact clearableSchema_eq_some read

/-- An accepted name is the trimmed text. -/
theorem fullName_field {patched saved : Option String} {before : String}
    (accepted : optionalField fullNameSchema patched = some saved) :
    (patched = none → saved.getD before = before) ∧
      ∀ text, patched = some text → saved.getD before = trim text := by
  cases patched with
  | none =>
      obtain rfl := Option.some.inj accepted
      constructor
      · intro _
        rfl
      · intro text present
        cases present
  | some entered =>
      obtain ⟨value, read, rfl⟩ := optionalField_some accepted
      constructor
      · intro absent
        cases absent
      intro text present
      obtain rfl := Option.some.inj present
      obtain ⟨limited, -⟩ := Option.filter_eq_some_iff.mp read
      unfold limitedText at limited
      split at limited
      next => exact (Option.some.inj limited).symm
      next => cases limited

theorem dateOfBirth_field {patched : Option String}
    {saved : Option (Option CalendarDay)} {before : Option CalendarDay}
    (reads : ReadsIsoDates dates.isoDate)
    (accepted :
      optionalField
        (fun text => (dateOfBirthSchema dates now (some text)).toOption)
        patched = some saved) :
    (patched = none → saved.getD before = before) ∧
      ∀ text, patched = some text →
        ShowsEntered .dateOfBirth text
          (((saved.getD before).map toDateOnlyString).getD "") := by
  cases patched with
  | none =>
      obtain rfl := Option.some.inj accepted
      constructor
      · intro _
        rfl
      · intro text present
        cases present
  | some entered =>
      obtain ⟨value, read, rfl⟩ := optionalField_some accepted
      constructor
      · intro absent
        cases absent
      intro text present
      obtain rfl := Option.some.inj present
      cases outcome : dateOfBirthSchema dates now (some entered) with
      | error issue =>
          rw [outcome] at read
          cases read
      | ok day =>
          rw [outcome] at read
          obtain rfl := Option.some.inj read
          cases day with
          | none =>
              exact Or.inl ⟨empty_of_dateOfBirthSchema outcome, rfl⟩
          | some date =>
              have names :=
                ((dateOfBirthSchema_eq_ok_iff reads).mp outcome).1
              exact Or.inr ⟨date, names, rfl, toDateOnlyString_eq_iff names⟩

end Texts

/-- A field that the patch leaves out keeps its text, and a field it has shows
the entered one. -/
theorem fieldsOf_patched {dates : DatePlatform} {now expected : Timestamp}
    {patch : FieldName → Option String} {input : UpdateClientRequest}
    {before after : ClientRecord}
    (reads : ReadsIsoDates dates.isoDate)
    (accepted : updateClientSchema dates now patch expected = some input)
    (applied : FieldsPatched input before after) (name : FieldName) :
    (patch name = none → fieldsOf after name = fieldsOf before name) ∧
      ∀ text, patch name = some text →
        ShowsEntered name text (fieldsOf after name) := by
  simp only [updateClientSchema, Option.bind_eq_bind,
    Option.bind_eq_some_iff] at accepted
  obtain ⟨fullName, readFullName, email, readEmail, phone, readPhone,
    address, readAddress, nationality, readNationality, dateOfBirth,
    readDateOfBirth, emergencyContact, readEmergencyContact, notes,
    readNotes, built⟩ := accepted
  split at built
  next edits =>
    obtain rfl := Option.some.inj built
    cases name with
    | fullName =>
        simp only [fieldsOf, applied.fullName]
        exact fullName_field readFullName
    | email =>
        simp only [fieldsOf, applied.email]
        exact
          (clearable_field readEmail).imp_left fun kept absent => by
            rw [kept absent]
    | phone =>
        simp only [fieldsOf, applied.phone]
        exact
          (clearable_field readPhone).imp_left fun kept absent => by
            rw [kept absent]
    | address =>
        simp only [fieldsOf, applied.address]
        exact clearable_text readAddress
    | nationality =>
        simp only [fieldsOf, applied.nationality]
        exact clearable_text readNationality
    | dateOfBirth =>
        simp only [fieldsOf, applied.dateOfBirth]
        exact
          (dateOfBirth_field reads readDateOfBirth).imp_left fun kept absent => by
            rw [kept absent]
    | emergencyContact =>
        simp only [fieldsOf, applied.emergencyContact]
        exact clearable_text readEmergencyContact
    | notes =>
        simp only [fieldsOf, applied.notes]
        exact clearable_text readNotes
  next => cases built

/-- A request names the version the form expects. -/
theorem expectedUpdatedAt_of_schema {dates : DatePlatform}
    {now expected : Timestamp} {patch : FieldName → Option String}
    {input : UpdateClientRequest}
    (accepted : updateClientSchema dates now patch expected = some input) :
    input.expectedUpdatedAt = expected := by
  simp only [updateClientSchema, Option.bind_eq_bind,
    Option.bind_eq_some_iff] at accepted
  obtain ⟨fullName, -, email, -, phone, -, address, -, nationality, -,
    dateOfBirth, -, emergencyContact, -, notes, -, built⟩ := accepted
  split at built
  next edits =>
    obtain rfl := Option.some.inj built
    rfl
  next => cases built

end Heritage.Clients
