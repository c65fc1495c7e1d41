import Heritage.Payments.Keys
import Heritage.Payments.Requests
import Heritage.Store.KeyedSenders

/-!
# The payment forms

`AmountForm`, `PaymentAction` and `useIdempotencyKey` of the payments pages:
what the user enters, the key a form holds, and the request it sends.  The
texts shown next to a form are left out.
-/

namespace Heritage.Payments

open Heritage.Exports (RawValue property)
open Heritage.Store
open Heritage.Text (trim)

/-- A request with a JSON object as its body. -/
structure Submission where
  route : PaymentRoute
  body : Properties

/-- The key in the body. -/
def Submission.key (submission : Submission) : Option String :=
  match property submission.body "idempotencyKey" with
  | .string key => some key
  | _ => none

structure SelectField where
  name : String
  options : List String
  /-- `optionalLabel` is given. -/
  isOptional : Bool

structure AmountFormProps where
  url : PaymentRoute
  fixed : List (String × String)
  selects : List SelectField
  withReason : Bool
  /-- `warning` is given. -/
  warns : Bool

structure AmountForm where
  props : AmountFormProps
  key : String
  amount : String
  reason : String
  selected : List (String × String)
  confirming : Bool
  submitting : Bool

/-- The option a field starts with. -/
def SelectField.initial (select : SelectField) : String :=
  if select.isOptional then "" else select.options.head?.getD ""

namespace AmountForm

def mount (props : AmountFormProps) (key : String) : AmountForm where
  props := props
  key := key
  amount := ""
  reason := ""
  selected :=
    props.selects.foldl
      (fun built select => assign built select.name select.initial) []
  confirming := false
  submitting := false

/-- `edited`, with the key that `renew` draws. -/
def edited (form : AmountForm) (fresh : String) : AmountForm :=
  { form with key := fresh, confirming := false }

def setAmount (form : AmountForm) (amount : String) : AmountForm :=
  { form with amount := amount }

def setReason (form : AmountForm) (reason : String) : AmountForm :=
  { form with reason := reason }

def setSelected (form : AmountForm) (name value : String) : AmountForm :=
  { form with selected := assign form.selected name value }

def body (form : AmountForm) : Properties :=
  assignAll []
    (form.props.fixed ++
      form.selected.filter (fun entry => entry.2 ≠ "") ++
      [("amount", trim form.amount)] ++
      (if form.props.withReason then [("reason", trim form.reason)] else []) ++
      [("idempotencyKey", form.key)])

/-- The first submit of a form with a warning asks for confirmation. -/
def handleSubmit (form : AmountForm) : AmountForm × Option Submission :=
  if form.props.warns && !form.confirming then
    ({ form with confirming := true }, none)
  else if form.submitting then
    (form, none)
  else
    ({ form with submitting := true }, some ⟨form.props.url, form.body⟩)

/-- What `handleSubmit` does with the outcome. -/
def settle (form : AmountForm) (ok : Bool) (fresh : String) : AmountForm :=
  if ok then
    { form with
      key := fresh
      amount := ""
      reason := ""
      confirming := false
      submitting := false }
  else
    { form with confirming := false, submitting := false }

end AmountForm

structure PaymentActionProps where
  url : PaymentRoute
  withReason : Bool
  idempotent : Bool

structure PaymentAction where
  props : PaymentActionProps
  key : String
  isOpen : Bool
  reason : String
  submitting : Bool

namespace PaymentAction

def mount (props : PaymentActionProps) (key : String) : PaymentAction where
  props := props
  key := key
  isOpen := false
  reason := ""
  submitting := false

def close (form : PaymentAction) : PaymentAction :=
  { form with isOpen := false, reason := "" }

/-- A changed reason; an idempotent action also renews its key. -/
def changeReason (form : PaymentAction) (reason fresh : String) :
    PaymentAction :=
  { form with
    reason := reason
    key := if form.props.idempotent then fresh else form.key }

def body (form : PaymentAction) : Properties :=
  assignAll []
    ((if form.props.withReason then [("reason", trim form.reason)] else []) ++
      (if form.props.idempotent then [("idempotencyKey", form.key)] else []))

/-- A required reason that is blank is not sent. -/
def handleSubmit (form : PaymentAction) :
    PaymentAction × Option Submission :=
  if !form.isOpen then
    (form, none)
  else if form.props.withReason && trim form.reason = "" then
    (form, none)
  else if form.submitting then
    (form, none)
  else
    ({ form with submitting := true }, some ⟨form.props.url, form.body⟩)

def settle (form : PaymentAction) (ok : Bool) (fresh : String) :
    PaymentAction :=
  if ok then
    { form.close with key := fresh, submitting := false }
  else
    { form with submitting := false }

end PaymentAction

inductive PaymentForm where
  | amount (form : AmountForm)
  | action (form : PaymentAction)

/-- What a user does in a form apart from submitting it. -/
inductive FormEvent where
  | opened
  | cancelled
  | amountChanged (text : String)
  | reasonChanged (text : String)
  | selectChanged (name value : String)

namespace PaymentForm

def key : PaymentForm → String
  | .amount form => form.key
  | .action form => form.key

/-- While a request is under way the controls of the form are disabled. -/
def submitting : PaymentForm → Bool
  | .amount form => form.submitting
  | .action form => form.submitting

/-- A form that was just mounted. -/
def IsMounted : PaymentForm → Prop
  | .amount form => ∃ props key, form = AmountForm.mount props key
  | .action form => ∃ props key, form = PaymentAction.mount props key

/-- The form after an event; `fresh` is the key that a `renew` draws. -/
def handle (fresh : String) : PaymentForm → FormEvent → PaymentForm
  | .amount form, .cancelled => .amount { form with confirming := false }
  | .amount form, .amountChanged text =>
      .amount ((form.setAmount text).edited fresh)
  | .amount form, .reasonChanged text =>
      .amount ((form.setReason text).edited fresh)
  | .amount form, .selectChanged name value =>
      .amount ((form.setSelected name value).edited fresh)
  | .action form, .opened => .action { form with isOpen := true }
  | .action form, .cancelled => .action form.close
  | .action form, .reasonChanged text =>
      .action (form.changeReason text fresh)
  | form, _ => form

def handleSubmit : PaymentForm → PaymentForm × Option Submission
  | .amount form =>
      (.amount form.handleSubmit.1, form.handleSubmit.2)
  | .action form =>
      (.action form.handleSubmit.1, form.handleSubmit.2)

def settle (ok : Bool) (fresh : String) : PaymentForm → PaymentForm
  | .amount form => .amount (form.settle ok fresh)
  | .action form => .action (form.settle ok fresh)

/-- The keyed request the form would send as it stands. -/
def message : PaymentForm → Option Submission
  | .amount form => some ⟨form.props.url, form.body⟩
  | .action form =>
      if form.props.idempotent &&
          !(form.props.withReason && trim form.reason = "") then
        some ⟨form.props.url, form.body⟩
      else
        none

/-- The form as a sender of keyed requests. -/
def sender (form : PaymentForm) : Sender String Submission where
  key := form.key
  message := form.message

end PaymentForm

/-! ## The key of a request -/

section Properties

variable {fields : Properties} {key other : String} {value : RawValue}

/-- The property that was set. -/
theorem property_assign_self :
    property (assign fields key value) key = value := by
  unfold assign
  split
  next present =>
    have found :
        (fields.map fun field =>
            if field.1 = key then (key, value) else field).find?
          (fun field => field.1 = key) = some (key, value) := by
      induction fields with
      | nil => simp at present
      | cons field rest hypothesis =>
          by_cases isKey : field.1 = key
          · simp [isKey]
          · have later : rest.any (fun field => field.1 = key) = true := by
              simpa [isKey] using present
            simpa [isKey] using hypothesis later
    rw [property, found]
    rfl
  next absent =>
    have missing : fields.find? (fun field => field.1 = key) = none := by
      apply List.find?_eq_none.mpr
      intro field member isKey
      exact absent (List.any_eq_true.mpr ⟨field, member, isKey⟩)
    simp [property, missing]

/-- Another property stays. -/
theorem property_assign_other (different : key ≠ other) :
    property (assign fields key value) other = property fields other := by
  unfold assign
  split
  next present =>
    have kept :
        ((fields.map fun field =>
            if field.1 = key then (key, value) else field).find?
          fun field => field.1 = other) =
          fields.find? fun field => field.1 = other := by
      clear present
      induction fields with
      | nil => rfl
      | cons field rest hypothesis =>
          rw [List.map_cons, List.find?_cons, List.find?_cons, hypothesis]
          by_cases isKey : field.1 = key
          · simp [isKey, different]
          · simp [isKey]
    rw [property, kept, property]
  next absent =>
    have notNew :
        [(key, value)].find? (fun field => field.1 = other) = none := by
      simpa using different
    rw [property, List.find?_append, notNew, Option.or_none, property]

theorem property_assignAll {entries : List (String × String)}
    (absent : ∀ entry ∈ entries, entry.1 ≠ other) :
    property (assignAll fields entries) other = property fields other := by
  unfold assignAll
  induction entries generalizing fields with
  | nil => rfl
  | cons entry rest hypothesis =>
      rw [List.foldl_cons,
        hypothesis fun later member =>
          absent later (List.mem_cons_of_mem _ member)]
      exact property_assign_other (absent entry List.mem_cons_self)

theorem assignAll_append (first second : List (String × String)) :
    assignAll fields (first ++ second) =
      assignAll (assignAll fields first) second :=
  List.foldl_append ..

end Properties

theorem AmountForm.key_of_body (form : AmountForm) :
    Submission.key ⟨form.props.url, form.body⟩ = some form.key := by
  have own : property form.body "idempotencyKey" = .string form.key := by
    rw [AmountForm.body, assignAll_append]
    exact property_assign_self
  rw [Submission.key, own]

/-- An action sends the key it holds when it is idempotent, and none
otherwise. -/
theorem PaymentAction.key_of_body (form : PaymentAction) :
    Submission.key ⟨form.props.url, form.body⟩ =
      if form.props.idempotent then some form.key else none := by
  have noReason :
      ∀ entry ∈
        (if form.props.withReason then [("reason", trim form.reason)]
          else []),
        entry.1 ≠ "idempotencyKey" := by
    intro entry member
    split at member
    · obtain rfl := List.mem_singleton.mp member
      exact (by decide : "reason" ≠ "idempotencyKey")
    · cases member
  by_cases idempotent : form.props.idempotent = true
  · have own : property form.body "idempotencyKey" = .string form.key := by
      rw [PaymentAction.body, assignAll_append, if_pos idempotent]
      exact property_assign_self
    rw [Submission.key, own, if_pos idempotent]
  · have missing : property form.body "idempotencyKey" = .undefined := by
      rw [PaymentAction.body, if_neg idempotent, List.append_nil,
        property_assignAll noReason]
      rfl
    rw [Submission.key, missing, if_neg idempotent]

namespace PaymentForm

variable {form after : PaymentForm} {fresh : String}

/-- An event gives the form a new key, or leaves it with what it would send
under the old one. -/
theorem handle_sender (event : FormEvent) :
    (form.handle fresh event).key = fresh ∨
      (form.handle fresh event).key = form.key ∧
        ∀ submission,
          (form.handle fresh event).message = some submission →
            form.message = some submission := by
  cases form with
  | amount form =>
      cases event with
      | opened => exact Or.inr ⟨rfl, fun _ sends => sends⟩
      | cancelled => exact Or.inr ⟨rfl, fun _ sends => sends⟩
      | amountChanged text => exact Or.inl rfl
      | reasonChanged text => exact Or.inl rfl
      | selectChanged name value => exact Or.inl rfl
  | action form =>
      cases event with
      | opened => exact Or.inr ⟨rfl, fun _ sends => sends⟩
      | cancelled =>
          refine Or.inr ⟨rfl, ?_⟩
          intro submission sends
          by_cases reasoned : form.props.withReason = true
          · have blank : trim "" = "" := by decide
            simp [handle, message, PaymentAction.close, reasoned, blank]
              at sends
          · simpa [handle, message, PaymentAction.close, PaymentAction.body,
              reasoned] using sends
      | amountChanged text => exact Or.inr ⟨rfl, fun _ sends => sends⟩
      | reasonChanged text =>
          by_cases idempotent : form.props.idempotent = true
          · exact Or.inl (if_pos idempotent)
          · refine Or.inr ⟨if_neg idempotent, ?_⟩
            intro submission sends
            simp [handle, message, PaymentAction.changeReason, idempotent]
              at sends
      | selectChanged name value =>
          exact Or.inr ⟨rfl, fun _ sends => sends⟩

/-- A request that is sent carries the key of the form, or no key at all. -/
theorem handleSubmit_sent {submission : Submission}
    (sends : form.handleSubmit = (after, some submission)) :
    after.key = form.key ∧ after.message = form.message ∧
      after.submitting ∧
        (submission.key = some form.key ∧ form.message = some submission ∨
          submission.key = none) := by
  cases form with
  | amount form =>
      simp only [handleSubmit, AmountForm.handleSubmit] at sends
      split at sends
      · cases sends
      · split at sends
        · cases sends
        · simp only [Prod.mk.injEq, Option.some.injEq] at sends
          obtain ⟨rfl, rfl⟩ := sends
          exact
            ⟨rfl, rfl, rfl, Or.inl ⟨AmountForm.key_of_body form, rfl⟩⟩
  | action form =>
      simp only [handleSubmit, PaymentAction.handleSubmit] at sends
      split at sends
      · cases sends
      · split at sends
        · cases sends
        next notBlank =>
          split at sends
          · cases sends
          · simp only [Prod.mk.injEq, Option.some.injEq] at sends
            obtain ⟨rfl, rfl⟩ := sends
            refine ⟨rfl, rfl, rfl, ?_⟩
            have carried := PaymentAction.key_of_body form
            by_cases idempotent : form.props.idempotent = true
            · rw [if_pos idempotent] at carried
              exact Or.inl ⟨carried, by simp [message, idempotent, notBlank]⟩
            · rw [if_neg idempotent] at carried
              exact Or.inr carried

/-- Without a request the form keeps its key and its message. -/
theorem handleSubmit_asked (asks : form.handleSubmit = (after, none)) :
    after.key = form.key ∧ after.message = form.message ∧
      after.submitting = form.submitting := by
  cases form with
  | amount form =>
      simp only [handleSubmit, AmountForm.handleSubmit] at asks
      split at asks
      · simp only [Prod.mk.injEq, and_true] at asks
        obtain rfl := asks
        exact ⟨rfl, rfl, rfl⟩
      · split at asks
        · simp only [Prod.mk.injEq, and_true] at asks
          obtain rfl := asks
          exact ⟨rfl, rfl, rfl⟩
        · simp at asks
  | action form =>
      simp only [handleSubmit, PaymentAction.handleSubmit] at asks
      have same : after = .action form := by
        split at asks
        · simpa [eq_comm] using asks
        · split at asks
          · simpa [eq_comm] using asks
          · split at asks
            · simpa [eq_comm] using asks
            · simp at asks
      rw [same]
      exact ⟨rfl, rfl, rfl⟩

theorem settle_key_of_ok : (form.settle true fresh).key = fresh := by
  cases form <;> rfl

/-- A failure leaves the key and the message. -/
theorem settle_of_failure :
    (form.settle false fresh).key = form.key ∧
      (form.settle false fresh).message = form.message := by
  cases form with
  | amount form => exact ⟨rfl, rfl⟩
  | action form => exact ⟨rfl, rfl⟩

end PaymentForm

end Heritage.Payments
