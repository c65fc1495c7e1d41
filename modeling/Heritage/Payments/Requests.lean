import Heritage.Exports.Amounts
import Heritage.Exports.Schemas
import Heritage.Payments.System
import Heritage.Text.Trim

/-!
# Requests to the payment routes

The body schemas of `schemas.ts`, `parseJsonBody` of `http.ts` and the routes
that carry out one operation on one record.  A field of an identifier is read
by `uuid`, which knows the texts in the form of an identifier.
-/

namespace Heritage.Payments

open Heritage.Calendar (codeUnits)
open Heritage.Exports
  (RawValue Issue Checked property optional strictIssues hundredthDigits
    toList_toFixed2 isDigit_of_mem_hundredthDigits)
open Heritage.Text

/-- The issues of the checks that a value fails, in order. -/
def failedChecks (key : String) (checks : List (Bool × String)) :
    List Issue :=
  checks.filterMap fun check =>
    if check.1 then none else some (.custom [key] check.2)

/-- `MONEY_STRING_PATTERN`, `/^(0|[1-9]\d{0,15})\.\d{2}$/`. -/
def matchesMoneyString (text : String) : Bool :=
  let whole := text.toList.takeWhile Char.isDigit
  (whole = ['0'] ||
      (whole.length ≤ 16 && whole.head?.any fun first => first ≠ '0')) &&
    match text.toList.dropWhile Char.isDigit with
    | ['.', tens, units] => tens.isDigit && units.isDigit
    | _ => false

/-- `new Prisma.Decimal(value)`, in hundredths. -/
def hundredthsOf (text : String) : Nat :=
  Nat.ofDigitChars 10 (text.toList.filter Char.isDigit) 0

/-- The amount a money string names. -/
def readMoney (text : String) : Option MoneyAmount :=
  if bounds :
      0 < (hundredthsOf text : Int) ∧ (hundredthsOf text : Int) < 10 ^ 18 then
    if matchesMoneyString text then
      some ⟨hundredthsOf text, bounds.1, bounds.2⟩
    else
      none
  else
    none

def positiveMoneyAmountSchema (key : String) : RawValue → Checked MoneyAmount
  | .string text =>
      { value := readMoney text
        issues :=
          failedChecks key
            [(matchesMoneyString text,
                "amount must be a decimal string with exactly two decimal " ++
                  "places (e.g. \"150.00\")"),
              (matchesMoneyString text && 0 < hundredthsOf text,
                "amount must be greater than zero")] }
  | _ => { value := none, issues := [.invalidType [key]] }

def idempotencyKeySchema (key : String) : RawValue → Checked String
  | .string text =>
      { value := some text
        issues :=
          failedChecks key
            [(1 ≤ (codeUnits text.toList).length,
                "idempotencyKey must not be empty"),
              ((codeUnits text.toList).length ≤ 255,
                "idempotencyKey must be at most 255 characters")] }
  | _ => { value := none, issues := [.invalidType [key]] }

def reasonSchema (key : String) : RawValue → Checked String
  | .string text =>
      { value := some (trim text)
        issues :=
          failedChecks key
            [(1 ≤ (codeUnits (trim text).toList).length,
                "reason must not be empty"),
              ((codeUnits (trim text).toList).length ≤ 1000,
                "reason must be at most 1000 characters")] }
  | _ => { value := none, issues := [.invalidType [key]] }

def uuidSchema (uuid : String → Option Uuid) (key : String) :
    RawValue → Checked Uuid
  | .string text =>
      match uuid text with
      | some id => { value := some id, issues := [] }
      | none => { value := none, issues := [.custom [key] "Invalid UUID"] }
  | _ => { value := none, issues := [.invalidType [key]] }

/-- The properties of a JSON object, each under its own key. -/
abbrev Properties := List (String × RawValue)

section Bodies

variable (uuid : String → Option Uuid) (fields : Properties)

def approvePaymentPlanSchema : Checked ApprovePaymentPlanInput :=
  let paymentPlanId :=
    uuidSchema uuid "paymentPlanId" (property fields "paymentPlanId")
  { value := paymentPlanId.value.map ApprovePaymentPlanInput.mk
    issues := paymentPlanId.issues ++ strictIssues ["paymentPlanId"] fields }

def withdrawPaymentPlanSchema : Checked WithdrawPaymentPlanInput :=
  let paymentPlanId :=
    uuidSchema uuid "paymentPlanId" (property fields "paymentPlanId")
  let reason := reasonSchema "reason" (property fields "reason")
  { value := do
      some
        { paymentPlanId := ← paymentPlanId.value
          reason := ← reason.value }
    issues :=
      paymentPlanId.issues ++ reason.issues ++
        strictIssues ["paymentPlanId", "reason"] fields }

def recordPaymentSchema : Checked RecordPaymentInput :=
  let bookingId := uuidSchema uuid "bookingId" (property fields "bookingId")
  let amount :=
    positiveMoneyAmountSchema "amount" (property fields "amount")
  let idempotencyKey :=
    idempotencyKeySchema "idempotencyKey" (property fields "idempotencyKey")
  { value := do
      some
        { bookingId := ← bookingId.value
          amount := ← amount.value
          idempotencyKey := ← idempotencyKey.value }
    issues :=
      bookingId.issues ++ amount.issues ++ idempotencyKey.issues ++
        strictIssues ["bookingId", "amount", "idempotencyKey"] fields }

/-- The schema of a change of one record for a reason, under a key. -/
def reasonedChangeSchema {α : Type} (idKey : String)
    (input : Uuid → String → String → α) : Checked α :=
  let id := uuidSchema uuid idKey (property fields idKey)
  let reason := reasonSchema "reason" (property fields "reason")
  let idempotencyKey :=
    idempotencyKeySchema "idempotencyKey" (property fields "idempotencyKey")
  { value := do
      some (input (← id.value) (← reason.value) (← idempotencyKey.value))
    issues :=
      id.issues ++ reason.issues ++ idempotencyKey.issues ++
        strictIssues [idKey, "reason", "idempotencyKey"] fields }

def confirmPaymentSchema : Checked ConfirmPaymentInput :=
  reasonedChangeSchema uuid fields "paymentId" ConfirmPaymentInput.mk

def reversePaymentSchema : Checked ReversePaymentInput :=
  reasonedChangeSchema uuid fields "paymentId" ReversePaymentInput.mk

def refundPaymentSchema : Checked RefundPaymentInput :=
  let paymentId := uuidSchema uuid "paymentId" (property fields "paymentId")
  let amount :=
    positiveMoneyAmountSchema "amount" (property fields "amount")
  let reason := reasonSchema "reason" (property fields "reason")
  let idempotencyKey :=
    idempotencyKeySchema "idempotencyKey" (property fields "idempotencyKey")
  let allocationId :=
    optional (uuidSchema uuid "allocationId")
      (property fields "allocationId")
  { value := do
      some
        { paymentId := ← paymentId.value
          amount := ← amount.value
          reason := ← reason.value
          idempotencyKey := ← idempotencyKey.value
          allocationId := ← allocationId.value }
    issues :=
      paymentId.issues ++ amount.issues ++ reason.issues ++
        idempotencyKey.issues ++ allocationId.issues ++
        strictIssues
          ["paymentId", "amount", "reason", "idempotencyKey", "allocationId"]
          fields }

def issueReceiptSchema : Checked IssueReceiptInput :=
  let paymentId := uuidSchema uuid "paymentId" (property fields "paymentId")
  { value := paymentId.value.map IssueReceiptInput.mk
    issues := paymentId.issues ++ strictIssues ["paymentId"] fields }

def createAllocationSchema : Checked CreateAllocationInput :=
  let paymentId := uuidSchema uuid "paymentId" (property fields "paymentId")
  let installmentId :=
    uuidSchema uuid "installmentId" (property fields "installmentId")
  let amount :=
    positiveMoneyAmountSchema "amount" (property fields "amount")
  let idempotencyKey :=
    idempotencyKeySchema "idempotencyKey" (property fields "idempotencyKey")
  { value := do
      some
        { paymentId := ← paymentId.value
          installmentId := ← installmentId.value
          amount := ← amount.value
          idempotencyKey := ← idempotencyKey.value }
    issues :=
      paymentId.issues ++ installmentId.issues ++ amount.issues ++
        idempotencyKey.issues ++
        strictIssues ["paymentId", "installmentId", "amount", "idempotencyKey"]
          fields }

def reverseAllocationSchema : Checked ReverseAllocationInput :=
  reasonedChangeSchema uuid fields "allocationId" ReverseAllocationInput.mk

end Bodies

/-- The routes that change one plan, payment or allocation, and the two that
create a payment and an allocation. -/
inductive PaymentRoute where
  | planApproval (paymentPlanId : String)
  | planWithdrawal (paymentPlanId : String)
  | payments
  | confirmation (paymentId : String)
  | reversal (paymentId : String)
  | refunds (paymentId : String)
  | receipt (paymentId : String)
  | allocations
  | allocationReversal (allocationId : String)
  deriving DecidableEq

/-- The roles of the route's `withRole`. -/
def PaymentRoute.allowedRoles : PaymentRoute → List Role
  | .planWithdrawal _ => [.travelConsultant, .financeAccounting]
  | _ => [.financeAccounting]

/-- The route parameter, under the name the schema gives it. -/
def PaymentRoute.pathValues : PaymentRoute → List (String × String)
  | .planApproval id | .planWithdrawal id => [("paymentPlanId", id)]
  | .payments | .allocations => []
  | .confirmation id | .reversal id | .refunds id | .receipt id =>
      [("paymentId", id)]
  | .allocationReversal id => [("allocationId", id)]

/-- The schema of the route's body, as the operation it asks for. -/
def PaymentRoute.schema (uuid : String → Option Uuid)
    (fields : Properties) : PaymentRoute → Checked Operation
  | .planApproval _ =>
      let body := approvePaymentPlanSchema uuid fields
      ⟨body.value.map .approvePaymentPlan, body.issues⟩
  | .planWithdrawal _ =>
      let body := withdrawPaymentPlanSchema uuid fields
      ⟨body.value.map .withdrawPaymentPlan, body.issues⟩
  | .payments =>
      let body := recordPaymentSchema uuid fields
      ⟨body.value.map .recordPayment, body.issues⟩
  | .confirmation _ =>
      let body := confirmPaymentSchema uuid fields
      ⟨body.value.map .confirmPayment, body.issues⟩
  | .reversal _ =>
      let body := reversePaymentSchema uuid fields
      ⟨body.value.map .reversePayment, body.issues⟩
  | .refunds _ =>
      let body := refundPaymentSchema uuid fields
      ⟨body.value.map .refundPayment, body.issues⟩
  | .receipt _ =>
      let body := issueReceiptSchema uuid fields
      ⟨body.value.map .issueReceipt, body.issues⟩
  | .allocations =>
      let body := createAllocationSchema uuid fields
      ⟨body.value.map .createAllocation, body.issues⟩
  | .allocationReversal _ =>
      let body := reverseAllocationSchema uuid fields
      ⟨body.value.map .reverseAllocation, body.issues⟩

/-- The object with one property set: in its place, or at the end. -/
def assign {α : Type} (fields : List (String × α)) (key : String)
    (value : α) : List (String × α) :=
  if fields.any fun field => field.1 = key then
    fields.map fun field => if field.1 = key then (key, value) else field
  else
    fields ++ [(key, value)]

/-- `{ ...fields, ...values }`. -/
def assignAll (fields : Properties) (values : List (String × String)) :
    Properties :=
  values.foldl (fun built entry => assign built entry.1 (.string entry.2))
    fields

/-- `parseJsonBody` for the route; a body that is no JSON is `none`. -/
def PaymentRoute.parseJsonBody (uuid : String → Option Uuid)
    (route : PaymentRoute) :
    Option RawValue → Except (List Issue) Operation
  | none => .error [.custom [] "Request body must be valid JSON."]
  | some (.object fields) =>
      let result := route.schema uuid (assignAll fields route.pathValues)
      match result.value, result.issues with
      | some operation, [] => .ok operation
      | _, issues => .error issues
  | some _ => .error [.custom [] "Request body must be a JSON object."]

theorem toList_toFixed2_of_nonneg {amount : Int} (nonnegative : 0 ≤ amount) :
    (toFixed2 amount).toList =
      Nat.toDigits 10 (amount.natAbs / 100) ++
        '.' :: hundredthDigits (amount.natAbs % 100) := by
  rw [toList_toFixed2, if_neg (by omega), List.nil_append]

section Written

variable {whole : List Char} {tens units : Char} {text : String}

/-- The parts of a text of digits, a point and two digits. -/
theorem parts_of_written (wholeDigits : ∀ letter ∈ whole, letter.isDigit)
    (written : text.toList = whole ++ ['.', tens, units]) :
    text.toList.takeWhile Char.isDigit = whole ∧
      text.toList.dropWhile Char.isDigit = ['.', tens, units] := by
  have stop :
      ∀ letter ∈ ['.', tens, units].head?, ¬ Char.isDigit letter := by
    rintro letter ⟨rfl⟩
    decide
  rw [written]
  exact
    ⟨takeWhile_append_of_head wholeDigits stop,
      dropWhile_append_of_head wholeDigits stop⟩

theorem hundredthsOf_written (wholeDigits : ∀ letter ∈ whole, letter.isDigit)
    (tensDigit : tens.isDigit) (unitsDigit : units.isDigit)
    (written : text.toList = whole ++ ['.', tens, units]) :
    hundredthsOf text =
      Nat.ofDigitChars 10 (whole ++ [tens, units]) 0 := by
  have point : ¬ Char.isDigit '.' := by decide
  rw [hundredthsOf, written, List.filter_append,
    List.filter_eq_self.mpr wholeDigits, List.filter_cons_of_neg point,
    List.filter_cons_of_pos tensDigit, List.filter_cons_of_pos unitsDigit,
    List.filter_nil]

/-- A text matches the pattern exactly when it is written so. -/
theorem matchesMoneyString_iff :
    matchesMoneyString text ↔
      ∃ whole tens units,
        text.toList = whole ++ ['.', tens, units] ∧
          (∀ letter ∈ whole, letter.isDigit) ∧
          tens.isDigit ∧ units.isDigit ∧
          (whole = ['0'] ∨
            whole ≠ [] ∧ whole.length ≤ 16 ∧ whole.head? ≠ some '0') := by
  have wholeCases :
      ∀ digits : List Char,
        (decide (digits = ['0']) ||
            (decide (digits.length ≤ 16) &&
              digits.head?.any fun first => first ≠ '0')) = true ↔
          digits = ['0'] ∨
            digits ≠ [] ∧ digits.length ≤ 16 ∧ digits.head? ≠ some '0' := by
    intro digits
    cases digits with
    | nil => simp
    | cons first rest => simp
  constructor
  · intro accepted
    rw [matchesMoneyString, Bool.and_eq_true, wholeCases] at accepted
    obtain ⟨wholeForm, tail⟩ := accepted
    have split :=
      List.takeWhile_append_dropWhile (p := Char.isDigit) (l := text.toList)
    have wholeDigits :
        ∀ letter ∈ text.toList.takeWhile Char.isDigit, letter.isDigit :=
      fun letter member => List.mem_takeWhile_imp member
    split at tail
    · rename_i tens units remaining
      rw [Bool.and_eq_true] at tail
      rw [remaining] at split
      exact
        ⟨_, tens, units, split.symm, wholeDigits, tail.1, tail.2, wholeForm⟩
    · cases tail
  · rintro ⟨whole, tens, units, written, wholeDigits, tensDigit, unitsDigit,
      wholeForm⟩
    obtain ⟨before, behind⟩ := parts_of_written wholeDigits written
    rw [matchesMoneyString, Bool.and_eq_true, wholeCases, before, behind]
    exact ⟨wholeForm, by simp [tensDigit, unitsDigit]⟩

end Written

/-- The text of an amount matches the pattern and names the amount. -/
theorem readMoney_toFixed2 (amount : MoneyAmount) :
    matchesMoneyString (toFixed2 amount.value) ∧
      readMoney (toFixed2 amount.value) = some amount := by
  obtain ⟨value, positive, bounded⟩ := amount
  have written := toList_toFixed2_of_nonneg positive.le
  have wholeDigits :
      ∀ letter ∈ Nat.toDigits 10 (value.natAbs / 100), letter.isDigit :=
    fun _ member => Nat.isDigit_of_mem_toDigits (by decide) (by decide) member
  have fractionDigits :=
    isDigit_of_mem_hundredthDigits
      (Nat.mod_lt value.natAbs (by decide : 0 < 100))
  have tensDigit := fractionDigits _ List.mem_cons_self
  have unitsDigit :=
    fractionDigits _ (List.mem_cons_of_mem _ List.mem_cons_self)
  have accepted : matchesMoneyString (toFixed2 value) := by
    apply matchesMoneyString_iff.mpr
    refine ⟨_, _, _, written, wholeDigits, tensDigit, unitsDigit, ?_⟩
    by_cases none : value.natAbs / 100 = 0
    · rw [none]
      exact Or.inl rfl
    · have short : value.natAbs / 100 < 10 ^ 16 := by omega
      exact
        Or.inr
          ⟨Nat.toDigits_ne_nil,
            (Nat.length_toDigits_le_iff (by decide) (by decide)).mpr short,
            head_toDigits_ne_zero (Nat.pos_of_ne_zero none)⟩
  have named : (hundredthsOf (toFixed2 value) : Int) = value := by
    have tensSmall : value.natAbs % 100 / 10 < 10 := by omega
    have unitsSmall : value.natAbs % 100 % 10 < 10 := by omega
    rw [hundredthsOf_written wholeDigits tensDigit unitsDigit written,
      Nat.ofDigitChars_append, Nat.ofDigitChars_ten_toDigits,
      Nat.ofDigitChars_cons_digitChar_of_lt_ten tensSmall,
      Nat.ofDigitChars_cons_digitChar_of_lt_ten unitsSmall,
      Nat.ofDigitChars_nil]
    omega
  have within :
      0 < (hundredthsOf (toFixed2 value) : Int) ∧
        (hundredthsOf (toFixed2 value) : Int) < 10 ^ 18 := by
    rw [named]
    exact ⟨positive, bounded⟩
  refine ⟨accepted, ?_⟩
  rw [readMoney, dif_pos within, if_pos accepted]
  simp only [named]

/-- A text that matches the pattern names fewer hundredths than the column
holds, and is the text of what it names. -/
theorem toFixed2_of_matches {text : String}
    (accepted : matchesMoneyString text) :
    hundredthsOf text < 10 ^ 18 ∧
      toFixed2 (hundredthsOf text : Int) = text := by
  obtain ⟨whole, tens, units, written, wholeDigits, tensDigit, unitsDigit,
    wholeForm⟩ := matchesMoneyString_iff.mp accepted
  have named :=
    hundredthsOf_written wholeDigits tensDigit unitsDigit written
  obtain ⟨tensValue, tensSmall, rfl⟩ := exists_digitChar tensDigit
  obtain ⟨unitsValue, unitsSmall, rfl⟩ := exists_digitChar unitsDigit
  rw [Nat.ofDigitChars_append,
    Nat.ofDigitChars_cons_digitChar_of_lt_ten tensSmall,
    Nat.ofDigitChars_cons_digitChar_of_lt_ten unitsSmall,
    Nat.ofDigitChars_nil] at named
  have wholeText :
      Nat.toDigits 10 (Nat.ofDigitChars 10 whole 0) = whole := by
    rcases wholeForm with rfl | ⟨nonempty, -, noLeadingZero⟩
    · rfl
    · exact toDigits_ofDigitChars nonempty wholeDigits noLeadingZero
  have wholeSmall : Nat.ofDigitChars 10 whole 0 < 10 ^ 16 := by
    apply (Nat.length_toDigits_le_iff (by decide) (by decide)).mp
    rw [wholeText]
    rcases wholeForm with rfl | ⟨-, short, -⟩
    · decide
    · exact short
  have hundreds :
      hundredthsOf text / 100 = Nat.ofDigitChars 10 whole 0 := by
    omega
  have rest :
      hundredthsOf text % 100 = 10 * tensValue + unitsValue := by
    omega
  refine ⟨by omega, ?_⟩
  apply String.toList_inj.mp
  rw [toList_toFixed2_of_nonneg (Int.natCast_nonneg _), Int.natAbs_natCast,
    hundreds, rest, wholeText, written, hundredthDigits]
  have tensPart : (10 * tensValue + unitsValue) / 10 = tensValue := by omega
  have unitsPart : (10 * tensValue + unitsValue) % 10 = unitsValue := by omega
  rw [tensPart, unitsPart]

/-- The schema accepts the text of every amount, as that amount, and no other
value: an accepted amount is shown again as it was sent. -/
theorem money_texts_round_trip (key : String) :
    (∀ amount : MoneyAmount,
      positiveMoneyAmountSchema key (.string (toFixed2 amount.value)) =
        ⟨some amount, []⟩) ∧
      ∀ raw,
        (positiveMoneyAmountSchema key raw).issues = [] →
          ∃ amount : MoneyAmount,
            (positiveMoneyAmountSchema key raw).value = some amount ∧
              raw = .string (toFixed2 amount.value) := by
  constructor
  · intro amount
    obtain ⟨accepted, named⟩ := readMoney_toFixed2 amount
    have positive : 0 < hundredthsOf (toFixed2 amount.value) := by
      by_contra notPositive
      simp [readMoney, Nat.eq_zero_of_not_pos notPositive] at named
    simp [positiveMoneyAmountSchema, failedChecks, accepted, named, positive]
  · intro raw clean
    cases raw with
    | string text =>
        simp only [positiveMoneyAmountSchema, failedChecks] at clean ⊢
        have accepted : matchesMoneyString text := by
          by_contra refused
          simp [refused] at clean
        have positive : 0 < hundredthsOf text := by
          by_contra notPositive
          simp [accepted, notPositive] at clean
        obtain ⟨small, shown⟩ := toFixed2_of_matches accepted
        have within :
            0 < (hundredthsOf text : Int) ∧
              (hundredthsOf text : Int) < 10 ^ 18 := by
          constructor
          · exact_mod_cast positive
          · exact_mod_cast small
        refine ⟨⟨hundredthsOf text, within.1, within.2⟩, ?_, ?_⟩
        · rw [readMoney, dif_pos within, if_pos accepted]
        · rw [shown]
    | _ =>
        exact absurd clean (by simp [positiveMoneyAmountSchema])

end Heritage.Payments
