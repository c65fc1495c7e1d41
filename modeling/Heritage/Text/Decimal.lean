import Heritage.Text.Runs

/-!
# Decimal texts

The exact value of a text of digits with a point and an optional minus sign.
-/

namespace Heritage.Text

/-- The number with these digits before and after the point. -/
def decimalValue (whole fraction : List Char) : ℚ :=
  (Nat.ofDigitChars 10 (whole ++ fraction) 0 : ℚ) / 10 ^ fraction.length

/-- The value of digits with a point among them. -/
def readUnsigned (letters : List Char) : Option ℚ :=
  let whole := letters.takeWhile Char.isDigit
  match letters.dropWhile Char.isDigit with
  | '.' :: fraction =>
      if whole ≠ [] ∧ fraction ≠ [] ∧ fraction.all Char.isDigit then
        some (decimalValue whole fraction)
      else
        none
  | _ => none

def readDecimal : List Char → Option ℚ
  | '-' :: letters => (readUnsigned letters).map fun value => -value
  | letters => readUnsigned letters

variable {whole fraction : List Char}

theorem readUnsigned_digits (wholeDigits : ∀ letter ∈ whole, letter.isDigit)
    (fractionDigits : ∀ letter ∈ fraction, letter.isDigit)
    (wholeNonempty : whole ≠ []) (fractionNonempty : fraction ≠ []) :
    readUnsigned (whole ++ '.' :: fraction) =
      some (decimalValue whole fraction) := by
  have stop :
      ∀ letter ∈ ('.' :: fraction).head?, ¬ Char.isDigit letter := by
    rintro letter ⟨rfl⟩
    decide
  have allDigits : fraction.all Char.isDigit :=
    List.all_eq_true.mpr fractionDigits
  rw [readUnsigned, takeWhile_append_of_head wholeDigits stop,
    dropWhile_append_of_head wholeDigits stop]
  exact if_pos ⟨wholeNonempty, fractionNonempty, allDigits⟩

/-- A number that starts with a digit has no sign. -/
theorem readDecimal_of_digit {letters : List Char}
    (digit : ∀ letter ∈ letters.head?, letter.isDigit) :
    readDecimal letters = readUnsigned letters := by
  cases letters with
  | nil =>
      rfl
  | cons letter rest =>
      have isDigit : letter.isDigit := digit letter rfl
      have notSign : letter ≠ '-' := by
        rintro rfl
        revert isDigit
        decide
      unfold readDecimal
      split
      · rename_i same
        exact absurd (List.cons.inj same).1 notSign
      · rfl

theorem readDecimal_digits (wholeDigits : ∀ letter ∈ whole, letter.isDigit)
    (fractionDigits : ∀ letter ∈ fraction, letter.isDigit)
    (wholeNonempty : whole ≠ []) (fractionNonempty : fraction ≠ []) :
    readDecimal (whole ++ '.' :: fraction) =
      some (decimalValue whole fraction) := by
  rw [readDecimal_of_digit, readUnsigned_digits wholeDigits fractionDigits
    wholeNonempty fractionNonempty]
  intro letter atHead
  rw [List.head?_append_of_ne_nil _ wholeNonempty] at atHead
  exact wholeDigits letter (List.mem_of_head? atHead)

theorem readDecimal_minus (letters : List Char) :
    readDecimal ('-' :: letters) =
      (readUnsigned letters).map fun value => -value :=
  rfl

theorem exists_digitChar {letter : Char} (isDigit : letter.isDigit) :
    ∃ value, value < 10 ∧ Nat.digitChar value = letter := by
  obtain ⟨atLeast, atMost⟩ := Char.isDigit_iff_toNat.mp isDigit
  have zero : '0'.toNat = 48 := rfl
  have nine : '9'.toNat = 57 := rfl
  have small : letter.toNat - 48 < 10 := by omega
  have each : ∀ value < 10, (Nat.digitChar value).toNat = 48 + value := by
    decide
  refine ⟨letter.toNat - 48, small, ?_⟩
  apply Char.toNat_inj.mp
  rw [each _ small]
  omega

/-- A positive number is written without a leading zero. -/
theorem head_toDigits_ne_zero {number : Nat} (positive : 0 < number) :
    (Nat.toDigits 10 number).head? ≠ some '0' := by
  induction number using Nat.base_induction 10 (by decide) with
  | single digit small =>
      rw [Nat.toDigits_of_lt_base small]
      revert positive
      revert digit
      decide
  | digit earlier last small earlierPositive inductionHypothesis =>
      rw [← Nat.toDigits_append_toDigits (by decide) earlierPositive small,
        List.head?_append_of_ne_nil _ Nat.toDigits_ne_nil]
      exact inductionHypothesis earlierPositive

/-- Digits without a leading zero name a positive number. -/
theorem ofDigitChars_pos {digits : List Char} (nonempty : digits ≠ [])
    (areDigits : ∀ digit ∈ digits, digit.isDigit)
    (noLeadingZero : digits.head? ≠ some '0') :
    0 < Nat.ofDigitChars 10 digits 0 := by
  cases digits with
  | nil =>
      exact absurd rfl nonempty
  | cons head tail =>
      obtain ⟨value, small, rfl⟩ :=
        exists_digitChar (areDigits _ List.mem_cons_self)
      have positive : 0 < value := by
        by_contra isZero
        obtain rfl : value = 0 := by omega
        exact noLeadingZero rfl
      rw [Nat.ofDigitChars_cons_digitChar_of_lt_ten small,
        Nat.ofDigitChars_eq_ofDigitChars_zero]
      have leading : 0 < 10 ^ tail.length * (10 * 0 + value) := by
        positivity
      omega

/-- Digits without a leading zero are the text of the number they name. -/
theorem toDigits_ofDigitChars {digits : List Char} (nonempty : digits ≠ [])
    (areDigits : ∀ digit ∈ digits, digit.isDigit)
    (noLeadingZero : digits.head? ≠ some '0') :
    Nat.toDigits 10 (Nat.ofDigitChars 10 digits 0) = digits := by
  induction digits using List.reverseRecOn with
  | nil =>
      exact absurd rfl nonempty
  | append_singleton earlier last inductionHypothesis =>
      have lastDigit : last.isDigit :=
        areDigits last (List.mem_append_right _ (List.mem_singleton_self last))
      obtain ⟨value, small, rfl⟩ := exists_digitChar lastDigit
      have lastText : Nat.toDigits 10 value = [Nat.digitChar value] :=
        Nat.toDigits_of_lt_base small
      rw [Nat.ofDigitChars_append,
        Nat.ofDigitChars_cons_digitChar_of_lt_ten small, Nat.ofDigitChars_nil]
      by_cases first : earlier = []
      · rw [first, Nat.ofDigitChars_nil, Nat.mul_zero, Nat.zero_add, lastText]
        rfl
      · have earlierDigits : ∀ digit ∈ earlier, digit.isDigit :=
          fun digit member => areDigits digit (List.mem_append_left _ member)
        rw [List.head?_append_of_ne_nil _ first] at noLeadingZero
        rw [← Nat.toDigits_append_toDigits (by decide)
            (ofDigitChars_pos first earlierDigits noLeadingZero) small,
          inductionHypothesis first earlierDigits noLeadingZero, lastText]

end Heritage.Text
