import Mathlib

/-!
# Fixed-width decimals

`pad width number` writes a number with leading zeros, `readDigits` reads a
fixed number of digits, and on numbers of one width the order of the texts is
the order of the numbers.
-/

namespace Heritage.Calendar

/-- The last `width` decimal digits of `number`. -/
def pad : Nat → Nat → List Char
  | 0, _ => []
  | width + 1, number =>
      pad width (number / 10) ++ [Nat.digitChar (number % 10)]

def digitValue (letter : Char) : Option Nat :=
  if letter.isDigit then some (letter.toNat - 48) else none

/-- Reads exactly `width` digits after those that made `value`. -/
def readDigits : Nat → Nat → List Char → Option (Nat × List Char)
  | 0, value, rest => some (value, rest)
  | _ + 1, _, [] => none
  | width + 1, value, letter :: rest =>
      match digitValue letter with
      | none => none
      | some digit => readDigits width (10 * value + digit) rest

@[simp]
theorem length_pad (width number : Nat) : (pad width number).length = width := by
  induction width generalizing number with
  | zero =>
      rfl
  | succ width inductionHypothesis =>
      simp [pad, inductionHypothesis]

theorem digitValue_digitChar {digit : Nat} (small : digit < 10) :
    digitValue (Nat.digitChar digit) = some digit := by
  have each : ∀ digit < 10, digitValue (Nat.digitChar digit) = some digit := by
    decide
  exact each digit small

theorem toNat_digitChar {digit : Nat} (small : digit < 10) :
    (Nat.digitChar digit).toNat = 48 + digit := by
  have each : ∀ digit < 10, (Nat.digitChar digit).toNat = 48 + digit := by
    decide
  exact each digit small

/-- Reading two runs of digits is reading one after the other. -/
theorem readDigits_add (first second value : Nat) (letters : List Char) :
    readDigits (first + second) value letters =
      (readDigits first value letters).bind fun read =>
        readDigits second read.1 read.2 := by
  induction first generalizing value letters with
  | zero =>
      rw [zero_add]
      rfl
  | succ first inductionHypothesis =>
      rw [Nat.succ_add]
      cases letters with
      | nil =>
          rfl
      | cons letter rest =>
          simp only [readDigits]
          cases digitValue letter with
          | none =>
              rfl
          | some digit =>
              exact inductionHypothesis (10 * value + digit) rest

theorem readDigits_pad {width number : Nat} (small : number < 10 ^ width)
    (value : Nat) (rest : List Char) :
    readDigits width value (pad width number ++ rest) =
      some (value * 10 ^ width + number, rest) := by
  induction width generalizing number value rest with
  | zero =>
      obtain rfl : number = 0 := by simpa using small
      simp [readDigits, pad]
  | succ width inductionHypothesis =>
      have smaller : number / 10 < 10 ^ width := by
        rw [pow_succ] at small
        omega
      have lastDigit :
          digitValue (Nat.digitChar (number % 10)) = some (number % 10) :=
        digitValue_digitChar (Nat.mod_lt _ (by decide))
      rw [readDigits_add, pad, List.append_assoc,
        inductionHypothesis smaller value]
      simp only [Option.bind_some, List.cons_append, List.nil_append,
        readDigits, lastDigit, Option.some.injEq, Prod.mk.injEq, and_true]
      rw [pow_succ, mul_add, ← mul_assoc, mul_comm 10 value, mul_assoc value,
        mul_comm 10 (10 ^ width), add_assoc]
      congr 1
      omega

theorem isDigit_of_mem_pad {width number : Nat} {letter : Char}
    (member : letter ∈ pad width number) : letter.isDigit := by
  induction width generalizing number with
  | zero =>
      cases member
  | succ width inductionHypothesis =>
      rcases List.mem_append.mp member with earlier | last
      · exact inductionHypothesis earlier
      · have value := digitValue_digitChar (Nat.mod_lt number (by decide : 0 < 10))
        rw [List.mem_singleton.mp last]
        unfold digitValue at value
        split at value
        · assumption
        · cases value

/-- A number starts with a digit. -/
theorem head_pad_ne {width number : Nat} {rest : List Char} {letter : Char}
    (notDigit : ¬ letter.isDigit) (positive : 0 < width) :
    (pad width number ++ rest).head? ≠ some letter := by
  intro atHead
  have nonempty : pad width number ≠ [] := by
    intro isEmpty
    have noLength := length_pad width number
    rw [isEmpty] at noLength
    exact positive.ne noLength
  rw [List.head?_append_of_ne_nil _ nonempty] at atHead
  exact notDigit (isDigit_of_mem_pad (List.mem_of_head? atHead))

theorem toDigits_eq_pad {width number : Nat}
    (small : number < 10 ^ (width + 1))
    (filled : width = 0 ∨ 10 ^ width ≤ number) :
    Nat.toDigits 10 number = pad (width + 1) number := by
  induction width generalizing number with
  | zero =>
      have oneDigit : number < 10 := by omega
      rw [Nat.toDigits_of_lt_base oneDigit]
      simp [pad, Nat.mod_eq_of_lt oneDigit]
  | succ width inductionHypothesis =>
      have enough : 10 ^ (width + 1) ≤ number := by
        rcases filled with none | enough
        · cases none
        · exact enough
      rw [pow_succ] at small enough
      have positive : 0 < 10 ^ width := Nat.pow_pos (by decide)
      have tenOrMore : 10 ≤ number := by omega
      rw [Nat.toDigits_of_base_le (by decide) tenOrMore,
        inductionHypothesis (by rw [pow_succ]; omega) (Or.inr (by omega))]
      rfl

/-- A number fills its width exactly when it has no leading zero there. -/
theorem toDigits_eq_pad_iff {width number : Nat} (positive : 0 < width)
    (small : number < 10 ^ (width + 1)) :
    Nat.toDigits 10 number = pad (width + 1) number ↔ 10 ^ width ≤ number := by
  constructor
  · intro same
    by_contra short
    have fewDigits :=
      (Nat.length_toDigits_le_iff (by decide : 1 < 10) positive).mpr
        (not_le.mp short)
    rw [same, length_pad] at fewDigits
    omega
  · intro filled
    exact toDigits_eq_pad small (Or.inr filled)

/-- The UTF-16 code units of a text. -/
def codeUnits (text : List Char) : List Nat :=
  text.flatMap fun letter =>
    if letter.toNat < 0x10000 then
      [letter.toNat]
    else
      [0xD800 + (letter.toNat - 0x10000) / 0x400,
        0xDC00 + (letter.toNat - 0x10000) % 0x400]

@[simp]
theorem codeUnits_append (first second : List Char) :
    codeUnits (first ++ second) = codeUnits first ++ codeUnits second := by
  simp [codeUnits]

theorem codeUnits_digitChar {digit : Nat} (small : digit < 10) :
    codeUnits [Nat.digitChar digit] = [48 + digit] := by
  simp only [codeUnits, List.flatMap_cons, List.flatMap_nil, List.append_nil,
    toNat_digitChar small]
  rw [if_pos (by omega)]

/-- Texts of equal length are compared at the first part that differs. -/
theorem append_lt_append_iff {first other rest otherRest : List Nat}
    (sameLength : first.length = other.length) :
    first ++ rest < other ++ otherRest ↔
      first < other ∨ first = other ∧ rest < otherRest := by
  induction first generalizing other with
  | nil =>
      obtain rfl : other = [] := List.length_eq_zero_iff.mp sameLength.symm
      simp
  | cons head tail inductionHypothesis =>
      cases other with
      | nil =>
          cases sameLength
      | cons otherHead otherTail =>
          have sameTail : tail.length = otherTail.length :=
            Nat.succ.inj sameLength
          simp only [List.cons_append, List.cons_lt_cons_iff,
            inductionHypothesis sameTail, List.cons.injEq]
          tauto

theorem length_codeUnits_pad (width number : Nat) :
    (codeUnits (pad width number)).length = width := by
  induction width generalizing number with
  | zero =>
      rfl
  | succ width inductionHypothesis =>
      rw [pad, codeUnits_append, List.length_append, inductionHypothesis,
        codeUnits_digitChar (Nat.mod_lt _ (by decide))]
      rfl

theorem codeUnits_pad_inj {width left right : Nat}
    (leftSmall : left < 10 ^ width) (rightSmall : right < 10 ^ width) :
    codeUnits (pad width left) = codeUnits (pad width right) ↔
      left = right := by
  induction width generalizing left right with
  | zero =>
      obtain rfl : left = 0 := by simpa using leftSmall
      obtain rfl : right = 0 := by simpa using rightSmall
      simp
  | succ width inductionHypothesis =>
      rw [pow_succ] at leftSmall rightSmall
      have leftTail : left / 10 < 10 ^ width := by omega
      have rightTail : right / 10 < 10 ^ width := by omega
      rw [pad, pad, codeUnits_append, codeUnits_append,
        codeUnits_digitChar (Nat.mod_lt _ (by decide)),
        codeUnits_digitChar (Nat.mod_lt _ (by decide))]
      constructor
      · intro same
        obtain ⟨samePrefix, sameLast⟩ := List.append_inj' same rfl
        have samePart := (inductionHypothesis leftTail rightTail).mp samePrefix
        simp only [List.cons.injEq, and_true] at sameLast
        omega
      · rintro rfl
        rfl

/-- On one width the texts are ordered as the numbers. -/
theorem codeUnits_pad_lt_iff {width left right : Nat}
    (leftSmall : left < 10 ^ width) (rightSmall : right < 10 ^ width) :
    codeUnits (pad width left) < codeUnits (pad width right) ↔
      left < right := by
  induction width generalizing left right with
  | zero =>
      obtain rfl : left = 0 := by simpa using leftSmall
      obtain rfl : right = 0 := by simpa using rightSmall
      simp
  | succ width inductionHypothesis =>
      rw [pow_succ] at leftSmall rightSmall
      have leftTail : left / 10 < 10 ^ width := by omega
      have rightTail : right / 10 < 10 ^ width := by omega
      have sameLength :
          (codeUnits (pad width (left / 10))).length =
            (codeUnits (pad width (right / 10))).length := by
        rw [length_codeUnits_pad, length_codeUnits_pad]
      rw [pad, pad, codeUnits_append, codeUnits_append,
        codeUnits_digitChar (Nat.mod_lt _ (by decide)),
        codeUnits_digitChar (Nat.mod_lt _ (by decide)),
        append_lt_append_iff sameLength,
        inductionHypothesis leftTail rightTail,
        codeUnits_pad_inj leftTail rightTail]
      simp only [List.cons_lt_cons_iff, List.not_lt_nil, and_false, or_false]
      omega

end Heritage.Calendar
