import Mathlib

/-!
# Rounded sums

Arithmetic that keeps a bounded number of significant digits.  A sum is added
up one amount at a time and rounded after each addition, so it may depend on
the order of the amounts.  It is exact in every order, and for every part of
the amounts, as soon as each part has a sum that needs no rounding.
-/

namespace Heritage.Store

section SignificantDigits

/-- The weight of the last digit kept. -/
def lastDigit (precision value : Nat) : Nat :=
  10 ^ (Nat.log 10 value + 1 - precision)

/-- The nearest multiple of a unit, the larger one on a tie. -/
def roundHalfUp (unit value : Nat) : Nat :=
  (value + unit / 2) / unit * unit

/-- The value rounded to a number of significant digits, ties away from
zero. -/
def toSignificantDigits (precision : Nat) (value : Int) : Int :=
  value.sign *
    roundHalfUp (lastDigit precision value.natAbs) value.natAbs

/-- The value can be written with that many significant digits. -/
def HasSignificantDigits (precision : Nat) (value : Int) : Prop :=
  ∃ coefficient : Int, ∃ exponent : Nat,
    coefficient.natAbs < 10 ^ precision ∧
      value = coefficient * 10 ^ exponent

variable {precision unit : Nat} {value : Int}

theorem lastDigit_pos (precision value : Nat) :
    0 < lastDigit precision value :=
  Nat.pow_pos (by decide)

theorem roundHalfUp_mul (positive : 0 < unit) (count : Nat) :
    roundHalfUp unit (unit * count) = unit * count := by
  have half : unit / 2 < unit := Nat.div_lt_self positive (by decide)
  have quotient : (unit * count + unit / 2) / unit = count := by
    rw [Nat.mul_add_div positive, Nat.div_eq_of_lt half, Nat.add_zero]
  rw [roundHalfUp, quotient, Nat.mul_comm]

/-- A value of so many digits is a multiple of the last digit kept. -/
theorem lastDigit_dvd {coefficient exponent : Nat}
    (small : coefficient < 10 ^ precision)
    (positive : 0 < coefficient) :
    lastDigit precision (coefficient * 10 ^ exponent) ∣
      coefficient * 10 ^ exponent := by
  have nonzero : coefficient * 10 ^ exponent ≠ 0 :=
    Nat.ne_of_gt (Nat.mul_pos positive (Nat.pow_pos (by decide)))
  have bounded :
      coefficient * 10 ^ exponent < 10 ^ (precision + exponent) := by
    rw [pow_add]
    exact Nat.mul_lt_mul_of_pos_right small (Nat.pow_pos (by decide))
  have digits :
      Nat.log 10 (coefficient * 10 ^ exponent) < precision + exponent :=
    Nat.log_lt_of_lt_pow nonzero bounded
  have kept :
      Nat.log 10 (coefficient * 10 ^ exponent) + 1 - precision ≤
        exponent := by
    omega
  exact (pow_dvd_pow 10 kept).mul_left coefficient

/-- A value with few enough digits is not rounded. -/
theorem toSignificantDigits_of_fits
    (fits : HasSignificantDigits precision value) :
    toSignificantDigits precision value = value := by
  obtain ⟨coefficient, exponent, small, rfl⟩ := fits
  by_cases zero : coefficient = 0
  · rw [zero, zero_mul, toSignificantDigits, Int.sign_zero, zero_mul]
  · have size :
        (coefficient * 10 ^ exponent).natAbs =
          coefficient.natAbs * 10 ^ exponent := by
      rw [Int.natAbs_mul, Int.natAbs_pow]
      rfl
    have divides :
        lastDigit precision (coefficient * 10 ^ exponent).natAbs ∣
          (coefficient * 10 ^ exponent).natAbs := by
      rw [size]
      exact lastDigit_dvd small (Int.natAbs_pos.mpr zero)
    have unrounded :
        roundHalfUp
            (lastDigit precision (coefficient * 10 ^ exponent).natAbs)
            (coefficient * 10 ^ exponent).natAbs =
          (coefficient * 10 ^ exponent).natAbs := by
      obtain ⟨count, equality⟩ := divides
      have positive :=
        lastDigit_pos precision (coefficient * 10 ^ exponent).natAbs
      have fixed := roundHalfUp_mul positive count
      rwa [← equality] at fixed
    rw [toSignificantDigits, unrounded, Int.sign_mul_natAbs]

/-- Rounding leaves few enough digits.  A carry out of the first digit gives a
power of ten. -/
theorem toSignificantDigits_fits (positive : 0 < precision) (value : Int) :
    HasSignificantDigits precision (toSignificantDigits precision value) := by
  set unit := lastDigit precision value.natAbs with isUnit
  set count := (value.natAbs + unit / 2) / unit with isCount
  have unitPositive : 0 < unit := lastDigit_pos precision value.natAbs
  have rounded :
      toSignificantDigits precision value =
        value.sign * count * (unit : Int) := by
    rw [toSignificantDigits, roundHalfUp, ← isUnit, ← isCount,
      Nat.cast_mul, mul_assoc]
  have signSmall : value.sign.natAbs ≤ 1 := by
    rw [Int.natAbs_sign]
    split <;> omega
  have bounded : count ≤ 10 ^ precision := by
    have below : value.natAbs < 10 ^ precision * unit := by
      have digits : value.natAbs < 10 ^ (Nat.log 10 value.natAbs + 1) :=
        Nat.lt_pow_succ_log_self (by decide) value.natAbs
      apply digits.trans_le
      rw [isUnit, lastDigit, ← pow_add]
      apply Nat.pow_le_pow_right (by decide)
      omega
    have half : unit / 2 < unit := Nat.div_lt_self unitPositive (by decide)
    have total : value.natAbs + unit / 2 < (10 ^ precision + 1) * unit := by
      rw [Nat.add_mul, Nat.one_mul]
      omega
    exact Nat.lt_succ_iff.mp ((Nat.div_lt_iff_lt_mul unitPositive).mpr total)
  have unitPower :
      (unit : Int) =
        10 ^ (Nat.log 10 value.natAbs + 1 - precision) := by
    rw [isUnit, lastDigit]
    push_cast
    rfl
  rcases bounded.lt_or_eq with small | carried
  · refine
      ⟨value.sign * count, Nat.log 10 value.natAbs + 1 - precision, ?_, ?_⟩
    · rw [Int.natAbs_mul, Int.natAbs_natCast]
      have scaled : value.sign.natAbs * count ≤ 1 * count :=
        Nat.mul_le_mul_right count signSmall
      omega
    · rw [rounded, unitPower]
  · refine
      ⟨value.sign,
        precision + (Nat.log 10 value.natAbs + 1 - precision), ?_, ?_⟩
    · have large : 1 < 10 ^ precision :=
        Nat.one_lt_pow positive.ne' (by decide)
      omega
    · rw [rounded, unitPower, carried, pow_add, mul_assoc]
      push_cast
      rfl

theorem toSignificantDigits_eq_self_iff (positive : 0 < precision) :
    toSignificantDigits precision value = value ↔
      HasSignificantDigits precision value := by
  constructor
  · intro unrounded
    have fits := toSignificantDigits_fits positive value
    rwa [unrounded] at fits
  · exact toSignificantDigits_of_fits

theorem toSignificantDigits_idem (positive : 0 < precision) (value : Int) :
    toSignificantDigits precision (toSignificantDigits precision value) =
      toSignificantDigits precision value :=
  toSignificantDigits_of_fits (toSignificantDigits_fits positive value)

/-- A value below the first power of ten with too many digits fits. -/
theorem hasSignificantDigits_of_le (bounded : value.natAbs ≤ 10 ^ precision)
    (positive : 0 < precision) : HasSignificantDigits precision value := by
  rcases bounded.lt_or_eq with small | largest
  · exact ⟨value, 0, small, by rw [pow_zero, mul_one]⟩
  · refine ⟨value.sign, precision, ?_, ?_⟩
    · have large : 1 < 10 ^ precision :=
        Nat.one_lt_pow positive.ne' (by decide)
      have signSmall : value.sign.natAbs ≤ 1 := by
        rw [Int.natAbs_sign]
        split <;> omega
      omega
    · have size := Int.sign_mul_natAbs value
      rw [largest] at size
      push_cast at size
      exact size.symm

end SignificantDigits

section RoundedSums

universe u

/-- The amounts are added to a total one by one, each total rounded. -/
def roundedSum {M : Type u} [Add M] (round : M → M) (total : M)
    (amounts : List M) : M :=
  amounts.foldl (fun total amount => round (total + amount)) total

/-- What the roundings of the totals add up to. -/
def roundingErrors {M : Type u} [AddCommGroup M] (round : M → M) :
    M → List M → M
  | _, [] => 0
  | total, amount :: rest =>
      (round (total + amount) - (total + amount)) +
        roundingErrors round (round (total + amount)) rest

theorem roundedSum_eq_add_errors {M : Type u} [AddCommGroup M]
    (round : M → M) (total : M) (amounts : List M) :
    roundedSum round total amounts =
      total + amounts.sum + roundingErrors round total amounts := by
  induction amounts generalizing total with
  | nil =>
      simp only [roundedSum, roundingErrors, List.foldl_nil, List.sum_nil,
        add_zero]
  | cons amount rest inductionHypothesis =>
      have step :
          roundedSum round total (amount :: rest) =
            roundedSum round (round (total + amount)) rest :=
        rfl
      rw [step, inductionHypothesis, roundingErrors, List.sum_cons]
      abel

/-- The sum is exact when the roundings cancel. -/
theorem roundedSum_eq_sum_iff {M : Type u} [AddCommGroup M]
    {round : M → M} {amounts : List M} :
    roundedSum round 0 amounts = amounts.sum ↔
      roundingErrors round 0 amounts = 0 := by
  rw [roundedSum_eq_add_errors, zero_add, add_eq_left]

variable {M : Type u} [AddCommMonoid M] {round : M → M}
variable {amounts : List M}

theorem roundedSum_append_singleton (total : M) (amounts : List M)
    (last : M) :
    roundedSum round total (amounts ++ [last]) =
      round (roundedSum round total amounts + last) := by
  rw [roundedSum, List.foldl_append]
  rfl

/-- A sum whose parts need no rounding is exact.  The induction adds the last
amount to the exact sum of those before it. -/
theorem roundedSum_eq_sum_of_parts
    (unrounded :
      ∀ part : List M, part.Sublist amounts → round part.sum = part.sum) :
    roundedSum round 0 amounts = amounts.sum := by
  induction amounts using List.reverseRecOn with
  | nil =>
      rfl
  | append_singleton front last inductionHypothesis =>
      have frontExact : roundedSum round 0 front = front.sum := by
        apply inductionHypothesis
        intro part isPart
        exact unrounded part (isPart.trans (List.sublist_append_left _ _))
      have whole := unrounded (front ++ [last]) (List.Sublist.refl _)
      rw [List.sum_append, List.sum_singleton] at whole
      rw [roundedSum_append_singleton, frontExact, whole, List.sum_append,
        List.sum_singleton]

/-- Every total but the first has been rounded. -/
theorem round_roundedSum
    (idempotent : ∀ value, round (round value) = round value)
    (nonempty : amounts ≠ []) :
    round (roundedSum round 0 amounts) = roundedSum round 0 amounts := by
  obtain ⟨front, last, rfl⟩ :=
    (List.eq_nil_or_concat' amounts).resolve_left nonempty
  rw [roundedSum_append_singleton, idempotent]

/-- Every part of the amounts is added up exactly if and only if the sum of
every part needs no rounding. -/
theorem roundedSum_parts_iff
    (idempotent : ∀ value, round (round value) = round value)
    (zero : round 0 = 0) :
    (∀ part : List M, part.Sublist amounts →
        roundedSum round 0 part = part.sum) ↔
      ∀ part : List M, part.Sublist amounts → round part.sum = part.sum := by
  constructor
  · intro added part isPart
    by_cases empty : part = []
    · rw [empty, List.sum_nil, zero]
    · have rounded := round_roundedSum idempotent empty
      rwa [added part isPart] at rounded
  · intro unrounded part isPart
    apply roundedSum_eq_sum_of_parts
    intro smaller isSmaller
    exact unrounded smaller (isSmaller.trans isPart)

/-- The parts of a list have the sums that the parts of a reordering have. -/
theorem forall_parts_of_perm {other : List M} {fits : M → Prop}
    (reordered : other.Perm amounts)
    (partsFit : ∀ part : List M, part.Sublist amounts → fits part.sum) :
    ∀ part : List M, part.Sublist other → fits part.sum := by
  intro part isPart
  obtain ⟨same, samePart, isSublist⟩ := isPart.subperm.trans reordered.subperm
  have sameSum : part.sum = same.sum := samePart.symm.sum_eq
  rw [sameSum]
  exact partsFit same isSublist

end RoundedSums

end Heritage.Store
