import Heritage.Text.Decimal
import Heritage.Exports.Rows

/-!
# Amounts in cells

A cell that shows an amount is a decimal text.  The total of a column is the
exact sum of what its cells show.
-/

namespace Heritage.Exports

open Heritage.Text Heritage.Payments

/-- The two digits after the point. -/
def hundredthDigits (hundredths : Nat) : List Char :=
  [Nat.digitChar (hundredths / 10), Nat.digitChar (hundredths % 10)]

theorem toList_padded {hundredths : Nat} (small : hundredths < 100) :
    (if (toString hundredths).length < 2 then
        "0" ++ toString hundredths
      else
        toString hundredths).toList =
      hundredthDigits hundredths := by
  have digits :
      (toString hundredths).toList = Nat.toDigits 10 hundredths :=
    Nat.toList_repr
  have letters :
      (toString hundredths).length = (Nat.toDigits 10 hundredths).length := by
    rw [← digits, String.length_toList]
  unfold hundredthDigits
  rw [letters]
  by_cases oneDigit : hundredths < 10
  · have tens : hundredths / 10 = 0 := by omega
    have units : hundredths % 10 = hundredths := by omega
    rw [Nat.toDigits_of_lt_base oneDigit, tens, units, if_pos (by simp),
      String.toList_append, digits, Nat.toDigits_of_lt_base oneDigit]
    rfl
  · have tens : hundredths / 10 < 10 := by omega
    rw [Nat.toDigits_of_base_le (by decide) (not_lt.mp oneDigit),
      Nat.toDigits_of_lt_base tens, if_neg (by simp), digits,
      Nat.toDigits_of_base_le (by decide) (not_lt.mp oneDigit),
      Nat.toDigits_of_lt_base tens]
    rfl

theorem toList_toFixed2 (amount : Int) :
    (toFixed2 amount).toList =
      (if amount < 0 then ['-'] else []) ++
        (Nat.toDigits 10 (amount.natAbs / 100) ++
          '.' :: hundredthDigits (amount.natAbs % 100)) := by
  have small : amount.natAbs % 100 < 100 := Nat.mod_lt _ (by decide)
  have sign :
      (if amount < 0 then "-" else "").toList =
        if amount < 0 then ['-'] else [] := by
    split <;> rfl
  have whole :
      (toString (amount.natAbs / 100)).toList =
        Nat.toDigits 10 (amount.natAbs / 100) :=
    Nat.toList_repr
  unfold toFixed2
  simp only [String.toList_append, toList_padded small, sign, whole,
    List.append_assoc]
  rfl

theorem decimalValue_hundredths (number : Nat) :
    decimalValue (Nat.toDigits 10 (number / 100))
        (hundredthDigits (number % 100)) =
      (number : ℚ) / 100 := by
  have tens : number % 100 / 10 < 10 := by omega
  have units : number % 100 % 10 < 10 := by omega
  have digits :
      10 * (10 * (number / 100) + number % 100 / 10) + number % 100 % 10 =
        number := by
    omega
  unfold decimalValue hundredthDigits
  rw [Nat.ofDigitChars_append, Nat.ofDigitChars_ten_toDigits,
    Nat.ofDigitChars_cons_digitChar_of_lt_ten tens,
    Nat.ofDigitChars_cons_digitChar_of_lt_ten units, Nat.ofDigitChars_nil,
    digits]
  norm_num

theorem isDigit_of_mem_hundredthDigits {hundredths : Nat}
    (small : hundredths < 100) :
    ∀ letter ∈ hundredthDigits hundredths, letter.isDigit := by
  have each : ∀ digit < 10, (Nat.digitChar digit).isDigit := by
    decide
  intro letter member
  rcases List.mem_pair.mp member with rfl | rfl
  · exact each _ (by omega)
  · exact each _ (Nat.mod_lt _ (by decide))

/-- An amount in a cell is read as itself. -/
theorem readDecimal_formatAmount (amount : Int) :
    readDecimal (formatAmount amount).toList = some ((amount : ℚ) / 100) := by
  have wholeDigits :
      ∀ letter ∈ Nat.toDigits 10 (amount.natAbs / 100), letter.isDigit :=
    fun _ member => Nat.isDigit_of_mem_toDigits (by decide) (by decide) member
  have fractionDigits :=
    isDigit_of_mem_hundredthDigits
      (Nat.mod_lt amount.natAbs (by decide : 0 < 100))
  have wholeNonempty : Nat.toDigits 10 (amount.natAbs / 100) ≠ [] :=
    Nat.toDigits_ne_nil
  have fractionNonempty : hundredthDigits (amount.natAbs % 100) ≠ [] :=
    List.cons_ne_nil _ _
  rw [formatAmount, toList_toFixed2]
  by_cases negative : amount < 0
  · have absolute : ((amount.natAbs : Int) : ℚ) = -(amount : ℚ) := by
      have same : (amount.natAbs : Int) = -amount := by omega
      rw [same, Int.cast_neg]
    rw [if_pos negative, List.singleton_append, readDecimal_minus,
      readUnsigned_digits wholeDigits fractionDigits wholeNonempty
        fractionNonempty,
      decimalValue_hundredths, Option.map_some, ← Int.cast_natCast, absolute]
    congr 1
    ring
  · have absolute : ((amount.natAbs : Int) : ℚ) = (amount : ℚ) := by
      have same : (amount.natAbs : Int) = amount := by omega
      rw [same]
    rw [if_neg negative, List.nil_append,
      readDecimal_digits wholeDigits fractionDigits wholeNonempty
        fractionNonempty,
      decimalValue_hundredths, ← Int.cast_natCast, absolute]

/-- What a row shows in a column, as an exact decimal. -/
def cellAmount (dataset : FinanceExportDataset) (column : String)
    (row : List String) : Option ℚ :=
  row[(financeExportColumns dataset).idxOf column]?.bind fun cell =>
    readDecimal cell.toList

/-- The exact sum of a column. -/
def columnTotal (dataset : FinanceExportDataset) (column : String)
    (rows : List (List String)) : Option ℚ :=
  (rows.mapM (cellAmount dataset column)).map List.sum

/-- A cell shows an amount of hundredths. -/
def ShowsAmount (dataset : FinanceExportDataset) (column : String)
    (row : List String) (amount : Int) : Prop :=
  cellAmount dataset column row = some ((amount : ℚ) / 100)

variable {dataset : FinanceExportDataset} {column : String}

theorem showsAmount_of_cell {row : List String} {amount : Int} (index : Nat)
    (placed : (financeExportColumns dataset).idxOf column = index)
    (shown : row[index]? = some (formatAmount amount)) :
    ShowsAmount dataset column row amount := by
  rw [ShowsAmount, cellAmount, placed, shown, Option.bind_some,
    readDecimal_formatAmount]

/-- A column of amounts adds up to their sum. -/
theorem columnTotal_of_shown {ρ : Type} {records : List ρ}
    {rows : List (List String)} {weight : ρ → Int}
    (shown :
      List.Forall₂
        (fun record row => ShowsAmount dataset column row (weight record))
        records rows) :
    columnTotal dataset column rows =
      some (((records.map weight).sum : Int) / 100 : ℚ) := by
  have read :
      rows.mapM (cellAmount dataset column) =
        some (records.map fun record => (weight record : ℚ) / 100) := by
    induction shown with
    | nil =>
        rfl
    | cons first _ inductionHypothesis =>
        rw [List.mapM_cons, first, inductionHypothesis]
        rfl
  have total :
      (records.map fun record => (weight record : ℚ) / 100).sum =
        (((records.map weight).sum : Int) : ℚ) / 100 := by
    clear shown read
    induction records with
    | nil =>
        simp
    | cons head tail inductionHypothesis =>
        rw [List.map_cons, List.sum_cons, inductionHypothesis, List.map_cons,
          List.sum_cons, Int.cast_add, add_div]
  rw [columnTotal, read, Option.map_some, total]

end Heritage.Exports
