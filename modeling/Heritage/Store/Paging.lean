import Mathlib

/-!
# Pages of an ordered list

A list is ordered by an instant, the latest row first, with a key that decides
between rows of one instant.  A page is a stretch of the ordered list; the
pages of any one size cover it.
-/

namespace Heritage.Store

universe u v w

variable {ρ : Type u}

section Order

variable {τ : Type v} {κ : Type w} [LinearOrder τ] [LinearOrder κ]

/-- The latest row first; of two rows of one instant that with the larger
key. -/
def latestFirst (instant : ρ → τ) (key : ρ → κ) (rows : List ρ) : List ρ :=
  rows.mergeSort fun first second =>
    instant second < instant first ∨
      instant first = instant second ∧ key second ≤ key first

/-- The earliest row first; of two rows of one instant that with the smaller
key. -/
def earliestFirst (instant : ρ → τ) (key : ρ → κ) (rows : List ρ) : List ρ :=
  rows.mergeSort fun first second =>
    instant first < instant second ∨
      instant first = instant second ∧ key first ≤ key second

/-- The latest row first; of two rows of one instant that with the smaller
key. -/
def newestFirst (instant : ρ → τ) (key : ρ → κ) (rows : List ρ) : List ρ :=
  rows.mergeSort fun first second =>
    instant second < instant first ∨
      instant first = instant second ∧ key first ≤ key second

theorem newestFirst_perm (instant : ρ → τ) (key : ρ → κ) (rows : List ρ) :
    (newestFirst instant key rows).Perm rows :=
  List.mergeSort_perm rows _

/-- In that order no row comes before a newer one. -/
theorem newestFirst_pairwise (instant : ρ → τ) (key : ρ → κ)
    (rows : List ρ) :
    (newestFirst instant key rows).Pairwise fun first second =>
      instant second < instant first ∨
        instant first = instant second ∧ key first ≤ key second := by
  have sorted :=
    @List.pairwise_mergeSort ρ
      (fun first second =>
        decide
          (instant second < instant first ∨
            instant first = instant second ∧ key first ≤ key second))
      ?_ ?_ rows
  · exact sorted.imp fun ordered => of_decide_eq_true ordered
  · intro first second third firstOrdered secondOrdered
    simp only [decide_eq_true_eq] at firstOrdered secondOrdered ⊢
    rcases firstOrdered with later | ⟨same, smaller⟩
    · rcases secondOrdered with still | ⟨same, -⟩
      · exact Or.inl (still.trans later)
      · exact Or.inl (same ▸ later)
    · rcases secondOrdered with later | ⟨still, smallest⟩
      · exact Or.inl (same ▸ later)
      · exact Or.inr ⟨same.trans still, smaller.trans smallest⟩
  · intro first second
    simp only [Bool.or_eq_true, decide_eq_true_eq]
    rcases lt_trichotomy (instant first) (instant second) with
      earlier | same | later
    · exact Or.inr (Or.inl earlier)
    · rcases le_total (key first) (key second) with smaller | larger
      · exact Or.inl (Or.inr ⟨same, smaller⟩)
      · exact Or.inr (Or.inr ⟨same.symm, larger⟩)
    · exact Or.inl (Or.inl later)

@[simp]
theorem mem_latestFirst {instant : ρ → τ} {key : ρ → κ} {rows : List ρ}
    {row : ρ} : row ∈ latestFirst instant key rows ↔ row ∈ rows :=
  List.mem_mergeSort

end Order

/-- The page with this number, counted from one. -/
def pageOf (number size : Nat) (rows : List ρ) : List ρ :=
  (rows.drop ((number - 1) * size)).take size

/-- What is on a page is in the list. -/
theorem mem_of_mem_pageOf {number size : Nat} {rows : List ρ} {row : ρ}
    (listed : row ∈ pageOf number size rows) : row ∈ rows :=
  List.mem_of_mem_drop (List.mem_of_mem_take listed)

/-- The pages of one size cover the list. -/
theorem mem_iff_exists_page {size : Nat} (positive : 0 < size)
    {rows : List ρ} {row : ρ} :
    row ∈ rows ↔ ∃ number, 1 ≤ number ∧ row ∈ pageOf number size rows := by
  constructor
  · intro member
    obtain ⟨index, within, rfl⟩ := List.getElem_of_mem member
    refine ⟨index / size + 1, Nat.le_add_left 1 _, ?_⟩
    have atPage : index / size * size + index % size = index :=
      Nat.div_add_mod' index size
    have onPage : index % size < size := Nat.mod_lt index positive
    have found :
        (pageOf (index / size + 1) size rows)[index % size]? =
          some rows[index] := by
      unfold pageOf
      rw [Nat.add_sub_cancel, List.getElem?_take, if_pos onPage,
        List.getElem?_drop, atPage]
      exact List.getElem?_eq_getElem within
    exact List.mem_of_getElem? found
  · rintro ⟨number, -, listed⟩
    exact mem_of_mem_pageOf listed

/-- The first pages, one after the other, are a start of the list. -/
theorem flatMap_pageOf (count size : Nat) (rows : List ρ) :
    ((List.range count).flatMap fun index => pageOf (index + 1) size rows) =
      rows.take (count * size) := by
  induction count with
  | zero =>
      simp
  | succ count inductionHypothesis =>
      rw [List.range_succ, List.flatMap_append, inductionHypothesis,
        Nat.succ_mul, List.take_add]
      simp [pageOf]

/-- The number of the last page; an empty list has one. -/
def lastPage (size count : Nat) : Nat :=
  max 1 ((count + size - 1) / size)

theorem lt_lastPage_iff {size count number : Nat} (positive : 0 < size)
    (isPage : 1 ≤ number) :
    number < lastPage size count ↔ number * size < count := by
  have pages :
      number < (count + size - 1) / size ↔ number * size < count := by
    rw [← Nat.succ_le_iff, Nat.le_div_iff_mul_le positive, Nat.succ_mul]
    omega
  unfold lastPage
  rw [lt_max_iff, pages]
  exact or_iff_right (Nat.not_lt.mpr isPage)

theorem length_le_lastPage_mul {size count : Nat} (positive : 0 < size) :
    count ≤ lastPage size count * size := by
  have isPage : 1 ≤ lastPage size count := Nat.le_max_left 1 _
  exact
    Nat.not_lt.mp fun more =>
      Nat.lt_irrefl _ ((lt_lastPage_iff positive isPage).mpr more)

/-- The pages up to the last one are the list. -/
theorem flatMap_pages {size : Nat} (positive : 0 < size) (rows : List ρ) :
    ((List.range (lastPage size rows.length)).flatMap fun index =>
        pageOf (index + 1) size rows) = rows := by
  rw [flatMap_pageOf]
  exact List.take_of_length_le (length_le_lastPage_mul positive)

/-- The rows of a page and the first row after it. -/
def lookAhead (number size : Nat) (rows : List ρ) : List ρ :=
  (rows.drop ((number - 1) * size)).take (size + 1)

theorem take_lookAhead (number size : Nat) (rows : List ρ) :
    (lookAhead number size rows).take size = pageOf number size rows := by
  rw [lookAhead, List.take_take, Nat.min_eq_left (Nat.le_succ size), pageOf]

/-- There is a row ahead exactly when there is another page. -/
theorem lt_length_lookAhead_iff {number size : Nat} (positive : 0 < size)
    (isPage : 1 ≤ number) (rows : List ρ) :
    size < (lookAhead number size rows).length ↔
      number < lastPage size rows.length := by
  obtain ⟨before, rfl⟩ := Nat.exists_eq_add_of_le' isPage
  rw [lt_lastPage_iff positive isPage, lookAhead, List.length_take,
    List.length_drop, Nat.add_sub_cancel, Nat.succ_mul]
  omega

/-- A page before the end has a row. -/
theorem lookAhead_ne_nil {number size : Nat} (positive : 0 < size)
    {rows : List ρ} (later : 1 < number)
    (exists_page : number ≤ lastPage size rows.length) :
    lookAhead number size rows ≠ [] := by
  have previous : (number - 1) * size < rows.length :=
    (lt_lastPage_iff positive (by omega)).mp (by omega)
  intro isEmpty
  have noLength := congrArg List.length isEmpty
  rw [lookAhead, List.length_take, List.length_drop, List.length_nil]
    at noLength
  omega

end Heritage.Store
