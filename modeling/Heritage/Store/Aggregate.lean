import Mathlib

/-!
# Grouped sums

`groupSum key weight sought rows` is the sum of a column over the rows whose
key is `sought`.  The lemmas say how it moves when rows are inserted, when the
weights change, and that the groups of a list of distinct keys add up to the
sum over the rows they cover.
-/

namespace Heritage.Store

universe u v w

variable {ρ : Type u} {κ : Type v} [DecidableEq κ]
variable {M : Type w} [AddCommMonoid M]

theorem foldl_add_eq_sum (weight : ρ → M) (rows : List ρ) (start : M) :
    rows.foldl (fun total row => total + weight row) start =
      start + (rows.map weight).sum := by
  induction rows generalizing start with
  | nil =>
      simp
  | cons head tail inductionHypothesis =>
      rw [List.foldl_cons, inductionHypothesis, List.map_cons, List.sum_cons,
        add_assoc]

theorem foldl_sub_eq_sum {G : Type w} [AddCommGroup G] (weight : ρ → G)
    (rows : List ρ) (start : G) :
    rows.foldl (fun total row => total - weight row) start =
      start - (rows.map weight).sum := by
  induction rows generalizing start with
  | nil =>
      simp
  | cons head tail inductionHypothesis =>
      rw [List.foldl_cons, inductionHypothesis, List.map_cons, List.sum_cons,
        sub_sub]

theorem sum_map_sub {G : Type w} [AddCommGroup G] (weight other : ρ → G)
    (rows : List ρ) :
    (rows.map fun row => weight row - other row).sum =
      (rows.map weight).sum - (rows.map other).sum := by
  induction rows with
  | nil =>
      simp
  | cons head tail inductionHypothesis =>
      simp only [List.map_cons, List.sum_cons, inductionHypothesis]
      abel

/-- Sum of `weight` over the rows whose key is `sought`. -/
def groupSum (key : ρ → κ) (weight : ρ → M) (sought : κ)
    (rows : List ρ) : M :=
  ((rows.filter fun row => decide (key row = sought)).map weight).sum

variable {key : ρ → κ} {weight : ρ → M} {sought : κ} {rows : List ρ}

@[simp]
theorem groupSum_nil : groupSum key weight sought [] = 0 :=
  rfl

theorem groupSum_cons (head : ρ) (tail : List ρ) :
    groupSum key weight sought (head :: tail) =
      (if key head = sought then weight head else 0) +
        groupSum key weight sought tail := by
  by_cases atHead : key head = sought <;>
    simp [groupSum, atHead]

theorem groupSum_append (left right : List ρ) :
    groupSum key weight sought (left ++ right) =
      groupSum key weight sought left +
        groupSum key weight sought right := by
  simp [groupSum]

theorem groupSum_concat (row : ρ) :
    groupSum key weight sought (rows ++ [row]) =
      groupSum key weight sought rows +
        (if key row = sought then weight row else 0) := by
  rw [groupSum_append, groupSum_cons, groupSum_nil, add_zero]

/-- A sum over converted rows is one over the rows. -/
theorem groupSum_map {σ : Type*} (convert : σ → ρ) (rows : List σ) :
    groupSum key weight sought (rows.map convert) =
      groupSum (key ∘ convert) (weight ∘ convert) sought rows := by
  unfold groupSum
  rw [List.filter_map, List.map_map]
  rfl

/-- Rows left out by a filter weigh nothing. -/
theorem sum_filter_eq_groupSum (keep : ρ → Prop) [DecidablePred keep] :
    ((rows.filter fun row => decide (key row = sought ∧ keep row)).map
        weight).sum =
      groupSum key (fun row => if keep row then weight row else 0)
        sought rows := by
  induction rows with
  | nil =>
      rfl
  | cons head tail inductionHypothesis =>
      rw [groupSum_cons, ← inductionHypothesis]
      by_cases atHead : key head = sought <;>
        by_cases kept : keep head <;>
          simp [atHead, kept]

/-- The sum only sees the weights of its own group. -/
theorem groupSum_congr {other : ρ → M}
    (same : ∀ row ∈ rows, key row = sought → weight row = other row) :
    groupSum key weight sought rows = groupSum key other sought rows := by
  unfold groupSum
  congr 1
  apply List.map_congr_left
  intro row member
  simp only [List.mem_filter, decide_eq_true_eq] at member
  exact same row member.1 member.2

/-- A group without rows sums to zero. -/
theorem groupSum_eq_zero (absent : ∀ row ∈ rows, key row ≠ sought) :
    groupSum key weight sought rows = 0 := by
  have empty :
      (rows.filter fun row => decide (key row = sought)) = [] := by
    simpa [List.filter_eq_nil_iff] using absent
  simp [groupSum, empty]

/-- Among distinct keys a row is counted once if its key is listed. -/
private theorem sum_share {keys : List κ} (distinct : keys.Nodup)
    (own : κ) (share : M) :
    (keys.map fun value => if own = value then share else 0).sum =
      if own ∈ keys then share else 0 := by
  induction keys with
  | nil =>
      simp
  | cons first rest inductionHypothesis =>
      rw [List.map_cons, List.sum_cons,
        inductionHypothesis (List.nodup_cons.mp distinct).2]
      by_cases atFirst : own = first
      · have notLater : first ∉ rest := (List.nodup_cons.mp distinct).1
        simp [atFirst, notLater]
      · simp [atFirst]

/-- The groups of distinct keys add up to the sum over the rows with one of
these keys. -/
theorem sum_groupSum {keys : List κ} (distinct : keys.Nodup) :
    (keys.map fun value => groupSum key weight value rows).sum =
      ((rows.filter fun row => decide (key row ∈ keys)).map weight).sum := by
  induction rows with
  | nil =>
      simp
  | cons head tail inductionHypothesis =>
      simp only [groupSum_cons, List.sum_map_add, inductionHypothesis,
        sum_share distinct]
      by_cases covered : key head ∈ keys <;>
        simp [covered]

/-- When only the row `target` weighs differently, its own group moves by the
difference. -/
theorem groupSum_replace {G : Type w} [AddCommGroup G] {ι : Type*}
    {id : ρ → ι} {before after : ρ → G} {target : ρ}
    (unique : (rows.map id).Nodup) (member : target ∈ rows)
    (same : ∀ row ∈ rows, id row ≠ id target → after row = before row) :
    groupSum key after sought rows =
      groupSum key before sought rows +
        (if key target = sought then after target - before target else 0) := by
  induction rows with
  | nil =>
      exact absurd member List.not_mem_nil
  | cons head tail inductionHypothesis =>
      rw [List.map_cons, List.nodup_cons] at unique
      obtain ⟨headNew, tailUnique⟩ := unique
      rw [groupSum_cons, groupSum_cons]
      rcases List.mem_cons.mp member with rfl | later
      · have tailSame :
            groupSum key after sought tail =
              groupSum key before sought tail := by
          apply groupSum_congr
          intro row rowMember _
          apply same row (List.mem_cons_of_mem _ rowMember)
          intro sameId
          exact headNew (sameId ▸ List.mem_map_of_mem rowMember)
        rw [tailSame]
        by_cases atTarget : key target = sought
        · simp only [if_pos atTarget]
          abel
        · simp only [if_neg atTarget]
          abel
      · have headId : id head ≠ id target := by
          intro sameId
          exact headNew (sameId ▸ List.mem_map_of_mem later)
        have tailSame :
            ∀ row ∈ tail, id row ≠ id target → after row = before row := by
          intro row rowMember
          exact same row (List.mem_cons_of_mem _ rowMember)
        rw [inductionHypothesis tailUnique later tailSame,
          same head List.mem_cons_self headId, add_assoc]

section Ordered

variable [PartialOrder M] [IsOrderedAddMonoid M]

theorem groupSum_nonneg
    (nonnegative : ∀ row ∈ rows, key row = sought → 0 ≤ weight row) :
    0 ≤ groupSum key weight sought rows := by
  apply List.sum_nonneg
  intro value member
  obtain ⟨row, rowMember, rfl⟩ := List.mem_map.mp member
  simp only [List.mem_filter, decide_eq_true_eq] at rowMember
  exact nonnegative row rowMember.1 rowMember.2

theorem groupSum_le_groupSum {other : ρ → M}
    (bounded : ∀ row ∈ rows, key row = sought → weight row ≤ other row) :
    groupSum key weight sought rows ≤ groupSum key other sought rows := by
  apply List.sum_le_sum
  intro row member
  simp only [List.mem_filter, decide_eq_true_eq] at member
  exact bounded row member.1 member.2

/-- A group of positive weights that sums to nothing has no rows. -/
theorem absent_of_groupSum_nonpos
    (positive : ∀ row ∈ rows, 0 < weight row)
    (nothing : groupSum key weight sought rows ≤ 0) :
    ∀ row ∈ rows, key row ≠ sought := by
  induction rows with
  | nil =>
      simp
  | cons head tail inductionHypothesis =>
      have tailPositive : ∀ row ∈ tail, 0 < weight row := by
        intro row member
        exact positive row (List.mem_cons_of_mem _ member)
      have tailNonneg : 0 ≤ groupSum key weight sought tail :=
        groupSum_nonneg fun row member _ => (tailPositive row member).le
      rw [groupSum_cons] at nothing
      by_cases atHead : key head = sought
      · rw [if_pos atHead] at nothing
        have headPositive : 0 < weight head :=
          positive head List.mem_cons_self
        exact
          absurd nothing
            (not_le_of_gt (add_pos_of_pos_of_nonneg headPositive tailNonneg))
      · rw [if_neg atHead, zero_add] at nothing
        intro row member
        rcases List.mem_cons.mp member with rfl | later
        · exact atHead
        · exact inductionHypothesis tailPositive nothing row later

end Ordered

end Heritage.Store
