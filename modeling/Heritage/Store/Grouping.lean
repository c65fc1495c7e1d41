import Heritage.Store.Table

/-!
# Maps, groups and sorted selections

`Entries` is an insertion-ordered map.  `groupBy` and `keyedBy` build one from
rows; the lemmas say what it holds for a key.  A stable sort commutes with a
filter, so rows may be selected before or after they are sorted.
-/

namespace Heritage.Store

universe u v w

section Maps

variable {κ : Type u} {ν : Type v} {ρ : Type w} [DecidableEq κ]

/-- A map as its entries in the order of their first insertion. -/
abbrev Entries (κ : Type u) (ν : Type v) := List (κ × ν)

namespace Entries

def get (entries : Entries κ ν) (key : κ) : Option ν :=
  (entries.find? fun entry => entry.1 = key).map Prod.snd

def set : Entries κ ν → κ → ν → Entries κ ν
  | [], key, value => [(key, value)]
  | entry :: rest, key, value =>
      if entry.1 = key then (key, value) :: rest
      else entry :: set rest key value

theorem get_set (entries : Entries κ ν) (key sought : κ) (value : ν) :
    (entries.set key value).get sought =
      if key = sought then some value else entries.get sought := by
  induction entries with
  | nil =>
      by_cases same : key = sought <;> simp [set, get, same]
  | cons entry rest inductionHypothesis =>
      unfold set
      by_cases atEntry : entry.1 = key
      · rw [if_pos atEntry]
        by_cases same : key = sought
        · simp [get, same]
        · simp [get, same, atEntry]
      · rw [if_neg atEntry]
        by_cases same : entry.1 = sought
        · have different : key ≠ sought := by
            rw [← same]
            exact Ne.symm atEntry
          simp [get, same, different]
        · simpa [get, same] using inductionHypothesis

/-- After one `set` for each of some rows with distinct keys, the map holds
what the rows say and else what it held. -/
theorem get_foldl_set {rows : Entries κ ν}
    (unique : (rows.map Prod.fst).Nodup) (entries : Entries κ ν)
    (sought : κ) :
    (rows.foldl (fun entries row => entries.set row.1 row.2) entries).get
        sought =
      (get rows sought).or (entries.get sought) := by
  induction rows generalizing entries with
  | nil =>
      rfl
  | cons row rest inductionHypothesis =>
      rw [List.map_cons, List.nodup_cons] at unique
      rw [List.foldl_cons, inductionHypothesis unique.2, get_set]
      by_cases same : row.1 = sought
      · have notInRest : get rest sought = none := by
          rw [get, Option.map_eq_none_iff, List.find?_eq_none]
          intro other member atSought
          apply unique.1
          rw [same, ← of_decide_eq_true atSought]
          exact List.mem_map_of_mem member
        rw [notInRest, if_pos same]
        simp [get, same]
      · rw [if_neg same]
        simp [get, same]

end Entries

/-- The rows of each key, in their order. -/
def groupBy (keyOf : ρ → κ) (rows : List ρ) : Entries κ (List ρ) :=
  rows.foldl
    (fun groups row =>
      match groups.get (keyOf row) with
      | some group => groups.set (keyOf row) (group ++ [row])
      | none => groups.set (keyOf row) [row])
    []

/-- The last row of each key. -/
def keyedBy (keyOf : ρ → κ) (rows : List ρ) : Entries κ ρ :=
  rows.foldl (fun entries row => entries.set (keyOf row) row) []

variable {keyOf : ρ → κ}

theorem get_groupBy (rows : List ρ) (key : κ) :
    ((groupBy keyOf rows).get key).getD [] =
      rows.filter fun row => keyOf row = key := by
  have inserted :
      ∀ (rows : List ρ) (groups : Entries κ (List ρ)),
        ((rows.foldl
              (fun groups row =>
                match groups.get (keyOf row) with
                | some group => groups.set (keyOf row) (group ++ [row])
                | none => groups.set (keyOf row) [row])
              groups).get key).getD [] =
          (groups.get key).getD [] ++ rows.filter fun row => keyOf row = key := by
    intro rows
    induction rows with
    | nil =>
        simp
    | cons row rest inductionHypothesis =>
        intro groups
        rw [List.foldl_cons, inductionHypothesis]
        cases held : groups.get (keyOf row) with
        | none =>
            by_cases same : keyOf row = key
            · rw [same] at held
              simp [Entries.get_set, same, held]
            · simp [Entries.get_set, same]
        | some group =>
            by_cases same : keyOf row = key
            · rw [same] at held
              simp [Entries.get_set, same, held]
            · simp [Entries.get_set, same]
  simpa [groupBy, Entries.get] using inserted rows []

theorem get_keyedBy (rows : List ρ) (key : κ) :
    (keyedBy keyOf rows).get key =
      (rows.filter fun row => keyOf row = key).getLast? := by
  have inserted :
      ∀ (rows : List ρ) (entries : Entries κ ρ),
        (rows.foldl (fun entries row => entries.set (keyOf row) row)
              entries).get key =
          (rows.filter fun row => keyOf row = key).getLast?.or
            (entries.get key) := by
    intro rows
    induction rows with
    | nil =>
        simp
    | cons row rest inductionHypothesis =>
        intro entries
        rw [List.foldl_cons, inductionHypothesis, Entries.get_set]
        by_cases same : keyOf row = key
        · rw [if_pos same, List.filter_cons_of_pos (by simpa using same),
            List.getLast?_cons]
          cases (rest.filter fun row => keyOf row = key).getLast? <;> rfl
        · rw [if_neg same, List.filter_cons_of_neg (by simpa using same)]
  simpa [keyedBy, Entries.get] using inserted rows []

/-- With distinct keys the map holds the row with the key. -/
theorem get_keyedBy_of_nodup {rows : List ρ} (unique : (rows.map keyOf).Nodup)
    (key : κ) : (keyedBy keyOf rows).get key = findBy keyOf key rows := by
  rw [get_keyedBy]
  induction rows with
  | nil =>
      rfl
  | cons row rest inductionHypothesis =>
      rw [List.map_cons, List.nodup_cons] at unique
      by_cases same : keyOf row = key
      · have others : (rest.filter fun row => keyOf row = key) = [] := by
          apply List.filter_eq_nil_iff.mpr
          intro other member own
          have otherKey : keyOf other = key := of_decide_eq_true own
          rw [same, ← otherKey] at unique
          exact unique.1 (List.mem_map_of_mem member)
        simp [findBy, same, others]
      · simpa [findBy, same] using inductionHypothesis unique.2

variable {keep : ρ → Bool} {rows : List ρ} {key : κ}

/-- A test through a reference to a stored row is the test of that row. -/
theorem any_findBy_of_mem (unique : (rows.map keyOf).Nodup) {row : ρ}
    (member : row ∈ rows) (test : ρ → Bool) :
    (findBy keyOf (keyOf row) rows).any test = test row := by
  rw [findBy_of_mem unique member]
  rfl

/-- A selection that keeps every row of a key keeps its group. -/
theorem get_groupBy_filter
    (covers : ∀ row ∈ rows, keyOf row = key → keep row) :
    ((groupBy keyOf (rows.filter keep)).get key).getD [] =
      rows.filter fun row => keyOf row = key := by
  rw [get_groupBy, List.filter_filter]
  apply List.filter_congr
  intro row member
  by_cases same : keyOf row = key
  · simp [same, covers row member same]
  · simp [same]

theorem get_keyedBy_filter (unique : (rows.map keyOf).Nodup)
    (covers : ∀ row ∈ rows, keyOf row = key → keep row) :
    (keyedBy keyOf (rows.filter keep)).get key = findBy keyOf key rows := by
  rw [get_keyedBy_of_nodup (unique.sublist (List.filter_sublist.map _))]
  clear unique
  induction rows with
  | nil =>
      rfl
  | cons row rest inductionHypothesis =>
      have restCovers : ∀ row ∈ rest, keyOf row = key → keep row := by
        intro other member
        exact covers other (List.mem_cons_of_mem _ member)
      by_cases same : keyOf row = key
      · have kept : keep row := covers row List.mem_cons_self same
        simp [findBy, same, kept]
      · have later := inductionHypothesis restCovers
        by_cases kept : keep row
        · simpa [findBy, same, kept] using later
        · simpa [findBy, same, kept] using later

end Maps

section Sorting

variable {α : Type u} {le : α → α → Bool}

section Columns

variable {β : Type v} {γ : Type w} [LinearOrder β] [LinearOrder γ]
  {first : α → β} {second : α → γ}

/-- The order of a column, and within equal values that of another. -/
def Precedes (first : α → β) (second : α → γ) (left right : α) : Prop :=
  first left < first right ∨
    first left = first right ∧ second left ≤ second right

theorem Precedes.trans {left middle right : α}
    (before : Precedes first second left middle)
    (after : Precedes first second middle right) :
    Precedes first second left right := by
  rcases before with earlier | ⟨same, below⟩
  · rcases after with later | ⟨sameNext, _⟩
    · exact Or.inl (lt_trans earlier later)
    · exact Or.inl (sameNext ▸ earlier)
  · rcases after with later | ⟨sameNext, belowNext⟩
    · exact Or.inl (same ▸ later)
    · exact Or.inr ⟨same.trans sameNext, le_trans below belowNext⟩

theorem precedes_total (left right : α) :
    Precedes first second left right ∨ Precedes first second right left := by
  rcases lt_trichotomy (first left) (first right) with earlier | same | later
  · exact Or.inl (Or.inl earlier)
  · rcases le_total (second left) (second right) with below | above
    · exact Or.inl (Or.inr ⟨same, below⟩)
    · exact Or.inr (Or.inr ⟨same.symm, above⟩)
  · exact Or.inr (Or.inl later)

end Columns

/-- A list is cut in one way where a test changes from false to true. -/
theorem append_cut_unique {test : α → Bool}
    {first second third fourth : List α}
    (same : first ++ second = third ++ fourth)
    (firstFails : ∀ item ∈ first, test item = false)
    (secondHolds : ∀ item ∈ second, test item)
    (thirdFails : ∀ item ∈ third, test item = false)
    (fourthHolds : ∀ item ∈ fourth, test item) :
    first = third ∧ second = fourth := by
  induction first generalizing third with
  | nil =>
      cases third with
      | nil =>
          exact ⟨rfl, same⟩
      | cons head tail =>
          have holds : test head :=
            secondHolds head (by rw [← List.nil_append second, same]; simp)
          rw [thirdFails head List.mem_cons_self] at holds
          cases holds
  | cons head tail inductionHypothesis =>
      cases third with
      | nil =>
          have holds : test head :=
            fourthHolds head (by rw [← List.nil_append fourth, ← same]; simp)
          rw [firstFails head List.mem_cons_self] at holds
          cases holds
      | cons otherHead otherTail =>
          obtain ⟨rfl, sameTail⟩ := List.cons_eq_cons.mp same
          obtain ⟨rfl, rfl⟩ :=
            inductionHypothesis sameTail
              (fun item member =>
                firstFails item (List.mem_cons_of_mem _ member))
              (fun item member =>
                thirdFails item (List.mem_cons_of_mem _ member))
          exact ⟨rfl, rfl⟩

/-- What follows an item of a sorted list is not before it. -/
theorem le_of_mem_after (trans : ∀ a b c, le a b → le b c → le a c)
    (total : ∀ a b, le a b || le b a) {items first second : List α} {item : α}
    (sorted : items.mergeSort le = first ++ item :: second) :
    ∀ other ∈ second, le item other := by
  have pairwise := List.pairwise_mergeSort trans total items
  rw [sorted] at pairwise
  exact (List.pairwise_cons.mp (List.pairwise_append.mp pairwise).2.1).1

/-- A stable sort and a selection may change places. -/
theorem filter_mergeSort (trans : ∀ a b c, le a b → le b c → le a c)
    (total : ∀ a b, le a b || le b a) (keep : α → Bool) (items : List α) :
    (items.mergeSort le).filter keep = (items.filter keep).mergeSort le := by
  induction items with
  | nil =>
      simp
  | cons item rest inductionHypothesis =>
      obtain ⟨first, second, sorted, restSorted, firstAfter⟩ :=
        List.mergeSort_cons trans total item rest
      rw [restSorted, List.filter_append] at inductionHypothesis
      by_cases kept : keep item
      · obtain ⟨keptFirst, keptSecond, keptSorted, keptRest, keptAfter⟩ :=
          List.mergeSort_cons trans total item (rest.filter keep)
        rw [keptRest] at inductionHypothesis
        have secondBefore := le_of_mem_after trans total sorted
        have keptBefore := le_of_mem_after trans total keptSorted
        obtain ⟨sameFirst, sameSecond⟩ :=
          append_cut_unique inductionHypothesis
            (fun other member => by
              simpa using firstAfter other (List.mem_filter.mp member).1)
            (fun other member =>
              secondBefore other (List.mem_filter.mp member).1)
            (fun other member => by simpa using keptAfter other member)
            keptBefore
        rw [sorted, List.filter_cons_of_pos kept, keptSorted,
          List.filter_append, List.filter_cons_of_pos kept, sameFirst,
          sameSecond]
      · rw [sorted, List.filter_cons_of_neg kept, List.filter_append,
          List.filter_cons_of_neg kept, inductionHypothesis]

/-- The group of a key in a sorted selection is the group, sorted. -/
theorem get_groupBy_mergeSort {κ : Type v} [DecidableEq κ] {keyOf : α → κ}
    {keep : α → Bool} {items : List α} {key : κ}
    (trans : ∀ a b c, le a b → le b c → le a c)
    (total : ∀ a b, le a b || le b a)
    (covers : ∀ item ∈ items, keyOf item = key → keep item) :
    ((groupBy keyOf ((items.filter keep).mergeSort le)).get key).getD [] =
      (items.filter fun item => keyOf item = key).mergeSort le := by
  rw [get_groupBy, filter_mergeSort trans total, ← get_groupBy,
    get_groupBy_filter covers]

/-- A sorted selection is a selection of the sorted rows. -/
theorem map_mergeSort_filter {τ : Type v} {wrap : α → τ} {keep : τ → Bool}
    {test : α → Bool} {items : List α}
    (trans : ∀ a b c, le a b → le b c → le a c)
    (total : ∀ a b, le a b || le b a)
    (same : ∀ item ∈ items, test item = keep (wrap item)) :
    ((items.filter test).mergeSort le).map wrap =
      ((items.mergeSort le).map wrap).filter keep := by
  rw [List.filter_map, filter_mergeSort trans total, List.filter_congr same]
  rfl

end Sorting

end Heritage.Store
