import Mathlib

/-!
# Keyed rows

A table is a list of rows in insertion order with a key column.  `findBy` is
a lookup by a unique column, `updateBy` the update of the rows with one key.
-/

namespace Heritage.Store

universe u v

variable {ρ : Type u} {κ : Type v} [DecidableEq κ]

/-- The first row whose key is `sought`. -/
def findBy (key : ρ → κ) (sought : κ) (rows : List ρ) : Option ρ :=
  rows.find? fun row => decide (key row = sought)

/-- Rewrite the rows whose key is `sought`. -/
def updateBy (key : ρ → κ) (sought : κ) (change : ρ → ρ)
    (rows : List ρ) : List ρ :=
  rows.map fun row => if key row = sought then change row else row

variable {key : ρ → κ} {sought : κ} {change : ρ → ρ} {rows : List ρ}

theorem mem_of_findBy {row : ρ} (found : findBy key sought rows = some row) :
    row ∈ rows :=
  List.mem_of_find?_eq_some found

theorem key_of_findBy {row : ρ} (found : findBy key sought rows = some row) :
    key row = sought := by
  simpa using List.find?_some found

theorem findBy_eq_none_iff :
    findBy key sought rows = none ↔ ∀ row ∈ rows, key row ≠ sought := by
  simp [findBy]

theorem findBy_isSome_iff :
    (findBy key sought rows).isSome ↔ ∃ row ∈ rows, key row = sought := by
  simp [findBy]

/-- With unique keys a row is what the lookup of its own key returns. -/
theorem findBy_of_mem
    (unique : (rows.map key).Nodup) {row : ρ} (member : row ∈ rows) :
    findBy key (key row) rows = some row := by
  cases found : findBy key (key row) rows with
  | none =>
      exact absurd rfl (findBy_eq_none_iff.mp found row member)
  | some other =>
      have sameKey : key other = key row := key_of_findBy found
      have sameRow : other = row :=
        List.inj_on_of_nodup_map unique (mem_of_findBy found) member sameKey
      rw [sameRow]

/-- A key selects its row alone. -/
theorem filter_key_eq {target : ρ} (unique : (rows.map key).Nodup)
    (member : target ∈ rows) :
    (rows.filter fun row => decide (key row = key target)) = [target] := by
  induction rows with
  | nil =>
      exact absurd member List.not_mem_nil
  | cons head tail inductionHypothesis =>
      rw [List.map_cons, List.nodup_cons] at unique
      obtain ⟨headNew, tailUnique⟩ := unique
      rcases List.mem_cons.mp member with rfl | later
      · have noneLater :
            (tail.filter fun row => decide (key row = key target)) = [] := by
          rw [List.filter_eq_nil_iff]
          intro row rowMember same
          exact
            headNew
              (of_decide_eq_true same ▸ List.mem_map_of_mem rowMember)
        rw [List.filter_cons_of_pos (by simp), noneLater]
      · have different : key head ≠ key target := by
          intro same
          exact headNew (same ▸ List.mem_map_of_mem later)
        rw [List.filter_cons_of_neg (by simp [different]),
          inductionHypothesis tailUnique later]

theorem findBy_append (more : List ρ) :
    findBy key sought (rows ++ more) =
      (findBy key sought rows).or (findBy key sought more) := by
  simp [findBy]

/-- An insertion does not change what a successful lookup returns. -/
theorem findBy_append_of_found {row : ρ} (more : List ρ)
    (found : findBy key sought rows = some row) :
    findBy key sought (rows ++ more) = some row := by
  simp [findBy_append, found]

theorem findBy_concat_self {row : ρ}
    (fresh : findBy key (key row) rows = none) :
    findBy key (key row) (rows ++ [row]) = some row := by
  rw [findBy_append, fresh]
  simp [findBy]

theorem nodup_map_concat {row : ρ}
    (unique : (rows.map key).Nodup)
    (fresh : findBy key (key row) rows = none) :
    ((rows ++ [row]).map key).Nodup := by
  rw [List.map_append, List.nodup_append]
  refine ⟨unique, by simp, ?_⟩
  intro left leftMember right rightMember
  obtain ⟨old, oldMember, rfl⟩ := List.mem_map.mp leftMember
  simp only [List.map_cons, List.map_nil, List.mem_singleton] at rightMember
  rw [rightMember]
  exact findBy_eq_none_iff.mp fresh old oldMember

/-- A lookup that succeeds finds a listed key. -/
theorem mem_map_of_findBy {row : ρ} (found : findBy key sought rows = some row) :
    sought ∈ rows.map key :=
  List.mem_map.mpr ⟨row, mem_of_findBy found, key_of_findBy found⟩

/-- A listed key is found. -/
theorem exists_findBy_of_mem_map (listed : sought ∈ rows.map key) :
    ∃ row, findBy key sought rows = some row := by
  obtain ⟨row, member, sameKey⟩ := List.mem_map.mp listed
  exact Option.isSome_iff_exists.mp (findBy_isSome_iff.mpr ⟨row, member, sameKey⟩)

/-- A table that only grew returns what it returned. -/
theorem findBy_of_grown {row : ρ} {later : List ρ} (grew : rows <+: later)
    (found : findBy key sought rows = some row) :
    findBy key sought later = some row := by
  obtain ⟨more, rfl⟩ := grew
  exact findBy_append_of_found more found

section Columns

variable {τ : Type*} {column : ρ → τ} {others : List ρ}

/-- A lookup in the columns is a lookup in the rows. -/
theorem findBy_map {keyOf : τ → κ} (factors : ∀ row, keyOf (column row) = key row) :
    findBy keyOf sought (rows.map column) =
      (findBy key sought rows).map column := by
  simp [findBy, List.find?_map, factors]

/-- A table that only grew in some columns returns these columns of what it
returned. -/
theorem findBy_of_column_grown (keyOf : τ → κ)
    (factors : ∀ row, keyOf (column row) = key row) {row : ρ} {later : List ρ}
    (grew : rows.map column <+: later.map column)
    (found : findBy key sought rows = some row) :
    ∃ kept, findBy key sought later = some kept ∧ column kept = column row := by
  have columnFound :
      findBy keyOf sought (later.map column) = some (column row) := by
    apply findBy_of_grown grew
    rw [findBy_map factors, found]
    rfl
  rw [findBy_map factors] at columnFound
  exact Option.map_eq_some_iff.mp columnFound

/-- Tables that agree in the columns a test reads answer it alike. -/
theorem any_findBy_of_map_eq {test : ρ → Bool} (keyOf : τ → κ)
    (testColumn : τ → Bool) (same : rows.map column = others.map column)
    (factors : ∀ row, keyOf (column row) = key row)
    (tests : ∀ row, testColumn (column row) = test row) :
    (findBy key sought rows).any test =
      (findBy key sought others).any test := by
  have throughColumn :
      ∀ table : List ρ,
        (findBy key sought table).any test =
          (findBy keyOf sought (table.map column)).any testColumn := by
    intro table
    rw [findBy_map factors]
    cases findBy key sought table with
    | none =>
        rfl
    | some row =>
        exact (tests row).symm
  rw [throughColumn, throughColumn, same]

/-- Rows that agree in a column without repetitions are found under one
key. -/
theorem sought_eq_of_column {soughtOther : κ} {row other : ρ}
    (once : (rows.map column).Nodup)
    (found : findBy key sought rows = some row)
    (otherFound : findBy key soughtOther rows = some other)
    (same : column row = column other) : sought = soughtOther := by
  have sameRow : row = other :=
    List.inj_on_of_nodup_map once (mem_of_findBy found)
      (mem_of_findBy otherFound) same
  have hasKey := key_of_findBy found
  have hasOther := key_of_findBy otherFound
  rw [sameRow, hasOther] at hasKey
  exact hasKey.symm

omit [DecidableEq κ] in
/-- A filter that reads the columns keeps the same columns. -/
theorem map_filter_of_map_eq {keep : ρ → Bool} (keepColumn : τ → Bool)
    (same : rows.map column = others.map column)
    (factors : ∀ row, keepColumn (column row) = keep row) :
    (rows.filter keep).map column = (others.filter keep).map column := by
  have throughColumn :
      ∀ table : List ρ,
        (table.filter keep).map column =
          (table.map column).filter keepColumn := by
    intro table
    rw [List.filter_map]
    congr 2
    funext row
    exact (factors row).symm
  rw [throughColumn, throughColumn, same]

end Columns

section References

omit [DecidableEq κ]

variable {τ : Type*} {column : ρ → κ} {target : τ → κ} {targets : List τ}
  {keys : List κ}

/-- References stay resolved when the referenced table grows. -/
theorem references_append_targets (more : List τ)
    (resolved : rows.map column ⊆ targets.map target) :
    rows.map column ⊆ (targets ++ more).map target := by
  rw [List.map_append]
  exact List.subset_append_of_subset_left _ resolved

/-- Inserted rows must refer to listed keys. -/
theorem references_append_rows {inserted : List ρ}
    (resolved : rows.map column ⊆ keys)
    (insertedResolved : ∀ row ∈ inserted, column row ∈ keys) :
    (rows ++ inserted).map column ⊆ keys := by
  intro value member
  rw [List.map_append, List.mem_append] at member
  rcases member with old | new
  · exact resolved old
  · obtain ⟨row, rowMember, rfl⟩ := List.mem_map.mp new
    exact insertedResolved row rowMember

theorem references_concat {row : ρ}
    (resolved : rows.map column ⊆ keys) (listed : column row ∈ keys) :
    (rows ++ [row]).map column ⊆ keys := by
  apply references_append_rows resolved
  intro inserted member
  rw [List.mem_singleton.mp member]
  exact listed

end References

/-- No row refers to a key that is not found. -/
theorem unreferenced_of_unknown {τ : Type*} {column : τ → κ} {others : List τ}
    (resolved : others.map column ⊆ rows.map key)
    (unknown : findBy key sought rows = none) :
    ∀ other ∈ others, column other ≠ sought := by
  intro other member same
  have listed : sought ∈ rows.map key :=
    resolved (same ▸ List.mem_map_of_mem member)
  obtain ⟨row, found⟩ := exists_findBy_of_mem_map listed
  rw [unknown] at found
  cases found

section Update

theorem mem_updateBy_iff {row : ρ} :
    row ∈ updateBy key sought change rows ↔
      ∃ old ∈ rows,
        row = if key old = sought then change old else old := by
  simp [updateBy, eq_comm]

theorem mem_updateBy_of_mem {old : ρ} (member : old ∈ rows) :
    (if key old = sought then change old else old) ∈
      updateBy key sought change rows :=
  mem_updateBy_iff.mpr ⟨old, member, rfl⟩

/-- A column that the change keeps is the same column afterwards. -/
@[simp]
theorem map_updateBy_of_kept {β : Type*} {column : ρ → β}
    (kept : ∀ row, column (change row) = column row) :
    (updateBy key sought change rows).map column = rows.map column := by
  rw [updateBy, List.map_map]
  apply List.map_congr_left
  intro row _
  by_cases atKey : key row = sought
  · simp [atKey, kept]
  · simp [atKey]

/-- A projection carries an update over to the projected rows. -/
theorem map_updateBy {τ : Type*} {project : ρ → τ} {projectedKey : τ → κ}
    {projectedChange : τ → τ}
    (sameKey : ∀ row, projectedKey (project row) = key row)
    (commutes : ∀ row, project (change row) = projectedChange (project row)) :
    (updateBy key sought change rows).map project =
      updateBy projectedKey sought projectedChange (rows.map project) := by
  rw [updateBy, updateBy, List.map_map, List.map_map]
  apply List.map_congr_left
  intro row _
  by_cases atKey : key row = sought
  · simp [atKey, sameKey, commutes]
  · simp [atKey, sameKey]

/-- An update that keeps the key keeps the keys unique. -/
theorem nodup_map_updateBy
    (kept : ∀ row, key (change row) = key row)
    (unique : (rows.map key).Nodup) :
    ((updateBy key sought change rows).map key).Nodup := by
  rw [map_updateBy_of_kept kept]
  exact unique

/-- Looking up a column the change keeps returns the updated row. -/
theorem findBy_updateBy {τ : Type*} [DecidableEq τ] {column : ρ → τ} {value : τ}
    (kept : ∀ row, column (change row) = column row) :
    findBy column value (updateBy key sought change rows) =
      (findBy column value rows).map fun row =>
        if key row = sought then change row else row := by
  induction rows with
  | nil =>
      rfl
  | cons head tail inductionHypothesis =>
      have headColumn :
          column (if key head = sought then change head else head) =
            column head := by
        split
        · exact kept head
        · rfl
      simp only [findBy, updateBy, List.map_cons, List.find?_cons,
        headColumn] at inductionHypothesis ⊢
      by_cases atHead : column head = value
      · simp [atHead]
      · simpa [atHead] using inductionHypothesis

theorem findBy_updateBy_of_found {τ : Type*} [DecidableEq τ]
    {column : ρ → τ} {value : τ} {row : ρ}
    (kept : ∀ row, column (change row) = column row)
    (found : findBy column value rows = some row) :
    findBy column value (updateBy key sought change rows) =
      some (if key row = sought then change row else row) := by
  rw [findBy_updateBy kept, found]
  rfl

/-- The other rows are found as they were. -/
theorem findBy_updateBy_other {value : κ}
    (kept : ∀ row, key (change row) = key row) (different : value ≠ sought) :
    findBy key value (updateBy key sought change rows) =
      findBy key value rows := by
  rw [findBy_updateBy kept]
  cases found : findBy key value rows with
  | none =>
      rfl
  | some row =>
      have notSought : key row ≠ sought := by
        rw [key_of_findBy found]
        exact different
      simp [notSought]

/-- The row with the key is found as the change left it. -/
theorem findBy_updateBy_self {row : ρ}
    (kept : ∀ row, key (change row) = key row)
    (found : findBy key sought rows = some row) :
    findBy key sought (updateBy key sought change rows) =
      some (change row) := by
  rw [findBy_updateBy_of_found kept found, if_pos (key_of_findBy found)]

/-- A statement about every row of an update of one row. -/
theorem forall_mem_updateBy {statement : ρ → Prop} {target : ρ}
    (unique : (rows.map key).Nodup)
    (found : findBy key sought rows = some target)
    (changed : statement (change target))
    (others : ∀ row ∈ rows, key row ≠ sought → statement row) :
    ∀ row ∈ updateBy key sought change rows, statement row := by
  intro row member
  obtain ⟨old, oldMember, rfl⟩ := mem_updateBy_iff.mp member
  by_cases atKey : key old = sought
  · have isTarget : old = target := by
      have foundOld := findBy_of_mem unique oldMember
      rw [atKey, found] at foundOld
      exact (Option.some.inj foundOld).symm
    rw [if_pos atKey, isTarget]
    exact changed
  · rw [if_neg atKey]
    exact others old oldMember atKey

/-- A statement that the change keeps holds of every row of the update. -/
theorem forall_mem_updateBy_of_kept {statement : ρ → Prop}
    (all : ∀ row ∈ rows, statement row)
    (kept : ∀ row, statement row → statement (change row)) :
    ∀ row ∈ updateBy key sought change rows, statement row := by
  intro row member
  obtain ⟨old, oldMember, rfl⟩ := mem_updateBy_iff.mp member
  by_cases atKey : key old = sought
  · rw [if_pos atKey]
    exact kept old (all old oldMember)
  · rw [if_neg atKey]
    exact all old oldMember

/-- A filter that drops the updated rows, before and after, does not see the
update. -/
theorem filter_updateBy_of_dropped {keep : ρ → Bool}
    (dropped :
      ∀ row ∈ rows, key row = sought → ¬ keep row ∧ ¬ keep (change row)) :
    (updateBy key sought change rows).filter keep = rows.filter keep := by
  induction rows with
  | nil =>
      rfl
  | cons head tail inductionHypothesis =>
      have tailSame :=
        inductionHypothesis fun row member =>
          dropped row (List.mem_cons_of_mem head member)
      unfold updateBy at tailSame ⊢
      by_cases atKey : key head = sought
      · obtain ⟨before, after⟩ := dropped head (List.mem_cons_self ..) atKey
        rw [List.map_cons, if_pos atKey, List.filter_cons_of_neg after,
          List.filter_cons_of_neg before, tailSame]
      · rw [List.map_cons, if_neg atKey, List.filter_cons, List.filter_cons,
          tailSame]

end Update

end Heritage.Store
