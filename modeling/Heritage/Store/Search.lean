import Heritage.Store.Table

/-!
# Searches with restricted answers

A search keeps the rows that satisfy a condition, shows those its reader may
see and answers with one bit whether there are others.
-/

namespace Heritage.Store

section Search

variable {ρ τ κ : Type} {rows others : List ρ} {keep sees seesOthers : ρ → Bool}
  {image : ρ → τ}

/-- The images of the kept rows the reader may see. -/
def shown (keep sees : ρ → Bool) (image : ρ → τ) (rows : List ρ) : List τ :=
  ((rows.filter keep).filter sees).map image

/-- Whether a kept row is out of the reader's sight. -/
def hides (keep sees : ρ → Bool) (rows : List ρ) : Bool :=
  (rows.filter keep).any fun row => ¬ sees row

theorem mem_shown_iff {found : τ} :
    found ∈ shown keep sees image rows ↔
      ∃ row ∈ rows, keep row ∧ sees row ∧ image row = found := by
  simp only [shown, List.mem_map, List.mem_filter, and_assoc]

theorem hides_iff :
    hides keep sees rows ↔ ∃ row ∈ rows, keep row ∧ ¬ sees row := by
  simp only [hides, List.any_eq_true, List.mem_filter, and_assoc,
    decide_eq_true_eq]

/-- What is shown is a matter of the rows in sight and of nothing else. -/
theorem shown_perm (unique : rows.Nodup) (uniqueOthers : others.Nodup)
    (sameSight :
      ∀ row, row ∈ rows ∧ sees row ↔ row ∈ others ∧ seesOthers row) :
    (shown keep sees image rows).Perm (shown keep seesOthers image others) := by
  apply List.Perm.map
  rw [List.perm_ext_iff_of_nodup
    ((unique.filter keep).filter sees)
    ((uniqueOthers.filter keep).filter seesOthers)]
  intro row
  simp only [List.mem_filter]
  constructor
  · rintro ⟨⟨member, kept⟩, seen⟩
    obtain ⟨otherMember, otherSeen⟩ := (sameSight row).mp ⟨member, seen⟩
    exact ⟨⟨otherMember, kept⟩, otherSeen⟩
  · rintro ⟨⟨member, kept⟩, seen⟩
    obtain ⟨otherMember, otherSeen⟩ := (sameSight row).mpr ⟨member, seen⟩
    exact ⟨⟨otherMember, kept⟩, otherSeen⟩

theorem shown_cons (first : ρ) (rest : List ρ) :
    shown keep sees image (first :: rest) =
      (if keep first ∧ sees first then [image first] else []) ++
        shown keep sees image rest := by
  unfold shown
  by_cases kept : keep first
  · by_cases seen : sees first
    · simp [kept, seen]
    · simp [kept, seen]
  · simp [kept]

/-- A key that no row has is shown under no image. -/
theorem shown_filter_absent [DecidableEq κ] {key : ρ → κ} {imageKey : τ → κ}
    (sameKey : ∀ row, imageKey (image row) = key row) {sought : κ}
    (absent : sought ∉ rows.map key) :
    (shown keep sees image rows).filter
        (fun found => imageKey found = sought) = [] := by
  rw [List.filter_eq_nil_iff]
  intro found isShown
  obtain ⟨row, member, -, -, rfl⟩ := mem_shown_iff.mp isShown
  rw [decide_eq_true_eq, sameKey]
  intro isSought
  exact absent (List.mem_map.mpr ⟨row, member, isSought⟩)

/-- Rows with distinct keys are shown under their own key, once. -/
theorem shown_filter_key [DecidableEq κ] {key : ρ → κ} {imageKey : τ → κ}
    (sameKey : ∀ row, imageKey (image row) = key row)
    (unique : (rows.map key).Nodup) {row : ρ} (member : row ∈ rows)
    (kept : keep row) (seen : sees row) :
    (shown keep sees image rows).filter
        (fun found => imageKey found = key row) =
      [image row] := by
  induction rows with
  | nil =>
      cases member
  | cons first rest inductionHypothesis =>
      rw [List.map_cons, List.nodup_cons] at unique
      obtain ⟨notLater, restUnique⟩ := unique
      rw [shown_cons, List.filter_append]
      rcases List.mem_cons.mp member with isFirst | later
      · subst isFirst
        rw [if_pos ⟨kept, seen⟩, shown_filter_absent sameKey notLater]
        simp [sameKey]
      · have different : key first ≠ key row := by
          intro sameFirst
          exact notLater (List.mem_map.mpr ⟨row, later, sameFirst.symm⟩)
        rw [inductionHypothesis restUnique later]
        by_cases isShown : keep first ∧ sees first
        · simp [isShown, sameKey, different]
        · simp [isShown]

end Search

end Heritage.Store
