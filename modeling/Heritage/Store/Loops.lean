import Heritage.Store.Transaction

/-!
# Fallible loops

A loop that turns every row into a result and stops at the first failure.
-/

namespace Heritage.Store

universe u v

variable {ε : Type u} {ρ : Type v} {α : Type} {rows : List ρ}
  {convert : ρ → Except ε α}

/-- The loop succeeds with the results of its rows. -/
theorem mapM_eq_ok_iff {results : List α} :
    rows.mapM convert = .ok results ↔
      List.Forall₂ (fun row result => convert row = .ok result) rows
        results := by
  induction rows generalizing results with
  | nil =>
      rw [List.mapM_nil, List.forall₂_nil_left_iff]
      constructor
      · intro same
        exact (Except.ok.inj same).symm
      · rintro rfl
        rfl
  | cons row rest inductionHypothesis =>
      rw [List.mapM_cons, bind_eq_ok]
      constructor
      · rintro ⟨result, converted, continued⟩
        obtain ⟨others, restConverted, same⟩ := bind_eq_ok.mp continued
        obtain rfl : result :: others = results := Except.ok.inj same
        exact
          List.Forall₂.cons converted (inductionHypothesis.mp restConverted)
      · intro matched
        cases matched with
        | cons converted restMatched =>
            refine ⟨_, converted, ?_⟩
            rw [inductionHypothesis.mpr restMatched]
            rfl

/-- A loop whose rows all convert. -/
theorem mapM_eq_ok_map {result : ρ → α}
    (converts : ∀ row ∈ rows, convert row = .ok (result row)) :
    rows.mapM convert = .ok (rows.map result) := by
  rw [mapM_eq_ok_iff, List.forall₂_map_right_iff, List.forall₂_same]
  exact converts

/-- What holds of the result of every row holds along the results. -/
theorem exists_results {shows : ρ → α → Prop}
    (converts :
      ∀ row ∈ rows, ∃ result, convert row = .ok result ∧ shows row result) :
    ∃ results,
      rows.mapM convert = .ok results ∧ List.Forall₂ shows rows results := by
  induction rows with
  | nil =>
      exact ⟨[], rfl, List.Forall₂.nil⟩
  | cons row rest inductionHypothesis =>
      obtain ⟨result, converted, shown⟩ := converts row List.mem_cons_self
      obtain ⟨results, restConverted, restShown⟩ :=
        inductionHypothesis fun other member =>
          converts other (List.mem_cons_of_mem _ member)
      refine ⟨result :: results, ?_, List.Forall₂.cons shown restShown⟩
      rw [List.mapM_cons, converted, restConverted]
      rfl

/-- A loop succeeds when every row converts. -/
theorem exists_mapM_eq_ok
    (converts : ∀ row ∈ rows, ∃ result, convert row = .ok result) :
    ∃ results, rows.mapM convert = .ok results := by
  have shown :
      ∀ row ∈ rows, ∃ result, convert row = .ok result ∧ True := by
    intro row member
    obtain ⟨result, converted⟩ := converts row member
    exact ⟨result, converted, trivial⟩
  obtain ⟨results, converted, -⟩ := exists_results shown
  exact ⟨results, converted⟩

theorem length_of_mapM {results : List α}
    (converted : rows.mapM convert = .ok results) :
    results.length = rows.length :=
  (mapM_eq_ok_iff.mp converted).length_eq.symm

/-- What holds of every converted row holds of every result. -/
theorem forall_mem_of_mapM {results : List α} {statement : α → Prop}
    (converted : rows.mapM convert = .ok results)
    (holds :
      ∀ row ∈ rows, ∀ result, convert row = .ok result → statement result) :
    ∀ result ∈ results, statement result := by
  have matched := mapM_eq_ok_iff.mp converted
  clear converted
  induction matched with
  | nil =>
      simp
  | @cons row result rest others convertedRow _ inductionHypothesis =>
      intro item member
      rcases List.mem_cons.mp member with rfl | later
      · exact holds row List.mem_cons_self item convertedRow
      · apply inductionHypothesis _ item later
        intro other otherMember
        exact holds other (List.mem_cons_of_mem _ otherMember)

theorem bind_map {β γ : Type} (first : Except ε α) (change : α → β)
    (second : β → Except ε γ) :
    (first.map change).bind second =
      first.bind fun value => second (change value) := by
  cases first with
  | error failure =>
      rfl
  | ok value =>
      rfl

/-- The results of some of the rows. -/
theorem forall₂_filter_zip {relation : ρ → α → Prop} {results : List α}
    (keep : ρ → Bool) (matched : List.Forall₂ relation rows results) :
    List.Forall₂ relation (rows.filter keep)
      (((rows.zip results).filter fun pair => keep pair.1).map Prod.snd) := by
  induction matched with
  | nil =>
      exact List.Forall₂.nil
  | @cons row result rest others related _ inductionHypothesis =>
      cases kept : keep row with
      | true =>
          simpa [kept] using List.Forall₂.cons related inductionHypothesis
      | false =>
          simpa [kept] using inductionHypothesis

end Heritage.Store
