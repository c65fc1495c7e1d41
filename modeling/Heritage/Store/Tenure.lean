import Heritage.Store.Table

/-!
# Tenures

A tenure is a row that is in force until it is closed, and concerns posts.
When tenures are `Exclusive` no post has two in force.  A table is `Kept` by a
later one that closed some of its tenures and added others.
-/

namespace Heritage.Store

universe u v w

section Exclusive

variable {ρ : Type u} {π : Type v} (inForce : ρ → Bool)
  (concerns : π → ρ → Bool)

/-- The tenures in force that concern a post. -/
def tenuresOf (post : π) (rows : List ρ) : List ρ :=
  rows.filter fun row => inForce row && concerns post row

/-- No post has two tenures in force. -/
def Exclusive (rows : List ρ) : Prop :=
  ∀ post, (tenuresOf inForce concerns post rows).length ≤ 1

variable {inForce concerns} {post : π} {rows : List ρ}

theorem mem_tenuresOf {row : ρ} :
    row ∈ tenuresOf inForce concerns post rows ↔
      row ∈ rows ∧ inForce row ∧ concerns post row := by
  simp [tenuresOf]

theorem exclusive_nil : Exclusive inForce concerns ([] : List ρ) := by
  intro post
  simp [tenuresOf]

/-- The holder of a post is the only one. -/
theorem tenure_unique {first second : ρ}
    (exclusive : Exclusive inForce concerns rows)
    (firstHolds : first ∈ tenuresOf inForce concerns post rows)
    (secondHolds : second ∈ tenuresOf inForce concerns post rows) :
    first = second := by
  have atMostOne := exclusive post
  generalize tenuresOf inForce concerns post rows = held at *
  cases held with
  | nil =>
      cases firstHolds
  | cons holder others =>
      have alone : others = [] := by
        apply List.eq_nil_of_length_eq_zero
        simpa using atMostOne
      subst alone
      rw [List.mem_singleton.mp firstHolds, List.mem_singleton.mp secondHolds]

/-- A tenure may begin at vacant posts. -/
theorem exclusive_concat {row : ρ}
    (exclusive : Exclusive inForce concerns rows)
    (vacant :
      ∀ post,
        concerns post row → tenuresOf inForce concerns post rows = []) :
    Exclusive inForce concerns (rows ++ [row]) := by
  intro post
  by_cases taken : concerns post row
  · have nobody := vacant post taken
    unfold tenuresOf at nobody ⊢
    rw [List.filter_append, nobody, List.nil_append]
    exact List.length_filter_le _ [row]
  · have unconcerned :
        tenuresOf inForce concerns post [row] = [] := by
      simp [tenuresOf, taken]
    unfold tenuresOf at unconcerned ⊢
    rw [List.filter_append, unconcerned, List.append_nil]
    exact exclusive post

section Update

variable {κ : Type w} [DecidableEq κ] {key : ρ → κ} {sought : κ}
  {change : ρ → ρ}

/-- A change that gives no row a post it did not hold leaves posts
exclusive. -/
theorem exclusive_updateBy (exclusive : Exclusive inForce concerns rows)
    (narrows :
      ∀ post row,
        inForce (change row) && concerns post (change row) →
          inForce row && concerns post row) :
    Exclusive inForce concerns (updateBy key sought change rows) := by
  intro post
  have fewer :
      (tenuresOf inForce concerns post
          (updateBy key sought change rows)).length ≤
        (tenuresOf inForce concerns post rows).length := by
    unfold tenuresOf updateBy
    rw [← List.countP_eq_length_filter, ← List.countP_eq_length_filter,
      List.countP_map]
    apply List.countP_mono_left
    intro row _ holds
    by_cases atKey : key row = sought
    · simp only [Function.comp_apply, if_pos atKey] at holds
      exact narrows post row holds
    · simpa [atKey] using holds
  exact fewer.trans (exclusive post)

/-- Closing the one tenure of a post leaves the post vacant. -/
theorem tenuresOf_updateBy_closed {holder : ρ}
    (exclusive : Exclusive inForce concerns rows)
    (holds : holder ∈ tenuresOf inForce concerns post rows)
    (closes : ∀ row, ¬ inForce (change row)) :
    tenuresOf inForce concerns post
      (updateBy key (key holder) change rows) = [] := by
  unfold tenuresOf
  rw [List.filter_eq_nil_iff]
  intro row member stays
  obtain ⟨old, oldMember, rfl⟩ := mem_updateBy_iff.mp member
  by_cases atKey : key old = key holder
  · rw [if_pos atKey] at stays
    have inForceAgain := (Bool.and_eq_true_iff.mp stays).1
    exact closes old inForceAgain
  · rw [if_neg atKey] at stays
    have oldHolds : old ∈ tenuresOf inForce concerns post rows :=
      List.mem_filter.mpr ⟨oldMember, stays⟩
    exact atKey (congrArg key (tenure_unique exclusive oldHolds holds))

end Update

/-- A lookup of the holder finds nobody exactly at a vacant post. -/
theorem find?_holder_eq_none_iff :
    (rows.find? fun row => inForce row && concerns post row) = none ↔
      tenuresOf inForce concerns post rows = [] := by
  rw [List.find?_eq_none]
  unfold tenuresOf
  rw [List.filter_eq_nil_iff]

/-- Asking the first holder found is asking whether some holder is so. -/
theorem find?_holder_any (exclusive : Exclusive inForce concerns rows)
    (test : ρ → Bool) :
    (rows.find? fun row => inForce row && concerns post row).any test =
      rows.any fun row => inForce row && concerns post row && test row := by
  rw [Bool.eq_iff_iff, List.any_eq_true, Option.any_eq_true]
  constructor
  · rintro ⟨holder, found, passes⟩
    have holds := (List.find?_eq_some_iff_append.mp found).1
    exact
      ⟨holder, List.mem_of_find?_eq_some found,
        Bool.and_eq_true_iff.mpr ⟨holds, passes⟩⟩
  · rintro ⟨row, member, passes⟩
    obtain ⟨holds, passes⟩ := Bool.and_eq_true_iff.mp passes
    cases found :
        rows.find? fun row => inForce row && concerns post row with
    | none =>
        exact absurd holds (List.find?_eq_none.mp found row member)
    | some holder =>
        have holderHolds : holder ∈ tenuresOf inForce concerns post rows :=
          List.mem_filter.mpr
            ⟨List.mem_of_find?_eq_some found,
              (List.find?_eq_some_iff_append.mp found).1⟩
        have rowHolds : row ∈ tenuresOf inForce concerns post rows :=
          List.mem_filter.mpr ⟨member, holds⟩
        have sameRow := tenure_unique exclusive holderHolds rowHolds
        exact ⟨holder, rfl, by rw [sameRow]; exact passes⟩

end Exclusive

section Kept

variable {ρ : Type u} (closes : ρ → ρ → Prop)

/-- Every row still stands at its place, as it was or closed, and the new rows
stand behind them. -/
def Kept (before after : List ρ) : Prop :=
  ∃ kept added,
    after = kept ++ added ∧
      List.Forall₂ (fun old new => new = old ∨ closes old new) before kept

variable {closes} {before after : List ρ}

theorem kept_refl (rows : List ρ) : Kept closes rows rows := by
  refine ⟨rows, [], (List.append_nil rows).symm, ?_⟩
  exact List.forall₂_same.mpr fun _ _ => Or.inl rfl

theorem kept_append (rows added : List ρ) :
    Kept closes rows (rows ++ added) :=
  ⟨rows, added, rfl, List.forall₂_same.mpr fun _ _ => Or.inl rfl⟩

/-- Closing the one row of a key. -/
theorem kept_updateBy {κ : Type w} [DecidableEq κ] {key : ρ → κ}
    {change : ρ → ρ} {target : ρ} (unique : (before.map key).Nodup)
    (member : target ∈ before) (closed : closes target (change target)) :
    Kept closes before (updateBy key (key target) change before) := by
  refine ⟨updateBy key (key target) change before, [],
    (List.append_nil _).symm, ?_⟩
  unfold updateBy
  rw [List.forall₂_map_right_iff, List.forall₂_same]
  intro row rowMember
  by_cases atKey : key row = key target
  · have isTarget :=
      List.inj_on_of_nodup_map unique rowMember member atKey
    subst isTarget
    rw [if_pos rfl]
    exact Or.inr closed
  · rw [if_neg atKey]
    exact Or.inl rfl

/-- When a closed row can be closed no further, keeping is transitive. -/
theorem kept_trans {latest : List ρ}
    (final : ∀ first second third, closes first second → ¬ closes second third)
    (earlier : Kept closes before after) (later : Kept closes after latest) :
    Kept closes before latest := by
  obtain ⟨kept, added, rfl, forward⟩ := earlier
  obtain ⟨keptAgain, addedAgain, rfl, onward⟩ := later
  obtain ⟨onKept, onAdded⟩ :
      List.Forall₂ (fun old new => new = old ∨ closes old new) kept
          (keptAgain.take kept.length) ∧
        List.Forall₂ (fun old new => new = old ∨ closes old new) added
          (keptAgain.drop kept.length) := by
    have taken := List.forall₂_take kept.length onward
    have dropped := List.forall₂_drop kept.length onward
    rw [List.take_left] at taken
    rw [List.drop_left] at dropped
    exact ⟨taken, dropped⟩
  refine ⟨keptAgain.take kept.length,
    keptAgain.drop kept.length ++ addedAgain, ?_, ?_⟩
  · rw [← List.append_assoc, List.take_append_drop]
  · clear onward onAdded
    generalize keptAgain.take kept.length = reached at onKept
    induction forward generalizing reached with
    | nil =>
        cases onKept
        exact .nil
    | @cons old middle olds middles step _ inductionHypothesis =>
        cases onKept with
        | @cons _ new _ news next rest =>
            refine .cons ?_ (inductionHypothesis news rest)
            rcases step with rfl | closed
            · exact next
            · rcases next with rfl | closedAgain
              · exact Or.inr closed
              · exact absurd closedAgain (final old middle new closed)

end Kept

end Heritage.Store
