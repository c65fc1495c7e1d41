import Mathlib

/-!
# Histories

A history is a list of what happened, oldest first.  `lastSplit` finds the
latest item of a kind and everything after it, and follows the history as
items are added at its end.  A `Chained` history leads from one value to
another without a gap.
-/

namespace Heritage.Store

universe u v

variable {α : Type u} {κ : Type v} {kind : α → Bool} {history : List α}

/-- The latest item of a kind, with what followed it. -/
def lastSplit (kind : α → Bool) : List α → Option (α × List α)
  | [] => none
  | item :: rest =>
      (lastSplit kind rest).or (if kind item then some (item, rest) else none)

theorem lastSplit_concat_of_kind {item : α} (isKind : kind item) :
    lastSplit kind (history ++ [item]) = some (item, []) := by
  induction history with
  | nil =>
      simp [lastSplit, isKind]
  | cons head rest inductionHypothesis =>
      simp [lastSplit, inductionHypothesis]

theorem lastSplit_concat_of_not_kind {item : α} (notKind : ¬ kind item) :
    lastSplit kind (history ++ [item]) =
      (lastSplit kind history).map fun found =>
        (found.1, found.2 ++ [item]) := by
  induction history with
  | nil =>
      simp [lastSplit, notKind]
  | cons head rest inductionHypothesis =>
      simp only [List.cons_append, lastSplit, inductionHypothesis]
      cases lastSplit kind rest with
      | none =>
          cases kind head <;> rfl
      | some found =>
          rfl

/-- The latest item splits the history, and no later item is of its kind. -/
theorem split_of_lastSplit {item : α} {later : List α}
    (latest : lastSplit kind history = some (item, later)) :
    (∃ earlier, history = earlier ++ item :: later) ∧
      ∀ other ∈ later, ¬ kind other := by
  have noneOfKind :
      ∀ {items : List α}, lastSplit kind items = none →
        ∀ other ∈ items, ¬ kind other := by
    intro items
    induction items with
    | nil =>
        intro _ other member
        cases member
    | cons head rest inductionHypothesis =>
        intro nothing other member
        obtain ⟨restNothing, headNothing⟩ := Option.or_eq_none_iff.mp nothing
        rcases List.mem_cons.mp member with rfl | inRest
        · intro isKind
          rw [if_pos isKind] at headNothing
          cases headNothing
        · exact inductionHypothesis restNothing other inRest
  induction history with
  | nil =>
      cases latest
  | cons head rest inductionHypothesis =>
      rcases Option.or_eq_some_iff.mp latest with
        inRest | ⟨restNothing, atHead⟩
      · obtain ⟨⟨earlier, split⟩, noneLater⟩ := inductionHypothesis inRest
        exact ⟨⟨head :: earlier, by rw [split]; rfl⟩, noneLater⟩
      · split at atHead
        · cases atHead
          exact ⟨⟨[], rfl⟩, noneOfKind restNothing⟩
        · cases atHead

/-- With distinct keys one key occurs at one place of the history. -/
theorem later_eq_of_key {key : α → Option κ} {value : κ}
    (distinct : (history.filterMap key).Nodup)
    {first second : α} {firstEarlier firstLater secondEarlier
      secondLater : List α}
    (firstSplit : history = firstEarlier ++ first :: firstLater)
    (secondSplit : history = secondEarlier ++ second :: secondLater)
    (firstKey : key first = some value)
    (secondKey : key second = some value) :
    first = second ∧ firstLater = secondLater := by
  induction history generalizing firstEarlier secondEarlier with
  | nil =>
      exact absurd firstSplit.symm (by simp)
  | cons head rest inductionHypothesis =>
      have listed :
          ∀ {earlier later : List α} {item : α},
            rest = earlier ++ item :: later → key item = some value →
              value ∈ rest.filterMap key := by
        intro earlier later item split keyed
        refine List.mem_filterMap.mpr ⟨item, ?_, keyed⟩
        rw [split]
        exact List.mem_append_right earlier (List.mem_cons_self ..)
      have headUnlisted :
          key head = some value → value ∉ rest.filterMap key := by
        intro headKey
        rw [List.filterMap_cons_some headKey] at distinct
        exact (List.nodup_cons.mp distinct).1
      have restDistinct : (rest.filterMap key).Nodup :=
        distinct.sublist ((List.sublist_cons_self head rest).filterMap key)
      cases firstEarlier with
      | nil =>
          obtain ⟨rfl, rfl⟩ := List.cons_eq_cons.mp firstSplit
          cases secondEarlier with
          | nil =>
              obtain ⟨rfl, rfl⟩ := List.cons_eq_cons.mp secondSplit
              exact ⟨rfl, rfl⟩
          | cons _ others =>
              obtain ⟨-, restSplit⟩ := List.cons_eq_cons.mp secondSplit
              exact
                absurd (listed restSplit secondKey) (headUnlisted firstKey)
      | cons _ others =>
          obtain ⟨rfl, firstRest⟩ := List.cons_eq_cons.mp firstSplit
          cases secondEarlier with
          | nil =>
              obtain ⟨rfl, rfl⟩ := List.cons_eq_cons.mp secondSplit
              exact
                absurd (listed firstRest firstKey) (headUnlisted secondKey)
          | cons _ others =>
              obtain ⟨-, secondRest⟩ := List.cons_eq_cons.mp secondSplit
              exact inductionHypothesis restDistinct firstRest secondRest

section Chained

universe w

variable {τ : Type w} {source target : α → τ}

/-- Every item starts where the one before it ended, the first at `start`, and
the last ends at `finish`. -/
def Chained (source target : α → τ) : τ → List α → τ → Prop
  | start, [], finish => start = finish
  | start, item :: rest, finish =>
      source item = start ∧ Chained source target (target item) rest finish

theorem chained_concat {start finish : τ} {item : α}
    (chained : Chained source target start history (source item))
    (ends : target item = finish) :
    Chained source target start (history ++ [item]) finish := by
  induction history generalizing start with
  | nil =>
      exact ⟨chained.symm, ends⟩
  | cons head rest inductionHypothesis =>
      exact ⟨chained.1, inductionHypothesis chained.2⟩

/-- A chain of images is a chain. -/
theorem chained_of_map {β : Type u} {image : β → α} {items : List β}
    {start finish : τ}
    (chained : Chained source target start (items.map image) finish) :
    Chained (source ∘ image) (target ∘ image) start items finish := by
  induction items generalizing start with
  | nil =>
      exact chained
  | cons head rest inductionHypothesis =>
      exact ⟨chained.1, inductionHypothesis chained.2⟩

end Chained

end Heritage.Store
