import Heritage.Store.Table

/-!
# Counters that are dropped

A table of counters is bumped one key at a time, and the counters of stale
keys are dropped.  As long as its key was not stale at any drop, a counter is
the number of bumps so far.
-/

namespace Heritage.Store

structure Counter (κ : Type) where
  key : κ
  count : Nat
  deriving DecidableEq, Repr

section Counters

variable {κ : Type} [DecidableEq κ]

def Counter.increment (counter : Counter κ) : Counter κ :=
  { counter with count := counter.count + 1 }

/-- Increment the counter of a key, or insert it with the count one. -/
def bump (key : κ) (counters : List (Counter κ)) : List (Counter κ) :=
  match findBy Counter.key key counters with
  | none => counters ++ [⟨key, 1⟩]
  | some _ => updateBy Counter.key key Counter.increment counters

/-- Delete the counters of the stale keys. -/
def dropStale (stale : κ → Bool) (counters : List (Counter κ)) :
    List (Counter κ) :=
  counters.filter fun counter => ¬ stale counter.key

def countOf (key : κ) (counters : List (Counter κ)) : Nat :=
  ((findBy Counter.key key counters).map Counter.count).getD 0

variable {key other : κ} {counters : List (Counter κ)} {stale : κ → Bool}

theorem countOf_bump_self :
    countOf key (bump key counters) = countOf key counters + 1 := by
  unfold bump
  cases found : findBy Counter.key key counters with
  | none =>
      have inserted :
          findBy Counter.key key (counters ++ [⟨key, 1⟩]) = some ⟨key, 1⟩ :=
        @findBy_concat_self _ _ _ Counter.key counters ⟨key, 1⟩ found
      simp [countOf, found, inserted]
  | some counter =>
      have incremented :
          findBy Counter.key key
              (updateBy Counter.key key Counter.increment counters) =
            some counter.increment :=
        findBy_updateBy_self (fun _ => rfl) found
      simp [countOf, found, incremented, Counter.increment]

theorem countOf_bump_other (different : key ≠ other) :
    countOf key (bump other counters) = countOf key counters := by
  unfold bump
  cases found : findBy Counter.key other counters with
  | none =>
      simp [countOf, findBy, different.symm]
  | some counter =>
      have kept :
          findBy Counter.key key
              (updateBy Counter.key other Counter.increment counters) =
            findBy Counter.key key counters :=
        findBy_updateBy_other (fun _ => rfl) different
      simp only [countOf, kept]

/-- A drop spares the keys that are not stale. -/
theorem countOf_dropStale (spared : ¬ stale key) :
    countOf key (dropStale stale counters) = countOf key counters := by
  have sameFound :
      findBy Counter.key key (dropStale stale counters) =
        findBy Counter.key key counters := by
    simp only [findBy, dropStale, List.find?_filter]
    congr 1
    funext counter
    by_cases isKey : counter.key = key
    · simp [isKey, spared]
    · simp [isKey]
  simp only [countOf, sameFound]

inductive CounterEvent (κ : Type) where
  | bump (key : κ)
  | drop (stale : κ → Bool)

def CounterEvent.apply (counters : List (Counter κ)) :
    CounterEvent κ → List (Counter κ)
  | .bump key => Store.bump key counters
  | .drop stale => dropStale stale counters

def CounterEvent.isBump (key : κ) : CounterEvent κ → Bool
  | .bump bumped => bumped = key
  | .drop _ => false

def countersAfter (events : List (CounterEvent κ)) : List (Counter κ) :=
  events.foldl CounterEvent.apply []

def bumps (key : κ) (events : List (CounterEvent κ)) : Nat :=
  events.countP (CounterEvent.isBump key)

/-- No drop of the run deletes the counter of `key`. -/
def Spares (key : κ) (events : List (CounterEvent κ)) : Prop :=
  ∀ stale, CounterEvent.drop stale ∈ events → ¬ stale key

theorem countersAfter_concat (events : List (CounterEvent κ))
    (event : CounterEvent κ) :
    countersAfter (events ++ [event]) = event.apply (countersAfter events) := by
  simp [countersAfter, List.foldl_append]

theorem bumps_concat (events : List (CounterEvent κ))
    (event : CounterEvent κ) :
    bumps key (events ++ [event]) =
      bumps key events + if event.isBump key then 1 else 0 := by
  simp [bumps, List.countP_append, List.countP_singleton]

/-- The counter of a spared key is the number of its bumps. -/
theorem countOf_countersAfter {events : List (CounterEvent κ)}
    (spares : Spares key events) :
    countOf key (countersAfter events) = bumps key events := by
  induction events using List.reverseRecOn with
  | nil =>
      rfl
  | append_singleton events event inductionHypothesis =>
      have earlier :
          countOf key (countersAfter events) = bumps key events :=
        inductionHypothesis fun stale dropped =>
          spares stale (List.mem_append_left _ dropped)
      rw [countersAfter_concat, bumps_concat]
      cases event with
      | bump bumped =>
          by_cases isKey : bumped = key
          · subst isKey
            simp [CounterEvent.apply, CounterEvent.isBump, countOf_bump_self,
              earlier]
          · simp [CounterEvent.apply, CounterEvent.isBump, isKey,
              countOf_bump_other (Ne.symm isKey), earlier]
      | drop stale =>
          have spared : ¬ stale key := spares stale (by simp)
          simp [CounterEvent.apply, CounterEvent.isBump,
            countOf_dropStale spared, earlier]

end Counters

end Heritage.Store
