import Mathlib

/-!
# Bounded retries

A loop makes numbered attempts, each of which succeeds or fails.  A success
ends the loop; a failure is either answered or tried again.  What such a loop
answers is decided by its last attempt alone.
-/

namespace Heritage.Store

universe u v

variable {ε : Type u} {α : Type v}

/-- What a loop answers, and how many attempts it made. -/
structure Finished (ε : Type u) (α : Type v) where
  result : Except ε α
  attempts : Nat

/-- The successes among the first attempts. -/
def successes (outcome : Nat → Except ε α) (attempts : Nat) : Nat :=
  ((Finset.Icc 1 attempts).filter fun number => (outcome number).isOk).card

/-- The loop over the numbers from this one to the limit.  `caught` answers the
failure of an attempt, or goes on; `trailing` stands behind the loop. -/
def loopFrom (limit : Nat) (outcome : Nat → Except ε α)
    (caught : Nat → ε → Option (Except ε α)) (trailing : Except ε α)
    (number : Nat) : Finished ε α :=
  if number ≤ limit then
    match outcome number with
    | .ok value => ⟨.ok value, number⟩
    | .error failure =>
        match caught number failure with
        | some result => ⟨result, number⟩
        | none => loopFrom limit outcome caught trailing (number + 1)
  else
    ⟨trailing, number - 1⟩
termination_by limit + 1 - number

/-- The attempts from this number on failed and were tried again, up to the
last one, which decided the answer. -/
structure DecidedByLast (outcome : Nat → Except ε α)
    (caught : Nat → ε → Option (Except ε α)) (number : Nat)
    (finished : Finished ε α) : Prop where
  started : number ≤ finished.attempts
  retried :
    ∀ earlier, number ≤ earlier → earlier < finished.attempts →
      ∃ failure, outcome earlier = .error failure ∧
        caught earlier failure = none
  answer :
    (∃ value, outcome finished.attempts = .ok value ∧
        finished.result = .ok value) ∨
      ∃ failure, outcome finished.attempts = .error failure ∧
        caught finished.attempts failure = some finished.result

variable {outcome : Nat → Except ε α}
  {caught : Nat → ε → Option (Except ε α)} {number : Nat}

namespace DecidedByLast

theorem of_ok {value : α} (succeeds : outcome number = .ok value) :
    DecidedByLast outcome caught number ⟨.ok value, number⟩ where
  started := Nat.le_refl number
  retried := by
    intro earlier atLeast below
    exact absurd below (Nat.not_lt.mpr atLeast)
  answer := Or.inl ⟨value, succeeds, rfl⟩

theorem of_caught {failure : ε} {result : Except ε α}
    (fails : outcome number = .error failure)
    (answered : caught number failure = some result) :
    DecidedByLast outcome caught number ⟨result, number⟩ where
  started := Nat.le_refl number
  retried := by
    intro earlier atLeast below
    exact absurd below (Nat.not_lt.mpr atLeast)
  answer := Or.inr ⟨failure, fails, answered⟩

theorem of_retried {failure : ε} {finished : Finished ε α}
    (fails : outcome number = .error failure)
    (goesOn : caught number failure = none)
    (later : DecidedByLast outcome caught (number + 1) finished) :
    DecidedByLast outcome caught number finished where
  started := Nat.le_of_succ_le later.started
  retried := by
    intro earlier atLeast below
    rcases Nat.eq_or_lt_of_le atLeast with rfl | above
    · exact ⟨failure, fails, goesOn⟩
    · exact later.retried earlier above below
  answer := later.answer

variable {finished : Finished ε α}

/-- The attempts that are not the last one are those that are tried again. -/
theorem lt_iff (decided : DecidedByLast outcome caught number finished)
    {earlier : Nat} (atLeast : number ≤ earlier)
    (atMost : earlier ≤ finished.attempts) :
    earlier < finished.attempts ↔
      ∃ failure, outcome earlier = .error failure ∧
        caught earlier failure = none := by
  constructor
  · exact decided.retried earlier atLeast
  · rintro ⟨failure, fails, goesOn⟩
    rcases Nat.eq_or_lt_of_le atMost with rfl | below
    · rcases decided.answer with
        ⟨value, succeeds, -⟩ | ⟨other, otherFails, answered⟩
      · rw [fails] at succeeds
        cases succeeds
      · obtain rfl := Except.error.inj (fails.symm.trans otherFails)
        rw [goesOn] at answered
        cases answered
    · exact below

/-- An attempt that succeeds is the last one. -/
theorem eq_last_of_ok (decided : DecidedByLast outcome caught 1 finished)
    {value : α} (atLeast : 1 ≤ number) (atMost : number ≤ finished.attempts)
    (succeeds : outcome number = .ok value) :
    number = finished.attempts := by
  rcases Nat.eq_or_lt_of_le atMost with last | below
  · exact last
  · obtain ⟨failure, fails, -⟩ := decided.retried number atLeast below
    rw [succeeds] at fails
    cases fails

theorem successes_le_one (decided : DecidedByLast outcome caught 1 finished) :
    successes outcome finished.attempts ≤ 1 := by
  apply Finset.card_le_one.mpr
  have isLast :
      ∀ number ∈ (Finset.Icc 1 finished.attempts).filter
          (fun number => (outcome number).isOk),
        number = finished.attempts := by
    intro number member
    obtain ⟨inRange, isOk⟩ := Finset.mem_filter.mp member
    obtain ⟨atLeast, atMost⟩ := Finset.mem_Icc.mp inRange
    cases succeeds : outcome number with
    | error failure =>
        rw [succeeds] at isOk
        exact absurd isOk Bool.false_ne_true
    | ok value =>
        exact decided.eq_last_of_ok atLeast atMost succeeds
  intro first firstMember second secondMember
  rw [isLast first firstMember, isLast second secondMember]

/-- When the last attempt failed, none succeeded. -/
theorem successes_eq_zero (decided : DecidedByLast outcome caught 1 finished)
    {failure : ε} (fails : outcome finished.attempts = .error failure) :
    successes outcome finished.attempts = 0 := by
  apply Finset.card_eq_zero.mpr
  apply Finset.filter_eq_empty_iff.mpr
  intro number inRange isOk
  obtain ⟨atLeast, atMost⟩ := Finset.mem_Icc.mp inRange
  cases outcomeOf : outcome number with
  | error _ =>
      rw [outcomeOf] at isOk
      exact Bool.false_ne_true isOk
  | ok value =>
      have last := decided.eq_last_of_ok atLeast atMost outcomeOf
      rw [last, fails] at outcomeOf
      cases outcomeOf

/-- An error is the answer to a failure. -/
theorem failed_of_error (decided : DecidedByLast outcome caught number finished)
    {error : ε} (answered : finished.result = .error error) :
    ∃ failure, outcome finished.attempts = .error failure ∧
      caught finished.attempts failure = some (.error error) := by
  rcases decided.answer with ⟨value, -, same⟩ | ⟨failure, fails, same⟩
  · rw [answered] at same
    cases same
  · rw [answered] at same
    exact ⟨failure, fails, same⟩

/-- When errors are never answered by a value, the value is that of the
attempt that succeeded. -/
theorem ok_iff (decided : DecidedByLast outcome caught 1 finished)
    (onlyErrors :
      ∀ number failure value, caught number failure ≠ some (.ok value))
    {value : α} :
    finished.result = .ok value ↔
      ∃ number, 1 ≤ number ∧ number ≤ finished.attempts ∧
        outcome number = .ok value := by
  constructor
  · intro answered
    rcases decided.answer with ⟨stored, succeeds, same⟩ | ⟨failure, _, same⟩
    · rw [answered] at same
      rw [← Except.ok.inj same] at succeeds
      exact ⟨_, decided.started, Nat.le_refl _, succeeds⟩
    · rw [answered] at same
      exact absurd same (onlyErrors _ _ _)
  · rintro ⟨number, atLeast, atMost, succeeds⟩
    rw [decided.eq_last_of_ok atLeast atMost succeeds] at succeeds
    rcases decided.answer with ⟨stored, stands, same⟩ | ⟨failure, fails, _⟩
    · rw [succeeds] at stands
      rw [same, stands]
    · rw [succeeds] at fails
      cases fails

end DecidedByLast

/-- A loop that never goes on at its limit is decided by its last attempt. -/
theorem loopFrom_decidedByLast {limit : Nat} {trailing : Except ε α}
    (stops : ∀ number failure, caught number failure = none → number < limit)
    (within : number ≤ limit) :
    DecidedByLast outcome caught number
        (loopFrom limit outcome caught trailing number) ∧
      (loopFrom limit outcome caught trailing number).attempts ≤ limit := by
  fun_induction loopFrom limit outcome caught trailing number with
  | case1 number within value succeeds =>
      exact ⟨DecidedByLast.of_ok succeeds, within⟩
  | case2 number within failure fails result answered =>
      exact ⟨DecidedByLast.of_caught fails answered, within⟩
  | case3 number within failure fails goesOn inductionHypothesis =>
      obtain ⟨later, bounded⟩ :=
        inductionHypothesis (stops number failure goesOn)
      exact ⟨DecidedByLast.of_retried fails goesOn later, bounded⟩
  | case4 number outside =>
      exact absurd within outside

section Nested

variable {inner : Nat → Nat → Except ε α} {runs : Nat → Finished ε α}
  {caughtInside caughtOutside : Nat → ε → Option (Except ε α)}
  {finished : Finished ε α}

theorem sum_attempts_le {limit count : Nat}
    (bounded : ∀ number, (runs number).attempts ≤ limit) :
    ∑ number ∈ Finset.Icc 1 count, (runs number).attempts ≤ count * limit := by
  have total :=
    Finset.sum_le_card_nsmul (Finset.Icc 1 count)
      (fun number => (runs number).attempts) limit
      (fun number _ => bounded number)
  rwa [Nat.card_Icc, Nat.add_sub_cancel, smul_eq_mul] at total

variable
  (inside :
    ∀ number, DecidedByLast (inner number) caughtInside 1 (runs number))

include inside

/-- A run that answers an error had no success. -/
theorem successes_of_error
    {error : ε} (answered : (runs number).result = .error error) :
    successes (inner number) (runs number).attempts = 0 := by
  obtain ⟨failure, fails, -⟩ := (inside number).failed_of_error answered
  exact (inside number).successes_eq_zero fails

/-- Only the last run has a success. -/
theorem sum_successes
    (outside :
      DecidedByLast (fun number => (runs number).result) caughtOutside 1
        finished) :
    ∑ number ∈ Finset.Icc 1 finished.attempts,
        successes (inner number) (runs number).attempts =
      successes (inner finished.attempts)
        (runs finished.attempts).attempts := by
  apply Finset.sum_eq_single finished.attempts
  · intro number inRange notLast
    obtain ⟨atLeast, atMost⟩ := Finset.mem_Icc.mp inRange
    obtain ⟨failure, fails, -⟩ :=
      outside.retried number atLeast (Nat.lt_of_le_of_ne atMost notLast)
    exact successes_of_error inside fails
  · intro notInRange
    exact absurd
      (Finset.mem_Icc.mpr ⟨outside.started, Nat.le_refl _⟩) notInRange

/-- When the last run answers an error, no run had a success. -/
theorem sum_successes_of_error
    (outside :
      DecidedByLast (fun number => (runs number).result) caughtOutside 1
        finished)
    {failure : ε} (fails : (runs finished.attempts).result = .error failure) :
    ∑ number ∈ Finset.Icc 1 finished.attempts,
        successes (inner number) (runs number).attempts = 0 := by
  rw [sum_successes inside outside]
  exact successes_of_error inside fails

end Nested

end Heritage.Store
