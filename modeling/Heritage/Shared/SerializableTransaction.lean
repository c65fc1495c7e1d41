import Heritage.Shared.PrismaErrors
import Heritage.Store.Retry
import Heritage.Store.Transaction

/-!
# Serialisable transactions with retries

`serializable-transaction.ts`: a transaction that loses a write conflict is run
again, three times at most.
-/

namespace Heritage

open Heritage.Store

variable {δ α : Type}

/-- What a transaction meets: what it draws from outside the database, the rows
it finds, and the error the database ends it with, if any. -/
structure Turn (κ σ δ : Type) where
  context : κ
  found : σ
  interruption : Option (Thrown δ)

section Transaction

variable {κ σ ε : Type} {thrownOf : ε → Thrown δ}
  {body : κ → σ → Except ε (α × σ)} {turn : Turn κ σ δ}

/-- `$transaction`: the value of a body that commits, with the rows it leaves.
An error of the body or of the database rolls it back. -/
def runTransaction (thrownOf : ε → Thrown δ)
    (body : κ → σ → Except ε (α × σ)) (turn : Turn κ σ δ) :
    Except (Thrown δ) α × σ :=
  match turn.interruption with
  | some error => (.error error, turn.found)
  | none =>
      let (result, stored) := transact (body turn.context) turn.found
      (result.mapError thrownOf, stored)

/-- A read outside a transaction. -/
def readOutside (turn : Turn κ σ δ) (read : σ → Except (Thrown δ) α) :
    Except (Thrown δ) α :=
  match turn.interruption with
  | some error => .error error
  | none => read turn.found

theorem read_of_readOutside {read : σ → Except (Thrown δ) α} {value : α}
    (returns : readOutside turn read = .ok value) :
    read turn.found = .ok value := by
  unfold readOutside at returns
  cases interruption : turn.interruption with
  | some error =>
      rw [interruption] at returns
      cases returns
  | none =>
      rw [interruption] at returns
      exact returns

/-- A transaction that returns has committed what its body wrote. -/
theorem runTransaction_committed {value : α}
    (returns : (runTransaction thrownOf body turn).1 = .ok value) :
    body turn.context turn.found =
      .ok (value, (runTransaction thrownOf body turn).2) := by
  unfold runTransaction at returns ⊢
  cases interruption : turn.interruption with
  | some error =>
      rw [interruption] at returns
      cases returns
  | none =>
      rw [interruption] at returns
      cases result : body turn.context turn.found with
      | error failure =>
          rw [transact_of_error result] at returns
          cases returns
      | ok committed =>
          rw [transact_of_ok result] at returns
          obtain rfl := Except.ok.inj returns
          rw [transact_of_ok result]

theorem runTransaction_rolledBack {error : Thrown δ}
    (throws : (runTransaction thrownOf body turn).1 = .error error) :
    (runTransaction thrownOf body turn).2 = turn.found := by
  unfold runTransaction at throws ⊢
  cases interruption : turn.interruption with
  | some error =>
      rfl
  | none =>
      rw [interruption] at throws
      cases result : body turn.context turn.found with
      | error failure =>
          rw [transact_of_error result]
      | ok committed =>
          rw [transact_of_ok result] at throws
          cases throws

end Transaction

def maxSerializableRetries : Nat := 3

/-- The `catch` of an attempt; `none` goes on to the next one. -/
def caughtConflict (attempt : Nat) (error : Thrown δ) :
    Option (Except (Thrown δ) α) :=
  if ¬ isRetryableWriteConflict error then
    some (.error error)
  else if attempt ≥ maxSerializableRetries then
    some (.error (.retriesExhausted attempt error))
  else
    none

theorem caughtConflict_eq_none {attempt : Nat} {error : Thrown δ} :
    (caughtConflict attempt error : Option (Except (Thrown δ) α)) = none ↔
      isRetryableWriteConflict error ∧ attempt < maxSerializableRetries := by
  unfold caughtConflict
  by_cases conflict : isRetryableWriteConflict error
  · simp [conflict]
  · simp [conflict]

/-- The loop from this attempt on; `outcome` is what `$transaction` makes of
each. -/
def runSerializableFrom (outcome : Nat → Except (Thrown δ) α)
    (attempt : Nat) : Finished (Thrown δ) α :=
  match outcome attempt with
  | .ok value => ⟨.ok value, attempt⟩
  | .error error =>
      match goesOn : (caughtConflict attempt error :
        Option (Except (Thrown δ) α)) with
      | some result => ⟨result, attempt⟩
      | none => runSerializableFrom outcome (attempt + 1)
termination_by maxSerializableRetries - attempt
decreasing_by
  have below := (caughtConflict_eq_none.mp goesOn).2
  omega

def runSerializableWithRetry (outcome : Nat → Except (Thrown δ) α) :
    Finished (Thrown δ) α :=
  runSerializableFrom outcome 1

theorem runSerializableFrom_decidedByLast
    (outcome : Nat → Except (Thrown δ) α) {attempt : Nat}
    (within : attempt ≤ maxSerializableRetries) :
    DecidedByLast outcome caughtConflict attempt
        (runSerializableFrom outcome attempt) ∧
      (runSerializableFrom outcome attempt).attempts ≤
        maxSerializableRetries := by
  fun_induction runSerializableFrom outcome attempt with
  | case1 attempt value succeeds =>
      exact ⟨DecidedByLast.of_ok succeeds, within⟩
  | case2 attempt error fails result answered =>
      exact ⟨DecidedByLast.of_caught fails answered, within⟩
  | case3 attempt error fails goesOn inductionHypothesis =>
      obtain ⟨later, bounded⟩ :=
        inductionHypothesis (caughtConflict_eq_none.mp goesOn).2
      exact ⟨DecidedByLast.of_retried fails goesOn later, bounded⟩

theorem runSerializableWithRetry_decidedByLast
    (outcome : Nat → Except (Thrown δ) α) :
    DecidedByLast outcome caughtConflict 1 (runSerializableWithRetry outcome) :=
  (runSerializableFrom_decidedByLast outcome (by decide)).1

theorem runSerializableWithRetry_attempts_le
    (outcome : Nat → Except (Thrown δ) α) :
    (runSerializableWithRetry outcome).attempts ≤ 3 :=
  (runSerializableFrom_decidedByLast outcome (by decide)).2

/-- What holds of a run, whatever the outcomes of its attempts. -/
structure SerializableRetry (outcome : Nat → Except (Thrown δ) α)
    (run : Finished (Thrown δ) α) : Prop where
  stops : 1 ≤ run.attempts ∧ run.attempts ≤ 3
  commitsAtMostOnce : successes outcome run.attempts ≤ 1
  returnsCommitted :
    ∀ value, run.result = .ok value ↔
      ∃ attempt, 1 ≤ attempt ∧ attempt ≤ run.attempts ∧
        outcome attempt = .ok value
  retriesConflicts :
    ∀ attempt, 1 ≤ attempt → attempt ≤ run.attempts →
      (attempt < run.attempts ↔
        attempt < 3 ∧
          ∃ error, outcome attempt = .error error ∧ WriteConflict error)
  rethrows :
    ∀ attempt error, 1 ≤ attempt → attempt ≤ run.attempts →
      outcome attempt = .error error → ¬ WriteConflict error →
        attempt = run.attempts ∧ run.result = .error error
  /-- An exhaustion is that of three conflicts, or the error of an attempt. -/
  exhaustion :
    ∀ attempts cause, run.result = .error (.retriesExhausted attempts cause) →
      outcome run.attempts = .error (.retriesExhausted attempts cause) ∨
        attempts = 3 ∧ run.attempts = 3 ∧ outcome 3 = .error cause ∧
          ∀ attempt, 1 ≤ attempt → attempt ≤ 3 →
            ∃ error, outcome attempt = .error error ∧ WriteConflict error

theorem caughtConflict_eq_some {attempt : Nat} {error : Thrown δ}
    {result : Except (Thrown δ) α}
    (answered : caughtConflict attempt error = some result) :
    (¬ WriteConflict error ∧ result = .error error) ∨
      WriteConflict error ∧ maxSerializableRetries ≤ attempt ∧
        result = .error (.retriesExhausted attempt error) := by
  unfold caughtConflict at answered
  rw [← isRetryableWriteConflict_iff]
  by_cases conflict : isRetryableWriteConflict error
  · rw [if_neg (not_not.mpr conflict)] at answered
    obtain ⟨atLimit, same⟩ := Option.ite_none_right_eq_some.mp answered
    exact Or.inr ⟨conflict, atLimit, (Option.some.inj same).symm⟩
  · rw [if_pos conflict] at answered
    exact Or.inl ⟨conflict, (Option.some.inj answered).symm⟩

theorem caughtConflict_ne_ok {attempt : Nat} {error : Thrown δ} {value : α} :
    caughtConflict attempt error ≠ some (.ok value) := by
  intro answered
  rcases caughtConflict_eq_some answered with ⟨-, same⟩ | ⟨-, -, same⟩
  · cases same
  · cases same

theorem serializableRetry (outcome : Nat → Except (Thrown δ) α) :
    SerializableRetry outcome (runSerializableWithRetry outcome) := by
  have decided := runSerializableWithRetry_decidedByLast outcome
  have bounded := runSerializableWithRetry_attempts_le outcome
  have conflicts :
      ∀ attempt, 1 ≤ attempt →
        attempt ≤ (runSerializableWithRetry outcome).attempts →
          (attempt < (runSerializableWithRetry outcome).attempts ↔
            attempt < 3 ∧
              ∃ error, outcome attempt = .error error ∧
                WriteConflict error) := by
    intro attempt atLeast atMost
    rw [decided.lt_iff atLeast atMost]
    constructor
    · rintro ⟨error, fails, goesOn⟩
      obtain ⟨conflict, below⟩ := caughtConflict_eq_none.mp goesOn
      exact ⟨below, error, fails, isRetryableWriteConflict_iff.mp conflict⟩
    · rintro ⟨below, error, fails, conflict⟩
      exact ⟨error, fails,
        caughtConflict_eq_none.mpr
          ⟨isRetryableWriteConflict_iff.mpr conflict, below⟩⟩
  refine
    { stops := ⟨decided.started, bounded⟩
      commitsAtMostOnce := decided.successes_le_one
      returnsCommitted := fun value =>
        decided.ok_iff fun _ _ _ => caughtConflict_ne_ok
      retriesConflicts := conflicts
      rethrows := ?_
      exhaustion := ?_ }
  · intro attempt error atLeast atMost fails other
    rcases Nat.eq_or_lt_of_le atMost with rfl | below
    · refine ⟨rfl, ?_⟩
      rcases decided.answer with
        ⟨value, succeeds, -⟩ | ⟨failure, sameAttempt, answered⟩
      · rw [fails] at succeeds
        cases succeeds
      · obtain rfl := Except.error.inj (fails.symm.trans sameAttempt)
        rcases caughtConflict_eq_some answered with
          ⟨-, same⟩ | ⟨conflict, -⟩
        · exact same
        · exact absurd conflict other
    · obtain ⟨-, conflictError, conflictFails, conflict⟩ :=
        (conflicts attempt atLeast atMost).mp below
      obtain rfl := Except.error.inj (fails.symm.trans conflictFails)
      exact absurd conflict other
  · intro attempts cause exhausted
    obtain ⟨failure, fails, answered⟩ := decided.failed_of_error exhausted
    rcases caughtConflict_eq_some answered with
      ⟨-, same⟩ | ⟨conflict, atLimit, same⟩
    · left
      rw [fails, ← same]
    · right
      have three : (runSerializableWithRetry outcome).attempts = 3 :=
        Nat.le_antisymm bounded atLimit
      obtain ⟨rfl, rfl⟩ :=
        Thrown.retriesExhausted.inj (Except.error.inj same)
      rw [three] at fails conflicts
      refine ⟨three, three, fails, ?_⟩
      intro attempt atLeast atMost
      rcases Nat.eq_or_lt_of_le atMost with rfl | below
      · exact ⟨cause, fails, conflict⟩
      · exact ((conflicts attempt atLeast atMost).mp below).2

/-- A run that returns has committed in its last attempt. -/
theorem commits_of_ok {outcome : Nat → Except (Thrown δ) α} {value : α}
    (returns : (runSerializableWithRetry outcome).result = .ok value) :
    outcome (runSerializableWithRetry outcome).attempts = .ok value := by
  have decided := runSerializableWithRetry_decidedByLast outcome
  obtain ⟨attempt, atLeast, atMost, commits⟩ :=
    ((serializableRetry outcome).returnsCommitted value).mp returns
  rw [decided.eq_last_of_ok atLeast atMost commits] at commits
  exact commits

/-- What holds of a call that runs a transaction with retries, and runs it again
after a collision. -/
structure BoundedCall (outcome : Nat → Nat → Except (Thrown δ) α)
    (collides : Thrown δ → Prop) (call : Finished (Thrown δ) α) : Prop where
  runs : call.attempts ≤ 3
  transactions :
    ∑ run ∈ Finset.Icc 1 call.attempts,
      (runSerializableWithRetry (outcome run)).attempts ≤ 9
  commitsAtMostOnce :
    ∑ run ∈ Finset.Icc 1 call.attempts,
      successes (outcome run)
        (runSerializableWithRetry (outcome run)).attempts ≤ 1
  retriesCollisions :
    ∀ run, 1 ≤ run → run ≤ call.attempts →
      (run < call.attempts ↔
        run < 3 ∧
          ∃ error,
            (runSerializableWithRetry (outcome run)).result = .error error ∧
              collides error)

section Calls

variable {outcome : Nat → Nat → Except (Thrown δ) α}
  {collides : Thrown δ → Prop} {call : Finished (Thrown δ) α}
  {caught : Nat → Thrown δ → Option (Except (Thrown δ) α)}

/-- A call that is refused runs no transaction. -/
theorem BoundedCall.of_refused (error : Thrown δ) :
    BoundedCall outcome collides ⟨.error error, 0⟩ where
  runs := Nat.zero_le 3
  transactions := by
    simp
  commitsAtMostOnce := by
    simp
  retriesCollisions := by
    intro run atLeast atMost
    exact absurd (atLeast.trans atMost) (Nat.not_succ_le_zero 0)

theorem BoundedCall.of_decided
    (decided :
      DecidedByLast
        (fun run => (runSerializableWithRetry (outcome run)).result) caught 1
        call)
    (runs : call.attempts ≤ 3)
    (goesOn :
      ∀ run error, caught run error = none ↔ collides error ∧ run < 3) :
    BoundedCall outcome collides call where
  runs := runs
  transactions := by
    have total :
        ∑ run ∈ Finset.Icc 1 call.attempts,
            (runSerializableWithRetry (outcome run)).attempts ≤
          call.attempts * 3 :=
      sum_attempts_le fun run =>
        runSerializableWithRetry_attempts_le (outcome run)
    exact total.trans (Nat.mul_le_mul_right 3 runs)
  commitsAtMostOnce := by
    rw [sum_successes
      (fun run => runSerializableWithRetry_decidedByLast (outcome run)) decided]
    exact
      (runSerializableWithRetry_decidedByLast
        (outcome call.attempts)).successes_le_one
  retriesCollisions := by
    intro run atLeast atMost
    rw [decided.lt_iff atLeast atMost]
    constructor
    · rintro ⟨error, fails, retried⟩
      obtain ⟨collision, below⟩ := (goesOn run error).mp retried
      exact ⟨below, error, fails, collision⟩
    · rintro ⟨below, error, fails, collision⟩
      exact ⟨error, fails, (goesOn run error).mpr ⟨collision, below⟩⟩

end Calls

end Heritage
