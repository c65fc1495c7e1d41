import Mathlib

/-!
# Serialised transactions and their runs

A service call is a function of the stored state that either returns a value
together with the state to commit, or fails.  `transact` commits in the first
case and rolls back in the second.  Transactions are serialised, so a history
of calls is a left fold of their effects: `run` is that fold, and the rules
below carry a property of one step to every state of a run.
-/

namespace Heritage.Store

universe u v w

section Fallible

variable {ε : Type u} {α β : Type}

/-- Continue when `condition` holds and fail with `failure` otherwise. -/
def require (condition : Prop) [Decidable condition]
    (failure : ε) : Except ε Unit :=
  if condition then .ok () else .error failure

@[simp]
theorem require_eq_ok
    {condition : Prop} [Decidable condition] {failure : ε}
    {value : Unit} :
    require condition failure = .ok value ↔ condition := by
  unfold require
  split <;> simp_all

theorem require_of
    {condition : Prop} [Decidable condition] {failure : ε}
    (holds : condition) :
    require condition failure = .ok () := by
  simp [require, holds]

theorem require_of_not
    {condition : Prop} [Decidable condition] {failure : ε}
    (fails : ¬ condition) :
    require condition failure = .error failure := by
  simp [require, fails]

/-- The value of a lookup that must succeed. -/
def demand (found : Option α) (failure : ε) : Except ε α :=
  match found with
  | none => .error failure
  | some value => .ok value

@[simp]
theorem demand_eq_ok
    {found : Option α} {failure : ε} {value : α} :
    demand found failure = .ok value ↔ found = some value := by
  cases found <;> simp [demand]

/-- A composed computation succeeds exactly when both parts do. -/
@[simp]
theorem bind_eq_ok
    {first : Except ε α} {second : α → Except ε β} {value : β} :
    (first >>= second) = .ok value ↔
      ∃ middle, first = .ok middle ∧ second middle = .ok value := by
  cases first with
  | error failure =>
      simp [bind, Except.bind]
  | ok middle =>
      simp [bind, Except.bind]

@[simp]
theorem map_eq_ok {first : Except ε α} {image : α → β} {value : β} :
    first.map image = .ok value ↔
      ∃ middle, first = .ok middle ∧ image middle = value := by
  cases first with
  | error failure =>
      simp [Except.map]
  | ok middle =>
      simp [Except.map]

@[simp]
theorem ok_bind (middle : α) (second : α → Except ε β) :
    (Except.ok middle >>= second) = second middle :=
  rfl

@[simp]
theorem error_bind (failure : ε) (second : α → Except ε β) :
    (Except.error failure >>= second) = .error failure :=
  rfl

end Fallible

section Avoids

variable {ε : Type u} {α β : Type} {failure : ε}

/-- The computation does not end in `failure`. -/
def Avoids {α : Type w} (computation : Except ε α) (failure : ε) : Prop :=
  computation ≠ .error failure

theorem avoids_ok (value : α) : Avoids (.ok value : Except ε α) failure := by
  simp [Avoids]

theorem avoids_require
    {condition : Prop} [Decidable condition] {refusal : ε}
    (other : ¬ condition → refusal ≠ failure) :
    Avoids (require condition refusal) failure := by
  unfold Avoids require
  split
  next =>
    simp
  next fails =>
    simpa using other fails

theorem avoids_demand {found : Option α} {refusal : ε}
    (other : refusal ≠ failure) :
    Avoids (demand found refusal) failure := by
  cases found with
  | none =>
      simpa [Avoids, demand] using other
  | some value =>
      exact avoids_ok value

theorem avoids_map {computation : Except ε α} {image : α → β}
    (avoids : Avoids computation failure) :
    Avoids (computation.map image) failure := by
  cases outcome : computation with
  | error refusal =>
      rw [outcome] at avoids
      intro ends
      exact avoids (congrArg Except.error (Except.error.inj ends))
  | ok value =>
      exact avoids_ok (image value)

/-- A composed computation avoids what both parts avoid. -/
theorem avoids_bind
    {first : Except ε α} {second : α → Except ε β}
    (firstAvoids : Avoids first failure)
    (secondAvoids :
      ∀ value, first = .ok value → Avoids (second value) failure) :
    Avoids (first >>= second) failure := by
  cases outcome : first with
  | error refusal =>
      rw [outcome] at firstAvoids
      intro ends
      exact firstAvoids (congrArg Except.error (Except.error.inj ends))
  | ok value =>
      exact secondAvoids value outcome

end Avoids

section Transact

variable {σ : Type u} {ε : Type v} {α : Type u}

/-- Run `body` on the stored state: a success commits the state it returns, a
failure leaves the stored state as it was. -/
def transact (body : σ → Except ε (α × σ)) (state : σ) :
    Except ε α × σ :=
  match body state with
  | .ok (value, committed) => (.ok value, committed)
  | .error failure => (.error failure, state)

theorem transact_of_ok
    {body : σ → Except ε (α × σ)} {state committed : σ} {value : α}
    (succeeds : body state = .ok (value, committed)) :
    transact body state = (.ok value, committed) := by
  simp [transact, succeeds]

theorem transact_of_error
    {body : σ → Except ε (α × σ)} {state : σ} {failure : ε}
    (fails : body state = .error failure) :
    transact body state = (.error failure, state) := by
  simp [transact, fails]

theorem avoids_transact
    {body : σ → Except ε (α × σ)} {state : σ} {failure : ε}
    (bodyAvoids : Avoids (body state) failure) :
    Avoids (transact body state).1 failure := by
  unfold transact
  cases outcome : body state with
  | error refusal =>
      rw [outcome] at bodyAvoids
      intro ends
      exact bodyAvoids (congrArg Except.error (Except.error.inj ends))
  | ok result =>
      intro ends
      cases ends

/-- After a transaction the state is the old one, or the one a successful body
returned. -/
theorem transact_state_cases
    (body : σ → Except ε (α × σ)) (state : σ) :
    (transact body state).2 = state ∨
      ∃ value,
        body state = .ok (value, (transact body state).2) := by
  unfold transact
  cases outcome : body state with
  | error failure =>
      exact Or.inl rfl
  | ok result =>
      exact Or.inr ⟨result.1, rfl⟩

end Transact

/-! ## Runs -/

section Run

variable {σ : Type u} {ρ : Type v} (next : σ → ρ → σ)

/-- The state after a sequence of requests. -/
def run (state : σ) (requests : List ρ) : σ :=
  requests.foldl next state

@[simp]
theorem run_nil (state : σ) : run next state [] = state :=
  rfl

@[simp]
theorem run_cons (state : σ) (request : ρ) (rest : List ρ) :
    run next state (request :: rest) =
      run next (next state request) rest :=
  rfl

theorem run_append (state : σ) (first second : List ρ) :
    run next state (first ++ second) =
      run next (run next state first) second :=
  List.foldl_append

/-- Every step of the run, taken from the state it meets, satisfies
`allowed`. -/
def AllSteps (allowed : σ → ρ → Prop) : σ → List ρ → Prop
  | _, [] => True
  | state, request :: rest =>
      allowed state request ∧ AllSteps allowed (next state request) rest

variable {next}

/-- An invariant of single steps holds after every run. -/
theorem run_invariant
    {invariant : σ → Prop} {state : σ}
    (initial : invariant state)
    (preserved :
      ∀ current request,
        invariant current → invariant (next current request)) :
    ∀ requests : List ρ, invariant (run next state requests) := by
  intro requests
  induction requests generalizing state with
  | nil =>
      exact initial
  | cons request rest inductionHypothesis =>
      exact inductionHypothesis (preserved state request initial)

/-- The same for runs whose steps all satisfy `allowed`. -/
theorem run_invariant_of_allSteps
    {invariant : σ → Prop} {allowed : σ → ρ → Prop} {state : σ}
    (initial : invariant state)
    (preserved :
      ∀ current request,
        invariant current → allowed current request →
          invariant (next current request)) :
    ∀ requests : List ρ,
      AllSteps next allowed state requests →
        invariant (run next state requests) := by
  intro requests
  induction requests generalizing state with
  | nil =>
      intro _
      exact initial
  | cons request rest inductionHypothesis =>
      rintro ⟨headAllowed, restAllowed⟩
      exact
        inductionHypothesis
          (preserved state request initial headAllowed) restAllowed

/-- What a run brings about, one of its steps does. -/
theorem exists_step_of_run
    {property : σ → Prop} {state : σ} {requests : List ρ}
    (before : ¬ property state)
    (after : property (run next state requests)) :
    ∃ earlier request later,
      requests = earlier ++ request :: later ∧
        ¬ property (run next state earlier) ∧
        property (run next state (earlier ++ [request])) := by
  induction requests generalizing state with
  | nil =>
      exact absurd after before
  | cons request rest inductionHypothesis =>
      by_cases atOnce : property (next state request)
      · exact ⟨[], request, rest, rfl, before, atOnce⟩
      · obtain ⟨earlier, step, later, rfl, notYet, done⟩ :=
          inductionHypothesis atOnce after
        exact ⟨request :: earlier, step, later, rfl, notYet, done⟩

/-- Every step is allowed exactly when it is at every point of the run. -/
theorem allSteps_iff_forall_split
    {allowed : σ → ρ → Prop} {state : σ} {requests : List ρ} :
    AllSteps next allowed state requests ↔
      ∀ earlier request later,
        requests = earlier ++ request :: later →
          allowed (run next state earlier) request := by
  induction requests generalizing state with
  | nil =>
      constructor
      · intro _ earlier request later split
        exact absurd split.symm (by simp)
      · intro _
        trivial
  | cons head tail inductionHypothesis =>
      constructor
      · rintro ⟨headAllowed, tailAllowed⟩ earlier request later split
        cases earlier with
        | nil =>
            obtain ⟨rfl, rfl⟩ := List.cons_eq_cons.mp split
            exact headAllowed
        | cons first others =>
            obtain ⟨rfl, tailSplit⟩ := List.cons_eq_cons.mp split
            exact
              inductionHypothesis.mp tailAllowed others request later
                tailSplit
      · intro everywhere
        refine ⟨everywhere [] head tail rfl, ?_⟩
        apply inductionHypothesis.mpr
        intro earlier request later split
        exact
          everywhere (head :: earlier) request later (by rw [split]; rfl)

/-- The steps of a run's beginning are steps of the run. -/
theorem allSteps_of_append
    {allowed : σ → ρ → Prop} {state : σ} {first second : List ρ}
    (all : AllSteps next allowed state (first ++ second)) :
    AllSteps next allowed state first := by
  rw [allSteps_iff_forall_split] at all ⊢
  intro earlier request later split
  exact all earlier request (later ++ second) (by simp [split])

/-- Conditions that agree on the states of an invariant allow the same
runs. -/
theorem allSteps_congr
    {invariant : σ → Prop} {first second : σ → ρ → Prop}
    (preserved :
      ∀ current request,
        invariant current → invariant (next current request))
    (agree :
      ∀ current request,
        invariant current → (first current request ↔ second current request))
    {state : σ} (initial : invariant state) (requests : List ρ) :
    AllSteps next first state requests ↔
      AllSteps next second state requests := by
  induction requests generalizing state with
  | nil =>
      rfl
  | cons request rest inductionHypothesis =>
      exact
        and_congr (agree state request initial)
          (inductionHypothesis (preserved state request initial))

section Projection

variable {τ : Type w} {projected : τ → ρ → τ} {project : σ → τ}

/-- A run projects to the run of the projected steps. -/
theorem run_project
    (commutes :
      ∀ current request,
        project (next current request) =
          projected (project current) request)
    (state : σ) (requests : List ρ) :
    project (run next state requests) =
      run projected (project state) requests := by
  induction requests generalizing state with
  | nil =>
      rfl
  | cons request rest inductionHypothesis =>
      rw [run_cons, run_cons, inductionHypothesis, commutes]

theorem allSteps_project
    (commutes :
      ∀ current request,
        project (next current request) =
          projected (project current) request)
    {allowed : τ → ρ → Prop} (state : σ) (requests : List ρ)
    (projectedAllowed :
      AllSteps projected allowed (project state) requests) :
    AllSteps next (fun current => allowed (project current)) state
      requests := by
  induction requests generalizing state with
  | nil =>
      trivial
  | cons request rest inductionHypothesis =>
      refine ⟨projectedAllowed.1, inductionHypothesis _ ?_⟩
      rw [commutes]
      exact projectedAllowed.2

end Projection

/-- A reflexive and transitive relation that every step from an invariant
state respects relates the two ends of a run. -/
theorem run_related
    {invariant : σ → Prop} {related : σ → σ → Prop}
    (reflexive : ∀ current, related current current)
    (transitive :
      ∀ {first second third},
        related first second → related second third →
          related first third)
    (preserved :
      ∀ current request,
        invariant current → invariant (next current request))
    (stepRelated :
      ∀ current request,
        invariant current → related current (next current request))
    {state : σ} (initial : invariant state) :
    ∀ requests : List ρ, related state (run next state requests) := by
  intro requests
  induction requests generalizing state with
  | nil =>
      exact reflexive state
  | cons request rest inductionHypothesis =>
      exact
        transitive (stepRelated state request initial) <|
          inductionHypothesis (preserved state request initial)

/-- A property that holds of a state's successor exactly when the step is
`allowed` holds throughout a run exactly when every step is. -/
theorem throughout_iff_allSteps
    {invariant property : σ → Prop} {allowed : σ → ρ → Prop}
    (preserved :
      ∀ current request,
        invariant current → invariant (next current request))
    (exactly :
      ∀ current request,
        invariant current → property current →
          (property (next current request) ↔ allowed current request))
    {state : σ} (initial : invariant state) (holds : property state)
    (requests : List ρ) :
    (∀ earlier later,
        requests = earlier ++ later →
          property (run next state earlier)) ↔
      AllSteps next allowed state requests := by
  induction requests generalizing state with
  | nil =>
      constructor
      · intro _
        trivial
      · intro _ earlier later split
        obtain ⟨rfl, rfl⟩ := List.append_eq_nil_iff.mp split.symm
        exact holds
  | cons request rest inductionHypothesis =>
      have nextInvariant := preserved state request initial
      have nextExact := exactly state request initial holds
      constructor
      · intro throughout
        have nextHolds : property (next state request) :=
          throughout [request] rest rfl
        refine ⟨nextExact.mp nextHolds, ?_⟩
        apply (inductionHypothesis nextInvariant nextHolds).mp
        intro earlier later split
        exact throughout (request :: earlier) later (by rw [split]; rfl)
      · rintro ⟨headAllowed, restAllowed⟩
        have nextHolds := nextExact.mpr headAllowed
        have restThroughout :=
          (inductionHypothesis nextInvariant nextHolds).mpr restAllowed
        intro earlier later split
        cases earlier with
        | nil =>
            exact holds
        | cons first others =>
            obtain ⟨rfl, restSplit⟩ := List.cons_eq_cons.mp split
            exact restThroughout others later restSplit

/-- A reflexive and transitive relation that a step respects exactly when it
is `allowed` relates any earlier state of a run to any later one exactly when
every step is. -/
theorem related_throughout_iff_allSteps
    {invariant : σ → Prop} {related : σ → σ → Prop}
    {allowed : σ → ρ → Prop}
    (reflexive : ∀ current, related current current)
    (transitive :
      ∀ {first second third},
        related first second → related second third →
          related first third)
    (preserved :
      ∀ current request,
        invariant current → invariant (next current request))
    (exactly :
      ∀ current request,
        invariant current →
          (related current (next current request) ↔
            allowed current request))
    {state : σ} (initial : invariant state) (requests : List ρ) :
    (∀ earlier between later,
        requests = earlier ++ between ++ later →
          related (run next state earlier)
            (run next state (earlier ++ between))) ↔
      AllSteps next allowed state requests := by
  induction requests generalizing state with
  | nil =>
      constructor
      · intro _
        trivial
      · intro _ earlier between later split
        obtain ⟨nothing, rfl⟩ := List.append_eq_nil_iff.mp split.symm
        obtain ⟨rfl, rfl⟩ := List.append_eq_nil_iff.mp nothing
        exact reflexive state
  | cons request rest inductionHypothesis =>
      have nextInvariant := preserved state request initial
      have nextExact := exactly state request initial
      have restCharacterised := inductionHypothesis nextInvariant
      constructor
      · intro throughout
        refine ⟨nextExact.mp (throughout [] [request] rest rfl), ?_⟩
        apply restCharacterised.mp
        intro earlier between later split
        exact
          throughout (request :: earlier) between later
            (by rw [split]; rfl)
      · rintro ⟨headAllowed, restAllowed⟩
        have restThroughout := restCharacterised.mpr restAllowed
        intro earlier between later split
        cases earlier with
        | nil =>
            cases between with
            | nil =>
                exact reflexive state
            | cons first others =>
                obtain ⟨rfl, restSplit⟩ := List.cons_eq_cons.mp split
                exact
                  transitive (nextExact.mpr headAllowed) <|
                    restThroughout [] others later restSplit
        | cons first others =>
            obtain ⟨rfl, restSplit⟩ := List.cons_eq_cons.mp split
            exact restThroughout others between later restSplit

/-- When every step is silent or one step of `abstract`, a run is a run of
`abstract`. -/
theorem run_refines
    {abstract : σ → σ → Prop}
    (simulated :
      ∀ current request,
        next current request = current ∨
          abstract current (next current request))
    (state : σ) (requests : List ρ) :
    Relation.ReflTransGen abstract state (run next state requests) := by
  have stepRelated :
      ∀ current request, True →
        Relation.ReflTransGen abstract current (next current request) := by
    intro current request _
    rcases simulated current request with silent | moved
    · rw [silent]
    · exact .single moved
  exact
    run_related (fun _ => .refl) (fun left right => left.trans right)
      (fun _ _ _ => trivial) stepRelated trivial requests

section Trace

variable (next) {ε : Type w} (emit : σ → ρ → List ε)

/-- What the steps of a run emit, oldest first. -/
def trace : σ → List ρ → List ε
  | _, [] => []
  | state, request :: rest =>
      emit state request ++ trace (next state request) rest

theorem trace_append (state : σ) (first second : List ρ) :
    trace next emit state (first ++ second) =
      trace next emit state first ++
        trace next emit (run next state first) second := by
  induction first generalizing state with
  | nil =>
      rfl
  | cons request rest inductionHypothesis =>
      rw [List.cons_append, trace, trace, run_cons, inductionHypothesis,
        List.append_assoc]

theorem trace_concat (state : σ) (requests : List ρ) (request : ρ) :
    trace next emit state (requests ++ [request]) =
      trace next emit state requests ++
        emit (run next state requests) request := by
  rw [trace_append, trace, trace, List.append_nil]

variable {next emit}

/-- An invariant of the state and of what was emitted so far holds after every
run. -/
theorem trace_invariant
    {invariant : σ → List ε → Prop} {state : σ}
    (initial : invariant state [])
    (preserved :
      ∀ current emitted request,
        invariant current emitted →
          invariant (next current request)
            (emitted ++ emit current request))
    (requests : List ρ) :
    invariant (run next state requests)
      (trace next emit state requests) := by
  induction requests using List.reverseRecOn with
  | nil =>
      exact initial
  | append_singleton earlier request inductionHypothesis =>
      rw [trace_concat, run_append]
      exact preserved _ _ request inductionHypothesis

end Trace

end Run

end Heritage.Store
