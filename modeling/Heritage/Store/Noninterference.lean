import Heritage.Store.Transaction

/-!
# Hidden steps

Some steps of a run are hidden from an observer, as the state they meet says.
Two unwinding conditions carry an equivalence of states over whole runs: a
hidden step leaves the state equivalent, and a visible step takes equivalent
states to equivalent states.  Then runs with the same visible steps end in
equivalent states, whatever hidden steps stand between.
-/

namespace Heritage.Store

universe u v

variable {σ : Type u} {ρ : Type v}

/-- The steps of a run that are not hidden, in order. -/
def visibleSteps (next : σ → ρ → σ) (hidden : σ → ρ → Bool) :
    σ → List ρ → List ρ :=
  trace next fun state request =>
    if hidden state request then [] else [request]

section Unwinding

variable {next : σ → ρ → σ} {hidden : σ → ρ → Bool} {state : σ}
  {request : ρ} {rest : List ρ}

theorem visibleSteps_of_hidden (isHidden : hidden state request) :
    visibleSteps next hidden state (request :: rest) =
      visibleSteps next hidden (next state request) rest := by
  simp [visibleSteps, trace, isHidden]

theorem visibleSteps_of_visible (isVisible : ¬ hidden state request) :
    visibleSteps next hidden state (request :: rest) =
      request :: visibleSteps next hidden (next state request) rest := by
  simp [visibleSteps, trace, isVisible]

/-- Runs with the same visible steps keep equivalent states equivalent. -/
theorem equivalent_of_sameVisible
    {invariant : σ → Prop} {allowed : σ → ρ → Prop}
    {equivalent : σ → σ → Prop}
    (symmetric :
      ∀ {first second}, equivalent first second → equivalent second first)
    (transitive :
      ∀ {first second third},
        equivalent first second → equivalent second third →
          equivalent first third)
    (preserved :
      ∀ state request, invariant state → invariant (next state request))
    (hiddenStep :
      ∀ state request, invariant state → hidden state request →
        equivalent state (next state request))
    (visibleStep :
      ∀ first second request, invariant first → invariant second →
        allowed first request → allowed second request →
          ¬ hidden first request → ¬ hidden second request →
            equivalent first second →
              equivalent (next first request) (next second request))
    {first second : σ} {firstRun secondRun : List ρ}
    (firstInvariant : invariant first) (secondInvariant : invariant second)
    (firstAllowed : AllSteps next allowed first firstRun)
    (secondAllowed : AllSteps next allowed second secondRun)
    (sameVisible :
      visibleSteps next hidden first firstRun =
        visibleSteps next hidden second secondRun)
    (start : equivalent first second) :
    equivalent (run next first firstRun) (run next second secondRun) := by
  induction firstRun generalizing first second secondRun with
  | nil =>
      -- every step of the second run is hidden
      induction secondRun generalizing second with
      | nil =>
          exact start
      | cons request rest inductionHypothesis =>
          by_cases isHidden : hidden second request
          · rw [visibleSteps_of_hidden isHidden] at sameVisible
            exact
              inductionHypothesis (preserved second request secondInvariant)
                secondAllowed.2 sameVisible
                (transitive start
                  (hiddenStep second request secondInvariant isHidden))
          · rw [visibleSteps_of_visible isHidden] at sameVisible
            cases sameVisible
  | cons request rest firstHypothesis =>
      by_cases isHidden : hidden first request
      · rw [visibleSteps_of_hidden isHidden] at sameVisible
        exact
          firstHypothesis (preserved first request firstInvariant)
            secondInvariant firstAllowed.2 secondAllowed sameVisible
            (transitive
              (symmetric
                (hiddenStep first request firstInvariant isHidden))
              start)
      · rw [visibleSteps_of_visible isHidden] at sameVisible
        -- the second run reaches the same request after hidden steps
        induction secondRun generalizing second with
        | nil =>
            cases sameVisible
        | cons other others secondHypothesis =>
            by_cases otherHidden : hidden second other
            · rw [visibleSteps_of_hidden otherHidden] at sameVisible
              exact
                secondHypothesis (preserved second other secondInvariant)
                  secondAllowed.2 sameVisible
                  (transitive start
                    (hiddenStep second other secondInvariant otherHidden))
            · rw [visibleSteps_of_visible otherHidden] at sameVisible
              obtain ⟨rfl, sameRest⟩ := List.cons_eq_cons.mp sameVisible
              have stepped :
                  equivalent (next first request) (next second request) :=
                visibleStep first second request firstInvariant
                  secondInvariant firstAllowed.1 secondAllowed.1 isHidden
                  otherHidden start
              rw [run_cons, run_cons]
              exact
                firstHypothesis (preserved first request firstInvariant)
                  (preserved second request secondInvariant) firstAllowed.2
                  secondAllowed.2 sameRest stepped

end Unwinding

end Heritage.Store
