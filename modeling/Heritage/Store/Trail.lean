import Heritage.Store.Transaction

/-!
# Programs that account for their writes

A program keeps a log beside its rows.  `Leaves` is what holds of the state a
transaction body commits, with a rule for each way to compose a body.
`Documented` relates two states when the log goes on with entries of an allowed
kind, and goes on with none only when nothing changed.
-/

namespace Heritage.Store

universe u v w

section Leaves

variable {ε : Type u} {σ α β : Type} {post : σ → Prop}

/-- Whatever the computation commits satisfies `post`. -/
def Leaves (computation : Except ε (α × σ)) (post : σ → Prop) : Prop :=
  ∀ value after, computation = .ok (value, after) → post after

theorem leaves_ok {value : α} {after : σ} (holds : post after) :
    Leaves (.ok (value, after) : Except ε (α × σ)) post := by
  intro returned committed succeeds
  cases succeeds
  exact holds

theorem leaves_error (failure : ε) :
    Leaves (.error failure : Except ε (α × σ)) post := by
  intro value after succeeds
  cases succeeds

/-- A composed body commits what its second part commits. -/
theorem leaves_bind {first : Except ε β} {second : β → Except ε (α × σ)}
    (rest : ∀ value, first = .ok value → Leaves (second value) post) :
    Leaves (first >>= second) post := by
  intro value after succeeds
  obtain ⟨middle, returned, continued⟩ := bind_eq_ok.mp succeeds
  exact rest middle returned value after continued

/-- A write whose state the rest of the body goes on from. -/
theorem leaves_seq {first : Except ε (β × σ)}
    {second : β × σ → Except ε (α × σ)} {between : σ → Prop}
    (leaves : Leaves first between)
    (rest :
      ∀ value middle,
        between middle → Leaves (second (value, middle)) post) :
    Leaves (first >>= second) post := by
  apply leaves_bind
  intro result returned
  exact rest result.1 result.2 (leaves result.1 result.2 returned)

/-- The value of a body may be renamed. -/
theorem leaves_map {computation : Except ε (α × σ)} {image : α × σ → β × σ}
    (sameState : ∀ result, (image result).2 = result.2)
    (leaves : Leaves computation post) :
    Leaves (computation.map image) post := by
  intro value after succeeds
  obtain ⟨result, returned, renamed⟩ := map_eq_ok.mp succeeds
  have committed := sameState result
  rw [renamed] at committed
  change after = result.2 at committed
  rw [committed]
  exact leaves result.1 result.2 returned

/-- A transaction leaves the state it met or what its body commits. -/
theorem transact_leaves {body : σ → Except ε (α × σ)} {state : σ}
    (kept : post state) (leaves : Leaves (body state) post) :
    post (transact body state).2 := by
  rcases transact_state_cases body state with unchanged | ⟨value, succeeds⟩
  · rw [unchanged]
    exact kept
  · exact leaves value _ succeeds

end Leaves

section Log

variable {σ : Type u} {ε : Type v}

/-- The log goes on with allowed entries. -/
def Continues (log : σ → List ε) (allowed : ε → Prop) (before after : σ) :
    Prop :=
  ∃ entries,
    log after = log before ++ entries ∧ ∀ entry ∈ entries, allowed entry

/-- The log goes on with allowed entries, and with none only when nothing
changed. -/
structure Documented (log : σ → List ε) (allowed : ε → Prop)
    (before after : σ) : Prop where
  continued : Continues log allowed before after
  silent : log after = log before → after = before

variable {log : σ → List ε} {allowed : ε → Prop} {before middle after : σ}

theorem continues_of_eq (same : log after = log before) :
    Continues log allowed before after :=
  ⟨[], by rw [same, List.append_nil], by simp⟩

theorem continues_trans (first : Continues log allowed before middle)
    (second : Continues log allowed middle after) :
    Continues log allowed before after := by
  obtain ⟨early, firstLog, earlyAllowed⟩ := first
  obtain ⟨late, secondLog, lateAllowed⟩ := second
  refine ⟨early ++ late, ?_, ?_⟩
  · rw [secondLog, firstLog, List.append_assoc]
  · intro entry member
    rcases List.mem_append.mp member with isEarly | isLate
    · exact earlyAllowed entry isEarly
    · exact lateAllowed entry isLate

theorem continues_of_allowed {other : ε → Prop}
    (continued : Continues log allowed before after)
    (weaker : ∀ entry, allowed entry → other entry) :
    Continues log other before after := by
  obtain ⟨entries, goesOn, areAllowed⟩ := continued
  refine ⟨entries, goesOn, ?_⟩
  intro entry member
  exact weaker entry (areAllowed entry member)

/-- A write beside the log. -/
theorem continues_beside (earlier : Continues log allowed before middle)
    (same : log after = log middle) :
    Continues log allowed before after :=
  continues_trans earlier (continues_of_eq same)

theorem continues_insert {entry : ε}
    (earlier : Continues log allowed before middle)
    (inserted : log after = log middle ++ [entry])
    (isAllowed : allowed entry) : Continues log allowed before after := by
  apply continues_trans earlier
  refine ⟨[entry], inserted, ?_⟩
  intro other member
  rw [List.mem_singleton.mp member]
  exact isAllowed

theorem documented_refl : Documented log allowed before before :=
  ⟨continues_of_eq rfl, fun _ => rfl⟩

/-- A body that ends by inserting an entry accounts for whatever it wrote. -/
theorem documented_insert {entry : ε}
    (earlier : Continues log allowed before middle)
    (inserted : log after = log middle ++ [entry])
    (isAllowed : allowed entry) : Documented log allowed before after where
  continued := continues_insert earlier inserted isAllowed
  silent := by
    intro same
    obtain ⟨entries, goesOn, -⟩ := earlier
    rw [inserted, goesOn, List.append_assoc] at same
    have nothing := List.append_right_eq_self.mp same
    exact absurd nothing (by simp)

end Log

section Logs

variable {ι : Type w} {σ τ : Type u} {ε δ : Type v}

/-- Every log goes on with allowed entries, and none goes on only when nothing
changed. -/
structure AllDocumented (logs : ι → σ → List ε) (allowed : ε → Prop)
    (before after : σ) : Prop where
  continued : ∀ part, Continues (logs part) allowed before after
  silent :
    (∀ part, logs part after = logs part before) → after = before

variable {logs : ι → σ → List ε} {allowed : ε → Prop} {before : σ}

/-- A state with a documented change in one part, which has one of the
logs. -/
theorem Documented.inPart {log : τ → List δ} {allowedThere : δ → Prop}
    {current changed : τ}
    (documented : Documented log allowedThere current changed)
    (embed : δ → ε) (injective : Function.Injective embed) (put : τ → σ)
    (part : ι) (unchanged : put current = before)
    (ownLog : ∀ rows, logs part (put rows) = (log rows).map embed)
    (otherLogs :
      ∀ other, other ≠ part → logs other (put changed) = logs other before)
    (carried : ∀ entry, allowedThere entry → allowed (embed entry)) :
    AllDocumented logs allowed before (put changed) where
  continued := by
    intro other
    by_cases own : other = part
    · rw [own]
      obtain ⟨entries, goesOn, areAllowed⟩ := documented.continued
      refine ⟨entries.map embed, ?_, ?_⟩
      · rw [ownLog, ← unchanged, ownLog, goesOn, List.map_append]
      · intro image member
        obtain ⟨entry, added, rfl⟩ := List.mem_map.mp member
        exact carried entry (areAllowed entry added)
    · exact continues_of_eq (otherLogs other own)
  silent := by
    intro same
    have sameLog := same part
    rw [ownLog, ← unchanged, ownLog] at sameLog
    rw [documented.silent (injective.list_map sameLog), unchanged]

/-- Logs that go on at every step go on over a run, each entry by a step that
allows it. -/
theorem entries_of_run {ρ : Type w} {next : σ → ρ → σ} {log : σ → List ε}
    {allowedBy : σ → ρ → ε → Prop} {start : σ} {requests : List ρ}
    (steps :
      ∀ earlier request later,
        requests = earlier ++ request :: later →
          Continues log (allowedBy (run next start earlier) request)
            (run next start earlier) (next (run next start earlier) request)) :
    Continues log
      (fun entry =>
        ∃ earlier request later,
          requests = earlier ++ request :: later ∧
            allowedBy (run next start earlier) request entry)
      start (run next start requests) := by
  induction requests using List.reverseRecOn with
  | nil =>
      exact continues_of_eq rfl
  | append_singleton earlier request inductionHypothesis =>
      rw [run_append, run_cons, run_nil]
      have soFar :
          ∀ first step later,
            earlier = first ++ step :: later →
              Continues log (allowedBy (run next start first) step)
                (run next start first)
                (next (run next start first) step) := by
        intro first step later split
        apply steps first step (later ++ [request])
        rw [split, List.append_assoc, List.cons_append]
      obtain ⟨early, firstLog, earlyAllowed⟩ := inductionHypothesis soFar
      obtain ⟨late, secondLog, lateAllowed⟩ := steps earlier request [] rfl
      refine ⟨early ++ late, ?_, ?_⟩
      · rw [secondLog, firstLog, List.append_assoc]
      · intro entry member
        rcases List.mem_append.mp member with isEarly | isLate
        · obtain ⟨first, step, later, split, isAllowed⟩ :=
            earlyAllowed entry isEarly
          refine ⟨first, step, later ++ [request], ?_, isAllowed⟩
          rw [split, List.append_assoc, List.cons_append]
        · exact ⟨earlier, request, [], rfl, lateAllowed entry isLate⟩

end Logs

end Heritage.Store
