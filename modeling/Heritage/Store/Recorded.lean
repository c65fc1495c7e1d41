import Heritage.Store.History
import Heritage.Store.Table

/-!
# Statuses that are recorded

Rows have a status; a history row says how a status came about, and an entry
reports each history row.  A record in which every change of a status adds
both is coherent: the history of a row leads without a gap from nothing to its
status, and the entries about it report this history one by one.
-/

namespace Heritage.Store

universe u v w x

/-- A chain that never starts again where an item ended stays there. -/
theorem eq_of_chained_absorbing {α : Type u} {τ : Type v}
    {source target : α → τ} {start finish absorbing : τ} {history : List α}
    (chained : Chained source target start history finish)
    (absorbs : ∀ item ∈ history, source item ≠ absorbing) {item : α}
    (member : item ∈ history) (ends : target item = absorbing) :
    finish = absorbing := by
  induction history generalizing start with
  | nil =>
      exact absurd member List.not_mem_nil
  | cons head rest inductionHypothesis =>
      have restAbsorbs : ∀ other ∈ rest, source other ≠ absorbing := by
        intro other otherMember
        exact absorbs other (List.mem_cons_of_mem head otherMember)
      rcases List.mem_cons.mp member with rfl | inRest
      · cases rest with
        | nil =>
            have finished : target item = finish := chained.2
            rw [← finished, ends]
        | cons next others =>
            have starts : source next = target item := chained.2.1
            exact
              absurd (starts.trans ends)
                (restAbsorbs next (List.mem_cons_self ..))
      · exact inductionHypothesis chained.2 restAbsorbs inRest

/-- A row with its status. -/
structure Standing (κ : Type u) (τ : Type v) where
  key : κ
  status : τ

/-- The rows with their statuses, their history and the entries about it. -/
structure Record (κ : Type u) (τ : Type v) (η : Type w) (ε : Type x) where
  standings : List (Standing κ τ)
  history : List η
  entries : List ε

/-- What a history row and an entry say. -/
structure Reading (κ : Type u) (τ : Type v) (η : Type w) (ε : Type x) where
  subject : η → κ
  source : η → Option τ
  target : η → τ
  entrySubject : ε → κ
  Reports : η → ε → Prop
  sameSubject : ∀ row entry, Reports row entry → entrySubject entry = subject row

section Records

variable {κ : Type u} {τ : Type v} {η : Type w} {ε : Type x} [DecidableEq κ]

namespace Record

/-- A new row, with its first history row. -/
def opened (reading : Reading κ τ η ε) (row : η) (entry : ε)
    (record : Record κ τ η ε) : Record κ τ η ε where
  standings :=
    record.standings ++ [⟨reading.subject row, reading.target row⟩]
  history := record.history ++ [row]
  entries := record.entries ++ [entry]

/-- A row in another status. -/
def moved (reading : Reading κ τ η ε) (row : η) (entry : ε)
    (record : Record κ τ η ε) : Record κ τ η ε where
  standings :=
    updateBy Standing.key (reading.subject row)
      (fun standing => { standing with status := reading.target row })
      record.standings
  history := record.history ++ [row]
  entries := record.entries ++ [entry]

end Record

variable (reading : Reading κ τ η ε)

/-- What a write does to a record. -/
inductive Recorded (before : Record κ τ η ε) : Record κ τ η ε → Prop where
  | kept : Recorded before before
  | opened (row : η) (entry : ε)
      (fresh : reading.subject row ∉ before.standings.map Standing.key)
      (opens : reading.source row = none)
      (reports : reading.Reports row entry) :
      Recorded before (before.opened reading row entry)
  | moved (row : η) (entry : ε) (current : τ)
      (found : ⟨reading.subject row, current⟩ ∈ before.standings)
      (leaves : reading.source row = some current)
      (reports : reading.Reports row entry) :
      Recorded before (before.moved reading row entry)

namespace Record

variable (record : Record κ τ η ε)

/-- The history of one row, oldest first. -/
def historyOf (key : κ) : List η :=
  record.history.filter fun row => reading.subject row = key

/-- The entries about one row, oldest first. -/
def entriesOf (key : κ) : List ε :=
  record.entries.filter fun entry => reading.entrySubject entry = key

/-- The history leads to the status, and the entries report it. -/
structure Life (standing : Standing κ τ) : Prop where
  chained :
    Chained reading.source (some ∘ reading.target) none
      (record.historyOf reading standing.key) (some standing.status)
  reported :
    List.Forall₂ reading.Reports (record.historyOf reading standing.key)
      (record.entriesOf reading standing.key)

/-- Every row has a life, and nothing is recorded about others. -/
structure Coherent : Prop where
  keys : (record.standings.map Standing.key).Nodup
  knownRows :
    ∀ row ∈ record.history,
      reading.subject row ∈ record.standings.map Standing.key
  knownEntries :
    ∀ entry ∈ record.entries,
      reading.entrySubject entry ∈ record.standings.map Standing.key
  lives : ∀ standing ∈ record.standings, record.Life reading standing

end Record

open Record

variable {reading} {record before after : Record κ τ η ε}

theorem historyOf_concat_other {rows : List η} {row : η} {key : κ}
    (other : reading.subject row ≠ key) :
    (rows ++ [row]).filter (fun item => reading.subject item = key) =
      rows.filter fun item => reading.subject item = key := by
  simp [List.filter_append, other]

theorem entriesOf_concat_other {entries : List ε} {entry : ε} {key : κ}
    (other : reading.entrySubject entry ≠ key) :
    (entries ++ [entry]).filter
        (fun item => reading.entrySubject item = key) =
      entries.filter fun item => reading.entrySubject item = key := by
  simp [List.filter_append, other]

/-- A write about one row leaves the lives of the others alone. -/
theorem Record.Life.beside {standing : Standing κ τ} {row : η} {entry : ε}
    {standings : List (Standing κ τ)}
    (life : record.Life reading standing)
    (other : reading.subject row ≠ standing.key)
    (reports : reading.Reports row entry) :
    Record.Life reading
      ⟨standings, record.history ++ [row], record.entries ++ [entry]⟩
      standing := by
  have otherEntry : reading.entrySubject entry ≠ standing.key := by
    rw [reading.sameSubject row entry reports]
    exact other
  refine ⟨?_, ?_⟩
  · unfold Record.historyOf
    rw [historyOf_concat_other other]
    exact life.chained
  · unfold Record.historyOf Record.entriesOf
    rw [historyOf_concat_other other, entriesOf_concat_other otherEntry]
    exact life.reported

/-- A history that goes on from where it ended, with an entry for what it
adds. -/
theorem life_of_extended {row : η} {entry : ε}
    {standings : List (Standing κ τ)} {start : Option τ}
    (chained :
      Chained reading.source (some ∘ reading.target) none
        (record.historyOf reading (reading.subject row)) start)
    (reported :
      List.Forall₂ reading.Reports
        (record.historyOf reading (reading.subject row))
        (record.entriesOf reading (reading.subject row)))
    (leaves : reading.source row = start)
    (reports : reading.Reports row entry) :
    Record.Life reading
      ⟨standings, record.history ++ [row], record.entries ++ [entry]⟩
      ⟨reading.subject row, reading.target row⟩ := by
  have sameSubject := reading.sameSubject row entry reports
  have grownHistory :
      Record.historyOf reading
          ⟨standings, record.history ++ [row], record.entries ++ [entry]⟩
          (reading.subject row) =
        record.historyOf reading (reading.subject row) ++ [row] := by
    simp [Record.historyOf, List.filter_append]
  have grownEntries :
      Record.entriesOf reading
          ⟨standings, record.history ++ [row], record.entries ++ [entry]⟩
          (reading.subject row) =
        record.entriesOf reading (reading.subject row) ++ [entry] := by
    simp [Record.entriesOf, List.filter_append, sameSubject]
  refine ⟨?_, ?_⟩
  · rw [grownHistory]
    apply chained_concat
    · rw [leaves]
      exact chained
    · rfl
  · rw [grownHistory, grownEntries]
    exact List.rel_append reported (List.Forall₂.cons reports .nil)

theorem Record.Coherent.opened {row : η} {entry : ε}
    (coherent : record.Coherent reading)
    (fresh : reading.subject row ∉ record.standings.map Standing.key)
    (opens : reading.source row = none)
    (reports : reading.Reports row entry) :
    (record.opened reading row entry).Coherent reading := by
  have sameSubject := reading.sameSubject row entry reports
  have noHistory :
      record.historyOf reading (reading.subject row) = [] := by
    apply List.filter_eq_nil_iff.mpr
    intro other member isSubject
    apply fresh
    rw [← of_decide_eq_true isSubject]
    exact coherent.knownRows other member
  have noEntries :
      record.entriesOf reading (reading.subject row) = [] := by
    apply List.filter_eq_nil_iff.mpr
    intro other member isSubject
    apply fresh
    rw [← of_decide_eq_true isSubject]
    exact coherent.knownEntries other member
  have grown :
      (record.opened reading row entry).standings.map Standing.key =
        record.standings.map Standing.key ++ [reading.subject row] := by
    simp [Record.opened]
  refine ⟨?_, ?_, ?_, ?_⟩
  · rw [grown, ← List.concat_eq_append]
    exact coherent.keys.concat fresh
  · intro other member
    rw [grown]
    rcases List.mem_append.mp member with old | new
    · exact List.mem_append_left _ (coherent.knownRows other old)
    · rw [List.mem_singleton.mp new]
      exact List.mem_append_right _ (List.mem_singleton.mpr rfl)
  · intro other member
    rw [grown]
    rcases List.mem_append.mp member with old | new
    · exact List.mem_append_left _ (coherent.knownEntries other old)
    · rw [List.mem_singleton.mp new, sameSubject]
      exact List.mem_append_right _ (List.mem_singleton.mpr rfl)
  · intro standing member
    rcases List.mem_append.mp member with old | new
    · apply Record.Life.beside (coherent.lives standing old) _ reports
      intro same
      apply fresh
      rw [same]
      exact List.mem_map_of_mem old
    · rw [List.mem_singleton.mp new]
      apply life_of_extended _ _ opens reports
      · rw [noHistory]
        rfl
      · rw [noHistory, noEntries]
        exact .nil

theorem Record.Coherent.moved {row : η} {entry : ε} {current : τ}
    (coherent : record.Coherent reading)
    (found : ⟨reading.subject row, current⟩ ∈ record.standings)
    (leaves : reading.source row = some current)
    (reports : reading.Reports row entry) :
    (record.moved reading row entry).Coherent reading := by
  have sameSubject := reading.sameSubject row entry reports
  have sameKeys :
      (record.moved reading row entry).standings.map Standing.key =
        record.standings.map Standing.key :=
    map_updateBy_of_kept fun _ => rfl
  have known :
      reading.subject row ∈ record.standings.map Standing.key :=
    List.mem_map_of_mem found
  refine ⟨?_, ?_, ?_, ?_⟩
  · rw [sameKeys]
    exact coherent.keys
  · intro other member
    rw [sameKeys]
    rcases List.mem_append.mp member with old | new
    · exact coherent.knownRows other old
    · rw [List.mem_singleton.mp new]
      exact known
  · intro other member
    rw [sameKeys]
    rcases List.mem_append.mp member with old | new
    · exact coherent.knownEntries other old
    · rw [List.mem_singleton.mp new, sameSubject]
      exact known
  · intro standing member
    obtain ⟨old, oldMember, rfl⟩ := mem_updateBy_iff.mp member
    by_cases own : old.key = reading.subject row
    · have isOld : old = ⟨reading.subject row, current⟩ :=
        List.inj_on_of_nodup_map coherent.keys oldMember found own
      have life := coherent.lives _ found
      rw [if_pos own, isOld]
      exact life_of_extended life.chained life.reported leaves reports
    · rw [if_neg own]
      exact
        Record.Life.beside (coherent.lives old oldMember) (Ne.symm own) reports

/-- A write keeps a record coherent. -/
theorem Recorded.coherent (recorded : Recorded reading before after)
    (coherent : before.Coherent reading) : after.Coherent reading := by
  cases recorded with
  | kept =>
      exact coherent
  | opened row entry fresh opens reports =>
      exact coherent.opened fresh opens reports
  | moved row entry current found leaves reports =>
      exact coherent.moved found leaves reports

theorem coherent_empty :
    (Record.mk [] [] [] : Record κ τ η ε).Coherent reading where
  keys := List.nodup_nil
  knownRows := by simp
  knownEntries := by simp
  lives := by simp

end Records

end Heritage.Store
