import Heritage.Proposals.Service
import Heritage.Shared.SerializableTransaction

/-!
# Revising a proposal, with its retries

`createProposalRevision` as a whole: the checks before its transactions, and
the loop that allocates the next version number again after a collision.
-/

namespace Heritage.Proposals.Retries

open Heritage.Store

/-- What one transaction or read of a revision meets. -/
abbrev RevisionTurn :=
  Turn RequestContext Tables ProposalError

def thrownOf : TxError → Thrown ProposalError
  | .proposal error => .domain error
  | .uniqueViolation modelName fields => thrownViolation modelName fields
  | .checkViolation _ =>
      .object ⟨some "DriverAdapterError", some ⟨some "postgres", none⟩⟩
  | .recordNotFound modelName =>
      .knownRequest "P2025" (some ⟨some modelName, none, none⟩)

def proposalConflict : Thrown ProposalError :=
  .domain ⟨.proposalConflict, proposalConflictMessage⟩

/-- A collision of two revisions on the next version number. -/
def isRevisionCollision (error : Thrown ProposalError) : Bool :=
  isUniqueViolationOn error "ProposalVersion" ["proposalId", "versionNumber"]

/-- The `catch` of a run; `none` goes on to the next one. -/
def caughtRevision (attempt : Nat) (error : Thrown ProposalError) :
    Option (Except (Thrown ProposalError) Answer) :=
  if isRevisionCollision error then
    if attempt < maxRevisionAttempts then
      none
    else
      some (.error proposalConflict)
  else if isResidualDatabaseConflict error then
    some (.error proposalConflict)
  else
    some (.error error)

section Calls

variable (author : ProposalActor) (proposalId : Uuid)
  (input : CreateProposalRevisionInput) (turns : Nat → Nat → RevisionTurn)

/-- The transaction that this attempt of this run makes. -/
def revisionTransaction (run attempt : Nat) :
    Except (Thrown ProposalError) Answer × Tables :=
  runTransaction thrownOf
    (fun context =>
      createProposalRevisionTransaction context author proposalId input)
    (turns run attempt)

def revisionOutcome (run attempt : Nat) :
    Except (Thrown ProposalError) Answer :=
  (revisionTransaction author proposalId input turns run attempt).1

def revisionRun (run : Nat) : Finished (Thrown ProposalError) Answer :=
  runSerializableWithRetry
    (revisionOutcome author proposalId input turns run)

def revisionLoop : Finished (Thrown ProposalError) Answer :=
  loopFrom maxRevisionAttempts
    (fun run => (revisionRun author proposalId input turns run).result)
    caughtRevision (.error proposalConflict) 1

end Calls

/-- `before` is what the reads before the loop meet, `turns` what each attempt
of each run does. -/
def createProposalRevision (actor : AuthenticatedUser) (proposalId : Uuid)
    (input : CreateProposalRevisionInput) (before : RevisionTurn)
    (turns : Nat → Nat → RevisionTurn) :
    Finished (Thrown ProposalError) Answer :=
  match assertProposalAuthorActor actor with
  | .error failure => ⟨.error (thrownOf failure), 0⟩
  | .ok author =>
      let checked :=
        readOutside before fun tables =>
          (createProposalRevisionChecks author proposalId tables).mapError
            thrownOf
      match checked with
      | .error error => ⟨.error error, 0⟩
      | .ok _ => revisionLoop author proposalId input turns

/-- What holds of a call, whatever its transactions meet. -/
structure RevisionRetry (author : ProposalActor) (proposalId : Uuid)
    (input : CreateProposalRevisionInput) (turns : Nat → Nat → RevisionTurn)
    (call : Finished (Thrown ProposalError) Answer) : Prop where
  bounded :
    BoundedCall (revisionOutcome author proposalId input turns)
      (ViolatesKey "ProposalVersion" ["proposalId", "versionNumber"]) call
  /-- An answer is that of the last attempt, which committed what it wrote. -/
  committed :
    ∀ answer, call.result = .ok answer →
      1 ≤ call.attempts ∧
        ∃ attempt,
          attempt =
              (revisionRun author proposalId input turns
                call.attempts).attempts ∧
            createProposalRevisionTransaction
                (turns call.attempts attempt).context author proposalId input
                (turns call.attempts attempt).found =
              .ok
                (answer,
                  (revisionTransaction author proposalId input turns
                    call.attempts attempt).2)
  /-- A call that throws has committed nothing. -/
  rolledBack :
    ∀ error, call.result = .error error →
      ∑ run ∈ Finset.Icc 1 call.attempts,
        successes (revisionOutcome author proposalId input turns run)
          (revisionRun author proposalId input turns run).attempts = 0
  unchanged :
    ∀ run attempt error,
      revisionOutcome author proposalId input turns run attempt =
          .error error →
        (revisionTransaction author proposalId input turns run attempt).2 =
          (turns run attempt).found

variable {author : ProposalActor} {proposalId : Uuid}
  {input : CreateProposalRevisionInput} {turns : Nat → Nat → RevisionTurn}

theorem caughtRevision_eq_none {attempt : Nat} {error : Thrown ProposalError} :
    caughtRevision attempt error = none ↔
      ViolatesKey "ProposalVersion" ["proposalId", "versionNumber"] error ∧
        attempt < maxRevisionAttempts := by
  rw [← isUniqueViolationOn_iff, ← isRevisionCollision]
  unfold caughtRevision
  by_cases collides : isRevisionCollision error
  · simp [collides]
  · by_cases residual : isResidualDatabaseConflict error
    · simp [collides, residual]
    · simp [collides, residual]

theorem caughtRevision_ne_ok {attempt : Nat} {error : Thrown ProposalError}
    {answer : Answer} : caughtRevision attempt error ≠ some (.ok answer) := by
  unfold caughtRevision
  split
  · split
    · simp
    · simp
  · split
    · simp
    · simp

theorem revision_unchanged {run attempt : Nat} {error : Thrown ProposalError}
    (throws :
      revisionOutcome author proposalId input turns run attempt =
        .error error) :
    (revisionTransaction author proposalId input turns run attempt).2 =
      (turns run attempt).found :=
  runTransaction_rolledBack throws

theorem revisionRetry_refused (error : Thrown ProposalError) :
    RevisionRetry author proposalId input turns ⟨.error error, 0⟩ where
  bounded := BoundedCall.of_refused error
  committed := by
    intro answer returns
    cases returns
  rolledBack := by
    simp
  unchanged := fun _ _ _ => revision_unchanged

theorem revisionLoop_decidedByLast (author : ProposalActor)
    (proposalId : Uuid) (input : CreateProposalRevisionInput)
    (turns : Nat → Nat → RevisionTurn) :
    DecidedByLast
        (fun run => (revisionRun author proposalId input turns run).result)
        caughtRevision 1 (revisionLoop author proposalId input turns) ∧
      (revisionLoop author proposalId input turns).attempts ≤
        maxRevisionAttempts := by
  apply loopFrom_decidedByLast
  · intro run error goesOn
    exact (caughtRevision_eq_none.mp goesOn).2
  · decide

theorem revisionRetry_loop :
    RevisionRetry author proposalId input turns
      (revisionLoop author proposalId input turns) := by
  obtain ⟨decided, runs⟩ :=
    revisionLoop_decidedByLast author proposalId input turns
  refine
    { bounded :=
        BoundedCall.of_decided decided runs fun _ _ => caughtRevision_eq_none
      committed := ?_
      rolledBack := ?_
      unchanged := fun _ _ _ => revision_unchanged }
  · intro answer returns
    refine ⟨decided.started, _, rfl, ?_⟩
    obtain ⟨run, atLeast, atMost, lastReturns⟩ :=
      (decided.ok_iff fun _ _ _ => caughtRevision_ne_ok).mp returns
    rw [decided.eq_last_of_ok atLeast atMost lastReturns] at lastReturns
    exact runTransaction_committed (commits_of_ok lastReturns)
  · intro error throws
    obtain ⟨failure, fails, -⟩ := decided.failed_of_error throws
    exact sum_successes_of_error
      (fun run => runSerializableWithRetry_decidedByLast _) decided fails

theorem revisionRetry (actor : AuthenticatedUser) (before : RevisionTurn) :
    RevisionRetry ⟨actor.id, .travelConsultant⟩ proposalId input turns
      (createProposalRevision actor proposalId input before turns) := by
  unfold createProposalRevision assertProposalAuthorActor
  by_cases authors : actor.role = .travelConsultant
  · rw [if_pos authors]
    dsimp only
    split
    · exact revisionRetry_refused _
    · exact revisionRetry_loop
  · rw [if_neg authors]
    exact revisionRetry_refused _

/-- The failures of a revision that violate a key. -/
theorem avoids_otherKey {context : RequestContext} {tables : Tables}
    {modelName : String} {fields : List String}
    (notId :
      (modelName, fields) ≠ ("ProposalVersion", ["id"]))
    (notVersion :
      (modelName, fields) ≠
        ("ProposalVersion", ["proposalId", "versionNumber"])) :
    Avoids
      (createProposalRevisionTransaction context author proposalId input
        tables)
      (.uniqueViolation modelName fields) := by
  unfold createProposalRevisionTransaction assertProposalAuthorAccess
  refine avoids_bind (avoids_demand ?_) fun found _ => ?_
  · intro same
    cases same
  refine avoids_bind (avoids_require fun _ same => ?_) fun _ _ => ?_
  · cases same
  refine avoids_bind ?_ fun written _ => avoids_ok _
  unfold Proposals.createProposalRevision insertVersion
  refine avoids_bind ?_ fun versions _ => avoids_ok _
  refine avoids_bind (avoids_require fun _ same => ?_) fun _ _ => ?_
  · cases same
  refine avoids_bind (avoids_require fun _ same => ?_) fun _ _ => ?_
  · cases same
    exact notId rfl
  refine avoids_bind (avoids_require fun _ same => ?_) fun _ _ => avoids_ok _
  cases same
  exact notVersion rfl

/-- What the loop makes of the outcome of one attempt. -/
def answerOf : Outcome → Option (Except (Thrown ProposalError) Answer)
  | .returned answer => some (.ok answer)
  | .thrown failure => some (.error (thrownOf failure))
  | .tryAgain => none

theorem caughtRevision_other {attempt : Nat} {error : Thrown ProposalError}
    (noCollision : isRevisionCollision error = false)
    (noConflict : isResidualDatabaseConflict error = false) :
    caughtRevision attempt error = some (.error error) := by
  rw [caughtRevision, noCollision, noConflict]
  rfl

/-- The error of a failed revision is caught as `caught` says. -/
theorem caughtRevision_thrownOf {context : RequestContext} {tables : Tables}
    {failure : TxError} (attempt : Nat)
    (raised :
      createProposalRevisionTransaction context author proposalId input
        tables = .error failure) :
    caughtRevision attempt (thrownOf failure) =
      answerOf (caught (.createProposalRevision proposalId input) attempt
        failure) := by
  cases failure with
  | proposal error =>
      exact caughtRevision_other rfl rfl
  | checkViolation constraint =>
      exact caughtRevision_other rfl rfl
  | recordNotFound modelName =>
      exact caughtRevision_other rfl rfl
  | uniqueViolation modelName fields =>
      by_cases ofVersion :
          (modelName, fields) =
            ("ProposalVersion", ["proposalId", "versionNumber"])
      · obtain ⟨rfl, rfl⟩ := Prod.mk.inj ofVersion
        have collides :
            isRevisionCollision
              (thrownOf
                (.uniqueViolation "ProposalVersion"
                  ["proposalId", "versionNumber"])) :=
          (isUniqueViolationOn_thrownViolation (by decide)).mpr
            ⟨rfl, List.Perm.refl _⟩
        rw [caughtRevision, if_pos collides, caught, if_pos rfl]
        by_cases remaining : attempt < maxRevisionAttempts
        · rw [if_pos remaining, if_pos remaining]
          rfl
        · rw [if_neg remaining, if_neg remaining]
          rfl
      · have ofId : (modelName, fields) = ("ProposalVersion", ["id"]) := by
          by_contra notId
          exact avoids_otherKey notId ofVersion raised
        obtain ⟨rfl, rfl⟩ := Prod.mk.inj ofId
        have noCollision :
            ¬ isRevisionCollision
              (thrownOf (.uniqueViolation "ProposalVersion" ["id"])) := by
          intro collides
          obtain ⟨-, columns⟩ :=
            (isUniqueViolationOn_thrownViolation (by decide)).mp collides
          exact absurd columns.length_eq (by decide)
        have residual :
            isResidualDatabaseConflict
              (thrownOf (.uniqueViolation "ProposalVersion" ["id"])) :=
          rfl
        have otherKey :
            TxError.uniqueViolation "ProposalVersion" ["id"] ≠
              .uniqueViolation "ProposalVersion"
                ["proposalId", "versionNumber"] := by
          decide
        rw [caughtRevision, if_neg noCollision, if_pos residual, caught,
          if_neg otherKey]
        rfl

end Heritage.Proposals.Retries
