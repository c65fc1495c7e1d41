import Heritage.Proposals.System

/-!
# The writes of the proposal system

An attempt writes nothing, authors one version or publishes one; arrivals and
assignments leave proposals and versions alone.
-/

namespace Heritage.Proposals

open Heritage.Store

variable {tables after : Tables}

/-- An unpublished version that no row has the id of. -/
structure Draft (tables : Tables) (row : ProposalVersion) : Prop where
  freshId : findBy ProposalVersion.id row.id tables.versions = none
  unpublished : row.clientVisibleAt = none
  notSuperseded : row.supersededAt = none

/-- The versions after the current one of `target`'s proposal is superseded
and `target` becomes visible. -/
def publishedVersions (tables : Tables) (target : ProposalVersion)
    (now : Timestamp) : List ProposalVersion :=
  updateBy ProposalVersion.id target.id (withClientVisibleAt now now)
    (match findCurrentClientVisibleVersion tables target.proposalId with
    | none => tables.versions
    | some current =>
        updateBy ProposalVersion.id current.id (withSupersededAt now now)
          tables.versions)

/-- One committed write. -/
inductive Write (tables : Tables) : Tables → Prop where
  | created (proposal : Proposal) (row : ProposalVersion)
      (logs : List AuditLog) (draft : Draft tables row)
      (freshProposal :
        findBy Proposal.id proposal.id tables.proposals = none)
      (ownProposal : row.proposalId = proposal.id)
      (first : row.versionNumber = 1) :
      Write tables
        { tables with
          proposals := tables.proposals ++ [proposal]
          versions := tables.versions ++ [row]
          auditLogs := logs }
  | revised (row : ProposalVersion) (logs : List AuditLog)
      (draft : Draft tables row)
      (ownProposal : row.proposalId ∈ tables.proposals.map Proposal.id)
      (next :
        row.versionNumber =
          (maxVersionNumber tables row.proposalId).getD 0 + 1) :
      Write tables
        { tables with
          versions := tables.versions ++ [row]
          auditLogs := logs }
  | published (target : ProposalVersion) (now : Timestamp)
      (logs : List AuditLog)
      (found :
        findBy ProposalVersion.id target.id tables.versions = some target)
      (unpublished : target.clientVisibleAt = none)
      (notSuperseded : target.supersededAt = none) :
      Write tables
        { tables with
          versions := publishedVersions tables target now
          auditLogs := logs }

section Attempts

variable {context : RequestContext} {author : ProposalActor}
  {answer : Answer}

theorem insertVersion_eq_ok {versions inserted : List ProposalVersion}
    {row : ProposalVersion} :
    insertVersion versions row = .ok inserted ↔
      contentNonblank row.content ∧
        findBy ProposalVersion.id row.id versions = none ∧
        (∀ version ∈ versions,
          version.proposalId = row.proposalId →
            version.versionNumber ≠ row.versionNumber) ∧
        versions ++ [row] = inserted := by
  simp only [insertVersion, bind_eq_ok, require_eq_ok,
    Option.isNone_iff_eq_none, Except.ok.injEq, exists_const]

theorem createProposalTransaction_ok {input : CreateProposalInput}
    (succeeds :
      createProposalTransaction context author input tables =
        .ok (answer, after)) :
    Write tables after := by
  simp only [createProposalTransaction, assertProposalAuthorAccess,
    createProposalWithFirstVersion, bind_eq_ok, require_eq_ok,
    Option.isNone_iff_eq_none, insertVersion_eq_ok,
    Except.ok.injEq] at succeeds
  obtain
    ⟨-, -, ⟨⟨proposal, version⟩, written⟩,
      ⟨-, freshProposal, versions, ⟨-, freshId, -, rfl⟩, created⟩,
      answered⟩ := succeeds
  simp only [Prod.mk.injEq] at created answered
  obtain ⟨⟨rfl, rfl⟩, rfl⟩ := created
  obtain ⟨-, rfl⟩ := answered
  exact .created _ _ _ ⟨freshId, rfl, rfl⟩ freshProposal rfl rfl

theorem createProposalRevisionTransaction_ok {proposalId : Uuid}
    {input : CreateProposalRevisionInput}
    (succeeds :
      createProposalRevisionTransaction context author proposalId input
          tables =
        .ok (answer, after)) :
    Write tables after := by
  simp only [createProposalRevisionTransaction, assertProposalAuthorAccess,
    findProposalContext, createProposalRevision, bind_eq_ok, require_eq_ok,
    demand_eq_ok, Option.map_eq_some_iff, insertVersion_eq_ok,
    Except.ok.injEq] at succeeds
  obtain
    ⟨found, ⟨proposal, foundProposal, rfl⟩, -, -, ⟨version, written⟩,
      ⟨versions, ⟨-, freshId, -, rfl⟩, created⟩, answered⟩ := succeeds
  simp only [Prod.mk.injEq] at created answered
  obtain ⟨rfl, rfl⟩ := created
  obtain ⟨-, rfl⟩ := answered
  exact
    .revised _ _ ⟨freshId, rfl, rfl⟩ (mem_map_of_findBy foundProposal) rfl

theorem updateVersion_written {id : Uuid}
    {change : ProposalVersion → ProposalVersion}
    {updated : ProposalVersion}
    (succeeds : updateVersion tables id change = .ok (updated, after)) :
    after =
      { tables with
        versions := updateBy ProposalVersion.id id change tables.versions } := by
  simp only [updateVersion, bind_eq_ok, demand_eq_ok, require_eq_ok,
    Except.ok.injEq, Prod.mk.injEq] at succeeds
  obtain ⟨-, -, -, -, -, rfl⟩ := succeeds
  rfl

theorem findProposalVersionForActor_eq_some {versionId : Uuid}
    {target : ProposalVersionActorContext}
    (found :
      findProposalVersionForActor tables author versionId = some target) :
    ∃ row,
      findBy ProposalVersion.id versionId tables.versions = some row ∧
        target.id = row.id ∧
        target.proposalId = row.proposalId ∧
        target.clientVisibleAt = row.clientVisibleAt ∧
        target.supersededAt = row.supersededAt := by
  simp only [findProposalVersionForActor, Option.bind_eq_bind,
    Option.bind_eq_some_iff, Option.some.injEq] at found
  obtain ⟨row, foundRow, proposal, -, rfl⟩ := found
  exact ⟨row, foundRow, rfl, rfl, rfl, rfl⟩

/-- A publish that succeeds found its version current and wrote nothing, or
found it unpublished, met the expected current version and wrote it. -/
theorem publishProposalVersionTransaction_ok {versionId : Uuid}
    {input : PublishProposalVersionInput}
    (succeeds :
      publishProposalVersionTransaction context author versionId input
          tables =
        .ok (answer, after)) :
    ∃ target,
      findBy ProposalVersion.id versionId tables.versions = some target ∧
        (target.isCurrent ∧ after = tables ∨
          (findCurrentClientVisibleVersion tables target.proposalId).map
              ProposalVersion.id =
            input.expectedCurrentVersionId ∧
          Write tables after) := by
  simp only [publishProposalVersionTransaction, bind_eq_ok,
    demand_eq_ok] at succeeds
  obtain ⟨found, lookup, -, -, rest⟩ := succeeds
  obtain ⟨target, foundTarget, sameId, sameProposal, sameVisible,
    sameSuperseded⟩ := findProposalVersionForActor_eq_some lookup
  refine ⟨target, foundTarget, ?_⟩
  rw [sameVisible, sameSuperseded, sameProposal, sameId] at rest
  split at rest
  · rename_i isCurrent
    simp only [Except.ok.injEq, Prod.mk.injEq] at rest
    exact Or.inl ⟨by simp [ProposalVersion.isCurrent, isCurrent], rest.2.symm⟩
  · rename_i notCurrent
    right
    simp only [bind_eq_ok, require_eq_ok] at rest
    obtain
      ⟨-, notSuperseded, -, expected, superseded, supersedes,
        ⟨updated, written⟩, marks, answered⟩ := rest
    simp only [Except.ok.injEq, Prod.mk.injEq] at answered
    obtain ⟨-, rfl⟩ := answered
    have unpublished : target.clientVisibleAt = none := by
      cases visible : target.clientVisibleAt with
      | none =>
          rfl
      | some _ =>
          exact absurd ⟨by simp [visible], notSuperseded⟩ notCurrent
    refine ⟨expected, ?_⟩
    have sameKey : target.id = versionId := key_of_findBy foundTarget
    rw [← sameKey] at foundTarget
    have published :=
      Write.published target context.now
        (written.auditLogs ++
          [{ actorId := author.id
             action := "PROPOSAL_VERSION_PUBLISHED"
             entityType := "ProposalVersion"
             entityId := target.id
             afterState :=
              .proposalVersionPublished target.proposalId
                found.versionNumber
                ((findCurrentClientVisibleVersion tables
                  target.proposalId).map ProposalVersion.id) }])
        foundTarget unpublished notSuperseded
    unfold publishedVersions at published
    have writtenEq := updateVersion_written marks
    cases atCurrent :
        findCurrentClientVisibleVersion tables target.proposalId with
    | none =>
        rw [atCurrent] at supersedes published
        simp only [supersedeCurrent, Except.ok.injEq] at supersedes
        subst supersedes writtenEq
        exact published
    | some current =>
        rw [atCurrent] at supersedes published
        simp only [supersedeCurrent, bind_eq_ok, Except.ok.injEq] at supersedes
        obtain ⟨⟨_, marked⟩, marksCurrent, rfl⟩ := supersedes
        have markedEq := updateVersion_written marksCurrent
        subst markedEq writtenEq
        exact published

theorem transaction_ok {operation : Operation}
    (succeeds :
      transaction context author operation tables = .ok (answer, after)) :
    after = tables ∨ Write tables after := by
  cases operation with
  | createProposal input =>
      exact Or.inr (createProposalTransaction_ok succeeds)
  | createProposalRevision proposalId input =>
      exact Or.inr (createProposalRevisionTransaction_ok succeeds)
  | publishProposalVersion versionId input =>
      rcases publishProposalVersionTransaction_ok succeeds with
        ⟨target, found, ⟨isCurrent, silent⟩ | ⟨expected, write⟩⟩
      · exact Or.inl silent
      · exact Or.inr write

end Attempts

theorem attempt_tables (context : RequestContext) (author : ProposalActor)
    (operation : Operation) (number : Nat) (tables : Tables) :
    (attempt context author operation number tables).2 =
      (transact (transaction context author operation) tables).2 := by
  unfold attempt
  rcases transact (transaction context author operation) tables with
    ⟨outcome, stored⟩
  cases outcome <;> rfl

theorem proceed_tables (state : State) (callId : Nat)
    (context : RequestContext) :
    (proceed state callId context).tables =
      ((findBy WaitingCall.callId callId state.waiting).map fun call =>
        (attempt context call.author call.operation call.attempt
          state.tables).2).getD state.tables := by
  unfold proceed
  cases findBy WaitingCall.callId callId state.waiting with
  | none =>
      rfl
  | some call =>
      simp only [Option.map_some, Option.getD_some]
      rcases
        attempt context call.author call.operation call.attempt
          state.tables with ⟨outcome, stored⟩
      cases outcome <;> rfl

theorem arrive_tables (state : State) (callId : Nat)
    (actor : AuthenticatedUser) (operation : Operation) :
    (arrive state callId actor operation).tables = state.tables := by
  unfold arrive
  split
  · rfl
  · split <;> rfl

/-- A step of the system keeps proposals and versions or writes once. -/
theorem step_writes (state : State) (request : Request) :
    (∃ staffAssignments,
      (step state request).tables =
        { state.tables with staffAssignments := staffAssignments }) ∨
      Write state.tables (step state request).tables := by
  cases request with
  | call callId actor operation =>
      exact Or.inl ⟨_, arrive_tables state callId actor operation⟩
  | attempt callId context =>
      simp only [step, proceed_tables]
      cases findBy WaitingCall.callId callId state.waiting with
      | none =>
          exact Or.inl ⟨_, rfl⟩
      | some call =>
          simp only [Option.map_some, Option.getD_some, attempt_tables]
          rcases
            transact_state_cases
              (transaction context call.author call.operation)
              state.tables with unchanged | ⟨answer, succeeds⟩
          · rw [unchanged]
            exact Or.inl ⟨_, rfl⟩
          · rcases transaction_ok succeeds with silent | write
            · rw [silent]
              exact Or.inl ⟨_, rfl⟩
            · exact Or.inr write
  | assignmentsChanged staffAssignments =>
      exact Or.inl ⟨staffAssignments, rfl⟩

/-- A publish that names another current version than the proposal has, of a
version that is not current itself, writes nothing. -/
theorem stale_publish_writes_nothing {context : RequestContext}
    {author : ProposalActor} {versionId : Uuid}
    {input : PublishProposalVersionInput} {number : Nat}
    {version : ProposalVersion}
    (found : findBy ProposalVersion.id versionId tables.versions = some version)
    (notCurrent : ¬ version.isCurrent)
    (stale :
      (findCurrentClientVisibleVersion tables version.proposalId).map
          ProposalVersion.id ≠
        input.expectedCurrentVersionId) :
    (attempt context author (.publishProposalVersion versionId input) number
      tables).2 = tables := by
  rw [attempt_tables]
  rcases
    transact_state_cases
      (transaction context author (.publishProposalVersion versionId input))
      tables with unchanged | ⟨answer, succeeds⟩
  · exact unchanged
  · obtain ⟨target, foundTarget, outcome⟩ :=
      publishProposalVersionTransaction_ok succeeds
    obtain rfl : version = target :=
      Option.some.inj (found.symm.trans foundTarget)
    rcases outcome with ⟨isCurrent, -⟩ | ⟨expected, -⟩
    · exact absurd isCurrent notCurrent
    · exact absurd expected stale

end Heritage.Proposals
