import Heritage.Proposals.Writes

/-!
# The life of a proposal's versions

From the writes follow the numbering of the versions and the one current
version, in any order of arrivals and attempts.
-/

namespace Heritage.Proposals

open Heritage.Store

variable {tables after : Tables}

structure Lifecycle (tables : Tables) : Prop where
  versionIds : (tables.versions.map ProposalVersion.id).Nodup
  ownProposals :
    ∀ version ∈ tables.versions,
      version.proposalId ∈ tables.proposals.map Proposal.id
  started :
    ∀ proposalId ∈ tables.proposals.map Proposal.id,
      versionsOf tables proposalId ≠ []
  numbered :
    ∀ proposalId,
      (versionsOf tables proposalId).map ProposalVersion.versionNumber =
        List.range' 1 (versionsOf tables proposalId).length
  oneCurrent :
    ∀ left ∈ tables.versions, ∀ right ∈ tables.versions,
      left.proposalId = right.proposalId → left.isCurrent →
        right.isCurrent → left.id = right.id
  hasCurrent :
    ∀ version ∈ tables.versions, version.clientVisibleAt.isSome →
      ∃ current ∈ tables.versions,
        current.proposalId = version.proposalId ∧ current.isCurrent

theorem lifecycle_empty : Lifecycle Tables.empty := by
  constructor <;> simp [Tables.empty, versionsOf]

theorem Draft.not_current {row : ProposalVersion} (draft : Draft tables row) :
    ¬ row.isCurrent := by
  simp [ProposalVersion.isCurrent, draft.unpublished]

theorem versionsOf_concat {proposals : List Proposal} {logs : List AuditLog}
    {row : ProposalVersion} (proposalId : Uuid) :
    versionsOf
        { tables with
          proposals := proposals
          versions := tables.versions ++ [row]
          auditLogs := logs } proposalId =
      versionsOf tables proposalId ++
        (if row.proposalId = proposalId then [row] else []) := by
  have appended :
      versionsOf
          { tables with
            proposals := proposals
            versions := tables.versions ++ [row]
            auditLogs := logs } proposalId =
        versionsOf tables proposalId ++
          [row].filter fun version => version.proposalId = proposalId :=
    List.filter_append ..
  rw [appended]
  by_cases own : row.proposalId = proposalId <;> simp [own]

theorem max_range' (count : Nat) : (List.range' 1 count).max?.getD 0 = count := by
  cases count with
  | zero =>
      rfl
  | succ previous =>
      have isMax : (List.range' 1 (previous + 1)).max? = some (previous + 1) := by
        rw [List.max?_eq_some_iff]
        constructor
        · rw [List.mem_range'_1]
          omega
        · intro number member
          rw [List.mem_range'_1] at member
          omega
      rw [isMax]
      rfl

/-- The next number is one more than the number of versions. -/
theorem Lifecycle.next_number (lifecycle : Lifecycle tables)
    (proposalId : Uuid) :
    (maxVersionNumber tables proposalId).getD 0 =
      (versionsOf tables proposalId).length := by
  rw [maxVersionNumber, lifecycle.numbered proposalId, max_range']

/-- A new draft with the next number of its proposal keeps the invariant. -/
theorem Lifecycle.authored (lifecycle : Lifecycle tables)
    {row : ProposalVersion} (draft : Draft tables row)
    (number :
      row.versionNumber = (versionsOf tables row.proposalId).length + 1)
    {proposals : List Proposal} {logs : List AuditLog}
    (grew :
      ∀ proposalId,
        proposalId ∈ proposals.map Proposal.id ↔
          proposalId ∈ tables.proposals.map Proposal.id ∨
            proposalId = row.proposalId) :
    Lifecycle
      { tables with
        proposals := proposals
        versions := tables.versions ++ [row]
        auditLogs := logs } where
  versionIds := nodup_map_concat lifecycle.versionIds draft.freshId
  ownProposals := by
    intro version member
    rw [grew]
    rcases List.mem_append.mp member with old | new
    · exact Or.inl (lifecycle.ownProposals version old)
    · exact Or.inr (by rw [List.mem_singleton.mp new])
  started := by
    intro proposalId member
    rw [versionsOf_concat]
    rcases (grew proposalId).mp member with old | rfl
    · exact
        List.append_ne_nil_of_left_ne_nil (lifecycle.started proposalId old) _
    · simp
  numbered := by
    intro proposalId
    rw [versionsOf_concat]
    split
    · rename_i own
      subst own
      rw [List.map_append, List.length_append, lifecycle.numbered, List.map_cons,
        List.map_nil, number, List.length_singleton, List.range'_1_concat,
        add_comm 1]
    · rw [List.append_nil]
      exact lifecycle.numbered proposalId
  oneCurrent := by
    intro left leftMember right rightMember same leftCurrent rightCurrent
    have kept :
        ∀ version ∈ tables.versions ++ [row], version.isCurrent →
          version ∈ tables.versions := by
      intro version member isCurrent
      rcases List.mem_append.mp member with old | new
      · exact old
      · rw [List.mem_singleton.mp new] at isCurrent
        exact absurd isCurrent draft.not_current
    exact
      lifecycle.oneCurrent left (kept left leftMember leftCurrent) right
        (kept right rightMember rightCurrent) same leftCurrent rightCurrent
  hasCurrent := by
    intro version member visible
    rcases List.mem_append.mp member with old | new
    · obtain ⟨current, currentMember, own, isCurrent⟩ :=
        lifecycle.hasCurrent version old visible
      exact
        ⟨current, List.mem_append_left _ currentMember, own, isCurrent⟩
    · rw [List.mem_singleton.mp new, draft.unpublished] at visible
      cases visible

theorem findCurrentClientVisibleVersion_eq_some {proposalId : Uuid}
    {current : ProposalVersion}
    (found :
      findCurrentClientVisibleVersion tables proposalId = some current) :
    current ∈ tables.versions ∧ current.proposalId = proposalId ∧
      current.isCurrent := by
  have matched := List.find?_some found
  simp only [decide_eq_true_eq] at matched
  refine ⟨List.mem_of_find?_eq_some found, matched.1, ?_⟩
  simp [ProposalVersion.isCurrent, matched.2.1, matched.2.2]

theorem findCurrentClientVisibleVersion_eq_none {proposalId : Uuid}
    (nothing : findCurrentClientVisibleVersion tables proposalId = none) :
    ∀ version ∈ tables.versions, version.proposalId = proposalId →
      ¬ version.isCurrent := by
  intro version member own isCurrent
  have unmatched := List.find?_eq_none.mp nothing version member
  simp only [ProposalVersion.isCurrent, Bool.and_eq_true,
    Option.isNone_iff_eq_none] at isCurrent
  exact unmatched (by simp [own, isCurrent.1, isCurrent.2])

/-- What publishing `target` makes of a row: the target becomes visible, and
the row that was current before it is superseded. -/
def publishedRow (tables : Tables) (target : ProposalVersion)
    (now : Timestamp) (version : ProposalVersion) : ProposalVersion :=
  if version.id = target.id then
    withClientVisibleAt now now version
  else if
      (findCurrentClientVisibleVersion tables target.proposalId).map
        ProposalVersion.id = some version.id then
    withSupersededAt now now version
  else
    version

section Published

variable {target : ProposalVersion} {now : Timestamp}

theorem publishedVersions_eq (notCurrent : ¬ target.isCurrent)
    (lifecycle : Lifecycle tables) (member : target ∈ tables.versions) :
    publishedVersions tables target now =
      tables.versions.map (publishedRow tables target now) := by
  unfold publishedVersions
  cases atCurrent :
      findCurrentClientVisibleVersion tables target.proposalId with
  | none =>
      apply List.map_congr_left
      intro version _
      unfold publishedRow
      simp [atCurrent]
  | some current =>
      obtain ⟨currentMember, -, isCurrent⟩ :=
        findCurrentClientVisibleVersion_eq_some atCurrent
      have different : current.id ≠ target.id := by
        intro same
        have sameRow : current = target :=
          List.inj_on_of_nodup_map lifecycle.versionIds currentMember member
            same
        rw [sameRow] at isCurrent
        exact notCurrent isCurrent
      dsimp only
      rw [updateBy, updateBy, List.map_map]
      apply List.map_congr_left
      intro version _
      unfold publishedRow
      rw [atCurrent]
      by_cases atTarget : version.id = target.id
      · simp [atTarget, different.symm]
      · by_cases superseded : version.id = current.id
        · simp [superseded, different, withSupersededAt]
        · simp [atTarget, superseded, Ne.symm superseded]

theorem publishedRow_id (version : ProposalVersion) :
    (publishedRow tables target now version).id = version.id := by
  unfold publishedRow
  split
  · rfl
  · split <;> rfl

theorem publishedRow_proposalId (version : ProposalVersion) :
    (publishedRow tables target now version).proposalId =
      version.proposalId := by
  unfold publishedRow
  split
  · rfl
  · split <;> rfl

theorem publishedRow_versionNumber (version : ProposalVersion) :
    (publishedRow tables target now version).versionNumber =
      version.versionNumber := by
  unfold publishedRow
  split
  · rfl
  · split <;> rfl

variable (lifecycle : Lifecycle tables) (member : target ∈ tables.versions)
  (unpublished : target.clientVisibleAt = none)
  (notSuperseded : target.supersededAt = none)

include unpublished in
theorem not_current_of_unpublished : ¬ target.isCurrent := by
  simp [ProposalVersion.isCurrent, unpublished]

include lifecycle member notSuperseded in
/-- After a publish the target is current, and of the versions that were
current those of other proposals still are. -/
theorem publishedRow_isCurrent {version : ProposalVersion}
    (versionMember : version ∈ tables.versions) :
    (publishedRow tables target now version).isCurrent ↔
      version.id = target.id ∨
        version.isCurrent ∧ version.proposalId ≠ target.proposalId := by
  unfold publishedRow
  by_cases atTarget : version.id = target.id
  · have isTarget : version = target :=
      List.inj_on_of_nodup_map lifecycle.versionIds versionMember member
        atTarget
    rw [if_pos atTarget, isTarget]
    simp [withClientVisibleAt, ProposalVersion.isCurrent, notSuperseded]
  · rw [if_neg atTarget]
    cases atCurrent :
        findCurrentClientVisibleVersion tables target.proposalId with
    | none =>
        have notOwn : version.isCurrent → version.proposalId ≠ target.proposalId :=
          fun isCurrent own =>
            findCurrentClientVisibleVersion_eq_none atCurrent version
              versionMember own isCurrent
        simpa [atTarget] using notOwn
    | some current =>
        obtain ⟨currentMember, ownProposal, isCurrent⟩ :=
          findCurrentClientVisibleVersion_eq_some atCurrent
        by_cases superseded : current.id = version.id
        · have isVersion : current = version :=
            List.inj_on_of_nodup_map lifecycle.versionIds currentMember
              versionMember superseded
          rw [isVersion] at ownProposal
          simp [superseded, atTarget, ownProposal, withSupersededAt,
            ProposalVersion.isCurrent]
        · have notOwn :
              version.isCurrent → version.proposalId ≠ target.proposalId := by
            intro versionCurrent own
            exact
              superseded
                (lifecycle.oneCurrent current currentMember version
                  versionMember (ownProposal.trans own.symm) isCurrent
                  versionCurrent)
          simpa [atTarget, superseded] using notOwn

include lifecycle member unpublished notSuperseded in
theorem Lifecycle.published {logs : List AuditLog} :
    Lifecycle
      { tables with
        versions := publishedVersions tables target now
        auditLogs := logs } := by
  rw [publishedVersions_eq (not_current_of_unpublished unpublished) lifecycle
    member]
  have ofProposal :
      ∀ proposalId,
        (versionsOf
          { tables with
            versions := tables.versions.map (publishedRow tables target now)
            auditLogs := logs } proposalId) =
          (versionsOf tables proposalId).map
            (publishedRow tables target now) := by
    intro proposalId
    unfold versionsOf
    rw [List.filter_map]
    congr 1
    apply List.filter_congr
    intro version _
    simp [publishedRow_proposalId]
  constructor
  · rw [List.map_map]
    have sameIds :
        ProposalVersion.id ∘ publishedRow tables target now =
          ProposalVersion.id :=
      funext publishedRow_id
    rw [sameIds]
    exact lifecycle.versionIds
  · intro version versionMember
    obtain ⟨old, oldMember, rfl⟩ := List.mem_map.mp versionMember
    rw [publishedRow_proposalId]
    exact lifecycle.ownProposals old oldMember
  · intro proposalId listed
    rw [ofProposal]
    simpa using lifecycle.started proposalId listed
  · intro proposalId
    have sameNumbers :
        ProposalVersion.versionNumber ∘ publishedRow tables target now =
          ProposalVersion.versionNumber :=
      funext publishedRow_versionNumber
    rw [ofProposal, List.map_map, sameNumbers, List.length_map]
    exact lifecycle.numbered proposalId
  · intro left leftMember right rightMember same leftCurrent rightCurrent
    obtain ⟨oldLeft, oldLeftMember, rfl⟩ := List.mem_map.mp leftMember
    obtain ⟨oldRight, oldRightMember, rfl⟩ := List.mem_map.mp rightMember
    rw [publishedRow_proposalId, publishedRow_proposalId] at same
    rw [publishedRow_id, publishedRow_id]
    have isTarget :
        ∀ version ∈ tables.versions, version.id = target.id →
          version = target :=
      fun version versionMember =>
        List.inj_on_of_nodup_map lifecycle.versionIds versionMember member
    rw [publishedRow_isCurrent lifecycle member notSuperseded oldLeftMember]
      at leftCurrent
    rw [publishedRow_isCurrent lifecycle member notSuperseded oldRightMember]
      at rightCurrent
    rcases leftCurrent with leftTarget | ⟨leftCurrent, leftOther⟩ <;>
      rcases rightCurrent with rightTarget | ⟨rightCurrent, rightOther⟩
    · exact leftTarget.trans rightTarget.symm
    · rw [isTarget oldLeft oldLeftMember leftTarget] at same
      exact absurd same.symm rightOther
    · rw [isTarget oldRight oldRightMember rightTarget] at same
      exact absurd same leftOther
    · exact
        lifecycle.oneCurrent oldLeft oldLeftMember oldRight oldRightMember
          same leftCurrent rightCurrent
  · intro version versionMember visible
    obtain ⟨old, oldMember, rfl⟩ := List.mem_map.mp versionMember
    rw [publishedRow_proposalId]
    by_cases own : old.proposalId = target.proposalId
    · refine
        ⟨publishedRow tables target now target, List.mem_map_of_mem member, ?_,
          ?_⟩
      · rw [publishedRow_proposalId, own]
      · rw [publishedRow_isCurrent lifecycle member notSuperseded member]
        exact Or.inl rfl
    · have wasVisible : old.clientVisibleAt.isSome := by
        unfold publishedRow at visible
        split at visible
        · rename_i atTarget
          have isTarget : old = target :=
            List.inj_on_of_nodup_map lifecycle.versionIds oldMember member
              atTarget
          exact absurd (by rw [isTarget]) own
        · split at visible <;> exact visible
      obtain ⟨current, currentMember, currentOwn, isCurrent⟩ :=
        lifecycle.hasCurrent old oldMember wasVisible
      refine
        ⟨publishedRow tables target now current,
          List.mem_map_of_mem currentMember, ?_, ?_⟩
      · rw [publishedRow_proposalId, currentOwn]
      · rw [publishedRow_isCurrent lifecycle member notSuperseded
          currentMember, currentOwn]
        exact Or.inr ⟨isCurrent, own⟩

end Published

theorem Write.lifecycle (write : Write tables after)
    (lifecycle : Lifecycle tables) : Lifecycle after := by
  cases write with
  | created proposal row logs draft freshProposal ownProposal first =>
      have noneYet : versionsOf tables row.proposalId = [] := by
        apply List.filter_eq_nil_iff.mpr
        intro version member own
        have listed := lifecycle.ownProposals version member
        rw [of_decide_eq_true own, ownProposal] at listed
        obtain ⟨other, found⟩ := exists_findBy_of_mem_map listed
        rw [freshProposal] at found
        cases found
      apply lifecycle.authored draft
      · rw [noneYet, first]
        rfl
      · intro proposalId
        simp [ownProposal, or_comm, eq_comm]
  | revised row logs draft ownProposal next =>
      apply lifecycle.authored draft
      · rw [next, lifecycle.next_number]
      · intro proposalId
        constructor
        · exact Or.inl
        · rintro (listed | rfl)
          · exact listed
          · exact ownProposal
  | published target now logs found unpublished notSuperseded =>
      exact
        lifecycle.published (mem_of_findBy found) unpublished notSuperseded

theorem step_lifecycle (state : State) (request : Request)
    (lifecycle : Lifecycle state.tables) :
    Lifecycle (step state request).tables := by
  rcases step_writes state request with ⟨staffAssignments, same⟩ | write
  · rw [same]
    exact
      ⟨lifecycle.versionIds, lifecycle.ownProposals, lifecycle.started,
        lifecycle.numbered, lifecycle.oneCurrent, lifecycle.hasCurrent⟩
  · exact write.lifecycle lifecycle

theorem lifecycle_tablesAfter (requests : List Request) :
    Lifecycle (tablesAfter requests) :=
  @run_invariant _ _ step (fun state => Lifecycle state.tables) State.initial
    lifecycle_empty step_lifecycle requests

/-! ## What versions keep -/

/-- A version keeps its number, once visible its `clientVisibleAt`, and once
superseded everything. -/
structure KeptAs (version later : ProposalVersion) : Prop where
  id : later.id = version.id
  proposalId : later.proposalId = version.proposalId
  versionNumber : later.versionNumber = version.versionNumber
  visible :
    version.clientVisibleAt.isSome →
      later.clientVisibleAt = version.clientVisibleAt
  superseded : version.supersededAt.isSome → later = version

theorem KeptAs.refl (version : ProposalVersion) : KeptAs version version :=
  ⟨rfl, rfl, rfl, fun _ => rfl, fun _ => rfl⟩

theorem KeptAs.trans {first second third : ProposalVersion}
    (earlier : KeptAs first second) (later : KeptAs second third) :
    KeptAs first third where
  id := later.id.trans earlier.id
  proposalId := later.proposalId.trans earlier.proposalId
  versionNumber := later.versionNumber.trans earlier.versionNumber
  visible := by
    intro visible
    have middle := earlier.visible visible
    rw [later.visible (by rw [middle]; exact visible), middle]
  superseded := by
    intro superseded
    have middle := earlier.superseded superseded
    rw [later.superseded (by rw [middle]; exact superseded), middle]

/-- Every version is there later, as the keeping allows. -/
def Kept (tables after : Tables) : Prop :=
  ∀ version ∈ tables.versions, ∃ later ∈ after.versions,
    KeptAs version later

theorem Kept.of_subset (grew : tables.versions ⊆ after.versions) :
    Kept tables after :=
  fun version member => ⟨version, grew member, KeptAs.refl version⟩

theorem Kept.trans {middle : Tables} (first : Kept tables middle)
    (second : Kept middle after) : Kept tables after := by
  intro version member
  obtain ⟨middleVersion, middleMember, earlier⟩ := first version member
  obtain ⟨laterVersion, laterMember, later⟩ :=
    second middleVersion middleMember
  exact ⟨laterVersion, laterMember, earlier.trans later⟩

theorem Write.kept (write : Write tables after)
    (lifecycle : Lifecycle tables) : Kept tables after := by
  cases write with
  | created => exact Kept.of_subset (List.subset_append_left _ _)
  | revised => exact Kept.of_subset (List.subset_append_left _ _)
  | published target now logs found unpublished notSuperseded =>
      have member := mem_of_findBy found
      intro version versionMember
      dsimp only
      rw [publishedVersions_eq (not_current_of_unpublished unpublished)
        lifecycle member]
      refine
        ⟨publishedRow tables target now version,
          List.mem_map_of_mem versionMember, publishedRow_id version,
          publishedRow_proposalId version, publishedRow_versionNumber version,
          ?_, ?_⟩
      all_goals
        intro holds
        have notTarget : version.id ≠ target.id := by
          intro atTarget
          have isTarget : version = target :=
            List.inj_on_of_nodup_map lifecycle.versionIds versionMember
              member atTarget
          rw [isTarget] at holds
          simp [unpublished, notSuperseded] at holds
        unfold publishedRow
        rw [if_neg notTarget]
      · split <;> rfl
      · -- the row that is superseded now was not superseded before
        split
        · rename_i wasCurrent
          obtain ⟨current, foundCurrent, sameId⟩ :=
            Option.map_eq_some_iff.mp wasCurrent
          obtain ⟨currentMember, -, isCurrent⟩ :=
            findCurrentClientVisibleVersion_eq_some foundCurrent
          have isVersion : current = version :=
            List.inj_on_of_nodup_map lifecycle.versionIds currentMember
              versionMember sameId
          rw [isVersion] at isCurrent
          simp only [ProposalVersion.isCurrent, Bool.and_eq_true,
            Option.isNone_iff_eq_none] at isCurrent
          rw [isCurrent.2] at holds
          cases holds
        · rfl

theorem kept_run (requests more : List Request) :
    Kept (tablesAfter requests) (tablesAfter (requests ++ more)) := by
  have stepKept :
      ∀ (current : State) (request : Request),
        Lifecycle current.tables →
          Kept current.tables (step current request).tables := by
    intro current request lifecycle
    rcases step_writes current request with ⟨staffAssignments, same⟩ | write
    · rw [same]
      exact Kept.of_subset (List.Subset.refl _)
    · exact write.kept lifecycle
  unfold tablesAfter stateAfter
  rw [run_append]
  exact
    @run_related _ _ step (fun state => Lifecycle state.tables)
      (fun earlier later => Kept earlier.tables later.tables)
      (fun current => Kept.of_subset (List.Subset.refl _))
      (fun first second => first.trans second)
      (fun current request => step_lifecycle current request) stepKept _
      (lifecycle_tablesAfter requests) more

/-- The versions of a reached database. -/
structure VersionLifecycle (requests more : List Request) : Prop where
  atMostOneCurrent :
    ∀ left ∈ (tablesAfter requests).versions,
      ∀ right ∈ (tablesAfter requests).versions,
        left.proposalId = right.proposalId → left.isCurrent →
          right.isCurrent → left = right
  currentOncePublished :
    ∀ version ∈ (tablesAfter requests).versions,
      version.clientVisibleAt.isSome →
        ∃! current,
          current ∈ (tablesAfter (requests ++ more)).versions ∧
            current.proposalId = version.proposalId ∧ current.isCurrent
  supersededForGood :
    ∀ version ∈ (tablesAfter requests).versions,
      version.supersededAt.isSome →
        ¬ version.isCurrent ∧
          findBy ProposalVersion.id version.id
              (tablesAfter (requests ++ more)).versions =
            some version
  numbered :
    ∀ proposalId,
      (versionsOf (tablesAfter requests) proposalId).map
          ProposalVersion.versionNumber =
        List.range' 1 (versionsOf (tablesAfter requests) proposalId).length
  staleUnchanged :
    ∀ callId context call versionId input version,
      findBy WaitingCall.callId callId (stateAfter requests).waiting =
          some call →
        call.operation = .publishProposalVersion versionId input →
          findBy ProposalVersion.id versionId
              (tablesAfter requests).versions =
            some version →
            ¬ version.isCurrent →
              (findCurrentClientVisibleVersion (tablesAfter requests)
                    version.proposalId).map ProposalVersion.id ≠
                  input.expectedCurrentVersionId →
                (step (stateAfter requests)
                    (.attempt callId context)).tables =
                  tablesAfter requests

/-- At any time of any interleaving: a proposal has one current version from
its first publish on and none before, a superseded version stays as it is, the
numbers have no gap, and a stale publish changes nothing. -/
theorem version_lifecycle (requests more : List Request) :
    VersionLifecycle requests more where
  atMostOneCurrent := by
    intro left leftMember right rightMember same leftCurrent rightCurrent
    have lifecycle := lifecycle_tablesAfter requests
    exact
      List.inj_on_of_nodup_map lifecycle.versionIds leftMember rightMember
        (lifecycle.oneCurrent left leftMember right rightMember same
          leftCurrent rightCurrent)
  currentOncePublished := by
    intro version member visible
    have lifecycle := lifecycle_tablesAfter (requests ++ more)
    obtain ⟨later, laterMember, kept⟩ := kept_run requests more version member
    have stillVisible : later.clientVisibleAt.isSome := by
      rw [kept.visible visible]
      exact visible
    obtain ⟨current, currentMember, own, isCurrent⟩ :=
      lifecycle.hasCurrent later laterMember stillVisible
    refine
      ⟨current, ⟨currentMember, own.trans kept.proposalId, isCurrent⟩, ?_⟩
    rintro other ⟨otherMember, otherOwn, otherCurrent⟩
    have same : other.proposalId = current.proposalId := by
      rw [otherOwn, own, kept.proposalId]
    exact
      List.inj_on_of_nodup_map lifecycle.versionIds otherMember currentMember
        (lifecycle.oneCurrent other otherMember current currentMember same
          otherCurrent isCurrent)
  supersededForGood := by
    intro version member superseded
    have lifecycle := lifecycle_tablesAfter (requests ++ more)
    obtain ⟨later, laterMember, kept⟩ := kept_run requests more version member
    rw [kept.superseded superseded] at laterMember
    refine ⟨?_, findBy_of_mem lifecycle.versionIds laterMember⟩
    simp [ProposalVersion.isCurrent, Option.isSome_iff_ne_none.mp superseded]
  numbered := (lifecycle_tablesAfter requests).numbered
  staleUnchanged := by
    intro callId context call versionId input version waiting publishes found
      notCurrent stale
    simp only [step, proceed_tables, waiting, Option.map_some,
      Option.getD_some, publishes]
    exact stale_publish_writes_nothing found notCurrent stale

end Heritage.Proposals
