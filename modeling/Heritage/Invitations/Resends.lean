import Heritage.Invitations.Verified

/-!
# Optimistic resends

A resend names the send operation and the `updatedAt` it observed.  Every
write of a row leaves its new version in the trace of written rows; as no
`updatedAt` comes back, what one resend observed and replaced is never
observed again.
-/

namespace Heritage.Invitations

open Heritage.Store
open Repository

/-- The rows a step writes: those it changes and the one it reserves. -/
def writtenRows (platform : Platform) (state : State) (request : Request) :
    List InvitationRecord :=
  (step platform state request).tables.invitations.filter fun row =>
    row ∉ state.tables.invitations ∨
      (recorded platform state request).any (Entry.reserves row.id)

/-- The version of a row. -/
def stamp (row : InvitationRecord) : Uuid × Timestamp :=
  (row.id, row.updatedAt)

/-- The rows a run wrote, oldest first. -/
def writes (platform : Platform) (requests : List Request) :
    List InvitationRecord :=
  trace (step platform) (writtenRows platform) State.initial requests

/-- What a resend observed. -/
def Request.observed : Request → Option (Option Uuid × Timestamp)
  | .resendInvitation _ _ _ _ _ concurrency =>
      some
        (concurrency.expectedCurrentSendOperationId,
          concurrency.expectedUpdatedAt)
  | _ => none

/-- The reservation a resend that observed `observed` makes on an
invitation. -/
def reservationsOn (platform : Platform) (invitationId : Uuid)
    (observed : Option Uuid × Timestamp) (state : State)
    (request : Request) : List Entry :=
  if request.observed = some observed then
    (recorded platform state request).toList.filter
      (Entry.reserves invitationId)
  else
    []

/-- The client and the send-operation key of a send or a resend. -/
def Request.sendOperation : Request → Option (Uuid × Uuid)
  | .sendInvitation _ _ _ clientId input =>
      some (clientId, input.idempotencyKey)
  | .resendInvitation _ _ _ clientId input _ =>
      some (clientId, input.idempotencyKey)
  | _ => none

variable {platform : Platform} {tables : Tables} {state : State}

/-- A reservation is refused, or answered from the current row, or it replaces
the token of a row at another operation that is as the precondition says. -/
theorem reserveSendOperation_cases
    (context : RequestContext) (rawToken : String)
    (actor : AuthenticatedUser) (clientId : Uuid)
    (input : SendOrResendInput) (kind : ReservationKind)
    (unique : UniqueIds tables) :
    (∃ failure,
      reserveSendOperation platform context rawToken actor clientId input
          kind tables = (.error failure, tables)) ∨
      (∃ current,
        reserveSendOperation platform context rawToken actor clientId input
            kind tables = (.ok (.alreadyReserved current), tables)) ∨
      ∃ row updated after,
        reserveSendOperation platform context rawToken actor clientId input
            kind tables = (.ok (.fresh updated rawToken), after) ∧
          findInvitationByClientId tables clientId = some row ∧
          ¬ (row.deliveryMethod = some .automatedEmail ∧
            row.sendOperationId = some input.idempotencyKey) ∧
          (∀ precondition ∈ kind.concurrency,
            row.sendOperationId =
                precondition.expectedCurrentSendOperationId ∧
              row.updatedAt = precondition.expectedUpdatedAt) ∧
          updated.id = row.id := by
  rcases reserveSendOperation_tables_cases context rawToken actor clientId
      input kind tables with
    refused | ⟨outcome, after, commits, returned⟩
  · exact Or.inl refused
  · refine Or.inr ?_
    rcases reserveSendOperationTransaction_eq_ok commits with
      ⟨row, found, ⟨rfl, rfl⟩ |
        ⟨email, updated, written, entry, notReserved, -, unstale, recording,
          rfl, -, rfl⟩⟩
    · exact Or.inl ⟨row, returned⟩
    · obtain ⟨sameId, -, -⟩ :=
        recordReservation_written unique (mem_of_findBy found) recording
      exact
        Or.inr
          ⟨row, updated, _, returned, found, notReserved, unstale, sameId⟩

/-- A send or a resend changes nothing and records nothing, or it reserves a
row at another operation that is as the request observed it. -/
theorem step_of_send {request : Request} {clientId sendOperationId : Uuid}
    (unique : UniqueIds state.tables)
    (sends : request.sendOperation = some (clientId, sendOperationId)) :
    (recorded platform state request = none ∧
        step platform state request = state) ∨
      ∃ row entry,
        recorded platform state request = some entry ∧
          entry.reserves row.id ∧
          findInvitationByClientId state.tables clientId = some row ∧
          ¬ (row.deliveryMethod = some .automatedEmail ∧
            row.sendOperationId = some sendOperationId) ∧
          ∀ observed, request.observed = some observed →
            (row.sendOperationId, row.updatedAt) = observed := by
  cases request with
  | sendInvitation context rawToken actor _ input =>
      cases sends
      simp only [step, perform, attemptsAfter, recorded, sendInvitation,
        failureOf_snd]
      rcases @reserveSendOperation_cases platform _ context rawToken actor
          clientId input firstSend unique with
        ⟨failure, refused⟩ | ⟨current, answered⟩ |
          ⟨row, updated, after, reserved, found, notCurrent, -, sameId⟩
      · rw [refused]
        exact Or.inl ⟨rfl, by simp [Except.map, attemptsAfter.started]⟩
      · rw [answered]
        exact
          Or.inl
            ⟨rfl, by simp [Except.map, sendProgress, attemptsAfter.started]⟩
      · rw [reserved]
        exact
          Or.inr
            ⟨row, _, rfl, decide_eq_true sameId, found, notCurrent,
              fun _ impossible => by cases impossible⟩
  | resendInvitation context rawToken actor _ input concurrency =>
      cases sends
      simp only [step, perform, attemptsAfter, recorded, resendInvitation,
        failureOf_snd]
      rcases @reserveSendOperation_cases platform _ context rawToken actor
          clientId input (resend concurrency) unique with
        ⟨failure, refused⟩ | ⟨current, answered⟩ |
          ⟨row, updated, after, reserved, found, notCurrent, unstale, sameId⟩
      · rw [refused]
        exact Or.inl ⟨rfl, by simp [Except.map, attemptsAfter.started]⟩
      · rw [answered]
        exact
          Or.inl
            ⟨rfl, by simp [Except.map, sendProgress, attemptsAfter.started]⟩
      · rw [reserved]
        refine
          Or.inr
            ⟨row, _, rfl, decide_eq_true sameId, found, notCurrent, ?_⟩
        rintro observed ⟨⟩
        obtain ⟨sameOperation, sameTime⟩ := unstale concurrency rfl
        rw [sameOperation, sameTime]
  | _ => cases sends

/-- The versions of one invitation. -/
def versionsOf (invitationId : Uuid) (written : List InvitationRecord) :
    List InvitationRecord :=
  written.filter fun row => row.id = invitationId

/-- Every row is the latest one written for its invitation. -/
def LatestWritten (written : List InvitationRecord)
    (tables : Tables) : Prop :=
  ∀ row ∈ tables.invitations,
    (versionsOf row.id written).getLast? = some row

theorem versionsOf_append (invitationId : Uuid)
    (first second : List InvitationRecord) :
    versionsOf invitationId (first ++ second) =
      versionsOf invitationId first ++ versionsOf invitationId second :=
  List.filter_append ..

theorem step_latestWritten {written : List InvitationRecord}
    (unique : UniqueIds state.tables)
    (latest : LatestWritten written state.tables) (request : Request) :
    LatestWritten (written ++ writtenRows platform state request)
      (step platform state request).tables := by
  intro row member
  have uniqueAfter : UniqueIds (step platform state request).tables :=
    step_uniqueIds unique request
  have onlyRow :
      ∀ other ∈ versionsOf row.id (writtenRows platform state request),
        other = row ∧ row ∈ writtenRows platform state request := by
    intro other otherMember
    obtain ⟨isWritten, sameId⟩ := List.mem_filter.mp otherMember
    have sameRow : other = row :=
      List.inj_on_of_nodup_map uniqueAfter (List.mem_filter.mp isWritten).1
        member (of_decide_eq_true sameId)
    exact ⟨sameRow, sameRow ▸ isWritten⟩
  rw [versionsOf_append, List.getLast?_append]
  cases newest :
      (versionsOf row.id (writtenRows platform state request)).getLast? with
  | some other =>
      rw [(onlyRow other (List.mem_of_getLast? newest)).1]
      rfl
  | none =>
      have notWritten : row ∉ writtenRows platform state request := by
        intro isWritten
        have listed :
            row ∈ versionsOf row.id (writtenRows platform state request) :=
          List.mem_filter.mpr ⟨isWritten, decide_eq_true rfl⟩
        rw [List.getLast?_eq_none_iff.mp newest] at listed
        cases listed
      have wasStored : row ∈ state.tables.invitations := by
        by_contra notStored
        exact
          notWritten
            (List.mem_filter.mpr ⟨member, decide_eq_true (Or.inl notStored)⟩)
      exact latest row wasStored

theorem stateAfter_latestWritten (requests : List Request) :
    LatestWritten (writes platform requests)
      (stateAfter platform requests).tables := by
  have invariant :
      UniqueIds (stateAfter platform requests).tables ∧
        LatestWritten (writes platform requests)
          (stateAfter platform requests).tables := by
    refine
      @trace_invariant _ _ (step platform) _ (writtenRows platform)
        (fun state written =>
          UniqueIds state.tables ∧ LatestWritten written state.tables)
        State.initial ⟨List.nodup_nil, ?_⟩ ?_ requests
    · intro row member
      cases member
    · rintro current written request ⟨unique, latest⟩
      exact
        ⟨step_uniqueIds unique request,
          step_latestWritten unique latest request⟩
  exact invariant.2

/-! ## At most one of the requests that observed the same version -/

/-- A written table has a row for every invitation that had one. -/
theorem mem_ids_of_written {entry : Option Entry}
    {invitations : List InvitationRecord}
    (written : InvitationsWritten tables entry invitations)
    {row : InvitationRecord} (member : row ∈ tables.invitations) :
    ∃ next ∈ invitations, next.id = row.id := by
  cases written with
  | unchanged =>
      exact ⟨row, member, rfl⟩
  | prepared id clientId now freshId =>
      exact ⟨row, List.mem_append_left _ member, rfl⟩
  | updated target now found written consistent =>
      refine ⟨_, mem_updateBy_of_mem member, ?_⟩
      split
      · exact written.id_eq row
      · rfl

/-- A step that reserves an invitation writes its row. -/
theorem versionsOf_of_reserved {request : Request} {entry : Entry}
    {row : InvitationRecord} (unique : UniqueIds state.tables)
    (member : row ∈ state.tables.invitations)
    (records : recorded platform state request = some entry)
    (reserves : entry.reserves row.id) :
    versionsOf row.id (writtenRows platform state request) ≠ [] := by
  obtain ⟨next, nextMember, sameId⟩ :=
    mem_ids_of_written (@step_written platform state unique request) member
  have reservesNext :
      (recorded platform state request).any (Entry.reserves next.id) := by
    rw [records, sameId]
    exact reserves
  have isWritten : next ∈ writtenRows platform state request :=
    List.mem_filter.mpr ⟨nextMember, decide_eq_true (Or.inr reservesNext)⟩
  exact
    List.ne_nil_of_mem (List.mem_filter.mpr ⟨isWritten, decide_eq_true sameId⟩)

/-- The invitation had a version with this `updatedAt` and has a later
one. -/
def Replaced (invitationId : Uuid) (updatedAt : Timestamp)
    (written : List InvitationRecord) : Prop :=
  ∃ earlier later,
    versionsOf invitationId written = earlier ++ later ∧
      updatedAt ∈ earlier.map InvitationRecord.updatedAt ∧ later ≠ []

theorem Replaced.append {invitationId : Uuid} {updatedAt : Timestamp}
    {written : List InvitationRecord}
    (replaced : Replaced invitationId updatedAt written)
    (more : List InvitationRecord) :
    Replaced invitationId updatedAt (written ++ more) := by
  obtain ⟨earlier, later, split, listed, notLast⟩ := replaced
  refine ⟨earlier, later ++ versionsOf invitationId more, ?_, listed, ?_⟩
  · rw [versionsOf_append, split, List.append_assoc]
  · exact List.append_ne_nil_of_left_ne_nil notLast _

/-- No row is at a replaced version. -/
theorem not_current_of_replaced {invitationId : Uuid} {updatedAt : Timestamp}
    {written : List InvitationRecord}
    (fresh : (written.map stamp).Nodup)
    (latest : LatestWritten written tables)
    (replaced : Replaced invitationId updatedAt written)
    {row : InvitationRecord} (member : row ∈ tables.invitations)
    (sameId : row.id = invitationId) : row.updatedAt ≠ updatedAt := by
  rintro rfl
  obtain ⟨earlier, later, split, listed, notLast⟩ := replaced
  obtain ⟨old, oldMember, sameTime⟩ := List.mem_map.mp listed
  have rowLater : row ∈ later := by
    have isLast := latest row member
    rw [sameId, split, List.getLast?_append_of_ne_nil _ notLast] at isLast
    exact List.mem_of_getLast? isLast
  have oldId : old.id = invitationId := by
    have inVersions : old ∈ versionsOf invitationId written := by
      rw [split]
      exact List.mem_append_left _ oldMember
    exact of_decide_eq_true (List.mem_filter.mp inVersions).2
  have distinct : ((earlier ++ later).map stamp).Nodup := by
    rw [← split]
    exact fresh.sublist (List.filter_sublist.map stamp)
  rw [List.map_append, List.nodup_append] at distinct
  apply
    distinct.2.2 _ (List.mem_map_of_mem oldMember) _
      (List.mem_map_of_mem rowLater)
  rw [stamp, stamp, oldId, sameId, sameTime]

/-- A resend that reserves an invitation observed its row, and replaces it. -/
theorem reservationsOn_of_ne_nil {invitationId : Uuid}
    {observed : Option Uuid × Timestamp} {request : Request}
    (unique : UniqueIds state.tables)
    (reserved :
      reservationsOn platform invitationId observed state request ≠ []) :
    (reservationsOn platform invitationId observed state request).length = 1 ∧
      ∃ row ∈ state.tables.invitations,
        row.id = invitationId ∧ row.updatedAt = observed.2 ∧
          versionsOf invitationId (writtenRows platform state request) ≠
            [] := by
  unfold reservationsOn at reserved ⊢
  split at reserved
  next isObserved =>
    have sends :
        ∃ clientId sendOperationId,
          request.sendOperation = some (clientId, sendOperationId) := by
      cases request with
      | resendInvitation context rawToken actor clientId input concurrency =>
          exact ⟨clientId, input.idempotencyKey, rfl⟩
      | _ => cases isObserved
    obtain ⟨clientId, sendOperationId, sends⟩ := sends
    rcases step_of_send unique sends with
      ⟨nothing, -⟩ | ⟨row, entry, records, reserves, found, -, observes⟩
    · rw [nothing] at reserved
      exact absurd rfl reserved
    · have member : row ∈ state.tables.invitations := mem_of_findBy found
      have writtenVersion := versionsOf_of_reserved unique member records reserves
      rw [records, Option.toList_some] at reserved ⊢
      have reservesIt : entry.reserves invitationId := by
        by_contra notReserved
        exact reserved (List.filter_cons_of_neg notReserved)
      have sameId : row.id = invitationId := by
        cases entry with
        | reserved id tokenHash operation =>
            exact
              (of_decide_eq_true reserves).symm.trans
                (of_decide_eq_true reservesIt)
        | _ => cases reserves
      rw [if_pos isObserved, List.filter_cons_of_pos reservesIt]
      exact
        ⟨rfl, row, member, sameId,
          congrArg Prod.snd (observes observed isObserved),
          sameId ▸ writtenVersion⟩
  · exact absurd rfl reserved

/-- What a run reserved for the requests that observed one version: nothing,
or once, and then the version is replaced. -/
theorem reservationsOn_cases (invitationId : Uuid)
    (observed : Option Uuid × Timestamp) (requests : List Request)
    (fresh : ((writes platform requests).map stamp).Nodup) :
    trace (step platform) (reservationsOn platform invitationId observed)
        State.initial requests = [] ∨
      (trace (step platform) (reservationsOn platform invitationId observed)
          State.initial requests).length = 1 ∧
        Replaced invitationId observed.2 (writes platform requests) := by
  induction requests using List.reverseRecOn with
  | nil =>
      exact Or.inl rfl
  | append_singleton earlier request inductionHypothesis =>
      have written :
          writes platform (earlier ++ [request]) =
            writes platform earlier ++
              writtenRows platform (stateAfter platform earlier) request :=
        trace_concat ..
      have freshBefore :
          ((writes platform earlier).map stamp).Nodup := by
        rw [written, List.map_append] at fresh
        exact fresh.sublist (List.sublist_append_left ..)
      have before := inductionHypothesis freshBefore
      have unique := (stateAfter_stored platform earlier).unique
      have latest := @stateAfter_latestWritten platform earlier
      rw [trace_concat, written]
      change
        _ ++ reservationsOn platform invitationId observed
            (stateAfter platform earlier) request = [] ∨
          (_ ++ reservationsOn platform invitationId observed
            (stateAfter platform earlier) request).length = 1 ∧ _
      by_cases nothing :
          reservationsOn platform invitationId observed
            (stateAfter platform earlier) request = []
      · rw [nothing, List.append_nil]
        rcases before with none | ⟨once, replaced⟩
        · exact Or.inl none
        · exact Or.inr ⟨once, replaced.append _⟩
      · obtain ⟨single, row, member, sameId, sameTime, version⟩ :=
          reservationsOn_of_ne_nil unique nothing
        have listed :
            observed.2 ∈
              (versionsOf invitationId (writes platform earlier)).map
                InvitationRecord.updatedAt := by
          rw [← sameTime, ← sameId]
          exact
            List.mem_map_of_mem (List.mem_of_getLast? (latest row member))
        rcases before with none | ⟨-, replaced⟩
        · rw [none, List.nil_append]
          exact
            Or.inr
              ⟨single, _, _, versionsOf_append .., listed, version⟩
        · exact
            absurd sameTime
              (not_current_of_replaced freshBefore latest replaced member
                sameId)

/-- In a run in which no write stores an `updatedAt` that its row had before:
of the resends that observed one version of an invitation at most one reserves
it; a send or a resend that reserves nothing changes nothing; and one whose
key is that of the invitation's current automated operation changes nothing
and starts no call of the provider. -/
theorem resends_optimistic (platform : Platform) (requests : List Request)
    (freshStamps : ((writes platform requests).map stamp).Nodup) :
    (∀ invitationId observed,
      (trace (step platform)
        (reservationsOn platform invitationId observed) State.initial
        requests).length ≤ 1) ∧
      ∀ earlier request later clientId sendOperationId,
        requests = earlier ++ request :: later →
          request.sendOperation = some (clientId, sendOperationId) →
            (recorded platform (stateAfter platform earlier) request = none →
              step platform (stateAfter platform earlier) request =
                stateAfter platform earlier) ∧
              ∀ row,
                findInvitationByClientId (stateAfter platform earlier).tables
                    clientId = some row →
                  row.deliveryMethod = some .automatedEmail →
                  row.sendOperationId = some sendOperationId →
                    step platform (stateAfter platform earlier) request =
                      stateAfter platform earlier := by
  constructor
  · intro invitationId observed
    rcases reservationsOn_cases invitationId observed requests freshStamps
      with nothing | ⟨once, -⟩
    · rw [nothing]
      exact Nat.zero_le 1
    · exact once.le
  · intro earlier request later clientId sendOperationId _ sends
    have unique := (stateAfter_stored platform earlier).unique
    rcases @step_of_send platform _ _ _ _ unique sends with
      ⟨-, unchanged⟩ | ⟨row, entry, records, -, found, notCurrent, -⟩
    · exact ⟨fun _ => unchanged, fun _ _ _ _ => unchanged⟩
    · constructor
      · intro nothing
        rw [nothing] at records
        cases records
      · intro current foundCurrent automated sameOperation
        rw [found] at foundCurrent
        cases foundCurrent
        exact absurd ⟨automated, sameOperation⟩ notCurrent

/-- A second resend on the version that the resent invitation replaced. -/
def secondClick : Request :=
  .resendInvitation ⟨fun _ => 0, 25⟩ "zY8xW6vU4tS2rQ0pO9nM7lK5"
    ⟨7, .adminManager⟩ 3 ⟨.automatedEmail, 52⟩ ⟨some 50, 10⟩

theorem second_click_changes_nothing :
    (trace (step examplePlatform)
        (reservationsOn examplePlatform 1 (some 50, 10)) State.initial
        (resentInvitation.take 4 ++ [secondClick])).length ≤ 1 ∧
      step examplePlatform
          (stateAfter examplePlatform (resentInvitation.take 4))
          secondClick =
        stateAfter examplePlatform (resentInvitation.take 4) := by
  obtain ⟨once, others⟩ :=
    resends_optimistic examplePlatform
      (resentInvitation.take 4 ++ [secondClick]) (by decide)
  exact
    ⟨once 1 (some 50, 10),
      (others (resentInvitation.take 4) secondClick [] 3 52 rfl rfl).1
        (by decide)⟩

end Heritage.Invitations
