import Heritage.Conversations.Commits
import Heritage.Office.Entries

/-!
# The audit trail

Whatever is requested in whatever order, entries are only added, a new entry
names the user who asked for the step that added it, and a step that adds none
changes nothing, apart from what this application does not audit:
conversations, reports about deliveries, a first send by hand and the users
that are managed elsewhere.
-/

namespace Heritage.Office

open Heritage.Store
open Heritage.Invitations (Platform)

/-- Who wrote an entry: the user whose call waits or who assigns, the user
that an activation creates, or the recipient of an invitation, who is
nobody yet. -/
def Authored (state : State) (entry : Entry) : Request → Prop
  | .attempt _ _ index =>
      ∃ waiting,
        state.waiting[index]? = some waiting ∧ Names waiting.actor.id entry
  | .assign _ actor _ => Names actor.id entry
  | .continueInvitation _ _ => entry.actorId = none
  | .activateAccount context _ _ => Names (context.randomUuid 0) entry
  | _ => False

/-- What a step that adds no entry leaves. -/
def Unaudited (state : State) (after : Database) : Request → Prop
  | .attempt _ _ index =>
      after = state.database ∨
        ∃ waiting,
          state.waiting[index]? = some waiting ∧
            HandSend waiting.call state.database after
  | .conversation _ _ _ =>
      ∃ conversations,
        conversations.portal = state.database.conversations.portal ∧
          after = { state.database with conversations := conversations }
  | .providerOutcome _ _ _ => ReportOnly state.database after
  | .webhook _ _ => ReportOnly state.database after
  | .usersChanged users accounts =>
      after =
        share
          (putPortal state.database
            { state.database.conversations.portal with
              users := users
              accounts := accounts })
  | _ => after = state.database
where
  ReportOnly (before after : Database) : Prop :=
    ∃ portal,
      Invitations.OnlyEvidence before.conversations.portal portal ∧
        after = putPortal before portal

/-- A step only adds entries, each by its author, and one that adds none
changes nothing that is audited. -/
structure Audited (platform : Platform) (state : State) (request : Request) :
    Prop where
  continued :
    ∀ feature,
      Continues (auditLog feature) (fun entry => Authored state entry request)
        state.database (step platform state request).database
  silent :
    (∀ feature,
        auditLog feature (step platform state request).database =
          auditLog feature state.database) →
      Unaudited state (step platform state request).database request

section Steps

variable {platform : Platform} {state : State}

@[simp]
theorem auditLog_share (feature : Feature) (database : Database) :
    auditLog feature (share database) = auditLog feature database := by
  cases feature <;> rfl

theorem shared_documented {allowed : Entry → Prop} {before after : Database}
    (shared : share before = before)
    (documented : AllDocumented auditLog allowed before after) :
    AllDocumented auditLog allowed before (share after) where
  continued := by
    intro feature
    exact
      continues_beside (documented.continued feature)
        (auditLog_share feature after)
  silent := by
    intro same
    have unchanged : after = before := by
      apply documented.silent
      intro feature
      rw [← same feature, auditLog_share]
    rw [unchanged, shared]

/-- A step whose change is documented. -/
theorem audited_of_documented {request : Request}
    (documented :
      AllDocumented auditLog (fun entry => Authored state entry request)
        state.database (step platform state request).database)
    (nothing : Unaudited state state.database request) :
    Audited platform state request where
  continued := documented.continued
  silent := by
    intro same
    rw [documented.silent same]
    exact nothing

/-- A step that adds no entry. -/
theorem audited_of_unaudited {request : Request}
    (sameLogs :
      ∀ feature,
        auditLog feature (step platform state request).database =
          auditLog feature state.database)
    (unaudited :
      Unaudited state (step platform state request).database request) :
    Audited platform state request where
  continued := fun feature => continues_of_eq (sameLogs feature)
  silent := fun _ => unaudited

theorem audited_of_kept {request : Request}
    (kept : (step platform state request).database = state.database)
    (nothing : Unaudited state state.database request) :
    Audited platform state request := by
  apply audited_of_unaudited
  · intro feature
    rw [kept]
  · rw [kept]
    exact nothing

/-- The invitations are in no other part. -/
theorem share_putPortal {database : Database}
    (shared : share database = database)
    (invitations : List Invitations.InvitationRecord) :
    share
        (putPortal database
          (Invitations.withInvitations invitations
            database.conversations.portal)) =
      putPortal database
        (Invitations.withInvitations invitations
          database.conversations.portal) := by
  have commutes :
      share
          (putPortal database
            (Invitations.withInvitations invitations
              database.conversations.portal)) =
        putPortal (share database)
          (Invitations.withInvitations invitations
            (share database).conversations.portal) :=
    rfl
  rw [commutes, shared]

theorem handSend_shared {call : Call} {before after : Database}
    (shared : share before = before)
    (handSend : HandSend call before after) :
    share after = after ∧
      ∀ feature, auditLog feature after = auditLog feature before := by
  obtain ⟨clientId, input, invitations, -, -, rfl⟩ := handSend
  refine ⟨share_putPortal shared invitations, ?_⟩
  intro feature
  cases feature <;> rfl

theorem attempt_step_audited {context : Journeys.AttemptContext}
    {rawToken : String} {index : Nat}
    (shared : share state.database = state.database)
    (admitted : AllAdmitted state) :
    Audited platform state (.attempt context rawToken index) := by
  cases found : state.waiting[index]? with
  | none =>
      apply audited_of_kept
      · simp only [step, act, found]
        exact shared
      · exact Or.inl rfl
  | some waiting =>
      rcases
        @attempt_audited platform state.database waiting.actor context rawToken
          waiting.call (admitted waiting (List.mem_of_getElem? found)) with
        documented | handSend
      · apply audited_of_documented
        · rw [step_attempt_database found]
          have carried := shared_documented shared documented
          refine ⟨?_, carried.silent⟩
          intro feature
          apply continues_of_allowed (carried.continued feature)
          intro entry names
          exact ⟨waiting, found, names⟩
        · exact Or.inl rfl
      · obtain ⟨alreadyShared, sameLogs⟩ := handSend_shared shared handSend
        apply audited_of_unaudited
        · rw [step_attempt_database found, alreadyShared]
          exact sameLogs
        · rw [step_attempt_database found, alreadyShared]
          exact Or.inr ⟨waiting, found, handSend⟩

theorem assign_step_audited {context : RequestContext}
    {actor : AuthenticatedUser} {operation : Assignments.Operation}
    (shared : share state.database = state.database)
    (sound : Assignments.Sound state.database.desk.clients.tables) :
    Audited platform state (.assign context actor operation) := by
  have sameLeads :
      (Assignments.perform platform.strings context actor operation
          state.database.desk).2.clients.tables.auditLogs =
        state.database.desk.clients.tables.auditLogs := by
    rcases
      @Assignments.perform_after platform.strings context state.database.desk
        actor operation sound.toExclusively with
      kept | ⟨-, rows, auditLogs, -, wrote⟩
    · rw [kept]
    · rw [wrote]
      rfl
  apply audited_of_documented
  · exact
      shared_documented shared
        (desk_documented (Assignments.perform_documented actor operation)
          sameLeads)
  · rfl

theorem perform_portal {context : RequestContext} {user : AuthenticatedUser}
    {tables : Conversations.Tables} (operation : Conversations.Operation) :
    Leaves (Conversations.perform platform context user tables operation)
      fun after => after.portal = tables.portal := by
  have stores :
      ∀ draft,
        Leaves (Conversations.storeDraft context draft tables)
          fun after => after.portal = tables.portal := by
    intro draft created after storing
    obtain ⟨-, -, -, -, -, -, -, rfl⟩ :=
      Conversations.createConversationWithFirstMessage_eq_ok.mp storing
    rfl
  have replies :
      ∀ input,
        Leaves (Conversations.createMessage tables context.now input)
          fun after => after.portal = tables.portal := by
    intro input created after storing
    obtain ⟨-, -, -, rfl⟩ := Conversations.createMessage_eq_ok.mp storing
    rfl
  cases operation with
  | createConversationAsClient clientId input =>
      exact leaves_bind fun draft _ => stores draft
  | createConversationAsStaff input =>
      exact leaves_bind fun draft _ => stores draft
  | replyAsClient clientId input =>
      iterate 4
        apply leaves_bind
        intro _ _
      exact replies _
  | replyAsStaff input =>
      iterate 5
        apply leaves_bind
        intro _ _
      exact replies _

theorem share_conversations {database : Database}
    {conversations : Conversations.Tables}
    (shared : share database = database)
    (samePortal :
      conversations.portal = database.conversations.portal) :
    share { database with conversations := conversations } =
      { database with conversations := conversations } := by
  have commutes :
      share { database with conversations := conversations } =
        { share database with
          conversations :=
            { conversations with
              portal := (share database).conversations.portal } } := by
    unfold share Database.clientProfiles
    simp only [samePortal]
    rfl
  rw [commutes, shared, ← samePortal]

theorem conversation_step_audited {context : RequestContext}
    {actor : AuthenticatedUser} {operation : Conversations.Operation}
    (shared : share state.database = state.database) :
    Audited platform state (.conversation context actor operation) := by
  have samePortal :=
    @transact_leaves _ _ _
      (fun after => after.portal = state.database.conversations.portal)
      (fun tables =>
        Conversations.perform platform context actor tables operation)
      state.database.conversations rfl (perform_portal operation)
  have after := share_conversations shared samePortal
  apply audited_of_unaudited
  · intro feature
    have sameLog := congrArg (auditLog feature) after
    refine sameLog.trans ?_
    cases feature with
    | invitations =>
        exact
          congrArg
            (fun portal => (portal.auditLogs.map Entry.invitation : List Entry))
            samePortal
    | _ => rfl
  · exact ⟨_, samePortal, after⟩

theorem report_audited {request : Request} {portal : Invitations.Tables}
    (shared : share state.database = state.database)
    (report :
      Invitations.OnlyEvidence state.database.conversations.portal portal)
    (stepped :
      (step platform state request).database =
        share (putPortal state.database portal))
    (unaudited :
      ∀ after,
        Unaudited.ReportOnly state.database after →
          Unaudited state after request) :
    Audited platform state request := by
  obtain ⟨invitations, sameRows, rfl⟩ := report
  rw [share_putPortal shared] at stepped
  apply audited_of_unaudited
  · intro feature
    rw [stepped]
    cases feature <;> rfl
  · apply unaudited
    rw [stepped]
    exact ⟨_, ⟨invitations, sameRows, rfl⟩, rfl⟩

theorem providerOutcome_step_audited {now : Timestamp} {index : Nat}
    {outcome : Invitations.SendOutcome}
    (shared : share state.database = state.database) :
    Audited platform state (.providerOutcome now index outcome) := by
  cases found : state.sending[index]? with
  | none =>
      apply audited_of_kept
      · simp only [step, act, portalStep, Invitations.step,
          Invitations.perform, found]
        exact shared
      · exact ⟨_, Invitations.onlyEvidence_refl, rfl⟩
  | some attempt =>
      apply
        report_audited shared
          (@Invitations.attemptAutomatedDelivery_evidence now
            state.database.conversations.portal attempt outcome)
      · simp only [step, act, portalStep, Invitations.step,
          Invitations.perform, found, Invitations.failureOf_snd]
        rfl
      · intro after reported
        exact reported

theorem webhook_step_audited {now : Timestamp}
    {verified : Option Invitations.VerifiedWebhookEvent}
    (shared : share state.database = state.database) :
    Audited platform state (.webhook now verified) := by
  apply
    report_audited shared
      (@Invitations.handleResendWebhookEvent_evidence now
        state.database.conversations.portal verified)
  · simp only [step, act, portalStep, Invitations.step, Invitations.perform,
      Invitations.failureOf_snd]
    rfl
  · intro after reported
    exact reported

theorem continueInvitation_step_audited {now : Timestamp}
    {rawToken : String} (shared : share state.database = state.database) :
    Audited platform state (.continueInvitation now rawToken) := by
  have documented :=
    @Activation.continueInvitation_documented platform
      state.database.conversations.portal now rawToken
  apply audited_of_documented
  · simp only [step, act, portalStep, Invitations.step, Invitations.perform,
      Invitations.failureOf_snd]
    apply shared_documented shared
    apply portal_documented documented
    intro entry isActor
    simp only [Authored, Entry.actorId, isActor]
  · rfl

theorem activateAccount_step_audited {context : RequestContext}
    {rawToken passwordHash : String}
    (shared : share state.database = state.database) :
    Audited platform state
      (.activateAccount context rawToken passwordHash) := by
  have documented :=
    @Activation.activateAccount_documented platform
      state.database.conversations.portal context rawToken passwordHash
  apply audited_of_documented
  · simp only [step, act, portalStep, Invitations.step, Invitations.perform,
      Invitations.failureOf_snd]
    apply shared_documented shared
    apply portal_documented documented
    intro entry isActor
    exact names_of_actor isActor
  · rfl

theorem step_audited (request : Request)
    (shared : share state.database = state.database)
    (sound : Assignments.Sound state.database.desk.clients.tables)
    (admitted : AllAdmitted state) :
    Audited platform state request := by
  cases request with
  | call actor operation =>
      exact audited_of_kept shared rfl
  | attempt context rawToken index =>
      exact attempt_step_audited shared admitted
  | aborted index =>
      exact audited_of_kept shared rfl
  | assign context actor operation =>
      exact assign_step_audited shared sound
  | conversation context actor operation =>
      exact conversation_step_audited shared
  | providerOutcome now index outcome =>
      exact providerOutcome_step_audited shared
  | webhook now verified =>
      exact webhook_step_audited shared
  | continueInvitation now rawToken =>
      exact continueInvitation_step_audited shared
  | activateAccount context rawToken passwordHash =>
      exact activateAccount_step_audited shared
  | usersChanged users accounts =>
      apply audited_of_unaudited
      · intro feature
        cases feature <;> rfl
      · rfl

end Steps

/-! ## Runs -/

/-- The request was made by the user; an activation is made by the user it
creates. -/
def MadeBy (userId : Uuid) : Request → Prop
  | .call actor _ => actor.id = userId
  | .assign _ actor _ => actor.id = userId
  | .activateAccount context _ _ => context.randomUuid 0 = userId
  | _ => False

/-- Every waiting call was made in the run by the user it waits for. -/
theorem made_of_waiting (platform : Platform) (requests : List Request)
    {waiting : WaitingCall}
    (waits : waiting ∈ (stateAfter platform requests).waiting) :
    ∃ made ∈ requests, MadeBy waiting.actor.id made := by
  induction requests using List.reverseRecOn generalizing waiting with
  | nil =>
      exact absurd waits List.not_mem_nil
  | append_singleton earlier request inductionHypothesis =>
      have old :
          ∀ {current : WaitingCall},
            current ∈ (stateAfter platform earlier).waiting →
              ∃ made ∈ earlier ++ [request], MadeBy current.actor.id made := by
        intro current waited
        obtain ⟨made, member, isMaker⟩ := inductionHypothesis waited
        exact ⟨made, List.mem_append_left _ member, isMaker⟩
      unfold stateAfter at waits
      rw [run_append, run_cons, run_nil] at waits
      change
        waiting ∈
          (step platform (stateAfter platform earlier) request).waiting at waits
      cases request with
      | call actor operation =>
          rcases List.mem_append.mp waits with waited | new
          · exact old waited
          · obtain ⟨call, -, rfl⟩ :=
              Option.map_eq_some_iff.mp (Option.mem_toList.mp new)
            exact
              ⟨_, List.mem_append_right _ (List.mem_singleton.mpr rfl), rfl⟩
      | attempt context rawToken index =>
          simp only [step, act] at waits
          cases found : (stateAfter platform earlier).waiting[index]? with
          | none =>
              rw [found] at waits
              exact old waits
          | some current =>
              rw [found] at waits
              dsimp only at waits
              split at waits
              · exact old (List.mem_of_mem_eraseIdx waits)
              · rcases List.mem_or_eq_of_mem_set waits with waited | rfl
                · exact old waited
                · exact @old current (List.mem_of_getElem? found)
      | _ =>
          exact old waits

/-- The trail of a run. -/
structure Trail (platform : Platform) (requests : List Request) : Prop where
  steps :
    ∀ earlier request later,
      requests = earlier ++ request :: later →
        Audited platform (stateAfter platform earlier) request
  authors :
    ∀ feature, ∀ entry ∈ auditLog feature (databaseAfter platform requests),
      ∃ earlier request later,
        requests = earlier ++ request :: later ∧
          Authored (stateAfter platform earlier) entry request ∧
            ∀ userId, Names userId entry →
              ∃ made ∈ earlier ++ [request], MadeBy userId made

theorem names_unique {entry : Entry} {first second : Uuid}
    (one : Names first entry) (other : Names second entry) :
    first = second :=
  Option.some.inj (one.symm.trans other)

/-- The author of an entry asked for what it reports. -/
theorem made_of_authored {platform : Platform} {earlier : List Request}
    {request : Request} {entry : Entry} {userId : Uuid}
    (authored : Authored (stateAfter platform earlier) entry request)
    (names : Names userId entry) :
    ∃ made ∈ earlier ++ [request], MadeBy userId made := by
  have isLast : request ∈ earlier ++ [request] :=
    List.mem_append_right _ (List.mem_singleton.mpr rfl)
  cases request with
  | attempt context rawToken index =>
      obtain ⟨waiting, found, namesActor⟩ := authored
      obtain ⟨made, member, isMaker⟩ :=
        made_of_waiting platform earlier (List.mem_of_getElem? found)
      rw [names_unique namesActor names] at isMaker
      exact ⟨made, List.mem_append_left _ member, isMaker⟩
  | assign context actor operation =>
      exact ⟨_, isLast, names_unique authored names⟩
  | activateAccount context rawToken passwordHash =>
      exact ⟨_, isLast, names_unique authored names⟩
  | continueInvitation now rawToken =>
      have nobody : entry.actorId = none := authored
      rw [Names, nobody] at names
      cases names
  | _ =>
      exact absurd authored id

/-- Whatever is requested in whatever order: entries are only added, each by a
step that its author asked for, and a step that adds none changes nothing that
is audited. -/
theorem every_change_audited (platform : Platform)
    (requests : List Request) : Trail platform requests := by
  have steps :
      ∀ earlier request later,
        requests = earlier ++ request :: later →
          Audited platform (stateAfter platform earlier) request := by
    intro earlier request later _
    exact
      step_audited request (stateAfter_shared platform earlier)
        (databaseAfter_sound platform earlier)
        (stateAfter_admitted platform earlier)
  refine ⟨steps, ?_⟩
  intro feature entry stored
  obtain ⟨entries, goesOn, added⟩ :=
    @entries_of_run State Entry Request (step platform)
      (fun state => auditLog feature state.database)
      (fun state request entry => Authored state entry request)
      State.initial requests
      (fun earlier request later split =>
        (steps earlier request later split).continued feature)
  have isNew : entry ∈ entries := by
    have nothing : auditLog feature State.initial.database = [] := by
      cases feature <;> rfl
    change
      auditLog feature (databaseAfter platform requests) =
        auditLog feature State.initial.database ++ entries at goesOn
    rw [nothing, List.nil_append] at goesOn
    rw [← goesOn]
    exact stored
  obtain ⟨earlier, request, later, split, authored⟩ := added entry isNew
  exact
    ⟨earlier, request, later, split, authored,
      fun _ names => made_of_authored authored names⟩

end Heritage.Office
