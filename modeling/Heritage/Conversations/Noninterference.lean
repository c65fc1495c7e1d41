import Heritage.Conversations.Views
import Heritage.Invitations.Evidence

/-!
# What a client cannot notice

Internal notes and operations on other clients' conversations are hidden from a
client: two runs with the same other steps show the client the same list and
accept the same replies.
-/

namespace Heritage.Conversations

open Heritage.Store
open Heritage.Invitations (Platform User)

variable {platform : Platform} {clientId : Uuid} {tables first second : Tables}

/-- The visible messages of a client's conversation are in the view. -/
theorem SameView.messageRows (same : SameView clientId first second)
    {conversationId : Uuid}
    (belongs : conversationBelongsToClient first conversationId clientId) :
    (messageRows first conversationId fun message =>
        message.visibility = .clientVisible) =
      Conversations.messageRows second conversationId fun message =>
        message.visibility = .clientVisible := by
  have throughView {tables : Tables}
      (own : conversationBelongsToClient tables conversationId clientId) :
      (tables.messages.filter fun message =>
          message.conversationId = conversationId ∧
            decide (message.visibility = .clientVisible)) =
        (tables.messages.filter (shownTo clientId tables)).filter
          fun message => message.conversationId = conversationId := by
    rw [List.filter_filter]
    apply List.filter_congr
    intro message _
    by_cases here : message.conversationId = conversationId
    · simp [shownTo, here, own]
    · simp [here]
  have filtered :
      (first.messages.filter fun message =>
          message.conversationId = conversationId ∧
            decide (message.visibility = .clientVisible)) =
        second.messages.filter fun message =>
          message.conversationId = conversationId ∧
            decide (message.visibility = .clientVisible) := by
    rw [throughView belongs, throughView (same.belongs _ ▸ belongs),
      same.messages]
  simp only [Conversations.messageRows, filtered, same.portal]

/-- The list of a client is a function of the client's view. -/
theorem SameView.listConversationsForClient
    (same : SameView clientId first second) (actor : AuthenticatedUser) :
    listConversationsForClient actor clientId first =
      Conversations.listConversationsForClient actor clientId second := by
  have rows :
      Repository.listConversationsForClient first clientId =
        Repository.listConversationsForClient second clientId := by
    simp only [Repository.listConversationsForClient, ← same.conversations]
    apply List.map_congr_left
    intro row member
    rw [mem_latestFirst, List.mem_filter] at member
    have belongs : conversationBelongsToClient first row.id clientId :=
      belongs_iff.mpr ⟨row, member.1, of_decide_eq_true member.2, rfl⟩
    rw [same.messageRows belongs]
  simp only [Conversations.listConversationsForClient, rows, same.portal]

/-- The draft of a creation is for the client it names. -/
theorem client_of_draftAsClient {strings : StringPlatform}
    {actor : AuthenticatedUser} {owner : Uuid}
    {input : CreateConversationAsClientInput} {draft : ConversationDraft}
    (succeeds : draftAsClient strings actor owner input tables = .ok draft) :
    draft.clientId = owner := by
  simp only [draftAsClient, bind_eq_ok, Except.ok.injEq] at succeeds
  obtain ⟨identity, -, category, -, body, -, rfl⟩ := succeeds
  rfl

theorem client_of_draftAsStaff {strings : StringPlatform}
    {actor : AuthenticatedUser} {input : CreateConversationAsStaffInput}
    {draft : ConversationDraft}
    (succeeds : draftAsStaff strings actor input tables = .ok draft) :
    draft.clientId = input.clientId := by
  simp only [draftAsStaff, bind_eq_ok, require_eq_ok, exists_const,
    Except.ok.injEq] at succeeds
  obtain ⟨-, -, category, -, body, -, rfl⟩ := succeeds
  rfl

theorem sameView_storeDraft_other {context : RequestContext}
    {draft : ConversationDraft} {created : Uuid} {after : Tables}
    (sound : Sound tables) (other : draft.clientId ≠ clientId)
    (succeeds : storeDraft context draft tables = .ok (created, after)) :
    SameView clientId tables after := by
  obtain ⟨-, newId, -, -, -, -, -, rfl⟩ :=
    createConversationWithFirstMessage_eq_ok.mp succeeds
  exact sameView_created_other sound newId other

/-- Of two clients a conversation belongs to one. -/
theorem not_shown_of_owner (sound : Sound tables) {owner : Option Uuid}
    {message : Message}
    (isOwner :
      findConversationOwnerClientId tables message.conversationId = owner)
    (other : owner ≠ some clientId) : ¬ shownTo clientId tables message := by
  intro shown
  simp only [shownTo, decide_eq_true_eq] at shown
  exact other (isOwner ▸ owner_of_belongs sound shown.1)

theorem perform_concealed {state : State} {context : RequestContext}
    {actor : AuthenticatedUser} {operation : Operation} {created : Uuid}
    {after : Tables} (sound : Sound state.tables)
    (isConcealed : concealed clientId state (.call context actor operation))
    (succeeds :
      perform platform context actor state.tables operation =
        .ok (created, after)) :
    SameView clientId state.tables after := by
  cases operation with
  | createConversationAsClient owner input =>
      simp only [perform, createConversationAsClient, bind_eq_ok] at succeeds
      obtain ⟨draft, drafting, storing⟩ := succeeds
      apply sameView_storeDraft_other sound _ storing
      rw [client_of_draftAsClient drafting]
      exact of_decide_eq_true isConcealed
  | createConversationAsStaff input =>
      simp only [perform, createConversationAsStaff, bind_eq_ok] at succeeds
      obtain ⟨draft, drafting, storing⟩ := succeeds
      apply sameView_storeDraft_other sound _ storing
      rw [client_of_draftAsStaff drafting]
      exact of_decide_eq_true isConcealed
  | replyAsClient owner input =>
      have other : owner ≠ clientId := of_decide_eq_true isConcealed
      simp only [perform, replyAsClient, bind_eq_ok, require_eq_ok,
        exists_const] at succeeds
      obtain ⟨identity, -, body, -, belongs, -, storing⟩ := succeeds
      obtain ⟨-, -, -, rfl⟩ := createMessage_eq_ok.mp storing
      apply sameView_message_hidden
      apply not_shown_of_owner sound (owner_of_belongs sound belongs)
      intro sameOwner
      exact other (Option.some.inj sameOwner)
  | replyAsStaff input =>
      simp only [concealed, decide_eq_true_eq] at isConcealed
      simp only [perform, replyAsStaff, bind_eq_ok, require_eq_ok,
        exists_const] at succeeds
      obtain ⟨_, -, visibility, recognized, body, -, owner, -, -, storing⟩ :=
        succeeds
      obtain ⟨-, -, -, rfl⟩ := createMessage_eq_ok.mp storing
      apply sameView_message_hidden
      rcases isConcealed with isNote | other
      · simp only [parseVisibility, isNote, demand_eq_ok, Option.some.injEq]
          at recognized
        obtain rfl := recognized
        simp [shownTo, CreateMessageInput.message]
      · exact not_shown_of_owner sound rfl other

/-- The client's view is the same, and the portal. -/
def SameState (clientId : Uuid) (first second : State) : Prop :=
  SameView clientId first.tables second.tables ∧
    first.attempts = second.attempts

theorem step_concealed {state : State} {request : Request}
    (sound : Sound state.tables)
    (isConcealed : concealed clientId state request) :
    SameState clientId state (step platform state request) := by
  cases request with
  | portal request =>
      cases isConcealed
  | call context actor operation =>
      refine ⟨?_, rfl⟩
      rcases
          transact_state_cases
            (fun tables => perform platform context actor tables operation)
            state.tables with
        unchanged | ⟨created, succeeds⟩
      · simp only [step, unchanged]
        exact .refl _
      · exact perform_concealed sound isConcealed succeeds

/-- What one of two states with the same view accepts, the other does. -/
theorem SameView.perform {first second : State} {context : RequestContext}
    {actor : AuthenticatedUser} {operation : Operation} {created : Uuid}
    {after : Tables} (same : SameView clientId first.tables second.tables)
    (firstSound : Sound first.tables) (secondSound : Sound second.tables)
    (fresh : FreshIds second.tables context)
    (visible : ¬ concealed clientId first (.call context actor operation))
    (succeeds :
      perform platform context actor first.tables operation =
        .ok (created, after)) :
    ∃ other,
      Conversations.perform platform context actor second.tables operation =
        .ok (created, other) ∧
        SameView clientId after other := by
  cases operation with
  | createConversationAsClient owner input =>
      simp only [Conversations.perform, createConversationAsClient,
        bind_eq_ok] at succeeds ⊢
      obtain ⟨draft, drafting, storing⟩ := succeeds
      obtain ⟨other, stored, sameAfter⟩ :=
        same.storeDraft firstSound secondSound fresh storing
      have sameDraft :
          draftAsClient platform.strings actor owner input second.tables =
            .ok draft := by
        rw [← drafting]
        simp only [draftAsClient, assignedConsultant,
          ← same.assertOwnClient, same.portal]
      exact ⟨other, ⟨draft, sameDraft, stored⟩, sameAfter⟩
  | createConversationAsStaff input =>
      simp only [Conversations.perform, createConversationAsStaff,
        bind_eq_ok] at succeeds ⊢
      obtain ⟨draft, drafting, storing⟩ := succeeds
      obtain ⟨other, stored, sameAfter⟩ :=
        same.storeDraft firstSound secondSound fresh storing
      have sameDraft :
          draftAsStaff platform.strings actor input second.tables =
            .ok draft := by
        rw [← drafting]
        simp only [draftAsStaff, resolveInitialParticipants,
          findClientProfileIdByClientId, assignedConsultant, same.portal]
      exact ⟨other, ⟨draft, sameDraft, stored⟩, sameAfter⟩
  | replyAsClient owner input =>
      obtain rfl : owner = clientId := by
        simpa [concealed] using visible
      exact same.replyAsClient fresh succeeds
  | replyAsStaff input =>
      simp only [concealed, decide_eq_true_eq, not_or, not_not] at visible
      exact same.replyAsStaff secondSound fresh visible.2 succeeds

theorem step_visible {first second : State} {request : Request}
    (firstSound : Sound first.tables) (secondSound : Sound second.tables)
    (firstFresh : DrawsFreshIds first request)
    (secondFresh : DrawsFreshIds second request)
    (firstVisible : ¬ concealed clientId first request)
    (secondVisible : ¬ concealed clientId second request)
    (same : SameState clientId first second) :
    SameState clientId (step platform first request)
      (step platform second request) := by
  obtain ⟨sameView, sameAttempts⟩ := same
  cases request with
  | portal request =>
      have samePortal :
          portalStep platform first request =
            portalStep platform second request := by
        simp only [portalStep, sameView.portal, sameAttempts]
      refine ⟨⟨?_, ?_, ?_, ?_⟩, ?_⟩
      · simp only [step, samePortal]
      · exact sameView.conversations
      · exact sameView.participants
      · exact sameView.messages
      · simp only [step, samePortal]
  | call context actor operation =>
      refine ⟨?_, sameAttempts⟩
      simp only [step]
      cases firstOutcome :
          perform platform context actor first.tables operation with
      | ok firstCommitted =>
          obtain ⟨other, stored, sameAfter⟩ :=
            sameView.perform firstSound secondSound secondFresh firstVisible
              firstOutcome
          rw [transact_of_ok firstOutcome, transact_of_ok stored]
          exact sameAfter
      | error firstFailure =>
          cases secondOutcome :
              perform platform context actor second.tables operation with
          | ok secondCommitted =>
              obtain ⟨other, stored, -⟩ :=
                sameView.symm.perform secondSound firstSound firstFresh
                  secondVisible secondOutcome
              rw [firstOutcome] at stored
              cases stored
          | error secondFailure =>
              rw [transact_of_error firstOutcome,
                transact_of_error secondOutcome]
              exact sameView

/-! ## Runs -/

/-- The steps of a run that are not hidden from the client. -/
def visibleRequests (platform : Platform) (clientId : Uuid)
    (requests : List Request) : List Request :=
  visibleSteps (step platform) (concealed clientId) State.initial requests

theorem stateAfter_sameState {first second : List Request}
    (firstFresh :
      AllSteps (step platform) DrawsFreshIds State.initial first)
    (secondFresh :
      AllSteps (step platform) DrawsFreshIds State.initial second)
    (sameVisible :
      visibleRequests platform clientId first =
        visibleRequests platform clientId second) :
    SameState clientId (stateAfter platform first)
      (stateAfter platform second) :=
  equivalent_of_sameVisible
    (fun same => ⟨same.1.symm, same.2.symm⟩)
    (fun left right =>
      ⟨left.1.trans right.1, left.2.trans right.2⟩)
    step_sound
    (fun _ _ sound isConcealed => step_concealed sound isConcealed)
    (fun _ _ _ firstSound secondSound firstFresh secondFresh firstVisible
        secondVisible same =>
      step_visible firstSound secondSound firstFresh secondFresh firstVisible
        secondVisible same)
    sound_initial sound_initial firstFresh secondFresh sameVisible
    ⟨.refl _, rfl⟩

/-- Two runs that differ in hidden steps alone give the client the same list,
and accept and deny the same replies of the client. -/
theorem client_view_noninterference (platform : Platform) (clientId : Uuid)
    (first second : List Request)
    (firstFresh :
      AllSteps (step platform) DrawsFreshIds State.initial first)
    (secondFresh :
      AllSteps (step platform) DrawsFreshIds State.initial second)
    (sameVisible :
      visibleRequests platform clientId first =
        visibleRequests platform clientId second) :
    (∀ actor,
        listConversationsForClient actor clientId
            (stateAfter platform first).tables =
          listConversationsForClient actor clientId
            (stateAfter platform second).tables) ∧
      ∀ context actor input created,
        FreshIds (stateAfter platform first).tables context →
          FreshIds (stateAfter platform second).tables context →
            ((∃ after,
                replyAsClient platform.strings context actor clientId input
                    (stateAfter platform first).tables =
                  .ok (created, after)) ↔
              ∃ after,
                replyAsClient platform.strings context actor clientId input
                    (stateAfter platform second).tables =
                  .ok (created, after)) := by
  obtain ⟨sameView, -⟩ :=
    stateAfter_sameState firstFresh secondFresh sameVisible
  refine ⟨sameView.listConversationsForClient, ?_⟩
  intro context actor input created firstIds secondIds
  constructor
  · rintro ⟨after, succeeds⟩
    obtain ⟨other, stored, -⟩ := sameView.replyAsClient secondIds succeeds
    exact ⟨other, stored⟩
  · rintro ⟨after, succeeds⟩
    obtain ⟨other, stored, -⟩ := sameView.symm.replyAsClient firstIds succeeds
    exact ⟨other, stored⟩

/-- Ids counted from above the stored ones are fresh. -/
theorem freshIds_of_above {base : Nat} (now : Timestamp)
    (conversations : ∀ row ∈ tables.conversations, row.id < base)
    (participants : ∀ row ∈ tables.participants, row.id < base)
    (messages : ∀ row ∈ tables.messages, row.id < base) :
    FreshIds tables ⟨fun index => index + base, now⟩ where
  distinct := fun _ _ same => Nat.add_right_cancel same
  conversations := by
    intro index
    rw [findBy_eq_none_iff]
    intro row member
    exact
      Nat.ne_of_lt
        ((conversations row member).trans_le (Nat.le_add_left base index))
  participants := by
    intro index
    rw [findBy_eq_none_iff]
    intro row member
    exact
      Nat.ne_of_lt
        ((participants row member).trans_le (Nat.le_add_left base index))
  messages := by
    intro index
    rw [findBy_eq_none_iff]
    intro row member
    exact
      Nat.ne_of_lt
        ((messages row member).trans_le (Nat.le_add_left base index))

/-- Client 3 activates an account, and an Admin/Manager opens a
conversation. -/
def openedConversation : List Request :=
  let admin : AuthenticatedUser := ⟨7, .adminManager⟩
  [.portal
      (.clientsChanged
        [⟨3, "Luz Cruz", some luzAddress, none,
          some "luz@example.ph", none⟩]),
    .portal
      (.usersChanged
        [⟨7, "Ana Reyes", "ana@example.ph", .adminManager, true, true⟩]
        [] []),
    .portal (.prepareInvitation ⟨fun _ => 20, 0⟩ admin 3),
    .portal
      (.sendInvitation ⟨fun _ => 0, 10⟩ "aB3dE5gH7jK9mN1pQ2rS4tU6" admin 3
        ⟨.manualEmail, 50⟩),
    .portal
      (.activateAccount ⟨fun index => index + 100, 20⟩
        "aB3dE5gH7jK9mN1pQ2rS4tU6" "scrypt:1"),
    .call ⟨fun index => index + 1, 30⟩ admin
      (.createConversationAsStaff ⟨3, some .booking, "Your booking"⟩)]

/-- A note of the Admin/Manager in that conversation. -/
def internalNote : Request :=
  .call ⟨fun index => index + 100, 40⟩ ⟨7, .adminManager⟩
    (.replyAsStaff ⟨1, "Ask for the passport.", some .internalNote⟩)

theorem internalNote_unnoticed :
    listConversationsForClient ⟨100, .client⟩ 3
        (stateAfter Invitations.examplePlatform
          (openedConversation ++ [internalNote])).tables =
      listConversationsForClient ⟨100, .client⟩ 3
        (stateAfter Invitations.examplePlatform openedConversation).tables := by
  have creationFresh :
      FreshIds
        (stateAfter Invitations.examplePlatform
          (openedConversation.take 5)).tables
        ⟨fun index => index + 1, 30⟩ :=
    freshIds_of_above 30 (by decide) (by decide) (by decide)
  have noteFresh :
      FreshIds
        (stateAfter Invitations.examplePlatform openedConversation).tables
        ⟨fun index => index + 100, 40⟩ :=
    freshIds_of_above 40 (by decide) (by decide) (by decide)
  exact
    (client_view_noninterference Invitations.examplePlatform 3
      (openedConversation ++ [internalNote]) openedConversation
      ⟨trivial, trivial, trivial, trivial, trivial, creationFresh, noteFresh,
        trivial⟩
      ⟨trivial, trivial, trivial, trivial, trivial, creationFresh, trivial⟩
      rfl).1 _

end Heritage.Conversations
