import Heritage.Conversations.Commits
import Heritage.Invitations.Evidence

/-!
# Every listed conversation can be answered

A conversation is listed to the client it belongs to, and accepts a reply of
the client's profile when that takes part in it.  A creation invites the
profile the client has at that time.  An activation invites the new profile to
nothing, so the conversations the client already has stay closed to it.
-/

namespace Heritage.Conversations

open Heritage.Store
open Heritage.Invitations (Platform User NewProfile ProfilesAfter)
open Heritage.Proposals (findClientProfileIdentityForUser
  findOwnedClientForUser)

/-- Every conversation listed to a portal user for the user's own client
accepts a reply with any valid body. -/
def Answerable (platform : Platform) (tables : Tables) : Prop :=
  ∀ actor clientId result, actor.role = .client →
    findOwnedClientForUser tables.portal.clientProfiles actor.id =
        some clientId →
      listConversationsForClient actor clientId tables = .ok result →
        ∀ card ∈ result.serverModel, ∀ context body parsed,
          parseBody platform.strings body = .ok parsed →
            findBy Message.id (context.randomUuid 0) tables.messages =
                none →
              ∃ after,
                replyAsClient platform.strings context actor clientId
                    ⟨card.id, body⟩ tables =
                  .ok (context.randomUuid 0, after)

/-- An activation finds the client without a conversation. -/
def ActivatesFirst (platform : Platform) (state : State) : Request → Prop
  | .portal request =>
      ∀ clientId ∈
          Invitations.activatedClient platform state.tables.portal request,
        ∀ conversation ∈ state.tables.conversations,
          conversation.clientId ≠ clientId
  | .call .. => True

variable {platform : Platform} {tables after : Tables}

/-- The profile takes part in the conversation. -/
def TakesPart (tables : Tables) (conversationId profileId : Uuid) : Prop :=
  ∃ row ∈ tables.participants,
    row.conversationId = conversationId ∧ row.removedAt = none ∧
      row.clientProfileId = some profileId

/-- Every profile takes part in all conversations of its client. -/
def AllTakePart (tables : Tables) : Prop :=
  ∀ profile ∈ tables.portal.clientProfiles,
    ∀ conversation ∈ tables.conversations,
      conversation.clientId = profile.clientId →
        TakesPart tables conversation.id profile.id

theorem findActiveParticipant_client_iff {conversationId profileId : Uuid} :
    (findActiveParticipant tables conversationId
        (.clientProfile profileId)).isSome ↔
      TakesPart tables conversationId profileId := by
  simp only [findActiveParticipant_isSome_iff, ParticipantIdentity.selects,
    decide_eq_true_eq, TakesPart]

/-- A reply of a profile to a conversation of its client is accepted exactly
when the profile takes part. -/
theorem replyAsClient_accepts_iff {context : RequestContext}
    {actor : AuthenticatedUser} {profile : ClientProfile}
    {conversation : Conversation} {body parsed : String}
    (isClient : actor.role = .client)
    (isStored :
      findBy ClientProfile.userId actor.id tables.portal.clientProfiles =
        some profile)
    (member : conversation ∈ tables.conversations)
    (isOwn : conversation.clientId = profile.clientId)
    (valid : parseBody platform.strings body = .ok parsed)
    (newId : findBy Message.id (context.randomUuid 0) tables.messages = none) :
    (∃ after,
        replyAsClient platform.strings context actor profile.clientId
            ⟨conversation.id, body⟩ tables =
          .ok (context.randomUuid 0, after)) ↔
      TakesPart tables conversation.id profile.id := by
  have admitted :
      assertOwnClient actor profile.clientId tables =
        .ok ⟨profile.id, profile.clientId⟩ :=
    assertOwnClient_eq_ok.mpr ⟨isClient, profile, isStored, rfl, rfl⟩
  have belongs :
      conversationBelongsToClient tables conversation.id profile.clientId := by
    simp only [conversationBelongsToClient, List.any_eq_true,
      decide_eq_true_eq]
    exact ⟨conversation, member, rfl, isOwn⟩
  have exists_ :
      (findBy Conversation.id conversation.id
        tables.conversations).isSome :=
    findBy_isSome_iff.mpr ⟨conversation, member, rfl⟩
  have author : knownAuthor tables none (some profile.id) := by
    simp only [knownAuthor_iff, Option.mem_def, reduceCtorEq,
      Option.some.injEq, false_implies, implies_true, true_and,
      forall_eq']
    exact findBy_isSome_iff.mpr ⟨profile, mem_of_findBy isStored, rfl⟩
  simp only [replyAsClient, admitted, valid, ok_bind, bind_eq_ok,
    require_eq_ok, exists_const, createMessage_eq_ok, belongs, exists_,
    author, newId, findActiveParticipant_client_iff, true_and, and_true]
  simp

theorem mem_serverModel {actor : AuthenticatedUser} {clientId : Uuid}
    {result : ClientConversationListResult}
    {card : ClientConversationServerCard}
    (listed : listConversationsForClient actor clientId tables = .ok result) :
    card ∈ result.serverModel ↔
      ∃ conversation ∈ tables.conversations,
        conversation.clientId = clientId ∧ conversation.id = card.id := by
  simp only [listConversationsForClient, bind_eq_ok, require_eq_ok,
    exists_const, Except.ok.injEq] at listed
  obtain ⟨-, -, rfl⟩ := listed
  simp only [Repository.listConversationsForClient, List.map_map,
    List.mem_map, mem_latestFirst, List.mem_filter, decide_eq_true_eq,
    Function.comp_apply]
  constructor
  · rintro ⟨conversation, ⟨member, isOwn⟩, rfl⟩
    exact ⟨conversation, member, isOwn, rfl⟩
  · rintro ⟨conversation, member, isOwn, sameId⟩
    exact ⟨conversation, ⟨member, isOwn⟩, by rw [sameId]⟩

/-- A portal user may list the conversations of the user's own client. -/
theorem exists_listConversationsForClient {actor : AuthenticatedUser}
    {profile : ClientProfile} (isClient : actor.role = .client)
    (isStored :
      findBy ClientProfile.userId actor.id tables.portal.clientProfiles =
        some profile) :
    ∃ result,
      listConversationsForClient actor profile.clientId tables =
        .ok result := by
  have admitted :=
    (@assertOwnClient_eq_ok tables actor profile.clientId _).mpr
      ⟨isClient, profile, isStored, rfl, rfl⟩
  simp only [assertOwnClient, bind_eq_ok, require_eq_ok, exists_const]
    at admitted
  obtain ⟨-, allowed, -⟩ := admitted
  simp only [listConversationsForClient, require_of isClient,
    require_of allowed, ok_bind]
  exact ⟨_, rfl⟩

theorem answerable_iff (sound : Sound tables)
    (hasValidBody :
      ∃ body parsed, parseBody platform.strings body = .ok parsed) :
    Answerable platform tables ↔ AllTakePart tables := by
  constructor
  · intro answerable profile stored conversation member isOwn
    obtain ⟨body, parsed, valid⟩ := hasValidBody
    have isStored :
        findBy ClientProfile.userId profile.userId
            tables.portal.clientProfiles =
          some profile :=
      findBy_of_mem sound.profileUsers stored
    obtain ⟨result, listed⟩ :=
      @exists_listConversationsForClient tables ⟨profile.userId, .client⟩ _
        rfl isStored
    obtain ⟨newId, isNew⟩ :=
      Infinite.exists_notMem_finset (tables.messages.map Message.id).toFinset
    have unused : findBy Message.id newId tables.messages = none := by
      rw [findBy_eq_none_iff]
      intro message isMessage sameId
      apply isNew
      rw [List.mem_toFinset, ← sameId]
      exact List.mem_map_of_mem isMessage
    have owns :
        findOwnedClientForUser tables.portal.clientProfiles profile.userId =
          some profile.clientId := by
      simp only [findOwnedClientForUser, isStored, Option.map_some]
    have accepted :=
      answerable ⟨profile.userId, .client⟩ profile.clientId result rfl owns
        listed ⟨conversation.id⟩
        ((mem_serverModel listed).mpr ⟨conversation, member, isOwn, rfl⟩)
        ⟨fun _ => newId, 0⟩ body parsed valid unused
    exact
      (replyAsClient_accepts_iff rfl isStored member isOwn valid unused).mp
        accepted
  · intro allTakePart actor clientId result isClient owns listed card carded
      context body parsed valid newId
    simp only [findOwnedClientForUser, Option.map_eq_some_iff] at owns
    obtain ⟨profile, isStored, rfl⟩ := owns
    obtain ⟨conversation, member, isOwn, sameId⟩ :=
      (mem_serverModel listed).mp carded
    rw [← sameId]
    exact
      (replyAsClient_accepts_iff isClient isStored member isOwn valid
        newId).mpr
        (allTakePart profile (mem_of_findBy isStored) conversation member
          isOwn)

theorem takesPart_of_prefix {conversationId profileId : Uuid}
    (kept : tables.participants <+: after.participants)
    (takesPart : TakesPart tables conversationId profileId) :
    TakesPart after conversationId profileId := by
  obtain ⟨row, member, isActive⟩ := takesPart
  exact ⟨row, kept.subset member, isActive⟩

/-- A profile that a creation invites takes part in its conversation. -/
theorem takesPart_of_invited {context : RequestContext}
    {input : CreateConversationInput} {profileId : Uuid}
    (invited : .client profileId ∈ input.participants) :
    TakesPart (tables.withCreated context input) input.id profileId := by
  obtain ⟨index, within, atIndex⟩ := List.getElem_of_mem invited
  have isRow :
      NewConversationParticipant.row (context.randomUuid (index + 2))
          input.id (.client profileId) ∈
        input.participantRows context :=
    mem_participantRows.mpr
      ⟨_, index, List.getElem?_eq_some_iff.mpr ⟨within, atIndex⟩, rfl⟩
  exact ⟨_, List.mem_append_right _ isRow, rfl, rfl, rfl⟩

theorem allTakePart_of_written (allTakePart : AllTakePart tables)
    (written : Written tables after) : AllTakePart after := by
  cases written with
  | created context input references invitesOwner newId distinct staffOnce
      clientsOnce =>
      intro profile stored conversation member isOwn
      rcases List.mem_append.mp member with old | new
      · exact
          takesPart_of_prefix (List.prefix_append _ _)
            (allTakePart profile stored conversation old isOwn)
      · obtain rfl := List.mem_singleton.mp new
        exact takesPart_of_invited (invitesOwner profile stored isOwn.symm)
  | replied message conversation =>
      exact allTakePart

variable {state : State}

theorem step_allTakePart_iff (sound : Sound state.tables)
    (allTakePart : AllTakePart state.tables) (request : Request) :
    AllTakePart (step platform state request).tables ↔
      ActivatesFirst platform state request := by
  cases request with
  | portal request =>
      have profiles := @portalStep_profiles platform state request
      simp only [ActivatesFirst]
      generalize
        Invitations.activatedClient platform state.tables.portal request =
          activated at profiles
      generalize isAfter :
        (portalStep platform state request).tables.clientProfiles = later
          at profiles
      cases profiles with
      | kept =>
          have unchanged :
              AllTakePart (step platform state (.portal request)).tables := by
            intro profile stored
            exact allTakePart profile (isAfter ▸ stored)
          simp [unchanged]
      | added profile isNew =>
          constructor
          · intro stillTakePart clientId isActivated conversation member
              isOwn
            obtain rfl : profile.clientId = clientId :=
              Option.some.inj isActivated
            have isStored :
                profile ∈
                  (step platform state
                    (.portal request)).tables.portal.clientProfiles := by
              change
                profile ∈
                  (portalStep platform state request).tables.clientProfiles
              rw [isAfter]
              exact List.mem_append_right _ (List.mem_singleton_self _)
            -- a participant's profile was stored before, and this one is new
            obtain ⟨row, rowMember, -, -, isProfile⟩ :=
              stillTakePart profile isStored conversation member isOwn
            obtain ⟨other, otherMember, sameId⟩ :=
              List.mem_map.mp
                (sound.participantProfiles row rowMember profile.id isProfile)
            exact isNew.newId other otherMember sameId
          · intro first other stored conversation member isOwn
            have isListed :
                other ∈ state.tables.portal.clientProfiles ++ [profile] :=
              isAfter ▸ stored
            rcases List.mem_append.mp isListed with old | new
            · exact allTakePart other old conversation member isOwn
            · obtain rfl := List.mem_singleton.mp new
              exact absurd isOwn (first _ rfl conversation member)
  | call context actor operation =>
      have unchangedOrWritten :
          AllTakePart
            (step platform state
              (.call context actor operation)).tables := by
        rcases
            transact_state_cases
              (fun tables => perform platform context actor tables operation)
              state.tables with
          unchanged | ⟨created, succeeds⟩
        · simp only [step, unchanged]
          exact allTakePart
        · exact
            allTakePart_of_written allTakePart (perform_written sound succeeds)
      simp only [unchangedOrWritten, ActivatesFirst]

/-! ## Every run -/

/-- The conversations listed to clients can be answered throughout a run
exactly when no account is activated for a client who already has one. -/
theorem conversations_answerable_iff (platform : Platform)
    (hasValidBody :
      ∃ body parsed, parseBody platform.strings body = .ok parsed)
    (requests : List Request) :
    (∀ earlier later, requests = earlier ++ later →
        Answerable platform (stateAfter platform earlier).tables) ↔
      AllSteps (step platform) (ActivatesFirst platform) State.initial
        requests := by
  have initially : AllTakePart State.initial.tables := by
    intro profile stored
    cases stored
  have exactly :=
    @throughout_iff_allSteps _ _ (step platform)
      (fun state => Sound state.tables) (fun state => AllTakePart state.tables)
      (ActivatesFirst platform) step_sound
      (fun _ request sound allTakePart =>
        step_allTakePart_iff sound allTakePart request)
      _ sound_initial initially requests
  rw [← exactly]
  apply forall_congr'
  intro earlier
  apply forall_congr'
  intro later
  apply imp_congr_right
  intro _
  exact answerable_iff (stateAfter_sound earlier) hasValidBody

/-- An Admin/Manager opens a conversation with client 3. -/
def earlyConversation : List Request :=
  let admin : AuthenticatedUser := ⟨7, .adminManager⟩
  [.portal
      (.clientsChanged
        [⟨3, "Luz Cruz", some luzAddress, none,
          some "luz@example.ph", none⟩]),
    .portal
      (.usersChanged
        [⟨7, "Ana Reyes", "ana@example.ph", .adminManager, true, true⟩]
        [] []),
    .call ⟨fun index => index + 1, 0⟩ admin
      (.createConversationAsStaff ⟨3, some .generalInquiry, "Welcome"⟩)]

/-- The client is then invited, and activates the account. -/
def lateActivation : List Request :=
  let admin : AuthenticatedUser := ⟨7, .adminManager⟩
  earlyConversation ++
    [.portal (.prepareInvitation ⟨fun _ => 20, 0⟩ admin 3),
      .portal
        (.sendInvitation ⟨fun _ => 0, 10⟩ "aB3dE5gH7jK9mN1pQ2rS4tU6" admin 3
          ⟨.manualEmail, 50⟩),
      .portal
        (.activateAccount ⟨fun index => index + 100, 20⟩
          "aB3dE5gH7jK9mN1pQ2rS4tU6" "scrypt:1")]

/-- Until then the listed conversations can be answered. -/
theorem earlyConversation_answerable :
    Answerable Invitations.examplePlatform
      (stateAfter Invitations.examplePlatform earlyConversation).tables := by
  refine
    (conversations_answerable_iff Invitations.examplePlatform
      ⟨"Thank you", "Thank you", by decide⟩ earlyConversation).mpr ?_
      earlyConversation [] (List.append_nil _).symm
  refine ⟨?_, ?_, trivial, trivial⟩
  · intro clientId activated
    cases activated
  · intro clientId activated
    cases activated

/-- The client sees the conversation and cannot answer it. -/
theorem lateActivation_not_answerable :
    ¬ ∀ earlier later, lateActivation = earlier ++ later →
      Answerable Invitations.examplePlatform
        (stateAfter Invitations.examplePlatform earlier).tables := by
  intro throughout
  have answerable := throughout lateActivation [] (List.append_nil _).symm
  rw [answerable_iff (stateAfter_sound _)
    ⟨"Thank you", "Thank you", by decide⟩] at answerable
  have takesPart :=
    answerable ⟨101, 100, 3⟩ (by decide) ⟨1, 3, .generalInquiry, 0⟩
      (by decide) rfl
  revert takesPart
  unfold TakesPart
  decide

end Heritage.Conversations
