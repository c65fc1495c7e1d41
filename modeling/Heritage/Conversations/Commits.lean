import Heritage.Conversations.System
import Heritage.Invitations.Identities

/-!
# What one step writes to the conversations

A creation adds a conversation with its opening message and its first
participants; a reply adds a message.  Nothing else writes these tables, and
nothing in them refers to a row that is not there.
-/

namespace Heritage.Conversations

open Heritage.Store
open Heritage.Invitations (Platform User NewProfile ProfilesAfter)
open Heritage.Proposals (findClientProfileIdentityForUser)

variable {tables after : Tables} {context : RequestContext}

/-- The rows that a creation refers to. -/
structure References (portal : Invitations.Tables)
    (input : CreateConversationInput) : Prop where
  client : (findBy Client.id input.clientId portal.clients).isSome
  participants :
    ∀ participant ∈ input.participants,
      match participant with
      | .client clientProfileId =>
          (findBy ClientProfile.id clientProfileId
            portal.clientProfiles).isSome
      | .travelConsultant staffUserId =>
          (findBy User.id staffUserId portal.users).isSome
  staffAuthor :
    ∀ id ∈ input.authorStaffUserId, (findBy User.id id portal.users).isSome
  clientAuthor :
    ∀ id ∈ input.authorClientProfileId,
      (findBy ClientProfile.id id portal.clientProfiles).isSome

/-- The conversation a creation adds. -/
def CreateConversationInput.conversation (input : CreateConversationInput)
    (now : Timestamp) : Conversation where
  id := input.id
  clientId := input.clientId
  category := input.category
  createdAt := now

/-- The opening message. -/
def CreateConversationInput.message (input : CreateConversationInput)
    (context : RequestContext) : Message where
  id := context.randomUuid 1
  conversationId := input.id
  body := input.body
  visibility := .clientVisible
  authorStaffUserId := input.authorStaffUserId
  authorClientProfileId := input.authorClientProfileId
  createdAt := context.now

/-- The message of a reply. -/
def CreateMessageInput.message (input : CreateMessageInput)
    (now : Timestamp) : Message where
  id := input.id
  conversationId := input.conversationId
  body := input.body
  visibility := input.visibility
  authorStaffUserId := input.authorStaffUserId
  authorClientProfileId := input.authorClientProfileId
  createdAt := now

def Tables.withCreated (tables : Tables) (context : RequestContext)
    (input : CreateConversationInput) : Tables :=
  { tables with
    conversations := tables.conversations ++ [input.conversation context.now]
    participants := tables.participants ++ input.participantRows context
    messages := tables.messages ++ [input.message context] }

def Tables.withMessage (tables : Tables) (message : Message) : Tables :=
  { tables with messages := tables.messages ++ [message] }

theorem knownAuthor_iff {authorStaffUserId authorClientProfileId : Option Uuid} :
    knownAuthor tables authorStaffUserId authorClientProfileId ↔
      (∀ id ∈ authorStaffUserId,
          (findBy User.id id tables.portal.users).isSome) ∧
        ∀ id ∈ authorClientProfileId,
          (findBy ClientProfile.id id tables.portal.clientProfiles).isSome := by
  cases authorStaffUserId <;> cases authorClientProfileId <;>
    simp [knownAuthor]

/-- When a creation succeeds, and what it commits. -/
theorem createConversationWithFirstMessage_eq_ok
    {input : CreateConversationInput} {created : Uuid} :
    createConversationWithFirstMessage tables context input =
        .ok (created, after) ↔
      References tables.portal input ∧
        findBy Conversation.id input.id tables.conversations = none ∧
        findBy Message.id (context.randomUuid 1) tables.messages = none ∧
        ((tables.participants ++ input.participantRows context).map
          ConversationParticipant.id).Nodup ∧
        (activeStaff
          (tables.participants ++ input.participantRows context)).Nodup ∧
        (activeClients
          (tables.participants ++ input.participantRows context)).Nodup ∧
        created = input.id ∧ after = tables.withCreated context input := by
  have known :
      (∀ participant ∈ input.participants,
          (participant.known tables : Prop)) ↔
        ∀ participant ∈ input.participants,
          match participant with
          | .client clientProfileId =>
              (findBy ClientProfile.id clientProfileId
                tables.portal.clientProfiles).isSome
          | .travelConsultant staffUserId =>
              (findBy User.id staffUserId tables.portal.users).isSome := by
    apply forall_congr'
    intro participant
    cases participant <;> rfl
  simp only [createConversationWithFirstMessage, bind_eq_ok, require_eq_ok,
    exists_const, Option.isNone_iff_eq_none, Except.ok.injEq, Prod.mk.injEq,
    knownAuthor_iff, known]
  constructor
  · rintro ⟨client, participants, ⟨staffAuthor, clientAuthor⟩, newId,
      newMessage, distinct, staffOnce, clientsOnce, rfl, rfl⟩
    exact
      ⟨⟨client, participants, staffAuthor, clientAuthor⟩, newId, newMessage,
        distinct, staffOnce, clientsOnce, rfl, rfl⟩
  · rintro ⟨references, newId, newMessage, distinct, staffOnce, clientsOnce,
      rfl, rfl⟩
    exact
      ⟨references.client, references.participants,
        ⟨references.staffAuthor, references.clientAuthor⟩, newId, newMessage,
        distinct, staffOnce, clientsOnce, rfl, rfl⟩

/-- When a reply is stored, and what it commits. -/
theorem createMessage_eq_ok {now : Timestamp} {input : CreateMessageInput}
    {created : Uuid} :
    createMessage tables now input = .ok (created, after) ↔
      ((findBy Conversation.id input.conversationId
            tables.conversations).isSome ∧
          knownAuthor tables input.authorStaffUserId
            input.authorClientProfileId) ∧
        findBy Message.id input.id tables.messages = none ∧
        created = input.id ∧
        after = tables.withMessage (input.message now) := by
  simp only [createMessage, bind_eq_ok, require_eq_ok, exists_const,
    Option.isNone_iff_eq_none, Except.ok.injEq, Prod.mk.injEq]
  constructor
  · rintro ⟨conversation, author, newId, rfl, rfl⟩
    exact ⟨⟨conversation, author⟩, newId, rfl, rfl⟩
  · rintro ⟨⟨conversation, author⟩, newId, rfl, rfl⟩
    exact ⟨conversation, author, newId, rfl, rfl⟩

/-- The profile of the client, if there is one, is among the participants. -/
def InvitesOwner (tables : Tables) (clientId : Uuid)
    (participants : List NewConversationParticipant) : Prop :=
  ∀ profile ∈ tables.portal.clientProfiles, profile.clientId = clientId →
    .client profile.id ∈ participants

/-- What a conversation operation commits. -/
inductive Written (tables : Tables) : Tables → Prop where
  | created (context : RequestContext) (input : CreateConversationInput)
      (references : References tables.portal input)
      (invitesOwner : InvitesOwner tables input.clientId input.participants)
      (newId : findBy Conversation.id input.id tables.conversations = none)
      (distinct :
        ((tables.participants ++ input.participantRows context).map
          ConversationParticipant.id).Nodup)
      (staffOnce :
        (activeStaff
          (tables.participants ++ input.participantRows context)).Nodup)
      (clientsOnce :
        (activeClients
          (tables.participants ++ input.participantRows context)).Nodup) :
      Written tables (tables.withCreated context input)
  | replied (message : Message)
      (conversation :
        (findBy Conversation.id message.conversationId
          tables.conversations).isSome) :
      Written tables (tables.withMessage message)

theorem written_of_storeDraft {draft : ConversationDraft} {created : Uuid}
    (invitesOwner : InvitesOwner tables draft.clientId draft.participants)
    (succeeds : storeDraft context draft tables = .ok (created, after)) :
    Written tables after := by
  obtain ⟨references, newId, -, distinct, staffOnce, clientsOnce, -, rfl⟩ :=
    createConversationWithFirstMessage_eq_ok.mp succeeds
  exact
    .created context _ references invitesOwner newId distinct staffOnce
      clientsOnce

theorem written_of_createMessage {now : Timestamp}
    {input : CreateMessageInput} {created : Uuid}
    (succeeds : createMessage tables now input = .ok (created, after)) :
    Written tables after := by
  obtain ⟨⟨conversation, -⟩, -, -, rfl⟩ := createMessage_eq_ok.mp succeeds
  exact .replied _ conversation

theorem findActiveParticipant_isSome_iff {conversationId : Uuid}
    {identity : ParticipantIdentity} :
    (findActiveParticipant tables conversationId identity).isSome ↔
      ∃ row ∈ tables.participants,
        row.conversationId = conversationId ∧ row.removedAt = none ∧
          identity.selects row := by
  simp only [findActiveParticipant, Option.isSome_map, List.find?_isSome,
    decide_eq_true_eq]

/-- One profile a user and one a client, and rows that refer to stored ones. -/
structure Sound (tables : Tables) : Prop where
  profileUsers :
    (tables.portal.clientProfiles.map ClientProfile.userId).Nodup
  profileClients :
    (tables.portal.clientProfiles.map ClientProfile.clientId).Nodup
  conversationIds : (tables.conversations.map Conversation.id).Nodup
  participantIds :
    (tables.participants.map ConversationParticipant.id).Nodup
  staffOnce : (activeStaff tables.participants).Nodup
  clientsOnce : (activeClients tables.participants).Nodup
  participantConversations :
    ∀ row ∈ tables.participants,
      row.conversationId ∈ tables.conversations.map Conversation.id
  participantProfiles :
    ∀ row ∈ tables.participants, ∀ profileId ∈ row.clientProfileId,
      profileId ∈ tables.portal.clientProfiles.map ClientProfile.id
  messageConversations :
    ∀ message ∈ tables.messages,
      message.conversationId ∈ tables.conversations.map Conversation.id

theorem eq_of_sameClient (sound : Sound tables)
    {first second : ClientProfile}
    (firstStored : first ∈ tables.portal.clientProfiles)
    (secondStored : second ∈ tables.portal.clientProfiles)
    (sameClient : first.clientId = second.clientId) : first = second :=
  List.inj_on_of_nodup_map sound.profileClients firstStored secondStored
    sameClient

/-- The checks of a client operation, and the profile they find. -/
theorem assertOwnClient_eq_ok {actor : AuthenticatedUser} {clientId : Uuid}
    {identity : Proposals.ClientProfileIdentity} :
    assertOwnClient actor clientId tables = .ok identity ↔
      actor.role = .client ∧
        ∃ profile,
          findBy ClientProfile.userId actor.id tables.portal.clientProfiles =
              some profile ∧
            profile.clientId = clientId ∧
            identity = ⟨profile.id, profile.clientId⟩ := by
  simp only [assertOwnClient, bind_eq_ok, require_eq_ok, demand_eq_ok,
    exists_const, Except.ok.injEq, findClientProfileIdentityForUser,
    Option.map_eq_some_iff]
  constructor
  · rintro ⟨isClient, -, found, ⟨profile, isStored, rfl⟩, isOwn, rfl⟩
    exact ⟨isClient, profile, isStored, isOwn, rfl⟩
  · rintro ⟨isClient, profile, isStored, rfl, rfl⟩
    refine ⟨isClient, ?_, _, ⟨profile, isStored, rfl⟩, rfl, rfl⟩
    simp only [canAccessClient, isClient, findClientProfileOwnership,
      Option.isSome_map, List.find?_isSome, decide_eq_true_eq]
    exact
      ⟨profile, mem_of_findBy isStored, key_of_findBy isStored, rfl⟩

theorem invitesOwner_of_draftAsClient (sound : Sound tables)
    {platform : StringPlatform} {actor : AuthenticatedUser}
    {clientId : Uuid} {input : CreateConversationAsClientInput}
    {draft : ConversationDraft}
    (succeeds :
      draftAsClient platform actor clientId input tables = .ok draft) :
    InvitesOwner tables draft.clientId draft.participants := by
  simp only [draftAsClient, bind_eq_ok, assertOwnClient_eq_ok,
    Except.ok.injEq] at succeeds
  obtain ⟨identity, ⟨-, own, isStored, isOwn, rfl⟩, category, -, body, -,
    rfl⟩ := succeeds
  intro profile member sameClient
  rw [eq_of_sameClient sound member (mem_of_findBy isStored)
    (sameClient.trans isOwn.symm)]
  exact List.mem_cons_self ..

theorem invitesOwner_of_draftAsStaff (sound : Sound tables)
    {platform : StringPlatform} {actor : AuthenticatedUser}
    {input : CreateConversationAsStaffInput} {draft : ConversationDraft}
    (succeeds : draftAsStaff platform actor input tables = .ok draft) :
    InvitesOwner tables draft.clientId draft.participants := by
  simp only [draftAsStaff, bind_eq_ok, require_eq_ok, exists_const,
    Except.ok.injEq] at succeeds
  obtain ⟨-, -, category, -, body, -, rfl⟩ := succeeds
  intro profile member isOwner
  have sameClient : profile.clientId = input.clientId := isOwner
  have found :
      findBy ClientProfile.clientId input.clientId
          tables.portal.clientProfiles =
        some profile := by
    rw [← sameClient]
    exact findBy_of_mem sound.profileClients member
  simp [resolveInitialParticipants, findClientProfileIdByClientId, found]

theorem perform_written {platform : Platform} {actor : AuthenticatedUser}
    {operation : Operation} {created : Uuid} (sound : Sound tables)
    (succeeds :
      perform platform context actor tables operation =
        .ok (created, after)) :
    Written tables after := by
  cases operation with
  | createConversationAsClient clientId input =>
      simp only [perform, createConversationAsClient, bind_eq_ok] at succeeds
      obtain ⟨draft, drafting, storing⟩ := succeeds
      exact
        written_of_storeDraft (invitesOwner_of_draftAsClient sound drafting)
          storing
  | createConversationAsStaff input =>
      simp only [perform, createConversationAsStaff, bind_eq_ok] at succeeds
      obtain ⟨draft, drafting, storing⟩ := succeeds
      exact
        written_of_storeDraft (invitesOwner_of_draftAsStaff sound drafting)
          storing
  | replyAsClient clientId input =>
      simp only [perform, replyAsClient, bind_eq_ok, require_eq_ok,
        exists_const] at succeeds
      obtain ⟨identity, -, body, -, -, -, storing⟩ := succeeds
      exact written_of_createMessage storing
  | replyAsStaff input =>
      simp only [perform, replyAsStaff, bind_eq_ok, require_eq_ok,
        exists_const] at succeeds
      obtain ⟨_, -, visibility, -, body, -, owner, -, -, storing⟩ := succeeds
      exact written_of_createMessage storing

/-! ## Every state is sound -/

theorem sound_initial : Sound State.initial.tables where
  profileUsers := List.nodup_nil
  profileClients := List.nodup_nil
  conversationIds := List.nodup_nil
  participantIds := List.nodup_nil
  staffOnce := List.nodup_nil
  clientsOnce := List.nodup_nil
  participantConversations := by
    intro row member
    cases member
  participantProfiles := by
    intro row member
    cases member
  messageConversations := by
    intro message member
    cases member

/-- A participant row of a creation is that of one of its participants. -/
theorem mem_participantRows {input : CreateConversationInput}
    {row : ConversationParticipant} :
    row ∈ input.participantRows context ↔
      ∃ (participant : NewConversationParticipant) (index : Nat),
        input.participants[index]? = some participant ∧
          row =
            participant.row (context.randomUuid (index + 2)) input.id := by
  simp only [CreateConversationInput.participantRows, List.mem_map,
    Prod.exists, List.mk_mem_zipIdx_iff_getElem?]
  constructor
  · rintro ⟨participant, index, atIndex, rfl⟩
    exact ⟨participant, index, atIndex, rfl⟩
  · rintro ⟨participant, index, atIndex, rfl⟩
    exact ⟨participant, index, atIndex, rfl⟩

theorem conversationId_of_participantRow {input : CreateConversationInput}
    {row : ConversationParticipant}
    (member : row ∈ input.participantRows context) :
    row.conversationId = input.id := by
  obtain ⟨participant, index, -, rfl⟩ := mem_participantRows.mp member
  cases participant <;> rfl

theorem sound_of_written (sound : Sound tables)
    (written : Written tables after) : Sound after := by
  cases written with
  | created context input references invitesOwner newId distinct staffOnce
      clientsOnce =>
      have listed :
          ∀ {id : Uuid}, id ∈ tables.conversations.map Conversation.id →
            id ∈ (tables.withCreated context input).conversations.map
              Conversation.id := by
        intro id member
        simp only [Tables.withCreated, List.map_append]
        exact List.mem_append_left _ member
      have listedNew :
          input.id ∈
            (tables.withCreated context input).conversations.map
              Conversation.id := by
        simp [Tables.withCreated, CreateConversationInput.conversation]
      exact
        { profileUsers := sound.profileUsers
          profileClients := sound.profileClients
          conversationIds := nodup_map_concat sound.conversationIds newId
          participantIds := distinct
          staffOnce := staffOnce
          clientsOnce := clientsOnce
          participantConversations := by
            intro row member
            rcases List.mem_append.mp member with old | new
            · exact listed (sound.participantConversations row old)
            · rw [conversationId_of_participantRow new]
              exact listedNew
          participantProfiles := by
            intro row member profileId isProfile
            rcases List.mem_append.mp member with old | new
            · exact sound.participantProfiles row old profileId isProfile
            · obtain ⟨participant, index, atIndex, rfl⟩ :=
                mem_participantRows.mp new
              have known :=
                references.participants participant
                  (List.mem_of_getElem? atIndex)
              cases participant with
              | client clientProfileId =>
                  obtain rfl : clientProfileId = profileId := by
                    simpa [NewConversationParticipant.row] using isProfile
                  exact List.mem_map.mpr (findBy_isSome_iff.mp known)
              | travelConsultant staffUserId =>
                  cases isProfile
          messageConversations := by
            intro message member
            rcases List.mem_append.mp member with old | new
            · exact listed (sound.messageConversations message old)
            · rw [List.mem_singleton.mp new]
              exact listedNew }
  | replied message conversation =>
      exact
        { sound with
          messageConversations := by
            intro other member
            rcases List.mem_append.mp member with old | new
            · exact sound.messageConversations other old
            · rw [List.mem_singleton.mp new]
              exact List.mem_map.mpr (findBy_isSome_iff.mp conversation) }

theorem sound_of_profiles {portal : Invitations.Tables}
    {activated : Option Uuid} (sound : Sound tables)
    (profiles :
      ProfilesAfter tables.portal.clientProfiles activated
        portal.clientProfiles) :
    Sound { tables with portal := portal } := by
  generalize stored : tables.portal.clientProfiles = before at profiles
  generalize isAfter : portal.clientProfiles = later at profiles
  cases profiles with
  | kept =>
      exact
        { sound with
          profileUsers := by
            rw [isAfter, ← stored]
            exact sound.profileUsers
          profileClients := by
            rw [isAfter, ← stored]
            exact sound.profileClients
          participantProfiles := by
            intro row member profileId isProfile
            rw [isAfter, ← stored]
            exact sound.participantProfiles row member profileId isProfile }
  | added profile isNew =>
      exact
        { sound with
          profileUsers := by
            rw [isAfter, ← stored]
            exact
              nodup_map_concat sound.profileUsers
                (findBy_eq_none_iff.mpr (stored ▸ isNew.newUser))
          profileClients := by
            rw [isAfter, ← stored]
            exact
              nodup_map_concat sound.profileClients
                (findBy_eq_none_iff.mpr (stored ▸ isNew.newClient))
          participantProfiles := by
            intro row member profileId isProfile
            have known :=
              sound.participantProfiles row member profileId isProfile
            rw [isAfter, ← stored, List.map_append]
            exact List.mem_append_left _ known }

variable {platform : Platform} {state : State}

theorem portalStep_profiles (state : State)
    (request : Invitations.Request) :
    ProfilesAfter state.tables.portal.clientProfiles
      (Invitations.activatedClient platform state.tables.portal request)
      (portalStep platform state request).tables.clientProfiles := by
  have sameActivated :
      Invitations.activatedClient platform state.tables.portal
          (keepingClientProfiles state.tables.portal request) =
        Invitations.activatedClient platform state.tables.portal request := by
    cases request <;> rfl
  have keeps :
      Invitations.KeepsClientProfiles ⟨state.tables.portal, state.attempts⟩
        (keepingClientProfiles state.tables.portal request) := by
    cases request <;> trivial
  rw [← sameActivated]
  exact Invitations.step_profiles keeps

theorem step_sound (state : State) (request : Request)
    (sound : Sound state.tables) :
    Sound (step platform state request).tables := by
  cases request with
  | portal request =>
      exact sound_of_profiles sound (portalStep_profiles state request)
  | call context actor operation =>
      rcases
          transact_state_cases
            (fun tables => perform platform context actor tables operation)
            state.tables with
        unchanged | ⟨created, succeeds⟩
      · simp only [step, unchanged]
        exact sound
      · exact sound_of_written sound (perform_written sound succeeds)

theorem stateAfter_sound (requests : List Request) :
    Sound (stateAfter platform requests).tables :=
  @run_invariant _ _ (step platform) (fun state => Sound state.tables) _
    sound_initial step_sound requests

end Heritage.Conversations
