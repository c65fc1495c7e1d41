import Heritage.Conversations.Commits
import Heritage.Store.Noninterference

/-!
# What a client sees of the conversations

The conversations of one client, who takes part in them and their visible
messages: the part of the tables that the client's list and replies read.
Internal notes and the conversations of other clients are outside it.
-/

namespace Heritage.Conversations

open Heritage.Store
open Heritage.Invitations (Platform User)
open Heritage.Proposals (findClientProfileIdentityForUser)

/-- The message is part of what the client sees. -/
def shownTo (clientId : Uuid) (tables : Tables) (message : Message) : Bool :=
  conversationBelongsToClient tables message.conversationId clientId ∧
    message.visibility = .clientVisible

/-- The tables agree on what the client sees. -/
structure SameView (clientId : Uuid) (first second : Tables) : Prop where
  portal : first.portal = second.portal
  conversations :
    (first.conversations.filter fun row => row.clientId = clientId) =
      second.conversations.filter fun row => row.clientId = clientId
  participants :
    (first.participants.filter fun row =>
        conversationBelongsToClient first row.conversationId clientId) =
      second.participants.filter fun row =>
        conversationBelongsToClient second row.conversationId clientId
  messages :
    first.messages.filter (shownTo clientId first) =
      second.messages.filter (shownTo clientId second)

/-- An internal note, or an operation on another client's conversation. -/
def concealed (clientId : Uuid) (state : State) : Request → Bool
  | .portal _ => false
  | .call _ _ (.createConversationAsClient owner _) => owner ≠ clientId
  | .call _ _ (.createConversationAsStaff input) => input.clientId ≠ clientId
  | .call _ _ (.replyAsClient owner _) => owner ≠ clientId
  | .call _ _ (.replyAsStaff input) =>
      input.visibility = some .internalNote ∨
        findConversationOwnerClientId state.tables input.conversationId ≠
          some clientId

/-- The ids a call draws are distinct and not stored. -/
structure FreshIds (tables : Tables) (context : RequestContext) : Prop where
  distinct : Function.Injective context.randomUuid
  conversations :
    ∀ index,
      findBy Conversation.id (context.randomUuid index)
        tables.conversations = none
  participants :
    ∀ index,
      findBy ConversationParticipant.id (context.randomUuid index)
        tables.participants = none
  messages :
    ∀ index,
      findBy Message.id (context.randomUuid index) tables.messages = none

def DrawsFreshIds (state : State) : Request → Prop
  | .portal _ => True
  | .call context _ _ => FreshIds state.tables context

namespace SameView

variable {clientId : Uuid} {first second third : Tables}

theorem symm (same : SameView clientId first second) :
    SameView clientId second first where
  portal := same.portal.symm
  conversations := same.conversations.symm
  participants := same.participants.symm
  messages := same.messages.symm

theorem trans (left : SameView clientId first second)
    (right : SameView clientId second third) :
    SameView clientId first third where
  portal := left.portal.trans right.portal
  conversations := left.conversations.trans right.conversations
  participants := left.participants.trans right.participants
  messages := left.messages.trans right.messages

theorem refl (tables : Tables) : SameView clientId tables tables :=
  ⟨rfl, rfl, rfl, rfl⟩

end SameView

variable {clientId : Uuid} {tables first second : Tables}

theorem belongs_iff {conversationId : Uuid} :
    conversationBelongsToClient tables conversationId clientId ↔
      ∃ row ∈ tables.conversations,
        row.clientId = clientId ∧ row.id = conversationId := by
  simp only [conversationBelongsToClient, List.any_eq_true,
    decide_eq_true_eq, and_comm]

theorem SameView.belongs (same : SameView clientId first second)
    (conversationId : Uuid) :
    conversationBelongsToClient first conversationId clientId =
      conversationBelongsToClient second conversationId clientId := by
  have throughFilter (tables : Tables) :
      conversationBelongsToClient tables conversationId clientId =
        (tables.conversations.filter fun row =>
          row.clientId = clientId).any fun row => row.id = conversationId := by
    apply Bool.eq_iff_iff.mpr
    simp only [belongs_iff, List.any_eq_true, List.mem_filter,
      decide_eq_true_eq, and_assoc]
  rw [throughFilter, throughFilter, same.conversations]

/-- A conversation that is not stored belongs to nobody. -/
theorem not_belongs_of_new {conversationId : Uuid}
    (isNew :
      findBy Conversation.id conversationId tables.conversations = none) :
    ¬ conversationBelongsToClient tables conversationId clientId := by
  rw [belongs_iff]
  rintro ⟨row, member, -, sameId⟩
  exact findBy_eq_none_iff.mp isNew row member sameId

theorem owner_of_belongs (sound : Sound tables) {conversationId : Uuid}
    (belongs :
      conversationBelongsToClient tables conversationId clientId) :
    findConversationOwnerClientId tables conversationId = some clientId := by
  obtain ⟨row, member, rfl, rfl⟩ := belongs_iff.mp belongs
  rw [findConversationOwnerClientId,
    findBy_of_mem sound.conversationIds member]
  rfl

theorem belongs_of_owner {conversationId : Uuid}
    (owner :
      findConversationOwnerClientId tables conversationId = some clientId) :
    conversationBelongsToClient tables conversationId clientId := by
  simp only [findConversationOwnerClientId, Option.map_eq_some_iff] at owner
  obtain ⟨row, found, isOwner⟩ := owner
  exact belongs_iff.mpr ⟨row, mem_of_findBy found, isOwner, key_of_findBy found⟩

section Writes

variable {context : RequestContext} {input : CreateConversationInput}

/-- Beside the new conversation, a creation changes nobody's. -/
theorem belongs_withCreated (conversationId : Uuid) :
    conversationBelongsToClient (tables.withCreated context input)
        conversationId clientId =
      (conversationBelongsToClient tables conversationId clientId ||
        decide (input.id = conversationId ∧ input.clientId = clientId)) := by
  simp [conversationBelongsToClient, Tables.withCreated,
    CreateConversationInput.conversation]

/-- Rows of stored conversations are not rows of a new one. -/
theorem belongs_withCreated_of_known
    (newId : findBy Conversation.id input.id tables.conversations = none)
    {conversationId : Uuid}
    (known : conversationId ∈ tables.conversations.map Conversation.id) :
    conversationBelongsToClient (tables.withCreated context input)
        conversationId clientId =
      conversationBelongsToClient tables conversationId clientId := by
  have other : input.id ≠ conversationId := by
    rintro rfl
    obtain ⟨row, member, sameId⟩ := List.mem_map.mp known
    exact findBy_eq_none_iff.mp newId row member sameId
  simp [belongs_withCreated, other]

theorem participants_withCreated (sound : Sound tables)
    (newId : findBy Conversation.id input.id tables.conversations = none) :
    ((tables.withCreated context input).participants.filter fun row =>
        conversationBelongsToClient (tables.withCreated context input)
          row.conversationId clientId) =
      (tables.participants.filter fun row =>
        conversationBelongsToClient tables row.conversationId clientId) ++
        if input.clientId = clientId then input.participantRows context
        else [] := by
  have old :
      (tables.participants.filter fun row =>
          conversationBelongsToClient (tables.withCreated context input)
            row.conversationId clientId) =
        tables.participants.filter fun row =>
          conversationBelongsToClient tables row.conversationId clientId := by
    apply List.filter_congr
    intro row member
    exact
      belongs_withCreated_of_known newId
        (sound.participantConversations row member)
  have new :
      ((input.participantRows context).filter fun row =>
          conversationBelongsToClient (tables.withCreated context input)
            row.conversationId clientId) =
        if input.clientId = clientId then input.participantRows context
        else [] := by
    have same :
        ∀ row ∈ input.participantRows context,
          conversationBelongsToClient (tables.withCreated context input)
              row.conversationId clientId =
            decide (input.clientId = clientId) := by
      intro row member
      rw [conversationId_of_participantRow member, belongs_withCreated,
        Bool.eq_false_iff.mpr (not_belongs_of_new newId)]
      simp
    rw [List.filter_congr same]
    split
    next isOwn =>
      simp [isOwn]
    next isOther =>
      simp [isOther]
  rw [← old, ← new]
  exact List.filter_append ..

theorem messages_withCreated (sound : Sound tables)
    (newId : findBy Conversation.id input.id tables.conversations = none) :
    (tables.withCreated context input).messages.filter
        (shownTo clientId (tables.withCreated context input)) =
      tables.messages.filter (shownTo clientId tables) ++
        if input.clientId = clientId then [input.message context]
        else [] := by
  have old :
      tables.messages.filter
          (shownTo clientId (tables.withCreated context input)) =
        tables.messages.filter (shownTo clientId tables) := by
    apply List.filter_congr
    intro message member
    rw [shownTo, shownTo,
      belongs_withCreated_of_known newId
        (sound.messageConversations message member)]
  have new :
      shownTo clientId (tables.withCreated context input)
          (input.message context) =
        decide (input.clientId = clientId) := by
    simp only [shownTo, CreateConversationInput.message, belongs_withCreated,
      Bool.eq_false_iff.mpr (not_belongs_of_new newId)]
    simp
  rw [← old]
  refine (List.filter_append ..).trans ?_
  rw [List.filter_singleton, new]
  simp

theorem conversations_withCreated :
    ((tables.withCreated context input).conversations.filter fun row =>
        row.clientId = clientId) =
      (tables.conversations.filter fun row => row.clientId = clientId) ++
        if input.clientId = clientId then [input.conversation context.now]
        else [] := by
  by_cases isOwn : input.clientId = clientId
  · simp [Tables.withCreated, CreateConversationInput.conversation, isOwn]
  · simp [Tables.withCreated, CreateConversationInput.conversation, isOwn]

/-- A creation for another client is not seen. -/
theorem sameView_created_other (sound : Sound tables)
    (newId : findBy Conversation.id input.id tables.conversations = none)
    (other : input.clientId ≠ clientId) :
    SameView clientId tables (tables.withCreated context input) where
  portal := rfl
  conversations := by
    rw [conversations_withCreated, if_neg other, List.append_nil]
  participants := by
    rw [participants_withCreated sound newId, if_neg other, List.append_nil]
  messages := by
    rw [messages_withCreated sound newId, if_neg other, List.append_nil]

/-- Two views stay the same under the same creation. -/
theorem SameView.created (same : SameView clientId first second)
    (firstSound : Sound first) (secondSound : Sound second)
    (firstNew : findBy Conversation.id input.id first.conversations = none)
    (secondNew :
      findBy Conversation.id input.id second.conversations = none) :
    SameView clientId (first.withCreated context input)
      (second.withCreated context input) where
  portal := same.portal
  conversations := by
    rw [conversations_withCreated, conversations_withCreated,
      same.conversations]
  participants := by
    rw [participants_withCreated firstSound firstNew,
      participants_withCreated secondSound secondNew, same.participants]
  messages := by
    rw [messages_withCreated firstSound firstNew,
      messages_withCreated secondSound secondNew, same.messages]

theorem messages_withMessage (message : Message) :
    (tables.withMessage message).messages.filter
        (shownTo clientId (tables.withMessage message)) =
      tables.messages.filter (shownTo clientId tables) ++
        if shownTo clientId tables message then [message] else [] := by
  refine (List.filter_append ..).trans ?_
  rw [List.filter_singleton, Bool.cond_eq_ite]
  rfl

/-- A message that is not shown to the client is not seen. -/
theorem sameView_message_hidden {message : Message}
    (isHidden : ¬ shownTo clientId tables message) :
    SameView clientId tables (tables.withMessage message) where
  portal := rfl
  conversations := rfl
  participants := rfl
  messages := by
    rw [messages_withMessage, if_neg isHidden, List.append_nil]

theorem SameView.message (same : SameView clientId first second)
    (message : Message) :
    SameView clientId (first.withMessage message)
      (second.withMessage message) where
  portal := same.portal
  conversations := same.conversations
  participants := same.participants
  messages := by
    have sameShown :
        shownTo clientId first message = shownTo clientId second message := by
      rw [shownTo, shownTo, same.belongs]
    rw [messages_withMessage, messages_withMessage, same.messages, sameShown]

end Writes

/-! ## Visible operations -/

section Operations

variable {context : RequestContext} {platform : StringPlatform}
  {actor : AuthenticatedUser}

/-- The participants of a new conversation meet no stored one. -/
theorem conversations_disjoint (sound : Sound tables)
    {input : CreateConversationInput}
    (newId : findBy Conversation.id input.id tables.conversations = none)
    {old new : ConversationParticipant} (oldMember : old ∈ tables.participants)
    (newMember : new ∈ input.participantRows context) :
    old.conversationId ≠ new.conversationId := by
  intro sameConversation
  obtain ⟨row, member, sameId⟩ :=
    List.mem_map.mp (sound.participantConversations old oldMember)
  apply findBy_eq_none_iff.mp newId row member
  rw [sameId, sameConversation, conversationId_of_participantRow newMember]

/-- The people in one column who take part: `activeStaff` and
`activeClients`. -/
def activePeople (column : ConversationParticipant → Option Uuid)
    (rows : List ConversationParticipant) : List (Uuid × Uuid) :=
  rows.filterMap fun row =>
    if row.removedAt = none then
      (column row).map fun person => (row.conversationId, person)
    else
      none

theorem conversation_of_activePeople
    {column : ConversationParticipant → Option Uuid}
    {rows : List ConversationParticipant} {pair : Uuid × Uuid}
    (member : pair ∈ activePeople column rows) :
    ∃ row ∈ rows, row.conversationId = pair.1 := by
  obtain ⟨row, isRow, made⟩ := List.mem_filterMap.mp member
  split at made
  · obtain ⟨person, -, rfl⟩ := Option.map_eq_some_iff.mp made
    exact ⟨row, isRow, rfl⟩
  · cases made

/-- Nobody takes part twice in the stored conversations and a new one when
nobody does in either. -/
theorem activePeople_nodup (sound : Sound tables)
    {input : CreateConversationInput}
    (newId : findBy Conversation.id input.id tables.conversations = none)
    (column : ConversationParticipant → Option Uuid)
    (storedOnce : (activePeople column tables.participants).Nodup)
    (newOnce : (activePeople column (input.participantRows context)).Nodup) :
    (activePeople column
      (tables.participants ++ input.participantRows context)).Nodup := by
  unfold activePeople
  rw [List.filterMap_append, List.nodup_append']
  refine ⟨storedOnce, newOnce, ?_⟩
  intro pair oldPair newPair
  obtain ⟨old, oldMember, oldConversation⟩ :=
    conversation_of_activePeople oldPair
  obtain ⟨new, newMember, newConversation⟩ :=
    conversation_of_activePeople newPair
  exact
    conversations_disjoint sound newId oldMember newMember
      (oldConversation.trans newConversation.symm)

theorem participantRow_id {participant : NewConversationParticipant}
    (id conversationId : Uuid) :
    (participant.row id conversationId).id = id := by
  cases participant <;> rfl

theorem participantRows_nodup (distinct : Function.Injective context.randomUuid)
    (input : CreateConversationInput) :
    ((input.participantRows context).map
      ConversationParticipant.id).Nodup := by
  have ids :
      (input.participantRows context).map ConversationParticipant.id =
        (List.range' 2 input.participants.length).map context.randomUuid := by
    apply List.ext_getElem
    · simp [CreateConversationInput.participantRows]
    · intro index firstWithin secondWithin
      simp [CreateConversationInput.participantRows, participantRow_id,
        Nat.add_comm]
  rw [ids]
  exact (List.nodup_range' ..).map distinct

/-- With fresh ids, storing a draft depends on the portal tables alone. -/
theorem SameView.storeDraft (same : SameView clientId first second)
    (firstSound : Sound first) (secondSound : Sound second)
    (fresh : FreshIds second context) {draft : ConversationDraft}
    {created : Uuid} {after : Tables}
    (succeeds : storeDraft context draft first = .ok (created, after)) :
    ∃ other,
      Conversations.storeDraft context draft second = .ok (created, other) ∧
        SameView clientId after other := by
  obtain ⟨references, firstNew, -, -, staffOnce, clientsOnce, rfl, rfl⟩ :=
    createConversationWithFirstMessage_eq_ok.mp succeeds
  simp only [activeStaff, List.filterMap_append, List.nodup_append']
    at staffOnce
  simp only [activeClients, List.filterMap_append, List.nodup_append']
    at clientsOnce
  have secondNew := fresh.conversations 0
  refine
    ⟨_,
      createConversationWithFirstMessage_eq_ok.mpr
        ⟨same.portal ▸ references, secondNew, fresh.messages 1, ?_, ?_, ?_,
          rfl, rfl⟩,
      same.created firstSound secondSound firstNew secondNew⟩
  · rw [List.map_append, List.nodup_append']
    refine
      ⟨secondSound.participantIds, participantRows_nodup fresh.distinct _, ?_⟩
    intro id oldId newId
    obtain ⟨old, oldMember, rfl⟩ := List.mem_map.mp oldId
    obtain ⟨new, newMember, sameId⟩ := List.mem_map.mp newId
    obtain ⟨participant, index, -, rfl⟩ := mem_participantRows.mp newMember
    rw [participantRow_id] at sameId
    exact
      findBy_eq_none_iff.mp (fresh.participants (index + 2)) old oldMember
        sameId.symm
  · exact
      activePeople_nodup secondSound secondNew
        ConversationParticipant.staffUserId secondSound.staffOnce
        staffOnce.2.1
  · exact
      activePeople_nodup secondSound secondNew
        ConversationParticipant.clientProfileId secondSound.clientsOnce
        clientsOnce.2.1

/-- With a fresh id, a message for a conversation of the client is stored in
both or in neither. -/
theorem SameView.createMessage (same : SameView clientId first second)
    (fresh : FreshIds second context) {now : Timestamp}
    {input : CreateMessageInput} {created : Uuid} {after : Tables}
    (drawn : input.id = context.randomUuid 0)
    (belongs :
      conversationBelongsToClient first input.conversationId clientId)
    (succeeds : createMessage first now input = .ok (created, after)) :
    ∃ other,
      Conversations.createMessage second now input = .ok (created, other) ∧
        SameView clientId after other := by
  obtain ⟨⟨-, author⟩, -, rfl, rfl⟩ := createMessage_eq_ok.mp succeeds
  have exists_ :
      (findBy Conversation.id input.conversationId
        second.conversations).isSome := by
    obtain ⟨row, member, -, sameId⟩ :=
      belongs_iff.mp (same.belongs input.conversationId ▸ belongs)
    exact findBy_isSome_iff.mpr ⟨row, member, sameId⟩
  have sameAuthor :
      knownAuthor second input.authorStaffUserId
        input.authorClientProfileId := by
    rw [knownAuthor_iff, ← same.portal, ← knownAuthor_iff]
    exact author
  exact
    ⟨_,
      createMessage_eq_ok.mpr
        ⟨⟨exists_, sameAuthor⟩, drawn ▸ fresh.messages 0, rfl, rfl⟩,
      same.message _⟩

theorem SameView.assertOwnClient (same : SameView clientId first second)
    (owner : Uuid) :
    assertOwnClient actor owner first =
      Conversations.assertOwnClient actor owner second := by
  simp only [Conversations.assertOwnClient, same.portal]

theorem SameView.activeParticipant (same : SameView clientId first second)
    {conversationId : Uuid} {identity : ParticipantIdentity}
    (belongs : conversationBelongsToClient first conversationId clientId)
    (takesPart :
      (findActiveParticipant first conversationId identity).isSome) :
    (findActiveParticipant second conversationId identity).isSome := by
  obtain ⟨row, member, rfl, isActive⟩ :=
    findActiveParticipant_isSome_iff.mp takesPart
  have inView :
      row ∈ first.participants.filter fun other =>
        conversationBelongsToClient first other.conversationId clientId :=
    List.mem_filter.mpr ⟨member, belongs⟩
  rw [same.participants] at inView
  exact
    findActiveParticipant_isSome_iff.mpr
      ⟨row, (List.mem_filter.mp inView).1, rfl, isActive⟩

/-- A reply of the client is accepted in both or in neither. -/
theorem SameView.replyAsClient (same : SameView clientId first second)
    (fresh : FreshIds second context) {input : ReplyAsClientInput}
    {created : Uuid} {after : Tables}
    (succeeds :
      replyAsClient platform context actor clientId input first =
        .ok (created, after)) :
    ∃ other,
      Conversations.replyAsClient platform context actor clientId input
          second =
        .ok (created, other) ∧
        SameView clientId after other := by
  simp only [Conversations.replyAsClient, bind_eq_ok, require_eq_ok,
    exists_const] at succeeds ⊢
  obtain ⟨identity, admitted, body, valid, belongs, takesPart, storing⟩ :=
    succeeds
  obtain ⟨other, stored, sameAfter⟩ :=
    same.createMessage fresh rfl belongs storing
  exact
    ⟨other,
      ⟨identity, same.assertOwnClient clientId ▸ admitted, body, valid,
        same.belongs _ ▸ belongs, same.activeParticipant belongs takesPart,
        stored⟩,
      sameAfter⟩

theorem SameView.staffAuthorized (same : SameView clientId first second)
    {staffActor : ConversationStaffActor} {conversationId : Uuid}
    (belongs : conversationBelongsToClient first conversationId clientId)
    (authorized :
      staffAuthorized first actor staffActor conversationId clientId) :
    Conversations.staffAuthorized second actor staffActor conversationId
      clientId := by
  obtain ⟨id, role⟩ := staffActor
  cases role with
  | adminManager =>
      simpa only [Conversations.staffAuthorized, same.portal] using authorized
  | travelConsultant =>
      simpa only [Conversations.staffAuthorized, same.portal] using authorized
  | financeAccounting =>
      exact same.activeParticipant belongs authorized
  | visaDocumentation =>
      exact same.activeParticipant belongs authorized

theorem SameView.replyAsStaff (same : SameView clientId first second)
    (secondSound : Sound second) (fresh : FreshIds second context)
    {input : ReplyAsStaffInput} {created : Uuid} {after : Tables}
    (owner :
      findConversationOwnerClientId first input.conversationId =
        some clientId)
    (succeeds :
      replyAsStaff platform context actor input first =
        .ok (created, after)) :
    ∃ other,
      Conversations.replyAsStaff platform context actor input second =
        .ok (created, other) ∧
        SameView clientId after other := by
  have belongs := belongs_of_owner owner
  simp only [Conversations.replyAsStaff, bind_eq_ok, require_eq_ok,
    demand_eq_ok, exists_const, owner, Option.some.injEq] at succeeds ⊢
  obtain ⟨staffActor, admitted, visibility, recognized, body, valid, _, rfl,
    authorized, storing⟩ := succeeds
  obtain ⟨other, stored, sameAfter⟩ :=
    same.createMessage fresh rfl belongs storing
  exact
    ⟨other,
      ⟨staffActor, admitted, visibility, recognized, body, valid, clientId,
        owner_of_belongs secondSound (same.belongs _ ▸ belongs),
        same.staffAuthorized belongs authorized, stored⟩,
      sameAfter⟩

end Operations

end Heritage.Conversations
