import Heritage.Activation.Service
import Heritage.Store.Paging

/-!
# Conversations and their messages

`repository.ts` and `errors.ts` of conversations, over the portal tables that
hold the clients, their profiles, the users and the assignments.
-/

namespace Heritage.Conversations

open Heritage.Store
open Heritage.Invitations (User)

inductive ConversationErrorCode where
  | roleNotPermitted
  | conversationForbidden
  | validationError
  deriving DecidableEq, Repr

structure ConversationError where
  code : ConversationErrorCode
  message : String
  deriving DecidableEq, Repr

inductive TxError where
  | conversation (error : ConversationError)
  | uniqueViolation (modelName : String) (fields : List String)
  | foreignKeyViolation (constraint : String)
  deriving DecidableEq, Repr

def conversationError (code : ConversationErrorCode) (message : String) :
    TxError :=
  .conversation ⟨code, message⟩

inductive ConversationCategory where
  | generalInquiry
  | proposalRos
  | booking
  | payment
  | documents
  | visa
  | travelPreparation
  | technicalSupport
  deriving DecidableEq, Repr

inductive MessageVisibility where
  | clientVisible
  | internalNote
  deriving DecidableEq, Repr

structure Conversation where
  id : Uuid
  clientId : Uuid
  category : ConversationCategory
  createdAt : Timestamp
  deriving DecidableEq, Repr

inductive ConversationParticipantRole where
  | client
  | travelConsultant
  | financeAccounting
  | visaDocumentation
  deriving DecidableEq, Repr

structure ConversationParticipant where
  id : Uuid
  conversationId : Uuid
  role : ConversationParticipantRole
  staffUserId : Option Uuid
  clientProfileId : Option Uuid
  removedAt : Option Timestamp
  deriving DecidableEq, Repr

structure Message where
  id : Uuid
  conversationId : Uuid
  body : String
  visibility : MessageVisibility
  authorStaffUserId : Option Uuid
  authorClientProfileId : Option Uuid
  createdAt : Timestamp
  deriving DecidableEq, Repr

structure Tables where
  portal : Invitations.Tables
  conversations : List Conversation
  participants : List ConversationParticipant
  messages : List Message

/-- No row in any table. -/
def Tables.empty : Tables where
  portal := Invitations.Tables.empty
  conversations := []
  participants := []
  messages := []

inductive NewConversationParticipant where
  | client (clientProfileId : Uuid)
  | travelConsultant (staffUserId : Uuid)
  deriving DecidableEq, Repr

/-- The row a nested create inserts for a participant. -/
def NewConversationParticipant.row (id conversationId : Uuid) :
    NewConversationParticipant → ConversationParticipant
  | .client clientProfileId =>
      { id := id
        conversationId := conversationId
        role := .client
        staffUserId := none
        clientProfileId := some clientProfileId
        removedAt := none }
  | .travelConsultant staffUserId =>
      { id := id
        conversationId := conversationId
        role := .travelConsultant
        staffUserId := some staffUserId
        clientProfileId := none
        removedAt := none }

/-- The user or the client profile a participant refers to exists. -/
def NewConversationParticipant.known (tables : Tables) :
    NewConversationParticipant → Bool
  | .client clientProfileId =>
      (findBy ClientProfile.id clientProfileId
        tables.portal.clientProfiles).isSome
  | .travelConsultant staffUserId =>
      (findBy User.id staffUserId tables.portal.users).isSome

/-- The author a message refers to exists. -/
def knownAuthor (tables : Tables)
    (authorStaffUserId authorClientProfileId : Option Uuid) : Bool :=
  (authorStaffUserId.all fun id =>
      (findBy User.id id tables.portal.users).isSome) ∧
    authorClientProfileId.all fun id =>
      (findBy ClientProfile.id id tables.portal.clientProfiles).isSome

structure CreateConversationInput where
  id : Uuid
  clientId : Uuid
  category : ConversationCategory
  body : String
  authorStaffUserId : Option Uuid
  authorClientProfileId : Option Uuid
  participants : List NewConversationParticipant

/-- The participant rows of a creation; the message draws the second random
id and the participants the next ones. -/
def CreateConversationInput.participantRows (input : CreateConversationInput)
    (context : RequestContext) : List ConversationParticipant :=
  input.participants.zipIdx.map fun (participant, index) =>
    participant.row (context.randomUuid (index + 2)) input.id

/-- `conversation_participant_active_staff_key` and
`conversation_participant_active_client_profile_key`: the people who take part
in a conversation. -/
def activeStaff (participants : List ConversationParticipant) :
    List (Uuid × Uuid) :=
  participants.filterMap fun row =>
    if row.removedAt = none then
      row.staffUserId.map fun staffUserId => (row.conversationId, staffUserId)
    else
      none

def activeClients (participants : List ConversationParticipant) :
    List (Uuid × Uuid) :=
  participants.filterMap fun row =>
    if row.removedAt = none then
      row.clientProfileId.map fun clientProfileId =>
        (row.conversationId, clientProfileId)
    else
      none

def createConversationWithFirstMessage (tables : Tables)
    (context : RequestContext) (input : CreateConversationInput) :
    Except TxError (Uuid × Tables) := do
  let conversation : Conversation :=
    { id := input.id
      clientId := input.clientId
      category := input.category
      createdAt := context.now }
  let message : Message :=
    { id := context.randomUuid 1
      conversationId := input.id
      body := input.body
      visibility := .clientVisible
      authorStaffUserId := input.authorStaffUserId
      authorClientProfileId := input.authorClientProfileId
      createdAt := context.now }
  let participants := tables.participants ++ input.participantRows context
  require (findBy Client.id input.clientId tables.portal.clients).isSome
    (.foreignKeyViolation "conversation_clientId_fkey")
  require (∀ participant ∈ input.participants, participant.known tables)
    (.foreignKeyViolation "conversation_participant_fkey")
  require
    (knownAuthor tables input.authorStaffUserId input.authorClientProfileId)
    (.foreignKeyViolation "message_author_fkey")
  require (findBy Conversation.id conversation.id tables.conversations).isNone
    (.uniqueViolation "Conversation" ["id"])
  require (findBy Message.id message.id tables.messages).isNone
    (.uniqueViolation "Conversation" ["id"])
  require (participants.map ConversationParticipant.id).Nodup
    (.uniqueViolation "Conversation" ["id"])
  require (activeStaff participants).Nodup
    (.uniqueViolation "Conversation" ["conversationId", "staffUserId"])
  require (activeClients participants).Nodup
    (.uniqueViolation "Conversation" ["conversationId", "clientProfileId"])
  .ok
    (conversation.id,
      { tables with
        conversations := tables.conversations ++ [conversation]
        participants := participants
        messages := tables.messages ++ [message] })

structure CreateMessageInput where
  id : Uuid
  conversationId : Uuid
  body : String
  visibility : MessageVisibility
  authorStaffUserId : Option Uuid
  authorClientProfileId : Option Uuid

def createMessage (tables : Tables) (now : Timestamp)
    (input : CreateMessageInput) : Except TxError (Uuid × Tables) := do
  require
    (findBy Conversation.id input.conversationId tables.conversations).isSome
    (.foreignKeyViolation "message_conversationId_fkey")
  require
    (knownAuthor tables input.authorStaffUserId input.authorClientProfileId)
    (.foreignKeyViolation "message_author_fkey")
  require (findBy Message.id input.id tables.messages).isNone
    (.uniqueViolation "Message" ["id"])
  .ok
    (input.id,
      { tables with
        messages :=
          tables.messages ++
            [{ id := input.id
               conversationId := input.conversationId
               body := input.body
               visibility := input.visibility
               authorStaffUserId := input.authorStaffUserId
               authorClientProfileId := input.authorClientProfileId
               createdAt := now }] })

def findConversationOwnerClientId (tables : Tables) (conversationId : Uuid) :
    Option Uuid :=
  (findBy Conversation.id conversationId tables.conversations).map
    Conversation.clientId

def conversationBelongsToClient (tables : Tables)
    (conversationId clientId : Uuid) : Bool :=
  tables.conversations.any fun row =>
    row.id = conversationId ∧ row.clientId = clientId

inductive ParticipantIdentity where
  | staffUser (staffUserId : Uuid)
  | clientProfile (clientProfileId : Uuid)

/-- The row is that of this person. -/
def ParticipantIdentity.selects (row : ConversationParticipant) :
    ParticipantIdentity → Bool
  | .staffUser staffUserId => row.staffUserId = some staffUserId
  | .clientProfile clientProfileId =>
      row.clientProfileId = some clientProfileId

def findActiveParticipant (tables : Tables) (conversationId : Uuid)
    (identity : ParticipantIdentity) : Option Uuid :=
  (tables.participants.find? fun row =>
    row.conversationId = conversationId ∧ row.removedAt = none ∧
      identity.selects row).map ConversationParticipant.id

def findClientProfileIdByClientId (tables : Tables) (clientId : Uuid) :
    Option Uuid :=
  (findBy ClientProfile.clientId clientId tables.portal.clientProfiles).map
    ClientProfile.id

structure ConversationMessageRow where
  id : Uuid
  body : String
  visibility : MessageVisibility
  createdAt : Timestamp
  authorStaffName : Option String
  deriving DecidableEq, Repr

/-- The messages of a conversation, the earliest first. -/
def messageRows (tables : Tables) (conversationId : Uuid)
    (shown : Message → Bool) : List ConversationMessageRow :=
  let ordered :=
    earliestFirst Message.createdAt Message.id <|
      tables.messages.filter fun message =>
        message.conversationId = conversationId ∧ shown message
  ordered.map fun message =>
    { id := message.id
      body := message.body
      visibility := message.visibility
      createdAt := message.createdAt
      authorStaffName :=
        message.authorStaffUserId.bind fun staffUserId =>
          (findBy User.id staffUserId tables.portal.users).map User.name }

structure ClientConversationRow where
  id : Uuid
  category : ConversationCategory
  createdAt : Timestamp
  messages : List ConversationMessageRow
  deriving DecidableEq, Repr

namespace Repository

def listConversationsForClient (tables : Tables) (clientId : Uuid) :
    List ClientConversationRow :=
  let ordered :=
    latestFirst Conversation.createdAt Conversation.id <|
      tables.conversations.filter fun row => row.clientId = clientId
  ordered.map fun row =>
    { id := row.id
      category := row.category
      createdAt := row.createdAt
      messages :=
        messageRows tables row.id fun message =>
          message.visibility = .clientVisible }

end Repository

inductive ConversationStaffRole where
  | adminManager
  | travelConsultant
  | financeAccounting
  | visaDocumentation
  deriving DecidableEq, Repr

structure ConversationStaffActor where
  id : Uuid
  role : ConversationStaffRole
  deriving DecidableEq, Repr

def conversationVisibilityFilter (tables : Tables)
    (actor : ConversationStaffActor) (row : Conversation) : Bool :=
  match actor.role with
  | .adminManager => true
  | .travelConsultant =>
      tables.portal.staffAssignments.any fun assignment =>
        assignment.clientId = some row.clientId ∧
          assignment.assignedStaffId = actor.id ∧ assignment.endedAt = none
  | .financeAccounting | .visaDocumentation =>
      tables.participants.any fun participant =>
        participant.conversationId = row.id ∧
          participant.staffUserId = some actor.id ∧
          participant.removedAt = none

structure StaffConversationRow where
  id : Uuid
  clientId : Uuid
  clientFullName : String
  category : ConversationCategory
  createdAt : Timestamp
  messages : List ConversationMessageRow
  deriving DecidableEq, Repr

namespace Repository

/-- A conversation always has its client; a missing one has no name. -/
def listConversationsForStaff (tables : Tables)
    (actor : ConversationStaffActor) : List StaffConversationRow :=
  let ordered :=
    latestFirst Conversation.createdAt Conversation.id <|
      tables.conversations.filter (conversationVisibilityFilter tables actor)
  ordered.map fun row =>
    { id := row.id
      clientId := row.clientId
      clientFullName :=
        ((findBy Client.id row.clientId tables.portal.clients).map
          Client.fullName).getD ""
      category := row.category
      createdAt := row.createdAt
      messages := messageRows tables row.id fun _ => true }

end Repository

end Heritage.Conversations
