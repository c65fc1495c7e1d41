import Heritage.Conversations.Repository
import Heritage.Proposals.Responses

/-!
# Conversation operations

`service.ts` of conversations.  A creation reads outside the transaction that
inserts, so it has two parts: the draft that its checks and reads lead to, and
the insertion of that draft.
-/

namespace Heritage.Conversations

open Heritage.Store
open Heritage.Proposals (findClientProfileIdentityForUser)

def roleNotPermitted : TxError :=
  conversationError .roleNotPermitted
    "This role is not permitted to perform this conversation action."

def conversationForbidden : TxError :=
  conversationError .conversationForbidden
    "Conversation not found or not accessible."

/-- `MESSAGE_BODY_MAX_LENGTH`. -/
def messageBodyMaxLength : Nat :=
  5000

/-- The length of a string in UTF-16 code units, as the language counts it. -/
def stringLength (text : String) : Nat :=
  (text.toList.map fun char => if char.toNat < 0x10000 then 1 else 2).sum

def parseBody (platform : StringPlatform) (raw : String) :
    Except TxError String := do
  let trimmed := platform.trim raw
  require (1 ≤ stringLength trimmed)
    (conversationError .validationError "body is required")
  require (stringLength trimmed ≤ messageBodyMaxLength)
    (conversationError .validationError
      ("body must be at most " ++ toString messageBodyMaxLength ++
        " characters"))
  .ok trimmed

/-- A category that the enumeration does not have is absent. -/
def parseCategory (raw : Option ConversationCategory) :
    Except TxError ConversationCategory :=
  demand raw
    (conversationError .validationError "category is not a recognized value.")

/-- A visibility that the enumeration does not have is absent. -/
def parseVisibility (raw : Option MessageVisibility) :
    Except TxError MessageVisibility :=
  demand raw
    (conversationError .validationError
      "visibility is not a recognized value.")

def conversationStaffRole : Role → Option ConversationStaffRole
  | .adminManager => some .adminManager
  | .travelConsultant => some .travelConsultant
  | .financeAccounting => some .financeAccounting
  | .visaDocumentation => some .visaDocumentation
  | _ => none

def assertConversationStaffActor (actor : AuthenticatedUser) :
    Except TxError ConversationStaffActor := do
  let role ← demand (conversationStaffRole actor.role) roleNotPermitted
  .ok ⟨actor.id, role⟩

/-- The checks a client operation makes first, and the profile they lead
to. -/
def assertOwnClient (actor : AuthenticatedUser) (clientId : Uuid)
    (tables : Tables) : Except TxError Proposals.ClientProfileIdentity := do
  require (actor.role = .client) roleNotPermitted
  require
    (canAccessClient tables.portal.staffAssignments
      tables.portal.clientProfiles actor clientId)
    conversationForbidden
  let identity ←
    demand
      (findClientProfileIdentityForUser tables.portal.clientProfiles actor.id)
      conversationForbidden
  require (identity.clientId = clientId) conversationForbidden
  .ok identity

/-- What a creation inserts, besides the random ids. -/
structure ConversationDraft where
  clientId : Uuid
  category : ConversationCategory
  body : String
  authorStaffUserId : Option Uuid
  authorClientProfileId : Option Uuid
  participants : List NewConversationParticipant

def storeDraft (context : RequestContext) (draft : ConversationDraft)
    (tables : Tables) : Except TxError (Uuid × Tables) :=
  createConversationWithFirstMessage tables context
    { id := context.randomUuid 0
      clientId := draft.clientId
      category := draft.category
      body := draft.body
      authorStaffUserId := draft.authorStaffUserId
      authorClientProfileId := draft.authorClientProfileId
      participants := draft.participants }

/-- The consultant who is assigned to the client, if one is. -/
def assignedConsultant (tables : Tables) (clientId : Uuid) :
    List NewConversationParticipant :=
  (findActiveAssignmentForClient tables.portal.staffAssignments
      clientId).toList.map fun active =>
    .travelConsultant active.assignedStaffId

def resolveInitialParticipants (tables : Tables) (clientId : Uuid) :
    List NewConversationParticipant :=
  (findClientProfileIdByClientId tables clientId).toList.map .client ++
    assignedConsultant tables clientId

structure CreateConversationAsClientInput where
  category : Option ConversationCategory
  body : String

def draftAsClient (platform : StringPlatform) (actor : AuthenticatedUser)
    (clientId : Uuid) (input : CreateConversationAsClientInput)
    (tables : Tables) : Except TxError ConversationDraft := do
  let identity ← assertOwnClient actor clientId tables
  let category ← parseCategory input.category
  let body ← parseBody platform input.body
  .ok
    { clientId := clientId
      category := category
      body := body
      authorStaffUserId := none
      authorClientProfileId := some identity.clientProfileId
      participants :=
        .client identity.clientProfileId ::
          assignedConsultant tables clientId }

def createConversationAsClient (platform : StringPlatform)
    (context : RequestContext) (actor : AuthenticatedUser) (clientId : Uuid)
    (input : CreateConversationAsClientInput) (tables : Tables) :
    Except TxError (Uuid × Tables) := do
  let draft ← draftAsClient platform actor clientId input tables
  storeDraft context draft tables

structure CreateConversationAsStaffInput where
  clientId : Uuid
  category : Option ConversationCategory
  body : String

def draftAsStaff (platform : StringPlatform) (actor : AuthenticatedUser)
    (input : CreateConversationAsStaffInput) (tables : Tables) :
    Except TxError ConversationDraft := do
  require (actor.role = .adminManager ∨ actor.role = .travelConsultant)
    roleNotPermitted
  require
    (canAccessClient tables.portal.staffAssignments
      tables.portal.clientProfiles actor input.clientId)
    conversationForbidden
  let category ← parseCategory input.category
  let body ← parseBody platform input.body
  .ok
    { clientId := input.clientId
      category := category
      body := body
      authorStaffUserId := some actor.id
      authorClientProfileId := none
      participants := resolveInitialParticipants tables input.clientId }

def createConversationAsStaff (platform : StringPlatform)
    (context : RequestContext) (actor : AuthenticatedUser)
    (input : CreateConversationAsStaffInput) (tables : Tables) :
    Except TxError (Uuid × Tables) := do
  let draft ← draftAsStaff platform actor input tables
  storeDraft context draft tables

structure ReplyAsClientInput where
  conversationId : Uuid
  body : String

def replyAsClient (platform : StringPlatform) (context : RequestContext)
    (actor : AuthenticatedUser) (clientId : Uuid) (input : ReplyAsClientInput)
    (tables : Tables) : Except TxError (Uuid × Tables) := do
  let identity ← assertOwnClient actor clientId tables
  let body ← parseBody platform input.body
  require (conversationBelongsToClient tables input.conversationId clientId)
    conversationForbidden
  require
    (findActiveParticipant tables input.conversationId
      (.clientProfile identity.clientProfileId)).isSome
    conversationForbidden
  createMessage tables context.now
    { id := context.randomUuid 0
      conversationId := input.conversationId
      body := body
      visibility := .clientVisible
      authorStaffUserId := none
      authorClientProfileId := some identity.clientProfileId }

structure ReplyAsStaffInput where
  conversationId : Uuid
  body : String
  visibility : Option MessageVisibility

/-- `authorized` of `replyAsStaff`. -/
def staffAuthorized (tables : Tables) (actor : AuthenticatedUser)
    (staffActor : ConversationStaffActor)
    (conversationId ownerClientId : Uuid) : Bool :=
  match staffActor.role with
  | .adminManager | .travelConsultant =>
      canAccessClient tables.portal.staffAssignments
        tables.portal.clientProfiles actor ownerClientId
  | .financeAccounting | .visaDocumentation =>
      (findActiveParticipant tables conversationId
        (.staffUser staffActor.id)).isSome

def replyAsStaff (platform : StringPlatform) (context : RequestContext)
    (actor : AuthenticatedUser) (input : ReplyAsStaffInput)
    (tables : Tables) : Except TxError (Uuid × Tables) := do
  let staffActor ← assertConversationStaffActor actor
  let visibility ← parseVisibility input.visibility
  let body ← parseBody platform input.body
  let ownerClientId ←
    demand (findConversationOwnerClientId tables input.conversationId)
      conversationForbidden
  require
    (staffAuthorized tables actor staffActor input.conversationId
      ownerClientId)
    conversationForbidden
  createMessage tables context.now
    { id := context.randomUuid 0
      conversationId := input.conversationId
      body := body
      visibility := visibility
      authorStaffUserId := some actor.id
      authorClientProfileId := none }

structure ClientConversationMessage where
  body : String
  createdAt : Timestamp
  authorLabel : String
  deriving DecidableEq, Repr

structure ClientConversationSummary where
  category : ConversationCategory
  createdAt : Timestamp
  messages : List ClientConversationMessage
  deriving DecidableEq, Repr

structure ClientConversationServerCard where
  id : Uuid
  deriving DecidableEq, Repr

structure ClientConversationListResult where
  render : List ClientConversationSummary
  serverModel : List ClientConversationServerCard
  deriving DecidableEq, Repr

def toClientAuthorLabel (authorStaffName : Option String) : String :=
  authorStaffName.getD "You"

def listConversationsForClient (actor : AuthenticatedUser) (clientId : Uuid)
    (tables : Tables) : Except TxError ClientConversationListResult := do
  require (actor.role = .client) roleNotPermitted
  require
    (canAccessClient tables.portal.staffAssignments
      tables.portal.clientProfiles actor clientId)
    conversationForbidden
  let rows := Repository.listConversationsForClient tables clientId
  .ok
    { render :=
        rows.map fun row =>
          { category := row.category
            createdAt := row.createdAt
            messages :=
              row.messages.map fun message =>
                { body := message.body
                  createdAt := message.createdAt
                  authorLabel := toClientAuthorLabel message.authorStaffName } }
      serverModel := rows.map fun row => ⟨row.id⟩ }

structure StaffConversationMessage where
  id : Uuid
  body : String
  visibility : MessageVisibility
  createdAt : Timestamp
  authorLabel : String
  deriving DecidableEq, Repr

structure StaffConversationSummary where
  id : Uuid
  clientId : Uuid
  clientFullName : String
  category : ConversationCategory
  createdAt : Timestamp
  messages : List StaffConversationMessage
  deriving DecidableEq, Repr

def toStaffAuthorLabel (authorStaffName : Option String)
    (clientFullName : String) : String :=
  authorStaffName.getD clientFullName

def listConversationsForStaff (actor : AuthenticatedUser) (tables : Tables) :
    Except TxError (List StaffConversationSummary) := do
  let staffActor ← assertConversationStaffActor actor
  .ok <|
    (Repository.listConversationsForStaff tables staffActor).map fun row =>
      { id := row.id
        clientId := row.clientId
        clientFullName := row.clientFullName
        category := row.category
        createdAt := row.createdAt
        messages :=
          row.messages.map fun message =>
            { id := message.id
              body := message.body
              visibility := message.visibility
              createdAt := message.createdAt
              authorLabel :=
                toStaffAuthorLabel message.authorStaffName
                  row.clientFullName } }

end Heritage.Conversations
