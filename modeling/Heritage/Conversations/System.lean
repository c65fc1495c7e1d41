import Heritage.Conversations.Service
import Heritage.Invitations.System

/-!
# The conversation system

Conversation operations of clients and staff between the requests that prepare,
send and redeem portal invitations and those that change assignments, clients
and users.  A client profile comes from an activation and from nothing else.
Requests run one after another, each as a whole.
-/

namespace Heritage.Conversations

open Heritage.Store
open Heritage.Invitations (Platform)

structure State where
  tables : Tables
  /-- The automated sends whose call of the provider is not answered. -/
  attempts : List Invitations.SendAttempt

def State.initial : State where
  tables := Tables.empty
  attempts := []

inductive Operation where
  | createConversationAsClient (clientId : Uuid)
      (input : CreateConversationAsClientInput)
  | createConversationAsStaff (input : CreateConversationAsStaffInput)
  | replyAsClient (clientId : Uuid) (input : ReplyAsClientInput)
  | replyAsStaff (input : ReplyAsStaffInput)

inductive Request where
  | portal (request : Invitations.Request)
  | call (context : RequestContext) (actor : AuthenticatedUser)
      (operation : Operation)

/-- The features that change users leave the client profiles alone. -/
def keepingClientProfiles (tables : Invitations.Tables) :
    Invitations.Request → Invitations.Request
  | .usersChanged users accounts _ =>
      .usersChanged users accounts tables.clientProfiles
  | request => request

variable (platform : Platform)

/-- The portal after a request. -/
def portalStep (state : State) (request : Invitations.Request) :
    Invitations.State :=
  Invitations.step platform ⟨state.tables.portal, state.attempts⟩
    (keepingClientProfiles state.tables.portal request)

def perform (context : RequestContext) (actor : AuthenticatedUser)
    (tables : Tables) : Operation → Except TxError (Uuid × Tables)
  | .createConversationAsClient clientId input =>
      createConversationAsClient platform.strings context actor clientId input
        tables
  | .createConversationAsStaff input =>
      createConversationAsStaff platform.strings context actor input tables
  | .replyAsClient clientId input =>
      replyAsClient platform.strings context actor clientId input tables
  | .replyAsStaff input =>
      replyAsStaff platform.strings context actor input tables

def step (state : State) : Request → State
  | .portal request =>
      { tables :=
          { state.tables with
            portal := (portalStep platform state request).tables }
        attempts := (portalStep platform state request).attempts }
  | .call context actor operation =>
      { state with
        tables :=
          (transact
            (fun tables => perform platform context actor tables operation)
            state.tables).2 }

/-- The state after `requests` on an empty database. -/
def stateAfter (requests : List Request) : State :=
  run (step platform) State.initial requests

end Heritage.Conversations
