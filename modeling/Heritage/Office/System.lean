import Heritage.Assignments.System
import Heritage.Conversations.System
import Heritage.Journeys.System

/-!
# All features on one database

The leads, clients and assignments, the proposals, bookings and payments, and
the portal with its conversations, between requests that interleave.  A call
makes its checks and then waits; each attempt of its transaction is a step of
its own, and an attempt that the database aborts leaves the call waiting.
-/

namespace Heritage.Office

open Heritage.Store
open Heritage.Invitations (Platform SendAttempt SendOrResendInput
  ResendConcurrencyPrecondition)
open Heritage.Payments (Booking)

/-- The parts with the tables of their own.  A table that several parts read
stands in each of them. -/
structure Database where
  desk : Assignments.Tables
  journeys : Journeys.Database
  conversations : Conversations.Tables

/-- No row in any table. -/
def Database.empty : Database where
  desk := Assignments.Tables.empty
  journeys := Journeys.Database.empty
  conversations := Conversations.Tables.empty

/-- The rows of `staff_assignment`. -/
def Database.staffAssignments (database : Database) : List StaffAssignment :=
  database.desk.staffAssignments

/-- The rows of `client_profile`. -/
def Database.clientProfiles (database : Database) : List ClientProfile :=
  database.conversations.portal.clientProfiles

def assigneeCandidate (user : Invitations.User) :
    Assignments.AssigneeCandidate where
  id := user.id
  role := user.role
  isActive := user.isActive

/-- Every part sees the tables that another part writes. -/
def share (database : Database) : Database where
  desk :=
    { database.desk with
      clients :=
        Clients.withClientProfiles database.clientProfiles
          database.desk.clients
      bookingIds := database.journeys.bookings.map Booking.id
      users :=
        database.conversations.portal.users.map assigneeCandidate }
  journeys :=
    Journeys.withStaffAssignments database.staffAssignments
      { database.journeys with
        proposing :=
          { database.journeys.proposing with
            clientProfiles := database.clientProfiles } }
  conversations :=
    { database.conversations with
      portal :=
        { database.conversations.portal with
          clients := database.desk.clients.tables.clients
          staffAssignments := database.staffAssignments } }

theorem share_share (database : Database) :
    share (share database) = share database :=
  rfl

theorem share_empty : share Database.empty = Database.empty :=
  rfl

section Shared

variable {database : Database}

theorem proposing_rows (shared : share database = database) :
    database.journeys.proposing.staffAssignments =
      database.staffAssignments :=
  (congrArg
    (fun database => database.journeys.proposing.staffAssignments)
    shared).symm

theorem ledger_rows (shared : share database = database) :
    database.journeys.booking.ledger.staffAssignments =
      database.staffAssignments :=
  (congrArg
    (fun database => database.journeys.booking.ledger.staffAssignments)
    shared).symm

theorem portal_rows (shared : share database = database) :
    database.conversations.portal.staffAssignments =
      database.staffAssignments :=
  (congrArg
    (fun database => database.conversations.portal.staffAssignments)
    shared).symm

end Shared

inductive InvitationOperation where
  | prepareInvitation (clientId : Uuid)
  | sendInvitation (clientId : Uuid) (input : SendOrResendInput)
  | resendInvitation (clientId : Uuid) (input : SendOrResendInput)
      (concurrency : ResendConcurrencyPrecondition)
  | confirmManualSend (clientId idempotencyKey : Uuid)
  | revokeInvitation (clientId : Uuid) (reason : String)

def InvitationOperation.clientId : InvitationOperation → Uuid
  | .prepareInvitation clientId => clientId
  | .sendInvitation clientId _ => clientId
  | .resendInvitation clientId _ _ => clientId
  | .confirmManualSend clientId _ => clientId
  | .revokeInvitation clientId _ => clientId

/-- The input of the operations that send. -/
def InvitationOperation.sending :
    InvitationOperation → Option SendOrResendInput
  | .sendInvitation _ input => some input
  | .resendInvitation _ input _ => some input
  | _ => none

section System

variable (platform : Platform)

/-- The checks before the transaction. -/
def admitInvitation (tables : Invitations.Tables) (actor : AuthenticatedUser)
    (operation : InvitationOperation) : Bool :=
  canAccessClient tables.staffAssignments tables.clientProfiles actor
      operation.clientId &&
    operation.sending.all fun input =>
      ¬ (input.deliveryMethod = .automatedEmail ∧
        ¬ platform.isAutomatedDeliveryEnabled)

/-- The transaction that reserves a send, with the call of the provider it
leads to. -/
def reserveSend (context : RequestContext) (rawToken : String)
    (actor : AuthenticatedUser) (clientId : Uuid) (input : SendOrResendInput)
    (kind : Invitations.ReservationKind) (tables : Invitations.Tables) :
    List SendAttempt × Invitations.Tables :=
  let (outcome, stored) :=
    transact
      (Invitations.reserveSendOperationTransaction platform context rawToken
        actor clientId input kind)
      tables
  (Invitations.attemptsAfter.started
      (outcome.map (Invitations.sendProgress platform input)),
    stored)

def attemptInvitation (context : RequestContext) (rawToken : String)
    (actor : AuthenticatedUser) (tables : Invitations.Tables) :
    InvitationOperation → List SendAttempt × Invitations.Tables
  | .prepareInvitation clientId =>
      ([],
        (transact
          (Invitations.prepareInvitationTransaction context actor clientId)
          tables).2)
  | .sendInvitation clientId input =>
      reserveSend platform context rawToken actor clientId input
        Invitations.firstSend tables
  | .resendInvitation clientId input concurrency =>
      reserveSend platform context rawToken actor clientId input
        (Invitations.resend concurrency) tables
  | .confirmManualSend clientId idempotencyKey =>
      ([],
        (transact
          (Invitations.confirmManualSendTransaction context actor clientId
            idempotencyKey)
          tables).2)
  | .revokeInvitation clientId reason =>
      ([],
        (transact
          (Invitations.revokeInvitationTransaction context actor clientId
            reason)
          tables).2)

inductive Operation where
  | clients (operation : Clients.Operation)
  | journeys (operation : Journeys.Operation)
  | invitation (operation : InvitationOperation)
  | payment (operation : Payments.Operation)

/-- A call after its checks, with what these found. -/
inductive Call where
  | clients (waiting : Clients.Waiting)
  | journeys (call : Journeys.Call) (attempt : Nat)
  | invitation (operation : InvitationOperation)
  | payment (operation : Payments.Operation)

structure WaitingCall where
  actor : AuthenticatedUser
  call : Call

/-- What is left to do after the checks; `none` when the call has ended.  A
payment operation reads nothing before its transaction. -/
def admitOperation (database : Database) (actor : AuthenticatedUser) :
    Operation → Option Call
  | .clients operation =>
      (Clients.admitOperation platform.strings actor database.desk.clients.tables
        operation).map .clients
  | .journeys operation =>
      (Journeys.firstChecks actor operation database.journeys).map fun call =>
        .journeys call 1
  | .invitation operation =>
      if admitInvitation platform database.conversations.portal actor
          operation then
        some (.invitation operation)
      else
        none
  | .payment operation => some (.payment operation)

/-- What an attempt leaves: the database, the call when it goes on, and the
calls of the provider it makes. -/
structure Progress where
  database : Database
  next : Option Call
  started : List SendAttempt

def attempt (context : Journeys.AttemptContext) (rawToken : String)
    (database : Database) (actor : AuthenticatedUser) : Call → Progress
  | .clients waiting =>
      { database :=
          { database with
            desk :=
              { database.desk with
                clients :=
                  (Clients.attempt platform.strings context.toRequestContext
                    database.desk.clients waiting).2 } }
        next := none
        started := [] }
  | .journeys call number =>
      let (answer, stored) :=
        Journeys.attempt context call number database.journeys
      { database := { database with journeys := stored }
        next :=
          (Journeys.continuation ⟨0, call, number⟩ answer).map fun waiting =>
            .journeys waiting.call waiting.attempt
        started := [] }
  | .invitation operation =>
      let (started, stored) :=
        attemptInvitation platform context.toRequestContext rawToken actor
          database.conversations.portal operation
      { database :=
          { database with
            conversations := { database.conversations with portal := stored } }
        next := none
        started := started }
  | .payment operation =>
      { database :=
          { database with
            journeys :=
              { database.journeys with
                booking :=
                  { database.journeys.booking with
                    ledger :=
                      (Payments.perform context.toRequestContext actor
                        operation database.journeys.booking.ledger).2 } } }
        next := none
        started := [] }

structure State where
  database : Database
  waiting : List WaitingCall
  /-- The automated sends whose call of the provider is not answered. -/
  sending : List SendAttempt

def State.initial : State where
  database := Database.empty
  waiting := []
  sending := []

inductive Request where
  | call (actor : AuthenticatedUser) (operation : Operation)
  | attempt (context : Journeys.AttemptContext) (rawToken : String)
      (index : Nat)
  | aborted (index : Nat)
  | assign (context : RequestContext) (actor : AuthenticatedUser)
      (operation : Assignments.Operation)
  | conversation (context : RequestContext) (actor : AuthenticatedUser)
      (operation : Conversations.Operation)
  | providerOutcome (now : Timestamp) (index : Nat)
      (outcome : Invitations.SendOutcome)
  | webhook (now : Timestamp)
      (verified : Option Invitations.VerifiedWebhookEvent)
  | continueInvitation (now : Timestamp) (rawToken : String)
  | activateAccount (context : RequestContext)
      (rawToken passwordHash : String)
  | usersChanged (users : List Invitations.User)
      (accounts : List Invitations.Account)

/-- A request of the portal that is one step. -/
def portalStep (state : State) (request : Invitations.Request) : State :=
  let portal :=
    Invitations.step platform
      ⟨state.database.conversations.portal, state.sending⟩ request
  { state with
    database :=
      { state.database with
        conversations :=
          { state.database.conversations with portal := portal.tables } }
    sending := portal.attempts }

def act (state : State) : Request → State
  | .call actor operation =>
      { state with
        waiting :=
          state.waiting ++
            ((admitOperation platform state.database actor operation).map fun call =>
              ⟨actor, call⟩).toList }
  | .attempt context rawToken index =>
      match state.waiting[index]? with
      | none => state
      | some waiting =>
          let progress :=
            attempt platform context rawToken state.database waiting.actor
              waiting.call
          { database := progress.database
            waiting :=
              match progress.next with
              | none => state.waiting.eraseIdx index
              | some call => state.waiting.set index ⟨waiting.actor, call⟩
            sending := state.sending ++ progress.started }
  | .aborted _ => state
  | .assign context actor operation =>
      { state with
        database :=
          { state.database with
            desk :=
              (Assignments.perform platform.strings context actor operation
                state.database.desk).2 } }
  | .conversation context actor operation =>
      { state with
        database :=
          { state.database with
            conversations :=
              (transact
                (fun tables =>
                  Conversations.perform platform context actor tables
                    operation)
                state.database.conversations).2 } }
  | .providerOutcome now index outcome =>
      portalStep platform state (.providerOutcome now index outcome)
  | .webhook now verified => portalStep platform state (.webhook now verified)
  | .continueInvitation now rawToken =>
      portalStep platform state (.continueInvitation now rawToken)
  | .activateAccount context rawToken passwordHash =>
      portalStep platform state
        (.activateAccount context rawToken passwordHash)
  | .usersChanged users accounts =>
      portalStep platform state
        (.usersChanged users accounts state.database.clientProfiles)

def step (state : State) (request : Request) : State :=
  let after := act platform state request
  { after with database := share after.database }

/-- The state after `requests` on an empty database. -/
def stateAfter (requests : List Request) : State :=
  run (step platform) State.initial requests

/-- The database after `requests`. -/
def databaseAfter (requests : List Request) : Database :=
  (stateAfter platform requests).database

theorem step_shared (state : State) (request : Request) :
    share (step platform state request).database =
      (step platform state request).database :=
  share_share _

/-- The shared tables are the same in every part. -/
theorem stateAfter_shared (requests : List Request) :
    share (databaseAfter platform requests) =
      databaseAfter platform requests := by
  unfold databaseAfter stateAfter
  apply
    @run_invariant _ _ (step platform)
      (fun state => share state.database = state.database) State.initial
      share_empty
  intro state request _
  exact step_shared platform state request

end System

/-- Consultant 7 creates lead 20. -/
def leadOfConsultant : List Request :=
  let consultant : AuthenticatedUser := ⟨7, .travelConsultant⟩
  [.call consultant
      (.clients
        (.createLead
          { fullName := "Ana Cruz"
            source := "referral"
            email := some anaAddress
            phone := none
            notes := none
            contactable := by decide })),
    .attempt ⟨⟨fun index => 20 + index, 1700000000000⟩, ""⟩ "" 0]

end Heritage.Office
