import Heritage.Activation.Service

/-!
# The invitation system

Requests of staff, recipients and the email provider against one database.
The answer to an automated send arrives as a step of its own, at any later
point or never, and webhooks arrive in any order and number.  Besides the
invitation operations the database sees what other features write:
assignments, clients and users.
-/

namespace Heritage.Invitations

open Heritage.Store
open Repository

structure State where
  tables : Tables
  /-- The automated sends whose call of the provider is not answered. -/
  attempts : List SendAttempt

def State.initial : State where
  tables := Tables.empty
  attempts := []

inductive Request where
  | prepareInvitation (context : RequestContext) (actor : AuthenticatedUser)
      (clientId : Uuid)
  | sendInvitation (context : RequestContext) (rawToken : String)
      (actor : AuthenticatedUser) (clientId : Uuid)
      (input : SendOrResendInput)
  | resendInvitation (context : RequestContext) (rawToken : String)
      (actor : AuthenticatedUser) (clientId : Uuid)
      (input : SendOrResendInput)
      (concurrency : ResendConcurrencyPrecondition)
  | providerOutcome (now : Timestamp) (index : Nat) (outcome : SendOutcome)
  | confirmManualSend (context : RequestContext) (actor : AuthenticatedUser)
      (clientId idempotencyKey : Uuid)
  | revokeInvitation (context : RequestContext) (actor : AuthenticatedUser)
      (clientId : Uuid) (reason : String)
  | webhook (now : Timestamp) (verified : Option VerifiedWebhookEvent)
  | continueInvitation (now : Timestamp) (rawToken : String)
  | activateAccount (context : RequestContext)
      (rawToken passwordHash : String)
  | assignmentsChanged (staffAssignments : List StaffAssignment)
  | clientsChanged (clients : List Client)
  | usersChanged (users : List User) (accounts : List Account)
      (clientProfiles : List ClientProfile)

variable (platform : Platform)

/-- The failure a request ends in, if any, and the tables it leaves. -/
def perform (state : State) : Request → Option TxError × Tables
  | .prepareInvitation context actor clientId =>
      failureOf (prepareInvitation context actor clientId state.tables)
  | .sendInvitation context rawToken actor clientId input =>
      failureOf
        (sendInvitation platform context rawToken actor clientId input
          state.tables)
  | .resendInvitation context rawToken actor clientId input concurrency =>
      failureOf
        (resendInvitation platform context rawToken actor clientId input
          concurrency state.tables)
  | .providerOutcome now index outcome =>
      match state.attempts[index]? with
      | none => (none, state.tables)
      | some attempt =>
          failureOf
            (attemptAutomatedDelivery now attempt outcome state.tables)
  | .confirmManualSend context actor clientId idempotencyKey =>
      failureOf
        (confirmManualSend context actor clientId idempotencyKey
          state.tables)
  | .revokeInvitation context actor clientId reason =>
      failureOf
        (revokeInvitation context actor clientId reason state.tables)
  | .webhook now verified =>
      failureOf (handleResendWebhookEvent now verified state.tables)
  | .continueInvitation now rawToken =>
      failureOf
        (Activation.continueInvitation platform now rawToken state.tables)
  | .activateAccount context rawToken passwordHash =>
      failureOf
        (Activation.activateAccount platform context rawToken passwordHash
          state.tables)
  | .assignmentsChanged staffAssignments =>
      (none, { state.tables with staffAssignments := staffAssignments })
  | .clientsChanged clients => (none, { state.tables with clients := clients })
  | .usersChanged users accounts clientProfiles =>
      (none,
        { state.tables with
          users := users
          accounts := accounts
          clientProfiles := clientProfiles })
where
  failureOf {α : Type} : Except TxError α × Tables → Option TxError × Tables
    | (.ok _, stored) => (none, stored)
    | (.error failure, stored) => (some failure, stored)

@[simp]
theorem failureOf_snd {α : Type} (answer : Except TxError α × Tables) :
    (perform.failureOf answer).2 = answer.2 := by
  obtain ⟨outcome, stored⟩ := answer
  cases outcome <;> rfl

/-- The attempts after a request: a reserved automated send adds one, an
answer takes its own away. -/
def attemptsAfter (state : State) : Request → List SendAttempt
  | .sendInvitation context rawToken actor clientId input =>
      state.attempts ++
        started
          (sendInvitation platform context rawToken actor clientId input
            state.tables).1
  | .resendInvitation context rawToken actor clientId input concurrency =>
      state.attempts ++
        started
          (resendInvitation platform context rawToken actor clientId input
            concurrency state.tables).1
  | .providerOutcome _ index _ => state.attempts.eraseIdx index
  | _ => state.attempts
where
  started : Except TxError SendProgress → List SendAttempt
    | .ok (.attempting attempt) => [attempt]
    | _ => []

def step (state : State) (request : Request) : State where
  tables := (perform platform state request).2
  attempts := attemptsAfter platform state request

/-- The state after `requests` on an empty database. -/
def stateAfter (requests : List Request) : State :=
  run (step platform) State.initial requests

end Heritage.Invitations
