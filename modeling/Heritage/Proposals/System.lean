import Heritage.Proposals.Service

/-!
# The proposal system

Calls arrive, pass their first checks and wait; each attempt of a waiting call
is one transaction, on whatever the others have committed meanwhile.
-/

namespace Heritage.Proposals

open Heritage.Store

/-- A call between its first checks and its answer. -/
structure WaitingCall where
  callId : Nat
  author : ProposalActor
  operation : Operation
  attempt : Nat
  deriving DecidableEq

structure State where
  tables : Tables
  waiting : List WaitingCall
  deriving DecidableEq

/-- Nothing stored and nobody waiting. -/
def State.initial : State where
  tables := Tables.empty
  waiting := []

inductive Request where
  | call (callId : Nat) (actor : AuthenticatedUser) (operation : Operation)
  | attempt (callId : Nat) (context : RequestContext)
  | assignmentsChanged (staffAssignments : List StaffAssignment)

/-- A call that arrives under a fresh id and passes its first checks waits. -/
def arrive (state : State) (callId : Nat) (actor : AuthenticatedUser)
    (operation : Operation) : State :=
  match
    assertProposalAuthorActor actor >>= fun author =>
      checks author operation state.tables >>= fun _ => .ok author
  with
  | .error _ => state
  | .ok author =>
      if (findBy WaitingCall.callId callId state.waiting).isSome then
        state
      else
        { state with
          waiting := state.waiting ++ [⟨callId, author, operation, 1⟩] }

def withNextAttempt (call : WaitingCall) : WaitingCall :=
  { call with attempt := call.attempt + 1 }

/-- A waiting call makes its next attempt. -/
def proceed (state : State) (callId : Nat) (context : RequestContext) :
    State :=
  match findBy WaitingCall.callId callId state.waiting with
  | none => state
  | some call =>
      match
        attempt context call.author call.operation call.attempt state.tables
      with
      | (.tryAgain, stored) =>
          { tables := stored
            waiting :=
              updateBy WaitingCall.callId callId withNextAttempt
                state.waiting }
      | (_, stored) =>
          { tables := stored
            waiting :=
              state.waiting.filter fun other => other.callId ≠ callId }

def step (state : State) : Request → State
  | .call callId actor operation => arrive state callId actor operation
  | .attempt callId context => proceed state callId context
  | .assignmentsChanged staffAssignments =>
      { state with
        tables := { state.tables with staffAssignments := staffAssignments } }

/-- The state after `requests` from the initial one. -/
def stateAfter (requests : List Request) : State :=
  run step State.initial requests

/-- The database after `requests`. -/
def tablesAfter (requests : List Request) : Tables :=
  (stateAfter requests).tables

end Heritage.Proposals
