import Heritage.Assignments.Service
import Heritage.Clients.System

/-!
# Leads, clients and their assignments together

The system of leads and clients, in which the assignments are changed by the
operations of this feature alone.  Bookings appear and users change as other
features write them.
-/

namespace Heritage.Assignments

open Heritage.Store

structure State where
  tables : Tables
  /-- The calls on leads and clients that have passed their checks. -/
  waiting : List Clients.Waiting

/-- Nothing stored and nobody waiting. -/
def State.initial : State where
  tables := Tables.empty
  waiting := []

inductive Request where
  | call (actor : AuthenticatedUser) (operation : Clients.Operation)
  | attempt (context : RequestContext) (index : Nat)
  | assign (context : RequestContext) (actor : AuthenticatedUser)
      (operation : Operation)
  | bookingAdded (bookingId : Uuid)
  | usersChanged (users : List AssigneeCandidate)
  | profilesChanged (clientProfiles : List ClientProfile)

variable (platform : StringPlatform)

def step (state : State) : Request → State
  | .call actor operation =>
      { state with
        waiting :=
          state.waiting ++
            (Clients.admitOperation platform actor state.tables.clients.tables
              operation).toList }
  | .attempt context index =>
      match state.waiting[index]? with
      | none => state
      | some waiting =>
          { tables :=
              { state.tables with
                clients :=
                  (Clients.attempt platform context state.tables.clients
                    waiting).2 }
            waiting := state.waiting.eraseIdx index }
  | .assign context actor operation =>
      { state with
        tables := (perform platform context actor operation state.tables).2 }
  | .bookingAdded bookingId =>
      { state with
        tables :=
          { state.tables with
            bookingIds := state.tables.bookingIds ++ [bookingId] } }
  | .usersChanged users =>
      { state with tables := { state.tables with users := users } }
  | .profilesChanged clientProfiles =>
      { state with
        tables :=
          { state.tables with
            clients :=
              Clients.withClientProfiles clientProfiles
                state.tables.clients } }

/-- The state after `requests` from the initial one. -/
def stateAfter (requests : List Request) : State :=
  run (step platform) State.initial requests

/-- The database after `requests`. -/
def tablesAfter (requests : List Request) : Tables :=
  (stateAfter platform requests).tables

end Heritage.Assignments
