import Heritage.Leads.Service

/-!
# The lead system

Requests of any number of users against one database.  An `updateLead` is two
steps: its reading, which leaves a prepared write behind, and at some later
point that write.  Besides the lead operations the database sees what other
features write: assignments, clients and portal profiles.
-/

namespace Heritage.Leads

open Heritage.Store
open Repository

structure State where
  tables : Tables
  /-- The writes of `updateLead` requests that have read and not yet
  written. -/
  pending : List PreparedUpdate

def State.initial : State where
  tables := Tables.empty
  pending := []

inductive Request where
  | createLead (context : RequestContext) (actor : AuthenticatedUser)
      (input : CreateLeadRequest)
  | updateLeadRead (actor : AuthenticatedUser) (id : Uuid)
      (input : UpdateLeadRequest)
  | updateLeadWrite (context : RequestContext) (index : Nat)
  | updateLeadStatus (context : RequestContext) (actor : AuthenticatedUser)
      (id : Uuid) (input : UpdateLeadStatusRequest)
  | convertLead (context : RequestContext) (actor : AuthenticatedUser)
      (id : Uuid) (input : ConvertLeadRequest)
  | assignmentsChanged (staffAssignments : List StaffAssignment)
  | clientsChanged (clients : List Client)
      (clientProfiles : List ClientProfile)

variable (platform : StringPlatform)

def step (state : State) : Request → State
  | .createLead context actor input =>
      { state with
        tables :=
          (createLead platform context actor input state.tables).2 }
  | .updateLeadRead actor id input =>
      match readLeadForUpdate platform actor id input state.tables with
      | .ok (.write prepared) =>
          { state with pending := state.pending ++ [prepared] }
      | _ => state
  | .updateLeadWrite context index =>
      match state.pending[index]? with
      | none => state
      | some prepared =>
          { tables := (writeLeadUpdate context prepared state.tables).2
            pending := state.pending.eraseIdx index }
  | .updateLeadStatus context actor id input =>
      { state with
        tables :=
          (updateLeadStatus context actor id input state.tables).2 }
  | .convertLead context actor id input =>
      { state with
        tables := (convertLead context actor id input state.tables).2 }
  | .assignmentsChanged staffAssignments =>
      { state with
        tables :=
          { state.tables with staffAssignments := staffAssignments } }
  | .clientsChanged clients clientProfiles =>
      { state with
        tables :=
          { state.tables with
            clients := clients
            clientProfiles := clientProfiles } }

/-- The state after `requests` on an empty database. -/
def stateAfter (requests : List Request) : State :=
  run (step platform) State.initial requests

end Heritage.Leads
