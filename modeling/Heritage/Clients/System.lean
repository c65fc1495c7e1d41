import Heritage.Clients.Service

/-!
# Leads and clients together

Requests of any number of users against one database.  A call runs the checks
before its transaction and waits; its transaction is a later step.  In between
other requests commit and other features change the assignments and the portal
profiles.  A transaction that the database aborts and the service retries has
no effect, so an attempt here is the one that ends the call.
-/

namespace Heritage.Clients

open Heritage.Store
open Heritage.Leads (CreateLeadRequest CreateLeadResult
  UpdateLeadRequest UpdateLeadResult UpdateLeadStatusRequest
  ConvertLeadRequest ConvertLeadResult DuplicateMatchResult PreparedUpdate
  Tables Lead TxError Effect)
open Heritage.Leads.Repository (LeadActor)
open Repository

inductive Operation where
  | createLead (input : CreateLeadRequest)
  | updateLead (id : Uuid) (input : UpdateLeadRequest)
  | updateLeadStatus (id : Uuid) (input : UpdateLeadStatusRequest)
  | convertLead (id : Uuid) (input : ConvertLeadRequest)
  | updateClient (id : Uuid) (input : UpdateClientRequest)

/-- A call that has passed its checks, with what its transaction closes
over. -/
inductive Waiting where
  | createLead (leadActor : LeadActor) (input : CreateLeadRequest)
      (duplicates : DuplicateMatchResult)
  | updateLead (prepared : PreparedUpdate)
  | updateLeadStatus (leadActor : LeadActor) (id : Uuid)
      (input : UpdateLeadStatusRequest)
  | convertLead (leadActor : LeadActor) (id : Uuid)
      (input : ConvertLeadRequest)
  | updateClient (actor : AuthenticatedUser) (clientActor : ClientActor)
      (id : Uuid) (input : UpdateClientRequest)

variable (platform : StringPlatform)

/-- The checks of an operation on one lead. -/
def admitLead (tables : Tables) (actor : AuthenticatedUser) (id : Uuid) :
    Except TxError LeadActor := do
  let leadActor ← Leads.assertLeadActor actor
  require (canAccessLead tables.staffAssignments actor id)
    (Leads.notFoundOrForbidden leadActor)
  .ok leadActor

/-- What is left to do after the checks; `none` when the call has ended. -/
def admitOperation (actor : AuthenticatedUser) (tables : Tables) :
    Operation → Option Waiting
  | .createLead input =>
      (Leads.assertLeadActor actor).toOption.map fun leadActor =>
        .createLead leadActor input <|
          Leads.findDuplicateMatches tables actor
            { normalizedEmail :=
                input.email.map fun email =>
                  normalizeEmail platform email.value
              normalizedPhone :=
                input.phone.map fun phone => normalizePhone phone.value }
            none
  | .updateLead id input =>
      match Leads.readLeadForUpdate platform actor id input tables with
      | .ok (.write prepared) => some (.updateLead prepared)
      | _ => none
  | .updateLeadStatus id input =>
      (admitLead tables actor id).toOption.map fun leadActor =>
        .updateLeadStatus leadActor id input
  | .convertLead id input =>
      if ∀ clientId ∈ input.clientId,
          canAccessClient tables.staffAssignments tables.clientProfiles actor
            clientId then
        (admitLead tables actor id).toOption.map fun leadActor =>
          .convertLead leadActor id input
      else
        none
  | .updateClient id input =>
      (admitUpdate tables actor id).toOption.map fun clientActor =>
        .updateClient actor clientActor id input

inductive Answer where
  | leadCreated (result : Except TxError CreateLeadResult)
  | leadUpdated (result : Except TxError UpdateLeadResult)
  | statusUpdated (result : Except TxError Lead)
  | leadConverted (result : Except TxError ConvertLeadResult)
  | clientUpdated (result : Except ClientError UpdateClientResult)

/-- A lead operation on the whole database: a client it creates has no
details yet. -/
def onTables {α : Type} (effect : Effect α) (now : Timestamp)
    (database : Database) : Except TxError α × Database :=
  let (outcome, tables) := effect database.tables
  let created := tables.clients.drop database.tables.clients.length
  (outcome,
    { tables := tables
      details :=
        database.details ++
          created.map fun client => .initial client.id now })

/-- The transaction of a waiting call. -/
def attempt (context : RequestContext) (database : Database) :
    Waiting → Answer × Database
  | .createLead leadActor input duplicates =>
      let (outcome, stored) :=
        onTables
          (transact
            (Leads.createLeadTransaction platform context leadActor input))
          context.now database
      (.leadCreated (outcome.map fun lead => ⟨lead, duplicates⟩), stored)
  | .updateLead prepared =>
      let (outcome, stored) :=
        onTables (Leads.writeLeadUpdate context prepared) context.now database
      (.leadUpdated outcome, stored)
  | .updateLeadStatus leadActor id input =>
      let (outcome, stored) :=
        onTables
          (Leads.serve Leads.updateConflict
            (Leads.updateLeadStatusTransaction context leadActor id input))
          context.now database
      (.statusUpdated outcome, stored)
  | .convertLead leadActor id input =>
      let (outcome, stored) :=
        onTables
          (Leads.serve Leads.conversionConflict
            (Leads.convertLeadTransaction context leadActor id input))
          context.now database
      (.leadConverted outcome, stored)
  | .updateClient actor clientActor id input =>
      let (outcome, stored) :=
        transact
          (updateClientTransaction platform context actor clientActor id
            input)
          database
      (.clientUpdated outcome, stored)

structure State where
  database : Database
  waiting : List Waiting

def State.initial : State where
  database := Database.empty
  waiting := []

inductive Request where
  | call (actor : AuthenticatedUser) (operation : Operation)
  | attempt (context : RequestContext) (index : Nat)
  | assignmentsChanged (staffAssignments : List StaffAssignment)
  | profilesChanged (clientProfiles : List ClientProfile)

def withStaffAssignments (staffAssignments : List StaffAssignment)
    (database : Database) : Database :=
  { database with
    tables := { database.tables with staffAssignments := staffAssignments } }

def withClientProfiles (clientProfiles : List ClientProfile)
    (database : Database) : Database :=
  { database with
    tables := { database.tables with clientProfiles := clientProfiles } }

def step (state : State) : Request → State
  | .call actor operation =>
      { state with
        waiting :=
          state.waiting ++
            (admitOperation platform actor state.database.tables operation).toList }
  | .attempt context index =>
      match state.waiting[index]? with
      | none => state
      | some waiting =>
          { database := (attempt platform context state.database waiting).2
            waiting := state.waiting.eraseIdx index }
  | .assignmentsChanged staffAssignments =>
      { state with
        database := withStaffAssignments staffAssignments state.database }
  | .profilesChanged clientProfiles =>
      { state with
        database := withClientProfiles clientProfiles state.database }

/-- The state after `requests` on an empty database. -/
def stateAfter (requests : List Request) : State :=
  run (step platform) State.initial requests

/-- The database after `requests`. -/
def databaseAfter (requests : List Request) : Database :=
  (stateAfter platform requests).database

end Heritage.Clients
