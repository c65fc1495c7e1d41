import Heritage.Leads.Tables
import Heritage.Store.Transaction

/-!
# Reads and writes of the lead tables

`repository.ts` of leads, with the assignment write that leads share.  The
read of a lead for an update and the update itself are separate functions:
the service does not run them in one transaction.
-/

namespace Heritage.Leads.Repository

open Heritage.Store

inductive LeadActorRole where
  | adminManager
  | travelConsultant
  deriving DecidableEq, Repr

structure LeadActor where
  id : Uuid
  role : LeadActorRole
  deriving DecidableEq, Repr

/-- An `update` of a record that is not there. -/
def recordNotFound : TxError :=
  .unknown "No record was found for an update."

def findLeadById (tables : Tables) (id : Uuid) : Option Lead :=
  findBy Lead.id id tables.leads

structure CreateLeadInput where
  id : Uuid
  fullName : String
  email : Option NonBlank
  phone : Option NonBlank
  normalizedEmail : Option String
  normalizedPhone : Option String
  source : String
  notes : Option String
  changedByUserId : Uuid
  createdAt : Timestamp

/-- The lead row a creation inserts. -/
def CreateLeadInput.row (input : CreateLeadInput) : Lead where
  id := input.id
  status := .new
  fullName := input.fullName
  email := input.email
  phone := input.phone
  normalizedEmail := input.normalizedEmail
  normalizedPhone := input.normalizedPhone
  source := input.source
  notes := input.notes
  clientId := none
  createdAt := input.createdAt
  updatedAt := input.createdAt

def createLeadWithInitialHistory (tables : Tables)
    (input : CreateLeadInput) : Except TxError (Lead × Tables) := do
  require (findLeadById tables input.id).isNone
    (.uniqueViolation "Lead" ["id"])
  .ok
    (input.row,
      { tables with
        leads := tables.leads ++ [input.row]
        statusHistory :=
          tables.statusHistory ++
            [{ leadId := input.id
               previousStatus := none
               newStatus := .new
               changedByUserId := input.changedByUserId
               createdAt := input.createdAt }] })

/-- The fields an update writes; a field that is `none` is not written. -/
structure UpdateLeadFieldsInput where
  fullName : Option String
  email : Option (Option NonBlank)
  phone : Option (Option NonBlank)
  normalizedEmail : Option (Option String)
  normalizedPhone : Option (Option String)
  source : Option String
  notes : Option (Option String)
  deriving DecidableEq, Repr

/-- The lead with the given fields written. -/
def UpdateLeadFieldsInput.change (data : UpdateLeadFieldsInput)
    (updatedAt : Timestamp) (lead : Lead) : Lead :=
  { lead with
    fullName := data.fullName.getD lead.fullName
    email := data.email.getD lead.email
    phone := data.phone.getD lead.phone
    normalizedEmail := data.normalizedEmail.getD lead.normalizedEmail
    normalizedPhone := data.normalizedPhone.getD lead.normalizedPhone
    source := data.source.getD lead.source
    notes := data.notes.getD lead.notes
    updatedAt := updatedAt }

def updateLeadFields (tables : Tables) (id : Uuid)
    (data : UpdateLeadFieldsInput) (updatedAt : Timestamp) :
    Except TxError (Lead × Tables) := do
  let lead ← demand (findLeadById tables id) recordNotFound
  .ok
    (data.change updatedAt lead,
      { tables with
        leads := updateBy Lead.id id (data.change updatedAt) tables.leads })

/-- The lead in another status. -/
def withStatus (status : LeadStatus) (updatedAt : Timestamp) (lead : Lead) :
    Lead :=
  { lead with status := status, updatedAt := updatedAt }

structure UpdateLeadStatusInput where
  id : Uuid
  previousStatus : LeadStatus
  newStatus : LeadStatus
  changedByUserId : Uuid

def updateLeadStatusWithHistory (tables : Tables)
    (input : UpdateLeadStatusInput) (now : Timestamp) :
    Except TxError (Lead × Tables) := do
  let lead ← demand (findLeadById tables input.id) recordNotFound
  .ok
    (withStatus input.newStatus now lead,
      { tables with
        leads :=
          updateBy Lead.id input.id (withStatus input.newStatus now)
            tables.leads
        statusHistory :=
          tables.statusHistory ++
            [{ leadId := input.id
               previousStatus := some input.previousStatus
               newStatus := input.newStatus
               changedByUserId := input.changedByUserId
               createdAt := now }] })

inductive MatchedChannel where
  | email
  | phone
  deriving DecidableEq, Repr

structure DuplicateParams where
  normalizedEmail : Option String
  normalizedPhone : Option String

/-- A search value is used when it is present and not empty. -/
def searched (value : Option String) : Option String :=
  value.filter fun text => text ≠ ""

def computeMatchedOn (normalizedEmail normalizedPhone : Option String)
    (params : DuplicateParams) : List MatchedChannel :=
  (if (searched params.normalizedEmail).any
      fun email => normalizedEmail = some email then [.email] else []) ++
    (if (searched params.normalizedPhone).any
      fun phone => normalizedPhone = some phone then [.phone] else [])

structure LeadDuplicateMatchRow where
  id : Uuid
  fullName : String
  status : LeadStatus
  matchedOn : List MatchedChannel
  deriving DecidableEq, Repr

structure DuplicateMatchRow where
  id : Uuid
  fullName : String
  matchedOn : List MatchedChannel
  deriving DecidableEq, Repr

def findDuplicateLeadMatches (tables : Tables) (params : DuplicateParams)
    (excludeId : Option Uuid) : List LeadDuplicateMatchRow :=
  (tables.leads.filter fun row =>
    computeMatchedOn row.normalizedEmail row.normalizedPhone params ≠ [] ∧
      some row.id ≠ excludeId).map fun row =>
    { id := row.id
      fullName := row.fullName
      status := row.status
      matchedOn :=
        computeMatchedOn row.normalizedEmail row.normalizedPhone params }

def findDuplicateClientMatches (tables : Tables)
    (params : DuplicateParams) : List DuplicateMatchRow :=
  (tables.clients.filter fun row =>
    computeMatchedOn row.normalizedEmail row.normalizedPhone
      params ≠ []).map fun row =>
    { id := row.id
      fullName := row.fullName
      matchedOn :=
        computeMatchedOn row.normalizedEmail row.normalizedPhone params }

def createAssignment (tables : Tables) (row : StaffAssignment) :
    Except TxError (StaffAssignment × Tables) :=
  match assignmentViolation tables.staffAssignments row with
  | some fields => .error (.uniqueViolation "StaffAssignment" fields)
  | none =>
      .ok
        (row,
          { tables with
            staffAssignments := tables.staffAssignments ++ [row] })

def insertAuditLog (tables : Tables) (entry : AuditLog) : Tables :=
  { tables with auditLogs := tables.auditLogs ++ [entry] }

structure ClientSummary where
  id : Uuid
  fullName : String
  deriving DecidableEq, Repr

def createClientFromLead (tables : Tables) (row : Client) :
    Except TxError (ClientSummary × Tables) := do
  require (findBy Client.id row.id tables.clients).isNone
    (.uniqueViolation "Client" ["id"])
  .ok
    (⟨row.id, row.fullName⟩,
      { tables with clients := tables.clients ++ [row] })

def findClientSummaryById (tables : Tables) (id : Uuid) :
    Option ClientSummary :=
  (findBy Client.id id tables.clients).map fun client =>
    ⟨client.id, client.fullName⟩

/-- The lead converted to a client. -/
def converted (clientId : Uuid) (updatedAt : Timestamp) (lead : Lead) :
    Lead :=
  { lead with
    clientId := some clientId
    status := .convertedToClient
    updatedAt := updatedAt }

def convertLeadWithHistory (tables : Tables) (id clientId : Uuid)
    (changedByUserId : Uuid) (now : Timestamp) :
    Except TxError (Lead × Tables) := do
  let lead ← demand (findLeadById tables id) recordNotFound
  .ok
    (converted clientId now lead,
      { tables with
        leads := updateBy Lead.id id (converted clientId now) tables.leads
        statusHistory :=
          tables.statusHistory ++
            [{ leadId := id
               previousStatus := some .qualified
               newStatus := .convertedToClient
               changedByUserId := changedByUserId
               createdAt := now }] })

/-- The latest conversion entry of a lead; entries stand in the order in
which they were written. -/
def findLeadConversionAudit (tables : Tables) (leadId : Uuid) :
    Option (Option AuditSnapshot) :=
  (tables.auditLogs.filter fun entry =>
    entry.entityType = .lead ∧ entry.entityId = leadId ∧
      entry.action = .leadConvertedToClient).getLast?.map
    AuditLog.afterState

end Heritage.Leads.Repository
