import Heritage.Calendar.DateTime
import Heritage.Leads.Repository
import Heritage.Store.Grouping

/-!
# Reads and writes of the client table

`repository.ts` of clients.  A row of `client` is kept in two parts: the
columns that a conversion copies from a lead stay with the lead tables, and
the columns only this feature writes stand in `ClientDetails`.
-/

namespace Heritage.Clients.Repository

open Heritage.Store
open Heritage.Calendar
open Heritage.Leads
open Heritage.Leads.Repository

/-- The columns of a client that no lead has.  A date of birth is stored as
the UTC midnight of its day. -/
structure ClientDetails where
  clientId : Uuid
  address : Option String
  nationality : Option String
  dateOfBirth : Option CalendarDay
  emergencyContact : Option String
  notes : Option String
  createdAt : Timestamp
  updatedAt : Timestamp
  deriving DecidableEq, Repr

/-- The details of a client that a conversion has just created. -/
def ClientDetails.initial (clientId : Uuid) (now : Timestamp) :
    ClientDetails where
  clientId := clientId
  address := none
  nationality := none
  dateOfBirth := none
  emergencyContact := none
  notes := none
  createdAt := now
  updatedAt := now

structure ClientRecord where
  contact : Client
  details : ClientDetails
  deriving DecidableEq, Repr

structure Database where
  tables : Tables
  details : List ClientDetails
  deriving DecidableEq, Repr

def Database.empty : Database where
  tables := Tables.empty
  details := []

/-- `ClientActor`: the roles that manage clients are those that manage
leads. -/
abbrev ClientActor := LeadActor

def findClientById (database : Database) (id : Uuid) :
    Option ClientRecord := do
  let contact ← findBy Client.id id database.tables.clients
  let details ← findBy ClientDetails.clientId id database.details
  some ⟨contact, details⟩

/-- The leads of a client that the actor may see. -/
def originatingLeadVisibilityFilter (tables : Tables) (actor : ClientActor)
    (lead : Lead) : Bool :=
  match actor.role with
  | .adminManager => true
  | .travelConsultant =>
      tables.staffAssignments.any fun assignment =>
        assignment.leadId = some lead.id ∧
          assignment.assignedStaffId = actor.id ∧ assignment.endedAt = none

structure OriginatingLeadSummary where
  id : Uuid
  fullName : String
  status : LeadStatus
  source : String
  createdAt : Timestamp
  deriving DecidableEq, Repr

structure ClientDetailRecord where
  id : Uuid
  fullName : String
  email : Option NonBlank
  phone : Option NonBlank
  address : Option String
  nationality : Option String
  dateOfBirth : Option String
  emergencyContact : Option String
  notes : Option String
  createdAt : Timestamp
  updatedAt : Timestamp
  assignment : Option Uuid
  originatingLeads : List OriginatingLeadSummary
  deriving DecidableEq, Repr

/-- The year is not padded, the month and the day are. -/
def toDateOnlyString (date : CalendarDay) : String :=
  toString date.year ++ "-" ++ String.ofList (pad 2 date.month) ++ "-" ++
    String.ofList (pad 2 date.day)

/-- The newest lead comes first, and of two created together the one with
the larger id. -/
def originatingLeads (tables : Tables) (actor : ClientActor) (id : Uuid) :
    List OriginatingLeadSummary :=
  let visible :=
    tables.leads.filter fun lead =>
      lead.clientId = some id ∧
        originatingLeadVisibilityFilter tables actor lead
  let ordered :=
    visible.mergeSort fun first second =>
      second.createdAt < first.createdAt ∨
        first.createdAt = second.createdAt ∧ second.id ≤ first.id
  ordered.map fun lead =>
    { id := lead.id
      fullName := lead.fullName
      status := lead.status
      source := lead.source
      createdAt := lead.createdAt }

def findClientByIdForRead (database : Database) (id : Uuid)
    (actor : ClientActor) : Option ClientDetailRecord :=
  (findClientById database id).map fun row =>
    { id := row.contact.id
      fullName := row.contact.fullName
      email := row.contact.email
      phone := row.contact.phone
      address := row.details.address
      nationality := row.details.nationality
      dateOfBirth := row.details.dateOfBirth.map toDateOnlyString
      emergencyContact := row.details.emergencyContact
      notes := row.details.notes
      createdAt := row.details.createdAt
      updatedAt := row.details.updatedAt
      assignment :=
        (findActiveAssignmentForClient database.tables.staffAssignments
          id).map StaffAssignment.assignedStaffId
      originatingLeads := originatingLeads database.tables actor id }

def findDuplicateClientMatches (tables : Tables) (params : DuplicateParams)
    (excludeClientId : Uuid) : List DuplicateMatchRow :=
  (tables.clients.filter fun row =>
    computeMatchedOn row.normalizedEmail row.normalizedPhone params ≠ [] ∧
      row.id ≠ excludeClientId).map fun row =>
    { id := row.id
      fullName := row.fullName
      matchedOn :=
        computeMatchedOn row.normalizedEmail row.normalizedPhone params }

/-- The client's own leads are left out; a lead of no client is not. -/
def findDuplicateLeadMatches (tables : Tables) (params : DuplicateParams)
    (excludeClientId : Uuid) : List LeadDuplicateMatchRow :=
  (tables.leads.filter fun row =>
    computeMatchedOn row.normalizedEmail row.normalizedPhone params ≠ [] ∧
      (row.clientId = none ∨ row.clientId ≠ some excludeClientId)).map
    fun row =>
      { id := row.id
        fullName := row.fullName
        status := row.status
        matchedOn :=
          computeMatchedOn row.normalizedEmail row.normalizedPhone params }

/-- The fields an update writes; a field that is `none` is not written. -/
structure UpdateClientFieldsInput where
  fullName : Option String
  email : Option (Option NonBlank)
  phone : Option (Option NonBlank)
  normalizedEmail : Option (Option String)
  normalizedPhone : Option (Option String)
  address : Option (Option String)
  nationality : Option (Option String)
  dateOfBirth : Option (Option CalendarDay)
  emergencyContact : Option (Option String)
  notes : Option (Option String)
  deriving DecidableEq, Repr

/-- The contact columns with the given fields written. -/
def UpdateClientFieldsInput.changeContact (data : UpdateClientFieldsInput)
    (contact : Client) : Client :=
  { contact with
    fullName := data.fullName.getD contact.fullName
    email := data.email.getD contact.email
    phone := data.phone.getD contact.phone
    normalizedEmail := data.normalizedEmail.getD contact.normalizedEmail
    normalizedPhone := data.normalizedPhone.getD contact.normalizedPhone }

/-- The other columns with the given fields written. -/
def UpdateClientFieldsInput.changeDetails (data : UpdateClientFieldsInput)
    (updatedAt : Timestamp) (details : ClientDetails) : ClientDetails :=
  { details with
    address := data.address.getD details.address
    nationality := data.nationality.getD details.nationality
    dateOfBirth := data.dateOfBirth.getD details.dateOfBirth
    emergencyContact := data.emergencyContact.getD details.emergencyContact
    notes := data.notes.getD details.notes
    updatedAt := updatedAt }

/-- The row with the given fields written. -/
def UpdateClientFieldsInput.change (data : UpdateClientFieldsInput)
    (updatedAt : Timestamp) (row : ClientRecord) : ClientRecord where
  contact := data.changeContact row.contact
  details := data.changeDetails updatedAt row.details

/-- The database with one client's row rewritten. -/
def writeClient (database : Database) (id : Uuid)
    (data : UpdateClientFieldsInput) (updatedAt : Timestamp) : Database where
  tables :=
    { database.tables with
      clients :=
        updateBy Client.id id data.changeContact database.tables.clients }
  details :=
    updateBy ClientDetails.clientId id (data.changeDetails updatedAt)
      database.details

/-- The number of rows written: the row with this id when its version is the
expected one. -/
def updateClientFieldsIfUnstale (database : Database) (id : Uuid)
    (expectedUpdatedAt : Timestamp) (data : UpdateClientFieldsInput)
    (now : Timestamp) : Nat × Database :=
  if (findClientById database id).any fun row =>
      row.details.updatedAt = expectedUpdatedAt then
    (1, writeClient database id data now)
  else
    (0, database)

end Heritage.Clients.Repository
