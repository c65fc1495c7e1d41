import Heritage.Clients.Repository
import Heritage.Leads.Service

/-!
# Client edits

`updateClient` of `service.ts` of clients.  The access check runs before the
transaction opens and the transaction makes it again, so they are two
functions: `admitUpdate` and `updateClientTransaction`.
-/

namespace Heritage.Clients

open Heritage.Store
open Heritage.Calendar (CalendarDay)
open Heritage.Leads (AuthorizedDuplicateMatch DuplicateMatchResult Tables
  changedTo holdsLead)
open Heritage.Leads.Repository (DuplicateParams LeadDuplicateMatchRow
  DuplicateMatchRow insertAuditLog)
open Repository

inductive ClientErrorCode where
  | validationError
  | roleNotPermitted
  | clientForbidden
  | clientNotFound
  | clientConflict
  deriving DecidableEq, Repr

structure ClientError where
  code : ClientErrorCode
  message : String
  deriving DecidableEq, Repr

def assertClientActor (actor : AuthenticatedUser) :
    Except ClientError ClientActor :=
  match actor.role with
  | .adminManager => .ok ⟨actor.id, .adminManager⟩
  | .travelConsultant => .ok ⟨actor.id, .travelConsultant⟩
  | _ =>
      .error
        ⟨.roleNotPermitted, "This role is not permitted to manage clients."⟩

def notFoundOrForbidden (clientActor : ClientActor) : ClientError :=
  match clientActor.role with
  | .adminManager => ⟨.clientNotFound, "Client not found."⟩
  | .travelConsultant =>
      ⟨.clientForbidden, "You do not have access to this client."⟩

/-- `CONFLICT_MESSAGE`. -/
def staleVersion : ClientError where
  code := .clientConflict
  message :=
    "This client has changed since it was last loaded. Refresh and try again."

/-- `CONTACT_INVARIANT_MESSAGE`. -/
def contactRequired : ClientError where
  code := .validationError
  message := "A client must retain at least one of email or phone."

def findDuplicateMatchesForClient (tables : Tables)
    (actor : AuthenticatedUser) (params : DuplicateParams)
    (excludeClientId : Uuid) : DuplicateMatchResult :=
  let clientMatches := findDuplicateClientMatches tables params excludeClientId
  let leadMatches := findDuplicateLeadMatches tables params excludeClientId
  let seesClient := fun (found : DuplicateMatchRow) =>
    canAccessClient tables.staffAssignments tables.clientProfiles actor
      found.id
  let seesLead := fun (found : LeadDuplicateMatchRow) =>
    canAccessLead tables.staffAssignments actor found.id
  { duplicateMatches :=
      ((clientMatches.filter seesClient).map fun found =>
        { type := .client
          id := found.id
          fullName := found.fullName
          status := none
          matchedOn := found.matchedOn }) ++
      ((leadMatches.filter seesLead).map fun found =>
        { type := .lead
          id := found.id
          fullName := found.fullName
          status := some found.status
          matchedOn := found.matchedOn })
    restrictedMatchDetected :=
      ¬ (clientMatches.all seesClient ∧ leadMatches.all seesLead) }

/-- A patch as `updateClientSchema` lets it through: a field that is `none` is
absent from the request, and every field but the name can be cleared. -/
structure UpdateClientRequest where
  fullName : Option String
  email : Option (Option NonBlank)
  phone : Option (Option NonBlank)
  address : Option (Option String)
  nationality : Option (Option String)
  dateOfBirth : Option (Option CalendarDay)
  emergencyContact : Option (Option String)
  notes : Option (Option String)
  expectedUpdatedAt : Timestamp
  editsSomething :
    fullName.isSome ∨ email.isSome ∨ phone.isSome ∨ address.isSome ∨
      nationality.isSome ∨ dateOfBirth.isSome ∨ emergencyContact.isSome ∨
      notes.isSome

structure UpdateClientResult where
  client : ClientDetailRecord
  duplicates : Option DuplicateMatchResult
  deriving DecidableEq, Repr

/-- The fields of a patch that differ from the row that was read. -/
def changedData (platform : StringPlatform) (input : UpdateClientRequest)
    (existing : ClientRecord) : UpdateClientFieldsInput :=
  let email := changedTo input.email existing.contact.email
  let phone := changedTo input.phone existing.contact.phone
  { fullName := changedTo input.fullName existing.contact.fullName
    email := email
    phone := phone
    normalizedEmail :=
      email.map fun final =>
        final.map fun text => normalizeEmail platform text.value
    normalizedPhone :=
      phone.map fun final => final.map fun text => normalizePhone text.value
    address := changedTo input.address existing.details.address
    nationality := changedTo input.nationality existing.details.nationality
    dateOfBirth := changedTo input.dateOfBirth existing.details.dateOfBirth
    emergencyContact :=
      changedTo input.emergencyContact existing.details.emergencyContact
    notes := changedTo input.notes existing.details.notes }

/-- The name of a field that is written. -/
def nameIfWritten {τ : Type} (name : String) (field : Option τ) :
    List String :=
  if field.isSome then [name] else []

/-- The names of the fields that are written. -/
def changedFieldNames (data : UpdateClientFieldsInput) : List String :=
  nameIfWritten "fullName" data.fullName ++
    nameIfWritten "email" data.email ++
    nameIfWritten "phone" data.phone ++
    nameIfWritten "address" data.address ++
    nameIfWritten "nationality" data.nationality ++
    nameIfWritten "dateOfBirth" data.dateOfBirth ++
    nameIfWritten "emergencyContact" data.emergencyContact ++
    nameIfWritten "notes" data.notes

/-- The checks before the transaction opens. -/
def admitUpdate (tables : Tables) (actor : AuthenticatedUser) (id : Uuid) :
    Except ClientError ClientActor := do
  let clientActor ← assertClientActor actor
  require
    (canAccessClient tables.staffAssignments tables.clientProfiles actor id)
    (notFoundOrForbidden clientActor)
  .ok clientActor

/-- The recheck at the start of the transaction. -/
def holdsClient (tables : Tables) (clientActor : ClientActor) (id : Uuid) :
    Bool :=
  match clientActor.role with
  | .adminManager => true
  | .travelConsultant =>
      (findActiveAssignmentForClient tables.staffAssignments id).any
        fun active => active.assignedStaffId = clientActor.id

/-- The audited write of the changed fields. -/
def writeChanges (context : RequestContext) (clientActor : ClientActor)
    (id : Uuid) (expectedUpdatedAt : Timestamp)
    (data : UpdateClientFieldsInput) (hasEmail hasPhone : Bool)
    (database : Database) :
    Except ClientError (ClientDetailRecord × Database) := do
  let (count, written) :=
    updateClientFieldsIfUnstale database id expectedUpdatedAt data context.now
  require (count ≠ 0)
    (if (findClientById database id).isNone then
      notFoundOrForbidden clientActor
    else
      staleVersion)
  let updatedDetail ←
    demand (findClientByIdForRead written id clientActor)
      (notFoundOrForbidden clientActor)
  .ok
    (updatedDetail,
      { written with
        tables :=
          insertAuditLog written.tables
            { actorId := clientActor.id
              action := .clientUpdated
              entityType := .client
              entityId := id
              beforeState := none
              afterState :=
                some <|
                  .clientUpdate (changedFieldNames data) hasEmail hasPhone } })

def updateClientTransaction (platform : StringPlatform)
    (context : RequestContext) (actor : AuthenticatedUser)
    (clientActor : ClientActor) (id : Uuid) (input : UpdateClientRequest)
    (database : Database) :
    Except ClientError (UpdateClientResult × Database) := do
  require (holdsClient database.tables clientActor id)
    (notFoundOrForbidden clientActor)
  let existing ←
    demand (findClientById database id) (notFoundOrForbidden clientActor)
  require (existing.details.updatedAt = input.expectedUpdatedAt) staleVersion
  let finalEmail := input.email.getD existing.contact.email
  let finalPhone := input.phone.getD existing.contact.phone
  require (finalEmail.isSome ∨ finalPhone.isSome) contactRequired
  let data := changedData platform input existing
  let duplicates :=
    if input.email.isSome ∨ input.phone.isSome then
      some <|
        findDuplicateMatchesForClient database.tables actor
          { normalizedEmail :=
              data.normalizedEmail.getD existing.contact.normalizedEmail
            normalizedPhone :=
              data.normalizedPhone.getD existing.contact.normalizedPhone }
          id
    else
      none
  if changedFieldNames data = [] then
    let currentDetail ←
      demand (findClientByIdForRead database id clientActor)
        (notFoundOrForbidden clientActor)
    .ok (⟨currentDetail, duplicates⟩, database)
  else
    let (updatedDetail, written) ←
      writeChanges context clientActor id input.expectedUpdatedAt data
        finalEmail.isSome finalPhone.isSome database
    .ok (⟨updatedDetail, duplicates⟩, written)

end Heritage.Clients
