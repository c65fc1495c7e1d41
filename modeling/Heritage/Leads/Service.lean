import Heritage.Leads.Repository

/-!
# Lead operations

`service.ts` of leads.  `updateLead` reads and validates outside the
transaction that writes, so it is two functions: `readLeadForUpdate` prepares
a write from the lead it saw, and `writeLeadUpdate` performs it later.
-/

namespace Heritage.Leads

open Heritage.Store
open Repository

def assertLeadActor (actor : AuthenticatedUser) :
    Except TxError LeadActor :=
  match actor.role with
  | .adminManager => .ok ⟨actor.id, .adminManager⟩
  | .travelConsultant => .ok ⟨actor.id, .travelConsultant⟩
  | _ =>
      .error <|
        leadError .roleNotPermitted
          "This role is not permitted to manage leads."

def notFoundOrForbidden (leadActor : LeadActor) : TxError :=
  match leadActor.role with
  | .adminManager => leadError .leadNotFound "Lead not found."
  | .travelConsultant =>
      leadError .leadForbidden "Lead not found or not accessible."

/-- The recheck at the start of a transaction: a Travel Consultant must hold
the active assignment of the lead. -/
def holdsLead (tables : Tables) (leadActor : LeadActor) (id : Uuid) : Bool :=
  match leadActor.role with
  | .adminManager => true
  | .travelConsultant =>
      (findActiveAssignmentForLead tables.staffAssignments id).any
        fun active => active.assignedStaffId = leadActor.id

/-- What an operation does to the tables, and what its caller gets. -/
abbrev Effect (α : Type) := Tables → Except TxError α × Tables

/-- A transaction whose unique violations are reported as `conflict`. -/
def serve {α : Type} (conflict : TxError)
    (body : Tables → Except TxError (α × Tables)) : Effect α :=
  fun tables =>
    match transact body tables with
    | (.ok value, committed) => (.ok value, committed)
    | (.error failure, stored) =>
        (.error (if isKnownConflict failure then conflict else failure),
          stored)

inductive MatchType where
  | lead
  | client
  deriving DecidableEq, Repr

structure AuthorizedDuplicateMatch where
  type : MatchType
  id : Uuid
  fullName : String
  status : Option LeadStatus
  matchedOn : List MatchedChannel
  deriving DecidableEq, Repr

structure DuplicateMatchResult where
  duplicateMatches : List AuthorizedDuplicateMatch
  restrictedMatchDetected : Bool
  deriving DecidableEq, Repr

def findDuplicateMatches (tables : Tables) (actor : AuthenticatedUser)
    (params : DuplicateParams) (excludeLeadId : Option Uuid) :
    DuplicateMatchResult :=
  let leadMatches := findDuplicateLeadMatches tables params excludeLeadId
  let clientMatches := findDuplicateClientMatches tables params
  let seesLead := fun (found : LeadDuplicateMatchRow) =>
    canAccessLead tables.staffAssignments actor found.id
  let seesClient := fun (found : DuplicateMatchRow) =>
    canAccessClient tables.staffAssignments tables.clientProfiles actor
      found.id
  { duplicateMatches :=
      ((leadMatches.filter seesLead).map fun found =>
        { type := .lead
          id := found.id
          fullName := found.fullName
          status := some found.status
          matchedOn := found.matchedOn }) ++
      ((clientMatches.filter seesClient).map fun found =>
        { type := .client
          id := found.id
          fullName := found.fullName
          status := none
          matchedOn := found.matchedOn })
    restrictedMatchDetected :=
      ¬ (leadMatches.all seesLead ∧ clientMatches.all seesClient) }

/-- `contactable` is the refinement of `createLeadSchema`. -/
structure CreateLeadRequest where
  fullName : String
  source : String
  email : Option NonBlank
  phone : Option NonBlank
  notes : Option String
  contactable : email.isSome ∨ phone.isSome

structure CreateLeadResult where
  lead : Lead
  duplicates : DuplicateMatchResult

def createLeadTransaction (platform : StringPlatform)
    (context : RequestContext) (leadActor : LeadActor)
    (input : CreateLeadRequest) (tables : Tables) :
    Except TxError (Lead × Tables) := do
  let (created, written) ←
    createLeadWithInitialHistory tables
      { id := context.randomUuid 0
        fullName := input.fullName
        email := input.email
        phone := input.phone
        normalizedEmail :=
          input.email.map fun email => normalizeEmail platform email.value
        normalizedPhone :=
          input.phone.map fun phone => normalizePhone phone.value
        source := input.source
        notes := input.notes
        changedByUserId := leadActor.id
        createdAt := context.now }
  let audited :=
    insertAuditLog written
      { actorId := leadActor.id
        action := .leadCreated
        entityType := .lead
        entityId := created.id
        beforeState := none
        afterState :=
          some <|
            .leadCreated created.id created.status.text created.source
              created.email.isSome created.phone.isSome }
  match leadActor.role with
  | .adminManager => .ok (created, audited)
  | .travelConsultant => do
      let (assignment, assigned) ←
        createAssignment audited
          { id := context.randomUuid 1
            assignedStaffId := leadActor.id
            role := .travelConsultant
            assignedByUserId := leadActor.id
            leadId := some created.id
            clientId := none
            bookingId := none
            endedAt := none }
      .ok
        (created,
          insertAuditLog assigned
            { actorId := leadActor.id
              action := .leadAssigned
              entityType := .lead
              entityId := created.id
              beforeState := none
              afterState :=
                some (.assignment (sanitizeAssignmentSnapshot assignment)) })

def createLead (platform : StringPlatform) (context : RequestContext)
    (actor : AuthenticatedUser) (input : CreateLeadRequest) :
    Effect CreateLeadResult :=
  fun tables =>
    match assertLeadActor actor with
    | .error failure => (.error failure, tables)
    | .ok leadActor =>
        let duplicates :=
          findDuplicateMatches tables actor
            { normalizedEmail :=
                input.email.map fun email =>
                  normalizeEmail platform email.value
              normalizedPhone :=
                input.phone.map fun phone => normalizePhone phone.value }
            none
        match
          transact
            (createLeadTransaction platform context leadActor input)
            tables with
        | (.ok lead, committed) => (.ok ⟨lead, duplicates⟩, committed)
        | (.error failure, stored) => (.error failure, stored)

/-- A patch: a field that is `none` is absent from the request, and a contact
field or the notes can be cleared. -/
structure UpdateLeadRequest where
  fullName : Option String
  source : Option String
  email : Option (Option NonBlank)
  phone : Option (Option NonBlank)
  notes : Option (Option String)

structure UpdateLeadResult where
  lead : Lead
  duplicates : Option DuplicateMatchResult

/-- What the write transaction of one `updateLead` request closes over. -/
structure PreparedUpdate where
  leadActor : LeadActor
  id : Uuid
  data : UpdateLeadFieldsInput
  changedFields : List String
  hasEmail : Bool
  hasPhone : Bool
  duplicates : Option DuplicateMatchResult

inductive UpdateReading where
  | unchanged (result : UpdateLeadResult)
  | write (prepared : PreparedUpdate)

/-- The value a patch writes: the one it supplies, when it is another. -/
def changedTo {τ : Type} [DecidableEq τ] (supplied : Option τ)
    (existing : τ) : Option τ :=
  supplied.filter fun value => value ≠ existing

/-- The names of the fields that are written. -/
def changedFieldNames (data : UpdateLeadFieldsInput) : List String :=
  (if data.fullName.isSome then ["fullName"] else []) ++
    (if data.source.isSome then ["source"] else []) ++
    (if data.notes.isSome then ["notes"] else []) ++
    (if data.email.isSome then ["email"] else []) ++
    (if data.phone.isSome then ["phone"] else [])

/-- The fields of a patch that differ from the lead that was read. -/
def changedData (platform : StringPlatform) (input : UpdateLeadRequest)
    (existing : Lead) : UpdateLeadFieldsInput :=
  let email := changedTo input.email existing.email
  let phone := changedTo input.phone existing.phone
  { fullName := changedTo input.fullName existing.fullName
    email := email
    phone := phone
    normalizedEmail :=
      email.map fun final =>
        final.map fun text => normalizeEmail platform text.value
    normalizedPhone :=
      phone.map fun final => final.map fun text => normalizePhone text.value
    source := changedTo input.source existing.source
    notes := changedTo input.notes existing.notes }

/-- The read-and-validate phase of `updateLead`. -/
def readLeadForUpdate (platform : StringPlatform)
    (actor : AuthenticatedUser) (id : Uuid) (input : UpdateLeadRequest)
    (tables : Tables) : Except TxError UpdateReading := do
  let leadActor ← assertLeadActor actor
  require (canAccessLead tables.staffAssignments actor id)
    (notFoundOrForbidden leadActor)
  let existing ←
    demand (findLeadById tables id) (notFoundOrForbidden leadActor)
  require (existing.status ≠ .convertedToClient)
    (leadError .leadLocked
      ("This lead has been converted to a client and can no longer be " ++
        "edited."))
  let finalEmail := input.email.getD existing.email
  let finalPhone := input.phone.getD existing.phone
  require (finalEmail.isSome ∨ finalPhone.isSome)
    (leadError .validationError
      "A lead must retain at least one of email or phone.")
  let data := changedData platform input existing
  let duplicates :=
    if input.email.isSome ∨ input.phone.isSome then
      some <|
        findDuplicateMatches tables actor
          { normalizedEmail :=
              data.normalizedEmail.getD existing.normalizedEmail
            normalizedPhone :=
              data.normalizedPhone.getD existing.normalizedPhone }
          (some id)
    else
      none
  if changedFieldNames data = [] then
    .ok (.unchanged ⟨existing, duplicates⟩)
  else
    .ok <|
      .write
        { leadActor := leadActor
          id := id
          data := data
          changedFields := changedFieldNames data
          hasEmail := finalEmail.isSome
          hasPhone := finalPhone.isSome
          duplicates := duplicates }

def updateConflict : TxError :=
  leadError .leadConflict
    ("This lead could not be updated because of a conflicting update. " ++
      "Please try again.")

def writeLeadUpdateTransaction (context : RequestContext)
    (prepared : PreparedUpdate) (tables : Tables) :
    Except TxError (UpdateLeadResult × Tables) := do
  require (holdsLead tables prepared.leadActor prepared.id)
    (notFoundOrForbidden prepared.leadActor)
  let (result, written) ←
    updateLeadFields tables prepared.id prepared.data context.now
  .ok
    (⟨result, prepared.duplicates⟩,
      insertAuditLog written
        { actorId := prepared.leadActor.id
          action := .leadUpdated
          entityType := .lead
          entityId := prepared.id
          beforeState := none
          afterState :=
            some <|
              .leadUpdate prepared.changedFields prepared.hasEmail
                prepared.hasPhone })

/-- The write phase of `updateLead`. -/
def writeLeadUpdate (context : RequestContext) (prepared : PreparedUpdate) :
    Effect UpdateLeadResult :=
  serve updateConflict (writeLeadUpdateTransaction context prepared)

structure UpdateLeadStatusRequest where
  expectedStatus : LeadStatus
  newStatus : LeadStatus
  reason : Option String

def updateLeadStatusTransaction (context : RequestContext)
    (leadActor : LeadActor) (id : Uuid) (input : UpdateLeadStatusRequest)
    (tables : Tables) : Except TxError (Lead × Tables) := do
  require (holdsLead tables leadActor id) (notFoundOrForbidden leadActor)
  let found ←
    demand (findLeadById tables id) (notFoundOrForbidden leadActor)
  if found.status = input.newStatus then
    .ok (found, tables)
  else
    require (found.status = input.expectedStatus)
      (leadError .leadConflict
        ("This lead has changed since it was last loaded. Refresh and try " ++
          "again."))
    let outcome := getTransitionOutcome found.status input.newStatus
    require (outcome ≠ .deferredToConversionEndpoint)
      (leadError .conversionEndpointRequired
        ("Converting a lead to a client requires the dedicated conversion " ++
          "workflow, not the generic status endpoint."))
    require (outcome ≠ .rejected)
      (leadError .invalidStatusTransition
        ("Cannot transition a lead from " ++ found.status.text ++ " to " ++
          input.newStatus.text ++ "."))
    require
      (¬ (isReasonRequired found.status input.newStatus ∧
        input.reason = none))
      (leadError .reasonRequired "A reason is required for this transition.")
    let (updated, written) ←
      updateLeadStatusWithHistory tables
        { id := id
          previousStatus := found.status
          newStatus := input.newStatus
          changedByUserId := leadActor.id }
        context.now
    .ok
      (updated,
        insertAuditLog written
          { actorId := leadActor.id
            action := .leadStatusChanged
            entityType := .lead
            entityId := id
            beforeState := some (.leadStatus found.status.text none)
            afterState :=
              some (.leadStatus updated.status.text input.reason) })

/-- An operation on one lead: the actor is checked before the transaction
opens. -/
def withLead {α : Type} (actor : AuthenticatedUser) (id : Uuid)
    (operation : LeadActor → Effect α) : Effect α :=
  fun tables =>
    match assertLeadActor actor with
    | .error failure => (.error failure, tables)
    | .ok leadActor =>
        if canAccessLead tables.staffAssignments actor id then
          operation leadActor tables
        else
          (.error (notFoundOrForbidden leadActor), tables)

def updateLeadStatus (context : RequestContext) (actor : AuthenticatedUser)
    (id : Uuid) (input : UpdateLeadStatusRequest) : Effect Lead :=
  withLead actor id fun leadActor =>
    serve updateConflict
      (updateLeadStatusTransaction context leadActor id input)

structure ConvertLeadRequest where
  clientId : Option Uuid

structure ConvertLeadResult where
  lead : Lead
  client : ClientSummary
  clientCreated : Bool

def conversionConflict : TxError :=
  leadError .leadConflict
    ("This lead could not be converted because of a conflicting update. " ++
      "Please try again.")

def clientLinkNotAvailable : TxError :=
  leadError .clientLinkNotAvailable
    "The specified client is not available to link to this lead."

def parseConversionAuditState (value : Option AuditSnapshot) :
    Option (Uuid × Bool) :=
  match value with
  | some (.leadConversion status clientId clientCreated) =>
      if status = LeadStatus.convertedToClient.text then
        some (clientId, clientCreated)
      else
        none
  | _ => none

/-- The answer for a lead that is already converted. -/
def replayConversion (tables : Tables) (id : Uuid) (found : Lead)
    (input : ConvertLeadRequest) : Except TxError ConvertLeadResult := do
  let clientId ← demand found.clientId conversionConflict
  require (∀ requested ∈ input.clientId, requested = clientId)
    conversionConflict
  let (auditedClientId, clientCreated) ←
    demand
      (parseConversionAuditState
        ((findLeadConversionAudit tables id).getD none))
      conversionConflict
  require (auditedClientId = clientId) conversionConflict
  let client ←
    demand (findClientSummaryById tables clientId) conversionConflict
  .ok ⟨found, client, clientCreated⟩

/-- The client a conversion creates or links. -/
def chooseClient (context : RequestContext) (found : Lead)
    (input : ConvertLeadRequest) (tables : Tables) :
    Except TxError ((ClientSummary × Bool) × Tables) := do
  let clientMatches :=
    findDuplicateClientMatches tables
      ⟨found.normalizedEmail, found.normalizedPhone⟩
  match input.clientId with
  | none => do
      require (¬ 0 < clientMatches.length)
        (leadError .clientMatchRequiresLink
          ("A matching client already exists. Select an existing client to " ++
            "link instead of creating a new one."))
      let (client, written) ←
        createClientFromLead tables
          { id := context.randomUuid 0
            fullName := found.fullName
            email := found.email
            phone := found.phone
            normalizedEmail := found.normalizedEmail
            normalizedPhone := found.normalizedPhone }
      .ok ((client, true), written)
  | some clientId => do
      let linked ←
        demand (clientMatches.find? fun row => row.id = clientId)
          clientLinkNotAvailable
      .ok ((⟨linked.id, linked.fullName⟩, false), tables)

/-- A created client inherits the lead's active assignment. -/
def inheritAssignment (context : RequestContext) (leadActor : LeadActor)
    (leadActiveAssignment : Option StaffAssignment)
    (client : ClientSummary) (clientCreated : Bool) (tables : Tables) :
    Except TxError Tables :=
  match clientCreated, leadActiveAssignment with
  | true, some active => do
      let (assignment, assigned) ←
        createAssignment tables
          { id := context.randomUuid 1
            assignedStaffId := active.assignedStaffId
            role := .travelConsultant
            assignedByUserId := leadActor.id
            leadId := none
            clientId := some client.id
            bookingId := none
            endedAt := none }
      .ok <|
        insertAuditLog assigned
          { actorId := leadActor.id
            action := .clientAssigned
            entityType := .client
            entityId := client.id
            beforeState := none
            afterState :=
              some (.assignment (sanitizeAssignmentSnapshot assignment)) }
  | _, _ => .ok tables

def convertLeadTransaction (context : RequestContext)
    (leadActor : LeadActor) (id : Uuid) (input : ConvertLeadRequest)
    (tables : Tables) : Except TxError (ConvertLeadResult × Tables) := do
  let found ←
    demand (findLeadById tables id) (notFoundOrForbidden leadActor)
  require (holdsLead tables leadActor id) (notFoundOrForbidden leadActor)
  require
    (leadActor.role = .travelConsultant →
      ∀ clientId ∈ input.clientId,
        (findActiveAssignmentForClient tables.staffAssignments clientId).any
          fun active => active.assignedStaffId = leadActor.id)
    clientLinkNotAvailable
  if found.status = .convertedToClient then
    let replay ← replayConversion tables id found input
    .ok (replay, tables)
  else
    require (found.status = .qualified)
      (leadError .leadConflict
        ("This lead is not eligible for conversion. Refresh and try " ++
          "again."))
    let ((client, clientCreated), withClient) ←
      chooseClient context found input tables
    let inherited ←
      inheritAssignment context leadActor
        (findActiveAssignmentForLead tables.staffAssignments id) client
        clientCreated withClient
    let (updatedLead, written) ←
      convertLeadWithHistory inherited id client.id leadActor.id context.now
    let clientAudited :=
      if clientCreated then
        insertAuditLog written
          { actorId := leadActor.id
            action := .clientCreated
            entityType := .client
            entityId := client.id
            beforeState := none
            afterState :=
              some (.clientCreated id found.email.isSome found.phone.isSome) }
      else
        written
    .ok
      (⟨updatedLead, client, clientCreated⟩,
        insertAuditLog clientAudited
          { actorId := leadActor.id
            action := .leadConvertedToClient
            entityType := .lead
            entityId := id
            beforeState := none
            afterState :=
              some <|
                .leadConversion LeadStatus.convertedToClient.text client.id
                  clientCreated })

def convertLead (context : RequestContext) (actor : AuthenticatedUser)
    (id : Uuid) (input : ConvertLeadRequest) : Effect ConvertLeadResult :=
  withLead actor id fun leadActor tables =>
    if ∀ clientId ∈ input.clientId,
        canAccessClient tables.staffAssignments tables.clientProfiles actor
          clientId then
      serve conversionConflict
        (convertLeadTransaction context leadActor id input) tables
    else
      (.error clientLinkNotAvailable, tables)

structure AccessibleConversionCandidate where
  id : Uuid
  fullName : String
  matchedOn : List MatchedChannel
  deriving DecidableEq, Repr

structure ConversionOptions where
  accessibleMatches : List AccessibleConversionCandidate
  restrictedMatchDetected : Bool
  deriving DecidableEq, Repr

def getConversionOptions (tables : Tables) (actor : AuthenticatedUser)
    (id : Uuid) : Except TxError ConversionOptions := do
  let leadActor ← assertLeadActor actor
  require (canAccessLead tables.staffAssignments actor id)
    (notFoundOrForbidden leadActor)
  let found ←
    demand (findLeadById tables id) (notFoundOrForbidden leadActor)
  require (found.status = .qualified)
    (leadError .conversionNotEligible
      "This lead is not eligible for conversion. Refresh and try again.")
  let clientMatches :=
    findDuplicateClientMatches tables
      ⟨found.normalizedEmail, found.normalizedPhone⟩
  let seesClient := fun (row : DuplicateMatchRow) =>
    canAccessClient tables.staffAssignments tables.clientProfiles actor row.id
  .ok
    { accessibleMatches :=
        (clientMatches.filter seesClient).map fun row =>
          ⟨row.id, row.fullName, row.matchedOn⟩
      restrictedMatchDetected := ¬ clientMatches.all seesClient }

end Heritage.Leads
