import Heritage.Proposals.Service

/-!
# Responses to proposals

The acceptances of `features/proposals` and the two ways one is recorded: by
staff for a client who answered elsewhere, and by the client in the portal.
-/

namespace Heritage.Proposals

open Heritage.Store

structure ProposalAcceptance where
  id : Uuid
  proposalVersionId : Uuid
  responseType : ProposalResponseType
  respondedAt : Timestamp
  respondingClientProfileId : Option Uuid
  respondingSessionIdAtResponse : Option String
  recordedByStaffUserId : Option Uuid
  responseMethod : Option String
  evidenceReference : Option String
  createdAt : Timestamp
  deriving DecidableEq, Repr

/-- The tables of the proposals with the responses and the portal users who
give them. -/
structure PortalTables extends Tables where
  acceptances : List ProposalAcceptance
  clientProfiles : List ClientProfile
  deriving DecidableEq, Repr

/-- No row in any table. -/
def PortalTables.empty : PortalTables where
  toTables := Tables.empty
  acceptances := []
  clientProfiles := []

/-- The client's profile and session stand in the row, and nothing of the
staff's. -/
def ProposalAcceptance.isPortal (row : ProposalAcceptance) : Bool :=
  row.respondingClientProfileId.isSome &&
    row.respondingSessionIdAtResponse.isSome &&
    row.recordedByStaffUserId.isNone && row.responseMethod.isNone &&
    row.evidenceReference.isNone

/-- The recording staff member, the method and the evidence stand in the row,
and nothing of the portal's. -/
def ProposalAcceptance.isExternal (row : ProposalAcceptance) : Bool :=
  row.recordedByStaffUserId.isSome && row.responseMethod.isSome &&
    row.evidenceReference.isSome && row.respondingClientProfileId.isNone &&
    row.respondingSessionIdAtResponse.isNone

/-- Inserts a response under `proposal_acceptance_response_path`, the primary
key and the unique version. -/
def insertAcceptance (acceptances : List ProposalAcceptance)
    (row : ProposalAcceptance) :
    Except TxError (List ProposalAcceptance) := do
  require (row.isPortal ∨ row.isExternal)
    (.checkViolation "proposal_acceptance_response_path")
  require (findBy ProposalAcceptance.id row.id acceptances).isNone
    (.uniqueViolation "ProposalAcceptance" ["id"])
  require
    (findBy ProposalAcceptance.proposalVersionId row.proposalVersionId
      acceptances).isNone
    (.uniqueViolation "ProposalAcceptance" ["proposalVersionId"])
  .ok (acceptances ++ [row])

def findProposalAcceptanceForVersion (tables : PortalTables)
    (proposalVersionId : Uuid) : Option ProposalAcceptance :=
  findBy ProposalAcceptance.proposalVersionId proposalVersionId
    tables.acceptances

structure ClientProposalVersionOwnership where
  proposalVersionId : Uuid
  proposalId : Uuid
  clientId : Uuid
  supersededAt : Option Timestamp
  deriving DecidableEq, Repr

def findProposalVersionOwnershipContext (tables : Tables)
    (proposalVersionId : Uuid) : Option ClientProposalVersionOwnership := do
  let row ← findBy ProposalVersion.id proposalVersionId tables.versions
  let proposal ← findBy Proposal.id row.proposalId tables.proposals
  some
    { proposalVersionId := row.id
      proposalId := row.proposalId
      clientId := proposal.clientId
      supersededAt := row.supersededAt }

structure ClientProfileIdentity where
  clientProfileId : Uuid
  clientId : Uuid
  deriving DecidableEq, Repr

def findClientProfileIdentityForUser (clientProfiles : List ClientProfile)
    (userId : Uuid) : Option ClientProfileIdentity :=
  (findBy ClientProfile.userId userId clientProfiles).map fun profile =>
    ⟨profile.id, profile.clientId⟩

/-- The id of the client that `findOwnedClientForUser` returns. -/
def findOwnedClientForUser (clientProfiles : List ClientProfile)
    (userId : Uuid) : Option Uuid :=
  (findBy ClientProfile.userId userId clientProfiles).map
    ClientProfile.clientId

structure CreateExternalProposalAcceptanceInput where
  proposalVersionId : Uuid
  responseType : ProposalResponseType
  respondedAt : Timestamp
  recordedByStaffUserId : Uuid
  responseMethod : String
  evidenceReference : String

def createExternalProposalAcceptance (tables : PortalTables)
    (context : RequestContext)
    (input : CreateExternalProposalAcceptanceInput) :
    Except TxError (ProposalAcceptance × PortalTables) := do
  let row : ProposalAcceptance :=
    { id := context.randomUuid 0
      proposalVersionId := input.proposalVersionId
      responseType := input.responseType
      respondedAt := input.respondedAt
      respondingClientProfileId := none
      respondingSessionIdAtResponse := none
      recordedByStaffUserId := some input.recordedByStaffUserId
      responseMethod := some input.responseMethod
      evidenceReference := some input.evidenceReference
      createdAt := context.now }
  let acceptances ← insertAcceptance tables.acceptances row
  .ok (row, { tables with acceptances := acceptances })

structure CreatePortalProposalAcceptanceInput where
  proposalVersionId : Uuid
  responseType : ProposalResponseType
  respondedAt : Timestamp
  respondingClientProfileId : Uuid
  respondingSessionIdAtResponse : String

def createPortalProposalAcceptance (tables : PortalTables)
    (context : RequestContext)
    (input : CreatePortalProposalAcceptanceInput) :
    Except TxError (ProposalAcceptance × PortalTables) := do
  let row : ProposalAcceptance :=
    { id := context.randomUuid 0
      proposalVersionId := input.proposalVersionId
      responseType := input.responseType
      respondedAt := input.respondedAt
      respondingClientProfileId := some input.respondingClientProfileId
      respondingSessionIdAtResponse :=
        some input.respondingSessionIdAtResponse
      recordedByStaffUserId := none
      responseMethod := none
      evidenceReference := none
      createdAt := context.now }
  let acceptances ← insertAcceptance tables.acceptances row
  .ok (row, { tables with acceptances := acceptances })

/-- The entry about a recorded response. -/
def auditResponse (tables : PortalTables) (actorId versionId : Uuid)
    (acceptance : ProposalAcceptance) : PortalTables :=
  { tables with
    toTables :=
      insertAuditLog tables.toTables
        { actorId := actorId
          action := "PROPOSAL_RESPONSE_RECORDED"
          entityType := "ProposalVersion"
          entityId := versionId
          afterState :=
            .proposalResponseRecorded acceptance.id acceptance.responseType
              acceptance.respondedAt } }

def proposalVersionNotCurrentMessage : String :=
  "A response can only be recorded for the current client-visible version " ++
    "of this proposal."

def proposalResponseAlreadyRecordedMessage : String :=
  "A response has already been recorded for this proposal version."

def proposalResponseValidationMessage : String :=
  "A valid response type and the final-response acknowledgement are both " ++
    "required."

def clientPortalRoleMessage : String :=
  "This role is not permitted to access client portal proposals."

def assertProposalViewerActor (actor : AuthenticatedUser) :
    Except TxError ProposalActor :=
  match actor.role with
  | .adminManager => .ok ⟨actor.id, .adminManager⟩
  | .travelConsultant => .ok ⟨actor.id, .travelConsultant⟩
  | _ =>
      .error <|
        proposalError .roleNotPermitted
          "This role is not permitted to view proposals."

def assertClientPortalActor (actor : AuthenticatedUser) :
    Except TxError Unit :=
  require (actor.role = .client)
    (proposalError .roleNotPermitted clientPortalRoleMessage)

def proposalVersionNotFoundOrForbidden (actor : ProposalActor) : TxError :=
  match actor.role with
  | .adminManager =>
      proposalError .proposalVersionNotFound "Proposal version not found."
  | .travelConsultant =>
      proposalError .proposalVersionForbidden proposalVersionForbiddenMessage

structure RecordProposalResponseInput where
  responseType : ProposalResponseType
  respondedAt : Timestamp
  responseMethod : NonBlank
  evidenceReference : NonBlank
  deriving DecidableEq

def recordProposalResponseChecks (actor : AuthenticatedUser)
    (versionId : Uuid) (tables : PortalTables) :
    Except TxError ProposalActor := do
  let proposalActor ← assertProposalViewerActor actor
  let preContext ←
    demand (findProposalVersionContext tables.toTables versionId)
      (proposalVersionNotFoundOrForbidden proposalActor)
  require
    (canAccessClient tables.staffAssignments tables.clientProfiles actor
      preContext.clientId)
    (proposalError .proposalVersionForbidden proposalVersionForbiddenMessage)
  .ok proposalActor

def recordProposalResponseTransaction (context : RequestContext)
    (proposalActor : ProposalActor) (versionId : Uuid)
    (input : RecordProposalResponseInput) (tables : PortalTables) :
    Except TxError (ProposalAcceptance × PortalTables) := do
  let target ←
    demand (findProposalVersionForActor tables.toTables proposalActor versionId)
      (proposalVersionNotFoundOrForbidden proposalActor)
  (if proposalActor.role = .travelConsultant then
    assertProposalAuthorAccess tables.toTables proposalActor.id
      target.clientId .proposalVersionForbidden
      proposalVersionForbiddenMessage
  else
    .ok ())
  require (findProposalAcceptanceForVersion tables versionId).isNone
    (proposalError .proposalResponseAlreadyRecorded
      proposalResponseAlreadyRecordedMessage)
  let current :=
    findCurrentClientVisibleVersion tables.toTables target.proposalId
  require (current.map ProposalVersion.id = some target.id)
    (proposalError .proposalVersionNotCurrent
      proposalVersionNotCurrentMessage)
  let (acceptance, written) ←
    createExternalProposalAcceptance tables context
      { proposalVersionId := target.id
        responseType := input.responseType
        respondedAt := input.respondedAt
        recordedByStaffUserId := proposalActor.id
        responseMethod := input.responseMethod.value
        evidenceReference := input.evidenceReference.value }
  .ok (acceptance, auditResponse written proposalActor.id target.id acceptance)

structure SubmitClientProposalResponseInput where
  sessionId : String
  proposalVersionId : Uuid
  responseType : ProposalResponseType
  acknowledged : Bool
  deriving DecidableEq

def responseTypeValues : List ProposalResponseType :=
  [.accept, .decline, .requestChanges]

/-- The checks before the transaction, with the id of the client that the
actor owns. -/
def submitClientProposalResponseChecks (actor : AuthenticatedUser)
    (input : SubmitClientProposalResponseInput) (tables : PortalTables) :
    Except TxError Uuid := do
  assertClientPortalActor actor
  require (input.sessionId ≠ "")
    (proposalError .clientForbidden clientForbiddenMessage)
  require (input.acknowledged ∧ input.responseType ∈ responseTypeValues)
    (proposalError .validationError proposalResponseValidationMessage)
  let ownedClientId ←
    demand (findOwnedClientForUser tables.clientProfiles actor.id)
      (proposalError .clientForbidden clientForbiddenMessage)
  let preIdentity ←
    demand (findClientProfileIdentityForUser tables.clientProfiles actor.id)
      (proposalError .clientForbidden clientForbiddenMessage)
  require (preIdentity.clientId = ownedClientId)
    (proposalError .clientForbidden clientForbiddenMessage)
  require
    (canAccessClient tables.staffAssignments tables.clientProfiles actor
      ownedClientId)
    (proposalError .clientForbidden clientForbiddenMessage)
  .ok ownedClientId

def submitClientProposalResponseTransaction (context : RequestContext)
    (actor : AuthenticatedUser) (ownedClientId : Uuid)
    (input : SubmitClientProposalResponseInput) (tables : PortalTables) :
    Except TxError (ProposalResponseType × PortalTables) := do
  let txIdentity ←
    demand (findClientProfileIdentityForUser tables.clientProfiles actor.id)
      (proposalError .clientForbidden clientForbiddenMessage)
  require (txIdentity.clientId = ownedClientId)
    (proposalError .clientForbidden clientForbiddenMessage)
  let target ←
    demand
      (findProposalVersionOwnershipContext tables.toTables
        input.proposalVersionId)
      (proposalError .clientForbidden clientForbiddenMessage)
  require (target.clientId = ownedClientId)
    (proposalError .clientForbidden clientForbiddenMessage)
  require
    (findProposalAcceptanceForVersion tables input.proposalVersionId).isNone
    (proposalError .proposalResponseAlreadyRecorded
      proposalResponseAlreadyRecordedMessage)
  let current :=
    findCurrentClientVisibleVersion tables.toTables target.proposalId
  require (current.map ProposalVersion.id = some input.proposalVersionId)
    (if target.supersededAt.isSome then
      proposalError .proposalVersionSuperseded
        proposalVersionSupersededMessage
    else
      proposalError .proposalVersionNotCurrent
        proposalVersionNotCurrentMessage)
  let (acceptance, written) ←
    createPortalProposalAcceptance tables context
      { proposalVersionId := input.proposalVersionId
        responseType := input.responseType
        respondedAt := context.now
        respondingClientProfileId := txIdentity.clientProfileId
        respondingSessionIdAtResponse := input.sessionId }
  .ok
    (acceptance.responseType,
      auditResponse written actor.id input.proposalVersionId acceptance)

/-- The `catch` of both: a response that lost the race for its version is
answered as one already recorded. -/
def caughtResponse (failure : TxError) : TxError :=
  if failure =
      .uniqueViolation "ProposalAcceptance" ["proposalVersionId"] then
    proposalError .proposalResponseAlreadyRecorded
      proposalResponseAlreadyRecordedMessage
  else
    otherKnownConflict failure

/-- The client a version was written for. -/
def versionClient (tables : Tables) (versionId : Uuid) : Option Uuid :=
  (findProposalVersionContext tables versionId).map
    ProposalVersionContext.clientId

/-- The version is the one its proposal's client currently sees. -/
def IsCurrentVersion (tables : Tables) (versionId : Uuid) : Prop :=
  ∃ version current,
    findBy ProposalVersion.id versionId tables.versions = some version ∧
      findCurrentClientVisibleVersion tables version.proposalId =
        some current ∧
      current.id = versionId

/-- The row names who answered: a staff member with method and evidence, or
the profile of the proposal's own client with its session. -/
def Attributed (tables : PortalTables) (row : ProposalAcceptance) : Prop :=
  row.isExternal ∨
    row.isPortal ∧
      ∃ profile ∈ tables.clientProfiles,
        row.respondingClientProfileId = some profile.id ∧
          versionClient tables.toTables row.proposalVersionId =
            some profile.clientId

/-- One committed response. -/
structure Response (tables : PortalTables) (row : ProposalAcceptance)
    (after : PortalTables) : Prop where
  freshId : findBy ProposalAcceptance.id row.id tables.acceptances = none
  unanswered :
    findProposalAcceptanceForVersion tables row.proposalVersionId = none
  current : IsCurrentVersion tables.toTables row.proposalVersionId
  attributed : Attributed tables row
  written :
    ∃ logs,
      after =
        { tables with
          acceptances := tables.acceptances ++ [row]
          auditLogs := logs }

section Writes

variable {context : RequestContext} {tables after : PortalTables}

theorem insertAcceptance_eq_ok
    {acceptances inserted : List ProposalAcceptance}
    {row : ProposalAcceptance} :
    insertAcceptance acceptances row = .ok inserted ↔
      (row.isPortal ∨ row.isExternal) ∧
        findBy ProposalAcceptance.id row.id acceptances = none ∧
        findBy ProposalAcceptance.proposalVersionId row.proposalVersionId
            acceptances =
          none ∧
        acceptances ++ [row] = inserted := by
  simp only [insertAcceptance, bind_eq_ok, require_eq_ok,
    Option.isNone_iff_eq_none, Except.ok.injEq, exists_const]

/-- A response recorded by staff that succeeds was the first of its version,
while that was current. -/
theorem recordProposalResponseTransaction_ok {proposalActor : ProposalActor}
    {versionId : Uuid} {input : RecordProposalResponseInput}
    {row : ProposalAcceptance}
    (succeeds :
      recordProposalResponseTransaction context proposalActor versionId input
          tables =
        .ok (row, after)) :
    row.proposalVersionId = versionId ∧ Response tables row after := by
  simp only [recordProposalResponseTransaction, bind_eq_ok, demand_eq_ok,
    findProposalVersionForActor, Option.bind_eq_bind,
    Option.bind_eq_some_iff, Option.some.injEq, require_eq_ok,
    Option.isNone_iff_eq_none, createExternalProposalAcceptance,
    insertAcceptance_eq_ok] at succeeds
  obtain
    ⟨target, ⟨version, foundVersion, proposal, -, rfl⟩, -, -, -, unanswered,
      -, isCurrent, ⟨acceptance, written⟩,
      ⟨acceptances, ⟨-, freshId, -, rfl⟩, created⟩, answered⟩ := succeeds
  have sameKey : version.id = versionId := key_of_findBy foundVersion
  obtain ⟨current, foundCurrent, currentId⟩ :=
    Option.map_eq_some_iff.mp isCurrent
  simp only [Except.ok.injEq, Prod.mk.injEq] at created answered
  obtain ⟨rfl, rfl⟩ := created
  obtain ⟨rfl, rfl⟩ := answered
  refine ⟨sameKey, freshId, ?_, ?_, Or.inl rfl, _, rfl⟩
  · rw [sameKey]
    exact unanswered
  · rw [sameKey]
    exact
      ⟨version, current, foundVersion, foundCurrent, currentId.trans sameKey⟩

/-- A response given in the portal that succeeds was the first of its version,
while that was current, and its profile is that of the proposal's client. -/
theorem submitClientProposalResponseTransaction_ok
    {actor : AuthenticatedUser} {ownedClientId : Uuid}
    {input : SubmitClientProposalResponseInput}
    {responseType : ProposalResponseType}
    (succeeds :
      submitClientProposalResponseTransaction context actor ownedClientId
          input tables =
        .ok (responseType, after)) :
    ∃ row,
      row.proposalVersionId = input.proposalVersionId ∧
        Response tables row after := by
  simp only [submitClientProposalResponseTransaction, bind_eq_ok,
    demand_eq_ok, findProposalVersionOwnershipContext, Option.bind_eq_bind,
    Option.bind_eq_some_iff, Option.some.injEq, require_eq_ok,
    Option.isNone_iff_eq_none, findClientProfileIdentityForUser,
    Option.map_eq_some_iff, createPortalProposalAcceptance,
    insertAcceptance_eq_ok] at succeeds
  obtain
    ⟨identity, ⟨profile, foundProfile, rfl⟩, -, ownedClient, target,
      ⟨version, foundVersion, proposal, foundProposal, rfl⟩, -, ownProposal,
      -, unanswered, -, ⟨current, foundCurrent, currentId⟩,
      ⟨acceptance, written⟩, ⟨acceptances, ⟨-, freshId, -, rfl⟩, created⟩,
      answered⟩ := succeeds
  simp only [Except.ok.injEq, Prod.mk.injEq] at created answered
  obtain ⟨rfl, rfl⟩ := created
  obtain ⟨-, rfl⟩ := answered
  have sameClient : proposal.clientId = profile.clientId :=
    ownProposal.trans ownedClient.symm
  have ownClient :
      versionClient tables.toTables input.proposalVersionId =
        some profile.clientId := by
    simp only [versionClient, findProposalVersionContext, Option.bind_eq_bind,
      foundVersion, foundProposal, Option.bind_some, Option.map_some,
      sameClient]
  exact
    ⟨_, rfl, freshId, unanswered,
      ⟨version, current, foundVersion, foundCurrent, currentId⟩,
      Or.inr ⟨rfl, profile, mem_of_findBy foundProfile, rfl, ownClient⟩, _,
      rfl⟩

end Writes

end Heritage.Proposals
