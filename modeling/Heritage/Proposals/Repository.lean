import Heritage.Shared.Access
import Heritage.Store.Transaction

/-!
# Proposals and their versions

The rows of `features/proposals`, its errors, and the repository functions
that author, revise and publish versions.
-/

namespace Heritage.Proposals

open Heritage.Store

inductive ProposalErrorCode where
  | validationError
  | roleNotPermitted
  | clientForbidden
  | proposalForbidden
  | proposalVersionNotFound
  | proposalVersionForbidden
  | proposalVersionSuperseded
  | proposalVersionNotCurrent
  | proposalResponseAlreadyRecorded
  | proposalConflict
  deriving DecidableEq, Repr

structure ProposalError where
  code : ProposalErrorCode
  message : String
  deriving DecidableEq, Repr

inductive TxError where
  | proposal (error : ProposalError)
  | uniqueViolation (modelName : String) (fields : List String)
  | checkViolation (constraint : String)
  | recordNotFound (modelName : String)
  deriving DecidableEq, Repr

def proposalError (code : ProposalErrorCode) (message : String) : TxError :=
  .proposal ⟨code, message⟩

structure Proposal where
  id : Uuid
  clientId : Uuid
  createdAt : Timestamp
  updatedAt : Timestamp
  deriving DecidableEq, Repr

structure ProposalVersion where
  id : Uuid
  proposalId : Uuid
  versionNumber : Nat
  content : Option String
  clientVisibleAt : Option Timestamp
  supersededAt : Option Timestamp
  createdByUserId : Uuid
  createdAt : Timestamp
  updatedAt : Timestamp
  deriving DecidableEq, Repr

/-- The client sees the version and no later one replaced it. -/
def ProposalVersion.isCurrent (version : ProposalVersion) : Bool :=
  version.clientVisibleAt.isSome && version.supersededAt.isNone

inductive ProposalResponseType where
  | accept
  | decline
  | requestChanges
  deriving DecidableEq, Repr

inductive AuditSnapshot where
  | proposalCreated (clientId firstVersionId : Uuid)
      (firstVersionNumber : Nat)
  | proposalVersionCreated (proposalId : Uuid) (versionNumber : Nat)
  | proposalVersionPublished (proposalId : Uuid) (versionNumber : Nat)
      (previousCurrentVersionId : Option Uuid)
  | proposalResponseRecorded (acceptanceId : Uuid)
      (responseType : ProposalResponseType) (respondedAt : Timestamp)
  deriving DecidableEq, Repr

structure AuditLog where
  actorId : Uuid
  action : String
  entityType : String
  entityId : Uuid
  afterState : AuditSnapshot
  deriving DecidableEq, Repr

structure Tables where
  proposals : List Proposal
  versions : List ProposalVersion
  staffAssignments : List StaffAssignment
  auditLogs : List AuditLog
  deriving DecidableEq, Repr

/-- No row in any table. -/
def Tables.empty : Tables where
  proposals := []
  versions := []
  staffAssignments := []
  auditLogs := []

/-- The versions of a proposal. -/
def versionsOf (tables : Tables) (proposalId : Uuid) :
    List ProposalVersion :=
  tables.versions.filter fun version => version.proposalId = proposalId

/-- `proposal_version_content_nonblank`: a content is more than spaces. -/
def contentNonblank (content : Option String) : Bool :=
  content.all fun text => text.toList.any fun letter => letter ≠ ' '

/-- Inserts a version under the primary key, the unique version number and the
check of its content. -/
def insertVersion (versions : List ProposalVersion) (row : ProposalVersion) :
    Except TxError (List ProposalVersion) := do
  require (contentNonblank row.content)
    (.checkViolation "proposal_version_content_nonblank")
  require (findBy ProposalVersion.id row.id versions).isNone
    (.uniqueViolation "ProposalVersion" ["id"])
  require
    (∀ version ∈ versions,
      version.proposalId = row.proposalId →
        version.versionNumber ≠ row.versionNumber)
    (.uniqueViolation "ProposalVersion" ["proposalId", "versionNumber"])
  .ok (versions ++ [row])

inductive ProposalActorRole where
  | adminManager
  | travelConsultant
  deriving DecidableEq, Repr

structure ProposalActor where
  id : Uuid
  role : ProposalActorRole
  deriving DecidableEq, Repr

def proposalClientAssignmentFilter
    (staffAssignments : List StaffAssignment) (actor : ProposalActor)
    (clientId : Uuid) : Bool :=
  match actor.role with
  | .adminManager => true
  | .travelConsultant =>
      staffAssignments.any fun assignment =>
        assignment.clientId = some clientId ∧
          assignment.assignedStaffId = actor.id ∧
          assignment.endedAt = none

structure ProposalContext where
  id : Uuid
  clientId : Uuid
  deriving DecidableEq, Repr

def findProposalContext (tables : Tables) (proposalId : Uuid) :
    Option ProposalContext :=
  (findBy Proposal.id proposalId tables.proposals).map fun proposal =>
    ⟨proposal.id, proposal.clientId⟩

structure ProposalVersionContext where
  id : Uuid
  proposalId : Uuid
  clientId : Uuid
  deriving DecidableEq, Repr

def findProposalVersionContext (tables : Tables)
    (proposalVersionId : Uuid) : Option ProposalVersionContext := do
  let row ← findBy ProposalVersion.id proposalVersionId tables.versions
  let proposal ← findBy Proposal.id row.proposalId tables.proposals
  some ⟨row.id, row.proposalId, proposal.clientId⟩

structure ProposalVersionActorContext where
  id : Uuid
  proposalId : Uuid
  clientId : Uuid
  versionNumber : Nat
  clientVisibleAt : Option Timestamp
  supersededAt : Option Timestamp
  deriving DecidableEq, Repr

def findProposalVersionForActor (tables : Tables) (actor : ProposalActor)
    (proposalVersionId : Uuid) : Option ProposalVersionActorContext := do
  let row ← findBy ProposalVersion.id proposalVersionId tables.versions
  let proposal ←
    (findBy Proposal.id row.proposalId tables.proposals).filter
      fun proposal =>
        proposalClientAssignmentFilter tables.staffAssignments actor
          proposal.clientId
  some
    { id := row.id
      proposalId := row.proposalId
      clientId := proposal.clientId
      versionNumber := row.versionNumber
      clientVisibleAt := row.clientVisibleAt
      supersededAt := row.supersededAt }

def findCurrentClientVisibleVersion (tables : Tables) (proposalId : Uuid) :
    Option ProposalVersion :=
  tables.versions.find? fun version =>
    version.proposalId = proposalId ∧ version.clientVisibleAt.isSome ∧
      version.supersededAt = none

structure CreateProposalRow where
  id : Uuid
  clientId : Uuid
  content : String
  createdByUserId : Uuid

/-- The proposal and its first version, unpublished. -/
def createProposalWithFirstVersion (tables : Tables) (versionId : Uuid)
    (now : Timestamp) (input : CreateProposalRow) :
    Except TxError ((Proposal × ProposalVersion) × Tables) := do
  let proposal : Proposal := ⟨input.id, input.clientId, now, now⟩
  let version : ProposalVersion :=
    { id := versionId
      proposalId := input.id
      versionNumber := 1
      content := some input.content
      clientVisibleAt := none
      supersededAt := none
      createdByUserId := input.createdByUserId
      createdAt := now
      updatedAt := now }
  require (findBy Proposal.id proposal.id tables.proposals).isNone
    (.uniqueViolation "Proposal" ["id"])
  let versions ← insertVersion tables.versions version
  .ok
    ((proposal, version),
      { tables with
        proposals := tables.proposals ++ [proposal]
        versions := versions })

structure CreateProposalRevisionRow where
  proposalId : Uuid
  content : String
  createdByUserId : Uuid

/-- `MAX(versionNumber)` of a proposal. -/
def maxVersionNumber (tables : Tables) (proposalId : Uuid) : Option Nat :=
  ((versionsOf tables proposalId).map ProposalVersion.versionNumber).max?

def createProposalRevision (tables : Tables) (versionId : Uuid)
    (now : Timestamp) (input : CreateProposalRevisionRow) :
    Except TxError (ProposalVersion × Tables) := do
  let nextVersionNumber :=
    (maxVersionNumber tables input.proposalId).getD 0 + 1
  let version : ProposalVersion :=
    { id := versionId
      proposalId := input.proposalId
      versionNumber := nextVersionNumber
      content := some input.content
      clientVisibleAt := none
      supersededAt := none
      createdByUserId := input.createdByUserId
      createdAt := now
      updatedAt := now }
  let versions ← insertVersion tables.versions version
  .ok (version, { tables with versions := versions })

def withSupersededAt (supersededAt now : Timestamp)
    (version : ProposalVersion) : ProposalVersion :=
  { version with supersededAt := some supersededAt, updatedAt := now }

def withClientVisibleAt (clientVisibleAt now : Timestamp)
    (version : ProposalVersion) : ProposalVersion :=
  { version with clientVisibleAt := some clientVisibleAt, updatedAt := now }

/-- Updates one version under `proposal_version_current_client_visible_key`:
no other version of its proposal may be current beside it. -/
def updateVersion (tables : Tables) (id : Uuid)
    (change : ProposalVersion → ProposalVersion) :
    Except TxError (ProposalVersion × Tables) := do
  let version ←
    demand (findBy ProposalVersion.id id tables.versions)
      (.recordNotFound "ProposalVersion")
  require
    ((change version).isCurrent →
      ∀ other ∈ tables.versions,
        other.proposalId = version.proposalId → other.id ≠ id →
          ¬ other.isCurrent)
    (.uniqueViolation "ProposalVersion" ["proposalId"])
  .ok
    (change version,
      { tables with
        versions := updateBy ProposalVersion.id id change tables.versions })

def markProposalVersionSuperseded (tables : Tables) (now : Timestamp)
    (id : Uuid) (supersededAt : Timestamp) :
    Except TxError (ProposalVersion × Tables) :=
  updateVersion tables id (withSupersededAt supersededAt now)

def markProposalVersionClientVisible (tables : Tables) (now : Timestamp)
    (id : Uuid) (clientVisibleAt : Timestamp) :
    Except TxError (ProposalVersion × Tables) :=
  updateVersion tables id (withClientVisibleAt clientVisibleAt now)

def insertAuditLog (tables : Tables) (entry : AuditLog) : Tables :=
  { tables with auditLogs := tables.auditLogs ++ [entry] }

end Heritage.Proposals
