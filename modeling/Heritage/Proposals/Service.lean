import Heritage.Proposals.Repository

/-!
# Authoring and publishing proposals

Each operation of `service.ts` checks the caller once against the database and
again inside its transaction.  The two are separate definitions here, because
other transactions may commit between them.
-/

namespace Heritage.Proposals

open Heritage.Store

def clientForbiddenMessage : String :=
  "You do not have access to this client."

def proposalForbiddenMessage : String :=
  "Proposal not found or not accessible."

def proposalVersionForbiddenMessage : String :=
  "Proposal version not found or not accessible."

def proposalVersionSupersededMessage : String :=
  "This proposal version has already been superseded by a later revision."

def proposalConflictMessage : String :=
  "This proposal could not be completed because of a conflicting update. " ++
    "Please try again."

def publishConflictMessage : String :=
  "The current version has changed since you last loaded this proposal. " ++
    "Refresh and try again."

def assertProposalAuthorActor (actor : AuthenticatedUser) :
    Except TxError ProposalActor :=
  if actor.role = .travelConsultant then
    .ok ⟨actor.id, .travelConsultant⟩
  else
    .error <|
      proposalError .roleNotPermitted
        "This role is not permitted to author or publish proposals."

def assertProposalAuthorAccess (tables : Tables) (actorId clientId : Uuid)
    (deniedCode : ProposalErrorCode) (deniedMessage : String) :
    Except TxError Unit :=
  require
    ((findActiveAssignmentForClient tables.staffAssignments clientId).any
      fun active => active.assignedStaffId = actorId)
    (proposalError deniedCode deniedMessage)

structure CreateProposalInput where
  clientId : Uuid
  content : String
  deriving DecidableEq

structure CreateProposalRevisionInput where
  content : String
  deriving DecidableEq

structure PublishProposalVersionInput where
  expectedCurrentVersionId : Option Uuid
  deriving DecidableEq

inductive Operation where
  | createProposal (input : CreateProposalInput)
  | createProposalRevision (proposalId : Uuid)
      (input : CreateProposalRevisionInput)
  | publishProposalVersion (versionId : Uuid)
      (input : PublishProposalVersionInput)
  deriving DecidableEq

inductive Answer where
  | created (proposal : Proposal) (version : ProposalVersion)
  | revised (version : ProposalVersion)
  | published (version : ProposalVersionActorContext)
  deriving DecidableEq, Repr

def createProposalChecks (author : ProposalActor)
    (input : CreateProposalInput) (tables : Tables) :
    Except TxError Unit :=
  assertProposalAuthorAccess tables author.id input.clientId .clientForbidden
    clientForbiddenMessage

def createProposalTransaction (context : RequestContext)
    (author : ProposalActor) (input : CreateProposalInput)
    (tables : Tables) : Except TxError (Answer × Tables) := do
  assertProposalAuthorAccess tables author.id input.clientId .clientForbidden
    clientForbiddenMessage
  let ((proposal, version), written) ←
    createProposalWithFirstVersion tables (context.randomUuid 1) context.now
      { id := context.randomUuid 0
        clientId := input.clientId
        content := input.content
        createdByUserId := author.id }
  .ok
    (.created proposal version,
      insertAuditLog written
        { actorId := author.id
          action := "PROPOSAL_CREATED"
          entityType := "Proposal"
          entityId := proposal.id
          afterState :=
            .proposalCreated proposal.clientId version.id
              version.versionNumber })

def maxRevisionAttempts : Nat := 3

def createProposalRevisionChecks (author : ProposalActor)
    (proposalId : Uuid) (tables : Tables) : Except TxError Unit := do
  let preContext ←
    demand (findProposalContext tables proposalId)
      (proposalError .proposalForbidden proposalForbiddenMessage)
  assertProposalAuthorAccess tables author.id preContext.clientId
    .proposalForbidden proposalForbiddenMessage

def createProposalRevisionTransaction (context : RequestContext)
    (author : ProposalActor) (proposalId : Uuid)
    (input : CreateProposalRevisionInput) (tables : Tables) :
    Except TxError (Answer × Tables) := do
  let found ←
    demand (findProposalContext tables proposalId)
      (proposalError .proposalForbidden proposalForbiddenMessage)
  assertProposalAuthorAccess tables author.id found.clientId
    .proposalForbidden proposalForbiddenMessage
  let (version, written) ←
    createProposalRevision tables (context.randomUuid 0) context.now
      { proposalId := proposalId
        content := input.content
        createdByUserId := author.id }
  .ok
    (.revised version,
      insertAuditLog written
        { actorId := author.id
          action := "PROPOSAL_VERSION_CREATED"
          entityType := "ProposalVersion"
          entityId := version.id
          afterState :=
            .proposalVersionCreated version.proposalId
              version.versionNumber })

def publishProposalVersionChecks (author : ProposalActor)
    (versionId : Uuid) (tables : Tables) : Except TxError Unit := do
  let preContext ←
    demand (findProposalVersionContext tables versionId)
      (proposalError .proposalVersionForbidden
        proposalVersionForbiddenMessage)
  assertProposalAuthorAccess tables author.id preContext.clientId
    .proposalVersionForbidden proposalVersionForbiddenMessage

/-- The version replaced by a publish, when there is one. -/
def supersedeCurrent (tables : Tables) (now : Timestamp) :
    Option ProposalVersion → Except TxError Tables
  | none => .ok tables
  | some current => do
      let (_, superseded) ←
        markProposalVersionSuperseded tables now current.id now
      .ok superseded

def publishProposalVersionTransaction (context : RequestContext)
    (author : ProposalActor) (versionId : Uuid)
    (input : PublishProposalVersionInput) (tables : Tables) :
    Except TxError (Answer × Tables) := do
  let target ←
    demand (findProposalVersionForActor tables author versionId)
      (proposalError .proposalVersionForbidden
        proposalVersionForbiddenMessage)
  assertProposalAuthorAccess tables author.id target.clientId
    .proposalVersionForbidden proposalVersionForbiddenMessage
  if target.clientVisibleAt.isSome ∧ target.supersededAt = none then
    .ok (.published target, tables)
  else
    require (target.supersededAt = none)
      (proposalError .proposalVersionSuperseded
        proposalVersionSupersededMessage)
    let current := findCurrentClientVisibleVersion tables target.proposalId
    require
      (current.map ProposalVersion.id = input.expectedCurrentVersionId)
      (proposalError .proposalConflict publishConflictMessage)
    let superseded ← supersedeCurrent tables context.now current
    let (updated, written) ←
      markProposalVersionClientVisible superseded context.now target.id
        context.now
    .ok
      (.published
        { id := updated.id
          proposalId := target.proposalId
          clientId := target.clientId
          versionNumber := target.versionNumber
          clientVisibleAt := updated.clientVisibleAt
          supersededAt := updated.supersededAt },
        insertAuditLog written
          { actorId := author.id
            action := "PROPOSAL_VERSION_PUBLISHED"
            entityType := "ProposalVersion"
            entityId := target.id
            afterState :=
              .proposalVersionPublished target.proposalId
                target.versionNumber (current.map ProposalVersion.id) })

/-- What a call does before its transaction. -/
def checks (author : ProposalActor) (operation : Operation)
    (tables : Tables) : Except TxError Unit :=
  match operation with
  | .createProposal input => createProposalChecks author input tables
  | .createProposalRevision proposalId _ =>
      createProposalRevisionChecks author proposalId tables
  | .publishProposalVersion versionId _ =>
      publishProposalVersionChecks author versionId tables

def transaction (context : RequestContext) (author : ProposalActor)
    (operation : Operation) (tables : Tables) :
    Except TxError (Answer × Tables) :=
  match operation with
  | .createProposal input =>
      createProposalTransaction context author input tables
  | .createProposalRevision proposalId input =>
      createProposalRevisionTransaction context author proposalId input tables
  | .publishProposalVersion versionId input =>
      publishProposalVersionTransaction context author versionId input tables

/-- What a call does with the outcome of its transaction. -/
inductive Outcome where
  | returned (answer : Answer)
  | thrown (failure : TxError)
  | tryAgain
  deriving DecidableEq, Repr

/-- A residual database conflict is answered as a proposal conflict; for
serialised transactions it is a unique violation. -/
def otherKnownConflict : TxError → TxError
  | .uniqueViolation _ _ =>
      proposalError .proposalConflict proposalConflictMessage
  | failure => failure

/-- The `catch` of each operation; only a taken version number is tried
again. -/
def caught (operation : Operation) (attempt : Nat) (failure : TxError) :
    Outcome :=
  match operation with
  | .createProposalRevision _ _ =>
      if failure =
          .uniqueViolation "ProposalVersion"
            ["proposalId", "versionNumber"] then
        if attempt < maxRevisionAttempts then
          .tryAgain
        else
          .thrown (proposalError .proposalConflict proposalConflictMessage)
      else
        .thrown (otherKnownConflict failure)
  | _ => .thrown (otherKnownConflict failure)

/-- One attempt of a call: its transaction, and what becomes of it. -/
def attempt (context : RequestContext) (author : ProposalActor)
    (operation : Operation) (number : Nat) (tables : Tables) :
    Outcome × Tables :=
  match transact (transaction context author operation) tables with
  | (.ok answer, committed) => (.returned answer, committed)
  | (.error failure, stored) => (caught operation number failure, stored)

end Heritage.Proposals
