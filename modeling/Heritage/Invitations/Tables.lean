import Mathlib
import Heritage.Shared.Access

/-!
# Invitation tables

Rows of portal invitations with the constraints the migrations put on them,
the identity rows an activation creates, and the errors and audit records of
both features.
-/

namespace Heritage.Invitations

open Heritage.Store

inductive PortalInvitationStatus where
  | invitationPrepared
  | invitationSent
  | invitationOpened
  | accountActivated
  | invitationExpired
  | invitationRevoked
  deriving DecidableEq, Repr

/-- The database's spelling of a status. -/
def PortalInvitationStatus.text : PortalInvitationStatus → String
  | .invitationPrepared => "INVITATION_PREPARED"
  | .invitationSent => "INVITATION_SENT"
  | .invitationOpened => "INVITATION_OPENED"
  | .accountActivated => "ACCOUNT_ACTIVATED"
  | .invitationExpired => "INVITATION_EXPIRED"
  | .invitationRevoked => "INVITATION_REVOKED"

inductive PortalInvitationDeliveryMethod where
  | automatedEmail
  | manualEmail
  deriving DecidableEq, Repr

inductive PortalInvitationDeliveryState where
  | notAttempted
  | automatedUnconfirmed
  | automatedAccepted
  | manuallyConfirmed
  | providerDelivered
  | providerFailed
  | providerBounced
  | providerComplained
  | providerSuppressed
  deriving DecidableEq, Repr

/-- The provider's identifier of one email, opaque to the program. -/
abbrev MessageId := Nat

/-- A row of `portal_invitation`. -/
structure InvitationRecord where
  id : Uuid
  clientId : Uuid
  status : PortalInvitationStatus
  tokenHash : Option String
  expiresAt : Option Timestamp
  destinationEmail : Option String
  deliveryMethod : Option PortalInvitationDeliveryMethod
  deliveryState : PortalInvitationDeliveryState
  sendOperationId : Option Uuid
  providerMessageId : Option MessageId
  deliveryConfirmedAt : Option Timestamp
  deliveryConfirmedByStaffId : Option Uuid
  sentAt : Option Timestamp
  openedAt : Option Timestamp
  activatedAt : Option Timestamp
  revokedAt : Option Timestamp
  createdAt : Timestamp
  updatedAt : Timestamp
  deriving DecidableEq, Repr

-- A comparison with `NULL` is unknown, and a CHECK is satisfied unless it is
-- false: a nullable operand of a plain `=` passes when it is `none`.

/-- The states of `portal_invitation_provider_states_require_automated`. -/
def automatedStates : List PortalInvitationDeliveryState :=
  [.automatedAccepted, .automatedUnconfirmed, .providerDelivered,
    .providerFailed, .providerBounced, .providerComplained,
    .providerSuppressed]

/-- The states of
`portal_invitation_provider_confirmed_requires_message_id`. -/
def providerConfirmedStates : List PortalInvitationDeliveryState :=
  [.automatedAccepted, .providerDelivered, .providerBounced,
    .providerComplained, .providerSuppressed]

/-- The statuses of `portal_invitation_redeemable_requires_token`. -/
def redeemableStatuses : List PortalInvitationStatus :=
  [.invitationSent, .invitationOpened, .invitationExpired,
    .accountActivated]

/-- The CHECK constraints of `portal_invitation`. -/
@[mk_iff]
structure EvidenceConsistent (row : InvitationRecord) : Prop where
  tokenTripleNullability :
    (row.tokenHash = none ∧ row.expiresAt = none ∧
        row.destinationEmail = none) ∨
      (row.tokenHash ≠ none ∧ row.expiresAt ≠ none ∧
        row.destinationEmail ≠ none)
  redeemableRequiresToken :
    row.status ∉ redeemableStatuses ∨ row.tokenHash ≠ none
  deliveryMethodPresence :
    row.deliveryMethod = none ↔ row.deliveryState = .notAttempted
  providerStatesRequireAutomated :
    row.deliveryState ∉ automatedStates ∨
      row.deliveryMethod.all (· = .automatedEmail)
  manualConfirmedRequiresManual :
    row.deliveryState ≠ .manuallyConfirmed ∨
      row.deliveryMethod.all (· = .manualEmail)
  providerMessageIdAutomatedOnly :
    row.providerMessageId = none ∨
      row.deliveryMethod = some .automatedEmail
  providerConfirmedRequiresMessageId :
    row.deliveryState ∉ providerConfirmedStates ∨
      row.providerMessageId ≠ none
  manualConfirmationEvidence :
    (row.deliveryConfirmedAt ≠ none ∧
        row.deliveryConfirmedByStaffId ≠ none ∧
        row.deliveryState = .manuallyConfirmed) ∨
      (row.deliveryConfirmedAt = none ∧
        row.deliveryConfirmedByStaffId = none ∧
        row.deliveryState ≠ .manuallyConfirmed)
  sendOperationIdPresence :
    row.sendOperationId = none ↔ row.deliveryState = .notAttempted

instance (row : InvitationRecord) : Decidable (EvidenceConsistent row) :=
  decidable_of_iff' _ (evidenceConsistent_iff row)

structure User where
  id : Uuid
  name : String
  email : String
  role : Role
  isActive : Bool
  emailVerified : Bool
  deriving DecidableEq, Repr

structure Account where
  id : Uuid
  accountId : Uuid
  providerId : String
  password : Option String
  userId : Uuid
  deriving DecidableEq, Repr

/-- `INVITATION_AUDIT_ACTIONS`. -/
inductive InvitationAuditAction where
  | prepared
  | sentAutomated
  | sentManualConfirmed
  | resent
  | revoked
  | opened
  | activated
  deriving DecidableEq, Repr

structure AuditInvitationSnapshot where
  id : Uuid
  clientId : Uuid
  status : PortalInvitationStatus
  deliveryMethod : Option PortalInvitationDeliveryMethod
  deliveryState : PortalInvitationDeliveryState
  sendOperationId : Option Uuid
  providerMessageId : Option MessageId
  expiresAt : Option Timestamp
  deriving DecidableEq, Repr

def sanitizeInvitationSnapshot (record : InvitationRecord) :
    AuditInvitationSnapshot where
  id := record.id
  clientId := record.clientId
  status := record.status
  deliveryMethod := record.deliveryMethod
  deliveryState := record.deliveryState
  sendOperationId := record.sendOperationId
  providerMessageId := record.providerMessageId
  expiresAt := record.expiresAt

/-- `actorKind` with the `actorId` it requires or forbids. -/
inductive AuditActor where
  | user (actorId : Uuid)
  | anonymous
  deriving DecidableEq, Repr

/-- An audit entry of a portal invitation.  Only a revocation adds a
`reason`. -/
structure AuditLog where
  actor : AuditActor
  action : InvitationAuditAction
  entityId : Uuid
  beforeState : Option AuditInvitationSnapshot
  afterState : Option AuditInvitationSnapshot
  reason : Option String
  deriving DecidableEq, Repr

/-- The part of the database invitations and activation read and write. -/
structure Tables where
  invitations : List InvitationRecord
  clients : List Client
  users : List User
  accounts : List Account
  clientProfiles : List ClientProfile
  staffAssignments : List StaffAssignment
  auditLogs : List AuditLog
  deriving DecidableEq, Repr

/-- No row in any table. -/
def Tables.empty : Tables where
  invitations := []
  clients := []
  users := []
  accounts := []
  clientProfiles := []
  staffAssignments := []
  auditLogs := []

inductive InvitationErrorCode where
  | clientNotFound
  | clientForbidden
  | clientEmailMissing
  | invitationNotFound
  | invitationAlreadyExists
  | invitationNotSendable
  | invitationAlreadyActivated
  | deliveryDisabled
  | idempotencyKeyRequired
  | invitationSendOperationStale
  deriving DecidableEq, Repr

structure InvitationError where
  code : InvitationErrorCode
  message : String
  deriving DecidableEq, Repr

/-- `ActivationError`: one error for every cause. -/
structure ActivationError where
  status : Nat := 409
  code : String := "ACTIVATION_NOT_POSSIBLE"
  message : String := "This invitation link is no longer valid."
  deriving DecidableEq, Repr

inductive TxError where
  | invitation (error : InvitationError)
  | activation (error : ActivationError)
  | uniqueViolation (modelName : String) (fields : List String)
  | checkViolation
  | unknown (message : String)
  deriving DecidableEq, Repr

/-- The domain error with this code and message. -/
def invitationError (code : InvitationErrorCode) (message : String) :
    TxError :=
  .invitation ⟨code, message⟩

end Heritage.Invitations
