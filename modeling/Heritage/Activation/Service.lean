import Heritage.Activation.Repository

/-!
# Activation operations

`service.ts` of activation: a presented token opens an invitation, or creates
the account it invites to.
-/

namespace Heritage.Activation

open Heritage.Store
open Heritage.Invitations
open Heritage.Invitations.Repository
open Repository

def isEligible (invitation : InvitationRecord) (now : Timestamp) : Bool :=
  if invitation.status ≠ .invitationSent ∧
      invitation.status ≠ .invitationOpened then
    false
  else
    invitation.expiresAt.any fun expiresAt => expiresAt ≥ now

def computeEmailVerified
    (deliveryMethod : Option PortalInvitationDeliveryMethod)
    (deliveryState : PortalInvitationDeliveryState) : Bool :=
  match deliveryMethod with
  | some .automatedEmail =>
      deliveryState = .automatedAccepted ∨ deliveryState = .providerDelivered
  | some .manualEmail => deliveryState = .manuallyConfirmed
  | none => false

def notPossible : TxError :=
  .activation {}

structure ContinueResult where
  opened : Bool
  deriving DecidableEq, Repr

def continueInvitationTransaction (platform : Platform) (now : Timestamp)
    (rawToken : String) (tables : Tables) :
    Except TxError (ContinueResult × Tables) := do
  let invitation ←
    demand
      (findInvitationByTokenHash tables
        (platform.hashInvitationToken rawToken))
      notPossible
  require (isEligible invitation now) notPossible
  if invitation.status = .invitationOpened then
    .ok (⟨true⟩, tables)
  else
    let (marked, written) ←
      markInvitationOpened tables now invitation.id now
    let updated ← demand marked notPossible
    .ok
      (⟨true⟩,
        insertAuditLog written
          { actor := .anonymous
            action := .opened
            entityId := updated.id
            beforeState := some (sanitizeInvitationSnapshot invitation)
            afterState := some (sanitizeInvitationSnapshot updated)
            reason := none })

def continueInvitation (platform : Platform) (now : Timestamp)
    (rawToken : String) : Effect ContinueResult :=
  transact (continueInvitationTransaction platform now rawToken)

structure ActivateResult where
  activated : Bool
  deriving DecidableEq, Repr

def activateAccountTransaction (platform : Platform)
    (context : RequestContext) (rawToken passwordHash : String)
    (tables : Tables) : Except TxError (ActivateResult × Tables) := do
  let invitation ←
    demand
      (findInvitationByTokenHash tables
        (platform.hashInvitationToken rawToken))
      notPossible
  require (isEligible invitation context.now) notPossible
  let destinationEmail ← demand invitation.destinationEmail notPossible
  require (findUserByEmail tables destinationEmail).isNone notPossible
  require (findClientProfileByClientId tables invitation.clientId).isNone
    notPossible
  let fullName ←
    demand (findClientNameById tables invitation.clientId) notPossible
  let (created, withAccount) ←
    createActivatedAccount platform context tables
      { clientId := invitation.clientId
        name := fullName
        email := destinationEmail
        passwordHash := passwordHash
        emailVerified :=
          computeEmailVerified invitation.deliveryMethod
            invitation.deliveryState }
  let (updatedInvitation, written) ←
    markInvitationActivated withAccount context.now invitation.id context.now
  .ok
    (⟨true⟩,
      insertAuditLog written
        { actor := .user created.userId
          action := .activated
          entityId := updatedInvitation.id
          beforeState := some (sanitizeInvitationSnapshot invitation)
          afterState := some (sanitizeInvitationSnapshot updatedInvitation)
          reason := none })

/-- A `P2002` is answered like every other refusal. -/
def translateUniqueViolation : TxError → TxError
  | .uniqueViolation _ _ => notPossible
  | failure => failure

def activateAccount (platform : Platform) (context : RequestContext)
    (rawToken passwordHash : String) : Effect ActivateResult :=
  fun tables =>
    let (outcome, stored) :=
      transact
        (activateAccountTransaction platform context rawToken passwordHash)
        tables
    (outcome.mapError translateUniqueViolation, stored)

end Heritage.Activation
