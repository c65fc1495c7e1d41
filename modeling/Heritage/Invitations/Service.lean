import Heritage.Invitations.Repository

/-!
# Invitation operations

`service.ts` of invitations.  An automated send is two steps: the transaction
that reserves it, which leaves an attempt behind, and at some later point the
provider's answer.  What `verifyResendWebhook` makes of a request is an
argument of the webhook handler.
-/

namespace Heritage.Invitations

open Heritage.Store
open Repository

/-- What invitations use of the language, the database and the server's
configuration: `hashInvitationToken` is SHA-256 in hexadecimal, `lower` the
database's function of that name. -/
structure Platform where
  strings : StringPlatform
  hashInvitationToken : String → String
  encodeURIComponent : String → String
  lower : String → String
  /-- `BETTER_AUTH_URL` without a final slash. -/
  baseUrl : String
  isAutomatedDeliveryEnabled : Bool

/-- Seven days in milliseconds. -/
def expiryMilliseconds : Int :=
  7 * 24 * 60 * 60 * 1000

def computeExpiryFromNow (now : Timestamp) : Timestamp :=
  now + expiryMilliseconds

def buildActivationUrl (platform : Platform) (rawToken : String) : String :=
  platform.baseUrl ++ "/activate#token=" ++
    platform.encodeURIComponent rawToken

def notFoundOrForbidden (actor : AuthenticatedUser) : TxError :=
  if actor.role = .adminManager then
    invitationError .clientNotFound "Client not found."
  else
    invitationError .clientForbidden
      "You do not have access to this client."

def assertTravelConsultantAssignment (tables : Tables)
    (actor : AuthenticatedUser) (clientId : Uuid) : Except TxError Unit :=
  require
    (actor.role = .travelConsultant →
      (findActiveAssignmentForClient tables.staffAssignments clientId).any
        fun active => active.assignedStaffId = actor.id)
    (notFoundOrForbidden actor)

/-- What an operation does to the tables, and what its caller gets. -/
abbrev Effect (α : Type) := Tables → Except TxError α × Tables

/-- A transaction for one client: access is checked before it opens. -/
def withClient {α : Type} (actor : AuthenticatedUser) (clientId : Uuid)
    (body : Tables → Except TxError (α × Tables)) : Effect α :=
  fun tables =>
    if canAccessClient tables.staffAssignments tables.clientProfiles actor
        clientId then
      transact body tables
    else
      (.error (notFoundOrForbidden actor), tables)

def prepareInvitationTransaction (context : RequestContext)
    (actor : AuthenticatedUser) (clientId : Uuid) (tables : Tables) :
    Except TxError (InvitationRecord × Tables) := do
  assertTravelConsultantAssignment tables actor clientId
  match findInvitationByClientId tables clientId with
  | some existing => do
      require (existing.status = .invitationPrepared)
        (invitationError .invitationAlreadyExists
          "An invitation already exists for this client.")
      .ok (existing, tables)
  | none => do
      require (findClientById tables clientId).isSome
        (notFoundOrForbidden actor)
      let (created, written) ← createInvitation tables context clientId
      .ok
        (created,
          insertAuditLog written
            { actor := .user actor.id
              action := .prepared
              entityId := created.id
              beforeState := none
              afterState := some (sanitizeInvitationSnapshot created)
              reason := none })

def prepareInvitation (context : RequestContext)
    (actor : AuthenticatedUser) (clientId : Uuid) :
    Effect InvitationRecord :=
  withClient actor clientId
    (prepareInvitationTransaction context actor clientId)

structure SendOrResendInput where
  deliveryMethod : PortalInvitationDeliveryMethod
  idempotencyKey : Uuid

structure ResendConcurrencyPrecondition where
  expectedCurrentSendOperationId : Option Uuid
  expectedUpdatedAt : Timestamp

inductive ReservationOutcome where
  | alreadyReserved (invitation : InvitationRecord)
  | fresh (invitation : InvitationRecord) (rawToken : String)

/-- What distinguishes the callers of `reserveSendOperation`. -/
structure ReservationKind where
  allowedStatuses : List PortalInvitationStatus
  auditAction : InvitationAuditAction
  concurrency : Option ResendConcurrencyPrecondition
  alwaysAudit : Bool

def staleSendOperation : TxError :=
  invitationError .invitationSendOperationStale
    ("This invitation has changed since you last loaded it. Refresh and try " ++
      "again.")

/-- The reservation writer of the two callers: unconditional for the first
send, on the precondition for a resend. -/
def recordReservation (tables : Tables) (now : Timestamp) (id : Uuid)
    (concurrency : Option ResendConcurrencyPrecondition)
    (reservation : SendReservationInput) :
    Except TxError (InvitationRecord × Tables) :=
  match concurrency with
  | none => recordSendReservation tables now id reservation
  | some precondition => do
      let (conditional, written) ←
        recordSendReservationIfUnstale tables now id
          ⟨precondition.expectedCurrentSendOperationId,
            precondition.expectedUpdatedAt⟩
          reservation
      let updated ← demand conditional staleSendOperation
      .ok (updated, written)

def reserveSendOperationTransaction (platform : Platform)
    (context : RequestContext) (rawToken : String)
    (actor : AuthenticatedUser) (clientId : Uuid)
    (input : SendOrResendInput) (kind : ReservationKind)
    (tables : Tables) : Except TxError (ReservationOutcome × Tables) := do
  assertTravelConsultantAssignment tables actor clientId
  let invitation ←
    demand (findInvitationByClientId tables clientId)
      (invitationError .invitationNotFound
        "No invitation exists for this client yet — prepare one first.")
  if invitation.deliveryMethod = some .automatedEmail ∧
      invitation.sendOperationId = some input.idempotencyKey then
    .ok (.alreadyReserved invitation, tables)
  else
    require (invitation.status ∈ kind.allowedStatuses)
      (invitationError .invitationNotSendable
        ("This invitation is currently " ++ invitation.status.text ++
          " and cannot be sent from this action."))
    require
      (∀ precondition ∈ kind.concurrency,
        invitation.sendOperationId =
            precondition.expectedCurrentSendOperationId ∧
          invitation.updatedAt = precondition.expectedUpdatedAt)
      staleSendOperation
    let email ←
      demand ((findClientEmailById tables clientId).getD none)
        (invitationError .clientEmailMissing
          "This client has no email address on file.")
    let (updated, written) ←
      recordReservation tables context.now invitation.id kind.concurrency
        { tokenHash := platform.hashInvitationToken rawToken
          expiresAt := computeExpiryFromNow context.now
          destinationEmail := normalizeEmail platform.strings email.value
          sentAt := context.now
          automated :=
            if input.deliveryMethod = .automatedEmail then
              some input.idempotencyKey
            else
              none }
    .ok
      (.fresh updated rawToken,
        if input.deliveryMethod = .automatedEmail ∨ kind.alwaysAudit then
          insertAuditLog written
            { actor := .user actor.id
              action := kind.auditAction
              entityId := updated.id
              beforeState := some (sanitizeInvitationSnapshot invitation)
              afterState := some (sanitizeInvitationSnapshot updated)
              reason := none }
        else
          written)

def reserveSendOperation (platform : Platform) (context : RequestContext)
    (rawToken : String) (actor : AuthenticatedUser) (clientId : Uuid)
    (input : SendOrResendInput) (kind : ReservationKind) :
    Effect ReservationOutcome :=
  fun tables =>
    if canAccessClient tables.staffAssignments tables.clientProfiles actor
        clientId then
      if input.deliveryMethod = .automatedEmail ∧
          ¬ platform.isAutomatedDeliveryEnabled then
        (.error
          (invitationError .deliveryDisabled
            "Automated email delivery is currently disabled."),
          tables)
      else
        transact
          (reserveSendOperationTransaction platform context rawToken actor
            clientId input kind)
          tables
    else
      (.error (notFoundOrForbidden actor), tables)

inductive SendDelivery where
  | reservedOnly
  | unconfirmed
  | automatedAccepted
  | providerFailed
  | alreadyReserved
  deriving DecidableEq, Repr

structure SendResult where
  invitation : InvitationRecord
  delivery : SendDelivery
  manualInvitationUrl : Option String

/-- A call of the provider that has not been answered. -/
structure SendAttempt where
  invitation : InvitationRecord
  rawToken : String
  sendOperationId : Uuid

/-- A send that is answered at once, or one that waits for the provider. -/
inductive SendProgress where
  | answered (result : SendResult)
  | attempting (attempt : SendAttempt)

def sendProgress (platform : Platform) (input : SendOrResendInput) :
    ReservationOutcome → SendProgress
  | .alreadyReserved invitation =>
      .answered ⟨invitation, .alreadyReserved, none⟩
  | .fresh invitation rawToken =>
      if input.deliveryMethod ≠ .automatedEmail then
        .answered
          ⟨invitation, .reservedOnly,
            some (buildActivationUrl platform rawToken)⟩
      else
        .attempting ⟨invitation, rawToken, input.idempotencyKey⟩

/-- The arguments `sendInvitation` passes on. -/
def firstSend : ReservationKind where
  allowedStatuses := [.invitationPrepared]
  auditAction := .sentAutomated
  concurrency := none
  alwaysAudit := false

/-- The arguments `resendInvitation` passes on. -/
def resend (concurrency : ResendConcurrencyPrecondition) :
    ReservationKind where
  allowedStatuses :=
    [.invitationSent, .invitationOpened, .invitationExpired,
      .invitationRevoked]
  auditAction := .resent
  concurrency := some concurrency
  alwaysAudit := true

def sendInvitation (platform : Platform) (context : RequestContext)
    (rawToken : String) (actor : AuthenticatedUser) (clientId : Uuid)
    (input : SendOrResendInput) : Effect SendProgress :=
  fun tables =>
    let (outcome, stored) :=
      reserveSendOperation platform context rawToken actor clientId input
        firstSend tables
    (outcome.map (sendProgress platform input), stored)

def resendInvitation (platform : Platform) (context : RequestContext)
    (rawToken : String) (actor : AuthenticatedUser) (clientId : Uuid)
    (input : SendOrResendInput)
    (concurrency : ResendConcurrencyPrecondition) : Effect SendProgress :=
  fun tables =>
    let (outcome, stored) :=
      reserveSendOperation platform context rawToken actor clientId input
        (resend concurrency) tables
    (outcome.map (sendProgress platform input), stored)

/-- How the adapter classifies the provider's answer. -/
inductive SendOutcome where
  | accepted (messageId : MessageId)
  | definiteFailure (message : String)
  | ambiguous (message : String)
  deriving DecidableEq, Repr

/-- What an outcome resolves to, unless it is ambiguous. -/
def SendOutcome.resolved : SendOutcome → Option ResolvedOutcome
  | .accepted messageId => some (.automatedAccepted messageId)
  | .definiteFailure _ => some .providerFailed
  | .ambiguous _ => none

def ResolvedOutcome.delivery : ResolvedOutcome → SendDelivery
  | .automatedAccepted _ => .automatedAccepted
  | .providerFailed => .providerFailed

/-- The transaction after an unambiguous answer. -/
def recordOutcomeTransaction (now : Timestamp) (attempt : SendAttempt)
    (resolved : ResolvedOutcome) (tables : Tables) :
    Except TxError (Option InvitationRecord × Tables) :=
  recordAutomatedSendOutcome tables now attempt.invitation.id
    attempt.sendOperationId resolved

/-- `attemptAutomatedDelivery` from the provider's answer on. -/
def attemptAutomatedDelivery (now : Timestamp) (attempt : SendAttempt)
    (outcome : SendOutcome) : Effect SendResult :=
  fun tables =>
    match outcome.resolved with
    | none => (.ok ⟨attempt.invitation, .unconfirmed, none⟩, tables)
    | some resolved =>
        let (recorded, stored) :=
          transact (recordOutcomeTransaction now attempt resolved) tables
        (recorded.map fun finalInvitation =>
            ⟨finalInvitation.getD attempt.invitation,
              ResolvedOutcome.delivery resolved, none⟩,
          stored)

def confirmManualSendTransaction (context : RequestContext)
    (actor : AuthenticatedUser) (clientId idempotencyKey : Uuid)
    (tables : Tables) : Except TxError (InvitationRecord × Tables) := do
  assertTravelConsultantAssignment tables actor clientId
  let invitation ←
    demand (findInvitationByClientId tables clientId)
      (invitationError .invitationNotFound
        "No invitation exists for this client yet.")
  if invitation.deliveryState = .manuallyConfirmed then
    .ok (invitation, tables)
  else
    require
      (¬ (invitation.status ≠ .invitationSent ∨
        invitation.deliveryMethod ≠ none))
      (invitationError .invitationNotSendable
        ("This invitation is not in a state that can be manually confirmed " ++
          "— send it first."))
    let (updated, written) ←
      recordManualConfirmation tables context.now invitation.id
        { sendOperationId := idempotencyKey
          deliveryConfirmedByStaffId := actor.id
          deliveryConfirmedAt := context.now }
    .ok
      (updated,
        insertAuditLog written
          { actor := .user actor.id
            action := .sentManualConfirmed
            entityId := updated.id
            beforeState := some (sanitizeInvitationSnapshot invitation)
            afterState := some (sanitizeInvitationSnapshot updated)
            reason := none })

def confirmManualSend (context : RequestContext)
    (actor : AuthenticatedUser) (clientId idempotencyKey : Uuid) :
    Effect InvitationRecord :=
  withClient actor clientId
    (confirmManualSendTransaction context actor clientId idempotencyKey)

def revokeInvitationTransaction (context : RequestContext)
    (actor : AuthenticatedUser) (clientId : Uuid) (reason : String)
    (tables : Tables) : Except TxError (InvitationRecord × Tables) := do
  assertTravelConsultantAssignment tables actor clientId
  let invitation ←
    demand (findInvitationByClientId tables clientId)
      (invitationError .invitationNotFound
        "No invitation exists for this client.")
  if invitation.status = .invitationRevoked then
    .ok (invitation, tables)
  else
    require (invitation.status ≠ .accountActivated)
      (invitationError .invitationAlreadyActivated
        ("This invitation has already been activated and cannot be " ++
          "revoked."))
    let (updated, written) ←
      recordRevocation tables context.now invitation.id context.now
    .ok
      (updated,
        insertAuditLog written
          { actor := .user actor.id
            action := .revoked
            entityId := updated.id
            beforeState := some (sanitizeInvitationSnapshot invitation)
            afterState := some (sanitizeInvitationSnapshot updated)
            reason := some reason })

def revokeInvitation (context : RequestContext) (actor : AuthenticatedUser)
    (clientId : Uuid) (reason : String) : Effect InvitationRecord :=
  withClient actor clientId
    (revokeInvitationTransaction context actor clientId reason)

inductive WebhookEventType where
  | emailSent
  | emailDeliveryDelayed
  | emailDelivered
  | emailBounced
  | emailComplained
  | emailFailed
  | emailSuppressed
  | other (type : String)
  deriving DecidableEq, Repr

/-- A verified event.  An empty `email_id` or tag is falsy and counts as
absent. -/
structure VerifiedWebhookEvent where
  type : WebhookEventType
  messageId : Option MessageId
  sendOperationTag : Option Uuid
  deriving DecidableEq, Repr

inductive Correlation where
  | found (target : InvitationRecord)
  | ambiguous
  | nothing
  deriving DecidableEq, Repr

def correlateWebhookEvent (tables : Tables) (messageId : Option MessageId)
    (sendOperationTag : Option Uuid) : Correlation :=
  let byMessageId :=
    messageId.bind (findInvitationByProviderMessageId tables)
  let byOperation :=
    sendOperationTag.bind (findInvitationBySendOperationId tables)
  if ∃ first ∈ byMessageId, ∃ second ∈ byOperation,
      first.id ≠ second.id then
    .ambiguous
  else if ∃ operation ∈ byOperation,
      ∃ known ∈ operation.providerMessageId, ∃ id ∈ messageId,
        known ≠ id then
    .ambiguous
  else
    match byMessageId.or byOperation with
    | some target => .found target
    | none => .nothing

/-- `PROVIDER_TERMINAL_STATES`. -/
def providerTerminalState :
    WebhookEventType → Option PortalInvitationDeliveryState
  | .emailDelivered => some .providerDelivered
  | .emailBounced => some .providerBounced
  | .emailComplained => some .providerComplained
  | .emailFailed => some .providerFailed
  | .emailSuppressed => some .providerSuppressed
  | _ => none

/-- `RECONCILING_EVENTS`. -/
def isReconciling : WebhookEventType → Bool
  | .emailSent | .emailDeliveryDelayed => true
  | _ => false

/-- The transaction of a reconciling or a terminal event; it returns the row
it wrote. -/
def webhookTransaction (now : Timestamp) (event : VerifiedWebhookEvent)
    (messageId : MessageId) (tables : Tables) :
    Except TxError (Option InvitationRecord × Tables) :=
  match correlateWebhookEvent tables (some messageId)
      event.sendOperationTag with
  | .ambiguous => .ok (none, tables)
  | .nothing => .ok (none, tables)
  | .found target =>
      match providerTerminalState event.type with
      | none =>
          reconcileUnconfirmedToAccepted tables now target.id messageId
      | some terminalState => do
          let (updated, written) ←
            applyProviderDeliveryState tables now target.id terminalState
              messageId
          .ok (some updated, written)

/-- The event a webhook request applies: one of a handled type that carries a
message id. -/
def appliedEvent (event : VerifiedWebhookEvent) : Option MessageId :=
  if isReconciling event.type ∨ (providerTerminalState event.type).isSome then
    event.messageId
  else
    none

inductive WebhookStatus where
  | ok200
  | unauthorized401
  deriving DecidableEq, Repr

def handleResendWebhookEvent (now : Timestamp)
    (verified : Option VerifiedWebhookEvent) : Effect WebhookStatus :=
  fun tables =>
    match verified with
    | none => (.ok .unauthorized401, tables)
    | some event =>
        match appliedEvent event with
        | none => (.ok .ok200, tables)
        | some messageId =>
            let (applied, stored) :=
              transact (webhookTransaction now event messageId) tables
            (applied.map fun _ => .ok200, stored)

end Heritage.Invitations
