import Heritage.Invitations.Tables
import Heritage.Store.Transaction

/-!
# Reads and writes of the invitation table

`repository.ts` of invitations.  Every update of a row goes through
`updateInvitation`, which refuses what the constraints of the table refuse.
-/

namespace Heritage.Invitations.Repository

open Heritage.Store

def findInvitationById (tables : Tables) (id : Uuid) :
    Option InvitationRecord :=
  findBy InvitationRecord.id id tables.invitations

def findInvitationByClientId (tables : Tables) (clientId : Uuid) :
    Option InvitationRecord :=
  findBy InvitationRecord.clientId clientId tables.invitations

def findInvitationByProviderMessageId (tables : Tables)
    (providerMessageId : MessageId) : Option InvitationRecord :=
  findBy InvitationRecord.providerMessageId (some providerMessageId)
    tables.invitations

def findInvitationBySendOperationId (tables : Tables)
    (sendOperationId : Uuid) : Option InvitationRecord :=
  findBy InvitationRecord.sendOperationId (some sendOperationId)
    tables.invitations

def findInvitationByTokenHash (tables : Tables) (tokenHash : String) :
    Option InvitationRecord :=
  findBy InvitationRecord.tokenHash (some tokenHash) tables.invitations

def findClientById (tables : Tables) (clientId : Uuid) : Option Client :=
  findBy Client.id clientId tables.clients

/-- The email of a client that exists. -/
def findClientEmailById (tables : Tables) (clientId : Uuid) :
    Option (Option NonBlank) :=
  (findClientById tables clientId).map Client.email

/-- An `update` of a record that is not there. -/
def recordNotFound : TxError :=
  .unknown "No record was found for an update."

def uniqueViolation (field : String) : TxError :=
  .uniqueViolation "PortalInvitation" [field]

/-- Another row has the same value in a nullable unique column. -/
def takenByAnother {τ : Type} [DecidableEq τ] (tables : Tables)
    (row : InvitationRecord) (column : InvitationRecord → Option τ) : Prop :=
  column row ≠ none ∧
    ∃ other ∈ tables.invitations, other.id ≠ row.id ∧
      column other = column row

instance {τ : Type} [DecidableEq τ] (tables : Tables)
    (row : InvitationRecord) (column : InvitationRecord → Option τ) :
    Decidable (takenByAnother tables row column) :=
  inferInstanceAs (Decidable (_ ∧ _))

/-- The constraints on a row that an update writes. -/
def checkConstraints (tables : Tables) (row : InvitationRecord) :
    Except TxError Unit := do
  require (EvidenceConsistent row) .checkViolation
  require (¬ takenByAnother tables row InvitationRecord.tokenHash)
    (uniqueViolation "tokenHash")
  require (¬ takenByAnother tables row InvitationRecord.sendOperationId)
    (uniqueViolation "sendOperationId")
  require (¬ takenByAnother tables row InvitationRecord.providerMessageId)
    (uniqueViolation "providerMessageId")

/-- The row an update writes: its data, and `@updatedAt`. -/
def stamped (now : Timestamp) (data : InvitationRecord → InvitationRecord)
    (row : InvitationRecord) : InvitationRecord :=
  { data row with updatedAt := now }

/-- `update` with `where: { id }`. -/
def updateInvitation (tables : Tables) (now : Timestamp) (id : Uuid)
    (data : InvitationRecord → InvitationRecord) :
    Except TxError (InvitationRecord × Tables) := do
  let row ← demand (findInvitationById tables id) recordNotFound
  checkConstraints tables (stamped now data row)
  .ok
    (stamped now data row,
      { tables with
        invitations :=
          updateBy InvitationRecord.id id (stamped now data)
            tables.invitations })

/-- `updateMany` with `where: { id, ...condition }`; the row when the count
is not zero. -/
def updateInvitationWhere (tables : Tables) (now : Timestamp) (id : Uuid)
    (condition : InvitationRecord → Bool)
    (data : InvitationRecord → InvitationRecord) :
    Except TxError (Option InvitationRecord × Tables) :=
  match (findInvitationById tables id).filter condition with
  | none => .ok (none, tables)
  | some _ => do
      let (updated, written) ← updateInvitation tables now id data
      .ok (some updated, written)

/-- The row a preparation inserts. -/
def preparedRow (id clientId : Uuid) (now : Timestamp) :
    InvitationRecord where
  id := id
  clientId := clientId
  status := .invitationPrepared
  tokenHash := none
  expiresAt := none
  destinationEmail := none
  deliveryMethod := none
  deliveryState := .notAttempted
  sendOperationId := none
  providerMessageId := none
  deliveryConfirmedAt := none
  deliveryConfirmedByStaffId := none
  sentAt := none
  openedAt := none
  activatedAt := none
  revokedAt := none
  createdAt := now
  updatedAt := now

def createInvitation (tables : Tables) (context : RequestContext)
    (clientId : Uuid) : Except TxError (InvitationRecord × Tables) := do
  let row := preparedRow (context.randomUuid 0) clientId context.now
  require (EvidenceConsistent row) .checkViolation
  require (findInvitationById tables row.id).isNone (uniqueViolation "id")
  require (findInvitationByClientId tables clientId).isNone
    (uniqueViolation "clientId")
  .ok (row, { tables with invitations := tables.invitations ++ [row] })

/-- `sendOperationId` is supplied for the automated channel only. -/
structure SendReservationInput where
  tokenHash : String
  expiresAt : Timestamp
  destinationEmail : String
  sentAt : Timestamp
  automated : Option Uuid
  deriving DecidableEq, Repr

def sendReservationData (input : SendReservationInput)
    (row : InvitationRecord) : InvitationRecord :=
  { row with
    status := .invitationSent
    tokenHash := some input.tokenHash
    expiresAt := some input.expiresAt
    destinationEmail := some input.destinationEmail
    sentAt := some input.sentAt
    providerMessageId := none
    deliveryConfirmedAt := none
    deliveryConfirmedByStaffId := none
    revokedAt := none
    deliveryMethod := input.automated.map fun _ => .automatedEmail
    deliveryState :=
      match input.automated with
      | some _ => .automatedUnconfirmed
      | none => .notAttempted
    sendOperationId := input.automated }

def recordSendReservation (tables : Tables) (now : Timestamp) (id : Uuid)
    (input : SendReservationInput) :
    Except TxError (InvitationRecord × Tables) :=
  updateInvitation tables now id (sendReservationData input)

structure ReservationPrecondition where
  sendOperationId : Option Uuid
  updatedAt : Timestamp

def recordSendReservationIfUnstale (tables : Tables) (now : Timestamp)
    (id : Uuid) (precondition : ReservationPrecondition)
    (input : SendReservationInput) :
    Except TxError (Option InvitationRecord × Tables) :=
  updateInvitationWhere tables now id
    (fun row =>
      row.sendOperationId = precondition.sendOperationId ∧
        row.updatedAt = precondition.updatedAt)
    (sendReservationData input)

/-- A delivery state with the provider's message id, as outcomes and webhooks
write them. -/
def withDelivery (deliveryState : PortalInvitationDeliveryState)
    (providerMessageId : Option MessageId) (row : InvitationRecord) :
    InvitationRecord :=
  { row with
    deliveryState := deliveryState
    providerMessageId := providerMessageId }

/-- The states an outcome of the send call resolves to. -/
inductive ResolvedOutcome where
  | automatedAccepted (providerMessageId : MessageId)
  | providerFailed
  deriving DecidableEq, Repr

def ResolvedOutcome.data : ResolvedOutcome →
    InvitationRecord → InvitationRecord
  | .automatedAccepted providerMessageId =>
      withDelivery .automatedAccepted (some providerMessageId)
  | .providerFailed => withDelivery .providerFailed none

def recordAutomatedSendOutcome (tables : Tables) (now : Timestamp)
    (id sendOperationId : Uuid) (outcome : ResolvedOutcome) :
    Except TxError (Option InvitationRecord × Tables) :=
  updateInvitationWhere tables now id
    (fun row =>
      row.sendOperationId = some sendOperationId ∧
        row.deliveryState = .automatedUnconfirmed)
    outcome.data

def reconcileUnconfirmedToAccepted (tables : Tables) (now : Timestamp)
    (id : Uuid) (providerMessageId : MessageId) :
    Except TxError (Option InvitationRecord × Tables) :=
  updateInvitationWhere tables now id
    (fun row => row.deliveryState = .automatedUnconfirmed)
    (withDelivery .automatedAccepted (some providerMessageId))

def applyProviderDeliveryState (tables : Tables) (now : Timestamp)
    (id : Uuid) (deliveryState : PortalInvitationDeliveryState)
    (providerMessageId : MessageId) :
    Except TxError (InvitationRecord × Tables) :=
  updateInvitation tables now id
    (withDelivery deliveryState (some providerMessageId))

structure ManualConfirmationInput where
  sendOperationId : Uuid
  deliveryConfirmedByStaffId : Uuid
  deliveryConfirmedAt : Timestamp
  deriving DecidableEq, Repr

def ManualConfirmationInput.data (input : ManualConfirmationInput)
    (row : InvitationRecord) : InvitationRecord :=
  { row with
    deliveryMethod := some .manualEmail
    deliveryState := .manuallyConfirmed
    sendOperationId := some input.sendOperationId
    deliveryConfirmedByStaffId := some input.deliveryConfirmedByStaffId
    deliveryConfirmedAt := some input.deliveryConfirmedAt }

def recordManualConfirmation (tables : Tables) (now : Timestamp)
    (id : Uuid) (input : ManualConfirmationInput) :
    Except TxError (InvitationRecord × Tables) :=
  updateInvitation tables now id input.data

def revoked (revokedAt : Timestamp) (row : InvitationRecord) :
    InvitationRecord :=
  { row with
    status := .invitationRevoked
    revokedAt := some revokedAt
    tokenHash := none
    expiresAt := none
    destinationEmail := none }

def recordRevocation (tables : Tables) (now : Timestamp) (id : Uuid)
    (revokedAt : Timestamp) : Except TxError (InvitationRecord × Tables) :=
  updateInvitation tables now id (revoked revokedAt)

def opened (openedAt : Timestamp) (row : InvitationRecord) :
    InvitationRecord :=
  { row with status := .invitationOpened, openedAt := some openedAt }

def markInvitationOpened (tables : Tables) (now : Timestamp) (id : Uuid)
    (openedAt : Timestamp) :
    Except TxError (Option InvitationRecord × Tables) :=
  updateInvitationWhere tables now id
    (fun row => row.status = .invitationSent) (opened openedAt)

def activated (activatedAt : Timestamp) (row : InvitationRecord) :
    InvitationRecord :=
  { row with status := .accountActivated, activatedAt := some activatedAt }

def markInvitationActivated (tables : Tables) (now : Timestamp) (id : Uuid)
    (activatedAt : Timestamp) : Except TxError (InvitationRecord × Tables) :=
  updateInvitation tables now id (activated activatedAt)

def insertAuditLog (tables : Tables) (entry : AuditLog) : Tables :=
  { tables with auditLogs := tables.auditLogs ++ [entry] }

end Heritage.Invitations.Repository
