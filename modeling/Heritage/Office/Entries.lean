import Heritage.Assignments.Audits
import Heritage.Invitations.Audits
import Heritage.Journeys.Audits
import Heritage.Office.Freshness
import Heritage.Payments.Audits

/-!
# The entries of all features

One table stores the audit entries that the features write.  An attempt of a
waiting call accounts for what it changes with entries that name the user
whose call it is, but for a first send by hand.
-/

namespace Heritage.Office

open Heritage.Store
open Heritage.Invitations (Platform SendOrResendInput)

inductive Feature where
  | leads
  | assignments
  | proposals
  | newBookings
  | bookingStatuses
  | payments
  | invitations
  deriving DecidableEq, Repr

/-- A row of `audit_log`, as the feature that writes it sees it. -/
inductive Entry where
  | lead (entry : Leads.AuditLog)
  | assignment (entry : Assignments.AuditLog)
  | proposal (entry : Proposals.AuditLog)
  | newBooking (entry : Journeys.BookingCreatedAuditLog)
  | bookingStatus (entry : Bookings.BookingAuditLog)
  | payment (entry : Payments.AuditLog)
  | invitation (entry : Invitations.AuditLog)

/-- The column `actorId`; the entry of a recipient without an account has
none. -/
def Entry.actorId : Entry → Option Uuid
  | .lead entry => some entry.actorId
  | .assignment entry => some entry.actorId
  | .proposal entry => some entry.actorId
  | .newBooking entry => some entry.actorId
  | .bookingStatus entry => some entry.actorId
  | .payment entry => some entry.actorId
  | .invitation entry =>
      match entry.actor with
      | .user actorId => some actorId
      | .anonymous => none

/-- The entries of a feature, oldest first. -/
def auditLog (feature : Feature) (database : Database) : List Entry :=
  match feature with
  | .leads => database.desk.clients.tables.auditLogs.map .lead
  | .assignments => database.desk.auditLogs.map .assignment
  | .proposals => database.journeys.proposing.auditLogs.map .proposal
  | .newBookings => database.journeys.creationLogs.map .newBooking
  | .bookingStatuses => database.journeys.booking.auditLogs.map .bookingStatus
  | .payments => database.journeys.booking.ledger.auditLogs.map .payment
  | .invitations => database.conversations.portal.auditLogs.map .invitation

/-- The entry names the user. -/
def Names (userId : Uuid) (entry : Entry) : Prop :=
  entry.actorId = some userId

section Parts

variable (database : Database)

def putClients (clients : Clients.Repository.Database) : Database :=
  { database with desk := { database.desk with clients := clients } }

def putDesk (desk : Assignments.Tables) : Database :=
  { database with desk := desk }

def putProposing (proposing : Proposals.PortalTables) : Database :=
  { database with
    journeys := { database.journeys with proposing := proposing } }

def putJourneys (journeys : Journeys.Database) : Database :=
  { database with journeys := journeys }

def putBooking (booking : Bookings.Database) : Database :=
  { database with
    journeys := { database.journeys with booking := booking } }

def putLedger (ledger : Payments.Tables) : Database :=
  { database with
    journeys :=
      { database.journeys with
        booking := { database.journeys.booking with ledger := ledger } } }

def putPortal (portal : Invitations.Tables) : Database :=
  { database with
    conversations := { database.conversations with portal := portal } }

end Parts

section Attempts

variable {platform : Platform} {database : Database}
  {user : AuthenticatedUser}

/-- The change is documented by entries that name the user. -/
def DocumentedBy (userId : Uuid) : Database → Database → Prop :=
  AllDocumented auditLog (Names userId)

theorem documentedBy_refl {userId : Uuid} :
    DocumentedBy userId database database where
  continued := fun _ => continues_of_eq rfl
  silent := fun _ => rfl

theorem clients_documented {userId : Uuid}
    {clients : Clients.Repository.Database}
    (documented :
      Documented Clients.auditLogs (fun entry => entry.actorId = userId)
        database.desk.clients clients) :
    DocumentedBy userId database (putClients database clients) := by
  apply
    documented.inPart Entry.lead (fun _ _ same => Entry.lead.inj same)
      (putClients database) .leads rfl (fun _ => rfl)
  · intro other different
    cases other with
    | leads => exact absurd rfl different
    | _ => rfl
  · intro entry names
    exact congrArg some names

theorem desk_documented {userId : Uuid} {desk : Assignments.Tables}
    (documented : Assignments.DocumentedBy userId database.desk desk)
    (sameLeads :
      desk.clients.tables.auditLogs =
        database.desk.clients.tables.auditLogs) :
    DocumentedBy userId database (putDesk database desk) := by
  apply
    documented.inPart Entry.assignment
      (fun _ _ same => Entry.assignment.inj same)
      (putDesk database) .assignments rfl (fun _ => rfl)
  · intro other different
    cases other with
    | assignments => exact absurd rfl different
    | leads => exact congrArg (List.map Entry.lead) sameLeads
    | _ => rfl
  · intro entry names
    exact congrArg some names

/-- The proposals and their responses share their entries. -/
theorem proposing_documented {userId : Uuid} {stored : Proposals.PortalTables}
    (documented :
      Documented Proposals.portalLogs (fun entry => entry.actorId = userId)
        database.journeys.proposing stored) :
    DocumentedBy userId database (putProposing database stored) := by
  apply
    documented.inPart Entry.proposal (fun _ _ same => Entry.proposal.inj same)
      (putProposing database) .proposals rfl (fun _ => rfl)
  · intro other different
    cases other with
    | proposals => exact absurd rfl different
    | _ => rfl
  · intro entry names
    exact congrArg some names

theorem newBooking_documented {userId : Uuid} {stored : Journeys.Database}
    (documented :
      Documented Journeys.Database.creationLogs
        (fun entry => entry.actorId = userId) database.journeys stored)
    (others : Journeys.OtherLogsKept database.journeys stored) :
    DocumentedBy userId database (putJourneys database stored) := by
  apply
    documented.inPart Entry.newBooking
      (fun _ _ same => Entry.newBooking.inj same)
      (putJourneys database) .newBookings rfl (fun _ => rfl)
  · intro other different
    cases other with
    | newBookings => exact absurd rfl different
    | proposals =>
        exact
          congrArg (fun proposing => (Proposals.portalLogs proposing).map
            Entry.proposal) others.proposing
    | bookingStatuses =>
        exact congrArg (List.map Entry.bookingStatus) others.statuses
    | payments => exact congrArg (List.map Entry.payment) others.payments
    | _ => rfl
  · intro entry names
    exact congrArg some names

theorem booking_documented {userId : Uuid} {stored : Bookings.Database}
    (documented :
      Documented Bookings.Database.auditLogs
        (fun entry => entry.actorId = userId) database.journeys.booking
        stored)
    (samePayments :
      stored.ledger.auditLogs = database.journeys.booking.ledger.auditLogs) :
    DocumentedBy userId database (putBooking database stored) := by
  apply
    documented.inPart Entry.bookingStatus
      (fun _ _ same => Entry.bookingStatus.inj same)
      (putBooking database) .bookingStatuses rfl (fun _ => rfl)
  · intro other different
    cases other with
    | bookingStatuses => exact absurd rfl different
    | payments => exact congrArg (List.map Entry.payment) samePayments
    | _ => rfl
  · intro entry names
    exact congrArg some names

theorem ledger_documented {userId : Uuid} {stored : Payments.Tables}
    (documented :
      Payments.DocumentedBy userId database.journeys.booking.ledger stored) :
    DocumentedBy userId database (putLedger database stored) := by
  apply
    documented.inPart Entry.payment (fun _ _ same => Entry.payment.inj same)
      (putLedger database) .payments rfl (fun _ => rfl)
  · intro other different
    cases other with
    | payments => exact absurd rfl different
    | _ => rfl
  · intro entry names
    exact congrArg some names

/-- The portal's entries name a user or nobody. -/
theorem portal_documented {actor : Invitations.AuditActor}
    {allowed : Entry → Prop} {stored : Invitations.Tables}
    (documented :
      Invitations.DocumentedBy actor database.conversations.portal stored)
    (carried :
      ∀ entry : Invitations.AuditLog,
        entry.actor = actor → allowed (.invitation entry)) :
    AllDocumented auditLog allowed database (putPortal database stored) := by
  apply
    documented.inPart Entry.invitation
      (fun _ _ same => Entry.invitation.inj same)
      (putPortal database) .invitations rfl (fun _ => rfl)
  · intro other different
    cases other with
    | invitations => exact absurd rfl different
    | _ => rfl
  · exact carried

theorem names_of_actor {userId : Uuid} {entry : Invitations.AuditLog}
    (isActor : entry.actor = .user userId) :
    Names userId (.invitation entry) := by
  simp only [Names, Entry.actorId, isActor]

/-! ## Attempts -/

theorem id_of_leadActor {leadActor : Leads.Repository.LeadActor}
    (isActor : Leads.assertLeadActor user = .ok leadActor) :
    leadActor.id = user.id := by
  unfold Leads.assertLeadActor at isActor
  split at isActor <;> cases isActor <;> rfl

theorem id_of_clientActor {clientActor : Clients.Repository.ClientActor}
    (isActor : Clients.assertClientActor user = .ok clientActor) :
    clientActor.id = user.id := by
  unfold Clients.assertClientActor at isActor
  split at isActor <;> cases isActor <;> rfl

theorem id_of_viewer {viewer : Proposals.ProposalActor}
    (isViewer : Proposals.assertProposalViewerActor user = .ok viewer) :
    viewer.id = user.id := by
  unfold Proposals.assertProposalViewerActor at isViewer
  split at isViewer
  · cases isViewer
    rfl
  · cases isViewer
    rfl
  · cases isViewer

theorem actorId_of_admitted {waiting : Clients.Waiting}
    (admitted : Admitted user (.clients waiting)) :
    waiting.actorId = user.id := by
  cases waiting with
  | createLead leadActor input duplicates =>
      exact id_of_leadActor admitted
  | updateLead prepared =>
      exact id_of_leadActor admitted
  | updateLeadStatus leadActor id input =>
      exact id_of_leadActor admitted
  | convertLead leadActor id input =>
      exact id_of_leadActor admitted
  | updateClient actor clientActor id input =>
      exact id_of_clientActor admitted.2

/-- The entries of proposals stand beside what the authors do not touch. -/
theorem portalLogs_documented {userId : Uuid}
    {proposing : Proposals.PortalTables} {stored : Proposals.Tables}
    (documented :
      Proposals.DocumentedBy userId proposing.toTables stored) :
    Documented Proposals.portalLogs (fun entry => entry.actorId = userId)
      proposing { proposing with toTables := stored } where
  continued := documented.continued
  silent := by
    intro same
    rw [documented.silent same]

theorem journey_audited {context : Journeys.AttemptContext}
    {call : Journeys.Call} {number : Nat}
    (admitted : Admitted user (.journeys call number)) :
    DocumentedBy user.id database
      (putJourneys database
        (Journeys.attempt context call number database.journeys).2) := by
  cases call with
  | author author operation =>
      rw [← author_id admitted]
      exact
        proposing_documented
          (portalLogs_documented
            (Proposals.attempt_documented operation number))
  | recordProposalResponse actor versionId input =>
      rw [← id_of_viewer admitted]
      exact
        proposing_documented
          (transact_leaves documented_refl
            (Proposals.recordProposalResponseTransaction_documented actor
              versionId input))
  | submitClientProposalResponse actor ownedClientId input =>
      rw [← admitted.1]
      exact
        proposing_documented
          (transact_leaves documented_refl
            (Proposals.submitClientProposalResponseTransaction_documented actor
              ownedClientId input))
  | createBooking actor input =>
      rw [← Bookings.id_of_assertBookingActor admitted]
      have documented :=
        @Journeys.createBookingAttempt_documented context database.journeys
          actor input number
      exact newBooking_documented documented.1 documented.2
  | readRaced actor input =>
      exact documentedBy_refl
  | updateBookingStatus actor id input =>
      obtain rfl : actor = user := admitted
      have documented :=
        @Bookings.updateBookingStatus_documented context.toRequestContext
          database.journeys.booking actor id input
      exact booking_documented documented.1 documented.2

/-- The first send by hand changes invitations and is audited when it is
confirmed. -/
def HandSend (call : Call) (before after : Database) : Prop :=
  ∃ clientId input invitations,
    call = .invitation (.sendInvitation clientId input) ∧
      input.deliveryMethod ≠ .automatedEmail ∧
        after =
          putPortal before
            (Invitations.withInvitations invitations
              before.conversations.portal)

theorem reserveSend_audited {context : RequestContext} {rawToken : String}
    {clientId : Uuid} {input : SendOrResendInput}
    {kind : Invitations.ReservationKind} {tables : Invitations.Tables} :
    Invitations.ReservationDocumented input kind (.user user.id) tables
      (reserveSend platform context rawToken user clientId input kind
        tables).2 := by
  exact
    transact_leaves (Or.inl documented_refl)
      (Invitations.reserveSendOperationTransaction_documented rawToken input
        kind)

theorem invitation_audited {context : RequestContext} {rawToken : String}
    (operation : InvitationOperation) :
    let after :=
      putPortal database
        (attemptInvitation platform context rawToken user
          database.conversations.portal operation).2
    DocumentedBy user.id database after ∨
      HandSend (.invitation operation) database after := by
  intro after
  have named :
      ∀ {stored : Invitations.Tables},
        Invitations.DocumentedBy (.user user.id)
            database.conversations.portal stored →
          DocumentedBy user.id database (putPortal database stored) :=
    fun documented => portal_documented documented fun _ => names_of_actor
  cases operation with
  | prepareInvitation clientId =>
      left
      exact
        named
          (transact_leaves documented_refl
            Invitations.prepareInvitationTransaction_documented)
  | sendInvitation clientId input =>
      rcases
        @reserveSend_audited platform user context rawToken clientId input
          Invitations.firstSend database.conversations.portal with
        documented | ⟨byHand, -, invitations, changed⟩
      · exact Or.inl (named documented)
      · right
        exact
          ⟨clientId, input, invitations, rfl, byHand,
            congrArg (putPortal database) changed⟩
  | resendInvitation clientId input concurrency =>
      rcases
        @reserveSend_audited platform user context rawToken clientId input
          (Invitations.resend concurrency) database.conversations.portal with
        documented | ⟨-, isFirst, -⟩
      · exact Or.inl (named documented)
      · cases isFirst
  | confirmManualSend clientId idempotencyKey =>
      left
      exact
        named
          (transact_leaves documented_refl
            (Invitations.confirmManualSendTransaction_documented
              idempotencyKey))
  | revokeInvitation clientId reason =>
      left
      exact
        named
          (transact_leaves documented_refl
            (Invitations.revokeInvitationTransaction_documented reason))

/-- An attempt accounts for what it writes in the name of the user whose call
waits, or is a first send by hand. -/
theorem attempt_audited {context : Journeys.AttemptContext}
    {rawToken : String} {call : Call} (admitted : Admitted user call) :
    let after := (attempt platform context rawToken database user call).database
    DocumentedBy user.id database after ∨ HandSend call database after := by
  intro after
  cases call with
  | clients waiting =>
      left
      rw [← actorId_of_admitted admitted]
      exact clients_documented (Clients.attempt_documented waiting)
  | journeys call number =>
      exact Or.inl (journey_audited admitted)
  | invitation operation =>
      exact invitation_audited operation
  | payment operation =>
      exact Or.inl (ledger_documented (Payments.perform_documented operation))

end Attempts

end Heritage.Office
