import Heritage.Invitations.System
import Heritage.Store.Trail

/-!
# The audit entries of invitations

Staff operations account for what they write, but for the first send by hand,
which is audited when it is confirmed.  A recipient's step accounts for itself.
What the provider reports is not audited: it changes no column but those of
the delivery evidence.
-/

namespace Heritage.Invitations

open Heritage.Store
open Repository

/-- The tables with other invitations. -/
def withInvitations (invitations : List InvitationRecord) (tables : Tables) :
    Tables :=
  { tables with invitations := invitations }

/-- The row without the columns that reports about its delivery write. -/
def withoutEvidence (row : InvitationRecord) : InvitationRecord :=
  { row with
    deliveryState := .notAttempted
    providerMessageId := none
    updatedAt := 0 }

/-- Nothing but the evidence of deliveries changed. -/
def OnlyEvidence (before after : Tables) : Prop :=
  ∃ invitations,
    invitations.map withoutEvidence =
        before.invitations.map withoutEvidence ∧
      after = withInvitations invitations before

section Writes

variable {tables : Tables} {now : Timestamp}

theorem updateInvitation_leaves (id : Uuid)
    (data : InvitationRecord → InvitationRecord) :
    Leaves (updateInvitation tables now id data) fun written =>
      written =
        withInvitations
          (updateBy InvitationRecord.id id (stamped now data)
            tables.invitations)
          tables := by
  iterate 2
    apply leaves_bind
    intro _ _
  exact leaves_ok rfl

theorem updateInvitation_keeps_log (id : Uuid)
    (data : InvitationRecord → InvitationRecord) :
    Leaves (updateInvitation tables now id data) fun written =>
      written.auditLogs = tables.auditLogs := by
  intro row written succeeds
  rw [updateInvitation_leaves id data row written succeeds]
  rfl

theorem updateInvitationWhere_leaves (id : Uuid)
    (condition : InvitationRecord → Bool)
    (data : InvitationRecord → InvitationRecord) :
    Leaves (updateInvitationWhere tables now id condition data)
      fun written =>
        written = tables ∨
          written =
            withInvitations
              (updateBy InvitationRecord.id id (stamped now data)
                tables.invitations)
              tables := by
  unfold updateInvitationWhere
  split
  · exact leaves_ok (Or.inl rfl)
  · refine leaves_seq (updateInvitation_leaves _ _) ?_
    intro row written rewritten
    exact leaves_ok (Or.inr rewritten)

theorem createInvitation_leaves (context : RequestContext)
    (clientId : Uuid) :
    Leaves (createInvitation tables context clientId) fun written =>
      written.auditLogs = tables.auditLogs := by
  iterate 3
    apply leaves_bind
    intro _ _
  exact leaves_ok rfl

theorem recordReservation_leaves (id : Uuid)
    (concurrency : Option ResendConcurrencyPrecondition)
    (reservation : SendReservationInput) :
    Leaves (recordReservation tables now id concurrency reservation)
      fun written =>
        ∃ invitations, written = withInvitations invitations tables := by
  unfold recordReservation
  cases concurrency with
  | none =>
      intro row written succeeds
      exact ⟨_, updateInvitation_leaves _ _ row written succeeds⟩
  | some precondition =>
      refine leaves_seq (updateInvitationWhere_leaves _ _ _) ?_
      intro conditional written rewritten
      apply leaves_bind
      intro updated _
      apply leaves_ok
      rcases rewritten with unchanged | changed
      · exact ⟨tables.invitations, unchanged⟩
      · exact ⟨_, changed⟩

/-- A report about a delivery writes the evidence. -/
theorem onlyEvidence_updateBy (id : Uuid)
    (deliveryState : PortalInvitationDeliveryState)
    (messageId : Option MessageId) :
    OnlyEvidence tables
      (withInvitations
        (updateBy InvitationRecord.id id
          (stamped now (withDelivery deliveryState messageId))
          tables.invitations)
        tables) := by
  refine ⟨_, ?_, rfl⟩
  apply map_updateBy_of_kept
  intro row
  rfl

theorem onlyEvidence_refl : OnlyEvidence tables tables :=
  ⟨tables.invitations, rfl, rfl⟩

theorem updateDeliveryWhere_leaves (id : Uuid)
    (condition : InvitationRecord → Bool)
    (deliveryState : PortalInvitationDeliveryState)
    (messageId : Option MessageId) :
    Leaves
      (updateInvitationWhere tables now id condition
        (withDelivery deliveryState messageId))
      (OnlyEvidence tables) := by
  intro row written succeeds
  rcases updateInvitationWhere_leaves _ _ _ row written succeeds with
    unchanged | changed
  · rw [unchanged]
    exact onlyEvidence_refl
  · rw [changed]
    exact onlyEvidence_updateBy id deliveryState messageId

end Writes

/-- The change is documented by entries of one actor. -/
def DocumentedBy (actor : AuditActor) : Tables → Tables → Prop :=
  Documented Tables.auditLogs fun entry => entry.actor = actor

section Staff

variable {platform : Platform} {context : RequestContext}
  {actor : AuthenticatedUser} {clientId : Uuid} {tables : Tables}

theorem prepareInvitationTransaction_documented :
    Leaves (prepareInvitationTransaction context actor clientId tables)
      (DocumentedBy (.user actor.id) tables) := by
  apply leaves_bind
  intro _ _
  dsimp only
  split
  · apply leaves_bind
    intro _ _
    exact leaves_ok documented_refl
  · apply leaves_bind
    intro _ _
    refine leaves_seq (createInvitation_leaves _ _) ?_
    intro created written same
    exact leaves_ok (documented_insert (continues_of_eq same) rfl rfl)

/-- A reservation is documented, unless it is a first send by hand; then
only invitations changed. -/
def ReservationDocumented (input : SendOrResendInput) (kind : ReservationKind)
    (actor : AuditActor) (before after : Tables) : Prop :=
  DocumentedBy actor before after ∨
    input.deliveryMethod ≠ .automatedEmail ∧ kind.alwaysAudit = false ∧
      ∃ invitations, after = withInvitations invitations before

theorem reserveSendOperationTransaction_documented (rawToken : String)
    (input : SendOrResendInput) (kind : ReservationKind) :
    Leaves
      (reserveSendOperationTransaction platform context rawToken actor
        clientId input kind tables)
      (ReservationDocumented input kind (.user actor.id) tables) := by
  apply leaves_bind
  intro _ _
  apply leaves_bind
  intro invitation _
  dsimp only
  split
  · exact leaves_ok (Or.inl documented_refl)
  · iterate 2
      apply leaves_bind
      intro _ _
    apply leaves_bind
    intro email _
    refine leaves_seq (recordReservation_leaves _ _ _) ?_
    intro updated written rewritten
    obtain ⟨invitations, changed⟩ := rewritten
    have same : written.auditLogs = tables.auditLogs := by
      rw [changed]
      rfl
    apply leaves_ok
    split
    next =>
      exact Or.inl (documented_insert (continues_of_eq same) rfl rfl)
    next unaudited =>
      obtain ⟨byHand, first⟩ := not_or.mp unaudited
      exact Or.inr ⟨byHand, by simpa using first, invitations, changed⟩

theorem confirmManualSendTransaction_documented (idempotencyKey : Uuid) :
    Leaves
      (confirmManualSendTransaction context actor clientId idempotencyKey
        tables)
      (DocumentedBy (.user actor.id) tables) := by
  apply leaves_bind
  intro _ _
  apply leaves_bind
  intro invitation _
  dsimp only
  split
  · exact leaves_ok documented_refl
  · apply leaves_bind
    intro _ _
    refine leaves_seq (updateInvitation_keeps_log _ _) ?_
    intro updated written same
    exact leaves_ok (documented_insert (continues_of_eq same) rfl rfl)

theorem revokeInvitationTransaction_documented (reason : String) :
    Leaves
      (revokeInvitationTransaction context actor clientId reason tables)
      (DocumentedBy (.user actor.id) tables) := by
  apply leaves_bind
  intro _ _
  apply leaves_bind
  intro invitation _
  dsimp only
  split
  · exact leaves_ok documented_refl
  · apply leaves_bind
    intro _ _
    refine leaves_seq (updateInvitation_keeps_log _ _) ?_
    intro updated written same
    exact leaves_ok (documented_insert (continues_of_eq same) rfl rfl)

end Staff

section Provider

variable {now : Timestamp} {tables : Tables}

theorem attemptAutomatedDelivery_evidence (attempt : SendAttempt)
    (outcome : SendOutcome) :
    OnlyEvidence tables
      (attemptAutomatedDelivery now attempt outcome tables).2 := by
  unfold attemptAutomatedDelivery
  cases outcome.resolved with
  | none =>
      exact onlyEvidence_refl
  | some resolved =>
      dsimp only
      apply transact_leaves onlyEvidence_refl
      cases resolved with
      | automatedAccepted messageId =>
          exact updateDeliveryWhere_leaves _ _ _ _
      | providerFailed =>
          exact updateDeliveryWhere_leaves _ _ _ _

theorem webhookTransaction_evidence (event : VerifiedWebhookEvent)
    (messageId : MessageId) :
    Leaves (webhookTransaction now event messageId tables)
      (OnlyEvidence tables) := by
  unfold webhookTransaction
  split
  · exact leaves_ok onlyEvidence_refl
  · exact leaves_ok onlyEvidence_refl
  next target _ =>
    split
    · exact updateDeliveryWhere_leaves _ _ _ _
    next terminalState _ =>
      refine leaves_seq (updateInvitation_leaves _ _) ?_
      intro row written rewritten
      apply leaves_ok
      rw [rewritten]
      exact onlyEvidence_updateBy target.id terminalState (some messageId)

theorem handleResendWebhookEvent_evidence
    (verified : Option VerifiedWebhookEvent) :
    OnlyEvidence tables
      (handleResendWebhookEvent now verified tables).2 := by
  unfold handleResendWebhookEvent
  cases verified with
  | none =>
      exact onlyEvidence_refl
  | some event =>
      dsimp only
      cases appliedEvent event with
      | none =>
          exact onlyEvidence_refl
      | some messageId =>
          exact
            transact_leaves onlyEvidence_refl
              (webhookTransaction_evidence event messageId)

end Provider

end Heritage.Invitations

namespace Heritage.Activation

open Heritage.Store
open Heritage.Invitations
open Heritage.Invitations.Repository
open Repository

variable {platform : Platform} {tables : Tables}

theorem continueInvitation_documented (now : Timestamp) (rawToken : String) :
    DocumentedBy .anonymous tables
      (continueInvitation platform now rawToken tables).2 := by
  apply transact_leaves documented_refl
  apply leaves_bind
  intro invitation _
  apply leaves_bind
  intro _ _
  dsimp only
  split
  · exact leaves_ok documented_refl
  · refine leaves_seq (updateInvitationWhere_leaves _ _ _) ?_
    intro marked written rewritten
    apply leaves_bind
    intro updated _
    have same : written.auditLogs = tables.auditLogs := by
      rcases rewritten with unchanged | changed
      · rw [unchanged]
      · rw [changed]
        rfl
    exact leaves_ok (documented_insert (continues_of_eq same) rfl rfl)

theorem createActivatedAccount_keeps_log {context : RequestContext}
    {input : CreateActivatedAccountInput} {created : ActivatedAccountRecord}
    {withAccount : Tables}
    (creates :
      createActivatedAccount platform context tables input =
        .ok (created, withAccount)) :
    created.userId = context.randomUuid 0 ∧
      withAccount.auditLogs = tables.auditLogs := by
  simp only [createActivatedAccount, bind_eq_ok, Except.ok.injEq,
    Prod.mk.injEq] at creates
  obtain ⟨-, -, -, -, -, -, -, -, -, -, -, -, -, -, rfl, rfl⟩ := creates
  exact ⟨rfl, rfl⟩

/-- An activation is documented by the user it creates. -/
theorem activateAccount_documented (context : RequestContext)
    (rawToken passwordHash : String) :
    DocumentedBy (.user (context.randomUuid 0)) tables
      (activateAccount platform context rawToken passwordHash tables).2 := by
  unfold activateAccount
  apply transact_leaves documented_refl
  apply leaves_bind
  intro invitation _
  iterate 5
    apply leaves_bind
    intro _ _
  apply leaves_bind
  intro created creates
  obtain ⟨isUser, sameBefore⟩ := createActivatedAccount_keeps_log creates
  refine leaves_seq (updateInvitation_keeps_log _ _) ?_
  intro updatedInvitation written same
  have unlogged : written.auditLogs = tables.auditLogs :=
    same.trans sameBefore
  apply leaves_ok
  exact
    documented_insert (continues_of_eq unlogged) rfl
      (congrArg AuditActor.user isUser)

end Heritage.Activation
