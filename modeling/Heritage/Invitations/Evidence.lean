import Heritage.Invitations.Commits

/-!
# The evidence constraints

Stored rows satisfy the CHECK constraints, and each guarded write keeps them.
One write is not guarded enough: a terminal webhook takes the row its tag
names, and a tag may name a row that was confirmed manually.
-/

namespace Heritage.Invitations

open Heritage.Store
open Repository

section Row

variable {row : InvitationRecord}

@[simp]
theorem evidenceConsistent_stamped {now : Timestamp}
    {data : InvitationRecord → InvitationRecord} :
    EvidenceConsistent (stamped now data row) ↔
      EvidenceConsistent (data row) := by
  simp only [evidenceConsistent_iff, stamped]

theorem evidenceConsistent_prepared (id clientId : Uuid) (now : Timestamp) :
    EvidenceConsistent (preparedRow id clientId now) := by
  simp [evidenceConsistent_iff, preparedRow, redeemableStatuses,
    automatedStates, providerConfirmedStates]

/-- A reservation overwrites every column the constraints mention. -/
theorem evidenceConsistent_reserved (input : SendReservationInput) :
    EvidenceConsistent (sendReservationData input row) := by
  cases automated : input.automated with
  | none =>
      simp [evidenceConsistent_iff, sendReservationData, automated,
        automatedStates, providerConfirmedStates]
  | some sendOperationId =>
      simp [evidenceConsistent_iff, sendReservationData, automated,
        providerConfirmedStates]

/-- A state of the automated channel belongs to an automated row. -/
theorem automated_of_mem_automatedStates
    (consistent : EvidenceConsistent row)
    (automatedState : row.deliveryState ∈ automatedStates) :
    row.deliveryMethod = some .automatedEmail := by
  have attempted : row.deliveryMethod ≠ none := by
    intro unattempted
    rw [consistent.deliveryMethodPresence.mp unattempted] at automatedState
    revert automatedState
    decide
  obtain ⟨deliveryMethod, known⟩ := Option.ne_none_iff_exists'.mp attempted
  have required := consistent.providerStatesRequireAutomated
  rw [known] at required ⊢
  simpa [automatedState] using required

theorem manual_of_confirmed (consistent : EvidenceConsistent row)
    (confirmed : row.deliveryState = .manuallyConfirmed) :
    row.deliveryMethod = some .manualEmail := by
  have attempted : row.deliveryMethod ≠ none := by
    intro unattempted
    rw [consistent.deliveryMethodPresence.mp unattempted] at confirmed
    cases confirmed
  obtain ⟨deliveryMethod, known⟩ := Option.ne_none_iff_exists'.mp attempted
  have required := consistent.manualConfirmedRequiresManual
  rw [known] at required ⊢
  simpa [confirmed] using required

/-- An automated row takes any provider state together with a message id, and
a failure without one. -/
theorem evidenceConsistent_withDelivery
    {deliveryState : PortalInvitationDeliveryState}
    {providerMessageId : Option MessageId}
    (consistent : EvidenceConsistent row)
    (automated : row.deliveryMethod = some .automatedEmail)
    (providerState : deliveryState ∈ automatedStates)
    (identified :
      deliveryState ∈ providerConfirmedStates → providerMessageId ≠ none) :
    EvidenceConsistent
      (withDelivery deliveryState providerMessageId row) := by
  have attempted : row.deliveryState ≠ .notAttempted := by
    intro unattempted
    rw [consistent.deliveryMethodPresence.mpr unattempted] at automated
    cases automated
  have notManual : row.deliveryState ≠ .manuallyConfirmed := by
    intro confirmed
    rw [manual_of_confirmed consistent confirmed] at automated
    cases automated
  have hasOperation : row.sendOperationId ≠ none :=
    fun missing => attempted (consistent.sendOperationIdPresence.mp missing)
  have unconfirmed :
      row.deliveryConfirmedAt = none ∧
        row.deliveryConfirmedByStaffId = none := by
    rcases consistent.manualConfirmationEvidence with
      ⟨-, -, confirmed⟩ | ⟨noTime, noStaff, -⟩
    · exact absurd confirmed notManual
    · exact ⟨noTime, noStaff⟩
  have newState :
      deliveryState ≠ .notAttempted ∧
        deliveryState ≠ .manuallyConfirmed := by
    constructor <;> rintro rfl <;> revert providerState <;> decide
  exact
    { tokenTripleNullability := consistent.tokenTripleNullability
      redeemableRequiresToken := consistent.redeemableRequiresToken
      deliveryMethodPresence := by
        simp [withDelivery, automated, newState.1]
      providerStatesRequireAutomated :=
        Or.inr (by simp [withDelivery, automated])
      manualConfirmedRequiresManual := Or.inl newState.2
      providerMessageIdAutomatedOnly := Or.inr automated
      providerConfirmedRequiresMessageId :=
        Decidable.not_or_of_imp identified
      manualConfirmationEvidence :=
        Or.inr ⟨unconfirmed.1, unconfirmed.2, newState.2⟩
      sendOperationIdPresence := by
        simp [withDelivery, hasOperation, newState.1] }

theorem mem_automatedStates_of_terminal {type : WebhookEventType}
    {terminalState : PortalInvitationDeliveryState}
    (terminal : providerTerminalState type = some terminalState) :
    terminalState ∈ automatedStates := by
  cases type <;> cases terminal <;> decide

theorem evidenceConsistent_confirmed (input : ManualConfirmationInput)
    (consistent : EvidenceConsistent row)
    (unattempted : row.deliveryMethod = none) :
    EvidenceConsistent (input.data row) where
  tokenTripleNullability := consistent.tokenTripleNullability
  redeemableRequiresToken := consistent.redeemableRequiresToken
  deliveryMethodPresence := by simp [ManualConfirmationInput.data]
  providerStatesRequireAutomated := by
    simp [ManualConfirmationInput.data, automatedStates]
  manualConfirmedRequiresManual := Or.inr rfl
  providerMessageIdAutomatedOnly := by
    rcases consistent.providerMessageIdAutomatedOnly with
      noMessage | automated
    · exact Or.inl noMessage
    · rw [unattempted] at automated
      cases automated
  providerConfirmedRequiresMessageId := by
    simp [ManualConfirmationInput.data, providerConfirmedStates]
  manualConfirmationEvidence := by
    simp [ManualConfirmationInput.data]
  sendOperationIdPresence := by simp [ManualConfirmationInput.data]

theorem evidenceConsistent_revoked (revokedAt : Timestamp)
    (consistent : EvidenceConsistent row) :
    EvidenceConsistent (revoked revokedAt row) :=
  { consistent with
    tokenTripleNullability := Or.inl ⟨rfl, rfl, rfl⟩
    redeemableRequiresToken := by simp [revoked, redeemableStatuses] }

theorem hasToken_of_redeemable (consistent : EvidenceConsistent row)
    (redeemable : row.status ∈ redeemableStatuses) :
    row.tokenHash ≠ none :=
  consistent.redeemableRequiresToken.resolve_left
    (not_not_intro redeemable)

theorem evidenceConsistent_opened (openedAt : Timestamp)
    (consistent : EvidenceConsistent row)
    (isSent : row.status = .invitationSent) :
    EvidenceConsistent (opened openedAt row) := by
  have redeemable : row.status ∈ redeemableStatuses := by
    rw [isSent]
    decide
  have hasToken := hasToken_of_redeemable consistent redeemable
  exact { consistent with redeemableRequiresToken := Or.inr hasToken }

theorem evidenceConsistent_activated (activatedAt : Timestamp)
    (consistent : EvidenceConsistent row)
    (redeemable : row.status ∈ redeemableStatuses) :
    EvidenceConsistent (activated activatedAt row) := by
  have hasToken := hasToken_of_redeemable consistent redeemable
  exact { consistent with redeemableRequiresToken := Or.inr hasToken }

/-- Every write but that of a terminal webhook keeps a consistent row
consistent, and that one does on an automated row. -/
theorem evidenceConsistent_of_written
    {data : InvitationRecord → InvitationRecord} {entry : Option Entry}
    (consistent : EvidenceConsistent row) (written : RowWritten row data entry)
    (automated :
      ∀ event, entry = some (.reported row.id event) →
        (providerTerminalState event.type).isSome →
          row.deliveryMethod = some .automatedEmail) :
    EvidenceConsistent (data row) := by
  have unconfirmedAutomated :
      row.deliveryState = .automatedUnconfirmed →
        row.deliveryMethod = some .automatedEmail := by
    intro unconfirmed
    apply automated_of_mem_automatedStates consistent
    rw [unconfirmed]
    decide
  cases written with
  | reserved input =>
      exact evidenceConsistent_reserved input
  | resolved sendOperationId outcome current unconfirmed =>
      cases outcome with
      | automatedAccepted messageId =>
          exact
            evidenceConsistent_withDelivery consistent
              (unconfirmedAutomated unconfirmed) (by decide)
              (by simp)
      | providerFailed =>
          exact
            evidenceConsistent_withDelivery consistent
              (unconfirmedAutomated unconfirmed) (by decide)
              (absurd · (by decide))
  | reconciled event messageId reconciling correlated unconfirmed =>
      exact
        evidenceConsistent_withDelivery consistent
          (unconfirmedAutomated unconfirmed) (by decide)
          (by simp)
  | delivered event messageId terminalState terminal correlated =>
      exact
        evidenceConsistent_withDelivery consistent
          (automated event rfl (Option.isSome_of_eq_some terminal))
          (mem_automatedStates_of_terminal terminal) (by simp)
  | confirmed input isSent unattempted =>
      exact evidenceConsistent_confirmed input consistent unattempted
  | revoked revokedAt =>
      exact evidenceConsistent_revoked revokedAt consistent
  | opened openedAt isSent =>
      exact evidenceConsistent_opened openedAt consistent isSent
  | activated activatedAt redeemable =>
      exact evidenceConsistent_activated activatedAt consistent redeemable

/-- A provider state on a manually confirmed row violates a constraint. -/
theorem not_evidenceConsistent_withDelivery
    {deliveryState : PortalInvitationDeliveryState}
    {providerMessageId : Option MessageId}
    (manual : row.deliveryMethod = some .manualEmail)
    (providerState : deliveryState ∈ automatedStates) :
    ¬ EvidenceConsistent
      (withDelivery deliveryState providerMessageId row) := by
  intro consistent
  have automated := automated_of_mem_automatedStates consistent providerState
  rw [show (withDelivery deliveryState providerMessageId row).deliveryMethod =
    row.deliveryMethod from rfl, manual] at automated
  cases automated

end Row

/-- The ids are distinct and every row satisfies the constraints. -/
structure Stored (tables : Tables) : Prop where
  unique : UniqueIds tables
  consistent : ∀ row ∈ tables.invitations, EvidenceConsistent row

variable {platform : Platform} {tables : Tables} {state : State}
  {request : Request}

theorem consistent_of_invitationsWritten {entry : Option Entry}
    {invitations : List InvitationRecord} (stored : Stored tables)
    (written : InvitationsWritten tables entry invitations) :
    ∀ row ∈ invitations, EvidenceConsistent row := by
  cases written with
  | unchanged =>
      exact stored.consistent
  | prepared id clientId now freshId =>
      intro row member
      rcases List.mem_append.mp member with old | new
      · exact stored.consistent row old
      · rw [List.mem_singleton.mp new]
        exact evidenceConsistent_prepared id clientId now
  | updated row now found written consistent =>
      exact
        forall_mem_updateBy stored.unique found consistent
          fun other member _ => stored.consistent other member

theorem step_stored (stored : Stored state.tables) (request : Request) :
    Stored (step platform state request).tables where
  unique := step_uniqueIds stored.unique request
  consistent :=
    consistent_of_invitationsWritten stored
      (step_written stored.unique request)

theorem stored_initial : Stored State.initial.tables where
  unique := List.nodup_nil
  consistent := by
    intro row member
    cases member

theorem stateAfter_stored (platform : Platform) (requests : List Request) :
    Stored (stateAfter platform requests).tables :=
  @run_invariant _ _ (step platform) (fun state => Stored state.tables)
    State.initial stored_initial
    (fun _ request stored => step_stored stored request) requests

section Avoiding

@[simp]
theorem invitationError_ne_checkViolation (code : InvitationErrorCode)
    (message : String) : invitationError code message ≠ .checkViolation := by
  simp [invitationError]

@[simp]
theorem recordNotFound_ne_checkViolation :
    recordNotFound ≠ .checkViolation := by
  simp [recordNotFound]

@[simp]
theorem uniqueViolation_ne_checkViolation (field : String) :
    uniqueViolation field ≠ .checkViolation := by
  simp [uniqueViolation]

@[simp]
theorem notPossible_ne_checkViolation :
    Activation.notPossible ≠ .checkViolation := by
  simp [Activation.notPossible]

@[simp]
theorem notFoundOrForbidden_ne_checkViolation (actor : AuthenticatedUser) :
    notFoundOrForbidden actor ≠ .checkViolation := by
  unfold notFoundOrForbidden
  split <;> simp

theorem assertTravelConsultantAssignment_avoids (actor : AuthenticatedUser)
    (clientId : Uuid) :
    Avoids (assertTravelConsultantAssignment tables actor clientId)
      .checkViolation :=
  avoids_require fun _ => notFoundOrForbidden_ne_checkViolation actor

/-- An update whose row stays consistent violates no CHECK constraint. -/
theorem updateInvitation_avoids {now : Timestamp} {id : Uuid}
    {data : InvitationRecord → InvitationRecord}
    (consistent :
      ∀ row, findInvitationById tables id = some row →
        EvidenceConsistent (data row)) :
    Avoids (updateInvitation tables now id data) .checkViolation := by
  refine avoids_bind (avoids_demand (by simp)) fun row found => ?_
  rw [demand_eq_ok] at found
  refine avoids_bind ?_ fun _ _ => avoids_ok _
  refine avoids_bind (avoids_require ?_) fun _ _ => ?_
  · intro inconsistent
    exact
      absurd (evidenceConsistent_stamped.mpr (consistent row found))
        inconsistent
  refine avoids_bind (avoids_require fun _ => by simp) fun _ _ => ?_
  exact
    avoids_bind (avoids_require fun _ => by simp) fun _ _ =>
      avoids_require fun _ => by simp

theorem updateInvitationWhere_avoids {now : Timestamp} {id : Uuid}
    {condition : InvitationRecord → Bool}
    {data : InvitationRecord → InvitationRecord}
    (consistent :
      ∀ row, findInvitationById tables id = some row → condition row →
        EvidenceConsistent (data row)) :
    Avoids (updateInvitationWhere tables now id condition data)
      .checkViolation := by
  unfold updateInvitationWhere
  split
  · exact avoids_ok _
  next matched =>
    obtain ⟨found, holds⟩ := Option.filter_eq_some_iff.mp matched
    refine avoids_bind (updateInvitation_avoids ?_) fun _ _ => avoids_ok _
    intro row foundRow
    rw [found] at foundRow
    cases foundRow
    exact consistent _ found holds

/-- The same for an update of a stored row with known facts. -/
theorem write_avoids {now : Timestamp}
    {data : InvitationRecord → InvitationRecord} {entry : Option Entry}
    {row : InvitationRecord} (stored : Stored tables)
    (member : row ∈ tables.invitations) (written : RowWritten row data entry)
    (automated :
      ∀ event, entry = some (.reported row.id event) →
        (providerTerminalState event.type).isSome →
          row.deliveryMethod = some .automatedEmail) :
    Avoids (updateInvitation tables now row.id data) .checkViolation := by
  apply updateInvitation_avoids
  intro other found
  rw [findInvitationById_of_mem stored.unique member] at found
  cases found
  exact
    evidenceConsistent_of_written (stored.consistent row member) written
      automated

theorem writeWhere_avoids {now : Timestamp}
    {condition : InvitationRecord → Bool}
    {data : InvitationRecord → InvitationRecord} {entry : Option Entry}
    {row : InvitationRecord} (stored : Stored tables)
    (member : row ∈ tables.invitations)
    (written : condition row → RowWritten row data entry)
    (automated :
      ∀ event, entry = some (.reported row.id event) →
        (providerTerminalState event.type).isSome →
          row.deliveryMethod = some .automatedEmail) :
    Avoids (updateInvitationWhere tables now row.id condition data)
      .checkViolation := by
  apply updateInvitationWhere_avoids
  intro other found holds
  rw [findInvitationById_of_mem stored.unique member] at found
  cases found
  exact
    evidenceConsistent_of_written (stored.consistent row member)
      (written holds) automated

theorem withClient_avoids {α : Type} {actor : AuthenticatedUser}
    {clientId : Uuid} {body : Tables → Except TxError (α × Tables)}
    (bodyAvoids : Avoids (body tables) .checkViolation) :
    Avoids (withClient actor clientId body tables).1 .checkViolation := by
  unfold withClient
  split
  · exact avoids_transact bodyAvoids
  · intro refused
    exact
      notFoundOrForbidden_ne_checkViolation actor (Except.error.inj refused)

theorem prepareInvitation_avoids (context : RequestContext)
    (actor : AuthenticatedUser) (clientId : Uuid) :
    Avoids (prepareInvitationTransaction context actor clientId tables)
      .checkViolation := by
  refine
    avoids_bind (assertTravelConsultantAssignment_avoids actor clientId)
      fun _ _ => ?_
  split
  · exact
      avoids_bind
        (avoids_require fun _ => invitationError_ne_checkViolation _ _)
        fun _ _ => avoids_ok _
  · refine
      avoids_bind
        (avoids_require fun _ => notFoundOrForbidden_ne_checkViolation actor)
        fun _ _ => ?_
    refine avoids_bind ?_ fun _ _ => avoids_ok _
    refine avoids_bind (avoids_require ?_) fun _ _ => ?_
    · intro inconsistent
      exact absurd (evidenceConsistent_prepared _ _ _) inconsistent
    exact
      avoids_bind (avoids_require fun _ => by simp) fun _ _ =>
        avoids_bind (avoids_require fun _ => by simp) fun _ _ => avoids_ok _

theorem recordReservation_avoids {now : Timestamp} {row : InvitationRecord}
    {concurrency : Option ResendConcurrencyPrecondition}
    {reservation : SendReservationInput} :
    Avoids (recordReservation tables now row.id concurrency reservation)
      .checkViolation := by
  cases concurrency with
  | none =>
      exact
        updateInvitation_avoids fun _ _ =>
          evidenceConsistent_reserved reservation
  | some precondition =>
      refine avoids_bind ?_ fun _ _ => ?_
      · exact
          updateInvitationWhere_avoids fun _ _ _ =>
            evidenceConsistent_reserved reservation
      · exact
          avoids_bind
            (avoids_demand (invitationError_ne_checkViolation _ _))
            fun _ _ => avoids_ok _

theorem reserveSendOperation_avoids (context : RequestContext)
    (rawToken : String) (actor : AuthenticatedUser) (clientId : Uuid)
    (input : SendOrResendInput) (kind : ReservationKind) :
    Avoids
      (reserveSendOperation platform context rawToken actor clientId input
        kind tables).1
      .checkViolation := by
  unfold reserveSendOperation
  split
  · split
    · simp [Avoids]
    apply avoids_transact
    refine
      avoids_bind (assertTravelConsultantAssignment_avoids actor clientId)
        fun _ _ => ?_
    refine
      avoids_bind (avoids_demand (invitationError_ne_checkViolation _ _))
        fun _ _ => ?_
    split
    · exact avoids_ok _
    refine
      avoids_bind
        (avoids_require fun _ => invitationError_ne_checkViolation _ _)
        fun _ _ => ?_
    refine
      avoids_bind
        (avoids_require fun _ => invitationError_ne_checkViolation _ _)
        fun _ _ => ?_
    refine
      avoids_bind (avoids_demand (invitationError_ne_checkViolation _ _))
        fun _ _ => ?_
    exact avoids_bind recordReservation_avoids fun _ _ => avoids_ok _
  · intro refused
    exact
      notFoundOrForbidden_ne_checkViolation actor (Except.error.inj refused)

theorem attemptAutomatedDelivery_avoids (stored : Stored tables)
    (now : Timestamp) (attempt : SendAttempt) (resolved : ResolvedOutcome) :
    Avoids (recordOutcomeTransaction now attempt resolved tables)
      .checkViolation := by
  apply updateInvitationWhere_avoids
  intro row found current
  simp only [decide_eq_true_eq] at current
  exact
    evidenceConsistent_of_written
      (stored.consistent row (mem_of_findBy found))
      (.resolved attempt.sendOperationId resolved current.1 current.2)
      (by simp)

theorem confirmManualSend_avoids (stored : Stored tables)
    (context : RequestContext) (actor : AuthenticatedUser)
    (clientId idempotencyKey : Uuid) :
    Avoids
      (confirmManualSendTransaction context actor clientId idempotencyKey
        tables)
      .checkViolation := by
  refine
    avoids_bind (assertTravelConsultantAssignment_avoids actor clientId)
      fun _ _ => ?_
  refine
    avoids_bind (avoids_demand (invitationError_ne_checkViolation _ _))
      fun invitation found => ?_
  rw [demand_eq_ok] at found
  split
  · exact avoids_ok _
  refine
    avoids_bind
      (avoids_require fun _ => invitationError_ne_checkViolation _ _)
      fun _ confirmable => ?_
  rw [require_eq_ok, not_or, not_ne_iff, not_ne_iff] at confirmable
  refine avoids_bind ?_ fun _ _ => avoids_ok _
  exact
    write_avoids stored (mem_of_findBy found)
      (.confirmed _ confirmable.1 confirmable.2) (by simp)

theorem revokeInvitation_avoids (stored : Stored tables)
    (context : RequestContext) (actor : AuthenticatedUser)
    (clientId : Uuid) (reason : String) :
    Avoids
      (revokeInvitationTransaction context actor clientId reason tables)
      .checkViolation := by
  refine
    avoids_bind (assertTravelConsultantAssignment_avoids actor clientId)
      fun _ _ => ?_
  refine
    avoids_bind (avoids_demand (invitationError_ne_checkViolation _ _))
      fun invitation found => ?_
  rw [demand_eq_ok] at found
  split
  · exact avoids_ok _
  refine
    avoids_bind
      (avoids_require fun _ => invitationError_ne_checkViolation _ _)
      fun _ _ => ?_
  refine avoids_bind ?_ fun _ _ => avoids_ok _
  exact
    write_avoids stored (mem_of_findBy found) (.revoked context.now)
      (by simp)

theorem continueInvitation_avoids (stored : Stored tables)
    (now : Timestamp) (rawToken : String) :
    Avoids
      (Activation.continueInvitationTransaction platform now rawToken tables)
      .checkViolation := by
  refine avoids_bind (avoids_demand (by simp)) fun invitation found => ?_
  rw [demand_eq_ok] at found
  refine avoids_bind (avoids_require fun _ => by simp) fun _ _ => ?_
  split
  · exact avoids_ok _
  refine avoids_bind ?_ fun _ _ => ?_
  · exact
      writeWhere_avoids stored (mem_of_findBy found)
        (fun isSent => .opened now (of_decide_eq_true isSent)) (by simp)
  · exact avoids_bind (avoids_demand (by simp)) fun _ _ => avoids_ok _

theorem createActivatedAccount_avoids (context : RequestContext)
    (input : Activation.Repository.CreateActivatedAccountInput) :
    Avoids
      (Activation.Repository.createActivatedAccount platform context tables
        input)
      .checkViolation := by
  unfold Activation.Repository.createActivatedAccount
  repeat
    refine avoids_bind (avoids_require fun _ => by simp) fun _ _ => ?_
  exact avoids_ok _

theorem activateAccount_avoids (stored : Stored tables)
    (context : RequestContext) (rawToken passwordHash : String) :
    Avoids
      (Activation.activateAccountTransaction platform context rawToken
        passwordHash tables)
      .checkViolation := by
  refine avoids_bind (avoids_demand (by simp)) fun invitation found => ?_
  rw [demand_eq_ok] at found
  refine avoids_bind (avoids_require fun _ => by simp) fun _ eligible => ?_
  rw [require_eq_ok] at eligible
  refine avoids_bind (avoids_demand (by simp)) fun _ _ => ?_
  refine avoids_bind (avoids_require fun _ => by simp) fun _ _ => ?_
  refine avoids_bind (avoids_require fun _ => by simp) fun _ _ => ?_
  refine avoids_bind (avoids_demand (by simp)) fun _ _ => ?_
  refine avoids_bind (createActivatedAccount_avoids _ _) fun created creating => ?_
  refine avoids_bind ?_ fun _ _ => avoids_ok _
  apply updateInvitation_avoids
  intro row foundRow
  have sameInvitations := (createActivatedAccount_eq_ok creating).1
  have member : invitation ∈ tables.invitations := mem_of_findBy found
  rw [findInvitationById, sameInvitations] at foundRow
  have isInvitation := findInvitationById_of_mem stored.unique member
  rw [findInvitationById, foundRow] at isInvitation
  cases isInvitation
  exact
    evidenceConsistent_activated context.now
      (stored.consistent invitation member)
      (redeemable_of_isEligible eligible)

end Avoiding

/-- A terminal event whose message id is unknown and whose tag names a
manually confirmed row. -/
def NamesManualRow (tables : Tables) (event : VerifiedWebhookEvent) : Prop :=
  (providerTerminalState event.type).isSome ∧
    ∃ messageId, event.messageId = some messageId ∧
      findInvitationByProviderMessageId tables messageId = none ∧
      ∃ tag, event.sendOperationTag = some tag ∧
        ∃ target,
          findInvitationBySendOperationId tables tag = some target ∧
            target.deliveryMethod = some .manualEmail

theorem attempted_of_sendOperationId {row : InvitationRecord}
    {sendOperationId : Uuid} (consistent : EvidenceConsistent row)
    (hasOperation : row.sendOperationId = some sendOperationId) :
    row.deliveryMethod ≠ none := by
  intro unattempted
  have notAttempted := consistent.deliveryMethodPresence.mp unattempted
  rw [consistent.sendOperationIdPresence.mpr notAttempted] at hasOperation
  cases hasOperation

theorem automated_of_providerMessageId {row : InvitationRecord}
    {messageId : MessageId} (consistent : EvidenceConsistent row)
    (hasMessage : row.providerMessageId = some messageId) :
    row.deliveryMethod = some .automatedEmail := by
  rcases consistent.providerMessageIdAutomatedOnly with
    noMessage | automated
  · rw [noMessage] at hasMessage
    cases hasMessage
  · exact automated

/-- A correlated row is automated unless the event names a manual row. -/
theorem automated_of_correlated {event : VerifiedWebhookEvent}
    {messageId : MessageId} {target : InvitationRecord}
    (stored : Stored tables) (carries : event.messageId = some messageId)
    (terminal : (providerTerminalState event.type).isSome)
    (spares : ¬ NamesManualRow tables event)
    (correlated :
      correlateWebhookEvent tables (some messageId) event.sendOperationTag =
        .found target) :
    target.deliveryMethod = some .automatedEmail := by
  rcases correlateWebhookEvent_eq_found correlated with
    byMessageId | ⟨unknown, tag, hasTag, byOperation⟩
  · exact
      automated_of_providerMessageId
        (stored.consistent target (mem_of_findBy byMessageId))
        (key_of_findBy byMessageId)
  · cases method : target.deliveryMethod with
    | none =>
        exact
          absurd method <|
            attempted_of_sendOperationId
              (stored.consistent target (mem_of_findBy byOperation))
              (key_of_findBy byOperation)
    | some deliveryMethod =>
        cases deliveryMethod with
        | automatedEmail =>
            rfl
        | manualEmail =>
            exact
              absurd
                ⟨terminal, messageId, carries, unknown, tag, hasTag, target,
                  byOperation, method⟩
                spares

theorem webhookTransaction_avoids {now : Timestamp}
    {event : VerifiedWebhookEvent} {messageId : MessageId}
    (stored : Stored tables)
    (applied : appliedEvent event = some messageId)
    (spares : ¬ NamesManualRow tables event) :
    Avoids (webhookTransaction now event messageId tables)
      .checkViolation := by
  simp only [appliedEvent, Option.ite_none_right_eq_some] at applied
  obtain ⟨handled, carries⟩ := applied
  unfold webhookTransaction
  split
  · exact avoids_ok _
  · exact avoids_ok _
  next target correlated =>
    obtain ⟨member, correlatedWith⟩ :=
      correlatedWith_of_found carries correlated
    split
    next notTerminal =>
      have reconciling : isReconciling event.type := by
        simpa [notTerminal] using handled
      apply
        writeWhere_avoids stored member fun unconfirmed =>
          .reconciled event messageId reconciling correlatedWith
            (of_decide_eq_true unconfirmed)
      rintro _ ⟨⟩ terminal
      rw [notTerminal] at terminal
      cases terminal
    next terminalState terminal =>
      refine avoids_bind ?_ fun _ _ => avoids_ok _
      apply
        write_avoids stored member
          (.delivered event messageId terminalState terminal correlatedWith)
      rintro _ ⟨⟩ isTerminal
      exact
        automated_of_correlated stored carries isTerminal spares correlated

/-- A terminal event that names a manual row violates a constraint. -/
theorem webhookTransaction_violates {now : Timestamp}
    {event : VerifiedWebhookEvent} (stored : Stored tables)
    (names : NamesManualRow tables event) :
    ∃ messageId, appliedEvent event = some messageId ∧
      webhookTransaction now event messageId tables =
        .error .checkViolation := by
  obtain ⟨terminal, messageId, carries, unknown, tag, hasTag, target,
    byOperation, manual⟩ := names
  refine ⟨messageId, by simp [appliedEvent, terminal, carries], ?_⟩
  have consistent := stored.consistent target (mem_of_findBy byOperation)
  have noMessage : target.providerMessageId = none := by
    rcases consistent.providerMessageIdAutomatedOnly with
      noMessage | automated
    · exact noMessage
    · rw [manual] at automated
      cases automated
  have correlated :
      correlateWebhookEvent tables (some messageId) event.sendOperationTag =
        .found target := by
    simp [correlateWebhookEvent, unknown, hasTag, byOperation, noMessage]
  obtain ⟨terminalState, isTerminal⟩ := Option.isSome_iff_exists.mp terminal
  have inconsistent :
      ¬ EvidenceConsistent
        (withDelivery terminalState (some messageId) target) :=
    not_evidenceConsistent_withDelivery manual
      (mem_automatedStates_of_terminal isTerminal)
  have isStored :=
    findInvitationById_of_mem stored.unique (mem_of_findBy byOperation)
  simp [webhookTransaction, correlated, isTerminal,
    applyProviderDeliveryState, updateInvitation, isStored, demand,
    checkConstraints, require_of_not inconsistent]

/-! ## One step -/

/-- The step is no terminal webhook that names a manually confirmed row by
its tag alone. -/
def SparesManualRows (state : State) : Request → Prop
  | .webhook _ (some event) => ¬ NamesManualRow state.tables event
  | _ => True

/-- The request ends in a violated CHECK constraint. -/
def ViolatesCheck (platform : Platform) (state : State)
    (request : Request) : Prop :=
  (perform platform state request).1 = some .checkViolation

instance (platform : Platform) (state : State) (request : Request) :
    Decidable (ViolatesCheck platform state request) :=
  inferInstanceAs (Decidable (_ = _))

theorem failureOf_eq_some {α : Type} {answer : Except TxError α × Tables}
    {failure : TxError} :
    (perform.failureOf answer).1 = some failure ↔
      answer.1 = .error failure := by
  obtain ⟨outcome, stored⟩ := answer
  cases outcome <;> simp [perform.failureOf]

theorem map_eq_error {α β : Type} {outcome : Except TxError α}
    {change : α → β} {failure : TxError} :
    outcome.map change = .error failure ↔ outcome = .error failure := by
  cases outcome <;> simp [Except.map]

theorem mapError_translate_eq_checkViolation {α : Type}
    {outcome : Except TxError α} :
    outcome.mapError Activation.translateUniqueViolation =
        .error .checkViolation ↔
      outcome = .error .checkViolation := by
  cases outcome with
  | ok value =>
      simp [Except.mapError]
  | error failure =>
      cases failure <;>
        simp [Except.mapError, Activation.translateUniqueViolation,
          Activation.notPossible]

theorem step_violatesCheck_iff (stored : Stored state.tables) :
    ViolatesCheck platform state request ↔
      ¬ SparesManualRows state request := by
  unfold ViolatesCheck
  have spared :
      ∀ {failure : Prop}, ¬ failure → (failure ↔ ¬ True) := by
    intro failure notFailed
    simpa using notFailed
  cases request with
  | prepareInvitation context actor clientId =>
      apply spared
      rw [perform, failureOf_eq_some]
      exact
        withClient_avoids (prepareInvitation_avoids context actor clientId)
  | sendInvitation context rawToken actor clientId input =>
      apply spared
      rw [perform, failureOf_eq_some, sendInvitation, map_eq_error]
      exact
        reserveSendOperation_avoids context rawToken actor clientId input
          firstSend
  | resendInvitation context rawToken actor clientId input concurrency =>
      apply spared
      rw [perform, failureOf_eq_some, resendInvitation, map_eq_error]
      exact
        reserveSendOperation_avoids context rawToken actor clientId input
          (resend concurrency)
  | providerOutcome now index outcome =>
      apply spared
      rw [perform]
      cases state.attempts[index]? with
      | none =>
          simp
      | some attempt =>
          simp only [failureOf_eq_some, attemptAutomatedDelivery]
          cases outcome.resolved with
          | none =>
              simp
          | some resolved =>
              simp only [map_eq_error]
              exact
                avoids_transact <|
                  attemptAutomatedDelivery_avoids stored now attempt resolved
  | confirmManualSend context actor clientId idempotencyKey =>
      apply spared
      rw [perform, failureOf_eq_some]
      exact
        withClient_avoids <|
          confirmManualSend_avoids stored context actor clientId
            idempotencyKey
  | revokeInvitation context actor clientId reason =>
      apply spared
      rw [perform, failureOf_eq_some]
      exact
        withClient_avoids <|
          revokeInvitation_avoids stored context actor clientId reason
  | webhook now verified =>
      cases verified with
      | none =>
          apply spared
          simp [perform, perform.failureOf, handleResendWebhookEvent]
      | some event =>
          rw [perform, failureOf_eq_some, SparesManualRows, not_not]
          constructor
          · intro fails
            by_contra spares
            simp only [handleResendWebhookEvent] at fails
            cases applied : appliedEvent event with
            | none =>
                rw [applied] at fails
                cases fails
            | some messageId =>
                simp only [applied, map_eq_error] at fails
                exact
                  avoids_transact
                    (webhookTransaction_avoids stored applied spares) fails
          · intro names
            obtain ⟨messageId, applied, fails⟩ :=
              @webhookTransaction_violates _ now _ stored names
            simp only [handleResendWebhookEvent, applied, map_eq_error,
              transact_of_error fails]
  | continueInvitation now rawToken =>
      apply spared
      rw [perform, failureOf_eq_some]
      exact
        avoids_transact (continueInvitation_avoids stored now rawToken)
  | activateAccount context rawToken passwordHash =>
      apply spared
      rw [perform, failureOf_eq_some, Activation.activateAccount,
        mapError_translate_eq_checkViolation]
      exact
        avoids_transact <|
          activateAccount_avoids stored context rawToken passwordHash
  | assignmentsChanged staffAssignments =>
      exact spared (by simp [perform])
  | clientsChanged clients =>
      exact spared (by simp [perform])
  | usersChanged users accounts clientProfiles =>
      exact spared (by simp [perform])

/-- No write of a run violates a CHECK constraint, and the stored rows satisfy
them before and after each step, exactly when no step is a terminal webhook
that names a manually confirmed row by its tag alone. -/
theorem evidence_constraints_kept_iff (platform : Platform)
    (requests : List Request) :
    (∀ earlier request later, requests = earlier ++ request :: later →
        (∀ row ∈ (stateAfter platform earlier).tables.invitations,
          EvidenceConsistent row) ∧
        ¬ ViolatesCheck platform (stateAfter platform earlier) request ∧
        ∀ row ∈ (stateAfter platform (earlier ++ [request])).tables.invitations,
          EvidenceConsistent row) ↔
      AllSteps (step platform) SparesManualRows State.initial requests := by
  have sameSteps :
      AllSteps (step platform)
          (fun state request => ¬ ViolatesCheck platform state request)
          State.initial requests ↔
        AllSteps (step platform) SparesManualRows State.initial requests :=
    @allSteps_congr _ _ (step platform) (fun state => Stored state.tables)
      _ _ (fun _ request stored => step_stored stored request)
      (fun _ _ stored =>
        (not_congr (step_violatesCheck_iff stored)).trans not_not)
      State.initial stored_initial requests
  rw [← sameSteps, allSteps_iff_forall_split]
  constructor
  · intro kept earlier request later split
    exact (kept earlier request later split).2.1
  · intro avoided earlier request later split
    exact
      ⟨(stateAfter_stored platform earlier).consistent,
        avoided earlier request later split,
        (stateAfter_stored platform (earlier ++ [request])).consistent⟩

/-- SHA-256 of the two tokens below, and functions that keep their texts. -/
def examplePlatform : Platform where
  strings := ⟨id, id⟩
  hashInvitationToken token :=
    if token = "aB3dE5gH7jK9mN1pQ2rS4tU6" then
      "8c773f1b766214d040768636295d129a93c3c922eb78d97fc4a04b749bdc1617"
    else if token = "zY8xW6vU4tS2rQ0pO9nM7lK5" then
      "796f81f7a2aed10ad6639279a8a77ce89e0654fcc862cc6187ebd016fe658ce8"
    else
      token
  encodeURIComponent := id
  lower := id
  baseUrl := "https://portal.example.ph"
  isAutomatedDeliveryEnabled := true

/-- An Admin/Manager sends client 3 an invitation with key 50, and the
provider's answer is lost.  The invitation is sent again by hand and its
sending confirmed, again with key 50. -/
def keyUsedTwice : List Request :=
  let admin : AuthenticatedUser := ⟨7, .adminManager⟩
  [.clientsChanged
      [⟨3, "Ana Cruz", some anaAddress, none,
        some "ana@example.ph", none⟩],
    .prepareInvitation ⟨fun _ => 1, 0⟩ admin 3,
    .sendInvitation ⟨fun _ => 0, 10⟩ "aB3dE5gH7jK9mN1pQ2rS4tU6" admin 3
      ⟨.automatedEmail, 50⟩,
    .resendInvitation ⟨fun _ => 0, 20⟩ "zY8xW6vU4tS2rQ0pO9nM7lK5" admin 3
      ⟨.manualEmail, 51⟩ ⟨some 50, 10⟩,
    .confirmManualSend ⟨fun _ => 0, 30⟩ admin 3 50]

/-- The provider then reports the first email delivered. -/
theorem late_delivery_violates_check :
    ViolatesCheck examplePlatform (stateAfter examplePlatform keyUsedTwice)
      (.webhook 40 (some ⟨.emailDelivered, some 900, some 50⟩)) := by
  decide

end Heritage.Invitations
