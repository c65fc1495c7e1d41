import Heritage.Invitations.System

/-!
# What one step writes to the invitations

`RowWritten` lists the changes of one row with the facts its transaction
established, and the entry the change leaves in the history of sends.  A step
writes nothing, inserts a prepared row, or makes one such change.
-/

namespace Heritage.Invitations

open Heritage.Store
open Repository

/-- What a step records about the delivery of one invitation. -/
inductive Entry where
  | reserved (invitationId : Uuid) (tokenHash : String)
      (sendOperationId : Option Uuid)
  | resolved (invitationId sendOperationId : Uuid)
      (outcome : ResolvedOutcome)
  | reported (invitationId : Uuid) (event : VerifiedWebhookEvent)
  | confirmed (invitationId sendOperationId : Uuid)
  deriving DecidableEq, Repr

/-- The entry of a reservation that issued a token. -/
def reservationEntry (platform : Platform) :
    Except TxError ReservationOutcome → Option Entry
  | .ok (.fresh invitation rawToken) =>
      some <|
        .reserved invitation.id (platform.hashInvitationToken rawToken)
          invitation.sendOperationId
  | _ => none

/-- What a request records. -/
def recorded (platform : Platform) (state : State) :
    Request → Option Entry
  | .sendInvitation context rawToken actor clientId input =>
      reservationEntry platform
        (reserveSendOperation platform context rawToken actor clientId input
          firstSend state.tables).1
  | .resendInvitation context rawToken actor clientId input concurrency =>
      reservationEntry platform
        (reserveSendOperation platform context rawToken actor clientId input
          (resend concurrency) state.tables).1
  | .providerOutcome now index outcome =>
      state.attempts[index]?.bind fun attempt =>
        outcome.resolved.bind fun resolved =>
          match recordOutcomeTransaction now attempt resolved
              state.tables with
          | .ok (some row, _) =>
              some (.resolved row.id attempt.sendOperationId resolved)
          | _ => none
  | .confirmManualSend context actor clientId idempotencyKey =>
      match findInvitationByClientId state.tables clientId,
          (confirmManualSend context actor clientId idempotencyKey
            state.tables).1 with
      | some invitation, .ok updated =>
          if invitation.deliveryState = .manuallyConfirmed then
            none
          else
            some (.confirmed updated.id idempotencyKey)
      | _, _ => none
  | .webhook now (some event) =>
      (appliedEvent event).bind fun messageId =>
        match webhookTransaction now event messageId state.tables with
        | .ok (some row, _) => some (.reported row.id event)
        | _ => none
  | _ => none

/-- The event was correlated with the row, by its message id or its tag. -/
def CorrelatedWith (row : InvitationRecord) (event : VerifiedWebhookEvent)
    (messageId : MessageId) : Prop :=
  event.messageId = some messageId ∧
    (row.providerMessageId = some messageId ∨
      row.sendOperationId = event.sendOperationTag ∧
        event.sendOperationTag.isSome)

inductive RowWritten (row : InvitationRecord) :
    (InvitationRecord → InvitationRecord) → Option Entry → Prop where
  | reserved (input : SendReservationInput) :
      RowWritten row (sendReservationData input)
        (some (.reserved row.id input.tokenHash input.automated))
  | resolved (sendOperationId : Uuid) (outcome : ResolvedOutcome)
      (current : row.sendOperationId = some sendOperationId)
      (unconfirmed : row.deliveryState = .automatedUnconfirmed) :
      RowWritten row outcome.data
        (some (.resolved row.id sendOperationId outcome))
  | reconciled (event : VerifiedWebhookEvent) (messageId : MessageId)
      (reconciling : isReconciling event.type)
      (correlated : CorrelatedWith row event messageId)
      (unconfirmed : row.deliveryState = .automatedUnconfirmed) :
      RowWritten row (withDelivery .automatedAccepted (some messageId))
        (some (.reported row.id event))
  | delivered (event : VerifiedWebhookEvent) (messageId : MessageId)
      (terminalState : PortalInvitationDeliveryState)
      (terminal : providerTerminalState event.type = some terminalState)
      (correlated : CorrelatedWith row event messageId) :
      RowWritten row (withDelivery terminalState (some messageId))
        (some (.reported row.id event))
  | confirmed (input : ManualConfirmationInput)
      (isSent : row.status = .invitationSent)
      (unattempted : row.deliveryMethod = none) :
      RowWritten row input.data
        (some (.confirmed row.id input.sendOperationId))
  | revoked (revokedAt : Timestamp) :
      RowWritten row (Repository.revoked revokedAt) none
  | opened (openedAt : Timestamp) (isSent : row.status = .invitationSent) :
      RowWritten row (Repository.opened openedAt) none
  | activated (activatedAt : Timestamp)
      (redeemable : row.status ∈ redeemableStatuses) :
      RowWritten row (Repository.activated activatedAt) none

/-- The invitations after a step that left this entry. -/
inductive InvitationsWritten (tables : Tables) :
    Option Entry → List InvitationRecord → Prop where
  | unchanged : InvitationsWritten tables none tables.invitations
  | prepared (id clientId : Uuid) (now : Timestamp)
      (freshId : findInvitationById tables id = none) :
      InvitationsWritten tables none
        (tables.invitations ++ [preparedRow id clientId now])
  | updated (row : InvitationRecord) (now : Timestamp)
      {data : InvitationRecord → InvitationRecord} {entry : Option Entry}
      (found : findInvitationById tables row.id = some row)
      (written : RowWritten row data entry)
      (consistent : EvidenceConsistent (stamped now data row)) :
      InvitationsWritten tables entry
        (updateBy InvitationRecord.id row.id (stamped now data)
          tables.invitations)

/-- A written row keeps its id. -/
theorem RowWritten.id_eq {row : InvitationRecord}
    {data : InvitationRecord → InvitationRecord} {entry : Option Entry}
    (written : RowWritten row data entry) (other : InvitationRecord) :
    (data other).id = other.id := by
  cases written with
  | resolved sendOperationId outcome =>
      cases outcome <;> rfl
  | _ => rfl

variable {tables after : Tables}

/-- The ids of the invitations are distinct. -/
def UniqueIds (tables : Tables) : Prop :=
  (tables.invitations.map InvitationRecord.id).Nodup

theorem findInvitationById_of_mem (unique : UniqueIds tables)
    {row : InvitationRecord} (member : row ∈ tables.invitations) :
    findInvitationById tables row.id = some row :=
  findBy_of_mem unique member

theorem updateInvitation_eq_ok {now : Timestamp}
    {data : InvitationRecord → InvitationRecord}
    {row updated : InvitationRecord} (unique : UniqueIds tables)
    (member : row ∈ tables.invitations)
    (succeeds :
      updateInvitation tables now row.id data = .ok (updated, after)) :
    updated = stamped now data row ∧
      EvidenceConsistent (stamped now data row) ∧
      after =
        { tables with
          invitations :=
            updateBy InvitationRecord.id row.id (stamped now data)
              tables.invitations } := by
  simp only [updateInvitation, checkConstraints,
    findInvitationById_of_mem unique member, demand, ok_bind, bind_eq_ok,
    require_eq_ok, exists_const, Except.ok.injEq, Prod.mk.injEq]
    at succeeds
  obtain ⟨⟨consistent, -⟩, rfl, rfl⟩ := succeeds
  exact ⟨rfl, consistent, rfl⟩

/-- A successful update with known facts about its row is a write. -/
theorem written_of_update {now : Timestamp}
    {data : InvitationRecord → InvitationRecord} {entry : Option Entry}
    {row updated : InvitationRecord} (unique : UniqueIds tables)
    (member : row ∈ tables.invitations)
    (succeeds :
      updateInvitation tables now row.id data = .ok (updated, after))
    (written : RowWritten row data entry) :
    updated = stamped now data row ∧ updated.id = row.id ∧
      InvitationsWritten tables entry after.invitations := by
  obtain ⟨isStamped, consistent, rfl⟩ :=
    updateInvitation_eq_ok unique member succeeds
  refine ⟨isStamped, ?_, ?_⟩
  · rw [isStamped]
    exact written.id_eq row
  · exact
      .updated row now (findInvitationById_of_mem unique member) written
        consistent

theorem updateInvitationWhere_eq_ok {now : Timestamp}
    {condition : InvitationRecord → Bool}
    {data : InvitationRecord → InvitationRecord}
    {row : InvitationRecord} {updated : Option InvitationRecord}
    (unique : UniqueIds tables) (member : row ∈ tables.invitations)
    (succeeds :
      updateInvitationWhere tables now row.id condition data =
        .ok (updated, after)) :
    (updated = none ∧ after = tables) ∨
      ∃ result,
        condition row ∧ updated = some result ∧
          updateInvitation tables now row.id data = .ok (result, after) := by
  unfold updateInvitationWhere at succeeds
  rw [findInvitationById_of_mem unique member] at succeeds
  cases holds : condition row with
  | false =>
      simp only [Option.filter, holds] at succeeds
      cases succeeds
      exact Or.inl ⟨rfl, rfl⟩
  | true =>
      simp only [Option.filter, holds, if_true, bind_eq_ok,
        Except.ok.injEq, Prod.mk.injEq] at succeeds
      obtain ⟨⟨result, written⟩, updating, rfl, rfl⟩ := succeeds
      exact Or.inr ⟨result, rfl, rfl, updating⟩

variable {platform : Platform}

theorem withClient_tables_cases {α : Type} (actor : AuthenticatedUser)
    (clientId : Uuid) (body : Tables → Except TxError (α × Tables))
    (tables : Tables) :
    (∃ failure, withClient actor clientId body tables =
        (.error failure, tables)) ∨
      ∃ value after,
        body tables = .ok (value, after) ∧
          withClient actor clientId body tables = (.ok value, after) := by
  unfold withClient
  split
  · cases outcome : body tables with
    | error failure =>
        exact Or.inl ⟨failure, transact_of_error outcome⟩
    | ok result =>
        exact Or.inr ⟨result.1, result.2, rfl, transact_of_ok outcome⟩
  · exact Or.inl ⟨_, rfl⟩

theorem prepareInvitationTransaction_written
    {context : RequestContext} {actor : AuthenticatedUser}
    {clientId : Uuid} {invitation : InvitationRecord}
    (succeeds :
      prepareInvitationTransaction context actor clientId tables =
        .ok (invitation, after)) :
    InvitationsWritten tables none after.invitations := by
  simp only [prepareInvitationTransaction, bind_eq_ok] at succeeds
  obtain ⟨-, -, finished⟩ := succeeds
  split at finished
  · simp only [bind_eq_ok, Except.ok.injEq, Prod.mk.injEq] at finished
    obtain ⟨-, -, -, rfl⟩ := finished
    exact .unchanged
  · simp only [createInvitation, bind_eq_ok, require_eq_ok, exists_const,
      Option.isNone_iff_eq_none, Except.ok.injEq, Prod.mk.injEq] at finished
    obtain ⟨-, ⟨created, written⟩, ⟨-, freshId, -, -, rfl⟩, -, rfl⟩ :=
      finished
    exact .prepared _ clientId context.now freshId

/-- A reservation writer updates the row it reserves. -/
theorem recordReservation_eq_ok
    {now : Timestamp} {row updated : InvitationRecord}
    {concurrency : Option ResendConcurrencyPrecondition}
    {reservation : SendReservationInput} (unique : UniqueIds tables)
    (member : row ∈ tables.invitations)
    (succeeds :
      recordReservation tables now row.id concurrency reservation =
        .ok (updated, after)) :
    updateInvitation tables now row.id (sendReservationData reservation) =
      .ok (updated, after) := by
  cases concurrency with
  | none =>
      exact succeeds
  | some precondition =>
      simp only [recordReservation, recordSendReservationIfUnstale,
        bind_eq_ok, demand_eq_ok, Except.ok.injEq, Prod.mk.injEq]
        at succeeds
      obtain ⟨⟨conditional, written⟩, reserving, result, isSome, rfl, rfl⟩ :=
        succeeds
      rcases updateInvitationWhere_eq_ok unique member reserving with
        ⟨isNone, -⟩ | ⟨found, -, isFound, updating⟩
      · rw [isNone] at isSome
        cases isSome
      · rw [isFound] at isSome
        cases isSome
        exact updating

theorem recordReservation_written
    {now : Timestamp} {row updated : InvitationRecord}
    {concurrency : Option ResendConcurrencyPrecondition}
    {reservation : SendReservationInput} (unique : UniqueIds tables)
    (member : row ∈ tables.invitations)
    (succeeds :
      recordReservation tables now row.id concurrency reservation =
        .ok (updated, after)) :
    updated.id = row.id ∧
      updated.sendOperationId = reservation.automated ∧
      InvitationsWritten tables
        (some
          (.reserved row.id reservation.tokenHash reservation.automated))
        after.invitations := by
  have updating := recordReservation_eq_ok unique member succeeds
  obtain ⟨isStamped, sameId, written⟩ :=
    written_of_update unique member updating (.reserved reservation)
  refine ⟨sameId, ?_, written⟩
  rw [isStamped]
  rfl

/-- What a send or a resend writes to the row it reserves. -/
def reservationFor (platform : Platform) (context : RequestContext)
    (rawToken : String) (input : SendOrResendInput) (email : NonBlank) :
    SendReservationInput where
  tokenHash := platform.hashInvitationToken rawToken
  expiresAt := computeExpiryFromNow context.now
  destinationEmail := normalizeEmail platform.strings email.value
  sentAt := context.now
  automated :=
    if input.deliveryMethod = .automatedEmail then
      some input.idempotencyKey
    else
      none

/-- A reservation finds the client's row under the request's key already, or
it updates that row, which its caller may send and has seen as it is. -/
theorem reserveSendOperationTransaction_eq_ok
    {context : RequestContext} {rawToken : String}
    {actor : AuthenticatedUser} {clientId : Uuid}
    {input : SendOrResendInput} {kind : ReservationKind}
    {outcome : ReservationOutcome}
    (succeeds :
      reserveSendOperationTransaction platform context rawToken actor
          clientId input kind tables =
        .ok (outcome, after)) :
    ∃ invitation,
      findInvitationByClientId tables clientId = some invitation ∧
        (outcome = .alreadyReserved invitation ∧ after = tables ∨
          ∃ email updated written entry,
            ¬ (invitation.deliveryMethod = some .automatedEmail ∧
                invitation.sendOperationId = some input.idempotencyKey) ∧
              invitation.status ∈ kind.allowedStatuses ∧
              (∀ precondition ∈ kind.concurrency,
                invitation.sendOperationId =
                    precondition.expectedCurrentSendOperationId ∧
                  invitation.updatedAt = precondition.expectedUpdatedAt) ∧
              recordReservation tables context.now invitation.id
                  kind.concurrency
                  (reservationFor platform context rawToken input email) =
                .ok (updated, written) ∧
              outcome = .fresh updated rawToken ∧
              entry.action = kind.auditAction ∧
              after =
                if input.deliveryMethod = .automatedEmail ∨
                    kind.alwaysAudit then
                  insertAuditLog written entry
                else
                  written) := by
  simp only [reserveSendOperationTransaction, bind_eq_ok, demand_eq_ok]
    at succeeds
  obtain ⟨-, -, invitation, found, finished⟩ := succeeds
  refine ⟨invitation, found, ?_⟩
  split at finished
  · cases finished
    exact Or.inl ⟨rfl, rfl⟩
  next notReserved =>
    simp only [bind_eq_ok, demand_eq_ok, require_eq_ok, exists_const,
      Except.ok.injEq, Prod.mk.injEq] at finished
    obtain ⟨isSendable, unstale, email, -, ⟨updated, written⟩, recording,
      isFresh, audited⟩ := finished
    exact
      Or.inr
        ⟨email, updated, written, _, notReserved, isSendable, unstale,
          recording, isFresh.symm, rfl, audited.symm⟩

/-- A reservation fails and changes nothing, or its transaction commits. -/
theorem reserveSendOperation_tables_cases (context : RequestContext)
    (rawToken : String) (actor : AuthenticatedUser) (clientId : Uuid)
    (input : SendOrResendInput) (kind : ReservationKind) (tables : Tables) :
    (∃ failure,
      reserveSendOperation platform context rawToken actor clientId input
          kind tables =
        (.error failure, tables)) ∨
      ∃ outcome after,
        reserveSendOperationTransaction platform context rawToken actor
              clientId input kind tables =
            .ok (outcome, after) ∧
          reserveSendOperation platform context rawToken actor clientId input
              kind tables =
            (.ok outcome, after) := by
  unfold reserveSendOperation
  split
  · split
    · exact Or.inl ⟨_, rfl⟩
    · cases outcome :
          reserveSendOperationTransaction platform context rawToken actor
            clientId input kind tables with
      | error failure =>
          exact Or.inl ⟨failure, transact_of_error outcome⟩
      | ok result =>
          exact Or.inr ⟨result.1, result.2, rfl, transact_of_ok outcome⟩
  · exact Or.inl ⟨_, rfl⟩

/-- An audit entry, written or not, leaves the invitations alone. -/
theorem invitations_of_audited {condition : Prop} [Decidable condition]
    (entry : AuditLog) :
    (if condition then insertAuditLog tables entry
      else tables).invitations = tables.invitations := by
  split <;> rfl

theorem reserveSendOperationTransaction_written
    {context : RequestContext} {rawToken : String}
    {actor : AuthenticatedUser} {clientId : Uuid}
    {input : SendOrResendInput} {kind : ReservationKind}
    {outcome : ReservationOutcome} (unique : UniqueIds tables)
    (succeeds :
      reserveSendOperationTransaction platform context rawToken actor
          clientId input kind tables =
        .ok (outcome, after)) :
    InvitationsWritten tables (reservationEntry platform (.ok outcome))
      after.invitations := by
  rcases reserveSendOperationTransaction_eq_ok succeeds with
    ⟨invitation, found, ⟨rfl, rfl⟩ |
      ⟨email, updated, written, entry, -, -, -, recording, rfl, -, rfl⟩⟩
  · exact .unchanged
  · obtain ⟨sameId, sameOperation, reserved⟩ :=
      recordReservation_written unique (mem_of_findBy found) recording
    rw [invitations_of_audited, reservationEntry, sameId, sameOperation]
    exact reserved

/-- A fresh reservation is recorded under the request's key, or under
none. -/
theorem reserveSendOperation_key
    {context : RequestContext} {rawToken issuedToken : String}
    {actor : AuthenticatedUser} {clientId : Uuid}
    {input : SendOrResendInput} {kind : ReservationKind}
    {invitation : InvitationRecord} (unique : UniqueIds tables)
    (succeeds :
      (reserveSendOperation platform context rawToken actor clientId input
          kind tables).1 =
        .ok (.fresh invitation issuedToken)) :
    ∀ sendOperationId, invitation.sendOperationId = some sendOperationId →
      sendOperationId = input.idempotencyKey := by
  rcases reserveSendOperation_tables_cases context rawToken actor clientId
      input kind tables with
    ⟨failure, refused⟩ | ⟨outcome, after, commits, returned⟩
  · rw [refused] at succeeds
    cases succeeds
  · rw [returned] at succeeds
    cases succeeds
    rcases reserveSendOperationTransaction_eq_ok commits with
      ⟨current, found, ⟨isReserved, -⟩ |
        ⟨email, updated, written, entry, -, -, -, recording, isFresh, -, -⟩⟩
    · cases isReserved
    · cases isFresh
      obtain ⟨-, sameOperation, -⟩ :=
        recordReservation_written unique (mem_of_findBy found) recording
      intro sendOperationId hasOperation
      rw [sameOperation] at hasOperation
      dsimp only [reservationFor] at hasOperation
      split at hasOperation
      · exact (Option.some.inj hasOperation).symm
      · cases hasOperation

theorem reserveSendOperation_written
    {context : RequestContext} {rawToken : String}
    {actor : AuthenticatedUser} {clientId : Uuid}
    {input : SendOrResendInput} {kind : ReservationKind}
    (unique : UniqueIds tables) :
    InvitationsWritten tables
      (reservationEntry platform
        (reserveSendOperation platform context rawToken actor clientId input
          kind tables).1)
      (reserveSendOperation platform context rawToken actor clientId input
        kind tables).2.invitations := by
  rcases reserveSendOperation_tables_cases context rawToken actor clientId
      input kind tables with
    ⟨failure, refused⟩ | ⟨outcome, after, commits, returned⟩
  · rw [refused]
    exact .unchanged
  · rw [returned]
    exact reserveSendOperationTransaction_written unique commits

theorem recordOutcomeTransaction_written
    {now : Timestamp} {attempt : SendAttempt} {resolved : ResolvedOutcome}
    {updated : Option InvitationRecord} (unique : UniqueIds tables)
    (succeeds :
      recordOutcomeTransaction now attempt resolved tables =
        .ok (updated, after)) :
    InvitationsWritten tables
      (updated.map fun row =>
        .resolved row.id attempt.sendOperationId resolved)
      after.invitations := by
  unfold recordOutcomeTransaction recordAutomatedSendOutcome at succeeds
  cases found : findInvitationById tables attempt.invitation.id with
  | none =>
      simp only [updateInvitationWhere, found, Option.filter_none,
        Except.ok.injEq, Prod.mk.injEq] at succeeds
      obtain ⟨rfl, rfl⟩ := succeeds
      exact .unchanged
  | some row =>
      have sameId : row.id = attempt.invitation.id := key_of_findBy found
      rw [← sameId] at succeeds
      have member := mem_of_findBy found
      rcases updateInvitationWhere_eq_ok unique member succeeds with
        ⟨rfl, rfl⟩ | ⟨result, condition, rfl, updating⟩
      · exact .unchanged
      · simp only [decide_eq_true_eq] at condition
        obtain ⟨-, resultId, written⟩ :=
          written_of_update unique member updating
            (.resolved attempt.sendOperationId resolved condition.1
              condition.2)
        rw [Option.map_some, resultId]
        exact written

theorem confirmManualSendTransaction_written
    {context : RequestContext} {actor : AuthenticatedUser}
    {clientId idempotencyKey : Uuid} {updated : InvitationRecord}
    (unique : UniqueIds tables)
    (succeeds :
      confirmManualSendTransaction context actor clientId idempotencyKey
          tables =
        .ok (updated, after)) :
    ∃ invitation,
      findInvitationByClientId tables clientId = some invitation ∧
        InvitationsWritten tables
          (if invitation.deliveryState = .manuallyConfirmed then none
            else some (.confirmed updated.id idempotencyKey))
          after.invitations := by
  simp only [confirmManualSendTransaction, bind_eq_ok, demand_eq_ok]
    at succeeds
  obtain ⟨-, -, invitation, found, finished⟩ := succeeds
  have member : invitation ∈ tables.invitations := mem_of_findBy found
  refine ⟨invitation, found, ?_⟩
  split at finished
  next already =>
    cases finished
    rw [if_pos already]
    exact .unchanged
  next notYet =>
    simp only [bind_eq_ok, require_eq_ok, exists_const, Except.ok.injEq,
      Prod.mk.injEq] at finished
    obtain ⟨confirmable, ⟨result, written⟩, recording, rfl, rfl⟩ := finished
    rw [not_or, not_ne_iff, not_ne_iff] at confirmable
    obtain ⟨-, sameId, confirmed⟩ :=
      written_of_update unique member recording
        (.confirmed _ confirmable.1 confirmable.2)
    rw [if_neg notYet, sameId]
    exact confirmed

theorem revokeInvitationTransaction_written
    {context : RequestContext} {actor : AuthenticatedUser}
    {clientId : Uuid} {reason : String} {updated : InvitationRecord}
    (unique : UniqueIds tables)
    (succeeds :
      revokeInvitationTransaction context actor clientId reason tables =
        .ok (updated, after)) :
    InvitationsWritten tables none after.invitations := by
  simp only [revokeInvitationTransaction, bind_eq_ok, demand_eq_ok]
    at succeeds
  obtain ⟨-, -, invitation, found, finished⟩ := succeeds
  have member : invitation ∈ tables.invitations := mem_of_findBy found
  split at finished
  · cases finished
    exact .unchanged
  · simp only [bind_eq_ok, require_eq_ok, exists_const, Except.ok.injEq,
      Prod.mk.injEq] at finished
    obtain ⟨-, ⟨result, written⟩, recording, rfl, rfl⟩ := finished
    exact
      (written_of_update unique member recording
        (.revoked context.now)).2.2

/-- A correlated row is the one with the event's message id, or with its tag
when no row has the message id. -/
theorem correlateWebhookEvent_eq_found
    {messageId : MessageId} {tag : Option Uuid} {target : InvitationRecord}
    (correlated :
      correlateWebhookEvent tables (some messageId) tag = .found target) :
    findInvitationByProviderMessageId tables messageId = some target ∨
      findInvitationByProviderMessageId tables messageId = none ∧
        ∃ sendOperationId, tag = some sendOperationId ∧
          findInvitationBySendOperationId tables sendOperationId =
            some target := by
  simp only [correlateWebhookEvent] at correlated
  split at correlated
  · cases correlated
  split at correlated
  · cases correlated
  split at correlated
  next found lookup =>
    cases correlated
    rcases Option.or_eq_some_iff.mp lookup with
      byMessageId | ⟨unknown, byOperation⟩
    · exact Or.inl byMessageId
    · exact Or.inr ⟨unknown, Option.bind_eq_some_iff.mp byOperation⟩
  · cases correlated

/-- A correlated row carries the event's message id or its tag. -/
theorem correlatedWith_of_found
    {event : VerifiedWebhookEvent} {messageId : MessageId}
    {target : InvitationRecord} (carries : event.messageId = some messageId)
    (correlated :
      correlateWebhookEvent tables (some messageId) event.sendOperationTag =
        .found target) :
    target ∈ tables.invitations ∧ CorrelatedWith target event messageId := by
  rcases correlateWebhookEvent_eq_found correlated with
    byMessageId | ⟨-, sendOperationId, hasTag, byOperation⟩
  · exact
      ⟨mem_of_findBy byMessageId, carries,
        Or.inl (key_of_findBy byMessageId)⟩
  · refine ⟨mem_of_findBy byOperation, carries, Or.inr ?_⟩
    rw [hasTag]
    exact ⟨key_of_findBy byOperation, rfl⟩

theorem webhookTransaction_written
    {now : Timestamp} {event : VerifiedWebhookEvent} {messageId : MessageId}
    {updated : Option InvitationRecord} (unique : UniqueIds tables)
    (applied : appliedEvent event = some messageId)
    (succeeds :
      webhookTransaction now event messageId tables = .ok (updated, after)) :
    InvitationsWritten tables
      (updated.map fun row => .reported row.id event)
      after.invitations := by
  simp only [appliedEvent, Option.ite_none_right_eq_some] at applied
  obtain ⟨handled, carries⟩ := applied
  unfold webhookTransaction at succeeds
  split at succeeds
  · cases succeeds
    exact .unchanged
  · cases succeeds
    exact .unchanged
  next target correlated =>
    obtain ⟨member, correlatedWith⟩ :=
      correlatedWith_of_found carries correlated
    split at succeeds
    next notTerminal =>
      have reconciling : isReconciling event.type := by
        simpa [notTerminal] using handled
      rcases updateInvitationWhere_eq_ok unique member succeeds with
        ⟨rfl, rfl⟩ | ⟨result, unconfirmed, rfl, updating⟩
      · exact .unchanged
      · simp only [decide_eq_true_eq] at unconfirmed
        obtain ⟨-, resultId, written⟩ :=
          written_of_update unique member updating
            (.reconciled event messageId reconciling correlatedWith
              unconfirmed)
        rw [Option.map_some, resultId]
        exact written
    next terminalState terminal =>
      simp only [bind_eq_ok, Except.ok.injEq, Prod.mk.injEq] at succeeds
      obtain ⟨⟨result, written⟩, updating, rfl, rfl⟩ := succeeds
      obtain ⟨-, resultId, reported⟩ :=
        written_of_update unique member updating
          (.delivered event messageId terminalState terminal
            correlatedWith)
      rw [Option.map_some, resultId]
      exact reported

theorem continueInvitationTransaction_written
    {now : Timestamp} {rawToken : String}
    {result : Activation.ContinueResult} (unique : UniqueIds tables)
    (succeeds :
      Activation.continueInvitationTransaction platform now rawToken tables =
        .ok (result, after)) :
    InvitationsWritten tables none after.invitations := by
  simp only [Activation.continueInvitationTransaction, bind_eq_ok,
    demand_eq_ok, require_eq_ok, exists_const] at succeeds
  obtain ⟨invitation, found, -, finished⟩ := succeeds
  have member : invitation ∈ tables.invitations := mem_of_findBy found
  split at finished
  · cases finished
    exact .unchanged
  · simp only [bind_eq_ok, demand_eq_ok, Except.ok.injEq,
      Prod.mk.injEq] at finished
    obtain ⟨⟨marked, written⟩, marking, updated, isSome, -, rfl⟩ := finished
    rcases updateInvitationWhere_eq_ok unique member marking with
      ⟨rfl, -⟩ | ⟨row, isSent, -, updating⟩
    · cases isSome
    · simp only [decide_eq_true_eq] at isSent
      exact
        (written_of_update unique member updating (.opened now isSent)).2.2

theorem createActivatedAccount_eq_ok {context : RequestContext}
    {input : Activation.Repository.CreateActivatedAccountInput}
    {created : Activation.Repository.ActivatedAccountRecord}
    (succeeds :
      Activation.Repository.createActivatedAccount platform context tables
          input =
        .ok (created, after)) :
    after.invitations = tables.invitations ∧
      after.auditLogs = tables.auditLogs ∧
      after.users = tables.users ++ [input.user created.userId] ∧
      findBy ClientProfile.clientId input.clientId tables.clientProfiles =
        none ∧
      after.clientProfiles =
        tables.clientProfiles ++
          [{ id := created.clientProfileId
             userId := created.userId
             clientId := input.clientId }] := by
  simp only [Activation.Repository.createActivatedAccount,
    Activation.Repository.findClientProfileByClientId, bind_eq_ok,
    require_eq_ok, exists_const, Option.isNone_iff_eq_none,
    Option.map_eq_none_iff, Except.ok.injEq, Prod.mk.injEq] at succeeds
  obtain ⟨-, -, -, -, -, -, noProfile, rfl, rfl⟩ := succeeds
  exact ⟨rfl, rfl, rfl, noProfile, rfl⟩

/-- An eligible invitation has been sent. -/
theorem redeemable_of_isEligible {invitation : InvitationRecord}
    {now : Timestamp} (eligible : Activation.isEligible invitation now) :
    invitation.status ∈ redeemableStatuses := by
  unfold Activation.isEligible at eligible
  split at eligible
  · cases eligible
  next sentOrOpened =>
    rw [not_and_or, not_ne_iff, not_ne_iff] at sentOrOpened
    rcases sentOrOpened with isSent | isOpened
    · rw [isSent]
      decide
    · rw [isOpened]
      decide

/-- An activation creates one user, verified as its invitation's evidence
says, and marks the invitation. -/
theorem activateAccountTransaction_written
    {context : RequestContext} {rawToken passwordHash : String}
    {result : Activation.ActivateResult} (unique : UniqueIds tables)
    (succeeds :
      Activation.activateAccountTransaction platform context rawToken
          passwordHash tables =
        .ok (result, after)) :
    InvitationsWritten tables none after.invitations ∧
      ∃ invitation user,
        findInvitationByTokenHash tables
            (platform.hashInvitationToken rawToken) = some invitation ∧
          after.users = tables.users ++ [user] ∧
          user.emailVerified =
            Activation.computeEmailVerified invitation.deliveryMethod
              invitation.deliveryState := by
  simp only [Activation.activateAccountTransaction, bind_eq_ok,
    demand_eq_ok, require_eq_ok, exists_const, Except.ok.injEq,
    Prod.mk.injEq] at succeeds
  obtain ⟨invitation, found, eligible, destinationEmail, -, -, -, fullName, -,
    ⟨created, withAccount⟩, creating, ⟨updatedInvitation, written⟩, marking,
    -, rfl⟩ := succeeds
  obtain ⟨sameInvitations, -, users, -, -⟩ :=
    createActivatedAccount_eq_ok creating
  have member : invitation ∈ tables.invitations := mem_of_findBy found
  have stillUnique : UniqueIds withAccount := by
    rw [UniqueIds, sameInvitations]
    exact unique
  have stillMember : invitation ∈ withAccount.invitations := by
    rw [sameInvitations]
    exact member
  obtain ⟨-, consistent, rfl⟩ :=
    updateInvitation_eq_ok stillUnique stillMember marking
  refine ⟨?_, invitation, _, found, users, rfl⟩
  simp only [insertAuditLog, sameInvitations]
  exact
    .updated invitation context.now
      (findInvitationById_of_mem unique member)
      (.activated context.now (redeemable_of_isEligible eligible)) consistent

/-! ## One step -/

variable {state : State}

theorem withClient_written {α : Type} {actor : AuthenticatedUser}
    {clientId : Uuid} {body : Tables → Except TxError (α × Tables)}
    (bodyWritten :
      ∀ value after, body tables = .ok (value, after) →
        InvitationsWritten tables none after.invitations) :
    InvitationsWritten tables none
      (withClient actor clientId body tables).2.invitations := by
  rcases withClient_tables_cases actor clientId body tables with
    ⟨failure, refused⟩ | ⟨value, after, succeeds, answered⟩
  · rw [refused]
    exact .unchanged
  · rw [answered]
    exact bodyWritten value after succeeds

theorem transact_written {α : Type}
    {body : Tables → Except TxError (α × Tables)}
    (bodyWritten :
      ∀ value after, body tables = .ok (value, after) →
        InvitationsWritten tables none after.invitations) :
    InvitationsWritten tables none (transact body tables).2.invitations := by
  cases outcome : body tables with
  | error failure =>
      rw [transact_of_error outcome]
      exact .unchanged
  | ok result =>
      rw [transact_of_ok outcome]
      exact bodyWritten result.1 result.2 outcome

/-- A step writes what it records. -/
theorem step_written (unique : UniqueIds state.tables) (request : Request) :
    InvitationsWritten state.tables (recorded platform state request)
      (step platform state request).tables.invitations := by
  cases request with
  | prepareInvitation context actor clientId =>
      simp only [step, perform, failureOf_snd, recorded]
      exact
        withClient_written fun _ _ succeeds =>
          prepareInvitationTransaction_written succeeds
  | sendInvitation context rawToken actor clientId input =>
      simp only [step, perform, failureOf_snd, recorded, sendInvitation]
      exact reserveSendOperation_written unique
  | resendInvitation context rawToken actor clientId input concurrency =>
      simp only [step, perform, failureOf_snd, recorded, resendInvitation]
      exact reserveSendOperation_written unique
  | providerOutcome now index outcome =>
      simp only [step, perform, recorded]
      cases atIndex : state.attempts[index]? with
      | none =>
          exact .unchanged
      | some attempt =>
          simp only [failureOf_snd, attemptAutomatedDelivery,
            Option.bind_some]
          cases resolves : outcome.resolved with
          | none =>
              exact .unchanged
          | some resolved =>
              simp only [Option.bind_some]
              cases result :
                  recordOutcomeTransaction now attempt resolved
                    state.tables with
              | error failure =>
                  rw [transact_of_error result]
                  exact .unchanged
              | ok answer =>
                  obtain ⟨updated, after⟩ := answer
                  rw [transact_of_ok result]
                  have written :=
                    recordOutcomeTransaction_written unique result
                  cases updated <;> exact written
  | confirmManualSend context actor clientId idempotencyKey =>
      simp only [step, perform, failureOf_snd, recorded, confirmManualSend]
      rcases withClient_tables_cases actor clientId
          (confirmManualSendTransaction context actor clientId
            idempotencyKey)
          state.tables with
        ⟨failure, refused⟩ | ⟨updated, after, succeeds, answered⟩
      · rw [refused]
        cases findInvitationByClientId state.tables clientId <;>
          exact .unchanged
      · obtain ⟨invitation, found, written⟩ :=
          confirmManualSendTransaction_written unique succeeds
        rw [answered, found]
        exact written
  | revokeInvitation context actor clientId reason =>
      simp only [step, perform, failureOf_snd, recorded]
      exact
        withClient_written fun _ _ succeeds =>
          revokeInvitationTransaction_written unique succeeds
  | webhook now verified =>
      cases verified with
      | none =>
          exact .unchanged
      | some event =>
          simp only [step, perform, failureOf_snd, recorded,
            handleResendWebhookEvent]
          cases applied : appliedEvent event with
          | none =>
              exact .unchanged
          | some messageId =>
              simp only [Option.bind_some]
              cases result :
                  webhookTransaction now event messageId state.tables with
              | error failure =>
                  rw [transact_of_error result]
                  exact .unchanged
              | ok answer =>
                  obtain ⟨updated, after⟩ := answer
                  rw [transact_of_ok result]
                  have written :=
                    webhookTransaction_written unique applied result
                  cases updated <;> exact written
  | continueInvitation now rawToken =>
      simp only [step, perform, failureOf_snd, recorded]
      exact
        transact_written fun _ _ succeeds =>
          continueInvitationTransaction_written unique succeeds
  | activateAccount context rawToken passwordHash =>
      simp only [step, perform, failureOf_snd, recorded]
      exact
        transact_written fun _ _ succeeds =>
          (activateAccountTransaction_written unique succeeds).1
  | assignmentsChanged staffAssignments =>
      exact .unchanged
  | clientsChanged clients =>
      exact .unchanged
  | usersChanged users accounts clientProfiles =>
      exact .unchanged

/-- The ids stay distinct. -/
theorem uniqueIds_of_written {entry : Option Entry}
    {invitations : List InvitationRecord} (unique : UniqueIds tables)
    (written : InvitationsWritten tables entry invitations) :
    (invitations.map InvitationRecord.id).Nodup := by
  cases written with
  | unchanged =>
      exact unique
  | prepared id clientId now freshId =>
      exact nodup_map_concat unique freshId
  | updated row now found written consistent =>
      exact nodup_map_updateBy written.id_eq unique

theorem step_uniqueIds (unique : UniqueIds state.tables)
    (request : Request) :
    UniqueIds (step platform state request).tables :=
  uniqueIds_of_written unique (step_written unique request)

end Heritage.Invitations
