import Heritage.Invitations.Verified

/-!
# Single use of invitation tokens

One row of the table is reused for every send of an invitation: its card is
the status, the token and the expiry that reservations, revocations and
redemptions rewrite.  Every step makes at most one move of one card, and the
history of the moves says which tokens can still be redeemed.
-/

namespace Heritage.Invitations

open Heritage.Store
open Repository

/-- What a row says about its token. -/
structure Card where
  id : Uuid
  status : PortalInvitationStatus
  tokenHash : Option String
  expiresAt : Option Timestamp

/-- The card of a row. -/
def card (row : InvitationRecord) : Card where
  id := row.id
  status := row.status
  tokenHash := row.tokenHash
  expiresAt := row.expiresAt

/-- The cards of the invitation table. -/
def cards (tables : Tables) : List Card :=
  tables.invitations.map card

def Card.issued (tokenHash : String) (expiresAt : Timestamp)
    (card : Card) : Card :=
  { card with
    status := .invitationSent
    tokenHash := some tokenHash
    expiresAt := some expiresAt }

def Card.revoked (card : Card) : Card :=
  { card with
    status := .invitationRevoked
    tokenHash := none
    expiresAt := none }

def Card.withStatus (status : PortalInvitationStatus) (card : Card) : Card :=
  { card with status := status }

/-- What a step does to a token: it issues one, revokes the invitation, or
adds an audit entry of a redemption, with the token it presents, if any. -/
inductive TokenEvent where
  | issued (invitationId : Uuid) (tokenHash : String) (expiresAt : Timestamp)
  | revoked (invitationId : Uuid)
  | redeemed (presented : Option String) (entry : AuditLog)
  deriving DecidableEq

/-- The token an event issues. -/
def TokenEvent.issuedToken : TokenEvent → Option String
  | .issued _ tokenHash _ => some tokenHash
  | _ => none

/-- The event issues a token for this invitation. -/
def TokenEvent.issuesFor (invitationId : Uuid) : TokenEvent → Bool
  | .issued id _ _ => id = invitationId
  | _ => false

/-- The event redeems the token with an audit entry of this action. -/
def TokenEvent.redeems (tokenHash : String)
    (action : InvitationAuditAction) : TokenEvent → Bool
  | .redeemed presented entry =>
      presented = some tokenHash ∧ entry.action = action
  | _ => false

/-- The token a request presents, hashed, and the time it does. -/
def Request.presents (platform : Platform) :
    Request → Option (String × Timestamp)
  | .continueInvitation now rawToken =>
      some (platform.hashInvitationToken rawToken, now)
  | .activateAccount context rawToken _ =>
      some (platform.hashInvitationToken rawToken, context.now)
  | _ => none

/-- What an audit entry says about a token, when the request that added it
presented `presented`. -/
def auditedEvent (presented : Option (String × Timestamp))
    (entry : AuditLog) : Option TokenEvent :=
  match entry.action with
  | .revoked => some (.revoked entry.entityId)
  | .opened | .activated =>
      some (.redeemed (presented.map Prod.fst) entry)
  | _ => none

/-- The token of a fresh reservation. -/
def issuedBy (platform : Platform) :
    Except TxError ReservationOutcome → List TokenEvent
  | .ok (.fresh invitation rawToken) =>
      invitation.expiresAt.toList.map
        (.issued invitation.id (platform.hashInvitationToken rawToken))
  | _ => []

/-- The token a request issues. -/
def issuedEvents (platform : Platform) (state : State) :
    Request → List TokenEvent
  | .sendInvitation context rawToken actor clientId input =>
      issuedBy platform
        (reserveSendOperation platform context rawToken actor clientId input
          firstSend state.tables).1
  | .resendInvitation context rawToken actor clientId input concurrency =>
      issuedBy platform
        (reserveSendOperation platform context rawToken actor clientId input
          (resend concurrency) state.tables).1
  | _ => []

/-- The audit entries a request adds. -/
def addedAudits (platform : Platform) (state : State) (request : Request) :
    List AuditLog :=
  (step platform state request).tables.auditLogs.drop
    state.tables.auditLogs.length

/-- What a request does to tokens. -/
def tokenEvents (platform : Platform) (state : State) (request : Request) :
    List TokenEvent :=
  issuedEvents platform state request ++
    (addedAudits platform state request).filterMap
      (auditedEvent (request.presents platform))

/-- What the steps of a run did to tokens, oldest first. -/
def tokenHistory (platform : Platform) (requests : List Request) :
    List TokenEvent :=
  trace (step platform) (tokenEvents platform) State.initial requests

/-- The token was issued and has expired by `now`, or its invitation was
issued another one or revoked since, or it has activated an account. -/
def Spent (events : List TokenEvent) (tokenHash : String)
    (now : Timestamp) : Prop :=
  ∃ earlier invitationId expiresAt later,
    events = earlier ++ .issued invitationId tokenHash expiresAt :: later ∧
      (expiresAt < now ∨
        ∃ event ∈ later,
          event.issuesFor invitationId ∨ event = .revoked invitationId ∨
            event.redeems tokenHash .activated)

/-- The statuses from which a request may issue a token. -/
def Request.sendableStatuses : Request → List PortalInvitationStatus
  | .sendInvitation .. => firstSend.allowedStatuses
  | .resendInvitation _ _ _ _ _ concurrency =>
      (resend concurrency).allowedStatuses
  | _ => []

/-- One move of one card, with its events. -/
inductive Moved (sendable : List PortalInvitationStatus)
    (before : List Card) : List TokenEvent → List Card → Prop where
  | silent : Moved sendable before [] before
  | prepared (id : Uuid)
      (freshId : findBy Card.id id before = none) :
      Moved sendable before []
        (before ++ [⟨id, .invitationPrepared, none, none⟩])
  | issued (card : Card) (tokenHash : String) (expiresAt : Timestamp)
      (member : card ∈ before) (isSendable : card.status ∈ sendable) :
      Moved sendable before [.issued card.id tokenHash expiresAt]
        (updateBy Card.id card.id (Card.issued tokenHash expiresAt) before)
  | revoked (card : Card) (member : card ∈ before)
      (notActivated : card.status ≠ .accountActivated) :
      Moved sendable before [.revoked card.id]
        (updateBy Card.id card.id Card.revoked before)
  | opened (card : Card) (tokenHash : String) (entry : AuditLog)
      (member : card ∈ before) (hasToken : card.tokenHash = some tokenHash)
      (isSent : card.status = .invitationSent)
      (isOpened : entry.action = .opened) :
      Moved sendable before [.redeemed (some tokenHash) entry]
        (updateBy Card.id card.id (Card.withStatus .invitationOpened) before)
  | activated (card : Card) (tokenHash : String) (entry : AuditLog)
      (member : card ∈ before) (hasToken : card.tokenHash = some tokenHash)
      (redeemable :
        card.status = .invitationSent ∨ card.status = .invitationOpened)
      (isActivated : entry.action = .activated) :
      Moved sendable before [.redeemed (some tokenHash) entry]
        (updateBy Card.id card.id (Card.withStatus .accountActivated) before)

/-- The client profiles afterwards: the same, or one more for a client that
had none. -/
inductive Enrolled (before : List ClientProfile) :
    List ClientProfile → Prop where
  | same : Enrolled before before
  | added (profile : ClientProfile)
      (first : findBy ClientProfile.clientId profile.clientId before = none) :
      Enrolled before (before ++ [profile])

/-- The tables after a request that presented `presented` and issued
`issued`: audit entries were added, and with them the cards moved. -/
def MovedTables (sendable : List PortalInvitationStatus)
    (presented : Option (String × Timestamp)) (issued : List TokenEvent)
    (tables after : Tables) : Prop :=
  Enrolled tables.clientProfiles after.clientProfiles ∧
    ∃ added,
      after.auditLogs = tables.auditLogs ++ added ∧
        Moved sendable (cards tables)
          (issued ++ added.filterMap (auditedEvent presented)) (cards after)

variable {platform : Platform} {tables after : Tables}
  {sendable : List PortalInvitationStatus}
  {presented : Option (String × Timestamp)}

/-- Nothing was written. -/
theorem movedTables_refl : MovedTables sendable presented [] tables tables :=
  ⟨.same, [], (List.append_nil _).symm, .silent⟩

/-- The cards stay, and the added audit entries say nothing about tokens. -/
theorem movedTables_of_kept {added : List AuditLog}
    (sameProfiles : after.clientProfiles = tables.clientProfiles)
    (audits : after.auditLogs = tables.auditLogs ++ added)
    (noEvent : ∀ entry ∈ added, auditedEvent presented entry = none)
    (sameCards : cards after = cards tables) :
    MovedTables sendable presented [] tables after := by
  refine ⟨sameProfiles ▸ .same, added, audits, ?_⟩
  rw [sameCards, List.filterMap_eq_nil_iff.mpr noEvent]
  exact .silent

/-- A move that one audit entry records. -/
theorem movedTables_of_audited {entry : AuditLog} (event : TokenEvent)
    (enrolled : Enrolled tables.clientProfiles after.clientProfiles)
    (audits : after.auditLogs = tables.auditLogs ++ [entry])
    (isEvent : auditedEvent presented entry = some event)
    (moved : Moved sendable (cards tables) [event] (cards after)) :
    MovedTables sendable presented [] tables after := by
  refine ⟨enrolled, [entry], audits, ?_⟩
  rw [List.filterMap_cons_some isEvent]
  exact moved

theorem mem_cards {row : InvitationRecord}
    (member : row ∈ tables.invitations) : card row ∈ cards tables :=
  List.mem_map_of_mem member

/-- A successful update changes the card of its row. -/
theorem cards_of_update (change : Card → Card) {now : Timestamp}
    {data : InvitationRecord → InvitationRecord}
    {row updated : InvitationRecord} (unique : UniqueIds tables)
    (member : row ∈ tables.invitations)
    (succeeds :
      updateInvitation tables now row.id data = .ok (updated, after))
    (commutes : ∀ other, card (data other) = change (card other)) :
    after.clientProfiles = tables.clientProfiles ∧
      after.auditLogs = tables.auditLogs ∧
      updated = stamped now data row ∧
      cards after = updateBy Card.id row.id change (cards tables) := by
  obtain ⟨isStamped, -, rfl⟩ :=
    updateInvitation_eq_ok unique member succeeds
  exact ⟨rfl, rfl, isStamped, map_updateBy (fun _ => rfl) commutes⟩

/-- A successful update of other columns keeps the cards. -/
theorem cards_of_kept {now : Timestamp}
    {data : InvitationRecord → InvitationRecord}
    {row updated : InvitationRecord} (unique : UniqueIds tables)
    (member : row ∈ tables.invitations)
    (succeeds :
      updateInvitation tables now row.id data = .ok (updated, after))
    (kept : ∀ other, card (data other) = card other) :
    after.clientProfiles = tables.clientProfiles ∧
      after.auditLogs = tables.auditLogs ∧ cards after = cards tables := by
  obtain ⟨-, -, rfl⟩ := updateInvitation_eq_ok unique member succeeds
  exact ⟨rfl, rfl, map_updateBy_of_kept kept⟩

theorem prepareInvitationTransaction_moved
    {context : RequestContext} {actor : AuthenticatedUser}
    {clientId : Uuid} {invitation : InvitationRecord}
    (succeeds :
      prepareInvitationTransaction context actor clientId tables =
        .ok (invitation, after)) :
    MovedTables sendable presented [] tables after := by
  simp only [prepareInvitationTransaction, bind_eq_ok] at succeeds
  obtain ⟨-, -, finished⟩ := succeeds
  split at finished
  · simp only [bind_eq_ok, Except.ok.injEq, Prod.mk.injEq] at finished
    obtain ⟨-, -, -, rfl⟩ := finished
    exact movedTables_refl
  · simp only [createInvitation, bind_eq_ok, require_eq_ok, exists_const,
      Option.isNone_iff_eq_none, Except.ok.injEq, Prod.mk.injEq] at finished
    obtain ⟨-, ⟨created, written⟩, ⟨-, freshId, -, rfl, rfl⟩, -, rfl⟩ :=
      finished
    refine ⟨.same, _, rfl, ?_⟩
    rw [List.nil_append, List.filterMap_cons_none rfl, List.filterMap_nil]
    have freshCard :
        findBy Card.id (context.randomUuid 0) (cards tables) = none := by
      rw [findBy_eq_none_iff]
      intro other member
      obtain ⟨row, rowMember, rfl⟩ := List.mem_map.mp member
      exact findBy_eq_none_iff.mp freshId row rowMember
    have inserted : Moved sendable (cards tables) [] _ :=
      .prepared _ freshCard
    simpa [cards, insertAuditLog, card, preparedRow] using inserted

theorem reserveSendOperationTransaction_moved
    {context : RequestContext} {rawToken : String}
    {actor : AuthenticatedUser} {clientId : Uuid}
    {input : SendOrResendInput} {kind : ReservationKind}
    {outcome : ReservationOutcome} (unique : UniqueIds tables)
    (noEvent :
      ∀ entry : AuditLog, entry.action = kind.auditAction →
        auditedEvent presented entry = none)
    (succeeds :
      reserveSendOperationTransaction platform context rawToken actor
          clientId input kind tables =
        .ok (outcome, after)) :
    MovedTables kind.allowedStatuses presented (issuedBy platform (.ok outcome))
      tables after := by
  rcases reserveSendOperationTransaction_eq_ok succeeds with
    ⟨invitation, found, ⟨rfl, rfl⟩ |
      ⟨email, updated, written, entry, -, isSendable, -, recording, rfl,
        hasAction, rfl⟩⟩
  · exact movedTables_refl
  · have member : invitation ∈ tables.invitations := mem_of_findBy found
    have updating := recordReservation_eq_ok unique member recording
    obtain ⟨sameProfiles, audits, isStamped, moved⟩ :=
      cards_of_update (Card.issued _ (computeExpiryFromNow context.now))
        unique member updating fun _ => rfl
    have issuing :
        issuedBy platform (.ok (.fresh updated rawToken)) =
          [.issued invitation.id (platform.hashInvitationToken rawToken)
            (computeExpiryFromNow context.now)] := by
      rw [issuedBy, isStamped]
      rfl
    have issued :
        Moved kind.allowedStatuses (cards tables)
          [.issued invitation.id (platform.hashInvitationToken rawToken)
            (computeExpiryFromNow context.now)]
          _ :=
      .issued (card invitation) _ _ (mem_cards member) isSendable
    rw [issuing]
    split
    · refine
        ⟨sameProfiles ▸ .same, [entry],
          by rw [insertAuditLog, audits], ?_⟩
      rw [List.filterMap_cons_none (noEvent entry hasAction),
        List.filterMap_nil, List.append_nil]
      exact moved ▸ issued
    · refine
        ⟨sameProfiles ▸ .same, [],
          by rw [audits, List.append_nil], ?_⟩
      rw [List.filterMap_nil, List.append_nil]
      exact moved ▸ issued

/-- A conditional update of other columns moves nothing. -/
theorem movedTables_of_updateWhere {now : Timestamp}
    {condition : InvitationRecord → Bool}
    {data : InvitationRecord → InvitationRecord} {row : InvitationRecord}
    {updated : Option InvitationRecord} (unique : UniqueIds tables)
    (member : row ∈ tables.invitations)
    (succeeds :
      updateInvitationWhere tables now row.id condition data =
        .ok (updated, after))
    (kept : ∀ other, card (data other) = card other) :
    MovedTables sendable presented [] tables after := by
  rcases updateInvitationWhere_eq_ok unique member succeeds with
    ⟨-, rfl⟩ | ⟨result, -, -, updating⟩
  · exact movedTables_refl
  · obtain ⟨sameProfiles, audits, sameCards⟩ :=
      cards_of_kept unique member updating kept
    exact
      movedTables_of_kept sameProfiles
        (audits.trans (List.append_nil _).symm) (by simp) sameCards

theorem recordOutcomeTransaction_moved
    {now : Timestamp} {attempt : SendAttempt} {resolved : ResolvedOutcome}
    {updated : Option InvitationRecord} (unique : UniqueIds tables)
    (succeeds :
      recordOutcomeTransaction now attempt resolved tables =
        .ok (updated, after)) :
    MovedTables sendable presented [] tables after := by
  unfold recordOutcomeTransaction recordAutomatedSendOutcome at succeeds
  cases found : findInvitationById tables attempt.invitation.id with
  | none =>
      simp only [updateInvitationWhere, found, Option.filter_none,
        Except.ok.injEq, Prod.mk.injEq] at succeeds
      obtain ⟨-, rfl⟩ := succeeds
      exact movedTables_refl
  | some row =>
      have sameId : row.id = attempt.invitation.id := key_of_findBy found
      rw [← sameId] at succeeds
      apply
        movedTables_of_updateWhere unique (mem_of_findBy found) succeeds
      intro other
      cases resolved <;> rfl

theorem confirmManualSendTransaction_moved
    {context : RequestContext} {actor : AuthenticatedUser}
    {clientId idempotencyKey : Uuid} {updated : InvitationRecord}
    (unique : UniqueIds tables)
    (succeeds :
      confirmManualSendTransaction context actor clientId idempotencyKey
          tables =
        .ok (updated, after)) :
    MovedTables sendable presented [] tables after := by
  simp only [confirmManualSendTransaction, bind_eq_ok, demand_eq_ok]
    at succeeds
  obtain ⟨-, -, invitation, found, finished⟩ := succeeds
  split at finished
  · cases finished
    exact movedTables_refl
  · simp only [bind_eq_ok, require_eq_ok, exists_const, Except.ok.injEq,
      Prod.mk.injEq] at finished
    obtain ⟨-, ⟨result, written⟩, recording, -, rfl⟩ := finished
    obtain ⟨sameProfiles, audits, sameCards⟩ :=
      cards_of_kept unique (mem_of_findBy found) recording fun _ => rfl
    refine
      movedTables_of_kept sameProfiles (by rw [insertAuditLog, audits]) ?_
        sameCards
    intro entry member
    rw [List.mem_singleton.mp member]
    rfl

theorem revokeInvitationTransaction_moved
    {context : RequestContext} {actor : AuthenticatedUser}
    {clientId : Uuid} {reason : String} {updated : InvitationRecord}
    (unique : UniqueIds tables)
    (succeeds :
      revokeInvitationTransaction context actor clientId reason tables =
        .ok (updated, after)) :
    MovedTables sendable presented [] tables after := by
  simp only [revokeInvitationTransaction, bind_eq_ok, demand_eq_ok]
    at succeeds
  obtain ⟨-, -, invitation, found, finished⟩ := succeeds
  have member : invitation ∈ tables.invitations := mem_of_findBy found
  split at finished
  · cases finished
    exact movedTables_refl
  · simp only [bind_eq_ok, require_eq_ok, exists_const, Except.ok.injEq,
      Prod.mk.injEq] at finished
    obtain ⟨notActivated, ⟨result, written⟩, recording, -, rfl⟩ := finished
    obtain ⟨sameProfiles, audits, isStamped, moved⟩ :=
      cards_of_update Card.revoked unique member recording fun _ => rfl
    refine
      movedTables_of_audited (.revoked invitation.id) (sameProfiles ▸ .same)
        (by rw [insertAuditLog, audits]) (by rw [isStamped]; rfl) ?_
    change Moved _ _ _ (cards written)
    rw [moved]
    exact .revoked (card invitation) (mem_cards member) notActivated

theorem webhookTransaction_moved
    {now : Timestamp} {event : VerifiedWebhookEvent} {messageId : MessageId}
    {updated : Option InvitationRecord} (unique : UniqueIds tables)
    (applied : appliedEvent event = some messageId)
    (succeeds :
      webhookTransaction now event messageId tables = .ok (updated, after)) :
    MovedTables sendable presented [] tables after := by
  simp only [appliedEvent, Option.ite_none_right_eq_some] at applied
  unfold webhookTransaction at succeeds
  split at succeeds
  · cases succeeds
    exact movedTables_refl
  · cases succeeds
    exact movedTables_refl
  next target correlated =>
    obtain ⟨member, -⟩ := correlatedWith_of_found applied.2 correlated
    split at succeeds
    · exact
        movedTables_of_updateWhere unique member succeeds fun _ => rfl
    · simp only [bind_eq_ok, Except.ok.injEq, Prod.mk.injEq] at succeeds
      obtain ⟨⟨result, written⟩, updating, -, rfl⟩ := succeeds
      obtain ⟨sameProfiles, audits, sameCards⟩ :=
        cards_of_kept unique member updating fun _ => rfl
      exact
        movedTables_of_kept sameProfiles
          (audits.trans (List.append_nil _).symm) (by simp) sameCards

/-- An eligible invitation has been sent and has not expired. -/
theorem isEligible_iff {invitation : InvitationRecord} {now : Timestamp} :
    Activation.isEligible invitation now ↔
      (invitation.status = .invitationSent ∨
        invitation.status = .invitationOpened) ∧
        ∃ expiresAt, invitation.expiresAt = some expiresAt ∧
          now ≤ expiresAt := by
  unfold Activation.isEligible
  split
  next neither =>
    simp [neither]
  next sentOrOpened =>
    rw [not_and_or, not_ne_iff, not_ne_iff] at sentOrOpened
    simp [sentOrOpened, Option.any_eq_true]

theorem continueInvitationTransaction_moved
    {now : Timestamp} {rawToken : String}
    {result : Activation.ContinueResult} (unique : UniqueIds tables)
    (succeeds :
      Activation.continueInvitationTransaction platform now rawToken tables =
        .ok (result, after)) :
    MovedTables sendable
      (some (platform.hashInvitationToken rawToken, now)) [] tables
      after := by
  simp only [Activation.continueInvitationTransaction, bind_eq_ok,
    demand_eq_ok, require_eq_ok, exists_const] at succeeds
  obtain ⟨invitation, found, -, finished⟩ := succeeds
  have member : invitation ∈ tables.invitations := mem_of_findBy found
  have hasToken :
      invitation.tokenHash = some (platform.hashInvitationToken rawToken) :=
    key_of_findBy found
  split at finished
  · cases finished
    exact movedTables_refl
  · simp only [bind_eq_ok, demand_eq_ok, Except.ok.injEq,
      Prod.mk.injEq] at finished
    obtain ⟨⟨marked, written⟩, marking, updated, isSome, -, rfl⟩ := finished
    rcases updateInvitationWhere_eq_ok unique member marking with
      ⟨rfl, -⟩ | ⟨row, isSent, -, updating⟩
    · cases isSome
    · obtain ⟨sameProfiles, audits, isStamped, moved⟩ :=
        cards_of_update (Card.withStatus .invitationOpened) unique member
          updating fun _ => rfl
      refine
        movedTables_of_audited _ (sameProfiles ▸ .same)
          (by rw [Repository.insertAuditLog, audits]) rfl ?_
      change Moved _ _ _ (cards written)
      rw [moved]
      exact
        .opened (card invitation) _ _ (mem_cards member) hasToken
          (of_decide_eq_true isSent) rfl

theorem activateAccountTransaction_moved
    {context : RequestContext} {rawToken passwordHash : String}
    {result : Activation.ActivateResult} (unique : UniqueIds tables)
    (succeeds :
      Activation.activateAccountTransaction platform context rawToken
          passwordHash tables =
        .ok (result, after)) :
    MovedTables sendable
      (some (platform.hashInvitationToken rawToken, context.now)) [] tables
      after := by
  simp only [Activation.activateAccountTransaction, bind_eq_ok,
    demand_eq_ok, require_eq_ok, exists_const, Except.ok.injEq,
    Prod.mk.injEq] at succeeds
  obtain ⟨invitation, found, eligible, destinationEmail, -, -, -, fullName, -,
    ⟨created, withAccount⟩, creating, ⟨updatedInvitation, written⟩, marking,
    -, rfl⟩ := succeeds
  obtain ⟨sameInvitations, sameAudits, -, first, enrolled⟩ :=
    createActivatedAccount_eq_ok creating
  have member : invitation ∈ tables.invitations := mem_of_findBy found
  have hasToken :
      invitation.tokenHash = some (platform.hashInvitationToken rawToken) :=
    key_of_findBy found
  have stillUnique : UniqueIds withAccount := by
    rw [UniqueIds, sameInvitations]
    exact unique
  obtain ⟨sameProfiles, audits, isStamped, moved⟩ :=
    cards_of_update (Card.withStatus .accountActivated) stillUnique
      (sameInvitations ▸ member) marking fun _ => rfl
  refine
    movedTables_of_audited _
      (sameProfiles.trans enrolled ▸ .added _ first)
      (by rw [Repository.insertAuditLog, audits, sameAudits]) rfl ?_
  have sameCards : cards withAccount = cards tables := by
    rw [cards, sameInvitations, cards]
  change Moved _ _ _ (cards written)
  rw [moved, sameCards]
  exact
    .activated (card invitation) _ _ (mem_cards member) hasToken
      (isEligible_iff.mp eligible).1 rfl

/-! ## One step -/

variable {state : State}

theorem transact_moved {α : Type}
    {body : Tables → Except TxError (α × Tables)}
    (bodyMoved :
      ∀ value after, body tables = .ok (value, after) →
        MovedTables sendable presented [] tables after) :
    MovedTables sendable presented [] tables (transact body tables).2 := by
  cases outcome : body tables with
  | error failure =>
      rw [transact_of_error outcome]
      exact movedTables_refl
  | ok result =>
      rw [transact_of_ok outcome]
      exact bodyMoved result.1 result.2 outcome

theorem withClient_moved {α : Type} {actor : AuthenticatedUser}
    {clientId : Uuid} {body : Tables → Except TxError (α × Tables)}
    (bodyMoved :
      ∀ value after, body tables = .ok (value, after) →
        MovedTables sendable presented [] tables after) :
    MovedTables sendable presented [] tables
      (withClient actor clientId body tables).2 := by
  unfold withClient
  split
  · exact transact_moved bodyMoved
  · exact movedTables_refl

theorem reserveSendOperation_moved
    {context : RequestContext} {rawToken : String}
    {actor : AuthenticatedUser} {clientId : Uuid}
    {input : SendOrResendInput} {kind : ReservationKind}
    (unique : UniqueIds tables)
    (noEvent :
      ∀ entry : AuditLog, entry.action = kind.auditAction →
        auditedEvent presented entry = none) :
    MovedTables kind.allowedStatuses presented
      (issuedBy platform
        (reserveSendOperation platform context rawToken actor clientId input
          kind tables).1)
      tables
      (reserveSendOperation platform context rawToken actor clientId input
        kind tables).2 := by
  rcases reserveSendOperation_tables_cases context rawToken actor clientId
      input kind tables with
    ⟨failure, refused⟩ | ⟨outcome, after, commits, returned⟩
  · rw [refused]
    exact movedTables_refl
  · rw [returned]
    exact reserveSendOperationTransaction_moved unique noEvent commits

/-- The client profiles change through activations only. -/
def KeepsClientProfiles (state : State) : Request → Prop
  | .usersChanged _ _ clientProfiles =>
      clientProfiles = state.tables.clientProfiles
  | _ => True

theorem step_movedTables (unique : UniqueIds state.tables)
    {request : Request} (keeps : KeepsClientProfiles state request) :
    MovedTables request.sendableStatuses (request.presents platform)
      (issuedEvents platform state request) state.tables
      (step platform state request).tables := by
  have quiet :
      ∀ (action : InvitationAuditAction) (entry : AuditLog),
        action = .sentAutomated ∨ action = .resent → entry.action = action →
          auditedEvent none entry = none := by
    rintro action entry (rfl | rfl) isAction <;>
      simp [auditedEvent, isAction]
  cases request with
  | prepareInvitation context actor clientId =>
      simp only [step, perform, failureOf_snd]
      exact
        withClient_moved fun _ _ succeeds =>
          prepareInvitationTransaction_moved succeeds
  | sendInvitation context rawToken actor clientId input =>
      simp only [step, perform, failureOf_snd, sendInvitation]
      exact
        reserveSendOperation_moved unique fun entry isAction =>
          quiet _ entry (Or.inl rfl) isAction
  | resendInvitation context rawToken actor clientId input concurrency =>
      simp only [step, perform, failureOf_snd, resendInvitation]
      exact
        reserveSendOperation_moved unique fun entry isAction =>
          quiet _ entry (Or.inr rfl) isAction
  | providerOutcome now index outcome =>
      simp only [step, perform]
      cases atIndex : state.attempts[index]? with
      | none =>
          exact movedTables_refl
      | some attempt =>
          simp only [failureOf_snd, attemptAutomatedDelivery]
          cases resolves : outcome.resolved with
          | none =>
              exact movedTables_refl
          | some resolved =>
              exact
                transact_moved fun _ _ succeeds =>
                  recordOutcomeTransaction_moved unique succeeds
  | confirmManualSend context actor clientId idempotencyKey =>
      simp only [step, perform, failureOf_snd]
      exact
        withClient_moved fun _ _ succeeds =>
          confirmManualSendTransaction_moved unique succeeds
  | revokeInvitation context actor clientId reason =>
      simp only [step, perform, failureOf_snd]
      exact
        withClient_moved fun _ _ succeeds =>
          revokeInvitationTransaction_moved unique succeeds
  | webhook now verified =>
      cases verified with
      | none =>
          exact movedTables_refl
      | some event =>
          simp only [step, perform, failureOf_snd, handleResendWebhookEvent]
          cases applied : appliedEvent event with
          | none =>
              exact movedTables_refl
          | some messageId =>
              exact
                transact_moved fun _ _ succeeds =>
                  webhookTransaction_moved unique applied succeeds
  | continueInvitation now rawToken =>
      simp only [step, perform, failureOf_snd]
      exact
        transact_moved fun _ _ succeeds =>
          continueInvitationTransaction_moved unique succeeds
  | activateAccount context rawToken passwordHash =>
      simp only [step, perform, failureOf_snd]
      exact
        transact_moved fun _ _ succeeds =>
          activateAccountTransaction_moved unique succeeds
  | assignmentsChanged staffAssignments =>
      exact movedTables_refl
  | clientsChanged clients =>
      exact movedTables_refl
  | usersChanged users accounts clientProfiles =>
      exact
        movedTables_of_kept keeps (List.append_nil _).symm (by simp) rfl

/-- A step adds its audit entries and moves at most one card, and its events
say how. -/
theorem step_moved (unique : UniqueIds state.tables) (request : Request) :
    (step platform state request).tables.auditLogs =
        state.tables.auditLogs ++ addedAudits platform state request ∧
      Moved request.sendableStatuses (cards state.tables)
        (tokenEvents platform state request)
        (cards (step platform state request).tables) := by
  have moves :
      KeepsClientProfiles state request →
        (step platform state request).tables.auditLogs =
            state.tables.auditLogs ++ addedAudits platform state request ∧
          Moved request.sendableStatuses (cards state.tables)
            (tokenEvents platform state request)
            (cards (step platform state request).tables) := by
    intro keeps
    obtain ⟨-, added, audits, moved⟩ :=
      @step_movedTables platform state unique request keeps
    rw [tokenEvents, addedAudits, audits, List.drop_left]
    exact ⟨rfl, moved⟩
  cases request with
  | usersChanged users accounts clientProfiles =>
      have nothing :
          addedAudits platform state
              (.usersChanged users accounts clientProfiles) = [] :=
        List.drop_length
      rw [tokenEvents, nothing]
      exact ⟨(List.append_nil _).symm, .silent⟩
  | _ => exact moves trivial

/-! ## What the history says about a card -/

/-- The token of a card is the latest one issued for its invitation, and a
status that still redeems it says that it was not redeemed before. -/
structure Traced (events : List TokenEvent) (card : Card) : Prop where
  latest :
    ∀ tokenHash, card.tokenHash = some tokenHash →
      ∃ expiresAt since,
        card.expiresAt = some expiresAt ∧
          lastSplit (TokenEvent.issuesFor card.id) events =
            some (.issued card.id tokenHash expiresAt, since) ∧
          .revoked card.id ∉ since
  unredeemed :
    ∀ tokenHash, card.tokenHash = some tokenHash →
      card.status = .invitationSent →
        ∀ event ∈ events, ∀ action, ¬ event.redeems tokenHash action
  unactivated :
    ∀ tokenHash, card.tokenHash = some tokenHash →
      card.status = .invitationOpened →
        ∀ event ∈ events, ¬ event.redeems tokenHash .activated

/-- The tokens issued by a history. -/
def issuedTokens (events : List TokenEvent) : List String :=
  events.filterMap TokenEvent.issuedToken

/-- The redemptions of a token with one action. -/
def redemptions (events : List TokenEvent) (tokenHash : String)
    (action : InvitationAuditAction) : List TokenEvent :=
  events.filter (TokenEvent.redeems tokenHash action)

/-- The cards with the history that led to them. -/
structure AllTraced (events : List TokenEvent) (cards : List Card) :
    Prop where
  unique : (cards.map Card.id).Nodup
  traced : ∀ card ∈ cards, Traced events card
  known :
    ∀ presented entry, .redeemed presented entry ∈ events →
      ∃ tokenHash ∈ issuedTokens events, presented = some tokenHash
  single :
    ∀ tokenHash action, action = .opened ∨ action = .activated →
      (redemptions events tokenHash action).length ≤ 1

variable {events : List TokenEvent} {before afterwards : List Card}

theorem mem_issuedTokens {event : TokenEvent} {tokenHash : String}
    (member : event ∈ events) (issues : event.issuedToken = some tokenHash) :
    tokenHash ∈ issuedTokens events :=
  List.mem_filterMap.mpr ⟨event, member, issues⟩

/-- The latest token of a card is in the history. -/
theorem Traced.split {card : Card} {tokenHash : String}
    (traced : Traced events card) (hasToken : card.tokenHash = some tokenHash) :
    ∃ earlier expiresAt since,
      events = earlier ++ .issued card.id tokenHash expiresAt :: since ∧
        card.expiresAt = some expiresAt ∧
        (∀ event ∈ since, ¬ event.issuesFor card.id) ∧
        .revoked card.id ∉ since := by
  obtain ⟨expiresAt, since, expires, latest, notRevoked⟩ :=
    traced.latest tokenHash hasToken
  obtain ⟨⟨earlier, split⟩, noneLater⟩ := split_of_lastSplit latest
  exact ⟨earlier, expiresAt, since, split, expires, noneLater, notRevoked⟩

theorem Traced.token_issued {card : Card} {tokenHash : String}
    (traced : Traced events card) (hasToken : card.tokenHash = some tokenHash) :
    tokenHash ∈ issuedTokens events := by
  obtain ⟨earlier, expiresAt, since, split, -⟩ := traced.split hasToken
  have member : .issued card.id tokenHash expiresAt ∈ events := by
    rw [split]
    exact List.mem_append_right _ (List.mem_cons_self ..)
  exact mem_issuedTokens member rfl

/-- With distinct tokens no two invitations have the same one. -/
theorem id_eq_of_token {first second : Card} {tokenHash : String}
    (distinct : (issuedTokens events).Nodup)
    (firstTraced : Traced events first) (secondTraced : Traced events second)
    (firstToken : first.tokenHash = some tokenHash)
    (secondToken : second.tokenHash = some tokenHash) :
    first.id = second.id := by
  obtain ⟨_, _, _, firstSplit, -⟩ := firstTraced.split firstToken
  obtain ⟨_, _, _, secondSplit, -⟩ := secondTraced.split secondToken
  obtain ⟨sameEvent, -⟩ :=
    later_eq_of_key distinct firstSplit secondSplit rfl rfl
  exact (TokenEvent.issued.inj sameEvent).1

theorem traced_of_noToken {card : Card} (noToken : card.tokenHash = none) :
    Traced events card where
  latest := by simp [noToken]
  unredeemed := by simp [noToken]
  unactivated := by simp [noToken]

/-- The latest token stays the latest while none is issued or revoked. -/
theorem Traced.latest_concat {card : Card} (traced : Traced events card)
    {event : TokenEvent} (notIssued : ¬ event.issuesFor card.id)
    (notRevoked : event ≠ .revoked card.id) :
    ∀ tokenHash, card.tokenHash = some tokenHash →
      ∃ expiresAt since,
        card.expiresAt = some expiresAt ∧
          lastSplit (TokenEvent.issuesFor card.id) (events ++ [event]) =
            some (.issued card.id tokenHash expiresAt, since) ∧
          .revoked card.id ∉ since := by
  intro tokenHash hasToken
  obtain ⟨expiresAt, since, expires, latest, unrevoked⟩ :=
    traced.latest tokenHash hasToken
  refine ⟨expiresAt, since ++ [event], expires, ?_, ?_⟩
  · rw [lastSplit_concat_of_not_kind notIssued, latest]
    rfl
  · intro member
    rcases List.mem_append.mp member with old | new
    · exact unrevoked old
    · exact notRevoked (List.mem_singleton.mp new).symm

/-- What neither issues a token to a card nor revokes or redeems the one it
has leaves it traced. -/
theorem Traced.extend {card : Card} (traced : Traced events card)
    {event : TokenEvent} (notIssued : ¬ event.issuesFor card.id)
    (notRevoked : event ≠ .revoked card.id)
    (notRedeemed :
      ∀ tokenHash action, card.tokenHash = some tokenHash →
        ¬ event.redeems tokenHash action) :
    Traced (events ++ [event]) card where
  latest := traced.latest_concat notIssued notRevoked
  unredeemed := by
    intro tokenHash hasToken isSent other member action
    rcases List.mem_append.mp member with old | new
    · exact traced.unredeemed tokenHash hasToken isSent other old action
    · rw [List.mem_singleton.mp new]
      exact notRedeemed tokenHash action hasToken
  unactivated := by
    intro tokenHash hasToken isOpened other member
    rcases List.mem_append.mp member with old | new
    · exact traced.unactivated tokenHash hasToken isOpened other old
    · rw [List.mem_singleton.mp new]
      exact notRedeemed tokenHash .activated hasToken

/-- A fresh token was never redeemed. -/
theorem traced_issued {card : Card} {tokenHash : String}
    {expiresAt : Timestamp}
    (known :
      ∀ presented entry, .redeemed presented entry ∈ events →
        ∃ redeemedHash ∈ issuedTokens events,
          presented = some redeemedHash)
    (fresh : tokenHash ∉ issuedTokens events) :
    Traced (events ++ [.issued card.id tokenHash expiresAt])
      (card.issued tokenHash expiresAt) where
  latest := by
    rintro _ ⟨⟩
    refine
      ⟨expiresAt, [], rfl, lastSplit_concat_of_kind (decide_eq_true rfl), ?_⟩
    exact List.not_mem_nil
  unredeemed := by
    rintro _ ⟨⟩ _ event member action redeems
    rcases List.mem_append.mp member with old | new
    · cases event with
      | redeemed presented entry =>
          obtain ⟨redeemedHash, issued, rfl⟩ := known presented entry old
          obtain ⟨sameHash, -⟩ := of_decide_eq_true redeems
          exact fresh (Option.some.inj sameHash ▸ issued)
      | issued => cases redeems
      | revoked => cases redeems
    · rw [List.mem_singleton.mp new] at redeems
      cases redeems
  unactivated := by
    rintro _ _ ⟨⟩

/-- A redemption leaves its own card traced in its new status. -/
theorem traced_redeemed {card : Card} {tokenHash : String} {entry : AuditLog}
    {status : PortalInvitationStatus} (traced : Traced events card)
    (notSent : status ≠ .invitationSent)
    (opens :
      status = .invitationOpened →
        card.status = .invitationSent ∧ entry.action = .opened) :
    Traced (events ++ [.redeemed (some tokenHash) entry])
      (card.withStatus status) where
  latest := traced.latest_concat Bool.false_ne_true TokenEvent.noConfusion
  unredeemed := by
    intro _ _ isSent
    exact absurd isSent notSent
  unactivated := by
    intro ownHash hasToken isOpened event member redeems
    obtain ⟨wasSent, isOpening⟩ := opens isOpened
    rcases List.mem_append.mp member with old | new
    · exact
        traced.unredeemed ownHash hasToken wasSent event old _ redeems
    · rw [List.mem_singleton.mp new] at redeems
      obtain ⟨-, isActivated⟩ := of_decide_eq_true redeems
      rw [isOpening] at isActivated
      cases isActivated

theorem issuedTokens_append (first second : List TokenEvent) :
    issuedTokens (first ++ second) =
      issuedTokens first ++ issuedTokens second :=
  List.filterMap_append ..

/-- A redeemed token stays a known one. -/
theorem AllTraced.known_concat (all : AllTraced events before)
    {event : TokenEvent}
    (issuedBefore :
      ∀ presented entry, event = .redeemed presented entry →
        ∃ tokenHash ∈ issuedTokens events, presented = some tokenHash) :
    ∀ presented entry, .redeemed presented entry ∈ events ++ [event] →
      ∃ tokenHash ∈ issuedTokens (events ++ [event]),
        presented = some tokenHash := by
  intro presented entry member
  have issued :
      ∃ tokenHash ∈ issuedTokens events, presented = some tokenHash := by
    rcases List.mem_append.mp member with old | new
    · exact all.known presented entry old
    · exact issuedBefore presented entry (List.mem_singleton.mp new).symm
  obtain ⟨tokenHash, listed, isPresented⟩ := issued
  refine ⟨tokenHash, ?_, isPresented⟩
  rw [issuedTokens_append]
  exact List.mem_append_left _ listed

/-- A redemption is the only one of its token and action when there was none
before. -/
theorem AllTraced.single_concat (all : AllTraced events before)
    {event : TokenEvent}
    (first :
      ∀ tokenHash action, action = .opened ∨ action = .activated →
        event.redeems tokenHash action →
          ∀ other ∈ events, ¬ other.redeems tokenHash action) :
    ∀ tokenHash action, action = .opened ∨ action = .activated →
      (redemptions (events ++ [event]) tokenHash action).length ≤ 1 := by
  intro tokenHash action counted
  rw [redemptions, List.filter_append]
  by_cases redeems : event.redeems tokenHash action
  · have none :
        events.filter (TokenEvent.redeems tokenHash action) = [] := by
      rw [List.filter_eq_nil_iff]
      exact first tokenHash action counted redeems
    rw [none, List.filter_cons_of_pos redeems]
    exact Nat.le_refl 1
  · rw [List.filter_cons_of_neg redeems, List.filter_nil, List.append_nil]
    exact all.single tokenHash action counted

/-- An update of one card leaves all cards traced when it leaves that card
traced and the other ones ignore its event. -/
theorem AllTraced.update (all : AllTraced events before)
    (change : Card → Card) {card : Card} {event : TokenEvent} (member : card ∈ before)
    (sameId : ∀ other, (change other).id = other.id)
    (own : Traced (events ++ [event]) (change card))
    (others :
      ∀ other ∈ before, other.id ≠ card.id → Traced (events ++ [event]) other)
    (issuedBefore :
      ∀ presented entry, event = .redeemed presented entry →
        ∃ tokenHash ∈ issuedTokens events, presented = some tokenHash)
    (first :
      ∀ tokenHash action, action = .opened ∨ action = .activated →
        event.redeems tokenHash action →
          ∀ other ∈ events, ¬ other.redeems tokenHash action) :
    AllTraced (events ++ [event]) (updateBy Card.id card.id change before) where
  unique := nodup_map_updateBy sameId all.unique
  traced :=
    forall_mem_updateBy all.unique (findBy_of_mem all.unique member) own
      others
  known := all.known_concat issuedBefore
  single := all.single_concat first

/-- A redemption of the token of one card is none of another's. -/
theorem AllTraced.others_of_redeemed (all : AllTraced events before)
    (distinct : (issuedTokens events).Nodup) {card : Card}
    {tokenHash : String} {entry : AuditLog} (member : card ∈ before)
    (hasToken : card.tokenHash = some tokenHash) :
    ∀ other ∈ before, other.id ≠ card.id →
      Traced (events ++ [.redeemed (some tokenHash) entry]) other := by
  intro other otherMember different
  refine
    (all.traced other otherMember).extend Bool.false_ne_true
      TokenEvent.noConfusion ?_
  intro otherHash action otherToken redeems
  obtain ⟨sameHash, -⟩ := of_decide_eq_true redeems
  rw [← Option.some.inj sameHash] at otherToken
  exact
    different
      (id_eq_of_token distinct (all.traced other otherMember)
        (all.traced card member) otherToken hasToken)

/-- Every move keeps the cards traced while the issued tokens are distinct. -/
theorem allTraced_of_moved {made : List TokenEvent}
    (all : AllTraced events before)
    (distinct : (issuedTokens (events ++ made)).Nodup)
    (moved : Moved sendable before made afterwards) :
    AllTraced (events ++ made) afterwards := by
  have distinctBefore : (issuedTokens events).Nodup := by
    rw [issuedTokens_append] at distinct
    exact distinct.sublist (List.sublist_append_left ..)
  cases moved with
  | silent =>
      rw [List.append_nil]
      exact all
  | prepared id freshId =>
      rw [List.append_nil]
      refine
        { unique := nodup_map_concat all.unique freshId
          traced := ?_
          known := all.known
          single := all.single }
      intro card member
      rcases List.mem_append.mp member with old | new
      · exact all.traced card old
      · rw [List.mem_singleton.mp new]
        exact traced_of_noToken rfl
  | issued card tokenHash expiresAt member isSendable =>
      have fresh : tokenHash ∉ issuedTokens events := by
        rw [issuedTokens_append, List.nodup_append] at distinct
        intro listed
        exact distinct.2.2 _ listed _ (List.mem_singleton.mpr rfl) rfl
      refine
        all.update (Card.issued tokenHash expiresAt) member (fun _ => rfl)
          (traced_issued all.known fresh) ?_ ?_ ?_
      · intro other otherMember different
        refine
          (all.traced other otherMember).extend ?_ TokenEvent.noConfusion
            fun _ _ _ => Bool.false_ne_true
        intro issues
        exact different (of_decide_eq_true issues).symm
      · intro _ _ impossible
        cases impossible
      · intro _ _ _ impossible
        cases impossible
  | revoked card member notActivated =>
      refine
        all.update Card.revoked member (fun _ => rfl)
          (traced_of_noToken rfl) ?_ ?_ ?_
      · intro other otherMember different
        refine
          (all.traced other otherMember).extend Bool.false_ne_true ?_
            fun _ _ _ => Bool.false_ne_true
        intro same
        exact different (TokenEvent.revoked.inj same).symm
      · intro _ _ impossible
        cases impossible
      · intro _ _ _ impossible
        cases impossible
  | opened card tokenHash entry member hasToken isSent isOpened =>
      have traced := all.traced card member
      have own :
          Traced (events ++ [.redeemed (some tokenHash) entry])
            (card.withStatus .invitationOpened) :=
        traced_redeemed traced (by decide) fun _ => ⟨isSent, isOpened⟩
      refine
        all.update (Card.withStatus .invitationOpened) member (fun _ => rfl)
          own (all.others_of_redeemed distinctBefore member hasToken) ?_ ?_
      · rintro _ _ ⟨⟩
        exact ⟨tokenHash, traced.token_issued hasToken, rfl⟩
      · intro ownHash action _ redeems other otherMember
        obtain ⟨sameHash, -⟩ := of_decide_eq_true redeems
        rw [← Option.some.inj sameHash]
        exact traced.unredeemed tokenHash hasToken isSent other otherMember _
  | activated card tokenHash entry member hasToken redeemable isActivated =>
      have traced := all.traced card member
      have own :
          Traced (events ++ [.redeemed (some tokenHash) entry])
            (card.withStatus .accountActivated) :=
        traced_redeemed traced (by decide) fun opens => by cases opens
      refine
        all.update (Card.withStatus .accountActivated) member (fun _ => rfl)
          own (all.others_of_redeemed distinctBefore member hasToken) ?_ ?_
      · rintro _ _ ⟨⟩
        exact ⟨tokenHash, traced.token_issued hasToken, rfl⟩
      · intro ownHash action _ redeems other otherMember
        obtain ⟨sameHash, sameAction⟩ := of_decide_eq_true redeems
        rw [← Option.some.inj sameHash, ← sameAction, isActivated]
        rcases redeemable with isSent | isOpened
        · exact
            traced.unredeemed tokenHash hasToken isSent other otherMember _
        · exact traced.unactivated tokenHash hasToken isOpened other otherMember

/-- A move keeps an activated card activated, and a revoked one revoked
unless it issues a token for it. -/
theorem status_of_moved {made : List TokenEvent}
    (unique : (before.map Card.id).Nodup)
    (moved : Moved sendable before made afterwards)
    (terminal : .accountActivated ∉ sendable) {card : Card}
    (member : card ∈ before) :
    ∃ next ∈ afterwards, next.id = card.id ∧
      (card.status = .accountActivated → next.status = .accountActivated) ∧
      (card.status = .invitationRevoked →
        next.status = .invitationRevoked ∨
          .invitationRevoked ∈ sendable ∧
            ∃ tokenHash expiresAt,
              made = [.issued card.id tokenHash expiresAt] ∧
                next.tokenHash = some tokenHash) := by
  have keptOr :
      ∀ {target : Card} (change : Card → Card), target ∈ before →
        (∀ other, (change other).id = other.id) →
        ∃ next ∈ updateBy Card.id target.id change before,
          next.id = card.id ∧
            (next = card ∨ card = target ∧ next = change card) := by
    intro target change targetMember sameId
    refine ⟨_, mem_updateBy_of_mem member, ?_⟩
    split
    next atTarget =>
      have sameCard : card = target :=
        List.inj_on_of_nodup_map unique member targetMember atTarget
      exact ⟨sameId card, Or.inr ⟨sameCard, rfl⟩⟩
    · exact ⟨rfl, Or.inl rfl⟩
  cases moved with
  | silent =>
      exact ⟨card, member, rfl, fun kept => kept, Or.inl⟩
  | prepared id freshId =>
      exact ⟨card, List.mem_append_left _ member, rfl, fun kept => kept, Or.inl⟩
  | issued target tokenHash expiresAt targetMember isSendable =>
      obtain ⟨next, nextMember, sameId, rfl | ⟨rfl, rfl⟩⟩ :=
        keptOr (Card.issued tokenHash expiresAt) targetMember fun _ => rfl
      · exact ⟨next, nextMember, sameId, fun kept => kept, Or.inl⟩
      · refine ⟨_, nextMember, sameId, ?_, ?_⟩
        · intro isActivated
          exact absurd (isActivated ▸ isSendable) terminal
        · intro isRevoked
          exact
            Or.inr
              ⟨isRevoked ▸ isSendable, tokenHash, expiresAt, rfl, rfl⟩
  | revoked target targetMember notActivated =>
      obtain ⟨next, nextMember, sameId, rfl | ⟨rfl, rfl⟩⟩ :=
        keptOr Card.revoked targetMember fun _ => rfl
      · exact ⟨next, nextMember, sameId, fun kept => kept, Or.inl⟩
      · exact
          ⟨_, nextMember, sameId, fun isActivated => absurd isActivated notActivated,
            fun _ => Or.inl rfl⟩
  | opened target tokenHash entry targetMember hasToken isSent isOpened =>
      obtain ⟨next, nextMember, sameId, rfl | ⟨rfl, rfl⟩⟩ :=
        keptOr (Card.withStatus .invitationOpened) targetMember fun _ => rfl
      · exact ⟨next, nextMember, sameId, fun kept => kept, Or.inl⟩
      · refine ⟨_, nextMember, sameId, ?_, ?_⟩
        · intro isActivated
          rw [isSent] at isActivated
          cases isActivated
        · intro isRevoked
          rw [isSent] at isRevoked
          cases isRevoked
  | activated target tokenHash entry targetMember hasToken redeemable
      isActivated =>
      obtain ⟨next, nextMember, sameId, rfl | ⟨rfl, rfl⟩⟩ :=
        keptOr (Card.withStatus .accountActivated) targetMember fun _ => rfl
      · exact ⟨next, nextMember, sameId, fun kept => kept, Or.inl⟩
      · refine ⟨_, nextMember, sameId, fun _ => rfl, ?_⟩
        intro isRevoked
        rw [isRevoked] at redeemable
        rcases redeemable with impossible | impossible <;> cases impossible

/-- No row that has a spent token is eligible. -/
theorem not_isEligible_of_spent (all : AllTraced events (cards tables))
    (distinct : (issuedTokens events).Nodup) {tokenHash : String}
    {now : Timestamp} (spent : Spent events tokenHash now)
    {row : InvitationRecord} (member : row ∈ tables.invitations)
    (hasToken : row.tokenHash = some tokenHash) :
    ¬ Activation.isEligible row now := by
  rw [isEligible_iff]
  rintro ⟨sentOrOpened, expiresAt, expires, notExpired⟩
  have traced := all.traced (card row) (mem_cards member)
  obtain ⟨_, issuedExpiry, since, issuedSplit, hasExpiry, noneLater,
    notRevoked⟩ := traced.split hasToken
  obtain ⟨_, invitationId, spentExpiry, later, spentSplit, cause⟩ := spent
  obtain ⟨sameEvent, sameLater⟩ :=
    later_eq_of_key distinct issuedSplit spentSplit rfl rfl
  obtain ⟨sameId, -, sameExpiry⟩ := TokenEvent.issued.inj sameEvent
  rw [← sameLater, ← sameId, ← sameExpiry] at cause
  rcases cause with expired | ⟨event, isLater, reissued | revoked | used⟩
  · have sameExpiresAt : expiresAt = issuedExpiry :=
      Option.some.inj (expires.symm.trans hasExpiry)
    rw [sameExpiresAt] at notExpired
    exact absurd expired (not_lt.mpr notExpired)
  · exact noneLater event isLater reissued
  · exact notRevoked (revoked ▸ isLater)
  · have inHistory : event ∈ events := by
      rw [issuedSplit]
      exact List.mem_append_right _ (List.mem_cons_of_mem _ isLater)
    rcases sentOrOpened with isSent | isOpened
    · exact traced.unredeemed tokenHash hasToken isSent event inHistory _ used
    · exact traced.unactivated tokenHash hasToken isOpened event inHistory used

/-- Presenting a token that no eligible row has is refused. -/
theorem step_of_not_isEligible {request : Request} {tokenHash : String}
    {now : Timestamp}
    (presents : request.presents platform = some (tokenHash, now))
    (notEligible :
      ∀ row ∈ state.tables.invitations, row.tokenHash = some tokenHash →
        ¬ Activation.isEligible row now) :
    (perform platform state request).1 = some Activation.notPossible ∧
      step platform state request = state := by
  have refused :
      ∀ {α : Type} (rest : InvitationRecord → Except TxError α),
        (do
          let invitation ←
            demand (findInvitationByTokenHash state.tables tokenHash)
              Activation.notPossible
          require (Activation.isEligible invitation now) Activation.notPossible
          rest invitation) = .error Activation.notPossible := by
    intro α rest
    cases found : findInvitationByTokenHash state.tables tokenHash with
    | none =>
        rfl
    | some row =>
        rw [demand, ok_bind,
          require_of_not
            (notEligible row (mem_of_findBy found) (key_of_findBy found)),
          error_bind]
  cases request with
  | continueInvitation attemptedAt rawToken =>
      cases presents
      have fails :
          Activation.continueInvitationTransaction platform now rawToken
              state.tables = .error Activation.notPossible :=
        refused _
      simp only [step, perform, attemptsAfter, Activation.continueInvitation,
        transact_of_error fails, perform.failureOf, and_self]
  | activateAccount context rawToken passwordHash =>
      cases presents
      have fails :
          Activation.activateAccountTransaction platform context rawToken
              passwordHash state.tables = .error Activation.notPossible :=
        refused _
      simp only [step, perform, attemptsAfter, Activation.activateAccount,
        transact_of_error fails, perform.failureOf]
      exact ⟨rfl, rfl⟩
  | _ => cases presents

/-! ## Runs -/

/-- After a run with distinct tokens its history traces every card. -/
theorem stateAfter_allTraced (requests : List Request)
    (distinct : (issuedTokens (tokenHistory platform requests)).Nodup) :
    AllTraced (tokenHistory platform requests)
      (cards (stateAfter platform requests).tables) := by
  have invariant :
      UniqueIds (stateAfter platform requests).tables ∧
        ((issuedTokens (tokenHistory platform requests)).Nodup →
          AllTraced (tokenHistory platform requests)
            (cards (stateAfter platform requests).tables)) := by
    refine
      @trace_invariant _ _ (step platform) _ (tokenEvents platform)
        (fun state events =>
          UniqueIds state.tables ∧
            ((issuedTokens events).Nodup →
              AllTraced events (cards state.tables)))
        State.initial ?_ ?_ requests
    · refine ⟨List.nodup_nil, fun _ => ?_⟩
      exact
        { unique := List.nodup_nil
          traced := by intro card member; cases member
          known := by intro _ _ member; cases member
          single := by intro _ _ _; exact Nat.zero_le 1 }
    · rintro current emitted request ⟨unique, traced⟩
      refine ⟨step_uniqueIds unique request, fun distinctNow => ?_⟩
      have distinctBefore : (issuedTokens emitted).Nodup := by
        rw [issuedTokens_append] at distinctNow
        exact distinctNow.sublist (List.sublist_append_left ..)
      exact
        allTraced_of_moved (traced distinctBefore) distinctNow
          (step_moved unique request).2
  exact invariant.2 distinct

theorem not_mem_sendableStatuses (request : Request) :
    .accountActivated ∉ request.sendableStatuses := by
  cases request <;> simp [Request.sendableStatuses, firstSend, resend]

/-- What one step of a run does to the status of a row. -/
theorem status_after_step (earlier : List Request) (request : Request)
    {row : InvitationRecord}
    (member : row ∈ (stateAfter platform earlier).tables.invitations) :
    ∃ next ∈
        (stateAfter platform (earlier ++ [request])).tables.invitations,
      next.id = row.id ∧
        (row.status = .accountActivated → next.status = .accountActivated) ∧
        (row.status = .invitationRevoked →
          next.status = .invitationRevoked ∨
            .invitationRevoked ∈ request.sendableStatuses ∧
              ∃ tokenHash expiresAt,
                tokenEvents platform (stateAfter platform earlier) request =
                    [.issued row.id tokenHash expiresAt] ∧
                  next.tokenHash = some tokenHash) := by
  have unique := (stateAfter_stored platform earlier).unique
  have uniqueCards :
      ((cards (stateAfter platform earlier).tables).map Card.id).Nodup := by
    rw [cards, List.map_map]
    exact unique
  obtain ⟨nextCard, nextMember, sameId, activated, revoked⟩ :=
    status_of_moved uniqueCards (@step_moved platform _ unique request).2
      (not_mem_sendableStatuses request) (mem_cards member)
  obtain ⟨next, inTable, rfl⟩ := List.mem_map.mp nextMember
  rw [stateAfter, run_append]
  exact ⟨next, inTable, sameId, activated, revoked⟩

theorem activated_after_run (earlier later : List Request)
    {row : InvitationRecord}
    (member : row ∈ (stateAfter platform earlier).tables.invitations)
    (isActivated : row.status = .accountActivated) :
    ∃ next ∈ (stateAfter platform (earlier ++ later)).tables.invitations,
      next.id = row.id ∧ next.status = .accountActivated := by
  induction later using List.reverseRecOn with
  | nil =>
      rw [List.append_nil]
      exact ⟨row, member, rfl, isActivated⟩
  | append_singleton others request inductionHypothesis =>
      obtain ⟨middle, middleMember, middleId, middleActivated⟩ :=
        inductionHypothesis
      obtain ⟨next, nextMember, sameId, activated, -⟩ :=
        status_after_step (earlier ++ others) request middleMember
      rw [← List.append_assoc]
      exact
        ⟨next, nextMember, sameId.trans middleId, activated middleActivated⟩

/-- Every redemption in the audit log is in the history with the token that
was presented. -/
theorem redeemed_of_audited (requests : List Request)
    (distinct : (issuedTokens (tokenHistory platform requests)).Nodup)
    {entry : AuditLog}
    (member : entry ∈ (stateAfter platform requests).tables.auditLogs)
    (isRedemption : entry.action = .opened ∨ entry.action = .activated) :
    ∃ tokenHash ∈ issuedTokens (tokenHistory platform requests),
      .redeemed (some tokenHash) entry ∈ tokenHistory platform requests := by
  have inHistory :
      ∃ presented,
        .redeemed presented entry ∈ tokenHistory platform requests := by
    refine
      @trace_invariant _ _ (step platform) _ (tokenEvents platform)
        (fun state events =>
          UniqueIds state.tables ∧
            ∀ entry ∈ state.tables.auditLogs,
              entry.action = .opened ∨ entry.action = .activated →
                ∃ presented, .redeemed presented entry ∈ events)
        State.initial ⟨List.nodup_nil, ?_⟩ ?_ requests |>.2 entry member
          isRedemption
    · intro _ impossible
      cases impossible
    · rintro current emitted request ⟨unique, explained⟩
      refine ⟨step_uniqueIds unique request, ?_⟩
      intro audited auditedMember redeems
      rw [(@step_moved platform _ unique request).1] at auditedMember
      rcases List.mem_append.mp auditedMember with old | new
      · obtain ⟨presented, inEmitted⟩ := explained audited old redeems
        exact ⟨presented, List.mem_append_left _ inEmitted⟩
      · have isEvent :
            auditedEvent (request.presents platform) audited =
              some
                (.redeemed ((request.presents platform).map Prod.fst)
                  audited) := by
          rcases redeems with isOpened | isActivated
          · simp [auditedEvent, isOpened]
          · simp [auditedEvent, isActivated]
        have inEvents :=
          List.mem_filterMap.mpr ⟨audited, new, isEvent⟩
        exact
          ⟨_, List.mem_append_right _ (List.mem_append_right _ inEvents)⟩
  obtain ⟨presented, inHistory⟩ := inHistory
  obtain ⟨tokenHash, issued, rfl⟩ :=
    (stateAfter_allTraced requests distinct).known presented entry inHistory
  exact ⟨tokenHash, issued, inHistory⟩

/-- While other features leave the client profiles alone, no client has
two. -/
theorem clientProfiles_nodup (requests : List Request)
    (keeps :
      AllSteps (step platform) KeepsClientProfiles State.initial requests) :
    ((stateAfter platform requests).tables.clientProfiles.map
      ClientProfile.clientId).Nodup := by
  have invariant :
      UniqueIds (stateAfter platform requests).tables ∧
        ((stateAfter platform requests).tables.clientProfiles.map
          ClientProfile.clientId).Nodup := by
    refine
      @run_invariant_of_allSteps _ _ (step platform)
        (fun state =>
          UniqueIds state.tables ∧
            (state.tables.clientProfiles.map ClientProfile.clientId).Nodup)
        KeepsClientProfiles State.initial
        ⟨List.nodup_nil, List.nodup_nil⟩ ?_ requests keeps
    rintro current request ⟨unique, distinct⟩ keepsProfiles
    refine ⟨step_uniqueIds unique request, ?_⟩
    obtain ⟨enrolled, -⟩ :=
      @step_movedTables platform current unique request keepsProfiles
    revert enrolled
    generalize (step platform current request).tables.clientProfiles = after
    intro enrolled
    cases enrolled with
    | same =>
        exact distinct
    | added profile first =>
        exact nodup_map_concat distinct first
  exact invariant.2

/-- In a run whose issued tokens are distinct: no client gets two portal
users; presenting a token that was replaced, revoked or used, or that has
expired, is refused and changes nothing; an activated invitation stays so and
a revoked one changes only by a resend that issues a token; and every audited
redemption presented an issued token, each of which was opened once at most
and activated once at most. -/
theorem activation_single_use (platform : Platform) (requests : List Request)
    (distinctTokens :
      (issuedTokens (tokenHistory platform requests)).Nodup) :
    (AllSteps (step platform) KeepsClientProfiles State.initial requests →
      ((stateAfter platform requests).tables.clientProfiles.map
        ClientProfile.clientId).Nodup) ∧
      (∀ earlier request later tokenHash now,
        requests = earlier ++ request :: later →
          request.presents platform = some (tokenHash, now) →
          Spent (tokenHistory platform earlier) tokenHash now →
            (perform platform (stateAfter platform earlier) request).1 =
                some Activation.notPossible ∧
              step platform (stateAfter platform earlier) request =
                stateAfter platform earlier) ∧
      (∀ earlier later, requests = earlier ++ later →
        ∀ row ∈ (stateAfter platform earlier).tables.invitations,
          row.status = .accountActivated →
            ∃ next ∈ (stateAfter platform requests).tables.invitations,
              next.id = row.id ∧ next.status = .accountActivated) ∧
      (∀ earlier request later, requests = earlier ++ request :: later →
        ∀ row ∈ (stateAfter platform earlier).tables.invitations,
          row.status = .invitationRevoked →
            ∃ next ∈
                (stateAfter platform
                  (earlier ++ [request])).tables.invitations,
              next.id = row.id ∧
                (next.status = .invitationRevoked ∨
                  (∃ context rawToken actor clientId input concurrency,
                    request =
                      .resendInvitation context rawToken actor clientId
                        input concurrency) ∧
                    ∃ tokenHash expiresAt,
                      tokenEvents platform (stateAfter platform earlier)
                          request =
                          [.issued row.id tokenHash expiresAt] ∧
                        next.tokenHash = some tokenHash)) ∧
      (∀ entry ∈ (stateAfter platform requests).tables.auditLogs,
        entry.action = .opened ∨ entry.action = .activated →
          ∃ tokenHash ∈ issuedTokens (tokenHistory platform requests),
            .redeemed (some tokenHash) entry ∈
              tokenHistory platform requests) ∧
      ∀ tokenHash action, action = .opened ∨ action = .activated →
        (redemptions (tokenHistory platform requests) tokenHash
          action).length ≤ 1 := by
  refine ⟨clientProfiles_nodup requests, ?_, ?_, ?_, ?_, ?_⟩
  · rintro earlier request later tokenHash now rfl presents spent
    have distinctBefore :
        (issuedTokens (tokenHistory platform earlier)).Nodup := by
      rw [tokenHistory, trace_append, issuedTokens_append]
        at distinctTokens
      exact distinctTokens.sublist (List.sublist_append_left ..)
    have all := stateAfter_allTraced earlier distinctBefore
    apply step_of_not_isEligible presents
    intro row member hasToken
    exact not_isEligible_of_spent all distinctBefore spent member hasToken
  · rintro earlier later rfl row member isActivated
    exact activated_after_run earlier later member isActivated
  · rintro earlier request later rfl row member isRevoked
    obtain ⟨next, nextMember, sameId, -, revoked⟩ :=
      status_after_step earlier request member
    refine ⟨next, nextMember, sameId, ?_⟩
    rcases revoked isRevoked with stays | ⟨sendable, issues⟩
    · exact Or.inl stays
    · refine Or.inr ⟨?_, issues⟩
      cases request with
      | resendInvitation context rawToken actor clientId input concurrency =>
          exact ⟨context, rawToken, actor, clientId, input, concurrency, rfl⟩
      | _ => simp [Request.sendableStatuses, firstSend] at sendable
  · intro entry member isRedemption
    exact redeemed_of_audited requests distinctTokens member isRedemption
  · exact (stateAfter_allTraced requests distinctTokens).single

/-- The first link of the resent invitation opens nothing any more. -/
theorem replaced_link_refused :
    (perform examplePlatform
        (stateAfter examplePlatform (resentInvitation.take 4))
        (.continueInvitation 25 "aB3dE5gH7jK9mN1pQ2rS4tU6")).1 =
        some Activation.notPossible ∧
      step examplePlatform
          (stateAfter examplePlatform (resentInvitation.take 4))
          (.continueInvitation 25 "aB3dE5gH7jK9mN1pQ2rS4tU6") =
        stateAfter examplePlatform (resentInvitation.take 4) := by
  obtain ⟨-, spentRefused, -⟩ :=
    activation_single_use examplePlatform
      (resentInvitation.take 4 ++
        [.continueInvitation 25 "aB3dE5gH7jK9mN1pQ2rS4tU6"])
      (by decide)
  apply spentRefused _ _ [] _ _ rfl rfl
  exact
    ⟨[], 1, 604800010,
      [.issued 1
        (examplePlatform.hashInvitationToken "zY8xW6vU4tS2rQ0pO9nM7lK5")
        604800020],
      by decide, Or.inr ⟨_, List.mem_singleton.mpr rfl, Or.inl rfl⟩⟩

end Heritage.Invitations
