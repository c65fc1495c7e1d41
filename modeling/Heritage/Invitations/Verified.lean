import Heritage.Store.History
import Heritage.Invitations.Evidence

/-!
# Verified e-mail addresses

The evidence columns of a row describe its latest reservation: they were
written by an outcome or an event of that reservation's own send operation, or
by a manual confirmation after it.  An activation that verifies an e-mail
address reads those columns together with the token they belong to.
-/

namespace Heritage.Invitations

open Heritage.Store
open Repository

/-- The key an entry was recorded under, for a send or a confirmation. -/
def Entry.key : Entry → Option Uuid
  | .reserved _ _ sendOperationId => sendOperationId
  | .confirmed _ sendOperationId => some sendOperationId
  | _ => none

/-- The entry is a reservation of this invitation. -/
def Entry.reserves (invitationId : Uuid) : Entry → Bool
  | .reserved id _ _ => id = invitationId
  | _ => false

/-- The event types that count as evidence. -/
def evidenceTypes : List WebhookEventType :=
  [.emailSent, .emailDeliveryDelayed, .emailDelivered]

/-- The entry is evidence for a reservation with this send operation: an
accepted outcome or an event of the operation, or a confirmation. -/
def Entry.Evidences (invitationId : Uuid) (sendOperationId : Option Uuid) :
    Entry → Prop
  | .resolved id operation (.automatedAccepted _) =>
      id = invitationId ∧ sendOperationId = some operation
  | .reported id event =>
      id = invitationId ∧ event.type ∈ evidenceTypes ∧
        sendOperationId.isSome ∧ event.sendOperationTag = sendOperationId
  | .confirmed id _ => id = invitationId
  | _ => False

/-- A run that also keeps what its steps record. -/
def observe (platform : Platform) (observed : State × List Entry)
    (request : Request) : State × List Entry :=
  (step platform observed.1 request,
    observed.2 ++ (recorded platform observed.1 request).toList)

/-- What the steps of a run recorded, oldest first. -/
def history (platform : Platform) (requests : List Request) : List Entry :=
  (run (observe platform) (State.initial, []) requests).2

/-- A provider event carries the message id and the tag of the send it
reports, and an accepted outcome the message id of its own. -/
def ProviderReports (messageId : Uuid → MessageId) (state : State) :
    Request → Prop
  | .providerOutcome _ index (.accepted accepted) =>
      ∀ attempt, state.attempts[index]? = some attempt →
        accepted = messageId attempt.sendOperationId
  | .webhook _ (some event) =>
      ∃ sendOperationId,
        event.sendOperationTag = some sendOperationId ∧
          event.messageId = some (messageId sendOperationId)
  | _ => True

/-- The same for what a step records. -/
def Entry.Reports (messageId : Uuid → MessageId) : Entry → Prop
  | .resolved _ sendOperationId (.automatedAccepted accepted) =>
      accepted = messageId sendOperationId
  | .reported _ event =>
      ∃ sendOperationId,
        event.sendOperationTag = some sendOperationId ∧
          event.messageId = some (messageId sendOperationId)
  | _ => True

variable {platform : Platform} {messageId : Uuid → MessageId}
  {state : State} {request : Request}

theorem reports_of_reservationEntry
    {outcome : Except TxError ReservationOutcome} {entry : Entry}
    (isEntry : reservationEntry platform outcome = some entry) :
    entry.Reports messageId := by
  unfold reservationEntry at isEntry
  split at isEntry
  · cases isEntry
    trivial
  · cases isEntry

theorem reports_of_recorded {entry : Entry}
    (reports : ProviderReports messageId state request)
    (records : recorded platform state request = some entry) :
    entry.Reports messageId := by
  cases request with
  | sendInvitation context rawToken actor clientId input =>
      exact reports_of_reservationEntry records
  | resendInvitation context rawToken actor clientId input concurrency =>
      exact reports_of_reservationEntry records
  | providerOutcome now index outcome =>
      obtain ⟨attempt, atIndex, records⟩ := Option.bind_eq_some_iff.mp records
      obtain ⟨resolved, resolves, records⟩ :=
        Option.bind_eq_some_iff.mp records
      split at records
      · cases records
        cases outcome with
        | accepted accepted =>
            cases resolves
            exact reports attempt atIndex
        | definiteFailure message =>
            cases resolves
            trivial
        | ambiguous message =>
            cases resolves
      · cases records
  | confirmManualSend context actor clientId idempotencyKey =>
      simp only [recorded] at records
      split at records
      · split at records
        · cases records
        · cases records
          trivial
      · cases records
  | webhook now verified =>
      cases verified with
      | none =>
          cases records
      | some event =>
          obtain ⟨accepted, applied, records⟩ :=
            Option.bind_eq_some_iff.mp records
          split at records
          · cases records
            exact reports
          · cases records
  | _ => cases records

/-- The evidence columns of a row describe its latest reservation. -/
structure Explained (messageId : Uuid → MessageId) (entries : List Entry)
    (row : InvitationRecord) : Prop where
  automated :
    ∀ sendOperationId,
      row.deliveryMethod = some .automatedEmail →
      row.sendOperationId = some sendOperationId →
        ∃ tokenHash since,
          lastSplit (Entry.reserves row.id) entries =
            some (.reserved row.id tokenHash (some sendOperationId), since)
  manual :
    ∀ sendOperationId,
      row.deliveryMethod = some .manualEmail →
      row.sendOperationId = some sendOperationId →
        Entry.confirmed row.id sendOperationId ∈ entries
  message :
    ∀ known, row.providerMessageId = some known →
      ∃ sendOperationId,
        row.sendOperationId = some sendOperationId ∧
          known = messageId sendOperationId
  token :
    ∀ tokenHash, row.tokenHash = some tokenHash →
      ∃ sendOperationId since,
        lastSplit (Entry.reserves row.id) entries =
            some (.reserved row.id tokenHash sendOperationId, since) ∧
          (Activation.computeEmailVerified row.deliveryMethod
              row.deliveryState →
            ∃ entry ∈ since, entry.Evidences row.id sendOperationId)

variable {entries : List Entry} {row : InvitationRecord}

theorem explained_prepared (id clientId : Uuid) (now : Timestamp) :
    Explained messageId entries (preparedRow id clientId now) where
  automated := by simp [preparedRow]
  manual := by simp [preparedRow]
  message := by simp [preparedRow]
  token := by simp [preparedRow]

/-- What reserves nothing for a row leaves it explained. -/
theorem Explained.extend (explained : Explained messageId entries row)
    {entry : Entry} (notReserved : ¬ entry.reserves row.id) :
    Explained messageId (entries ++ [entry]) row where
  automated := by
    intro sendOperationId automated hasOperation
    obtain ⟨tokenHash, since, latest⟩ :=
      explained.automated sendOperationId automated hasOperation
    refine ⟨tokenHash, since ++ [entry], ?_⟩
    rw [lastSplit_concat_of_not_kind notReserved, latest]
    rfl
  manual := by
    intro sendOperationId manual hasOperation
    exact
      List.mem_append_left _
        (explained.manual sendOperationId manual hasOperation)
  message := explained.message
  token := by
    intro tokenHash hasToken
    obtain ⟨sendOperationId, since, latest, verified⟩ :=
      explained.token tokenHash hasToken
    refine ⟨sendOperationId, since ++ [entry], ?_, ?_⟩
    · rw [lastSplit_concat_of_not_kind notReserved, latest]
      rfl
    · intro isVerified
      obtain ⟨evidence, member, evidences⟩ := verified isVerified
      exact ⟨evidence, List.mem_append_left _ member, evidences⟩

/-- A reservation starts afresh. -/
theorem explained_reserved (now : Timestamp) (input : SendReservationInput) :
    Explained messageId
      (entries ++ [.reserved row.id input.tokenHash input.automated])
      (stamped now (sendReservationData input) row) where
  automated := by
    intro sendOperationId _ hasOperation
    refine ⟨input.tokenHash, [], ?_⟩
    rw [← hasOperation]
    exact lastSplit_concat_of_kind (decide_eq_true rfl)
  manual := by
    intro sendOperationId manual
    simp only [stamped, sendReservationData, Option.map_eq_some_iff] at manual
    obtain ⟨-, -, impossible⟩ := manual
    cases impossible
  message := by simp [stamped, sendReservationData]
  token := by
    rintro _ ⟨⟩
    refine
      ⟨input.automated, [], lastSplit_concat_of_kind (decide_eq_true rfl),
        ?_⟩
    intro isVerified
    cases automated : input.automated <;>
      simp [stamped, sendReservationData, automated,
        Activation.computeEmailVerified] at isVerified

/-- A delivery state written for the row's current send operation. -/
theorem explained_withDelivery (now : Timestamp)
    (explained : Explained messageId entries row)
    (automated : row.deliveryMethod = some .automatedEmail)
    {sendOperationId : Uuid}
    (current : row.sendOperationId = some sendOperationId)
    {deliveryState : PortalInvitationDeliveryState}
    {providerMessageId : Option MessageId}
    (ownMessage :
      ∀ known, providerMessageId = some known →
        known = messageId sendOperationId)
    {entry : Entry} (notReserved : ¬ entry.reserves row.id)
    (evidences :
      deliveryState = .automatedAccepted ∨
          deliveryState = .providerDelivered →
        entry.Evidences row.id (some sendOperationId)) :
    Explained messageId (entries ++ [entry])
      (stamped now (withDelivery deliveryState providerMessageId) row) := by
  have extended := explained.extend notReserved
  exact
    { automated := extended.automated
      manual := extended.manual
      message := by
        intro known hasMessage
        exact ⟨sendOperationId, current, ownMessage known hasMessage⟩
      token := by
        intro tokenHash hasToken
        obtain ⟨reservedOperation, since, latest, -⟩ :=
          explained.token tokenHash hasToken
        obtain ⟨otherHash, otherSince, otherLatest⟩ :=
          explained.automated sendOperationId automated current
        rw [otherLatest] at latest
        cases latest
        refine ⟨some sendOperationId, since ++ [entry], ?_, ?_⟩
        · rw [show (stamped now
              (withDelivery deliveryState providerMessageId) row).id =
            row.id from rfl, lastSplit_concat_of_not_kind notReserved,
            otherLatest]
          rfl
        · intro isVerified
          refine ⟨entry, List.mem_append_right _ (List.mem_singleton.mpr rfl),
            evidences ?_⟩
          simpa [stamped, withDelivery, automated,
            Activation.computeEmailVerified] using isVerified }

/-- A correlated row is at the event's own send operation. -/
theorem current_of_correlated {event : VerifiedWebhookEvent}
    {known : MessageId} (distinctMessages : Function.Injective messageId)
    (explained : Explained messageId entries row)
    (correlated : CorrelatedWith row event known)
    (reports : (Entry.reported row.id event).Reports messageId) :
    ∃ sendOperationId,
      event.sendOperationTag = some sendOperationId ∧
        row.sendOperationId = some sendOperationId ∧
        known = messageId sendOperationId := by
  obtain ⟨sendOperationId, hasTag, carries⟩ := reports
  obtain ⟨carriesKnown, byMessage | ⟨byOperation, -⟩⟩ := correlated
  · rw [carries] at carriesKnown
    cases carriesKnown
    obtain ⟨operation, hasOperation, sameMessage⟩ :=
      explained.message _ byMessage
    refine ⟨sendOperationId, hasTag, ?_, rfl⟩
    rw [distinctMessages sameMessage]
    exact hasOperation
  · rw [carries] at carriesKnown
    cases carriesKnown
    exact ⟨sendOperationId, hasTag, byOperation.trans hasTag, rfl⟩

theorem explained_confirmed (now : Timestamp)
    (explained : Explained messageId entries row)
    (consistent : EvidenceConsistent row) (input : ManualConfirmationInput)
    (unattempted : row.deliveryMethod = none) :
    Explained messageId
      (entries ++ [.confirmed row.id input.sendOperationId])
      (stamped now input.data row) where
  automated := by simp [stamped, ManualConfirmationInput.data]
  manual := by
    rintro _ _ ⟨⟩
    exact List.mem_append_right _ (List.mem_singleton.mpr rfl)
  message := by
    intro known hasMessage
    have automated := automated_of_providerMessageId consistent hasMessage
    rw [unattempted] at automated
    cases automated
  token := by
    intro tokenHash hasToken
    obtain ⟨sendOperationId, since, latest, -⟩ :=
      explained.token tokenHash hasToken
    refine
      ⟨sendOperationId, since ++ [.confirmed row.id input.sendOperationId],
        ?_, ?_⟩
    · rw [show (stamped now input.data row).id = row.id from rfl,
        lastSplit_concat_of_not_kind Bool.false_ne_true, latest]
      rfl
    · intro _
      exact
        ⟨_, List.mem_append_right _ (List.mem_singleton.mpr rfl), rfl⟩

/-- The written row stays explained. -/
theorem explained_of_written {data : InvitationRecord → InvitationRecord}
    {entry : Option Entry} (now : Timestamp)
    (distinctMessages : Function.Injective messageId)
    (explained : Explained messageId entries row)
    (before : EvidenceConsistent row)
    (afterwards : EvidenceConsistent (stamped now data row))
    (written : RowWritten row data entry)
    (reports : ∀ made, entry = some made → made.Reports messageId) :
    Explained messageId (entries ++ entry.toList) (stamped now data row) := by
  have unconfirmedAutomated :
      row.deliveryState = .automatedUnconfirmed →
        row.deliveryMethod = some .automatedEmail := by
    intro unconfirmed
    apply automated_of_mem_automatedStates before
    rw [unconfirmed]
    decide
  cases written with
  | reserved input =>
      exact explained_reserved now input
  | resolved sendOperationId outcome current unconfirmed =>
      have automated := unconfirmedAutomated unconfirmed
      cases outcome with
      | automatedAccepted accepted =>
          refine
            explained_withDelivery now explained automated current ?_
              Bool.false_ne_true fun _ => ⟨rfl, rfl⟩
          rintro _ ⟨⟩
          exact reports _ rfl
      | providerFailed =>
          refine
            explained_withDelivery now explained automated current ?_
              Bool.false_ne_true ?_
          · rintro _ ⟨⟩
          · rintro (accepted | delivered)
            · cases accepted
            · cases delivered
  | reconciled event known reconciling correlated unconfirmed =>
      obtain ⟨sendOperationId, hasTag, current, own⟩ :=
        current_of_correlated distinctMessages explained correlated
          (reports _ rfl)
      refine
        explained_withDelivery now explained
          (unconfirmedAutomated unconfirmed) current ?_ Bool.false_ne_true ?_
      · rintro _ ⟨⟩
        exact own
      · intro _
        refine ⟨rfl, ?_, rfl, hasTag⟩
        revert reconciling
        cases event.type <;> simp [isReconciling, evidenceTypes]
  | delivered event known terminalState terminal correlated =>
      obtain ⟨sendOperationId, hasTag, current, own⟩ :=
        current_of_correlated distinctMessages explained correlated
          (reports _ rfl)
      have automated : row.deliveryMethod = some .automatedEmail :=
        @automated_of_mem_automatedStates
          (stamped now (withDelivery terminalState (some known)) row)
          afterwards (mem_automatedStates_of_terminal terminal)
      refine
        explained_withDelivery now explained automated current ?_
          Bool.false_ne_true ?_
      · rintro _ ⟨⟩
        exact own
      · intro isVerified
        refine ⟨rfl, ?_, rfl, hasTag⟩
        revert terminal isVerified
        cases event.type <;> rintro ⟨⟩ <;> simp [evidenceTypes]
  | confirmed input isSent unattempted =>
      exact explained_confirmed now explained before input unattempted
  | revoked revokedAt =>
      rw [Option.toList_none, List.append_nil]
      exact
        { automated := explained.automated
          manual := explained.manual
          message := explained.message
          token := by simp [stamped, revoked] }
  | opened openedAt isSent =>
      rw [Option.toList_none, List.append_nil]
      exact { explained with }
  | activated activatedAt redeemable =>
      rw [Option.toList_none, List.append_nil]
      exact { explained with }

/-- A step leaves every row explained. -/
theorem explained_of_invitationsWritten {tables : Tables}
    {entry : Option Entry} {invitations : List InvitationRecord}
    (distinctMessages : Function.Injective messageId) (stored : Stored tables)
    (explained :
      ∀ row ∈ tables.invitations, Explained messageId entries row)
    (written : InvitationsWritten tables entry invitations)
    (reports : ∀ made, entry = some made → made.Reports messageId) :
    ∀ row ∈ invitations,
      Explained messageId (entries ++ entry.toList) row := by
  cases written with
  | unchanged =>
      rw [Option.toList_none, List.append_nil]
      exact explained
  | prepared id clientId now freshId =>
      rw [Option.toList_none, List.append_nil]
      intro row member
      rcases List.mem_append.mp member with old | new
      · exact explained row old
      · rw [List.mem_singleton.mp new]
        exact explained_prepared id clientId now
  | updated row now found written consistent =>
      have member : row ∈ tables.invitations := mem_of_findBy found
      have own :=
        explained_of_written now distinctMessages (explained row member)
          (stored.consistent row member) consistent written reports
      have others :
          ∀ other ∈ tables.invitations, other.id ≠ row.id →
            Explained messageId (entries ++ entry.toList) other := by
        intro other otherMember different
        cases entry with
        | none =>
            rw [Option.toList_none, List.append_nil]
            exact explained other otherMember
        | some made =>
            apply (explained other otherMember).extend
            intro reservesOther
            cases written with
            | reserved input =>
                exact different (of_decide_eq_true reservesOther).symm
            | _ => cases reservesOther
      exact forall_mem_updateBy stored.unique found own others

/-! ## Runs -/

/-- The stored rows, explained by what was recorded. -/
structure AllExplained (messageId : Uuid → MessageId)
    (observed : State × List Entry) : Prop where
  stored : Stored observed.1.tables
  explained :
    ∀ row ∈ observed.1.tables.invitations,
      Explained messageId observed.2 row

theorem observe_allExplained {observed : State × List Entry}
    (distinctMessages : Function.Injective messageId)
    (allExplained : AllExplained messageId observed)
    (reports : ProviderReports messageId observed.1 request) :
    AllExplained messageId (observe platform observed request) where
  stored := step_stored allExplained.stored request
  explained :=
    explained_of_invitationsWritten distinctMessages allExplained.stored
      allExplained.explained
      (step_written allExplained.stored.unique request)
      fun _ => reports_of_recorded reports

theorem history_stateAfter (platform : Platform) (requests : List Request) :
    (run (observe platform) (State.initial, []) requests).1 =
      stateAfter platform requests :=
  run_project (fun _ _ => rfl) _ requests

/-- After a run with an honest provider every row is explained by the
history. -/
theorem stateAfter_explained (distinctMessages : Function.Injective messageId)
    (requests : List Request)
    (reports :
      AllSteps (step platform) (ProviderReports messageId) State.initial
        requests) :
    ∀ row ∈ (stateAfter platform requests).tables.invitations,
      Explained messageId (history platform requests) row := by
  have initially : AllExplained messageId (State.initial, []) :=
    ⟨stored_initial, by intro row member; cases member⟩
  have observedReports :=
    @allSteps_project _ _ (observe platform) _ (step platform) Prod.fst
      (fun _ _ => rfl) (ProviderReports messageId) (State.initial, [])
      requests reports
  have allExplained :=
    @run_invariant_of_allSteps _ _ (observe platform)
      (AllExplained messageId) _ _ initially
      (fun _ _ explained honest =>
        observe_allExplained distinctMessages explained honest)
      requests observedReports
  rw [← history_stateAfter platform requests]
  exact allExplained.explained

/-- A longer run recorded what a shorter one did, and more. -/
theorem history_grows (platform : Platform)
    (earlier later : List Request) :
    history platform earlier <+: history platform (earlier ++ later) := by
  have grows :
      ∀ (observed : State × List Entry) (requests : List Request),
        observed.2 <+: (run (observe platform) observed requests).2 := by
    intro observed requests
    induction requests generalizing observed with
    | nil =>
        exact List.prefix_rfl
    | cons request rest inductionHypothesis =>
        exact
          (List.prefix_append _ _).trans
            (inductionHypothesis (observe platform observed request))
  rw [history, history, run_append]
  exact grows _ later

/-- The key a request carries, when it sends or confirms. -/
def Request.key : Request → Option Uuid
  | .sendInvitation _ _ _ _ input => some input.idempotencyKey
  | .resendInvitation _ _ _ _ input _ => some input.idempotencyKey
  | .confirmManualSend _ _ _ idempotencyKey => some idempotencyKey
  | _ => none

theorem key_of_reservationEntry
    {context : RequestContext} {rawToken : String}
    {actor : AuthenticatedUser} {clientId : Uuid}
    {input : SendOrResendInput} {kind : ReservationKind} {tables : Tables}
    {entry : Entry} {sendOperationId : Uuid} (unique : UniqueIds tables)
    (records :
      reservationEntry platform
          (reserveSendOperation platform context rawToken actor clientId
            input kind tables).1 =
        some entry)
    (keyed : entry.key = some sendOperationId) :
    some input.idempotencyKey = some sendOperationId := by
  unfold reservationEntry at records
  split at records
  next outcome invitation issuedToken isFresh =>
    cases records
    exact
      congrArg some
        (reserveSendOperation_key unique isFresh sendOperationId keyed).symm
  · cases records

/-- What a request records under a key, it records under its own. -/
theorem key_of_recorded {entry : Entry} {sendOperationId : Uuid}
    (unique : UniqueIds state.tables)
    (records : recorded platform state request = some entry)
    (keyed : entry.key = some sendOperationId) :
    request.key = some sendOperationId := by
  cases request with
  | sendInvitation context rawToken actor clientId input =>
      exact key_of_reservationEntry unique records keyed
  | resendInvitation context rawToken actor clientId input concurrency =>
      exact key_of_reservationEntry unique records keyed
  | providerOutcome now index outcome =>
      obtain ⟨attempt, -, records⟩ := Option.bind_eq_some_iff.mp records
      obtain ⟨resolved, -, records⟩ := Option.bind_eq_some_iff.mp records
      split at records
      · cases records
        cases keyed
      · cases records
  | confirmManualSend context actor clientId idempotencyKey =>
      simp only [recorded] at records
      split at records
      · split at records
        · cases records
        · cases records
          exact keyed
      · cases records
  | webhook now verified =>
      cases verified with
      | none =>
          cases records
      | some event =>
          obtain ⟨accepted, -, records⟩ := Option.bind_eq_some_iff.mp records
          split at records
          · cases records
            cases keyed
          · cases records
  | _ => cases records

/-- Requests with distinct keys record distinct keys. -/
theorem distinctKeys_of_requests (platform : Platform)
    (requests : List Request)
    (distinct : (requests.filterMap Request.key).Nodup) :
    ((history platform requests).filterMap Entry.key).Nodup := by
  have recordedKeys :
      ∀ (observed : State × List Entry) (made : List Request),
        UniqueIds observed.1.tables →
          ((run (observe platform) observed made).2.filterMap
              Entry.key).Sublist
            (observed.2.filterMap Entry.key ++ made.filterMap Request.key) := by
    intro observed made unique
    induction made generalizing observed with
    | nil =>
        rw [run_nil, List.filterMap_nil, List.append_nil]
    | cons request rest inductionHypothesis =>
        refine
          (inductionHypothesis (observe platform observed request)
            (step_uniqueIds unique request)).trans ?_
        rw [observe, List.filterMap_append, List.append_assoc]
        apply List.Sublist.append_left
        cases records : recorded platform observed.1 request with
        | none =>
            exact
              (List.sublist_cons_self request rest).filterMap Request.key
        | some entry =>
            cases keyed : entry.key with
            | none =>
                rw [Option.toList_some, List.filterMap_cons_none keyed]
                exact
                  (List.sublist_cons_self request rest).filterMap
                    Request.key
            | some sendOperationId =>
                have ownKey := key_of_recorded unique records keyed
                rw [Option.toList_some, List.filterMap_cons_some keyed,
                  List.filterMap_cons_some ownKey]
                exact List.Sublist.refl _
  exact
    distinct.sublist
      (recordedKeys (State.initial, []) requests List.nodup_nil)

/-- The outcome or the event reports on this send operation. -/
def BelongsTo (state : State) (sendOperationId : Uuid) : Request → Prop
  | .providerOutcome _ index _ =>
      ∃ attempt, state.attempts[index]? = some attempt ∧
        attempt.sendOperationId = sendOperationId
  | .webhook _ (some event) => event.sendOperationTag = some sendOperationId
  | _ => False

/-- The operation's invitation was reserved again afterwards. -/
def Superseded (entries : List Entry) (sendOperationId : Uuid) : Prop :=
  ∃ earlier invitationId tokenHash later,
    entries =
        earlier ++
          .reserved invitationId tokenHash (some sendOperationId) :: later ∧
      ∃ entry ∈ later, entry.reserves invitationId

/-- No row is at a superseded operation. -/
theorem not_current_of_superseded {sendOperationId : Uuid}
    (distinctKeys : (entries.filterMap Entry.key).Nodup)
    (consistent : EvidenceConsistent row)
    (explained : Explained messageId entries row)
    (superseded : Superseded entries sendOperationId) :
    row.sendOperationId ≠ some sendOperationId := by
  intro current
  obtain ⟨earlier, invitationId, tokenHash, later, split, again⟩ := superseded
  have attempted := attempted_of_sendOperationId consistent current
  obtain ⟨deliveryMethod, method⟩ := Option.ne_none_iff_exists'.mp attempted
  cases deliveryMethod with
  | automatedEmail =>
      obtain ⟨ownHash, since, latest⟩ :=
        explained.automated sendOperationId method current
      obtain ⟨⟨before, latestSplit⟩, noneLater⟩ := split_of_lastSplit latest
      obtain ⟨sameEntry, sameLater⟩ :=
        later_eq_of_key distinctKeys latestSplit split rfl rfl
      cases sameEntry
      obtain ⟨entry, member, reserves⟩ := again
      rw [← sameLater] at member
      exact noneLater entry member reserves
  | manualEmail =>
      obtain ⟨before, afterwards, confirmedSplit⟩ :=
        List.append_of_mem (explained.manual sendOperationId method current)
      obtain ⟨sameEntry, -⟩ :=
        later_eq_of_key distinctKeys confirmedSplit split rfl rfl
      cases sameEntry

/-- What reports on an operation no row is at changes nothing. -/
theorem step_of_not_current {sendOperationId : Uuid}
    (distinctMessages : Function.Injective messageId)
    (explained :
      ∀ row ∈ state.tables.invitations, Explained messageId entries row)
    (notCurrent :
      ∀ row ∈ state.tables.invitations,
        row.sendOperationId ≠ some sendOperationId)
    (reports : ProviderReports messageId state request)
    (belongs : BelongsTo state sendOperationId request) :
    (step platform state request).tables = state.tables := by
  cases request with
  | providerOutcome now index outcome =>
      obtain ⟨attempt, atIndex, rfl⟩ := belongs
      simp only [step, perform, atIndex, failureOf_snd,
        attemptAutomatedDelivery]
      cases outcome.resolved with
      | none =>
          rfl
      | some resolved =>
          have nothing :
              recordOutcomeTransaction now attempt resolved state.tables =
                .ok (none, state.tables) := by
            have filtered :
                (findInvitationById state.tables
                    attempt.invitation.id).filter
                  (fun row =>
                    row.sendOperationId = some attempt.sendOperationId ∧
                      row.deliveryState = .automatedUnconfirmed) =
                  none := by
              rw [Option.filter_eq_none_iff]
              intro row found holds
              simp only [decide_eq_true_eq] at holds
              exact notCurrent row (mem_of_findBy found) holds.1
            simp only [recordOutcomeTransaction, recordAutomatedSendOutcome,
              updateInvitationWhere, filtered]
          simp only [transact_of_ok nothing]
  | webhook now verified =>
      cases verified with
      | none =>
          cases belongs
      | some event =>
          have hasTag : event.sendOperationTag = some sendOperationId :=
            belongs
          obtain ⟨reported, reportedTag, carries⟩ := reports
          rw [hasTag] at reportedTag
          cases reportedTag
          have byMessageId :
              findInvitationByProviderMessageId state.tables
                (messageId sendOperationId) = none := by
            apply findBy_eq_none_iff.mpr
            intro row member hasMessage
            obtain ⟨operation, current, sameMessage⟩ :=
              (explained row member).message _ hasMessage
            rw [← distinctMessages sameMessage] at current
            exact notCurrent row member current
          have byOperation :
              findInvitationBySendOperationId state.tables
                sendOperationId = none :=
            findBy_eq_none_iff.mpr notCurrent
          simp only [step, perform, failureOf_snd, handleResendWebhookEvent]
          cases applied : appliedEvent event with
          | none =>
              rfl
          | some known =>
              simp only [appliedEvent, Option.ite_none_right_eq_some,
                carries, Option.some.injEq] at applied
              obtain ⟨-, rfl⟩ := applied
              have nothing :
                  webhookTransaction now event (messageId sendOperationId)
                      state.tables =
                    .ok (none, state.tables) := by
                simp [webhookTransaction, correlateWebhookEvent, hasTag,
                  byMessageId, byOperation]
              simp only [transact_of_ok nothing]
  | _ => cases belongs

/-! ## Activation -/

/-- An activation that verifies an address found its token on a row whose
evidence verifies it. -/
theorem verified_row_of_activation {context : RequestContext}
    {rawToken passwordHash : String} {user : User}
    (unique : UniqueIds state.tables)
    (creates :
      (step platform state
          (.activateAccount context rawToken passwordHash)).tables.users =
        state.tables.users ++ [user])
    (isVerified : user.emailVerified) :
    ∃ row ∈ state.tables.invitations,
      row.tokenHash = some (platform.hashInvitationToken rawToken) ∧
        Activation.computeEmailVerified row.deliveryMethod
          row.deliveryState := by
  simp only [step, perform, failureOf_snd, Activation.activateAccount]
    at creates
  cases outcome :
      Activation.activateAccountTransaction platform context rawToken
        passwordHash state.tables with
  | error failure =>
      rw [transact_of_error outcome] at creates
      simp at creates
  | ok result =>
      rw [transact_of_ok outcome] at creates
      obtain ⟨-, row, created, found, users, verified⟩ :=
        activateAccountTransaction_written unique outcome
      dsimp only at creates
      rw [users] at creates
      obtain ⟨-, sameUser⟩ := List.append_inj' creates rfl
      cases sameUser
      refine ⟨row, mem_of_findBy found, key_of_findBy found, ?_⟩
      rw [← verified]
      exact isVerified

/-- In a run where the recorded keys are distinct and the provider reports
each send under its own message id and tag: an activation that creates a user
with a verified e-mail address presented the token of the latest reservation
of its invitation, after which evidence for that reservation was recorded;
and an outcome or an event of a superseded send operation changes nothing. -/
theorem verified_email_has_evidence (platform : Platform)
    (messageId : Uuid → MessageId) (requests : List Request)
    (distinctMessages : Function.Injective messageId)
    (distinctKeys :
      ((history platform requests).filterMap Entry.key).Nodup)
    (reports :
      AllSteps (step platform) (ProviderReports messageId) State.initial
        requests) :
    (∀ earlier context rawToken passwordHash later user,
      requests =
          earlier ++ .activateAccount context rawToken passwordHash :: later →
        (step platform (stateAfter platform earlier)
            (.activateAccount context rawToken passwordHash)).tables.users =
          (stateAfter platform earlier).tables.users ++ [user] →
        user.emailVerified →
          ∃ invitationId before sendOperationId since,
            history platform earlier =
                before ++
                  .reserved invitationId
                    (platform.hashInvitationToken rawToken)
                    sendOperationId :: since ∧
              (∀ entry ∈ since, ¬ entry.reserves invitationId) ∧
              ∃ entry ∈ since,
                entry.Evidences invitationId sendOperationId) ∧
      ∀ earlier request later sendOperationId,
        requests = earlier ++ request :: later →
        BelongsTo (stateAfter platform earlier) sendOperationId request →
        Superseded (history platform earlier) sendOperationId →
          (step platform (stateAfter platform earlier) request).tables =
            (stateAfter platform earlier).tables := by
  have explainedAfter :
      ∀ earlier later, requests = earlier ++ later →
        ∀ row ∈ (stateAfter platform earlier).tables.invitations,
          Explained messageId (history platform earlier) row := by
    rintro earlier later rfl
    exact
      stateAfter_explained distinctMessages earlier
        (allSteps_of_append reports)
  constructor
  · intro earlier context rawToken passwordHash later user split creates
      isVerified
    have stored := stateAfter_stored platform earlier
    obtain ⟨row, member, hasToken, verified⟩ :=
      verified_row_of_activation stored.unique creates isVerified
    obtain ⟨sendOperationId, since, latest, evidence⟩ :=
      (explainedAfter earlier _ split row member).token _ hasToken
    obtain ⟨⟨before, latestSplit⟩, noneLater⟩ := split_of_lastSplit latest
    exact
      ⟨row.id, before, sendOperationId, since, latestSplit, noneLater,
        evidence verified⟩
  · intro earlier request later sendOperationId split belongs superseded
    have stored := stateAfter_stored platform earlier
    have explained := explainedAfter earlier _ split
    have distinctBefore :
        ((history platform earlier).filterMap Entry.key).Nodup := by
      rw [split] at distinctKeys
      exact
        distinctKeys.sublist
          ((history_grows platform earlier _).sublist.filterMap Entry.key)
    have honest :
        ProviderReports messageId (stateAfter platform earlier) request :=
      allSteps_iff_forall_split.mp reports earlier request later split
    exact
      step_of_not_current distinctMessages explained
        (fun row member =>
          not_current_of_superseded distinctBefore
            (stored.consistent row member) (explained row member) superseded)
        honest belongs

/-- Client 3 is sent an invitation under key 50 and another under key 51.
The first email is reported delivered, the second accepted, and its token
activates the account. -/
def resentInvitation : List Request :=
  let admin : AuthenticatedUser := ⟨7, .adminManager⟩
  [.clientsChanged
      [⟨3, "Luz Cruz", some luzAddress, none,
        some "luz@example.ph", none⟩],
    .prepareInvitation ⟨fun _ => 1, 0⟩ admin 3,
    .sendInvitation ⟨fun _ => 0, 10⟩ "aB3dE5gH7jK9mN1pQ2rS4tU6" admin 3
      ⟨.automatedEmail, 50⟩,
    .resendInvitation ⟨fun _ => 0, 20⟩ "zY8xW6vU4tS2rQ0pO9nM7lK5" admin 3
      ⟨.automatedEmail, 51⟩ ⟨some 50, 10⟩,
    .webhook 30 (some ⟨.emailDelivered, some 900, some 50⟩),
    .providerOutcome 40 1 (.accepted 901),
    .activateAccount ⟨fun index => index + 100, 50⟩
      "zY8xW6vU4tS2rQ0pO9nM7lK5" "scrypt:1"]

/-- The provider numbers the emails of this run. -/
def messageOf (sendOperationId : Uuid) : MessageId :=
  sendOperationId + 850

theorem resentInvitation_reports :
    AllSteps (step examplePlatform) (ProviderReports messageOf)
      State.initial resentInvitation := by
  have secondAttempt :
      ((stateAfter examplePlatform (resentInvitation.take 5)).attempts[1]?).map
        SendAttempt.sendOperationId = some 51 := by
    decide
  refine ⟨trivial, trivial, trivial, trivial, ⟨50, rfl, rfl⟩, ?_, trivial,
    trivial⟩
  intro attempt atIndex
  have operation : some attempt.sendOperationId = some 51 :=
    (congrArg (Option.map SendAttempt.sendOperationId) atIndex).symm.trans
      secondAttempt
  rw [Option.some.inj operation]
  rfl

theorem resent_invitation_verified :
    (∃ invitationId before sendOperationId since,
      history examplePlatform (resentInvitation.take 6) =
          before ++
            .reserved invitationId
              (examplePlatform.hashInvitationToken
                "zY8xW6vU4tS2rQ0pO9nM7lK5")
              sendOperationId :: since ∧
        (∀ entry ∈ since, ¬ entry.reserves invitationId) ∧
        ∃ entry ∈ since, entry.Evidences invitationId sendOperationId) ∧
      (step examplePlatform
          (stateAfter examplePlatform (resentInvitation.take 4))
          (.webhook 30 (some ⟨.emailDelivered, some 900, some 50⟩))).tables =
        (stateAfter examplePlatform (resentInvitation.take 4)).tables := by
  have distinctMessages : Function.Injective messageOf := by
    intro first second same
    exact Nat.add_right_cancel same
  obtain ⟨verified, superseded⟩ :=
    verified_email_has_evidence examplePlatform messageOf resentInvitation
      distinctMessages
      (distinctKeys_of_requests examplePlatform resentInvitation (by decide))
      resentInvitation_reports
  constructor
  · exact
      verified (resentInvitation.take 6) _ _ _ []
        ⟨100, "Luz Cruz", "luz@example.ph", .client, true, true⟩ rfl
        (by decide) rfl
  · apply superseded (resentInvitation.take 4) _ _ 50 rfl rfl
    exact
      ⟨[], 1,
        examplePlatform.hashInvitationToken "aB3dE5gH7jK9mN1pQ2rS4tU6",
        [.reserved 1
          (examplePlatform.hashInvitationToken "zY8xW6vU4tS2rQ0pO9nM7lK5")
          (some 51)],
        by decide, _, List.mem_singleton.mpr rfl, rfl⟩

end Heritage.Invitations
