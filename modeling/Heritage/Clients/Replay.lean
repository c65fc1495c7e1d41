import Heritage.Clients.Conversions

/-!
# Conversions over whole runs

A conversion that takes effect is remembered by the lead, its client and one
audit entry.  No later step of any operation touches these, so repeating the
conversion returns the original answer and writes nothing.
-/

namespace Heritage.Clients

open Heritage.Store
open Heritage.Leads (Tables Lead LeadStatus LeadStatusHistory AuditLog
  ConvertLeadRequest ConvertLeadResult parseConversionAuditState
  replayConversion)
open Heritage.Leads.Repository

variable {platform : StringPlatform} {context : RequestContext}
  {state : State} {request : Request} {id : Uuid}

/-- The request, taken in this state, converts the lead with this result. -/
def Converts (platform : StringPlatform) (state : State) (request : Request)
    (id : Uuid) (input : ConvertLeadRequest) (result : ConvertLeadResult) :
    Prop :=
  ∃ context index leadActor lead,
    request = .attempt context index ∧
      state.waiting[index]? = some (.convertLead leadActor id input) ∧
      findLeadById state.database.tables id = some lead ∧
      lead.status ≠ .convertedToClient ∧
      (attempt platform context state.database
        (.convertLead leadActor id input)).1 = .leadConverted (.ok result)

/-- A client has the email or the phone of the lead as its own, in normal
form and not empty. -/
def SharesContact (lead : Lead) (client : Client) : Prop :=
  (∃ email, email ≠ "" ∧ lead.normalizedEmail = some email ∧
      client.normalizedEmail = some email) ∨
    ∃ phone, phone ≠ "" ∧ lead.normalizedPhone = some phone ∧
      client.normalizedPhone = some phone

/-- The client a conversion takes: a new one when no client shares a contact
with the lead, or the requested one, which does. -/
inductive TakesClient (lead : Lead) (input : ConvertLeadRequest)
    (before after : List Client) (clientId : Uuid) : Bool → Prop where
  | created (client : Client) (noRequest : input.clientId = none)
      (unshared : ∀ other ∈ before, ¬ SharesContact lead other)
      (fresh : findBy Client.id clientId before = none)
      (isNew : client.id = clientId)
      (added : after = before ++ [client]) :
      TakesClient lead input before after clientId true
  | linked (client : Client) (requested : input.clientId = some clientId)
      (known : client ∈ before) (isRequested : client.id = clientId)
      (shares : SharesContact lead client) (kept : after = before) :
      TakesClient lead input before after clientId false

theorem computeMatchedOn_ne_nil_iff {lead : Lead} {client : Client} :
    computeMatchedOn client.normalizedEmail client.normalizedPhone
        ⟨lead.normalizedEmail, lead.normalizedPhone⟩ ≠ [] ↔
      SharesContact lead client := by
  have onChannel :
      ∀ stored sought : Option String,
        ((searched sought).any fun text => stored = some text) ↔
          ∃ text, text ≠ "" ∧ sought = some text ∧ stored = some text := by
    intro stored sought
    cases sought with
    | none =>
        simp [searched]
    | some text =>
        by_cases empty : text = ""
        · simp [searched, Option.filter, empty]
        · simp [searched, Option.filter, empty]
  unfold SharesContact
  rw [← onChannel client.normalizedEmail lead.normalizedEmail,
    ← onChannel client.normalizedPhone lead.normalizedPhone]
  unfold computeMatchedOn
  split <;> split <;> simp_all

theorem takesClient_of_chosen {tables : Tables} {lead : Lead}
    {input : ConvertLeadRequest} {clientId : Uuid} {clientCreated : Bool}
    {clients : List Client}
    (chosen :
      ChosenClient tables lead input.clientId clientId clientCreated
        clients) :
    TakesClient lead input tables.clients clients clientId clientCreated := by
  generalize requested : input.clientId = request at chosen
  cases chosen with
  | created client fresh sameEmail samePhone sameNormalizedEmail
      sameNormalizedPhone unmatched =>
      refine .created client requested ?_ fresh rfl rfl
      intro other member shares
      have matching := computeMatchedOn_ne_nil_iff.mpr shares
      have found :
          other ∈
            tables.clients.filter fun row =>
              computeMatchedOn row.normalizedEmail row.normalizedPhone
                ⟨lead.normalizedEmail, lead.normalizedPhone⟩ ≠ [] := by
        apply List.mem_filter.mpr
        exact ⟨member, decide_eq_true matching⟩
      have none := List.map_eq_nil_iff.mp unmatched
      rw [none] at found
      cases found
  | linked client known matching =>
      exact
        .linked client requested known rfl
          (computeMatchedOn_ne_nil_iff.mp matching) rfl

/-- What a conversion that takes effect has met and what it leaves. -/
theorem converts_effect {input : ConvertLeadRequest}
    {result : ConvertLeadResult}
    (converts : Converts platform state request id input result) :
    (∃ lead,
        findLeadById state.database.tables id = some lead ∧
          lead.status = .qualified ∧
          TakesClient lead input state.database.tables.clients
            (step platform state request).database.tables.clients
            result.client.id result.clientCreated) ∧
      (Filed state.database.tables →
        ConvertedTo (step platform state request).database.tables id
          result.client.id result.clientCreated) := by
  obtain ⟨context, index, leadActor, lead, rfl, atIndex, found, notConverted,
    answered⟩ := converts
  rw [step_attempt_database atIndex]
  simp only [attempt, onTables, Leads.serve] at answered ⊢
  cases outcome :
      Leads.convertLeadTransaction context leadActor id input
        state.database.tables with
  | error failure =>
      rw [transact_of_error outcome] at answered
      cases answered
  | ok returned =>
      rw [transact_of_ok outcome] at answered ⊢
      cases answered
      obtain ⟨same, foundSame, ⟨isConverted, -⟩ |
        ⟨qualified, clients, staffAssignments, auditLogs, chosen, audited,
          written⟩⟩ := convertLeadTransaction_cases outcome
      · rw [found] at foundSame
        cases foundSame
        exact absurd isConverted notConverted
      · rw [found] at foundSame
        cases foundSame
        dsimp only at written ⊢
        rw [written]
        refine
          ⟨⟨lead, found, qualified, takesClient_of_chosen chosen⟩, ?_⟩
        intro filed
        have sameId :
            ∀ row,
              (converted returned.1.client.id context.now row).id = row.id :=
          fun _ => rfl
        refine
          ⟨_, leadActor.id, findBy_updateBy_self sameId found, rfl, rfl, ?_⟩
        rw [conversionEntries_concat_self, audited.conversionEntries_eq,
          (filed.unlinked found notConverted).2.2]
        rfl

/-- A lead that becomes converted in a step does so by a conversion of a
qualified lead. -/
theorem converts_of_step {lead later : Lead}
    (found : findLeadById state.database.tables id = some lead)
    (notConverted : lead.status ≠ .convertedToClient)
    (foundLater :
      findLeadById (step platform state request).database.tables id =
        some later)
    (isConverted : later.status = .convertedToClient) :
    lead.status = .qualified ∧
      ∃ input result, Converts platform state request id input result := by
  have kept_absurd :
      findLeadById state.database.tables id = some later → False := by
    intro same
    rw [found] at same
    cases same
    exact notConverted isConverted
  cases request with
  | call actor operation => exact (kept_absurd foundLater).elim
  | assignmentsChanged staffAssignments =>
      exact (kept_absurd foundLater).elim
  | profilesChanged clientProfiles => exact (kept_absurd foundLater).elim
  | attempt context index =>
      cases atIndex : state.waiting[index]? with
      | none =>
          simp only [step, atIndex] at foundLater
          exact (kept_absurd foundLater).elim
      | some waiting =>
          rw [step_attempt_database atIndex] at foundLater
          obtain ⟨qualified, leadActor, input, rfl⟩ :=
            qualified_of_commit (attempt_commit waiting) found notConverted
              foundLater isConverted
          refine ⟨qualified, input, ?_⟩
          cases outcome :
              Leads.convertLeadTransaction context leadActor id input
                state.database.tables with
          | error failure =>
              simp only [attempt, onTables, Leads.serve,
                transact_of_error outcome] at foundLater
              exact (kept_absurd foundLater).elim
          | ok returned =>
              refine
                ⟨returned.1, context, index, leadActor, lead, rfl, atIndex,
                  found, notConverted, ?_⟩
              simp only [attempt, onTables, Leads.serve,
                transact_of_ok outcome]

theorem step_filed (filed : Filed state.database.tables) :
    Filed (step platform state request).database.tables :=
  @step_tables _ Filed state request filed
    (fun _ => ⟨filed.uniqueIds, filed.files⟩)
    (fun _ => ⟨filed.uniqueIds, filed.files⟩)
    fun _ _ _ committed => filed_of_commit filed committed

theorem step_convertedTo {clientId : Uuid} {clientCreated : Bool}
    (isConverted :
      ConvertedTo state.database.tables id clientId clientCreated) :
    ConvertedTo (step platform state request).database.tables id clientId
      clientCreated :=
  @step_tables _
    (fun tables => ConvertedTo tables id clientId clientCreated) state request
    isConverted (fun _ => isConverted) (fun _ => isConverted)
    fun _ _ _ committed => convertedTo_of_commit isConverted committed

/-- An operation that writes nothing leaves the whole database. -/
theorem onTables_of_unchanged {α : Type} {effect : Leads.Effect α}
    {now : Timestamp} {database : Repository.Database}
    {outcome : Except Leads.TxError α}
    (unchanged : effect database.tables = (outcome, database.tables)) :
    onTables effect now database = (outcome, database) := by
  simp [onTables, unchanged]

/-- The actor passes the access checks of a conversion. -/
structure MayConvert (tables : Tables) (actor : AuthenticatedUser)
    (id : Uuid) (input : ConvertLeadRequest) : Prop where
  manages : actor.role = .adminManager ∨ actor.role = .travelConsultant
  lead : canAccessLead tables.staffAssignments actor id
  client :
    ∀ clientId ∈ input.clientId,
      canAccessClient tables.staffAssignments tables.clientProfiles actor
        clientId

theorem MayConvert.admitted {tables : Tables} {actor : AuthenticatedUser}
    {input : ConvertLeadRequest} (may : MayConvert tables actor id input) :
    ∃ leadActor,
      admitOperation platform actor tables (.convertLead id input) =
          some (.convertLead leadActor id input) ∧
        Leads.holdsLead tables leadActor id ∧
        (leadActor.role = .travelConsultant →
          ∀ clientId ∈ input.clientId,
            (findActiveAssignmentForClient tables.staffAssignments
              clientId).any fun active =>
              active.assignedStaffId = leadActor.id) := by
  obtain ⟨manages, lead, client⟩ := may
  have admits :
      ∀ leadActor, Leads.assertLeadActor actor = .ok leadActor →
        admitOperation platform actor tables (.convertLead id input) =
          some (.convertLead leadActor id input) := by
    intro leadActor isActor
    simp only [admitOperation, if_pos client, admitLead, isActor, ok_bind,
      require_of lead]
    rfl
  rcases manages with isAdmin | isConsultant
  · refine ⟨⟨actor.id, .adminManager⟩, admits _ ?_, rfl, ?_⟩
    · simp [Leads.assertLeadActor, isAdmin]
    · intro isConsultant
      cases isConsultant
  · refine ⟨⟨actor.id, .travelConsultant⟩, admits _ ?_, ?_, ?_⟩
    · simp [Leads.assertLeadActor, isConsultant]
    · simpa [canAccessLead, isConsultant, Leads.holdsLead] using lead
    · intro _ clientId requested
      simpa [canAccessClient, isConsultant] using client clientId requested

/-- Repeating the conversion of a lead returns its client and its flag and
writes nothing. -/
theorem replay_of_convertedTo {database : Repository.Database}
    {actor : AuthenticatedUser} {input : ConvertLeadRequest} {clientId : Uuid}
    {clientCreated : Bool} (filed : Filed database.tables)
    (isConverted : ConvertedTo database.tables id clientId clientCreated)
    (may : MayConvert database.tables actor id input)
    (sameClient : input.clientId = none ∨ input.clientId = some clientId) :
    ∃ leadActor lead client,
      admitOperation platform actor database.tables (.convertLead id input) =
          some (.convertLead leadActor id input) ∧
        attempt platform context database (.convertLead leadActor id input) =
          (.leadConverted (.ok ⟨lead, client, clientCreated⟩), database) ∧
        findLeadById database.tables id = some lead ∧
        client.id = clientId := by
  obtain ⟨lead, actorId, found, status, hasClient, entries⟩ := isConverted
  obtain ⟨leadActor, admitted, holds, holdsClients⟩ :=
    @MayConvert.admitted platform _ _ _ _ may
  have known :
      ∃ client, findBy Client.id clientId database.tables.clients =
        some client := by
    have file := filed.files id
    rw [found, entries] at file
    generalize historyOf database.tables.statusHistory id = history at file
    cases file with
    | linked _ _ _ _ _ path isConverted linkedTo isKnown =>
        rw [hasClient] at linkedTo
        cases linkedTo
        exact Option.isSome_iff_exists.mp isKnown
  obtain ⟨client, foundClient⟩ := known
  have sameRequest : ∀ requested ∈ input.clientId, requested = clientId := by
    intro requested isRequested
    rcases sameClient with noRequest | isClient
    · rw [noRequest] at isRequested
      cases isRequested
    · rw [isClient] at isRequested
      exact (Option.some.inj isRequested).symm
  have audited :
      parseConversionAuditState
          ((findLeadConversionAudit database.tables id).getD none) =
        some (clientId, clientCreated) := by
    have latest :
        findLeadConversionAudit database.tables id =
          (conversionEntries database.tables.auditLogs id).getLast?.map
            AuditLog.afterState :=
      rfl
    rw [latest, entries]
    simp [conversionEntry, parseConversionAuditState]
  have replays :
      replayConversion database.tables id lead input =
        .ok ⟨lead, ⟨client.id, client.fullName⟩, clientCreated⟩ := by
    simp only [replayConversion, hasClient, demand, ok_bind,
      require_of sameRequest, audited, findClientSummaryById, foundClient,
      Option.map_some]
    rfl
  have succeeds :
      Leads.convertLeadTransaction context leadActor id input
          database.tables =
        .ok
          (⟨lead, ⟨client.id, client.fullName⟩, clientCreated⟩,
            database.tables) := by
    simp only [Leads.convertLeadTransaction, found, demand, ok_bind,
      require_of holds, require_of holdsClients, if_pos status, replays]
  have isClient : client.id = clientId := key_of_findBy foundClient
  refine
    ⟨leadActor, lead, ⟨client.id, client.fullName⟩, admitted, ?_, found,
      isClient⟩
  have unchanged :
      Leads.serve Leads.conversionConflict
          (Leads.convertLeadTransaction context leadActor id input)
          database.tables =
        (.ok ⟨lead, ⟨client.id, client.fullName⟩, clientCreated⟩,
          database.tables) := by
    simp only [Leads.serve, transact_of_ok succeeds]
  simp only [attempt, onTables_of_unchanged unchanged]

/-! ## Every run -/

theorem databaseAfter_filed (platform : StringPlatform)
    (requests : List Request) :
    Filed (databaseAfter platform requests).tables := by
  have initial : Filed State.initial.database.tables := by
    constructor
    · exact List.nodup_nil
    · intro id
      exact .absent
  exact
    @run_invariant _ _ (step platform)
      (fun state => Filed state.database.tables) State.initial initial
      (fun _ _ filed => step_filed filed) requests

theorem run_convertedTo {clientId : Uuid} {clientCreated : Bool}
    (isConverted :
      ConvertedTo state.database.tables id clientId clientCreated)
    (requests : List Request) :
    ConvertedTo (run (step platform) state requests).database.tables id
      clientId clientCreated :=
  @run_invariant _ _ (step platform)
    (fun state => ConvertedTo state.database.tables id clientId clientCreated)
    state isConverted (fun _ _ converted => step_convertedTo converted)
    requests

theorem databaseAfter_append (platform : StringPlatform)
    (earlier later : List Request) :
    databaseAfter platform (earlier ++ later) =
      (run (step platform) (stateAfter platform earlier) later).database := by
  unfold databaseAfter stateAfter
  rw [run_append]

/-- What a run says of the leads and their conversions. -/
structure ConversionsKept (platform : StringPlatform)
    (requests : List Request) : Prop where
  linked :
    ∀ lead ∈ (databaseAfter platform requests).tables.leads,
      lead.clientId.isSome ↔ lead.status = .convertedToClient
  /-- A converted lead stays converted to the same client. -/
  final :
    ∀ earlier later id lead, requests = earlier ++ later →
      findLeadById (databaseAfter platform earlier).tables id = some lead →
        lead.status = .convertedToClient →
          ∃ kept,
            findLeadById (databaseAfter platform requests).tables id =
                some kept ∧
              kept.status = .convertedToClient ∧
              kept.clientId = lead.clientId
  history :
    ∀ lead ∈ (databaseAfter platform requests).tables.leads,
      StatusPath
        (historyOf (databaseAfter platform requests).tables.statusHistory
          lead.id)
        lead.status
  /-- A lead becomes converted only by a conversion, and from the status
  `QUALIFIED`. -/
  onlyConversions :
    ∀ earlier request later id before after,
      requests = earlier ++ request :: later →
        findLeadById (databaseAfter platform earlier).tables id =
            some before →
          before.status ≠ .convertedToClient →
            findLeadById
                (databaseAfter platform (earlier ++ [request])).tables id =
              some after →
              after.status = .convertedToClient →
                before.status = .qualified ∧
                  ∃ input result,
                    Converts platform (stateAfter platform earlier) request
                      id input result
  takesClient :
    ∀ earlier request later id input result,
      requests = earlier ++ request :: later →
        Converts platform (stateAfter platform earlier) request id input
            result →
          ∃ lead,
            findLeadById (databaseAfter platform earlier).tables id =
                some lead ∧
              lead.status = .qualified ∧
              TakesClient lead input
                (databaseAfter platform earlier).tables.clients
                (databaseAfter platform
                  (earlier ++ [request])).tables.clients
                result.client.id result.clientCreated
  /-- Repeating a conversion at the end of the run returns what the
  conversion returned, and leaves the database. -/
  replay :
    ∀ earlier request later id input result,
      requests = earlier ++ request :: later →
        Converts platform (stateAfter platform earlier) request id input
            result →
          ∀ context actor again,
            MayConvert (databaseAfter platform requests).tables actor id
                again →
              again.clientId = none ∨
                  again.clientId = some result.client.id →
                ∃ leadActor lead client,
                  admitOperation platform actor (databaseAfter platform requests).tables
                      (.convertLead id again) =
                        some (.convertLead leadActor id again) ∧
                    attempt platform context (databaseAfter platform requests)
                        (.convertLead leadActor id again) =
                      (.leadConverted
                          (.ok ⟨lead, client, result.clientCreated⟩),
                        databaseAfter platform requests) ∧
                    client.id = result.client.id

theorem linked_iff_converted {tables : Tables} (filed : Filed tables)
    {lead : Lead} (member : lead ∈ tables.leads) :
    (lead.clientId.isSome ↔ lead.status = .convertedToClient) ∧
      StatusPath (historyOf tables.statusHistory lead.id) lead.status := by
  have file := filed.files lead.id
  have found : findLeadById tables lead.id = some lead :=
    findBy_of_mem filed.uniqueIds member
  rw [found] at file
  generalize historyOf tables.statusHistory lead.id = history at file ⊢
  generalize conversionEntries tables.auditLogs lead.id = entries at file
  cases file with
  | unlinked _ _ path notConverted noClient =>
      simp [noClient, notConverted, path]
  | linked _ _ actorId clientId clientCreated path isConverted hasClient =>
      refine ⟨?_, path⟩
      rw [hasClient, isConverted]
      simp

theorem convertedTo_of_converted {tables : Tables} (filed : Filed tables)
    {lead : Lead} (found : findLeadById tables id = some lead)
    (isConverted : lead.status = .convertedToClient) :
    ∃ clientId clientCreated,
      lead.clientId = some clientId ∧
        ConvertedTo tables id clientId clientCreated := by
  have file := filed.files id
  unfold ConvertedTo
  rw [found] at file ⊢
  generalize historyOf tables.statusHistory id = history at file
  generalize conversionEntries tables.auditLogs id = entries at file ⊢
  cases file with
  | unlinked _ _ path notConverted => exact absurd isConverted notConverted
  | linked _ _ actorId clientId clientCreated path _ hasClient =>
      exact
        ⟨clientId, clientCreated, hasClient, lead, actorId, rfl, isConverted,
          hasClient, rfl⟩

/-- In every run of calls, attempts and changes of assignments and profiles a
conversion is final, exact and repeatable. -/
theorem conversions_kept (platform : StringPlatform)
    (requests : List Request) : ConversionsKept platform requests where
  linked := by
    intro lead member
    exact
      (linked_iff_converted (databaseAfter_filed platform requests) member).1
  final := by
    intro earlier later id lead split found isConverted
    obtain ⟨clientId, clientCreated, hasClient, convertedTo⟩ :=
      convertedTo_of_converted (databaseAfter_filed platform earlier) found
        isConverted
    have stillConverted :=
      @run_convertedTo platform (stateAfter platform earlier) id _ _
        convertedTo later
    rw [← databaseAfter_append, ← split] at stillConverted
    obtain ⟨kept, -, foundKept, status, keptClient, -⟩ := stillConverted
    exact ⟨kept, foundKept, status, keptClient.trans hasClient.symm⟩
  history := by
    intro lead member
    exact
      (linked_iff_converted (databaseAfter_filed platform requests) member).2
  onlyConversions := by
    intro earlier request later id before after _ found notConverted
      foundAfter isConverted
    rw [databaseAfter_concat] at foundAfter
    exact converts_of_step found notConverted foundAfter isConverted
  takesClient := by
    intro earlier request later id input result _ converts
    rw [databaseAfter_concat]
    exact (converts_effect converts).1
  replay := by
    intro earlier request later id input result split converts context actor
      again may sameClient
    have atOnce :=
      (converts_effect converts).2 (databaseAfter_filed platform earlier)
    have stillConverted :=
      @run_convertedTo platform _ id _ _ atOnce later
    have splitRun :
        databaseAfter platform requests =
          (run (step platform)
            (step platform (stateAfter platform earlier) request)
            later).database := by
      rw [split, databaseAfter_append]
      rfl
    rw [← splitRun] at stillConverted
    obtain ⟨leadActor, lead, client, admitted, answered, -, isClient⟩ :=
      @replay_of_convertedTo platform context id _ actor again _ _
        (databaseAfter_filed platform requests) stillConverted may sameClient
    exact ⟨leadActor, lead, client, admitted, answered, isClient⟩

end Heritage.Clients
