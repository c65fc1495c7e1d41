import Heritage.Clients.System
import Heritage.Leads.Commits

/-!
# What a transaction commits to the lead tables

`Commit` lists the tables a waiting call may leave, with the facts its
transaction has checked.  The invariants of leads and clients are read off
from it, without the order of the checks.
-/

namespace Heritage.Clients

open Heritage.Store
open Heritage.Leads (Tables Lead LeadStatus AuditLog ConvertLeadRequest
  getTransitionOutcome)
open Heritage.Leads.Repository
open Repository

/-- The client a conversion of `lead` takes, whether it is new, and the
clients afterwards. -/
inductive ChosenClient (tables : Tables) (lead : Lead) :
    Option Uuid → Uuid → Bool → List Client → Prop where
  | created (client : Client)
      (fresh : findBy Client.id client.id tables.clients = none)
      (sameEmail : client.email = lead.email)
      (samePhone : client.phone = lead.phone)
      (sameNormalizedEmail : client.normalizedEmail = lead.normalizedEmail)
      (sameNormalizedPhone : client.normalizedPhone = lead.normalizedPhone)
      (unmatched :
        Leads.Repository.findDuplicateClientMatches tables
          ⟨lead.normalizedEmail, lead.normalizedPhone⟩ = []) :
      ChosenClient tables lead none client.id true
        (tables.clients ++ [client])
  | linked (client : Client)
      (known : client ∈ tables.clients)
      (matching :
        computeMatchedOn client.normalizedEmail client.normalizedPhone
          ⟨lead.normalizedEmail, lead.normalizedPhone⟩ ≠ []) :
      ChosenClient tables lead (some client.id) client.id false
        tables.clients

/-- The audit entry of a conversion. -/
def conversionEntry (actorId leadId clientId : Uuid) (clientCreated : Bool) :
    AuditLog where
  actorId := actorId
  action := .leadConvertedToClient
  entityType := .lead
  entityId := leadId
  beforeState := none
  afterState :=
    some <|
      .leadConversion LeadStatus.convertedToClient.text clientId clientCreated

/-- The audit entry of an edit. -/
def editEntry (actorId clientId : Uuid) (data : UpdateClientFieldsInput)
    (hasEmail hasPhone : Bool) : AuditLog where
  actorId := actorId
  action := .clientUpdated
  entityType := .client
  entityId := clientId
  beforeState := none
  afterState :=
    some (.clientUpdate (changedFieldNames data) hasEmail hasPhone)

/-- Entries were added, and none of them is that of a conversion. -/
inductive AddsNoConversion (before : List AuditLog) : List AuditLog → Prop where
  | refl : AddsNoConversion before before
  | insert {auditLogs : List AuditLog} {entry : AuditLog}
      (earlier : AddsNoConversion before auditLogs)
      (other : entry.action ≠ .leadConvertedToClient) :
      AddsNoConversion before (auditLogs ++ [entry])

/-- The lead tables a waiting call may leave. -/
inductive Commit (platform : StringPlatform) (tables : Tables) :
    Waiting → Tables → Prop where
  | kept (waiting : Waiting) : Commit platform tables waiting tables
  | leadCreated {leadActor : LeadActor} {input : Leads.CreateLeadRequest}
      {duplicates : Leads.DuplicateMatchResult} (row : CreateLeadInput)
      (staffAssignments : List StaffAssignment) (auditLogs : List AuditLog)
      (fresh : findLeadById tables row.id = none)
      (normalizedEmail :
        row.normalizedEmail =
          row.email.map fun email => normalizeEmail platform email.value)
      (normalizedPhone :
        row.normalizedPhone =
          row.phone.map fun phone => normalizePhone phone.value)
      (audited : AddsNoConversion tables.auditLogs auditLogs) :
      Commit platform tables (.createLead leadActor input duplicates)
        { tables with
          leads := tables.leads ++ [row.row]
          statusHistory :=
            tables.statusHistory ++
              [⟨row.id, none, .new, row.changedByUserId, row.createdAt⟩]
          staffAssignments := staffAssignments
          auditLogs := auditLogs }
  | leadEdited {prepared : Leads.PreparedUpdate} (now : Timestamp)
      (auditLogs : List AuditLog)
      (audited : AddsNoConversion tables.auditLogs auditLogs) :
      Commit platform tables (.updateLead prepared)
        { tables with
          leads :=
            updateBy Lead.id prepared.id (prepared.data.change now)
              tables.leads
          auditLogs := auditLogs }
  | leadMoved {leadActor : LeadActor} {id : Uuid}
      {input : Leads.UpdateLeadStatusRequest} (lead : Lead) (now : Timestamp)
      (auditLogs : List AuditLog)
      (found : findLeadById tables id = some lead)
      (allowed :
        getTransitionOutcome lead.status input.newStatus = .allowed)
      (audited : AddsNoConversion tables.auditLogs auditLogs) :
      Commit platform tables (.updateLeadStatus leadActor id input)
        { tables with
          leads :=
            updateBy Lead.id id (withStatus input.newStatus now) tables.leads
          statusHistory :=
            tables.statusHistory ++
              [⟨id, some lead.status, input.newStatus, leadActor.id, now⟩]
          auditLogs := auditLogs }
  | leadConverted {leadActor : LeadActor} {id : Uuid}
      {input : ConvertLeadRequest} (lead : Lead) (clientId : Uuid)
      (clientCreated : Bool) (clients : List Client)
      (staffAssignments : List StaffAssignment) (now : Timestamp)
      (auditLogs : List AuditLog)
      (found : findLeadById tables id = some lead)
      (qualified : lead.status = .qualified)
      (chosen :
        ChosenClient tables lead input.clientId clientId clientCreated
          clients)
      (audited : AddsNoConversion tables.auditLogs auditLogs) :
      Commit platform tables (.convertLead leadActor id input)
        { tables with
          leads :=
            updateBy Lead.id id (converted clientId now) tables.leads
          statusHistory :=
            tables.statusHistory ++
              [⟨id, some .qualified, .convertedToClient, leadActor.id, now⟩]
          clients := clients
          staffAssignments := staffAssignments
          auditLogs :=
            auditLogs ++
              [conversionEntry leadActor.id id clientId clientCreated] }
  | clientEdited {actor : AuthenticatedUser} {clientActor : ClientActor}
      {id : Uuid} {input : UpdateClientRequest} (existing : ClientRecord)
      (auditLogs : List AuditLog)
      (audited : AddsNoConversion tables.auditLogs auditLogs) :
      Commit platform tables (.updateClient actor clientActor id input)
        { tables with
          clients :=
            updateBy Client.id id
              (changedData platform input existing).changeContact
              tables.clients
          auditLogs := auditLogs }

section Inversion

variable {platform : StringPlatform} {context : RequestContext}
  {leadActor : LeadActor} {tables after : Tables}

theorem createAssignment_eq_ok {row assignment : StaffAssignment}
    (inserted : createAssignment tables row = .ok (assignment, after)) :
    assignment = row ∧
      assignmentViolation tables.staffAssignments row = none ∧
      after =
        { tables with staffAssignments := tables.staffAssignments ++ [row] } := by
  unfold createAssignment at inserted
  split at inserted
  · cases inserted
  next admitted =>
    cases inserted
    exact ⟨rfl, admitted, rfl⟩

theorem createLeadTransaction_commit {input : Leads.CreateLeadRequest}
    {duplicates : Leads.DuplicateMatchResult} {lead : Lead}
    (succeeds :
      Leads.createLeadTransaction platform context leadActor input tables =
        .ok (lead, after)) :
    Commit platform tables (.createLead leadActor input duplicates) after := by
  simp only [Leads.createLeadTransaction, createLeadWithInitialHistory,
    bind_eq_ok, require_eq_ok, exists_const, Option.isNone_iff_eq_none,
    Except.ok.injEq] at succeeds
  obtain ⟨⟨created, written⟩, ⟨fresh, inserted⟩, finished⟩ := succeeds
  cases inserted
  cases role : leadActor.role with
  | adminManager =>
      simp only [role, Except.ok.injEq, Prod.mk.injEq] at finished
      obtain ⟨-, rfl⟩ := finished
      exact
        .leadCreated _ _ _ fresh rfl rfl
          (.insert .refl (by simp))
  | travelConsultant =>
      simp only [role, bind_eq_ok, Except.ok.injEq, Prod.mk.injEq] at finished
      obtain ⟨⟨assignment, assigned⟩, assigning, -, rfl⟩ := finished
      obtain ⟨rfl, -, rfl⟩ := createAssignment_eq_ok assigning
      exact
        .leadCreated _ _ _ fresh rfl rfl
          (.insert (.insert .refl (by simp))
            (by simp))

theorem writeLeadUpdateTransaction_commit {prepared : Leads.PreparedUpdate}
    {result : Leads.UpdateLeadResult}
    (succeeds :
      Leads.writeLeadUpdateTransaction context prepared tables =
        .ok (result, after)) :
    Commit platform tables (.updateLead prepared) after := by
  simp only [Leads.writeLeadUpdateTransaction, updateLeadFields, bind_eq_ok,
    require_eq_ok, demand_eq_ok, exists_const, Except.ok.injEq] at succeeds
  obtain ⟨-, ⟨lead, written⟩, ⟨existing, -, updated⟩, finished⟩ := succeeds
  cases updated
  cases finished
  exact .leadEdited _ _ (.insert .refl (by simp))

theorem updateLeadStatusTransaction_commit {id : Uuid}
    {input : Leads.UpdateLeadStatusRequest} {lead : Lead}
    (succeeds :
      Leads.updateLeadStatusTransaction context leadActor id input tables =
        .ok (lead, after)) :
    Commit platform tables (.updateLeadStatus leadActor id input) after := by
  simp only [Leads.updateLeadStatusTransaction, bind_eq_ok, require_eq_ok,
    demand_eq_ok, exists_const] at succeeds
  obtain ⟨-, found, foundLead, finished⟩ := succeeds
  split at finished
  · cases finished
    exact .kept _
  · simp only [updateLeadStatusWithHistory, bind_eq_ok, require_eq_ok,
      demand_eq_ok, exists_const, Except.ok.injEq] at finished
    obtain ⟨-, notDeferred, notRejected, -, ⟨updated, written⟩,
      ⟨existing, -, moved⟩, finished⟩ := finished
    have allowed :
        getTransitionOutcome found.status input.newStatus = .allowed := by
      cases outcome : getTransitionOutcome found.status input.newStatus with
      | allowed => rfl
      | rejected => exact absurd outcome notRejected
      | deferredToConversionEndpoint => exact absurd outcome notDeferred
    cases moved
    cases finished
    exact .leadMoved found _ _ foundLead allowed (.insert .refl (by simp))

/-- What a conversion writes besides the lead: the client it takes. -/
theorem chooseClient_eq_ok {found : Lead} {input : ConvertLeadRequest}
    {client : ClientSummary} {clientCreated : Bool}
    (chooses :
      Leads.chooseClient context found input tables =
        .ok ((client, clientCreated), after)) :
    ChosenClient tables found input.clientId client.id clientCreated
        after.clients ∧
      after = { tables with clients := after.clients } := by
  unfold Leads.chooseClient at chooses
  cases requested : input.clientId with
  | none =>
      simp only [requested, createClientFromLead, bind_eq_ok, require_eq_ok,
        exists_const, Option.isNone_iff_eq_none, Except.ok.injEq] at chooses
      obtain ⟨unmatched, ⟨summary, written⟩, ⟨fresh, inserted⟩, returned⟩ :=
        chooses
      cases inserted
      cases returned
      have noMatches := List.eq_nil_of_length_eq_zero (Nat.eq_zero_of_not_pos unmatched)
      refine ⟨?_, rfl⟩
      exact
        .created
          { id := context.randomUuid 0
            fullName := found.fullName
            email := found.email
            phone := found.phone
            normalizedEmail := found.normalizedEmail
            normalizedPhone := found.normalizedPhone }
          fresh rfl rfl rfl rfl noMatches
  | some clientId =>
      simp only [requested, bind_eq_ok, demand_eq_ok, Except.ok.injEq]
        at chooses
      obtain ⟨linked, matched, returned⟩ := chooses
      cases returned
      have isRequested := List.find?_some matched
      simp only [decide_eq_true_eq] at isRequested
      obtain ⟨row, rowKept, rfl⟩ :=
        List.mem_map.mp (List.mem_of_find?_eq_some matched)
      obtain ⟨known, matching⟩ := List.mem_filter.mp rowKept
      subst isRequested
      refine ⟨?_, rfl⟩
      exact .linked row known (of_decide_eq_true matching)

theorem inheritAssignment_eq_ok {active : Option StaffAssignment}
    {client : ClientSummary} {clientCreated : Bool}
    (inherits :
      Leads.inheritAssignment context leadActor active client clientCreated
        tables = .ok after) :
    ∃ staffAssignments auditLogs,
      AddsNoConversion tables.auditLogs auditLogs ∧
        after =
          { tables with
            staffAssignments := staffAssignments
            auditLogs := auditLogs } := by
  unfold Leads.inheritAssignment at inherits
  split at inherits
  · simp only [bind_eq_ok, Except.ok.injEq] at inherits
    obtain ⟨⟨assignment, assigned⟩, assigning, rfl⟩ := inherits
    obtain ⟨rfl, -, rfl⟩ := createAssignment_eq_ok assigning
    exact ⟨_, _, .insert .refl (by simp), rfl⟩
  · cases inherits
    exact ⟨_, _, .refl, rfl⟩

/-- A successful conversion answers for a converted lead without writing, or
converts a qualified one. -/
theorem convertLeadTransaction_cases {id : Uuid} {input : ConvertLeadRequest}
    {result : Leads.ConvertLeadResult}
    (succeeds :
      Leads.convertLeadTransaction context leadActor id input tables =
        .ok (result, after)) :
    ∃ found,
      findLeadById tables id = some found ∧
        (found.status = .convertedToClient ∧ after = tables ∨
          found.status = .qualified ∧
            ∃ clients staffAssignments auditLogs,
              ChosenClient tables found input.clientId result.client.id
                  result.clientCreated clients ∧
                AddsNoConversion tables.auditLogs auditLogs ∧
                after =
                  { tables with
                    leads :=
                      updateBy Lead.id id
                        (converted result.client.id context.now) tables.leads
                    statusHistory :=
                      tables.statusHistory ++
                        [⟨id, some .qualified, .convertedToClient,
                          leadActor.id, context.now⟩]
                    clients := clients
                    staffAssignments := staffAssignments
                    auditLogs :=
                      auditLogs ++
                        [conversionEntry leadActor.id id result.client.id
                          result.clientCreated] }) := by
  simp only [Leads.convertLeadTransaction, bind_eq_ok, require_eq_ok,
    demand_eq_ok, exists_const] at succeeds
  obtain ⟨found, foundLead, -, -, finished⟩ := succeeds
  refine ⟨found, foundLead, ?_⟩
  split at finished
  next isConverted =>
    simp only [bind_eq_ok, Except.ok.injEq, Prod.mk.injEq] at finished
    obtain ⟨replay, -, -, rfl⟩ := finished
    exact Or.inl ⟨isConverted, rfl⟩
  · simp only [convertLeadWithHistory, bind_eq_ok, require_eq_ok,
      demand_eq_ok, exists_const, Except.ok.injEq] at finished
    obtain ⟨qualified, ⟨⟨client, clientCreated⟩, withClient⟩, choosing,
      inherited, inheriting, ⟨updated, written⟩, ⟨existing, -, moved⟩,
      finished⟩ := finished
    obtain ⟨chosen, sameTables⟩ := chooseClient_eq_ok choosing
    obtain ⟨staffAssignments, auditLogs, audited, rfl⟩ :=
      inheritAssignment_eq_ok inheriting
    rw [sameTables] at audited moved
    cases moved
    right
    refine ⟨qualified, ?_⟩
    cases clientCreated with
    | true =>
        cases finished
        exact ⟨_, _, _, chosen, .insert audited (by simp), rfl⟩
    | false =>
        cases finished
        exact ⟨_, _, _, chosen, audited, rfl⟩

theorem convertLeadTransaction_commit {id : Uuid} {input : ConvertLeadRequest}
    {result : Leads.ConvertLeadResult}
    (succeeds :
      Leads.convertLeadTransaction context leadActor id input tables =
        .ok (result, after)) :
    Commit platform tables (.convertLead leadActor id input) after := by
  obtain ⟨found, foundLead, ⟨-, rfl⟩ |
    ⟨qualified, clients, staffAssignments, auditLogs, chosen, audited,
      rfl⟩⟩ := convertLeadTransaction_cases succeeds
  · exact .kept _
  · exact
      .leadConverted found _ _ _ _ _ _ foundLead qualified chosen audited

/-- A successful edit has seen the version the request names; it writes
nothing, or the changed fields with one audit entry. -/
theorem updateClientTransaction_eq_ok {actor : AuthenticatedUser}
    {clientActor : ClientActor} {id : Uuid} {input : UpdateClientRequest}
    {result : UpdateClientResult} {database stored : Database}
    (succeeds :
      updateClientTransaction platform context actor clientActor id input
        database = .ok (result, stored)) :
    ∃ existing,
      findClientById database id = some existing ∧
        existing.details.updatedAt = input.expectedUpdatedAt ∧
        ((input.email.getD existing.contact.email).isSome ∨
          (input.phone.getD existing.contact.phone).isSome) ∧
        (changedFieldNames (changedData platform input existing) = [] ∧
            stored = database ∨
          changedFieldNames (changedData platform input existing) ≠ [] ∧
            stored =
              { details :=
                  (writeClient database id
                    (changedData platform input existing)
                    context.now).details
                tables :=
                  insertAuditLog
                    (writeClient database id
                      (changedData platform input existing)
                      context.now).tables
                    (editEntry clientActor.id id
                      (changedData platform input existing)
                      (input.email.getD existing.contact.email).isSome
                      (input.phone.getD existing.contact.phone).isSome) }) := by
  simp only [updateClientTransaction, bind_eq_ok, require_eq_ok,
    demand_eq_ok, exists_const] at succeeds
  obtain ⟨-, existing, found, sameVersion, hasChannel, finished⟩ := succeeds
  refine ⟨existing, found, sameVersion, hasChannel, ?_⟩
  split at finished
  next noChange =>
    simp only [bind_eq_ok, demand_eq_ok, Except.ok.injEq, Prod.mk.injEq]
      at finished
    obtain ⟨detail, -, -, rfl⟩ := finished
    exact Or.inl ⟨noChange, rfl⟩
  next change =>
    right
    refine ⟨change, ?_⟩
    have unstale :
        (findClientById database id).any fun row =>
          row.details.updatedAt = input.expectedUpdatedAt := by
      simp [found, sameVersion]
    simp only [writeChanges, updateClientFieldsIfUnstale, if_pos unstale,
      bind_eq_ok, require_eq_ok, demand_eq_ok, exists_const,
      Except.ok.injEq] at finished
    obtain ⟨⟨detail, written⟩, ⟨-, reread, -, wrote⟩, returned⟩ := finished
    cases wrote
    cases returned
    rfl

theorem updateClientTransaction_commit {actor : AuthenticatedUser}
    {clientActor : ClientActor} {id : Uuid} {input : UpdateClientRequest}
    {result : UpdateClientResult} {database stored : Database}
    (succeeds :
      updateClientTransaction platform context actor clientActor id input
        database = .ok (result, stored)) :
    Commit platform database.tables
      (.updateClient actor clientActor id input) stored.tables := by
  obtain ⟨existing, -, -, -, unchanged | changed⟩ :=
    updateClientTransaction_eq_ok succeeds
  · rw [unchanged.2]
    exact .kept _
  · rw [changed.2]
    exact .clientEdited existing _ (.insert .refl (by simp [editEntry]))

end Inversion

variable {platform : StringPlatform} {context : RequestContext}
  {database : Database}

/-- A lead operation on the whole database has its effect on the lead
tables. -/
theorem onTables_tables {α : Type} (effect : Leads.Effect α) (now : Timestamp)
    (database : Database) :
    (onTables effect now database).2.tables = (effect database.tables).2 :=
  rfl

/-- Every attempt commits one of the listed tables. -/
theorem attempt_commit (waiting : Waiting) :
    Commit platform database.tables waiting
      (attempt platform context database waiting).2.tables := by
  cases waiting with
  | createLead leadActor input duplicates =>
      simp only [attempt, onTables_tables]
      rcases transact_state_cases
          (Leads.createLeadTransaction platform context leadActor input)
          database.tables with kept | ⟨lead, succeeds⟩
      · rw [kept]
        exact .kept _
      · exact createLeadTransaction_commit succeeds
  | updateLead prepared =>
      simp only [attempt, onTables_tables]
      rcases Leads.serve_tables_cases Leads.updateConflict
          (Leads.writeLeadUpdateTransaction context prepared)
          database.tables with kept | ⟨result, succeeds⟩
      · rw [Leads.writeLeadUpdate, kept]
        exact .kept _
      · exact writeLeadUpdateTransaction_commit succeeds
  | updateLeadStatus leadActor id input =>
      simp only [attempt, onTables_tables]
      rcases Leads.serve_tables_cases Leads.updateConflict
          (Leads.updateLeadStatusTransaction context leadActor id input)
          database.tables with kept | ⟨result, succeeds⟩
      · rw [kept]
        exact .kept _
      · exact updateLeadStatusTransaction_commit succeeds
  | convertLead leadActor id input =>
      simp only [attempt, onTables_tables]
      rcases Leads.serve_tables_cases Leads.conversionConflict
          (Leads.convertLeadTransaction context leadActor id input)
          database.tables with kept | ⟨result, succeeds⟩
      · rw [kept]
        exact .kept _
      · exact convertLeadTransaction_commit succeeds
  | updateClient actor clientActor id input =>
      simp only [attempt]
      rcases transact_state_cases
          (updateClientTransaction platform context actor clientActor id
            input)
          database with kept | ⟨result, succeeds⟩
      · rw [kept]
        exact .kept _
      · exact updateClientTransaction_commit succeeds

/-- A property of the lead tables that survives every commit, and a change of
the assignments or the profiles, survives a step. -/
theorem step_tables {property : Tables → Prop} (state : State)
    (request : Request) (silent : property state.database.tables)
    (reassigned :
      ∀ staffAssignments,
        property
          { state.database.tables with staffAssignments := staffAssignments })
    (profiled :
      ∀ clientProfiles,
        property
          { state.database.tables with clientProfiles := clientProfiles })
    (committed :
      ∀ waiting after,
        waiting ∈ state.waiting →
          Commit platform state.database.tables waiting after →
            property after) :
    property (step platform state request).database.tables := by
  cases request with
  | call actor operation =>
      exact silent
  | attempt context index =>
      unfold step
      dsimp only
      cases atIndex : state.waiting[index]? with
      | none =>
          exact silent
      | some waiting =>
          exact
            committed waiting _ (List.mem_of_getElem? atIndex)
              (attempt_commit waiting)
  | assignmentsChanged staffAssignments =>
      exact reassigned staffAssignments
  | profilesChanged clientProfiles =>
      exact profiled clientProfiles

theorem databaseAfter_concat (requests : List Request) (request : Request) :
    databaseAfter platform (requests ++ [request]) =
      (step platform (stateAfter platform requests) request).database := by
  unfold databaseAfter stateAfter
  rw [run_append]
  rfl

end Heritage.Clients
