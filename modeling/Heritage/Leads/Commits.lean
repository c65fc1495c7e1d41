import Heritage.Leads.System

/-!
# What one step writes to the leads

A step performs the write of a prepared update, or it is one of the writes
listed by `LeadsWritten`.  The invariants of the lead table are read off from
these, without the order of checks in the transactions.
-/

namespace Heritage.Leads

open Heritage.Store
open Repository

/-- A prepared update at the moment its transaction writes, with the lead it
overwrites. -/
structure PerformedUpdate where
  prepared : PreparedUpdate
  now : Timestamp
  overwritten : Lead

/-- The update a step writes: the recheck passed and the lead is there. -/
def performedUpdate (state : State) : Request → Option PerformedUpdate
  | .updateLeadWrite context index =>
      (state.pending[index]?).bind fun prepared =>
        if holdsLead state.tables prepared.leadActor prepared.id then
          (findLeadById state.tables prepared.id).map fun overwritten =>
            ⟨prepared, context.now, overwritten⟩
        else
          none
  | _ => none

theorem performedUpdate_eq_some
    {state : State} {context : RequestContext} {index : Nat}
    {update : PerformedUpdate} :
    performedUpdate state (.updateLeadWrite context index) = some update ↔
      state.pending[index]? = some update.prepared ∧
        holdsLead state.tables update.prepared.leadActor
          update.prepared.id ∧
        findLeadById state.tables update.prepared.id =
          some update.overwritten ∧
        context.now = update.now := by
  obtain ⟨prepared, now, overwritten⟩ := update
  simp only [performedUpdate, Option.bind_eq_some_iff,
    Option.ite_none_right_eq_some, Option.map_eq_some_iff,
    PerformedUpdate.mk.injEq]
  constructor
  · rintro ⟨found, atIndex, held, lead, foundLead, rfl, sameNow, rfl⟩
    exact ⟨atIndex, held, foundLead, sameNow⟩
  · rintro ⟨atIndex, held, foundLead, sameNow⟩
    exact
      ⟨prepared, atIndex, held, overwritten, foundLead, rfl, sameNow, rfl⟩

/-- Only a write step performs an update. -/
theorem pending_of_performedUpdate
    {state : State} {request : Request} {update : PerformedUpdate}
    (performed : performedUpdate state request = some update) :
    update.prepared ∈ state.pending ∧
      findLeadById state.tables update.prepared.id =
        some update.overwritten := by
  cases request with
  | updateLeadWrite context index =>
      obtain ⟨atIndex, -, found, -⟩ := performedUpdate_eq_some.mp performed
      exact ⟨List.mem_of_getElem? atIndex, found⟩
  | _ => cases performed

/-- The lead tables a step may leave that performs no prepared update. -/
inductive LeadsWritten (state : State) : List Lead → Prop where
  | unchanged : LeadsWritten state state.tables.leads
  | created (row : CreateLeadInput)
      (freshId : findLeadById state.tables row.id = none)
      (contactable : row.email.isSome ∨ row.phone.isSome) :
      LeadsWritten state (state.tables.leads ++ [row.row])
  | statusChanged (lead : Lead) (newStatus : LeadStatus) (now : Timestamp)
      (found : findLeadById state.tables lead.id = some lead)
      (notConverted : lead.status ≠ .convertedToClient) :
      LeadsWritten state
        (updateBy Lead.id lead.id (withStatus newStatus now)
          state.tables.leads)
  | converted (lead : Lead) (clientId : Uuid) (now : Timestamp)
      (found : findLeadById state.tables lead.id = some lead)
      (notConverted : lead.status ≠ .convertedToClient) :
      LeadsWritten state
        (updateBy Lead.id lead.id (Repository.converted clientId now)
          state.tables.leads)

variable {tables after : Tables}

/-- What a served transaction leaves: the tables it met, or those its body
returned. -/
theorem serve_tables_cases {α : Type} (conflict : TxError)
    (body : Tables → Except TxError (α × Tables)) (tables : Tables) :
    (serve conflict body tables).2 = tables ∨
      ∃ value, body tables = .ok (value, (serve conflict body tables).2) := by
  have served :
      (serve conflict body tables).2 = (transact body tables).2 := by
    unfold serve
    cases transact body tables with
    | mk outcome stored =>
        cases outcome <;> rfl
  rw [served]
  exact transact_state_cases body tables

/-- What an operation on one lead leaves: the tables it met, or those of the
operation itself. -/
theorem withLead_tables_cases {α : Type} (actor : AuthenticatedUser)
    (id : Uuid) (operation : LeadActor → Effect α) (tables : Tables) :
    (withLead actor id operation tables).2 = tables ∨
      ∃ leadActor,
        (withLead actor id operation tables).2 =
          (operation leadActor tables).2 := by
  unfold withLead
  cases assertLeadActor actor with
  | error failure =>
      exact Or.inl rfl
  | ok leadActor =>
      dsimp only
      split
      · exact Or.inr ⟨leadActor, rfl⟩
      · exact Or.inl rfl

theorem createAssignment_leads
    {row assignment : StaffAssignment}
    (inserted : createAssignment tables row = .ok (assignment, after)) :
    after.leads = tables.leads := by
  unfold createAssignment at inserted
  split at inserted
  · cases inserted
  · cases inserted
    rfl

theorem createLeadWithInitialHistory_eq_ok
    {input : CreateLeadInput} {lead : Lead}
    (inserted :
      createLeadWithInitialHistory tables input = .ok (lead, after)) :
    findLeadById tables input.id = none ∧
      after.leads = tables.leads ++ [input.row] := by
  simp only [createLeadWithInitialHistory, bind_eq_ok, require_eq_ok,
    Option.isNone_iff_eq_none, exists_const, Except.ok.injEq,
    Prod.mk.injEq] at inserted
  obtain ⟨fresh, -, rfl⟩ := inserted
  exact ⟨fresh, rfl⟩

theorem createLeadTransaction_eq_ok
    {platform : StringPlatform} {context : RequestContext}
    {leadActor : LeadActor} {input : CreateLeadRequest} {lead : Lead}
    (succeeds :
      createLeadTransaction platform context leadActor input tables =
        .ok (lead, after)) :
    ∃ row : CreateLeadInput,
      findLeadById tables row.id = none ∧
        (row.email.isSome ∨ row.phone.isSome) ∧
        after.leads = tables.leads ++ [row.row] := by
  simp only [createLeadTransaction, bind_eq_ok] at succeeds
  obtain ⟨⟨created, written⟩, inserted, finished⟩ := succeeds
  obtain ⟨fresh, leads⟩ := createLeadWithInitialHistory_eq_ok inserted
  refine ⟨_, fresh, input.contactable, ?_⟩
  rw [← leads]
  cases role : leadActor.role with
  | adminManager =>
      simp only [role, Except.ok.injEq, Prod.mk.injEq] at finished
      rw [← finished.2]
      rfl
  | travelConsultant =>
      simp only [role, bind_eq_ok] at finished
      obtain ⟨⟨assignment, assigned⟩, assigning, finished⟩ := finished
      have assignedLeads := createAssignment_leads assigning
      cases finished
      exact assignedLeads

theorem createLead_tables_cases (platform : StringPlatform)
    (context : RequestContext) (actor : AuthenticatedUser)
    (input : CreateLeadRequest) (tables : Tables) :
    (createLead platform context actor input tables).2 = tables ∨
      ∃ leadActor lead,
        createLeadTransaction platform context leadActor input tables =
          .ok (lead, (createLead platform context actor input tables).2) := by
  unfold createLead
  cases assertLeadActor actor with
  | error failure =>
      exact Or.inl rfl
  | ok leadActor =>
      cases outcome :
          createLeadTransaction platform context leadActor input tables with
      | error failure =>
          simp [transact_of_error outcome]
      | ok result =>
          right
          refine ⟨leadActor, result.1, ?_⟩
          simp [transact_of_ok outcome, outcome]

theorem updateLeadFields_eq_ok
    {id : Uuid} {data : UpdateLeadFieldsInput} {now : Timestamp}
    {lead : Lead}
    (updated : updateLeadFields tables id data now = .ok (lead, after)) :
    ∃ existing,
      findLeadById tables id = some existing ∧
        after.leads =
          updateBy Lead.id id (data.change now) tables.leads := by
  simp only [updateLeadFields, bind_eq_ok, demand_eq_ok, Except.ok.injEq,
    Prod.mk.injEq] at updated
  obtain ⟨existing, found, -, rfl⟩ := updated
  exact ⟨existing, found, rfl⟩

theorem writeLeadUpdateTransaction_eq_ok
    {context : RequestContext} {prepared : PreparedUpdate}
    {result : UpdateLeadResult}
    (succeeds :
      writeLeadUpdateTransaction context prepared tables =
        .ok (result, after)) :
    ∃ existing,
      holdsLead tables prepared.leadActor prepared.id ∧
        findLeadById tables prepared.id = some existing ∧
        after.leads =
          updateBy Lead.id prepared.id (prepared.data.change context.now)
            tables.leads := by
  simp only [writeLeadUpdateTransaction, bind_eq_ok, require_eq_ok,
    exists_const] at succeeds
  obtain ⟨held, ⟨lead, written⟩, updating, finished⟩ := succeeds
  obtain ⟨existing, found, leads⟩ := updateLeadFields_eq_ok updating
  cases finished
  exact ⟨existing, held, found, leads⟩

theorem updateLeadStatusTransaction_eq_ok
    {context : RequestContext} {leadActor : LeadActor} {id : Uuid}
    {input : UpdateLeadStatusRequest} {lead : Lead}
    (succeeds :
      updateLeadStatusTransaction context leadActor id input tables =
        .ok (lead, after)) :
    after.leads = tables.leads ∨
      ∃ found,
        findLeadById tables id = some found ∧
          found.status ≠ .convertedToClient ∧
          after.leads =
            updateBy Lead.id id (withStatus input.newStatus context.now)
              tables.leads := by
  simp only [updateLeadStatusTransaction, bind_eq_ok, require_eq_ok,
    demand_eq_ok, exists_const] at succeeds
  obtain ⟨-, found, foundLead, finished⟩ := succeeds
  split at finished
  · cases finished
    exact Or.inl rfl
  · simp only [bind_eq_ok, require_eq_ok, exists_const] at finished
    obtain ⟨-, notDeferred, notRejected, -, ⟨updated, written⟩, writing,
      finished⟩ := finished
    have allowed :
        getTransitionOutcome found.status input.newStatus = .allowed := by
      cases outcome : getTransitionOutcome found.status input.newStatus with
      | allowed => rfl
      | rejected => exact absurd outcome notRejected
      | deferredToConversionEndpoint => exact absurd outcome notDeferred
    simp only [updateLeadStatusWithHistory, bind_eq_ok, demand_eq_ok,
      Except.ok.injEq, Prod.mk.injEq] at writing
    obtain ⟨-, -, -, rfl⟩ := writing
    cases finished
    exact
      Or.inr ⟨found, foundLead, (converted_of_allowed allowed).1, rfl⟩

theorem chooseClient_leads
    {context : RequestContext} {found : Lead} {input : ConvertLeadRequest}
    {chosen : ClientSummary × Bool}
    (succeeds : chooseClient context found input tables = .ok (chosen, after)) :
    after.leads = tables.leads := by
  unfold chooseClient at succeeds
  cases requested : input.clientId with
  | none =>
      simp only [requested, createClientFromLead, bind_eq_ok, require_eq_ok,
        exists_const, Except.ok.injEq, Prod.mk.injEq] at succeeds
      obtain ⟨-, ⟨client, written⟩, ⟨-, -, rfl⟩, -, rfl⟩ := succeeds
      rfl
  | some clientId =>
      simp only [requested, bind_eq_ok, demand_eq_ok, Except.ok.injEq,
        Prod.mk.injEq] at succeeds
      obtain ⟨linked, -, -, rfl⟩ := succeeds
      rfl

theorem inheritAssignment_leads
    {context : RequestContext} {leadActor : LeadActor}
    {active : Option StaffAssignment} {client : ClientSummary}
    {clientCreated : Bool}
    (succeeds :
      inheritAssignment context leadActor active client clientCreated
        tables = .ok after) :
    after.leads = tables.leads := by
  unfold inheritAssignment at succeeds
  split at succeeds
  · simp only [bind_eq_ok, Except.ok.injEq] at succeeds
    obtain ⟨⟨assignment, assigned⟩, assigning, rfl⟩ := succeeds
    have assignedLeads := createAssignment_leads assigning
    exact assignedLeads
  · cases succeeds
    rfl

theorem convertLeadTransaction_eq_ok
    {context : RequestContext} {leadActor : LeadActor} {id : Uuid}
    {input : ConvertLeadRequest} {result : ConvertLeadResult}
    (succeeds :
      convertLeadTransaction context leadActor id input tables =
        .ok (result, after)) :
    after.leads = tables.leads ∨
      ∃ found clientId,
        findLeadById tables id = some found ∧
          found.status ≠ .convertedToClient ∧
          after.leads =
            updateBy Lead.id id (Repository.converted clientId context.now)
              tables.leads := by
  simp only [convertLeadTransaction, bind_eq_ok, require_eq_ok,
    demand_eq_ok, exists_const] at succeeds
  obtain ⟨found, foundLead, -, -, finished⟩ := succeeds
  split at finished
  · simp only [bind_eq_ok, Except.ok.injEq, Prod.mk.injEq] at finished
    obtain ⟨replay, -, -, rfl⟩ := finished
    exact Or.inl rfl
  next notConverted =>
    simp only [bind_eq_ok, require_eq_ok, exists_const] at finished
    obtain ⟨-, ⟨⟨client, clientCreated⟩, withClient⟩, choosing, inherited,
      inheriting, ⟨updated, written⟩, writing, finished⟩ := finished
    simp only [convertLeadWithHistory, bind_eq_ok, demand_eq_ok,
      Except.ok.injEq, Prod.mk.injEq] at writing
    obtain ⟨-, -, -, rfl⟩ := writing
    have sameLeads : inherited.leads = tables.leads := by
      rw [inheritAssignment_leads inheriting, chooseClient_leads choosing]
    refine Or.inr ⟨found, client.id, foundLead, notConverted, ?_⟩
    rw [← sameLeads]
    simp only [Except.ok.injEq, Prod.mk.injEq] at finished
    rw [← finished.2]
    cases clientCreated <;> rfl

/-! ## One step -/

variable (platform : StringPlatform) {state : State} {request : Request}

/-- A performed update is what the step writes. -/
theorem step_of_performedUpdate
    {update : PerformedUpdate}
    (performed : performedUpdate state request = some update) :
    (step platform state request).tables.leads =
      updateBy Lead.id update.prepared.id
        (update.prepared.data.change update.now) state.tables.leads := by
  cases request with
  | updateLeadWrite context index =>
      obtain ⟨atIndex, held, found, sameNow⟩ :=
        performedUpdate_eq_some.mp performed
      simp only [step, atIndex]
      simp [writeLeadUpdate, serve, transact, writeLeadUpdateTransaction,
        require_of held, updateLeadFields, found, demand, insertAuditLog,
        sameNow]
  | _ => cases performed

/-- A step that performs no update leaves one of the listed tables. -/
theorem step_leadsWritten
    (idle : performedUpdate state request = none) :
    LeadsWritten state (step platform state request).tables.leads := by
  cases request with
  | createLead context actor input =>
      simp only [step]
      rcases createLead_tables_cases platform context actor input
          state.tables with kept | ⟨leadActor, lead, succeeds⟩
      · rw [kept]
        exact .unchanged
      · obtain ⟨row, fresh, contactable, leads⟩ :=
          createLeadTransaction_eq_ok succeeds
        rw [leads]
        exact .created row fresh contactable
  | updateLeadRead actor id input =>
      simp only [step]
      split <;> exact .unchanged
  | updateLeadWrite context index =>
      cases atIndex : state.pending[index]? with
      | none =>
          simp only [step, atIndex]
          exact .unchanged
      | some prepared =>
          simp only [step, atIndex]
          rcases serve_tables_cases updateConflict
              (writeLeadUpdateTransaction context prepared)
              state.tables with kept | ⟨result, succeeds⟩
          · rw [writeLeadUpdate, kept]
            exact .unchanged
          · obtain ⟨existing, held, found, -⟩ :=
              writeLeadUpdateTransaction_eq_ok succeeds
            have performed :
                performedUpdate state (.updateLeadWrite context index) =
                  some ⟨prepared, context.now, existing⟩ :=
              performedUpdate_eq_some.mpr ⟨atIndex, held, found, rfl⟩
            rw [idle] at performed
            cases performed
  | updateLeadStatus context actor id input =>
      simp only [step, updateLeadStatus]
      rcases withLead_tables_cases actor id
          (fun leadActor =>
            serve updateConflict
              (updateLeadStatusTransaction context leadActor id input))
          state.tables with kept | ⟨leadActor, reached⟩
      · rw [kept]
        exact .unchanged
      rw [reached]
      rcases serve_tables_cases updateConflict
          (updateLeadStatusTransaction context leadActor id input)
          state.tables with kept | ⟨result, succeeds⟩
      · rw [kept]
        exact .unchanged
      rcases updateLeadStatusTransaction_eq_ok succeeds with
        sameLeads | ⟨found, foundLead, notConverted, leads⟩
      · rw [sameLeads]
        exact .unchanged
      · rw [leads]
        have sameId : found.id = id := key_of_findBy foundLead
        subst sameId
        exact .statusChanged found _ _ foundLead notConverted
  | convertLead context actor id input =>
      simp only [step, convertLead]
      rcases withLead_tables_cases actor id
          (fun leadActor tables =>
            if ∀ clientId ∈ input.clientId,
                canAccessClient tables.staffAssignments
                  tables.clientProfiles actor clientId then
              serve conversionConflict
                (convertLeadTransaction context leadActor id input) tables
            else
              (.error clientLinkNotAvailable, tables))
          state.tables with kept | ⟨leadActor, reached⟩
      · rw [kept]
        exact .unchanged
      rw [reached]
      split
      · rcases serve_tables_cases conversionConflict
            (convertLeadTransaction context leadActor id input)
            state.tables with kept | ⟨result, succeeds⟩
        · rw [kept]
          exact .unchanged
        rcases convertLeadTransaction_eq_ok succeeds with
          sameLeads | ⟨found, clientId, foundLead, notConverted, leads⟩
        · rw [sameLeads]
          exact .unchanged
        · rw [leads]
          have sameId : found.id = id := key_of_findBy foundLead
          subst sameId
          exact .converted found clientId _ foundLead notConverted
      · exact .unchanged
  | assignmentsChanged staffAssignments =>
      exact .unchanged
  | clientsChanged clients clientProfiles =>
      exact .unchanged

theorem leadIds_nodup_of_leadsWritten {leads : List Lead}
    (unique : (state.tables.leads.map Lead.id).Nodup)
    (written : LeadsWritten state leads) : (leads.map Lead.id).Nodup := by
  cases written with
  | unchanged =>
      exact unique
  | created row fresh =>
      exact nodup_map_concat unique fresh
  | statusChanged =>
      exact nodup_map_updateBy (fun _ => rfl) unique
  | converted =>
      exact nodup_map_updateBy (fun _ => rfl) unique

theorem step_leadIds_nodup
    (unique : (state.tables.leads.map Lead.id).Nodup) :
    ((step platform state request).tables.leads.map Lead.id).Nodup := by
  cases performed : performedUpdate state request with
  | some update =>
      rw [step_of_performedUpdate platform performed]
      exact nodup_map_updateBy (fun _ => rfl) unique
  | none =>
      exact
        leadIds_nodup_of_leadsWritten unique
          (step_leadsWritten platform performed)

end Heritage.Leads
