import Heritage.Assignments.Commits
import Heritage.Clients.Edits
import Heritage.Clients.Conversions

/-!
# Assignments that leads and clients begin with

A consultant's new lead is the consultant's, and a client made from a lead
inherits the lead's assignee.  Either post is new, so it is vacant.
-/

namespace Heritage.Assignments

open Heritage.Store
open Heritage.Leads (Lead CreateLeadRequest ConvertLeadRequest)
open Heritage.Leads.Repository (LeadActor)
open Heritage.Clients (Waiting Commit ChosenClient)

/-- The assignments are as they were, or one of a known post has begun. -/
def Begins (tables after : Leads.Tables) : Prop :=
  after.staffAssignments = tables.staffAssignments ∨
    ∃ post,
      Known after post ∧
        Write post tables.staffAssignments after.staffAssignments

section Transactions

variable {platform : StringPlatform} {context : RequestContext}
  {leadActor : LeadActor} {tables after : Leads.Tables}

/-- An assignment of a vacant post begins when the indexes admit it. -/
theorem opened_of_admitted {post : Post} {row : StaffAssignment}
    {rows : List StaffAssignment} (noBooking : row.bookingId = none)
    (only : ∀ other, concerns other row ↔ other = post)
    (vacant : holders post rows = [])
    (admitted : assignmentViolation rows row = none) :
    Write post rows (rows ++ [row]) := by
  rw [← staffAssignmentViolation_of_no_booking noBooking,
    staffAssignmentViolation_of_vacant only vacant] at admitted
  cases taken : findBy StaffAssignment.id row.id rows with
  | none =>
      exact .opened row taken only vacant
  | some other =>
      simp [taken] at admitted

theorem createAssignment_avoids_of_vacant {post : Post}
    {row : StaffAssignment} {fields : List String}
    (listed : fields ∈ activeIndexes) (noBooking : row.bookingId = none)
    (only : ∀ other, concerns other row ↔ other = post)
    (vacant : holders post tables.staffAssignments = []) :
    Avoids (Leads.Repository.createAssignment tables row)
      (.uniqueViolation "StaffAssignment" fields) := by
  unfold Leads.Repository.createAssignment
  rw [← staffAssignmentViolation_of_no_booking noBooking,
    staffAssignmentViolation_of_vacant only vacant]
  cases findBy StaffAssignment.id row.id tables.staffAssignments with
  | none =>
      exact avoids_ok _
  | some other =>
      intro ends
      cases ends
      revert listed
      decide

/-- An assignment of a lead and of nothing else. -/
theorem concerns_lead (id assignedStaffId assignedByUserId leadId : Uuid)
    (other : Post) :
    concerns other
        { id := id
          assignedStaffId := assignedStaffId
          role := .travelConsultant
          assignedByUserId := assignedByUserId
          leadId := some leadId
          clientId := none
          bookingId := none
          endedAt := none } ↔
      other = .lead leadId :=
  concerns_targetFields .lead id leadId assignedStaffId assignedByUserId none
    other

theorem concerns_client (id assignedStaffId assignedByUserId clientId : Uuid)
    (other : Post) :
    concerns other
        { id := id
          assignedStaffId := assignedStaffId
          role := .travelConsultant
          assignedByUserId := assignedByUserId
          leadId := none
          clientId := some clientId
          bookingId := none
          endedAt := none } ↔
      other = .client clientId :=
  concerns_targetFields .client id clientId assignedStaffId assignedByUserId
    none other

theorem vacant_of_fresh_lead {leadId : Uuid} (sound : Sound tables)
    (fresh : findBy Lead.id leadId tables.leads = none) :
    holders (.lead leadId) tables.staffAssignments = [] := by
  apply sound.vacant
  simp [Known, fresh]

theorem vacant_of_fresh_client {clientId : Uuid} (sound : Sound tables)
    (fresh : findBy Client.id clientId tables.clients = none) :
    holders (.client clientId) tables.staffAssignments = [] := by
  apply sound.vacant
  simp [Known, fresh]

theorem createLeadTransaction_begins {input : CreateLeadRequest}
    {lead : Lead} (sound : Sound tables)
    (succeeds :
      Leads.createLeadTransaction platform context leadActor input tables =
        .ok (lead, after)) :
    Begins tables after := by
  simp only [Leads.createLeadTransaction,
    Leads.Repository.createLeadWithInitialHistory, bind_eq_ok,
    require_eq_ok, exists_const, Option.isNone_iff_eq_none,
    Except.ok.injEq] at succeeds
  obtain ⟨⟨created, written⟩, ⟨fresh, inserted⟩, finished⟩ := succeeds
  cases inserted
  cases role : leadActor.role with
  | adminManager =>
      rw [role] at finished
      cases finished
      exact Or.inl rfl
  | travelConsultant =>
      have vacant := vacant_of_fresh_lead sound fresh
      simp only [role, bind_eq_ok, Except.ok.injEq, Prod.mk.injEq]
        at finished
      obtain ⟨⟨assignment, assigned⟩, assigning, -, rfl⟩ := finished
      obtain ⟨rfl, admitted, rfl⟩ := Clients.createAssignment_eq_ok assigning
      refine Or.inr ⟨.lead (context.randomUuid 0), ?_, ?_⟩
      · exact
          findBy_isSome_iff.mpr
            ⟨_, List.mem_append_right _ (List.mem_singleton_self _), rfl⟩
      · exact
          opened_of_admitted rfl (concerns_lead _ _ _ _) vacant admitted

theorem createLeadTransaction_avoids {input : CreateLeadRequest}
    {fields : List String} (sound : Sound tables)
    (listed : fields ∈ activeIndexes) :
    Avoids
      (Leads.createLeadTransaction platform context leadActor input tables)
      (.uniqueViolation "StaffAssignment" fields) := by
  unfold Leads.createLeadTransaction
  refine avoids_bind ?_ ?_
  · exact avoids_bind (avoids_require (by simp)) fun _ _ => avoids_ok _
  · rintro ⟨created, written⟩ inserts
    simp only [Leads.Repository.createLeadWithInitialHistory, bind_eq_ok,
      require_eq_ok, exists_const, Option.isNone_iff_eq_none,
      Except.ok.injEq] at inserts
    obtain ⟨fresh, inserted⟩ := inserts
    cases inserted
    have vacant := vacant_of_fresh_lead sound fresh
    dsimp only
    split
    · exact avoids_ok _
    · refine avoids_bind ?_ fun _ _ => avoids_ok _
      exact
        createAssignment_avoids_of_vacant listed rfl (concerns_lead _ _ _ _)
          vacant

theorem inheritAssignment_begins {active : Option StaffAssignment}
    {client : Leads.Repository.ClientSummary} {clientCreated : Bool}
    (vacant :
      clientCreated = true →
        holders (.client client.id) tables.staffAssignments = [])
    (inherits :
      Leads.inheritAssignment context leadActor active client clientCreated
        tables = .ok after) :
    after.staffAssignments = tables.staffAssignments ∨
      clientCreated = true ∧
        Write (.client client.id) tables.staffAssignments
          after.staffAssignments := by
  unfold Leads.inheritAssignment at inherits
  split at inherits
  · simp only [bind_eq_ok, Except.ok.injEq] at inherits
    obtain ⟨⟨assignment, assigned⟩, assigning, rfl⟩ := inherits
    obtain ⟨rfl, admitted, rfl⟩ := Clients.createAssignment_eq_ok assigning
    right
    refine ⟨rfl, ?_⟩
    exact
      opened_of_admitted rfl (concerns_client _ _ _ _) (vacant rfl) admitted
  · cases inherits
    exact Or.inl rfl

theorem inheritAssignment_avoids {active : Option StaffAssignment}
    {client : Leads.Repository.ClientSummary} {clientCreated : Bool}
    {fields : List String} (listed : fields ∈ activeIndexes)
    (vacant :
      clientCreated = true →
        holders (.client client.id) tables.staffAssignments = []) :
    Avoids
      (Leads.inheritAssignment context leadActor active client clientCreated
        tables)
      (.uniqueViolation "StaffAssignment" fields) := by
  unfold Leads.inheritAssignment
  split
  · refine avoids_bind ?_ fun _ _ => avoids_ok _
    exact
      createAssignment_avoids_of_vacant listed rfl (concerns_client _ _ _ _)
        (vacant rfl)
  · exact avoids_ok _

/-- A client made by a conversion is new, so nobody holds it. -/
theorem vacant_of_chosen {lead : Lead} {requested : Option Uuid}
    {clientId : Uuid} {clients : List Client} (sound : Sound tables)
    (chosen : ChosenClient tables lead requested clientId true clients) :
    holders (.client clientId) tables.staffAssignments = [] := by
  cases chosen with
  | created client fresh =>
      exact vacant_of_fresh_client sound fresh

theorem known_of_chosen {lead : Lead} {requested : Option Uuid}
    {clientId : Uuid} {clients : List Client}
    (chosen : ChosenClient tables lead requested clientId true clients) :
    (findBy Client.id clientId clients).isSome := by
  cases chosen with
  | created client =>
      exact
        findBy_isSome_iff.mpr
          ⟨client, List.mem_append_right _ (List.mem_singleton_self _), rfl⟩

theorem convertLeadTransaction_begins {id : Uuid}
    {input : ConvertLeadRequest} {result : Leads.ConvertLeadResult}
    (sound : Sound tables)
    (succeeds :
      Leads.convertLeadTransaction context leadActor id input tables =
        .ok (result, after)) :
    Begins tables after := by
  simp only [Leads.convertLeadTransaction, bind_eq_ok, require_eq_ok,
    demand_eq_ok, exists_const] at succeeds
  obtain ⟨found, foundLead, -, -, finished⟩ := succeeds
  split at finished
  · simp only [bind_eq_ok, Except.ok.injEq, Prod.mk.injEq] at finished
    obtain ⟨replay, -, -, rfl⟩ := finished
    exact Or.inl rfl
  · simp only [Leads.Repository.convertLeadWithHistory, bind_eq_ok,
      require_eq_ok, demand_eq_ok, exists_const, Except.ok.injEq]
      at finished
    obtain ⟨-, ⟨⟨client, clientCreated⟩, withClient⟩, choosing,
      inherited, inheriting, ⟨updated, written⟩, ⟨existing, -, moved⟩,
      finished⟩ := finished
    obtain ⟨chosen, sameTables⟩ := Clients.chooseClient_eq_ok choosing
    have sameRows : withClient.staffAssignments = tables.staffAssignments := by
      rw [sameTables]
    have vacant :
        clientCreated = true →
          holders (.client client.id) withClient.staffAssignments = [] := by
      rintro rfl
      rw [sameRows]
      exact vacant_of_chosen sound chosen
    have begins := inheritAssignment_begins vacant inheriting
    obtain ⟨staffAssignments, auditLogs, -, rfl⟩ :=
      Clients.inheritAssignment_eq_ok inheriting
    cases moved
    rw [sameRows] at begins
    rcases begins with same | ⟨rfl, begins⟩
    · left
      cases finished
      cases clientCreated <;> exact same
    · right
      refine ⟨.client client.id, ?_, ?_⟩
      · cases finished
        exact known_of_chosen chosen
      · cases finished
        exact begins

theorem replayConversion_avoids {id : Uuid} {found : Lead}
    {input : ConvertLeadRequest} {fields : List String} :
    Avoids (Leads.replayConversion tables id found input)
      (.uniqueViolation "StaffAssignment" fields) := by
  unfold Leads.replayConversion
  refine avoids_bind (avoids_demand (by simp [Leads.conversionConflict,
    Leads.leadError])) fun _ _ => ?_
  refine avoids_bind (avoids_require (by simp [Leads.conversionConflict,
    Leads.leadError])) fun _ _ => ?_
  refine avoids_bind (avoids_demand (by simp [Leads.conversionConflict,
    Leads.leadError])) fun _ _ => ?_
  refine avoids_bind (avoids_require (by simp [Leads.conversionConflict,
    Leads.leadError])) fun _ _ => ?_
  exact
    avoids_bind (avoids_demand (by simp [Leads.conversionConflict,
      Leads.leadError])) fun _ _ => avoids_ok _

theorem chooseClient_avoids {found : Lead} {input : ConvertLeadRequest}
    {fields : List String} :
    Avoids (Leads.chooseClient context found input tables)
      (.uniqueViolation "StaffAssignment" fields) := by
  unfold Leads.chooseClient
  dsimp only
  split
  · refine avoids_bind (avoids_require (by simp [Leads.leadError]))
      fun _ _ => ?_
    refine avoids_bind ?_ fun _ _ => avoids_ok _
    exact avoids_bind (avoids_require (by simp)) fun _ _ => avoids_ok _
  · exact
      avoids_bind (avoids_demand (by simp [Leads.clientLinkNotAvailable,
        Leads.leadError])) fun _ _ => avoids_ok _

theorem notFoundOrForbidden_ne {fields : List String} :
    Leads.notFoundOrForbidden leadActor ≠
      .uniqueViolation "StaffAssignment" fields := by
  unfold Leads.notFoundOrForbidden
  split <;> simp [Leads.leadError]

theorem convertLeadTransaction_avoids {id : Uuid}
    {input : ConvertLeadRequest} {fields : List String}
    (sound : Sound tables) (listed : fields ∈ activeIndexes) :
    Avoids (Leads.convertLeadTransaction context leadActor id input tables)
      (.uniqueViolation "StaffAssignment" fields) := by
  unfold Leads.convertLeadTransaction
  refine avoids_bind (avoids_demand notFoundOrForbidden_ne) fun _ _ => ?_
  refine avoids_bind
    (avoids_require fun _ => notFoundOrForbidden_ne) fun _ _ => ?_
  refine avoids_bind (avoids_require (by simp [Leads.clientLinkNotAvailable,
    Leads.leadError])) fun _ _ => ?_
  split
  · exact avoids_bind replayConversion_avoids fun _ _ => avoids_ok _
  · refine avoids_bind (avoids_require (by simp [Leads.leadError]))
      fun _ _ => ?_
    refine avoids_bind chooseClient_avoids ?_
    rintro ⟨⟨client, clientCreated⟩, withClient⟩ choosing
    obtain ⟨chosen, sameTables⟩ := Clients.chooseClient_eq_ok choosing
    have vacant :
        clientCreated = true →
          holders (.client client.id) withClient.staffAssignments = [] := by
      intro isNew
      subst isNew
      have vacantBefore := vacant_of_chosen sound chosen
      rw [sameTables]
      exact vacantBefore
    refine avoids_bind (inheritAssignment_avoids listed vacant) fun _ _ => ?_
    refine avoids_bind ?_ fun _ _ => avoids_ok _
    exact
      avoids_bind (avoids_demand (by simp [Leads.Repository.recordNotFound]))
        fun _ _ => avoids_ok _

end Transactions

/-! ## One attempt -/

section Attempt

variable {platform : StringPlatform} {context : RequestContext}
  {database : Clients.Repository.Database}

/-- Only a creation or a conversion begins an assignment. -/
theorem begins_of_commit {waiting : Waiting} {tables after : Leads.Tables}
    (committed : Commit platform tables waiting after)
    (notCreation :
      ∀ leadActor input duplicates,
        waiting ≠ .createLead leadActor input duplicates)
    (notConversion :
      ∀ leadActor id input, waiting ≠ .convertLead leadActor id input) :
    Begins tables after := by
  cases committed with
  | kept => exact Or.inl rfl
  | leadCreated => exact absurd rfl (notCreation _ _ _)
  | leadEdited => exact Or.inl rfl
  | leadMoved => exact Or.inl rfl
  | leadConverted => exact absurd rfl (notConversion _ _ _)
  | clientEdited => exact Or.inl rfl

theorem attempt_begins (sound : Sound database.tables) (waiting : Waiting) :
    Begins database.tables
      (Clients.attempt platform context database waiting).2.tables := by
  have committed :=
    @Clients.attempt_commit platform context database waiting
  cases waiting with
  | createLead leadActor input duplicates =>
      simp only [Clients.attempt, Clients.onTables_tables]
      rcases transact_state_cases
          (Leads.createLeadTransaction platform context leadActor input)
          database.tables with kept | ⟨lead, succeeds⟩
      · rw [kept]
        exact Or.inl rfl
      · exact createLeadTransaction_begins sound succeeds
  | convertLead leadActor id input =>
      simp only [Clients.attempt, Clients.onTables_tables]
      rcases Leads.serve_tables_cases Leads.conversionConflict
          (Leads.convertLeadTransaction context leadActor id input)
          database.tables with kept | ⟨result, succeeds⟩
      · rw [kept]
        exact Or.inl rfl
      · exact convertLeadTransaction_begins sound succeeds
  | updateLead prepared =>
      exact begins_of_commit committed (by simp) (by simp)
  | updateLeadStatus leadActor id input =>
      exact begins_of_commit committed (by simp) (by simp)
  | updateClient actor clientActor id input =>
      exact begins_of_commit committed (by simp) (by simp)

/-- The ids of leads and clients are only added to. -/
theorem ids_grew_of_commit {waiting : Waiting} {tables after : Leads.Tables}
    (committed : Commit platform tables waiting after) :
    tables.leads.map Lead.id <+: after.leads.map Lead.id ∧
      tables.clients.map Client.id <+: after.clients.map Client.id := by
  have leadsKept :
      ∀ {change : Lead → Lead} {id : Uuid},
        (∀ lead, (change lead).id = lead.id) →
          tables.leads.map Lead.id <+:
            (updateBy Lead.id id change tables.leads).map Lead.id := by
    intro change id sameId
    rw [map_updateBy_of_kept sameId]
  cases committed with
  | kept =>
      exact ⟨List.prefix_rfl, List.prefix_rfl⟩
  | leadCreated row =>
      exact ⟨(List.prefix_append tables.leads [row.row]).map _, List.prefix_rfl⟩
  | leadEdited now =>
      exact ⟨leadsKept fun _ => rfl, List.prefix_rfl⟩
  | leadMoved lead now =>
      exact ⟨leadsKept fun _ => rfl, List.prefix_rfl⟩
  | leadConverted lead clientId clientCreated clients staffAssignments now
      auditLogs found qualified chosen =>
      exact
        ⟨leadsKept fun _ => rfl,
          (Clients.clients_grew_of_chosen chosen).map _⟩
  | @clientEdited actor clientActor id input existing =>
      have sameId :
          ∀ client : Client,
            ((Clients.changedData platform input existing).changeContact
              client).id = client.id :=
        fun _ => rfl
      refine ⟨List.prefix_rfl, ?_⟩
      dsimp only
      rw [map_updateBy_of_kept sameId]

/-- Leads and clients that are known stay known. -/
theorem known_of_ids_grew {tables after : Leads.Tables}
    (leadsGrew : tables.leads.map Lead.id <+: after.leads.map Lead.id)
    (clientsGrew :
      tables.clients.map Client.id <+: after.clients.map Client.id)
    {post : Post} (known : Known tables post) : Known after post := by
  cases post with
  | lead leadId =>
      obtain ⟨lead, found⟩ := Option.isSome_iff_exists.mp known
      obtain ⟨later, foundLater⟩ :=
        exists_findBy_of_mem_map (leadsGrew.subset (mem_map_of_findBy found))
      exact Option.isSome_iff_exists.mpr ⟨later, foundLater⟩
  | client clientId =>
      obtain ⟨client, found⟩ := Option.isSome_iff_exists.mp known
      obtain ⟨later, foundLater⟩ :=
        exists_findBy_of_mem_map
          (clientsGrew.subset (mem_map_of_findBy found))
      exact Option.isSome_iff_exists.mpr ⟨later, foundLater⟩
  | booking =>
      trivial

end Attempt

end Heritage.Assignments
