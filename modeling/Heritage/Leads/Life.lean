import Heritage.Assignments.Audits
import Heritage.Store.Recorded

/-!
# The life of a lead

Every change of a lead's status adds a row to its status history and an entry
to the audit.  The lemmas follow the transactions: the writes of the
repository that concern no status, the writes that do, and from them what each
transaction does to the record of the statuses.
-/

namespace Heritage.Leads

open Heritage.Store
open Repository

/-- An entry about a status. -/
def reportsStatus (entry : AuditLog) : Bool :=
  entry.action = .leadCreated ∨ entry.action = .leadStatusChanged ∨
    entry.action = .leadConvertedToClient

/-- The leads with their statuses, and what is recorded about these. -/
def statusRecord (tables : Tables) :
    Record Uuid LeadStatus LeadStatusHistory AuditLog where
  standings := tables.leads.map fun lead => ⟨lead.id, lead.status⟩
  history := tables.statusHistory
  entries := tables.auditLogs.filter reportsStatus

/-- The history rows a lead may have, each with the entry that reports it. -/
inductive ReportsStatus : LeadStatusHistory → AuditLog → Prop where
  | created (leadId actorId : Uuid) (now : Timestamp) (source : String)
      (hasEmail hasPhone : Bool) :
      ReportsStatus
        { leadId := leadId
          previousStatus := none
          newStatus := .new
          changedByUserId := actorId
          createdAt := now }
        { actorId := actorId
          action := .leadCreated
          entityType := .lead
          entityId := leadId
          beforeState := none
          afterState :=
            some
              (.leadCreated leadId LeadStatus.new.text source hasEmail
                hasPhone) }
  | changed (leadId actorId : Uuid) (now : Timestamp)
      (previous next : LeadStatus) (reason : Option String)
      (allowed : getTransitionOutcome previous next = .allowed)
      (explained : isReasonRequired previous next → reason.isSome) :
      ReportsStatus
        { leadId := leadId
          previousStatus := some previous
          newStatus := next
          changedByUserId := actorId
          createdAt := now }
        { actorId := actorId
          action := .leadStatusChanged
          entityType := .lead
          entityId := leadId
          beforeState := some (.leadStatus previous.text none)
          afterState := some (.leadStatus next.text reason) }
  | converted (leadId actorId : Uuid) (now : Timestamp) (clientId : Uuid)
      (clientCreated : Bool) :
      ReportsStatus
        { leadId := leadId
          previousStatus := some .qualified
          newStatus := .convertedToClient
          changedByUserId := actorId
          createdAt := now }
        { actorId := actorId
          action := .leadConvertedToClient
          entityType := .lead
          entityId := leadId
          beforeState := none
          afterState :=
            some
              (.leadConversion LeadStatus.convertedToClient.text clientId
                clientCreated) }

def statusReading :
    Reading Uuid LeadStatus LeadStatusHistory AuditLog where
  subject := LeadStatusHistory.leadId
  source := LeadStatusHistory.previousStatus
  target := LeadStatusHistory.newStatus
  entrySubject := AuditLog.entityId
  Reports := ReportsStatus
  sameSubject := by
    intro row entry reports
    cases reports with
    | _ => rfl

/-- What a change does to the record of the statuses. -/
def RecordsStatus (before after : Tables) : Prop :=
  Recorded statusReading (statusRecord before) (statusRecord after)

theorem recordsStatus_of_same {before after : Tables}
    (same : statusRecord after = statusRecord before) :
    RecordsStatus before after := by
  unfold RecordsStatus
  rw [same]
  exact .kept

section Writes

variable {tables : Tables}

/-- An entry about something else. -/
theorem statusRecord_insert_other {entry : AuditLog}
    (other : reportsStatus entry = false) :
    statusRecord (insertAuditLog tables entry) = statusRecord tables := by
  simp [statusRecord, insertAuditLog, List.filter_append, other]

theorem statusRecord_insert {entry : AuditLog}
    (reports : reportsStatus entry) :
    statusRecord (insertAuditLog tables entry) =
      { statusRecord tables with
        entries := (statusRecord tables).entries ++ [entry] } := by
  simp [statusRecord, insertAuditLog, List.filter_append, reports]

theorem createAssignment_record (row : StaffAssignment) :
    Leaves (createAssignment tables row) fun written =>
      statusRecord written = statusRecord tables := by
  unfold createAssignment
  split
  · exact leaves_error _
  · exact leaves_ok rfl

theorem updateLeadFields_record (id : Uuid) (data : UpdateLeadFieldsInput)
    (now : Timestamp) :
    Leaves (updateLeadFields tables id data now) fun written =>
      statusRecord written = statusRecord tables := by
  apply leaves_bind
  intro _ _
  apply leaves_ok
  have sameStandings :
      (updateBy Lead.id id (data.change now) tables.leads).map
          (fun lead => Standing.mk lead.id lead.status) =
        tables.leads.map fun lead => Standing.mk lead.id lead.status :=
    map_updateBy_of_kept fun _ => rfl
  simp only [statusRecord, sameStandings]

theorem createClientFromLead_record (row : Client) :
    Leaves (createClientFromLead tables row) fun written =>
      statusRecord written = statusRecord tables :=
  leaves_bind fun _ _ => leaves_ok rfl

/-- The status of one lead, and its place in the history. -/
theorem standings_updateBy {id : Uuid} {change : Lead → Lead}
    {status : LeadStatus}
    (sameId : ∀ lead, (change lead).id = lead.id)
    (changed : ∀ lead, (change lead).status = status) :
    (updateBy Lead.id id change tables.leads).map
        (fun lead => Standing.mk lead.id lead.status) =
      updateBy Standing.key id (fun standing => ⟨standing.key, status⟩)
        (tables.leads.map fun lead => Standing.mk lead.id lead.status) := by
  apply map_updateBy
  · intro lead
    rfl
  · intro lead
    rw [sameId, changed]

theorem updateLeadStatusWithHistory_record (input : UpdateLeadStatusInput)
    (now : Timestamp) (entry : AuditLog) (reports : reportsStatus entry) :
    Leaves (updateLeadStatusWithHistory tables input now) fun written =>
      statusRecord (insertAuditLog written entry) =
        (statusRecord tables).moved statusReading
          { leadId := input.id
            previousStatus := some input.previousStatus
            newStatus := input.newStatus
            changedByUserId := input.changedByUserId
            createdAt := now }
          entry := by
  apply leaves_bind
  intro _ _
  apply leaves_ok
  rw [statusRecord_insert reports]
  have standings :=
    @standings_updateBy tables input.id (withStatus input.newStatus now)
      input.newStatus (fun _ => rfl) (fun _ => rfl)
  simp only [statusRecord, standings, Record.moved, statusReading]

theorem convertLeadWithHistory_record (id clientId changedByUserId : Uuid)
    (now : Timestamp) :
    Leaves (convertLeadWithHistory tables id clientId changedByUserId now)
      fun written =>
        ∀ audited entry,
          statusRecord audited = statusRecord written →
            reportsStatus entry →
              statusRecord (insertAuditLog audited entry) =
                (statusRecord tables).moved statusReading
                  { leadId := id
                    previousStatus := some .qualified
                    newStatus := .convertedToClient
                    changedByUserId := changedByUserId
                    createdAt := now }
                  entry := by
  apply leaves_bind
  intro _ _
  apply leaves_ok
  intro audited entry same reports
  rw [statusRecord_insert reports, same]
  have standings :=
    @standings_updateBy tables id (converted clientId now)
      .convertedToClient (fun _ => rfl) (fun _ => rfl)
  simp only [statusRecord, standings, Record.moved, statusReading]

end Writes

/-! ## Transactions -/

section Transactions

variable {platform : StringPlatform} {context : RequestContext}
  {leadActor : LeadActor} {tables : Tables}

theorem standing_of_found {id : Uuid} {found : Lead}
    (isFound : findLeadById tables id = some found) :
    Standing.mk id found.status ∈ (statusRecord tables).standings := by
  have sameId : found.id = id := key_of_findBy isFound
  rw [← sameId]
  exact List.mem_map_of_mem (mem_of_findBy isFound)

theorem fresh_of_notFound {id : Uuid}
    (notFound : (findLeadById tables id).isNone) :
    id ∉ (statusRecord tables).standings.map Standing.key := by
  have absent := findBy_eq_none_iff.mp (Option.isNone_iff_eq_none.mp notFound)
  intro member
  obtain ⟨standing, listed, rfl⟩ := List.mem_map.mp member
  obtain ⟨lead, leadMember, rfl⟩ := List.mem_map.mp listed
  exact absent lead leadMember rfl

theorem createLeadWithInitialHistory_records {input : CreateLeadInput}
    {created : Lead} {written : Tables} {entry : AuditLog}
    (creates :
      createLeadWithInitialHistory tables input = .ok (created, written))
    (about : reportsStatus entry)
    (reports :
      ReportsStatus
        ⟨input.id, none, .new, input.changedByUserId, input.createdAt⟩
        entry) :
    RecordsStatus tables (insertAuditLog written entry) := by
  obtain ⟨_, isFresh, returned⟩ := bind_eq_ok.mp creates
  have fresh := fresh_of_notFound (require_eq_ok.mp isFresh)
  cases returned
  have opened :
      statusRecord
          (insertAuditLog
            { tables with
              leads := tables.leads ++ [input.row]
              statusHistory :=
                tables.statusHistory ++
                  [⟨input.id, none, .new, input.changedByUserId,
                    input.createdAt⟩] }
            entry) =
        (statusRecord tables).opened statusReading
          ⟨input.id, none, .new, input.changedByUserId, input.createdAt⟩
          entry := by
    rw [statusRecord_insert about]
    simp only [statusRecord, List.map_append, List.map_cons, List.map_nil,
      Record.opened, statusReading]
    rfl
  unfold RecordsStatus
  rw [opened]
  exact .opened _ entry fresh rfl reports

theorem created_eq_row {input : CreateLeadInput} {created : Lead}
    {written : Tables}
    (creates :
      createLeadWithInitialHistory tables input = .ok (created, written)) :
    created = input.row := by
  obtain ⟨_, -, returned⟩ := bind_eq_ok.mp creates
  cases returned
  rfl

theorem createLeadTransaction_records (input : CreateLeadRequest) :
    Leaves (createLeadTransaction platform context leadActor input tables)
      (RecordsStatus tables) := by
  apply leaves_bind
  intro result creates
  obtain ⟨created, written⟩ := result
  have isRow := created_eq_row creates
  have opened :=
    fun entry =>
      @createLeadWithInitialHistory_records tables _ created written entry
        creates
  dsimp only
  split
  · apply leaves_ok
    apply opened
    · rfl
    · rw [isRow]
      exact .created _ _ _ _ _ _
  · refine leaves_seq (createAssignment_record _) ?_
    intro assignment assigned same
    apply leaves_ok
    unfold RecordsStatus
    rw [statusRecord_insert_other rfl, same]
    apply opened
    · rfl
    · rw [isRow]
      exact .created _ _ _ _ _ _

theorem writeLeadUpdateTransaction_records (prepared : PreparedUpdate) :
    Leaves (writeLeadUpdateTransaction context prepared tables)
      (RecordsStatus tables) := by
  apply leaves_bind
  intro _ _
  refine leaves_seq (updateLeadFields_record _ _ _) ?_
  intro updated written same
  apply leaves_ok
  apply recordsStatus_of_same
  rw [statusRecord_insert_other rfl, same]

theorem updateLeadStatusTransaction_records (id : Uuid)
    (input : UpdateLeadStatusRequest) :
    Leaves (updateLeadStatusTransaction context leadActor id input tables)
      (RecordsStatus tables) := by
  apply leaves_bind
  intro _ _
  apply leaves_bind
  intro found finds
  have isFound := demand_eq_ok.mp finds
  dsimp only
  split
  · exact leaves_ok (recordsStatus_of_same rfl)
  · apply leaves_bind
    intro _ _
    apply leaves_bind
    intro _ notDeferred
    apply leaves_bind
    intro _ notRejected
    apply leaves_bind
    intro _ explains
    rw [require_eq_ok] at notDeferred notRejected explains
    have allowed :
        getTransitionOutcome found.status input.newStatus = .allowed := by
      cases outcome : getTransitionOutcome found.status input.newStatus with
      | allowed => rfl
      | rejected => exact absurd outcome notRejected
      | deferredToConversionEndpoint => exact absurd outcome notDeferred
    have explained :
        isReasonRequired found.status input.newStatus →
          input.reason.isSome := by
      intro isRequired
      by_contra missing
      exact explains ⟨isRequired, by simpa using missing⟩
    apply leaves_bind
    intro updated writes
    apply leaves_ok
    have newStatus : updated.1.status = input.newStatus := by
      obtain ⟨_, -, returned⟩ := bind_eq_ok.mp writes
      cases returned
      rfl
    unfold RecordsStatus
    rw [updateLeadStatusWithHistory_record _ _ _ rfl _ _ writes]
    apply Recorded.moved _ _ found.status
    · exact standing_of_found isFound
    · rfl
    · rw [newStatus]
      exact .changed _ _ _ _ _ _ allowed explained

theorem chooseClient_record (found : Lead) (input : ConvertLeadRequest) :
    Leaves (chooseClient context found input tables) fun written =>
      statusRecord written = statusRecord tables := by
  unfold chooseClient
  dsimp only
  split
  · apply leaves_bind
    intro _ _
    refine leaves_seq (createClientFromLead_record _) ?_
    intro client written same
    exact leaves_ok same
  · apply leaves_bind
    intro linked _
    exact leaves_ok rfl

theorem inheritAssignment_record (active : Option StaffAssignment)
    (client : ClientSummary) (clientCreated : Bool) {inherited : Tables}
    (inherits :
      inheritAssignment context leadActor active client clientCreated
          tables =
        .ok inherited) :
    statusRecord inherited = statusRecord tables := by
  unfold inheritAssignment at inherits
  split at inherits
  · obtain ⟨⟨assignment, assigned⟩, assigns, returned⟩ :=
      bind_eq_ok.mp inherits
    have same := createAssignment_record _ _ _ assigns
    cases returned
    rw [statusRecord_insert_other rfl, same]
  · cases inherits
    rfl

theorem convertLeadTransaction_records (id : Uuid)
    (input : ConvertLeadRequest) :
    Leaves (convertLeadTransaction context leadActor id input tables)
      (RecordsStatus tables) := by
  apply leaves_bind
  intro found finds
  have isFound := demand_eq_ok.mp finds
  iterate 2
    apply leaves_bind
    intro _ _
  dsimp only
  split
  · apply leaves_bind
    intro replay _
    exact leaves_ok (recordsStatus_of_same rfl)
  · apply leaves_bind
    intro _ qualifies
    have qualified := require_eq_ok.mp qualifies
    refine leaves_seq (chooseClient_record found input) ?_
    intro chosen withClient sameChosen
    apply leaves_bind
    intro inherited inherits
    have sameInherited := inheritAssignment_record _ _ _ inherits
    refine leaves_seq (convertLeadWithHistory_record _ _ _ _) ?_
    intro updatedLead written moves
    apply leaves_ok
    -- The entry of a created client reports no status.
    have audited :
        statusRecord
            (if chosen.2 then
              insertAuditLog written
                { actorId := leadActor.id
                  action := .clientCreated
                  entityType := .client
                  entityId := chosen.1.id
                  beforeState := none
                  afterState :=
                    some
                      (.clientCreated id found.email.isSome
                        found.phone.isSome) }
            else
              written) =
          statusRecord written := by
      split
      · exact statusRecord_insert_other rfl
      · rfl
    unfold RecordsStatus
    rw [moves _ _ audited rfl, sameInherited, sameChosen]
    apply Recorded.moved _ _ .qualified
    · rw [← qualified]
      exact standing_of_found isFound
    · rfl
    · exact .converted _ _ _ _ _

theorem serve_records {α : Type} {conflict : TxError}
    {body : Tables → Except TxError (α × Tables)}
    (leaves : Leaves (body tables) (RecordsStatus tables)) :
    RecordsStatus tables (serve conflict body tables).2 := by
  rcases serve_tables_cases conflict body tables with
    kept | ⟨value, succeeds⟩
  · rw [kept]
    exact recordsStatus_of_same rfl
  · exact leaves value _ succeeds

end Transactions

end Heritage.Leads
