import Heritage.Clients.Commits
import Heritage.Leads.Life
import Heritage.Office.Access

/-!
# The lives of the leads

Whatever is requested in whatever order, the status history of a lead leads
without a gap from nothing to its present status, along transitions that a
lead may make, and the audit reports it row by row.
-/

namespace Heritage.Office

open Heritage.Store
open Heritage.Leads (Lead LeadStatus LeadStatusHistory AuditLog statusRecord
  statusReading RecordsStatus recordsStatus_of_same reportsStatus
  ReportsStatus)

section Attempts

variable {strings : StringPlatform} {context : RequestContext}
  {database : Clients.Repository.Database}

theorem updateClient_records {actor : AuthenticatedUser}
    {clientActor : Clients.Repository.ClientActor} {id : Uuid}
    {input : Clients.UpdateClientRequest} :
    Leaves
      (Clients.updateClientTransaction strings context actor clientActor id
        input database)
      fun stored => RecordsStatus database.tables stored.tables := by
  intro result stored succeeds
  apply recordsStatus_of_same
  obtain ⟨existing, -, -, -, unchanged | changed⟩ :=
    Clients.updateClientTransaction_eq_ok succeeds
  · rw [unchanged.2]
  · rw [changed.2]
    exact Leads.statusRecord_insert_other rfl

theorem attempt_records (waiting : Clients.Waiting) :
    RecordsStatus database.tables
      (Clients.attempt strings context database waiting).2.tables := by
  have silent : RecordsStatus database.tables database.tables :=
    recordsStatus_of_same rfl
  cases waiting with
  | createLead leadActor input duplicates =>
      exact
        transact_leaves silent (Leads.createLeadTransaction_records input)
  | updateLead prepared =>
      exact
        Leads.serve_records
          (Leads.writeLeadUpdateTransaction_records prepared)
  | updateLeadStatus leadActor id input =>
      exact
        Leads.serve_records (Leads.updateLeadStatusTransaction_records id input)
  | convertLead leadActor id input =>
      exact Leads.serve_records (Leads.convertLeadTransaction_records id input)
  | updateClient actor clientActor id input =>
      exact
        @transact_leaves _ _ _
          (fun stored : Clients.Repository.Database =>
            RecordsStatus database.tables stored.tables)
          _ database silent updateClient_records

end Attempts

variable {platform : Invitations.Platform}

/-- The statuses of the leads and what is recorded about these. -/
def leadRecord (database : Database) :
    Record Uuid LeadStatus LeadStatusHistory AuditLog :=
  statusRecord database.desk.clients.tables

theorem act_records (state : State) (request : Request)
    (sound : Assignments.Sound state.database.desk.clients.tables) :
    Recorded statusReading (leadRecord state.database)
      (leadRecord (act platform state request).database) := by
  cases request with
  | attempt context rawToken index =>
      unfold act
      dsimp only
      cases state.waiting[index]? with
      | none =>
          exact .kept
      | some waiting =>
          dsimp only
          cases waiting.call with
          | clients call =>
              exact attempt_records call
          | _ =>
              exact .kept
  | assign context actor operation =>
      rcases
        @Assignments.perform_after platform.strings context
          state.database.desk actor operation sound.toExclusively with
        unchanged | ⟨-, rows, auditLogs, -, wrote⟩
      · simp only [act, leadRecord, unchanged]
        exact .kept
      · simp only [act, leadRecord, wrote]
        exact .kept
  | _ =>
      exact .kept

theorem databaseAfter_leadRecord (requests : List Request) :
    (leadRecord (databaseAfter platform requests)).Coherent
      statusReading := by
  induction requests using List.reverseRecOn with
  | nil =>
      exact coherent_empty
  | append_singleton earlier request inductionHypothesis =>
      have recorded :=
        @act_records platform (stateAfter platform earlier) request
          (databaseAfter_sound platform earlier)
      have coherent := recorded.coherent inductionHypothesis
      unfold databaseAfter stateAfter
      rw [run_append, run_cons, run_nil]
      exact coherent

/-- The rows of a lead in the status history, oldest first. -/
def statusHistoryOf (tables : Leads.Tables) (leadId : Uuid) :
    List LeadStatusHistory :=
  tables.statusHistory.filter fun row => row.leadId = leadId

/-- The audit entries about the status of a lead, oldest first. -/
def statusEntriesOf (tables : Leads.Tables) (leadId : Uuid) :
    List AuditLog :=
  (tables.auditLogs.filter reportsStatus).filter fun entry =>
    entry.entityId = leadId

/-- The history leads from nothing to the present status, the audit reports it
row by row, and a conversion is its end. -/
structure LeadLife (tables : Leads.Tables) (lead : Lead) : Prop where
  chained :
    Chained LeadStatusHistory.previousStatus
      (some ∘ LeadStatusHistory.newStatus) none
      (statusHistoryOf tables lead.id) (some lead.status)
  reported :
    List.Forall₂ ReportsStatus (statusHistoryOf tables lead.id)
      (statusEntriesOf tables lead.id)
  ended :
    ∀ row ∈ statusHistoryOf tables lead.id,
      row.newStatus = .convertedToClient →
        lead.status = .convertedToClient

theorem ne_converted_of_reports {row : LeadStatusHistory} {entry : AuditLog}
    (reports : ReportsStatus row entry) :
    row.previousStatus ≠ some .convertedToClient := by
  cases reports with
  | created leadId actorId now source hasEmail hasPhone =>
      simp
  | changed leadId actorId now previous next reason allowed explained =>
      intro leaves
      exact
        (Leads.converted_of_allowed allowed).1 (Option.some.inj leaves)
  | converted leadId actorId now clientId clientCreated =>
      simp

theorem exists_entry_of_reported {rows : List LeadStatusHistory}
    {entries : List AuditLog}
    (reported : List.Forall₂ ReportsStatus rows entries)
    {row : LeadStatusHistory} (member : row ∈ rows) :
    ∃ entry, ReportsStatus row entry := by
  induction reported with
  | nil =>
      exact absurd member List.not_mem_nil
  | cons reports _ inductionHypothesis =>
      rcases List.mem_cons.mp member with rfl | inRest
      · exact ⟨_, reports⟩
      · exact inductionHypothesis inRest

/-- Whatever is requested in whatever order: every lead has such a life, and
nothing is recorded about a lead that is not there. -/
theorem lead_lives (platform : Invitations.Platform)
    (requests : List Request) :
    let tables := (databaseAfter platform requests).desk.clients.tables
    (∀ lead ∈ tables.leads, LeadLife tables lead) ∧
      (∀ row ∈ tables.statusHistory,
        ∃ lead ∈ tables.leads, lead.id = row.leadId) ∧
        ∀ entry ∈ tables.auditLogs,
          reportsStatus entry →
            ∃ lead ∈ tables.leads, lead.id = entry.entityId := by
  intro tables
  have coherent : (statusRecord tables).Coherent statusReading :=
    databaseAfter_leadRecord requests
  have isLead :
      ∀ {id : Uuid},
        id ∈ (statusRecord tables).standings.map Standing.key →
          ∃ lead ∈ tables.leads, lead.id = id := by
    intro id member
    obtain ⟨standing, listed, rfl⟩ := List.mem_map.mp member
    obtain ⟨lead, leadMember, rfl⟩ := List.mem_map.mp listed
    exact ⟨lead, leadMember, rfl⟩
  refine ⟨?_, ?_, ?_⟩
  · intro lead member
    have life :=
      coherent.lives ⟨lead.id, lead.status⟩ (List.mem_map_of_mem member)
    refine ⟨life.chained, life.reported, ?_⟩
    intro row listed converts
    have ends :=
      eq_of_chained_absorbing life.chained
        (fun other otherListed => by
          obtain ⟨entry, reports⟩ :=
            exists_entry_of_reported life.reported otherListed
          exact ne_converted_of_reports reports)
        listed (congrArg some converts)
    exact Option.some.inj ends
  · intro row member
    exact isLead (coherent.knownRows row member)
  · intro entry member reports
    exact
      isLead
        (coherent.knownEntries entry (List.mem_filter.mpr ⟨member, reports⟩))

end Heritage.Office
