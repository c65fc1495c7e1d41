import Heritage.Assignments.System
import Heritage.Leads.Commits
import Heritage.Store.Trail

/-!
# The audit entries of leads, clients and assignments

Every transaction of these features writes nothing, or writes and adds entries
that name its actor.  The lemmas follow the bodies: a write of the repository
leaves the log alone, and each body that wrote ends by adding an entry.
-/

namespace Heritage

open Heritage.Store

namespace Leads

open Repository

section Writes

variable {tables : Tables}

theorem createLeadWithInitialHistory_leaves (input : CreateLeadInput) :
    Leaves (createLeadWithInitialHistory tables input) fun written =>
      written.auditLogs = tables.auditLogs :=
  leaves_bind fun _ _ => leaves_ok rfl

theorem createAssignment_leaves (row : StaffAssignment) :
    Leaves (createAssignment tables row) fun written =>
      written.auditLogs = tables.auditLogs := by
  unfold createAssignment
  split
  · exact leaves_error _
  · exact leaves_ok rfl

theorem updateLeadFields_leaves (id : Uuid) (data : UpdateLeadFieldsInput)
    (now : Timestamp) :
    Leaves (updateLeadFields tables id data now) fun written =>
      written.auditLogs = tables.auditLogs :=
  leaves_bind fun _ _ => leaves_ok rfl

theorem updateLeadStatusWithHistory_leaves (input : UpdateLeadStatusInput)
    (now : Timestamp) :
    Leaves (updateLeadStatusWithHistory tables input now) fun written =>
      written.auditLogs = tables.auditLogs :=
  leaves_bind fun _ _ => leaves_ok rfl

theorem convertLeadWithHistory_leaves (id clientId changedByUserId : Uuid)
    (now : Timestamp) :
    Leaves (convertLeadWithHistory tables id clientId changedByUserId now)
      fun written => written.auditLogs = tables.auditLogs :=
  leaves_bind fun _ _ => leaves_ok rfl

theorem createClientFromLead_leaves (row : Client) :
    Leaves (createClientFromLead tables row) fun written =>
      written.auditLogs = tables.auditLogs :=
  leaves_bind fun _ _ => leaves_ok rfl

end Writes

/-- The change is documented by entries of one user. -/
def DocumentedBy (actorId : Uuid) : Tables → Tables → Prop :=
  Documented Tables.auditLogs fun entry => entry.actorId = actorId

section Transactions

variable {platform : StringPlatform} {context : RequestContext}
  {leadActor : LeadActor} {tables : Tables}

theorem createLeadTransaction_documented (input : CreateLeadRequest) :
    Leaves (createLeadTransaction platform context leadActor input tables)
      (DocumentedBy leadActor.id tables) := by
  refine leaves_seq (createLeadWithInitialHistory_leaves _) ?_
  intro created written same
  have audited :
      DocumentedBy leadActor.id tables
        (insertAuditLog written
          { actorId := leadActor.id
            action := .leadCreated
            entityType := .lead
            entityId := created.id
            beforeState := none
            afterState :=
              some <|
                .leadCreated created.id created.status.text created.source
                  created.email.isSome created.phone.isSome }) :=
    documented_insert (continues_of_eq same) rfl rfl
  dsimp only
  split
  · exact leaves_ok audited
  · refine leaves_seq (createAssignment_leaves _) ?_
    intro assignment assigned beside
    apply leaves_ok
    exact
      documented_insert (continues_beside audited.continued beside) rfl rfl

theorem writeLeadUpdateTransaction_documented (prepared : PreparedUpdate) :
    Leaves (writeLeadUpdateTransaction context prepared tables)
      (DocumentedBy prepared.leadActor.id tables) := by
  apply leaves_bind
  intro _ _
  refine leaves_seq (updateLeadFields_leaves _ _ _) ?_
  intro updated written same
  exact leaves_ok (documented_insert (continues_of_eq same) rfl rfl)

theorem updateLeadStatusTransaction_documented (id : Uuid)
    (input : UpdateLeadStatusRequest) :
    Leaves (updateLeadStatusTransaction context leadActor id input tables)
      (DocumentedBy leadActor.id tables) := by
  apply leaves_bind
  intro _ _
  apply leaves_bind
  intro found _
  dsimp only
  split
  · exact leaves_ok documented_refl
  · iterate 4
      apply leaves_bind
      intro _ _
    refine leaves_seq (updateLeadStatusWithHistory_leaves _ _) ?_
    intro updated written same
    exact leaves_ok (documented_insert (continues_of_eq same) rfl rfl)

theorem chooseClient_leaves (found : Lead) (input : ConvertLeadRequest) :
    Leaves (chooseClient context found input tables) fun written =>
      written.auditLogs = tables.auditLogs := by
  unfold chooseClient
  dsimp only
  split
  · apply leaves_bind
    intro _ _
    refine leaves_seq (createClientFromLead_leaves _) ?_
    intro client written same
    exact leaves_ok same
  · apply leaves_bind
    intro linked _
    exact leaves_ok rfl

theorem inheritAssignment_continues (active : Option StaffAssignment)
    (client : ClientSummary) (clientCreated : Bool) {inherited : Tables}
    (inherits :
      inheritAssignment context leadActor active client clientCreated
          tables =
        .ok inherited) :
    Continues Tables.auditLogs (fun entry => entry.actorId = leadActor.id)
      tables inherited := by
  unfold inheritAssignment at inherits
  split at inherits
  · obtain ⟨⟨assignment, assigned⟩, assigns, returned⟩ :=
      bind_eq_ok.mp inherits
    have beside := createAssignment_leaves _ _ _ assigns
    cases returned
    exact continues_insert (continues_of_eq beside) rfl rfl
  · cases inherits
    exact continues_of_eq rfl

theorem convertLeadTransaction_documented (id : Uuid)
    (input : ConvertLeadRequest) :
    Leaves (convertLeadTransaction context leadActor id input tables)
      (DocumentedBy leadActor.id tables) := by
  apply leaves_bind
  intro found _
  iterate 2
    apply leaves_bind
    intro _ _
  dsimp only
  split
  · apply leaves_bind
    intro replay _
    exact leaves_ok documented_refl
  · apply leaves_bind
    intro _ _
    refine leaves_seq (chooseClient_leaves found input) ?_
    intro chosen withClient chosenLog
    apply leaves_bind
    intro inherited inherits
    refine leaves_seq (convertLeadWithHistory_leaves _ _ _ _) ?_
    intro updatedLead written beside
    have earlier :
        Continues Tables.auditLogs (fun entry => entry.actorId = leadActor.id)
          tables written :=
      continues_beside
        (continues_trans (continues_of_eq chosenLog)
          (inheritAssignment_continues _ _ _ inherits))
        beside
    apply leaves_ok
    -- A created client has an entry of its own before that of the conversion.
    split
    · exact documented_insert (continues_insert earlier rfl rfl) rfl rfl
    · exact documented_insert earlier rfl rfl

theorem serve_documented {α : Type} {conflict : TxError} {actorId : Uuid}
    {body : Tables → Except TxError (α × Tables)}
    (leaves : Leaves (body tables) (DocumentedBy actorId tables)) :
    DocumentedBy actorId tables (serve conflict body tables).2 := by
  rcases serve_tables_cases conflict body tables with
    kept | ⟨value, succeeds⟩
  · rw [kept]
    exact documented_refl
  · exact leaves value _ succeeds

end Transactions

end Leads

namespace Clients

open Repository
open Leads (AuditLog DocumentedBy)

/-- The audit entries beside the clients. -/
def auditLogs (database : Database) : List AuditLog :=
  database.tables.auditLogs

/-- The actor whose checks a waiting call has passed. -/
def Waiting.actorId : Waiting → Uuid
  | .createLead leadActor _ _ => leadActor.id
  | .updateLead prepared => prepared.leadActor.id
  | .updateLeadStatus leadActor _ _ => leadActor.id
  | .convertLead leadActor _ _ => leadActor.id
  | .updateClient _ clientActor _ _ => clientActor.id

variable {platform : StringPlatform} {context : RequestContext}
  {database : Database}

theorem writeChanges_documented {clientActor : ClientActor} {id : Uuid}
    {expectedUpdatedAt : Timestamp} {data : UpdateClientFieldsInput}
    {hasEmail hasPhone : Bool} :
    Leaves
      (writeChanges context clientActor id expectedUpdatedAt data hasEmail
        hasPhone database)
      (Documented auditLogs (fun entry => entry.actorId = clientActor.id)
        database) := by
  have same :
      auditLogs
          (updateClientFieldsIfUnstale database id expectedUpdatedAt data
            context.now).2 =
        auditLogs database := by
    unfold updateClientFieldsIfUnstale
    split <;> rfl
  apply leaves_bind
  intro _ _
  apply leaves_bind
  intro updatedDetail _
  exact leaves_ok (documented_insert (continues_of_eq same) rfl rfl)

theorem updateClientTransaction_documented (actor : AuthenticatedUser)
    (clientActor : ClientActor) (id : Uuid) (input : UpdateClientRequest) :
    Leaves
      (updateClientTransaction platform context actor clientActor id input
        database)
      (Documented auditLogs (fun entry => entry.actorId = clientActor.id)
        database) := by
  iterate 4
    apply leaves_bind
    intro _ _
  dsimp only
  split
  · apply leaves_bind
    intro _ _
    exact leaves_ok documented_refl
  · refine leaves_seq writeChanges_documented ?_
    intro detail written documented
    exact leaves_ok documented

/-- A lead operation on the whole database: no detail is added unless a client
is. -/
theorem onTables_documented {α : Type} {effect : Leads.Effect α}
    {now : Timestamp} {actorId : Uuid}
    (documented :
      DocumentedBy actorId database.tables (effect database.tables).2) :
    Documented auditLogs (fun entry => entry.actorId = actorId) database
      (onTables effect now database).2 where
  continued := documented.continued
  silent := by
    intro same
    have sameTables := documented.silent same
    simp only [onTables, sameTables, List.drop_length, List.map_nil,
      List.append_nil]

/-- A waiting call accounts for what it writes in the name of its actor. -/
theorem attempt_documented (waiting : Waiting) :
    Documented auditLogs (fun entry => entry.actorId = waiting.actorId)
      database (attempt platform context database waiting).2 := by
  cases waiting with
  | createLead leadActor input duplicates =>
      exact
        onTables_documented
          (transact_leaves documented_refl
            (Leads.createLeadTransaction_documented input))
  | updateLead prepared =>
      exact
        onTables_documented
          (Leads.serve_documented
            (Leads.writeLeadUpdateTransaction_documented prepared))
  | updateLeadStatus leadActor id input =>
      exact
        onTables_documented
          (Leads.serve_documented
            (Leads.updateLeadStatusTransaction_documented id input))
  | convertLead leadActor id input =>
      exact
        onTables_documented
          (Leads.serve_documented
            (Leads.convertLeadTransaction_documented id input))
  | updateClient actor clientActor id input =>
      exact
        transact_leaves documented_refl
          (updateClientTransaction_documented actor clientActor id input)

end Clients

namespace Assignments

variable {platform : StringPlatform} {context : RequestContext}
  {actorId : Uuid} {tables : Tables}

theorem createAssignment_leaves (row : StaffAssignment) :
    Leaves (createAssignment tables row) fun written =>
      written.auditLogs = tables.auditLogs := by
  unfold createAssignment
  split
  · exact leaves_error _
  · exact leaves_ok rfl

theorem endAssignmentById_leaves (id : Uuid) (now : Timestamp) :
    Leaves (endAssignmentById tables id now) fun written =>
      written.auditLogs = tables.auditLogs :=
  leaves_bind fun _ _ => leaves_ok rfl

theorem auditLogs_of_endReplaced {now : Timestamp}
    {active : Option StaffAssignment} {released : Tables}
    (ends : endReplaced tables now active = .ok released) :
    released.auditLogs = tables.auditLogs := by
  cases active with
  | none =>
      cases ends
      rfl
  | some assignment =>
      obtain ⟨ended, endsRow, returned⟩ := bind_eq_ok.mp ends
      cases returned
      exact endAssignmentById_leaves _ _ _ _ endsRow

/-- The change is documented by entries of one user. -/
def DocumentedBy (actorId : Uuid) : Tables → Tables → Prop :=
  Documented Tables.auditLogs fun entry => entry.actorId = actorId

theorem setAssignmentTransaction_documented (kind : TargetKind)
    (targetId assignedStaffId : Uuid) (reason : Option String) :
    Leaves
      (setAssignmentTransaction context kind actorId targetId
        assignedStaffId reason tables)
      (DocumentedBy actorId tables) := by
  apply leaves_bind
  intro _ _
  dsimp only
  split
  · exact leaves_ok documented_refl
  · iterate 2
      apply leaves_bind
      intro _ _
    apply leaves_bind
    intro released ends
    refine leaves_seq (createAssignment_leaves _) ?_
    intro created assigned same
    have unlogged : assigned.auditLogs = tables.auditLogs :=
      same.trans (auditLogs_of_endReplaced ends)
    exact leaves_ok (documented_insert (continues_of_eq unlogged) rfl rfl)

theorem endAssignmentTransaction_documented (kind : TargetKind)
    (targetId : Uuid) (reason : String) :
    Leaves
      (endAssignmentTransaction context kind actorId targetId reason tables)
      (DocumentedBy actorId tables) := by
  apply leaves_bind
  intro _ _
  dsimp only
  split
  · exact leaves_ok documented_refl
  · refine leaves_seq (endAssignmentById_leaves _ _) ?_
    intro ended released same
    exact leaves_ok (documented_insert (continues_of_eq same) rfl rfl)

theorem setBookingFinanceAssignmentTransaction_documented
    (bookingId assignedStaffId : Uuid) (reason : Option String) :
    Leaves
      (setBookingFinanceAssignmentTransaction platform context actorId
        bookingId assignedStaffId reason tables)
      (DocumentedBy actorId tables) := by
  apply leaves_bind
  intro _ _
  dsimp only
  split
  · exact leaves_ok documented_refl
  · iterate 2
      apply leaves_bind
      intro _ _
    apply leaves_bind
    intro released ends
    refine leaves_seq (createAssignment_leaves _) ?_
    intro created assigned same
    have unlogged : assigned.auditLogs = tables.auditLogs :=
      same.trans (auditLogs_of_endReplaced ends)
    exact leaves_ok (documented_insert (continues_of_eq unlogged) rfl rfl)

theorem endBookingFinanceAssignmentTransaction_documented (bookingId : Uuid)
    (endReason : String) :
    Leaves
      (endBookingFinanceAssignmentTransaction context actorId bookingId
        endReason tables)
      (DocumentedBy actorId tables) := by
  apply leaves_bind
  intro _ _
  dsimp only
  split
  · exact leaves_ok documented_refl
  · refine leaves_seq (endAssignmentById_leaves _ _) ?_
    intro ended released same
    exact leaves_ok (documented_insert (continues_of_eq same) rfl rfl)

theorem transaction_documented (operation : Operation) :
    Leaves (transaction platform context actorId operation tables)
      (DocumentedBy actorId tables) := by
  cases operation with
  | setLeadAssignment leadId assignedStaffId reason =>
      exact
        leaves_map (fun _ => rfl)
          (setAssignmentTransaction_documented .lead _ _ _)
  | endLeadAssignment leadId reason =>
      exact endAssignmentTransaction_documented .lead _ _
  | setClientAssignment clientId assignedStaffId reason =>
      exact
        leaves_map (fun _ => rfl)
          (setAssignmentTransaction_documented .client _ _ _)
  | endClientAssignment clientId reason =>
      exact endAssignmentTransaction_documented .client _ _
  | setBookingAssignment bookingId assignedStaffId reason =>
      exact
        leaves_map (fun _ => rfl)
          (setAssignmentTransaction_documented .booking _ _ _)
  | setBookingFinanceAssignment bookingId assignedStaffId reason =>
      exact
        leaves_map (fun _ => rfl)
          (setBookingFinanceAssignmentTransaction_documented _ _ _)
  | endBookingFinanceAssignment bookingId reason =>
      exact
        leaves_bind fun _ _ =>
          endBookingFinanceAssignmentTransaction_documented _ _

/-- An operation on the assignments accounts for what it writes. -/
theorem perform_documented (actor : AuthenticatedUser)
    (operation : Operation) :
    DocumentedBy actor.id tables
      (perform platform context actor operation tables).2 := by
  unfold perform
  cases assertAssignmentMutationActor actor with
  | error failure =>
      exact documented_refl
  | ok _ =>
      have served :
          (runAssignmentTransaction
              (transaction platform context actor.id operation) tables).2 =
            (transact (transaction platform context actor.id operation)
              tables).2 := by
        unfold runAssignmentTransaction
        cases transact (transaction platform context actor.id operation)
          tables with
        | mk outcome stored =>
            cases outcome <;> rfl
      dsimp only
      rw [served]
      exact transact_leaves documented_refl (transaction_documented operation)

end Assignments

end Heritage
