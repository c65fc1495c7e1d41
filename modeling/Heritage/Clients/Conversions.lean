import Heritage.Clients.Edits

/-!
# Conversions of leads

What the tables say of one lead is its row, its status history and its
conversion entries in the audit log.  The three agree in every reachable
state, and a conversion that is repeated reads its answer back from them.
-/

namespace Heritage.Clients

open Heritage.Store
open Heritage.Leads (Tables Lead LeadStatus LeadStatusHistory AuditLog
  ConvertLeadRequest ConvertLeadResult getTransitionOutcome)
open Heritage.Leads.Repository
open Repository (findClientById)

def historyOf (statusHistory : List LeadStatusHistory) (leadId : Uuid) :
    List LeadStatusHistory :=
  statusHistory.filter fun row => row.leadId = leadId

/-- The entries among which `findLeadConversionAudit` takes the latest. -/
def conversionEntries (auditLogs : List AuditLog) (leadId : Uuid) :
    List AuditLog :=
  auditLogs.filter fun entry =>
    entry.entityType = .lead ∧ entry.entityId = leadId ∧
      entry.action = .leadConvertedToClient

/-- A history that starts with the new lead, follows allowed transitions and
reaches the conversion from a qualified lead only. -/
inductive StatusPath : List LeadStatusHistory → LeadStatus → Prop where
  | created (row : LeadStatusHistory) (first : row.previousStatus = none)
      (isNew : row.newStatus = .new) : StatusPath [row] .new
  | moved {rows : List LeadStatusHistory} {current : LeadStatus}
      (path : StatusPath rows current) (row : LeadStatusHistory)
      (previous : row.previousStatus = some current)
      (allowed : getTransitionOutcome current row.newStatus = .allowed) :
      StatusPath (rows ++ [row]) row.newStatus
  | converted {rows : List LeadStatusHistory}
      (path : StatusPath rows .qualified) (row : LeadStatusHistory)
      (previous : row.previousStatus = some .qualified)
      (isConversion : row.newStatus = .convertedToClient) :
      StatusPath (rows ++ [row]) .convertedToClient

/-- The row, the history and the conversion entries of a lead, next to the
clients there are. -/
inductive CaseFile (clients : List Client) (id : Uuid) :
    Option Lead → List LeadStatusHistory → List AuditLog → Prop where
  | absent : CaseFile clients id none [] []
  | unlinked (lead : Lead) (history : List LeadStatusHistory)
      (path : StatusPath history lead.status)
      (notConverted : lead.status ≠ .convertedToClient)
      (noClient : lead.clientId = none) :
      CaseFile clients id (some lead) history []
  | linked (lead : Lead) (history : List LeadStatusHistory)
      (actorId clientId : Uuid) (clientCreated : Bool)
      (path : StatusPath history lead.status)
      (isConverted : lead.status = .convertedToClient)
      (hasClient : lead.clientId = some clientId)
      (known : (findBy Client.id clientId clients).isSome) :
      CaseFile clients id (some lead) history
        [conversionEntry actorId id clientId clientCreated]

structure Filed (tables : Tables) : Prop where
  uniqueIds : (tables.leads.map Lead.id).Nodup
  files :
    ∀ id,
      CaseFile tables.clients id (findLeadById tables id)
        (historyOf tables.statusHistory id)
        (conversionEntries tables.auditLogs id)

section Writes

variable {clients : List Client} {id : Uuid} {found : Option Lead}
  {history : List LeadStatusHistory} {conversions : List AuditLog}

theorem AddsNoConversion.conversionEntries_eq {before after : List AuditLog}
    (adds : AddsNoConversion before after) (leadId : Uuid) :
    conversionEntries after leadId = conversionEntries before leadId := by
  induction adds with
  | refl => rfl
  | insert earlier other inductionHypothesis =>
      unfold conversionEntries at inductionHypothesis ⊢
      rw [List.filter_append, inductionHypothesis]
      simp [other]

theorem historyOf_concat_self (rows : List LeadStatusHistory)
    (row : LeadStatusHistory) :
    historyOf (rows ++ [row]) row.leadId =
      historyOf rows row.leadId ++ [row] := by
  simp [historyOf, List.filter_append]

theorem historyOf_concat_other (rows : List LeadStatusHistory)
    {row : LeadStatusHistory} (different : row.leadId ≠ id) :
    historyOf (rows ++ [row]) id = historyOf rows id := by
  simp [historyOf, List.filter_append, different]

theorem conversionEntries_concat_self (auditLogs : List AuditLog)
    (actorId leadId clientId : Uuid) (clientCreated : Bool) :
    conversionEntries
        (auditLogs ++ [conversionEntry actorId leadId clientId clientCreated])
        leadId =
      conversionEntries auditLogs leadId ++
        [conversionEntry actorId leadId clientId clientCreated] := by
  simp [conversionEntries, conversionEntry, List.filter_append]

theorem conversionEntries_concat_other (auditLogs : List AuditLog)
    (actorId clientId : Uuid) {leadId : Uuid} (clientCreated : Bool)
    (different : leadId ≠ id) :
    conversionEntries
        (auditLogs ++ [conversionEntry actorId leadId clientId clientCreated])
        id =
      conversionEntries auditLogs id := by
  simp [conversionEntries, conversionEntry, List.filter_append, different]

/-- A change that keeps the status and the client keeps the file. -/
theorem CaseFile.map {change : Lead → Lead}
    (sameStatus : ∀ lead, (change lead).status = lead.status)
    (sameClient : ∀ lead, (change lead).clientId = lead.clientId)
    (file : CaseFile clients id found history conversions) :
    CaseFile clients id (found.map change) history conversions := by
  cases file with
  | absent =>
      exact .absent
  | unlinked lead history path notConverted noClient =>
      refine .unlinked (change lead) history ?_ ?_ ?_
      · rw [sameStatus]
        exact path
      · rw [sameStatus]
        exact notConverted
      · rw [sameClient]
        exact noClient
  | linked lead history actorId clientId clientCreated path isConverted
      hasClient known =>
      refine
        .linked (change lead) history actorId clientId clientCreated ?_ ?_ ?_
          known
      · rw [sameStatus]
        exact path
      · rw [sameStatus]
        exact isConverted
      · rw [sameClient]
        exact hasClient

/-- A file stays right while the clients stay. -/
theorem CaseFile.clients_kept {later : List Client}
    (kept :
      ∀ clientId,
        (findBy Client.id clientId clients).isSome →
          (findBy Client.id clientId later).isSome)
    (file : CaseFile clients id found history conversions) :
    CaseFile later id found history conversions := by
  cases file with
  | absent =>
      exact .absent
  | unlinked lead history path notConverted noClient =>
      exact .unlinked lead history path notConverted noClient
  | linked lead history actorId clientId clientCreated path isConverted
      hasClient known =>
      exact
        .linked lead history actorId clientId clientCreated path isConverted
          hasClient (kept clientId known)

end Writes

/-! ## One commit -/

section Commits

variable {platform : StringPlatform} {tables after : Tables}
  {waiting : Waiting}

theorem isSome_of_chosen {lead : Lead} {requested : Option Uuid}
    {clientId : Uuid} {clientCreated : Bool} {clients : List Client}
    (chosen :
      ChosenClient tables lead requested clientId clientCreated clients) :
    (findBy Client.id clientId clients).isSome := by
  cases chosen with
  | created client =>
      exact findBy_isSome_iff.mpr ⟨client, by simp, rfl⟩
  | linked client known =>
      exact findBy_isSome_iff.mpr ⟨client, known, rfl⟩

theorem isSome_findBy_of_grew {clients later : List Client}
    (grew : clients <+: later) (clientId : Uuid)
    (known : (findBy Client.id clientId clients).isSome) :
    (findBy Client.id clientId later).isSome := by
  obtain ⟨client, found⟩ := Option.isSome_iff_exists.mp known
  rw [findBy_of_grown grew found]
  rfl

/-- The file of a lead that one update rewrites in another column. -/
theorem file_updateBy {id target : Uuid} {change : Lead → Lead}
    {clients : List Client} {history : List LeadStatusHistory}
    {conversions : List AuditLog} {leads : List Lead}
    (sameId : ∀ lead, (change lead).id = lead.id)
    (sameStatus : ∀ lead, (change lead).status = lead.status)
    (sameClient : ∀ lead, (change lead).clientId = lead.clientId)
    (file :
      CaseFile clients id (findBy Lead.id id leads) history conversions) :
    CaseFile clients id
      (findBy Lead.id id (updateBy Lead.id target change leads)) history
      conversions := by
  rw [findBy_updateBy sameId]
  apply file.map
  · intro lead
    split
    · exact sameStatus lead
    · rfl
  · intro lead
    split
    · exact sameClient lead
    · rfl

theorem filed_of_leadCreated {row : CreateLeadInput}
    {staffAssignments : List StaffAssignment} {auditLogs : List AuditLog}
    (filed : Filed tables) (fresh : findLeadById tables row.id = none)
    (audited : AddsNoConversion tables.auditLogs auditLogs) :
    Filed
      { tables with
        leads := tables.leads ++ [row.row]
        statusHistory :=
          tables.statusHistory ++
            [⟨row.id, none, .new, row.changedByUserId, row.createdAt⟩]
        staffAssignments := staffAssignments
        auditLogs := auditLogs } where
  uniqueIds := nodup_map_concat filed.uniqueIds fresh
  files := by
    intro id
    have file := filed.files id
    unfold findLeadById at file fresh ⊢
    dsimp only
    rw [audited.conversionEntries_eq]
    by_cases isNew : row.id = id
    · subst isNew
      have inserted :
          findBy Lead.id row.id (tables.leads ++ [row.row]) =
            some row.row :=
        @findBy_concat_self _ _ _ Lead.id tables.leads row.row fresh
      have history :=
        historyOf_concat_self tables.statusHistory
          ⟨row.id, none, .new, row.changedByUserId, row.createdAt⟩
      dsimp only at history
      rw [inserted, history]
      rw [fresh] at file
      generalize historyOf tables.statusHistory row.id = rows at file ⊢
      generalize conversionEntries tables.auditLogs row.id = entries
        at file ⊢
      cases file with
      | absent =>
          exact
            .unlinked row.row _ (.created _ rfl rfl)
              (by simp [CreateLeadInput.row]) rfl
    · have kept :
          findBy Lead.id id (tables.leads ++ [row.row]) =
            findBy Lead.id id tables.leads := by
        rw [findBy_append]
        simp [findBy, CreateLeadInput.row, isNew]
      rw [kept, historyOf_concat_other _ isNew]
      exact file

/-- A write that moves one lead to another status, when the file of that lead
is right afterwards. -/
theorem filed_of_statusWritten {id : Uuid} {lead : Lead}
    {change : Lead → Lead} {row : LeadStatusHistory} {clients : List Client}
    {staffAssignments : List StaffAssignment} {auditLogs : List AuditLog}
    (filed : Filed tables) (sameId : ∀ lead, (change lead).id = lead.id)
    (found : findLeadById tables id = some lead) (ofLead : row.leadId = id)
    (clientsKept :
      ∀ clientId,
        (findBy Client.id clientId tables.clients).isSome →
          (findBy Client.id clientId clients).isSome)
    (others :
      ∀ other, id ≠ other →
        conversionEntries auditLogs other =
          conversionEntries tables.auditLogs other)
    (refiled :
      CaseFile clients id (some (change lead))
        (historyOf tables.statusHistory id ++ [row])
        (conversionEntries auditLogs id)) :
    Filed
      { tables with
        leads := updateBy Lead.id id change tables.leads
        statusHistory := tables.statusHistory ++ [row]
        clients := clients
        staffAssignments := staffAssignments
        auditLogs := auditLogs } where
  uniqueIds := nodup_map_updateBy sameId filed.uniqueIds
  files := by
    intro other
    unfold findLeadById at found ⊢
    dsimp only
    by_cases isLead : id = other
    · subst isLead
      rw [findBy_updateBy_self sameId found]
      subst ofLead
      rw [historyOf_concat_self]
      exact refiled
    · have file := filed.files other
      unfold findLeadById at file
      rw [findBy_updateBy_other sameId (Ne.symm isLead), others other isLead,
        historyOf_concat_other _ (by rw [ofLead]; exact isLead)]
      exact file.clients_kept clientsKept

/-- The open file of a lead that is not converted. -/
theorem Filed.unlinked {id : Uuid} {lead : Lead} (filed : Filed tables)
    (found : findLeadById tables id = some lead)
    (notConverted : lead.status ≠ .convertedToClient) :
    StatusPath (historyOf tables.statusHistory id) lead.status ∧
      lead.clientId = none ∧
      conversionEntries tables.auditLogs id = [] := by
  have file := filed.files id
  rw [found] at file
  generalize historyOf tables.statusHistory id = history at file ⊢
  generalize conversionEntries tables.auditLogs id = entries at file ⊢
  cases file with
  | unlinked _ _ path _ noClient =>
      exact ⟨path, noClient, rfl⟩
  | linked _ _ actorId clientId clientCreated path isConverted =>
      exact absurd isConverted notConverted

theorem filed_of_commit (filed : Filed tables)
    (committed : Commit platform tables waiting after) : Filed after := by
  cases committed with
  | kept =>
      exact filed
  | leadCreated row staffAssignments auditLogs fresh normalizedEmail
      normalizedPhone audited =>
      exact filed_of_leadCreated filed fresh audited
  | leadEdited now auditLogs audited =>
      constructor
      · exact nodup_map_updateBy (fun _ => rfl) filed.uniqueIds
      · intro id
        dsimp only
        rw [audited.conversionEntries_eq]
        exact
          file_updateBy (fun _ => rfl) (fun _ => rfl) (fun _ => rfl)
            (filed.files id)
  | @leadMoved leadActor id input lead now auditLogs found allowed audited =>
      have notConverted := (Leads.converted_of_allowed allowed).1
      obtain ⟨path, noClient, noEntries⟩ := filed.unlinked found notConverted
      have sameId :
          ∀ row, (withStatus input.newStatus now row).id = row.id :=
        fun _ => rfl
      refine
        filed_of_statusWritten filed sameId found rfl (fun _ known => known)
          (fun other _ => audited.conversionEntries_eq _) ?_
      rw [audited.conversionEntries_eq, noEntries]
      exact
        .unlinked _ _ (.moved path _ rfl allowed)
          (Leads.converted_of_allowed allowed).2 noClient
  | @leadConverted leadActor id input lead clientId clientCreated clients
      staffAssignments now auditLogs found qualified chosen audited =>
      have notConverted : lead.status ≠ .convertedToClient := by
        rw [qualified]
        decide
      obtain ⟨path, -, noEntries⟩ := filed.unlinked found notConverted
      have sameId : ∀ row, (converted clientId now row).id = row.id :=
        fun _ => rfl
      refine
        filed_of_statusWritten filed sameId found rfl
          (isSome_findBy_of_grew (clients_grew_of_chosen chosen)) ?_ ?_
      · intro other different
        rw [conversionEntries_concat_other _ _ _ _ different,
          audited.conversionEntries_eq]
      · rw [conversionEntries_concat_self, audited.conversionEntries_eq,
          noEntries]
        rw [qualified] at path
        exact
          .linked _ _ _ clientId clientCreated (.converted path _ rfl rfl) rfl
            rfl (isSome_of_chosen chosen)
  | @clientEdited actor clientActor id input existing auditLogs audited =>
      have sameId :
          ∀ client,
            ((changedData platform input existing).changeContact client).id =
              client.id :=
        fun _ => rfl
      constructor
      · exact filed.uniqueIds
      · intro id
        dsimp only
        rw [audited.conversionEntries_eq]
        apply (filed.files id).clients_kept
        intro clientId known
        rw [findBy_updateBy sameId, Option.isSome_map]
        exact known

/-- A lead of this id is converted to this client, and the audit log says
how. -/
def ConvertedTo (tables : Tables) (id clientId : Uuid)
    (clientCreated : Bool) : Prop :=
  ∃ lead actorId,
    findLeadById tables id = some lead ∧
      lead.status = .convertedToClient ∧
      lead.clientId = some clientId ∧
      conversionEntries tables.auditLogs id =
        [conversionEntry actorId id clientId clientCreated]

/-- A write to the status of a lead that is not converted is no write to one
that is. -/
theorem ne_of_status {id target : Uuid} {lead other : Lead}
    (found : findLeadById tables id = some lead)
    (foundOther : findLeadById tables target = some other)
    (different : lead.status ≠ other.status) : id ≠ target := by
  rintro rfl
  rw [found] at foundOther
  cases foundOther
  exact different rfl

theorem convertedTo_of_commit {id clientId : Uuid} {clientCreated : Bool}
    (isConverted : ConvertedTo tables id clientId clientCreated)
    (committed : Commit platform tables waiting after) :
    ConvertedTo after id clientId clientCreated := by
  obtain ⟨lead, actorId, found, status, hasClient, entries⟩ := isConverted
  cases committed with
  | kept =>
      exact ⟨lead, actorId, found, status, hasClient, entries⟩
  | leadCreated row staffAssignments auditLogs fresh normalizedEmail
      normalizedPhone audited =>
      refine
        ⟨lead, actorId, findBy_append_of_found _ found, status, hasClient, ?_⟩
      rw [audited.conversionEntries_eq]
      exact entries
  | @leadEdited prepared now auditLogs audited =>
      have sameId : ∀ row, (prepared.data.change now row).id = row.id :=
        fun _ => rfl
      refine
        ⟨_, actorId, findBy_updateBy_of_found sameId found, ?_, ?_, ?_⟩
      · split <;> exact status
      · split <;> exact hasClient
      · rw [audited.conversionEntries_eq]
        exact entries
  | @leadMoved leadActor target input moved now auditLogs foundMoved allowed
      audited =>
      have sameId :
          ∀ row, (withStatus input.newStatus now row).id = row.id :=
        fun _ => rfl
      have isOther : id ≠ target := by
        apply ne_of_status found foundMoved
        rw [status]
        exact Ne.symm (Leads.converted_of_allowed allowed).1
      refine ⟨lead, actorId, ?_, status, hasClient, ?_⟩
      · exact (findBy_updateBy_other sameId isOther).trans found
      · rw [audited.conversionEntries_eq]
        exact entries
  | @leadConverted leadActor target input moved otherClient created clients
      staffAssignments now auditLogs foundMoved qualified chosen audited =>
      have sameId : ∀ row, (converted otherClient now row).id = row.id :=
        fun _ => rfl
      have isOther : id ≠ target := by
        apply ne_of_status found foundMoved
        rw [status, qualified]
        decide
      refine ⟨lead, actorId, ?_, status, hasClient, ?_⟩
      · exact (findBy_updateBy_other sameId isOther).trans found
      · rw [conversionEntries_concat_other _ _ _ _ (Ne.symm isOther),
          audited.conversionEntries_eq]
        exact entries
  | clientEdited existing auditLogs audited =>
      refine ⟨lead, actorId, found, status, hasClient, ?_⟩
      rw [audited.conversionEntries_eq]
      exact entries

/-- Only a conversion of a qualified lead makes it converted. -/
theorem qualified_of_commit {id : Uuid} {lead later : Lead}
    (committed : Commit platform tables waiting after)
    (found : findLeadById tables id = some lead)
    (notConverted : lead.status ≠ .convertedToClient)
    (foundLater : findLeadById after id = some later)
    (isConverted : later.status = .convertedToClient) :
    lead.status = .qualified ∧
      ∃ leadActor input, waiting = .convertLead leadActor id input := by
  have same_of : ∀ {other : Lead}, findLeadById after id = some other →
      other.status = lead.status → False := by
    intro other foundOther sameStatus
    rw [foundLater] at foundOther
    cases foundOther
    exact notConverted (sameStatus.symm.trans isConverted)
  cases committed with
  | kept =>
      exact (same_of found rfl).elim
  | leadCreated row =>
      exact (same_of (findBy_append_of_found _ found) rfl).elim
  | @leadEdited prepared now =>
      have sameId : ∀ row, (prepared.data.change now row).id = row.id :=
        fun _ => rfl
      refine (same_of (findBy_updateBy_of_found sameId found) ?_).elim
      split <;> rfl
  | @leadMoved leadActor target input moved now auditLogs foundMoved
      allowed =>
      have sameId :
          ∀ row, (withStatus input.newStatus now row).id = row.id :=
        fun _ => rfl
      by_cases isTarget : id = target
      · subst isTarget
        have written := findBy_updateBy_self sameId found
        have isWritten := Option.some.inj (foundLater.symm.trans written)
        rw [isWritten] at isConverted
        exact absurd isConverted (Leads.converted_of_allowed allowed).2
      · have kept := (findBy_updateBy_other sameId isTarget).trans found
        exact (same_of kept rfl).elim
  | @leadConverted leadActor target input moved clientId created clients
      staffAssignments now auditLogs foundMoved qualified =>
      have sameId : ∀ row, (converted clientId now row).id = row.id :=
        fun _ => rfl
      by_cases isTarget : id = target
      · subst isTarget
        rw [found] at foundMoved
        cases foundMoved
        exact ⟨qualified, leadActor, input, rfl⟩
      · have kept := (findBy_updateBy_other sameId isTarget).trans found
        exact (same_of kept rfl).elim
  | clientEdited existing =>
      exact (same_of found rfl).elim

end Commits

end Heritage.Clients
