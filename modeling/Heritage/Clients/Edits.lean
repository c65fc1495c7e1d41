import Heritage.Clients.Normalized

/-!
# Client edits lose no update

An edit names the version it was made from and is refused when the client has
another one.  One attempt ends in one of three ways, and over a run the
versions keep two edits of the same version from both applying.
-/

namespace Heritage.Clients

open Heritage.Store
open Heritage.Leads (Tables AuditLog changedTo)
open Heritage.Leads.Repository (insertAuditLog)
open Repository

/-- A field that the patch leaves out keeps its value, and a field it has
takes the patch's value.  The client stays the same one. -/
structure FieldsPatched (input : UpdateClientRequest)
    (before after : ClientRecord) : Prop where
  fullName :
    after.contact.fullName = input.fullName.getD before.contact.fullName
  email : after.contact.email = input.email.getD before.contact.email
  phone : after.contact.phone = input.phone.getD before.contact.phone
  address : after.details.address = input.address.getD before.details.address
  nationality :
    after.details.nationality =
      input.nationality.getD before.details.nationality
  dateOfBirth :
    after.details.dateOfBirth =
      input.dateOfBirth.getD before.details.dateOfBirth
  emergencyContact :
    after.details.emergencyContact =
      input.emergencyContact.getD before.details.emergencyContact
  notes : after.details.notes = input.notes.getD before.details.notes
  sameId : after.contact.id = before.contact.id
  sameCreation : after.details.createdAt = before.details.createdAt

/-- The name of a field whose value is another one afterwards. -/
def nameIfChanged {τ : Type} [DecidableEq τ] (name : String)
    (before after : τ) : List String :=
  if after ≠ before then [name] else []

/-- The names of the fields whose values differ. -/
def changedBetween (before after : ClientRecord) : List String :=
  nameIfChanged "fullName" before.contact.fullName after.contact.fullName ++
    nameIfChanged "email" before.contact.email after.contact.email ++
    nameIfChanged "phone" before.contact.phone after.contact.phone ++
    nameIfChanged "address" before.details.address after.details.address ++
    nameIfChanged "nationality" before.details.nationality
      after.details.nationality ++
    nameIfChanged "dateOfBirth" before.details.dateOfBirth
      after.details.dateOfBirth ++
    nameIfChanged "emergencyContact" before.details.emergencyContact
      after.details.emergencyContact ++
    nameIfChanged "notes" before.details.notes after.details.notes

/-- An email or a phone is there. -/
def HasChannel (row : ClientRecord) : Prop :=
  row.contact.email.isSome ∨ row.contact.phone.isSome

/-- The audit entry that lists the changed fields of an edit. -/
def editAudit (actorId : Uuid) (before after : ClientRecord) : AuditLog where
  actorId := actorId
  action := .clientUpdated
  entityType := .client
  entityId := before.contact.id
  beforeState := none
  afterState :=
    some <|
      .clientUpdate (changedBetween before after)
        after.contact.email.isSome after.contact.phone.isSome

/-- The edit of `before` into `after`, with all it leaves alone. -/
structure Applied (input : UpdateClientRequest) (actorId : Uuid)
    (now : Timestamp) (before after : ClientRecord)
    (database stored : Database) : Prop where
  version : before.details.updatedAt = input.expectedUpdatedAt
  found : findClientById database before.contact.id = some before
  written : findClientById stored before.contact.id = some after
  patched : FieldsPatched input before after
  newVersion : after.details.updatedAt = now
  hasChannel : HasChannel after
  changes : changedBetween before after ≠ []
  audited :
    stored.tables.auditLogs =
      database.tables.auditLogs ++ [editAudit actorId before after]
  elsewhere :
    ∀ other, other ≠ before.contact.id →
      findClientById stored other = findClientById database other
  sameLeads : stored.tables.leads = database.tables.leads
  sameHistory : stored.tables.statusHistory = database.tables.statusHistory

/-- The answer to an edit and the database it leaves: a refusal and an edit
without changes leave the one they met. -/
inductive EditOutcome (id : Uuid) (input : UpdateClientRequest)
    (actorId : Uuid) (now : Timestamp) (database : Database) :
    Answer → Database → Prop where
  | rejected (refusal : ClientError) :
      EditOutcome id input actorId now database
        (.clientUpdated (.error refusal)) database
  | unchanged (result : UpdateClientResult) (before : ClientRecord)
      (found : findClientById database id = some before)
      (version : before.details.updatedAt = input.expectedUpdatedAt)
      (same : FieldsPatched input before before) :
      EditOutcome id input actorId now database
        (.clientUpdated (.ok result)) database
  | applied (result : UpdateClientResult) (before after : ClientRecord)
      (stored : Database)
      (sameId : before.contact.id = id)
      (edit : Applied input actorId now before after database stored) :
      EditOutcome id input actorId now database
        (.clientUpdated (.ok result)) stored

section Changes

variable {τ : Type} [DecidableEq τ]

theorem changedTo_isSome_iff (supplied : Option τ) (existing : τ) :
    (changedTo supplied existing).isSome ↔
      supplied.getD existing ≠ existing := by
  cases supplied with
  | none =>
      simp [changedTo]
  | some value =>
      by_cases same : value = existing
      · simp [changedTo, Option.filter, same]
      · simp [changedTo, Option.filter, same]

/-- A field is named when it is written. -/
theorem nameIfWritten_changedTo (name : String) (supplied : Option τ)
    (existing : τ) :
    nameIfWritten name (changedTo supplied existing) =
      nameIfChanged name existing (supplied.getD existing) :=
  if_congr (changedTo_isSome_iff supplied existing) rfl rfl

theorem getD_of_not_changed {name : String} {supplied : Option τ}
    {existing : τ}
    (kept : nameIfChanged name existing (supplied.getD existing) = []) :
    existing = supplied.getD existing := by
  by_contra different
  simp [nameIfChanged, Ne.symm different] at kept

end Changes

variable {platform : StringPlatform}

/-- The row an edit writes. -/
def patched (platform : StringPlatform) (input : UpdateClientRequest)
    (now : Timestamp) (existing : ClientRecord) : ClientRecord :=
  (changedData platform input existing).change now existing

theorem fieldsPatched_patched (input : UpdateClientRequest) (now : Timestamp)
    (existing : ClientRecord) :
    FieldsPatched input existing (patched platform input now existing) where
  fullName := changedTo_getD input.fullName existing.contact.fullName
  email := changedTo_getD input.email existing.contact.email
  phone := changedTo_getD input.phone existing.contact.phone
  address := changedTo_getD input.address existing.details.address
  nationality := changedTo_getD input.nationality existing.details.nationality
  dateOfBirth := changedTo_getD input.dateOfBirth existing.details.dateOfBirth
  emergencyContact :=
    changedTo_getD input.emergencyContact existing.details.emergencyContact
  notes := changedTo_getD input.notes existing.details.notes
  sameId := rfl
  sameCreation := rfl

/-- The names in the audit entry are those of the fields that differ. -/
theorem changedFieldNames_eq {input : UpdateClientRequest}
    {before after : ClientRecord}
    (applied : FieldsPatched input before after) :
    changedFieldNames (changedData platform input before) =
      changedBetween before after := by
  simp only [changedFieldNames, changedData, changedBetween,
    nameIfWritten_changedTo, applied.fullName, applied.email, applied.phone,
    applied.address, applied.nationality, applied.dateOfBirth,
    applied.emergencyContact, applied.notes]

/-- A patch that changes no field describes the row it meets. -/
theorem fieldsPatched_of_unchanged {input : UpdateClientRequest}
    {existing : ClientRecord}
    (unchanged :
      changedFieldNames (changedData platform input existing) = []) :
    FieldsPatched input existing existing := by
  simp only [changedFieldNames, changedData, nameIfWritten_changedTo,
    List.append_eq_nil_iff] at unchanged
  obtain ⟨⟨⟨⟨⟨⟨⟨fullName, email⟩, phone⟩, address⟩, nationality⟩,
    dateOfBirth⟩, emergencyContact⟩, notes⟩ := unchanged
  exact
    { fullName := getD_of_not_changed fullName
      email := getD_of_not_changed email
      phone := getD_of_not_changed phone
      address := getD_of_not_changed address
      nationality := getD_of_not_changed nationality
      dateOfBirth := getD_of_not_changed dateOfBirth
      emergencyContact := getD_of_not_changed emergencyContact
      notes := getD_of_not_changed notes
      sameId := rfl
      sameCreation := rfl }

variable {database : Database} {id : Uuid}

theorem ids_of_findClientById {row : ClientRecord}
    (found : findClientById database id = some row) :
    findBy Client.id id database.tables.clients = some row.contact ∧
      findBy ClientDetails.clientId id database.details =
        some row.details := by
  simp only [findClientById, Option.bind_eq_bind, Option.bind_eq_some_iff,
    Option.some.injEq] at found
  obtain ⟨contact, foundContact, details, foundDetails, rfl⟩ := found
  exact ⟨foundContact, foundDetails⟩

theorem findClientById_of_found {contact : Client} {details : ClientDetails}
    (foundContact :
      findBy Client.id id database.tables.clients = some contact)
    (foundDetails :
      findBy ClientDetails.clientId id database.details = some details) :
    findClientById database id = some ⟨contact, details⟩ := by
  simp [findClientById, foundContact, foundDetails]

theorem id_of_findClientById {row : ClientRecord}
    (found : findClientById database id = some row) : row.contact.id = id :=
  key_of_findBy (ids_of_findClientById found).1

theorem findClientById_writeClient {data : UpdateClientFieldsInput}
    {now : Timestamp} {row : ClientRecord}
    (found : findClientById database id = some row) :
    findClientById (writeClient database id data now) id =
      some (data.change now row) := by
  obtain ⟨foundContact, foundDetails⟩ := ids_of_findClientById found
  exact
    findClientById_of_found
      (findBy_updateBy_self (fun _ => rfl) foundContact)
      (findBy_updateBy_self (fun _ => rfl) foundDetails)

theorem findClientById_writeClient_other {data : UpdateClientFieldsInput}
    {now : Timestamp} {other : Uuid} (different : other ≠ id) :
    findClientById (writeClient database id data now) other =
      findClientById database other := by
  have contacts :
      findBy Client.id other
          (writeClient database id data now).tables.clients =
        findBy Client.id other database.tables.clients :=
    findBy_updateBy_other (fun _ => rfl) different
  have details :
      findBy ClientDetails.clientId other
          (writeClient database id data now).details =
        findBy ClientDetails.clientId other database.details :=
    findBy_updateBy_other (fun _ => rfl) different
  simp only [findClientById, contacts, details]

variable {context : RequestContext} {actor : AuthenticatedUser}
  {clientActor : ClientActor} {input : UpdateClientRequest}

theorem updateClientTransaction_outcome {result : UpdateClientResult}
    {stored : Database}
    (succeeds :
      updateClientTransaction platform context actor clientActor id input
        database = .ok (result, stored)) :
    EditOutcome id input clientActor.id context.now database
      (.clientUpdated (.ok result)) stored := by
  obtain ⟨existing, found, version, hasChannel, ⟨unchanged, rfl⟩ |
    ⟨changed, rfl⟩⟩ := updateClientTransaction_eq_ok succeeds
  · exact
      .unchanged result existing found version
        (fieldsPatched_of_unchanged unchanged)
  · have sameId := id_of_findClientById found
    subst sameId
    have applied :
        FieldsPatched input existing
          (patched platform input context.now existing) :=
      fieldsPatched_patched input context.now existing
    have names :
        changedFieldNames (changedData platform input existing) =
          changedBetween existing
            (patched platform input context.now existing) :=
      changedFieldNames_eq applied
    exact
      .applied result existing (patched platform input context.now existing)
        _ rfl
        { version := version
          found := found
          written := findClientById_writeClient found
          patched := applied
          newVersion := rfl
          hasChannel := by
            unfold HasChannel
            rw [applied.email, applied.phone]
            exact hasChannel
          changes := by
            rw [← names]
            exact changed
          audited := by
            simp only [insertAuditLog, editEntry, editAudit, names,
              applied.email, applied.phone]
            rfl
          elsewhere := by
            intro other different
            exact findClientById_writeClient_other different
          sameLeads := rfl
          sameHistory := rfl }

/-- Every attempt of an edit ends in one of the three ways. -/
theorem attempt_outcome :
    EditOutcome id input clientActor.id context.now database
      (attempt platform context database
        (.updateClient actor clientActor id input)).1
      (attempt platform context database
        (.updateClient actor clientActor id input)).2 := by
  simp only [attempt]
  cases outcome :
      updateClientTransaction platform context actor clientActor id input
        database with
  | error refusal =>
      rw [transact_of_error outcome]
      exact .rejected refusal
  | ok result =>
      rw [transact_of_ok outcome]
      exact updateClientTransaction_outcome outcome

/-- The request, taken in this state, is the attempt of an edit that takes
effect. -/
def EditTakesEffect (platform : StringPlatform) (state : State)
    (request : Request) (id : Uuid) (input : UpdateClientRequest) : Prop :=
  ∃ context index actor clientActor,
    request = .attempt context index ∧
      state.waiting[index]? =
        some (.updateClient actor clientActor id input) ∧
      (step platform state request).database ≠ state.database

variable {state : State} {request : Request}

theorem step_attempt_database {index : Nat} {waiting : Waiting}
    (atIndex : state.waiting[index]? = some waiting) :
    (step platform state (.attempt context index)).database =
      (attempt platform context state.database waiting).2 := by
  simp only [step, atIndex]

theorem EditTakesEffect.isAttempt {input : UpdateClientRequest}
    (effective : EditTakesEffect platform state request id input) :
    ∃ context index, request = .attempt context index := by
  obtain ⟨context, index, -, -, isAttempt, -⟩ := effective
  exact ⟨context, index, isAttempt⟩

/-- An edit that takes effect rewrites the version it names. -/
theorem applied_of_takesEffect {index : Nat}
    (effective :
      EditTakesEffect platform state (.attempt context index) id input) :
    ∃ actorId before after,
      before.contact.id = id ∧
        Applied input actorId context.now before after state.database
          (step platform state (.attempt context index)).database := by
  obtain ⟨_, _, actor, clientActor, isAttempt, atIndex, changed⟩ := effective
  cases isAttempt
  rw [step_attempt_database atIndex] at changed ⊢
  have outcome :
      EditOutcome id input clientActor.id context.now state.database
        (attempt platform context state.database
          (.updateClient actor clientActor id input)).1
        (attempt platform context state.database
          (.updateClient actor clientActor id input)).2 :=
    attempt_outcome
  generalize
    attempt platform context state.database
      (.updateClient actor clientActor id input) = reached
    at outcome changed ⊢
  obtain ⟨answer, stored⟩ := reached
  cases outcome with
  | rejected refusal => exact absurd rfl changed
  | unchanged result before found version same => exact absurd rfl changed
  | applied result before after stored sameId edit =>
      exact ⟨clientActor.id, before, after, sameId, edit⟩

theorem clients_grew_of_chosen {tables : Tables} {lead : Leads.Lead}
    {requested : Option Uuid} {clientId : Uuid} {clientCreated : Bool}
    {clients : List Client}
    (chosen :
      ChosenClient tables lead requested clientId clientCreated clients) :
    tables.clients <+: clients := by
  cases chosen with
  | created client => exact List.prefix_append _ _
  | linked client => exact List.prefix_rfl

/-- A lead operation only adds clients. -/
theorem clients_grew_of_commit {tables after : Tables} {waiting : Waiting}
    (committed : Commit platform tables waiting after)
    (notEdit :
      ∀ actor clientActor id input,
        waiting ≠ .updateClient actor clientActor id input) :
    tables.clients <+: after.clients := by
  cases committed with
  | leadConverted lead clientId clientCreated clients staffAssignments now
      auditLogs found qualified chosen =>
      exact clients_grew_of_chosen chosen
  | clientEdited existing => exact absurd rfl (notEdit _ _ _ _)
  | kept => exact List.prefix_rfl
  | leadCreated => exact List.prefix_rfl
  | leadEdited => exact List.prefix_rfl
  | leadMoved => exact List.prefix_rfl

theorem details_grew_attempt (waiting : Waiting)
    (notEdit :
      ∀ actor clientActor id input,
        waiting ≠ .updateClient actor clientActor id input) :
    database.details <+:
      (attempt platform context database waiting).2.details := by
  cases waiting with
  | updateClient actor clientActor id input =>
      exact absurd rfl (notEdit _ _ _ _)
  | createLead => exact List.prefix_append _ _
  | updateLead => exact List.prefix_append _ _
  | updateLeadStatus => exact List.prefix_append _ _
  | convertLead => exact List.prefix_append _ _

/-- Only an edit that takes effect changes a client's row. -/
theorem step_findClientById {row : ClientRecord}
    (found : findClientById state.database id = some row) :
    findClientById (step platform state request).database id = some row ∨
      ∃ input, EditTakesEffect platform state request id input := by
  cases request with
  | call actor operation =>
      exact Or.inl found
  | assignmentsChanged staffAssignments =>
      exact Or.inl found
  | profilesChanged clientProfiles =>
      exact Or.inl found
  | attempt context index =>
      cases atIndex : state.waiting[index]? with
      | none =>
          left
          simp only [step, atIndex]
          exact found
      | some waiting =>
          by_cases isEdit :
              ∃ actor clientActor other input,
                waiting = .updateClient actor clientActor other input
          · obtain ⟨actor, clientActor, other, input, rfl⟩ := isEdit
            by_cases changed :
                (step platform state (.attempt context index)).database =
                  state.database
            · left
              rw [changed]
              exact found
            · have effective :
                  EditTakesEffect platform state (.attempt context index)
                    other input :=
                ⟨context, index, actor, clientActor, rfl, atIndex, changed⟩
              by_cases sameClient : id = other
              · subst sameClient
                exact Or.inr ⟨input, effective⟩
              · obtain ⟨actorId, before, after, rfl, edit⟩ :=
                  applied_of_takesEffect effective
                left
                rw [edit.elsewhere id sameClient]
                exact found
          · left
            rw [step_attempt_database atIndex]
            have notEdit :
                ∀ actor clientActor id input,
                  waiting ≠ .updateClient actor clientActor id input := by
              intro actor clientActor id input same
              exact isEdit ⟨actor, clientActor, id, input, same⟩
            obtain ⟨foundContact, foundDetails⟩ := ids_of_findClientById found
            exact
              findClientById_of_found
                (findBy_of_grown
                  (clients_grew_of_commit (attempt_commit waiting) notEdit)
                  foundContact)
                (findBy_of_grown (details_grew_attempt waiting notEdit)
                  foundDetails)

/-- A client stays, and one with an email or a phone keeps one of them. -/
theorem step_keeps_client {row : ClientRecord}
    (found : findClientById state.database id = some row) :
    ∃ kept,
      findClientById (step platform state request).database id = some kept ∧
        (HasChannel row → HasChannel kept) := by
  rcases @step_findClientById platform id state request row found with
    same | ⟨input, effective⟩
  · exact ⟨row, same, fun hasChannel => hasChannel⟩
  · obtain ⟨context, index, rfl⟩ := effective.isAttempt
    obtain ⟨actorId, before, after, rfl, edit⟩ :=
      applied_of_takesEffect effective
    exact ⟨after, edit.written, fun _ => edit.hasChannel⟩

/-! ## Every run -/

theorem run_keeps_client {row : ClientRecord} (requests : List Request)
    (found : findClientById state.database id = some row) :
    ∃ kept,
      findClientById (run (step platform) state requests).database id =
          some kept ∧
        (HasChannel row → HasChannel kept) := by
  induction requests generalizing state row with
  | nil =>
      exact ⟨row, found, fun hasChannel => hasChannel⟩
  | cons request rest inductionHypothesis =>
      obtain ⟨next, foundNext, keepsNext⟩ :=
        @step_keeps_client platform id state request row found
      obtain ⟨kept, foundKept, keeps⟩ := inductionHypothesis foundNext
      exact ⟨kept, foundKept, fun hasChannel => keeps (keepsNext hasChannel)⟩

/-- Every edit that takes effect gives its client an `updatedAt` that no
earlier version of it had. -/
def ChangesUpdatedAt (platform : StringPlatform) (requests : List Request) :
    Prop :=
  ∀ earlier context index later id input,
    requests = earlier ++ .attempt context index :: later →
      EditTakesEffect platform (stateAfter platform earlier)
          (.attempt context index) id input →
        ∀ past rest row, earlier = past ++ rest →
          findClientById (databaseAfter platform past) id = some row →
            row.details.updatedAt ≠ context.now

/-- What a run does to the clients. -/
structure EditsKept (platform : StringPlatform) (requests : List Request) :
    Prop where
  /-- Every attempt of an edit is refused, changes nothing, or rewrites
  exactly the version it names. -/
  outcome :
    ∀ earlier context index later actor clientActor id input,
      requests = earlier ++ .attempt context index :: later →
        (stateAfter platform earlier).waiting[index]? =
            some (.updateClient actor clientActor id input) →
          EditOutcome id input clientActor.id context.now
            (databaseAfter platform earlier)
            (attempt platform context (databaseAfter platform earlier)
              (.updateClient actor clientActor id input)).1
            (databaseAfter platform (earlier ++ [.attempt context index]))
  calls :
    ∀ earlier actor operation later,
      requests = earlier ++ .call actor operation :: later →
        databaseAfter platform (earlier ++ [.call actor operation]) =
          databaseAfter platform earlier
  /-- Nothing else changes a client. -/
  onlyEdits :
    ∀ earlier request later id row,
      requests = earlier ++ request :: later →
        findClientById (databaseAfter platform earlier) id = some row →
          findClientById (databaseAfter platform (earlier ++ [request])) id =
              some row ∨
            ∃ input,
              EditTakesEffect platform (stateAfter platform earlier) request
                id input
  /-- Two edits of one version do not both take effect. -/
  once :
    ChangesUpdatedAt platform requests →
      ∀ earlier first between second later id firstInput secondInput,
        requests = earlier ++ first :: (between ++ second :: later) →
          EditTakesEffect platform (stateAfter platform earlier) first id
              firstInput →
            EditTakesEffect platform
                (stateAfter platform (earlier ++ first :: between)) second id
                secondInput →
              firstInput.expectedUpdatedAt ≠ secondInput.expectedUpdatedAt
  /-- A client with an email or a phone always has one of them later. -/
  channel :
    ∀ earlier later id row, requests = earlier ++ later →
      findClientById (databaseAfter platform earlier) id = some row →
        HasChannel row →
          ∃ kept,
            findClientById (databaseAfter platform requests) id =
                some kept ∧
              HasChannel kept

theorem versions_differ {requests : List Request}
    (fresh : ChangesUpdatedAt platform requests)
    {earlier between later : List Request} {first second : Request}
    {firstInput secondInput : UpdateClientRequest}
    (split : requests = earlier ++ first :: (between ++ second :: later))
    (firstEffective :
      EditTakesEffect platform (stateAfter platform earlier) first id
        firstInput)
    (secondEffective :
      EditTakesEffect platform
        (stateAfter platform (earlier ++ first :: between)) second id
        secondInput) :
    firstInput.expectedUpdatedAt ≠ secondInput.expectedUpdatedAt := by
  intro sameVersion
  obtain ⟨firstContext, firstIndex, rfl⟩ := firstEffective.isAttempt
  obtain ⟨secondContext, secondIndex, rfl⟩ := secondEffective.isAttempt
  obtain ⟨_, before, after, rfl, firstEdit⟩ :=
    applied_of_takesEffect firstEffective
  obtain ⟨_, again, _, sameClient, secondEdit⟩ :=
    applied_of_takesEffect secondEffective
  have newVersion :
      before.details.updatedAt ≠ firstContext.now :=
    fresh earlier firstContext firstIndex _ _ _ split firstEffective earlier
      [] before (by simp) firstEdit.found
  -- The version is gone after the first edit and back before the second.
  have gone :
      ¬ ∃ row,
        findClientById
            (step platform (stateAfter platform earlier)
              (.attempt firstContext firstIndex)).database
            before.contact.id = some row ∧
          row.details.updatedAt = before.details.updatedAt := by
    rintro ⟨row, found, sameUpdatedAt⟩
    rw [firstEdit.written] at found
    cases found
    rw [firstEdit.newVersion] at sameUpdatedAt
    exact newVersion sameUpdatedAt.symm
  have splitRun :
      ∀ middle,
        stateAfter platform
            (earlier ++ .attempt firstContext firstIndex :: middle) =
          run (step platform)
            (step platform (stateAfter platform earlier)
              (.attempt firstContext firstIndex)) middle := by
    intro middle
    unfold stateAfter
    rw [run_append, run_cons]
  have back :
      ∃ row,
        findClientById
            (run (step platform)
              (step platform (stateAfter platform earlier)
                (.attempt firstContext firstIndex)) between).database
            before.contact.id = some row ∧
          row.details.updatedAt = before.details.updatedAt := by
    have found := secondEdit.found
    rw [splitRun, sameClient] at found
    refine ⟨again, found, ?_⟩
    rw [secondEdit.version, firstEdit.version, sameVersion]
  obtain ⟨middle, request, rest, rfl, notYet, returned⟩ :=
    @exists_step_of_run _ _ (step platform)
      (fun state =>
        ∃ row,
          findClientById state.database before.contact.id = some row ∧
            row.details.updatedAt = before.details.updatedAt)
      _ between gone back
  obtain ⟨row, found, -⟩ := run_keeps_client middle firstEdit.written
  rw [run_append] at returned
  obtain ⟨newRow, foundNew, sameUpdatedAt⟩ := returned
  rcases @step_findClientById platform before.contact.id _ request row found
    with same | ⟨input, effective⟩
  · have unchanged : newRow = row := Option.some.inj (foundNew.symm.trans same)
    rw [unchanged] at sameUpdatedAt
    exact notYet ⟨row, found, sameUpdatedAt⟩
  · obtain ⟨context, index, rfl⟩ := effective.isAttempt
    obtain ⟨_, old, new, sameId, edit⟩ := applied_of_takesEffect effective
    have written := edit.written
    rw [sameId] at written
    have isNew : newRow = new := Option.some.inj (foundNew.symm.trans written)
    rw [isNew, edit.newVersion] at sameUpdatedAt
    rw [← splitRun] at effective
    have splitAgain :
        requests =
          (earlier ++ .attempt firstContext firstIndex :: middle) ++
            .attempt context index ::
              (rest ++ .attempt secondContext secondIndex :: later) := by
      rw [split]
      simp
    exact
      fresh _ context index _ _ _ splitAgain effective earlier
        (.attempt firstContext firstIndex :: middle) before rfl
        firstEdit.found sameUpdatedAt.symm

/-- In every run of calls, attempts and changes of assignments and profiles
client edits lose no update. -/
theorem client_edits_lose_no_update (platform : StringPlatform)
    (requests : List Request) : EditsKept platform requests where
  outcome := by
    intro earlier context index later actor clientActor id input _ atIndex
    rw [databaseAfter_concat, step_attempt_database atIndex]
    exact attempt_outcome
  calls := by
    intro earlier actor operation later _
    rw [databaseAfter_concat]
    rfl
  onlyEdits := by
    intro earlier request later id row _ found
    rw [databaseAfter_concat]
    exact step_findClientById found
  once := by
    intro fresh earlier first between second later id firstInput secondInput
      split firstEffective secondEffective
    exact versions_differ fresh split firstEffective secondEffective
  channel := by
    intro earlier later id row split found hasChannel
    obtain ⟨kept, foundKept, keeps⟩ :=
      @run_keeps_client platform id _ row later found
    refine ⟨kept, ?_, keeps hasChannel⟩
    rw [← foundKept, split]
    unfold databaseAfter stateAfter
    rw [run_append]

end Heritage.Clients
