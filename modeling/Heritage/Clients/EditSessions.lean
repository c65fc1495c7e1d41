import Heritage.Clients.Versions

/-!
# Edit forms at work

Any number of edit forms on any clients, with pages read at any time and
delivered late, requests that overlap, and answers that are lost.  An edit
that takes effect was made on the texts its user saw, and changes no field
its user left alone.
-/

namespace Heritage.Clients

open Heritage.Store
open Heritage.Calendar (CalendarDay)
open Repository

variable {platform : StringPlatform} {dates : DatePlatform} {id : Uuid}

/-- A mounted form, its client, and the request it is waiting for, by its
place among the requests sent. -/
structure OpenForm where
  id : Uuid
  form : EditClientForm
  waitingFor : Option Nat

/-- A request that a form sent: the texts its user had seen, those the user
left in the form, and the number of server steps before it. -/
structure SentEdit where
  id : Uuid
  seen : FormFields
  entered : FormFields
  expectedUpdatedAt : Timestamp
  sentAt : Nat

/-- How the attempt of an edit ended, and the number of server steps before
it. -/
structure EndedEdit where
  servedAt : Nat
  id : Uuid
  input : UpdateClientRequest
  result : Except ClientError UpdateClientResult

structure Editing where
  /-- What the server has done so far. -/
  requests : List Request
  /-- The pages read so far. -/
  pages : List (Uuid × ClientPage)
  forms : List OpenForm
  sent : List SentEdit
  /-- How the attempts of edits ended so far. -/
  answers : List EndedEdit

def SentEdit.patch (edit : SentEdit) (name : FieldName) : Option String :=
  if edit.entered name ≠ edit.seen name then some (edit.entered name)
  else none

/-- The request the schema makes of it at the time it arrives. -/
def SentEdit.input (dates : DatePlatform) (now : Timestamp)
    (edit : SentEdit) : Option UpdateClientRequest :=
  updateClientSchema dates now edit.patch edit.expectedUpdatedAt

/-- The answer of a server step that attempts an edit. -/
def answersOf (platform : StringPlatform) (requests : List Request) :
    Request → List EndedEdit
  | .attempt context index =>
      match (stateAfter platform requests).waiting[index]? with
      | some (.updateClient actor clientActor id input) =>
          [{ servedAt := requests.length
             id := id
             input := input
             result :=
               (transact
                 (updateClientTransaction platform context actor clientActor
                   id input)
                 (databaseAfter platform requests)).1 }]
      | _ => []
  | _ => []

namespace Editing

def withForm (editing : Editing) (index : Nat) (entry : OpenForm) : Editing :=
  { editing with forms := editing.forms.set index entry }

/-- One thing that can happen.  The server may do anything at any time, for
the forms and for others. -/
inductive Step (platform : StringPlatform) (dates : DatePlatform)
    (editing : Editing) : Editing → Prop where
  | pageRead (id : Uuid) (actor : ClientActor)
      (client : ClientDetailRecord)
      (found :
        findClientByIdForRead (databaseAfter platform editing.requests) id
          actor = some client) :
      Step platform dates editing
        { editing with pages := editing.pages ++ [(id, pageOf client)] }
  | mounted (id : Uuid) (page : ClientPage)
      (read : (id, page) ∈ editing.pages) :
      Step platform dates editing
        { editing with
          forms := editing.forms ++ [⟨id, .mount page, none⟩] }
  | propsChanged (index : Nat) (entry : OpenForm) (page : ClientPage)
      (found : editing.forms[index]? = some entry)
      (read : (entry.id, page) ∈ editing.pages) :
      Step platform dates editing
        (editing.withForm index
          { entry with
            form := { entry.form with props := page }.render })
  | typed (index : Nat) (entry : OpenForm) (name : FieldName)
      (value : String) (found : editing.forms[index]? = some entry)
      (enabled : entry.form.enabled) :
      Step platform dates editing
        (editing.withForm index
          { entry with form := (entry.form.updateField name value).render })
  | refreshClicked (index : Nat) (entry : OpenForm)
      (found : editing.forms[index]? = some entry) :
      Step platform dates editing
        (editing.withForm index
          { entry with form := entry.form.requestRefresh.render })
  | submitted (index : Nat) (entry : OpenForm) (form : EditClientForm)
      (found : editing.forms[index]? = some entry)
      (sends : entry.form.handleSubmit = (form, true)) :
      Step platform dates editing
        { editing.withForm index
            ⟨entry.id, form.render, some editing.sent.length⟩ with
          sent :=
            editing.sent ++
              [{ id := entry.id
                 seen := entry.form.baseline
                 entered := entry.form.fields
                 expectedUpdatedAt := entry.form.expectedUpdatedAt
                 sentAt := editing.requests.length }] }
  | served (request : Request) :
      Step platform dates editing
        { editing with
          requests := editing.requests ++ [request]
          answers :=
            editing.answers ++ answersOf platform editing.requests request }
  | failed (index : Nat) (entry : OpenForm) (request : Nat)
      (found : editing.forms[index]? = some entry)
      (waiting : entry.waitingFor = some request) :
      Step platform dates editing
        (editing.withForm index
          ⟨entry.id, (entry.form.settle .failed).render, none⟩)
  | answered (index : Nat) (entry : OpenForm) (request : Nat)
      (edit : SentEdit) (now : Timestamp) (ended : EndedEdit)
      (found : editing.forms[index]? = some entry)
      (waiting : entry.waitingFor = some request)
      (sent : editing.sent[request]? = some edit)
      (isAnswer : ended ∈ editing.answers) (sameClient : ended.id = edit.id)
      (accepted : edit.input dates now = some ended.input)
      (inOrder : edit.sentAt ≤ ended.servedAt) :
      Step platform dates editing
        (editing.withForm index
          ⟨entry.id, (entry.form.settle (.ofResult ended.result)).render,
            none⟩)

inductive Reachable (platform : StringPlatform) (dates : DatePlatform) :
    Editing → Prop where
  | start : Reachable platform dates ⟨[], [], [], [], []⟩
  | next {editing after : Editing}
      (before : Reachable platform dates editing)
      (step : Step platform dates editing after) :
      Reachable platform dates after

/-! ## What is shown was stored -/

variable {editing after : Editing}

/-- What a mounted form shows and waits for. -/
structure FormSound (platform : StringPlatform) (requests : List Request)
    (sent : List SentEdit) (entry : OpenForm) : Prop where
  props : IsVersion platform requests entry.id entry.form.props
  baseline :
    IsVersion platform requests entry.id
      ⟨entry.form.baseline, entry.form.expectedUpdatedAt⟩
  /-- A form waits for a request of its own and is in no conflict. -/
  waiting :
    ∀ request, entry.waitingFor = some request →
      entry.form.conflict = false ∧
        ∃ edit,
          sent[request]? = some edit ∧ edit.id = entry.id ∧
            edit.expectedUpdatedAt = entry.form.expectedUpdatedAt
  idle : entry.waitingFor = none → entry.form.submitting = false
  /-- A form in conflict expects a version that is gone. -/
  conflict :
    entry.form.conflict →
      Superseded platform requests entry.id entry.form.expectedUpdatedAt

/-- The texts a request was sent with were a version when it was sent. -/
def SentSound (platform : StringPlatform) (requests : List Request)
    (edit : SentEdit) : Prop :=
  edit.sentAt ≤ requests.length ∧
    IsVersion platform (requests.take edit.sentAt) edit.id
      ⟨edit.seen, edit.expectedUpdatedAt⟩

/-- A successful answer shows a version, and a conflict comes from another
version. -/
structure AnswerSound (platform : StringPlatform) (requests : List Request)
    (ended : EndedEdit) : Prop where
  served : ended.servedAt ≤ requests.length
  saved :
    ∀ result, ended.result = .ok result →
      IsVersion platform requests ended.id (pageOf result.client)
  refused :
    ∀ refusal, ended.result = .error refusal →
      refusal.code = .clientConflict →
        ∀ row,
          findClientById
              (databaseAfter platform (requests.take ended.servedAt))
              ended.id = some row →
            row.details.updatedAt ≠ ended.input.expectedUpdatedAt

structure Sound (platform : StringPlatform) (editing : Editing) : Prop where
  pages :
    ∀ page ∈ editing.pages,
      IsVersion platform editing.requests page.1 page.2
  forms :
    ∀ entry ∈ editing.forms,
      FormSound platform editing.requests editing.sent entry
  sent : ∀ edit ∈ editing.sent, SentSound platform editing.requests edit
  answers :
    ∀ ended ∈ editing.answers, AnswerSound platform editing.requests ended

theorem sound_start : Sound platform ⟨[], [], [], [], []⟩ where
  pages := fun _ member => absurd member List.not_mem_nil
  forms := fun _ member => absurd member List.not_mem_nil
  sent := fun _ member => absurd member List.not_mem_nil
  answers := fun _ member => absurd member List.not_mem_nil

theorem FormSound.grow {requests more : List Request}
    {sent : List SentEdit} {entry : OpenForm}
    (sound : FormSound platform requests sent entry) :
    FormSound platform (requests ++ more) sent entry where
  props := sound.props.grow
  baseline := sound.baseline.grow
  waiting := sound.waiting
  idle := sound.idle
  conflict := fun inConflict => (sound.conflict inConflict).grow

theorem getElem?_concat_of_some {α : Type} {items more : List α}
    {index : Nat} {item : α} (found : items[index]? = some item) :
    (items ++ more)[index]? = some item := by
  obtain ⟨inRange, -⟩ := List.getElem?_eq_some_iff.mp found
  rw [List.getElem?_append_left inRange, found]

theorem FormSound.more_sent {requests : List Request}
    {sent more : List SentEdit} {entry : OpenForm}
    (sound : FormSound platform requests sent entry) :
    FormSound platform requests (sent ++ more) entry :=
  { sound with
    waiting := by
      intro request waits
      obtain ⟨noConflict, edit, isSent, own⟩ := sound.waiting request waits
      exact ⟨noConflict, edit, getElem?_concat_of_some isSent, own⟩ }

theorem SentSound.grow {requests more : List Request} {edit : SentEdit}
    (sound : SentSound platform requests edit) :
    SentSound platform (requests ++ more) edit := by
  obtain ⟨inTime, version⟩ := sound
  refine ⟨inTime.trans (by simp), ?_⟩
  rw [List.take_append_of_le_length inTime]
  exact version

theorem SentSound.isVersion {requests : List Request} {edit : SentEdit}
    (sound : SentSound platform requests edit) :
    IsVersion platform requests edit.id
      ⟨edit.seen, edit.expectedUpdatedAt⟩ := by
  have version := @IsVersion.grow _ _ _ (requests.drop edit.sentAt) _ sound.2
  rw [List.take_append_drop] at version
  exact version

theorem AnswerSound.grow {requests more : List Request} {ended : EndedEdit}
    (sound : AnswerSound platform requests ended) :
    AnswerSound platform (requests ++ more) ended where
  served := sound.served.trans (by simp)
  saved := fun result succeeds => (sound.saved result succeeds).grow
  refused := by
    rw [List.take_append_of_le_length sound.served]
    exact sound.refused

/-- A render keeps a form sound. -/
theorem FormSound.render {requests : List Request} {sent : List SentEdit}
    {entry : OpenForm} (sound : FormSound platform requests sent entry) :
    FormSound platform requests sent
      { entry with form := entry.form.render } := by
  unfold EditClientForm.render
  split
  next recovers =>
    have notWaiting : entry.waitingFor = none := by
      cases waits : entry.waitingFor with
      | none => rfl
      | some request =>
          have noConflict := (sound.waiting request waits).1
          rw [recovers.1] at noConflict
          cases noConflict
    exact
      { props := sound.props
        baseline := sound.props
        waiting := by
          intro request waits
          rw [notWaiting] at waits
          cases waits
        idle := sound.idle
        conflict := by
          intro inConflict
          cases inConflict }
  next => exact sound

theorem Sound.withForm {entry : OpenForm}
    (sound : Sound platform editing) (index : Nat)
    (formSound : FormSound platform editing.requests editing.sent entry) :
    Sound platform (editing.withForm index entry) :=
  { sound with
    forms := by
      intro other member
      rcases List.mem_or_eq_of_mem_set member with old | rfl
      · exact sound.forms other old
      · exact formSound }

/-- The result of an edit shows the row it leaves. -/
theorem pageOf_result {context : RequestContext} {actor : AuthenticatedUser}
    {clientActor : ClientActor} {input : UpdateClientRequest}
    {result : UpdateClientResult} {database stored : Database}
    (succeeds :
      updateClientTransaction platform context actor clientActor id input
        database = .ok (result, stored)) :
    ∃ row,
      findClientById stored id = some row ∧
        pageOf result.client = ⟨fieldsOf row, row.details.updatedAt⟩ := by
  simp only [updateClientTransaction, bind_eq_ok, require_eq_ok,
    demand_eq_ok, exists_const] at succeeds
  obtain ⟨-, existing, found, -, -, finished⟩ := succeeds
  split at finished
  next =>
    simp only [bind_eq_ok, demand_eq_ok, Except.ok.injEq, Prod.mk.injEq]
      at finished
    obtain ⟨detail, read, rfl, rfl⟩ := finished
    exact pageOf_read read
  next =>
    simp only [writeChanges, bind_eq_ok, require_eq_ok, demand_eq_ok,
      Except.ok.injEq, Prod.mk.injEq, exists_const] at finished
    obtain ⟨written, ⟨-, detail, read, rfl⟩, rfl, rfl⟩ := finished
    exact pageOf_read read

/-- The answer of an attempt is that of the transaction it runs. -/
theorem answersOf_cases {requests : List Request} {request : Request}
    {ended : EndedEdit}
    (isAnswer : ended ∈ answersOf platform requests request) :
    ∃ context actor clientActor,
      ended.servedAt = requests.length ∧
        databaseAfter platform (requests ++ [request]) =
          (transact
            (updateClientTransaction platform context actor clientActor
              ended.id ended.input)
            (databaseAfter platform requests)).2 ∧
        ended.result =
          (transact
            (updateClientTransaction platform context actor clientActor
              ended.id ended.input)
            (databaseAfter platform requests)).1 := by
  unfold answersOf at isAnswer
  split at isAnswer
  next context index =>
    split at isAnswer
    next actor clientActor id input atIndex =>
      obtain rfl := List.mem_singleton.mp isAnswer
      refine ⟨context, actor, clientActor, rfl, ?_, rfl⟩
      rw [databaseAfter_concat, step_attempt_database atIndex]
      rfl
    next => cases isAnswer
  next => cases isAnswer

/-- A successful answer shows a version of the client. -/
theorem isVersion_of_answer {requests : List Request} {request : Request}
    {ended : EndedEdit} {result : UpdateClientResult}
    (isAnswer : ended ∈ answersOf platform requests request)
    (succeeds : ended.result = .ok result) :
    IsVersion platform (requests ++ [request]) ended.id
      (pageOf result.client) := by
  obtain ⟨context, actor, clientActor, -, committed, answered⟩ :=
    answersOf_cases isAnswer
  rw [answered] at succeeds
  cases outcome :
      updateClientTransaction platform context actor clientActor ended.id
        ended.input (databaseAfter platform requests) with
  | error refusal =>
      rw [transact_of_error outcome] at succeeds
      cases succeeds
  | ok pair =>
      obtain ⟨value, stored⟩ := pair
      rw [transact_of_ok outcome] at succeeds committed
      obtain rfl := Except.ok.inj succeeds
      obtain ⟨row, found, shown⟩ := pageOf_result outcome
      refine ⟨_, row, List.prefix_rfl, ?_, shown⟩
      rw [committed]
      exact found

/-- A request meets a conflict only when the client has another version. -/
theorem other_version_of_conflict {context : RequestContext}
    {actor : AuthenticatedUser} {clientActor : ClientActor}
    {input : UpdateClientRequest} {database : Database} {row : ClientRecord}
    {refusal : ClientError} (isConflict : refusal.code = .clientConflict)
    (refuses :
      updateClientTransaction platform context actor clientActor id input
        database = .error refusal)
    (found : findClientById database id = some row) :
    row.details.updatedAt ≠ input.expectedUpdatedAt := by
  intro current
  have refusalOther : notFoundOrForbidden clientActor ≠ refusal := by
    rintro rfl
    unfold notFoundOrForbidden at isConflict
    split at isConflict <;> cases isConflict
  have contactOther : contactRequired ≠ refusal := by
    rintro rfl
    cases isConflict
  have unstale :
      (findClientById database id).any fun row =>
        row.details.updatedAt = input.expectedUpdatedAt := by
    simp [found, current]
  have avoids :
      Avoids
        (updateClientTransaction platform context actor clientActor id input
          database) refusal := by
    unfold updateClientTransaction
    apply avoids_bind (avoids_require fun _ => refusalOther)
    intro _ _
    apply avoids_bind (avoids_demand refusalOther)
    intro existing demanded
    obtain rfl := Option.some.inj (found.symm.trans (demand_eq_ok.mp demanded))
    apply avoids_bind (avoids_require fun stale => absurd current stale)
    intro _ _
    apply avoids_bind (avoids_require fun _ => contactOther)
    intro _ _
    dsimp only
    by_cases unchanged :
        changedFieldNames (changedData platform input row) = []
    · rw [if_pos unchanged]
      apply avoids_bind (avoids_demand refusalOther)
      intro _ _
      exact avoids_ok _
    · rw [if_neg unchanged]
      apply avoids_bind
      · unfold writeChanges
        rw [updateClientFieldsIfUnstale, if_pos unstale]
        apply avoids_bind (avoids_require fun none => absurd (by simp) none)
        intro _ _
        apply avoids_bind (avoids_demand refusalOther)
        intro _ _
        exact avoids_ok _
      · intro _ _
        exact avoids_ok _
  exact avoids refuses

/-- The answer of a server step is sound after it. -/
theorem answerSound_of_answersOf {requests : List Request}
    {request : Request} {ended : EndedEdit}
    (isAnswer : ended ∈ answersOf platform requests request) :
    AnswerSound platform (requests ++ [request]) ended := by
  obtain ⟨context, actor, clientActor, servedNow, -, answered⟩ :=
    answersOf_cases isAnswer
  refine ⟨by rw [servedNow]; simp, ?_, ?_⟩
  · intro result succeeds
    exact isVersion_of_answer isAnswer succeeds
  · intro refusal fails isConflict row found
    rw [servedNow, List.take_left] at found
    rw [answered] at fails
    cases outcome :
        updateClientTransaction platform context actor clientActor ended.id
          ended.input (databaseAfter platform requests) with
    | ok pair =>
        rw [transact_of_ok outcome] at fails
        cases fails
    | error failure =>
        rw [transact_of_error outcome] at fails
        obtain rfl := Except.error.inj fails
        exact other_version_of_conflict isConflict outcome found

/-- A request that met a conflict named a version that is gone. -/
theorem superseded_of_conflict {requests : List Request} {edit : SentEdit}
    {ended : EndedEdit} {refusal : ClientError} {now : Timestamp}
    (sent : SentSound platform requests edit)
    (answer : AnswerSound platform requests ended)
    (sameClient : ended.id = edit.id)
    (accepted : edit.input dates now = some ended.input)
    (inOrder : edit.sentAt ≤ ended.servedAt)
    (fails : ended.result = .error refusal)
    (isConflict : refusal.code = .clientConflict) :
    Superseded platform requests edit.id edit.expectedUpdatedAt := by
  have shown := sent.2
  have seenThen :
      requests.take ended.servedAt =
        requests.take edit.sentAt ++
          (requests.take ended.servedAt).drop edit.sentAt := by
    have split := List.take_append_drop edit.sentAt
      (requests.take ended.servedAt)
    rw [List.take_take, Nat.min_eq_left inOrder] at split
    exact split.symm
  obtain ⟨earlier, row, ⟨rest, isTake⟩, found, isPage⟩ := sent.2
  obtain ⟨other, foundOther⟩ :=
    exists_row_later
      (rest ++ (requests.take ended.servedAt).drop edit.sentAt) found
  rw [← List.append_assoc, isTake, ← seenThen] at foundOther
  have isOther :=
    answer.refused refusal fails isConflict other
      (by rw [sameClient]; exact foundOther)
  rw [expectedUpdatedAt_of_schema accepted] at isOther
  rw [seenThen] at foundOther
  have gone := superseded_of_other shown foundOther isOther
  rw [← seenThen] at gone
  have later :=
    @Superseded.grow _ _ _ (requests.drop ended.servedAt) _ gone
  rw [List.take_append_drop] at later
  exact later

theorem Sound.served (sound : Sound platform editing) (request : Request) :
    Sound platform
      { editing with
        requests := editing.requests ++ [request]
        answers :=
          editing.answers ++
            answersOf platform editing.requests request } where
  pages := fun page member => (sound.pages page member).grow
  forms := fun entry member => (sound.forms entry member).grow
  sent := fun edit member => (sound.sent edit member).grow
  answers := by
    intro ended member
    rcases List.mem_append.mp member with old | new
    · exact (sound.answers ended old).grow
    · exact answerSound_of_answersOf new

/-- A form sends its patch only when it is idle and in no conflict. -/
theorem handleSubmit_eq_true {before form : EditClientForm}
    (sends : before.handleSubmit = (form, true)) :
    form = { before with submitting := true } ∧ before.conflict = false := by
  unfold EditClientForm.handleSubmit at sends
  split at sends
  next => cases sends
  next free =>
    split at sends
    · cases sends
    · split at sends
      · cases sends
      · refine ⟨(Prod.mk.inj sends).1.symm, ?_⟩
        cases inConflict : before.conflict with
        | false => rfl
        | true =>
            rw [inConflict, Bool.or_true] at free
            exact absurd rfl free

theorem Sound.submitted (sound : Sound platform editing)
    {index : Nat} {entry : OpenForm} {form : EditClientForm}
    (found : editing.forms[index]? = some entry)
    (sends : entry.form.handleSubmit = (form, true)) :
    Sound platform
      { editing.withForm index
          ⟨entry.id, form.render, some editing.sent.length⟩ with
        sent :=
          editing.sent ++
            [{ id := entry.id
               seen := entry.form.baseline
               entered := entry.form.fields
               expectedUpdatedAt := entry.form.expectedUpdatedAt
               sentAt := editing.requests.length }] } := by
  have formSound := sound.forms entry (List.mem_of_getElem? found)
  obtain ⟨rfl, noConflict⟩ := handleSubmit_eq_true sends
  have sentSound :
      Sound platform
        { editing with
          sent :=
            editing.sent ++
              [{ id := entry.id
                 seen := entry.form.baseline
                 entered := entry.form.fields
                 expectedUpdatedAt := entry.form.expectedUpdatedAt
                 sentAt := editing.requests.length }] } :=
    { sound with
      forms := fun other listed => (sound.forms other listed).more_sent
      sent := by
        intro edit listed
        rcases List.mem_append.mp listed with old | new
        · exact sound.sent edit old
        · obtain rfl := List.mem_singleton.mp new
          refine ⟨le_refl _, ?_⟩
          rw [List.take_length]
          exact formSound.baseline }
  have waits :
      FormSound platform editing.requests
        (editing.sent ++
          [{ id := entry.id
             seen := entry.form.baseline
             entered := entry.form.fields
             expectedUpdatedAt := entry.form.expectedUpdatedAt
             sentAt := editing.requests.length }])
        ⟨entry.id, { entry.form with submitting := true },
          some editing.sent.length⟩ :=
    { props := formSound.props
      baseline := formSound.baseline
      waiting := by
        intro request same
        obtain rfl := Option.some.inj same
        exact
          ⟨noConflict, _, List.getElem?_concat_length .., rfl, rfl⟩
      idle := by
        intro isIdle
        cases isIdle
      conflict := formSound.conflict }
  exact sentSound.withForm index waits.render

/-- The form of an answered request. -/
theorem FormSound.answered {requests : List Request} {sent : List SentEdit}
    {entry : OpenForm} {request : Nat} {edit : SentEdit} {now : Timestamp}
    {ended : EndedEdit} (sound : FormSound platform requests sent entry)
    (waits : entry.waitingFor = some request)
    (isSent : sent[request]? = some edit)
    (sentSound : SentSound platform requests edit)
    (answer : AnswerSound platform requests ended)
    (sameClient : ended.id = edit.id)
    (accepted : edit.input dates now = some ended.input)
    (inOrder : edit.sentAt ≤ ended.servedAt) :
    FormSound platform requests sent
      ⟨entry.id, entry.form.settle (.ofResult ended.result), none⟩ := by
  obtain ⟨noConflict, own, ownSent, ownClient, ownVersion⟩ :=
    sound.waiting request waits
  rw [isSent] at ownSent
  obtain rfl := Option.some.inj ownSent
  have noWait :
      ∀ other, (none : Option Nat) = some other →
        entry.form.conflict = false ∧
          ∃ edit,
            sent[other]? = some edit ∧ edit.id = entry.id ∧
              edit.expectedUpdatedAt = entry.form.expectedUpdatedAt := by
    intro other waitsAfter
    cases waitsAfter
  have kept :
      FormSound platform requests sent
        ⟨entry.id, { entry.form with submitting := false }, none⟩ :=
    { props := sound.props
      baseline := sound.baseline
      waiting := noWait
      idle := fun _ => rfl
      conflict := sound.conflict }
  cases outcome : ended.result with
  | error refusal =>
      simp only [SaveOutcome.ofResult]
      split
      next isConflict =>
        have gone :=
          superseded_of_conflict sentSound answer sameClient accepted inOrder
            outcome isConflict
        rw [ownClient, ownVersion] at gone
        exact
          { props := sound.props
            baseline := sound.baseline
            waiting := by
              intro other waitsAfter
              cases waitsAfter
            idle := fun _ => rfl
            conflict := fun _ => gone }
      next => exact kept
  | ok value =>
      simp only [SaveOutcome.ofResult]
      split
      next =>
        have version := answer.saved value outcome
        rw [sameClient, ownClient] at version
        exact
          { props := sound.props
            baseline := version
            waiting := by
              intro other waitsAfter
              cases waitsAfter
            idle := fun _ => rfl
            conflict := by
              intro inConflict
              rw [EditClientForm.settle, noConflict] at inConflict
              cases inConflict }
      next => exact kept

theorem Sound.step (sound : Sound platform editing)
    (next : Step platform dates editing after) : Sound platform after := by
  cases next with
  | pageRead id actor client found =>
      obtain ⟨row, stored, shown⟩ := pageOf_read found
      exact
        { sound with
          pages := by
            intro page member
            rcases List.mem_append.mp member with old | new
            · exact sound.pages page old
            · obtain rfl := List.mem_singleton.mp new
              exact ⟨_, row, List.prefix_rfl, stored, shown⟩ }
  | mounted id page read =>
      have version := sound.pages _ read
      have mountedSound :
          FormSound platform editing.requests editing.sent
            ⟨id, .mount page, none⟩ :=
        { props := version
          baseline := version
          waiting := by
            intro request waits
            cases waits
          idle := fun _ => rfl
          conflict := by
            intro inConflict
            cases inConflict }
      exact
        { sound with
          forms := by
            intro entry member
            rcases List.mem_append.mp member with old | new
            · exact sound.forms entry old
            · obtain rfl := List.mem_singleton.mp new
              exact mountedSound }
  | propsChanged index entry page found read =>
      have formSound := sound.forms entry (List.mem_of_getElem? found)
      have changed :
          FormSound platform editing.requests editing.sent
            { entry with form := { entry.form with props := page } } :=
        { formSound with props := sound.pages _ read }
      exact sound.withForm index changed.render
  | typed index entry name value found enabled =>
      have formSound := sound.forms entry (List.mem_of_getElem? found)
      have changed :
          FormSound platform editing.requests editing.sent
            { entry with form := entry.form.updateField name value } :=
        { formSound with }
      exact sound.withForm index changed.render
  | refreshClicked index entry found =>
      have formSound := sound.forms entry (List.mem_of_getElem? found)
      have changed :
          FormSound platform editing.requests editing.sent
            { entry with form := entry.form.requestRefresh } :=
        { formSound with }
      exact sound.withForm index changed.render
  | submitted index entry form found sends =>
      exact sound.submitted found sends
  | served request => exact sound.served request
  | failed index entry request found waiting =>
      have formSound := sound.forms entry (List.mem_of_getElem? found)
      have settled :
          FormSound platform editing.requests editing.sent
            ⟨entry.id, entry.form.settle .failed, none⟩ :=
        { props := formSound.props
          baseline := formSound.baseline
          waiting := by
            intro other waitsAfter
            cases waitsAfter
          idle := fun _ => rfl
          conflict := formSound.conflict }
      exact sound.withForm index settled.render
  | answered index entry request edit now ended found waiting sent isAnswer
      sameClient accepted inOrder =>
      have formSound := sound.forms entry (List.mem_of_getElem? found)
      have settled :=
        formSound.answered waiting sent
          (sound.sent edit (List.mem_of_getElem? sent))
          (sound.answers ended isAnswer) sameClient accepted inOrder
      exact sound.withForm index settled.render

theorem Reachable.sound
    (reachable : Reachable platform dates editing) :
    Sound platform editing := by
  induction reachable with
  | start => exact sound_start
  | next before step hypothesis => exact hypothesis.step step

/-! ## Nothing unseen is overwritten -/

/-- The server step is an attempt of the sent edit that takes effect. -/
structure TakesEffect (platform : StringPlatform) (dates : DatePlatform)
    (editing : Editing) (edit : SentEdit) (now : Timestamp)
    (earlier : List Request) (request : Request) : Prop where
  sent : edit ∈ editing.sent
  served : earlier ++ [request] <+: editing.requests
  effective :
    ∃ input,
      edit.input dates now = some input ∧
        EditTakesEffect platform (stateAfter platform earlier) request
          edit.id input

/-- What the forms of a client page guarantee. -/
structure FormsKept (platform : StringPlatform) (dates : DatePlatform)
    (editing : Editing) : Prop where
  /-- When an edit takes effect, the client it meets has exactly the texts
  its user saw; a field the user left alone keeps its text, and a field the
  user changed shows what was entered. -/
  unseen :
    ∀ edit now earlier request,
      TakesEffect platform dates editing edit now earlier request →
        ∃ before after,
          findClientById (databaseAfter platform earlier) edit.id =
              some before ∧
            findClientById (databaseAfter platform (earlier ++ [request]))
                edit.id = some after ∧
              fieldsOf before = edit.seen ∧
                ∀ name,
                  if edit.entered name = edit.seen name then
                    fieldsOf after name = edit.seen name
                  else
                    ShowsEntered name (edit.entered name)
                      (fieldsOf after name)
  /-- A form in conflict starts again, as if it were new, when it was asked
  to refresh and gets a page that was read now. -/
  recovers :
    ∀ entry ∈ editing.forms, entry.form.conflict →
      ∀ actor client,
        findClientByIdForRead (databaseAfter platform editing.requests)
            entry.id actor = some client →
          EditClientForm.render
              { entry.form.requestRefresh with props := pageOf client } =
            .mount (pageOf client)

theorem unseen_of_takesEffect {edit : SentEdit} {now : Timestamp}
    {earlier : List Request} {request : Request}
    (reads : ReadsIsoDates dates.isoDate)
    (sound : Sound platform editing)
    (fresh : ChangesUpdatedAt platform editing.requests)
    (takes : TakesEffect platform dates editing edit now earlier request) :
    ∃ before after,
      findClientById (databaseAfter platform earlier) edit.id =
          some before ∧
        findClientById (databaseAfter platform (earlier ++ [request]))
            edit.id = some after ∧
          fieldsOf before = edit.seen ∧
            ∀ name,
              if edit.entered name = edit.seen name then
                fieldsOf after name = edit.seen name
              else
                ShowsEntered name (edit.entered name)
                  (fieldsOf after name) := by
  obtain ⟨input, accepted, effective⟩ := takes.effective
  obtain ⟨context, index, rfl⟩ := effective.isAttempt
  obtain ⟨actorId, before, after, sameId, edited⟩ :=
    applied_of_takesEffect effective
  have found := edited.found
  have written := edited.written
  rw [sameId] at found written
  have named : before.details.updatedAt = edit.expectedUpdatedAt :=
    edited.version.trans (expectedUpdatedAt_of_schema accepted)
  have met :
      IsVersion platform editing.requests edit.id
        ⟨fieldsOf before, before.details.updatedAt⟩ :=
    ⟨earlier, before, (List.prefix_append _ _).trans takes.served, found,
      rfl⟩
  have shown := (sound.sent edit takes.sent).isVersion
  have sameTexts : fieldsOf before = edit.seen :=
    (ClientPage.mk.inj (met.unique fresh shown named)).1
  refine ⟨before, after, found, ?_, sameTexts, ?_⟩
  · rw [databaseAfter_concat]
    exact written
  · intro name
    obtain ⟨kept, saved⟩ := fieldsOf_patched reads accepted edited.patched name
    by_cases untouched : edit.entered name = edit.seen name
    · rw [if_pos untouched, ← sameTexts]
      apply kept
      rw [SentEdit.patch, if_neg (not_not.mpr untouched)]
    · rw [if_neg untouched]
      apply saved
      rw [SentEdit.patch, if_pos untouched]

theorem mount_of_conflict {entry : OpenForm} {actor : ClientActor}
    {client : ClientDetailRecord}
    (sound :
      FormSound platform editing.requests editing.sent entry)
    (fresh : ChangesUpdatedAt platform editing.requests)
    (inConflict : entry.form.conflict)
    (read :
      findClientByIdForRead (databaseAfter platform editing.requests)
        entry.id actor = some client) :
    EditClientForm.render
        { entry.form.requestRefresh with props := pageOf client } =
      .mount (pageOf client) := by
  obtain ⟨row, found, shown⟩ := pageOf_read read
  have newer : (pageOf client).updatedAt ≠ entry.form.expectedUpdatedAt := by
    rw [shown]
    exact (sound.conflict inConflict).ne fresh found
  have notWaiting : entry.waitingFor = none := by
    cases waits : entry.waitingFor with
    | none => rfl
    | some request =>
        have noConflict := (sound.waiting request waits).1
        rw [inConflict] at noConflict
        cases noConflict
  have notSubmitting := sound.idle notWaiting
  simp only [EditClientForm.render, EditClientForm.requestRefresh,
    EditClientForm.mount, inConflict, Bool.true_or, true_and, newer, ne_eq,
    not_false_eq_true, if_true, notSubmitting]

section TwoForms

def officeAdmin : AuthenticatedUser := ⟨4, .adminManager⟩

/-- The ids of a transaction at this time are new. -/
def atTime (now : Timestamp) : RequestContext :=
  ⟨fun number => now.toNat * 10 + number, now⟩

theorem anaAddress_reaches :
    (some anaAddress).isSome ∨ (none : Option NonBlank).isSome :=
  Or.inl rfl

/-- A lead that becomes the client 40. -/
def becameClient : List Request :=
  [.call officeAdmin
      (.createLead
        ⟨"Ana Reyes", "Website", some anaAddress, none, none,
          anaAddress_reaches⟩),
    .attempt (atTime 1) 0,
    .call officeAdmin (.updateLeadStatus 10 ⟨.new, .contacted, none⟩),
    .attempt (atTime 2) 0,
    .call officeAdmin (.updateLeadStatus 10 ⟨.contacted, .qualified, none⟩),
    .attempt (atTime 3) 0,
    .call officeAdmin (.convertLead 10 ⟨none⟩),
    .attempt (atTime 4) 0]

def anaDetail : ClientDetailRecord where
  id := 40
  fullName := "Ana Reyes"
  email := some anaAddress
  phone := none
  address := none
  nationality := none
  dateOfBirth := none
  emergencyContact := none
  notes := none
  createdAt := 4
  updatedAt := 4
  assignment := none
  originatingLeads := [⟨10, "Ana Reyes", .convertedToClient, "Website", 1⟩]

theorem read_anaDetail :
    findClientByIdForRead (databaseAfter plainStrings becameClient) 40
        ⟨4, .adminManager⟩ =
      some anaDetail := by
  decide +kernel

/-- The form with one text typed over. -/
def typedForm (name : FieldName) (text : String) : EditClientForm :=
  (EditClientForm.mount (pageOf anaDetail)).updateField name text

/-- The request of that form. -/
def typedEdit (name : FieldName) (text : String) : SentEdit where
  id := 40
  seen := (pageOf anaDetail).fields
  entered := (typedForm name text).fields
  expectedUpdatedAt := 4
  sentAt := 8

def notesInput : UpdateClientRequest where
  fullName := none
  email := none
  phone := none
  address := none
  nationality := none
  dateOfBirth := none
  emergencyContact := none
  notes := some (some "Vegan")
  expectedUpdatedAt := 4
  editsSomething := by decide

def addressInput : UpdateClientRequest where
  fullName := none
  email := none
  phone := none
  address := some (some "Cebu")
  nationality := none
  dateOfBirth := none
  emergencyContact := none
  notes := none
  expectedUpdatedAt := 4
  editsSomething := by decide

/-- The notes are saved, and then the address arrives. -/
def bothServed : List Request :=
  becameClient ++ [.call officeAdmin (.updateClient 40 notesInput)] ++
    [.attempt (atTime 5) 0] ++
    [.call officeAdmin (.updateClient 40 addressInput)] ++
    [.attempt (atTime 6) 0]

def addressRefused : EndedEdit where
  servedAt := 11
  id := 40
  input := addressInput
  result := .error staleVersion

/-- The client with the notes. -/
def savedDetail : ClientDetailRecord where
  id := 40
  fullName := "Ana Reyes"
  email := some anaAddress
  phone := none
  address := none
  nationality := none
  dateOfBirth := none
  emergencyContact := none
  notes := some "Vegan"
  createdAt := 4
  updatedAt := 5
  assignment := none
  originatingLeads := [⟨10, "Ana Reyes", .convertedToClient, "Website", 1⟩]

theorem read_savedDetail :
    findClientByIdForRead (databaseAfter plainStrings bothServed) 40
        ⟨4, .adminManager⟩ =
      some savedDetail := by
  decide +kernel

theorem notes_effective :
    (step plainStrings
        (stateAfter plainStrings
          (becameClient ++
            [.call officeAdmin (.updateClient 40 notesInput)]))
        (.attempt (atTime 5) 0)).database ≠
      databaseAfter plainStrings
        (becameClient ++
          [.call officeAdmin (.updateClient 40 notesInput)]) := by
  intro same
  have details := congrArg Database.details same
  revert details
  decide +kernel

theorem accepted_notes :
    (typedEdit .notes "Vegan").input gregorianDates 5 = some notesInput := by
  rfl

theorem accepted_address :
    (typedEdit .address "Cebu").input gregorianDates 6 =
      some addressInput := by
  rfl

theorem address_refused :
    addressRefused ∈
      answersOf plainStrings
        (becameClient ++ [.call officeAdmin (.updateClient 40 notesInput)] ++
          [.attempt (atTime 5) 0] ++
          [.call officeAdmin (.updateClient 40 addressInput)])
        (.attempt (atTime 6) 0) := by
  exact List.mem_singleton_self _

/-- Both forms are sent, and the second one meets a conflict. -/
def twoForms (answers : List EndedEdit) : Editing where
  requests := bothServed
  pages := [(40, pageOf anaDetail)]
  forms :=
    [⟨40, { typedForm .notes "Vegan" with submitting := true }, some 0⟩,
      ⟨40, { typedForm .address "Cebu" with conflict := true }, none⟩]
  sent := [typedEdit .notes "Vegan", typedEdit .address "Cebu"]
  answers := answers

/-- The server may serve any requests before a form is mounted. -/
theorem exists_reachable_served (requests : List Request) :
    ∃ answers,
      Reachable plainStrings gregorianDates
        ⟨requests, [], [], [], answers⟩ := by
  induction requests using List.reverseRecOn with
  | nil => exact ⟨[], .start⟩
  | append_singleton requests request inductionHypothesis =>
      obtain ⟨answers, reachable⟩ := inductionHypothesis
      exact ⟨_, reachable.next (.served request)⟩

theorem exists_reachable_twoForms :
    ∃ answers,
      Reachable plainStrings gregorianDates (twoForms answers) := by
  obtain ⟨answers, reachable⟩ := exists_reachable_served becameClient
  have read :=
    reachable.next (.pageRead 40 ⟨4, .adminManager⟩ anaDetail read_anaDetail)
  have mounted :=
    read.next (.mounted 40 (pageOf anaDetail) List.mem_cons_self)
  have mountedTwice :=
    mounted.next (.mounted 40 (pageOf anaDetail) List.mem_cons_self)
  have typedNotes :=
    mountedTwice.next (.typed 0 _ .notes "Vegan" rfl rfl)
  have typedAddress :=
    typedNotes.next (.typed 1 _ .address "Cebu" rfl rfl)
  have sentNotes :=
    typedAddress.next
      (.submitted 0 _ { typedForm .notes "Vegan" with submitting := true } rfl
        rfl)
  have sentAddress :=
    sentNotes.next
      (.submitted 1 _ { typedForm .address "Cebu" with submitting := true }
        rfl rfl)
  have served :=
    (((sentAddress.next
        (.served (.call officeAdmin (.updateClient 40 notesInput)))).next
          (.served (.attempt (atTime 5) 0))).next
            (.served (.call officeAdmin (.updateClient 40 addressInput)))).next
              (.served (.attempt (atTime 6) 0))
  have answered :=
    served.next
      (.answered 1 _ 1 (typedEdit .address "Cebu") 6 addressRefused rfl rfl
        rfl (List.mem_append_right _ address_refused) rfl accepted_address
        (by decide))
  exact ⟨_, answered⟩

theorem notes_takeEffect {answers : List EndedEdit} :
    TakesEffect plainStrings gregorianDates (twoForms answers)
      (typedEdit .notes "Vegan") 5
      (becameClient ++ [.call officeAdmin (.updateClient 40 notesInput)])
      (.attempt (atTime 5) 0) where
  sent := List.mem_cons_self
  served :=
    ⟨[.call officeAdmin (.updateClient 40 addressInput),
      .attempt (atTime 6) 0], rfl⟩
  effective :=
    ⟨notesInput, accepted_notes, atTime 5, 0, officeAdmin,
      ⟨4, .adminManager⟩, rfl, rfl, notes_effective⟩

end TwoForms

end Editing

end Heritage.Clients
