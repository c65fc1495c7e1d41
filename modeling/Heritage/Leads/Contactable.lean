import Heritage.Leads.Commits

/-!
# Contactable leads

Every reading of an update refuses a patch after which the lead it saw would
have neither email nor phone.  The write happens later: it keeps the lead
contactable exactly when the channel it leaves alone is still there.
-/

namespace Heritage.Leads

open Heritage.Store
open Repository

/-- `createLeadSchema` and `updateLead`: at least one of email or phone. -/
def Lead.Contactable (lead : Lead) : Prop :=
  lead.email.isSome ∨ lead.phone.isSome

instance (lead : Lead) : Decidable lead.Contactable :=
  inferInstanceAs (Decidable (_ ∨ _))

/-- The update does not clear both channels. -/
def LeavesChannel (data : UpdateLeadFieldsInput) : Prop :=
  data.email = some none → data.phone ≠ some none

/-- A channel that the update clears without writing the other one leaves a
lead that has the other one. -/
def ClearsSafely (data : UpdateLeadFieldsInput) (stored : Lead) : Prop :=
  (data.email = some none → data.phone = none → stored.phone.isSome) ∧
    (data.phone = some none → data.email = none → stored.email.isSome)

/-- The step performs no update, or one that clears no channel of a lead that
has lost the other since it was read. -/
def ClearsPresentChannel (state : State) (request : Request) : Prop :=
  ∀ update, performedUpdate state request = some update →
    ClearsSafely update.prepared.data update.overwritten

theorem changedTo_eq_some {τ : Type} [DecidableEq τ] {supplied : Option τ}
    {existing value : τ} (changed : changedTo supplied existing = some value) :
    supplied.getD existing = value := by
  obtain ⟨isSupplied, -⟩ := Option.filter_eq_some_iff.mp changed
  rw [isSupplied]
  rfl

/-- A reading prepares no update that clears both channels. -/
theorem leavesChannel_of_read
    {platform : StringPlatform} {actor : AuthenticatedUser} {id : Uuid}
    {input : UpdateLeadRequest} {tables : Tables} {prepared : PreparedUpdate}
    (read :
      readLeadForUpdate platform actor id input tables =
        .ok (.write prepared)) :
    LeavesChannel prepared.data := by
  simp only [readLeadForUpdate, bind_eq_ok, require_eq_ok, demand_eq_ok,
    exists_const] at read
  obtain ⟨leadActor, -, -, existing, -, -, retained, prepares⟩ := read
  split at prepares
  · cases prepares
  simp only [Except.ok.injEq, UpdateReading.write.injEq] at prepares
  subst prepares
  intro clearsEmail clearsPhone
  have noEmail := changedTo_eq_some clearsEmail
  have noPhone := changedTo_eq_some clearsPhone
  rw [noEmail, noPhone] at retained
  rcases retained with present | present <;> cases present

/-- The lead ids are unique and no prepared update clears both channels. -/
structure ReadingsChecked (state : State) : Prop where
  uniqueIds : (state.tables.leads.map Lead.id).Nodup
  leavesChannel :
    ∀ prepared ∈ state.pending, LeavesChannel prepared.data

def AllContactable (state : State) : Prop :=
  ∀ lead ∈ state.tables.leads, lead.Contactable

variable {platform : StringPlatform} {state : State} {request : Request}

theorem step_readingsChecked (checked : ReadingsChecked state) :
    ReadingsChecked (step platform state request) where
  uniqueIds := step_leadIds_nodup platform checked.uniqueIds
  leavesChannel := by
    cases request with
    | updateLeadRead actor id input =>
        simp only [step]
        split
        next prepared read =>
          intro other member
          rcases List.mem_append.mp member with old | new
          · exact checked.leavesChannel other old
          · rw [List.mem_singleton.mp new]
            exact leavesChannel_of_read read
        · exact checked.leavesChannel
    | updateLeadWrite context index =>
        simp only [step]
        split
        · exact checked.leavesChannel
        · intro other member
          exact
            checked.leavesChannel other (List.mem_of_mem_eraseIdx member)
    | _ => exact checked.leavesChannel

/-- An update that leaves a channel keeps a contactable lead contactable
exactly when it clears safely. -/
theorem contactable_change_iff
    {data : UpdateLeadFieldsInput} {now : Timestamp} {lead : Lead}
    (leavesChannel : LeavesChannel data) (contactable : lead.Contactable) :
    (data.change now lead).Contactable ↔ ClearsSafely data lead := by
  obtain ⟨fullName, email, phone, normalizedEmail, normalizedPhone, source,
    notes⟩ := data
  -- Each channel is left alone, cleared or overwritten.
  rcases email with _ | _ | email <;> rcases phone with _ | _ | phone <;>
    simp_all [Lead.Contactable, UpdateLeadFieldsInput.change, ClearsSafely,
      LeavesChannel]

theorem contactable_of_leadsWritten
    {leads : List Lead} (unique : (state.tables.leads.map Lead.id).Nodup)
    (contactable : AllContactable state) (written : LeadsWritten state leads) :
    ∀ lead ∈ leads, lead.Contactable := by
  cases written with
  | unchanged =>
      exact contactable
  | created row fresh rowContactable =>
      intro lead member
      rcases List.mem_append.mp member with old | new
      · exact contactable lead old
      · rw [List.mem_singleton.mp new]
        exact rowContactable
  | statusChanged lead newStatus now found =>
      exact
        forall_mem_updateBy unique found
          (contactable lead (mem_of_findBy found))
          fun row member _ => contactable row member
  | converted lead clientId now found =>
      exact
        forall_mem_updateBy unique found
          (contactable lead (mem_of_findBy found))
          fun row member _ => contactable row member

/-- One step keeps every lead contactable exactly when it clears no channel
of a lead that has lost the other. -/
theorem step_allContactable_iff (checked : ReadingsChecked state)
    (contactable : AllContactable state) :
    AllContactable (step platform state request) ↔
      ClearsPresentChannel state request := by
  unfold AllContactable ClearsPresentChannel
  cases performed : performedUpdate state request with
  | none =>
      constructor
      · rintro - update impossible
        cases impossible
      · intro _
        exact
          contactable_of_leadsWritten checked.uniqueIds contactable
            (step_leadsWritten platform performed)
  | some update =>
      obtain ⟨isPending, found⟩ := pending_of_performedUpdate performed
      have member := mem_of_findBy found
      have changeIff :=
        @contactable_change_iff _ update.now _
          (checked.leavesChannel _ isPending) (contactable _ member)
      rw [step_of_performedUpdate platform performed]
      constructor
      · rintro allContactable _ ⟨⟩
        apply changeIff.mp
        have changedMember :=
          @mem_updateBy_of_mem _ _ _ Lead.id update.prepared.id
            (update.prepared.data.change update.now) _ _ member
        rw [if_pos (key_of_findBy found)] at changedMember
        exact allContactable _ changedMember
      · intro clearsSafely
        exact
          forall_mem_updateBy checked.uniqueIds found
            (changeIff.mpr (clearsSafely update rfl))
            fun row rowMember _ => contactable row rowMember

/-- Every lead of every state of a run has an email or a phone exactly when
no step of it clears a channel of a lead that has lost the other. -/
theorem leads_contactable_iff (platform : StringPlatform)
    (requests : List Request) :
    (∀ earlier later, requests = earlier ++ later →
        ∀ lead ∈ (stateAfter platform earlier).tables.leads,
          lead.Contactable) ↔
      AllSteps (step platform) ClearsPresentChannel State.initial
        requests := by
  have initiallyChecked : ReadingsChecked State.initial := by
    constructor
    · exact List.nodup_nil
    · intro prepared member
      cases member
  have initiallyContactable : AllContactable State.initial := by
    intro lead member
    cases member
  exact
    throughout_iff_allSteps
      (fun _ _ checked => step_readingsChecked checked)
      (fun _ _ checked contactable =>
        step_allContactable_iff checked contactable)
      initiallyChecked initiallyContactable requests

/-- An Admin/Manager creates lead 1 with both channels.  One request reads it
to clear the email, another to clear the phone; then both write. -/
def crossingUpdates : List Request :=
  let admin : AuthenticatedUser := ⟨7, .adminManager⟩
  let context : RequestContext := ⟨fun index => index + 1, 0⟩
  let patch : UpdateLeadRequest := ⟨none, none, none, none, none⟩
  [.createLead context admin
      { fullName := "Ben Cruz"
        source := "WEBSITE"
        email := some ⟨"ben@example.ph", by decide⟩
        phone := some mobileNumber
        notes := none
        contactable := by decide },
    .updateLeadRead admin 1 { patch with email := some none },
    .updateLeadRead admin 1 { patch with phone := some none },
    .updateLeadWrite context 0,
    .updateLeadWrite context 0]

theorem crossing_updates_clear_both :
    ∃ lead ∈ (stateAfter ⟨id, id⟩ crossingUpdates).tables.leads,
      ¬ lead.Contactable := by
  decide

end Heritage.Leads
