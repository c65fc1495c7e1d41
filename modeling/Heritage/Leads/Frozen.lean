import Heritage.Leads.Commits

/-!
# Converted leads

The lock on a converted lead is checked when an update reads it.  A status
change and a conversion check the status in the transaction that writes, so
the one write that can reach a converted lead is that of an update that read
it before its conversion.
-/

namespace Heritage.Leads

open Heritage.Store
open Repository

/-- The fields no later step may change. -/
structure SameDetails (first second : Lead) : Prop where
  fullName : second.fullName = first.fullName
  email : second.email = first.email
  phone : second.phone = first.phone
  source : second.source = first.source
  notes : second.notes = first.notes
  status : second.status = first.status

/-- Every converted lead is still there with the same details. -/
def Frozen (first second : List Lead) : Prop :=
  ∀ id lead, findBy Lead.id id first = some lead →
    lead.status = .convertedToClient →
      ∃ kept, findBy Lead.id id second = some kept ∧ SameDetails lead kept

/-- Every field the update writes has that value already. -/
structure WritesStored (data : UpdateLeadFieldsInput) (stored : Lead) :
    Prop where
  fullName : ∀ value, data.fullName = some value → value = stored.fullName
  email : ∀ value, data.email = some value → value = stored.email
  phone : ∀ value, data.phone = some value → value = stored.phone
  source : ∀ value, data.source = some value → value = stored.source
  notes : ∀ value, data.notes = some value → value = stored.notes

/-- The step performs no update on a converted lead, or one that writes what
is stored. -/
def SparesConverted (state : State) (request : Request) : Prop :=
  ∀ update, performedUpdate state request = some update →
    update.overwritten.status = .convertedToClient →
      WritesStored update.prepared.data update.overwritten

theorem SameDetails.refl (lead : Lead) : SameDetails lead lead :=
  ⟨rfl, rfl, rfl, rfl, rfl, rfl⟩

theorem SameDetails.trans {first second third : Lead}
    (left : SameDetails first second) (right : SameDetails second third) :
    SameDetails first third where
  fullName := right.fullName.trans left.fullName
  email := right.email.trans left.email
  phone := right.phone.trans left.phone
  source := right.source.trans left.source
  notes := right.notes.trans left.notes
  status := right.status.trans left.status

theorem Frozen.refl (leads : List Lead) : Frozen leads leads := by
  intro id lead found _
  exact ⟨lead, found, .refl lead⟩

theorem Frozen.trans {first second third : List Lead}
    (left : Frozen first second) (right : Frozen second third) :
    Frozen first third := by
  intro id lead found isConverted
  obtain ⟨middle, foundMiddle, sameMiddle⟩ := left id lead found isConverted
  have middleConverted : middle.status = .convertedToClient :=
    sameMiddle.status.trans isConverted
  obtain ⟨kept, foundKept, sameKept⟩ :=
    right id middle foundMiddle middleConverted
  exact ⟨kept, foundKept, sameMiddle.trans sameKept⟩

section Writes

variable {leads : List Lead}

theorem frozen_concat (row : Lead) : Frozen leads (leads ++ [row]) := by
  intro id lead found _
  exact ⟨lead, findBy_append_of_found [row] found, .refl lead⟩

/-- An update of one lead freezes the converted ones exactly when it does so
for that lead. -/
theorem frozen_updateBy_iff {target : Uuid} {lead : Lead}
    (change : Lead → Lead) (keptId : ∀ row, (change row).id = row.id)
    (found : findBy Lead.id target leads = some lead) :
    Frozen leads (updateBy Lead.id target change leads) ↔
      (lead.status = .convertedToClient → SameDetails lead (change lead)) := by
  have lookup :
      ∀ {id : Uuid} {row : Lead}, findBy Lead.id id leads = some row →
        findBy Lead.id id (updateBy Lead.id target change leads) =
          some (if row.id = target then change row else row) :=
    fun foundRow => findBy_updateBy_of_found keptId foundRow
  constructor
  · intro frozen isConverted
    obtain ⟨kept, foundKept, same⟩ := frozen target lead found isConverted
    rw [lookup found, if_pos (key_of_findBy found)] at foundKept
    cases foundKept
    exact same
  · intro keepsLead id row foundRow isConverted
    refine ⟨_, lookup foundRow, ?_⟩
    by_cases atTarget : row.id = target
    · have sameKey : id = target := (key_of_findBy foundRow).symm.trans atTarget
      rw [sameKey, found] at foundRow
      cases foundRow
      rw [if_pos atTarget]
      exact keepsLead isConverted
    · rw [if_neg atTarget]
      exact .refl row

theorem sameDetails_change_iff {data : UpdateLeadFieldsInput}
    {now : Timestamp} {lead : Lead} :
    SameDetails lead (data.change now lead) ↔ WritesStored data lead := by
  constructor
  · intro same
    constructor
    · intro value writes
      simpa [UpdateLeadFieldsInput.change, writes] using same.fullName
    · intro value writes
      simpa [UpdateLeadFieldsInput.change, writes] using same.email
    · intro value writes
      simpa [UpdateLeadFieldsInput.change, writes] using same.phone
    · intro value writes
      simpa [UpdateLeadFieldsInput.change, writes] using same.source
    · intro value writes
      simpa [UpdateLeadFieldsInput.change, writes] using same.notes
  · have written :
        ∀ {τ : Type} {field : Option τ} {stored : τ},
          (∀ value, field = some value → value = stored) →
            field.getD stored = stored := by
      intro τ field stored writes
      cases field with
      | none => rfl
      | some value => exact writes value rfl
    intro stored
    exact
      { fullName := written stored.fullName
        email := written stored.email
        phone := written stored.phone
        source := written stored.source
        notes := written stored.notes
        status := rfl }

end Writes

variable {platform : StringPlatform} {state : State} {request : Request}

theorem frozen_of_leadsWritten {leads : List Lead}
    (written : LeadsWritten state leads) :
    Frozen state.tables.leads leads := by
  cases written with
  | unchanged =>
      exact .refl _
  | created row =>
      exact frozen_concat row.row
  | statusChanged lead newStatus now found notConverted =>
      apply (frozen_updateBy_iff (withStatus newStatus now) (fun _ => rfl)
        found).mpr
      intro isConverted
      exact absurd isConverted notConverted
  | converted lead clientId now found notConverted =>
      apply (frozen_updateBy_iff (Repository.converted clientId now)
        (fun _ => rfl) found).mpr
      intro isConverted
      exact absurd isConverted notConverted

/-- One step freezes the converted leads exactly when it writes nothing new
to one of them. -/
theorem step_frozen_iff :
    Frozen state.tables.leads (step platform state request).tables.leads ↔
      SparesConverted state request := by
  unfold SparesConverted
  cases performed : performedUpdate state request with
  | none =>
      constructor
      · rintro - update impossible
        cases impossible
      · intro _
        exact frozen_of_leadsWritten (step_leadsWritten platform performed)
  | some update =>
      obtain ⟨-, found⟩ := pending_of_performedUpdate performed
      rw [step_of_performedUpdate platform performed,
        frozen_updateBy_iff (update.prepared.data.change update.now)
          (fun _ => rfl) found,
        sameDetails_change_iff]
      constructor
      · rintro spares _ ⟨⟩
        exact spares
      · intro spares
        exact spares update rfl

/-- No later state of a run changes the details of a lead that an earlier one
has converted, exactly when every step spares the converted leads. -/
theorem converted_leads_frozen_iff (platform : StringPlatform)
    (requests : List Request) :
    (∀ earlier between later, requests = earlier ++ between ++ later →
        Frozen (stateAfter platform earlier).tables.leads
          (stateAfter platform (earlier ++ between)).tables.leads) ↔
      AllSteps (step platform) SparesConverted State.initial requests :=
  @related_throughout_iff_allSteps _ _ (step platform) (fun _ => True)
    (fun first second => Frozen first.tables.leads second.tables.leads)
    SparesConverted (fun _ => .refl _) (fun left right => left.trans right)
    (fun _ _ _ => trivial) (fun _ _ _ => step_frozen_iff) State.initial
    trivial requests

/-- An Admin/Manager creates lead 1, a request reads it to rename it, and
before that request writes the lead is qualified and converted. -/
def lateUpdate : List Request :=
  let admin : AuthenticatedUser := ⟨7, .adminManager⟩
  let context : RequestContext := ⟨fun index => index + 1, 0⟩
  [.createLead context admin
      { fullName := "Ana Cruz"
        source := "WEBSITE"
        email := some ⟨"ana.cruz@example.ph", by decide⟩
        phone := none
        notes := none
        contactable := by decide },
    .updateLeadRead admin 1
      ⟨some "Ana Reyes", none, none, none, none⟩,
    .updateLeadStatus context admin 1 ⟨.new, .qualified, none⟩,
    .convertLead context admin 1 ⟨none⟩]

theorem late_update_renames_converted :
    ¬ Frozen (stateAfter ⟨id, id⟩ lateUpdate).tables.leads
      (stateAfter ⟨id, id⟩
        (lateUpdate ++
          [.updateLeadWrite ⟨fun _ => 0, 1⟩ 0])).tables.leads := by
  have before :
      (findBy Lead.id 1
          (stateAfter ⟨id, id⟩ lateUpdate).tables.leads).map
        (fun lead => (lead.fullName, lead.status)) =
      some ("Ana Cruz", .convertedToClient) := by
    decide
  have afterwards :
      (findBy Lead.id 1
          (stateAfter ⟨id, id⟩
            (lateUpdate ++
              [.updateLeadWrite ⟨fun _ => 0, 1⟩ 0])).tables.leads).map
        Lead.fullName =
      some "Ana Reyes" := by
    decide
  obtain ⟨lead, found, details⟩ := Option.map_eq_some_iff.mp before
  obtain ⟨written, foundWritten, renamed⟩ :=
    Option.map_eq_some_iff.mp afterwards
  intro frozen
  obtain ⟨kept, foundKept, same⟩ :=
    frozen 1 lead found (congrArg Prod.snd details)
  rw [foundWritten] at foundKept
  cases foundKept
  have sameName : "Ana Reyes" = "Ana Cruz" := by
    rw [← renamed, same.fullName]
    exact congrArg Prod.fst details
  exact absurd sameName (by decide)

end Heritage.Leads
