import Heritage.Assignments.Inheritance

/-!
# The history of the assignments

Whatever the operations do, no lead, client or booking in one role is ever
held twice, and a row that was once ended stays as it is.
-/

namespace Heritage.Assignments

open Heritage.Store
open Heritage.Leads (CreateLeadRequest ConvertLeadRequest)
open Heritage.Leads.Repository (LeadActor)

section Writes

variable {post : Post} {rows after : List StaffAssignment}

/-- A write gives no row another post. -/
theorem Write.posts (write : Write post rows after) :
    ∀ row ∈ after, ∀ other, concerns other row →
      other = post ∨ ∃ old ∈ rows, concerns other old := by
  cases write with
  | opened opening fresh only =>
      intro row member other concerned
      rcases List.mem_append.mp member with old | new
      · exact Or.inr ⟨row, old, concerned⟩
      · rw [List.mem_singleton.mp new] at concerned
        exact Or.inl ((only other).mp concerned)
  | closed holder now =>
      intro row member other concerned
      right
      obtain ⟨old, oldMember, rfl⟩ := mem_updateBy_iff.mp member
      refine ⟨old, oldMember, ?_⟩
      split at concerned
      · cases other <;> exact concerned
      · exact concerned

/-- What holds after all writes of a transaction. -/
structure Preserved (post : Post) (rows after : List StaffAssignment) :
    Prop where
  exclusively : Exclusively after
  kept : Kept Ends rows after
  frame :
    (after.filter fun row => ¬ concerns post row) =
      rows.filter fun row => ¬ concerns post row
  posts :
    ∀ row ∈ after, ∀ other, concerns other row →
      other = post ∨ ∃ old ∈ rows, concerns other old

theorem preserved_of_writes (sound : Exclusively rows)
    (writes : Writes post rows after) : Preserved post rows after := by
  induction writes with
  | refl =>
      refine ⟨sound, kept_refl rows, rfl, ?_⟩
      intro row member other concerned
      exact Or.inr ⟨row, member, concerned⟩
  | @tail middle latest _ write inductionHypothesis =>
      obtain ⟨middleSound, kept, frame, posts⟩ := inductionHypothesis
      refine ⟨write.exclusively middleSound,
        kept_trans ends_final kept (write.kept middleSound),
        (write.frame middleSound).trans frame, ?_⟩
      intro row member other concerned
      rcases write.posts row member other concerned with
        own | ⟨old, oldMember, oldConcerned⟩
      · exact Or.inl own
      · exact posts old oldMember other oldConcerned

theorem sound_of_preserved {tables later : Leads.Tables}
    (sound : Sound tables)
    (stillKnown : ∀ other, Known tables other → Known later other)
    (known : Known later post)
    (preserved :
      Preserved post tables.staffAssignments later.staffAssignments) :
    Sound later := by
  refine ⟨preserved.exclusively, ?_⟩
  intro row member other concerned
  rcases preserved.posts row member other concerned with
    rfl | ⟨old, oldMember, oldConcerned⟩
  · exact known
  · exact stillKnown other (sound.known old oldMember other oldConcerned)

end Writes

section Step

variable {platform : StringPlatform}

theorem sound_of_begins {tables later : Leads.Tables} (sound : Sound tables)
    (stillKnown : ∀ other, Known tables other → Known later other)
    (begins : Begins tables later) :
    Sound later ∧ Kept Ends tables.staffAssignments later.staffAssignments := by
  rcases begins with same | ⟨post, known, write⟩
  · have exclusively := sound.toExclusively
    rw [← same] at exclusively
    refine ⟨⟨exclusively, ?_⟩, ?_⟩
    · intro row member other concerned
      rw [same] at member
      exact stillKnown other (sound.known row member other concerned)
    · rw [same]
      exact kept_refl _
  · have preserved := preserved_of_writes sound.toExclusively (.single write)
    exact ⟨sound_of_preserved sound stillKnown known preserved, preserved.kept⟩

/-- What an operation does to the assignments. -/
theorem perform_preserved {context : RequestContext}
    {actor : AuthenticatedUser} {operation : Operation} {tables : Tables}
    (sound : Exclusively tables.staffAssignments) :
    Preserved operation.post tables.staffAssignments
      (perform platform context actor operation tables).2.staffAssignments := by
  rcases @perform_after platform context tables actor operation sound with
    silent | ⟨-, rows, auditLogs, writes, wrote⟩
  · rw [silent]
    exact preserved_of_writes sound .refl
  · rw [wrote]
    exact preserved_of_writes sound writes

/-- The leads and the clients an operation leaves alone. -/
theorem perform_known {context : RequestContext} {actor : AuthenticatedUser}
    {operation : Operation} {tables : Tables}
    (sound : Exclusively tables.staffAssignments) (other : Post) :
    Known (perform platform context actor operation tables).2.clients.tables
        other ↔
      Known tables.clients.tables other := by
  rcases @perform_after platform context tables actor operation sound with
    silent | ⟨-, rows, auditLogs, -, wrote⟩
  · rw [silent]
  · rw [wrote]
    cases other <;> rfl

/-- A step keeps the assignments sound and every row of them. -/
theorem step_sound (state : State) (request : Request)
    (sound : Sound state.tables.clients.tables) :
    Sound (step platform state request).tables.clients.tables ∧
      Kept Ends state.tables.staffAssignments
        (step platform state request).tables.staffAssignments := by
  have silent :
      Kept Ends state.tables.staffAssignments state.tables.staffAssignments :=
    kept_refl _
  cases request with
  | call actor operation =>
      exact ⟨sound, silent⟩
  | attempt context index =>
      unfold step
      dsimp only
      cases atIndex : state.waiting[index]? with
      | none =>
          exact ⟨sound, silent⟩
      | some waiting =>
          obtain ⟨leadsGrew, clientsGrew⟩ :=
            ids_grew_of_commit
              (@Clients.attempt_commit platform context state.tables.clients
                waiting)
          exact
            sound_of_begins sound
              (fun _ => known_of_ids_grew leadsGrew clientsGrew)
              (attempt_begins sound waiting)
  | assign context actor operation =>
      have preserved :=
        @perform_preserved platform context actor operation state.tables
          sound.toExclusively
      have sameKnown :=
        @perform_known platform context actor operation state.tables
          sound.toExclusively
      refine ⟨?_, preserved.kept⟩
      rcases @perform_after platform context state.tables actor operation
          sound.toExclusively with same | ⟨known, -⟩
      · unfold step
        dsimp only
        rw [same]
        exact sound
      · exact
          sound_of_preserved sound (fun other => (sameKnown other).mpr)
            ((sameKnown operation.post).mpr known) preserved
  | bookingAdded bookingId =>
      exact ⟨sound, silent⟩
  | usersChanged users =>
      exact ⟨sound, silent⟩
  | profilesChanged clientProfiles =>
      refine ⟨⟨sound.toExclusively, ?_⟩, silent⟩
      intro row member other concerned
      have known := sound.known row member other concerned
      cases other <;> exact known

end Step

section Runs

variable (platform : StringPlatform)

theorem sound_empty : Sound Leads.Tables.empty := by
  refine ⟨⟨List.nodup_nil, exclusive_nil⟩, ?_⟩
  intro row member
  cases member

theorem tablesAfter_sound (requests : List Request) :
    Sound (tablesAfter platform requests).clients.tables := by
  apply
    @run_invariant _ _ (step platform)
      (fun state => Sound state.tables.clients.tables) State.initial
      sound_empty
  intro state request sound
  exact (step_sound state request sound).1

/-- Later requests keep every row of the assignments. -/
theorem tablesAfter_kept (earlier later : List Request) :
    Kept Ends (tablesAfter platform earlier).staffAssignments
      (tablesAfter platform (earlier ++ later)).staffAssignments := by
  unfold tablesAfter stateAfter
  rw [run_append]
  apply
    @run_related _ _ (step platform)
      (fun state => Sound state.tables.clients.tables)
      (fun before after =>
        Kept Ends before.tables.staffAssignments
          after.tables.staffAssignments)
  · intro state
    exact kept_refl _
  · intro first second third
    exact kept_trans ends_final
  · intro state request sound
    exact (step_sound state request sound).1
  · intro state request sound
    exact (step_sound state request sound).2
  · exact tablesAfter_sound platform earlier

end Runs

section Repeats

/-- The assignee a set asks for; an ending asks for none. -/
def Operation.assignee : Operation → Option Uuid
  | .setLeadAssignment _ assignedStaffId _ => some assignedStaffId
  | .setClientAssignment _ assignedStaffId _ => some assignedStaffId
  | .setBookingAssignment _ assignedStaffId _ => some assignedStaffId
  | .setBookingFinanceAssignment _ assignedStaffId _ => some assignedStaffId
  | .endLeadAssignment _ _ => none
  | .endClientAssignment _ _ => none
  | .endBookingFinanceAssignment _ _ => none

/-- A set names the assignee of an active assignment of the post, or an ending
finds none active. -/
def AlreadySo (operation : Operation) (rows : List StaffAssignment) : Prop :=
  match operation.assignee with
  | some assignedStaffId =>
      ∃ row ∈ holders operation.post rows,
        row.assignedStaffId = assignedStaffId
  | none => holders operation.post rows = []

theorem findHolder_of_mem {post : Post} {rows : List StaffAssignment}
    {row : StaffAssignment} (sound : Exclusively rows)
    (holds : row ∈ holders post rows) : findHolder post rows = some row := by
  cases found : findHolder post rows with
  | none =>
      rw [findHolder_eq_none_iff.mp found] at holds
      cases holds
  | some other =>
      rw [tenure_unique sound.exclusive (mem_holders_of_findHolder found)
        holds]

theorem alreadySet_of_holder {post : Post} {rows : List StaffAssignment}
    {row : StaffAssignment} (sound : Exclusively rows)
    (holds : row ∈ holders post rows) :
    alreadySet (findHolder post rows) row.assignedStaffId = some row :=
  alreadySet_eq_some.mpr ⟨findHolder_of_mem sound holds, rfl⟩

variable {platform : StringPlatform} {context : RequestContext}
  {actorId : Uuid} {tables after : Tables}

theorem setAssignmentTransaction_repeat {kind : TargetKind} {targetId : Uuid}
    {row result : StaffAssignment} {reason : Option String}
    (sound : Exclusively tables.staffAssignments)
    (holds : row ∈ holders (kind.post targetId) tables.staffAssignments)
    (succeeds :
      setAssignmentTransaction context kind actorId targetId
        row.assignedStaffId reason tables = .ok (result, after)) :
    after = tables := by
  simp only [setAssignmentTransaction, bind_eq_ok, findActiveAssignment_eq,
    alreadySet_of_holder sound holds] at succeeds
  obtain ⟨target, -, finished⟩ := succeeds
  cases finished
  rfl

theorem setBookingFinanceAssignmentTransaction_repeat {bookingId : Uuid}
    {row result : StaffAssignment} {reason : Option String}
    (sound : Exclusively tables.staffAssignments)
    (holds :
      row ∈ holders (.booking bookingId .financeAccounting)
        tables.staffAssignments)
    (succeeds :
      setBookingFinanceAssignmentTransaction platform context actorId
        bookingId row.assignedStaffId reason tables =
        .ok (result, after)) :
    after = tables := by
  simp only [setBookingFinanceAssignmentTransaction, bind_eq_ok,
    findActiveFinanceAssignmentForBooking_eq,
    alreadySet_of_holder sound holds] at succeeds
  obtain ⟨target, -, finished⟩ := succeeds
  cases finished
  rfl

theorem endAssignmentTransaction_vacant {kind : TargetKind} {targetId : Uuid}
    {reason : String} {result : Option StaffAssignment}
    (vacant : holders (kind.post targetId) tables.staffAssignments = [])
    (succeeds :
      endAssignmentTransaction context kind actorId targetId reason tables =
        .ok (result, after)) :
    after = tables := by
  simp only [endAssignmentTransaction, bind_eq_ok, findActiveAssignment_eq,
    findHolder_eq_none_iff.mpr vacant] at succeeds
  obtain ⟨target, -, finished⟩ := succeeds
  cases finished
  rfl

theorem endBookingFinanceAssignment_vacant {bookingId : Uuid}
    {reason : String} {result : Option StaffAssignment}
    (vacant :
      holders (.booking bookingId .financeAccounting)
        tables.staffAssignments = [])
    (succeeds :
      endBookingFinanceAssignment platform context actorId bookingId reason
        tables = .ok (result, after)) :
    after = tables := by
  simp only [endBookingFinanceAssignment,
    endBookingFinanceAssignmentTransaction, bind_eq_ok,
    findActiveFinanceAssignmentForBooking_eq,
    findHolder_eq_none_iff.mpr vacant] at succeeds
  obtain ⟨endReason, -, target, -, finished⟩ := succeeds
  cases finished
  rfl

theorem transaction_repeat {operation : Operation}
    {result : Option StaffAssignment}
    (sound : Exclusively tables.staffAssignments)
    (already : AlreadySo operation tables.staffAssignments)
    (succeeds :
      transaction platform context actorId operation tables =
        .ok (result, after)) :
    after = tables := by
  cases operation with
  | setLeadAssignment leadId assignedStaffId reason =>
      obtain ⟨row, holds, rfl⟩ := already
      obtain ⟨⟨active, written⟩, sets, returned⟩ := map_eq_ok.mp succeeds
      cases returned
      exact setAssignmentTransaction_repeat sound holds sets
  | endLeadAssignment leadId reason =>
      have vacant :
          holders (TargetKind.lead.post leadId) tables.staffAssignments = [] :=
        already
      exact endAssignmentTransaction_vacant vacant succeeds
  | setClientAssignment clientId assignedStaffId reason =>
      obtain ⟨row, holds, rfl⟩ := already
      obtain ⟨⟨active, written⟩, sets, returned⟩ := map_eq_ok.mp succeeds
      cases returned
      exact setAssignmentTransaction_repeat sound holds sets
  | endClientAssignment clientId reason =>
      have vacant :
          holders (TargetKind.client.post clientId) tables.staffAssignments = [] :=
        already
      exact endAssignmentTransaction_vacant vacant succeeds
  | setBookingAssignment bookingId assignedStaffId reason =>
      obtain ⟨row, holds, rfl⟩ := already
      obtain ⟨⟨active, written⟩, sets, returned⟩ := map_eq_ok.mp succeeds
      cases returned
      exact setAssignmentTransaction_repeat sound holds sets
  | setBookingFinanceAssignment bookingId assignedStaffId reason =>
      obtain ⟨row, holds, rfl⟩ := already
      obtain ⟨⟨active, written⟩, sets, returned⟩ := map_eq_ok.mp succeeds
      cases returned
      exact setBookingFinanceAssignmentTransaction_repeat sound holds sets
  | endBookingFinanceAssignment bookingId reason =>
      exact endBookingFinanceAssignment_vacant already succeeds

/-- Asking for what is so changes nothing, the audit included. -/
theorem perform_repeat {actor : AuthenticatedUser} {operation : Operation}
    (sound : Exclusively tables.staffAssignments)
    (already : AlreadySo operation tables.staffAssignments) :
    (perform platform context actor operation tables).2 = tables := by
  unfold perform
  cases assertAssignmentMutationActor actor with
  | error failure =>
      rfl
  | ok permitted =>
      dsimp only
      unfold runAssignmentTransaction
      cases outcome :
          transaction platform context actor.id operation tables with
      | error failure =>
          rw [transact_of_error outcome]
      | ok result =>
          rw [transact_of_ok outcome]
          exact transaction_repeat sound already outcome

end Repeats

/-! ## The history -/

/-- A filter for rows that are not of the post does not see its writes. -/
theorem filter_of_frame {post : Post} {rows after : List StaffAssignment}
    {keep : StaffAssignment → Bool}
    (frame :
      (after.filter fun row => ¬ concerns post row) =
        rows.filter fun row => ¬ concerns post row)
    (outside : ∀ row, keep row → ¬ concerns post row) :
    after.filter keep = rows.filter keep := by
  have throughFrame :
      ∀ table : List StaffAssignment,
        table.filter keep =
          (table.filter fun row => ¬ concerns post row).filter keep := by
    intro table
    rw [List.filter_filter]
    apply List.filter_congr
    intro row _
    cases kept : keep row with
    | false =>
        rfl
    | true =>
        simp [outside row kept]
  rw [throughFrame after, throughFrame rows, frame]

/-- What holds of the assignments after `requests`. -/
structure AssignmentHistory (platform : StringPlatform)
    (requests : List Request) : Prop where
  oneForLead :
    ∀ leadId,
      ((tablesAfter platform requests).staffAssignments.filter fun row =>
        row.leadId = some leadId ∧ row.endedAt = none).length ≤ 1
  oneForClient :
    ∀ clientId,
      ((tablesAfter platform requests).staffAssignments.filter fun row =>
        row.clientId = some clientId ∧ row.endedAt = none).length ≤ 1
  oneForBooking :
    ∀ bookingId role,
      ((tablesAfter platform requests).staffAssignments.filter fun row =>
        (row.bookingId = some bookingId ∧ row.role = role) ∧
          row.endedAt = none).length ≤ 1
  /-- No transaction meets a unique index on the active assignments. -/
  unrejected :
    ∀ fields ∈ activeIndexes, ∀ context,
      (∀ actorId operation,
        Avoids
          (transaction platform context actorId operation
            (tablesAfter platform requests))
          (.uniqueViolation "StaffAssignment" fields)) ∧
      (∀ (leadActor : LeadActor) (input : CreateLeadRequest),
        Avoids
          (Leads.createLeadTransaction platform context leadActor input
            (tablesAfter platform requests).clients.tables)
          (.uniqueViolation "StaffAssignment" fields)) ∧
      ∀ (leadActor : LeadActor) (id : Uuid) (input : ConvertLeadRequest),
        Avoids
          (Leads.convertLeadTransaction context leadActor id input
            (tablesAfter platform requests).clients.tables)
          (.uniqueViolation "StaffAssignment" fields)
  /-- Since any earlier point rows were only added and active ones ended. -/
  kept :
    ∀ earlier later,
      requests = earlier ++ later →
        Kept Ends (tablesAfter platform earlier).staffAssignments
          (tablesAfter platform requests).staffAssignments
  consultantOnly :
    ∀ context actor bookingId assignedStaffId reason,
      ((perform platform context actor
            (.setBookingAssignment bookingId assignedStaffId reason)
            (tablesAfter platform requests)).2.staffAssignments.filter
          fun row => row.role ≠ .travelConsultant) =
        (tablesAfter platform requests).staffAssignments.filter fun row =>
          row.role ≠ .travelConsultant
  financeOnly :
    ∀ context actor bookingId operation,
      (∃ assignedStaffId reason,
          operation =
            .setBookingFinanceAssignment bookingId assignedStaffId reason) ∨
        (∃ reason,
          operation = .endBookingFinanceAssignment bookingId reason) →
        ((perform platform context actor operation
              (tablesAfter platform requests)).2.staffAssignments.filter
            fun row => row.role ≠ .financeAccounting) =
          (tablesAfter platform requests).staffAssignments.filter fun row =>
            row.role ≠ .financeAccounting
  ownPostOnly :
    ∀ context actor operation,
      ((perform platform context actor operation
            (tablesAfter platform requests)).2.staffAssignments.filter
          fun row => ¬ concerns operation.post row) =
        (tablesAfter platform requests).staffAssignments.filter fun row =>
          ¬ concerns operation.post row
  repeated :
    ∀ context actor operation,
      AlreadySo operation (tablesAfter platform requests).staffAssignments →
        (perform platform context actor operation
            (tablesAfter platform requests)).2 =
          tablesAfter platform requests

theorem assignment_history (platform : StringPlatform)
    (requests : List Request) : AssignmentHistory platform requests := by
  have sound := tablesAfter_sound platform requests
  have exclusively :
      Exclusively (tablesAfter platform requests).staffAssignments :=
    sound.toExclusively
  have preserved :
      ∀ context actor operation,
        Preserved operation.post
          (tablesAfter platform requests).staffAssignments
          (perform platform context actor operation
            (tablesAfter platform requests)).2.staffAssignments :=
    fun _ _ _ => perform_preserved exclusively
  have one :
      ∀ post {test : StaffAssignment → Bool},
        (∀ row, test row = (isActive row && concerns post row)) →
          ((tablesAfter platform requests).staffAssignments.filter
            test).length ≤ 1 := by
    intro post test sameTest
    have atMostOne := exclusively.exclusive post
    unfold tenuresOf at atMostOne
    rw [funext sameTest]
    exact atMostOne
  refine
    { oneForLead := ?_, oneForClient := ?_, oneForBooking := ?_,
      unrejected := ?_, kept := ?_, consultantOnly := ?_, financeOnly := ?_,
      ownPostOnly := ?_, repeated := ?_ }
  · intro leadId
    apply one (.lead leadId)
    intro row
    simp [isActive, concerns, Bool.and_comm]
  · intro clientId
    apply one (.client clientId)
    intro row
    simp [isActive, concerns, Bool.and_comm]
  · intro bookingId role
    apply one (.booking bookingId role)
    intro row
    rw [Bool.decide_and, Bool.and_comm]
    rfl
  · intro fields listed context
    refine ⟨?_, ?_, ?_⟩
    · intro actorId operation
      exact transaction_avoids exclusively listed
    · intro leadActor input
      exact createLeadTransaction_avoids sound listed
    · intro leadActor id input
      exact convertLeadTransaction_avoids sound listed
  · rintro earlier later rfl
    exact tablesAfter_kept platform earlier later
  · intro context actor bookingId assignedStaffId reason
    apply filter_of_frame (preserved context actor _).frame
    intro row otherRole own
    simp [concerns, Operation.post] at own
    simp [own.2] at otherRole
  · rintro context actor bookingId operation
      (⟨assignedStaffId, reason, rfl⟩ | ⟨reason, rfl⟩)
    · apply filter_of_frame (preserved context actor _).frame
      intro row otherRole own
      simp [concerns, Operation.post] at own
      simp [own.2] at otherRole
    · apply filter_of_frame (preserved context actor _).frame
      intro row otherRole own
      simp [concerns, Operation.post] at own
      simp [own.2] at otherRole
  · intro context actor operation
    exact (preserved context actor operation).frame
  · intro context actor operation already
    exact perform_repeat exclusively already

end Heritage.Assignments
