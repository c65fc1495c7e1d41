import Heritage.Assignments.System
import Heritage.Assignments.Tenures
import Heritage.Clients.Commits

/-!
# What a transaction writes to the assignments

Each transaction makes writes of one post.  Before it opens a tenure it has
found the post vacant, or has made it so; the unique indexes on the active
assignments reject nothing.
-/

namespace Heritage.Assignments

open Heritage.Store
open Heritage.Leads (Lead CreateLeadRequest ConvertLeadRequest)

/-- The lead or the client of a post is there. -/
def Known (tables : Leads.Tables) : Post → Prop
  | .lead leadId => (findBy Lead.id leadId tables.leads).isSome
  | .client clientId => (findBy Client.id clientId tables.clients).isSome
  | .booking _ _ => True

/-- The assignments are exclusive and refer to known leads and clients. -/
structure Sound (tables : Leads.Tables) : Prop
    extends Exclusively tables.staffAssignments where
  known :
    ∀ row ∈ tables.staffAssignments, ∀ post,
      concerns post row → Known tables post

theorem Sound.vacant {tables : Leads.Tables} {post : Post}
    (sound : Sound tables) (unknown : ¬ Known tables post) :
    holders post tables.staffAssignments = [] := by
  rw [List.eq_nil_iff_forall_not_mem]
  intro row holds
  obtain ⟨member, -, concerned⟩ := mem_holders.mp holds
  exact unknown (sound.known row member post concerned)

section Pieces

variable {post : Post} {tables released after : Tables} {now : Timestamp}

/-- The writes of one post, with nothing else changed but the audit. -/
def Rewritten (post : Post) (tables after : Tables) : Prop :=
  ∃ rows auditLogs,
    Writes post tables.staffAssignments rows ∧
      after =
        { tables.withStaffAssignments rows with auditLogs := auditLogs }

/-- Ending the holder makes the post vacant. -/
theorem endReplaced_eq_ok (sound : Exclusively tables.staffAssignments)
    (ends :
      endReplaced tables now (findHolder post tables.staffAssignments) =
        .ok released) :
    Rewritten post tables released ∧
      Exclusively released.staffAssignments ∧
      holders post released.staffAssignments = [] := by
  cases found : findHolder post tables.staffAssignments with
  | none =>
      rw [found] at ends
      cases ends
      exact ⟨⟨_, _, .refl, rfl⟩, sound, findHolder_eq_none_iff.mp found⟩
  | some active =>
      have holds := mem_holders_of_findHolder found
      simp only [found, endReplaced, endAssignmentById, bind_eq_ok,
        demand_eq_ok, Except.ok.injEq] at ends
      obtain ⟨⟨row, written⟩, ⟨existing, -, wrote⟩, returned⟩ := ends
      cases wrote
      cases returned
      have closes :
          Write post tables.staffAssignments
            (updateBy StaffAssignment.id active.id (ended now)
              tables.staffAssignments) :=
        .closed active now holds
      refine ⟨⟨_, _, .single closes, rfl⟩, closes.exclusively sound, ?_⟩
      apply tenuresOf_updateBy_closed sound.exclusive holds
      intro row active
      simp [isActive, ended] at active

theorem createAssignment_eq_ok {row created : StaffAssignment}
    (only : ∀ other, concerns other row ↔ other = post)
    (vacant : holders post tables.staffAssignments = [])
    (creates : createAssignment tables row = .ok (created, after)) :
    created = row ∧
      Write post tables.staffAssignments (tables.staffAssignments ++ [row]) ∧
      after =
        tables.withStaffAssignments (tables.staffAssignments ++ [row]) := by
  rw [createAssignment,
    staffAssignmentViolation_of_vacant only vacant] at creates
  cases taken : findBy StaffAssignment.id row.id tables.staffAssignments with
  | none =>
      rw [taken] at creates
      cases creates
      exact ⟨rfl, .opened row taken only vacant, rfl⟩
  | some other =>
      rw [taken] at creates
      cases creates

theorem createAssignment_avoids {row : StaffAssignment}
    {fields : List String} (listed : fields ∈ activeIndexes)
    (only : ∀ other, concerns other row ↔ other = post)
    (vacant : holders post tables.staffAssignments = []) :
    Avoids (createAssignment tables row)
      (.uniqueViolation "StaffAssignment" fields) := by
  rw [createAssignment, staffAssignmentViolation_of_vacant only vacant]
  cases findBy StaffAssignment.id row.id tables.staffAssignments with
  | none =>
      exact avoids_ok _
  | some other =>
      intro ends
      cases ends
      revert listed
      decide

theorem endReplaced_avoids {fields : List String}
    (active : Option StaffAssignment) :
    Avoids (endReplaced tables now active)
      (.uniqueViolation "StaffAssignment" fields) := by
  cases active with
  | none =>
      exact avoids_ok _
  | some active =>
      refine avoids_bind ?_ fun _ _ => avoids_ok _
      exact avoids_bind (avoids_demand (by simp)) fun _ _ => avoids_ok _

end Pieces

/-! ## The operations of the feature -/

section Operations

variable {platform : StringPlatform} {context : RequestContext}
  {actorId : Uuid} {tables after : Tables} {fields : List String}

/-- A new assignment of a target is one of its post alone. -/
theorem concerns_targetFields (kind : TargetKind)
    (id targetId assignedStaffId assignedByUserId : Uuid)
    (endedAt : Option Timestamp) (other : Post) :
    concerns other
        { id := id
          assignedStaffId := assignedStaffId
          role := .travelConsultant
          assignedByUserId := assignedByUserId
          leadId := (targetFields kind targetId).leadId
          clientId := (targetFields kind targetId).clientId
          bookingId := (targetFields kind targetId).bookingId
          endedAt := endedAt } ↔
      other = kind.post targetId := by
  cases kind <;> cases other <;>
    simp [concerns, targetFields, TargetKind.post, @eq_comm _ targetId,
      @eq_comm Role .travelConsultant]

theorem known_of_findTarget {kind : TargetKind} {targetId found : Uuid}
    (target : findTarget tables kind targetId = some found) :
    Known tables.clients.tables (kind.post targetId) := by
  cases kind with
  | lead =>
      obtain ⟨lead, foundLead, -⟩ := Option.map_eq_some_iff.mp target
      simp [TargetKind.post, Known, foundLead]
  | client =>
      obtain ⟨client, foundClient, -⟩ := Option.map_eq_some_iff.mp target
      simp [TargetKind.post, Known, foundClient]
  | booking =>
      trivial

theorem alreadySet_eq_some {active : Option StaffAssignment}
    {assignedStaffId : Uuid} {same : StaffAssignment} :
    alreadySet active assignedStaffId = some same ↔
      active = some same ∧ same.assignedStaffId = assignedStaffId := by
  simp [alreadySet, Option.filter_eq_some_iff]

theorem setAssignmentTransaction_eq_ok {kind : TargetKind}
    {targetId assignedStaffId : Uuid} {reason : Option String}
    {result : StaffAssignment} (sound : Exclusively tables.staffAssignments)
    (succeeds :
      setAssignmentTransaction context kind actorId targetId assignedStaffId
        reason tables = .ok (result, after)) :
    Known tables.clients.tables (kind.post targetId) ∧
      Rewritten (kind.post targetId) tables after := by
  simp only [setAssignmentTransaction, bind_eq_ok, demand_eq_ok] at succeeds
  obtain ⟨target, foundTarget, finished⟩ := succeeds
  refine ⟨known_of_findTarget foundTarget, ?_⟩
  split at finished
  · cases finished
    exact ⟨_, _, .refl, rfl⟩
  · simp only [bind_eq_ok, require_eq_ok, exists_const,
      findActiveAssignment_eq] at finished
    obtain ⟨-, -, -, released, ends, ⟨created, assigned⟩, creates,
      returned⟩ := finished
    obtain ⟨⟨rows, logs, writes, rfl⟩, -, vacant⟩ :=
      endReplaced_eq_ok sound ends
    obtain ⟨rfl, opens, rfl⟩ :=
      createAssignment_eq_ok (concerns_targetFields kind _ targetId _ _ _)
        vacant creates
    cases returned
    exact ⟨_, _, writes.tail opens, rfl⟩

theorem assertEligible_avoids {role : Role} {ineligible : String}
    {assignedStaffId : Uuid} :
    Avoids (assertEligible role ineligible tables assignedStaffId)
      (.uniqueViolation "StaffAssignment" fields) := by
  refine avoids_bind (avoids_demand (by simp [assignmentError])) fun _ _ => ?_
  refine avoids_bind (avoids_require (by simp [assignmentError])) fun _ _ => ?_
  exact avoids_require (by simp [assignmentError])

theorem setAssignmentTransaction_avoids {kind : TargetKind}
    {targetId assignedStaffId : Uuid} {reason : Option String}
    (sound : Exclusively tables.staffAssignments)
    (listed : fields ∈ activeIndexes) :
    Avoids
      (setAssignmentTransaction context kind actorId targetId
        assignedStaffId reason tables)
      (.uniqueViolation "StaffAssignment" fields) := by
  unfold setAssignmentTransaction
  refine avoids_bind (avoids_demand ?_) fun _ _ => ?_
  · cases kind <;> simp [notFoundError, assignmentError]
  dsimp only
  split
  · exact avoids_ok _
  · refine avoids_bind ?_ fun _ _ => ?_
    · exact assertEligible_avoids
    refine avoids_bind (avoids_require (by simp [assignmentError])) fun _ _ => ?_
    refine avoids_bind (endReplaced_avoids _) fun released ends => ?_
    rw [findActiveAssignment_eq] at ends
    obtain ⟨-, -, vacant⟩ := endReplaced_eq_ok sound ends
    refine avoids_bind ?_ fun _ _ => avoids_ok _
    exact
      createAssignment_avoids listed
        (concerns_targetFields kind _ targetId _ _ _) vacant

/-- Ending the holder, when there is one, and writing an audit entry. -/
theorem closed_of_end {post : Post} {active ended : StaffAssignment}
    {released : Tables}
    (found : findHolder post tables.staffAssignments = some active)
    (ends :
      endAssignmentById tables active.id context.now = .ok (ended, released))
    (entry : AuditLog) :
    Rewritten post tables (insertAuditLog released entry) := by
  simp only [endAssignmentById, bind_eq_ok, demand_eq_ok, Except.ok.injEq]
    at ends
  obtain ⟨existing, -, wrote⟩ := ends
  cases wrote
  exact
    ⟨_, _, .single (.closed active _ (mem_holders_of_findHolder found)), rfl⟩

theorem endAssignmentTransaction_eq_ok {kind : TargetKind} {targetId : Uuid}
    {reason : String} {result : Option StaffAssignment}
    (succeeds :
      endAssignmentTransaction context kind actorId targetId reason tables =
        .ok (result, after)) :
    Known tables.clients.tables (kind.post targetId) ∧
      Rewritten (kind.post targetId) tables after := by
  simp only [endAssignmentTransaction, bind_eq_ok, demand_eq_ok,
    findActiveAssignment_eq] at succeeds
  obtain ⟨target, foundTarget, finished⟩ := succeeds
  refine ⟨known_of_findTarget foundTarget, ?_⟩
  split at finished
  · cases finished
    exact ⟨_, _, .refl, rfl⟩
  next active found =>
    simp only [bind_eq_ok] at finished
    obtain ⟨⟨ended, released⟩, ends, returned⟩ := finished
    cases returned
    exact closed_of_end found ends _

theorem endAssignmentById_avoids {id : Uuid} {now : Timestamp} :
    Avoids (endAssignmentById tables id now)
      (.uniqueViolation "StaffAssignment" fields) :=
  avoids_bind (avoids_demand (by simp)) fun _ _ => avoids_ok _

theorem endAssignmentTransaction_avoids {kind : TargetKind} {targetId : Uuid}
    {reason : String} :
    Avoids
      (endAssignmentTransaction context kind actorId targetId reason tables)
      (.uniqueViolation "StaffAssignment" fields) := by
  unfold endAssignmentTransaction
  refine avoids_bind (avoids_demand ?_) fun _ _ => ?_
  · cases kind <;> simp [notFoundError, assignmentError]
  split
  · exact avoids_ok _
  · exact avoids_bind endAssignmentById_avoids fun _ _ => avoids_ok _

theorem concerns_finance (input : CreateBookingFinanceAssignmentInput)
    (other : Post) :
    concerns other
        { id := input.id
          assignedStaffId := input.assignedStaffId
          role := .financeAccounting
          assignedByUserId := input.assignedByUserId
          leadId := none
          clientId := none
          bookingId := some input.bookingId
          endedAt := none } ↔
      other = .booking input.bookingId .financeAccounting := by
  cases other <;>
    simp [concerns, @eq_comm _ input.bookingId,
      @eq_comm Role .financeAccounting]

theorem findActiveFinanceAssignmentForBooking_eq (bookingId : Uuid) :
    findActiveFinanceAssignmentForBooking tables.staffAssignments bookingId =
      findHolder (.booking bookingId .financeAccounting)
        tables.staffAssignments :=
  findActiveRoleAssignmentForBooking_eq _ .financeAccounting bookingId

theorem setBookingFinanceAssignmentTransaction_eq_ok
    {bookingId assignedStaffId : Uuid} {reason : Option String}
    {result : StaffAssignment} (sound : Exclusively tables.staffAssignments)
    (succeeds :
      setBookingFinanceAssignmentTransaction platform context actorId
        bookingId assignedStaffId reason tables = .ok (result, after)) :
    Rewritten (.booking bookingId .financeAccounting) tables after := by
  simp only [setBookingFinanceAssignmentTransaction, bind_eq_ok,
    demand_eq_ok] at succeeds
  obtain ⟨target, -, finished⟩ := succeeds
  split at finished
  · cases finished
    exact ⟨_, _, .refl, rfl⟩
  · simp only [bind_eq_ok, findActiveFinanceAssignmentForBooking_eq]
      at finished
    obtain ⟨-, -, replacing, -, released, ends, ⟨created, assigned⟩,
      creates, returned⟩ := finished
    obtain ⟨⟨rows, logs, writes, rfl⟩, -, vacant⟩ :=
      endReplaced_eq_ok sound ends
    obtain ⟨rfl, opens, rfl⟩ :=
      createAssignment_eq_ok (concerns_finance _) vacant creates
    cases returned
    exact ⟨_, _, writes.tail opens, rfl⟩

theorem setBookingFinanceAssignmentTransaction_avoids
    {bookingId assignedStaffId : Uuid} {reason : Option String}
    (sound : Exclusively tables.staffAssignments)
    (listed : fields ∈ activeIndexes) :
    Avoids
      (setBookingFinanceAssignmentTransaction platform context actorId
        bookingId assignedStaffId reason tables)
      (.uniqueViolation "StaffAssignment" fields) := by
  unfold setBookingFinanceAssignmentTransaction
  refine avoids_bind (avoids_demand (by simp [notFoundError,
    assignmentError])) fun _ _ => ?_
  dsimp only
  split
  · exact avoids_ok _
  · refine avoids_bind assertEligible_avoids fun _ _ => ?_
    refine avoids_bind ?_ fun _ _ => ?_
    · unfold replacementReason
      split
      · exact avoids_ok _
      · exact avoids_map (avoids_demand (by simp [assignmentError]))
    refine avoids_bind (endReplaced_avoids _) fun released ends => ?_
    rw [findActiveFinanceAssignmentForBooking_eq] at ends
    obtain ⟨-, -, vacant⟩ := endReplaced_eq_ok sound ends
    refine avoids_bind ?_ fun _ _ => avoids_ok _
    exact createAssignment_avoids listed (concerns_finance _) vacant

theorem endBookingFinanceAssignment_eq_ok {bookingId : Uuid}
    {reason : String} {result : Option StaffAssignment}
    (succeeds :
      endBookingFinanceAssignment platform context actorId bookingId reason
        tables = .ok (result, after)) :
    Rewritten (.booking bookingId .financeAccounting) tables after := by
  simp only [endBookingFinanceAssignment,
    endBookingFinanceAssignmentTransaction, bind_eq_ok, demand_eq_ok,
    findActiveFinanceAssignmentForBooking_eq] at succeeds
  obtain ⟨endReason, -, target, -, finished⟩ := succeeds
  split at finished
  · cases finished
    exact ⟨_, _, .refl, rfl⟩
  next active found =>
    simp only [bind_eq_ok] at finished
    obtain ⟨⟨ended, released⟩, ends, returned⟩ := finished
    cases returned
    exact closed_of_end found ends _

theorem endBookingFinanceAssignment_avoids {bookingId : Uuid}
    {reason : String} :
    Avoids
      (endBookingFinanceAssignment platform context actorId bookingId reason
        tables)
      (.uniqueViolation "StaffAssignment" fields) := by
  unfold endBookingFinanceAssignment endBookingFinanceAssignmentTransaction
  refine avoids_bind (avoids_demand (by simp [assignmentError])) fun _ _ => ?_
  refine avoids_bind (avoids_demand (by simp [notFoundError,
    assignmentError])) fun _ _ => ?_
  split
  · exact avoids_ok _
  · exact avoids_bind endAssignmentById_avoids fun _ _ => avoids_ok _

/-- An operation writes the assignments of its own post. -/
theorem transaction_eq_ok {operation : Operation}
    {result : Option StaffAssignment}
    (sound : Exclusively tables.staffAssignments)
    (succeeds :
      transaction platform context actorId operation tables =
        .ok (result, after)) :
    Known tables.clients.tables operation.post ∧
      Rewritten operation.post tables after := by
  cases operation with
  | setLeadAssignment leadId assignedStaffId reason =>
      obtain ⟨⟨active, written⟩, sets, returned⟩ := map_eq_ok.mp succeeds
      cases returned
      exact setAssignmentTransaction_eq_ok sound sets
  | endLeadAssignment leadId reason =>
      exact endAssignmentTransaction_eq_ok succeeds
  | setClientAssignment clientId assignedStaffId reason =>
      obtain ⟨⟨active, written⟩, sets, returned⟩ := map_eq_ok.mp succeeds
      cases returned
      exact setAssignmentTransaction_eq_ok sound sets
  | endClientAssignment clientId reason =>
      exact endAssignmentTransaction_eq_ok succeeds
  | setBookingAssignment bookingId assignedStaffId reason =>
      obtain ⟨⟨active, written⟩, sets, returned⟩ := map_eq_ok.mp succeeds
      cases returned
      exact setAssignmentTransaction_eq_ok sound sets
  | setBookingFinanceAssignment bookingId assignedStaffId reason =>
      obtain ⟨⟨active, written⟩, sets, returned⟩ := map_eq_ok.mp succeeds
      cases returned
      exact ⟨trivial, setBookingFinanceAssignmentTransaction_eq_ok sound sets⟩
  | endBookingFinanceAssignment bookingId reason =>
      exact ⟨trivial, endBookingFinanceAssignment_eq_ok succeeds⟩

theorem transaction_avoids {operation : Operation}
    (sound : Exclusively tables.staffAssignments)
    (listed : fields ∈ activeIndexes) :
    Avoids (transaction platform context actorId operation tables)
      (.uniqueViolation "StaffAssignment" fields) := by
  cases operation with
  | setLeadAssignment leadId assignedStaffId reason =>
      exact avoids_map (setAssignmentTransaction_avoids sound listed)
  | endLeadAssignment leadId reason =>
      exact endAssignmentTransaction_avoids
  | setClientAssignment clientId assignedStaffId reason =>
      exact avoids_map (setAssignmentTransaction_avoids sound listed)
  | endClientAssignment clientId reason =>
      exact endAssignmentTransaction_avoids
  | setBookingAssignment bookingId assignedStaffId reason =>
      exact avoids_map (setAssignmentTransaction_avoids sound listed)
  | setBookingFinanceAssignment bookingId assignedStaffId reason =>
      exact
        avoids_map (setBookingFinanceAssignmentTransaction_avoids sound listed)
  | endBookingFinanceAssignment bookingId reason =>
      exact endBookingFinanceAssignment_avoids

/-- What an operation leaves: the database it met, or one in which the
assignments of its post are rewritten. -/
theorem perform_after {actor : AuthenticatedUser} {operation : Operation}
    (sound : Exclusively tables.staffAssignments) :
    (perform platform context actor operation tables).2 = tables ∨
      Known tables.clients.tables operation.post ∧
        Rewritten operation.post tables
          (perform platform context actor operation tables).2 := by
  unfold perform
  cases assertAssignmentMutationActor actor with
  | error failure =>
      exact Or.inl rfl
  | ok permitted =>
      dsimp only
      unfold runAssignmentTransaction
      cases outcome :
          transaction platform context actor.id operation tables with
      | error failure =>
          rw [transact_of_error outcome]
          exact Or.inl rfl
      | ok result =>
          rw [transact_of_ok outcome]
          exact Or.inr (transaction_eq_ok sound outcome)

end Operations

end Heritage.Assignments
