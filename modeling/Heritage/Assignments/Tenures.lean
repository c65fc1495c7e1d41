import Heritage.Assignments.Service
import Heritage.Store.Tenure

/-!
# Assignments as tenures

An assignment is a tenure of one post: a lead, a client, or a booking in one
role.  Each lookup of the source finds the holder of one post, and the unique
indexes reject a second holder.
-/

namespace Heritage.Assignments

open Heritage.Store

inductive Post where
  | lead (leadId : Uuid)
  | client (clientId : Uuid)
  | booking (bookingId : Uuid) (role : Role)
  deriving DecidableEq, Repr

def isActive (assignment : StaffAssignment) : Bool :=
  assignment.endedAt = none

/-- The assignment is one of the post. -/
def concerns : Post → StaffAssignment → Bool
  | .lead leadId, assignment => assignment.leadId = some leadId
  | .client clientId, assignment => assignment.clientId = some clientId
  | .booking bookingId role, assignment =>
      assignment.bookingId = some bookingId ∧ assignment.role = role

/-- The active assignments of a post. -/
def holders (post : Post) (rows : List StaffAssignment) :
    List StaffAssignment :=
  tenuresOf isActive concerns post rows

def findHolder (post : Post) (rows : List StaffAssignment) :
    Option StaffAssignment :=
  rows.find? fun row => isActive row && concerns post row

theorem mem_holders {post : Post} {rows : List StaffAssignment}
    {row : StaffAssignment} :
    row ∈ holders post rows ↔
      row ∈ rows ∧ row.endedAt = none ∧ concerns post row := by
  simp [holders, mem_tenuresOf, isActive]

theorem mem_holders_of_findHolder {post : Post}
    {rows : List StaffAssignment} {row : StaffAssignment}
    (found : findHolder post rows = some row) : row ∈ holders post rows :=
  List.mem_filter.mpr
    ⟨List.mem_of_find?_eq_some found,
      (List.find?_eq_some_iff_append.mp found).1⟩

theorem findHolder_eq_none_iff {post : Post} {rows : List StaffAssignment} :
    findHolder post rows = none ↔ holders post rows = [] :=
  find?_holder_eq_none_iff

section Lookups

variable (rows : List StaffAssignment)

theorem findActiveAssignmentForLead_eq (leadId : Uuid) :
    findActiveAssignmentForLead rows leadId = findHolder (.lead leadId) rows := by
  unfold findActiveAssignmentForLead findHolder
  congr 1
  funext row
  simp [isActive, concerns, Bool.and_comm]

theorem findActiveAssignmentForClient_eq (clientId : Uuid) :
    findActiveAssignmentForClient rows clientId =
      findHolder (.client clientId) rows := by
  unfold findActiveAssignmentForClient findHolder
  congr 1
  funext row
  simp [isActive, concerns, Bool.and_comm]

theorem findActiveRoleAssignmentForBooking_eq (role : Role)
    (bookingId : Uuid) :
    findActiveRoleAssignmentForBooking role rows bookingId =
      findHolder (.booking bookingId role) rows := by
  unfold findActiveRoleAssignmentForBooking findHolder
  congr 1
  funext row
  simp only [isActive, concerns, Bool.decide_and]
  rw [← Bool.and_assoc, Bool.and_comm]

end Lookups

def TargetKind.post (kind : TargetKind) (targetId : Uuid) : Post :=
  match kind with
  | .lead => .lead targetId
  | .client => .client targetId
  | .booking => .booking targetId .travelConsultant

def Operation.post : Operation → Post
  | .setLeadAssignment leadId _ _ => .lead leadId
  | .endLeadAssignment leadId _ => .lead leadId
  | .setClientAssignment clientId _ _ => .client clientId
  | .endClientAssignment clientId _ => .client clientId
  | .setBookingAssignment bookingId _ _ =>
      .booking bookingId .travelConsultant
  | .setBookingFinanceAssignment bookingId _ _ =>
      .booking bookingId .financeAccounting
  | .endBookingFinanceAssignment bookingId _ =>
      .booking bookingId .financeAccounting

theorem findActiveAssignment_eq (tables : Tables) (kind : TargetKind)
    (targetId : Uuid) :
    findActiveAssignment tables kind targetId =
      findHolder (kind.post targetId) tables.staffAssignments := by
  cases kind with
  | lead =>
      exact findActiveAssignmentForLead_eq _ targetId
  | client =>
      exact findActiveAssignmentForClient_eq _ targetId
  | booking =>
      exact findActiveRoleAssignmentForBooking_eq _ .travelConsultant targetId

/-- The unique indexes on the active assignments. -/
def activeIndexes : List (List String) :=
  [["leadId"], ["clientId"], ["bookingId", "role"]]

/-- An assignment of a vacant post alone violates its primary key or
nothing. -/
theorem staffAssignmentViolation_of_vacant {rows : List StaffAssignment}
    {row : StaffAssignment} {own : Post}
    (only : ∀ other, concerns other row ↔ other = own)
    (ownVacant : holders own rows = []) :
    staffAssignmentViolation rows row =
      if (findBy StaffAssignment.id row.id rows).isSome then some ["id"]
      else none := by
  have vacant : ∀ post, concerns post row → holders post rows = [] := by
    intro post concerned
    rw [(only post).mp concerned]
    exact ownVacant
  have noLead :
      (row.leadId.any fun leadId =>
        (findActiveAssignmentForLead rows leadId).isSome) = false := by
    cases leadOf : row.leadId with
    | none =>
        rfl
    | some leadId =>
        have nobody := vacant (.lead leadId) (by simp [concerns, leadOf])
        simp [findActiveAssignmentForLead_eq,
          findHolder_eq_none_iff.mpr nobody]
  have noClient :
      (row.clientId.any fun clientId =>
        (findActiveAssignmentForClient rows clientId).isSome) = false := by
    cases clientOf : row.clientId with
    | none =>
        rfl
    | some clientId =>
        have nobody := vacant (.client clientId) (by simp [concerns, clientOf])
        simp [findActiveAssignmentForClient_eq,
          findHolder_eq_none_iff.mpr nobody]
  have noBooking :
      (row.bookingId.any fun bookingId =>
        (findActiveRoleAssignmentForBooking row.role rows
          bookingId).isSome) = false := by
    cases bookingOf : row.bookingId with
    | none =>
        rfl
    | some bookingId =>
        have nobody :=
          vacant (.booking bookingId row.role) (by simp [concerns, bookingOf])
        simp [findActiveRoleAssignmentForBooking_eq,
          findHolder_eq_none_iff.mpr nobody]
  unfold staffAssignmentViolation assignmentViolation
  rw [noLead, noClient, noBooking]
  by_cases taken : (findBy StaffAssignment.id row.id rows).isSome
  · simp [taken]
  · simp [taken]

/-- Outside bookings the third index has nothing to say. -/
theorem staffAssignmentViolation_of_no_booking
    {rows : List StaffAssignment} {row : StaffAssignment}
    (noBooking : row.bookingId = none) :
    staffAssignmentViolation rows row = assignmentViolation rows row := by
  simp [staffAssignmentViolation, noBooking]

/-- The assignment was active and is ended. -/
def Ends (old new : StaffAssignment) : Prop :=
  old.endedAt = none ∧ ∃ now, new = ended now old

theorem ends_final (first second third : StaffAssignment)
    (ends : Ends first second) : ¬ Ends second third := by
  obtain ⟨-, now, rfl⟩ := ends
  rintro ⟨active, -⟩
  cases active

/-- The rows stay exclusive and their ids distinct. -/
structure Exclusively (rows : List StaffAssignment) : Prop where
  distinct : (rows.map StaffAssignment.id).Nodup
  exclusive : Exclusive isActive concerns rows

/-- One write: an assignment of a vacant post begins, or that of the post's
holder ends. -/
inductive Write (post : Post) (rows : List StaffAssignment) :
    List StaffAssignment → Prop where
  | opened (row : StaffAssignment)
      (fresh : findBy StaffAssignment.id row.id rows = none)
      (only : ∀ other, concerns other row ↔ other = post)
      (vacant : holders post rows = []) :
      Write post rows (rows ++ [row])
  | closed (holder : StaffAssignment) (now : Timestamp)
      (holds : holder ∈ holders post rows) :
      Write post rows (updateBy StaffAssignment.id holder.id (ended now) rows)

/-- The writes of one transaction. -/
abbrev Writes (post : Post) :
    List StaffAssignment → List StaffAssignment → Prop :=
  Relation.ReflTransGen (Write post)

section Preservation

variable {post : Post} {rows after : List StaffAssignment}

theorem Write.exclusively (sound : Exclusively rows)
    (write : Write post rows after) : Exclusively after := by
  obtain ⟨distinct, exclusive⟩ := sound
  cases write with
  | opened row fresh only vacant =>
      refine ⟨nodup_map_concat distinct fresh, exclusive_concat exclusive ?_⟩
      intro other concerned
      rw [(only other).mp concerned]
      exact vacant
  | closed holder now holds =>
      have sameId : ∀ row, (ended now row).id = row.id := fun _ => rfl
      refine ⟨nodup_map_updateBy sameId distinct,
        exclusive_updateBy exclusive ?_⟩
      intro other row active
      simp [isActive, ended] at active

theorem Write.kept (sound : Exclusively rows) (write : Write post rows after) :
    Kept Ends rows after := by
  cases write with
  | opened row =>
      exact kept_append rows [row]
  | closed holder now holds =>
      obtain ⟨member, active, -⟩ := mem_holders.mp holds
      exact kept_updateBy sound.distinct member ⟨active, now, rfl⟩

/-- A write leaves the other posts' assignments alone. -/
theorem Write.frame (sound : Exclusively rows) (write : Write post rows after) :
    (after.filter fun row => ¬ concerns post row) =
      rows.filter fun row => ¬ concerns post row := by
  cases write with
  | opened row fresh only vacant =>
      have own : concerns post row := (only post).mpr rfl
      simp [List.filter_append, own]
  | closed holder now holds =>
      obtain ⟨member, -, own⟩ := mem_holders.mp holds
      have samePosts : concerns post (ended now holder) = concerns post holder := by
        cases post <;> rfl
      apply filter_updateBy_of_dropped
      intro row rowMember sameId
      have isHolder :=
        List.inj_on_of_nodup_map sound.distinct rowMember member sameId
      subst isHolder
      simp [samePosts, own]

end Preservation

end Heritage.Assignments
