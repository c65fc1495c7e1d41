import Heritage.Staff.System

/-!
# The last administrator

No order of requests leaves the platform without an active administrator, and
who loses a role or is deactivated is signed out by the same step.
-/

namespace Heritage.Staff

open Heritage.Store

variable {platform : StringPlatform} {tables after : Tables}

/-- Some account is an active system administrator. -/
def Administered (tables : Tables) : Prop :=
  ∃ user ∈ tables.users, user.role = .systemAdministrator ∧ user.isActive

/-- The count without one user finds an administrator besides it. -/
theorem exists_other_administrator {id : Uuid}
    (others : 1 ≤ countActiveSystemAdministrators tables (some id)) :
    ∃ user ∈ tables.users,
      user.id ≠ id ∧ user.role = .systemAdministrator ∧ user.isActive := by
  unfold countActiveSystemAdministrators at others
  obtain ⟨user, member, counted⟩ := List.countP_pos_iff.mp others
  simp only [isActiveSystemAdministrator, decide_eq_true_eq,
    Bool.decide_and, Bool.and_eq_true, ne_eq, Option.some.injEq] at counted
  exact ⟨user, member, Ne.symm counted.2, counted.1.1, counted.1.2⟩

/-- An update of one user that the check let through leaves another
administrator. -/
theorem exists_spared (administered : Administered tables) {target : User}
    (found : findBy User.id target.id tables.users = some target)
    (spared :
      target.role = .systemAdministrator →
        1 ≤ countActiveSystemAdministrators tables (some target.id)) :
    ∃ user ∈ tables.users,
      user.id ≠ target.id ∧ user.role = .systemAdministrator ∧
        user.isActive := by
  by_cases isAdministrator : target.role = .systemAdministrator
  · exact exists_other_administrator (spared isAdministrator)
  · obtain ⟨user, member, role, active⟩ := administered
    refine ⟨user, member, ?_, role, active⟩
    intro sameId
    have same : user = target :=
      List.inj_on_of_nodup_map tables.userIds member (mem_of_findBy found)
        sameId
    rw [same] at role
    exact isAdministrator role

theorem Change.administered (change : Change tables after)
    (administered : Administered tables) : Administered after := by
  cases change with
  | none users sessions =>
      unfold Administered
      rw [users]
      exact administered
  | signedOut target change keepsId found spared users sessions =>
      obtain ⟨user, member, different, role, active⟩ :=
        exists_spared administered found spared
      refine ⟨user, ?_, role, active⟩
      rw [users, mem_updateBy_iff]
      exact ⟨user, member, (if_neg different).symm⟩
  | reactivated now id users sessions =>
      obtain ⟨user, member, role, active⟩ := administered
      unfold Administered
      rw [users]
      refine ⟨_, mem_updateBy_of_mem member, ?_⟩
      split
      · exact ⟨role, rfl⟩
      · exact ⟨role, active⟩
  | userAdded user fresh users sessions =>
      obtain ⟨user, member, isAdministrator⟩ := administered
      refine ⟨user, ?_, isAdministrator⟩
      rw [users]
      exact List.mem_append_left _ member
  | sessionAdded session owner found active users sessions =>
      unfold Administered
      rw [users]
      exact administered

/-- Whose role changed or who was deactivated has no session left. -/
def SignsOut (tables after : Tables) : Prop :=
  ∀ old ∈ tables.users, ∀ new ∈ after.users, new.id = old.id →
    new.role ≠ old.role ∨ old.isActive ∧ ¬ new.isActive →
      ∀ session ∈ after.sessions, session.userId ≠ old.id

/-- While the users stay the same nobody has to be signed out. -/
theorem signsOut_of_same
    (same :
      ∀ old ∈ tables.users, ∀ new ∈ after.users, new.id = old.id →
        new.role = old.role ∧ (old.isActive → new.isActive)) :
    SignsOut tables after := by
  intro old oldMember new newMember sameId changed
  obtain ⟨role, active⟩ := same old oldMember new newMember sameId
  rcases changed with otherRole | ⟨wasActive, inactive⟩
  · exact absurd role otherRole
  · exact absurd (active wasActive) inactive

/-- A row with the id of a stored row is that row. -/
theorem unchanged {old new : User} (oldMember : old ∈ tables.users)
    (newMember : new ∈ tables.users) (sameId : new.id = old.id) :
    new.role = old.role ∧ (old.isActive → new.isActive) := by
  have same : new = old :=
    List.inj_on_of_nodup_map tables.userIds newMember oldMember sameId
  rw [same]
  exact ⟨rfl, id⟩

/-- The row that an update made of the row with this id. -/
theorem eq_of_mem_updateBy {id : Uuid} {change : User → User}
    (keepsId : ∀ user, (change user).id = user.id) {old new : User}
    (oldMember : old ∈ tables.users)
    (newMember : new ∈ updateBy User.id id change tables.users)
    (sameId : new.id = old.id) :
    new = if old.id = id then change old else old := by
  obtain ⟨origin, originMember, rfl⟩ := mem_updateBy_iff.mp newMember
  have originId : origin.id = old.id := by
    rw [← sameId]
    split
    · exact (keepsId origin).symm
    · rfl
  have same : origin = old :=
    List.inj_on_of_nodup_map tables.userIds originMember oldMember originId
  rw [same]

theorem Change.signsOut (change : Change tables after) :
    SignsOut tables after := by
  cases change with
  | none users sessions =>
      apply signsOut_of_same
      intro old oldMember new newMember sameId
      rw [users] at newMember
      exact unchanged oldMember newMember sameId
  | signedOut target change keepsId found spared users sessions =>
      intro old oldMember new newMember sameId changed
      rw [users] at newMember
      have isNew := eq_of_mem_updateBy keepsId oldMember newMember sameId
      by_cases isTarget : old.id = target.id
      · intro session member
        rw [sessions] at member
        have others := List.of_mem_filter member
        rw [isTarget]
        exact of_decide_eq_true others
      · rw [if_neg isTarget] at isNew
        rw [isNew] at changed
        rcases changed with otherRole | ⟨active, inactive⟩
        · exact absurd rfl otherRole
        · exact absurd active inactive
  | reactivated now id users sessions =>
      apply signsOut_of_same
      intro old oldMember new newMember sameId
      rw [users] at newMember
      have keepsId : ∀ user, (withActive now true user).id = user.id :=
        fun _ => rfl
      rw [eq_of_mem_updateBy keepsId oldMember newMember sameId]
      split
      · exact ⟨rfl, fun _ => rfl⟩
      · exact ⟨rfl, fun active => active⟩
  | userAdded user fresh users sessions =>
      apply signsOut_of_same
      intro old oldMember new newMember sameId
      rw [users, List.mem_append, List.mem_singleton] at newMember
      rcases newMember with stored | rfl
      · exact unchanged oldMember stored sameId
      · exact
          absurd sameId.symm (findBy_eq_none_iff.mp fresh old oldMember)
  | sessionAdded session owner found active users sessions =>
      apply signsOut_of_same
      intro old oldMember new newMember sameId
      rw [users] at newMember
      exact unchanged oldMember newMember sameId

/-- From any state with an active administrator there is one after every
sequence of requests, whoever makes them, and every step of it signs out whom
it gives another role or deactivates. -/
theorem administrator_remains (platform : StringPlatform) (opening : Tables)
    (administered : Administered opening) (requests : List Request) :
    Administered (run (step platform) opening requests) ∧
      ∀ earlier request later,
        requests = earlier ++ request :: later →
          SignsOut (run (step platform) opening earlier)
            (run (step platform) opening (earlier ++ [request])) := by
  constructor
  · exact
      run_invariant administered
        (fun current request held =>
          (change_step current request).administered held)
        requests
  · intro earlier request later _
    rw [run_append]
    exact (change_step _ request).signsOut

def administrator (id : Uuid) (email : String) : User where
  id := id
  name := "Administrator"
  email := email
  role := .systemAdministrator
  isActive := true
  createdAt := 0
  updatedAt := 0
  staffProfile := none

def twoAdministrators : Tables where
  users :=
    [administrator 1 "first@heritage.example",
      administrator 2 "second@heritage.example"]
  userIds := by decide
  sessions := [⟨10, 1⟩, ⟨20, 2⟩]
  auditLogs := []

/-- The second administrator's request came in before it lost the role. -/
def mutualRemoval : List Request :=
  [.operation 1 ⟨1, .systemAdministrator⟩ (.changeStaffRole 2 .adminManager),
    .operation 2 ⟨2, .systemAdministrator⟩
      (.deactivateStaffAccount 1 "left")]

theorem mutual_removal_leaves_one :
    Administered (run (step ⟨id, id⟩) twoAdministrators mutualRemoval) ∧
      SignsOut twoAdministrators
        (run (step ⟨id, id⟩) twoAdministrators (mutualRemoval.take 1)) ∧
      (run (step ⟨id, id⟩) twoAdministrators mutualRemoval).sessions =
        [⟨10, 1⟩] := by
  have administered : Administered twoAdministrators :=
    ⟨administrator 1 "first@heritage.example", List.mem_cons_self, rfl, rfl⟩
  obtain ⟨remains, signedOut⟩ :=
    administrator_remains ⟨id, id⟩ twoAdministrators administered
      mutualRemoval
  exact ⟨remains, signedOut [] _ _ rfl, by decide⟩

end Heritage.Staff
