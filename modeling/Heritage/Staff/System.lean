import Heritage.Staff.Service

/-!
# Runs of the staff accounts

The transactions are serialised, so whatever the order in which the requests
of several administrators interleave, it is a sequence of steps.  A
reactivation alone runs at the database's default isolation: its writes may
come after other commits, as a step of their own.
-/

namespace Heritage.Staff

open Heritage.Store

inductive Operation where
  | createStaffAccount (input : CreateStaffUserInput)
  | changeStaffRole (targetId : Uuid) (newRole : Role)
  | deactivateStaffAccount (targetId : Uuid) (reason : String)
  | reactivateStaffAccount (targetId : Uuid)

inductive Request where
  | operation (now : Timestamp) (actor : AuthenticatedUser)
      (operation : Operation)
  | reactivationWritten (now : Timestamp) (actor : AuthenticatedUser)
      (targetId : Uuid)
  | userCreated (user : User)
  | sessionCreated (session : Session)

section System

variable (platform : StringPlatform)

def perform (now : Timestamp) (actor : AuthenticatedUser) :
    Operation → Effect User
  | .createStaffAccount input => createStaffAccount platform now actor input
  | .changeStaffRole targetId newRole =>
      changeStaffRole now actor targetId newRole
  | .deactivateStaffAccount targetId reason =>
      deactivateStaffAccount now actor targetId reason
  | .reactivateStaffAccount targetId =>
      reactivateStaffAccount now actor targetId

def step (tables : Tables) : Request → Tables
  | .operation now actor operation =>
      (perform platform now actor operation tables).2
  | .reactivationWritten now actor targetId =>
      (transact (writeReactivation now actor targetId) tables).2
  | .userCreated user =>
      (transact (fun current => createUser current user) tables).2
  | .sessionCreated session => (createSession session tables).2

end System

/-- The users and sessions after a step.  `signedOut` is a change of role or
a deactivation. -/
inductive Change (tables after : Tables) : Prop where
  | none (users : after.users = tables.users)
      (sessions : after.sessions = tables.sessions)
  | signedOut (target : User) (change : User → User)
      (keepsId : ∀ user, (change user).id = user.id)
      (found : findBy User.id target.id tables.users = some target)
      (spared :
        target.role = .systemAdministrator →
          1 ≤ countActiveSystemAdministrators tables (some target.id))
      (users : after.users = updateBy User.id target.id change tables.users)
      (sessions :
        after.sessions =
          tables.sessions.filter fun session => session.userId ≠ target.id)
  | reactivated (now : Timestamp) (id : Uuid)
      (users :
        after.users = updateBy User.id id (withActive now true) tables.users)
      (sessions : after.sessions = tables.sessions)
  | userAdded (user : User)
      (fresh : findBy User.id user.id tables.users = Option.none)
      (users : after.users = tables.users ++ [user])
      (sessions : after.sessions = tables.sessions)
  | sessionAdded (session : Session) (owner : User)
      (found : findBy User.id session.userId tables.users = some owner)
      (active : owner.isActive = true)
      (users : after.users = tables.users)
      (sessions : after.sessions = tables.sessions ++ [session])

variable {platform : StringPlatform} {tables after : Tables}

theorem Change.refl (tables : Tables) : Change tables tables :=
  .none rfl rfl

/-- A transaction leaves the tables alone or does what its body does. -/
theorem change_transact {α : Type}
    {body : Tables → Except TxError (α × Tables)}
    (does :
      ∀ value written, body tables = .ok (value, written) →
        Change tables written) :
    Change tables (transact body tables).2 := by
  rcases transact_state_cases body tables with same | ⟨value, succeeds⟩
  · rw [same]
    exact .refl tables
  · exact does value _ succeeds

theorem change_guarded {α : Type} {check : Except TxError Unit}
    {body : Tables → Except TxError (α × Tables)}
    (does :
      ∀ value written, check = .ok () → body tables = .ok (value, written) →
        Change tables written) :
    Change tables (guarded check body tables).2 := by
  unfold guarded
  cases check with
  | error failure => exact .refl tables
  | ok passed =>
      exact change_transact fun value written => does value written rfl

theorem insertAuditLog_eq_ok {entry : AuditLog}
    (inserted : insertAuditLog tables entry = .ok after) :
    after.users = tables.users ∧ after.sessions = tables.sessions := by
  simp only [insertAuditLog, bind_eq_ok, require_eq_ok, Except.ok.injEq,
    exists_and_left] at inserted
  obtain ⟨-, -, rfl⟩ := inserted
  exact ⟨rfl, rfl⟩

theorem findStaffById_eq_some {id : Uuid} {user : User}
    (found : findStaffById tables id = some user) :
    user.id = id ∧ findBy User.id user.id tables.users = some user := by
  have stored := (Option.filter_eq_some_iff.mp found).1
  have sameId : user.id = id := key_of_findBy stored
  rw [sameId]
  exact ⟨rfl, stored⟩

theorem protectLastAdministrator_eq_ok {targetId : Uuid} {target : User}
    (protect : protectLastAdministrator tables targetId target = .ok ()) :
    target.role = .systemAdministrator →
      1 ≤ countActiveSystemAdministrators tables (some targetId) := by
  intro isAdministrator
  rw [protectLastAdministrator, if_pos isAdministrator] at protect
  exact require_eq_ok.mp protect

/-- A protected update that signs its user out, with its audit entry. -/
theorem change_signedOut {target : User} (change : User → User)
    (keepsId : ∀ user, (change user).id = user.id) {entry : AuditLog}
    {audited : Tables}
    (stored : findBy User.id target.id tables.users = some target)
    (protect : protectLastAdministrator tables target.id target = .ok ())
    (inserted :
      insertAuditLog
          (deleteSessionsForUser
            (tables.updateUser target.id change keepsId) target.id)
          entry =
        .ok audited) :
    Change tables audited := by
  obtain ⟨users, sessions⟩ := insertAuditLog_eq_ok inserted
  exact
    .signedOut target change keepsId stored
      (protectLastAdministrator_eq_ok protect) users sessions

theorem change_changeStaffRole (now : Timestamp) (actor : AuthenticatedUser)
    (targetId : Uuid) (newRole : Role) :
    Change tables (changeStaffRole now actor targetId newRole tables).2 := by
  apply change_guarded
  intro value written _ succeeds
  simp only [changeStaffRoleTransaction, bind_eq_ok, demand_eq_ok]
    at succeeds
  obtain ⟨target, found, succeeds⟩ := succeeds
  obtain ⟨rfl, stored⟩ := findStaffById_eq_some found
  split at succeeds
  · obtain ⟨rfl, rfl⟩ := Prod.mk.inj (Except.ok.inj succeeds)
    exact .refl _
  · simp only [bind_eq_ok, updateUserRole, demand_eq_ok] at succeeds
    obtain ⟨passed, protect, ⟨updated, changed⟩, ⟨user, -, isChanged⟩,
      audited, inserted, returned⟩ := succeeds
    obtain ⟨rfl, rfl⟩ := Prod.mk.inj (Except.ok.inj isChanged)
    obtain ⟨rfl, rfl⟩ := Prod.mk.inj (Except.ok.inj returned)
    exact
      change_signedOut (withRole now newRole) (fun _ => rfl) stored protect
        inserted

theorem change_deactivateStaffAccount (now : Timestamp)
    (actor : AuthenticatedUser) (targetId : Uuid) (reason : String) :
    Change tables
      (deactivateStaffAccount now actor targetId reason tables).2 := by
  apply change_guarded
  intro value written _ succeeds
  simp only [deactivateStaffAccountTransaction, bind_eq_ok, demand_eq_ok]
    at succeeds
  obtain ⟨target, found, succeeds⟩ := succeeds
  obtain ⟨rfl, stored⟩ := findStaffById_eq_some found
  split at succeeds
  · obtain ⟨rfl, rfl⟩ := Prod.mk.inj (Except.ok.inj succeeds)
    exact .refl _
  · simp only [bind_eq_ok, setUserActive, demand_eq_ok] at succeeds
    obtain ⟨passed, protect, ⟨updated, changed⟩, ⟨user, -, isChanged⟩,
      audited, inserted, returned⟩ := succeeds
    obtain ⟨rfl, rfl⟩ := Prod.mk.inj (Except.ok.inj isChanged)
    obtain ⟨rfl, rfl⟩ := Prod.mk.inj (Except.ok.inj returned)
    exact
      change_signedOut (withActive now false) (fun _ => rfl) stored protect
        inserted

theorem change_writeReactivation {now : Timestamp}
    {actor : AuthenticatedUser} {targetId : Uuid} {value : User}
    {written : Tables}
    (succeeds :
      writeReactivation now actor targetId tables = .ok (value, written)) :
    Change tables written := by
  simp only [writeReactivation, bind_eq_ok, setUserActive, demand_eq_ok]
    at succeeds
  obtain ⟨⟨updated, changed⟩, ⟨user, -, isChanged⟩, audited, inserted,
    returned⟩ := succeeds
  obtain ⟨rfl, rfl⟩ := Prod.mk.inj (Except.ok.inj isChanged)
  obtain ⟨rfl, rfl⟩ := Prod.mk.inj (Except.ok.inj returned)
  obtain ⟨users, sessions⟩ := insertAuditLog_eq_ok inserted
  exact .reactivated now targetId users sessions

theorem change_reactivateStaffAccount (now : Timestamp)
    (actor : AuthenticatedUser) (targetId : Uuid) :
    Change tables (reactivateStaffAccount now actor targetId tables).2 := by
  apply change_guarded
  intro value written _ succeeds
  simp only [reactivateStaffAccountTransaction, bind_eq_ok, demand_eq_ok]
    at succeeds
  obtain ⟨target, -, succeeds⟩ := succeeds
  split at succeeds
  · obtain ⟨rfl, rfl⟩ := Prod.mk.inj (Except.ok.inj succeeds)
    exact .refl _
  · exact change_writeReactivation succeeds

theorem createUser_eq_ok {user value : User}
    (created : createUser tables user = .ok (value, after)) :
    findBy User.id user.id tables.users = none ∧
      after.users = tables.users ++ [user] ∧
      after.sessions = tables.sessions := by
  unfold createUser at created
  split at created
  next fresh =>
    split at created
    next =>
      obtain ⟨rfl, rfl⟩ := Prod.mk.inj (Except.ok.inj created)
      exact ⟨fresh, rfl, rfl⟩
    next => cases created
  next => cases created

theorem change_createStaffAccount (now : Timestamp)
    (actor : AuthenticatedUser) (input : CreateStaffUserInput) :
    Change tables (createStaffAccount platform now actor input tables).2 := by
  apply change_guarded
  intro value written _ succeeds
  simp only [bind_eq_ok] at succeeds
  obtain ⟨⟨created, inserted⟩, isCreated, audited, isAudited, returned⟩ :=
    succeeds
  obtain ⟨rfl, rfl⟩ := Prod.mk.inj (Except.ok.inj returned)
  obtain ⟨fresh, users, sessions⟩ := createUser_eq_ok isCreated
  obtain ⟨sameUsers, sameSessions⟩ := insertAuditLog_eq_ok isAudited
  exact
    .userAdded _ fresh (sameUsers.trans users) (sameSessions.trans sessions)

theorem change_createSession (session : Session) :
    Change tables (createSession session tables).2 := by
  apply change_guarded
  intro value written passed succeeds
  simp only [bind_eq_ok, require_eq_ok] at succeeds
  obtain ⟨-, known, returned⟩ := succeeds
  obtain ⟨owner, found⟩ := Option.isSome_iff_exists.mp known
  obtain ⟨rfl, rfl⟩ := Prod.mk.inj (Except.ok.inj returned)
  rw [found] at passed
  have active : owner.isActive = true := by
    simpa [assertAccountIsActive] using passed
  exact .sessionAdded session owner found active rfl rfl

/-- What one step of the system does to users and sessions. -/
theorem change_step (tables : Tables) (request : Request) :
    Change tables (step platform tables request) := by
  cases request with
  | operation now actor operation =>
      cases operation with
      | createStaffAccount input =>
          exact change_createStaffAccount now actor input
      | changeStaffRole targetId newRole =>
          exact change_changeStaffRole now actor targetId newRole
      | deactivateStaffAccount targetId reason =>
          exact change_deactivateStaffAccount now actor targetId reason
      | reactivateStaffAccount targetId =>
          exact change_reactivateStaffAccount now actor targetId
  | reactivationWritten now actor targetId =>
      exact change_transact fun _ _ => change_writeReactivation
  | userCreated user =>
      apply change_transact
      intro value written created
      obtain ⟨fresh, users, sessions⟩ := createUser_eq_ok created
      exact .userAdded user fresh users sessions
  | sessionCreated session =>
      exact change_createSession session

end Heritage.Staff
