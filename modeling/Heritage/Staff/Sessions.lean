import Heritage.Staff.Administrators

/-!
# Sessions and role guards

`guards.ts`, and signing in as two steps: the hook that reads the account, and
the session that is written after it.  Between the two anything may happen.
What `auth.api.getSession` makes of a request is a parameter.
-/

namespace Heritage.Staff

open Heritage.Store

inductive AuthorizationResult where
  | authorized
  | unauthenticated
  | forbidden
  deriving DecidableEq, Repr

def authorize (role : Option Role) (allowedRoles : Option (List Role)) :
    AuthorizationResult :=
  match role with
  | none => .unauthenticated
  | some role =>
      if allowedRoles.all fun roles => role ∈ roles then .authorized
      else .forbidden

structure AuthorizationError where
  status : Nat
  message : String
  deriving DecidableEq, Repr

/-- The headers of a request. -/
abbrev Headers := List (String × String)

/-- What is read of the result of `getSession`. -/
structure SessionResult where
  sessionId : Uuid
  user : AuthenticatedUser
  deriving DecidableEq, Repr

structure AuthPlatform extends StringPlatform where
  /-- `auth.api.getSession` at a time, on the tables as they are then. -/
  getSession : Headers → Timestamp → Tables → Option SessionResult

/-- Sessions are read from the database, since no `secondaryStorage` is
configured: a result is a stored session with the row of its user. -/
def ReadsDatabase (platform : AuthPlatform) : Prop :=
  ∀ headers now tables result,
    platform.getSession headers now tables = some result →
      ∃ session user,
        session ∈ tables.sessions ∧
          findBy User.id session.userId tables.users = some user ∧
            result = ⟨session.id, user.id, user.role⟩

def getCurrentUser (platform : AuthPlatform) (headers : Headers)
    (now : Timestamp) (tables : Tables) : Option AuthenticatedUser :=
  (platform.getSession headers now tables).map SessionResult.user

def requireUser (platform : AuthPlatform) (headers : Headers)
    (now : Timestamp) (tables : Tables) (allowedRoles : Option (List Role)) :
    Except AuthorizationError AuthenticatedUser := do
  let user := getCurrentUser platform headers now tables
  match authorize (user.map AuthenticatedUser.role) allowedRoles with
  | .authorized => demand user ⟨401, "Authentication required."⟩
  | .unauthenticated => .error ⟨401, "Authentication required."⟩
  | .forbidden =>
      .error ⟨403, "You do not have permission to access this resource."⟩

/-- A guarded route goes on with the current user, whose role is one of those
allowed. -/
theorem requireUser_eq_ok {platform : AuthPlatform} {headers : Headers}
    {now : Timestamp} {tables : Tables} {allowedRoles : List Role}
    {actor : AuthenticatedUser}
    (admits :
      requireUser platform headers now tables (some allowedRoles) =
        .ok actor) :
    getCurrentUser platform headers now tables = some actor ∧
      actor.role ∈ allowedRoles := by
  unfold requireUser at admits
  cases read : getCurrentUser platform headers now tables with
  | none =>
      rw [read] at admits
      cases admits
  | some user =>
      rw [read] at admits
      simp only [authorize, Option.map_some, Option.all_some] at admits
      by_cases allowed : user.role ∈ allowedRoles
      · rw [if_pos (decide_eq_true allowed)] at admits
        obtain rfl := Except.ok.inj admits
        exact ⟨rfl, allowed⟩
      · rw [if_neg (by simpa using allowed)] at admits
        cases admits

/-- The user that a guard admits has a stored session and a row with an
allowed role. -/
theorem exists_session_of_requireUser {platform : AuthPlatform}
    {headers : Headers} {now : Timestamp} {tables : Tables}
    {allowedRoles : List Role} {actor : AuthenticatedUser}
    (reads : ReadsDatabase platform)
    (admits :
      requireUser platform headers now tables (some allowedRoles) =
        .ok actor) :
    ∃ session user,
      session ∈ tables.sessions ∧
        findBy User.id session.userId tables.users = some user ∧
          user.id = actor.id ∧ user.role ∈ allowedRoles := by
  obtain ⟨read, allowed⟩ := requireUser_eq_ok admits
  obtain ⟨result, found, rfl⟩ := Option.map_eq_some_iff.mp read
  obtain ⟨session, user, member, isUser, rfl⟩ :=
    reads headers now tables result found
  exact ⟨session, user, member, isUser, rfl, allowed⟩

/-- Writes a session whose hook has passed. -/
def insertSession (tables : Tables) (session : Session) :
    Except TxError (Session × Tables) := do
  require (findBy Session.id session.id tables.sessions = none)
    (.uniqueViolation "Session" ["id"])
  require (findBy User.id session.userId tables.users).isSome
    (.foreignKeyViolation "Session" "userId")
  .ok (session, { tables with sessions := tables.sessions ++ [session] })

/-- `[.systemAdministrator]` guards every staff route. -/
def staffRouteRoles : List Role :=
  [.systemAdministrator]

structure Premises where
  tables : Tables
  /-- Sign-ins that have passed the hook. -/
  checked : List Session
  /-- Operations that have passed the guard of their route. -/
  admitted : List (AuthenticatedUser × Operation)

inductive Event where
  | signInChecked (session : Session)
  | sessionInserted (index : Nat)
  /-- Signing out, or the removal of an expired session. -/
  | sessionEnded (sessionId : Uuid)
  | routeEntered (headers : Headers) (now : Timestamp)
      (operation : Operation)
  | operationRun (index : Nat) (now : Timestamp)
  /-- The writes of a reactivation, apart from its reads. -/
  | reactivationWritten (index : Nat) (now : Timestamp)
  | userCreated (user : User) (active : user.isActive)

namespace Premises

/-- Nobody is signed in. -/
def opening (tables : Tables) : Premises where
  tables := { tables with sessions := [] }
  checked := []
  admitted := []

/-- The request that an admitted operation makes. -/
def requestOf (entry : AuthenticatedUser × Operation) (now : Timestamp) :
    Request :=
  .operation now entry.1 entry.2

/-- The second half of an admitted reactivation. -/
def reactivationOf (entry : AuthenticatedUser × Operation)
    (now : Timestamp) : Option Request :=
  match entry.2 with
  | .reactivateStaffAccount targetId =>
      some (.reactivationWritten now entry.1 targetId)
  | _ => none

variable (platform : AuthPlatform)

def step (premises : Premises) : Event → Premises
  | .signInChecked session =>
      match
        assertAccountIsActive
          (findBy User.id session.userId premises.tables.users)
      with
      | .ok () => { premises with checked := premises.checked ++ [session] }
      | .error _ => premises
  | .sessionInserted index =>
      match premises.checked[index]? with
      | none => premises
      | some session =>
          { premises with
            tables :=
              (transact (fun tables => insertSession tables session)
                premises.tables).2
            checked := premises.checked.eraseIdx index }
  | .sessionEnded sessionId =>
      { premises with
        tables :=
          { premises.tables with
            sessions :=
              premises.tables.sessions.filter fun session =>
                session.id ≠ sessionId } }
  | .routeEntered headers now operation =>
      match
        requireUser platform headers now premises.tables
          (some staffRouteRoles)
      with
      | .ok actor =>
          { premises with
            admitted := premises.admitted ++ [(actor, operation)] }
      | .error _ => premises
  | .operationRun index now =>
      match premises.admitted[index]? with
      | none => premises
      | some entry =>
          { premises with
            tables :=
              Staff.step platform.toStringPlatform premises.tables
                (requestOf entry now)
            admitted := premises.admitted.eraseIdx index }
  | .reactivationWritten index now =>
      match
        premises.admitted[index]?.bind fun entry => reactivationOf entry now
      with
      | none => premises
      | some request =>
          { premises with
            tables :=
              Staff.step platform.toStringPlatform premises.tables request
            admitted := premises.admitted.eraseIdx index }
  | .userCreated user _ =>
      { premises with
        tables :=
          Staff.step platform.toStringPlatform premises.tables
            (.userCreated user) }

/-- The state after `events`, from a database where nobody is signed in. -/
def after (tables : Tables) (events : List Event) : Premises :=
  run (step platform) (opening tables) events

end Premises

section StaffRequests

variable {platform : StringPlatform} {tables written : Tables}

/-- No session is new, a new user is active, and every new entry of the audit
log names the actor, if there is one. -/
structure Recorded (actorId : Option Uuid) (tables after : Tables) : Prop where
  sessions : ∀ session ∈ after.sessions, session ∈ tables.sessions
  users :
    ∀ user ∈ after.users,
      findBy User.id user.id tables.users = none → user.isActive
  auditLogs :
    ∀ entry ∈ after.auditLogs,
      entry ∈ tables.auditLogs ∨ actorId = some entry.actorId

theorem not_new_of_mem {user : User} (member : user ∈ tables.users) :
    findBy User.id user.id tables.users = none → user.isActive := by
  intro absent
  exact absurd rfl (findBy_eq_none_iff.mp absent user member)

theorem Recorded.refl (actorId : Option Uuid) (tables : Tables) :
    Recorded actorId tables tables where
  sessions := fun _ member => member
  users := fun _ member => not_new_of_mem member
  auditLogs := fun _ member => Or.inl member

theorem recorded_transact {α : Type} {actorId : Option Uuid}
    {body : Tables → Except TxError (α × Tables)}
    (does :
      ∀ value written, body tables = .ok (value, written) →
        Recorded actorId tables written) :
    Recorded actorId tables (transact body tables).2 := by
  rcases transact_state_cases body tables with same | ⟨value, succeeds⟩
  · rw [same]
    exact .refl _ _
  · exact does value _ succeeds

theorem recorded_guarded {α : Type} {actorId : Option Uuid}
    {check : Except TxError Unit}
    {body : Tables → Except TxError (α × Tables)}
    (does :
      ∀ value written, body tables = .ok (value, written) →
        Recorded actorId tables written) :
    Recorded actorId tables (guarded check body tables).2 := by
  unfold guarded
  cases check with
  | error failure => exact .refl _ _
  | ok passed => exact recorded_transact does

/-- A write that adds no session, with its audit entry. -/
theorem recorded_insertAuditLog {entry : AuditLog} {audited : Tables}
    (inserted : insertAuditLog written entry = .ok audited)
    (sessions : ∀ session ∈ written.sessions, session ∈ tables.sessions)
    (users :
      ∀ user ∈ written.users,
        findBy User.id user.id tables.users = none → user.isActive)
    (auditLogs : written.auditLogs = tables.auditLogs) :
    Recorded (some entry.actorId) tables audited := by
  simp only [insertAuditLog, bind_eq_ok, require_eq_ok, Except.ok.injEq,
    exists_and_left] at inserted
  obtain ⟨-, -, rfl⟩ := inserted
  refine ⟨sessions, users, ?_⟩
  intro other member
  rcases List.mem_append.mp member with old | new
  · rw [auditLogs] at old
    exact Or.inl old
  · rw [List.mem_singleton.mp new]
    exact Or.inr rfl

theorem mem_of_mem_deleteSessionsForUser {userId : Uuid} {session : Session}
    (member : session ∈ (deleteSessionsForUser tables userId).sessions) :
    session ∈ tables.sessions :=
  List.mem_of_mem_filter member

/-- A row that an update made is not new. -/
theorem not_new_of_mem_updateUser {id : Uuid} {change : User → User}
    (keepsId : ∀ user, (change user).id = user.id) {user : User}
    (member : user ∈ (tables.updateUser id change keepsId).users) :
    findBy User.id user.id tables.users = none → user.isActive := by
  intro absent
  obtain ⟨old, isOld, rfl⟩ := mem_updateBy_iff.mp member
  have other := findBy_eq_none_iff.mp absent old isOld
  by_cases atId : old.id = id
  · rw [if_pos atId, keepsId] at other
    exact absurd rfl other
  · rw [if_neg atId] at other
    exact absurd rfl other

theorem recorded_changeStaffRole (now : Timestamp)
    (actor : AuthenticatedUser) (targetId : Uuid) (newRole : Role) :
    Recorded (some actor.id) tables
      (changeStaffRole now actor targetId newRole tables).2 := by
  apply recorded_guarded
  intro value written succeeds
  simp only [changeStaffRoleTransaction, bind_eq_ok, demand_eq_ok]
    at succeeds
  obtain ⟨target, -, succeeds⟩ := succeeds
  split at succeeds
  · obtain ⟨rfl, rfl⟩ := Prod.mk.inj (Except.ok.inj succeeds)
    exact .refl _ _
  · simp only [bind_eq_ok, updateUserRole, demand_eq_ok] at succeeds
    obtain ⟨-, -, ⟨updated, changed⟩, ⟨user, -, isChanged⟩, audited,
      inserted, returned⟩ := succeeds
    obtain ⟨rfl, rfl⟩ := Prod.mk.inj (Except.ok.inj isChanged)
    obtain ⟨rfl, rfl⟩ := Prod.mk.inj (Except.ok.inj returned)
    exact
      recorded_insertAuditLog inserted
        (fun _ member => mem_of_mem_deleteSessionsForUser member)
        (fun _ member =>
          @not_new_of_mem_updateUser tables targetId (withRole now newRole)
          (fun _ => rfl) _ member)
        rfl

theorem recorded_deactivateStaffAccount (now : Timestamp)
    (actor : AuthenticatedUser) (targetId : Uuid) (reason : String) :
    Recorded (some actor.id) tables
      (deactivateStaffAccount now actor targetId reason tables).2 := by
  apply recorded_guarded
  intro value written succeeds
  simp only [deactivateStaffAccountTransaction, bind_eq_ok, demand_eq_ok]
    at succeeds
  obtain ⟨target, -, succeeds⟩ := succeeds
  split at succeeds
  · obtain ⟨rfl, rfl⟩ := Prod.mk.inj (Except.ok.inj succeeds)
    exact .refl _ _
  · simp only [bind_eq_ok, setUserActive, demand_eq_ok] at succeeds
    obtain ⟨-, -, ⟨updated, changed⟩, ⟨user, -, isChanged⟩, audited,
      inserted, returned⟩ := succeeds
    obtain ⟨rfl, rfl⟩ := Prod.mk.inj (Except.ok.inj isChanged)
    obtain ⟨rfl, rfl⟩ := Prod.mk.inj (Except.ok.inj returned)
    exact
      recorded_insertAuditLog inserted
        (fun _ member => mem_of_mem_deleteSessionsForUser member)
        (fun _ member =>
          @not_new_of_mem_updateUser tables targetId (withActive now false)
          (fun _ => rfl) _ member)
        rfl

theorem recorded_writeReactivation {now : Timestamp}
    {actor : AuthenticatedUser} {targetId : Uuid} {value : User}
    (succeeds :
      writeReactivation now actor targetId tables = .ok (value, written)) :
    Recorded (some actor.id) tables written := by
  simp only [writeReactivation, bind_eq_ok, setUserActive, demand_eq_ok]
    at succeeds
  obtain ⟨⟨updated, changed⟩, ⟨user, -, isChanged⟩, audited, inserted,
    returned⟩ := succeeds
  obtain ⟨rfl, rfl⟩ := Prod.mk.inj (Except.ok.inj isChanged)
  obtain ⟨rfl, rfl⟩ := Prod.mk.inj (Except.ok.inj returned)
  exact
    recorded_insertAuditLog inserted (fun _ member => member)
      (fun _ member =>
        @not_new_of_mem_updateUser tables targetId (withActive now true)
          (fun _ => rfl) _ member)
        rfl

theorem recorded_reactivateStaffAccount (now : Timestamp)
    (actor : AuthenticatedUser) (targetId : Uuid) :
    Recorded (some actor.id) tables
      (reactivateStaffAccount now actor targetId tables).2 := by
  apply recorded_guarded
  intro value written succeeds
  simp only [reactivateStaffAccountTransaction, bind_eq_ok, demand_eq_ok]
    at succeeds
  obtain ⟨target, -, succeeds⟩ := succeeds
  split at succeeds
  · obtain ⟨rfl, rfl⟩ := Prod.mk.inj (Except.ok.inj succeeds)
    exact .refl _ _
  · exact recorded_writeReactivation succeeds

theorem createUser_recorded {user value : User}
    (created : createUser tables user = .ok (value, written)) :
    written.sessions = tables.sessions ∧
      written.users = tables.users ++ [user] ∧
      written.auditLogs = tables.auditLogs := by
  unfold createUser at created
  split at created
  next =>
    split at created
    next =>
      obtain ⟨rfl, rfl⟩ := Prod.mk.inj (Except.ok.inj created)
      exact ⟨rfl, rfl, rfl⟩
    next => cases created
  next => cases created

/-- An active user that is added is the only new one. -/
theorem active_of_new {user added : User} (active : added.isActive)
    (member : user ∈ tables.users ++ [added]) :
    findBy User.id user.id tables.users = none → user.isActive := by
  rcases List.mem_append.mp member with old | new
  · exact not_new_of_mem old
  · intro _
    rw [List.mem_singleton.mp new]
    exact active

theorem recorded_createStaffAccount (now : Timestamp)
    (actor : AuthenticatedUser) (input : CreateStaffUserInput) :
    Recorded (some actor.id) tables
      (createStaffAccount platform now actor input tables).2 := by
  apply recorded_guarded
  intro value written succeeds
  simp only [bind_eq_ok] at succeeds
  obtain ⟨⟨created, inserted⟩, isCreated, audited, isAudited, returned⟩ :=
    succeeds
  obtain ⟨rfl, rfl⟩ := Prod.mk.inj (Except.ok.inj returned)
  obtain ⟨sessions, users, auditLogs⟩ := createUser_recorded isCreated
  refine recorded_insertAuditLog isAudited ?_ ?_ auditLogs
  · intro session member
    rw [sessions] at member
    exact member
  · intro user member
    rw [users] at member
    exact active_of_new rfl member

theorem recorded_operation (now : Timestamp) (actor : AuthenticatedUser)
    (operation : Operation) :
    Recorded (some actor.id) tables
      (Staff.step platform tables (.operation now actor operation)) := by
  cases operation with
  | createStaffAccount input =>
      exact recorded_createStaffAccount now actor input
  | changeStaffRole targetId newRole =>
      exact recorded_changeStaffRole now actor targetId newRole
  | deactivateStaffAccount targetId reason =>
      exact recorded_deactivateStaffAccount now actor targetId reason
  | reactivateStaffAccount targetId =>
      exact recorded_reactivateStaffAccount now actor targetId

end StaffRequests

/-! ## What one event does -/

variable {tables : Tables}

/-- The user got another role or was deactivated. -/
def SignedOut (tables after : Tables) (userId : Uuid) : Prop :=
  ∃ old new,
    findBy User.id userId tables.users = some old ∧
      findBy User.id userId after.users = some new ∧
        (new.role ≠ old.role ∨ old.isActive ∧ ¬ new.isActive)

/-- The user was deactivated. -/
def Deactivated (tables after : Tables) (userId : Uuid) : Prop :=
  ∃ old new,
    findBy User.id userId tables.users = some old ∧
      findBy User.id userId after.users = some new ∧
        old.isActive ∧ ¬ new.isActive

theorem Deactivated.signedOut {userId : Uuid} {after : Tables}
    (deactivated : Deactivated tables after userId) :
    SignedOut tables after userId := by
  obtain ⟨old, new, found, foundAfter, changed⟩ := deactivated
  exact ⟨old, new, found, foundAfter, Or.inr changed⟩

theorem not_signedOut_of_same {userId : Uuid} {after : Tables}
    (same : after.users = tables.users) :
    ¬ SignedOut tables after userId := by
  rintro ⟨old, new, found, foundAfter, changed⟩
  rw [same, found] at foundAfter
  obtain rfl := Option.some.inj foundAfter
  rcases changed with otherRole | ⟨active, inactive⟩
  · exact otherRole rfl
  · exact inactive active

/-- Whose session is left was not signed out. -/
theorem not_signedOut_of_session {after : Tables} {session : Session}
    (signsOut : SignsOut tables after) (member : session ∈ after.sessions) :
    ¬ SignedOut tables after session.userId := by
  rintro ⟨old, new, found, foundAfter, changed⟩
  have oldId := key_of_findBy found
  have newId := key_of_findBy foundAfter
  exact
    signsOut old (mem_of_findBy found) new (mem_of_findBy foundAfter)
      (newId.trans oldId.symm) changed session member oldId.symm

namespace Premises

variable {platform : AuthPlatform} {premises : Premises} {event : Event}

/-- Nothing but an insertion adds a session, a session that is left belongs to
a user that was not signed out, new users are active, and only admitted
operations are audited. -/
structure Stepped (platform : AuthPlatform) (premises : Premises)
    (event : Event) : Prop where
  sessions :
    ∀ session ∈ (step platform premises event).tables.sessions,
      session ∈ premises.tables.sessions ∧
          ¬ SignedOut premises.tables
            (step platform premises event).tables session.userId ∨
        ∃ index, event = .sessionInserted index ∧ session ∈ premises.checked
  users :
    ∀ user ∈ (step platform premises event).tables.users,
      findBy User.id user.id premises.tables.users = none → user.isActive
  auditLogs :
    ∀ entry ∈ (step platform premises event).tables.auditLogs,
      entry ∈ premises.tables.auditLogs ∨
        ∃ admitted ∈ premises.admitted, admitted.1.id = entry.actorId

theorem Stepped.of_same {after : Premises}
    (isAfter : step platform premises event = after)
    (users : after.tables.users = premises.tables.users)
    (auditLogs : after.tables.auditLogs = premises.tables.auditLogs)
    (sessions :
      ∀ session ∈ after.tables.sessions,
        session ∈ premises.tables.sessions) :
    Stepped platform premises event where
  sessions := by
    rw [isAfter]
    intro session member
    exact Or.inl ⟨sessions session member, not_signedOut_of_same users⟩
  users := by
    rw [isAfter, users]
    exact fun _ member => not_new_of_mem member
  auditLogs := by
    rw [isAfter, auditLogs]
    exact fun _ member => Or.inl member

theorem Stepped.of_request {request : Request} {actorId : Option Uuid}
    (isAfter :
      (step platform premises event).tables =
        Staff.step platform.toStringPlatform premises.tables request)
    (recorded :
      Recorded actorId premises.tables
        (Staff.step platform.toStringPlatform premises.tables request))
    (actor :
      ∀ id, actorId = some id →
        ∃ admitted ∈ premises.admitted, admitted.1.id = id) :
    Stepped platform premises event where
  sessions := by
    rw [isAfter]
    intro session member
    exact
      Or.inl
        ⟨recorded.sessions session member,
          not_signedOut_of_session (change_step _ request).signsOut member⟩
  users := by
    rw [isAfter]
    exact recorded.users
  auditLogs := by
    rw [isAfter]
    intro entry member
    rcases recorded.auditLogs entry member with old | own
    · exact Or.inl old
    · exact Or.inr (actor _ own)

theorem insertSession_eq_ok {session value : Session} {after : Tables}
    (inserted : insertSession tables session = .ok (value, after)) :
    (findBy User.id session.userId tables.users).isSome ∧
      after = { tables with sessions := tables.sessions ++ [session] } := by
  simp only [insertSession, bind_eq_ok, require_eq_ok, exists_const]
    at inserted
  obtain ⟨-, known, returned⟩ := inserted
  exact ⟨known, (Prod.mk.inj (Except.ok.inj returned)).2.symm⟩

theorem stepped_sessionInserted {index : Nat} :
    Stepped platform premises (.sessionInserted index) := by
  cases atIndex : premises.checked[index]? with
  | none =>
      exact
        .of_same (by simp only [step, atIndex]) rfl rfl
            fun _ member => member
  | some session =>
      have isAfter :
          (step platform premises (.sessionInserted index)).tables =
            (transact (fun tables => insertSession tables session)
              premises.tables).2 := by
        simp only [step, atIndex]
      rcases
          transact_state_cases (fun tables => insertSession tables session)
            premises.tables with
        same | ⟨value, succeeds⟩
      · rw [same] at isAfter
        constructor
        · rw [isAfter]
          intro other member
          exact Or.inl ⟨member, not_signedOut_of_same rfl⟩
        · rw [isAfter]
          exact fun _ member => not_new_of_mem member
        · rw [isAfter]
          exact fun _ member => Or.inl member
      · obtain ⟨-, written⟩ := insertSession_eq_ok succeeds
        rw [written] at isAfter
        constructor
        · rw [isAfter]
          intro other member
          rcases List.mem_append.mp member with old | new
          · exact Or.inl ⟨old, not_signedOut_of_same rfl⟩
          · right
            rw [List.mem_singleton.mp new]
            exact ⟨index, rfl, List.mem_of_getElem? atIndex⟩
        · rw [isAfter]
          exact fun _ member => not_new_of_mem member
        · rw [isAfter]
          exact fun _ member => Or.inl member

theorem recorded_userCreated {user : User} (active : user.isActive) :
    Recorded none tables
      (Staff.step platform.toStringPlatform tables (.userCreated user)) := by
  apply recorded_transact
  intro value written created
  obtain ⟨sessions, users, auditLogs⟩ := createUser_recorded created
  constructor
  · rw [sessions]
    exact fun _ member => member
  · intro other member
    rw [users] at member
    exact active_of_new active member
  · rw [auditLogs]
    exact fun _ member => Or.inl member

theorem reactivationOf_eq_some {entry : AuthenticatedUser × Operation}
    {now : Timestamp} {request : Request}
    (isRequest : reactivationOf entry now = some request) :
    Recorded (some entry.1.id) tables
      (Staff.step platform.toStringPlatform tables request) := by
  unfold reactivationOf at isRequest
  split at isRequest
  next targetId =>
    obtain rfl := Option.some.inj isRequest
    exact recorded_transact fun _ _ => recorded_writeReactivation
  next => cases isRequest

theorem actor_of_admitted {entry : AuthenticatedUser × Operation}
    (member : entry ∈ premises.admitted) :
    ∀ id, some entry.1.id = some id →
      ∃ admitted ∈ premises.admitted, admitted.1.id = id := by
  intro id isActor
  exact ⟨entry, member, Option.some.inj isActor⟩

/-- What any event does. -/
theorem stepped (premises : Premises) (event : Event) :
    Stepped platform premises event := by
  cases event with
  | signInChecked session =>
      cases passed :
          assertAccountIsActive
            (findBy User.id session.userId premises.tables.users) with
      | error refusal =>
          exact
            .of_same (by simp only [step, passed]) rfl rfl
            fun _ member => member
      | ok active =>
          have isAfter :
              step platform premises (.signInChecked session) =
                { premises with
                  checked := premises.checked ++ [session] } := by
            simp only [step, passed]
          exact .of_same isAfter rfl rfl
            fun _ member => member
  | sessionInserted index => exact stepped_sessionInserted
  | sessionEnded sessionId =>
      exact
        .of_same rfl rfl rfl fun _ member => List.mem_of_mem_filter member
  | routeEntered headers now operation =>
      cases admits :
          requireUser platform headers now premises.tables
            (some staffRouteRoles) with
      | error refusal =>
          exact
            .of_same (by simp only [step, admits]) rfl rfl
            fun _ member => member
      | ok actor =>
          have isAfter :
              step platform premises (.routeEntered headers now operation) =
                { premises with
                  admitted := premises.admitted ++ [(actor, operation)] } := by
            simp only [step, admits]
          exact .of_same isAfter rfl rfl
            fun _ member => member
  | operationRun index now =>
      cases atIndex : premises.admitted[index]? with
      | none =>
          exact
            .of_same (by simp only [step, atIndex]) rfl rfl
              fun _ member => member
      | some entry =>
          exact
            .of_request (by simp only [step, atIndex, requestOf])
              (recorded_operation now entry.1 entry.2)
              (actor_of_admitted (List.mem_of_getElem? atIndex))
  | reactivationWritten index now =>
      cases found :
          premises.admitted[index]?.bind fun entry =>
            reactivationOf entry now with
      | none =>
          exact
            .of_same (by simp only [step, found]) rfl rfl
            fun _ member => member
      | some request =>
          obtain ⟨entry, atIndex, isRequest⟩ :=
            Option.bind_eq_some_iff.mp found
          exact
            .of_request (by simp only [step, found])
              (reactivationOf_eq_some isRequest)
              (actor_of_admitted (List.mem_of_getElem? atIndex))
  | userCreated user active =>
      apply Stepped.of_request rfl (recorded_userCreated active)
      intro id isActor
      cases isActor

/-! ## Runs -/

variable {opening : Tables} {events : List Event} {session : Session}

variable (platform opening) in
/-- The tables after `events`. -/
def tablesAfter (events : List Event) : Tables :=
  (after platform opening events).tables

theorem after_concat (events : List Event) (event : Event) :
    after platform opening (events ++ [event]) =
      step platform (after platform opening events) event := by
  unfold after
  rw [run_append]
  rfl

theorem tablesAfter_concat (events : List Event) (event : Event) :
    tablesAfter platform opening (events ++ [event]) =
      (step platform (after platform opening events) event).tables := by
  rw [tablesAfter, after_concat]

/-- The user of a session is active, if there is one. -/
def NotInactive (tables : Tables) (userId : Uuid) : Prop :=
  ∀ user, findBy User.id userId tables.users = some user → user.isActive

/-- The events of a sign-in: its check, others, and its insertion. -/
def signIn (session : Session) (before between : List Event) (index : Nat) :
    List Event :=
  before ++ .signInChecked session :: (between ++ [.sessionInserted index])

/-- The session was checked after `before`, was inserted after `between`, and
its user was not signed out since. -/
structure OpenedBy (platform : AuthPlatform) (opening : Tables)
    (session : Session) (before between : List Event) (index : Nat)
    (rest : List Event) : Prop where
  active :
    NotInactive (tablesAfter platform opening before) session.userId
  kept :
    ∀ earlier event later, rest = earlier ++ event :: later →
      ¬ SignedOut
          (tablesAfter platform opening
            (signIn session before between index ++ earlier))
          (tablesAfter platform opening
            (signIn session before between index ++ earlier ++ [event]))
          session.userId

theorem OpenedBy.concat {before between rest : List Event} {index : Nat}
    {event : Event}
    (opened :
      OpenedBy platform opening session before between index rest)
    (kept :
      ¬ SignedOut
          (tablesAfter platform opening
            (signIn session before between index ++ rest))
          (tablesAfter platform opening
            (signIn session before between index ++ rest ++ [event]))
          session.userId) :
    OpenedBy platform opening session before between index
      (rest ++ [event]) where
  active := opened.active
  kept := by
    intro earlier other later split
    rcases List.append_eq_append_iff.mp split with
      ⟨more, rfl, isEvent⟩ | ⟨more, rfl, isLater⟩
    · cases more with
      | nil =>
          rw [List.nil_append, List.cons_eq_cons] at isEvent
          rw [List.append_nil, ← isEvent.1]
          exact kept
      | cons first tail => simp at isEvent
    · cases more with
      | nil =>
          rw [List.nil_append, List.cons_eq_cons] at isLater
          rw [isLater.1]
          rw [List.append_nil] at kept
          exact kept
      | cons first tail =>
          obtain ⟨rfl, -⟩ := List.cons_eq_cons.mp isLater
          exact opened.kept earlier other tail rfl

theorem mem_checked_of_step
    (member : session ∈ (step platform premises event).checked) :
    session ∈ premises.checked ∨
      event = .signInChecked session ∧
        NotInactive premises.tables session.userId := by
  cases event with
  | signInChecked other =>
      simp only [step] at member
      split at member
      next unit passed =>
        rcases List.mem_append.mp member with old | new
        · exact Or.inl old
        · obtain rfl := List.mem_singleton.mp new
          right
          refine ⟨rfl, ?_⟩
          intro user found
          rw [found] at passed
          simpa [assertAccountIsActive] using passed
      next => exact Or.inl member
  | sessionInserted index =>
      simp only [step] at member
      split at member
      next => exact Or.inl member
      next => exact Or.inl (List.mem_of_mem_eraseIdx member)
  | sessionEnded sessionId => exact Or.inl member
  | routeEntered headers now operation =>
      simp only [step] at member
      split at member
      next => exact Or.inl member
      next => exact Or.inl member
  | operationRun index now =>
      simp only [step] at member
      split at member
      next => exact Or.inl member
      next => exact Or.inl member
  | reactivationWritten index now =>
      simp only [step] at member
      split at member
      next => exact Or.inl member
      next => exact Or.inl member
  | userCreated user active => exact Or.inl member

/-- A sign-in that waits for its insertion was checked. -/
theorem exists_check (events : List Event) :
    ∀ session ∈ (after platform opening events).checked,
      ∃ before between,
        events = before ++ .signInChecked session :: between ∧
          NotInactive (tablesAfter platform opening before)
            session.userId := by
  induction events using List.reverseRecOn with
  | nil =>
      intro session member
      cases member
  | append_singleton events event inductionHypothesis =>
      intro session member
      rw [after_concat] at member
      rcases mem_checked_of_step member with old | ⟨rfl, active⟩
      · obtain ⟨before, between, rfl, active⟩ :=
          inductionHypothesis session old
        exact ⟨before, between ++ [event], by simp, active⟩
      · exact ⟨events, [], rfl, active⟩

/-- Every session was opened by a sign-in. -/
theorem exists_openedBy (events : List Event) :
    ∀ session ∈ (tablesAfter platform opening events).sessions,
      ∃ before between index rest,
        events = signIn session before between index ++ rest ∧
          OpenedBy platform opening session before between index rest := by
  induction events using List.reverseRecOn with
  | nil =>
      intro session member
      cases member
  | append_singleton events event inductionHypothesis =>
      intro session member
      rw [tablesAfter_concat] at member
      rcases (stepped _ event).sessions session member with
        ⟨old, kept⟩ | ⟨index, rfl, waited⟩
      · obtain ⟨before, between, index, rest, rfl, opened⟩ :=
          inductionHypothesis session old
        refine
          ⟨before, between, index, rest ++ [event], by simp,
            opened.concat ?_⟩
        rw [tablesAfter_concat]
        exact kept
      · obtain ⟨before, between, rfl, active⟩ :=
          exists_check events session waited
        refine
          ⟨before, between, index, [], by simp [signIn], active, ?_⟩
        intro earlier event later split
        simp at split

/-- Only a deactivation makes a user inactive. -/
theorem deactivated_of_inactive {userId : Uuid}
    (active : NotInactive premises.tables userId)
    (inactive :
      ¬ NotInactive (step platform premises event).tables userId) :
    Deactivated premises.tables (step platform premises event).tables
      userId := by
  unfold NotInactive at inactive
  push Not at inactive
  obtain ⟨user, found, isInactive⟩ := inactive
  cases foundBefore : findBy User.id userId premises.tables.users with
  | none =>
      have sameId := key_of_findBy found
      have isActive :=
        (stepped premises event).users user (mem_of_findBy found)
          (by rw [sameId]; exact foundBefore)
      exact absurd isActive (by simpa using isInactive)
  | some old =>
      exact
        ⟨old, user, foundBefore, found, active old foundBefore,
          by simpa using isInactive⟩

theorem users_sessionInserted (premises : Premises) (index : Nat) :
    (step platform premises (.sessionInserted index)).tables.users =
      premises.tables.users := by
  simp only [step]
  split
  next => rfl
  next session atIndex =>
    rcases
        transact_state_cases (fun tables => insertSession tables session)
          premises.tables with
      same | ⟨value, succeeds⟩
    · dsimp only
      rw [same]
    · dsimp only
      rw [(insertSession_eq_ok succeeds).2]

/-- The user was deactivated between the check and the insertion. -/
def Raced (platform : AuthPlatform) (opening : Tables) (session : Session)
    (before between : List Event) : Prop :=
  ∃ earlier event later,
    between = earlier ++ event :: later ∧
      Deactivated
        (tablesAfter platform opening
          (before ++ .signInChecked session :: earlier))
        (tablesAfter platform opening
          (before ++ .signInChecked session :: earlier ++ [event]))
        session.userId

theorem notInactive_after_check {before : List Event}
    (active :
      NotInactive (tablesAfter platform opening before) session.userId) :
    NotInactive
      (tablesAfter platform opening (before ++ [.signInChecked session]))
      session.userId := by
  rw [tablesAfter_concat, step]
  split <;> exact active

/-- An event at which the user became inactive lies between the check and the
insertion. -/
theorem OpenedBy.raced {before between rest : List Event} {index : Nat}
    (opened :
      OpenedBy platform opening session before between index rest)
    (inactive :
      ¬ NotInactive
          (tablesAfter platform opening
            (signIn session before between index ++ rest))
          session.userId) :
    Raced platform opening session before between := by
  have splitRun :
      ∀ more,
        run (step platform)
            (after platform opening (before ++ [.signInChecked session]))
            more =
          after platform opening
            (before ++ .signInChecked session :: more) := by
    intro more
    unfold after
    rw [← run_append, List.append_assoc, List.singleton_append]
  have checkedActive :
      NotInactive
        (after platform opening
          (before ++ [.signInChecked session])).tables
        session.userId :=
    notInactive_after_check opened.active
  obtain ⟨earlier, event, later, split, active, becomes⟩ :=
    @exists_step_of_run _ _ (step platform)
      (fun premises => ¬ NotInactive premises.tables session.userId)
      (after platform opening (before ++ [.signInChecked session]))
      (between ++ .sessionInserted index :: rest)
      (not_not.mpr checkedActive)
      (by
        rw [splitRun]
        simpa [signIn, tablesAfter] using inactive)
  rw [splitRun] at active becomes
  have concatEq :
      before ++ Event.signInChecked session :: (earlier ++ [event]) =
        before ++ Event.signInChecked session :: earlier ++ [event] := by
    simp
  have deactivated :
      Deactivated
        (tablesAfter platform opening
          (before ++ .signInChecked session :: earlier))
        (tablesAfter platform opening
          (before ++ .signInChecked session :: earlier ++ [event]))
        session.userId := by
    rw [concatEq, after_concat] at becomes
    rw [tablesAfter_concat]
    exact deactivated_of_inactive (not_not.mp active) becomes
  have signedOut := deactivated.signedOut
  have notInsertion : event ≠ .sessionInserted index := by
    rintro rfl
    rw [tablesAfter_concat] at signedOut
    exact not_signedOut_of_same (users_sessionInserted _ index) signedOut
  rcases List.append_eq_append_iff.mp split with
    ⟨more, rfl, isRest⟩ | ⟨more, rfl, isEvent⟩
  · cases more with
    | nil =>
        rw [List.nil_append, List.cons_eq_cons] at isRest
        exact absurd isRest.1.symm notInsertion
    | cons first tail =>
        obtain ⟨rfl, rfl⟩ := List.cons_eq_cons.mp isRest
        have regrouped :
            before ++ Event.signInChecked session ::
                (between ++ .sessionInserted index :: tail) =
              signIn session before between index ++ tail := by
          simp [signIn]
        rw [regrouped] at signedOut
        exact absurd signedOut (opened.kept tail event later rfl)
  · cases more with
    | nil =>
        rw [List.nil_append, List.cons_eq_cons] at isEvent
        exact absurd isEvent.1 notInsertion
    | cons first tail =>
        obtain ⟨rfl, -⟩ := List.cons_eq_cons.mp isEvent
        exact ⟨earlier, event, tail, rfl, deactivated⟩

/-- The user is active, or was deactivated while the sign-in of the session
was under way. -/
def ActiveUnlessRaced (platform : AuthPlatform) (opening : Tables)
    (events : List Event) (session : Session) (user : User) : Prop :=
  user.isActive ∨
    ∃ before between index rest,
      events = signIn session before between index ++ rest ∧
        Raced platform opening session before between

/-- The route of the operation was entered with a session that was stored
then, of an account that was a system administrator then. -/
def EnteredBy (platform : AuthPlatform) (opening : Tables)
    (events : List Event) (actorId : Uuid) : Prop :=
  ∃ earlier headers now operation later session user,
    events = earlier ++ .routeEntered headers now operation :: later ∧
      session ∈ (tablesAfter platform opening earlier).sessions ∧
        findBy User.id session.userId
            (tablesAfter platform opening earlier).users =
          some user ∧
          user.id = actorId ∧ user.role = .systemAdministrator ∧
            ActiveUnlessRaced platform opening earlier session user

theorem activeUnlessRaced_of_session {user : User}
    (member : session ∈ (tablesAfter platform opening events).sessions)
    (found :
      findBy User.id session.userId
          (tablesAfter platform opening events).users =
        some user) :
    ActiveUnlessRaced platform opening events session user := by
  by_cases active : user.isActive
  · exact Or.inl active
  · obtain ⟨before, between, index, rest, rfl, opened⟩ :=
      exists_openedBy events session member
    have inactive :
        ¬ NotInactive
            (tablesAfter platform opening
              (signIn session before between index ++ rest))
            session.userId := by
      intro allActive
      exact active (allActive user found)
    exact
      Or.inr ⟨before, between, index, rest, rfl, opened.raced inactive⟩

theorem EnteredBy.concat {actorId : Uuid}
    (entered : EnteredBy platform opening events actorId) (event : Event) :
    EnteredBy platform opening (events ++ [event]) actorId := by
  obtain ⟨earlier, headers, now, operation, later, session, user, rfl,
    rest⟩ := entered
  exact
    ⟨earlier, headers, now, operation, later ++ [event], session, user,
      by simp, rest⟩

theorem mem_admitted_of_step {entry : AuthenticatedUser × Operation}
    (member : entry ∈ (step platform premises event).admitted) :
    entry ∈ premises.admitted ∨
      ∃ headers now,
        event = .routeEntered headers now entry.2 ∧
          requireUser platform headers now premises.tables
              (some staffRouteRoles) =
            .ok entry.1 := by
  cases event with
  | signInChecked session =>
      simp only [step] at member
      split at member
      next => exact Or.inl member
      next => exact Or.inl member
  | sessionInserted index =>
      simp only [step] at member
      split at member
      next => exact Or.inl member
      next => exact Or.inl member
  | sessionEnded sessionId => exact Or.inl member
  | routeEntered headers now operation =>
      simp only [step] at member
      split at member
      next actor admits =>
        rcases List.mem_append.mp member with old | new
        · exact Or.inl old
        · obtain rfl := List.mem_singleton.mp new
          exact Or.inr ⟨headers, now, rfl, admits⟩
      next => exact Or.inl member
  | operationRun index now =>
      simp only [step] at member
      split at member
      next => exact Or.inl member
      next => exact Or.inl (List.mem_of_mem_eraseIdx member)
  | reactivationWritten index now =>
      simp only [step] at member
      split at member
      next => exact Or.inl member
      next => exact Or.inl (List.mem_of_mem_eraseIdx member)
  | userCreated user active => exact Or.inl member

theorem enteredBy_of_admitted (reads : ReadsDatabase platform)
    (events : List Event) :
    ∀ entry ∈ (after platform opening events).admitted,
      EnteredBy platform opening events entry.1.id := by
  induction events using List.reverseRecOn with
  | nil =>
      intro entry member
      cases member
  | append_singleton events event inductionHypothesis =>
      intro entry member
      rw [after_concat] at member
      rcases mem_admitted_of_step member with
        old | ⟨headers, now, rfl, admits⟩
      · exact (inductionHypothesis entry old).concat event
      · obtain ⟨session, user, stored, found, sameId, role⟩ :=
          exists_session_of_requireUser reads admits
        exact
          ⟨events, headers, now, entry.2, [], session, user, rfl, stored,
            found, sameId, List.mem_singleton.mp role,
            activeUnlessRaced_of_session stored found⟩

theorem enteredBy_of_audited (reads : ReadsDatabase platform)
    (events : List Event) :
    ∀ entry ∈ (tablesAfter platform opening events).auditLogs,
      entry ∈ opening.auditLogs ∨
        EnteredBy platform opening events entry.actorId := by
  induction events using List.reverseRecOn with
  | nil =>
      intro entry member
      exact Or.inl member
  | append_singleton events event inductionHypothesis =>
      intro entry member
      rw [tablesAfter_concat] at member
      rcases (stepped _ event).auditLogs entry member with
        old | ⟨admitted, isAdmitted, sameActor⟩
      · exact (inductionHypothesis entry old).imp_right fun entered =>
          entered.concat event
      · right
        rw [← sameActor]
        have entered :=
          enteredBy_of_admitted reads events admitted isAdmitted
        exact entered.concat event

/-- What holds after any events, from a database where nobody is signed
in. -/
structure SessionsKept (platform : AuthPlatform) (opening : Tables)
    (events : List Event) : Prop where
  /-- Every session was checked when its user was not inactive, and its user
  got no other role and was not deactivated since it was inserted.  If the
  user is inactive all the same, that happened between the check and the
  insertion. -/
  opened :
    ∀ session ∈ (tablesAfter platform opening events).sessions,
      ∃ before between index rest,
        events = signIn session before between index ++ rest ∧
          OpenedBy platform opening session before between index rest ∧
            ((∃ user,
                findBy User.id session.userId
                    (tablesAfter platform opening events).users =
                  some user ∧
                  ¬ user.isActive) →
              Raced platform opening session before between)
  /-- Whoever is named by a new entry of the audit log entered a staff route
  as a system administrator, who was active unless its deactivation overtook
  its sign-in. -/
  audited :
    ∀ entry ∈ (tablesAfter platform opening events).auditLogs,
      entry ∈ opening.auditLogs ∨
        EnteredBy platform opening events entry.actorId

/-- The session that the cookie names. -/
def cookieResult (headers : Headers) (tables : Tables) :
    Option SessionResult := do
  let session ←
    tables.sessions.find? fun session =>
      headers.lookup "cookie" = some (toString session.id)
  let user ← findBy User.id session.userId tables.users
  some ⟨session.id, user.id, user.role⟩

def cookiePlatform : AuthPlatform where
  trim := id
  toLowerCase := id
  getSession headers _ tables := cookieResult headers tables

theorem readsDatabase_cookiePlatform : ReadsDatabase cookiePlatform := by
  intro headers now tables result read
  obtain ⟨session, named, read⟩ := Option.bind_eq_some_iff.mp read
  obtain ⟨user, found, read⟩ := Option.bind_eq_some_iff.mp read
  exact
    ⟨session, user, List.mem_of_find?_eq_some named, found,
      (Option.some.inj read).symm⟩

/-- The second administrator is deactivated while its sign-in is under way,
is let in afterwards and changes the role of a consultant. -/
def overtakenSignIn : List Event :=
  [.signInChecked ⟨10, 1⟩, .sessionInserted 0, .signInChecked ⟨20, 2⟩,
    .routeEntered [("cookie", "10")] 1 (.deactivateStaffAccount 2 "left"),
    .operationRun 0 1, .sessionInserted 0,
    .userCreated
      { administrator 3 "third@heritage.example" with
        role := .travelConsultant } rfl,
    .routeEntered [("cookie", "20")] 2 (.changeStaffRole 3 .adminManager),
    .operationRun 0 2]

end Premises

end Heritage.Staff
