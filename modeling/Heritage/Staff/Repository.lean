import Heritage.Shared.Contact
import Heritage.Store.Table
import Heritage.Store.Transaction

/-!
# Reads and writes of the staff accounts

`repository.ts`, `errors.ts` and `audit.ts` of staff.  The users of the
platform are one table; the feature reads the rows with a staff role, and the
sessions only to delete them.
-/

namespace Heritage.Staff

open Heritage.Store

inductive StaffManagementErrorCode where
  | emailAlreadyExists
  | staffAccountNotFound
  | selfActionForbidden
  | lastAdministratorProtected
  deriving DecidableEq, Repr

structure StaffManagementError where
  code : StaffManagementErrorCode
  message : String
  deriving DecidableEq, Repr

inductive TxError where
  | staff (error : StaffManagementError)
  | uniqueViolation (modelName : String) (fields : List String)
  | foreignKeyViolation (modelName : String) (field : String)
  | recordNotFound (modelName : String)
  | accountDeactivated
  deriving DecidableEq, Repr

def staffError (code : StaffManagementErrorCode) (message : String) :
    TxError :=
  .staff ⟨code, message⟩

structure StaffProfile where
  title : Option String
  phone : Option String
  deriving DecidableEq, Repr

/-- A row of `user` with its staff profile. -/
structure User where
  id : Uuid
  name : String
  email : String
  role : Role
  isActive : Bool
  createdAt : Timestamp
  updatedAt : Timestamp
  staffProfile : Option StaffProfile
  deriving DecidableEq, Repr

/-- A row of `session`. -/
structure Session where
  id : Uuid
  userId : Uuid
  deriving DecidableEq, Repr

inductive StaffAuditAction where
  | accountCreated
  | roleChanged
  | accountDeactivated
  | accountReactivated
  deriving DecidableEq, Repr

def staffAuditEntityType : String := "User"

structure AuditAccountSnapshot where
  id : Uuid
  name : String
  email : String
  role : Role
  isActive : Bool
  deriving DecidableEq, Repr

def sanitizeAccountSnapshot (record : User) : AuditAccountSnapshot where
  id := record.id
  name := record.name
  email := record.email
  role := record.role
  isActive := record.isActive

inductive AuditState where
  | account (snapshot : AuditAccountSnapshot)
  | role (role : Role)
  | active (isActive : Bool) (reason : Option String)
  deriving DecidableEq, Repr

structure AuditLog where
  actorId : Uuid
  action : StaffAuditAction
  entityType : String
  entityId : Uuid
  beforeState : Option AuditState
  afterState : Option AuditState
  deriving DecidableEq, Repr

/-- `userIds` is the primary key of `user`. -/
structure Tables where
  users : List User
  userIds : (users.map User.id).Nodup
  sessions : List Session
  auditLogs : List AuditLog

def findUserByEmail (tables : Tables) (email : String) : Option User :=
  findBy User.email email tables.users

/-- `STAFF_ONLY_WHERE`. -/
def isStaff (user : User) : Bool :=
  user.role ≠ .client

def findStaffById (tables : Tables) (id : Uuid) : Option User :=
  (findBy User.id id tables.users).filter isStaff

def isActiveSystemAdministrator (user : User) : Bool :=
  user.role = .systemAdministrator ∧ user.isActive

def countActiveSystemAdministrators (tables : Tables)
    (excludeUserId : Option Uuid) : Nat :=
  tables.users.countP fun user =>
    isActiveSystemAdministrator user ∧ excludeUserId ≠ some user.id

def withRole (now : Timestamp) (role : Role) (user : User) : User :=
  { user with role := role, updatedAt := now }

def withActive (now : Timestamp) (isActive : Bool) (user : User) : User :=
  { user with isActive := isActive, updatedAt := now }

/-- The table after an update of one user that keeps its id. -/
def Tables.updateUser (tables : Tables) (id : Uuid) (change : User → User)
    (keepsId : ∀ user, (change user).id = user.id) : Tables where
  users := updateBy User.id id change tables.users
  userIds := nodup_map_updateBy keepsId tables.userIds
  sessions := tables.sessions
  auditLogs := tables.auditLogs

def updateUserRole (now : Timestamp) (tables : Tables) (id : Uuid)
    (role : Role) : Except TxError (User × Tables) := do
  let user ← demand (findBy User.id id tables.users) (.recordNotFound "User")
  .ok
    (withRole now role user,
      tables.updateUser id (withRole now role) fun _ => rfl)

def setUserActive (now : Timestamp) (tables : Tables) (id : Uuid)
    (isActive : Bool) : Except TxError (User × Tables) := do
  let user ← demand (findBy User.id id tables.users) (.recordNotFound "User")
  .ok
    (withActive now isActive user,
      tables.updateUser id (withActive now isActive) fun _ => rfl)

def deleteSessionsForUser (tables : Tables) (userId : Uuid) : Tables :=
  { tables with
    sessions := tables.sessions.filter fun session => session.userId ≠ userId }

/-- The actor is a row of `user`. -/
def insertAuditLog (tables : Tables) (entry : AuditLog) :
    Except TxError Tables := do
  require (findBy User.id entry.actorId tables.users).isSome
    (.foreignKeyViolation "AuditLog" "actorId")
  .ok { tables with auditLogs := tables.auditLogs ++ [entry] }

/-- The table with one more user. -/
def Tables.insertUser (tables : Tables) (user : User)
    (fresh : findBy User.id user.id tables.users = none) : Tables where
  users := tables.users ++ [user]
  userIds := nodup_map_concat tables.userIds fresh
  sessions := tables.sessions
  auditLogs := tables.auditLogs

structure CreateStaffUserInput where
  id : Uuid
  name : String
  email : String
  role : Role
  title : Option String
  phone : Option String
  deriving DecidableEq, Repr

/-- A row is created unless its id or its email is taken. -/
def createUser (tables : Tables) (user : User) :
    Except TxError (User × Tables) :=
  if fresh : findBy User.id user.id tables.users = none then
    if findBy User.email user.email tables.users = none then
      .ok (user, tables.insertUser user fresh)
    else
      .error (.uniqueViolation "User" ["email"])
  else
    .error (.uniqueViolation "User" ["id"])

/-- An empty string is as good as an absent one. -/
def isTruthy (text : Option String) : Bool :=
  text.any fun value => value ≠ ""

def createStaffUser (platform : StringPlatform) (now : Timestamp)
    (tables : Tables) (input : CreateStaffUserInput) :
    Except TxError (User × Tables) :=
  createUser tables
    { id := input.id
      name := input.name
      email := normalizeEmail platform input.email
      role := input.role
      isActive := true
      createdAt := now
      updatedAt := now
      staffProfile :=
        if isTruthy input.title || isTruthy input.phone then
          some ⟨input.title, input.phone⟩
        else
          none }

end Heritage.Staff
