import Heritage.Staff.Repository

/-!
# Managing staff accounts

`service.ts` of staff.  The actor of a request is what the route read when the
request came in: nothing ties it to the actor's row at the time the transaction
runs.
-/

namespace Heritage.Staff

open Heritage.Store

/-- What an operation does to the database, and what its caller gets. -/
abbrev Effect (α : Type) := Tables → Except TxError α × Tables

/-- An operation that first checks its arguments and then runs one
transaction. -/
def guarded {α : Type} (check : Except TxError Unit)
    (body : Tables → Except TxError (α × Tables)) : Effect α :=
  fun tables =>
    match check with
    | .error failure => (.error failure, tables)
    | .ok () => transact body tables

def assertNotSelfAction (actor : AuthenticatedUser) (targetId : Uuid) :
    Except TxError Unit :=
  require (actor.id ≠ targetId)
    (staffError .selfActionForbidden
      "You cannot perform this action on your own account.")

def notFound : TxError :=
  staffError .staffAccountNotFound "Staff account not found."

def assertLastAdministratorRemains (tables : Tables) (targetId : Uuid) :
    Except TxError Unit :=
  require (1 ≤ countActiveSystemAdministrators tables (some targetId))
    (staffError .lastAdministratorProtected
      ("This action would leave no active System Administrator account. " ++
        "Promote another account to System Administrator first."))

/-- The check runs for the accounts with the administrator's role, active or
not. -/
def protectLastAdministrator (tables : Tables) (targetId : Uuid)
    (target : User) : Except TxError Unit :=
  if target.role = .systemAdministrator then
    assertLastAdministratorRemains tables targetId
  else
    .ok ()

def getStaffAccountById (tables : Tables) (targetId : Uuid) :
    Except TxError User :=
  demand (findStaffById tables targetId) notFound

def createStaffAccount (platform : StringPlatform) (now : Timestamp)
    (actor : AuthenticatedUser) (input : CreateStaffUserInput) :
    Effect User := fun tables =>
  guarded
    (require (findUserByEmail tables input.email = none)
      (staffError .emailAlreadyExists
        "An account with this email address already exists."))
    (fun tables => do
      let (created, written) ← createStaffUser platform now tables input
      let audited ←
        insertAuditLog written
          { actorId := actor.id
            action := .accountCreated
            entityType := staffAuditEntityType
            entityId := created.id
            beforeState := none
            afterState := some (.account (sanitizeAccountSnapshot created)) }
      .ok (created, audited))
    tables

def changeStaffRoleTransaction (now : Timestamp) (actor : AuthenticatedUser)
    (targetId : Uuid) (newRole : Role) (tables : Tables) :
    Except TxError (User × Tables) := do
  let target ← demand (findStaffById tables targetId) notFound
  if target.role = newRole then
    .ok (target, tables)
  else
    protectLastAdministrator tables targetId target
    let (updated, written) ← updateUserRole now tables targetId newRole
    let audited ←
      insertAuditLog (deleteSessionsForUser written targetId)
        { actorId := actor.id
          action := .roleChanged
          entityType := staffAuditEntityType
          entityId := targetId
          beforeState := some (.role target.role)
          afterState := some (.role updated.role) }
    .ok (updated, audited)

def changeStaffRole (now : Timestamp) (actor : AuthenticatedUser)
    (targetId : Uuid) (newRole : Role) : Effect User :=
  guarded (assertNotSelfAction actor targetId)
    (changeStaffRoleTransaction now actor targetId newRole)

def deactivateStaffAccountTransaction (now : Timestamp)
    (actor : AuthenticatedUser) (targetId : Uuid) (reason : String)
    (tables : Tables) : Except TxError (User × Tables) := do
  let target ← demand (findStaffById tables targetId) notFound
  if ¬ target.isActive then
    .ok (target, tables)
  else
    protectLastAdministrator tables targetId target
    let (updated, written) ← setUserActive now tables targetId false
    let audited ←
      insertAuditLog (deleteSessionsForUser written targetId)
        { actorId := actor.id
          action := .accountDeactivated
          entityType := staffAuditEntityType
          entityId := targetId
          beforeState := some (.active true none)
          afterState := some (.active false (some reason)) }
    .ok (updated, audited)

def deactivateStaffAccount (now : Timestamp) (actor : AuthenticatedUser)
    (targetId : Uuid) (reason : String) : Effect User :=
  guarded (assertNotSelfAction actor targetId)
    (deactivateStaffAccountTransaction now actor targetId reason)

/-- The writes of a reactivation, after its reads. -/
def writeReactivation (now : Timestamp) (actor : AuthenticatedUser)
    (targetId : Uuid) (tables : Tables) : Except TxError (User × Tables) := do
  let (updated, written) ← setUserActive now tables targetId true
  let audited ←
    insertAuditLog written
      { actorId := actor.id
        action := .accountReactivated
        entityType := staffAuditEntityType
        entityId := targetId
        beforeState := some (.active false none)
        afterState := some (.active true none) }
  .ok (updated, audited)

def reactivateStaffAccountTransaction (now : Timestamp)
    (actor : AuthenticatedUser) (targetId : Uuid) (tables : Tables) :
    Except TxError (User × Tables) := do
  let target ← demand (findStaffById tables targetId) notFound
  if target.isActive then
    .ok (target, tables)
  else
    writeReactivation now actor targetId tables

def reactivateStaffAccount (now : Timestamp) (actor : AuthenticatedUser)
    (targetId : Uuid) : Effect User :=
  guarded (assertNotSelfAction actor targetId)
    (reactivateStaffAccountTransaction now actor targetId)

/-- `assertAccountIsActive`. -/
def assertAccountIsActive (user : Option User) : Except TxError Unit :=
  require (¬ user.any fun account => ¬ account.isActive) .accountDeactivated

/-- A session is created for a user that is there, after the hook's check. -/
def createSession (session : Session) : Effect Session := fun tables =>
  guarded
    (assertAccountIsActive (findBy User.id session.userId tables.users))
    (fun tables => do
      require (findBy User.id session.userId tables.users).isSome
        (.foreignKeyViolation "Session" "userId")
      .ok (session, { tables with sessions := tables.sessions ++ [session] }))
    tables

end Heritage.Staff
