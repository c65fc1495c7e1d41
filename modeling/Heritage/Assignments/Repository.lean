import Heritage.Clients.Repository

/-!
# Reads and writes of the assignments

`repository.ts`, `errors.ts` and `audit.ts` of assignments, over the leads and
clients that an assignment is of and the users it is for.  Of a booking the
feature reads only that it is there.
-/

namespace Heritage.Assignments

open Heritage.Store

inductive AssignmentErrorCode where
  | roleNotPermitted
  | leadNotFound
  | clientNotFound
  | bookingNotFound
  | assigneeNotFound
  | assigneeInactive
  | assigneeIneligibleRole
  | reasonRequired
  | assignmentConflict
  deriving DecidableEq, Repr

structure AssignmentError where
  code : AssignmentErrorCode
  message : String
  deriving DecidableEq, Repr

inductive TxError where
  | assignment (error : AssignmentError)
  | uniqueViolation (modelName : String) (fields : List String)
  | recordNotFound (modelName : String)
  deriving DecidableEq, Repr

def assignmentError (code : AssignmentErrorCode) (message : String) :
    TxError :=
  .assignment ⟨code, message⟩

/-- `isResidualDatabaseConflict` for serialised transactions: a unique
violation. -/
def isKnownConflict : TxError → Bool
  | .uniqueViolation _ _ => true
  | _ => false

structure AuditRoleAssignmentSnapshot extends AuditAssignmentSnapshot where
  role : Role
  deriving DecidableEq, Repr

def sanitizeRoleAssignmentSnapshot (record : StaffAssignment) :
    AuditRoleAssignmentSnapshot where
  toAuditAssignmentSnapshot := sanitizeAssignmentSnapshot record
  role := record.role

/-- A snapshot, with the reason when there is one. -/
inductive AuditState where
  | assignment (snapshot : AuditAssignmentSnapshot) (reason : Option String)
  | roleAssignment (snapshot : AuditRoleAssignmentSnapshot)
      (reason : Option String)
  deriving DecidableEq, Repr

structure AuditLog where
  actorId : Uuid
  action : String
  entityType : String
  entityId : Uuid
  beforeState : Option AuditState
  afterState : Option AuditState
  deriving DecidableEq, Repr

structure AssigneeCandidate where
  id : Uuid
  role : Role
  isActive : Bool
  deriving DecidableEq, Repr

structure Tables where
  clients : Clients.Repository.Database
  bookingIds : List Uuid
  users : List AssigneeCandidate
  auditLogs : List AuditLog
  deriving DecidableEq, Repr

/-- No row in any table. -/
def Tables.empty : Tables where
  clients := Clients.Repository.Database.empty
  bookingIds := []
  users := []
  auditLogs := []

/-- The rows of `staff_assignment`. -/
def Tables.staffAssignments (tables : Tables) : List StaffAssignment :=
  tables.clients.tables.staffAssignments

/-- The database with other assignments. -/
def Tables.withStaffAssignments (staffAssignments : List StaffAssignment)
    (tables : Tables) : Tables :=
  { tables with
    clients :=
      { tables.clients with
        tables :=
          { tables.clients.tables with
            staffAssignments := staffAssignments } } }

@[simp]
theorem staffAssignments_withStaffAssignments
    (staffAssignments : List StaffAssignment) (tables : Tables) :
    (tables.withStaffAssignments staffAssignments).staffAssignments =
      staffAssignments :=
  rfl

def findLeadById (tables : Tables) (id : Uuid) : Option Uuid :=
  (findBy Leads.Lead.id id tables.clients.tables.leads).map Leads.Lead.id

def findClientById (tables : Tables) (id : Uuid) : Option Uuid :=
  (findBy Client.id id tables.clients.tables.clients).map Client.id

def findBookingById (tables : Tables) (id : Uuid) : Option Uuid :=
  tables.bookingIds.find? fun bookingId => bookingId = id

def findAssigneeCandidateById (tables : Tables) (id : Uuid) :
    Option AssigneeCandidate :=
  findBy AssigneeCandidate.id id tables.users

/-- The active assignment of a booking in one role. -/
def findActiveRoleAssignmentForBooking (role : Role)
    (staffAssignments : List StaffAssignment) (bookingId : Uuid) :
    Option StaffAssignment :=
  staffAssignments.find? fun assignment =>
    assignment.bookingId = some bookingId ∧ assignment.role = role ∧
      assignment.endedAt = none

def findActiveAssignmentForBooking :
    List StaffAssignment → Uuid → Option StaffAssignment :=
  findActiveRoleAssignmentForBooking .travelConsultant

def findActiveFinanceAssignmentForBooking :
    List StaffAssignment → Uuid → Option StaffAssignment :=
  findActiveRoleAssignmentForBooking .financeAccounting

/-- The unique index an inserted assignment violates: its own id, or the
active assignment of its lead, its client, or its booking in its role. -/
def staffAssignmentViolation (staffAssignments : List StaffAssignment)
    (row : StaffAssignment) : Option (List String) :=
  (assignmentViolation staffAssignments row).or <|
    if row.bookingId.any fun bookingId =>
        (findActiveRoleAssignmentForBooking row.role staffAssignments
          bookingId).isSome then
      some ["bookingId", "role"]
    else
      none

def createAssignment (tables : Tables) (row : StaffAssignment) :
    Except TxError (StaffAssignment × Tables) :=
  match staffAssignmentViolation tables.staffAssignments row with
  | some fields => .error (.uniqueViolation "StaffAssignment" fields)
  | none =>
      .ok
        (row, tables.withStaffAssignments (tables.staffAssignments ++ [row]))

structure CreateBookingFinanceAssignmentInput where
  id : Uuid
  assignedStaffId : Uuid
  assignedByUserId : Uuid
  bookingId : Uuid

def createBookingFinanceAssignment (tables : Tables)
    (input : CreateBookingFinanceAssignmentInput) :
    Except TxError (StaffAssignment × Tables) :=
  createAssignment tables
    { id := input.id
      assignedStaffId := input.assignedStaffId
      role := .financeAccounting
      assignedByUserId := input.assignedByUserId
      leadId := none
      clientId := none
      bookingId := some input.bookingId
      endedAt := none }

/-- The assignment ended at an instant. -/
def ended (now : Timestamp) (assignment : StaffAssignment) :
    StaffAssignment :=
  { assignment with endedAt := some now }

def endAssignmentById (tables : Tables) (id : Uuid) (now : Timestamp) :
    Except TxError (StaffAssignment × Tables) := do
  let assignment ←
    demand (findBy StaffAssignment.id id tables.staffAssignments)
      (.recordNotFound "StaffAssignment")
  .ok
    (ended now assignment,
      tables.withStaffAssignments
        (updateBy StaffAssignment.id id (ended now)
          tables.staffAssignments))

def endRoleAssignmentById :
    Tables → Uuid → Timestamp → Except TxError (StaffAssignment × Tables) :=
  endAssignmentById

def insertAuditLog (tables : Tables) (entry : AuditLog) : Tables :=
  { tables with auditLogs := tables.auditLogs ++ [entry] }

end Heritage.Assignments
