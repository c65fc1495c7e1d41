import Heritage.Assignments.Repository

/-!
# Setting and ending assignments

`service.ts` of assignments.  Every operation checks the actor's role and then
reads and writes in one transaction.
-/

namespace Heritage.Assignments

open Heritage.Store

/-- What an operation does to the database, and what its caller gets. -/
abbrev Effect (α : Type) := Tables → Except TxError α × Tables

def assignmentConflict : TxError :=
  assignmentError .assignmentConflict
    ("This assignment could not be completed because of a conflicting " ++
      "update. Please try again.")

def runAssignmentTransaction {α : Type}
    (body : Tables → Except TxError (α × Tables)) : Effect α :=
  fun tables =>
    match transact body tables with
    | (.ok value, committed) => (.ok value, committed)
    | (.error failure, stored) =>
        (.error
            (if isKnownConflict failure then assignmentConflict else failure),
          stored)

def assertAssignmentMutationActor (actor : AuthenticatedUser) :
    Except TxError Unit :=
  require (actor.role = .adminManager)
    (assignmentError .roleNotPermitted
      "This role is not permitted to modify this assignment.")

/-- The assignee exists, is active and holds the role. -/
def assertEligible (role : Role) (ineligible : String) (tables : Tables)
    (assignedStaffId : Uuid) : Except TxError Unit := do
  let candidate ←
    demand (findAssigneeCandidateById tables assignedStaffId)
      (assignmentError .assigneeNotFound
        "The specified staff member was not found.")
  require candidate.isActive
    (assignmentError .assigneeInactive
      "The specified staff member is not active and cannot be assigned.")
  require (candidate.role = role)
    (assignmentError .assigneeIneligibleRole ineligible)

def assertEligibleAssignee : Tables → Uuid → Except TxError Unit :=
  assertEligible .travelConsultant
    "Only a Travel Consultant may be assigned to a lead, client, or booking."

def assertEligibleFinanceAssignee : Tables → Uuid → Except TxError Unit :=
  assertEligible .financeAccounting
    ("Only a Finance/Accounting user may be assigned as a booking's " ++
      "finance assignee.")

def replaceReasonMessage : String :=
  "A reason is required when replacing an existing assignment."

/-- The reason, trimmed; blank is as good as absent. -/
def requireReason (platform : StringPlatform) (reason : Option String)
    (message : String) : Except TxError String :=
  demand ((reason.map platform.trim).filter fun trimmed => trimmed ≠ "")
    (assignmentError .reasonRequired message)

inductive TargetKind where
  | lead
  | client
  | booking
  deriving DecidableEq, Repr

/-- `ENTITY_TYPE`. -/
def TargetKind.entityType : TargetKind → String
  | .lead => "Lead"
  | .client => "Client"
  | .booking => "Booking"

/-- `ASSIGNED_ACTION`. -/
def TargetKind.assignedAction : TargetKind → String
  | .lead => "LEAD_ASSIGNMENT_CREATED"
  | .client => "CLIENT_ASSIGNMENT_CREATED"
  | .booking => "BOOKING_ASSIGNMENT_CREATED"

/-- `REASSIGNED_ACTION`. -/
def TargetKind.reassignedAction : TargetKind → String
  | .lead => "LEAD_ASSIGNMENT_REPLACED"
  | .client => "CLIENT_ASSIGNMENT_REPLACED"
  | .booking => "BOOKING_ASSIGNMENT_REPLACED"

/-- `ENDED_ACTION`. -/
def TargetKind.endedAction : TargetKind → String
  | .lead => "LEAD_ASSIGNMENT_ENDED"
  | .client => "CLIENT_ASSIGNMENT_ENDED"
  | .booking => "BOOKING_ASSIGNMENT_ENDED"

def findTarget (tables : Tables) (kind : TargetKind) (targetId : Uuid) :
    Option Uuid :=
  match kind with
  | .lead => findLeadById tables targetId
  | .client => findClientById tables targetId
  | .booking => findBookingById tables targetId

def notFoundError : TargetKind → TxError
  | .lead => assignmentError .leadNotFound "Lead not found."
  | .client => assignmentError .clientNotFound "Client not found."
  | .booking => assignmentError .bookingNotFound "Booking not found."

def findActiveAssignment (tables : Tables) (kind : TargetKind)
    (targetId : Uuid) : Option StaffAssignment :=
  match kind with
  | .lead => findActiveAssignmentForLead tables.staffAssignments targetId
  | .client => findActiveAssignmentForClient tables.staffAssignments targetId
  | .booking =>
      findActiveAssignmentForBooking tables.staffAssignments targetId

structure TargetFields where
  leadId : Option Uuid
  clientId : Option Uuid
  bookingId : Option Uuid

def targetFields (kind : TargetKind) (targetId : Uuid) : TargetFields :=
  match kind with
  | .lead => ⟨some targetId, none, none⟩
  | .client => ⟨none, some targetId, none⟩
  | .booking => ⟨none, none, some targetId⟩

/-- Ends the assignment that is replaced, when there is one. -/
def endReplaced (tables : Tables) (now : Timestamp) :
    Option StaffAssignment → Except TxError Tables
  | none => .ok tables
  | some active => do
      let (_, released) ← endAssignmentById tables active.id now
      .ok released

/-- The active assignment when its assignee is the requested one. -/
def alreadySet (active : Option StaffAssignment) (assignedStaffId : Uuid) :
    Option StaffAssignment :=
  active.filter fun assignment =>
    assignment.assignedStaffId = assignedStaffId

/-- An empty reason is none. -/
def givenReason (reason : Option String) : Option String :=
  reason.filter fun text => text ≠ ""

def setAssignmentTransaction (context : RequestContext) (kind : TargetKind)
    (actorId targetId assignedStaffId : Uuid) (reason : Option String)
    (tables : Tables) : Except TxError (StaffAssignment × Tables) := do
  let _ ← demand (findTarget tables kind targetId) (notFoundError kind)
  let active := findActiveAssignment tables kind targetId
  match alreadySet active assignedStaffId with
  | some same => .ok (same, tables)
  | none => do
      assertEligibleAssignee tables assignedStaffId
      require (active.isSome → (givenReason reason).isSome)
        (assignmentError .reasonRequired replaceReasonMessage)
      let released ← endReplaced tables context.now active
      let target := targetFields kind targetId
      let (created, assigned) ←
        createAssignment released
          { id := context.randomUuid 0
            assignedStaffId := assignedStaffId
            role := .travelConsultant
            assignedByUserId := actorId
            leadId := target.leadId
            clientId := target.clientId
            bookingId := target.bookingId
            endedAt := none }
      .ok
        (created,
          insertAuditLog assigned
            { actorId := actorId
              action :=
                if active.isSome then kind.reassignedAction
                else kind.assignedAction
              entityType := kind.entityType
              entityId := targetId
              beforeState :=
                active.map fun previous =>
                  .assignment (sanitizeAssignmentSnapshot previous) none
              afterState :=
                some <|
                  .assignment (sanitizeAssignmentSnapshot created)
                    (givenReason reason) })

def endAssignmentTransaction (context : RequestContext) (kind : TargetKind)
    (actorId targetId : Uuid) (reason : String) (tables : Tables) :
    Except TxError (Option StaffAssignment × Tables) := do
  let _ ← demand (findTarget tables kind targetId) (notFoundError kind)
  match findActiveAssignment tables kind targetId with
  | none => .ok (none, tables)
  | some active => do
      let (ended, released) ← endAssignmentById tables active.id context.now
      .ok
        (some ended,
          insertAuditLog released
            { actorId := actorId
              action := kind.endedAction
              entityType := kind.entityType
              entityId := targetId
              beforeState :=
                some (.assignment (sanitizeAssignmentSnapshot active) none)
              afterState :=
                some <|
                  .assignment (sanitizeAssignmentSnapshot ended)
                    (some reason) })

/-- `BOOKING_FINANCE_ASSIGNMENT_AUDIT_ACTIONS`. -/
def financeAssigned : String := "BOOKING_FINANCE_ASSIGNMENT_CREATED"

def financeReassigned : String := "BOOKING_FINANCE_ASSIGNMENT_REPLACED"

def financeEnded : String := "BOOKING_FINANCE_ASSIGNMENT_ENDED"

/-- A reason is asked for only when somebody is replaced. -/
def replacementReason (platform : StringPlatform)
    (active : Option StaffAssignment) (reason : Option String) :
    Except TxError (Option String) :=
  match active with
  | none => .ok none
  | some _ => (requireReason platform reason replaceReasonMessage).map some

def setBookingFinanceAssignmentTransaction (platform : StringPlatform)
    (context : RequestContext) (actorId bookingId assignedStaffId : Uuid)
    (reason : Option String) (tables : Tables) :
    Except TxError (StaffAssignment × Tables) := do
  let _ ← demand (findBookingById tables bookingId) (notFoundError .booking)
  let active :=
    findActiveFinanceAssignmentForBooking tables.staffAssignments bookingId
  match alreadySet active assignedStaffId with
  | some same => .ok (same, tables)
  | none => do
      assertEligibleFinanceAssignee tables assignedStaffId
      let replacing ← replacementReason platform active reason
      let released ← endReplaced tables context.now active
      let (created, assigned) ←
        createBookingFinanceAssignment released
          { id := context.randomUuid 0
            assignedStaffId := assignedStaffId
            assignedByUserId := actorId
            bookingId := bookingId }
      .ok
        (created,
          insertAuditLog assigned
            { actorId := actorId
              action :=
                if active.isSome then financeReassigned else financeAssigned
              entityType := TargetKind.booking.entityType
              entityId := bookingId
              beforeState :=
                active.map fun previous =>
                  .roleAssignment (sanitizeRoleAssignmentSnapshot previous)
                    none
              afterState :=
                some <|
                  .roleAssignment (sanitizeRoleAssignmentSnapshot created)
                    replacing })

def endBookingFinanceAssignmentTransaction (context : RequestContext)
    (actorId bookingId : Uuid) (endReason : String) (tables : Tables) :
    Except TxError (Option StaffAssignment × Tables) := do
  let _ ← demand (findBookingById tables bookingId) (notFoundError .booking)
  match
    findActiveFinanceAssignmentForBooking tables.staffAssignments bookingId
  with
  | none => .ok (none, tables)
  | some active => do
      let (ended, released) ←
        endRoleAssignmentById tables active.id context.now
      .ok
        (some ended,
          insertAuditLog released
            { actorId := actorId
              action := financeEnded
              entityType := TargetKind.booking.entityType
              entityId := bookingId
              beforeState :=
                some <|
                  .roleAssignment (sanitizeRoleAssignmentSnapshot active) none
              afterState :=
                some <|
                  .roleAssignment (sanitizeRoleAssignmentSnapshot ended)
                    (some endReason) })

inductive Operation where
  | setLeadAssignment (leadId assignedStaffId : Uuid)
      (reason : Option String)
  | endLeadAssignment (leadId : Uuid) (reason : String)
  | setClientAssignment (clientId assignedStaffId : Uuid)
      (reason : Option String)
  | endClientAssignment (clientId : Uuid) (reason : String)
  | setBookingAssignment (bookingId assignedStaffId : Uuid)
      (reason : Option String)
  | setBookingFinanceAssignment (bookingId assignedStaffId : Uuid)
      (reason : Option String)
  | endBookingFinanceAssignment (bookingId : Uuid) (reason : String)

variable (platform : StringPlatform) (context : RequestContext)
  (actorId : Uuid)

/-- A set answers with the assignment that is active then. -/
def setAssignment (kind : TargetKind) (targetId assignedStaffId : Uuid)
    (reason : Option String) (tables : Tables) :
    Except TxError (Option StaffAssignment × Tables) :=
  (setAssignmentTransaction context kind actorId targetId assignedStaffId
    reason tables).map fun (active, written) => (some active, written)

def setBookingFinanceAssignment (bookingId assignedStaffId : Uuid)
    (reason : Option String) (tables : Tables) :
    Except TxError (Option StaffAssignment × Tables) :=
  (setBookingFinanceAssignmentTransaction platform context actorId bookingId
    assignedStaffId reason tables).map fun (active, written) =>
      (some active, written)

/-- The reason of an ending is checked before its transaction opens. -/
def endBookingFinanceAssignment (bookingId : Uuid) (reason : String)
    (tables : Tables) : Except TxError (Option StaffAssignment × Tables) := do
  let endReason ←
    requireReason platform (some reason)
      "A reason is required to end an assignment."
  endBookingFinanceAssignmentTransaction context actorId bookingId endReason
    tables

/-- What an operation does after the check of the actor's role. -/
def transaction (operation : Operation) (tables : Tables) :
    Except TxError (Option StaffAssignment × Tables) :=
  match operation with
  | .setLeadAssignment leadId assignedStaffId reason =>
      setAssignment context actorId .lead leadId assignedStaffId reason tables
  | .endLeadAssignment leadId reason =>
      endAssignmentTransaction context .lead actorId leadId reason tables
  | .setClientAssignment clientId assignedStaffId reason =>
      setAssignment context actorId .client clientId assignedStaffId reason
        tables
  | .endClientAssignment clientId reason =>
      endAssignmentTransaction context .client actorId clientId reason tables
  | .setBookingAssignment bookingId assignedStaffId reason =>
      setAssignment context actorId .booking bookingId assignedStaffId reason
        tables
  | .setBookingFinanceAssignment bookingId assignedStaffId reason =>
      setBookingFinanceAssignment platform context actorId bookingId
        assignedStaffId reason tables
  | .endBookingFinanceAssignment bookingId reason =>
      endBookingFinanceAssignment platform context actorId bookingId reason
        tables

def perform (actor : AuthenticatedUser) (operation : Operation) :
    Effect (Option StaffAssignment) :=
  fun tables =>
    match assertAssignmentMutationActor actor with
    | .error failure => (.error failure, tables)
    | .ok _ =>
        runAssignmentTransaction
          (transaction platform context actor.id operation) tables

end Heritage.Assignments
