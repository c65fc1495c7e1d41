import Heritage.Shared.Contact
import Heritage.Store.Table

/-!
# Assignments

The reads and the one write of `features/assignments` that leads and
invitations use, and the access checks built on them.
-/

namespace Heritage

open Heritage.Store

def findActiveAssignmentForLead (staffAssignments : List StaffAssignment)
    (leadId : Uuid) : Option StaffAssignment :=
  staffAssignments.find? fun assignment =>
    assignment.leadId = some leadId ∧ assignment.endedAt = none

def findActiveAssignmentForClient (staffAssignments : List StaffAssignment)
    (clientId : Uuid) : Option StaffAssignment :=
  staffAssignments.find? fun assignment =>
    assignment.clientId = some clientId ∧ assignment.endedAt = none

def findClientProfileOwnership (clientProfiles : List ClientProfile)
    (userId clientId : Uuid) : Option Uuid :=
  (clientProfiles.find? fun profile =>
    profile.userId = userId ∧ profile.clientId = clientId).map
    ClientProfile.id

def canAccessLead (staffAssignments : List StaffAssignment)
    (actor : AuthenticatedUser) (leadId : Uuid) : Bool :=
  match actor.role with
  | .adminManager => true
  | .travelConsultant =>
      (findActiveAssignmentForLead staffAssignments leadId).any
        fun active => active.assignedStaffId = actor.id
  | _ => false

def canAccessClient (staffAssignments : List StaffAssignment)
    (clientProfiles : List ClientProfile) (actor : AuthenticatedUser)
    (clientId : Uuid) : Bool :=
  match actor.role with
  | .adminManager => true
  | .travelConsultant =>
      (findActiveAssignmentForClient staffAssignments clientId).any
        fun active => active.assignedStaffId = actor.id
  | .client =>
      (findClientProfileOwnership clientProfiles actor.id clientId).isSome
  | _ => false

/-- The unique index an inserted assignment violates: its own id, or the
active assignment of its lead or its client. -/
def assignmentViolation (staffAssignments : List StaffAssignment)
    (row : StaffAssignment) : Option (List String) :=
  if (findBy StaffAssignment.id row.id staffAssignments).isSome then
    some ["id"]
  else if row.leadId.any fun leadId =>
      (findActiveAssignmentForLead staffAssignments leadId).isSome then
    some ["leadId"]
  else if row.clientId.any fun clientId =>
      (findActiveAssignmentForClient staffAssignments clientId).isSome then
    some ["clientId"]
  else
    none

structure AuditAssignmentSnapshot where
  id : Uuid
  assignedStaffId : Uuid
  assignedByUserId : Uuid
  leadId : Option Uuid
  clientId : Option Uuid
  bookingId : Option Uuid
  endedAt : Option Timestamp
  deriving DecidableEq, Repr

def sanitizeAssignmentSnapshot (record : StaffAssignment) :
    AuditAssignmentSnapshot where
  id := record.id
  assignedStaffId := record.assignedStaffId
  assignedByUserId := record.assignedByUserId
  leadId := record.leadId
  clientId := record.clientId
  bookingId := record.bookingId
  endedAt := record.endedAt

end Heritage
