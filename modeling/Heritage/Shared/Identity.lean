import Mathlib

/-!
# Actors and assignments

Rows and values every feature reads: the authenticated user of a request, its
role, and the staff assignments that scope what it may touch.
-/

namespace Heritage

/-- Identifiers are opaque to the program: it compares them and nothing
else. -/
abbrev Uuid := Nat

/-- Instants in milliseconds. -/
abbrev Timestamp := Int

inductive Role where
  | systemAdministrator
  | adminManager
  | travelConsultant
  | financeAccounting
  | visaDocumentation
  | client
  deriving DecidableEq, Repr

structure AuthenticatedUser where
  id : Uuid
  role : Role
  deriving DecidableEq, Repr

/-- A row of `staff_assignment`: one staff member on one lead, client or
booking.  `role` is the assignee's role when the row was created, and an
ended row carries `endedAt`. -/
structure StaffAssignment where
  id : Uuid
  assignedStaffId : Uuid
  role : Role
  assignedByUserId : Uuid
  leadId : Option Uuid
  clientId : Option Uuid
  bookingId : Option Uuid
  endedAt : Option Timestamp
  deriving DecidableEq, Repr

/-- A row of `client_profile`: the portal user of a client. -/
structure ClientProfile where
  id : Uuid
  userId : Uuid
  clientId : Uuid
  deriving DecidableEq, Repr

/-- What one request draws from outside the database: the values of its
successive `randomUUID()` calls and the clock. -/
structure RequestContext where
  randomUuid : Nat → Uuid
  now : Timestamp

end Heritage
