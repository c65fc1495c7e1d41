import Heritage.Shared.Access

/-!
# Lead tables

Rows of leads and their histories, the clients a conversion creates or links,
and the errors and audit records of the lead operations.
-/

namespace Heritage.Leads

inductive LeadStatus where
  | new
  | underReview
  | contacted
  | consultationScheduled
  | qualified
  | convertedToClient
  | notProceeding
  | duplicate
  | spam
  | archived
  deriving DecidableEq, Repr

/-- The database's spelling of a status. -/
def LeadStatus.text : LeadStatus → String
  | .new => "NEW"
  | .underReview => "UNDER_REVIEW"
  | .contacted => "CONTACTED"
  | .consultationScheduled => "CONSULTATION_SCHEDULED"
  | .qualified => "QUALIFIED"
  | .convertedToClient => "CONVERTED_TO_CLIENT"
  | .notProceeding => "NOT_PROCEEDING"
  | .duplicate => "DUPLICATE"
  | .spam => "SPAM"
  | .archived => "ARCHIVED"

structure Lead where
  id : Uuid
  status : LeadStatus
  fullName : String
  email : Option NonBlank
  phone : Option NonBlank
  normalizedEmail : Option String
  normalizedPhone : Option String
  source : String
  notes : Option String
  clientId : Option Uuid
  createdAt : Timestamp
  updatedAt : Timestamp
  deriving DecidableEq, Repr

structure LeadStatusHistory where
  leadId : Uuid
  previousStatus : Option LeadStatus
  newStatus : LeadStatus
  changedByUserId : Uuid
  createdAt : Timestamp
  deriving DecidableEq, Repr

inductive LeadAuditAction where
  | leadCreated
  | leadUpdated
  | leadStatusChanged
  | leadConvertedToClient
  | clientCreated
  | leadAssigned
  | clientAssigned
  | clientUpdated
  deriving DecidableEq, Repr

inductive AuditEntityType where
  | lead
  | client
  deriving DecidableEq, Repr

inductive AuditSnapshot where
  | leadCreated
      (id : Uuid) (status : String) (source : String)
      (hasEmail hasPhone : Bool)
  | leadUpdate (changedFields : List String) (hasEmail hasPhone : Bool)
  | leadStatus (status : String) (reason : Option String)
  | leadConversion (status : String) (clientId : Uuid) (clientCreated : Bool)
  | clientCreated (sourceLeadId : Uuid) (hasEmail hasPhone : Bool)
  | clientUpdate (changedFields : List String) (hasEmail hasPhone : Bool)
  | assignment (snapshot : AuditAssignmentSnapshot)
  deriving DecidableEq, Repr

structure AuditLog where
  actorId : Uuid
  action : LeadAuditAction
  entityType : AuditEntityType
  entityId : Uuid
  beforeState : Option AuditSnapshot
  afterState : Option AuditSnapshot
  deriving DecidableEq, Repr

/-- The part of the database the lead features read and write. -/
structure Tables where
  leads : List Lead
  statusHistory : List LeadStatusHistory
  clients : List Client
  clientProfiles : List ClientProfile
  staffAssignments : List StaffAssignment
  auditLogs : List AuditLog
  deriving DecidableEq, Repr

/-- No row in any table. -/
def Tables.empty : Tables where
  leads := []
  statusHistory := []
  clients := []
  clientProfiles := []
  staffAssignments := []
  auditLogs := []

inductive LeadErrorCode where
  | validationError
  | roleNotPermitted
  | leadNotFound
  | leadForbidden
  | leadLocked
  | reasonRequired
  | invalidStatusTransition
  | conversionEndpointRequired
  | conversionNotEligible
  | clientMatchRequiresLink
  | clientLinkNotAvailable
  | leadConflict
  deriving DecidableEq, Repr

structure LeadError where
  code : LeadErrorCode
  message : String
  deriving DecidableEq, Repr

inductive TxError where
  | lead (error : LeadError)
  | uniqueViolation (modelName : String) (fields : List String)
  | unknown (message : String)
  deriving DecidableEq, Repr

/-- The domain error with this code and message. -/
def leadError (code : LeadErrorCode) (message : String) : TxError :=
  .lead ⟨code, message⟩

/-- `isResidualDatabaseConflict` for serialised transactions: a unique
violation. -/
def isKnownConflict : TxError → Bool
  | .uniqueViolation _ _ => true
  | _ => false

inductive TransitionOutcome where
  | allowed
  | rejected
  | deferredToConversionEndpoint
  deriving DecidableEq, Repr

/-- `TRANSITION_MATRIX`. -/
def transitionTargets : LeadStatus → List LeadStatus
  | .new =>
      [.underReview, .contacted, .consultationScheduled, .qualified,
        .notProceeding, .duplicate, .spam, .archived]
  | .underReview =>
      [.contacted, .consultationScheduled, .qualified, .notProceeding,
        .duplicate, .spam, .archived]
  | .contacted =>
      [.consultationScheduled, .qualified, .notProceeding, .duplicate,
        .spam, .archived]
  | .consultationScheduled =>
      [.qualified, .notProceeding, .duplicate, .spam, .archived]
  | .qualified => [.notProceeding, .duplicate, .spam, .archived]
  | .convertedToClient => []
  | .notProceeding => [.underReview, .archived]
  | .duplicate => [.underReview, .archived]
  | .spam => [.underReview, .archived]
  | .archived => [.underReview]

/-- `REASON_REQUIRED_MATRIX`. -/
def reasonRequiredTargets : LeadStatus → List LeadStatus
  | .new | .underReview | .contacted | .consultationScheduled
  | .qualified => [.duplicate, .spam]
  | .convertedToClient => []
  | .notProceeding | .duplicate | .spam | .archived => [.underReview]

def getTransitionOutcome (current next : LeadStatus) : TransitionOutcome :=
  if current = .qualified ∧ next = .convertedToClient then
    .deferredToConversionEndpoint
  else if next ∈ transitionTargets current then
    .allowed
  else
    .rejected

def isReasonRequired (current next : LeadStatus) : Bool :=
  next ∈ reasonRequiredTargets current

/-- A converted lead has no way out, and no other status a way in. -/
theorem converted_of_allowed {current next : LeadStatus}
    (allowed : getTransitionOutcome current next = .allowed) :
    current ≠ .convertedToClient ∧ next ≠ .convertedToClient := by
  revert allowed
  cases current <;> cases next <;> decide

end Heritage.Leads
