import SmartAo.Foundation.Chain
import SmartAo.Membership.Records

namespace SmartAo.Assignment

open SmartAo.Foundation SmartAo.Platform SmartAo.Case SmartAo.Membership

inductive MembershipState where
  | invited
  | active
  | suspended
  | revoked
  | expired
deriving DecidableEq

/-- The columns of a tenant membership the assignment handlers read. -/
structure TenantMembershipRecord where
  id : Uuid
  tenantId : Uuid
  role : ActorKind
  state : MembershipState
deriving DecidableEq

instance : Schema TenantMembershipRecord := .primary fun row => row.id

/-- The state and the scope a change of an assignment replaces. -/
structure Authority where
  state : AssignmentState
  scopeActions : List Capability
  scopeClassifications : List DataClassification
deriving DecidableEq

def authority (assignment : CaseAssignmentRecord) : Authority :=
  ⟨assignment.state, assignment.scopeActions, assignment.scopeClassifications⟩

inductive ChangeEventType where
  | assignmentCreated
  | assignmentScopeAmended
  | assignmentSuspended
  | assignmentReactivated
  | assignmentEnded
deriving DecidableEq

inductive ChangeReason where
  | patronSuspended
  | workloadReallocation
  | casePaused
  | accessReview
  | patronReactivated
  | caseResumed
  | accessReviewCleared
  | patronEnded
  | caseStopped
  | caseArchived
  | collaboratorUnavailable
  | membershipRevoked
deriving DecidableEq

def ChangeReason.value : ChangeReason → String
  | patronSuspended => "PATRON_SUSPENDED"
  | workloadReallocation => "WORKLOAD_REALLOCATION"
  | casePaused => "CASE_PAUSED"
  | accessReview => "ACCESS_REVIEW"
  | patronReactivated => "PATRON_REACTIVATED"
  | caseResumed => "CASE_RESUMED"
  | accessReviewCleared => "ACCESS_REVIEW_CLEARED"
  | patronEnded => "PATRON_ENDED"
  | caseStopped => "CASE_STOPPED"
  | caseArchived => "CASE_ARCHIVED"
  | collaboratorUnavailable => "COLLABORATOR_UNAVAILABLE"
  | membershipRevoked => "MEMBERSHIP_REVOKED"

/-- Immutable patron-owned history of authority changes on one assignment. -/
structure CaseAssignmentChangeEventRecord where
  id : Uuid
  tenantId : Uuid
  assignmentId : Uuid
  caseId : Uuid
  targetMembershipId : Uuid
  authorMembershipId : Uuid
  eventType : ChangeEventType
  previousRevision : Option Nat
  resultingRevision : Nat
  previousState : Option AssignmentState
  resultingState : AssignmentState
  reasonCode : Option ChangeReason
  previousScopeActions : Option (List Capability)
  previousScopeClassifications : Option (List DataClassification)
  resultingScopeActions : List Capability
  resultingScopeClassifications : List DataClassification
  commandId : Uuid
  correlationId : Option Uuid
deriving DecidableEq

instance : Schema CaseAssignmentChangeEventRecord := .primary fun row => row.id

namespace CaseAssignmentChangeEventRecord

def previous (event : CaseAssignmentChangeEventRecord) : Option Authority := do
  return ⟨← event.previousState, ← event.previousScopeActions, ← event.previousScopeClassifications⟩

def resulting (event : CaseAssignmentChangeEventRecord) : Authority :=
  ⟨event.resultingState, event.resultingScopeActions, event.resultingScopeClassifications⟩

end CaseAssignmentChangeEventRecord

/-- Immutable collaborator acknowledgement of one assignment revision. -/
structure CaseAssignmentAcknowledgementRecord where
  id : Uuid
  tenantId : Uuid
  assignmentId : Uuid
  actorId : Uuid
  membershipId : Uuid
  assignmentRevision : Nat
  note : Option String
  commandId : Uuid
  correlationId : Option Uuid
deriving DecidableEq

instance : Schema CaseAssignmentAcknowledgementRecord :=
  .keyed fun row => (row.id, row.tenantId, row.assignmentId, row.actorId, row.assignmentRevision)

inductive UnavailabilityReason where
  | sickness
  | leave
  | capacityConflict
  | skillGap
  | accessProblem
  | other
deriving DecidableEq

def UnavailabilityReason.value : UnavailabilityReason → String
  | sickness => "SICKNESS"
  | leave => "LEAVE"
  | capacityConflict => "CAPACITY_CONFLICT"
  | skillGap => "SKILL_GAP"
  | accessProblem => "ACCESS_PROBLEM"
  | other => "OTHER"

/-- Immutable collaborator unavailability observation for one assignment. -/
structure CaseAssignmentUnavailabilityRecord where
  id : Uuid
  tenantId : Uuid
  assignmentId : Uuid
  actorId : Uuid
  membershipId : Uuid
  assignmentRevision : Nat
  reasonKind : UnavailabilityReason
  reason : String
  unavailableFrom : Timestamp
  unavailableUntil : Option Timestamp
  knownDeadlineImpact : Bool
  impactNote : Option String
  commandId : Uuid
  correlationId : Option Uuid
deriving DecidableEq

instance : Schema CaseAssignmentUnavailabilityRecord := .primary fun row => row.id

inductive ClarificationKind where
  | scope
  | priority
  | deadline
  | document
  | responsibility
  | other
deriving DecidableEq

def ClarificationKind.value : ClarificationKind → String
  | scope => "SCOPE"
  | priority => "PRIORITY"
  | deadline => "DEADLINE"
  | document => "DOCUMENT"
  | responsibility => "RESPONSIBILITY"
  | other => "OTHER"

inductive ClarificationPriority where
  | low
  | normal
  | high
deriving DecidableEq

def ClarificationPriority.value : ClarificationPriority → String
  | low => "LOW"
  | normal => "NORMAL"
  | high => "HIGH"

/-- Immutable operational clarification request linked to one assignment. -/
structure AssignmentClarificationRequestRecord where
  id : Uuid
  tenantId : Uuid
  assignmentId : Uuid
  caseId : Uuid
  actorId : Uuid
  membershipId : Uuid
  clarificationKind : ClarificationKind
  subject : String
  question : String
  requestedScope : Option String
  priority : ClarificationPriority
  functionalKey : String
  commandId : Uuid
  correlationId : Option Uuid
deriving DecidableEq

instance : Schema AssignmentClarificationRequestRecord :=
  .keyed fun row => (row.id, row.tenantId, row.functionalKey)

inductive InteractionKind where
  | acknowledgement
  | clarificationRequest
  | unavailabilityReport
deriving DecidableEq

def InteractionKind.value : InteractionKind → String
  | acknowledgement => "ACKNOWLEDGEMENT"
  | clarificationRequest => "CLARIFICATION_REQUEST"
  | unavailabilityReport => "UNAVAILABILITY_REPORT"

inductive ValidationCode where
  | acknowledgementNoted
  | clarificationNoted
  | unavailabilityNoted
deriving DecidableEq

def ValidationCode.value : ValidationCode → String
  | acknowledgementNoted => "ACKNOWLEDGEMENT_NOTED"
  | clarificationNoted => "CLARIFICATION_NOTED"
  | unavailabilityNoted => "UNAVAILABILITY_NOTED"

def InteractionKind.noted : InteractionKind → ValidationCode
  | acknowledgement => .acknowledgementNoted
  | clarificationRequest => .clarificationNoted
  | unavailabilityReport => .unavailabilityNoted

/-- Immutable patron acknowledgement of one typed collaborator interaction. -/
structure AssignmentInteractionPatronValidationRecord where
  id : Uuid
  tenantId : Uuid
  assignmentId : Uuid
  caseId : Uuid
  interactionId : Uuid
  interactionKind : InteractionKind
  validationCode : ValidationCode
  patronMembershipId : Uuid
  commandId : Uuid
  correlationId : Option Uuid
deriving DecidableEq

instance : Schema AssignmentInteractionPatronValidationRecord :=
  .keyed fun row => (row.id, row.tenantId, row.interactionKind, row.interactionId)

/-- The tables of the assignment commands. Cases and memberships are written by other modules. -/
structure AssignmentStore where
  cases : Table CaseRecord
  memberships : Table TenantMembershipRecord
  assignments : Table CaseAssignmentRecord
  changes : Table CaseAssignmentChangeEventRecord
  acknowledgements : Table CaseAssignmentAcknowledgementRecord
  unavailabilities : Table CaseAssignmentUnavailabilityRecord
  clarifications : Table AssignmentClarificationRequestRecord
  validations : Table AssignmentInteractionPatronValidationRecord

namespace AssignmentStore

def empty : AssignmentStore := ⟨.empty, .empty, .empty, .empty, .empty, .empty, .empty, .empty⟩

def case (store : AssignmentStore) (tenantId caseId : Uuid) : Option CaseRecord :=
  store.cases.find? fun row => row.tenantId = tenantId ∧ row.id = caseId

def membership (store : AssignmentStore) (tenantId membershipId : Uuid) : Option TenantMembershipRecord :=
  store.memberships.find? fun row => row.tenantId = tenantId ∧ row.id = membershipId

def assignment (store : AssignmentStore) (tenantId assignmentId : Uuid) : Option CaseAssignmentRecord :=
  store.assignments.find? fun row => row.tenantId = tenantId ∧ row.id = assignmentId

end AssignmentStore

/-- ACTIVE or SUSPENDED. -/
def IsOpen (assignment : CaseAssignmentRecord) : Prop :=
  assignment.state = .active ∨ assignment.state = .suspended

instance (assignment : CaseAssignmentRecord) : Decidable (IsOpen assignment) :=
  inferInstanceAs (Decidable (_ ∨ _))

end SmartAo.Assignment
