import SmartAo.Case.Record
import SmartAo.Dce.Records

namespace SmartAo.Membership

open SmartAo.Foundation SmartAo.Platform

inductive AssignmentState where
  | active
  | suspended
  | ended
  | expired
deriving DecidableEq

/-- The scope granting one collaborator bounded access to one case. -/
structure CaseAssignmentRecord where
  id : Uuid
  tenantId : Uuid
  membershipId : Uuid
  caseId : Uuid
  state : AssignmentState
  startsAt : Timestamp
  endsAt : Option Timestamp
  scopeActions : List Capability
  scopeClassifications : List DataClassification
  aggregateRevision : Nat
  grantedByMembershipId : Uuid
  grantedAt : Timestamp
  endedAt : Option Timestamp
deriving DecidableEq

instance : Schema CaseAssignmentRecord where
  Columns := Uuid
  columns row := row.id
  Clash first second := first = second
  decidableClash := inferInstance
  symm := Eq.symm

inductive TaskKind where
  | requirementCheck
  | documentPreparation
  | siteVisit
  | technicalPreparation
  | administrativePreparation
deriving DecidableEq

def TaskKind.value : TaskKind → String
  | requirementCheck => "REQUIREMENT_CHECK"
  | documentPreparation => "DOCUMENT_PREPARATION"
  | siteVisit => "SITE_VISIT"
  | technicalPreparation => "TECHNICAL_PREPARATION"
  | administrativePreparation => "ADMINISTRATIVE_PREPARATION"

inductive TaskState where
  | ready
  | inProgress
  | blocked
  | completed
  | abandoned
deriving DecidableEq

def TaskState.value : TaskState → String
  | ready => "READY"
  | inProgress => "IN_PROGRESS"
  | blocked => "BLOCKED"
  | completed => "COMPLETED"
  | abandoned => "ABANDONED"

inductive Priority where
  | low
  | normal
  | high
  | critical
deriving DecidableEq

/-- Mutable operational task bounded by one active collaborator assignment. -/
structure CollaboratorTaskRecord where
  id : Uuid
  tenantId : Uuid
  caseId : Uuid
  assignmentId : Uuid
  requirementId : Uuid
  taskKind : TaskKind
  title : String
  objective : String
  priority : Priority
  state : TaskState
  functionalKey : String
  dueAt : Option Timestamp
  aggregateRevision : Nat
  claimedAt : Option Timestamp
  completedAt : Option Timestamp
deriving DecidableEq

instance : Schema CollaboratorTaskRecord :=
  Schema.keyed fun row => (row.id, row.tenantId, row.assignmentId, row.functionalKey)

inductive ResultOutcome where
  | recorded
  | notApplicable
  | unableToComplete
deriving DecidableEq

structure CollaboratorTaskResultRecord where
  id : Uuid
  tenantId : Uuid
  taskId : Uuid
  taskRevision : Nat
  outcome : ResultOutcome
  resultText : String
  sourceLocator : Option String
  actorId : Uuid
  membershipId : Uuid
  commandId : Uuid
  correlationId : Option Uuid
deriving DecidableEq

instance : Schema CollaboratorTaskResultRecord where
  Columns := Uuid
  columns row := row.id
  Clash first second := first = second
  decidableClash := inferInstance
  symm := Eq.symm

inductive BlockerKind where
  | missingInformation
  | externalDependency
  | sourceConflict
  | reviewRequired
deriving DecidableEq

def BlockerKind.value : BlockerKind → String
  | missingInformation => "MISSING_INFORMATION"
  | externalDependency => "EXTERNAL_DEPENDENCY"
  | sourceConflict => "SOURCE_CONFLICT"
  | reviewRequired => "REVIEW_REQUIRED"

inductive ResolutionOwner where
  | collaborateur
  | patronAdmin
  | externalParty
deriving DecidableEq

inductive BlockerState where
  | open
  | resolved
deriving DecidableEq

/-- Mutable blocker state owned by a collaborator task. -/
structure CollaboratorTaskBlockerRecord where
  id : Uuid
  tenantId : Uuid
  taskId : Uuid
  taskRevision : Nat
  blockerKind : BlockerKind
  description : String
  sourceLocator : Option String
  resolutionOwner : ResolutionOwner
  state : BlockerState
  resolutionNote : Option String
  resolvedAt : Option Timestamp
  actorId : Uuid
  membershipId : Uuid
  commandId : Uuid
  correlationId : Option Uuid
deriving DecidableEq

instance : Schema CollaboratorTaskBlockerRecord where
  Columns := Uuid
  columns row := row.id
  Clash first second := first = second
  decidableClash := inferInstance
  symm := Eq.symm

end SmartAo.Membership
