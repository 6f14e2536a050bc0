import SmartAo.Platform.Command

namespace SmartAo.Decision

open SmartAo.Foundation SmartAo.Platform

inductive DecisionType where
  | goNoGo
  | riskAcceptance
  | partnerSelection
  | pricingApproval
  | submissionAuthorization
deriving DecidableEq

def DecisionType.value : DecisionType → String
  | goNoGo => "GO_NO_GO"
  | riskAcceptance => "RISK_ACCEPTANCE"
  | partnerSelection => "PARTNER_SELECTION"
  | pricingApproval => "PRICING_APPROVAL"
  | submissionAuthorization => "SUBMISSION_AUTHORIZATION"

inductive DecisionLifecycle where
  | draft
  | pendingPatron
  | finalized
  | superseded
  | cancelled
deriving DecidableEq

inductive DecisionOutcome where
  | undecided
  | go
  | conditionalGo
  | noGo
  | accepted
  | rejected
  | authorized
  | notAuthorized
deriving DecidableEq

inductive DecisionValidity where
  | current
  | reviewRequired
  | superseded
  | invalidated
deriving DecidableEq

inductive DecisionContextStatus where
  | incomplete
  | frozen
  | stale
deriving DecidableEq

inductive DecisionConditionStatus where
  | notApplicable
  | open
  | satisfied
  | failed
  | waived
deriving DecidableEq

def DecisionConditionStatus.value : DecisionConditionStatus → String
  | .notApplicable => "NOT_APPLICABLE"
  | .open => "OPEN"
  | .satisfied => "SATISFIED"
  | .failed => "FAILED"
  | .waived => "WAIVED"

structure DecisionRecord where
  id : Uuid
  tenantId : Uuid
  decisionType : DecisionType
  caseId : Uuid
  scopeFingerprint : String
  decisionKeyHash : String
  cycleNumber : Nat
  lifecycle : DecisionLifecycle
  outcome : DecisionOutcome
  validity : DecisionValidity
  conditionStatus : DecisionConditionStatus
  contextStatus : DecisionContextStatus
  selectedFinalContextId : Option Uuid
  finalJustification : Option String
  finalizedByActorId : Option Uuid
  finalizedAt : Option Timestamp
  updatedByActorId : Uuid
  aggregateRevision : Nat
deriving DecidableEq

instance : RevisionedRoot DecisionRecord where
  Columns := Uuid × Uuid × String × Nat
  columns row := (row.id, row.tenantId, row.decisionKeyHash, row.cycleNumber)
  Clash first second := first.1 = second.1 ∨ first.2 = second.2
  decidableClash := inferInstance
  symm clash := clash.imp Eq.symm Eq.symm
  tenantId := DecisionRecord.tenantId
  id := DecisionRecord.id
  aggregateRevision := DecisionRecord.aggregateRevision
  conflict_of_id same := .inl same

inductive ContextAggregate where
  | case
  | dceVersion
  | dceRequirement
  | decisionRisk
  | pricingScenario
deriving DecidableEq

def ContextAggregate.value : ContextAggregate → String
  | .case => "CASE"
  | .dceVersion => "DCE_VERSION"
  | .dceRequirement => "DCE_REQUIREMENT"
  | .decisionRisk => "DECISION_RISK"
  | .pricingScenario => "PRICING_SCENARIO"

/-- One reference of the canonical context document. -/
structure CanonicalReference where
  aggregateType : ContextAggregate
  aggregateId : Uuid
  aggregateRevision : Nat
  contentHash : Option String
  referenceRole : String
deriving DecidableEq

/-- The canonical context document a context stores. -/
structure CanonicalContext where
  decisionId : Uuid
  caseId : Uuid
  references : List CanonicalReference
  unknowns : List String
  risks : List String
  preparedAt : String
deriving DecidableEq

inductive ContextState where
  | draft
  | frozen
deriving DecidableEq

structure DecisionContextRecord where
  id : Uuid
  tenantId : Uuid
  decisionId : Uuid
  sequenceNumber : Nat
  contextFingerprint : String
  canonicalContext : CanonicalContext
  rationale : String
  unknowns : List String
  preparedAt : Timestamp
  contextState : ContextState
  isSelectedFinal : Bool
  preparedByActorId : Uuid
deriving DecidableEq

instance : Schema DecisionContextRecord :=
  Schema.keyed fun row => (row.id, row.tenantId, row.decisionId, row.sequenceNumber)

structure DecisionContextReferenceRecord where
  id : Uuid
  tenantId : Uuid
  decisionContextId : Uuid
  aggregateType : ContextAggregate
  aggregateId : Uuid
  aggregateRevision : Nat
  contentHash : Option String
  referenceRole : String
deriving DecidableEq

instance : Schema DecisionContextReferenceRecord where
  Columns := Uuid × Uuid × Uuid × ContextAggregate × Uuid × String
  columns row := (row.id, row.tenantId, row.decisionContextId, row.aggregateType, row.aggregateId,
    row.referenceRole)
  Clash first second := first.1 = second.1 ∨ first.2 = second.2
  decidableClash := inferInstance
  symm clash := clash.imp Eq.symm Eq.symm

/-- The evidence of a satisfied condition: its reference and when it was recorded. -/
structure ConditionEvidence where
  reference : String
  recordedAt : String
deriving DecidableEq

structure DecisionConditionRecord where
  id : Uuid
  tenantId : Uuid
  decisionId : Uuid
  label : String
  ownerActorId : Uuid
  dueAt : Option Timestamp
  dueDateAbsenceReason : Option String
  failureConsequence : String
  status : DecisionConditionStatus
  satisfiedEvidence : Option ConditionEvidence
  failureReason : Option String
deriving DecidableEq

instance : Schema DecisionConditionRecord where
  Columns := Uuid
  columns row := row.id
  Clash first second := first = second
  decidableClash := inferInstance
  symm := Eq.symm

structure DecisionConditionTransitionRecord where
  id : Uuid
  tenantId : Uuid
  decisionId : Uuid
  conditionId : Uuid
  fromStatus : DecisionConditionStatus
  toStatus : DecisionConditionStatus
  satisfiedEvidence : Option ConditionEvidence
  failureReason : Option String
  aggregateRevision : Nat
  membershipId : Uuid
  commandId : Uuid
  idempotencyKey : Uuid
deriving DecidableEq

instance : Schema DecisionConditionTransitionRecord where
  Columns := Uuid × Uuid × Uuid × Uuid
  columns row := (row.id, row.tenantId, row.commandId, row.idempotencyKey)
  Clash first second := first.1 = second.1 ∨
    (first.2.1 = second.2.1 ∧ (first.2.2.1 = second.2.2.1 ∨ first.2.2.2 = second.2.2.2))
  decidableClash := fun _ _ => inferInstance
  symm clash := clash.imp Eq.symm fun ⟨tenant, rest⟩ => ⟨tenant.symm, rest.imp Eq.symm Eq.symm⟩

structure DecisionStore where
  decisions : Table DecisionRecord
  contexts : Table DecisionContextRecord
  references : Table DecisionContextReferenceRecord
  conditions : Table DecisionConditionRecord
  conditionTransitions : Table DecisionConditionTransitionRecord

def DecisionStore.empty : DecisionStore := ⟨.empty, .empty, .empty, .empty, .empty⟩

end SmartAo.Decision
