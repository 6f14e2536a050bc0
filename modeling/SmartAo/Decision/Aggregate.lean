import SmartAo.Foundation.Mutation
import SmartAo.Foundation.Text
import SmartAo.Decision.Records

namespace SmartAo.DecisionDomain

open SmartAo.Foundation SmartAo.Platform SmartAo.Decision

inductive DecisionDomainError where
  | contextIncomplete (message : String)
  | staleContext (message : String)
  | alreadyFinalized (message : String)
  | lifecycle (message : String)
  | conditionOwnerRequired (message : String)
  | conditionConsequenceRequired (message : String)
deriving DecidableEq

def DecisionDomainError.code : DecisionDomainError → String
  | contextIncomplete _ => "DECISION_CONTEXT_INCOMPLETE"
  | staleContext _ => "STALE_CONTEXT"
  | alreadyFinalized _ => "DECISION_ALREADY_FINALIZED"
  | lifecycle _ => "DECISION_LIFECYCLE_FORBIDS_ACTION"
  | conditionOwnerRequired _ => "CONDITION_OWNER_REQUIRED"
  | conditionConsequenceRequired _ => "CONDITION_CONSEQUENCE_REQUIRED"

structure DecisionContext where
  contextId : Uuid
  tenantId : Uuid
  references : List String
  unknowns : List String
  risks : List String
  preparedAt : Timestamp
  fingerprint : String
deriving DecidableEq

structure DecisionCondition where
  id : Uuid
  label : String
  owner : Option String
  dueAt : Option Timestamp
  dueDateAbsenceReason : Option String
  failureConsequence : Option String
  status : DecisionConditionStatus := .open
  evidenceReference : Option String := none
  observedAt : Option Timestamp := none
deriving DecidableEq

/-- Python's truth of an optional text. -/
def present (text : Option String) : Bool := text.any (· ≠ "")

def DecisionCondition.validateForApproval (condition : DecisionCondition) : Except DecisionDomainError Unit := do
  raiseIf (condition.label = "") (.contextIncomplete "decision condition requires a label")
  raiseIf (present condition.owner = false)
    (.conditionOwnerRequired "conditional Go condition requires an owner")
  raiseIf (condition.dueAt = none ∧ present condition.dueDateAbsenceReason = false)
    (.conditionConsequenceRequired "conditional Go condition requires a due date or absence reason")
  raiseIf (present condition.failureConsequence = false)
    (.conditionConsequenceRequired "conditional Go condition requires a failure consequence")

inductive DecisionEvent where
  | draftCreated (decisionId tenantId : Uuid)
  | contextPrepared (decisionId contextId : Uuid) (fingerprint : String)
  | goApproved (decisionId : Uuid)
  | conditionalGoApproved (decisionId : Uuid)
  | noGoApproved (decisionId : Uuid)
  | conditionSatisfied (decisionId conditionId : Uuid)
  | markedReviewRequired (decisionId : Uuid)
  | superseded (decisionId successorDecisionId : Uuid)
deriving DecidableEq

/-- The decision aggregate. -/
structure Decision where
  id : Uuid
  tenantId : Uuid
  decisionType : DecisionType
  subjectReference : String
  scopeFingerprint : String
  createdBy : String
  lifecycle : DecisionLifecycle := .draft
  outcome : DecisionOutcome := .undecided
  validity : DecisionValidity := .current
  contextStatus : DecisionContextStatus := .incomplete
  conditionStatus : DecisionConditionStatus := .notApplicable
  contextHistory : List DecisionContext := []
  conditions : List DecisionCondition := []
  successorDecisionId : Option Uuid := none
  finalJustification : Option String := none
  finalApprovedBy : Option String := none
  finalApprovedAt : Option Timestamp := none
  aggregateRevision : Nat := 0
  pendingEvents : List DecisionEvent := []
deriving DecidableEq

abbrev Operation := Mutation DecisionDomainError Decision Unit

def blank (text : String) : Bool := strip text = ""

def createDraft (decisionId tenantId : Uuid) (decisionType : DecisionType)
    (subjectReference scopeFingerprint createdBy : String) : Except DecisionDomainError Decision := do
  raiseIf (blank subjectReference = true ∨ blank scopeFingerprint = true ∨ blank createdBy = true)
    (.contextIncomplete "Decision draft requires subject, scope fingerprint and creator")
  return {
    id := decisionId, tenantId, decisionType, subjectReference := strip subjectReference,
    scopeFingerprint := strip scopeFingerprint, createdBy := strip createdBy,
    pendingEvents := [.draftCreated decisionId tenantId] }

namespace Decision

def currentContext (decision : Decision) : Except DecisionDomainError DecisionContext :=
  orRaise decision.contextHistory.getLast? (.contextIncomplete "Decision has no prepared context")

def ensureNotFinalized (decision : Decision) : Except DecisionDomainError Unit := do
  raiseIf (decision.lifecycle = .finalized) (.alreadyFinalized "finalized Decision cannot be modified")
  raiseIf (decision.lifecycle = .superseded ∨ decision.lifecycle = .cancelled)
    (.lifecycle "Decision lifecycle forbids this action")

def ensurePendingCurrentContext (displayedFingerprint : String) (decision : Decision) :
    Except DecisionDomainError Unit := do
  raiseIf (decision.lifecycle = .finalized) (.alreadyFinalized "finalized Decision cannot be approved again")
  raiseIf (decision.lifecycle ≠ .pendingPatron) (.lifecycle "Decision requires a frozen pending context")
  let context ← decision.currentContext
  raiseIf (displayedFingerprint ≠ context.fingerprint)
    (.staleContext "displayed Decision context fingerprint is stale")

def ensureFinalized (message : String) (decision : Decision) : Except DecisionDomainError Unit :=
  raiseIf (decision.lifecycle ≠ .finalized) (.lifecycle message)

def incrementRevision (decision : Decision) : Decision :=
  { decision with aggregateRevision := decision.aggregateRevision + 1 }

def record (event : DecisionEvent) (decision : Decision) : Decision :=
  { decision with pendingEvents := decision.pendingEvents ++ [event] }

/-- `Decision._derive_condition_status`. -/
def deriveConditionStatus (conditions : List DecisionCondition) : DecisionConditionStatus :=
  if conditions.any fun condition => condition.status = .failed then .failed
  else if conditions.all fun condition => condition.status = .satisfied ∨ condition.status = .waived then .satisfied
  else .open

/-- The first condition of the identifier, when it is open. -/
def findOpenCondition (conditionId : Uuid) (decision : Decision) : Except DecisionDomainError DecisionCondition := do
  let condition ← orRaise (decision.conditions.find? fun condition => condition.id = conditionId)
    (.lifecycle "Decision condition is not found")
  raiseIf (condition.status ≠ .open) (.lifecycle "Decision condition is not open")
  return condition

def prepareContext (context : DecisionContext) : Operation := do
  Mutation.test ensureNotFinalized
  Mutation.test fun decision => raiseIf (context.tenantId ≠ decision.tenantId)
    (.contextIncomplete "Decision context belongs to another tenant")
  Mutation.test fun _ => raiseIf (context.references = []) (.contextIncomplete "Decision context requires references")
  Mutation.assign fun decision => { decision with contextHistory := decision.contextHistory ++ [context] }
  Mutation.assign fun decision => { decision with lifecycle := .pendingPatron, contextStatus := .frozen }
  Mutation.assign incrementRevision
  Mutation.assign fun decision => decision.record (.contextPrepared decision.id context.contextId context.fingerprint)

/-- `Decision._finalize`. -/
def finalize (outcome : DecisionOutcome) (justification approvedBy : String) (approvedAt : Timestamp) :
    Operation := do
  Mutation.test fun _ => raiseIf (blank justification = true ∨ blank approvedBy = true)
    (.contextIncomplete "Decision finalization requires justification and patron")
  Mutation.assign fun decision => { decision with
    lifecycle := .finalized
    outcome := outcome
    validity := .current
    finalJustification := some (strip justification)
    finalApprovedBy := some (strip approvedBy)
    finalApprovedAt := some approvedAt }
  Mutation.assign incrementRevision

/-- `Decision.approve_go` and `Decision.approve_no_go`: an outcome without conditions. -/
def approveUnconditional (outcome : DecisionOutcome) (event : Uuid → DecisionEvent)
    (displayedFingerprint justification approvedBy : String) (approvedAt : Timestamp) : Operation := do
  Mutation.test (ensurePendingCurrentContext displayedFingerprint)
  finalize outcome justification approvedBy approvedAt
  Mutation.assign fun decision => { decision with conditionStatus := .notApplicable }
  Mutation.assign fun decision => decision.record (event decision.id)

def approveGo (displayedFingerprint justification approvedBy : String) (approvedAt : Timestamp) : Operation :=
  approveUnconditional .go .goApproved displayedFingerprint justification approvedBy approvedAt

def approveNoGo (displayedFingerprint justification approvedBy : String) (approvedAt : Timestamp) : Operation :=
  approveUnconditional .noGo .noGoApproved displayedFingerprint justification approvedBy approvedAt

/-- The checks of `Decision.approve_conditional_go` before its first assignment. -/
def conditionalGoChecks (displayedFingerprint : String) (conditions : List DecisionCondition) (decision : Decision) :
    Except DecisionDomainError Unit := do
  decision.ensurePendingCurrentContext displayedFingerprint
  raiseIf (conditions = []) (.contextIncomplete "conditional Go requires at least one condition")
  raiseIf (¬ (conditions.map (·.id)).Nodup)
    (.contextIncomplete "conditional Go condition identifiers must be unique")
  let _ ← collect DecisionCondition.validateForApproval conditions
  return ()

def approveConditionalGo (displayedFingerprint justification : String) (conditions : List DecisionCondition)
    (approvedBy : String) (approvedAt : Timestamp) : Operation := do
  Mutation.test (conditionalGoChecks displayedFingerprint conditions)
  -- the conditions are assigned before `_finalize` checks its arguments
  Mutation.assign fun decision => { decision with conditions := conditions }
  finalize .conditionalGo justification approvedBy approvedAt
  Mutation.assign fun decision => { decision with conditionStatus := .open }
  Mutation.assign fun decision => decision.record (.conditionalGoApproved decision.id)

/-- `DecisionCondition.mark_satisfied`, on the one condition of the identifier. -/
def markSatisfied (conditionId : Uuid) (evidenceReference : String) (observedAt : Timestamp)
    (conditions : List DecisionCondition) : List DecisionCondition :=
  conditions.replaceF fun condition => if condition.id = conditionId then some { condition with
    status := .satisfied
    evidenceReference := some (strip evidenceReference)
    observedAt := some observedAt } else none

def recordConditionSatisfied (conditionId : Uuid) (evidenceReference : String) (observedAt : Timestamp) :
    Operation := do
  Mutation.test (ensureFinalized "only a finalized conditional Decision has conditions")
  Mutation.test fun decision => raiseIf (decision.outcome ≠ .conditionalGo)
    (.lifecycle "Decision outcome does not support conditions")
  let condition ← Mutation.test (findOpenCondition conditionId)
  Mutation.test fun _ => raiseIf (blank evidenceReference = true)
    (.contextIncomplete "condition satisfaction requires evidence reference")
  Mutation.assign fun decision => { decision with
    conditions := markSatisfied conditionId evidenceReference observedAt decision.conditions }
  Mutation.assign fun decision => { decision with conditionStatus := deriveConditionStatus decision.conditions }
  Mutation.assign incrementRevision
  Mutation.assign fun decision => decision.record (.conditionSatisfied decision.id condition.id)

def markReviewRequired (reason : String) : Operation := do
  Mutation.test (ensureFinalized "only a finalized Decision can require review")
  Mutation.test fun _ => raiseIf (blank reason = true) (.contextIncomplete "review required needs an impact reason")
  Mutation.assign fun decision => { decision with validity := .reviewRequired, contextStatus := .stale }
  Mutation.assign incrementRevision
  Mutation.assign fun decision => decision.record (.markedReviewRequired decision.id)

def supersede (successorDecisionId : Uuid) (rationale : String) : Operation := do
  Mutation.test (ensureFinalized "only a finalized Decision can be superseded")
  Mutation.test fun decision => raiseIf (successorDecisionId = decision.id ∨ blank rationale = true)
    (.contextIncomplete "Decision supersession requires another Decision and rationale")
  Mutation.assign fun decision => { decision with
    lifecycle := .superseded
    validity := .superseded
    successorDecisionId := some successorDecisionId }
  Mutation.assign incrementRevision
  Mutation.assign fun decision => decision.record (.superseded decision.id successorDecisionId)

end Decision

inductive DecisionOperation where
  | prepareContext (context : DecisionContext)
  | approveGo (displayedFingerprint justification approvedBy : String) (approvedAt : Timestamp)
  | approveConditionalGo (displayedFingerprint justification : String) (conditions : List DecisionCondition)
    (approvedBy : String) (approvedAt : Timestamp)
  | approveNoGo (displayedFingerprint justification approvedBy : String) (approvedAt : Timestamp)
  | recordConditionSatisfied (conditionId : Uuid) (evidenceReference : String) (observedAt : Timestamp)
  | markReviewRequired (reason : String)
  | supersede (successorDecisionId : Uuid) (rationale : String)

def operate : DecisionOperation → Operation
  | .prepareContext context => Decision.prepareContext context
  | .approveGo fingerprint justification approvedBy approvedAt =>
    Decision.approveGo fingerprint justification approvedBy approvedAt
  | .approveConditionalGo fingerprint justification conditions approvedBy approvedAt =>
    Decision.approveConditionalGo fingerprint justification conditions approvedBy approvedAt
  | .approveNoGo fingerprint justification approvedBy approvedAt =>
    Decision.approveNoGo fingerprint justification approvedBy approvedAt
  | .recordConditionSatisfied conditionId evidenceReference observedAt =>
    Decision.recordConditionSatisfied conditionId evidenceReference observedAt
  | .markReviewRequired reason => Decision.markReviewRequired reason
  | .supersede successorDecisionId rationale => Decision.supersede successorDecisionId rationale

end SmartAo.DecisionDomain
