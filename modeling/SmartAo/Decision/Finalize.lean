import SmartAo.Decision.Lifecycle
import SmartAo.Foundation.Join

namespace SmartAo.Decision

open SmartAo.Foundation SmartAo.Platform SmartAo.Case SmartAo.Dce SmartAo.Pricing SmartAo.PatronAction

structure ConditionalGoConditionInput where
  conditionId : Uuid
  label : String
  ownerActorId : Uuid
  dueAt : Option Timestamp
  dueDateAbsenceReason : Option String
  failureConsequence : String

inductive FinalOutcome where
  | go
  | conditionalGo
  | noGo
deriving DecidableEq

def FinalOutcome.outcome : FinalOutcome → DecisionOutcome
  | go => .go
  | conditionalGo => .conditionalGo
  | noGo => .noGo

def FinalOutcome.value : FinalOutcome → String
  | go => "GO"
  | conditionalGo => "CONDITIONAL_GO"
  | noGo => "NO_GO"

structure FinalizeGoNoGoDecisionCommand extends ApplicationCommand where
  decisionId : Uuid
  caseId : Uuid
  expectedRevision : Nat
  displayedFingerprint : String
  outcome : FinalOutcome
  justification : String
  conditions : List ConditionalGoConditionInput

/-- A text that is not empty, stripped. -/
def stripped (text : Option String) : Option String := (text.filter (· ≠ "")).map strip

namespace ConditionalGoConditionInput

def validForApproval (condition : ConditionalGoConditionInput) : Bool :=
  strip condition.label ≠ "" ∧
    (condition.dueAt ≠ none ∨ (stripped condition.dueDateAbsenceReason).any (· ≠ "")) ∧
    strip condition.failureConsequence ≠ ""

def record (tenantId decisionId : Uuid) (condition : ConditionalGoConditionInput) :
    DecisionConditionRecord where
  id := condition.conditionId
  tenantId := tenantId
  decisionId := decisionId
  label := strip condition.label
  ownerActorId := condition.ownerActorId
  dueAt := condition.dueAt
  dueDateAbsenceReason := stripped condition.dueDateAbsenceReason
  failureConsequence := strip condition.failureConsequence
  status := .open
  satisfiedEvidence := none
  failureReason := none

end ConditionalGoConditionInput

/-- The requirements of a version among the identifiers, with their CONFIRMED current
    confirmations. -/
def confirmedRequirements (dce : DceStore) (tenantId dceVersionId : Uuid) (ids : List Uuid) :
    List (DceRequirementRecord × DceRequirementConfirmationCurrentRecord) :=
  dce.requirements.join dce.currentConfirmations fun requirement current =>
    (current.tenantId = requirement.tenantId ∧ current.requirementId = requirement.id) ∧
      requirement.tenantId = tenantId ∧ requirement.dceVersionId = dceVersionId ∧
      requirement.id ∈ ids ∧ current.outcome = .confirmed

/-- The requirements a context quotes against the confirmations of the applicable version. -/
def hasConfirmedDceRequirements (store : Store) (tenantId contextId caseId : Uuid) : Bool :=
  match store.applicableVersion tenantId caseId with
  | none => false
  | some dceVersionId =>
    let ids := store.decisions.requirementIds tenantId contextId
    ids = [] ∨ (confirmedRequirements store.dce tenantId dceVersionId ids).length = ids.length

def finalizedRoot (command : FinalizeGoNoGoDecisionCommand) (context : CommandContext)
    (contextId : Uuid) (row : DecisionRecord) : DecisionRecord :=
  { row with
    lifecycle := .finalized
    outcome := command.outcome.outcome
    validity := .current
    conditionStatus := if command.outcome = .conditionalGo then .open else .notApplicable
    contextStatus := .frozen
    selectedFinalContextId := some contextId
    finalJustification := some (strip command.justification)
    finalizedByActorId := some context.actorId
    finalizedAt := some context.receivedAt
    updatedByActorId := context.actorId
    aggregateRevision := row.aggregateRevision + 1 }

theorem finalizedRoot_columns (command : FinalizeGoNoGoDecisionCommand) (context : CommandContext)
    (contextId : Uuid) (row : DecisionRecord) :
    Schema.columns (finalizedRoot command context contextId row) = Schema.columns row := rfl

def conditionDrafts (command : FinalizeGoNoGoDecisionCommand) (context : CommandContext) :
    Transaction (List DecisionConditionRecord) := do
  raiseIf (¬ (command.conditions.map (·.conditionId)).Nodup)
    (.execution "CONDITION_IDENTIFIERS_MUST_BE_UNIQUE")
  raiseIf (∃ condition ∈ command.conditions, ¬ condition.validForApproval)
    (.execution "CONDITIONAL_GO_INVALID")
  return command.conditions.map
    (ConditionalGoConditionInput.record context.tenantId command.decisionId)

/-- The checks of a finalization, and the frozen context it selects. -/
def finalizeChecks (store : Store) (command : FinalizeGoNoGoDecisionCommand)
    (context : CommandContext) : Transaction (DecisionContextRecord × List DecisionConditionRecord) := do
  raiseIf ((context.actorKind ≠ .patronAdmin ∧ context.actorKind ≠ .patronDelegate) ∨
    context.membershipId = none) (.execution "PATRON_REQUIRED")
  let root ← orRaise (store.decisions.root context.tenantId command.decisionId)
    (.execution "NOT_FOUND_OR_FORBIDDEN")
  raiseIf (root.caseId ≠ command.caseId) (.execution "NOT_FOUND_OR_FORBIDDEN")
  raiseIf (root.decisionType ≠ .goNoGo ∨ root.lifecycle ≠ .pendingPatron ∨
      root.outcome ≠ .undecided ∨ root.validity ≠ .current ∨ root.contextStatus ≠ .frozen)
    (.execution "DECISION_NOT_READY_FOR_FINALIZATION")
  let current ← orRaise
    (store.decisions.contextsOf context.tenantId command.decisionId).getLast?
    (.execution "DECISION_CONTEXT_REQUIRED")
  raiseIf (current.contextState ≠ .frozen ∨
      lower current.contextFingerprint ≠ lower command.displayedFingerprint)
    (.execution "STALE_DECISION_CONTEXT")
  raiseIf (store.decisions.referencesOf context.tenantId command.decisionId = [])
    (.execution "DECISION_CONTEXT_REFERENCES_REQUIRED")
  raiseIf (command.outcome ≠ .conditionalGo ∧ command.conditions.isEmpty = false)
    (.execution "CONDITIONS_ONLY_FOR_CONDITIONAL_GO")
  raiseIf (command.outcome = .conditionalGo ∧ command.conditions.isEmpty = true)
    (.execution "CONDITIONAL_GO_REQUIRES_CONDITIONS")
  let drafts ← conditionDrafts command context
  raiseIf (¬ hasConfirmedDceRequirements store context.tenantId current.id command.caseId)
    (.execution "DCE_REQUIREMENTS_NOT_CONFIRMED")
  return (current, drafts)

def finalizeGoNoGoDecision (store : Store) (command : FinalizeGoNoGoDecisionCommand)
    (context : CommandContext) : Transaction (DecisionStore × HandlerOutcome) := do
  let (current, drafts) ← finalizeChecks store command context
  let decisions ← updateRoot store.decisions.decisions context.tenantId command.decisionId
    command.expectedRevision (finalizedRoot command context current.id)
    (finalizedRoot_columns command context current.id) (.execution "STALE_DECISION_REVISION")
  let conditions ← flush (store.decisions.conditions.insertAll? drafts)
  let revision := command.expectedRevision + 1
  return ({ store.decisions with decisions, conditions },
    decisionOutcome command.decisionId revision "DECISION_FINALIZED" [] "DecisionFinalized" [
      ("decision_id", .str command.decisionId.str), ("case_id", .str command.caseId.str),
      ("outcome", .str command.outcome.value), ("condition_count", .int drafts.length),
      ("aggregate_revision", .int revision)])

inductive ConditionTarget where
  | satisfied
  | failed
deriving DecidableEq

def ConditionTarget.status : ConditionTarget → DecisionConditionStatus
  | satisfied => .satisfied
  | failed => .failed

structure ResolveDecisionConditionCommand extends ApplicationCommand where
  decisionId : Uuid
  caseId : Uuid
  conditionId : Uuid
  transitionId : Uuid
  expectedRevision : Nat
  targetStatus : ConditionTarget
  evidenceReference : Option String
  failureReason : Option String

def derivedConditionStatus (statuses : List DecisionConditionStatus) : DecisionConditionStatus :=
  if .failed ∈ statuses then .failed
  else if ∀ status ∈ statuses, status = .satisfied ∨ status = .waived then .satisfied
  else .open

def resolvedCondition (command : ResolveDecisionConditionCommand)
    (evidence : Option ConditionEvidence) (failureReason : Option String)
    (row : DecisionConditionRecord) : DecisionConditionRecord :=
  { row with status := command.targetStatus.status, satisfiedEvidence := evidence, failureReason }

theorem resolvedCondition_columns (command : ResolveDecisionConditionCommand)
    (evidence : Option ConditionEvidence) (failureReason : Option String)
    (row : DecisionConditionRecord) :
    Schema.columns (resolvedCondition command evidence failureReason row) = Schema.columns row := rfl

def resolvedRoot (context : CommandContext) (status : DecisionConditionStatus)
    (row : DecisionRecord) : DecisionRecord :=
  { row with
    conditionStatus := status
    updatedByActorId := context.actorId
    aggregateRevision := row.aggregateRevision + 1 }

theorem resolvedRoot_columns (context : CommandContext) (status : DecisionConditionStatus)
    (row : DecisionRecord) : Schema.columns (resolvedRoot context status row) = Schema.columns row := rfl

/-- A command without a membership fails inside the guarded block of the transition. -/
def resolveDecisionCondition (store : DecisionStore) (command : ResolveDecisionConditionCommand)
    (context : CommandContext) : Transaction (DecisionStore × HandlerOutcome) := do
  let root ← orRaise (store.root context.tenantId command.decisionId)
    (.execution "NOT_FOUND_OR_FORBIDDEN")
  raiseIf (root.caseId ≠ command.caseId) (.execution "NOT_FOUND_OR_FORBIDDEN")
  raiseIf (root.outcome ≠ .conditionalGo ∨ root.lifecycle ≠ .finalized)
    (.execution "DECISION_NOT_CONDITIONAL_GO")
  let conditions := store.conditionsOf context.tenantId command.decisionId
  let condition ← orRaise (conditions.find? fun item => item.id = command.conditionId)
    (.execution "DECISION_CONDITION_NOT_FOUND")
  raiseIf (condition.status ≠ .open) (.execution "DECISION_CONDITION_ALREADY_RESOLVED")
  raiseIf (root.aggregateRevision ≠ command.expectedRevision) (.execution "STALE_DECISION_REVISION")
  raiseIf (command.targetStatus = .satisfied ∧ command.evidenceReference.getD "" = "")
    (.execution "CONDITION_EVIDENCE_REQUIRED")
  raiseIf (command.targetStatus = .failed ∧ command.failureReason.getD "" = "")
    (.execution "CONDITION_FAILURE_REASON_REQUIRED")
  let conditionStatus := derivedConditionStatus (conditions.map fun item =>
    if item.id = condition.id then command.targetStatus.status else item.status)
  let membershipId ← orRaise context.membershipId (.execution "DECISION_CONDITION_ALREADY_RESOLVED")
  let evidence := (stripped command.evidenceReference).map fun reference =>
    { reference, recordedAt := isoformat context.receivedAt }
  let failureReason := stripped command.failureReason
  let revision := command.expectedRevision + 1
  let conditionTransitions ← flush (store.conditionTransitions.insert? {
    id := command.transitionId, tenantId := context.tenantId, decisionId := command.decisionId,
    conditionId := command.conditionId, fromStatus := .open, toStatus := command.targetStatus.status,
    satisfiedEvidence := evidence, failureReason, aggregateRevision := revision, membershipId,
    commandId := command.commandId, idempotencyKey := command.idempotencyKey })
  let decisions ← updateRoot store.decisions context.tenantId command.decisionId
    command.expectedRevision (resolvedRoot context conditionStatus)
    (resolvedRoot_columns context conditionStatus) (.execution "STALE_DECISION_REVISION")
  return ({ store with
      decisions, conditionTransitions
      conditions := store.conditions.update (fun row => row.id = condition.id)
        (resolvedCondition command evidence failureReason) (resolvedCondition_columns _ _ _) },
    decisionOutcome command.decisionId revision "DECISION_CONDITION_RESOLVED"
      [{ aggregateType := "DecisionCondition", aggregateId := command.conditionId.str,
         aggregateRevision := revision }]
      "DecisionConditionResolved" [
        ("decision_id", .str command.decisionId.str), ("condition_id", .str command.conditionId.str),
        ("status", .str command.targetStatus.status.value),
        ("condition_status", .str conditionStatus.value)])

end SmartAo.Decision
