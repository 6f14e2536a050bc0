import SmartAo.Decision.Finalize

namespace SmartAo.Submission

open SmartAo.Foundation SmartAo.Platform SmartAo.Case SmartAo.Dce SmartAo.Decision SmartAo.PatronAction

inductive SubmissionGateStatus where
  | ready
  | blocked
deriving DecidableEq

structure DecisionSubmissionGateSnapshot where
  lifecycle : DecisionLifecycle
  outcome : DecisionOutcome
  contextStatus : DecisionContextStatus
  conditionStatus : DecisionConditionStatus
  openConditionCount : Nat
  unresolvedRiskActionCount : Nat
  allDceRequirementsConfirmed : Bool

structure DecisionSubmissionGateResult where
  status : SubmissionGateStatus
  reasons : List String

def DecisionSubmissionGateResult.canSubmit (result : DecisionSubmissionGateResult) : Bool :=
  result.status = .ready

def reasonIf (condition : Prop) [Decidable condition] (reason : String) : List String :=
  if condition then [reason] else []

/-- The reasons a snapshot is refused for; its counts are natural numbers. -/
def gateReasons (snapshot : DecisionSubmissionGateSnapshot) : List String :=
  reasonIf (snapshot.allDceRequirementsConfirmed ≠ true) "INVALID_DECISION_SNAPSHOT" ++
  reasonIf (snapshot.lifecycle ≠ .finalized) "DECISION_NOT_FINALIZED" ++
  (if snapshot.outcome = .noGo then ["NO_GO_DECISION"]
    else reasonIf (snapshot.outcome ≠ .go ∧ snapshot.outcome ≠ .conditionalGo)
      "DECISION_OUTCOME_NOT_SUBMITTABLE") ++
  reasonIf (snapshot.contextStatus ≠ .frozen) "DECISION_CONTEXT_NOT_FROZEN" ++
  reasonIf (snapshot.allDceRequirementsConfirmed = false) "DCE_REQUIREMENTS_NOT_CONFIRMED" ++
  (if snapshot.outcome = .conditionalGo then
      reasonIf (snapshot.conditionStatus ≠ .satisfied ∨ snapshot.openConditionCount ≠ 0)
        "CONDITIONAL_GO_OPEN_CONDITIONS"
    else reasonIf (snapshot.conditionStatus ≠ .notApplicable ∨ snapshot.openConditionCount ≠ 0)
      "UNEXPECTED_OPEN_CONDITIONS") ++
  reasonIf (snapshot.unresolvedRiskActionCount ≠ 0) "UNRESOLVED_RISK_ACTIONS"

def evaluateSubmissionGate (snapshot : DecisionSubmissionGateSnapshot) : DecisionSubmissionGateResult where
  status := if gateReasons snapshot = [] then .ready else .blocked
  reasons := gateReasons snapshot

/-- The latest current GO/NO-GO decision of a case. The scope of a case never changes, so its
    decisions share one key, which repeats no cycle number. -/
def latestDecision (store : DecisionStore) (tenantId caseId : Uuid) : Option DecisionRecord :=
  store.decisions.latest (fun row => row.tenantId = tenantId ∧ row.caseId = caseId ∧
    row.decisionType = .goNoGo ∧ row.validity = .current) (·.cycleNumber)

/-- `_all_dce_requirements_confirmed`: no selected context, or no applicable version, is a refusal. -/
def allDceRequirementsConfirmed (store : Store) (tenantId caseId : Uuid) : Option Uuid → Bool
  | none => false
  | some contextId =>
    match store.applicableVersion tenantId caseId with
    | none => false
    | some dceVersionId =>
      let ids := store.decisions.requirementIds tenantId contextId
      ids = [] ∨ (confirmedRequirements store.dce tenantId dceVersionId ids).length = ids.length

def openConditionCount (store : DecisionStore) (tenantId decisionId : Uuid) : Nat :=
  (store.conditions.rows.filter fun row => row.tenantId = tenantId ∧ row.decisionId = decisionId ∧
    row.status = .open).length

def isLinkAction (tenantId caseId : Uuid) (link : DecisionRiskRequirementLinkRecord)
    (action : PatronActionRecord) : Bool :=
  action.tenantId = tenantId ∧ action.caseId = some caseId ∧
    action.functionalKey = linkActionKey link.id

/-- A link without its action, or whose action is neither completed nor abandoned. -/
def unresolved (store : ActionStore) (tenantId : Uuid) (action : Option PatronActionRecord) : Bool :=
  action.all fun action =>
    let state := ((store.latestTransition tenantId action.id).map (·.toState)).getD action.state
    ¬ (state = .completed ∨ state = .abandoned)

def linksOf (store : RiskStore) (tenantId caseId : Uuid) : List DecisionRiskRequirementLinkRecord :=
  store.links.rows.filter fun link => link.tenantId = tenantId ∧ link.caseId = caseId

def unresolvedRiskActionCount (store : Store) (tenantId caseId : Uuid) : Nat :=
  ((Table.outerJoin (linksOf store.risks tenantId caseId) store.actions.actions
    (isLinkAction tenantId caseId)).filter fun pair => unresolved store.actions tenantId pair.2).length

/-- `SqlAlchemySubmissionDecisionGateReader.read`. -/
def readDecisionGate (store : Store) (tenantId caseId : Uuid) : Option DecisionSubmissionGateSnapshot :=
  (latestDecision store.decisions tenantId caseId).map fun decision => {
    lifecycle := decision.lifecycle
    outcome := decision.outcome
    contextStatus := decision.contextStatus
    conditionStatus := decision.conditionStatus
    openConditionCount := openConditionCount store.decisions tenantId decision.id
    unresolvedRiskActionCount := unresolvedRiskActionCount store tenantId caseId
    allDceRequirementsConfirmed :=
      allDceRequirementsConfirmed store tenantId caseId decision.selectedFinalContextId }

abbrev SubmissionDecisionGateReader := Store → Uuid → Uuid → Option DecisionSubmissionGateSnapshot

/-- The gate of the preparation and of the export of a submission package. -/
def assertDecisionGate (reader : Option SubmissionDecisionGateReader) (store : Store)
    (tenantId caseId : Uuid) : Transaction Unit := do
  let read ← orRaise reader (.execution "DECISION_GATE_NOT_CONFIGURED")
  let snapshot ← orRaise (read store tenantId caseId) (.execution "DECISION_GATE_NOT_AVAILABLE")
  raiseIf ((evaluateSubmissionGate snapshot).canSubmit = false) (.execution "DECISION_SUBMISSION_BLOCKED")

theorem reasonIf_nil {condition : Prop} [Decidable condition] {reason : String} :
    reasonIf condition reason = [] ↔ ¬ condition := by
  unfold reasonIf
  split <;> simp_all

/-- A snapshot passes when the decision is finalized on a frozen context as GO, or as CONDITIONAL_GO
    with its conditions satisfied, and nothing is left open. -/
theorem canSubmit_iff {snapshot : DecisionSubmissionGateSnapshot} :
    (evaluateSubmissionGate snapshot).canSubmit = true ↔
      snapshot.lifecycle = .finalized ∧ snapshot.contextStatus = .frozen ∧
        snapshot.allDceRequirementsConfirmed = true ∧ snapshot.openConditionCount = 0 ∧
        snapshot.unresolvedRiskActionCount = 0 ∧
        ((snapshot.outcome = .go ∧ snapshot.conditionStatus = .notApplicable) ∨
          (snapshot.outcome = .conditionalGo ∧ snapshot.conditionStatus = .satisfied)) := by
  have ready : (evaluateSubmissionGate snapshot).canSubmit = true ↔ gateReasons snapshot = [] := by
    unfold DecisionSubmissionGateResult.canSubmit evaluateSubmissionGate
    by_cases none : gateReasons snapshot = [] <;> simp [none]
  rw [ready]
  simp only [gateReasons, List.append_eq_nil_iff, reasonIf_nil, Decidable.not_not, Bool.not_eq_false]
  cases snapshot.outcome <;> simp [reasonIf_nil] <;> grind

end SmartAo.Submission
