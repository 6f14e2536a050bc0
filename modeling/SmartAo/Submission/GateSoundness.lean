import SmartAo.Submission.DecisionGate
import SmartAo.Decision.Conditions
import SmartAo.Decision.Freshness

namespace SmartAo.Submission

open SmartAo.Foundation SmartAo.Platform SmartAo.Case SmartAo.Dce SmartAo.Decision SmartAo.PatronAction

/-- What a passed gate is to mean of the decision it read. -/
structure Submittable (store : Store) (tenantId caseId : Uuid) (decision : DecisionRecord)
    (contextId : Uuid) : Prop where
  latest : latestDecision store.decisions tenantId caseId = some decision
  finalized : decision.lifecycle = .finalized
  approved : decision.outcome = .go ∨ (decision.outcome = .conditionalGo ∧
    ∀ condition ∈ store.decisions.conditions, condition.tenantId = tenantId →
      condition.decisionId = decision.id → condition.settled)
  selected : decision.selectedFinalContextId = some contextId
  covered : ∃ reference ∈ store.decisions.requirementReferences tenantId contextId,
    ∃ requirement ∈ store.dce.requirements, requirement.tenantId = tenantId ∧
      requirement.id = reference.aggregateId ∧
      store.applicableVersion tenantId caseId = some requirement.dceVersionId
  confirmed : ∀ reference ∈ store.decisions.requirementReferences tenantId contextId,
    ∃ dceVersionId, store.applicableVersion tenantId caseId = some dceVersionId ∧
      requirementIsConfirmed store.dce tenantId reference.aggregateId dceVersionId
  actions : ∀ link ∈ store.risks.links, link.tenantId = tenantId → link.caseId = caseId →
    ∃ action ∈ store.actions.actions, isLinkAction tenantId caseId link action ∧ action.state.closed

/-- The selected final context of the latest decision quotes a DCE requirement. -/
def quotesRequirement (store : Store) (tenantId caseId : Uuid) : Bool :=
  ((latestDecision store.decisions tenantId caseId).bind (·.selectedFinalContextId)).any fun contextId =>
    store.decisions.requirementReferences tenantId contextId ≠ []

variable {store : Store} {tenantId caseId : Uuid}

theorem allDceRequirementsConfirmed_iff {selected : Option Uuid} :
    allDceRequirementsConfirmed store tenantId caseId selected = true ↔ ∃ contextId,
      selected = some contextId ∧ hasConfirmedDceRequirements store tenantId contextId caseId = true := by
  cases selected with
  | none => simp [allDceRequirementsConfirmed]
  | some contextId =>
    have same : allDceRequirementsConfirmed store tenantId caseId (some contextId) =
        hasConfirmedDceRequirements store tenantId contextId caseId := rfl
    simp [same]

theorem openConditionCount_zero {decisions : DecisionStore} {decisionId : Uuid} :
    openConditionCount decisions tenantId decisionId = 0 ↔ ∀ condition ∈ decisions.conditions,
      condition.tenantId = tenantId → condition.decisionId = decisionId → condition.status ≠ .open := by
  unfold openConditionCount
  rw [List.length_eq_zero_iff, List.filter_eq_nil_iff]
  simp only [decide_eq_true_eq, not_and, Table.mem_rows, ne_eq]

theorem unresolvedRiskActionCount_zero (projected : Projected store.actions) :
    unresolvedRiskActionCount store tenantId caseId = 0 ↔ ∀ link ∈ store.risks.links,
      link.tenantId = tenantId → link.caseId = caseId → ∃ action ∈ store.actions.actions,
        isLinkAction tenantId caseId link action ∧ action.state.closed := by
  have resolved : ∀ action ∈ store.actions.actions, action.tenantId = tenantId →
      (unresolved store.actions tenantId (some action) = false ↔ action.state.closed = true) := by
    intro action stored tenant
    have state := projected.currentState stored
    rw [tenant] at state
    simp [unresolved, state, PatronActionState.closed, or_iff_not_imp_left]
  have unique : ∀ {link : DecisionRiskRequirementLinkRecord} {first second : PatronActionRecord},
      isLinkAction tenantId caseId link first = true → isLinkAction tenantId caseId link second = true →
        Schema.Conflict first second := by
    intro link first second hf hs
    simp only [isLinkAction, decide_eq_true_eq] at hf hs
    refine .inr ?_
    show (first.tenantId, first.functionalKey) = (second.tenantId, second.functionalKey)
    rw [hf.1, hs.1, hf.2.2, hs.2.2]
  have joined : (∀ pair ∈ Table.outerJoin (linksOf store.risks tenantId caseId) store.actions.actions
        (isLinkAction tenantId caseId), ∃ action, pair.2 = some action ∧
          unresolved store.actions tenantId (some action) = false) ↔
      ∀ link ∈ linksOf store.risks tenantId caseId, ∃ action ∈ store.actions.actions,
        isLinkAction tenantId caseId link action = true ∧
          unresolved store.actions tenantId (some action) = false :=
    Table.outerJoin_all (fun _ action => unresolved store.actions tenantId (some action) = false) unique
  have shape : ∀ pair : DecisionRiskRequirementLinkRecord × Option PatronActionRecord,
      ¬ unresolved store.actions tenantId pair.2 = true ↔
        ∃ action, pair.2 = some action ∧ unresolved store.actions tenantId (some action) = false := by
    rintro ⟨link, action⟩
    cases action with
    | none => simp [unresolved]
    | some action => simp
  unfold unresolvedRiskActionCount
  rw [List.length_eq_zero_iff, List.filter_eq_nil_iff]
  simp only [shape]
  rw [joined]
  simp only [linksOf, List.mem_filter, decide_eq_true_eq, Table.mem_rows, and_imp]
  refine forall₄_congr fun link stored tenant same => exists_congr fun action => ?_
  refine and_congr_right fun present => and_congr_right fun matched => ?_
  simp only [isLinkAction, decide_eq_true_eq] at matched
  exact resolved action present matched.1

theorem latestDecision_some {decisions : DecisionStore} {decision : DecisionRecord}
    (found : latestDecision decisions tenantId caseId = some decision) : decision ∈ decisions.decisions ∧
      decision.tenantId = tenantId ∧ decision.caseId = caseId := by
  obtain ⟨stored, matched⟩ := Table.latest_mem found
  simp only [decide_eq_true_eq] at matched
  exact ⟨stored, matched.1, matched.2.1⟩

/-- What a passed gate does say: all of it but that a requirement is quoted. -/
theorem assertDecisionGate_passed (settled : ConditionsSettled store.decisions)
    (projected : Projected store.actions)
    (passed : assertDecisionGate (some readDecisionGate) store tenantId caseId = .ok ()) :
    ∃ decision contextId, latestDecision store.decisions tenantId caseId = some decision ∧
      decision.selectedFinalContextId = some contextId ∧
      hasConfirmedDceRequirements store tenantId contextId caseId = true ∧
      (store.decisions.requirementReferences tenantId contextId ≠ [] →
        Submittable store tenantId caseId decision contextId) := by
  simp only [assertDecisionGate, bind_ok, orRaise_ok, Option.some.injEq, exists_eq_left', raiseIf_ok,
    Bool.not_eq_false, canSubmit_iff, readDecisionGate, Option.map_eq_some_iff] at passed
  obtain ⟨_, ⟨decision, found, rfl⟩, finalized, _, all, open_zero, actions_zero, approved⟩ := passed
  obtain ⟨contextId, selected, confirmed⟩ := allDceRequirementsConfirmed_iff.mp all
  obtain ⟨version, applicable, _, each⟩ := hasConfirmedDceRequirements_iff.mp confirmed
  have quoted : ∀ reference ∈ store.decisions.requirementReferences tenantId contextId,
      requirementIsConfirmed store.dce tenantId reference.aggregateId version :=
    fun reference member => each _ (List.mem_map.mpr ⟨reference, member, rfl⟩)
  obtain ⟨stored, tenant, _⟩ := latestDecision_some found
  refine ⟨decision, contextId, found, selected, confirmed, fun some_quoted => ?_⟩
  refine ⟨found, finalized, ?_, selected, ?_, fun reference member => ⟨version, applicable, quoted reference member⟩,
    (unresolvedRiskActionCount_zero projected).mp actions_zero⟩
  · rcases approved with ⟨go, _⟩ | ⟨conditional, satisfied⟩
    · exact .inl go
    · refine .inr ⟨conditional, fun condition member owner of => ?_⟩
      exact settled decision stored satisfied condition member (owner.trans tenant.symm) of
  · obtain ⟨reference, member⟩ := List.exists_mem_of_ne_nil _ some_quoted
    obtain ⟨requirement, known, ⟨owner, named, ofVersion⟩, _⟩ :=
      requirementIsConfirmed_iff.mp (quoted reference member)
    exact ⟨reference, member, requirement, known, owner, named, by rw [applicable, ofVersion]⟩

theorem quotesRequirement_of {decision : DecisionRecord} {contextId : Uuid}
    (found : latestDecision store.decisions tenantId caseId = some decision)
    (selected : decision.selectedFinalContextId = some contextId) :
    quotesRequirement store tenantId caseId = true ↔
      store.decisions.requirementReferences tenantId contextId ≠ [] := by
  unfold quotesRequirement
  rw [found, Option.bind_some, selected, Option.any_some, decide_eq_true_eq]

theorem Submittable.quotes {decision : DecisionRecord} {contextId : Uuid}
    (holds : Submittable store tenantId caseId decision contextId) :
    quotesRequirement store tenantId caseId = true := by
  obtain ⟨reference, member, _⟩ := holds.covered
  rw [quotesRequirement_of holds.latest holds.selected]
  exact List.ne_nil_of_mem member

/-- Where the gate passes, the decision is submittable exactly when its selected context quotes a
    requirement. -/
theorem gate_submittable_iff (inputs : List Input)
    (passed : assertDecisionGate (some readDecisionGate) (run step .empty inputs) tenantId caseId = .ok ()) :
    (∃ decision contextId, Submittable (run step .empty inputs) tenantId caseId decision contextId) ↔
      quotesRequirement (run step .empty inputs) tenantId caseId = true := by
  obtain ⟨decision, contextId, found, selected, _, submittable⟩ :=
    assertDecisionGate_passed (conditionsSettled inputs) (run_projected inputs) passed
  constructor
  · rintro ⟨decision, contextId, holds⟩
    exact holds.quotes
  · intro quotes
    have some_quoted := (quotesRequirement_of found selected).mp quotes
    exact ⟨decision, contextId, submittable some_quoted⟩

section Passing

def oneRoleRun : List Input := draftedCase ++ [
  .decision (.freeze (freezeOf [caseReference, requirementReference])) patronAdmin,
  .decision (.finalize (finalizeOf (freezeOf [caseReference, requirementReference]))) patronAdmin]

theorem gate_submittable_oneRole : ∃ decision contextId,
    Submittable (run step .empty oneRoleRun) 1 4 decision contextId := by
  have evaluated : assertDecisionGate (some readDecisionGate) (run step .empty oneRoleRun) 1 4 = .ok () ∧
      quotesRequirement (run step .empty oneRoleRun) 1 4 = true := by decide +kernel
  exact (gate_submittable_iff oneRoleRun evaluated.1).mpr evaluated.2

/-- The context was frozen before the version was admitted: the gate passes on no requirement at all. -/
def lateRun : List Input := admittedRun ++ [
  .decision (.finalize (finalizeOf (freezeOf [unversionedReference]))) patronAdmin]

theorem lateRun_not_submittable :
    caseHasApplicableDce (run step .empty lateRun) 1 4 = true ∧
      assertDecisionGate (some readDecisionGate) (run step .empty lateRun) 1 4 = .ok () ∧
      ¬ ∃ decision contextId, Submittable (run step .empty lateRun) 1 4 decision contextId := by
  have evaluated : caseHasApplicableDce (run step .empty lateRun) 1 4 = true ∧
      assertDecisionGate (some readDecisionGate) (run step .empty lateRun) 1 4 = .ok () ∧
      quotesRequirement (run step .empty lateRun) 1 4 = false := by decide +kernel
  refine ⟨evaluated.1, evaluated.2.1, fun ⟨decision, contextId, holds⟩ => ?_⟩
  have quotes := holds.quotes
  rw [evaluated.2.2] at quotes
  cases quotes

end Passing

end SmartAo.Submission
