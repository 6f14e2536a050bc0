import SmartAo.Decision.Effects

namespace SmartAo.Decision

open SmartAo.Foundation SmartAo.Platform SmartAo.Case SmartAo.Dce SmartAo.Pricing SmartAo.PatronAction

variable {store : Store} {context : CommandContext} {result : DecisionStore} {outcome : HandlerOutcome}

def DecisionConditionRecord.settled (condition : DecisionConditionRecord) : Prop :=
  condition.status = .satisfied ∨ condition.status = .waived

/-- A decision whose conditions are recorded as satisfied has no other condition. -/
def ConditionsSettled (store : DecisionStore) : Prop :=
  ∀ root ∈ store.decisions, root.conditionStatus = .satisfied → ∀ condition ∈ store.conditions,
    condition.tenantId = root.tenantId → condition.decisionId = root.id → condition.settled

theorem derivedConditionStatus_satisfied {statuses : List DecisionConditionStatus}
    (derived : derivedConditionStatus statuses = .satisfied) :
    ∀ status ∈ statuses, status = .satisfied ∨ status = .waived := by
  unfold derivedConditionStatus at derived
  split at derived
  · cases derived
  · split at derived
    · rename_i all
      exact all
    · cases derived

theorem conditionDrafts_owned {finalize : FinalizeGoNoGoDecisionCommand} {drafts : List DecisionConditionRecord}
    (drafted : conditionDrafts finalize context = .ok drafts) :
    ∀ draft ∈ drafts, draft.decisionId = finalize.decisionId := by
  simp only [conditionDrafts, bind_ok, raiseIf_ok, exists_unit, pure_ok] at drafted
  obtain ⟨_, _, rfl⟩ := drafted
  intro draft member
  obtain ⟨input, _, rfl⟩ := List.mem_map.mp member
  rfl

theorem settled_finalize {finalize : FinalizeGoNoGoDecisionCommand} (holds : ConditionsSettled store.decisions)
    (executed : finalizeGoNoGoDecision store finalize context = .ok (result, outcome)) :
    ConditionsSettled result := by
  obtain ⟨decision, current, drafts, decisions, conditions, checked, updated, inserted, rfl⟩ :=
    finalizeGoNoGoDecision_ok executed
  intro root member satisfied condition appended tenant owner
  rcases (mem_updateRoot updated checked.root.1 checked.root.2.2).mp member with rfl | ⟨stored, different⟩
  · unfold finalizedRoot at satisfied
    dsimp only at satisfied
    split at satisfied <;> cases satisfied
  · rcases (Table.mem_insertAll? inserted).mp appended with old | new
    · exact holds root stored satisfied condition old tenant owner
    · have named := conditionDrafts_owned checked.drafted condition new
      exact absurd (owner.symm.trans named) different

theorem settled_resolve {resolve : ResolveDecisionConditionCommand} (holds : ConditionsSettled store.decisions)
    (executed : resolveDecisionCondition store.decisions resolve context = .ok (result, outcome)) :
    ConditionsSettled result := by
  obtain ⟨target, condition, evidence, failureReason, decisions, transitions, stored, _, listed, updated, rfl⟩ :=
    resolveDecisionCondition_ok executed
  obtain ⟨present, _, ofDecision⟩ := DecisionStore.mem_conditionsOf.mp listed
  intro root member satisfied other kept tenant owner
  have row : other ∈ store.decisions.conditions.update (fun row => row.id = condition.id)
      (resolvedCondition resolve evidence failureReason) (resolvedCondition_columns _ _ _) := kept
  obtain ⟨old, before, changed⟩ := Table.mem_update.mp row
  rcases (mem_updateRoot updated stored.1 stored.2.2).mp member with rfl | ⟨rootStored, different⟩
  · have all := derivedConditionStatus_satisfied satisfied
    have same : old ∈ store.decisions.conditionsOf context.tenantId resolve.decisionId := by
      rw [DecisionStore.mem_conditionsOf]
      have columns : old.tenantId = other.tenantId ∧ old.decisionId = other.decisionId := by
        rw [← changed]
        split <;> exact ⟨rfl, rfl⟩
      exact ⟨before, columns.1.trans (tenant.trans stored.2.1), columns.2.trans (owner.trans stored.2.2)⟩
    have status := all _ (List.mem_map.mpr ⟨old, same, rfl⟩)
    rw [← changed]
    by_cases resolved : old.id = condition.id
    · rw [if_pos resolved] at status
      rw [if_pos (decide_eq_true resolved)]
      exact status
    · rw [if_neg resolved] at status
      rw [if_neg (by simpa using resolved)]
      exact status
  · by_cases resolved : old.id = condition.id
    · have same : old = condition := Table.eq_of_conflict before present resolved
      rw [if_pos (decide_eq_true resolved), same] at changed
      have named : other.decisionId = resolve.decisionId := by
        rw [← changed]
        exact ofDecision
      exact absurd (owner.symm.trans named) different
    · rw [if_neg (by simpa using resolved)] at changed
      rw [← changed] at tenant owner ⊢
      exact holds root rootStored satisfied old before tenant owner

/-- Every decision command keeps the recorded condition status true to the conditions. -/
theorem settled_preserved {command : DecisionCommand} (holds : ConditionsSettled store.decisions)
    (executed : store.executeDecision context command = .ok (result, outcome)) :
    ConditionsSettled result := by
  cases command with
  | create create =>
    obtain ⟨_, _, decisions, inserted, rfl⟩ := createDecision_ok executed
    intro root member satisfied
    rcases (Table.mem_insert? inserted).mp member with old | rfl
    · exact holds root old satisfied
    · cases satisfied
  | freeze freeze =>
    obtain ⟨decision, _, _, decisions, checked, _, _, updated, rfl⟩ := freezeDecisionContext_ok executed
    intro root member satisfied
    rcases (mem_updateRoot updated checked.root.1 checked.root.2.2).mp member with rfl | ⟨old, _⟩
    · exact holds decision checked.root.1 satisfied
    · exact holds root old satisfied
  | finalize finalize => exact settled_finalize holds executed
  | resolve resolve => exact settled_resolve holds executed

theorem conditionsSettled (inputs : List Input) : ConditionsSettled (run step .empty inputs).decisions := by
  have initial : ConditionsSettled .empty := fun root member => absurd member Table.not_mem_empty
  apply run_decisions initial
  intro store command context result outcome holds executed
  exact settled_preserved holds executed

end SmartAo.Decision
