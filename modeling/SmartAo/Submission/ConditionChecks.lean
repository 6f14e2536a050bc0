import SmartAo.Decision.ConditionAgreement
import SmartAo.Submission.GateSoundness

namespace SmartAo.Submission

open SmartAo.Foundation SmartAo.Platform SmartAo.Case SmartAo.Dce SmartAo.Decision SmartAo.PatronAction

variable {store : Store} {tenantId caseId : Uuid} {decision : DecisionRecord}

/-- The two condition checks of the gate, on one decision: the recorded status, and the number of open
    conditions. -/
def ChecksAgree (store : DecisionStore) (decision : DecisionRecord) : Prop :=
  let opened := openConditionCount store decision.tenantId decision.id
  if decision.outcome = .conditionalGo then
    (decision.conditionStatus = .satisfied ↔ opened = 0 ∧
      ∀ condition ∈ store.conditionsOf decision.tenantId decision.id, condition.status ≠ .failed)
  else decision.conditionStatus = .notApplicable ∧ opened = 0

/-- What every state of a run is to show of its decisions. -/
structure ConditionalGoAgreement (store : Store) (commits : Uuid → Uuid → Nat) : Prop where
  status : ∀ root ∈ store.decisions.decisions, root.lifecycle = .finalized →
    root.conditionStatus = conditionStatusOf store.decisions root
  once : ∀ first ∈ store.decisions.conditionTransitions, ∀ second ∈ store.decisions.conditionTransitions,
    first.conditionId = second.conditionId → first = second
  revision : ∀ root ∈ store.decisions.decisions, root.aggregateRevision = commits root.tenantId root.id
  checks : ∀ tenantId caseId decision, latestDecision store.decisions tenantId caseId = some decision →
    decision.lifecycle = .finalized → ChecksAgree store.decisions decision

theorem checksAgree (holds : ConditionsAgree store.decisions) (resolved : ResolvedOnce store.decisions)
    (member : decision ∈ store.decisions.decisions) (finalized : decision.lifecycle = .finalized) :
    ChecksAgree store.decisions decision := by
  have shown := holds.status decision member finalized
  have counted : openConditionCount store.decisions decision.tenantId decision.id = 0 ↔
      ∀ condition ∈ store.decisions.conditionsOf decision.tenantId decision.id, condition.status ≠ .open := by
    rw [openConditionCount_zero]
    simp only [DecisionStore.mem_conditionsOf, and_imp]
  unfold ChecksAgree
  dsimp only
  unfold conditionStatusOf at shown
  dsimp only at shown
  by_cases conditional : decision.outcome = .conditionalGo
  · rw [if_pos conditional, shown, if_neg (not_not.mpr conditional), counted]
    by_cases failed : ∃ condition ∈ store.decisions.conditionsOf decision.tenantId decision.id,
        condition.status = .failed
    · rw [if_pos failed]
      obtain ⟨condition, listed, isFailed⟩ := failed
      exact iff_of_false DecisionConditionStatus.noConfusion fun ⟨_, others⟩ => others condition listed isFailed
    · rw [if_neg failed]
      have settled : (∀ condition ∈ store.decisions.conditionsOf decision.tenantId decision.id,
          condition.status = .satisfied ∨ condition.status = .waived) ↔
            (∀ condition ∈ store.decisions.conditionsOf decision.tenantId decision.id, condition.status ≠ .open) ∧
              ∀ condition ∈ store.decisions.conditionsOf decision.tenantId decision.id,
                condition.status ≠ .failed := by
        rw [← forall₂_and]
        refine forall₂_congr fun condition listed => ?_
        have applicable := resolved.applicable condition (DecisionStore.mem_conditionsOf.mp listed).1
        cases status : condition.status <;> simp_all
      rw [← settled]
      split <;> simp_all
  · rw [if_neg conditional, shown, if_pos conditional, counted]
    refine ⟨rfl, fun condition listed _ => ?_⟩
    obtain ⟨stored, tenant, of⟩ := DecisionStore.mem_conditionsOf.mp listed
    obtain ⟨owner, present, _, named, _, isConditional⟩ := holds.owned condition stored
    have row : owner = decision := Table.eq_of_conflict present member (.inl (named.trans of))
    exact conditional (row ▸ isConditional)

/-- Every interleaving in which the finalizations read their roots at the revisions they expect shows
    agreeing conditions, each resolved once, and revisions that count the commits. -/
theorem conditionalGo_agreement (inputs : List (SessionInput Input ConditionCommand))
    (along : Along Decision.interleave (Finishing ReadsExpected) idle inputs) :
    ConditionalGoAgreement (run Decision.interleave idle inputs).store fun tenantId decisionId =>
      tally Decision.interleave (commitsTo tenantId decisionId) idle inputs := by
  have agree := conditionsAgree_run inputs along
  have resolved := resolvedOnce_run inputs
  refine ⟨agree.status, resolved.once, fun root member => revision_run inputs member, ?_⟩
  intro tenantId caseId decision latest finalized
  exact checksAgree agree resolved (latestDecision_some latest).1 finalized

section Concurrent

def frozenFingerprint : String := (freezeOf [caseReference, requirementReference]).fingerprint patronAdmin

def conditionOf (conditionId : Uuid) : ConditionalGoConditionInput :=
  ⟨conditionId, "Caution bancaire", 2, none, some "Date inconnue", "Retrait de l'offre"⟩

def conditionalGo (commandId conditionId : Uuid) (expectedRevision : Nat) : FinalizeGoNoGoDecisionCommand :=
  ⟨⟨commandId, commandId, none⟩, 10, 4, expectedRevision, frozenFingerprint, .conditionalGo, "Accord",
    [conditionOf conditionId]⟩

def failCondition (expectedRevision : Nat) : ResolveDecisionConditionCommand :=
  ⟨⟨25, 25, none⟩, 10, 4, 31, 40, expectedRevision, .failed, none, some "Refus de la banque"⟩

/-- A decision pending at revision one. -/
def pendingCase : List (SessionInput Input ConditionCommand) :=
  (draftedCase ++ [Input.decision (.freeze (freezeOf [caseReference, requirementReference])) patronAdmin]).map .alone

def currentRun : List (SessionInput Input ConditionCommand) := pendingCase ++ [
  .start (.finalize (conditionalGo 23 31 1) patronAdmin), .read 0, .finish 0,
  .start (.resolve (failCondition 2) patronAdmin), .read 0, .read 0, .finish 0]

theorem conditionalGo_agreement_current :
    ConditionalGoAgreement (run Decision.interleave idle currentRun).store fun tenantId decisionId =>
      tally Decision.interleave (commitsTo tenantId decisionId) idle currentRun :=
  conditionalGo_agreement currentRun (by decide +kernel)

/-- A finalization that expects revision three reads the pending root at revision one, and commits after
    another finalization and the failure of its condition. -/
def staleRun : List (SessionInput Input ConditionCommand) := pendingCase ++ [
  .start (.finalize (conditionalGo 24 32 3) patronAdmin), .read 0,
  .alone (.decision (.finalize (conditionalGo 23 31 1)) patronAdmin),
  .alone (.decision (.resolve (failCondition 2)) patronAdmin), .finish 0]

theorem staleRun_disagrees : ¬ ConditionalGoAgreement (run Decision.interleave idle staleRun).store
    fun tenantId decisionId => tally Decision.interleave (commitsTo tenantId decisionId) idle staleRun := by
  intro holds
  have evaluated : ∃ root ∈ (run Decision.interleave idle staleRun).store.decisions.decisions,
      root.lifecycle = .finalized ∧
      root.conditionStatus = .open ∧
        conditionStatusOf (run Decision.interleave idle staleRun).store.decisions root = .failed := by decide +kernel
  obtain ⟨root, member, finalized, recorded, failed⟩ := evaluated
  have shown := holds.status root member finalized
  rw [recorded, failed] at shown
  cases shown

end Concurrent

end SmartAo.Submission
