import SmartAo.Decision.Runs

namespace SmartAo.Decision

open SmartAo.Foundation SmartAo.Platform SmartAo.Case SmartAo.Dce SmartAo.Pricing SmartAo.PatronAction

variable {store : Store} {context : CommandContext} {result : DecisionStore} {outcome : HandlerOutcome}

/-- A created decision is one new draft row. -/
theorem createDecision_ok {command : CreateDecisionCommand}
    (accepted : createDecision store command context = .ok (result, outcome)) :
    ∃ scopeFingerprint cycleNumber decisions, store.decisions.decisions.insert?
        (draftDecision command context scopeFingerprint cycleNumber) = some decisions ∧
      { store.decisions with decisions } = result := by
  simp only [createDecision, bind_ok, raiseIf_ok, exists_unit, pure_ok, Prod.mk.injEq,
    orRaise_ok] at accepted
  obtain ⟨case, _, _, _, decisions, inserted, same, _⟩ := accepted
  exact ⟨_, _, decisions, inserted, same⟩

/-- What the checks of a freeze leave true. -/
structure FreezeChecked (store : Store) (command : FreezeDecisionContextCommand)
    (context : CommandContext) (decision : DecisionRecord) : Prop where
  root : decision ∈ store.decisions.decisions ∧ decision.tenantId = context.tenantId ∧
    decision.id = command.decisionId
  case : decision.caseId = command.caseId
  type : decision.decisionType = .goNoGo
  draft : decision.lifecycle = .draft
  incomplete : decision.contextStatus = .incomplete
  contexts : store.decisions.contextsOf context.tenantId command.decisionId = []
  revision : decision.aggregateRevision = command.expectedRevision
  quotesCase : ∃ reference ∈ command.references, reference.aggregateType = .case ∧
    reference.aggregateId = command.caseId
  quotesRequirement : caseHasApplicableDce store context.tenantId command.caseId →
    ∃ reference ∈ command.references, reference.aggregateType = .dceRequirement
  valid : ∀ reference ∈ command.references, reference.isValid store context.tenantId command.caseId

theorem freezeChecks_ok {command : FreezeDecisionContextCommand} {done : Unit} :
    freezeChecks store command context = .ok done ↔
      ∃ decision, FreezeChecked store command context decision := by
  simp only [freezeChecks, bind_ok, raiseIf_ok, exists_unit, orRaise_ok, Decidable.not_not, not_or,
    DecisionStore.root_some]
  constructor
  · rintro ⟨decision, root, case, ⟨type, draft, incomplete, contexts⟩, revision, quotesCase,
      requirement, valid⟩
    refine ⟨decision, root, case, type, draft, incomplete, contexts, revision, quotesCase, ?_, ?_⟩
    · intro applicable
      by_contra missing
      exact requirement ⟨applicable, missing⟩
    · intro reference member
      by_contra refused
      exact valid ⟨reference, member, refused⟩
  · rintro ⟨decision, checked⟩
    refine ⟨decision, checked.root, checked.case, ⟨checked.type, checked.draft, checked.incomplete,
      checked.contexts⟩, checked.revision, checked.quotesCase, ?_, ?_⟩
    · rintro ⟨applicable, missing⟩
      exact missing (checked.quotesRequirement applicable)
    · rintro ⟨reference, member, refused⟩
      exact refused (checked.valid reference member)

/-- An accepted freeze passed its checks, appended one context and its references, and moved its
    root to the patron. -/
theorem freezeDecisionContext_ok {command : FreezeDecisionContextCommand} :
    freezeDecisionContext store command context = .ok (result, outcome) →
      ∃ decision contexts references decisions, FreezeChecked store command context decision ∧
        store.decisions.contexts.insert? (command.contextRecord context) = some contexts ∧
        store.decisions.references.insertAll? (command.referenceRecords context) = some references ∧
        updateRoot store.decisions.decisions context.tenantId command.decisionId
          command.expectedRevision (frozenRoot context) (frozenRoot_columns context)
          (.execution "STALE_DECISION_REVISION") = .ok decisions ∧
        { store.decisions with decisions, contexts, references } = result := by
  intro accepted
  simp only [freezeDecisionContext, bind_ok, exists_unit, pure_ok, Prod.mk.injEq, flush, orRaise_ok,
    freezeChecks_ok] at accepted
  obtain ⟨⟨decision, checked⟩, contexts, first, references, all, decisions, updated, same, _⟩ :=
    accepted
  exact ⟨decision, contexts, references, decisions, checked, first, all, updated, same⟩

/-- What the checks of a finalization leave true. -/
structure FinalizeChecked (store : Store) (command : FinalizeGoNoGoDecisionCommand)
    (context : CommandContext) (decision : DecisionRecord) (current : DecisionContextRecord)
    (drafts : List DecisionConditionRecord) : Prop where
  patron : (context.actorKind = .patronAdmin ∨ context.actorKind = .patronDelegate) ∧
    context.membershipId ≠ none
  root : decision ∈ store.decisions.decisions ∧ decision.tenantId = context.tenantId ∧
    decision.id = command.decisionId
  case : decision.caseId = command.caseId
  type : decision.decisionType = .goNoGo
  pending : decision.lifecycle = .pendingPatron
  undecided : decision.outcome = .undecided
  valid : decision.validity = .current
  frozen : decision.contextStatus = .frozen
  last : (store.decisions.contextsOf context.tenantId command.decisionId).getLast? = some current
  displayed : current.contextState = .frozen ∧
    lower current.contextFingerprint = lower command.displayedFingerprint
  references : store.decisions.referencesOf context.tenantId command.decisionId ≠ []
  conditional : command.outcome = .conditionalGo ↔ command.conditions.isEmpty = false
  drafted : conditionDrafts command context = .ok drafts
  confirmed : hasConfirmedDceRequirements store context.tenantId current.id command.caseId

theorem finalizeChecks_ok {command : FinalizeGoNoGoDecisionCommand} {current : DecisionContextRecord}
    {drafts : List DecisionConditionRecord} :
    finalizeChecks store command context = .ok (current, drafts) ↔
      ∃ decision, FinalizeChecked store command context decision current drafts := by
  simp only [finalizeChecks, bind_ok, raiseIf_ok, exists_unit, orRaise_ok, Decidable.not_not, not_or,
    DecisionStore.root_some, pure_ok, Prod.mk.injEq]
  constructor
  · rintro ⟨⟨kind, member⟩, decision, root, case, ⟨type, pending, undecided, valid, frozen⟩, found, last,
      displayed, references, unconditional, conditional, rows, drafted, confirmed, same, sameRows⟩
    subst same sameRows
    refine ⟨decision, ⟨?_, member⟩, root, case, type, pending, undecided, valid, frozen, last, displayed,
      references, ?_, drafted, confirmed⟩
    · exact Decidable.or_iff_not_not_and_not.mpr kind
    · constructor
      · intro go
        exact Bool.eq_false_iff.mpr fun empty => conditional ⟨go, empty⟩
      · intro listed
        by_contra other
        exact unconditional ⟨other, listed⟩
  · rintro ⟨decision, checked⟩
    refine ⟨⟨Decidable.or_iff_not_not_and_not.mp checked.patron.1, checked.patron.2⟩, decision,
      checked.root, checked.case, ⟨checked.type, checked.pending, checked.undecided, checked.valid,
        checked.frozen⟩, current, checked.last, checked.displayed, checked.references, ?_, ?_, drafts,
      checked.drafted, checked.confirmed, rfl, rfl⟩
    · rintro ⟨other, listed⟩
      exact other (checked.conditional.mpr listed)
    · rintro ⟨go, empty⟩
      rw [checked.conditional.mp go] at empty
      cases empty

/-- An accepted finalization passed its checks, settled its root and appended its conditions. -/
theorem finalizeGoNoGoDecision_ok {command : FinalizeGoNoGoDecisionCommand}
    (accepted : finalizeGoNoGoDecision store command context = .ok (result, outcome)) :
    ∃ decision current drafts decisions conditions,
      FinalizeChecked store command context decision current drafts ∧
        updateRoot store.decisions.decisions context.tenantId command.decisionId
          command.expectedRevision (finalizedRoot command context current.id)
          (finalizedRoot_columns command context current.id)
          (.execution "STALE_DECISION_REVISION") = .ok decisions ∧
        store.decisions.conditions.insertAll? drafts = some conditions ∧
        { store.decisions with decisions, conditions } = result := by
  simp only [finalizeGoNoGoDecision, bind_ok, Prod.exists, finalizeChecks_ok, pure_ok, Prod.mk.injEq,
    flush, orRaise_ok] at accepted
  obtain ⟨current, drafts, ⟨decision, checked⟩, decisions, updated, conditions, inserted, same, _⟩ :=
    accepted
  exact ⟨decision, current, drafts, decisions, conditions, checked, updated, inserted, same⟩

theorem finalizeGoNoGoDecision_accepted {command : FinalizeGoNoGoDecisionCommand}
    {decision : DecisionRecord} {current : DecisionContextRecord} {drafts : List DecisionConditionRecord}
    (checked : FinalizeChecked store command context decision current drafts)
    (revision : decision.aggregateRevision = command.expectedRevision)
    (fresh : (store.decisions.conditions.insertAll? drafts).isSome) :
    ∃ result outcome, finalizeGoNoGoDecision store command context = .ok (result, outcome) := by
  obtain ⟨conditions, inserted⟩ := Option.isSome_iff_exists.mp fresh
  obtain ⟨decisions, updated⟩ : ∃ decisions, updateRoot store.decisions.decisions context.tenantId
      command.decisionId command.expectedRevision (finalizedRoot command context current.id)
      (finalizedRoot_columns command context current.id) (.execution "STALE_DECISION_REVISION") =
        .ok decisions :=
    updateRoot_accepted checked.root.1 ⟨checked.root.2.1, checked.root.2.2, revision⟩
  simp only [finalizeGoNoGoDecision, bind_ok, Prod.exists, finalizeChecks_ok, pure_ok, Prod.mk.injEq,
    flush, orRaise_ok]
  exact ⟨_, _, current, drafts, ⟨decision, checked⟩, decisions, updated, conditions, inserted, rfl, rfl⟩

/-- An accepted resolution changed one open condition and derived the status of its root. -/
theorem resolveDecisionCondition_ok {store : DecisionStore} {command : ResolveDecisionConditionCommand}
    (accepted : resolveDecisionCondition store command context = .ok (result, outcome)) :
    ∃ root condition evidence failureReason decisions transitions,
      (root ∈ store.decisions ∧ root.tenantId = context.tenantId ∧ root.id = command.decisionId) ∧
        root.lifecycle = .finalized ∧
        condition ∈ store.conditionsOf context.tenantId command.decisionId ∧
        updateRoot store.decisions context.tenantId command.decisionId command.expectedRevision
          (resolvedRoot context (derivedConditionStatus
            ((store.conditionsOf context.tenantId command.decisionId).map fun item =>
              if item.id = condition.id then command.targetStatus.status else item.status)))
          (resolvedRoot_columns context _) (.execution "STALE_DECISION_REVISION") = .ok decisions ∧
        { store with
          decisions
          conditionTransitions := transitions
          conditions := store.conditions.update (fun row => row.id = condition.id)
            (resolvedCondition command evidence failureReason)
            (resolvedCondition_columns _ _ _) } = result := by
  simp only [resolveDecisionCondition, bind_ok, raiseIf_ok, exists_unit, orRaise_ok,
    Decidable.not_not, not_or, DecisionStore.root_some, pure_ok, Prod.mk.injEq, flush] at accepted
  obtain ⟨root, stored, _, ⟨_, finalized⟩, condition, found, _, _, _, _, _, _, transitions, _, decisions,
    updated, same, _⟩ := accepted
  exact ⟨root, condition, _, _, decisions, transitions, stored, finalized, List.mem_of_find?_eq_some found,
    updated, same⟩

end SmartAo.Decision
