import SmartAo.Decision.VerifiedContext

namespace SmartAo.Decision

open SmartAo.Foundation SmartAo.Platform SmartAo.Case SmartAo.Dce SmartAo.Pricing SmartAo.PatronAction

variable {store : Store} {context : CommandContext} {result : DecisionStore} {outcome : HandlerOutcome}

/-- Only a freeze writes contexts and references. -/
theorem executeDecision_contexts {command : DecisionCommand}
    (executed : store.executeDecision context command = .ok (result, outcome)) :
    (result.contexts = store.decisions.contexts ∧ result.references = store.decisions.references) ∨
      ∃ freeze decision, command = .freeze freeze ∧ FreezeChecked store freeze context decision ∧
        store.decisions.contexts.insert? (freeze.contextRecord context) = some result.contexts ∧
        store.decisions.references.insertAll? (freeze.referenceRecords context) =
          some result.references := by
  cases command with
  | create create =>
    obtain ⟨_, _, decisions, _, rfl⟩ := createDecision_ok executed
    exact .inl ⟨rfl, rfl⟩
  | freeze freeze =>
    obtain ⟨decision, contexts, references, decisions, checked, first, all, _, rfl⟩ :=
      freezeDecisionContext_ok executed
    exact .inr ⟨freeze, decision, rfl, checked, first, all⟩
  | finalize finalize =>
    obtain ⟨_, _, _, decisions, conditions, _, _, _, rfl⟩ := finalizeGoNoGoDecision_ok executed
    exact .inl ⟨rfl, rfl⟩
  | resolve resolve =>
    obtain ⟨_, _, _, _, decisions, transitions, _, _, _, _, rfl⟩ := resolveDecisionCondition_ok executed
    exact .inl ⟨rfl, rfl⟩

/-- Contexts are numbered one, and every reference belongs to a stored context under the identifier
    derived from what it quotes. -/
structure ContextsSound (store : DecisionStore) : Prop where
  single : ∀ row ∈ store.contexts, row.sequenceNumber = 1
  owned : ∀ reference ∈ store.references, ∃ row ∈ store.contexts,
    row.tenantId = reference.tenantId ∧ row.id = reference.decisionContextId
  keyed : ∀ reference ∈ store.references, reference.id = referenceId (referenceToken
    reference.aggregateType reference.aggregateId reference.aggregateRevision reference.referenceRole)

theorem referenceRecord_keyed (freeze : FreezeDecisionContextCommand)
    (reference : DecisionContextReferenceInput) : (freeze.referenceRecord context reference).id =
      referenceId (referenceToken reference.aggregateType reference.aggregateId
        reference.aggregateRevision (freeze.referenceRecord context reference).referenceRole) := by
  show referenceId reference.token = _
  rw [show (freeze.referenceRecord context reference).referenceRole = reference.referenceRole from
    reference.stripped]
  rfl

theorem contextsSound_preserved {command : DecisionCommand} (sound : ContextsSound store.decisions)
    (executed : store.executeDecision context command = .ok (result, outcome)) :
    ContextsSound result := by
  rcases executeDecision_contexts executed with ⟨sameContexts, sameReferences⟩ |
    ⟨freeze, decision, _, _, first, all⟩
  · refine ⟨?_, ?_, ?_⟩
    · rw [sameContexts]
      exact sound.single
    · rw [sameContexts, sameReferences]
      exact sound.owned
    · rw [sameReferences]
      exact sound.keyed
  · refine ⟨fun row member => ?_, fun reference member => ?_, fun reference member => ?_⟩
    · rcases (Table.mem_insert? first).mp member with old | rfl
      · exact sound.single row old
      · rfl
    · rcases (Table.mem_insertAll? all).mp member with old | new
      · obtain ⟨row, stored, owns⟩ := sound.owned reference old
        exact ⟨row, (Table.mem_insert? first).mpr (.inl stored), owns⟩
      · obtain ⟨input, _, rfl⟩ := List.mem_map.mp new
        exact ⟨freeze.contextRecord context, (Table.mem_insert? first).mpr (.inr rfl), rfl, rfl⟩
    · rcases (Table.mem_insertAll? all).mp member with old | new
      · exact sound.keyed reference old
      · obtain ⟨input, _, rfl⟩ := List.mem_map.mp new
        exact referenceRecord_keyed freeze input

theorem contextsSound (inputs : List Input) : ContextsSound (run step .empty inputs).decisions := by
  have initial : ContextsSound .empty :=
    ⟨fun row member => absurd member Table.not_mem_empty,
      fun reference member => absurd member Table.not_mem_empty,
      fun reference member => absurd member Table.not_mem_empty⟩
  apply run_decisions initial
  intro store command context result outcome sound executed
  exact contextsSound_preserved sound executed

/-- A decision has at most one context. -/
theorem ContextsSound.unique {store : DecisionStore} (sound : ContextsSound store)
    {tenantId decisionId : Uuid} {first second : DecisionContextRecord}
    (hf : first ∈ store.contextsOf tenantId decisionId)
    (hs : second ∈ store.contextsOf tenantId decisionId) : first = second := by
  obtain ⟨storedFirst, tenantFirst, decisionFirst⟩ := DecisionStore.mem_contextsOf.mp hf
  obtain ⟨storedSecond, tenantSecond, decisionSecond⟩ := DecisionStore.mem_contextsOf.mp hs
  refine Table.eq_of_conflict storedFirst storedSecond (.inr ?_)
  show (first.tenantId, first.decisionId, first.sequenceNumber) =
    (second.tenantId, second.decisionId, second.sequenceNumber)
  rw [tenantFirst, tenantSecond, decisionFirst, decisionSecond, sound.single first storedFirst,
    sound.single second storedSecond]

/-- The requirement references of a context a freeze has just appended are those of the command. -/
theorem ContextsSound.frozen_requirementReferences {store : DecisionStore}
    {freeze : FreezeDecisionContextCommand} (sound : ContextsSound store) (result : DecisionStore)
    (first : store.contexts.insert? (freeze.contextRecord context) = some result.contexts)
    (all : store.references.insertAll? (freeze.referenceRecords context) = some result.references) :
    result.requirementReferences context.tenantId freeze.contextId =
      (freeze.references.filter fun reference => reference.aggregateType = .dceRequirement).map
        (freeze.referenceRecord context) := by
  have none_before : store.requirementReferences context.tenantId freeze.contextId = [] := by
    rw [List.eq_nil_iff_forall_not_mem]
    intro reference member
    obtain ⟨stored, tenant, named, _⟩ := DecisionStore.mem_requirementReferences.mp member
    obtain ⟨row, kept, owner, same⟩ := sound.owned reference stored
    exact Table.insert?_absent first row kept (.inl (same.trans named))
  unfold DecisionStore.requirementReferences at none_before ⊢
  rw [Table.insertAll?_rows all, List.filter_append, none_before, List.nil_append,
    FreezeDecisionContextCommand.referenceRecords, List.filter_map]
  congr 1
  refine List.filter_congr fun reference _ => ?_
  rw [Bool.eq_iff_iff]
  simp only [Function.comp, decide_eq_true_eq]
  exact ⟨fun ⟨_, _, requirement⟩ => requirement, fun requirement => ⟨rfl, rfl, requirement⟩⟩

/-- The references of contexts stored before a freeze stay the same. -/
theorem kept_requirementReferences {store result : DecisionStore} {freeze : FreezeDecisionContextCommand}
    (first : store.contexts.insert? (freeze.contextRecord context) = some result.contexts)
    (all : store.references.insertAll? (freeze.referenceRecords context) = some result.references)
    {row : DecisionContextRecord} (stored : row ∈ store.contexts) (tenantId : Uuid) :
    result.requirementReferences tenantId row.id = store.requirementReferences tenantId row.id := by
  unfold DecisionStore.requirementReferences
  rw [Table.insertAll?_rows all, List.filter_append]
  have different : row.id ≠ freeze.contextId := fun same =>
    Table.insert?_absent first row stored (.inl same)
  have none_new : (freeze.referenceRecords context).filter (fun reference => decide
      (reference.tenantId = tenantId ∧ reference.decisionContextId = row.id ∧
        reference.aggregateType = .dceRequirement)) = [] := by
    rw [List.filter_eq_nil_iff]
    intro reference new
    obtain ⟨input, _, rfl⟩ := List.mem_map.mp new
    simp only [decide_eq_true_eq, not_and]
    exact fun _ same => absurd same.symm different
  rw [none_new, List.append_nil]

/-- The roots after a command: a new draft, or an old root, unchanged or moved by one command. -/
theorem executeDecision_roots {command : DecisionCommand} {row : DecisionRecord}
    (executed : store.executeDecision context command = .ok (result, outcome))
    (member : row ∈ result.decisions) :
    row ∈ store.decisions.decisions ∨
      (row.lifecycle = .draft ∧ row.outcome = .undecided ∧ row.validity = .current) ∨
      ∃ old ∈ store.decisions.decisions, old.id = row.id ∧ old.tenantId = row.tenantId ∧
        ((∃ freeze, command = .freeze freeze ∧ FreezeChecked store freeze context old ∧
            row = frozenRoot context old) ∨
          (∃ finalize current drafts, command = .finalize finalize ∧
            FinalizeChecked store finalize context old current drafts ∧
            row = finalizedRoot finalize context current.id old) ∨
          (∃ status, old.lifecycle = .finalized ∧ row = resolvedRoot context status old)) := by
  cases command with
  | create create =>
    obtain ⟨_, _, decisions, inserted, rfl⟩ := createDecision_ok executed
    rcases (Table.mem_insert? inserted).mp member with old | rfl
    · exact .inl old
    · exact .inr (.inl ⟨rfl, rfl, rfl⟩)
  | freeze freeze =>
    obtain ⟨decision, contexts, references, decisions, checked, _, _, updated, rfl⟩ :=
      freezeDecisionContext_ok executed
    rcases (mem_updateRoot updated checked.root.1 checked.root.2.2).mp member with rfl | ⟨old, _⟩
    · exact .inr (.inr ⟨decision, checked.root.1, rfl, rfl, .inl ⟨freeze, rfl, checked, rfl⟩⟩)
    · exact .inl old
  | finalize finalize =>
    obtain ⟨decision, current, drafts, decisions, conditions, checked, updated, _, rfl⟩ :=
      finalizeGoNoGoDecision_ok executed
    rcases (mem_updateRoot updated checked.root.1 checked.root.2.2).mp member with rfl | ⟨old, _⟩
    · exact .inr (.inr ⟨decision, checked.root.1, rfl, rfl,
        .inr (.inl ⟨finalize, current, drafts, rfl, checked, rfl⟩)⟩)
    · exact .inl old
  | resolve resolve =>
    obtain ⟨root, condition, _, _, decisions, transitions, stored, finalized, _, updated, rfl⟩ :=
      resolveDecisionCondition_ok executed
    rcases (mem_updateRoot updated stored.1 stored.2.2).mp member with rfl | ⟨old, _⟩
    · exact .inr (.inr ⟨root, stored.1, rfl, rfl, .inr (.inr ⟨_, finalized, rfl⟩)⟩)
    · exact .inl old

/-- A draft is undecided and current. -/
def DraftsUndecided (store : DecisionStore) : Prop :=
  ∀ row ∈ store.decisions, row.lifecycle = .draft → row.outcome = .undecided ∧ row.validity = .current

theorem draftsUndecided (inputs : List Input) : DraftsUndecided (run step .empty inputs).decisions := by
  have preserved : ∀ (store : Store) command context result outcome, DraftsUndecided store.decisions →
      store.executeDecision context command = .ok (result, outcome) → DraftsUndecided result := by
    intro store command context result outcome undecided executed row member draft
    rcases executeDecision_roots executed member with old | ⟨_, fresh⟩ | ⟨old, _, _, _, moved⟩
    · exact undecided row old draft
    · exact fresh
    · rcases moved with ⟨_, _, _, rfl⟩ | ⟨_, _, _, _, _, rfl⟩ | ⟨_, finalized, rfl⟩
      · cases draft
      · cases draft
      · rw [show old.lifecycle = .draft from draft] at finalized
        cases finalized
  exact run_decisions (fun row member => absurd member Table.not_mem_empty) preserved inputs

end SmartAo.Decision
