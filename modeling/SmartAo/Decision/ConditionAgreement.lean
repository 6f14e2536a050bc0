import SmartAo.Decision.ConditionSessions
import SmartAo.Decision.Conditions

namespace SmartAo.Decision

open SmartAo.Foundation SmartAo.Platform SmartAo.Case SmartAo.Dce SmartAo.Pricing SmartAo.PatronAction

/-- What the conditions of a decision make of its status. -/
def conditionStatusOf (store : DecisionStore) (root : DecisionRecord) : DecisionConditionStatus :=
  let conditions := store.conditionsOf root.tenantId root.id
  if root.outcome ≠ .conditionalGo then .notApplicable
  else if ∃ condition ∈ conditions, condition.status = .failed then .failed
  else if ∀ condition ∈ conditions, condition.status = .satisfied ∨ condition.status = .waived then .satisfied
  else .open

/-- Conditions belong to finalized conditional decisions, and every finalized decision shows their status. -/
structure ConditionsAgree (store : DecisionStore) : Prop where
  owned : ∀ condition ∈ store.conditions, ∃ root ∈ store.decisions, root.tenantId = condition.tenantId ∧
    root.id = condition.decisionId ∧ root.lifecycle = .finalized ∧ root.outcome = .conditionalGo
  status : ∀ root ∈ store.decisions, root.lifecycle = .finalized →
    root.conditionStatus = conditionStatusOf store root

/-- A condition with a transition is resolved, and by that transition alone. -/
structure ResolvedOnce (store : DecisionStore) : Prop where
  applicable : ∀ condition ∈ store.conditions, condition.status ≠ .notApplicable
  resolved : ∀ transition ∈ store.conditionTransitions, ∃ condition ∈ store.conditions,
    condition.id = transition.conditionId ∧ condition.status ≠ .open
  once : ∀ first ∈ store.conditionTransitions, ∀ second ∈ store.conditionTransitions,
    first.conditionId = second.conditionId → first = second

/-- One commit on a decision: its root moves one revision on, and the conditions of the others stay. -/
structure RootWrite (old new : DecisionStore) (root changed : DecisionRecord) : Prop where
  stored : root ∈ old.decisions
  tenant : changed.tenantId = root.tenantId
  id : changed.id = root.id
  raised : changed.aggregateRevision = root.aggregateRevision + 1
  decisions : ∀ other, other ∈ new.decisions ↔ other = changed ∨ (other ∈ old.decisions ∧ other.id ≠ root.id)
  conditions : ∀ condition, ¬ (condition.tenantId = root.tenantId ∧ condition.decisionId = root.id) →
    (condition ∈ new.conditions ↔ condition ∈ old.conditions)

/-- The roots of a store stay, at no lower revision; at the same one nothing of the decision moved. -/
def Later (old new : DecisionStore) : Prop :=
  ∀ root ∈ old.decisions, ∃ now ∈ new.decisions, now.tenantId = root.tenantId ∧ now.id = root.id ∧
    root.aggregateRevision ≤ now.aggregateRevision ∧ (now.aggregateRevision = root.aggregateRevision →
      now = root ∧ ∀ condition, condition.tenantId = root.tenantId → condition.decisionId = root.id →
        (condition ∈ new.conditions ↔ condition ∈ old.conditions))

variable {old new third : DecisionStore} {root changed : DecisionRecord}

theorem Later.refl (store : DecisionStore) : Later store store :=
  fun root member => ⟨root, member, rfl, rfl, le_refl _, fun _ => ⟨rfl, fun _ _ _ => Iff.rfl⟩⟩

theorem Later.trans (first : Later old new) (second : Later new third) : Later old third := by
  intro root member
  obtain ⟨now, kept, tenant, id, grown, same⟩ := first root member
  obtain ⟨last, stays, lastTenant, lastId, lastGrown, lastSame⟩ := second now kept
  refine ⟨last, stays, lastTenant.trans tenant, lastId.trans id, grown.trans lastGrown, fun revision => ?_⟩
  obtain ⟨rfl, conditions⟩ := same (by omega)
  obtain ⟨rfl, lastConditions⟩ := lastSame revision
  exact ⟨rfl, fun condition owner of => (lastConditions condition owner of).trans (conditions condition owner of)⟩

/-- A root that shows the revision of an older one is that row, with the conditions it had. -/
theorem Later.same (later : Later old new) (member : root ∈ old.decisions) {now : DecisionRecord}
    (stored : now ∈ new.decisions) (id : now.id = root.id)
    (revision : now.aggregateRevision = root.aggregateRevision) : now = root ∧
      ∀ condition, condition ∈ new.conditionsOf root.tenantId root.id ↔
        condition ∈ old.conditionsOf root.tenantId root.id := by
  obtain ⟨kept, present, _, sameId, _, same⟩ := later root member
  have row : kept = now := Table.eq_of_conflict present stored (.inl (sameId.trans id.symm))
  subst row
  obtain ⟨rfl, conditions⟩ := same revision
  refine ⟨rfl, fun condition => ?_⟩
  rw [DecisionStore.mem_conditionsOf, DecisionStore.mem_conditionsOf]
  constructor
  · rintro ⟨listed, owner, of⟩
    exact ⟨(conditions condition owner of).mp listed, owner, of⟩
  · rintro ⟨listed, owner, of⟩
    exact ⟨(conditions condition owner of).mpr listed, owner, of⟩

theorem RootWrite.later (write : RootWrite old new root changed) : Later old new := by
  intro other member
  by_cases same : other.id = root.id
  · have row : other = root := Table.eq_of_conflict member write.stored (.inl same)
    subst row
    have raised := write.raised
    refine ⟨changed, (write.decisions _).mpr (.inl rfl), write.tenant, write.id, by omega, fun revision => ?_⟩
    omega
  · refine ⟨other, (write.decisions _).mpr (.inr ⟨member, same⟩), rfl, rfl, le_refl _, fun _ => ⟨rfl, ?_⟩⟩
    intro condition owner of
    exact write.conditions condition fun ⟨_, named⟩ => same (of.symm.trans named)

/-- A guarded update of a root, in a commit that leaves the conditions of the other decisions. -/
theorem rootWrite_of_update {tenantId decisionId : Uuid} {revision : Nat} {change : DecisionRecord → DecisionRecord}
    {keeps : ∀ row, Schema.columns (change row) = Schema.columns row} {conflict : CommandError}
    (updated : updateRoot old.decisions tenantId decisionId revision change keeps conflict = .ok new.decisions)
    (raised : ∀ row, (change row).aggregateRevision = row.aggregateRevision + 1)
    (conditions : ∀ condition, ¬ (condition.tenantId = tenantId ∧ condition.decisionId = decisionId) →
      (condition ∈ new.conditions ↔ condition ∈ old.conditions)) :
    ∃ root, root.tenantId = tenantId ∧ root.id = decisionId ∧ root.aggregateRevision = revision ∧
      RootWrite old new root (change root) := by
  obtain ⟨⟨root, stored, tenant, id, expected⟩, _⟩ := updateRoot_ok.mp updated
  change root.tenantId = tenantId at tenant
  change root.id = decisionId at id
  subst tenant id
  have columns : ((change root).id, (change root).tenantId, (change root).decisionKeyHash,
    (change root).cycleNumber) = (root.id, root.tenantId, root.decisionKeyHash, root.cycleNumber) := keeps root
  simp only [Prod.mk.injEq] at columns
  exact ⟨root, rfl, rfl, expected, stored, columns.2.1, columns.1, raised root,
    fun other => mem_updateRoot updated stored rfl, conditions⟩

theorem RootWrite.others (write : RootWrite old new root changed) {other : DecisionRecord}
    (different : other.id ≠ root.id) (condition : DecisionConditionRecord) :
    condition ∈ new.conditionsOf other.tenantId other.id ↔ condition ∈ old.conditionsOf other.tenantId other.id := by
  rw [DecisionStore.mem_conditionsOf, DecisionStore.mem_conditionsOf]
  refine and_congr_left fun ⟨_, of⟩ => write.conditions condition ?_
  exact fun ⟨_, named⟩ => different (of.symm.trans named)

theorem conditionStatusOf_congr (same : ∀ condition, condition ∈ new.conditionsOf root.tenantId root.id ↔
      condition ∈ old.conditionsOf root.tenantId root.id) :
    conditionStatusOf new root = conditionStatusOf old root := by
  simp only [conditionStatusOf, same]

theorem derivedConditionStatus_congr {statuses others : List DecisionConditionStatus}
    (same : ∀ status, status ∈ statuses ↔ status ∈ others) :
    derivedConditionStatus statuses = derivedConditionStatus others := by
  simp only [derivedConditionStatus, same]

/-- The status of a conditional decision is the one the handler derives from all its conditions. -/
theorem conditionStatusOf_conditional {store : DecisionStore} (conditional : root.outcome = .conditionalGo) :
    conditionStatusOf store root =
      derivedConditionStatus ((store.conditionsOf root.tenantId root.id).map (·.status)) := by
  simp only [conditionStatusOf, derivedConditionStatus, conditional, ne_eq, not_true_eq_false, if_false,
    List.mem_map, forall_exists_index, and_imp, forall_apply_eq_imp_iff₂]

theorem conditionDrafts_rows {finalize : FinalizeGoNoGoDecisionCommand} {context : CommandContext}
    {drafts : List DecisionConditionRecord} (drafted : conditionDrafts finalize context = .ok drafts) :
    finalize.conditions.map (ConditionalGoConditionInput.record context.tenantId finalize.decisionId) = drafts := by
  simp only [conditionDrafts, bind_ok, raiseIf_ok, exists_unit, pure_ok] at drafted
  exact drafted.2.2

/-- A commit on a decision keeps the agreement when it does so for that decision. -/
theorem ConditionsAgree.write (holds : ConditionsAgree old) (write : RootWrite old new root changed)
    (owned : ∀ condition ∈ new.conditions, condition.tenantId = root.tenantId → condition.decisionId = root.id →
      changed.lifecycle = .finalized ∧ changed.outcome = .conditionalGo)
    (status : changed.lifecycle = .finalized → changed.conditionStatus = conditionStatusOf new changed) :
    ConditionsAgree new := by
  refine ⟨fun condition member => ?_, fun other member finalized => ?_⟩
  · by_cases here : condition.tenantId = root.tenantId ∧ condition.decisionId = root.id
    · have settled := owned condition member here.1 here.2
      exact ⟨changed, (write.decisions _).mpr (.inl rfl), write.tenant.trans here.1.symm,
        write.id.trans here.2.symm, settled⟩
    · obtain ⟨owner, stored, tenant, id, settled⟩ := holds.owned condition ((write.conditions _ here).mp member)
      refine ⟨owner, (write.decisions _).mpr (.inr ⟨stored, fun same => here ?_⟩), tenant, id, settled⟩
      have row : owner = root := Table.eq_of_conflict stored write.stored (.inl same)
      exact ⟨by rw [← tenant, row], by rw [← id, row]⟩
  · rcases (write.decisions other).mp member with rfl | ⟨stored, different⟩
    · exact status finalized
    · rw [holds.status other stored finalized, conditionStatusOf_congr (write.others different)]

variable {view : Nat → Store} {store result : DecisionStore} {context : CommandContext} {outcome : HandlerOutcome}

theorem finalizeSession_write {command : FinalizeGoNoGoDecisionCommand}
    (accepted : finalizeSession view store command context = .ok (result, outcome)) :
    ∃ root contextId, root.tenantId = context.tenantId ∧ root.id = command.decisionId ∧
      root.aggregateRevision = command.expectedRevision ∧
      RootWrite store result root (finalizedRoot command context contextId root) ∧
      ∀ condition, condition ∈ result.conditions ↔ condition ∈ store.conditions ∨ ∃ input ∈ command.conditions,
        input.record context.tenantId command.decisionId = condition := by
  obtain ⟨_, contextId, drafts, decisions, conditions, _, _, _, drafted, updated, inserted, rfl⟩ :=
    finalizeSession_ok accepted
  have added : ∀ condition, condition ∈ conditions ↔ condition ∈ store.conditions ∨
      ∃ input ∈ command.conditions, input.record context.tenantId command.decisionId = condition := by
    intro condition
    rw [Table.mem_insertAll? inserted, ← conditionDrafts_rows drafted, List.mem_map]
  have others : ∀ condition : DecisionConditionRecord,
      ¬ (condition.tenantId = context.tenantId ∧ condition.decisionId = command.decisionId) →
        (condition ∈ conditions ↔ condition ∈ store.conditions) := by
    intro condition elsewhere
    refine (added condition).trans (or_iff_left ?_)
    rintro ⟨input, _, same⟩
    exact elsewhere ⟨by rw [← same]; rfl, by rw [← same]; rfl⟩
  obtain ⟨root, tenant, id, revision, write⟩ :=
    @rootWrite_of_update store { store with decisions, conditions } _ _ _ _ _ _ updated (fun _ => rfl) others
  exact ⟨root, contextId, tenant, id, revision, write, added⟩

theorem resolveSession_write {command : ResolveDecisionConditionCommand}
    (accepted : resolveSession view store command context = .ok (result, outcome)) :
    ∃ root locked evidence failureReason, root.tenantId = context.tenantId ∧ root.id = command.decisionId ∧
      root.aggregateRevision = command.expectedRevision ∧
      (locked ∈ store.conditions ∧ locked.tenantId = root.tenantId ∧ locked.decisionId = root.id ∧
        locked.status = .open) ∧
      RootWrite store result root (resolvedRoot context (derivedConditionStatus
        (((view 3).decisions.conditionsOf root.tenantId root.id).map fun item =>
          if item.id = locked.id then command.targetStatus.status else item.status)) root) ∧
      (∀ condition, condition ∈ result.conditions ↔ ∃ old ∈ store.conditions,
        (if old.id = locked.id then resolvedCondition command evidence failureReason old else old) = condition) ∧
      ∃ transition, transition.conditionId = locked.id ∧
        store.conditionTransitions.insert? transition = some result.conditionTransitions := by
  obtain ⟨_, locked, evidence, failureReason, transition, decisions, transitions, _, _, _, _, lock, resolves,
    inserted, updated, rfl⟩ := resolveSession_ok accepted
  obtain ⟨present, owner, of, _, unresolved⟩ := lock
  have rows : ∀ condition, condition ∈ store.conditions.update (fun row => row.id = locked.id)
      (resolvedCondition command evidence failureReason) (resolvedCondition_columns _ _ _) ↔
        ∃ old ∈ store.conditions,
          (if old.id = locked.id then resolvedCondition command evidence failureReason old else old) = condition := by
    intro condition
    rw [Table.mem_update]
    simp only [decide_eq_true_eq]
  have others : ∀ condition : DecisionConditionRecord,
      ¬ (condition.tenantId = context.tenantId ∧ condition.decisionId = command.decisionId) →
        (condition ∈ store.conditions.update (fun row => row.id = locked.id)
          (resolvedCondition command evidence failureReason) (resolvedCondition_columns _ _ _) ↔
            condition ∈ store.conditions) := by
    intro condition elsewhere
    rw [rows]
    constructor
    · rintro ⟨old, stored, changed⟩
      by_cases named : old.id = locked.id
      · have same : old = locked := Table.eq_of_conflict stored present named
        rw [if_pos named, same] at changed
        exact absurd ⟨by rw [← changed]; exact owner, by rw [← changed]; exact of⟩ elsewhere
      · rw [if_neg named] at changed
        exact changed ▸ stored
    · intro stored
      refine ⟨condition, stored, if_neg fun named => elsewhere ?_⟩
      have same : condition = locked := Table.eq_of_conflict stored present named
      exact same ▸ ⟨owner, of⟩
  obtain ⟨root, tenant, id, revision, write⟩ := @rootWrite_of_update store { store with
      decisions
      conditionTransitions := transitions
      conditions := store.conditions.update (fun row => row.id = locked.id)
        (resolvedCondition command evidence failureReason) (resolvedCondition_columns _ _ _) }
    _ _ _ _ _ _ updated (fun _ => rfl) others
  rw [← tenant, ← id] at write
  exact ⟨root, locked, evidence, failureReason, tenant, id, revision,
    ⟨present, owner.trans tenant.symm, of.trans id.symm, unresolved⟩, write, rows, transition, resolves, inserted⟩

/-- A finalization that read its root at the revision it expects found the decision without conditions. -/
theorem conditionsAgree_finalize {command : FinalizeGoNoGoDecisionCommand} (holds : ConditionsAgree store)
    (seen : Later (view 0).decisions store)
    (expected : ∀ root, (view 0).decisions.root context.tenantId command.decisionId = some root →
      root.aggregateRevision = command.expectedRevision)
    (accepted : finalizeSession view store command context = .ok (result, outcome)) : ConditionsAgree result := by
  obtain ⟨read, _, _, _, _, found, pending, conditional, _⟩ := finalizeSession_ok accepted
  obtain ⟨root, contextId, tenant, id, revision, write, added⟩ := finalizeSession_write accepted
  obtain ⟨present, _, readId⟩ := DecisionStore.root_some.mp found
  obtain ⟨rfl, _⟩ := seen.same present write.stored (id.trans readId.symm) (revision.trans (expected _ found).symm)
  have none_before : ∀ condition ∈ store.conditions, condition.tenantId = root.tenantId →
      condition.decisionId ≠ root.id := by
    intro condition member _ of
    obtain ⟨owner, stored, _, named, settled, _⟩ := holds.owned condition member
    have row : owner = root := Table.eq_of_conflict stored write.stored (.inl (named.trans of))
    rw [row, pending] at settled
    cases settled
  have mine : ∀ condition, condition ∈ result.conditionsOf root.tenantId root.id ↔
      ∃ input ∈ command.conditions, input.record context.tenantId command.decisionId = condition := by
    intro condition
    rw [DecisionStore.mem_conditionsOf, added]
    constructor
    · rintro ⟨old | new, owner, of⟩
      · exact absurd of (none_before condition old owner)
      · exact new
    · rintro ⟨input, listed, same⟩
      refine ⟨.inr ⟨input, listed, same⟩, ?_, ?_⟩
      · rw [← same, tenant]; rfl
      · rw [← same, id]; rfl
  refine holds.write write (fun condition member owner of => ⟨rfl, ?_⟩) fun _ => ?_
  · obtain ⟨input, listed, _⟩ := (mine condition).mp (DecisionStore.mem_conditionsOf.mpr ⟨member, owner, of⟩)
    have go := conditional.mpr (List.ne_nil_of_mem listed)
    show command.outcome.outcome = .conditionalGo
    rw [go]
    rfl
  · by_cases go : command.outcome = .conditionalGo
    · have outcome_eq : (finalizedRoot command context contextId root).outcome = .conditionalGo := by
        show command.outcome.outcome = .conditionalGo
        rw [go]
        rfl
      rw [conditionStatusOf_conditional outcome_eq]
      have opened : ∀ status, status ∈ (result.conditionsOf root.tenantId root.id).map (·.status) ↔
          status ∈ [DecisionConditionStatus.open] := by
        intro status
        rw [List.mem_map, List.mem_singleton]
        constructor
        · rintro ⟨condition, listed, shown⟩
          obtain ⟨input, _, rfl⟩ := (mine condition).mp listed
          exact shown.symm
        · intro same
          obtain ⟨input, listed⟩ := List.exists_mem_of_ne_nil _ (conditional.mp go)
          exact ⟨_, (mine _).mpr ⟨input, listed, rfl⟩, same.symm⟩
      show (if command.outcome = .conditionalGo then _ else _) = _
      rw [if_pos go]
      exact (derivedConditionStatus_congr opened).symm
    · have other : (finalizedRoot command context contextId root).outcome ≠ .conditionalGo := by
        show command.outcome.outcome ≠ .conditionalGo
        cases outcome_eq : command.outcome with
        | conditionalGo => exact absurd outcome_eq go
        | go => exact DecisionOutcome.noConfusion
        | noGo => exact DecisionOutcome.noConfusion
      show (if command.outcome = .conditionalGo then _ else _) = _
      rw [if_neg go, conditionStatusOf, if_pos other]

/-- A resolution read the root at the revision it finds, hence the conditions the store still has. -/
theorem conditionsAgree_resolve {command : ResolveDecisionConditionCommand} (holds : ConditionsAgree store)
    (seen : Later (view 0).decisions (view 3).decisions) (last : Later (view 3).decisions store)
    (accepted : resolveSession view store command context = .ok (result, outcome)) : ConditionsAgree result := by
  obtain ⟨read, _, _, _, _, _, _, found, conditional, finalized, expected, _⟩ := resolveSession_ok accepted
  obtain ⟨root, locked, evidence, failureReason, tenant, id, revision, lock, write, rows, _⟩ :=
    resolveSession_write accepted
  obtain ⟨present, _, readId⟩ := DecisionStore.root_some.mp found
  have kept : read ∈ (view 3).decisions.decisions := by
    obtain ⟨middle, stored, _, middleId, grown, same⟩ := seen read present
    obtain ⟨final, stays, _, finalId, finalGrown, _⟩ := last middle stored
    have row : final = root := Table.eq_of_conflict stays write.stored
      (.inl ((finalId.trans middleId).trans (readId.trans id.symm)))
    subst row
    obtain ⟨rfl, _⟩ := same (by omega)
    exact stored
  obtain ⟨rfl, conditions⟩ := last.same kept write.stored (id.trans readId.symm) (revision.trans expected.symm)
  refine holds.write write (fun _ _ _ _ => ⟨finalized, conditional⟩) fun _ => ?_
  have outcome_eq : (resolvedRoot context (derivedConditionStatus
      (((view 3).decisions.conditionsOf root.tenantId root.id).map fun item =>
        if item.id = locked.id then command.targetStatus.status else item.status)) root).outcome =
      .conditionalGo := conditional
  rw [conditionStatusOf_conditional outcome_eq]
  refine derivedConditionStatus_congr fun status => ?_
  rw [List.mem_map, List.mem_map]
  constructor
  · rintro ⟨old, listed, shown⟩
    obtain ⟨stored, owner, of⟩ := DecisionStore.mem_conditionsOf.mp ((conditions old).mpr listed)
    refine ⟨_, DecisionStore.mem_conditionsOf.mpr ⟨(rows _).mpr ⟨old, stored, rfl⟩, ?_, ?_⟩, ?_⟩
    · split <;> exact owner
    · split <;> exact of
    · rw [← shown]
      split <;> rfl
  · rintro ⟨condition, listed, shown⟩
    obtain ⟨member, owner, of⟩ := DecisionStore.mem_conditionsOf.mp listed
    obtain ⟨old, stored, rfl⟩ := (rows condition).mp member
    refine ⟨old, (conditions old).mp (DecisionStore.mem_conditionsOf.mpr ⟨stored, ?_, ?_⟩), ?_⟩
    · split at owner <;> exact owner
    · split at of <;> exact of
    · rw [← shown]
      split <;> rfl

theorem ConditionCommand.execute_write {command : ConditionCommand}
    (accepted : command.execute view store = .ok (result, outcome)) :
    ∃ root changed, command.target = (root.tenantId, root.id) ∧ RootWrite store result root changed := by
  cases command with
  | finalize command context =>
    obtain ⟨root, contextId, tenant, id, _, write, _⟩ := finalizeSession_write accepted
    exact ⟨root, _, by rw [tenant, id]; rfl, write⟩
  | resolve command context =>
    obtain ⟨root, _, _, _, tenant, id, _, _, write, _⟩ := resolveSession_write accepted
    exact ⟨root, _, by rw [tenant, id]; rfl, write⟩

theorem freezeDecisionContext_write {store : Store} {command : FreezeDecisionContextCommand}
    (accepted : freezeDecisionContext store command context = .ok (result, outcome)) :
    ∃ root, root.tenantId = context.tenantId ∧ root.id = command.decisionId ∧ root.lifecycle = .draft ∧
      RootWrite store.decisions result root (frozenRoot context root) ∧
      result.conditions = store.decisions.conditions ∧
      result.conditionTransitions = store.decisions.conditionTransitions := by
  obtain ⟨read, contexts, references, decisions, checked, _, _, updated, rfl⟩ := freezeDecisionContext_ok accepted
  obtain ⟨root, tenant, id, _, write⟩ := @rootWrite_of_update store.decisions
    { store.decisions with decisions, contexts, references } _ _ _ _ _ _ updated (fun _ => rfl)
      (fun _ _ => Iff.rfl)
  have row : root = read := Table.eq_of_conflict write.stored checked.root.1 (.inl (id.trans checked.root.2.2.symm))
  exact ⟨root, tenant, id, row ▸ checked.draft, write, rfl, rfl⟩

/-- What an input alone does to the decision tables. -/
inductive DecisionStep (store next : Store) : Input → Prop where
  | unmoved {input : Input} (target : input.target = none) (same : next.decisions = store.decisions) :
    DecisionStep store next input
  | created {input : Input} (row : DecisionRecord) (decisions : Table DecisionRecord)
    (target : input.target = none) (draft : row.lifecycle = .draft) (first : row.aggregateRevision = 0)
    (inserted : store.decisions.decisions.insert? row = some decisions)
    (same : next.decisions = { store.decisions with decisions }) : DecisionStep store next input
  | frozen (command : FreezeDecisionContextCommand) (context : CommandContext) (outcome : HandlerOutcome)
    (accepted : freezeDecisionContext store command context = .ok (next.decisions, outcome)) :
    DecisionStep store next (.decision (.freeze command) context)
  | executed (command : ConditionCommand) (outcome : HandlerOutcome)
    (accepted : command.execute (fun _ => store) store.decisions = .ok (next.decisions, outcome)) :
    DecisionStep store next command.input

theorem step_decisionStep {store next : Store} {input : Input} (accepted : step store input = .ok next) :
    DecisionStep store next input := by
  cases input with
  | case write =>
    obtain ⟨cases, _, rfl⟩ := step_case.mp accepted
    exact .unmoved rfl rfl
  | dce write =>
    obtain ⟨dce, _, rfl⟩ := step_dce.mp accepted
    exact .unmoved rfl rfl
  | foreign sources snapshots =>
    cases accepted
    exact .unmoved rfl rfl
  | risk command context =>
    obtain ⟨risks, actions, outcome, _, rfl⟩ := step_risk.mp accepted
    exact .unmoved rfl rfl
  | action command context =>
    obtain ⟨actions, outcome, _, rfl⟩ := step_action.mp accepted
    exact .unmoved rfl rfl
  | pricing command context =>
    obtain ⟨pricing, outcome, _, rfl⟩ := step_pricing.mp accepted
    exact .unmoved rfl rfl
  | decision command context =>
    obtain ⟨decisions, outcome, executed, rfl⟩ := step_decision.mp accepted
    cases command with
    | create command =>
      obtain ⟨scope, cycle, decisions, inserted, rfl⟩ := createDecision_ok executed
      exact .created _ decisions rfl rfl rfl inserted rfl
    | freeze command => exact .frozen command context outcome executed
    | finalize command =>
      exact .executed (.finalize command context) outcome ((finalizeSession_alone _ _ _).trans executed)
    | resolve command =>
      exact .executed (.resolve command context) outcome ((resolveSession_alone _ _ _).trans executed)

theorem later_created {row : DecisionRecord} {decisions : Table DecisionRecord}
    (inserted : store.decisions.insert? row = some decisions) : Later store { store with decisions } := by
  intro root member
  exact ⟨root, (Table.mem_insert? inserted).mpr (.inl member), rfl, rfl, le_refl _, fun _ =>
    ⟨rfl, fun _ _ _ => Iff.rfl⟩⟩

theorem step_later {store next : Store} {input : Input} (accepted : step store input = .ok next) :
    Later store.decisions next.decisions := by
  cases step_decisionStep accepted with
  | unmoved _ same => exact same ▸ Later.refl _
  | created row decisions _ _ _ inserted same => exact same ▸ later_created inserted
  | frozen command context outcome written =>
    obtain ⟨root, _, _, _, write, _⟩ := freezeDecisionContext_write written
    exact write.later
  | executed command outcome written =>
    obtain ⟨root, changed, _, write⟩ := command.execute_write written
    exact write.later

/-- A finalization reads its root at the revision it expects. -/
def ReadsExpected (session : Session Store ConditionCommand) (store : Store) : Prop :=
  match session.command with
  | .finalize command context =>
    ∀ root ∈ (session.view store 0).decisions.root context.tenantId command.decisionId,
      root.aggregateRevision = command.expectedRevision
  | .resolve _ _ => True

instance (session : Session Store ConditionCommand) (store : Store) :
    Decidable (ReadsExpected session store) := by
  unfold ReadsExpected
  split <;> infer_instance

theorem conditionsAgree_created {row : DecisionRecord} {decisions : Table DecisionRecord}
    (holds : ConditionsAgree store) (draft : row.lifecycle = .draft)
    (inserted : store.decisions.insert? row = some decisions) : ConditionsAgree { store with decisions } := by
  refine ⟨fun condition member => ?_, fun root member finalized => ?_⟩
  · obtain ⟨root, stored, owns⟩ := holds.owned condition member
    exact ⟨root, (Table.mem_insert? inserted).mpr (.inl stored), owns⟩
  · rcases (Table.mem_insert? inserted).mp member with old | rfl
    · exact holds.status root old finalized
    · rw [draft] at finalized
      cases finalized

theorem conditionsAgree_freeze {store : Store} {command : FreezeDecisionContextCommand}
    (holds : ConditionsAgree store.decisions)
    (accepted : freezeDecisionContext store command context = .ok (result, outcome)) : ConditionsAgree result := by
  obtain ⟨root, _, _, draft, write, conditions, _⟩ := freezeDecisionContext_write accepted
  refine holds.write write (fun condition member owner of => ?_) fun finalized => ?_
  · obtain ⟨other, stored, tenant, id, settled, _⟩ := holds.owned condition (conditions ▸ member)
    have row : other = root := Table.eq_of_conflict stored write.stored (.inl (id.trans of))
    rw [row, draft] at settled
    cases settled
  · cases finalized

theorem conditionsAgree_execute {store : Store} {command : ConditionCommand}
    (holds : ConditionsAgree store.decisions)
    (seen : Later (view 0).decisions (view 3).decisions ∧ Later (view 3).decisions store.decisions)
    (expected : ∀ finalize context, command = .finalize finalize context →
      ∀ root, (view 0).decisions.root context.tenantId finalize.decisionId = some root →
        root.aggregateRevision = finalize.expectedRevision)
    (accepted : command.execute view store.decisions = .ok (result, outcome)) : ConditionsAgree result := by
  cases command with
  | finalize finalize context =>
    exact conditionsAgree_finalize holds (seen.1.trans seen.2) (expected finalize context rfl) accepted
  | resolve resolve context => exact conditionsAgree_resolve holds seen.1 seen.2 accepted

/-- Alone, a finalization that is accepted has read its root at the revision it expects. -/
theorem executed_expected {store : Store} {command : ConditionCommand}
    (accepted : command.execute (fun _ => store) store.decisions = .ok (result, outcome))
    (finalize : FinalizeGoNoGoDecisionCommand) (context : CommandContext) (same : command = .finalize finalize context)
    (root : DecisionRecord) (found : store.decisions.root context.tenantId finalize.decisionId = some root) :
    root.aggregateRevision = finalize.expectedRevision := by
  subst same
  obtain ⟨stored, contextId, tenant, id, revision, write, _⟩ := finalizeSession_write accepted
  obtain ⟨present, _, named⟩ := DecisionStore.root_some.mp found
  have row : root = stored := Table.eq_of_conflict present write.stored (.inl (named.trans id.symm))
  rw [row, revision]

theorem conditionsAgree_step {store next : Store} {input : Input} (holds : ConditionsAgree store.decisions)
    (accepted : step store input = .ok next) : ConditionsAgree next.decisions := by
  cases step_decisionStep accepted with
  | unmoved _ same => exact same ▸ holds
  | created row decisions _ draft _ inserted same => exact same ▸ conditionsAgree_created holds draft inserted
  | frozen command context outcome written => exact conditionsAgree_freeze holds written
  | executed command outcome written =>
    exact conditionsAgree_execute holds ⟨Later.refl _, Later.refl _⟩ (executed_expected written) written

theorem resolvedOnce_resolve {command : ResolveDecisionConditionCommand} (holds : ResolvedOnce store)
    (accepted : resolveSession view store command context = .ok (result, outcome)) : ResolvedOnce result := by
  obtain ⟨root, locked, evidence, failureReason, _, _, _, lock, _, rows, transition, resolves, inserted⟩ :=
    resolveSession_write accepted
  have fresh : ∀ other ∈ store.conditionTransitions, other.conditionId ≠ locked.id := by
    intro other member same
    obtain ⟨condition, stored, named, settled⟩ := holds.resolved other member
    have row : condition = locked := Table.eq_of_conflict stored lock.1 (named.trans same)
    exact settled (row ▸ lock.2.2.2)
  refine ⟨fun condition member => ?_, fun other member => ?_, fun first memberFirst second memberSecond same => ?_⟩
  · obtain ⟨old, stored, rfl⟩ := (rows condition).mp member
    split
    · show command.targetStatus.status ≠ .notApplicable
      cases command.targetStatus <;> exact DecisionConditionStatus.noConfusion
    · exact holds.applicable old stored
  · rcases (Table.mem_insert? inserted).mp member with old | rfl
    · obtain ⟨condition, stored, named, settled⟩ := holds.resolved other old
      refine ⟨condition, (rows _).mpr ⟨condition, stored, if_neg fun here => ?_⟩, named, settled⟩
      exact fresh other old (named.symm.trans here)
    · refine ⟨_, (rows _).mpr ⟨locked, lock.1, if_pos rfl⟩, resolves.symm, ?_⟩
      show command.targetStatus.status ≠ .open
      cases command.targetStatus <;> exact DecisionConditionStatus.noConfusion
  · rcases (Table.mem_insert? inserted).mp memberFirst with oldFirst | rfl
    · rcases (Table.mem_insert? inserted).mp memberSecond with oldSecond | rfl
      · exact holds.once first oldFirst second oldSecond same
      · exact absurd (same.trans resolves) (fresh first oldFirst)
    · rcases (Table.mem_insert? inserted).mp memberSecond with oldSecond | rfl
      · exact absurd (same.symm.trans resolves) (fresh second oldSecond)
      · rfl

theorem resolvedOnce_finalize {command : FinalizeGoNoGoDecisionCommand} (holds : ResolvedOnce store)
    (accepted : finalizeSession view store command context = .ok (result, outcome)) : ResolvedOnce result := by
  obtain ⟨_, _, drafts, decisions, conditions, _, _, _, drafted, _, inserted, rfl⟩ := finalizeSession_ok accepted
  refine ⟨fun condition member => ?_, fun transition member => ?_, holds.once⟩
  · rcases (Table.mem_insertAll? inserted).mp member with old | new
    · exact holds.applicable condition old
    · rw [← conditionDrafts_rows drafted] at new
      obtain ⟨input, _, rfl⟩ := List.mem_map.mp new
      exact DecisionConditionStatus.noConfusion
  obtain ⟨condition, stored, named, settled⟩ := holds.resolved transition member
  exact ⟨condition, (Table.mem_insertAll? inserted).mpr (.inl stored), named, settled⟩

theorem resolvedOnce_execute {command : ConditionCommand} (holds : ResolvedOnce store)
    (accepted : command.execute view store = .ok (result, outcome)) : ResolvedOnce result := by
  cases command with
  | finalize finalize context => exact resolvedOnce_finalize holds accepted
  | resolve resolve context => exact resolvedOnce_resolve holds accepted

theorem resolvedOnce_step {store next : Store} {input : Input} (holds : ResolvedOnce store.decisions)
    (accepted : step store input = .ok next) : ResolvedOnce next.decisions := by
  cases step_decisionStep accepted with
  | unmoved _ same => exact same ▸ holds
  | created row decisions _ _ _ _ same => exact same ▸ ⟨holds.applicable, holds.resolved, holds.once⟩
  | frozen command context outcome written =>
    obtain ⟨_, _, _, _, _, conditions, transitions⟩ := freezeDecisionContext_write written
    refine ⟨?_, ?_, ?_⟩
    · rw [conditions]
      exact holds.applicable
    · rw [conditions, transitions]
      exact holds.resolved
    · rw [transitions]
      exact holds.once
  | executed command outcome written => exact resolvedOnce_execute holds written

section

variable (inputs : List (SessionInput Input ConditionCommand))

/-- No transaction is open on an empty store. -/
def idle : Sessions Store ConditionCommand := ⟨.empty, []⟩

theorem finishSession_ok {session : Session Store ConditionCommand} {store next : Store}
    (accepted : finishSession session store = .ok next) :
    ∃ outcome, session.command.execute (session.view store) store.decisions = .ok (next.decisions, outcome) := by
  simp only [finishSession, bind_ok, Prod.exists, pure_ok] at accepted
  obtain ⟨decisions, outcome, executed, rfl⟩ := accepted
  exact ⟨outcome, executed⟩

theorem finishSession_later {session : Session Store ConditionCommand} {store next : Store}
    (accepted : finishSession session store = .ok next) : Later store.decisions next.decisions := by
  obtain ⟨outcome, executed⟩ := finishSession_ok accepted
  obtain ⟨root, changed, _, write⟩ := session.command.execute_write executed
  exact write.later

/-- Where every finalization read its root at the revision it expects, the recorded statuses agree with
    the conditions in every interleaving. -/
theorem conditionsAgree_run (along : Along interleave (Finishing ReadsExpected) idle inputs) :
    ConditionsAgree (run interleave idle inputs).store.decisions := by
  have initial : ConditionsAgree DecisionStore.empty :=
    ⟨fun condition member => absurd member Table.not_mem_empty, fun root member => absurd member Table.not_mem_empty⟩
  have reflexive : ∀ store : Store, Later store.decisions store.decisions := fun store => Later.refl _
  refine (@Sessions.run_invariant Store CommandError Input ConditionCommand step finishSession
    (fun old new => Later old.decisions new.decisions) idle (fun store => ConditionsAgree store.decisions)
    ReadsExpected reflexive Later.trans ?_ ?_ inputs initial (fun session member => ?_) along).1
  · exact fun store input next holds accepted => ⟨conditionsAgree_step holds accepted, step_later accepted⟩
  · intro session store next ordered expected holds accepted
    refine ⟨?_, finishSession_later accepted⟩
    obtain ⟨outcome, executed⟩ := finishSession_ok accepted
    have seen : Later (session.view store 0).decisions (session.view store 3).decisions ∧
        Later (session.view store 3).decisions store.decisions :=
      ⟨session.view_view reflexive ordered (by omega), session.view_store reflexive ordered 3⟩
    refine conditionsAgree_execute holds seen (fun finalize context same => ?_) executed
    rw [ReadsExpected, same] at expected
    exact expected
  · cases member

theorem resolvedOnce_run : ResolvedOnce (run interleave idle inputs).store.decisions := by
  have initial : ResolvedOnce DecisionStore.empty :=
    ⟨fun condition member => absurd member Table.not_mem_empty,
      fun transition member => absurd member Table.not_mem_empty,
      fun first member => absurd member Table.not_mem_empty⟩
  have kept : ∀ (state : Sessions Store ConditionCommand) input next, ResolvedOnce state.store.decisions →
      interleave state input = .ok next → ResolvedOnce next.store.decisions := by
    intro state input next holds accepted
    rcases Sessions.step_store accepted with ⟨same, _⟩ | ⟨_, ⟨single, _, written⟩ | ⟨_, session, _, _, written⟩⟩
    · exact same ▸ holds
    · exact resolvedOnce_step holds written
    · obtain ⟨outcome, executed⟩ := finishSession_ok written
      exact resolvedOnce_execute holds executed
  exact Foundation.run_invariant_always kept inputs initial

end

def revisionOf (store : DecisionStore) (tenantId decisionId : Uuid) : Nat :=
  ((store.root tenantId decisionId).map (·.aggregateRevision)).getD 0

theorem revisionOf_root (member : root ∈ store.decisions) :
    revisionOf store root.tenantId root.id = root.aggregateRevision := by
  have found : store.root root.tenantId root.id = some root := DecisionStore.root_some.mpr ⟨member, rfl, rfl⟩
  rw [revisionOf, found]
  rfl

theorem RootWrite.revisionOf (write : RootWrite old new root changed) (tenantId decisionId : Uuid) :
    revisionOf new tenantId decisionId = revisionOf old tenantId decisionId +
      if (root.tenantId, root.id) = (tenantId, decisionId) then 1 else 0 := by
  have stored : changed ∈ new.decisions := (write.decisions _).mpr (.inl rfl)
  by_cases here : (root.tenantId, root.id) = (tenantId, decisionId)
  · rw [if_pos here]
    simp only [Prod.mk.injEq] at here
    obtain ⟨rfl, rfl⟩ := here
    have before := revisionOf_root write.stored
    have after := revisionOf_root stored
    rw [write.tenant, write.id] at after
    rw [before, after, write.raised]
  · rw [if_neg here]
    have same : new.root tenantId decisionId = old.root tenantId decisionId := by
      refine Option.ext fun other => ?_
      rw [DecisionStore.root_some, DecisionStore.root_some, write.decisions]
      constructor
      · rintro ⟨rfl | ⟨kept, _⟩, tenant, id⟩
        · exact absurd (by rw [← tenant, ← id, write.tenant, write.id]) here
        · exact ⟨kept, tenant, id⟩
      · rintro ⟨kept, tenant, id⟩
        refine ⟨.inr ⟨kept, fun named => here ?_⟩, tenant, id⟩
        have row : other = root := Table.eq_of_conflict kept write.stored (.inl named)
        rw [← row, tenant, id]
    rw [Decision.revisionOf, same]
    rfl

theorem revisionOf_created {row : DecisionRecord} {decisions : Table DecisionRecord}
    (inserted : store.decisions.insert? row = some decisions) (first : row.aggregateRevision = 0)
    (tenantId decisionId : Uuid) :
    revisionOf { store with decisions } tenantId decisionId = revisionOf store tenantId decisionId := by
  cases found : store.root tenantId decisionId with
  | some root =>
    obtain ⟨member, rfl, rfl⟩ := DecisionStore.root_some.mp found
    have kept : root ∈ decisions := (Table.mem_insert? inserted).mpr (.inl member)
    have after : revisionOf { store with decisions } root.tenantId root.id = root.aggregateRevision :=
      revisionOf_root kept
    rw [after, revisionOf_root member]
  | none =>
    have before : revisionOf store tenantId decisionId = 0 := by rw [revisionOf, found]; rfl
    rw [before]
    cases now : DecisionStore.root { store with decisions } tenantId decisionId with
    | none => rw [revisionOf, now]; rfl
    | some other =>
      obtain ⟨member, tenant, id⟩ := DecisionStore.root_some.mp now
      rcases (Table.mem_insert? inserted).mp member with old | rfl
      · have known := DecisionStore.root_some.mpr ⟨old, tenant, id⟩
        rw [found] at known
        cases known
      · rw [revisionOf, now]
        exact first

theorem step_revisionOf {store next : Store} {input : Input} (accepted : step store input = .ok next)
    (tenantId decisionId : Uuid) : revisionOf next.decisions tenantId decisionId =
      revisionOf store.decisions tenantId decisionId +
        if input.target = some (tenantId, decisionId) then 1 else 0 := by
  cases step_decisionStep accepted with
  | unmoved target same => simp [target, same]
  | created row decisions target _ first inserted same =>
    rw [same, revisionOf_created inserted first, target]
    simp
  | frozen command context outcome written =>
    obtain ⟨root, tenant, id, _, write, _⟩ := freezeDecisionContext_write written
    rw [write.revisionOf, tenant, id]
    simp [Input.target]
  | executed command outcome written =>
    obtain ⟨root, changed, target, write⟩ := command.execute_write written
    have same : command.input.target = some command.target := by cases command <;> rfl
    rw [write.revisionOf, same, target]
    simp

/-- An accepted input raises the revision of the decision it writes to, and of no other. -/
theorem interleave_revisionOf {state next : Sessions Store ConditionCommand}
    {input : SessionInput Input ConditionCommand} (accepted : interleave state input = .ok next)
    (tenantId decisionId : Uuid) : revisionOf next.store.decisions tenantId decisionId =
      revisionOf state.store.decisions tenantId decisionId +
        if writeTarget state input = some (tenantId, decisionId) then 1 else 0 := by
  cases input with
  | alone single =>
    obtain ⟨store, moved, rfl⟩ := except_map_ok.mp accepted
    exact step_revisionOf moved tenantId decisionId
  | start command =>
    cases accepted
    rfl
  | read index =>
    cases accepted
    rfl
  | finish index =>
    unfold interleave Sessions.step at accepted
    dsimp only at accepted
    cases found : state.active[index]? with
    | none =>
      rw [found] at accepted
      cases accepted
      simp [writeTarget, found]
    | some session =>
      rw [found] at accepted
      obtain ⟨store, moved, rfl⟩ := except_map_ok.mp accepted
      obtain ⟨outcome, executed⟩ := finishSession_ok moved
      obtain ⟨root, changed, target, write⟩ := session.command.execute_write executed
      have named : writeTarget state (.finish index) = some (root.tenantId, root.id) := by
        rw [writeTarget, found, ← target]
        rfl
      simp only [named, Option.some.injEq]
      exact write.revisionOf tenantId decisionId

/-- A commit to a decision raises its revision by one, and nothing else moves it. -/
theorem commit_revisionOf (tenantId decisionId : Uuid) (state : Sessions Store ConditionCommand)
    (input : SessionInput Input ConditionCommand) :
    revisionOf (commit interleave state input).store.decisions tenantId decisionId =
      revisionOf state.store.decisions tenantId decisionId +
        if commitsTo tenantId decisionId state input then 1 else 0 := by
  cases accepted : interleave state input with
  | error error => simp [commit_error accepted, commitsTo, accepted, Except.isOk, Except.toBool]
  | ok next =>
    rw [commit_ok accepted, interleave_revisionOf accepted]
    simp [commitsTo, accepted, Except.isOk, Except.toBool]

/-- The revision of a decision counts the writes committed to it. -/
theorem revision_run (inputs : List (SessionInput Input ConditionCommand)) {root : DecisionRecord}
    (member : root ∈ (run interleave idle inputs).store.decisions.decisions) :
    root.aggregateRevision = tally interleave (commitsTo root.tenantId root.id) idle inputs := by
  have counted : revisionOf (run interleave idle inputs).store.decisions root.tenantId root.id =
      revisionOf idle.store.decisions root.tenantId root.id +
        tally interleave (commitsTo root.tenantId root.id) idle inputs :=
    @run_tally _ _ _ interleave (fun state => revisionOf state.store.decisions root.tenantId root.id) _
      (commit_revisionOf root.tenantId root.id) _ _
  have initial : revisionOf idle.store.decisions root.tenantId root.id = 0 := rfl
  rw [revisionOf_root member, initial] at counted
  omega

end SmartAo.Decision
