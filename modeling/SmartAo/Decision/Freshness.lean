import SmartAo.Decision.FrozenContext

namespace SmartAo.Decision

open SmartAo.Foundation SmartAo.Platform SmartAo.Case SmartAo.Dce SmartAo.Pricing SmartAo.PatronAction

/-- What a freeze demands of the requirements a context quotes: there are some once a version is
    applicable, and each is CONFIRMED in that version at the quoted revision. -/
structure ContextFresh (store : Store) (tenantId caseId contextId : Uuid) : Prop where
  covered : caseHasApplicableDce store tenantId caseId →
    ∃ reference ∈ store.decisions.requirementReferences tenantId contextId,
      ∃ requirement ∈ store.dce.requirements, requirement.tenantId = tenantId ∧
        requirement.id = reference.aggregateId ∧
        store.applicableVersion tenantId caseId = some requirement.dceVersionId
  current : ∀ reference ∈ store.decisions.requirementReferences tenantId contextId,
    contextReferenceIsValid store tenantId caseId .dceRequirement reference.aggregateId
      reference.aggregateRevision reference.contentHash

/-- An accepted finalization selects a context that is still fresh. -/
def FinalizesFresh (store : Store) (input : Input) : Prop :=
  ∀ finalize context next, input = .decision (.finalize finalize) context →
    step store input = .ok next → ∃ root contextId,
      next.decisions.root context.tenantId finalize.decisionId = some root ∧
        root.selectedFinalContextId = some contextId ∧
        ContextFresh next context.tenantId root.caseId contextId

/-- The input neither confirms again a requirement that a pending decision quotes, nor gives an
    applicable version to the case of a pending decision that quotes none. -/
def LeavesPendingContexts (store : Store) (input : Input) : Prop :=
  ∀ next, step store input = .ok next → ∀ root ∈ store.decisions.decisions,
    root.lifecycle = .pendingPatron → ∀ row ∈ store.decisions.contextsOf root.tenantId root.id,
      (∀ confirm context, input = .dce (.confirm confirm context) → context.tenantId = root.tenantId →
        confirm.outcome = .confirmed →
          confirm.requirementId ∉ store.decisions.requirementIds root.tenantId row.id) ∧
      (store.decisions.requirementReferences root.tenantId row.id = [] →
        caseHasApplicableDce next root.tenantId root.caseId →
          caseHasApplicableDce store root.tenantId root.caseId)

/-- What holds of a pending decision's context between its freeze and its finalization. -/
structure Pending (store : Store) (root : DecisionRecord) (row : DecisionContextRecord) : Prop where
  unhashed : ∀ reference ∈ store.decisions.requirementReferences root.tenantId row.id,
    reference.contentHash = none
  quoted : ∀ reference ∈ store.decisions.requirementReferences root.tenantId row.id,
    ∀ current ∈ store.dce.currentConfirmations, current.tenantId = root.tenantId →
      current.requirementId = reference.aggregateId → current.outcome = .confirmed →
        current.revision = reference.aggregateRevision
  required : store.decisions.requirementReferences root.tenantId row.id = [] →
    ¬ caseHasApplicableDce store root.tenantId root.caseId

def PendingFresh (store : Store) : Prop :=
  ∀ root ∈ store.decisions.decisions, root.lifecycle = .pendingPatron →
    ∀ row ∈ store.decisions.contextsOf root.tenantId root.id, Pending store root row

variable {store next : Store} {context : CommandContext} {input : Input} {root : DecisionRecord}
  {row : DecisionContextRecord}

/-- Finalizing needs nothing more: the reader has found every quoted requirement confirmed. -/
theorem Pending.fresh {contextId : Uuid} (pending : Pending store root row) (named : row.id = contextId)
    (confirmed : hasConfirmedDceRequirements store root.tenantId contextId root.caseId) :
    ContextFresh store root.tenantId root.caseId contextId := by
  subst named
  obtain ⟨version, applicable, _, each⟩ := hasConfirmedDceRequirements_iff.mp confirmed
  have found : ∀ reference ∈ store.decisions.requirementReferences root.tenantId row.id,
      ∃ requirement ∈ store.dce.requirements, (requirement.tenantId = root.tenantId ∧
        requirement.id = reference.aggregateId ∧ requirement.dceVersionId = version) ∧
        ∃ current ∈ store.dce.currentConfirmations, current.tenantId = requirement.tenantId ∧
          current.requirementId = requirement.id ∧ current.outcome = .confirmed :=
    fun reference member => requirementIsConfirmed_iff.mp
      (each reference.aggregateId (List.mem_map.mpr ⟨reference, member, rfl⟩))
  constructor
  · intro admitted
    obtain ⟨reference, member⟩ := List.exists_mem_of_ne_nil _ fun none_quoted =>
      pending.required none_quoted admitted
    obtain ⟨requirement, stored, ⟨owner, same, ofVersion⟩, _⟩ := found reference member
    exact ⟨reference, member, requirement, stored, owner, same, by rw [applicable, ofVersion]⟩
  · intro reference member
    obtain ⟨requirement, stored, ⟨owner, same, ofVersion⟩, current, kept, tenant, of, outcome⟩ :=
      found reference member
    have revision := pending.quoted reference member current kept (tenant.trans owner) (of.trans same) outcome
    rw [requirementReference_valid]
    exact ⟨pending.unhashed reference member, version, applicable, requirement, stored,
      ⟨owner, same, ofVersion⟩, current, kept, tenant, of, revision, outcome⟩

/-- A context whose references stay is kept by a step that confirms none of the quoted requirements. -/
theorem Pending.kept (pending : Pending store root row)
    (references : next.decisions.requirementReferences root.tenantId row.id =
      store.decisions.requirementReferences root.tenantId row.id)
    (confirmed : ∀ current ∈ next.dce.currentConfirmations, current ∈ store.dce.currentConfirmations ∨
      (current.tenantId = root.tenantId → current.outcome = .confirmed →
        current.requirementId ∉ store.decisions.requirementIds root.tenantId row.id))
    (admitted : store.decisions.requirementReferences root.tenantId row.id = [] →
      caseHasApplicableDce next root.tenantId root.caseId →
        caseHasApplicableDce store root.tenantId root.caseId) : Pending next root row := by
  refine ⟨?_, ?_, ?_⟩
  · rw [references]
    exact pending.unhashed
  · rw [references]
    intro reference member current kept tenant same outcome
    rcases confirmed current kept with old | unquoted
    · exact pending.quoted reference member current old tenant same outcome
    · have listed : current.requirementId ∈ store.decisions.requirementIds root.tenantId row.id := by
        rw [same]
        exact List.mem_map.mpr ⟨reference, member, rfl⟩
      exact absurd listed (unquoted tenant outcome)
  · rw [references]
    exact fun none_quoted newly => pending.required none_quoted (admitted none_quoted newly)

/-- The context a freeze appends quotes confirmed requirements at their current revisions. -/
theorem FreezeChecked.pending {freeze : FreezeDecisionContextCommand} {decision : DecisionRecord}
    {result : DecisionStore} (checked : FreezeChecked store freeze context decision)
    (sound : ContextsSound store.decisions)
    (first : store.decisions.contexts.insert? (freeze.contextRecord context) = some result.contexts)
    (all : store.decisions.references.insertAll? (freeze.referenceRecords context) =
      some result.references) :
    Pending { store with decisions := result } (frozenRoot context decision)
      (freeze.contextRecord context) := by
  have tenant : (frozenRoot context decision).tenantId = context.tenantId := checked.root.2.1
  have case : (frozenRoot context decision).caseId = freeze.caseId := checked.case
  have quoted : result.requirementReferences context.tenantId (freeze.contextRecord context).id =
      (freeze.references.filter fun reference => reference.aggregateType = .dceRequirement).map
        (freeze.referenceRecord context) := sound.frozen_requirementReferences result first all
  have valid : ∀ reference ∈ result.requirementReferences context.tenantId
      (freeze.contextRecord context).id, reference.contentHash = none ∧
        ∃ current ∈ store.dce.currentConfirmations, current.requirementId = reference.aggregateId ∧
          current.revision = reference.aggregateRevision := by
    intro reference member
    rw [quoted] at member
    obtain ⟨named, listed, rfl⟩ := List.mem_map.mp member
    obtain ⟨submitted, kind⟩ := List.mem_filter.mp listed
    have passed := checked.valid named submitted
    rw [DecisionContextReferenceInput.isValid, of_decide_eq_true kind, requirementReference_valid] at passed
    obtain ⟨unhashed, _, _, requirement, _, ⟨_, same, _⟩, current, kept, _, of, revision, _⟩ := passed
    refine ⟨?_, current, kept, of.trans same, revision⟩
    show named.contentHash.map lower = none
    rw [unhashed, Option.map_none]
  refine ⟨?_, ?_, ?_⟩
  · rw [tenant]
    exact fun reference member => (valid reference member).1
  · rw [tenant]
    intro reference member current kept _ same _
    obtain ⟨_, other, stored, sameOther, revision⟩ := valid reference member
    have unique : current = other := Table.eq_of_conflict kept stored (same.trans sameOther.symm)
    rw [unique, revision]
  · rw [tenant, case]
    intro none_quoted admitted
    obtain ⟨reference, submitted, kind⟩ := checked.quotesRequirement admitted
    have listed : freeze.referenceRecord context reference ∈
        result.requirementReferences context.tenantId (freeze.contextRecord context).id := by
      rw [quoted]
      exact List.mem_map.mpr ⟨reference, List.mem_filter.mpr ⟨submitted, decide_eq_true kind⟩, rfl⟩
    rw [none_quoted] at listed
    cases listed

/-- Decision commands keep the contexts of pending decisions. -/
theorem pendingFresh_decision {command : DecisionCommand} {result : DecisionStore}
    {outcome : HandlerOutcome} (sound : ContextsSound store.decisions) (holds : PendingFresh store)
    (executed : store.executeDecision context command = .ok (result, outcome)) :
    PendingFresh { store with decisions := result } := by
  intro root member pending row listed
  rcases executeDecision_roots executed member with stored | ⟨draft, _⟩ |
    ⟨old, stored, sameId, sameTenant, moved⟩
  · obtain ⟨appended, tenant, decision⟩ := DecisionStore.mem_contextsOf.mp listed
    have kept (references : result.requirementReferences root.tenantId row.id =
        store.decisions.requirementReferences root.tenantId row.id) (present : row ∈ store.decisions.contexts) :
        Pending { store with decisions := result } root row := by
      have before := holds root stored pending row
        (DecisionStore.mem_contextsOf.mpr ⟨present, tenant, decision⟩)
      exact before.kept references (fun current kept => .inl kept) (fun _ admitted => admitted)
    rcases executeDecision_contexts executed with ⟨sameContexts, sameReferences⟩ |
      ⟨freeze, drafted, _, checked, first, all⟩
    · refine kept ?_ (sameContexts ▸ appended)
      unfold DecisionStore.requirementReferences
      rw [sameReferences]
    · rcases (Table.mem_insert? first).mp appended with present | rfl
      · exact kept (kept_requirementReferences first all present root.tenantId) present
      · have same : root = drafted := Table.eq_of_conflict stored checked.root.1
          (RevisionedRoot.conflict_of_id (decision.symm.trans checked.root.2.2.symm))
        have draft := checked.draft
        rw [← same, pending] at draft
        cases draft
  · rw [pending] at draft
    cases draft
  · rcases moved with ⟨freeze, rfl, checked, rfl⟩ | ⟨_, _, _, _, _, rfl⟩ | ⟨status, finalized, rfl⟩
    · have after : ContextsSound result := contextsSound_preserved sound executed
      obtain ⟨_, contexts, references, decisions, _, first, all, _, rfl⟩ :=
        freezeDecisionContext_ok executed
      have only : row = freeze.contextRecord context := by
        apply after.unique listed
        rw [DecisionStore.mem_contextsOf]
        exact ⟨(Table.mem_insert? first).mpr (.inr rfl), checked.root.2.1.symm, checked.root.2.2.symm⟩
      rw [only]
      exact checked.pending sound first all
    · cases pending
    · rw [show old.lifecycle = .pendingPatron from pending] at finalized
      cases finalized

theorem pendingFresh_preserved (sound : ContextsSound store.decisions) (holds : PendingFresh store)
    (leaves : LeavesPendingContexts store input) (accepted : step store input = .ok next) :
    PendingFresh next := by
  have outside (decisions : next.decisions = store.decisions)
      (confirmed : ∀ current ∈ next.dce.currentConfirmations, current ∈ store.dce.currentConfirmations ∨
        ∃ command context, input = .dce (.confirm command context) ∧ current.tenantId = context.tenantId ∧
          current.requirementId = command.requirementId ∧ current.outcome = command.outcome) :
      PendingFresh next := by
    intro root member pending row listed
    rw [decisions] at member listed
    obtain ⟨unquoted, newly⟩ := leaves next accepted root member pending row listed
    refine (holds root member pending row listed).kept (by rw [decisions]) ?_ newly
    intro current kept
    rcases confirmed current kept with old | ⟨command, context, submitted, tenant, same, outcome⟩
    · exact .inl old
    · refine .inr fun owner positive => ?_
      rw [same]
      exact unquoted command context submitted (tenant.symm.trans owner) (outcome.symm.trans positive)
  cases input with
  | case write =>
    obtain ⟨cases, _, rfl⟩ := step_case.mp accepted
    exact outside rfl fun current kept => .inl kept
  | dce write =>
    obtain ⟨dce, written, rfl⟩ := step_dce.mp accepted
    refine outside rfl fun current kept => ?_
    rcases DceStore.write_currentConfirmations written kept with old | ⟨command, context, rfl, confirmed⟩
    · exact .inl old
    · exact .inr ⟨command, context, rfl, confirmed⟩
  | foreign sources snapshots =>
    cases accepted
    exact outside rfl fun current kept => .inl kept
  | risk command context =>
    obtain ⟨risks, actions, outcome, _, rfl⟩ := step_risk.mp accepted
    exact outside rfl fun current kept => .inl kept
  | action command context =>
    obtain ⟨actions, outcome, _, rfl⟩ := step_action.mp accepted
    exact outside rfl fun current kept => .inl kept
  | pricing command context =>
    obtain ⟨pricing, outcome, _, rfl⟩ := step_pricing.mp accepted
    exact outside rfl fun current kept => .inl kept
  | decision command context =>
    obtain ⟨decisions, outcome, executed, rfl⟩ := step_decision.mp accepted
    exact pendingFresh_decision sound holds executed

/-- A finalization accepted where the invariant holds selects a fresh context. -/
theorem PendingFresh.finalizesFresh (holds : PendingFresh store) (input : Input) :
    FinalizesFresh store input := by
  intro finalize context next submitted accepted
  subst submitted
  obtain ⟨result, _, executed, rfl⟩ := step_decision.mp accepted
  obtain ⟨decision, current, drafts, decisions, conditions, checked, updated, _, rfl⟩ :=
    finalizeGoNoGoDecision_ok executed
  obtain ⟨stored, tenant, named⟩ := checked.root
  have listed : current ∈ store.decisions.contextsOf decision.tenantId decision.id := by
    rw [tenant, named]
    exact List.mem_of_getLast? checked.last
  have confirmed := checked.confirmed
  rw [← tenant, ← checked.case] at confirmed
  have fresh := (holds decision stored checked.pending current listed).fresh rfl confirmed
  have settled : finalizedRoot finalize context current.id decision ∈ decisions :=
    (mem_updateRoot updated stored named).mpr (.inl rfl)
  refine ⟨finalizedRoot finalize context current.id decision, current.id, ?_, rfl, ?_⟩
  · exact DecisionStore.root_some.mpr ⟨settled, tenant, named⟩
  · rw [← tenant]
    exact ⟨fresh.covered, fresh.current⟩

/-- As long as the pending contexts are left alone, every accepted finalization selects a fresh one. -/
theorem along_finalizesFresh (inputs : List Input) (leaves : Along step LeavesPendingContexts .empty inputs) :
    Along step FinalizesFresh .empty inputs := by
  have preserved : ∀ store input next, (ContextsSound store.decisions ∧ PendingFresh store) →
      LeavesPendingContexts store input → step store input = .ok next →
        ContextsSound next.decisions ∧ PendingFresh next := by
    rintro store input next ⟨sound, holds⟩ leaves accepted
    refine ⟨?_, pendingFresh_preserved sound holds leaves accepted⟩
    rcases step_decisions accepted with same | ⟨command, context, outcome, _, executed⟩
    · rw [same]
      exact sound
    · exact contextsSound_preserved sound executed
  have implies : ∀ store input, (ContextsSound store.decisions ∧ PendingFresh store) →
      FinalizesFresh store input := fun store input holds => holds.2.finalizesFresh input
  have initial : ContextsSound (run step .empty []).decisions ∧ PendingFresh .empty :=
    ⟨contextsSound [], fun root member => absurd member Table.not_mem_empty⟩
  exact along_of_invariant preserved implies initial leaves

section Interleaved

theorem leaves_of_none_pending (settled : ∀ root ∈ store.decisions.decisions, root.lifecycle ≠ .pendingPatron)
    (input : Input) : LeavesPendingContexts store input :=
  fun _ _ root member pending => absurd pending (settled root member)

theorem leaves_of_decision (command : DecisionCommand) (context : CommandContext) :
    LeavesPendingContexts store (.decision command context) := by
  intro next accepted root member pending row listed
  obtain ⟨decisions, outcome, _, rfl⟩ := step_decision.mp accepted
  refine ⟨fun confirm actor submitted => ?_, fun _ admitted => admitted⟩
  cases submitted

theorem along_finalizesFresh_oneRole : Along step FinalizesFresh .empty (draftedCase ++ [
    .decision (.freeze (freezeOf [caseReference, requirementReference])) patronAdmin,
    .decision (.finalize (finalizeOf (freezeOf [caseReference, requirementReference]))) patronAdmin]) := by
  have drafted : Along step (fun store _ => ∀ root ∈ store.decisions.decisions,
      root.lifecycle ≠ .pendingPatron) .empty draftedCase := by decide +kernel
  apply along_finalizesFresh
  refine Along.append.mpr ⟨drafted.weaken fun store input settled => leaves_of_none_pending settled input, ?_⟩
  exact ⟨leaves_of_decision _ _, leaves_of_decision _ _, True.intro⟩

/-- The quoted requirement is confirmed a second time before the finalization. -/
def reconfirmedRun : List Input := draftedCase ++ [
  .decision (.freeze (freezeOf [caseReference, requirementReference])) patronAdmin,
  .dce (.confirm ⟨⟨24, 24, none⟩, 9, 6, 1, .confirmed, .sourceReviewed⟩ patronAdmin)]

def unversionedReference : DecisionContextReferenceInput :=
  ⟨.case, 4, 0, none, "AFFAIRE", affaire_stripped, affaire_nonempty⟩

/-- The context is frozen before the case has a DCE version, which becomes applicable before the
    finalization. -/
def admittedRun : List Input := [
  .case (.create 4 1 "scope"),
  .decision (.create ⟨⟨21, 21, none⟩, 10, 4, none⟩) patronAdmin,
  .decision (.freeze (freezeOf [unversionedReference])) patronAdmin,
  .dce (.register 5 1 7 "corpus"),
  .case (.update 1 4 0 ⟨none, some (some 5)⟩)]

theorem finalizesFresh_selected {finalize : FinalizeGoNoGoDecisionCommand} {caseId contextId : Uuid}
    (fresh : FinalizesFresh store (.decision (.finalize finalize) context))
    (accepted : (step store (.decision (.finalize finalize) context)).isOk = true)
    (settled : ((commit step store (.decision (.finalize finalize) context)).decisions.root context.tenantId
      finalize.decisionId).map (fun root => (root.caseId, root.selectedFinalContextId)) =
        some (caseId, some contextId)) :
    ContextFresh (commit step store (.decision (.finalize finalize) context)) context.tenantId caseId
      contextId := by
  obtain ⟨root, selected, found, chosen, holds⟩ := fresh finalize context _ rfl (commit_of_isOk accepted)
  rw [found, Option.map_some, chosen, Option.some.injEq, Prod.mk.injEq, Option.some.injEq] at settled
  obtain ⟨rfl, rfl⟩ := settled
  exact holds

def reconfirmed : Store := commit step (run step .empty reconfirmedRun)
  (.decision (.finalize (finalizeOf (freezeOf [caseReference, requirementReference]))) patronAdmin)

def admittedLate : Store := commit step (run step .empty admittedRun)
  (.decision (.finalize (finalizeOf (freezeOf [unversionedReference]))) patronAdmin)

/-- Neither run finalizes a fresh context. -/
theorem interleaved_not_fresh :
    ¬ Along step FinalizesFresh .empty (reconfirmedRun ++ [.decision (.finalize
      (finalizeOf (freezeOf [caseReference, requirementReference]))) patronAdmin]) ∧
    ¬ Along step FinalizesFresh .empty (admittedRun ++ [.decision (.finalize
      (finalizeOf (freezeOf [unversionedReference]))) patronAdmin]) := by
  constructor
  · intro along
    have evaluated : (step (run step .empty reconfirmedRun) (.decision (.finalize
          (finalizeOf (freezeOf [caseReference, requirementReference]))) patronAdmin)).isOk = true ∧
        (reconfirmed.decisions.root 1 10).map (fun root => (root.caseId, root.selectedFinalContextId)) =
          some (4, some 11) ∧
        ¬ ∀ reference ∈ reconfirmed.decisions.requirementReferences 1 11,
          contextReferenceIsValid reconfirmed 1 4 .dceRequirement reference.aggregateId
            reference.aggregateRevision reference.contentHash := by decide +kernel
    have fresh : ContextFresh reconfirmed 1 4 11 :=
      finalizesFresh_selected (Along.append.mp along).2.1 evaluated.1 evaluated.2.1
    exact evaluated.2.2 fresh.current
  · intro along
    have evaluated : (step (run step .empty admittedRun) (.decision (.finalize
          (finalizeOf (freezeOf [unversionedReference]))) patronAdmin)).isOk = true ∧
        (admittedLate.decisions.root 1 10).map (fun root => (root.caseId, root.selectedFinalContextId)) =
          some (4, some 11) ∧
        caseHasApplicableDce admittedLate 1 4 = true ∧
        admittedLate.decisions.requirementReferences 1 11 = [] := by decide +kernel
    have fresh : ContextFresh admittedLate 1 4 11 :=
      finalizesFresh_selected (Along.append.mp along).2.1 evaluated.1 evaluated.2.1
    obtain ⟨reference, listed, _⟩ := fresh.covered evaluated.2.2.1
    rw [evaluated.2.2.2] at listed
    cases listed

end Interleaved

end SmartAo.Decision
