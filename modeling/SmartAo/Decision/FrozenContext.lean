import SmartAo.Decision.Invariants

namespace SmartAo.Decision

open SmartAo.Foundation SmartAo.Platform SmartAo.Case SmartAo.Dce SmartAo.Pricing SmartAo.PatronAction

/-- The requirements a freeze quotes, one entry a reference. -/
def FreezeDecisionContextCommand.requirementIds (freeze : FreezeDecisionContextCommand) : List Uuid :=
  (freeze.references.filter fun reference => reference.aggregateType = .dceRequirement).map
    (·.aggregateId)

/-- A patron's finalization that shows the stored fingerprint and the current revision of a decision,
    with admissible conditions under new identifiers. -/
structure ShowsStored (store : Store) (decisionId caseId : Uuid)
    (finalize : FinalizeGoNoGoDecisionCommand) (actor : CommandContext) : Prop where
  patron : (actor.actorKind = .patronAdmin ∨ actor.actorKind = .patronDelegate) ∧
    actor.membershipId ≠ none
  decision : finalize.decisionId = decisionId ∧ finalize.caseId = caseId
  revision : (store.decisions.root actor.tenantId decisionId).map (·.aggregateRevision) =
    some finalize.expectedRevision
  fingerprint : ∃ row ∈ store.decisions.contextsOf actor.tenantId decisionId,
    row.contextFingerprint = finalize.displayedFingerprint
  conditional : finalize.outcome = .conditionalGo ↔ finalize.conditions.isEmpty = false
  conditions : (finalize.conditions.map (·.conditionId)).Nodup ∧
    ∀ condition ∈ finalize.conditions, condition.validForApproval
  fresh : ∀ stored ∈ store.decisions.conditions, ∀ condition ∈ finalize.conditions,
    stored.id ≠ condition.conditionId

theorem conditionDrafts_ok {finalize : FinalizeGoNoGoDecisionCommand} {patron : CommandContext}
    (distinct : (finalize.conditions.map (·.conditionId)).Nodup)
    (valid : ∀ condition ∈ finalize.conditions, condition.validForApproval) :
    conditionDrafts finalize patron = .ok (finalize.conditions.map
      (ConditionalGoConditionInput.record patron.tenantId finalize.decisionId)) := by
  have none_refused : ¬ ∃ condition ∈ finalize.conditions, ¬ condition.validForApproval :=
    fun ⟨condition, member, refused⟩ => refused (valid condition member)
  rw [conditionDrafts, raiseIf_pass (not_not.mpr distinct), bind_of_ok rfl, raiseIf_pass none_refused]
  rfl

theorem insertAll?_drafts {conditions : Table DecisionConditionRecord}
    {drafts : List ConditionalGoConditionInput} {tenantId decisionId : Uuid}
    (distinct : (drafts.map (·.conditionId)).Nodup)
    (fresh : ∀ stored ∈ conditions, ∀ draft ∈ drafts, stored.id ≠ draft.conditionId) :
    (conditions.insertAll? (drafts.map
      (ConditionalGoConditionInput.record tenantId decisionId))).isSome := by
  rw [Table.insertAll?_isSome]
  constructor
  · intro stored member row new
    obtain ⟨draft, listed, rfl⟩ := List.mem_map.mp new
    exact fresh stored member draft listed
  · rw [List.pairwise_map]
    rw [List.Nodup, List.pairwise_map] at distinct
    exact distinct

variable {store : Store} {context : CommandContext} {freeze : FreezeDecisionContextCommand}

/-- Every requirement an accepted freeze quotes is confirmed in the applicable version. -/
theorem FreezeChecked.confirmed {decision : DecisionRecord} (checked : FreezeChecked store freeze context decision)
    {dceVersionId : Uuid} (applicable : store.applicableVersion context.tenantId freeze.caseId = some dceVersionId)
    {requirementId : Uuid} (quoted : requirementId ∈ freeze.requirementIds) :
    requirementIsConfirmed store.dce context.tenantId requirementId dceVersionId := by
  obtain ⟨reference, listed, rfl⟩ := List.mem_map.mp quoted
  obtain ⟨member, kind⟩ := List.mem_filter.mp listed
  have valid := checked.valid reference member
  rw [DecisionContextReferenceInput.isValid, of_decide_eq_true kind, requirementReference_valid] at valid
  obtain ⟨_, version, same, requirement, stored, ⟨owner, named, ofVersion⟩, current, confirmed, tenant, owned, _,
    outcome⟩ := valid
  rw [applicable, Option.some.injEq] at same
  rw [requirementIsConfirmed_iff]
  exact ⟨requirement, stored, ⟨owner, named, ofVersion.trans same.symm⟩, current, confirmed, tenant, owned, outcome⟩

/-- What a freeze leaves behind: its root pending, its context the only one of the decision, and the
    quoted requirements in command order. -/
structure Frozen (before : Store) (freeze : FreezeDecisionContextCommand) (context : CommandContext)
    (decision : DecisionRecord) (after : DecisionStore) : Prop where
  checked : FreezeChecked before freeze context decision
  undecided : decision.outcome = .undecided ∧ decision.validity = .current
  root : ∀ row, after.root context.tenantId freeze.decisionId = some row ↔ row = frozenRoot context decision
  contexts : ∀ row, row ∈ after.contextsOf context.tenantId freeze.decisionId ↔
    row = freeze.contextRecord context
  requirementIds : after.requirementIds context.tenantId freeze.contextId = freeze.requirementIds
  references : after.referencesOf context.tenantId freeze.decisionId ≠ []
  conditions : after.conditions = before.decisions.conditions

theorem freeze_frozen {inputs : List Input} {result : DecisionStore} {outcome : HandlerOutcome}
    (accepted : freezeDecisionContext (run step .empty inputs) freeze context = .ok (result, outcome)) :
    ∃ decision, Frozen (run step .empty inputs) freeze context decision result := by
  have sound := contextsSound inputs
  have executed : (run step .empty inputs).executeDecision context (.freeze freeze) = .ok (result, outcome) :=
    accepted
  have after : ContextsSound result := contextsSound_preserved sound executed
  obtain ⟨decision, contexts, references, decisions, checked, first, all, updated, rfl⟩ :=
    freezeDecisionContext_ok accepted
  have appended : freeze.contextRecord context ∈ contexts := (Table.mem_insert? first).mpr (.inr rfl)
  refine ⟨decision, checked, draftsUndecided inputs decision checked.root.1 checked.draft, ?_, ?_, ?_, ?_, rfl⟩
  · intro row
    rw [DecisionStore.root_some]
    have rows : row ∈ decisions ↔ row = frozenRoot context decision ∨
        (row ∈ (run step .empty inputs).decisions.decisions ∧ row.id ≠ freeze.decisionId) :=
      mem_updateRoot updated checked.root.1 checked.root.2.2
    constructor
    · rintro ⟨member, _, same⟩
      rcases rows.mp member with moved | ⟨_, different⟩
      · exact moved
      · exact absurd same different
    · rintro rfl
      exact ⟨rows.mpr (.inl rfl), checked.root.2⟩
  · intro row
    have only : freeze.contextRecord context ∈ DecisionStore.contextsOf
        { (run step .empty inputs).decisions with decisions, contexts, references }
        context.tenantId freeze.decisionId := DecisionStore.mem_contextsOf.mpr ⟨appended, rfl, rfl⟩
    constructor
    · exact fun member => after.unique member only
    · rintro rfl
      exact only
  · rw [DecisionStore.requirementIds, sound.frozen_requirementReferences _ first all, List.map_map]
    rfl
  · obtain ⟨reference, member, _⟩ := checked.quotesCase
    have stored : freeze.referenceRecord context reference ∈ references :=
      (Table.mem_insertAll? all).mpr (.inr (List.mem_map.mpr ⟨reference, member, rfl⟩))
    exact List.ne_nil_of_mem (DecisionStore.mem_referencesOf.mpr
      ⟨stored, rfl, freeze.contextRecord context, appended, rfl, rfl, rfl⟩)

section

variable {decision : DecisionRecord} {after : DecisionStore} {finalize : FinalizeGoNoGoDecisionCommand}
  {actor : CommandContext}

/-- What a finalization that shows the frozen context still has to pass: the count of confirmed
    requirements. -/
theorem Frozen.finalizeChecked_iff (frozen : Frozen store freeze context decision after)
    (tenant : actor.tenantId = context.tenantId)
    (stored : ShowsStored { store with decisions := after } freeze.decisionId freeze.caseId finalize actor) :
    (∃ root current drafts, FinalizeChecked { store with decisions := after } finalize actor root current drafts) ↔
      hasConfirmedDceRequirements { store with decisions := after } context.tenantId freeze.contextId
        freeze.caseId := by
  obtain ⟨named, sameCase⟩ := stored.decision
  have only : ∀ row, row ∈ after.contextsOf actor.tenantId finalize.decisionId ↔
      row = freeze.contextRecord context := by
    rw [tenant, named]
    exact frozen.contexts
  constructor
  · rintro ⟨root, current, drafts, checked⟩
    have last := (only current).mp (List.mem_of_getLast? checked.last)
    have confirmed := checked.confirmed
    rw [tenant, sameCase, last] at confirmed
    exact confirmed
  · intro confirmed
    obtain ⟨row, shown, fingerprint⟩ := stored.fingerprint
    have last : (after.contextsOf actor.tenantId finalize.decisionId).getLast? =
        some (freeze.contextRecord context) := by
      cases final : (after.contextsOf actor.tenantId finalize.decisionId).getLast? with
      | none =>
        have empty := List.getLast?_eq_none_iff.mp final
        rw [named] at empty
        rw [show DecisionStore.contextsOf _ _ _ = [] from empty] at shown
        cases shown
      | some current => rw [(only current).mp (List.mem_of_getLast? final)]
    have root := DecisionStore.root_some.mp ((frozen.root _).mpr rfl)
    refine ⟨frozenRoot context decision, freeze.contextRecord context, _, stored.patron,
      ⟨root.1, root.2.1.trans tenant.symm, root.2.2.trans named.symm⟩,
      frozen.checked.case.trans sameCase.symm, frozen.checked.type, rfl, frozen.undecided.1,
      frozen.undecided.2, rfl, last, ⟨rfl, ?_⟩, ?_, stored.conditional,
      conditionDrafts_ok stored.conditions.1 stored.conditions.2, ?_⟩
    · rw [← named] at shown
      rw [← fingerprint, (only row).mp shown]
    · rw [tenant, named]
      exact frozen.references
    · rw [tenant, sameCase]
      exact confirmed

/-- A freeze on a case with an applicable admitted version can be finalized, with nothing written in
    between, exactly when it quotes no requirement twice. -/
theorem frozen_finalizable_iff (inputs : List Input) {next : Store}
    (accepted : step (run step .empty inputs) (.decision (.freeze freeze) context) = .ok next)
    (applicable : caseHasApplicableDce (run step .empty inputs) context.tenantId freeze.caseId)
    (tenant : actor.tenantId = context.tenantId)
    (stored : ShowsStored next freeze.decisionId freeze.caseId finalize actor) :
    (∃ final, step next (.decision (.finalize finalize) actor) = .ok final) ↔
      freeze.requirementIds.Nodup := by
  obtain ⟨after, outcome, executed, rfl⟩ := step_decision.mp accepted
  obtain ⟨decision, frozen⟩ := freeze_frozen executed
  obtain ⟨version, _, _, _, known⟩ := caseHasApplicableDce_iff.mp applicable
  have counted : hasConfirmedDceRequirements { run step .empty inputs with decisions := after }
      context.tenantId freeze.contextId freeze.caseId ↔ freeze.requirementIds.Nodup := by
    rw [hasConfirmedDceRequirements_iff, frozen.requirementIds]
    constructor
    · exact fun ⟨_, _, distinct, _⟩ => distinct
    · exact fun distinct => ⟨version.id, known, distinct, fun id quoted =>
        frozen.checked.confirmed known quoted⟩
  rw [← counted, ← frozen.finalizeChecked_iff tenant stored]
  constructor
  · rintro ⟨final, finalized⟩
    obtain ⟨result, _, passed, _⟩ := step_decision.mp finalized
    obtain ⟨root, current, drafts, _, _, checked, _⟩ := finalizeGoNoGoDecision_ok passed
    exact ⟨root, current, drafts, checked⟩
  · rintro ⟨root, current, drafts, checked⟩
    have drafted := checked.drafted
    rw [conditionDrafts_ok stored.conditions.1 stored.conditions.2, Except.ok.injEq] at drafted
    have fresh : (after.conditions.insertAll? drafts).isSome := by
      rw [← drafted]
      exact insertAll?_drafts stored.conditions.1 stored.fresh
    obtain ⟨shown, found, revision⟩ := Option.map_eq_some_iff.mp stored.revision
    have same : shown = root := by
      obtain ⟨stored_root, sameTenant, sameId⟩ := checked.root
      have again : after.root actor.tenantId freeze.decisionId = some root :=
        DecisionStore.root_some.mpr ⟨stored_root, sameTenant, sameId.trans stored.decision.1⟩
      exact Option.some.inj (found.symm.trans again)
    obtain ⟨result, outcome, passed⟩ := finalizeGoNoGoDecision_accepted checked (same ▸ revision) fresh
    exact ⟨_, step_decision.mpr ⟨result, outcome, passed, rfl⟩⟩

end

section TwoRoles

def patronAdmin : CommandContext := ⟨1, 2, .patronAdmin, 1772368496000000, some 3, some 4⟩

/-- A case whose admitted version has one requirement, confirmed at revision 1, and a draft decision. -/
def draftedCase : List Input := [
  .dce (.register 5 1 7 "corpus"),
  .case (.create 4 1 "scope"),
  .case (.update 1 4 0 ⟨none, some (some 5)⟩),
  .dce (.materialize [⟨6, 1, 60, 5, 61, .offerDocument, .requiredSignal⟩]),
  .dce (.confirm ⟨⟨20, 20, none⟩, 8, 6, 0, .confirmed, .sourceReviewed⟩ patronAdmin),
  .decision (.create ⟨⟨21, 21, none⟩, 10, 4, none⟩) patronAdmin]

theorem affaire_stripped : strip "AFFAIRE" = "AFFAIRE" := by decide +kernel

theorem affaire_nonempty : "AFFAIRE" ≠ "" := by decide

def caseReference : DecisionContextReferenceInput :=
  ⟨.case, 4, 1, none, "AFFAIRE", affaire_stripped, affaire_nonempty⟩

def requirementReference : DecisionContextReferenceInput :=
  ⟨.dceRequirement, 6, 1, none, "EXIGENCE", by decide +kernel, by decide⟩

def secondRole : DecisionContextReferenceInput :=
  ⟨.dceRequirement, 6, 1, none, "PREUVE", by decide +kernel, by decide⟩

def freezeOf (references : List DecisionContextReferenceInput) : FreezeDecisionContextCommand :=
  ⟨⟨22, 22, none⟩, 10, 4, 11, 0, "Analyse", [], [], references⟩

def finalizeOf (freeze : FreezeDecisionContextCommand) : FinalizeGoNoGoDecisionCommand :=
  ⟨⟨23, 23, none⟩, 10, 4, 1, freeze.fingerprint patronAdmin, .go, "Accord", []⟩

def frozenStore (references : List DecisionContextReferenceInput) : Store :=
  commit step (run step .empty draftedCase) (.decision (.freeze (freezeOf references)) patronAdmin)

theorem showsStored_finalizeOf {references : List DecisionContextReferenceInput}
    (accepted : step (run step .empty draftedCase) (.decision (.freeze (freezeOf references)) patronAdmin) =
      .ok (frozenStore references)) :
    ShowsStored (frozenStore references) 10 4 (finalizeOf (freezeOf references)) patronAdmin := by
  obtain ⟨after, outcome, executed, same⟩ := step_decision.mp accepted
  obtain ⟨decision, frozen⟩ := freeze_frozen executed
  rw [← same]
  have root := (frozen.root _).mpr rfl
  have shown := (frozen.contexts _).mpr rfl
  refine ⟨by decide, ⟨rfl, rfl⟩, ?_, ⟨_, shown, rfl⟩, by simp [finalizeOf], by simp [finalizeOf],
    by simp [finalizeOf]⟩
  show Option.map _ (after.root 1 10) = some 1
  rw [show after.root 1 10 = some (frozenRoot patronAdmin decision) from root, Option.map_some]
  show some (decision.aggregateRevision + 1) = some 1
  rw [frozen.checked.revision]
  rfl

theorem oneRole_finalizable :
    ∃ final, step (frozenStore [caseReference, requirementReference])
      (.decision (.finalize (finalizeOf (freezeOf [caseReference, requirementReference]))) patronAdmin) =
        .ok final := by
  have accepted : step (run step .empty draftedCase)
      (.decision (.freeze (freezeOf [caseReference, requirementReference])) patronAdmin) =
        .ok (frozenStore [caseReference, requirementReference]) := commit_of_isOk (by decide +kernel)
  exact (frozen_finalizable_iff draftedCase accepted (by decide +kernel) rfl
    (showsStored_finalizeOf accepted)).mpr (by decide)

/-- The requirement is quoted under two roles: the freeze is accepted, and its finalization refused. -/
theorem twoRoles_not_finalizable :
    caseHasApplicableDce (run step .empty draftedCase) 1 4 = true ∧
      step (run step .empty draftedCase) (.decision (.freeze
        (freezeOf [caseReference, requirementReference, secondRole])) patronAdmin) =
          .ok (frozenStore [caseReference, requirementReference, secondRole]) ∧
      ShowsStored (frozenStore [caseReference, requirementReference, secondRole]) 10 4
        (finalizeOf (freezeOf [caseReference, requirementReference, secondRole])) patronAdmin ∧
      refusal step (frozenStore [caseReference, requirementReference, secondRole])
        (.decision (.finalize (finalizeOf (freezeOf [caseReference, requirementReference, secondRole])))
          patronAdmin) = some (.execution "DCE_REQUIREMENTS_NOT_CONFIRMED") := by
  have accepted : step (run step .empty draftedCase) (.decision (.freeze
      (freezeOf [caseReference, requirementReference, secondRole])) patronAdmin) =
        .ok (frozenStore [caseReference, requirementReference, secondRole]) :=
    commit_of_isOk (by decide +kernel)
  exact ⟨by decide +kernel, accepted, showsStored_finalizeOf accepted, by decide +kernel⟩

end TwoRoles

end SmartAo.Decision
