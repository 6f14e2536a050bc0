import SmartAo.Decision.Effects
import SmartAo.Foundation.Sessions

namespace SmartAo.Decision

open SmartAo.Foundation SmartAo.Platform SmartAo.Case SmartAo.Dce SmartAo.Pricing SmartAo.PatronAction

structure DecisionSnapshot where
  root : DecisionRecord
  contexts : List DecisionContextRecord
  contextReferences : List DecisionContextReferenceRecord
  conditions : List DecisionConditionRecord

/-- `SqlAlchemyDecisionRepository.get`: four statements, none of which takes a lock. -/
def getSnapshot (view : Nat → Store) (tenantId decisionId : Uuid) : Option DecisionSnapshot :=
  ((view 0).decisions.root tenantId decisionId).map fun root => {
    root
    contexts := (view 1).decisions.contextsOf tenantId decisionId
    contextReferences := (view 2).decisions.referencesOf tenantId decisionId
    conditions := (view 3).decisions.conditionsOf tenantId decisionId }

/-- `has_confirmed_dce_requirements`: three further statements. -/
def confirmedDceRequirements (view : Nat → Store) (tenantId contextId caseId : Uuid) : Bool :=
  match (view 4).applicableVersion tenantId caseId with
  | none => false
  | some dceVersionId =>
    let ids := (view 5).decisions.requirementIds tenantId contextId
    ids = [] ∨ (confirmedRequirements (view 6).dce tenantId dceVersionId ids).length = ids.length

/-- A finalization checks what its statements saw, and writes to the store it commits in. -/
def finalizeSession (view : Nat → Store) (store : DecisionStore) (command : FinalizeGoNoGoDecisionCommand)
    (context : CommandContext) : Transaction (DecisionStore × HandlerOutcome) := do
  raiseIf ((context.actorKind ≠ .patronAdmin ∧ context.actorKind ≠ .patronDelegate) ∨
    context.membershipId = none) (.execution "PATRON_REQUIRED")
  let snapshot ← orRaise (getSnapshot view context.tenantId command.decisionId)
    (.execution "NOT_FOUND_OR_FORBIDDEN")
  raiseIf (snapshot.root.caseId ≠ command.caseId) (.execution "NOT_FOUND_OR_FORBIDDEN")
  raiseIf (snapshot.root.decisionType ≠ .goNoGo ∨ snapshot.root.lifecycle ≠ .pendingPatron ∨
      snapshot.root.outcome ≠ .undecided ∨ snapshot.root.validity ≠ .current ∨
      snapshot.root.contextStatus ≠ .frozen)
    (.execution "DECISION_NOT_READY_FOR_FINALIZATION")
  let current ← orRaise snapshot.contexts.getLast? (.execution "DECISION_CONTEXT_REQUIRED")
  raiseIf (current.contextState ≠ .frozen ∨
      lower current.contextFingerprint ≠ lower command.displayedFingerprint)
    (.execution "STALE_DECISION_CONTEXT")
  raiseIf (snapshot.contextReferences = []) (.execution "DECISION_CONTEXT_REFERENCES_REQUIRED")
  raiseIf (command.outcome ≠ .conditionalGo ∧ command.conditions.isEmpty = false)
    (.execution "CONDITIONS_ONLY_FOR_CONDITIONAL_GO")
  raiseIf (command.outcome = .conditionalGo ∧ command.conditions.isEmpty = true)
    (.execution "CONDITIONAL_GO_REQUIRES_CONDITIONS")
  let drafts ← conditionDrafts command context
  raiseIf (¬ confirmedDceRequirements view context.tenantId current.id command.caseId)
    (.execution "DCE_REQUIREMENTS_NOT_CONFIRMED")
  let contextId := current.id
  let decisions ← updateRoot store.decisions context.tenantId command.decisionId
    command.expectedRevision (finalizedRoot command context contextId)
    (finalizedRoot_columns command context contextId) (.execution "STALE_DECISION_REVISION")
  let conditions ← flush (store.conditions.insertAll? drafts)
  let revision := command.expectedRevision + 1
  return ({ store with decisions, conditions },
    decisionOutcome command.decisionId revision "DECISION_FINALIZED" [] "DecisionFinalized" [
      ("decision_id", .str command.decisionId.str), ("case_id", .str command.caseId.str),
      ("outcome", .str command.outcome.value), ("condition_count", .int drafts.length),
      ("aggregate_revision", .int revision)])

/-- `SqlAlchemyDecisionConditionRepository.transition` reads the condition again, for update. -/
def lockedCondition (store : DecisionStore) (command : ResolveDecisionConditionCommand)
    (context : CommandContext) : Transaction DecisionConditionRecord := do
  let condition ← orRaise (store.conditions.find? fun row => row.tenantId = context.tenantId ∧
    row.decisionId = command.decisionId ∧ row.id = command.conditionId)
    (.execution "DECISION_CONDITION_ALREADY_RESOLVED")
  raiseIf (condition.status ≠ .open) (.execution "DECISION_CONDITION_ALREADY_RESOLVED")
  return condition

/-- A resolution derives the status of the root from the conditions its statements saw. -/
def resolveSession (view : Nat → Store) (store : DecisionStore) (command : ResolveDecisionConditionCommand)
    (context : CommandContext) : Transaction (DecisionStore × HandlerOutcome) := do
  let snapshot ← orRaise (getSnapshot view context.tenantId command.decisionId)
    (.execution "NOT_FOUND_OR_FORBIDDEN")
  raiseIf (snapshot.root.caseId ≠ command.caseId) (.execution "NOT_FOUND_OR_FORBIDDEN")
  raiseIf (snapshot.root.outcome ≠ .conditionalGo ∨ snapshot.root.lifecycle ≠ .finalized)
    (.execution "DECISION_NOT_CONDITIONAL_GO")
  let condition ← orRaise (snapshot.conditions.find? fun item => item.id = command.conditionId)
    (.execution "DECISION_CONDITION_NOT_FOUND")
  raiseIf (condition.status ≠ .open) (.execution "DECISION_CONDITION_ALREADY_RESOLVED")
  raiseIf (snapshot.root.aggregateRevision ≠ command.expectedRevision)
    (.execution "STALE_DECISION_REVISION")
  raiseIf (command.targetStatus = .satisfied ∧ command.evidenceReference.getD "" = "")
    (.execution "CONDITION_EVIDENCE_REQUIRED")
  raiseIf (command.targetStatus = .failed ∧ command.failureReason.getD "" = "")
    (.execution "CONDITION_FAILURE_REASON_REQUIRED")
  let conditionStatus := derivedConditionStatus (snapshot.conditions.map fun item =>
    if item.id = condition.id then command.targetStatus.status else item.status)
  let membershipId ← orRaise context.membershipId (.execution "DECISION_CONDITION_ALREADY_RESOLVED")
  let evidence := (stripped command.evidenceReference).map fun reference =>
    { reference, recordedAt := isoformat context.receivedAt }
  let failureReason := stripped command.failureReason
  let revision := command.expectedRevision + 1
  let locked ← lockedCondition store command context
  let conditionTransitions ← flush (store.conditionTransitions.insert? {
    id := command.transitionId, tenantId := context.tenantId, decisionId := command.decisionId,
    conditionId := command.conditionId, fromStatus := .open, toStatus := command.targetStatus.status,
    satisfiedEvidence := evidence, failureReason, aggregateRevision := revision, membershipId,
    commandId := command.commandId, idempotencyKey := command.idempotencyKey })
  let decisions ← updateRoot store.decisions context.tenantId command.decisionId
    command.expectedRevision (resolvedRoot context conditionStatus)
    (resolvedRoot_columns context conditionStatus) (.execution "STALE_DECISION_REVISION")
  return ({ store with
      decisions, conditionTransitions
      conditions := store.conditions.update (fun row => row.id = locked.id)
        (resolvedCondition command evidence failureReason) (resolvedCondition_columns _ _ _) },
    decisionOutcome command.decisionId revision "DECISION_CONDITION_RESOLVED"
      [{ aggregateType := "DecisionCondition", aggregateId := command.conditionId.str,
         aggregateRevision := revision }]
      "DecisionConditionResolved" [
        ("decision_id", .str command.decisionId.str), ("condition_id", .str command.conditionId.str),
        ("status", .str command.targetStatus.status.value),
        ("condition_status", .str conditionStatus.value)])

inductive ConditionCommand where
  | finalize (command : FinalizeGoNoGoDecisionCommand) (context : CommandContext)
  | resolve (command : ResolveDecisionConditionCommand) (context : CommandContext)

def ConditionCommand.execute (view : Nat → Store) (store : DecisionStore) :
    ConditionCommand → Transaction (DecisionStore × HandlerOutcome)
  | .finalize command context => finalizeSession view store command context
  | .resolve command context => resolveSession view store command context

/-- The tenant and the decision a command writes to. -/
def ConditionCommand.target : ConditionCommand → Uuid × Uuid
  | .finalize command context => (context.tenantId, command.decisionId)
  | .resolve command context => (context.tenantId, command.decisionId)

def ConditionCommand.input : ConditionCommand → Input
  | .finalize command context => .decision (.finalize command) context
  | .resolve command context => .decision (.resolve command) context

/-- The existing decision an input alone writes to. -/
def Input.target : Input → Option (Uuid × Uuid)
  | .decision (.freeze command) context => some (context.tenantId, command.decisionId)
  | .decision (.finalize command) context => some (context.tenantId, command.decisionId)
  | .decision (.resolve command) context => some (context.tenantId, command.decisionId)
  | _ => none

def finishSession (session : Session Store ConditionCommand) (store : Store) : Transaction Store := do
  let (decisions, _) ← session.command.execute (session.view store) store.decisions
  return { store with decisions }

/-- Finalizations and resolutions interleaved statement by statement, among the commands that run
    alone. -/
def interleave (state : Sessions Store ConditionCommand) (input : SessionInput Input ConditionCommand) :
    Transaction (Sessions Store ConditionCommand) := state.step step finishSession input

/-- The existing decision an input of an interleaving would write to. -/
def writeTarget (state : Sessions Store ConditionCommand) :
    SessionInput Input ConditionCommand → Option (Uuid × Uuid)
  | .alone single => single.target
  | .finish index => (state.active[index]?).map (·.command.target)
  | _ => none

/-- Whether an input commits a write to a decision. -/
def commitsTo (tenantId decisionId : Uuid) (state : Sessions Store ConditionCommand)
    (input : SessionInput Input ConditionCommand) : Bool :=
  (interleave state input).isOk ∧ writeTarget state input = some (tenantId, decisionId)

theorem orRaise_map_bind {α β γ : Type} {value : Option α} {error : CommandError} (change : α → β)
    (rest : β → Transaction γ) :
    (orRaise (value.map change) error >>= rest) = orRaise value error >>= fun found => rest (change found) := by
  cases value <;> rfl

/-- A finalization whose statements all see the store it commits in is the handler. -/
theorem finalizeSession_alone (store : Store) (command : FinalizeGoNoGoDecisionCommand)
    (context : CommandContext) : finalizeSession (fun _ => store) store.decisions command context =
      finalizeGoNoGoDecision store command context := by
  have confirmed : ∀ contextId, confirmedDceRequirements (fun _ => store) context.tenantId contextId
      command.caseId = hasConfirmedDceRequirements store context.tenantId contextId command.caseId :=
    fun _ => rfl
  simp only [finalizeSession, finalizeGoNoGoDecision, finalizeChecks, getSnapshot, orRaise_map_bind, confirmed,
    bind_assoc, pure_bind]

theorem lockedCondition_ok {store : DecisionStore} {command : ResolveDecisionConditionCommand}
    {context : CommandContext} {condition : DecisionConditionRecord} :
    lockedCondition store command context = .ok condition ↔ condition ∈ store.conditions ∧
      condition.tenantId = context.tenantId ∧ condition.decisionId = command.decisionId ∧
      condition.id = command.conditionId ∧ condition.status = .open := by
  simp only [lockedCondition, bind_ok, orRaise_ok, raiseIf_ok, exists_unit, pure_ok, Decidable.not_not]
  constructor
  · rintro ⟨found, located, open_, same⟩
    subst same
    have matched := Table.find?_query located
    simp only [decide_eq_true_eq] at matched
    exact ⟨Table.find?_mem located, matched.1, matched.2.1, matched.2.2, open_⟩
  · rintro ⟨member, tenant, decision, named, open_⟩
    refine ⟨condition, (Table.find?_eq_some ?_).mpr ⟨member, by simp [tenant, decision, named]⟩, open_, rfl⟩
    intro first second hf hs
    simp only [decide_eq_true_eq] at hf hs
    exact hf.2.2.trans hs.2.2.symm

/-- The condition an unlocked read finds open is the one the lock then finds. -/
theorem lockedCondition_listed {store : DecisionStore} {command : ResolveDecisionConditionCommand}
    {context : CommandContext} {condition : DecisionConditionRecord}
    (found : (store.conditionsOf context.tenantId command.decisionId).find?
      (fun item => item.id = command.conditionId) = some condition) (unresolved : condition.status = .open) :
    lockedCondition store command context = .ok condition := by
  have named : condition.id = command.conditionId := by simpa using List.find?_some found
  obtain ⟨member, tenant, decision⟩ := DecisionStore.mem_conditionsOf.mp (List.mem_of_find?_eq_some found)
  exact lockedCondition_ok.mpr ⟨member, tenant, decision, named, unresolved⟩

theorem resolveSession_alone (store : Store) (command : ResolveDecisionConditionCommand)
    (context : CommandContext) : resolveSession (fun _ => store) store.decisions command context =
      resolveDecisionCondition store.decisions command context := by
  simp only [resolveSession, resolveDecisionCondition, getSnapshot, orRaise_map_bind]
  refine bind_congr_ok fun root _ => bind_congr_ok fun _ _ => bind_congr_ok fun _ _ => ?_
  refine bind_congr_ok fun condition found => bind_congr_ok fun _ unresolved => ?_
  rw [orRaise_ok] at found
  rw [raiseIf_ok, Decidable.not_not] at unresolved
  simp only [bind_of_ok (lockedCondition_listed found unresolved)]

section

variable {view : Nat → Store} {store result : DecisionStore} {context : CommandContext} {outcome : HandlerOutcome}

/-- An accepted finalization read a pending root; it settled the root it found at its revision, and
    appended its conditions. -/
theorem finalizeSession_ok {command : FinalizeGoNoGoDecisionCommand}
    (accepted : finalizeSession view store command context = .ok (result, outcome)) :
    ∃ root contextId drafts decisions conditions,
      (view 0).decisions.root context.tenantId command.decisionId = some root ∧
        root.lifecycle = .pendingPatron ∧
        (command.outcome = .conditionalGo ↔ command.conditions ≠ []) ∧
        conditionDrafts command context = .ok drafts ∧
        updateRoot store.decisions context.tenantId command.decisionId command.expectedRevision
          (finalizedRoot command context contextId) (finalizedRoot_columns command context contextId)
          (.execution "STALE_DECISION_REVISION") = .ok decisions ∧
        store.conditions.insertAll? drafts = some conditions ∧
        { store with decisions, conditions } = result := by
  simp only [finalizeSession, getSnapshot, orRaise_map_bind, bind_ok, raiseIf_ok, exists_unit, orRaise_ok,
    Decidable.not_not, not_or, pure_ok, Prod.mk.injEq, flush] at accepted
  obtain ⟨_, root, found, _, ⟨_, pending, _⟩, current, _, _, _, unconditional, conditional, drafts, drafted, _,
    decisions, updated, conditions, inserted, same, _⟩ := accepted
  refine ⟨root, current.id, drafts, decisions, conditions, found, pending, ?_, drafted, updated, inserted, same⟩
  rw [ne_eq, ← List.isEmpty_iff, Bool.not_eq_true]
  constructor
  · intro go
    exact Bool.eq_false_iff.mpr fun empty => conditional ⟨go, empty⟩
  · intro listed
    by_contra other
    exact unconditional ⟨other, listed⟩

/-- An accepted resolution read the root at the revision it expects; it resolved the open condition it
    locked, and derived the status of the root from the conditions it read. -/
theorem resolveSession_ok {command : ResolveDecisionConditionCommand}
    (accepted : resolveSession view store command context = .ok (result, outcome)) :
    ∃ root locked evidence failureReason transition decisions conditionTransitions,
      (view 0).decisions.root context.tenantId command.decisionId = some root ∧
        root.outcome = .conditionalGo ∧ root.lifecycle = .finalized ∧
        root.aggregateRevision = command.expectedRevision ∧
        (locked ∈ store.conditions ∧ locked.tenantId = context.tenantId ∧
          locked.decisionId = command.decisionId ∧ locked.id = command.conditionId ∧ locked.status = .open) ∧
        transition.conditionId = locked.id ∧
        store.conditionTransitions.insert? transition = some conditionTransitions ∧
        updateRoot store.decisions context.tenantId command.decisionId command.expectedRevision
          (resolvedRoot context (derivedConditionStatus
            (((view 3).decisions.conditionsOf context.tenantId command.decisionId).map fun item =>
              if item.id = locked.id then command.targetStatus.status else item.status)))
          (resolvedRoot_columns context _) (.execution "STALE_DECISION_REVISION") = .ok decisions ∧
        { store with
          decisions, conditionTransitions
          conditions := store.conditions.update (fun row => row.id = locked.id)
            (resolvedCondition command evidence failureReason) (resolvedCondition_columns _ _ _) } = result := by
  simp only [resolveSession, getSnapshot, orRaise_map_bind, bind_ok, raiseIf_ok, exists_unit, orRaise_ok,
    Decidable.not_not, not_or, pure_ok, Prod.mk.injEq, flush, lockedCondition_ok] at accepted
  obtain ⟨root, found, _, ⟨outcome, finalized⟩, condition, listed, _, revision, _, _, _, _, locked, lock,
    transitions, inserted, decisions, updated, same, _⟩ := accepted
  have named : condition.id = locked.id := by
    have matched : condition.id = command.conditionId := by simpa using List.find?_some listed
    exact matched.trans lock.2.2.2.1.symm
  rw [named] at updated
  exact ⟨root, locked, _, _, _, decisions, transitions, found, outcome, finalized, revision, lock,
    lock.2.2.2.1.symm, inserted, updated, same⟩

end

end SmartAo.Decision
