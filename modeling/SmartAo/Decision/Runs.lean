import SmartAo.Decision.Finalize
import SmartAo.Foundation.Transition
import SmartAo.PatronAction.Projection

namespace SmartAo.Decision

open SmartAo.Foundation SmartAo.Platform SmartAo.Case SmartAo.Dce SmartAo.Pricing SmartAo.PatronAction

inductive CaseWrite where
  | create (id tenantId : Uuid) (scopeFingerprint : String)
  | update (tenantId caseId : Uuid) (expectedRevision : Nat) (changes : CaseChanges)

def CaseWrite.apply (cases : Table CaseRecord) : CaseWrite → Transaction (Table CaseRecord)
  | .create id tenantId scopeFingerprint => createCase cases id tenantId scopeFingerprint
  | .update tenantId caseId expectedRevision changes =>
    updateCaseRoot cases tenantId caseId expectedRevision changes

inductive RiskCommand where
  | register (command : RegisterStructuredRiskCommand)
  | transition (command : TransitionStructuredRiskTreatmentCommand)
  | link (command : LinkRiskToRequirementCommand)

inductive ActionCommand where
  | create (command : CreatePatronActionCommand)
  | transition (command : TransitionPatronActionCommand)

inductive PricingCommand where
  | create (command : CreatePricingScenarioCommand)
  | transition (command : TransitionPricingScenarioCommand)

inductive DecisionCommand where
  | create (command : CreateDecisionCommand)
  | freeze (command : FreezeDecisionContextCommand)
  | finalize (command : FinalizeGoNoGoDecisionCommand)
  | resolve (command : ResolveDecisionConditionCommand)

/-- What a run submits: writes of the case and DCE modules, new source texts and financial
    snapshots, and the commands on risks, patron actions, scenarios and decisions. -/
inductive Input where
  | case (write : CaseWrite)
  | dce (write : DceWrite)
  | foreign (sources : SourceStore) (snapshots : Table FinancialReportSnapshotRecord)
  | risk (command : RiskCommand) (context : CommandContext)
  | action (command : ActionCommand) (context : CommandContext)
  | pricing (command : PricingCommand) (context : CommandContext)
  | decision (command : DecisionCommand) (context : CommandContext)

def Store.executeRisk (store : Store) (context : CommandContext) :
    RiskCommand → Transaction ((RiskStore × ActionStore) × HandlerOutcome)
  | .register command => do
    let (risks, outcome) ← registerStructuredRisk store.cases store.sources store.risks command context
    return ((risks, store.actions), outcome)
  | .transition command => do
    let (risks, outcome) ← transitionStructuredRiskTreatment store.sources store.risks command context
    return ((risks, store.actions), outcome)
  | .link command =>
    linkRiskToRequirement store.cases store.dce store.risks store.actions command context

def executeAction (store : ActionStore) (context : CommandContext) :
    ActionCommand → Transaction (ActionStore × HandlerOutcome)
  | .create command => createPatronAction store command context
  | .transition command => transitionPatronAction store command context

def executePricing (store : PricingStore) (context : CommandContext) :
    PricingCommand → Transaction (PricingStore × HandlerOutcome)
  | .create command => createPricingScenario store command context
  | .transition command => transitionPricingScenario store command context

def Store.executeDecision (store : Store) (context : CommandContext) :
    DecisionCommand → Transaction (DecisionStore × HandlerOutcome)
  | .create command => createDecision store command context
  | .freeze command => freezeDecisionContext store command context
  | .finalize command => finalizeGoNoGoDecision store command context
  | .resolve command => resolveDecisionCondition store.decisions command context

def step (store : Store) : Input → Transaction Store
  | .case write => do
    let cases ← write.apply store.cases
    return { store with cases }
  | .dce write => do
    let dce ← store.dce.write write
    return { store with dce }
  | .foreign sources snapshots =>
    return { store with sources, pricing := { store.pricing with snapshots } }
  | .risk command context => do
    let ((risks, actions), _) ← store.executeRisk context command
    return { store with risks, actions }
  | .action command context => do
    let (actions, _) ← executeAction store.actions context command
    return { store with actions }
  | .pricing command context => do
    let (pricing, _) ← executePricing store.pricing context command
    return { store with pricing }
  | .decision command context => do
    let (decisions, _) ← store.executeDecision context command
    return { store with decisions }

variable {store next : Store} {context : CommandContext}

theorem step_risk {command : RiskCommand} : step store (.risk command context) = .ok next ↔
    ∃ risks actions outcome, store.executeRisk context command = .ok ((risks, actions), outcome) ∧
      { store with risks, actions } = next := by
  simp only [step, bind_ok, pure_ok, Prod.exists]

theorem step_pricing {command : PricingCommand} : step store (.pricing command context) = .ok next ↔
    ∃ pricing outcome, executePricing store.pricing context command = .ok (pricing, outcome) ∧
      { store with pricing } = next := by
  simp only [step, bind_ok, pure_ok, Prod.exists]

theorem step_action {command : ActionCommand} : step store (.action command context) = .ok next ↔
    ∃ actions outcome, executeAction store.actions context command = .ok (actions, outcome) ∧
      { store with actions } = next := by
  simp only [step, bind_ok, pure_ok, Prod.exists]

theorem step_decision {command : DecisionCommand} :
    step store (.decision command context) = .ok next ↔
      ∃ decisions outcome, store.executeDecision context command = .ok (decisions, outcome) ∧
        { store with decisions } = next := by
  simp only [step, bind_ok, pure_ok, Prod.exists]

theorem step_case {write : CaseWrite} : step store (.case write) = .ok next ↔
    ∃ cases, write.apply store.cases = .ok cases ∧ { store with cases } = next := by
  simp only [step, bind_ok, pure_ok]

theorem step_dce {write : DceWrite} : step store (.dce write) = .ok next ↔
    ∃ dce, store.dce.write write = .ok dce ∧ { store with dce } = next := by
  simp only [step, bind_ok, pure_ok]

/-- Only a decision command writes the decision tables. -/
theorem step_decisions {input : Input} (accepted : step store input = .ok next) :
    next.decisions = store.decisions ∨ ∃ command context outcome,
      input = .decision command context ∧
        store.executeDecision context command = .ok (next.decisions, outcome) := by
  cases input with
  | case write =>
    obtain ⟨cases, _, rfl⟩ := step_case.mp accepted
    exact .inl rfl
  | dce write =>
    obtain ⟨dce, _, rfl⟩ := step_dce.mp accepted
    exact .inl rfl
  | foreign sources snapshots =>
    cases accepted
    exact .inl rfl
  | risk command context =>
    obtain ⟨risks, actions, outcome, _, rfl⟩ := step_risk.mp accepted
    exact .inl rfl
  | action command context =>
    obtain ⟨actions, outcome, _, rfl⟩ := step_action.mp accepted
    exact .inl rfl
  | pricing command context =>
    obtain ⟨pricing, outcome, _, rfl⟩ := step_pricing.mp accepted
    exact .inl rfl
  | decision command context =>
    obtain ⟨decisions, outcome, executed, rfl⟩ := step_decision.mp accepted
    exact .inr ⟨command, context, outcome, rfl, executed⟩

/-- What the decision commands preserve of their own tables holds after every run. -/
theorem run_decisions {invariant : DecisionStore → Prop} (initial : invariant .empty)
    (preserved : ∀ (store : Store) command context decisions outcome, invariant store.decisions →
      store.executeDecision context command = .ok (decisions, outcome) → invariant decisions)
    (inputs : List Input) : invariant (run step .empty inputs).decisions := by
  have kept : ∀ store input next, invariant store.decisions → step store input = .ok next →
      invariant next.decisions := by
    intro store input next holds accepted
    rcases step_decisions accepted with same | ⟨command, context, outcome, _, executed⟩
    · rw [same]
      exact holds
    · exact preserved store command context next.decisions outcome holds executed
  exact run_invariant_always kept inputs initial

/-- A risk command touches the patron actions only to open the action of a new link. -/
theorem executeRisk_actions {command : RiskCommand} {risks : RiskStore} {actions : ActionStore}
    {outcome : HandlerOutcome}
    (executed : store.executeRisk context command = .ok ((risks, actions), outcome)) :
    actions = store.actions ∨ ∃ tenantId caseId linkId created,
      createFromRiskRequirementLink store.actions tenantId caseId linkId = .ok (actions, created) := by
  cases command with
  | register command =>
    simp only [Store.executeRisk, bind_ok, Prod.exists, pure_ok, Prod.mk.injEq] at executed
    obtain ⟨_, _, _, ⟨_, same⟩, _⟩ := executed
    exact .inl same.symm
  | transition command =>
    simp only [Store.executeRisk, bind_ok, Prod.exists, pure_ok, Prod.mk.injEq] at executed
    obtain ⟨_, _, _, ⟨_, same⟩, _⟩ := executed
    exact .inl same.symm
  | link command =>
    simp only [Store.executeRisk, linkRiskToRequirement, bind_ok, raiseIf_ok, exists_unit, Prod.exists,
      pure_ok, Prod.mk.injEq] at executed
    obtain ⟨_, _, _, _, _, _, _, _, _, opened, created, written, ⟨_, same⟩, _⟩ := executed
    exact .inr ⟨context.tenantId, command.caseId, command.linkId, created, same ▸ written⟩

/-- The rows of the patron actions show their latest transitions after every run. -/
theorem run_projected (inputs : List Input) : Projected (run step .empty inputs).actions := by
  have kept : ∀ store input next, Projected store.actions → step store input = .ok next →
      Projected next.actions := by
    intro store input next holds accepted
    cases input with
    | case write =>
      obtain ⟨cases, _, rfl⟩ := step_case.mp accepted
      exact holds
    | dce write =>
      obtain ⟨dce, _, rfl⟩ := step_dce.mp accepted
      exact holds
    | foreign sources snapshots =>
      cases accepted
      exact holds
    | risk command context =>
      obtain ⟨risks, actions, outcome, executed, rfl⟩ := step_risk.mp accepted
      rcases executeRisk_actions executed with rfl | ⟨_, _, _, _, written⟩
      · exact holds
      · exact projected_createFromLink holds written
    | action command context =>
      obtain ⟨actions, outcome, executed, rfl⟩ := step_action.mp accepted
      cases command with
      | create command => exact projected_create holds executed
      | transition command => exact projected_transition holds executed
    | pricing command context =>
      obtain ⟨pricing, outcome, _, rfl⟩ := step_pricing.mp accepted
      exact holds
    | decision command context =>
      obtain ⟨decisions, outcome, _, rfl⟩ := step_decision.mp accepted
      exact holds
  have initial : Projected ActionStore.empty :=
    ⟨fun row member => absurd member Table.not_mem_empty, fun row member => absurd member Table.not_mem_empty⟩
  exact run_invariant_always kept inputs initial

/-- Only a risk command writes the risk tables. -/
theorem step_risks {input : Input} (accepted : step store input = .ok next) :
    next.risks = store.risks ∨ ∃ command context actions outcome, input = .risk command context ∧
      store.executeRisk context command = .ok ((next.risks, actions), outcome) := by
  cases input with
  | case write =>
    obtain ⟨cases, _, rfl⟩ := step_case.mp accepted
    exact .inl rfl
  | dce write =>
    obtain ⟨dce, _, rfl⟩ := step_dce.mp accepted
    exact .inl rfl
  | foreign sources snapshots =>
    cases accepted
    exact .inl rfl
  | risk command context =>
    obtain ⟨risks, actions, outcome, executed, rfl⟩ := step_risk.mp accepted
    exact .inr ⟨command, context, actions, outcome, rfl, executed⟩
  | action command context =>
    obtain ⟨actions, outcome, _, rfl⟩ := step_action.mp accepted
    exact .inl rfl
  | pricing command context =>
    obtain ⟨pricing, outcome, _, rfl⟩ := step_pricing.mp accepted
    exact .inl rfl
  | decision command context =>
    obtain ⟨decisions, outcome, _, rfl⟩ := step_decision.mp accepted
    exact .inl rfl

/-- The scenario tables are written by pricing commands; new snapshots leave them. -/
theorem step_scenarios {input : Input} (accepted : step store input = .ok next) :
    (next.pricing.scenarios = store.pricing.scenarios ∧
      next.pricing.scenarioTransitions = store.pricing.scenarioTransitions) ∨
        ∃ command context outcome, executePricing store.pricing context command =
          .ok (next.pricing, outcome) := by
  cases input with
  | case write =>
    obtain ⟨cases, _, rfl⟩ := step_case.mp accepted
    exact .inl ⟨rfl, rfl⟩
  | dce write =>
    obtain ⟨dce, _, rfl⟩ := step_dce.mp accepted
    exact .inl ⟨rfl, rfl⟩
  | foreign sources snapshots =>
    cases accepted
    exact .inl ⟨rfl, rfl⟩
  | risk command context =>
    obtain ⟨risks, actions, outcome, _, rfl⟩ := step_risk.mp accepted
    exact .inl ⟨rfl, rfl⟩
  | action command context =>
    obtain ⟨actions, outcome, _, rfl⟩ := step_action.mp accepted
    exact .inl ⟨rfl, rfl⟩
  | pricing command context =>
    obtain ⟨pricing, outcome, executed, rfl⟩ := step_pricing.mp accepted
    exact .inr ⟨command, context, outcome, executed⟩
  | decision command context =>
    obtain ⟨decisions, outcome, _, rfl⟩ := step_decision.mp accepted
    exact .inl ⟨rfl, rfl⟩

end SmartAo.Decision
