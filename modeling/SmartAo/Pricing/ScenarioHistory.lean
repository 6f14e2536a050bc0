import SmartAo.Pricing.Scenario

namespace SmartAo.Pricing

open SmartAo.Foundation SmartAo.Platform

/-- Scenario rows are drafts, and the transitions of a scenario lie beyond the version of its row. -/
structure ScenarioHistory (store : PricingStore) : Prop where
  draft : ∀ scenario ∈ store.scenarios, scenario.state = .draft
  owned : ∀ transition ∈ store.scenarioTransitions,
    ∃ scenario ∈ store.scenarios, scenario.id = transition.scenarioId
  beyond : ∀ transition ∈ store.scenarioTransitions, ∀ scenario ∈ store.scenarios,
    scenario.id = transition.scenarioId → scenario.version < transition.version

variable {store next : PricingStore} {context : CommandContext} {outcome : HandlerOutcome}

theorem createPricingScenario_ok {command : CreatePricingScenarioCommand}
    (accepted : createPricingScenario store command context = .ok (next, outcome)) :
    ∃ record : PricingScenarioRecord, record.state = .draft ∧ ∃ scenarios,
      store.scenarios.insert? record = some scenarios ∧ { store with scenarios } = next := by
  simp only [createPricingScenario, bind_ok, raiseIf_ok, exists_unit, orRaise_ok, pure_ok, Prod.mk.injEq,
    flush] at accepted
  obtain ⟨_, _, _, _, _, _, _, _, _, _, scenarios, inserted, same, _⟩ := accepted
  exact ⟨_, rfl, scenarios, inserted, same⟩

theorem transitionPricingScenario_ok {command : TransitionPricingScenarioCommand}
    (accepted : transitionPricingScenario store command context = .ok (next, outcome)) :
    ∃ scenario ∈ store.scenarios, ∃ transition : PricingScenarioTransitionRecord,
      transition.scenarioId = scenario.id ∧
      transition.version = store.currentVersion context.tenantId scenario + 1 ∧ ∃ scenarioTransitions,
        store.scenarioTransitions.insert? transition = some scenarioTransitions ∧
          { store with scenarioTransitions } = next := by
  simp only [transitionPricingScenario, bind_ok, raiseIf_ok, exists_unit, orRaise_ok, pure_ok,
    Prod.mk.injEq, flush] at accepted
  obtain ⟨scenario, found, _, _, _, _, transitions, inserted, same, _⟩ := accepted
  exact ⟨scenario, Table.find?_mem found, _, rfl, rfl, transitions, inserted, same⟩

theorem ScenarioHistory.version_le (history : ScenarioHistory store) {scenario : PricingScenarioRecord}
    (stored : scenario ∈ store.scenarios) (tenantId : Uuid) :
    scenario.version ≤ store.currentVersion tenantId scenario := by
  unfold PricingStore.currentVersion
  cases looked : store.latestTransition tenantId scenario.id with
  | none => exact Nat.le_refl _
  | some latest =>
    obtain ⟨present, matched⟩ := Table.latest_mem looked
    simp only [transitionOf, decide_eq_true_eq] at matched
    exact Nat.le_of_lt (history.beyond latest present scenario stored matched.2.symm)

theorem scenarioHistory_create {command : CreatePricingScenarioCommand} (history : ScenarioHistory store)
    (accepted : createPricingScenario store command context = .ok (next, outcome)) :
    ScenarioHistory next := by
  obtain ⟨record, drafted, scenarios, inserted, rfl⟩ := createPricingScenario_ok accepted
  refine ⟨fun scenario member => ?_, fun transition member => ?_, fun transition member scenario listed same => ?_⟩
  · rcases (Table.mem_insert? inserted).mp member with old | rfl
    · exact history.draft scenario old
    · exact drafted
  · obtain ⟨scenario, stored, same⟩ := history.owned transition member
    exact ⟨scenario, (Table.mem_insert? inserted).mpr (.inl stored), same⟩
  · rcases (Table.mem_insert? inserted).mp listed with old | rfl
    · exact history.beyond transition member scenario old same
    · obtain ⟨owner, stored, named⟩ := history.owned transition member
      exact absurd (.inl (named.trans same.symm)) (Table.insert?_absent inserted owner stored)

theorem scenarioHistory_transition {command : TransitionPricingScenarioCommand}
    (history : ScenarioHistory store)
    (accepted : transitionPricingScenario store command context = .ok (next, outcome)) :
    ScenarioHistory next := by
  obtain ⟨target, stored, appended, named, version, transitions, inserted, rfl⟩ :=
    transitionPricingScenario_ok accepted
  refine ⟨history.draft, fun transition member => ?_, fun transition member scenario listed same => ?_⟩
  · rcases (Table.mem_insert? inserted).mp member with old | rfl
    · exact history.owned transition old
    · exact ⟨target, stored, named.symm⟩
  · rcases (Table.mem_insert? inserted).mp member with old | rfl
    · exact history.beyond transition old scenario listed same
    · have only : scenario = target := Table.eq_of_conflict listed stored (.inl (same.trans named))
      have bound := history.version_le stored context.tenantId
      rw [only, version]
      omega

section

variable {tenantId : Uuid} {scenario : PricingScenarioRecord}

theorem projection_version : (projection store tenantId scenario).version =
    store.currentVersion tenantId scenario := rfl

/-- Without a transition the patron sees the row of the scenario. -/
theorem projection_untouched (none_transitioned : ∀ transition ∈ store.scenarioTransitions,
      transitionOf tenantId scenario.id transition = false) :
    (projection store tenantId scenario).version = scenario.version ∧
      (projection store tenantId scenario).state = scenario.state := by
  have unseen : store.scenarioTransitions.greatest (transitionOf tenantId scenario.id) (·.version) = none :=
    Table.greatest_none.mpr none_transitioned
  unfold projection
  exact ⟨by rw [unseen]; rfl, by rw [unseen]; rfl⟩

/-- With one, a later version than that of the row. -/
theorem ScenarioHistory.projection_beyond (history : ScenarioHistory store)
    (stored : scenario ∈ store.scenarios) {transition : PricingScenarioTransitionRecord}
    (member : transition ∈ store.scenarioTransitions)
    (of : transitionOf tenantId scenario.id transition = true) :
    scenario.version < (projection store tenantId scenario).version := by
  rw [projection_version]
  unfold PricingStore.currentVersion
  cases looked : store.latestTransition tenantId scenario.id with
  | none =>
    have missed := Table.latest_none.mp looked transition member
    rw [of] at missed
    cases missed
  | some latest =>
    obtain ⟨present, matched⟩ := Table.latest_mem looked
    simp only [transitionOf, decide_eq_true_eq] at matched
    exact history.beyond latest present scenario stored matched.2.symm

end

end SmartAo.Pricing
