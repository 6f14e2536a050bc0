import SmartAo.Pricing.ScenarioSelection

namespace SmartAo.Pricing

open SmartAo.Foundation SmartAo.Platform

def scenarioSteps : Steps PricingScenarioTransitionRecord ScenarioState where
  version row := row.version
  before row := row.fromState
  after row := row.toState

/-- A transition leads to another state, never from the archive and never back to the draft. -/
def Moves (before after : ScenarioState) : Prop := before ≠ .archived ∧ after ≠ before ∧ after ≠ .draft

def PricingStore.transitionsOf (store : PricingStore) (scenario : PricingScenarioRecord) :
    List PricingScenarioTransitionRecord :=
  store.scenarioTransitions.rows.filter (transitionOf scenario.tenantId scenario.id)

/-- The transitions of a scenario form one chain from its row, and a case has at most one selected scenario. -/
structure SelectionHistory (store : PricingStore) : Prop where
  drafted : ∀ scenario ∈ store.scenarios, scenario.state = .draft
  owned : ∀ transition ∈ store.scenarioTransitions, ∃ scenario ∈ store.scenarios, scenario.id = transition.scenarioId
  chained : ∀ scenario ∈ store.scenarios,
    scenarioSteps.Chain Moves (scenario.version, .draft) (store.transitionsOf scenario)
  one : ∀ first ∈ store.scenarios, ∀ second ∈ store.scenarios, first.tenantId = second.tenantId →
    first.caseId = second.caseId → store.currentState first.tenantId first = .selected →
    store.currentState second.tenantId second = .selected → first = second

/-- Scenarios and transitions are only ever added. -/
structure Grown (old new : PricingStore) : Prop where
  scenarios : old.scenarios.rows <+: new.scenarios.rows
  transitions : old.scenarioTransitions.rows <+: new.scenarioTransitions.rows

/-- A locked scenario keeps its transitions. -/
def KeptScenario (row : Touched Uuid) (old new : PricingStore) : Prop :=
  ∀ scenarioId, row = .row scenarioId → ∀ tenantId,
    new.scenarioTransitions.rows.filter (transitionOf tenantId scenarioId) =
      old.scenarioTransitions.rows.filter (transitionOf tenantId scenarioId)

variable {store next old new later : PricingStore} {context : CommandContext} {scenario other : PricingScenarioRecord}
  {tenantId : Uuid} {view : Nat → PricingStore}

theorem Grown.refl (store : PricingStore) : Grown store store := ⟨List.prefix_rfl, List.prefix_rfl⟩

theorem Grown.trans (first : Grown old new) (second : Grown new later) : Grown old later :=
  ⟨first.scenarios.trans second.scenarios, first.transitions.trans second.transitions⟩

theorem KeptScenario.refl (row : Touched Uuid) (store : PricingStore) : KeptScenario row store store :=
  fun _ _ _ => rfl

theorem KeptScenario.trans {row : Touched Uuid} (first : KeptScenario row old new) (second : KeptScenario row new later) :
    KeptScenario row old later :=
  fun scenarioId its tenantId => (second scenarioId its tenantId).trans (first scenarioId its tenantId)

theorem currentState_congr (same : new.scenarioTransitions.rows.filter (transitionOf tenantId scenario.id) =
    old.scenarioTransitions.rows.filter (transitionOf tenantId scenario.id)) :
    new.currentState tenantId scenario = old.currentState tenantId scenario := by
  unfold PricingStore.currentState PricingStore.latestTransition Table.latest
  rw [same]

/-- What holds at both ends of a growth holds between them. -/
theorem KeptScenario.between {scenarioId : Uuid} (kept : KeptScenario (.row scenarioId) old later)
    (first : Grown old new) (second : Grown new later) : KeptScenario (.row scenarioId) new later := by
  rintro _ ⟨⟩ tenantId
  have below := first.transitions.filter (transitionOf tenantId scenarioId)
  have above := second.transitions.filter (transitionOf tenantId scenarioId)
  rw [← kept scenarioId rfl tenantId] at below
  exact (below.eq_of_length_le above.length_le).trans rfl

/-- The state a scenario shows is where its chain ends. -/
theorem currentState_position (drafted : scenario.state = .draft)
    (chain : scenarioSteps.Chain Moves (scenario.version, .draft) (store.transitionsOf scenario)) :
    store.currentState scenario.tenantId scenario =
      (scenarioSteps.position (scenario.version, .draft) (store.transitionsOf scenario)).2 := by
  unfold PricingStore.transitionsOf
  rw [← Steps.Chain.shown chain, Steps.shown_snd, ← drafted]
  rfl

theorem selectionHistory_empty : SelectionHistory .empty where
  drafted _ member := absurd member Table.not_mem_empty
  owned _ member := absurd member Table.not_mem_empty
  chained _ member := absurd member Table.not_mem_empty
  one _ member := absurd member Table.not_mem_empty

theorem SelectionHistory.unmoved (history : SelectionHistory store) (scenarios : next.scenarios = store.scenarios)
    (transitions : next.scenarioTransitions = store.scenarioTransitions) : SelectionHistory next := by
  have shown : ∀ scenario : PricingScenarioRecord, next.currentState scenario.tenantId scenario =
      store.currentState scenario.tenantId scenario := fun scenario => currentState_congr (by rw [transitions])
  refine ⟨?_, ?_, ?_, fun first one second two => ?_⟩
  · rw [scenarios]
    exact history.drafted
  · rw [scenarios, transitions]
    exact history.owned
  · unfold PricingStore.transitionsOf
    rw [scenarios, transitions]
    exact history.chained
  · rw [scenarios] at one two
    rw [shown, shown]
    exact history.one first one second two

/-- What a transition writes, from what its statements read. -/
structure TransitionWritten (view : Nat → PricingStore) (store next : PricingStore)
    (command : TransitionPricingScenarioCommand) (context : CommandContext) (scenario : PricingScenarioRecord)
    (record : PricingScenarioTransitionRecord) : Prop where
  read : (view 0).scenario? context.tenantId command.scenarioId = some scenario
  inserted : store.scenarioTransitions.insert? record = some next.scenarioTransitions
  scenarios : next.scenarios = store.scenarios
  tenantId : record.tenantId = context.tenantId
  scenarioId : record.scenarioId = scenario.id
  version : record.version = (view 1).currentVersion context.tenantId scenario + 1
  before : record.fromState = (view 1).currentState context.tenantId scenario
  move : Moves record.fromState record.toState
  selects : record.toState = .selected → command.targetState = .selected ∧
    siblingSelected view context.tenantId ((view 2).siblings context.tenantId scenario) = false

theorem transitionSession_ok {command : TransitionPricingScenarioCommand}
    (accepted : transitionSession view store command context = .ok next) :
    ∃ scenario record, TransitionWritten view store next command context scenario record := by
  simp only [transitionSession, bind_ok, raiseIf_ok, exists_unit, orRaise_ok, pure_ok, flush, not_and,
    Bool.not_eq_true] at accepted
  obtain ⟨scenario, read, _, archived, same, clear, transitions, inserted, rfl⟩ := accepted
  have move : Moves ((view 1).currentState context.tenantId scenario) command.targetState.toState :=
    ⟨archived, same, by cases command.targetState <;> decide⟩
  have selects : command.targetState.toState = .selected → command.targetState = .selected := by
    cases command.targetState <;> decide
  exact ⟨scenario, _, read, inserted, rfl, rfl, rfl, rfl, rfl, move, fun is => ⟨selects is, clear (selects is)⟩⟩

theorem createScenarioSession_ok {command : CreatePricingScenarioCommand}
    (accepted : createScenarioSession view store command context = .ok next) :
    ∃ record : PricingScenarioRecord, record.state = .draft ∧ store.scenarios.insert? record = some next.scenarios ∧
      next.scenarioTransitions = store.scenarioTransitions := by
  simp only [createScenarioSession, createdScenario, bind_ok, raiseIf_ok, exists_unit, orRaise_ok, pure_ok,
    flush] at accepted
  obtain ⟨_, _, _, _, _, ⟨_, _, _, _, rfl⟩, _, _, scenarios, inserted, rfl⟩ := accepted
  exact ⟨_, rfl, inserted, rfl⟩

theorem scenario?_some {scenarioId : Uuid} (found : store.scenario? tenantId scenarioId = some scenario) :
    scenario ∈ store.scenarios ∧ scenario.tenantId = tenantId ∧ scenario.id = scenarioId := by
  have query := Table.find?_query found
  rw [decide_eq_true_eq] at query
  exact ⟨Table.find?_mem found, query⟩

section Locks

variable {state : PricingSessions} {locker : Locker PricingStore ScenarioTransaction (Touched Uuid)} {own : Nat}
  {command : TransitionPricingScenarioCommand}

/-- A transition that has begun holds the row of its scenario. -/
theorem scenario_held (locked : state.Locked scenarioScript KeptScenario) (member : locker ∈ state.active)
    (its : locker.command = ⟨own, .transition command context⟩) (begun : 0 < locker.held.length)
    (read : (heldView locker.held state.store 0).scenario? context.tenantId command.scenarioId = some scenario) :
    locker.holds (.row scenario.id) = true := by
  have first : locker.held[0]? = some (locker.held[0].1, locker.held[0].2) := List.getElem?_eq_getElem begun
  have named := locked.scripted locker member 0 _ _ first
  rw [heldView_of_lt begun] at read
  simp only [scenarioScript, its, transitionStatement, List.take_zero, List.length_nil, heldView, List.getElem?_nil,
    Option.map_none, Option.getD_none, read, Option.bind_some, Option.some.injEq] at named
  have present : (.row scenario.id, locker.held[0].2) ∈ locker.held := by
    rw [named]
    exact List.getElem_mem begun
  exact Locker.holds_iff.mpr ⟨_, present⟩

/-- The statement after those that found the siblings locks each of them. -/
theorem sibling_held (locked : state.Locked scenarioScript KeptScenario) (member : locker ∈ state.active)
    (its : locker.command = ⟨own, .transition command context⟩)
    (read : (heldView locker.held state.store 0).scenario? context.tenantId command.scenarioId = some scenario)
    {index : Nat} {sibling : PricingScenarioRecord}
    (listed : ((heldView locker.held state.store 2).siblings context.tenantId scenario)[index]? = some sibling)
    (ran : 3 + index < locker.held.length) :
    (.row sibling.id, heldView locker.held state.store (3 + index)) ∈ locker.held := by
  have entry : locker.held[3 + index]? = some (locker.held[3 + index].1, locker.held[3 + index].2) :=
    List.getElem?_eq_getElem ran
  have named := locked.scripted locker member (3 + index) _ _ entry
  have within : 3 + index ≤ locker.held.length := by omega
  have length : (locker.held.take (3 + index)).length = index + 3 := by
    rw [List.length_take]
    omega
  simp only [scenarioScript, its, length, transitionStatement, heldView_take state.store (by omega : 0 < 3 + index) within,
    heldView_take state.store (by omega : 2 < 3 + index) within, read, Option.bind_some, listed, Option.some.injEq] at named
  rw [heldView_of_lt ran, named]
  exact List.getElem_mem ran

/-- A transition that has no statement left has read its scenario and, when it selects, every sibling. -/
theorem statements_done (done : scenarioScript.next locker.command locker.held store = none)
    (its : locker.command = ⟨own, .transition command context⟩)
    (read : (heldView locker.held store 0).scenario? context.tenantId command.scenarioId = some scenario) :
    0 < locker.held.length ∧ (command.targetState = .selected →
      3 + 2 * ((heldView locker.held store 2).siblings context.tenantId scenario).length ≤ locker.held.length) := by
  simp only [scenarioScript, its, transitionStatement, read, Option.bind_some] at done
  split at done
  · cases done
  · cases done
  · rename_i two
    rw [two]
    refine ⟨by omega, fun selected => ?_⟩
    rw [if_pos selected] at done
    cases done
  · rename_i later count
    rw [count]
    refine ⟨by omega, fun selected => ?_⟩
    split at done
    · cases done
    · split at done
      · cases done
      · omega

/-- No sibling that a selection found is selected when it ends. -/
theorem siblings_clear (locked : state.Locked scenarioScript KeptScenario) (ordered : state.Ordered Grown)
    (member : locker ∈ state.active) (its : locker.command = ⟨own, .transition command context⟩)
    (read : (heldView locker.held state.store 0).scenario? context.tenantId command.scenarioId = some scenario)
    (ran : 3 + ((heldView locker.held state.store 2).siblings context.tenantId scenario).length ≤ locker.held.length)
    (clear : siblingSelected (heldView locker.held state.store) context.tenantId
      ((heldView locker.held state.store 2).siblings context.tenantId scenario) = false) :
    ∀ sibling ∈ (heldView locker.held state.store 2).siblings context.tenantId scenario,
      locker.holds (.row sibling.id) = true ∧ state.store.currentState context.tenantId sibling ≠ .selected := by
  intro sibling listed
  obtain ⟨index, found⟩ := List.mem_iff_getElem?.mp listed
  have inside := (List.getElem?_eq_some_iff.mp found).1
  have held := sibling_held locked member its read found (by omega)
  refine ⟨Locker.holds_iff.mpr ⟨_, held⟩, fun selected => ?_⟩
  set length := ((heldView locker.held state.store 2).siblings context.tenantId scenario).length
  have kept : KeptScenario (.row sibling.id) (heldView locker.held state.store (3 + length + index)) state.store :=
    (locked.kept locker member _ held).between
      (ordered.view Grown.refl member (by omega)) (ordered.store Grown.refl member _)
  have same := currentState_congr (kept sibling.id rfl context.tenantId)
  have found : siblingSelected (heldView locker.held state.store) context.tenantId
      ((heldView locker.held state.store 2).siblings context.tenantId scenario) = true :=
    siblingSelected_iff.mpr ⟨index, sibling, found, same.symm.trans selected⟩
  rw [found] at clear
  cases clear

end Locks

/-- While a selection is open, no scenario of its case that it did not find is selected. -/
def Fresh (state : PricingSessions) : Prop :=
  ∀ locker ∈ state.active, ∀ own command context, locker.command = ⟨own, .transition command context⟩ →
    2 < locker.held.length → ∀ scenario,
      (heldView locker.held state.store 0).scenario? context.tenantId command.scenarioId = some scenario →
      ∀ other ∈ state.store.scenarios, other.tenantId = context.tenantId → other.caseId = scenario.caseId →
        other ∉ (heldView locker.held state.store 2).scenarios → state.store.currentState other.tenantId other ≠ .selected

structure Selecting (state : PricingSessions) : Prop where
  history : SelectionHistory state.store
  locked : state.Locked scenarioScript KeptScenario
  ordered : state.Ordered Grown
  fresh : Fresh state

section Writes

variable {record : PricingScenarioTransitionRecord} {command : TransitionPricingScenarioCommand}

theorem SelectionHistory.eq_of_id (_ : SelectionHistory store) (one : scenario ∈ store.scenarios)
    (two : other ∈ store.scenarios) (same : scenario.id = other.id) : scenario = other :=
  Table.eq_of_conflict one two (.inl same)

theorem transitionOf_iff {transition : PricingScenarioTransitionRecord} {scenarioId : Uuid} :
    transitionOf tenantId scenarioId transition = true ↔
      transition.tenantId = tenantId ∧ transition.scenarioId = scenarioId := by
  simp [transitionOf]

/-- A scenario without a row yet has no transition. -/
theorem SelectionHistory.untouched (history : SelectionHistory store)
    (absent : ∀ stored ∈ store.scenarios, stored.id ≠ scenario.id) : store.transitionsOf scenario = [] := by
  refine List.filter_eq_nil_iff.mpr fun transition member matched => ?_
  obtain ⟨owner, stored, named⟩ := history.owned transition member
  exact absent owner stored (named.trans (transitionOf_iff.mp matched).2)

theorem SelectionHistory.create {record : PricingScenarioRecord} (history : SelectionHistory store)
    (drafted : record.state = .draft) (inserted : store.scenarios.insert? record = some next.scenarios)
    (transitions : next.scenarioTransitions = store.scenarioTransitions) :
    SelectionHistory next ∧ next.currentState record.tenantId record = .draft := by
  have absent : ∀ stored ∈ store.scenarios, stored.id ≠ record.id := fun stored member same =>
    Table.insert?_absent inserted stored member (.inl same)
  have same : ∀ scenario, next.transitionsOf scenario = store.transitionsOf scenario := by
    intro scenario
    unfold PricingStore.transitionsOf
    rw [transitions]
  have empty : next.transitionsOf record = [] := (same record).trans (history.untouched absent)
  have chain : scenarioSteps.Chain Moves (record.version, .draft) (next.transitionsOf record) := by
    rw [empty]
    exact .nil
  have shown : next.currentState record.tenantId record = .draft := by
    rw [currentState_position drafted chain, empty, Steps.position_nil]
  have still : ∀ scenario : PricingScenarioRecord, next.currentState scenario.tenantId scenario =
      store.currentState scenario.tenantId scenario := fun scenario => currentState_congr (by rw [transitions])
  refine ⟨⟨fun scenario member => ?_, fun transition member => ?_, fun scenario member => ?_,
    fun first one second two tenant owner selected also => ?_⟩, shown⟩
  · rcases (Table.mem_insert? inserted).mp member with old | rfl
    · exact history.drafted scenario old
    · exact drafted
  · rw [transitions] at member
    obtain ⟨scenario, stored, named⟩ := history.owned transition member
    exact ⟨scenario, (Table.mem_insert? inserted).mpr (.inl stored), named⟩
  · rcases (Table.mem_insert? inserted).mp member with old | rfl
    · rw [same]
      exact history.chained scenario old
    · exact chain
  · rcases (Table.mem_insert? inserted).mp one with old | rfl
    · rcases (Table.mem_insert? inserted).mp two with older | rfl
      · rw [still] at selected also
        exact history.one first old second older tenant owner selected also
      · rw [shown] at also
        cases also
    · rw [shown] at selected
      cases selected

namespace TransitionWritten

theorem stored (written : TransitionWritten view store next command context scenario record)
    (read : Grown (view 0) store) : scenario ∈ store.scenarios ∧ scenario.tenantId = context.tenantId := by
  obtain ⟨member, tenant, _⟩ := scenario?_some written.read
  exact ⟨read.scenarios.subset member, tenant⟩

/-- The other scenarios keep their transitions. -/
theorem elsewhere (written : TransitionWritten view store next command context scenario record) {scenarioId : Uuid}
    (apart : scenarioId ≠ scenario.id) : next.scenarioTransitions.rows.filter (transitionOf tenantId scenarioId) =
      store.scenarioTransitions.rows.filter (transitionOf tenantId scenarioId) := by
  have outside : transitionOf tenantId scenarioId record = false := by
    rw [Bool.eq_false_iff, Ne, transitionOf_iff, written.scenarioId]
    exact fun both => apart both.2.symm
  rw [Table.filter_insert? written.inserted, outside]
  simp

theorem extends_chain (written : TransitionWritten view store next command context scenario record)
    (history : SelectionHistory store) (read : Grown (view 0) store) (older : Grown (view 1) store) :
    next.transitionsOf scenario = store.transitionsOf scenario ++ [record] ∧
      scenarioSteps.Chain Moves (scenario.version, .draft) (next.transitionsOf scenario) := by
  obtain ⟨stored, tenant⟩ := written.stored read
  have drafted := history.drafted scenario stored
  have inside : transitionOf scenario.tenantId scenario.id record = true :=
    transitionOf_iff.mpr ⟨written.tenantId.trans tenant.symm, written.scenarioId⟩
  have extended := (history.chained scenario stored).insert older.transitions written.inserted inside
    (fun stored _ matched equal => ?_) ?_ ?_ written.move
  · exact ⟨extended.1, extended.2.1⟩
  · obtain ⟨same, named⟩ := transitionOf_iff.mp matched
    exact .inr ⟨(same.trans tenant).trans written.tenantId.symm,
      .inl (Prod.ext (named.trans written.scenarioId.symm) equal)⟩
  · rw [Steps.shown_fst, tenant]
    exact written.version
  · rw [Steps.shown_snd, tenant, ← drafted]
    exact written.before

theorem current (written : TransitionWritten view store next command context scenario record)
    (history : SelectionHistory store) (read : Grown (view 0) store) (older : Grown (view 1) store) :
    next.currentState scenario.tenantId scenario = record.toState := by
  obtain ⟨rows, chain⟩ := written.extends_chain history read older
  rw [currentState_position (history.drafted scenario (written.stored read).1) chain, rows, Steps.position_concat]
  rfl

theorem history (written : TransitionWritten view store next command context scenario record)
    (history : SelectionHistory store) (read : Grown (view 0) store) (older : Grown (view 1) store)
    (clear : record.toState = .selected → ∀ other ∈ store.scenarios, other ≠ scenario →
      other.tenantId = scenario.tenantId → other.caseId = scenario.caseId →
        store.currentState other.tenantId other ≠ .selected) : SelectionHistory next := by
  obtain ⟨stored, tenant⟩ := written.stored read
  have shown := written.current history read older
  have apart : ∀ other ∈ store.scenarios, other ≠ scenario → other.id ≠ scenario.id :=
    fun other member different same => different (history.eq_of_id member stored same)
  have still : ∀ other ∈ store.scenarios, other ≠ scenario →
      next.currentState other.tenantId other = store.currentState other.tenantId other :=
    fun other member different => currentState_congr (written.elsewhere (apart other member different))
  refine ⟨?_, fun transition member => ?_, fun other member => ?_, fun first one second two tenants cases selected also => ?_⟩
  · rw [written.scenarios]
    exact history.drafted
  · rw [written.scenarios]
    rcases (Table.mem_insert? written.inserted).mp member with old | rfl
    · exact history.owned transition old
    · exact ⟨scenario, stored, written.scenarioId.symm⟩
  · rw [written.scenarios] at member
    by_cases same : other = scenario
    · rw [same]
      exact (written.extends_chain history read older).2
    · have kept : next.transitionsOf other = store.transitionsOf other := written.elsewhere (apart other member same)
      rw [kept]
      exact history.chained other member
  · rw [written.scenarios] at one two
    by_cases its : first = scenario <;> by_cases and : second = scenario
    · rw [its, and]
    · rw [its, shown] at selected
      rw [still second two and] at also
      rw [its] at tenants cases
      exact absurd also (clear selected second two and tenants.symm cases.symm)
    · rw [and, shown] at also
      rw [still first one its] at selected
      rw [and] at tenants cases
      exact absurd selected (clear also first one its tenants cases)
    · rw [still first one its] at selected
      rw [still second two and] at also
      exact history.one first one second two tenants cases selected also

end TransitionWritten

end Writes

section Finish

variable {state : PricingSessions} {index : Nat} {locker : Locker PricingStore ScenarioTransaction (Touched Uuid)}

/-- What the end of a scenario transaction does. -/
structure Finished (state : PricingSessions) (index : Nat) (next : PricingStore) : Prop where
  history : SelectionHistory next
  grown : Grown state.store next
  fresh : Fresh ⟨next, state.active.eraseIdx index⟩

/-- The stores that open transactions saw are stages of one growth. -/
theorem Grown.comparable (one : Grown old store) (two : Grown new store) :
    old.scenarios.rows <+: new.scenarios.rows ∨ new.scenarios.rows <+: old.scenarios.rows :=
  List.prefix_or_prefix_of_prefix one.scenarios two.scenarios

/-- A later store keeps what an open transaction read, once it has read it. -/
theorem heldView_move (store : PricingStore) {statement : Nat} (ran : statement < locker.held.length) :
    heldView locker.held next statement = heldView locker.held store statement := by
  rw [heldView_of_lt ran, heldView_of_lt ran]

theorem Selecting.fresh_of (selecting : Selecting state)
    (settled : ∀ locker ∈ state.active.eraseIdx index, ∀ own command context,
      locker.command = ⟨own, .transition command context⟩ → 2 < locker.held.length → ∀ scenario,
      (heldView locker.held state.store 0).scenario? context.tenantId command.scenarioId = some scenario →
      ∀ other ∈ next.scenarios, other.tenantId = context.tenantId → other.caseId = scenario.caseId →
        other ∉ (heldView locker.held state.store 2).scenarios → next.currentState other.tenantId other = .selected →
        other ∈ state.store.scenarios ∧ state.store.currentState other.tenantId other = .selected) :
    Fresh ⟨next, state.active.eraseIdx index⟩ := by
  intro locker member own command context its ran scenario read other stored tenant owner unseen selected
  rw [heldView_move state.store (by omega)] at read unseen
  obtain ⟨old, before⟩ := settled locker member own command context its ran scenario read other stored tenant owner
    unseen selected
  exact selecting.fresh locker (List.eraseIdx_subset member) own command context its ran scenario read other old tenant
    owner unseen before

theorem Selecting.create (selecting : Selecting state) {record : PricingScenarioRecord} (drafted : record.state = .draft)
    (inserted : state.store.scenarios.insert? record = some next.scenarios)
    (transitions : next.scenarioTransitions = state.store.scenarioTransitions) : Finished state index next := by
  obtain ⟨history, shown⟩ := selecting.history.create drafted inserted transitions
  refine ⟨history, ⟨?_, by rw [transitions]⟩, selecting.fresh_of ?_⟩
  · rw [Table.insert?_rows inserted]
    exact List.prefix_append _ _
  · intro locker _ own command context _ _ scenario _ other stored _ _ _ selected
    rcases (Table.mem_insert? inserted).mp stored with old | rfl
    · exact ⟨old, (currentState_congr (by rw [transitions])).trans selected⟩
    · rw [shown] at selected
      cases selected

section Transition

variable {own : Nat} {command : TransitionPricingScenarioCommand} {record : PricingScenarioTransitionRecord}

/-- A selection that ends found the scenario of every other open one, or was found by it: it cannot miss the scenario
    that one has locked. -/
theorem Selecting.found (selecting : Selecting state) (picked : state.active[index]? = some locker)
    (read : (heldView locker.held state.store 0).scenario? context.tenantId command.scenarioId = some scenario)
    (holds : ∀ sibling ∈ (heldView locker.held state.store 2).siblings context.tenantId scenario,
      locker.holds (.row sibling.id) = true)
    {rival : Locker PricingStore ScenarioTransaction (Touched Uuid)} (opened : rival ∈ state.active.eraseIdx index)
    {their : Nat} {request : TransitionPricingScenarioCommand} {asked : CommandContext}
    (theirs : rival.command = ⟨their, .transition request asked⟩) (ran : 2 < rival.held.length)
    (target : (heldView rival.held state.store 0).scenario? asked.tenantId request.scenarioId = some other)
    (tenant : scenario.tenantId = asked.tenantId) (owner : scenario.caseId = other.caseId) :
    scenario ∈ (heldView rival.held state.store 2).scenarios := by
  by_contra unseen
  have member := List.mem_of_getElem? picked
  have active := List.eraseIdx_subset opened
  have grown : ∀ locker ∈ state.active, ∀ statement,
      Grown (heldView locker.held state.store statement) state.store :=
    fun locker member => selecting.ordered.store Grown.refl member
  obtain ⟨first, itsTenant, _⟩ := scenario?_some read
  obtain ⟨second, theirTenant, _⟩ := scenario?_some target
  have listed : scenario ∈ (heldView locker.held state.store 2).scenarios :=
    (selecting.ordered.view Grown.refl member (by omega)).scenarios.subset first
  have sees : other ∈ (heldView rival.held state.store 2).scenarios :=
    (selecting.ordered.view Grown.refl active (by omega)).scenarios.subset second
  have below : other ∈ (heldView locker.held state.store 2).scenarios := by
    rcases (grown rival active 2).comparable (grown locker member 2) with before | after
    · exact before.subset sees
    · exact absurd (after.subset listed) unseen
  have apart : other.id ≠ scenario.id := by
    intro same
    have equal : other = scenario := selecting.history.eq_of_id ((grown rival active 0).scenarios.subset second)
      ((grown locker member 0).scenarios.subset first) same
    rw [equal] at sees
    exact unseen sees
  have sibling := mem_siblings.mpr ⟨below, theirTenant.trans (tenant.symm.trans itsTenant), owner.symm, apart⟩
  have mine := holds other sibling
  have held := scenario_held selecting.locked active theirs (by omega) target
  rw [selecting.locked.picked picked rival opened _ mine] at held
  cases held

theorem Selecting.transition (selecting : Selecting state) (picked : state.active[index]? = some locker)
    (its : locker.command = ⟨own, .transition command context⟩)
    (done : scenarioScript.next locker.command locker.held state.store = none)
    (written : TransitionWritten (heldView locker.held state.store) state.store next command context scenario record) :
    Finished state index next ∧ ∀ row, locker.holds row = false → KeptScenario row state.store next := by
  have member := List.mem_of_getElem? picked
  have grown := selecting.ordered.store Grown.refl member
  obtain ⟨stored, tenant⟩ := written.stored (grown 0)
  obtain ⟨begun, ran⟩ := statements_done done its written.read
  have held := scenario_held selecting.locked member its begun written.read
  have locked : command.targetState = .selected →
      siblingSelected (heldView locker.held state.store) context.tenantId
        ((heldView locker.held state.store 2).siblings context.tenantId scenario) = false →
      ∀ sibling ∈ (heldView locker.held state.store 2).siblings context.tenantId scenario,
        locker.holds (.row sibling.id) = true ∧ state.store.currentState context.tenantId sibling ≠ .selected := by
    intro selected clear
    have all := ran selected
    exact siblings_clear selecting.locked selecting.ordered member its written.read (by omega) clear
  have current := written.current selecting.history (grown 0) (grown 1)
  have history : SelectionHistory next := by
    refine written.history selecting.history (grown 0) (grown 1) fun is other old different theirs owner => ?_
    obtain ⟨selected, clear⟩ := written.selects is
    have all := ran selected
    by_cases seen : other ∈ (heldView locker.held state.store 2).scenarios
    · have apart : other.id ≠ scenario.id := fun same => different (selecting.history.eq_of_id old stored same)
      rw [theirs, tenant]
      exact (locked selected clear other (mem_siblings.mpr ⟨seen, theirs.trans tenant, owner, apart⟩)).2
    · exact selecting.fresh locker member own command context its (by omega) scenario written.read other old
        (theirs.trans tenant) owner seen
  have moved : Grown state.store next := by
    refine ⟨by rw [written.scenarios], ?_⟩
    rw [Table.insert?_rows written.inserted]
    exact List.prefix_append _ _
  refine ⟨⟨history, moved, selecting.fresh_of ?_⟩, fun row free scenarioId is theirs => ?_⟩
  · intro rival opened their request asked theirs began target read other old same owner unseen selected
    rw [written.scenarios] at old
    by_cases equal : other = scenario
    · rw [equal] at selected same owner unseen
      rw [current] at selected
      obtain ⟨chosen, clear⟩ := written.selects selected
      exact absurd (selecting.found picked written.read (fun sibling listed => (locked chosen clear sibling listed).1)
        opened theirs began read same owner) unseen
    · have apart : other.id ≠ scenario.id := fun same => equal (selecting.history.eq_of_id old stored same)
      exact ⟨old, (currentState_congr (written.elsewhere apart)).symm.trans selected⟩
  · refine written.elsewhere fun same => ?_
    rw [is, same, held] at free
    cases free

end Transition

end Finish

section Steps

variable {state after : PricingSessions} {input : HolderInput PricingStore ScenarioTransaction}

theorem Selecting.finish (selecting : Selecting state) {index : Nat}
    {locker : Locker PricingStore ScenarioTransaction (Touched Uuid)} (picked : state.active[index]? = some locker)
    (done : scenarioScript.next locker.command locker.held state.store = none)
    (written : scenarioScript.finish locker.command (heldView locker.held state.store) state.store = .ok next) :
    Finished state index next ∧ ∀ row, locker.holds row = false → KeptScenario row state.store next := by
  cases named : locker.command with
  | mk own command =>
    cases command with
    | create command context =>
      simp only [scenarioScript, named] at written
      obtain ⟨record, drafted, inserted, transitions⟩ := createScenarioSession_ok written
      refine ⟨selecting.create drafted inserted transitions, fun row _ scenarioId _ tenantId => ?_⟩
      rw [transitions]
    | transition command context =>
      simp only [scenarioScript, named] at written
      obtain ⟨scenario, record, written⟩ := transitionSession_ok written
      exact selecting.transition picked named done written

/-- A phase that ends no transaction leaves the scenarios, and their transitions, as they are. -/
theorem interleave_still (ongoing : ∀ index, input ≠ .finish index)
    (accepted : interleaveScenarios state input = .ok after) : after.store.scenarios = state.store.scenarios ∧
      after.store.scenarioTransitions = state.store.scenarioTransitions := by
  rcases Lockers.step_store ongoing accepted with same | ⟨other, moved⟩
  · rw [same]
    exact ⟨rfl, rfl⟩
  · rw [← Except.ok.inj moved]
    exact ⟨rfl, rfl⟩

theorem Selecting.still_fresh (selecting : Selecting state) (ongoing : ∀ index, input ≠ .finish index)
    (accepted : interleaveScenarios state input = .ok after) : Fresh after := by
  obtain ⟨scenarios, transitions⟩ := interleave_still ongoing accepted
  intro locker member own command context its ran scenario read other stored tenant owner unseen
  have still : after.store.currentState other.tenantId other = state.store.currentState other.tenantId other :=
    currentState_congr (by rw [transitions])
  rw [scenarios] at stored
  rw [still]
  rcases Lockers.step_active accepted member with old | empty | ⟨same, old, opened, row, _, rfl⟩
  · rw [heldView_move state.store (by omega)] at read unseen
    exact selecting.fresh locker old own command context its ran scenario read other stored tenant owner unseen
  · rw [empty] at ran
    cases ran
  · have length : (old.held ++ [(row, state.store)]).length = old.held.length + 1 := by simp
    rw [length] at ran
    rw [heldView_append state.store (by omega)] at read
    by_cases third : old.held.length = 2
    · have last : heldView (old.held ++ [(row, state.store)]) after.store 2 = state.store := by
        simp [heldView, ← third]
      rw [last] at unseen
      exact absurd stored unseen
    · have begun : 2 < old.held.length := by omega
      rw [heldView_append state.store begun] at unseen
      exact selecting.fresh old opened own command context its begun scenario read other stored tenant owner unseen

theorem Selecting.step (selecting : Selecting state) (accepted : interleaveScenarios state input = .ok after) :
    Selecting after ∧ Grown state.store after.store := by
  have moved : SelectionHistory after.store ∧ Grown state.store after.store ∧ Fresh after := by
    by_cases ending : ∃ index, input = .finish index
    · obtain ⟨index, rfl⟩ := ending
      obtain ⟨locker, store, picked, done, written, rfl⟩ := Lockers.step_finish accepted
      obtain ⟨finished, _⟩ := selecting.finish picked done written
      exact ⟨finished.history, finished.grown, finished.fresh⟩
    · have ongoing : ∀ index, input ≠ .finish index := fun index is => ending ⟨index, is⟩
      obtain ⟨scenarios, transitions⟩ := interleave_still ongoing accepted
      exact ⟨selecting.history.unmoved scenarios transitions, ⟨by rw [scenarios], by rw [transitions]⟩,
        selecting.still_fresh ongoing accepted⟩
  have locked : after.Locked scenarioScript KeptScenario := by
    refine Lockers.step_locked KeptScenario.refl KeptScenario.trans (fun other later alone row scenarioId _ tenantId => ?_)
      (fun locker member later done written => ?_) selecting.locked accepted
    · rw [← Except.ok.inj alone]
    · obtain ⟨index, picked⟩ := List.mem_iff_getElem?.mp member
      exact (selecting.finish picked done written).2
  exact ⟨⟨moved.1, locked, Lockers.step_ordered Grown.refl Grown.trans selecting.ordered moved.2.1 accepted, moved.2.2⟩,
    moved.2.1⟩

/-- What is archived stays archived. -/
theorem Grown.archived (grown : Grown old new) (before : SelectionHistory old) (after : SelectionHistory new)
    (stored : scenario ∈ old.scenarios) (archived : old.currentState scenario.tenantId scenario = .archived) :
    new.currentState scenario.tenantId scenario = .archived := by
  rw [currentState_position (before.drafted scenario stored) (before.chained scenario stored)] at archived
  have present : scenario ∈ new.scenarios := grown.scenarios.subset stored
  rw [currentState_position (after.drafted scenario present) (after.chained scenario present)]
  obtain ⟨rest, appended⟩ := grown.transitions.filter (transitionOf scenario.tenantId scenario.id)
  rcases List.eq_nil_or_concat (old.transitionsOf scenario) with empty | ⟨first, last, split⟩
  · rw [empty, Steps.position_nil] at archived
    cases archived
  · rw [List.concat_eq_append] at split
    rw [split, Steps.position_concat] at archived
    have whole : new.transitionsOf scenario = first ++ last :: rest := by
      rw [PricingStore.transitionsOf, ← appended]
      show old.transitionsOf scenario ++ rest = _
      rw [split]
      simp
    have none : rest = [] := (after.chained scenario present).absorbs .archived (fun _ move => move.1 rfl) whole archived
    rw [whole, none, Steps.position_concat]
    exact archived

theorem selecting_empty : Selecting ⟨.empty, []⟩ where
  history := selectionHistory_empty
  locked := Lockers.locked_empty _
  ordered _ member := absurd member List.not_mem_nil
  fresh _ member := absurd member List.not_mem_nil

/-- Whatever the interleaving, a case has at most one selected scenario, the transitions of a scenario form one chain,
    and an archived scenario stays archived. -/
theorem scenario_selection (inputs : List (HolderInput PricingStore ScenarioTransaction)) :
    SelectionHistory (run interleaveScenarios ⟨.empty, []⟩ inputs).store ∧ ∀ first, first <+: inputs →
      Grown (run interleaveScenarios ⟨.empty, []⟩ first).store (run interleaveScenarios ⟨.empty, []⟩ inputs).store ∧
      ∀ scenario ∈ (run interleaveScenarios ⟨.empty, []⟩ first).store.scenarios,
        (run interleaveScenarios ⟨.empty, []⟩ first).store.currentState scenario.tenantId scenario = .archived →
        (run interleaveScenarios ⟨.empty, []⟩ inputs).store.currentState scenario.tenantId scenario = .archived := by
  have reached : ∀ inputs, Selecting (run interleaveScenarios ⟨.empty, []⟩ inputs) := fun inputs =>
    run_invariant_always (fun _ _ _ selecting accepted => (selecting.step accepted).1) inputs selecting_empty
  refine ⟨(reached inputs).history, fun first before => ?_⟩
  obtain ⟨rest, rfl⟩ := before
  have grown : Grown (run interleaveScenarios ⟨.empty, []⟩ first).store
      (run interleaveScenarios ⟨.empty, []⟩ (first ++ rest)).store := by
    rw [run_append]
    exact run_related (fun old new : PricingSessions => Grown old.store new.store) (fun _ => Grown.refl _) Grown.trans
      (fun _ _ _ _ selecting accepted => (selecting.step accepted).2)
      (fun _ _ _ selecting _ accepted => (selecting.step accepted).1) (reached first) (along_trivial _ rest)
  exact ⟨grown, fun scenario stored archived =>
    grown.archived (reached first).history (reached _).history stored archived⟩

end Steps

end SmartAo.Pricing
