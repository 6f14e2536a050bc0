import SmartAo.Pricing.ScenarioHistory
import SmartAo.Foundation.Chain
import SmartAo.Foundation.LockScript

namespace SmartAo.Pricing

open SmartAo.Foundation SmartAo.Platform

inductive ScenarioCommand where
  | create (command : CreatePricingScenarioCommand) (context : CommandContext)
  | transition (command : TransitionPricingScenarioCommand) (context : CommandContext)

structure ScenarioTransaction where
  transaction : Nat
  command : ScenarioCommand

/-- The scenario computed from the snapshot and the version that were read. -/
def createdScenario (snapshot : FinancialReportSnapshotRecord) (version : Nat) (command : CreatePricingScenarioCommand)
    (context : CommandContext) : Transaction PricingScenarioRecord := do
  let amounts ← calculated CommandError.failed (calculatePricingScenarioAmounts
    snapshot.salesTotalMinor snapshot.directCostTotalMinor snapshot.overheadTotalMinor
    snapshot.subcontractingTotalMinor snapshot.contingencyTotalMinor command.salesAdjustmentBps
    command.costAdjustmentBps)
  let costBasis ← calculated (fun _ => .execution "INVALID_COST_BASIS") (calculateCostBasis {
    salesTotalMinor := amounts.salesTotalMinor, directCostTotalMinor := amounts.totalCostMinor,
    overheadTotalMinor := 0, subcontractingTotalMinor := 0, contingencyTotalMinor := 0,
    penaltyReserveMinor := command.penaltyReserveMinor,
    retentionReserveMinor := command.retentionReserveMinor,
    guaranteeReserveMinor := command.guaranteeReserveMinor,
    floorMarginRateBps := command.floorMarginRateBps,
    targetMarginRateBps := command.targetMarginRateBps })
  return {
    id := command.scenarioId, tenantId := context.tenantId, caseId := command.caseId,
    sourceSnapshotId := snapshot.id, scenarioKey := command.scenarioKey,
    scenarioType := command.scenarioType, version, state := .draft,
    salesTotalMinor := costBasis.salesTotalMinor, totalCostMinor := costBasis.totalCostMinor,
    grossMarginMinor := costBasis.grossMarginMinor,
    grossMarginRateBps := costBasis.grossMarginRateBps,
    penaltyReserveMinor := costBasis.penaltyReserveMinor,
    retentionReserveMinor := costBasis.retentionReserveMinor,
    guaranteeReserveMinor := costBasis.guaranteeReserveMinor,
    floorMarginRateBps := command.floorMarginRateBps,
    targetMarginRateBps := command.targetMarginRateBps,
    breakEvenSalesMinor := costBasis.breakEvenSalesMinor,
    floorSalesMinor := costBasis.floorSalesMinor, targetSalesMinor := costBasis.targetSalesMinor,
    sourceSnapshotRevision := snapshot.aggregateRevision }

/-- Two statements that only read, and the insertion. -/
def createScenarioSession (view : Nat → PricingStore) (store : PricingStore) (command : CreatePricingScenarioCommand)
    (context : CommandContext) : Transaction PricingStore := do
  raiseIf (context.actorKind ≠ .patronAdmin ∨ context.membershipId = none)
    (.execution "PATRON_REQUIRED")
  let snapshot ← orRaise
    ((view 0).snapshots.find? fun row => row.tenantId = context.tenantId ∧
      row.id = command.sourceSnapshotId ∧ row.caseId = command.caseId ∧ row.state = .published)
    (.execution "OFFICIAL_PRICE_NOT_PUBLISHED")
  raiseIf (¬ sendable command.scenarioKey) nulRefused
  let version := ((view 1).scenarios.greatest (fun row => row.tenantId = context.tenantId ∧
    row.caseId = command.caseId ∧ row.scenarioKey = command.scenarioKey) (·.version)).getD 0 + 1
  let record ← createdScenario snapshot version command context
  raiseIf (¬ scenarioInRange record) outOfRange
  raiseIf (¬ scenarioChecks record) .integrity
  let scenarios ← flush (store.scenarios.insert? record)
  return { store with scenarios }

def PricingStore.scenario? (store : PricingStore) (tenantId scenarioId : Uuid) : Option PricingScenarioRecord :=
  store.scenarios.find? fun row => row.tenantId = tenantId ∧ row.id = scenarioId

def PricingStore.siblings (store : PricingStore) (tenantId : Uuid) (scenario : PricingScenarioRecord) :
    List PricingScenarioRecord :=
  store.scenarios.rows.filter fun row =>
    row.tenantId = tenantId ∧ row.caseId = scenario.caseId ∧ row.id ≠ scenario.id

/-- Where each sibling stands is read after all of them are locked. -/
def siblingSelected (view : Nat → PricingStore) (tenantId : Uuid) (siblings : List PricingScenarioRecord) : Bool :=
  (siblings.zipIdx (3 + siblings.length)).any fun read => (view read.2).currentState tenantId read.1 = .selected

/-- What the statements of a transition read: the scenario, its latest transition, the siblings, and after their
    locks the latest transition of each. -/
def transitionSession (view : Nat → PricingStore) (store : PricingStore) (command : TransitionPricingScenarioCommand)
    (context : CommandContext) : Transaction PricingStore := do
  let scenario ← orRaise ((view 0).scenario? context.tenantId command.scenarioId)
    (.execution "NOT_FOUND_OR_FORBIDDEN")
  let currentState := (view 1).currentState context.tenantId scenario
  let currentVersion := (view 1).currentVersion context.tenantId scenario
  raiseIf (currentVersion ≠ command.expectedVersion) (.execution "VERSION_CONFLICT")
  raiseIf (currentState = .archived) (.execution "SCENARIO_ALREADY_ARCHIVED")
  raiseIf (command.targetState.toState = currentState) (.execution "INVALID_STATE_TRANSITION")
  let siblings := (view 2).siblings context.tenantId scenario
  raiseIf (command.targetState = .selected ∧ siblingSelected view context.tenantId siblings = true)
    (.execution "SCENARIO_ALREADY_SELECTED")
  let transition : PricingScenarioTransitionRecord := {
    id := command.transitionId, tenantId := context.tenantId, scenarioId := scenario.id,
    fromState := currentState, toState := command.targetState.toState,
    reasonCode := command.reasonCode, version := currentVersion + 1,
    commandId := command.commandId }
  let scenarioTransitions ← flush (store.scenarioTransitions.insert? transition)
  return { store with scenarioTransitions }

/-- The row of the scenario is locked first; a selection then locks the siblings its third statement found, one by
    one, before it reads where each of them stands. -/
def transitionStatement (transaction : Nat) (command : TransitionPricingScenarioCommand) (context : CommandContext)
    (statement : Nat) (view : Nat → PricingStore) : Option (Touched Uuid) :=
  ((view 0).scenario? context.tenantId command.scenarioId).bind fun scenario =>
    match statement with
    | 0 => some (.row scenario.id)
    | 1 => some (.own transaction)
    | 2 => if command.targetState = .selected then some (.own transaction) else none
    | later + 3 =>
      let siblings := (view 2).siblings context.tenantId scenario
      match siblings[later]? with
      | some sibling => some (.row sibling.id)
      | none => if later < 2 * siblings.length then some (.own transaction) else none

def scenarioScript : LockScript PricingStore ScenarioTransaction (Touched Uuid) CommandError where
  next transaction held store := match transaction.command with
    | .create _ _ => if held.length < 2 then some (.own transaction.transaction) else none
    | .transition command context =>
      transitionStatement transaction.transaction command context held.length (heldView held store)
  writes _ _ := []
  finish transaction view store := match transaction.command with
    | .create command context => createScenarioSession view store command context
    | .transition command context => transitionSession view store command context

/-- What other commands write leaves the scenarios and their transitions. -/
def PricingStore.writeAlone (store other : PricingStore) : Transaction PricingStore :=
  return { other with scenarios := store.scenarios, scenarioTransitions := store.scenarioTransitions }

abbrev PricingSessions := Lockers PricingStore ScenarioTransaction (Touched Uuid)

/-- The scenario commands interleaved statement by statement. -/
def interleaveScenarios (state : PricingSessions)
    (input : HolderInput PricingStore ScenarioTransaction) :
    Transaction PricingSessions :=
  state.step scenarioScript (.failed "LOCK_WAIT") PricingStore.writeAlone input

variable {store : PricingStore} {context : CommandContext} {tenantId : Uuid} {scenario sibling : PricingScenarioRecord}

theorem mem_siblings : sibling ∈ store.siblings tenantId scenario ↔ sibling ∈ store.scenarios ∧
    sibling.tenantId = tenantId ∧ sibling.caseId = scenario.caseId ∧ sibling.id ≠ scenario.id := by
  simp only [PricingStore.siblings, List.mem_filter, decide_eq_true_eq, Table.mem_rows]

theorem siblingSelected_iff {view : Nat → PricingStore} {siblings : List PricingScenarioRecord} :
    siblingSelected view tenantId siblings = true ↔ ∃ index sibling, siblings[index]? = some sibling ∧
      (view (3 + siblings.length + index)).currentState tenantId sibling = .selected := by
  simp only [siblingSelected, List.any_eq_true, decide_eq_true_eq, List.mem_zipIdx_iff_le_and_getElem?_sub]
  constructor
  · rintro ⟨⟨sibling, position⟩, ⟨beyond, found⟩, selected⟩
    have shifted : 3 + siblings.length + (position - (3 + siblings.length)) = position := by
      dsimp only at beyond
      omega
    exact ⟨_, sibling, found, by rw [shifted]; exact selected⟩
  · rintro ⟨index, sibling, found, selected⟩
    exact ⟨(sibling, 3 + siblings.length + index), ⟨by simp, by simpa using found⟩, selected⟩

/-- A creation that runs alone is the handler. -/
theorem createScenarioSession_alone {command : CreatePricingScenarioCommand} :
    createScenarioSession (fun _ => store) store command context =
      (createPricingScenario store command context).map Prod.fst := by
  simp only [createScenarioSession, createPricingScenario, createdScenario, Foundation.map_bind, Foundation.map_pure,
    bind_assoc, pure_bind]

theorem siblingSelected_alone : siblingSelected (fun _ => store) tenantId (store.siblings tenantId scenario) = true ↔
    ∃ sibling ∈ store.scenarios, (sibling.tenantId = tenantId ∧ sibling.caseId = scenario.caseId ∧
      sibling.id ≠ scenario.id) ∧ store.currentState tenantId sibling = .selected := by
  rw [siblingSelected_iff]
  constructor
  · rintro ⟨index, sibling, found, selected⟩
    obtain ⟨member, its⟩ := mem_siblings.mp (List.mem_of_getElem? found)
    exact ⟨sibling, member, its, selected⟩
  · rintro ⟨sibling, member, its, selected⟩
    obtain ⟨index, found⟩ := List.mem_iff_getElem?.mp (mem_siblings.mpr ⟨member, its⟩)
    exact ⟨index, sibling, found, selected⟩

/-- A transition that runs alone is the handler. -/
theorem transitionSession_alone {command : TransitionPricingScenarioCommand} :
    transitionSession (fun _ => store) store command context =
      (transitionPricingScenario store command context).map Prod.fst := by
  simp only [transitionSession, transitionPricingScenario, PricingStore.scenario?, siblingSelected_alone,
    Foundation.map_bind, Foundation.map_pure]

end SmartAo.Pricing
