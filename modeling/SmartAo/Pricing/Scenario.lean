import SmartAo.Pricing.CostBasis
import SmartAo.Pricing.Imports

namespace SmartAo.Pricing

open SmartAo.Foundation SmartAo.Platform

structure CreatePricingScenarioCommand extends ApplicationCommand where
  scenarioId : Uuid
  caseId : Uuid
  sourceSnapshotId : Uuid
  scenarioKey : String
  scenarioType : ScenarioType
  salesAdjustmentBps : Int
  costAdjustmentBps : Int
  penaltyReserveMinor : Int
  retentionReserveMinor : Int
  guaranteeReserveMinor : Int
  floorMarginRateBps : Int
  targetMarginRateBps : Int

inductive TargetState where
  | selected
  | archived
deriving DecidableEq

def TargetState.toState : TargetState → ScenarioState
  | selected => .selected
  | archived => .archived

structure TransitionPricingScenarioCommand extends ApplicationCommand where
  transitionId : Uuid
  scenarioId : Uuid
  expectedVersion : Nat
  targetState : TargetState
  reasonCode : String

/-- Names the exception class a refused calculation raises. -/
def calculated {α : Type} (error : String → CommandError) : Except String α → Transaction α
  | .ok value => .ok value
  | .error message => .error (error message)

@[simp] theorem calculated_ok {α : Type} {error : String → CommandError} {result : Except String α}
    {value : α} : calculated error result = .ok value ↔ result = .ok value := by
  cases result <;> simp [calculated]

def scenarioOutcome (scenarioId : Uuid) (version : Nat) (resultCode eventType : String)
    (payload : List (String × Json)) : HandlerOutcome where
  resultCode := resultCode
  aggregateRefs := [{
    aggregateType := "PricingScenario"
    aggregateId := scenarioId.str
    aggregateRevision := version }]
  events := [{
    aggregateType := "PricingScenario"
    aggregateId := scenarioId
    aggregateRevision := version
    eventType := eventType
    payload := payload }]

/-- The database driver sends no NUL within a text. -/
def sendable (text : String) : Bool := !text.toList.contains '\x00'

def nulRefused : CommandError := .failed "text fields cannot contain NUL (0x00) bytes"

def scenarioInRange (row : PricingScenarioRecord) : Bool :=
  integer row.version && bigint row.salesTotalMinor && bigint row.totalCostMinor && bigint row.grossMarginMinor &&
    integer row.grossMarginRateBps && bigint row.penaltyReserveMinor && bigint row.retentionReserveMinor &&
    bigint row.guaranteeReserveMinor && integer row.floorMarginRateBps && integer row.targetMarginRateBps &&
    bigint row.breakEvenSalesMinor && bigint row.floorSalesMinor && bigint row.targetSalesMinor &&
    integer row.sourceSnapshotRevision

/-- The check constraints of a scenario row on its reserves, rates and thresholds. -/
def scenarioChecks (row : PricingScenarioRecord) : Bool :=
  (0 ≤ row.penaltyReserveMinor ∧ 0 ≤ row.retentionReserveMinor ∧ 0 ≤ row.guaranteeReserveMinor) ∧
    (0 ≤ row.floorMarginRateBps ∧ row.floorMarginRateBps < 10000 ∧ 0 ≤ row.targetMarginRateBps ∧
      row.targetMarginRateBps < 10000 ∧ row.floorMarginRateBps ≤ row.targetMarginRateBps) ∧
    0 ≤ row.breakEvenSalesMinor ∧ 0 ≤ row.floorSalesMinor ∧ 0 ≤ row.targetSalesMinor

def createPricingScenario (store : PricingStore) (command : CreatePricingScenarioCommand)
    (context : CommandContext) : Transaction (PricingStore × HandlerOutcome) := do
  raiseIf (context.actorKind ≠ .patronAdmin ∨ context.membershipId = none)
    (.execution "PATRON_REQUIRED")
  let snapshot ← orRaise
    (store.snapshots.find? fun row => row.tenantId = context.tenantId ∧
      row.id = command.sourceSnapshotId ∧ row.caseId = command.caseId ∧ row.state = .published)
    (.execution "OFFICIAL_PRICE_NOT_PUBLISHED")
  raiseIf (¬ sendable command.scenarioKey) nulRefused
  let version := (store.scenarios.greatest (fun row => row.tenantId = context.tenantId ∧
    row.caseId = command.caseId ∧ row.scenarioKey = command.scenarioKey) (·.version)).getD 0 + 1
  let amounts ← calculated CommandError.failed (calculatePricingScenarioAmounts
    snapshot.salesTotalMinor snapshot.directCostTotalMinor snapshot.overheadTotalMinor
    snapshot.subcontractingTotalMinor snapshot.contingencyTotalMinor command.salesAdjustmentBps
    command.costAdjustmentBps)
  let costBasis ← calculated (fun _ => .execution "INVALID_COST_BASIS") (calculateCostBasis {
    salesTotalMinor := amounts.salesTotalMinor, directCostTotalMinor := amounts.totalCostMinor,
    overheadTotalMinor := 0, subcontractingTotalMinor := 0, contingencyTotalMinor := 0,
    penaltyReserveMinor := command.penaltyReserveMinor,
    retentionReserveMinor := command.retentionReserveMinor,
    guaranteeReserveMinor := command.guaranteeReserveMinor,
    floorMarginRateBps := command.floorMarginRateBps,
    targetMarginRateBps := command.targetMarginRateBps })
  let record : PricingScenarioRecord := {
    id := command.scenarioId, tenantId := context.tenantId, caseId := command.caseId,
    sourceSnapshotId := snapshot.id, scenarioKey := command.scenarioKey,
    scenarioType := command.scenarioType, version, state := .draft,
    salesTotalMinor := costBasis.salesTotalMinor, totalCostMinor := costBasis.totalCostMinor,
    grossMarginMinor := costBasis.grossMarginMinor,
    grossMarginRateBps := costBasis.grossMarginRateBps,
    penaltyReserveMinor := costBasis.penaltyReserveMinor,
    retentionReserveMinor := costBasis.retentionReserveMinor,
    guaranteeReserveMinor := costBasis.guaranteeReserveMinor,
    floorMarginRateBps := command.floorMarginRateBps,
    targetMarginRateBps := command.targetMarginRateBps,
    breakEvenSalesMinor := costBasis.breakEvenSalesMinor,
    floorSalesMinor := costBasis.floorSalesMinor, targetSalesMinor := costBasis.targetSalesMinor,
    sourceSnapshotRevision := snapshot.aggregateRevision }
  raiseIf (¬ scenarioInRange record) outOfRange
  raiseIf (¬ scenarioChecks record) .integrity
  let scenarios ← flush (store.scenarios.insert? record)
  return ({ store with scenarios }, scenarioOutcome record.id record.version
    "PRICING_SCENARIO_CREATED" "PricingScenarioCreated" [
      ("scenario_id", .str record.id.str), ("case_id", .str record.caseId.str),
      ("version", .int record.version)])

def transitionOf (tenantId scenarioId : Uuid) (row : PricingScenarioTransitionRecord) : Bool :=
  row.tenantId = tenantId ∧ row.scenarioId = scenarioId

def PricingStore.latestTransition (store : PricingStore) (tenantId scenarioId : Uuid) :
    Option PricingScenarioTransitionRecord :=
  store.scenarioTransitions.latest (transitionOf tenantId scenarioId) (·.version)

def PricingStore.currentState (store : PricingStore) (tenantId : Uuid)
    (scenario : PricingScenarioRecord) : ScenarioState :=
  ((store.latestTransition tenantId scenario.id).map (·.toState)).getD scenario.state

def PricingStore.currentVersion (store : PricingStore) (tenantId : Uuid)
    (scenario : PricingScenarioRecord) : Nat :=
  ((store.latestTransition tenantId scenario.id).map (·.version)).getD scenario.version

/-- The scenario row stays as it was created; the transition is appended beside it. -/
def transitionPricingScenario (store : PricingStore) (command : TransitionPricingScenarioCommand)
    (context : CommandContext) : Transaction (PricingStore × HandlerOutcome) := do
  let scenario ← orRaise
    (store.scenarios.find? fun row => row.tenantId = context.tenantId ∧ row.id = command.scenarioId)
    (.execution "NOT_FOUND_OR_FORBIDDEN")
  let currentState := store.currentState context.tenantId scenario
  let currentVersion := store.currentVersion context.tenantId scenario
  raiseIf (currentVersion ≠ command.expectedVersion) (.execution "VERSION_CONFLICT")
  raiseIf (currentState = .archived) (.execution "SCENARIO_ALREADY_ARCHIVED")
  raiseIf (command.targetState.toState = currentState) (.execution "INVALID_STATE_TRANSITION")
  raiseIf (command.targetState = .selected ∧ ∃ sibling ∈ store.scenarios,
      (sibling.tenantId = context.tenantId ∧ sibling.caseId = scenario.caseId ∧
        sibling.id ≠ scenario.id) ∧ store.currentState context.tenantId sibling = .selected)
    (.execution "SCENARIO_ALREADY_SELECTED")
  let transition : PricingScenarioTransitionRecord := {
    id := command.transitionId, tenantId := context.tenantId, scenarioId := scenario.id,
    fromState := currentState, toState := command.targetState.toState,
    reasonCode := command.reasonCode, version := currentVersion + 1,
    commandId := command.commandId }
  let scenarioTransitions ← flush (store.scenarioTransitions.insert? transition)
  return ({ store with scenarioTransitions }, scenarioOutcome scenario.id transition.version
    "PRICING_SCENARIO_TRANSITIONED" "PricingScenarioTransitioned" [
      ("scenario_id", .str scenario.id.str), ("from_state", .str currentState.value),
      ("to_state", .str command.targetState.toState.value), ("version", .int transition.version)])

/-- What the patron's list shows of a scenario's position. -/
structure PricingScenarioProjection where
  scenarioId : Uuid
  caseId : Uuid
  version : Nat
  state : ScenarioState
deriving DecidableEq

def projection (store : PricingStore) (tenantId : Uuid) (record : PricingScenarioRecord) :
    PricingScenarioProjection :=
  let latestVersion := store.scenarioTransitions.greatest (transitionOf tenantId record.id) (·.version)
  let latestState := latestVersion.bind fun version =>
    (store.scenarioTransitions.find? fun row =>
      transitionOf tenantId record.id row && row.version = version).map (·.toState)
  { scenarioId := record.id
    caseId := record.caseId
    version := latestVersion.getD record.version
    state := latestState.getD record.state }

/-- Newest creation first. -/
def listForCase (store : PricingStore) (tenantId caseId : Uuid) : List PricingScenarioProjection :=
  ((store.scenarios.rows.filter fun row => row.tenantId = tenantId ∧ row.caseId = caseId).map
    (projection store tenantId)).reverse

end SmartAo.Pricing
