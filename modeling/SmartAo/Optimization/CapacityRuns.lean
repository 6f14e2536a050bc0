import SmartAo.Foundation.Digest
import SmartAo.Optimization.ResourceAssignment
import SmartAo.Platform.Dispatcher

namespace SmartAo.Optimization

open SmartAo.Foundation SmartAo.Platform

/-- Trusted, non-financial inputs supplied by a tenant-scoped adapter. -/
structure CaseCapacityPlanInput where
  tenantId : Uuid
  caseId : Uuid
  sourceRevision : Nat
  demands : List ResourceDemand
  supplies : List ResourceSupply
  positive : 1 ≤ sourceRevision

structure CaseCapacityPlan where
  tenantId : Uuid
  caseId : Uuid
  solverId : String
  status : SolverStatus
  assignments : List (Uuid × Uuid)
  unassignedDemandIds : List Uuid

inductive CapacityError where
  | load (detail : String)
  | scope
  | value (detail : String)
  | sourceRevisionConflict
  | idempotencyConflict
  | runtime (detail : String)
  | data
  | integrity
deriving DecidableEq

/-- The input port of the planner, as it answers at a time. -/
abbrev CapacitySource := Uuid → Uuid → Except String CaseCapacityPlanInput

abbrev Solver := ZeroOneModel (Nat × Nat) → SolverAnswer

def toPlan (tenantId caseId : Uuid) (demands : List ResourceDemand) (result : ResourceAssignmentResult) :
    CaseCapacityPlan where
  tenantId
  caseId
  solverId := result.solverId
  status := result.status
  assignments := demands.filterMap fun demand => (result.assignments.get demand.id).map (demand.id, ·)
  unassignedDemandIds := result.unassignedDemandIds

def planWithInput (source : CapacitySource) (solver : Solver) (tenantId caseId : Uuid) :
    Except CapacityError (CaseCapacityPlanInput × CaseCapacityPlan) := do
  let planInput ← (source tenantId caseId).mapError .load
  raiseIf (planInput.tenantId ≠ tenantId ∨ planInput.caseId ≠ caseId) .scope
  let result ← (solve solver planInput.demands planInput.supplies).mapError .value
  return (planInput, toPlan tenantId caseId planInput.demands result)

structure CapacityRunCommand where
  runId : Uuid
  commandId : Uuid
  idempotencyKey : Uuid
  correlationId : Option Uuid
  actorId : Uuid
  tenantId : Uuid
  caseId : Uuid
  expectedSourceRevision : Nat
  positive : 1 ≤ expectedSourceRevision

/-- One immutable, tenant-scoped execution of the capacity solver. -/
structure OptimizationRunRecord where
  id : Uuid
  tenantId : Uuid
  caseId : Uuid
  sourceRevision : Nat
  solverId : String
  status : SolverStatus
  inputSha256 : String
  inputSnapshot : Json
  resultSnapshot : Json
  actorId : Uuid
  commandId : Uuid
  idempotencyKey : Uuid
  correlationId : Option Uuid

instance : Schema OptimizationRunRecord := .ownedKeys fun row =>
  (row.id, row.tenantId, row.commandId, row.idempotencyKey)

structure CapacityRunPersistenceResult where
  runId : Uuid
  status : SolverStatus
  auditEventId : Uuid
  replayed : Bool
deriving DecidableEq

structure CapacityStore where
  runs : Table OptimizationRunRecord
  events : Table DomainEventRecord
  source : CapacitySource

def inputSnapshot (planInput : CaseCapacityPlanInput) : Json :=
  .obj [
    ("demands", .arr (planInput.demands.map fun demand =>
      .obj [("id", .str demand.id.str), ("required_units", .int demand.requiredUnits)])),
    ("supplies", .arr (planInput.supplies.map fun supply =>
      .obj [("capacity_units", .int supply.capacityUnits), ("id", .str supply.id.str)]))]

def resultSnapshot (plan : CaseCapacityPlan) : Json :=
  .obj [
    ("assignments", .arr (plan.assignments.map fun assignment =>
      .obj [("demand_id", .str assignment.1.str), ("supply_id", .str assignment.2.str)])),
    ("unassigned_demand_ids", .arr (plan.unassignedDemandIds.map fun id => .str id.str))]

def inputSha256 (planInput : CaseCapacityPlanInput) : String := hexdigest (inputSnapshot planInput).dumpsChars

def runRecord (command : CapacityRunCommand) (planInput : CaseCapacityPlanInput) (plan : CaseCapacityPlan) :
    OptimizationRunRecord where
  id := command.runId
  tenantId := command.tenantId
  caseId := command.caseId
  sourceRevision := planInput.sourceRevision
  solverId := plan.solverId
  status := plan.status
  inputSha256 := inputSha256 planInput
  inputSnapshot := inputSnapshot planInput
  resultSnapshot := resultSnapshot plan
  actorId := command.actorId
  commandId := command.commandId
  idempotencyKey := command.idempotencyKey
  correlationId := command.correlationId

/-- `_matches` -/
def OptimizationRunRecord.sameRequest (existing record : OptimizationRunRecord) : Bool :=
  existing.id = record.id ∧ existing.tenantId = record.tenantId ∧ existing.caseId = record.caseId ∧
    existing.sourceRevision = record.sourceRevision ∧ existing.inputSha256 = record.inputSha256 ∧
    existing.commandId = record.commandId ∧ existing.idempotencyKey = record.idempotencyKey

/-- A run of the tenant that shares one of the keys of a record. -/
def OptimizationRunRecord.sharesKey (existing record : OptimizationRunRecord) : Bool :=
  existing.tenantId = record.tenantId ∧
    (existing.id = record.id ∨ existing.commandId = record.commandId ∨
      existing.idempotencyKey = record.idempotencyKey)

/-- The one run under the keys of a record. -/
def existingRun (runs : Table OptimizationRunRecord) (record : OptimizationRunRecord) :
    Except CapacityError OptimizationRunRecord :=
  match runs.rows.filter (·.sharesKey record) with
  | [] => .error (.runtime "optimization run insert was not durable")
  | [existing] => if existing.sameRequest record then .ok existing else .error .idempotencyConflict
  | _ :: _ :: _ => .error .idempotencyConflict

def auditType : String := "OptimizationRun"

def recordedType : String := "OPTIMIZATION_RUN_RECORDED"

def auditEvent (events : Table DomainEventRecord) (tenantId runId : Uuid) : Option DomainEventRecord :=
  events.find? fun row => row.tenantId = tenantId ∧ row.aggregateType = auditType ∧ row.aggregateId = runId ∧
    row.eventType = recordedType

def recordedEvent (record : OptimizationRunRecord) (eventId : Uuid) : DomainEventRecord where
  id := eventId
  tenantId := record.tenantId
  aggregateType := auditType
  aggregateId := record.id
  aggregateRevision := 1
  eventType := recordedType
  payloadVersion := 1
  payload := [
    ("run_id", .str record.id.str),
    ("case_id", .str record.caseId.str),
    ("source_revision", .int record.sourceRevision),
    ("solver_id", .str record.solverId),
    ("status", .str record.status.value),
    ("input_sha256", .str record.inputSha256)]
  actorId := record.actorId
  commandId := record.commandId
  correlationId := record.correlationId
  causationId := record.commandId

/-- A conflicting insert does nothing; a revision beyond its column is refused before. -/
def saveOrReplay (store : CapacityStore) (record : OptimizationRunRecord) (eventId : Uuid) :
    Except CapacityError (CapacityStore × CapacityRunPersistenceResult) := do
  raiseIf (2147483647 < record.sourceRevision) .data
  match store.runs.insert? record with
  | some runs =>
    let existing ← existingRun runs record
    raiseIf ((auditEvent store.events record.tenantId existing.id).isSome = true)
      (.runtime "optimization run audit event already exists")
    let events ← orRaise (store.events.insert? (recordedEvent record eventId)) .integrity
    return ({ store with runs, events }, ⟨existing.id, record.status, eventId, false⟩)
  | none =>
    let existing ← existingRun store.runs record
    let event ← orRaise (auditEvent store.events record.tenantId existing.id)
      (.runtime "optimization run audit event was not durable")
    return (store, ⟨existing.id, record.status, event.id, true⟩)

def execute (store : CapacityStore) (command : CapacityRunCommand) (solver : Solver) (eventId : Uuid) :
    Except CapacityError (CapacityStore × CapacityRunPersistenceResult) := do
  let (planInput, plan) ← planWithInput store.source solver command.tenantId command.caseId
  raiseIf (planInput.sourceRevision ≠ command.expectedSourceRevision) .sourceRevisionConflict
  saveOrReplay store (runRecord command planInput plan) eventId

/-- A run that is executed, a change of what the input port reads, or an event of another module; no other module
    records events of this aggregate. -/
inductive CapacityStep where
  | execute (command : CapacityRunCommand) (solver : Solver) (eventId : Uuid)
  | source (source : CapacitySource)
  | event (row : DomainEventRecord) (other : row.aggregateType ≠ auditType)

def capacityStep (store : CapacityStore) : CapacityStep → Except CapacityError CapacityStore
  | .execute command solver eventId => (execute store command solver eventId).map Prod.fst
  | .source source => .ok { store with source }
  | .event row _ => (orRaise (store.events.insert? row) .integrity).map fun events => { store with events }

end SmartAo.Optimization
