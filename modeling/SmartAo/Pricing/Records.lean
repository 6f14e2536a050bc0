import SmartAo.Platform.Command
import SmartAo.Foundation.Text

namespace SmartAo.Pricing

open SmartAo.Foundation SmartAo.Platform

inductive SnapshotState where
  | draft
  | published
deriving DecidableEq

structure FinancialReportSnapshotRecord where
  id : Uuid
  tenantId : Uuid
  caseId : Uuid
  state : SnapshotState
  currencyCode : String
  rulesetVersion : Nat
  aggregateRevision : Nat
  calculatedAt : Timestamp
  publishedAt : Option Timestamp
  salesTotalMinor : Int
  directCostTotalMinor : Int
  overheadTotalMinor : Int
  subcontractingTotalMinor : Int
  contingencyTotalMinor : Int
  grossMarginMinor : Int
  grossMarginRateBps : Int
  forecastCashflowMinor : Int
deriving DecidableEq

/-- A case has at most one open draft. -/
instance : Schema FinancialReportSnapshotRecord where
  Columns := Uuid × SnapshotState × Uuid × Uuid
  columns row := (row.id, row.state, row.tenantId, row.caseId)
  Clash first second :=
    first.1 = second.1 ∨ (first.2 = second.2 ∧ first.2.1 = .draft)
  decidableClash := fun _ _ => inferInstance
  symm clash := clash.imp Eq.symm fun ⟨same, draft⟩ => ⟨same.symm, same ▸ draft⟩

inductive LineCategory where
  | sales
  | directCost
  | overhead
  | subcontracting
  | contingency
  | grossMargin
  | forecastCashflow
deriving DecidableEq

structure FinancialReportLineRecord where
  id : Uuid
  tenantId : Uuid
  snapshotId : Uuid
  category : LineCategory
  label : String
  quantityDecimal : String
  unit : String
  amountMinor : Int
deriving DecidableEq

instance : Schema FinancialReportLineRecord where
  Columns := Uuid
  columns row := row.id
  Clash first second := first = second
  decidableClash := inferInstance
  symm := Eq.symm

inductive ScenarioState where
  | draft
  | selected
  | archived
deriving DecidableEq

def ScenarioState.value : ScenarioState → String
  | draft => "DRAFT"
  | selected => "SELECTED"
  | archived => "ARCHIVED"

inductive ScenarioType where
  | base
  | prudent
  | custom
deriving DecidableEq

/-- The creation snapshot of a scenario. -/
structure PricingScenarioRecord where
  id : Uuid
  tenantId : Uuid
  caseId : Uuid
  sourceSnapshotId : Uuid
  scenarioKey : String
  scenarioType : ScenarioType
  version : Nat
  state : ScenarioState
  salesTotalMinor : Int
  totalCostMinor : Int
  grossMarginMinor : Int
  grossMarginRateBps : Int
  penaltyReserveMinor : Int
  retentionReserveMinor : Int
  guaranteeReserveMinor : Int
  floorMarginRateBps : Int
  targetMarginRateBps : Int
  breakEvenSalesMinor : Int
  floorSalesMinor : Int
  targetSalesMinor : Int
  sourceSnapshotRevision : Nat
deriving DecidableEq

instance : Schema PricingScenarioRecord where
  Columns := Uuid × Uuid × Uuid × String × Nat
  columns row := (row.id, row.tenantId, row.caseId, row.scenarioKey, row.version)
  Clash first second := first.1 = second.1 ∨ first.2 = second.2
  decidableClash := inferInstance
  symm clash := clash.imp Eq.symm Eq.symm

structure PricingScenarioTransitionRecord where
  id : Uuid
  tenantId : Uuid
  scenarioId : Uuid
  fromState : ScenarioState
  toState : ScenarioState
  reasonCode : String
  version : Nat
  commandId : Uuid
deriving DecidableEq

instance : Schema PricingScenarioTransitionRecord :=
  Schema.ownedKeys fun row => (row.id, row.tenantId, (row.scenarioId, row.version), row.commandId)

inductive DocumentKind where
  | dpgf
  | bpu
  | excel
deriving DecidableEq

def DocumentKind.value : DocumentKind → String
  | dpgf => "DPGF"
  | bpu => "BPU"
  | excel => "EXCEL"

inductive ImportState where
  | previewed
  | committed
deriving DecidableEq

/-- A normalized import batch; the uploaded file is never stored. -/
structure PricingImportBatchRecord where
  id : Uuid
  tenantId : Uuid
  caseId : Uuid
  documentKind : DocumentKind
  sourceSha256 : String
  state : ImportState
  aggregateRevision : Nat
  rowCount : Nat
  validRowCount : Nat
  errorCount : Nat
  totalMinor : Nat
  commandId : Uuid
  createdAt : Timestamp
deriving DecidableEq

instance : Schema PricingImportBatchRecord where
  Columns := Uuid × Uuid × Uuid
  columns row := (row.id, row.tenantId, row.commandId)
  Clash first second := first.1 = second.1 ∨ first.2 = second.2
  decidableClash := inferInstance
  symm clash := clash.imp Eq.symm Eq.symm

structure PricingImportRowRecord where
  id : Uuid
  tenantId : Uuid
  batchId : Uuid
  rowNumber : Nat
  code : Option String
  designation : Option String
  unit : Option String
  quantityDecimal : Option String
  unitPriceMinor : Option Nat
  totalMinor : Option Nat
  errorCodes : List String
deriving DecidableEq

instance : Schema PricingImportRowRecord :=
  Schema.keyed fun row => (row.id, row.tenantId, row.batchId, row.rowNumber)

structure PricingImportTransitionRecord where
  id : Uuid
  tenantId : Uuid
  batchId : Uuid
  fromState : ImportState
  toState : ImportState
  version : Nat
  commandId : Uuid
deriving DecidableEq

instance : Schema PricingImportTransitionRecord :=
  Schema.ownedKeys fun row => (row.id, row.tenantId, (row.batchId, row.version), row.commandId)

structure PricingStore where
  snapshots : Table FinancialReportSnapshotRecord
  lines : Table FinancialReportLineRecord
  scenarios : Table PricingScenarioRecord
  scenarioTransitions : Table PricingScenarioTransitionRecord
  importBatches : Table PricingImportBatchRecord
  importRows : Table PricingImportRowRecord
  importTransitions : Table PricingImportTransitionRecord

def PricingStore.empty : PricingStore :=
  ⟨.empty, .empty, .empty, .empty, .empty, .empty, .empty⟩

end SmartAo.Pricing
