import SmartAo.Case.Record
import SmartAo.Foundation.Succession
import SmartAo.Pricing.Records
import Mathlib.Data.List.Sort

namespace SmartAo.Pricing

open SmartAo.Foundation SmartAo.Platform SmartAo.Case

/-- One normalized row produced by the server-side preview validator. -/
structure CreatePricingImportRowCommand where
  rowNumber : Nat
  code : Option String
  designation : Option String
  unit : Option String
  quantityDecimal : Option String
  unitPriceMinor : Option Nat
  totalMinor : Option Nat
  errors : List String

structure CreatePricingImportPreviewCommand extends ApplicationCommand where
  caseId : Uuid
  documentKind : DocumentKind
  sourceSha256 : String
  rows : List CreatePricingImportRowCommand

structure CommitPricingImportCommand extends ApplicationCommand where
  batchId : Uuid
  caseId : Uuid
  reportId : Uuid
  expectedBatchRevision : Nat
  expectedReportRevision : Int

def blank (text : Option String) : Bool := text.all fun text => strip text = ""

def validateRows (rows : List CreatePricingImportRowCommand) : Transaction Unit := do
  raiseIf (rows.isEmpty = true) (.execution "IMPORT_ROWS_REQUIRED")
  raiseIf (¬ (rows.map (·.rowNumber)).Nodup) (.execution "IMPORT_ROW_NUMBER_DUPLICATE")
  raiseIf (∃ row ∈ rows, row.errors = [] ∧
      (blank row.designation ∨ blank row.quantityDecimal ∨ row.totalMinor = none))
    (.execution "IMPORT_ROWS_INVALID")

/-- The database refuses a text beyond the width of its column. -/
def fits (width : Nat) (text : Option String) : Bool := text.all fun text => text.length ≤ width

def valueTooLong : CommandError := .failed "value too long for its column"

def rowFits (row : PricingImportRowRecord) : Bool :=
  fits 120 row.code && fits 500 row.designation && fits 32 row.unit && fits 32 row.quantityDecimal

/-- The values of an INTEGER column and of a BIGINT column. -/
def integer (value : Int) : Bool := -2147483648 ≤ value ∧ value ≤ 2147483647

def bigint (value : Int) : Bool := -9223372036854775808 ≤ value ∧ value ≤ 9223372036854775807

def outOfRange : CommandError := .failed "value out of range for its column"

def rowInRange (row : PricingImportRowRecord) : Bool :=
  integer row.rowNumber && row.unitPriceMinor.all (fun value => bigint value) &&
    row.totalMinor.all fun value => bigint value

def batchInRange (batch : PricingImportBatchRecord) : Bool :=
  integer batch.rowCount && integer batch.validRowCount && integer batch.errorCount && bigint batch.totalMinor

/-- The check constraints of a stored row on its designation and its quantity. -/
def rowChecks (row : PricingImportRowRecord) : Bool :=
  row.designation.all (fun text => text.toList.any (· ≠ ' ')) && row.quantityDecimal.all (· ≠ "")

def previewedRow (tenantId batchId : Uuid) (rowId : Nat → Uuid)
    (entry : CreatePricingImportRowCommand × Nat) : PricingImportRowRecord where
  id := rowId entry.2
  tenantId := tenantId
  batchId := batchId
  rowNumber := entry.1.rowNumber
  code := entry.1.code
  designation := entry.1.designation
  unit := entry.1.unit
  quantityDecimal := entry.1.quantityDecimal
  unitPriceMinor := entry.1.unitPriceMinor
  totalMinor := entry.1.totalMinor
  errorCodes := entry.1.errors

/-- `batchId` and `rowId` are the identifiers drawn for the inserted rows. -/
def createPricingImportPreview (cases : Table CaseRecord) (store : PricingStore)
    (command : CreatePricingImportPreviewCommand) (batchId : Uuid) (rowId : Nat → Uuid)
    (context : CommandContext) : Transaction (PricingStore × HandlerOutcome) := do
  raiseIf (context.actorKind ≠ .patronAdmin ∨ context.membershipId = none)
    (.execution "PRICING_IMPORT_PATRON_REQUIRED")
  let _ ← orRaise
    (cases.find? fun row => row.tenantId = context.tenantId ∧ row.id = command.caseId)
    (.execution "NOT_FOUND_OR_FORBIDDEN")
  validateRows command.rows
  let validRows := command.rows.filter fun row => row.errors.isEmpty
  let batch : PricingImportBatchRecord := {
    id := batchId, tenantId := context.tenantId, caseId := command.caseId,
    documentKind := command.documentKind, sourceSha256 := command.sourceSha256,
    state := .previewed, aggregateRevision := 1, rowCount := command.rows.length,
    validRowCount := validRows.length,
    errorCount := (command.rows.map (·.errors.length)).sum,
    totalMinor := (validRows.map fun row => row.totalMinor.getD 0).sum,
    commandId := command.commandId, createdAt := context.receivedAt }
  let rows := command.rows.zipIdx.map (previewedRow context.tenantId batchId rowId)
  raiseIf (¬ rows.all rowFits) valueTooLong
  raiseIf (¬ (batchInRange batch && rows.all rowInRange)) outOfRange
  raiseIf (¬ rows.all rowChecks) .integrity
  let importBatches ← flush (store.importBatches.insert? batch)
  let importRows ← flush (store.importRows.insertAll? rows)
  return ({ store with importBatches, importRows }, {
    resultCode := "PRICING_IMPORT_PREVIEWED"
    aggregateRefs := [{
      aggregateType := "PricingImportBatch", aggregateId := batchId.str, aggregateRevision := 1 }]
    events := [{
      aggregateType := "PricingImportBatch", aggregateId := batchId, aggregateRevision := 1,
      eventType := "PricingImportPreviewed",
      payload := [("case_id", .str command.caseId.str), ("batch_id", .str batchId.str),
        ("document_kind", .str command.documentKind.value), ("row_count", .int batch.rowCount),
        ("valid_row_count", .int batch.validRowCount),
        ("error_count", .int batch.errorCount)] }] })

def importTransitionOf (batch : PricingImportBatchRecord) (row : PricingImportTransitionRecord) : Bool :=
  row.tenantId = batch.tenantId ∧ row.batchId = batch.id

def PricingStore.latestImport (store : PricingStore) (batch : PricingImportBatchRecord) :
    Option PricingImportTransitionRecord :=
  store.importTransitions.latest (importTransitionOf batch) (·.version)

/-- The state of the latest transition of a batch, or else of its row. -/
def PricingStore.importState (store : PricingStore) (batch : PricingImportBatchRecord) : ImportState :=
  ((store.latestImport batch).map (·.toState)).getD batch.state

def PricingStore.importRevision (store : PricingStore) (batch : PricingImportBatchRecord) : Nat :=
  ((store.latestImport batch).map (·.version)).getD batch.aggregateRevision

def rowOf (batch : PricingImportBatchRecord) (row : PricingImportRowRecord) : Bool :=
  row.tenantId = batch.tenantId ∧ row.batchId = batch.id

/-- The sales line a committed row becomes; the handler refuses a row without one of its parts. -/
def importedLine (snapshotId : Uuid) (lineId : Nat → Uuid) (entry : PricingImportRowRecord × Nat) :
    Transaction FinancialReportLineRecord := do
  let label ← orRaise entry.1.designation (.execution "IMPORT_ROWS_INVALID")
  let quantityDecimal ← orRaise entry.1.quantityDecimal (.execution "IMPORT_ROWS_INVALID")
  let totalMinor ← orRaise entry.1.totalMinor (.execution "IMPORT_ROWS_INVALID")
  return {
    id := lineId entry.2, tenantId := entry.1.tenantId, snapshotId, category := .sales, label,
    quantityDecimal, unit := if entry.1.unit.getD "" = "" then "U" else entry.1.unit.getD "",
    amountMinor := totalMinor }

def lineFits (line : FinancialReportLineRecord) : Bool :=
  line.label.length ≤ 160 && line.quantityDecimal.length ≤ 32 && line.unit.length ≤ 32

def recalculated (totalMinor : Int) (context : CommandContext) (row : FinancialReportSnapshotRecord) :
    FinancialReportSnapshotRecord :=
  { row with
    salesTotalMinor := row.salesTotalMinor + totalMinor
    aggregateRevision := row.aggregateRevision + 1
    calculatedAt := context.receivedAt }

def snapshotInRange (row : FinancialReportSnapshotRecord) : Bool :=
  integer row.aggregateRevision && bigint row.salesTotalMinor && bigint row.directCostTotalMinor &&
    bigint row.overheadTotalMinor && bigint row.subcontractingTotalMinor && bigint row.contingencyTotalMinor &&
    bigint row.grossMarginMinor && integer row.grossMarginRateBps && bigint row.forecastCashflowMinor

theorem recalculated_columns (totalMinor : Int) (context : CommandContext)
    (row : FinancialReportSnapshotRecord) :
    Schema.columns (recalculated totalMinor context row) = Schema.columns row := rfl

/-- Applies the rows of a previewed batch to one financial draft. The batch row stays as it was
    created; the transition is appended beside it. -/
def commitPricingImport (store : PricingStore) (command : CommitPricingImportCommand)
    (transitionId : Uuid) (lineId : Nat → Uuid) (context : CommandContext) :
    Transaction (PricingStore × HandlerOutcome) := do
  raiseIf (context.actorKind ≠ .patronAdmin ∨ context.membershipId = none)
    (.execution "FINANCIAL_REPORT_PATRON_REQUIRED")
  let batch ← orRaise
    (store.importBatches.find? fun row => row.tenantId = context.tenantId ∧
      row.caseId = command.caseId ∧ row.id = command.batchId)
    (.execution "IMPORT_NOT_FOUND_OR_FORBIDDEN")
  raiseIf (store.importState batch ≠ .previewed) (.execution "IMPORT_ALREADY_COMMITTED")
  raiseIf (store.importRevision batch ≠ command.expectedBatchRevision) (.execution "VERSION_CONFLICT")
  raiseIf (batch.errorCount ≠ 0 ∨ batch.validRowCount ≠ batch.rowCount) (.execution "IMPORT_HAS_ERRORS")
  let snapshot ← orRaise
    (store.snapshots.find? fun row => row.tenantId = context.tenantId ∧
      row.caseId = command.caseId ∧ row.id = command.reportId)
    (.execution "FINANCIAL_REPORT_NOT_FOUND_OR_FORBIDDEN")
  raiseIf (snapshot.state ≠ .draft) (.execution "FINANCIAL_REPORT_NOT_DRAFT")
  raiseIf ((snapshot.aggregateRevision : Int) ≠ command.expectedReportRevision)
    (.execution "VERSION_CONFLICT")
  let rows := (store.importRows.rows.filter (rowOf batch)).insertionSort
    fun first second => first.rowNumber ≤ second.rowNumber
  raiseIf (rows.length ≠ batch.validRowCount ∨ ∃ row ∈ rows, row.errorCodes ≠ [])
    (.execution "IMPORT_ROWS_INVALID")
  let newLines ← rows.zipIdx.mapM (importedLine snapshot.id lineId)
  let totalMinor := (newLines.map (·.amountMinor)).sum
  raiseIf (¬ newLines.all lineFits) valueTooLong
  raiseIf (¬ (newLines.all (fun line => bigint line.amountMinor) &&
    snapshotInRange (recalculated totalMinor context snapshot))) outOfRange
  let lines ← flush (store.lines.insertAll? newLines)
  let transition : PricingImportTransitionRecord := {
    id := transitionId, tenantId := context.tenantId, batchId := batch.id, fromState := .previewed,
    toState := .committed, version := store.importRevision batch + 1,
    commandId := command.commandId }
  let importTransitions ← flush (store.importTransitions.insert? transition)
  let revision := snapshot.aggregateRevision + 1
  return ({ store with
      snapshots := store.snapshots.update (fun row => row.id = snapshot.id)
        (recalculated totalMinor context) (recalculated_columns totalMinor context)
      lines, importTransitions }, {
    resultCode := "PRICING_IMPORT_COMMITTED"
    aggregateRefs := [
      { aggregateType := "FinancialReportSnapshot", aggregateId := snapshot.id.str,
        aggregateRevision := revision },
      { aggregateType := "PricingImportBatch", aggregateId := batch.id.str,
        aggregateRevision := transition.version }]
    events := [{
      aggregateType := "FinancialReportSnapshot", aggregateId := snapshot.id,
      aggregateRevision := revision, eventType := "PricingImportCommitted",
      payload := [("case_id", .str command.caseId.str), ("batch_id", .str batch.id.str),
        ("line_count", .int rows.length), ("resulting_revision", .int revision)] }] })

end SmartAo.Pricing
