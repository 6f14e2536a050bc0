import SmartAo.Pricing.Imports
import SmartAo.Foundation.LockScript

namespace SmartAo.Pricing

open SmartAo.Foundation SmartAo.Platform SmartAo.Case

def LineCategory.value : LineCategory → String
  | sales => "SALES"
  | directCost => "DIRECT_COST"
  | overhead => "OVERHEAD"
  | subcontracting => "SUBCONTRACTING"
  | contingency => "CONTINGENCY"
  | grossMargin => "GROSS_MARGIN"
  | forecastCashflow => "FORECAST_CASHFLOW"

/-- The total of a category. -/
def FinancialReportSnapshotRecord.total (row : FinancialReportSnapshotRecord) : LineCategory → Int
  | .sales => row.salesTotalMinor
  | .directCost => row.directCostTotalMinor
  | .overhead => row.overheadTotalMinor
  | .subcontracting => row.subcontractingTotalMinor
  | .contingency => row.contingencyTotalMinor
  | .grossMargin => row.grossMarginMinor
  | .forecastCashflow => row.forecastCashflowMinor

def FinancialReportSnapshotRecord.setTotal (row : FinancialReportSnapshotRecord) (category : LineCategory)
    (value : Int) : FinancialReportSnapshotRecord :=
  match category with
  | .sales => { row with salesTotalMinor := value }
  | .directCost => { row with directCostTotalMinor := value }
  | .overhead => { row with overheadTotalMinor := value }
  | .subcontracting => { row with subcontractingTotalMinor := value }
  | .contingency => { row with contingencyTotalMinor := value }
  | .grossMargin => { row with grossMarginMinor := value }
  | .forecastCashflow => { row with forecastCashflowMinor := value }

/-- The columns a write flushes on a snapshot: a total, the revision and the time, each from the row that was
    locked. -/
def FinancialReportSnapshotRecord.add (locked : FinancialReportSnapshotRecord) (category : LineCategory) (amount : Int)
    (receivedAt : Timestamp) (row : FinancialReportSnapshotRecord) : FinancialReportSnapshotRecord :=
  { row.setTotal category (locked.total category + amount) with
    aggregateRevision := locked.aggregateRevision + 1
    calculatedAt := receivedAt }

theorem add_columns (locked : FinancialReportSnapshotRecord) (category : LineCategory) (amount : Int)
    (receivedAt : Timestamp) (row : FinancialReportSnapshotRecord) :
    Schema.columns (locked.add category amount receivedAt row) = Schema.columns row := by
  cases category <;> rfl

def FinancialReportSnapshotRecord.publish (locked : FinancialReportSnapshotRecord) (receivedAt : Timestamp)
    (row : FinancialReportSnapshotRecord) : FinancialReportSnapshotRecord :=
  { row with
    state := .published
    publishedAt := some receivedAt
    aggregateRevision := locked.aggregateRevision + 1 }

/-- The patron act that makes a snapshot readable. -/
structure FinancialReportPublicationRecord where
  id : Uuid
  tenantId : Uuid
  snapshotId : Uuid
  patronMembershipId : Uuid
  commandId : Uuid
  publishedAt : Timestamp
deriving DecidableEq

instance : Schema FinancialReportPublicationRecord :=
  Schema.ownedKeys fun row => (row.id, row.tenantId, row.snapshotId, row.commandId)

structure ReportStore where
  cases : Table CaseRecord
  pricing : PricingStore
  publications : Table FinancialReportPublicationRecord

def ReportStore.empty : ReportStore := ⟨.empty, .empty, .empty⟩

structure CreateFinancialReportDraftCommand extends ApplicationCommand where
  caseId : Uuid
  currencyCode : String
  rulesetVersion : Nat

structure AddFinancialReportLineCommand extends ApplicationCommand where
  caseId : Uuid
  reportId : Uuid
  expectedRevision : Nat
  category : LineCategory
  label : String
  quantityDecimal : String
  unit : String
  amountMinor : Int

structure PublishFinancialReportCommand extends ApplicationCommand where
  caseId : Uuid
  reportId : Uuid
  expectedRevision : Nat

def ReportStore.case? (store : ReportStore) (tenantId caseId : Uuid) : Option CaseRecord :=
  store.cases.find? fun row => row.tenantId = tenantId ∧ row.id = caseId

def PricingStore.report? (store : PricingStore) (tenantId caseId reportId : Uuid) :
    Option FinancialReportSnapshotRecord :=
  store.snapshots.find? fun row => row.tenantId = tenantId ∧ row.caseId = caseId ∧ row.id = reportId

def PricingStore.batch? (store : PricingStore) (tenantId caseId batchId : Uuid) : Option PricingImportBatchRecord :=
  store.importBatches.find? fun row => row.tenantId = tenantId ∧ row.caseId = caseId ∧ row.id = batchId

def reportPatron (context : CommandContext) : Transaction Uuid := do
  raiseIf (context.actorKind ≠ .patronAdmin) (.execution "FINANCIAL_REPORT_PATRON_REQUIRED")
  orRaise context.membershipId (.execution "FINANCIAL_REPORT_PATRON_REQUIRED")

def reportOutcome (snapshotId : Uuid) (revision : Nat) (resultCode eventType : String) (payload : List (String × Json)) :
    HandlerOutcome where
  resultCode := resultCode
  aggregateRefs := [{
    aggregateType := "FinancialReportSnapshot", aggregateId := snapshotId.str, aggregateRevision := revision }]
  events := [{
    aggregateType := "FinancialReportSnapshot", aggregateId := snapshotId, aggregateRevision := revision,
    eventType := eventType, payload := payload }]

/-- The case is locked, then an open draft is searched. Each handler reads the view of its statements and writes the
    store it commits in; run alone, both are one store. -/
def createFinancialReportDraft (view : Nat → ReportStore) (store : ReportStore)
    (command : CreateFinancialReportDraftCommand) (reportId : Uuid) (context : CommandContext) :
    Transaction (ReportStore × HandlerOutcome) := do
  let _ ← reportPatron context
  let _ ← orRaise ((view 0).case? context.tenantId command.caseId) (.execution "NOT_FOUND_OR_FORBIDDEN")
  raiseIf (∃ row ∈ (view 1).pricing.snapshots, row.tenantId = context.tenantId ∧ row.caseId = command.caseId ∧
      row.state = .draft) (.execution "FINANCIAL_REPORT_DRAFT_ALREADY_OPEN")
  let snapshot : FinancialReportSnapshotRecord := {
    id := reportId, tenantId := context.tenantId, caseId := command.caseId, state := .draft,
    currencyCode := command.currencyCode, rulesetVersion := command.rulesetVersion, aggregateRevision := 0,
    calculatedAt := context.receivedAt, publishedAt := none, salesTotalMinor := 0, directCostTotalMinor := 0,
    overheadTotalMinor := 0, subcontractingTotalMinor := 0, contingencyTotalMinor := 0, grossMarginMinor := 0,
    grossMarginRateBps := 0, forecastCashflowMinor := 0 }
  let snapshots ← flush (store.pricing.snapshots.insert? snapshot)
  return ({ store with pricing := { store.pricing with snapshots } },
    reportOutcome reportId 0 "FINANCIAL_REPORT_DRAFT_CREATED" "FinancialReportDraftCreated" [
      ("report_id", .str reportId.str), ("case_id", .str command.caseId.str), ("state", .str "DRAFT"),
      ("resulting_revision", .int 0)])

/-- The draft of the expected revision that a command locks. -/
def lockedDraft (store : PricingStore) (tenantId caseId reportId : Uuid) (expectedRevision : Int) (missing : String) :
    Transaction FinancialReportSnapshotRecord := do
  let snapshot ← orRaise (store.report? tenantId caseId reportId) (.execution missing)
  raiseIf (snapshot.state ≠ .draft) (.execution "FINANCIAL_REPORT_NOT_DRAFT")
  raiseIf ((snapshot.aggregateRevision : Int) ≠ expectedRevision) (.execution "VERSION_CONFLICT")
  return snapshot

def addFinancialReportLine (view : Nat → ReportStore) (store : ReportStore) (command : AddFinancialReportLineCommand)
    (lineId : Uuid) (context : CommandContext) : Transaction (ReportStore × HandlerOutcome) := do
  let _ ← reportPatron context
  let snapshot ← lockedDraft (view 0).pricing context.tenantId command.caseId command.reportId command.expectedRevision
    "NOT_FOUND_OR_FORBIDDEN"
  let line : FinancialReportLineRecord := {
    id := lineId, tenantId := context.tenantId, snapshotId := snapshot.id, category := command.category,
    label := command.label, quantityDecimal := command.quantityDecimal, unit := command.unit,
    amountMinor := command.amountMinor }
  raiseIf (¬ lineFits line) valueTooLong
  raiseIf (¬ (bigint line.amountMinor &&
    snapshotInRange (snapshot.add command.category command.amountMinor context.receivedAt snapshot))) outOfRange
  raiseIf (¬ line.label.toList.any (· ≠ ' ')) .integrity
  let lines ← flush (store.pricing.lines.insert? line)
  let revision := snapshot.aggregateRevision + 1
  return ({ store with pricing := { store.pricing with
      snapshots := store.pricing.snapshots.update (fun row => row.id = snapshot.id)
        (snapshot.add command.category command.amountMinor context.receivedAt) (add_columns snapshot _ _ _)
      lines } },
    reportOutcome snapshot.id revision "FINANCIAL_REPORT_LINE_ADDED" "FinancialReportLineAdded" [
      ("report_id", .str snapshot.id.str), ("case_id", .str snapshot.caseId.str), ("line_id", .str lineId.str),
      ("category", .str command.category.value), ("resulting_revision", .int revision)])

def publishFinancialReport (view : Nat → ReportStore) (store : ReportStore) (command : PublishFinancialReportCommand)
    (publicationId : Uuid) (context : CommandContext) : Transaction (ReportStore × HandlerOutcome) := do
  let membershipId ← reportPatron context
  let snapshot ← lockedDraft (view 0).pricing context.tenantId command.caseId command.reportId command.expectedRevision
    "NOT_FOUND_OR_FORBIDDEN"
  let revision := snapshot.aggregateRevision + 1
  raiseIf (¬ integer revision) outOfRange
  let snapshots ← flush (store.pricing.snapshots.rewrite? (fun row => row.id = snapshot.id)
    (snapshot.publish context.receivedAt))
  let publications ← flush (store.publications.insert? {
    id := publicationId, tenantId := context.tenantId, snapshotId := snapshot.id, patronMembershipId := membershipId,
    commandId := command.commandId, publishedAt := context.receivedAt })
  return ({ store with pricing := { store.pricing with snapshots }, publications },
    reportOutcome snapshot.id revision "FINANCIAL_REPORT_PUBLISHED" "FinancialReportPublished" [
      ("report_id", .str snapshot.id.str), ("case_id", .str snapshot.caseId.str),
      ("resulting_revision", .int revision)])

/-- Creation of a batch: its case is locked, and its rows come from the command. -/
def createImportSession (view : Nat → ReportStore) (store : ReportStore) (command : CreatePricingImportPreviewCommand)
    (batchId : Uuid) (rowId : Nat → Uuid) (context : CommandContext) : Transaction (ReportStore × HandlerOutcome) := do
  let (pricing, outcome) ← createPricingImportPreview (view 0).cases store.pricing command batchId rowId context
  return ({ store with pricing }, outcome)

/-- The rows of a batch in the order of their numbers. -/
def PricingStore.batchRows (store : PricingStore) (batch : PricingImportBatchRecord) : List PricingImportRowRecord :=
  (store.importRows.rows.filter (rowOf batch)).insertionSort fun first second => first.rowNumber ≤ second.rowNumber

/-- The batch is locked, its latest transition read, the snapshot locked, the rows read. -/
def commitImportSession (view : Nat → ReportStore) (store : ReportStore) (command : CommitPricingImportCommand)
    (transitionId : Uuid) (lineId : Nat → Uuid) (context : CommandContext) :
    Transaction (ReportStore × HandlerOutcome) := do
  let _ ← reportPatron context
  let batch ← orRaise ((view 0).pricing.batch? context.tenantId command.caseId command.batchId)
    (.execution "IMPORT_NOT_FOUND_OR_FORBIDDEN")
  raiseIf ((view 1).pricing.importState batch ≠ .previewed) (.execution "IMPORT_ALREADY_COMMITTED")
  let revision := (view 1).pricing.importRevision batch
  raiseIf (revision ≠ command.expectedBatchRevision) (.execution "VERSION_CONFLICT")
  raiseIf (batch.errorCount ≠ 0 ∨ batch.validRowCount ≠ batch.rowCount) (.execution "IMPORT_HAS_ERRORS")
  let snapshot ← lockedDraft (view 2).pricing context.tenantId command.caseId command.reportId
    command.expectedReportRevision "FINANCIAL_REPORT_NOT_FOUND_OR_FORBIDDEN"
  let rows := (view 3).pricing.batchRows batch
  raiseIf (rows.length ≠ batch.validRowCount ∨ ∃ row ∈ rows, row.errorCodes ≠ []) (.execution "IMPORT_ROWS_INVALID")
  let newLines ← collect (importedLine snapshot.id lineId) rows.zipIdx
  let totalMinor := (newLines.map (·.amountMinor)).sum
  raiseIf (¬ newLines.all lineFits) valueTooLong
  raiseIf (¬ (newLines.all (fun line => bigint line.amountMinor) &&
    snapshotInRange (recalculated totalMinor context snapshot))) outOfRange
  let lines ← flush (store.pricing.lines.insertAll? newLines)
  let transition : PricingImportTransitionRecord := {
    id := transitionId, tenantId := context.tenantId, batchId := batch.id, fromState := .previewed,
    toState := .committed, version := revision + 1, commandId := command.commandId }
  let importTransitions ← flush (store.pricing.importTransitions.insert? transition)
  let reportRevision := snapshot.aggregateRevision + 1
  return ({ store with pricing := { store.pricing with
      snapshots := store.pricing.snapshots.update (fun row => row.id = snapshot.id)
        (snapshot.add .sales totalMinor context.receivedAt) (add_columns snapshot _ _ _)
      lines, importTransitions } }, {
    resultCode := "PRICING_IMPORT_COMMITTED"
    aggregateRefs := [
      { aggregateType := "FinancialReportSnapshot", aggregateId := snapshot.id.str,
        aggregateRevision := reportRevision },
      { aggregateType := "PricingImportBatch", aggregateId := batch.id.str,
        aggregateRevision := transition.version }]
    events := [{
      aggregateType := "FinancialReportSnapshot", aggregateId := snapshot.id,
      aggregateRevision := reportRevision, eventType := "PricingImportCommitted",
      payload := [("case_id", .str command.caseId.str), ("batch_id", .str batch.id.str),
        ("line_count", .int rows.length), ("resulting_revision", .int reportRevision)] }] })

/-- A commit that runs alone is the handler. -/
theorem commitImportSession_alone {store : ReportStore} {command : CommitPricingImportCommand} {transitionId : Uuid}
    {lineId : Nat → Uuid} {context : CommandContext} :
    commitImportSession (fun _ => store) store command transitionId lineId context =
      (commitPricingImport store.pricing command transitionId lineId context).map fun result =>
        ({ store with pricing := result.1 }, result.2) := by
  unfold commitImportSession commitPricingImport reportPatron lockedDraft
  by_cases admin : context.actorKind = .patronAdmin
  · cases member : context.membershipId with
    | none =>
      simp only [admin]
      rfl
    | some membershipId =>
      simp only [admin, ne_eq, not_true_eq_false, reduceCtorEq, or_self, Foundation.map_bind, Foundation.map_pure,
        bind_assoc, collect_eq_mapM, pure_bind, raiseIf_pass not_false, orRaise_some, PricingStore.batch?,
        PricingStore.report?, PricingStore.batchRows]
      have passed : ∀ {α β : Type} (value : α) (rest : α → Transaction β),
          ((.ok value : Transaction α) >>= rest) = rest value := fun _ _ => rfl
      simp only [passed]
      refine bind_congr_ok fun batch _ => ?_
      refine bind_congr_ok fun _ _ => ?_
      refine bind_congr_ok fun _ _ => ?_
      refine bind_congr_ok fun _ _ => ?_
      refine bind_congr_ok fun snapshot found => ?_
      refine bind_congr_ok fun _ _ => ?_
      refine bind_congr_ok fun _ _ => ?_
      refine bind_congr_ok fun _ _ => ?_
      refine bind_congr_ok fun newLines _ => ?_
      refine bind_congr_ok fun _ _ => ?_
      refine bind_congr_ok fun _ _ => ?_
      refine bind_congr_ok fun lines _ => ?_
      refine bind_congr_ok fun transitions _ => ?_
      have same : ∀ row ∈ store.pricing.snapshots, decide (row.id = snapshot.id) = true →
          snapshot.add .sales (newLines.map (·.amountMinor)).sum context.receivedAt row =
            recalculated (newLines.map (·.amountMinor)).sum context row := by
        intro row stored matched
        have equal : row = snapshot := Table.eq_of_conflict stored (Table.find?_mem (orRaise_ok.mp found))
          (.inl (of_decide_eq_true matched))
        rw [equal]
        rfl
      rw [Table.update_congr same]
  · rw [raiseIf_fail admin, raiseIf_fail (.inl admin)]
    rfl

/-- The rows financial commands lock. -/
inductive FinancialRow where
  | case (id : Uuid)
  | snapshot (id : Uuid)
  | batch (id : Uuid)
deriving DecidableEq

inductive FinancialCommand where
  | draft (command : CreateFinancialReportDraftCommand) (reportId : Uuid)
  | line (command : AddFinancialReportLineCommand) (lineId : Uuid)
  | publish (command : PublishFinancialReportCommand) (publicationId : Uuid)
  | preview (command : CreatePricingImportPreviewCommand) (batchId : Uuid) (rowId : Nat → Uuid)
  | commit (command : CommitPricingImportCommand) (transitionId : Uuid) (lineId : Nat → Uuid)

structure FinancialTransaction where
  transaction : Nat
  command : FinancialCommand
  context : CommandContext

/-- What the numbered statement of a command touches. -/
def FinancialTransaction.statement (entry : FinancialTransaction) (statement : Nat) (view : Nat → ReportStore) :
    Option (Touched FinancialRow) :=
  match entry.command, statement with
  | .draft command _, 0 => ((view 0).case? entry.context.tenantId command.caseId).map fun row => .row (.case row.id)
  | .draft _ _, 1 => some (.own entry.transaction)
  | .line command _, 0 =>
    ((view 0).pricing.report? entry.context.tenantId command.caseId command.reportId).map fun row => .row (.snapshot row.id)
  | .publish command _, 0 =>
    ((view 0).pricing.report? entry.context.tenantId command.caseId command.reportId).map fun row => .row (.snapshot row.id)
  | .preview command _ _, 0 => ((view 0).case? entry.context.tenantId command.caseId).map fun row => .row (.case row.id)
  | .commit command _ _, 0 =>
    ((view 0).pricing.batch? entry.context.tenantId command.caseId command.batchId).map fun row => .row (.batch row.id)
  | .commit command _ _, 2 =>
    ((view 2).pricing.report? entry.context.tenantId command.caseId command.reportId).map fun row => .row (.snapshot row.id)
  | .commit _ _ _, 1 | .commit _ _ _, 3 => some (.own entry.transaction)
  | _, _ => none

def FinancialTransaction.execute (entry : FinancialTransaction) (view : Nat → ReportStore) (store : ReportStore) :
    Transaction (ReportStore × HandlerOutcome) :=
  match entry.command with
  | .draft command reportId => createFinancialReportDraft view store command reportId entry.context
  | .line command lineId => addFinancialReportLine view store command lineId entry.context
  | .publish command publicationId => publishFinancialReport view store command publicationId entry.context
  | .preview command batchId rowId => createImportSession view store command batchId rowId entry.context
  | .commit command transitionId lineId => commitImportSession view store command transitionId lineId entry.context

def financialScript : LockScript ReportStore FinancialTransaction (Touched FinancialRow) CommandError where
  next entry held store := entry.statement held.length (heldView held store)
  writes _ _ := []
  finish entry view store := (entry.execute view store).map Prod.fst

abbrev ReportSessions := Lockers ReportStore FinancialTransaction (Touched FinancialRow)

/-- What other commands write: the cases, and the scenarios. -/
structure ReportWrite where
  cases : Table CaseRecord
  scenarios : Table PricingScenarioRecord
  transitions : Table PricingScenarioTransitionRecord

def ReportStore.writeAlone (store : ReportStore) (write : ReportWrite) : Transaction ReportStore :=
  return { store with
    cases := write.cases
    pricing := { store.pricing with scenarios := write.scenarios, scenarioTransitions := write.transitions } }

/-- The financial commands interleaved statement by statement. -/
def interleaveReports (state : ReportSessions) (input : HolderInput ReportWrite FinancialTransaction) :
    Transaction ReportSessions :=
  state.step financialScript (.failed "LOCK_WAIT") ReportStore.writeAlone input

end SmartAo.Pricing
