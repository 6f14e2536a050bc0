import SmartAo.Foundation.Chain
import SmartAo.Pricing.CommittablePreviews
import SmartAo.Pricing.PublishedMargins

namespace SmartAo.Pricing

open SmartAo.Foundation SmartAo.Platform SmartAo.Case

/-- The sales line a data row of a sheet stands for. -/
structure LineOfEntry (tables : UnicodeTables) (header : HeaderMap) (reportId : Uuid) (entry : List Cell × Nat)
    (line : FinancialReportLineRecord) : Prop where
  snapshotId : line.snapshotId = reportId
  category : line.category = .sales
  label : (cellText (cellOf header entry.1 .designation)).map trimmed = some line.label
  quantityDecimal : (decimalText tables (cellOf header entry.1 .quantity) (some ['1'])).map String.ofList =
    some line.quantityDecimal
  unit : line.unit = if ((cellText (cellOf header entry.1 .unit)).map trimmed).getD "" = "" then "U"
    else ((cellText (cellOf header entry.1 .unit)).map trimmed).getD ""
  amountMinor : line.amountMinor = rowAmount tables header entry.1

/-- The lines a commit adds are those of the data rows, one each and in their order. -/
def ImportsEntries (tables : UnicodeTables) (header : HeaderMap) (reportId : Uuid) (entries : List (List Cell × Nat))
    (before after : PricingStore) : Prop :=
  ∃ added, after.lines.rows = before.lines.rows ++ added ∧
    List.Forall₂ (LineOfEntry tables header reportId) entries added

/-- A run has a transaction of a command, which ends and commits next. -/
structure EndsNext (inputs : List ReportInput) (index : Nat) (command : FinancialCommand) (context : CommandContext) :
    Prop where
  active : ((reportsAfter inputs).active[index]?.map fun locker => (locker.command.command, locker.command.context)) =
    some (command, context)
  accepted : (interleaveReports (reportsAfter inputs) (.finish index)).isOk = true

/-- An upload whose sheet was previewed, and the command the route made of it. -/
structure Previewed (tables : UnicodeTables) (workbook : List UInt8 → Option Workbook) (request : ImportUpload)
    (shown : PricingImportPreview) (command : CreatePricingImportPreviewCommand) (header : HeaderMap)
    (rows : List (List Cell)) : Prop where
  accepted : preview tables workbook request.caseId request.documentKind request.upload = .ok shown
  asked : creationCommand request.application request.caseId request.documentKind request.upload shown = some command
  sheet : ∃ sheet, openSheet tables workbook request.upload = .ok sheet ∧ splitSheet tables sheet = .ok (header, rows)

section Lists

variable {α β γ : Type} {first : α → β → Prop} {second : β → γ → Prop} {both : α → γ → Prop}

theorem forall₂_join {items : List α} {middle : List β} {results : List γ}
    (join : ∀ a b c, first a b → second b c → both a c) (one : List.Forall₂ first items middle)
    (two : List.Forall₂ second middle results) : List.Forall₂ both items results := by
  induction one generalizing results with
  | nil =>
    cases two
    exact .nil
  | cons head _ ih =>
    cases two with
    | cons other rest => exact .cons (join _ _ _ head other) (ih rest)

theorem mapM_forall₂ {compute : α → Option β} {items : List α} {results : List β}
    (computed : items.mapM compute = some results) :
    List.Forall₂ (fun item result => compute item = some result) items results := by
  induction items generalizing results with
  | nil =>
    cases computed
    exact .nil
  | cons item items ih =>
    rw [List.mapM_cons] at computed
    obtain ⟨result, one, more⟩ := Option.bind_eq_some_iff.mp computed
    obtain ⟨rest, two, built⟩ := Option.bind_eq_some_iff.mp more
    cases built
    exact .cons one (ih two)

end Lists

section Lines

variable {tables : UnicodeTables} {header : HeaderMap} {entry : List Cell × Nat} {item : PricingImportRow}
  {row : CreatePricingImportRowCommand} {reportId : Uuid} {line : FinancialReportLineRecord}

/-- What the command of a row takes from its preview. -/
theorem rowCommand_some (made : rowCommand item = some row) : row.rowNumber = item.rowNumber ∧
    row.designation = item.designation.map trimmed ∧ row.unit = item.unit.map trimmed ∧
    row.quantityDecimal = item.quantityDecimal.map trimmed ∧ row.totalMinor = item.totalMinor ∧
    row.errors = item.errors.map trimmed := by
  rw [rowCommand] at made
  split at made
  · cases made
    exact ⟨rfl, rfl, rfl, rfl, rfl, rfl⟩
  · cases made

/-- The line of a stored row without errors is the line of its data row. -/
theorem LineOf.read {tenantId batchId : Uuid} {rowId : Nat → Uuid} {index : Nat}
    (parsed : parseEntry tables header entry = .ok item) (made : rowCommand item = some row) (clean : item.errors = [])
    (its : LineOf reportId (previewedRow tenantId batchId rowId (row, index)) line) :
    LineOfEntry tables header reportId entry line := by
  obtain ⟨_, designation, unit, quantity, total, _⟩ := rowCommand_some made
  have read := parseRow_clean parsed clean
  obtain ⟨text, shown, written⟩ := read.quantity
  obtain ⟨number, rfl, _⟩ := decimalText_plain shown
  have label : row.designation = some line.label := its.label
  have decimal : row.quantityDecimal = some line.quantityDecimal := its.quantityDecimal
  have amount : row.totalMinor.map Int.ofNat = some line.amountMinor := its.amountMinor
  refine ⟨its.snapshotId, its.category, ?_, ?_, ?_, ?_⟩
  · rw [← read.designation, ← designation]
    exact label
  · rw [shown, Option.map_some, ← decimal, quantity, written, Option.map_some, trimmed_plain]
  · rw [← read.unit, ← unit]
    exact its.unit
  · rw [total, read.total] at amount
    exact (Option.some.inj amount).symm

end Lines

/-- The command of a preview has the rows of the preview. -/
theorem creationCommand_some {application : ApplicationCommand} {caseId : Uuid} {documentKind : DocumentKind}
    {upload : PricingUpload} {shown : PricingImportPreview} {command : CreatePricingImportPreviewCommand}
    (asked : creationCommand application caseId documentKind upload shown = some command) :
    shown.rows.mapM rowCommand = some command.rows := by
  simp only [creationCommand, Option.bind_eq_bind, Option.bind_eq_some_iff] at asked
  obtain ⟨rows, made, _, _, built⟩ := asked
  cases built
  exact made

section Batch

variable {tables : UnicodeTables} {workbook : List UInt8 → Option Workbook} {request : ImportUpload}
  {shown : PricingImportPreview} {command : CreatePricingImportPreviewCommand} {header : HeaderMap}
  {rows : List (List Cell)} {batchId : Uuid} {rowId : Nat → Uuid} {context : CommandContext}

/-- A batch whose stored rows have no errors comes from a preview without errors. -/
theorem Previewed.clean (previewed : Previewed tables workbook request shown command header rows)
    (stored : ∀ row ∈ previewedRows command.rows batchId rowId context, row.errorCodes = []) :
    ∀ item ∈ shown.rows, item.errors = [] := by
  have made := mapM_forall₂ (creationCommand_some previewed.asked)
  intro item member
  obtain ⟨index, inside, rfl⟩ := List.mem_iff_getElem.mp member
  have same := made.length_eq
  have listed : index < command.rows.length := by omega
  have one := (List.forall₂_iff_get.mp made).2 index inside listed
  have entry : (command.rows[index], index) ∈ command.rows.zipIdx :=
    List.mem_zipIdx_iff_getElem?.mpr (List.getElem?_eq_getElem listed)
  have none : command.rows[index].errors = [] := stored _ (List.mem_map_of_mem entry)
  have errors := (rowCommand_some one).2.2.2.2.2
  rw [List.get_eq_getElem, List.get_eq_getElem, none] at errors
  exact List.map_eq_nil_iff.mp errors.symm

theorem Previewed.errorCount (previewed : Previewed tables workbook request shown command header rows)
    (clean : ∀ item ∈ shown.rows, item.errors = []) : shown.errorCount = 0 := by
  obtain ⟨sheet, opened, parts⟩ := previewed.sheet
  obtain ⟨stop, count, items, reading, same, errors, _⟩ := preview_ok previewed.accepted opened parts
  rw [errors, reading.errors, ← reading.parsed.errors, ← same]
  apply List.sum_eq_zero
  intro length member
  obtain ⟨item, listed, rfl⟩ := List.mem_map.mp member
  rw [clean item listed]
  rfl

/-- The stored rows of such a batch are in the order of their numbers. -/
theorem Previewed.sorted (previewed : Previewed tables workbook request shown command header rows)
    (parsed : collect (parseEntry tables header) (readable rows) = .ok shown.rows) :
    (previewedRows command.rows batchId rowId context).insertionSort
        (fun first second => first.rowNumber ≤ second.rowNumber) =
      previewedRows command.rows batchId rowId context := by
  apply insertionSort_of_increasing
  have numbers : (previewedRows command.rows batchId rowId context).map (·.rowNumber) = (readable rows).map (·.2) := by
    have own : (previewedRows command.rows batchId rowId context).map (·.rowNumber) =
        command.rows.map (·.rowNumber) := by
      conv_rhs => rw [← List.zipIdx_map_fst 0 command.rows]
      rw [previewedRows, List.map_map, List.map_map]
      rfl
    have read := collect_map (fun _ _ => parseRow_number) parsed
    rw [own, ← read]
    have made := mapM_forall₂ (creationCommand_some previewed.asked)
    have same : List.Forall₂ (fun item row => item.rowNumber = row.rowNumber) shown.rows command.rows :=
      made.imp fun _ _ one => (rowCommand_some one).1.symm
    exact (List.forall₂_eq_eq_eq ▸ List.forall₂_map_left_iff.mpr (List.forall₂_map_right_iff.mpr same)).symm
  have increasing := dataRows_sorted 2 (rows.take maxRows)
  rw [← readable, ← numbers] at increasing
  exact List.pairwise_map.mp increasing

/-- The lines a commit makes of these rows are those of the data rows within the limit. -/
theorem Previewed.lines (previewed : Previewed tables workbook request shown command header rows)
    (parsed : collect (parseEntry tables header) (readable rows) = .ok shown.rows)
    (clean : ∀ item ∈ shown.rows, item.errors = []) {reportId : Uuid} {added : List FinancialReportLineRecord}
    (made : List.Forall₂ (LineOf reportId) (previewedRows command.rows batchId rowId context) added) :
    List.Forall₂ (LineOfEntry tables header reportId) (readable rows) added := by
  have each : List.Forall₂ (fun row line => ∃ index, LineOf reportId
      (previewedRow context.tenantId batchId rowId (row, index)) line) command.rows added := by
    conv => arg 2; rw [← List.zipIdx_map_fst 0 command.rows]
    apply List.forall₂_map_left_iff.mpr
    exact (List.forall₂_map_left_iff.mp made).imp fun entry _ its => ⟨entry.2, its⟩
  have commands := mapM_forall₂ (creationCommand_some previewed.asked)
  have kept : List.Forall₂ (fun item row => item.errors = [] ∧ rowCommand item = some row) shown.rows command.rows :=
    (List.forall₂_and_left _ _).mpr ⟨clean, commands⟩
  have items : List.Forall₂ (fun item line => ∃ row index, (item.errors = [] ∧ rowCommand item = some row) ∧
      LineOf reportId (previewedRow context.tenantId batchId rowId (row, index)) line) shown.rows added := by
    refine forall₂_join (fun item row line one two => ?_) kept each
    obtain ⟨index, its⟩ := two
    exact ⟨row, index, one, its⟩
  apply forall₂_join _ (collect_forall₂ parsed) items
  intro entry item line one two
  obtain ⟨row, index, ⟨none, command⟩, its⟩ := two
  exact its.read one command none

end Batch

section Runs

variable {inputs first later : List ReportInput} {index one two : Nat} {context committer : CommandContext}
  {command : CreatePricingImportPreviewCommand} {batchId : Uuid} {rowId : Nat → Uuid}
  {entry : CommitPricingImportCommand} {transitionId : Uuid} {lineId : Nat → Uuid}

theorem EndsNext.ends {financial : FinancialCommand} (next : EndsNext inputs index financial context) : ∃ locker,
    (reportsAfter inputs).active[index]? = some locker ∧ locker.command.command = financial ∧
      locker.command.context = context ∧
      interleaveReports (reportsAfter inputs) (.finish index) = .ok (reportsAfter (inputs ++ [.finish index])) := by
  obtain ⟨locker, picked, its⟩ := Option.map_eq_some_iff.mp next.active
  rw [Prod.mk.injEq] at its
  refine ⟨locker, picked, its.1, its.2, ?_⟩
  rw [reportsAfter_concat]
  exact commit_of_isOk next.accepted

theorem EndsNext.creates (next : EndsNext inputs index (.preview command batchId rowId) context) : ∃ cases,
    Creates cases (reportsAfter inputs).store.pricing (reportsAfter (inputs ++ [.finish index])).store.pricing command
      batchId rowId context := by
  obtain ⟨locker, picked, its, owner, accepted⟩ := next.ends
  obtain ⟨other, store, found, _, written, after⟩ := Lockers.step_finish accepted
  obtain rfl : other = locker := Option.some.inj (found.symm.trans picked)
  obtain ⟨outcome, written⟩ := map_fst_ok.mp written
  simp only [FinancialTransaction.execute, its, owner, createImportSession, bind_ok, pure_ok, Prod.mk.injEq] at written
  obtain ⟨⟨pricing, result⟩, created, rfl, _⟩ := written
  have creates := createPricingImportPreview_creates.mp ⟨result, created⟩
  rw [after]
  exact ⟨_, creates⟩

theorem Creates.batchCreated {cases : Table CaseRecord} {store next : PricingStore}
    (creates : Creates cases store next command batchId rowId context) :
    BatchCreated store next (previewedBatch command batchId context) (previewedRows command.rows batchId rowId context) := by
  refine ⟨creates.batches, creates.rows, by rw [creates.rest], rfl, rfl, fun row member => ?_, ?_, ?_⟩
  · obtain ⟨item, _, rfl⟩ := List.mem_map.mp member
    simp [rowOf, previewedRow, previewedBatch]
  · simp [previewedRows, previewedBatch]
  · exact congrArg List.sum previewedRows_map

/-- A commit that follows a creation adds the lines of the rows that were created. -/
theorem EndsNext.commits (created : EndsNext first one (.preview command batchId rowId) context)
    (before : first ++ [.finish one] <+: later) (its : entry.batchId = batchId)
    (committed : EndsNext later two (.commit entry transitionId lineId) committer) : ∃ added,
      (reportsAfter (later ++ [.finish two])).store.pricing.lines.rows =
        (reportsAfter later).store.pricing.lines.rows ++ added ∧
      (∀ row ∈ previewedRows command.rows batchId rowId context, row.errorCodes = []) ∧
      List.Forall₂ (LineOf entry.reportId) ((previewedRows command.rows batchId rowId context).insertionSort
        fun first second => first.rowNumber ≤ second.rowNumber) added := by
  obtain ⟨cases, creates⟩ := created.creates
  obtain ⟨locker, picked, is, _, accepted⟩ := committed.ends
  obtain ⟨batch, added, contributes, clean⟩ := (reporting_after later).commits accepted picked is
  have own := creates.batchCreated.rowsOf_own (reporting_after first).ledger.imports
  have stored : previewedBatch command batchId context ∈ (reportsAfter (first ++ [.finish one])).store.pricing.importBatches :=
    (Table.mem_insert? creates.batches).mpr (.inr rfl)
  have until_ := growth_after (before.trans (List.prefix_append later [.finish two]))
  have present : batch ∈ (reportsAfter (later ++ [.finish two])).store.pricing.importBatches :=
    (growth_after (List.prefix_append later [.finish two])).batches.subset contributes.stored
  have same : batch = previewedBatch command batchId context :=
    batch_of_id present (until_.batches.subset stored) (contributes.its.trans its)
  rw [same] at clean present
  have rows : (reportsAfter (later ++ [.finish two])).store.pricing.rowsOf (previewedBatch command batchId context) =
      previewedRows command.rows batchId rowId context := by
    rw [← own]
    exact ((reporting_after _).ledger.imports.filled _ stored).same
      ((reporting_after _).ledger.imports.filled _ present) until_
  have sorted : (reportsAfter (later ++ [.finish two])).store.pricing.batchRows (previewedBatch command batchId context) =
      (previewedRows command.rows batchId rowId context).insertionSort
        fun first second => first.rowNumber ≤ second.rowNumber := by
    rw [← rows]
    rfl
  have lines := contributes.rows
  rw [same, sorted] at lines
  refine ⟨added, contributes.lines, fun row member => clean row ?_, lines⟩
  rw [sorted]
  exact (List.mem_insertionSort _).mpr member

end Runs

/-- A sheet reaches the lines of a snapshot with all data rows within the limit, and only without errors; it reaches
    them whole exactly when no row beyond the limit holds a value. -/
theorem imported_sheets (tables : UnicodeTables) (workbook : List UInt8 → Option Workbook) (request : ImportUpload)
    (shown : PricingImportPreview) (command : CreatePricingImportPreviewCommand) (header : HeaderMap)
    (rows : List (List Cell)) (previewed : Previewed tables workbook request shown command header rows)
    (first later : List ReportInput) (one two : Nat) (before : first ++ [.finish one] <+: later)
    (created : EndsNext first one (.preview command request.batchId request.rowId) request.context)
    (entry : CommitPricingImportCommand) (transitionId : Uuid) (lineId : Nat → Uuid) (committer : CommandContext)
    (its : entry.batchId = request.batchId)
    (committed : EndsNext later two (.commit entry transitionId lineId) committer) :
    shown.errorCount = 0 ∧
      ImportsEntries tables header entry.reportId (readable rows) (reportsAfter later).store.pricing
        (reportsAfter (later ++ [.finish two])).store.pricing ∧
      (ImportsEntries tables header entry.reportId (dataRows 2 rows) (reportsAfter later).store.pricing
          (reportsAfter (later ++ [.finish two])).store.pricing ↔ hasRemainingRows (rows.drop maxRows) = false) := by
  obtain ⟨added, lines, stored, made⟩ := created.commits before its committed
  have clean := previewed.clean stored
  have errorCount := previewed.errorCount clean
  obtain ⟨sheet, opened, parts⟩ := previewed.sheet
  obtain ⟨parsed, _⟩ := preview_clean previewed.accepted opened parts errorCount
  rw [previewed.sorted parsed] at made
  have within := previewed.lines parsed clean made
  have whole : dataRows 2 rows = readable rows ++ dataRows (2 + (rows.take maxRows).length) (rows.drop maxRows) := by
    conv_lhs => rw [← List.take_append_drop maxRows rows, dataRows_append]
    rfl
  refine ⟨errorCount, ⟨added, lines, within⟩, ?_⟩
  constructor
  · rintro ⟨other, also, all⟩
    have same : other = added := List.append_cancel_left (also.symm.trans lines)
    have length := all.length_eq
    rw [same, ← within.length_eq, whole, List.length_append] at length
    have none : dataRows (2 + (rows.take maxRows).length) (rows.drop maxRows) = [] := by
      apply List.length_eq_zero_iff.mp
      omega
    exact dataRows_eq_nil.mp none
  · intro nothing
    rw [whole, dataRows_eq_nil.mpr nothing, List.append_nil]
    exact ⟨added, lines, within⟩

/-- A sheet with a row within the limit and two beyond it. -/
def overlongRows : List (List Cell) := workRow :: (List.replicate (maxRows - 1) [] ++ [workRow, workRow])

def overlongPreview : PricingImportPreview := { workPreview with truncated := true, limitReason := some "ROW_LIMIT" }

def workCommand : CreatePricingImportPreviewCommand where
  commandId := 51
  idempotencyKey := 52
  correlationId := none
  caseId := 4
  documentKind := .excel
  sourceSha256 := hexdigestBytes []
  rows := [⟨2, none, some "Pose", none, some "1", none, some 1000, []⟩]

theorem overlongRows_preview :
    preview asciiTables (sheetFile (importHeader :: overlongRows)) 4 .excel importUpload = .ok overlongPreview := by
  have read : readRows asciiTables (resolveHeaders asciiTables importHeader) 2 overlongRows ⟨[], 0, 0⟩ =
      .ok ⟨⟨workPreview.rows, 1000, 0⟩, some .rows, [workRow]⟩ := by
    have item : parseRow asciiTables 2 workRow (resolveHeaders asciiTables importHeader) =
        .ok ⟨2, none, some "Pose", none, some "1", none, some 1000, []⟩ := rfl
    have holds : blankRow workRow = false := by decide
    rw [overlongRows, readRows, if_neg (by decide), holds, if_neg Bool.false_ne_true, bind_of_ok item,
      if_neg (by decide), readRows_empty (maxRows - 1) 3 _ _ (Nat.le_of_eq rfl)]
    rfl
  rw [preview, bind_of_ok (openSheet_sheetFile _), bind_of_ok (splitSheet_importHeader _)]
  simp only
  rw [bind_of_ok read]
  rfl

theorem workRow_command : workPreview.rows.mapM rowCommand = some workCommand.rows := by
  have name : trimmed "Pose" = "Pose" := by decide +kernel
  have number : trimmed "1" = "1" := by decide +kernel
  have pattern : quantityPattern ['1'] = true := by decide +kernel
  simp [workPreview, workCommand, rowCommand, name, number, pattern]

theorem workCommand_asked :
    creationCommand ⟨51, 52, none⟩ 4 .excel importUpload overlongPreview = some workCommand := by
  have rows : overlongPreview.rows.mapM rowCommand = some workCommand.rows := workRow_command
  rw [creationCommand, rows]
  rfl

/-- A draft is opened, the batch of the sheet is created, and the batch is committed. -/
def importRun : List ReportInput :=
  [.alone ⟨.singleton ⟨4, 1, .active, "", none, 1⟩, .empty, .empty⟩] ++
  uninterrupted ⟨1, .draft ⟨⟨50, 50, none⟩, 4, "EUR", 1⟩ 60, reportAdmin⟩ 2 ++
  [.start ⟨2, .preview workCommand 53 fun index => index, importAdmin⟩, .lock 0]

def commitRun : List ReportInput :=
  importRun ++ [.finish 0] ++
    .start ⟨3, .commit ⟨⟨61, 62, none⟩, 53, 4, 60, 1, 0⟩ 63 fun index => index, importAdmin⟩ :: List.replicate 4 (.lock 0)

theorem importRun_creates : EndsNext importRun 0 (.preview workCommand 53 fun index => index) importAdmin where
  active := rfl
  accepted := by decide +kernel

theorem commitRun_commits : EndsNext commitRun 0 (.commit ⟨⟨61, 62, none⟩, 53, 4, 60, 1, 0⟩ 63 fun index => index)
    importAdmin where
  active := by rfl
  accepted := by decide +kernel

theorem overlongRows_previewed : Previewed asciiTables (sheetFile (importHeader :: overlongRows)) exampleImport
    overlongPreview workCommand (resolveHeaders asciiTables importHeader) overlongRows where
  accepted := overlongRows_preview
  asked := workCommand_asked
  sheet := ⟨_, openSheet_sheetFile _, splitSheet_importHeader _⟩

/-- The preview says that the sheet is cut, and its batch is committed with one line for three data rows. -/
theorem overlongRows_cut : Previewed asciiTables (sheetFile (importHeader :: overlongRows)) exampleImport
      overlongPreview workCommand (resolveHeaders asciiTables importHeader) overlongRows ∧
    overlongPreview.truncated = true ∧
    EndsNext importRun 0 (.preview workCommand 53 exampleImport.rowId) exampleImport.context ∧
    EndsNext commitRun 0 (.commit ⟨⟨61, 62, none⟩, 53, 4, 60, 1, 0⟩ 63 fun index => index) importAdmin ∧
    ¬ ImportsEntries asciiTables (resolveHeaders asciiTables importHeader) 60 (dataRows 2 overlongRows)
      (reportsAfter commitRun).store.pricing (reportsAfter (commitRun ++ [.finish 0])).store.pricing := by
  refine ⟨overlongRows_previewed, rfl, importRun_creates, commitRun_commits, ?_⟩
  rintro ⟨added, lines, made⟩
  have before : (reportsAfter commitRun).store.pricing.lines.rows.length = 0 := by decide +kernel
  have after : (reportsAfter (commitRun ++ [.finish 0])).store.pricing.lines.rows.length = 1 := by decide +kernel
  have counted := made.length_eq
  have entries : dataRows 2 overlongRows = (workRow, 2) :: dataRows 3 (List.replicate (maxRows - 1) [] ++
      [workRow, workRow]) := dataRows_cons rfl
  rw [lines, List.length_append, before, ← counted, entries, List.length_cons] at after
  have none : dataRows 3 (List.replicate (maxRows - 1) [] ++ [workRow, workRow]) = [] := by
    apply List.length_eq_zero_iff.mp
    omega
  rw [dataRows_eq_nil, hasRemainingRows, List.any_append, Bool.or_eq_false_iff] at none
  exact absurd none.2 (by decide)

theorem overlongRows_imported : overlongPreview.errorCount = 0 ∧
    ImportsEntries asciiTables (resolveHeaders asciiTables importHeader) 60 (readable overlongRows)
      (reportsAfter commitRun).store.pricing (reportsAfter (commitRun ++ [.finish 0])).store.pricing ∧
    (ImportsEntries asciiTables (resolveHeaders asciiTables importHeader) 60 (dataRows 2 overlongRows)
        (reportsAfter commitRun).store.pricing (reportsAfter (commitRun ++ [.finish 0])).store.pricing ↔
      hasRemainingRows (overlongRows.drop maxRows) = false) :=
  imported_sheets asciiTables (sheetFile (importHeader :: overlongRows)) exampleImport overlongPreview workCommand
    (resolveHeaders asciiTables importHeader) overlongRows overlongRows_previewed importRun commitRun 0 0
    (List.prefix_append _ _) importRun_creates ⟨⟨61, 62, none⟩, 53, 4, 60, 1, 0⟩ 63 (fun index => index) importAdmin rfl
    commitRun_commits

end SmartAo.Pricing
