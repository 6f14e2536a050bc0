import SmartAo.Pricing.ImportCommit
import SmartAo.Pricing.PreviewCompleteness
import Mathlib.Algebra.BigOperators.Group.List.Basic
import Mathlib.Algebra.BigOperators.Ring.Finset

namespace SmartAo.Pricing

open SmartAo.Foundation SmartAo.Platform SmartAo.Case

/-- A commit of a batch, with the identifiers drawn for the rows it inserts. -/
structure ImportCommit where
  command : CommitPricingImportCommand
  transitionId : Uuid
  lineId : Nat → Uuid
  context : CommandContext

/-- A patron commits a batch that stands as it was created to a draft of its case, at the revisions of both. -/
structure CommitReady (request : ImportUpload) (created later : PricingStore)
    (snapshot : FinancialReportSnapshotRecord) (commit : ImportCommit) : Prop where
  patron : commit.context.actorKind = .patronAdmin
  member : commit.context.membershipId ≠ none
  tenant : commit.context.tenantId = request.context.tenantId
  caseId : commit.command.caseId = request.caseId
  batchId : commit.command.batchId = request.batchId
  batchRevision : commit.command.expectedBatchRevision = 1
  reportId : commit.command.reportId = snapshot.id
  reportRevision : commit.command.expectedReportRevision = snapshot.aggregateRevision
  batch : ∀ row, row.id = request.batchId → (row ∈ later.importBatches ↔ row ∈ created.importBatches)
  rows : ∀ row, row.batchId = request.batchId → (row ∈ later.importRows ↔ row ∈ created.importRows)
  uncommitted : ∀ row ∈ later.importTransitions, row.batchId ≠ request.batchId
  stored : snapshot ∈ later.snapshots
  owned : snapshot.tenantId = request.context.tenantId ∧ snapshot.caseId = request.caseId
  draft : snapshot.state = .draft
  inRange : snapshotInRange snapshot = true
  transition : ∀ row ∈ later.importTransitions, row.id ≠ commit.transitionId ∧
    row.commandId ≠ commit.command.commandId
  lines : ∀ row ∈ later.lines, ∀ index < maxRows, row.id ≠ commit.lineId index
  apart : ∀ first < maxRows, ∀ second < maxRows, commit.lineId first = commit.lineId second → first = second

/-- The line of a row that has all its parts. -/
def salesLine (snapshotId : Uuid) (lineId : Nat → Uuid) (entry : PricingImportRowRecord × Nat) :
    FinancialReportLineRecord where
  id := lineId entry.2
  tenantId := entry.1.tenantId
  snapshotId := snapshotId
  category := .sales
  label := entry.1.designation.getD ""
  quantityDecimal := entry.1.quantityDecimal.getD ""
  unit := if entry.1.unit.getD "" = "" then "U" else entry.1.unit.getD ""
  amountMinor := entry.1.totalMinor.getD 0

section Committing

variable {cases : Table CaseRecord} {store created later : PricingStore} {request : ImportUpload}
  {command : CreatePricingImportPreviewCommand} {snapshot : FinancialReportSnapshotRecord} {commit : ImportCommit}
  {entry : PricingImportRowRecord × Nat} {rows : List PricingImportRowRecord}

/-- A stored row with the parts of a line, each within its column. -/
structure LineReady (row : PricingImportRowRecord) : Prop where
  clean : row.errorCodes = []
  designation : row.designation.isSome = true
  quantity : row.quantityDecimal.isSome = true
  total : row.totalMinor.isSome = true

theorem importedLine_ready {snapshotId : Uuid} {lineId : Nat → Uuid} (ready : LineReady entry.1) :
    importedLine snapshotId lineId entry = .ok (salesLine snapshotId lineId entry) := by
  obtain ⟨name, designation⟩ := Option.isSome_iff_exists.mp ready.designation
  obtain ⟨text, quantity⟩ := Option.isSome_iff_exists.mp ready.quantity
  obtain ⟨amount, total⟩ := Option.isSome_iff_exists.mp ready.total
  simp only [importedLine, salesLine, designation, quantity, total, orRaise_some, Option.getD_some]
  rfl

theorem lineFits_salesLine {snapshotId : Uuid} {lineId : Nat → Uuid} (ready : LineReady entry.1)
    (stored : fits 32 entry.1.unit = true ∧ fits 32 entry.1.quantityDecimal = true) :
    lineFits (salesLine snapshotId lineId entry) = true ↔ fits 160 entry.1.designation = true := by
  obtain ⟨name, designation⟩ := Option.isSome_iff_exists.mp ready.designation
  obtain ⟨text, quantity⟩ := Option.isSome_iff_exists.mp ready.quantity
  have unit : (salesLine snapshotId lineId entry).unit.length ≤ 32 := by
    show (if entry.1.unit.getD "" = "" then "U" else entry.1.unit.getD "").length ≤ 32
    by_cases empty : entry.1.unit.getD "" = ""
    · rw [if_pos empty]
      decide
    · rw [if_neg empty]
      cases written : entry.1.unit with
      | none => exact Nat.zero_le _
      | some name =>
        rw [written] at stored
        simpa [fits] using stored.1
  have number : (salesLine snapshotId lineId entry).quantityDecimal.length ≤ 32 := by
    have kept := stored.2
    rw [quantity] at kept
    show (entry.1.quantityDecimal.getD "").length ≤ 32
    rw [quantity]
    simpa [fits] using kept
  have label : (salesLine snapshotId lineId entry).label = name := congrArg (·.getD "") designation
  rw [lineFits, decide_eq_true unit, decide_eq_true number, label, designation, Bool.and_true, Bool.and_true]
  rfl

/-- The rows of a batch that stands as it was created. -/
theorem batchRows_perm (creation : CreationReady cases store request)
    (creates : Creates cases store created command request.batchId request.rowId request.context)
    (ready : CommitReady request created later snapshot commit) :
    (later.importRows.rows.filter (rowOf (previewedBatch command request.batchId request.context))).Perm
      (previewedRows command.rows request.batchId request.rowId request.context) := by
  have apart (table : Table PricingImportRowRecord) : table.rows.Nodup := by
    refine table.distinct.imp ?_
    rintro first second different rfl
    exact different (.inl rfl)
  have inserted := Table.insertAll?_rows creates.rows
  have whole := apart created.importRows
  rw [inserted] at whole
  refine (List.perm_ext_iff_of_nodup ((apart later.importRows).filter _) (List.nodup_append.mp whole).2.1).mpr ?_
  intro row
  rw [List.mem_filter]
  constructor
  · rintro ⟨member, owned⟩
    have its : row.batchId = request.batchId := (of_decide_eq_true owned).2
    have old := (ready.rows row its).mp member
    rcases (Table.mem_insertAll? creates.rows).mp old with other | new
    · exact absurd its (creation.rows row other).1
    · exact new
  · intro new
    obtain ⟨entry, listed, rfl⟩ := List.mem_map.mp new
    have member := (Table.mem_insertAll? creates.rows).mpr (.inr new)
    exact ⟨(ready.rows _ rfl).mpr member, decide_eq_true ⟨rfl, rfl⟩⟩

theorem SoundRow.lineReady {row : CreatePricingImportRowCommand} (sound : SoundRow row) {tenantId batchId : Uuid}
    {rowId : Nat → Uuid} (index : Nat) : LineReady (previewedRow tenantId batchId rowId (row, index)) := by
  obtain ⟨name, named, _⟩ := sound.designation
  obtain ⟨text, quantity, _⟩ := sound.quantity
  obtain ⟨amount, total⟩ := sound.total
  exact ⟨sound.errors, Option.isSome_iff_exists.mpr ⟨name, named⟩, Option.isSome_iff_exists.mpr ⟨text, quantity⟩,
    Option.isSome_iff_exists.mpr ⟨amount, total⟩⟩

/-- The lines of a batch add up to the cents of its rows. -/
theorem salesLine_total {batchId snapshotId : Uuid} {rowId lineId : Nat → Uuid} {context : CommandContext}
    (same : rows.Perm (previewedRows command.rows batchId rowId context)) :
    ((rows.zipIdx.map (salesLine snapshotId lineId)).map (·.amountMinor)).sum = (batchTotal command.rows : Int) := by
  have amounts : (rows.zipIdx.map (salesLine snapshotId lineId)).map (·.amountMinor) =
      rows.map fun row => (row.totalMinor.getD 0 : Int) := by
    conv_rhs => rw [← List.zipIdx_map_fst 0 rows]
    rw [List.map_map, List.map_map]
    rfl
  have totals : (previewedRows command.rows batchId rowId context).map (fun row => (row.totalMinor.getD 0 : Int)) =
      command.rows.map fun row => (row.totalMinor.getD 0 : Int) := by
    conv_rhs => rw [← List.zipIdx_map_fst 0 command.rows]
    rw [previewedRows, List.map_map, List.map_map]
    rfl
  rw [amounts, (same.map _).sum_eq, totals, batchTotal, Nat.cast_list_sum, List.map_map]
  rfl

/-- The drawn identifiers keep the new lines apart from the stored ones and from each other. -/
theorem CommitReady.insertsLines (ready : CommitReady request created later snapshot commit)
    (few : rows.length ≤ maxRows) :
    (later.lines.insertAll? (rows.zipIdx.map (salesLine snapshot.id commit.lineId))).isSome = true := by
  rw [Table.insertAll?_isSome]
  constructor
  · intro stored member line listed
    obtain ⟨entry, inside, rfl⟩ := List.mem_map.mp listed
    have index := (List.mem_zipIdx inside).2.1
    exact ready.lines stored member entry.2 (by omega)
  · rw [List.pairwise_map]
    have positions : (rows.zipIdx.map Prod.snd).Nodup := by
      rw [List.zipIdx_map_snd]
      exact List.nodup_range'
    refine (List.pairwise_map.mp positions).imp_of_mem ?_
    intro first second one two different same
    have before := (List.mem_zipIdx one).2.1
    have after := (List.mem_zipIdx two).2.1
    exact different (ready.apart first.2 (by omega) second.2 (by omega) same)

theorem CommitReady.found (ready : CommitReady request created later snapshot commit)
    (creates : Creates cases store created command request.batchId request.rowId request.context)
    (caseId : command.caseId = request.caseId) :
    (later.importBatches.find? fun row => row.tenantId = commit.context.tenantId ∧
      row.caseId = commit.command.caseId ∧ row.id = commit.command.batchId) =
        some (previewedBatch command request.batchId request.context) := by
  apply (Table.find?_eq_some ?_).mpr
  · have member := (Table.mem_insert? creates.batches).mpr (.inr rfl)
    refine ⟨(ready.batch _ rfl).mpr member, decide_eq_true ⟨ready.tenant.symm, ?_, ready.batchId.symm⟩⟩
    exact caseId.trans ready.caseId.symm
  · intro first second one two
    exact .inl ((of_decide_eq_true one).2.2.trans (of_decide_eq_true two).2.2.symm)

theorem CommitReady.read (ready : CommitReady request created later snapshot commit) :
    (later.snapshots.find? fun row => row.tenantId = commit.context.tenantId ∧
      row.caseId = commit.command.caseId ∧ row.id = commit.command.reportId) = some snapshot := by
  apply (Table.find?_eq_some ?_).mpr
  · refine ⟨ready.stored, decide_eq_true ⟨?_, ?_, ready.reportId.symm⟩⟩
    · exact ready.owned.1.trans ready.tenant.symm
    · exact ready.owned.2.trans ready.caseId.symm
  · intro first second one two
    exact .inl ((of_decide_eq_true one).2.2.trans (of_decide_eq_true two).2.2.symm)

theorem CommitReady.pending (ready : CommitReady request created later snapshot commit) :
    later.latestImport (previewedBatch command request.batchId request.context) = none := by
  apply Table.latest_none.mpr
  intro row member
  apply decide_eq_false
  rintro ⟨_, its⟩
  exact ready.uncommitted row member its

theorem snapshotInRange_recalculated (total : Int) (context : CommandContext) (inRange : snapshotInRange snapshot = true) :
    snapshotInRange (recalculated total context snapshot) = true ↔
      bigint (snapshot.salesTotalMinor + total) = true ∧ integer (snapshot.aggregateRevision + 1) = true := by
  simp only [snapshotInRange, Bool.and_eq_true] at inRange
  simp only [snapshotInRange, recalculated, Bool.and_eq_true, inRange, and_true, Nat.cast_add, Nat.cast_one]
  exact And.comm

theorem previewedRows_source {batchId : Uuid} {rowId : Nat → Uuid} {context : CommandContext}
    {row : PricingImportRowRecord} (member : row ∈ previewedRows command.rows batchId rowId context) :
    ∃ source ∈ command.rows, ∃ index, row = previewedRow context.tenantId batchId rowId (source, index) := by
  obtain ⟨entry, listed, rfl⟩ := List.mem_map.mp member
  exact ⟨entry.1, List.fst_mem_of_mem_zipIdx listed, entry.2, rfl⟩

theorem previewedRows_stored (batchId : Uuid) (rowId : Nat → Uuid) (context : CommandContext)
    {source : CreatePricingImportRowCommand} (member : source ∈ command.rows) :
    ∃ row ∈ previewedRows command.rows batchId rowId context, row.designation = source.designation := by
  obtain ⟨index, inside, same⟩ := List.mem_iff_getElem.mp member
  refine ⟨_, List.mem_map_of_mem (List.mk_mem_zipIdx_iff_getElem?.mpr (List.getElem?_eq_getElem inside)), ?_⟩
  exact congrArg CreatePricingImportRowCommand.designation same

/-- The new lines fit their columns when the designations do. -/
theorem all_lineFits (snapshotId : Uuid) (lineId : Nat → Uuid) {batchId : Uuid} {rowId : Nat → Uuid} {context : CommandContext}
    (same : rows.Perm (previewedRows command.rows batchId rowId context)) (sound : ∀ row ∈ command.rows, SoundRow row)
    (stored : ∀ row ∈ command.rows, fits 32 row.unit = true ∧ fits 32 row.quantityDecimal = true) :
    (rows.zipIdx.map (salesLine snapshotId lineId)).all lineFits = true ↔
      ∀ row ∈ command.rows, fits 160 row.designation = true := by
  have each : (rows.zipIdx.map (salesLine snapshotId lineId)).all lineFits = true ↔
      ∀ row ∈ rows, fits 160 row.designation = true := by
    conv_rhs => rw [← List.zipIdx_map_fst 0 rows]
    rw [List.forall_mem_map, List.all_map, List.all_eq_true]
    refine forall₂_congr fun entry listed => ?_
    have member := same.mem_iff.mp (List.fst_mem_of_mem_zipIdx listed)
    obtain ⟨source, its, index, row⟩ := previewedRows_source member
    apply lineFits_salesLine
    · rw [row]
      exact (sound source its).lineReady index
    · rw [row]
      exact stored source its
  rw [each]
  constructor
  · intro fit source member
    obtain ⟨row, listed, designation⟩ := previewedRows_stored batchId rowId context member
    rw [← designation]
    exact fit row (same.mem_iff.mpr listed)
  · intro fit row member
    obtain ⟨source, its, index, rfl⟩ := previewedRows_source (same.mem_iff.mp member)
    exact fit source its

/-- Each line of a batch holds an amount of its column when the batch does. -/
theorem all_amounts (snapshotId : Uuid) (lineId : Nat → Uuid) {batchId : Uuid} {rowId : Nat → Uuid} {context : CommandContext}
    (same : rows.Perm (previewedRows command.rows batchId rowId context)) (sound : ∀ row ∈ command.rows, SoundRow row)
    (total : bigint (batchTotal command.rows) = true) :
    (rows.zipIdx.map (salesLine snapshotId lineId)).all (fun line => bigint line.amountMinor) = true := by
  rw [List.all_map, List.all_eq_true]
  intro entry listed
  obtain ⟨source, its, index, row⟩ := previewedRows_source (same.mem_iff.mp (List.fst_mem_of_mem_zipIdx listed))
  obtain ⟨amount, valued, le⟩ := (sound source its).total_le its
  have cents : (salesLine snapshotId lineId entry).amountMinor = amount := by
    show (entry.1.totalMinor.getD 0 : Int) = amount
    rw [row]
    show (source.totalMinor.getD 0 : Int) = amount
    rw [valued]
    rfl
  rw [Function.comp_apply, cents]
  exact bigint_of_le le total

theorem CommitReady.commits_iff (creation : CreationReady cases store request)
    (creates : Creates cases store created command request.batchId request.rowId request.context)
    (ready : CommitReady request created later snapshot commit) (caseId : command.caseId = request.caseId)
    (sound : ∀ row ∈ command.rows, SoundRow row) (few : command.rows.length ≤ maxRows)
    (storable : Storable command.rows) :
    (∃ result, commitPricingImport later commit.command commit.transitionId commit.lineId commit.context = .ok result) ↔
      (∀ row ∈ command.rows, fits 160 row.designation = true) ∧
        bigint (snapshot.salesTotalMinor + batchTotal command.rows) = true ∧
          integer (snapshot.aggregateRevision + 1) = true := by
  have perm := (List.perm_insertionSort (fun first second : PricingImportRowRecord => first.rowNumber ≤ second.rowNumber)
    _).trans (batchRows_perm creation creates ready)
  generalize sorted : ((later.importRows.rows.filter (rowOf (previewedBatch command request.batchId
    request.context))).insertionSort fun first second => first.rowNumber ≤ second.rowNumber) = rows at perm
  obtain ⟨valid, errors, _⟩ := previewedBatch_sound request.batchId request.context sound
  have patron : ¬ (commit.context.actorKind ≠ .patronAdmin ∨ commit.context.membershipId = none) := by
    rintro (other | missing)
    · exact other ready.patron
    · exact ready.member missing
  have state : ¬ later.importState (previewedBatch command request.batchId request.context) ≠ .previewed := by
    rw [PricingStore.importState, ready.pending, not_not]
    rfl
  have first : later.importRevision (previewedBatch command request.batchId request.context) = 1 := by
    rw [PricingStore.importRevision, ready.pending]
    rfl
  have revision : ¬ later.importRevision (previewedBatch command request.batchId request.context) ≠
      commit.command.expectedBatchRevision := by
    rw [first, ready.batchRevision, not_not]
  have clean : ¬ ((previewedBatch command request.batchId request.context).errorCount ≠ 0 ∨
      (previewedBatch command request.batchId request.context).validRowCount ≠
        (previewedBatch command request.batchId request.context).rowCount) := by
    rw [errors, valid]
    rintro (wrong | wrong)
    · exact wrong rfl
    · exact wrong rfl
  have draft : ¬ snapshot.state ≠ .draft := not_not.mpr ready.draft
  have current : ¬ ((snapshot.aggregateRevision : Int) ≠ commit.command.expectedReportRevision) :=
    not_not.mpr ready.reportRevision.symm
  have length : rows.length = command.rows.length := by
    rw [perm.length_eq, previewedRows, List.length_map, List.length_zipIdx]
  have readied : ∀ row ∈ rows, LineReady row := by
    intro row member
    obtain ⟨source, its, index, rfl⟩ := previewedRows_source (perm.mem_iff.mp member)
    exact (sound source its).lineReady index
  have counted : ¬ (rows.length ≠ (previewedBatch command request.batchId request.context).validRowCount ∨
      ∃ row ∈ rows, row.errorCodes ≠ []) := by
    rw [length, valid]
    rintro (wrong | ⟨row, member, wrong⟩)
    · exact wrong rfl
    · exact wrong (readied row member).clean
  have made : rows.zipIdx.mapM (importedLine snapshot.id commit.lineId) =
      .ok (rows.zipIdx.map (salesLine snapshot.id commit.lineId)) := by
    rw [← collect_eq_mapM]
    apply collect_of_ok
    intro entry listed
    exact importedLine_ready (readied entry.1 (List.fst_mem_of_mem_zipIdx listed))
  rw [commitPricingImport, bind_of_ok (raiseIf_pass patron), bind_of_ok (orRaise_ok.mpr (ready.found creates caseId)),
    bind_of_ok (raiseIf_pass state), bind_of_ok (raiseIf_pass revision), bind_of_ok (raiseIf_pass clean),
    bind_of_ok (orRaise_ok.mpr ready.read), bind_of_ok (raiseIf_pass draft), bind_of_ok (raiseIf_pass current)]
  simp only [sorted]
  rw [bind_of_ok (raiseIf_pass counted), bind_of_ok made, salesLine_total perm]
  have fit := all_lineFits snapshot.id commit.lineId perm sound fun row member =>
    (storable.fit row member).2.2
  have amounts := all_amounts snapshot.id commit.lineId perm sound storable.total
  have range := snapshotInRange_recalculated (batchTotal command.rows) commit.context ready.inRange
  have lined : rows.length ≤ maxRows := by omega
  obtain ⟨lines, written⟩ := Option.isSome_iff_exists.mp (ready.insertsLines lined)
  have fresh : (later.importTransitions.insert? {
      id := commit.transitionId, tenantId := commit.context.tenantId, batchId := request.batchId,
      fromState := .previewed, toState := .committed, version := later.importRevision (previewedBatch command
        request.batchId request.context) + 1, commandId := commit.command.commandId }).isSome = true := by
    rw [Table.insert?_isSome]
    intro stored member
    obtain ⟨id, other⟩ := ready.transition stored member
    rintro (same | ⟨_, same | same⟩)
    · exact id same
    · exact ready.uncommitted stored member (congrArg Prod.fst same)
    · exact other same
  obtain ⟨transitions, appended⟩ := Option.isSome_iff_exists.mp fresh
  rw [amounts, Bool.true_and, ← range, ← fit]
  simp only [bind_ok, raiseIf_ok, exists_unit, not_not, flush, orRaise_ok, pure_ok]
  constructor
  · rintro ⟨result, fits, ranges, _⟩
    exact ⟨fits, ranges⟩
  · rintro ⟨fits, ranges⟩
    exact ⟨_, fits, ranges, lines, written, transitions, appended, rfl⟩

end Committing

/-- The cents of the data rows of a sheet. -/
def sheetTotal (tables : UnicodeTables) (header : HeaderMap) (rows : List (List Cell)) : Nat :=
  ((readable rows).map fun entry => rowAmount tables header entry.1).sum

/-- A sheet with a data row, whose cells fit the columns they end in and whose total can be added to a snapshot. -/
structure Committable (tables : UnicodeTables) (header : HeaderMap) (rows : List (List Cell))
    (snapshot : FinancialReportSnapshotRecord) : Prop where
  some : readable rows ≠ []
  fit : ∀ entry ∈ readable rows, CellsFit tables header entry.1
  total : bigint (sheetTotal tables header rows) = true
  sales : bigint (snapshot.salesTotalMinor + sheetTotal tables header rows) = true
  revision : integer (snapshot.aggregateRevision + 1) = true

/-- A sheet is uploaded, and its batch committed in the store that other transactions have left by then. -/
def ImportCommits (tables : UnicodeTables) (workbook : List UInt8 → Option Workbook) (cases : Table CaseRecord)
    (store : PricingStore) (request : ImportUpload) (later : PricingStore → PricingStore) (commit : ImportCommit) : Prop :=
  ∃ shown created, previewImport tables workbook cases store request = .ok (shown, created) ∧
    ∃ result, commitPricingImport (later created) commit.command commit.transitionId commit.lineId commit.context =
      .ok result

theorem fits_mono {first second : Nat} {text : Option String} (le : first ≤ second) (holds : fits first text = true) :
    fits second text = true := by
  cases text with
  | none => rfl
  | some text =>
    simp only [fits, Option.all_some, decide_eq_true_eq] at holds ⊢
    omega

section Importing

variable {tables : UnicodeTables} {workbook : List UInt8 → Option Workbook} {cases : Table CaseRecord}
  {store created : PricingStore} {request : ImportUpload} {shown : PricingImportPreview}

/-- An upload creates a batch from the commands of its preview. -/
theorem previewImport_ok (accepted : preview tables workbook request.caseId request.documentKind request.upload =
      .ok shown) (other : PricingImportPreview) :
    previewImport tables workbook cases store request = .ok (other, created) ↔ other = shown ∧
      ∃ rows, shown.rows.mapM rowCommand = some rows ∧ rows.length ≤ maxRows ∧
        Creates cases store created { request.application with
          caseId := request.caseId, documentKind := request.documentKind,
          sourceSha256 := hexdigestBytes request.upload.payload, rows } request.batchId request.rowId
          request.context := by
  simp only [previewImport, bind_ok, orRaise_ok, mapError_ok, pure_ok, creationCommand, Option.bind_eq_bind,
    Option.bind_eq_some_iff, ← createPricingImportPreview_creates]
  constructor
  · rintro ⟨result, read, command, ⟨rows, made, done, few, built⟩, ⟨next, outcome⟩, creation, same⟩
    rw [accepted] at read
    cases read
    cases built
    cases same
    have bound : rows.length ≤ maxRows := by
      by_contra beyond
      have few : (if rows.length ≤ maxRows then some () else none) = some done := few
      rw [if_neg beyond] at few
      cases few
    exact ⟨rfl, rows, made, bound, outcome, creation⟩
  · rintro ⟨rfl, rows, made, bound, outcome, creation⟩
    exact ⟨other, accepted, _, ⟨rows, made, (), if_pos bound, rfl⟩, (created, outcome), creation, rfl⟩

/-- The commands of the data rows of a sheet: their numbers, and their cents. -/
theorem Converts.whole {header : HeaderMap} {rows : List (List Cell)} {commands : List CreatePricingImportRowCommand}
    (each : List.Forall₂ (Converts tables header) (readable rows) commands) :
    (commands.map (·.rowNumber)).Nodup ∧ (∀ row ∈ commands, row.rowNumber ≤ maxRows + 1) ∧
      commands.length ≤ maxRows ∧ batchTotal commands = sheetTotal tables header rows ∧
        (commands = [] ↔ readable rows = []) := by
  have numbers := Converts.numbers each
  have length := each.length_eq
  have size := readable_length rows
  refine ⟨?_, ?_, by omega, congrArg List.sum (Converts.totals each), ?_⟩
  · rw [numbers]
    exact (dataRows_sorted 2 _).imp Nat.ne_of_lt
  · intro row member
    have listed : row.rowNumber ∈ (readable rows).map (·.2) := by
      rw [← numbers]
      exact List.mem_map_of_mem member
    obtain ⟨entry, inside, same⟩ := List.mem_map.mp listed
    rw [← same]
    exact (readable_number inside).2
  · rw [← List.length_eq_zero_iff, ← List.length_eq_zero_iff, length]

end Importing

/-- An upload without errors ends in its snapshot exactly when its sheet is committable. -/
theorem committable_previews (tables : UnicodeTables) (workbook : List UInt8 → Option Workbook)
    (cases : Table CaseRecord) (store : PricingStore) (request : ImportUpload) (sheet rows : List (List Cell))
    (header : HeaderMap) (shown : PricingImportPreview)
    (accepted : preview tables workbook request.caseId request.documentKind request.upload = .ok shown)
    (opened : openSheet tables workbook request.upload = .ok sheet)
    (parts : splitSheet tables sheet = .ok (header, rows)) (clean : shown.errorCount = 0)
    (creation : CreationReady cases store request) (later : PricingStore → PricingStore)
    (snapshot : FinancialReportSnapshotRecord) (commit : ImportCommit)
    (ready : ∀ created, previewImport tables workbook cases store request = .ok (shown, created) →
      CommitReady request created (later created) snapshot commit) :
    ImportCommits tables workbook cases store request later commit ↔ Committable tables header rows snapshot := by
  obtain ⟨parsed, none⟩ := preview_clean accepted opened parts clean
  obtain ⟨exist, each⟩ := converts parsed none fun entry member => by
    have bounds := readable_number member
    omega
  constructor
  · rintro ⟨other, created, imported, committed⟩
    obtain ⟨rfl, commands, made, few, creates⟩ := (previewImport_ok accepted other).mp imported
    have conversions := each commands made
    obtain ⟨numbers, bounded, _, totals, empty⟩ := Converts.whole conversions
    have sound := Converts.sound conversions
    have storable := (creation.creates_iff rfl rfl sound few numbers bounded).mp ⟨created, creates⟩
    obtain ⟨designations, sales, revision⟩ :=
      (CommitReady.commits_iff creation creates (ready created imported) rfl sound few storable).mp committed
    refine ⟨fun nothing => storable.some (empty.mpr nothing), ?_, totals ▸ storable.total, totals ▸ sales, revision⟩
    apply (Converts.fits_iff conversions).mpr
    intro row member
    obtain ⟨code, _, unit, quantity⟩ := storable.fit row member
    exact ⟨code, designations row member, unit, quantity, storable.prices row member⟩
  · intro committable
    obtain ⟨commands, made⟩ := exist committable.fit
    have conversions := each commands made
    obtain ⟨numbers, bounded, few, totals, empty⟩ := Converts.whole conversions
    have sound := Converts.sound conversions
    have fit := (Converts.fits_iff conversions).mp committable.fit
    have storable : Storable commands := by
      refine ⟨fun nothing => committable.some (empty.mp nothing), ?_, fun row member => (fit row member).unitPrice, ?_⟩
      · intro row member
        exact ⟨(fit row member).code, fits_mono (by decide) (fit row member).designation, (fit row member).unit,
          (fit row member).quantity⟩
      · rw [totals]
        exact committable.total
    have stored : ∃ created, Creates cases store created { request.application with
        caseId := request.caseId, documentKind := request.documentKind,
        sourceSha256 := hexdigestBytes request.upload.payload, rows := commands } request.batchId request.rowId
        request.context := (creation.creates_iff rfl rfl sound few numbers bounded).mpr storable
    obtain ⟨created, creates⟩ := stored
    have imported := (previewImport_ok accepted shown).mpr ⟨rfl, commands, made, few, creates⟩
    refine ⟨shown, created, imported, ?_⟩
    apply (CommitReady.commits_iff creation creates (ready created imported) rfl sound few storable).mpr
    refine ⟨fun row member => (fit row member).designation, ?_, committable.revision⟩
    rw [totals]
    exact committable.sales

def importAdmin : CommandContext := ⟨1, 6, .patronAdmin, 1772368496000000, some 3, some 4⟩

def importCase : Table CaseRecord := Table.singleton ⟨4, 1, .active, "scope", none, 0⟩

def importDraft : FinancialReportSnapshotRecord :=
  ⟨32, 1, 4, .draft, "EUR", 1, 0, 1772368496000000, none, 0, 0, 0, 0, 0, 0, 0, 0⟩

def draftStore : PricingStore := { PricingStore.empty with snapshots := Table.singleton importDraft }

def exampleImport : ImportUpload := ⟨⟨51, 52, none⟩, 4, .excel, importUpload, 53, fun index => index, importAdmin⟩

def exampleCommit : ImportCommit := ⟨⟨⟨61, 62, none⟩, 53, 4, 32, 1, 0⟩, 63, fun index => index, importAdmin⟩

def workSheet : List (List Cell) := [importHeader, workRow]

/-- A designation of the length a preview keeps, and longer than the label of a line. -/
def longSheet : List (List Cell) := [importHeader, [.text (List.replicate 161 'a'), .text "10".toList]]

theorem drawn_apart (first : Nat) (one : first < maxRows) (second : Nat) (two : second < maxRows)
    (same : (BitVec.ofNat 128 first : Uuid) = BitVec.ofNat 128 second) : first = second := by
  have numbers := congrArg BitVec.toNat same
  have limit : maxRows = 10000 := rfl
  rw [BitVec.toNat_ofNat, BitVec.toNat_ofNat] at numbers
  omega

theorem exampleImport_ready : CreationReady importCase draftStore exampleImport where
  patron := rfl
  member := nofun
  known := ⟨_, List.mem_singleton_self _, rfl, rfl⟩
  batch := nofun
  rows := nofun
  apart := drawn_apart

/-- The preview finds no error in a long designation, and no commit takes it. -/
theorem longDesignation_uncommitted :
    ((preview asciiTables (sheetFile longSheet) 4 .excel importUpload).toOption.map (·.errorCount) = some 0) ∧
      CreationReady importCase draftStore exampleImport ∧
        ¬ ImportCommits asciiTables (sheetFile longSheet) importCase draftStore exampleImport id exampleCommit := by
  refine ⟨by decide +kernel, exampleImport_ready, ?_⟩
  rintro ⟨shown, created, imported, result, committed⟩
  have refused : ((previewImport asciiTables (sheetFile longSheet) importCase draftStore exampleImport).toOption.map
      fun made => (commitPricingImport made.2 exampleCommit.command exampleCommit.transitionId exampleCommit.lineId
        exampleCommit.context).isOk) = some false := by decide +kernel
  rw [imported] at refused
  have accepted := congrArg Except.isOk committed
  exact absurd (accepted.symm.trans (Option.some.inj refused)) nofun

def workPreview : PricingImportPreview where
  caseId := 4
  documentKind := .excel
  filename := importUpload.filename
  rowCount := 1
  validRowCount := 1
  errorCount := 0
  totalMinor := 1000
  truncated := false
  limitReason := none
  rows := [⟨2, none, some "Pose", none, some "1", none, some 1000, []⟩]

theorem workSheet_preview :
    preview asciiTables (sheetFile workSheet) 4 .excel importUpload = .ok workPreview := by
  have read : readRows asciiTables (resolveHeaders asciiTables importHeader) 2 [workRow] ⟨[], 0, 0⟩ =
      .ok ⟨⟨workPreview.rows, 1000, 0⟩, none, []⟩ := rfl
  rw [preview, bind_of_ok (openSheet_sheetFile _), workSheet, bind_of_ok (splitSheet_importHeader _)]
  simp only
  rw [bind_of_ok read]
  rfl

theorem exampleCommit_ready {created : PricingStore} {shown : PricingImportPreview} (imported : previewImport asciiTables
    (sheetFile workSheet) importCase draftStore exampleImport = .ok (shown, created)) :
    CommitReady exampleImport created created importDraft exampleCommit := by
  obtain ⟨_, commands, _, _, creates⟩ := (previewImport_ok workSheet_preview shown).mp imported
  have transitions : created.importTransitions = .empty := congrArg PricingStore.importTransitions creates.rest
  have lines : created.lines = .empty := congrArg PricingStore.lines creates.rest
  have snapshots : created.snapshots = Table.singleton importDraft := congrArg PricingStore.snapshots creates.rest
  refine ⟨rfl, nofun, rfl, rfl, rfl, rfl, rfl, rfl, fun _ _ => Iff.rfl, fun _ _ => Iff.rfl, ?_, ?_, ⟨rfl, rfl⟩, rfl,
    by decide, ?_, ?_, drawn_apart⟩
  · rw [transitions]
    nofun
  · rw [snapshots]
    exact List.mem_singleton_self _
  · rw [transitions]
    nofun
  · rw [lines]
    nofun

theorem workSheet_committable :
    ImportCommits asciiTables (sheetFile workSheet) importCase draftStore exampleImport id exampleCommit ↔
      Committable asciiTables (resolveHeaders asciiTables importHeader) [workRow] importDraft :=
  committable_previews asciiTables (sheetFile workSheet) importCase draftStore exampleImport workSheet [workRow]
    (resolveHeaders asciiTables importHeader) workPreview workSheet_preview (openSheet_sheetFile _)
    (splitSheet_importHeader _) rfl exampleImport_ready id importDraft exampleCommit fun _ => exampleCommit_ready

end SmartAo.Pricing
