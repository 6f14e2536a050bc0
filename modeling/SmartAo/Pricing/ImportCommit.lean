import SmartAo.Pricing.ImportCreation

namespace SmartAo.Pricing

open SmartAo.Foundation SmartAo.Platform SmartAo.Case

/-- The batch a creation inserts. -/
def previewedBatch (command : CreatePricingImportPreviewCommand) (batchId : Uuid) (context : CommandContext) :
    PricingImportBatchRecord :=
  let validRows := command.rows.filter fun row => row.errors.isEmpty
  { id := batchId, tenantId := context.tenantId, caseId := command.caseId, documentKind := command.documentKind,
    sourceSha256 := command.sourceSha256, state := .previewed, aggregateRevision := 1,
    rowCount := command.rows.length, validRowCount := validRows.length,
    errorCount := (command.rows.map (·.errors.length)).sum,
    totalMinor := (validRows.map fun row => row.totalMinor.getD 0).sum, commandId := command.commandId,
    createdAt := context.receivedAt }

def previewedRows (rows : List CreatePricingImportRowCommand) (batchId : Uuid) (rowId : Nat → Uuid)
    (context : CommandContext) : List PricingImportRowRecord :=
  rows.zipIdx.map (previewedRow context.tenantId batchId rowId)

/-- What a creation needs, and what it stores. -/
structure Creates (cases : Table CaseRecord) (store next : PricingStore) (command : CreatePricingImportPreviewCommand)
    (batchId : Uuid) (rowId : Nat → Uuid) (context : CommandContext) : Prop where
  patron : ¬ (context.actorKind ≠ .patronAdmin ∨ context.membershipId = none)
  known : ∃ row, (cases.find? fun row => row.tenantId = context.tenantId ∧ row.id = command.caseId) = some row
  valid : validateRows command.rows = .ok ()
  fits : (previewedRows command.rows batchId rowId context).all rowFits = true
  batchInRange : batchInRange (previewedBatch command batchId context) = true
  rowsInRange : (previewedRows command.rows batchId rowId context).all rowInRange = true
  checks : (previewedRows command.rows batchId rowId context).all rowChecks = true
  batches : store.importBatches.insert? (previewedBatch command batchId context) = some next.importBatches
  rows : store.importRows.insertAll? (previewedRows command.rows batchId rowId context) = some next.importRows
  rest : next = { store with importBatches := next.importBatches, importRows := next.importRows }

section Creating

variable {cases : Table CaseRecord} {store next : PricingStore} {command : CreatePricingImportPreviewCommand}
  {batchId : Uuid} {rowId : Nat → Uuid} {context : CommandContext}

theorem createPricingImportPreview_creates :
    (∃ outcome, createPricingImportPreview cases store command batchId rowId context = .ok (next, outcome)) ↔
      Creates cases store next command batchId rowId context := by
  simp only [createPricingImportPreview, bind_ok, raiseIf_ok, exists_unit, orRaise_ok, pure_ok, flush,
    Prod.mk.injEq, not_not]
  constructor
  · rintro ⟨outcome, patron, row, known, valid, fits, inRange, checks, batches, one, rows, all, rfl, _⟩
    rw [Bool.and_eq_true] at inRange
    exact ⟨patron, ⟨row, known⟩, valid, fits, inRange.1, inRange.2, checks, one, all, rfl⟩
  · intro creates
    obtain ⟨row, known⟩ := creates.known
    exact ⟨_, creates.patron, row, known, creates.valid, creates.fits,
      Bool.and_eq_true_iff.mpr ⟨creates.batchInRange, creates.rowsInRange⟩, creates.checks, _, creates.batches, _,
      creates.rows, creates.rest.symm, rfl⟩

variable {rows : List CreatePricingImportRowCommand} {row : CreatePricingImportRowCommand}

/-- A check of the stored rows that does not look at their identifiers is one of the rows of the command. -/
theorem all_previewedRows {predicate : PricingImportRowRecord → Bool} {kept : CreatePricingImportRowCommand → Prop}
    (same : ∀ entry, predicate (previewedRow context.tenantId batchId rowId entry) = true ↔ kept entry.1) :
    (previewedRows rows batchId rowId context).all predicate = true ↔ ∀ row ∈ rows, kept row := by
  conv_rhs => rw [← List.zipIdx_map_fst 0 rows]
  rw [List.forall_mem_map, previewedRows, List.all_map, List.all_eq_true]
  exact forall₂_congr fun entry _ => same entry

theorem all_rowFits : (previewedRows rows batchId rowId context).all rowFits = true ↔ ∀ row ∈ rows,
    fits 120 row.code = true ∧ fits 500 row.designation = true ∧ fits 32 row.unit = true ∧
      fits 32 row.quantityDecimal = true := by
  apply all_previewedRows
  intro entry
  simp only [rowFits, previewedRow, Bool.and_eq_true, and_assoc]

theorem all_rowInRange : (previewedRows rows batchId rowId context).all rowInRange = true ↔ ∀ row ∈ rows,
    integer row.rowNumber = true ∧ row.unitPriceMinor.all (fun value => bigint value) = true ∧
      row.totalMinor.all (fun value => bigint value) = true := by
  apply all_previewedRows
  intro entry
  simp only [rowInRange, previewedRow, Bool.and_eq_true, and_assoc]

theorem SoundRow.checks (sound : SoundRow row) (index : Nat) :
    rowChecks (previewedRow context.tenantId batchId rowId (row, index)) = true := by
  obtain ⟨name, named, c, first, solid⟩ := sound.designation
  obtain ⟨text, quantity, d, second, other⟩ := sound.quantity
  have visible : name.toList.any (· ≠ ' ') = true := by
    refine List.any_eq_true.mpr ⟨c, first, decide_eq_true ?_⟩
    rintro rfl
    cases solid
  have full : text ≠ "" := by
    rintro rfl
    cases second
  simp only [rowChecks, previewedRow, named, quantity, Option.all_some, visible, decide_eq_true full, Bool.and_self]

theorem SoundRow.blank (sound : SoundRow row) :
    ¬ (blank row.designation ∨ blank row.quantityDecimal ∨ row.totalMinor = none) := by
  obtain ⟨name, named, c, first, solid⟩ := sound.designation
  obtain ⟨text, quantity, d, second, other⟩ := sound.quantity
  obtain ⟨amount, total⟩ := sound.total
  have one : strip name ≠ "" := strip_ne_empty first solid
  have two : strip text ≠ "" := strip_ne_empty second other
  simp [Pricing.blank, named, quantity, total, one, two]

theorem validateRows_sound (sound : ∀ row ∈ rows, SoundRow row) (numbers : (rows.map (·.rowNumber)).Nodup) :
    validateRows rows = .ok () ↔ rows ≠ [] := by
  simp only [validateRows, bind_ok, raiseIf_ok, exists_unit, List.isEmpty_iff, not_not, numbers, true_and, not_exists,
    not_and]
  refine and_iff_left ?_
  intro row member _
  exact (sound row member).blank

end Creating

/-- The cents of all rows. -/
def batchTotal (rows : List CreatePricingImportRowCommand) : Nat := (rows.map fun row => row.totalMinor.getD 0).sum

/-- The rows a creation stores: there is one, and their values fit their columns. -/
structure Storable (rows : List CreatePricingImportRowCommand) : Prop where
  some : rows ≠ []
  fit : ∀ row ∈ rows, fits 120 row.code = true ∧ fits 500 row.designation = true ∧ fits 32 row.unit = true ∧
    fits 32 row.quantityDecimal = true
  prices : ∀ row ∈ rows, row.unitPriceMinor.all (fun value => bigint value) = true
  total : bigint (batchTotal rows) = true

section Storing

variable {cases : Table CaseRecord} {store : PricingStore} {request : ImportUpload}
  {command : CreatePricingImportPreviewCommand} {rows : List CreatePricingImportRowCommand}
  {row : CreatePricingImportRowCommand}

theorem SoundRow.total_le (sound : SoundRow row) (member : row ∈ rows) :
    ∃ amount, row.totalMinor = some amount ∧ amount ≤ batchTotal rows := by
  obtain ⟨amount, total⟩ := sound.total
  have listed : row.totalMinor.getD 0 ∈ rows.map fun row => row.totalMinor.getD 0 := List.mem_map_of_mem member
  obtain ⟨before, after, parts⟩ := List.append_of_mem listed
  rw [total, Option.getD_some] at parts
  refine ⟨amount, total, ?_⟩
  rw [batchTotal, parts, List.sum_append, List.sum_cons]
  omega

theorem bigint_of_le {first second : Nat} (le : first ≤ second) (holds : bigint second = true) : bigint first = true := by
  simp only [bigint, decide_eq_true_eq] at holds ⊢
  omega

/-- A batch of rows without errors counts them all. -/
theorem previewedBatch_sound (batchId : Uuid) (context : CommandContext) (sound : ∀ row ∈ command.rows, SoundRow row) :
    (previewedBatch command batchId context).validRowCount = command.rows.length ∧
      (previewedBatch command batchId context).errorCount = 0 ∧
        (previewedBatch command batchId context).totalMinor = batchTotal command.rows := by
  have valid : (command.rows.filter fun row => row.errors.isEmpty) = command.rows := by
    rw [List.filter_eq_self]
    intro row member
    rw [(sound row member).errors]
    rfl
  refine ⟨congrArg List.length valid, ?_, congrArg batchTotal valid⟩
  apply List.sum_eq_zero_iff_forall_eq_nat.mpr
  rw [List.forall_mem_map]
  intro row member
  rw [(sound row member).errors]
  rfl

theorem inRange_iff (sound : ∀ row ∈ command.rows, SoundRow row) (few : command.rows.length ≤ maxRows)
    (bounded : ∀ row ∈ command.rows, row.rowNumber ≤ maxRows + 1) :
    (batchInRange (previewedBatch command request.batchId request.context) = true ∧
      (previewedRows command.rows request.batchId request.rowId request.context).all rowInRange = true) ↔
    bigint (batchTotal command.rows) = true ∧
      ∀ row ∈ command.rows, row.unitPriceMinor.all (fun value => bigint value) = true := by
  obtain ⟨valid, errors, total⟩ := previewedBatch_sound request.batchId request.context sound
  have size : maxRows = 10000 := rfl
  have counted (count : Nat) (le : count ≤ maxRows + 1) : integer count = true := by
    simp only [integer, decide_eq_true_eq]
    omega
  have counts : batchInRange (previewedBatch command request.batchId request.context) =
      bigint (batchTotal command.rows) := by
    have rows : (previewedBatch command request.batchId request.context).rowCount = command.rows.length := rfl
    rw [batchInRange, rows, valid, errors, total, counted _ (by omega), counted 0 (by omega)]
    rfl
  rw [counts, all_rowInRange]
  refine and_congr_right fun whole => forall₂_congr fun row member => ?_
  obtain ⟨amount, valued, le⟩ := (sound row member).total_le member
  have numbered := counted row.rowNumber (bounded row member)
  have cents := bigint_of_le le whole
  rw [valued, and_iff_right numbered]
  exact and_iff_left cents

/-- The drawn identifiers and the row numbers keep the stored rows apart. -/
theorem CreationReady.inserts (ready : CreationReady cases store request)
    (few : rows.length ≤ maxRows) (numbers : (rows.map (·.rowNumber)).Nodup) :
    (store.importRows.insertAll? (previewedRows rows request.batchId request.rowId request.context)).isSome = true := by
  rw [Table.insertAll?_isSome]
  constructor
  · intro stored member record listed
    obtain ⟨entry, inside, rfl⟩ := List.mem_map.mp listed
    obtain ⟨other, apart⟩ := ready.rows stored member
    have index := (List.mem_zipIdx inside).2.1
    rintro (same | same)
    · exact apart entry.2 (by omega) same
    · exact other (congrArg (·.2.1) same)
  · rw [previewedRows, List.pairwise_map]
    have numbered : rows.zipIdx.Pairwise fun first second => first.1.rowNumber ≠ second.1.rowNumber := by
      have listed : rows.Pairwise fun first second => first.rowNumber ≠ second.rowNumber := List.pairwise_map.mp numbers
      rw [← List.zipIdx_map_fst 0 rows] at listed
      exact (List.pairwise_map (f := Prod.fst)).mp listed
    have indexed : rows.zipIdx.Pairwise fun first second => first.2 ≠ second.2 := by
      have positions : (rows.zipIdx.map Prod.snd).Nodup := by
        rw [List.zipIdx_map_snd]
        exact List.nodup_range'
      exact List.pairwise_map.mp positions
    refine (numbered.and indexed).imp_of_mem ?_
    intro first second one two different
    have before := (List.mem_zipIdx one).2.1
    have after := (List.mem_zipIdx two).2.1
    rintro (same | same)
    · exact different.2 (ready.apart first.2 (by omega) second.2 (by omega) same)
    · exact different.1 (congrArg (·.2.2) same)

theorem CreationReady.insertsBatch (ready : CreationReady cases store request)
    (commandId : command.commandId = request.application.commandId) :
    (store.importBatches.insert? (previewedBatch command request.batchId request.context)).isSome = true := by
  rw [Table.insert?_isSome]
  intro stored member
  obtain ⟨id, other⟩ := ready.batch stored member
  rintro (same | same)
  · exact id same
  · exact other ((congrArg Prod.snd same).trans commandId)

/-- A ready creation of rows without errors stores them exactly when they are storable. -/
theorem CreationReady.creates_iff (ready : CreationReady cases store request)
    (commandId : command.commandId = request.application.commandId) (caseId : command.caseId = request.caseId)
    (sound : ∀ row ∈ command.rows, SoundRow row) (few : command.rows.length ≤ maxRows)
    (numbers : (command.rows.map (·.rowNumber)).Nodup)
    (bounded : ∀ row ∈ command.rows, row.rowNumber ≤ maxRows + 1) :
    (∃ next, Creates cases store next command request.batchId request.rowId request.context) ↔
      Storable command.rows := by
  constructor
  · rintro ⟨next, creates⟩
    obtain ⟨total, prices⟩ := (inRange_iff sound few bounded).mp ⟨creates.batchInRange, creates.rowsInRange⟩
    exact ⟨(validateRows_sound sound numbers).mp creates.valid, all_rowFits.mp creates.fits, prices, total⟩
  · intro storable
    have ranges : batchInRange (previewedBatch command request.batchId request.context) = true ∧
        (previewedRows command.rows request.batchId request.rowId request.context).all rowInRange = true :=
      (inRange_iff sound few bounded).mpr ⟨storable.total, storable.prices⟩
    obtain ⟨batches, one⟩ := Option.isSome_iff_exists.mp (ready.insertsBatch commandId)
    obtain ⟨records, all⟩ := Option.isSome_iff_exists.mp (ready.inserts few numbers)
    obtain ⟨record, listed, tenant, id⟩ := ready.known
    have known : (cases.find? fun row => row.tenantId = request.context.tenantId ∧ row.id = command.caseId).isSome =
        true := by
      rw [Table.find?, List.find?_isSome]
      exact ⟨record, listed, decide_eq_true ⟨tenant, id.trans caseId.symm⟩⟩
    have patron : ¬ (request.context.actorKind ≠ .patronAdmin ∨ request.context.membershipId = none) := by
      rintro (other | missing)
      · exact other ready.patron
      · exact ready.member missing
    have checks : (previewedRows command.rows request.batchId request.rowId request.context).all rowChecks = true := by
      rw [List.all_eq_true]
      intro row member
      obtain ⟨entry, inside, rfl⟩ := List.mem_map.mp member
      exact (sound entry.1 (List.fst_mem_of_mem_zipIdx inside)).checks entry.2
    exact ⟨{ store with importBatches := batches, importRows := records }, patron, Option.isSome_iff_exists.mp known,
      (validateRows_sound sound numbers).mpr storable.some, all_rowFits.mpr storable.fit, ranges.1, ranges.2, checks,
      one, all, rfl⟩

end Storing

end SmartAo.Pricing
