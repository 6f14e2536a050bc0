import SmartAo.Pricing.RowCommands

namespace SmartAo.Pricing

open SmartAo.Foundation SmartAo.Platform SmartAo.Case

/-- An upload of a sheet, with the identifiers drawn for the batch it becomes. -/
structure ImportUpload where
  application : ApplicationCommand
  caseId : Uuid
  documentKind : DocumentKind
  upload : PricingUpload
  batchId : Uuid
  rowId : Nat → Uuid
  context : CommandContext

inductive RouteError where
  | preview (error : PreviewError)
  | validation
  | command (error : CommandError)

/-- The upload route: the sheet is previewed, and a batch is created from the preview. -/
def previewImport (tables : UnicodeTables) (workbook : List UInt8 → Option Workbook) (cases : Table CaseRecord)
    (store : PricingStore) (request : ImportUpload) : Except RouteError (PricingImportPreview × PricingStore) := do
  let shown ← (preview tables workbook request.caseId request.documentKind request.upload).mapError .preview
  let command ← orRaise
    (creationCommand request.application request.caseId request.documentKind request.upload shown) .validation
  let (next, _) ← (createPricingImportPreview cases store command request.batchId request.rowId
    request.context).mapError .command
  return (shown, next)

/-- What a creation handler can rely on: its actor, its case, and the identifiers just drawn. -/
structure CreationReady (cases : Table CaseRecord) (store : PricingStore) (request : ImportUpload) : Prop where
  patron : request.context.actorKind = .patronAdmin
  member : request.context.membershipId ≠ none
  known : ∃ row ∈ cases, row.tenantId = request.context.tenantId ∧ row.id = request.caseId
  batch : ∀ row ∈ store.importBatches, row.id ≠ request.batchId ∧ row.commandId ≠ request.application.commandId
  rows : ∀ row ∈ store.importRows, row.batchId ≠ request.batchId ∧ ∀ index < maxRows, row.id ≠ request.rowId index
  apart : ∀ first < maxRows, ∀ second < maxRows, request.rowId first = request.rowId second → first = second

/-- The data rows of a sheet within the row limit. -/
def readable (rows : List (List Cell)) : List (List Cell × Nat) := dataRows 2 (rows.take maxRows)

/-- A row of a command without errors has its name, its quantity and its total. -/
structure SoundRow (row : CreatePricingImportRowCommand) : Prop where
  errors : row.errors = []
  designation : ∃ text, row.designation = some text ∧ ∃ c ∈ text.toList, isSpace c = false
  quantity : ∃ text, row.quantityDecimal = some text ∧ ∃ c ∈ text.toList, isSpace c = false
  total : ∃ amount, row.totalMinor = some amount

section Converting

variable {tables : UnicodeTables} {header : HeaderMap} {entries : List (List Cell × Nat)} {items : List PricingImportRow}
  {values : List Cell} {row : CreatePricingImportRowCommand}

theorem CleanCommand.sound (clean : CleanCommand tables header values row) : SoundRow row := by
  obtain ⟨text, read⟩ := Option.ne_none_iff_exists'.mp clean.named
  obtain ⟨c, first, solid⟩ := cellText_head read
  obtain ⟨number, quantity, _⟩ := clean.quantity
  refine ⟨clean.errors, ⟨trimmed text, ?_, c, trimmed_mem (List.mem_of_mem_head? first) solid, solid⟩,
    ⟨_, quantity, ?_⟩, _, clean.total⟩
  · rw [clean.designation, read]
    rfl
  · obtain ⟨d, member⟩ := List.exists_mem_of_ne_nil _ (Decimal.plain_ne_nil number)
    exact ⟨d, by rwa [String.toList_ofList], plain_solid member⟩

/-- The command a data row becomes. -/
def Converts (tables : UnicodeTables) (header : HeaderMap) (entry : List Cell × Nat)
    (row : CreatePricingImportRowCommand) : Prop :=
  CleanCommand tables header entry.1 row ∧ row.rowNumber = entry.2

theorem converts (parsed : collect (parseEntry tables header) entries = .ok items)
    (clean : ∀ item ∈ items, item.errors = []) (numbered : ∀ entry ∈ entries, 1 ≤ entry.2) :
    ((∀ entry ∈ entries, CellsFit tables header entry.1) → ∃ rows, items.mapM rowCommand = some rows) ∧
      ∀ rows, items.mapM rowCommand = some rows → List.Forall₂ (Converts tables header) entries rows := by
  induction entries generalizing items with
  | nil =>
    cases parsed
    refine ⟨fun _ => ⟨[], rfl⟩, fun rows made => ?_⟩
    cases made
    exact .nil
  | cons entry entries ih =>
    simp only [collect, bind_ok, pure_ok] at parsed
    obtain ⟨item, first, others, later, rfl⟩ := parsed
    rw [List.forall_mem_cons] at clean numbered
    obtain ⟨exist, all⟩ := ih later clean.2 numbered.2
    have number : item.rowNumber = entry.2 := parseRow_number first
    obtain ⟨makes, made⟩ := (parseRow_clean first clean.1).rowCommand (by rw [number]; exact numbered.1)
    constructor
    · intro fit
      rw [List.forall_mem_cons] at fit
      obtain ⟨row, one⟩ := makes fit.1.quantity
      obtain ⟨rows, rest⟩ := exist fit.2
      exact ⟨row :: rows, by rw [List.mapM_cons, one, rest]; rfl⟩
    · intro rows whole
      rw [List.mapM_cons] at whole
      obtain ⟨row, one, more⟩ := Option.bind_eq_some_iff.mp whole
      obtain ⟨rest, two, built⟩ := Option.bind_eq_some_iff.mp more
      cases built
      obtain ⟨command, same⟩ := made row one
      exact .cons ⟨command, same.trans number⟩ (all rest two)

variable {rows : List CreatePricingImportRowCommand}

theorem Converts.numbers (each : List.Forall₂ (Converts tables header) entries rows) :
    rows.map (·.rowNumber) = entries.map (·.2) := by
  induction each with
  | nil => rfl
  | cons first _ ih => rw [List.map_cons, List.map_cons, first.2, ih]

theorem Converts.totals (each : List.Forall₂ (Converts tables header) entries rows) :
    (rows.map fun row => row.totalMinor.getD 0) = entries.map fun entry => rowAmount tables header entry.1 := by
  induction each with
  | nil => rfl
  | cons first _ ih => rw [List.map_cons, List.map_cons, first.1.total, ih, Option.getD_some]

theorem Converts.sound (each : List.Forall₂ (Converts tables header) entries rows) : ∀ row ∈ rows, SoundRow row := by
  induction each with
  | nil => nofun
  | cons first _ ih => exact List.forall_mem_cons.mpr ⟨first.1.sound, ih⟩

theorem Converts.fits_iff (each : List.Forall₂ (Converts tables header) entries rows) :
    (∀ entry ∈ entries, CellsFit tables header entry.1) ↔ ∀ row ∈ rows, RowFits row := by
  induction each with
  | nil => exact iff_of_true nofun nofun
  | cons first _ ih => rw [List.forall_mem_cons, List.forall_mem_cons, first.1.fits_iff, ih]

end Converting

/-- The rows of a preview without errors are those of the sheet within the limit. -/
theorem preview_clean {tables : UnicodeTables} {workbook : List UInt8 → Option Workbook} {header : HeaderMap}
    {rows sheet : List (List Cell)} {caseId : Uuid} {documentKind : DocumentKind} {upload : PricingUpload}
    {shown : PricingImportPreview} (accepted : preview tables workbook caseId documentKind upload = .ok shown)
    (opened : openSheet tables workbook upload = .ok sheet) (parts : splitSheet tables sheet = .ok (header, rows))
    (clean : shown.errorCount = 0) :
    collect (parseEntry tables header) (readable rows) = .ok shown.rows ∧ ∀ item ∈ shown.rows, item.errors = [] := by
  obtain ⟨stop, count, items, reading, same, errors, _⟩ := preview_ok accepted opened parts
  rw [clean] at errors
  have whole : rows.take count = rows.take maxRows := by
    cases limit : stop.limit with
    | none =>
      have all := reading.ended limit
      have budget := reading.count_le
      rw [List.take_of_length_le (by omega), List.take_of_length_le (by omega)]
    | some reached =>
      cases reached with
      | rows =>
        have exact := (reading.atRows limit).1
        have full : count = maxRows := by omega
        rw [full]
      | errors =>
        have many := (reading.atErrors limit).2
        rw [← errors] at many
        cases many
  have parsed := reading.parsed
  rw [whole, ← same] at parsed
  refine ⟨parsed, fun item member => ?_⟩
  have sum : (items.map (·.errors.length)).sum = 0 := by
    rw [reading.parsed.errors, ← reading.errors, ← errors]
  rw [same] at member
  have none := List.sum_eq_zero_iff_forall_eq_nat.mp sum _ (List.mem_map_of_mem member)
  exact List.length_eq_zero_iff.mp none

theorem readable_number {rows : List (List Cell)} {entry : List Cell × Nat} (member : entry ∈ readable rows) :
    2 ≤ entry.2 ∧ entry.2 ≤ maxRows + 1 := by
  have bounds := dataRows_number member
  have width := List.length_take_le maxRows rows
  omega

theorem readable_length (rows : List (List Cell)) : (readable rows).length ≤ maxRows := by
  have kept : (readable rows).length ≤ ((rows.take maxRows).zipIdx 2).length := List.length_filter_le _ _
  have width := List.length_take_le maxRows rows
  rw [List.length_zipIdx] at kept
  omega

end SmartAo.Pricing
