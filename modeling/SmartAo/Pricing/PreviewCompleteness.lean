import SmartAo.Pricing.PreviewRows

namespace SmartAo.Pricing

open SmartAo.Foundation SmartAo.Platform

/-- Every data row of a sheet is among the rows of its preview, in order. -/
def Complete (tables : UnicodeTables) (header : HeaderMap) (rows : List (List Cell)) (shown : PricingImportPreview) :
    Prop :=
  Parsed tables header 2 rows shown.rows

/-- A data row of a sheet is not among the rows of its preview. -/
def Missing (rows : List (List Cell)) (shown : PricingImportPreview) : Prop :=
  ∃ entry ∈ dataRows 2 rows, entry.2 ∉ shown.rows.map (·.rowNumber)

/-- A preview is complete or says that it is not. -/
def CompleteOrTruncated (tables : UnicodeTables) (header : HeaderMap) (rows : List (List Cell))
    (shown : PricingImportPreview) : Prop :=
  (shown.truncated = false → Complete tables header rows shown) ∧ (Missing rows shown → shown.truncated = true)

/-- The row at which the reading breaks holds a value, and no row after it does. -/
def LastRowLost (tables : UnicodeTables) (header : HeaderMap) (rows : List (List Cell)) : Prop :=
  (∃ values, rows[maxRows]? = some values ∧ blankRow values = false) ∧
    hasRemainingRows (rows.drop (maxRows + 1)) = false ∧ errorsIn tables header 2 (rows.take maxRows) < maxErrors

section Reading

variable {tables : UnicodeTables} {header : HeaderMap} {rows : List (List Cell)} {shown : PricingImportPreview}
  {stop : PreviewStop} {count : Nat} {items : List PricingImportRow}

theorem errorsIn_take_mono (first second : Nat) (le : first ≤ second) :
    errorsIn tables header 2 (rows.take first) ≤ errorsIn tables header 2 (rows.take second) := by
  obtain ⟨later, whole⟩ := List.take_prefix_take_left (l := rows) le
  rw [← whole, errorsIn, errorsIn, dataRows_append, List.map_append, List.sum_append]
  exact Nat.le_add_right _ _

/-- A reading leaves out the data rows after those it took in. -/
theorem Reading.complete (reading : Reading tables header 2 rows .start stop count items)
    (nothing : hasRemainingRows (rows.drop count) = false) : Parsed tables header 2 rows items := by
  have whole : dataRows 2 rows = dataRows 2 (rows.take count) := by
    conv_lhs => rw [← List.take_append_drop count rows, dataRows_append, dataRows_eq_nil.mpr nothing, List.append_nil]
  rw [Parsed, whole]
  exact reading.parsed

theorem Parsed.not_missing (complete : Complete tables header rows shown) : ¬ Missing rows shown := by
  rintro ⟨entry, member, absent⟩
  rw [Parsed.numbers complete] at absent
  exact absent (List.mem_map_of_mem member)

theorem hasRemainingRows_drop {values : List Cell} (index : Nat) (at_ : rows[index]? = some values) :
    hasRemainingRows (rows.drop index) = (!blankRow values || hasRemainingRows (rows.drop (index + 1))) := by
  obtain ⟨inside, same⟩ := List.getElem?_eq_some_iff.mp at_
  rw [List.drop_eq_getElem_cons inside, same]
  rfl

/-- The row that the break consumes goes unsaid when it is the last one with a value. -/
theorem Reading.lost (reading : Reading tables header 2 rows .start stop count items)
    (lost : LastRowLost tables header rows) :
    (stop.limit.isSome && hasRemainingRows stop.remaining) = false ∧ ¬ Parsed tables header 2 rows items := by
  obtain ⟨⟨values, last, holds⟩, nothing, few⟩ := lost
  obtain ⟨inside, _⟩ := List.getElem?_eq_some_iff.mp last
  have short := reading.count_le
  constructor
  · cases limit : stop.limit with
    | none => rfl
    | some reached =>
      cases reached with
      | rows =>
        obtain ⟨exact, _, remaining⟩ := reading.atRows limit
        have full : count = maxRows := by omega
        rw [remaining, full, nothing]
        rfl
      | errors =>
        have many := (reading.atErrors limit).2
        have fewer : errorsIn tables header 2 (rows.take count) ≤ errorsIn tables header 2 (rows.take maxRows) :=
          errorsIn_take_mono count maxRows short
        rw [reading.errors] at many
        omega
  · intro complete
    have listed : maxRows + 2 ∈ (dataRows 2 rows).map (·.2) := by
      refine List.mem_map.mpr ⟨(values, maxRows + 2), List.mem_filter.mpr ⟨?_, by simp [holds]⟩, rfl⟩
      exact List.mem_zipIdx_iff_le_and_getElem?_sub.mpr ⟨by simp, by simpa using last⟩
    rw [← complete.numbers, reading.parsed.numbers] at listed
    obtain ⟨entry, member, number⟩ := List.mem_map.mp listed
    have early := (dataRows_number member).2
    have width := List.length_take_le count rows
    omega

theorem Reading.said (reading : Reading tables header 2 rows .start stop count items)
    (kept : ¬ LastRowLost tables header rows)
    (untold : (stop.limit.isSome && hasRemainingRows stop.remaining) = false) : Parsed tables header 2 rows items := by
  apply reading.complete
  cases limit : stop.limit with
  | none =>
    rw [reading.ended limit, List.drop_length]
    rfl
  | some reached =>
    have nothing : hasRemainingRows stop.remaining = false := by simpa [limit] using untold
    cases reached with
    | errors =>
      rw [← (reading.atErrors limit).1]
      exact nothing
    | rows =>
      obtain ⟨exact, more, remaining⟩ := reading.atRows limit
      have full : count = maxRows := by omega
      have few := reading.below (by rw [limit]; nofun)
      rw [reading.errors, full] at few
      rw [remaining, full] at nothing
      have last : rows[maxRows]? = some rows[count] := by
        rw [← full]
        exact List.getElem?_eq_getElem more
      rw [full, hasRemainingRows_drop maxRows last, nothing, Bool.or_false]
      by_contra holds
      exact kept ⟨⟨rows[count], last, by simpa using holds⟩, nothing, few⟩

end Reading

/-- A preview is complete or says so, unless the first row beyond the limit is the last one with a value. -/
theorem preview_completeness (tables : UnicodeTables) (workbook : List UInt8 → Option Workbook) (caseId : Uuid)
    (documentKind : DocumentKind) (upload : PricingUpload) (sheet rows : List (List Cell)) (header : HeaderMap)
    (shown : PricingImportPreview) (accepted : preview tables workbook caseId documentKind upload = .ok shown)
    (opened : openSheet tables workbook upload = .ok sheet) (parts : splitSheet tables sheet = .ok (header, rows)) :
    CompleteOrTruncated tables header rows shown ↔ ¬ LastRowLost tables header rows := by
  obtain ⟨stop, count, items, reading, same, _, truncated⟩ := preview_ok accepted opened parts
  constructor
  · rintro ⟨complete, _⟩ lost
    obtain ⟨untold, incomplete⟩ := reading.lost lost
    have whole := complete (truncated.trans untold)
    rw [Complete, same] at whole
    exact incomplete whole
  · intro kept
    have complete (untold : shown.truncated = false) : Complete tables header rows shown := by
      rw [Complete, same]
      exact reading.said kept (truncated.symm.trans untold)
    refine ⟨complete, fun missing => ?_⟩
    by_contra untold
    exact Parsed.not_missing (complete (by simpa using untold)) missing

/-- A file whose workbook holds one sheet. -/
def sheetFile (sheet : List (List Cell)) : List UInt8 → Option Workbook := fun _ => some ⟨[], 0, 0, some sheet⟩

/-- The tables as they are on ASCII text. -/
def asciiTables : UnicodeTables := ⟨fun text => text.map Char.toLower, asciiDigit, fun _ _ => rfl⟩

def importUpload : PricingUpload := ⟨"import.xlsx".toList, none, []⟩

def importHeader : List Cell := [.text "Designation".toList, .text "Total".toList]

def workRow : List Cell := [.text "Pose".toList, .text "10".toList]

/-- A sheet with a value in its first data row beyond the limit and in no other. -/
def gapRows : List (List Cell) := List.replicate maxRows [] ++ [workRow]

def gapPreview (caseId : Uuid) : PricingImportPreview where
  caseId := caseId
  documentKind := .excel
  filename := importUpload.filename
  rowCount := 0
  validRowCount := 0
  errorCount := 0
  totalMinor := 0
  truncated := false
  limitReason := none
  rows := []

theorem openSheet_sheetFile (sheet : List (List Cell)) :
    openSheet asciiTables (sheetFile sheet) importUpload = .ok sheet := rfl

theorem splitSheet_importHeader (rows : List (List Cell)) :
    splitSheet asciiTables (importHeader :: rows) = .ok (resolveHeaders asciiTables importHeader, rows) := by
  have named : resolveHeaders asciiTables importHeader .designation ≠ none := by decide +kernel
  rw [splitSheet, raiseIf_pass named]
  rfl

theorem readRows_empty {tables : UnicodeTables} {header : HeaderMap} (count rowNumber : Nat) (rest : List (List Cell))
    (progress : PreviewProgress) (fits : rowNumber + count ≤ maxRows + 2) :
    readRows tables header rowNumber (List.replicate count [] ++ rest) progress =
      readRows tables header (rowNumber + count) rest progress := by
  induction count generalizing rowNumber with
  | zero => rfl
  | succ count ih =>
    have inside : ¬ maxRows + 1 < rowNumber := by omega
    have blank : blankRow [] = true := rfl
    rw [List.replicate_succ, List.cons_append, readRows, if_neg inside, if_pos blank, ih (rowNumber + 1) (by omega)]
    congr 1
    omega

theorem gapRows_preview (caseId : Uuid) :
    preview asciiTables (sheetFile (importHeader :: gapRows)) caseId .excel importUpload = .ok (gapPreview caseId) := by
  have read : readRows asciiTables (resolveHeaders asciiTables importHeader) 2 gapRows ⟨[], 0, 0⟩ =
      .ok ⟨⟨[], 0, 0⟩, some .rows, []⟩ := by
    rw [gapRows, readRows_empty maxRows 2 _ _ (by decide)]
    rfl
  rw [preview, bind_of_ok (openSheet_sheetFile _), bind_of_ok (splitSheet_importHeader _)]
  simp only
  rw [bind_of_ok read]
  rfl

theorem gapRows_unsaid :
    preview asciiTables (sheetFile (importHeader :: gapRows)) 1 .excel importUpload = .ok (gapPreview 1) ∧
      ¬ CompleteOrTruncated asciiTables (resolveHeaders asciiTables importHeader) gapRows (gapPreview 1) := by
  refine ⟨gapRows_preview 1, ?_⟩
  rintro ⟨complete, _⟩
  have numbers := (complete rfl).numbers
  have nothing : dataRows 2 gapRows = [] := List.map_eq_nil_iff.mp numbers.symm
  rw [dataRows_eq_nil, gapRows, hasRemainingRows, List.any_append, Bool.or_eq_false_iff] at nothing
  exact absurd nothing.2 (by decide)

theorem gapRows_completeness :
    CompleteOrTruncated asciiTables (resolveHeaders asciiTables importHeader) gapRows (gapPreview 1) ↔
      ¬ LastRowLost asciiTables (resolveHeaders asciiTables importHeader) gapRows :=
  preview_completeness asciiTables (sheetFile (importHeader :: gapRows)) 1 .excel importUpload
    (importHeader :: gapRows) gapRows (resolveHeaders asciiTables importHeader) (gapPreview 1) (gapRows_preview 1)
    (openSheet_sheetFile _) (splitSheet_importHeader _)

end SmartAo.Pricing
