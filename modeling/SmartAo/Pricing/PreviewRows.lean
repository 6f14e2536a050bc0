import SmartAo.Pricing.ImportPreview

namespace SmartAo.Pricing

open SmartAo.Foundation SmartAo.Platform

/-- The rows of a sheet that hold a value, each with its number. -/
def dataRows (rowNumber : Nat) (rows : List (List Cell)) : List (List Cell × Nat) :=
  (rows.zipIdx rowNumber).filter fun entry => !blankRow entry.1

def parseEntry (tables : UnicodeTables) (header : HeaderMap) (entry : List Cell × Nat) :
    Except PreviewError PricingImportRow :=
  parseRow tables entry.2 entry.1 header

/-- How many errors a row has; a row that cannot be read has none. -/
def entryErrors (tables : UnicodeTables) (header : HeaderMap) (entry : List Cell × Nat) : Nat :=
  match parseEntry tables header entry with
  | .ok item => item.errors.length
  | .error _ => 0

def errorsIn (tables : UnicodeTables) (header : HeaderMap) (rowNumber : Nat) (rows : List (List Cell)) : Nat :=
  ((dataRows rowNumber rows).map (entryErrors tables header)).sum

theorem dataRows_cons_blank {rowNumber : Nat} {values : List Cell} {rest : List (List Cell)}
    (blank : blankRow values = true) : dataRows rowNumber (values :: rest) = dataRows (rowNumber + 1) rest := by
  simp [dataRows, blank]

theorem dataRows_cons {rowNumber : Nat} {values : List Cell} {rest : List (List Cell)}
    (holds : blankRow values = false) :
    dataRows rowNumber (values :: rest) = (values, rowNumber) :: dataRows (rowNumber + 1) rest := by
  simp [dataRows, holds]

theorem dataRows_append (rowNumber : Nat) (first second : List (List Cell)) :
    dataRows rowNumber (first ++ second) = dataRows rowNumber first ++ dataRows (rowNumber + first.length) second := by
  rw [dataRows, List.zipIdx_append, List.filter_append]
  rfl

theorem dataRows_eq_nil {rowNumber : Nat} {rows : List (List Cell)} :
    dataRows rowNumber rows = [] ↔ hasRemainingRows rows = false := by
  induction rows generalizing rowNumber with
  | nil => simp [dataRows, hasRemainingRows]
  | cons values rest ih =>
    have cons : hasRemainingRows (values :: rest) = (!blankRow values || hasRemainingRows rest) := rfl
    rw [cons]
    cases blank : blankRow values with
    | true => rw [dataRows_cons_blank blank, ih, Bool.not_true, Bool.false_or]
    | false => simp [dataRows_cons blank]

theorem dataRows_number {rowNumber : Nat} {rows : List (List Cell)} {entry : List Cell × Nat}
    (member : entry ∈ dataRows rowNumber rows) : rowNumber ≤ entry.2 ∧ entry.2 < rowNumber + rows.length := by
  have indexed := List.mem_zipIdx (List.mem_of_mem_filter member)
  exact ⟨indexed.1, indexed.2.1⟩

/-- The numbers of the data rows increase. -/
theorem dataRows_sorted (rowNumber : Nat) (rows : List (List Cell)) :
    ((dataRows rowNumber rows).map (·.2)).Pairwise (· < ·) := by
  induction rows generalizing rowNumber with
  | nil => exact List.Pairwise.nil
  | cons values rest ih =>
    cases blank : blankRow values with
    | true =>
      rw [dataRows_cons_blank blank]
      exact ih (rowNumber + 1)
    | false =>
      rw [dataRows_cons blank, List.map_cons, List.pairwise_cons]
      refine ⟨fun number member => ?_, ih (rowNumber + 1)⟩
      obtain ⟨entry, listed, rfl⟩ := List.mem_map.mp member
      have later := (dataRows_number listed).1
      show rowNumber < entry.2
      omega

section Progress

variable (items : List PricingImportRow) (progress : PreviewProgress)

theorem foldl_add_rows : (items.foldl PreviewProgress.add progress).rows = progress.rows ++ items := by
  induction items generalizing progress with
  | nil => exact (List.append_nil _).symm
  | cons item rest ih =>
    rw [List.foldl_cons, ih]
    exact List.append_assoc _ _ _

theorem foldl_add_errors : (items.foldl PreviewProgress.add progress).errors =
    progress.errors + (items.map (·.errors.length)).sum := by
  induction items generalizing progress with
  | nil => rfl
  | cons item rest ih =>
    rw [List.foldl_cons, ih, List.map_cons, List.sum_cons]
    exact Nat.add_assoc _ _ _

end Progress

variable {tables : UnicodeTables} {header : HeaderMap}

theorem parseRow_number {rowNumber : Nat} {values : List Cell} {item : PricingImportRow}
    (parsed : parseRow tables rowNumber values header = .ok item) : item.rowNumber = rowNumber := by
  simp only [parseRow, bind_ok, pure_ok] at parsed
  obtain ⟨_, _, _, _, _, _, rfl⟩ := parsed
  rfl

/-- The rows parsed from a part of a sheet. -/
def Parsed (tables : UnicodeTables) (header : HeaderMap) (rowNumber : Nat) (rows : List (List Cell))
    (items : List PricingImportRow) : Prop :=
  collect (parseEntry tables header) (dataRows rowNumber rows) = .ok items

theorem Parsed.numbers {rowNumber : Nat} {rows : List (List Cell)} {items : List PricingImportRow}
    (parsed : Parsed tables header rowNumber rows items) :
    items.map (·.rowNumber) = (dataRows rowNumber rows).map (·.2) :=
  collect_map (fun _ _ => parseRow_number) parsed

theorem Parsed.errors {rowNumber : Nat} {rows : List (List Cell)} {items : List PricingImportRow}
    (parsed : Parsed tables header rowNumber rows items) :
    (items.map (·.errors.length)).sum = errorsIn tables header rowNumber rows := by
  have same : items.map (·.errors.length) = (dataRows rowNumber rows).map (entryErrors tables header) := by
    refine collect_map (fun entry item computed => ?_) parsed
    rw [entryErrors, computed]
  rw [same, errorsIn]

/-- The part of a sheet a reading took in. -/
structure Reading (tables : UnicodeTables) (header : HeaderMap) (rowNumber : Nat) (rows : List (List Cell))
    (progress : PreviewProgress) (stop : PreviewStop) (count : Nat) (items : List PricingImportRow) : Prop where
  within : count ≤ rows.length
  budget : rowNumber + count ≤ maxRows + 2
  parsed : Parsed tables header rowNumber (rows.take count) items
  progress : stop.progress = items.foldl PreviewProgress.add progress
  ended : stop.limit = none → count = rows.length
  atRows : stop.limit = some .rows →
    rowNumber + count = maxRows + 2 ∧ count < rows.length ∧ stop.remaining = rows.drop (count + 1)
  atErrors : stop.limit = some .errors → stop.remaining = rows.drop count ∧ maxErrors ≤ stop.progress.errors
  below : stop.limit ≠ some .errors → stop.progress.errors < maxErrors

theorem Reading.skip {rowNumber count : Nat} {values : List Cell} {rest : List (List Cell)} {progress : PreviewProgress}
    {stop : PreviewStop} {items : List PricingImportRow} (blank : blankRow values = true)
    (reading : Reading tables header (rowNumber + 1) rest progress stop count items) :
    Reading tables header rowNumber (values :: rest) progress stop (count + 1) items where
  within := Nat.succ_le_succ reading.within
  budget := by
    have budget := reading.budget
    omega
  parsed := by
    rw [Parsed, List.take_succ_cons, dataRows_cons_blank blank]
    exact reading.parsed
  progress := reading.progress
  ended none := congrArg Nat.succ (reading.ended none)
  atRows full := by
    obtain ⟨exact, more, remaining⟩ := reading.atRows full
    exact ⟨by omega, Nat.succ_lt_succ more, remaining⟩
  atErrors := reading.atErrors
  below := reading.below

theorem Parsed.cons {rowNumber : Nat} {values : List Cell} {rest : List (List Cell)} {item : PricingImportRow}
    {items : List PricingImportRow} (holds : blankRow values = false)
    (first : parseRow tables rowNumber values header = .ok item) (parsed : Parsed tables header (rowNumber + 1) rest items) :
    Parsed tables header rowNumber (values :: rest) (item :: items) := by
  have entry : parseEntry tables header (values, rowNumber) = .ok item := first
  rw [Parsed, dataRows_cons holds, collect, bind_of_ok entry, bind_of_ok parsed]
  rfl

theorem Reading.take {rowNumber count : Nat} {values : List Cell} {rest : List (List Cell)} {progress : PreviewProgress}
    {stop : PreviewStop} {item : PricingImportRow} {items : List PricingImportRow} (holds : blankRow values = false)
    (first : parseRow tables rowNumber values header = .ok item)
    (reading : Reading tables header (rowNumber + 1) rest (progress.add item) stop count items) :
    Reading tables header rowNumber (values :: rest) progress stop (count + 1) (item :: items) where
  within := Nat.succ_le_succ reading.within
  budget := by
    have budget := reading.budget
    omega
  parsed := reading.parsed.cons holds first
  progress := reading.progress
  ended none := congrArg Nat.succ (reading.ended none)
  atRows full := by
    obtain ⟨exact, more, remaining⟩ := reading.atRows full
    exact ⟨by omega, Nat.succ_lt_succ more, remaining⟩
  atErrors := reading.atErrors
  below := reading.below

/-- What the loop over the rows has read when it stops. -/
theorem readRows_ok {rowNumber : Nat} {rows : List (List Cell)} {progress : PreviewProgress} {stop : PreviewStop}
    (started : rowNumber ≤ maxRows + 2) (open_ : progress.errors < maxErrors)
    (read : readRows tables header rowNumber rows progress = .ok stop) :
    ∃ count items, Reading tables header rowNumber rows progress stop count items := by
  induction rows generalizing rowNumber progress with
  | nil =>
    cases read
    exact ⟨0, [], {
      within := le_rfl, budget := started, parsed := rfl, progress := rfl, ended := fun _ => rfl
      atRows := nofun, atErrors := nofun, below := fun _ => open_ }⟩
  | cons values rest ih =>
    rw [readRows] at read
    split at read
    · rename_i beyond
      cases read
      exact ⟨0, [], {
        within := Nat.zero_le _, budget := started, parsed := rfl, progress := rfl, ended := nofun
        atRows := fun _ => ⟨by omega, Nat.succ_pos _, rfl⟩, atErrors := nofun, below := fun _ => open_ }⟩
    · rename_i inside
      split at read
      · rename_i blank
        obtain ⟨count, items, reading⟩ := ih (by omega) open_ read
        exact ⟨count + 1, items, reading.skip blank⟩
      · rename_i marked
        have holds : blankRow values = false := by simpa using marked
        obtain ⟨item, first, later⟩ := bind_ok.mp read
        split at later
        · rename_i full
          cases later
          have alone : Parsed tables header rowNumber [values] [item] := Parsed.cons holds first rfl
          exact ⟨1, [item], {
            within := Nat.succ_le_succ (Nat.zero_le _)
            budget := by omega
            parsed := alone
            progress := rfl, ended := nofun, atRows := nofun
            atErrors := fun _ => ⟨rfl, full⟩, below := fun other => absurd rfl other }⟩
        · rename_i few
          obtain ⟨count, items, reading⟩ := ih (by omega) (by omega) later
          exact ⟨count + 1, item :: items, reading.take holds first⟩

section Preview

variable {workbook : List UInt8 → Option Workbook} {rows sheet : List (List Cell)} {caseId : Uuid}
  {documentKind : DocumentKind} {upload : PricingUpload} {shown : PricingImportPreview} {stop : PreviewStop}
  {count : Nat} {items : List PricingImportRow}

/-- The start of a preview. -/
def PreviewProgress.start : PreviewProgress := ⟨[], 0, 0⟩

theorem preview_ok (accepted : preview tables workbook caseId documentKind upload = .ok shown)
    (opened : openSheet tables workbook upload = .ok sheet) (parts : splitSheet tables sheet = .ok (header, rows)) :
    ∃ stop count items, Reading tables header 2 rows .start stop count items ∧ shown.rows = items ∧
      shown.errorCount = stop.progress.errors ∧
      shown.truncated = (stop.limit.isSome && hasRemainingRows stop.remaining) := by
  rw [preview, bind_of_ok opened, bind_of_ok parts] at accepted
  obtain ⟨stop, read, built⟩ := bind_ok.mp accepted
  obtain ⟨count, items, reading⟩ := readRows_ok (by decide) (by decide) read
  cases built
  refine ⟨stop, count, items, reading, ?_, rfl, rfl⟩
  show stop.progress.rows = items
  rw [reading.progress, foldl_add_rows]
  rfl

theorem Reading.count_le (reading : Reading tables header 2 rows .start stop count items) : count ≤ maxRows := by
  have budget := reading.budget
  omega

theorem Reading.errors (reading : Reading tables header 2 rows .start stop count items) :
    stop.progress.errors = errorsIn tables header 2 (rows.take count) := by
  rw [reading.progress, foldl_add_errors, reading.parsed.errors]
  exact Nat.zero_add _

end Preview

end SmartAo.Pricing
