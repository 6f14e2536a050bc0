import SmartAo.Pricing.PreviewRows
import Mathlib.Data.List.TakeWhile

namespace SmartAo.Pricing

open SmartAo.Foundation SmartAo.Platform

section Cells

variable (tables : UnicodeTables) (header : HeaderMap) (values : List Cell)

/-- How many characters of a text cell a command keeps. -/
def storedLength (cell : Cell) : Nat := ((cellText cell).map trimmed).elim 0 String.length

/-- A quantity cell is empty, or holds a number without a minus sign and of at most 32 characters in full. -/
def QuantityFits (cell : Cell) : Prop :=
  cell.isEmpty = true ∨ ∀ number, cellDecimal tables cell = some number →
    number.negative = false ∧ number.plain.length ≤ 32

/-- The cells of a row fit the columns they are stored in. -/
structure CellsFit : Prop where
  code : storedLength (cellOf header values .code) ≤ 120
  designation : storedLength (cellOf header values .designation) ≤ 160
  unit : storedLength (cellOf header values .unit) ≤ 32
  quantity : QuantityFits tables (cellOf header values .quantity)
  unitPrice : ∀ price, minor tables (cellOf header values .unitPrice) = .ok (some price) → bigint price = true

/-- The total of a row: its total cell, or else its price times its quantity. -/
def rowTotal : Except PreviewError (Option Nat) := do
  let quantity := decimalText tables (cellOf header values .quantity) (some ['1'])
  let unitPrice ← minor tables (cellOf header values .unitPrice)
  let total ← minor tables (cellOf header values .totalPrice)
  let calculated ← calculatedTotal tables quantity unitPrice
  return total.or calculated

def rowAmount : Nat :=
  match rowTotal tables header values with
  | .ok (some amount) => amount
  | _ => 0

end Cells

/-- What a row without errors took from its cells. -/
structure CleanRow (tables : UnicodeTables) (header : HeaderMap) (values : List Cell) (item : PricingImportRow) :
    Prop where
  errors : item.errors = []
  code : item.code = cellText (cellOf header values .code)
  designation : item.designation = cellText (cellOf header values .designation)
  named : item.designation ≠ none
  unit : item.unit = cellText (cellOf header values .unit)
  quantity : ∃ text, decimalText tables (cellOf header values .quantity) (some ['1']) = some text ∧
    item.quantityDecimal = some (String.ofList text)
  unitPrice : minor tables (cellOf header values .unitPrice) = .ok item.unitPriceMinor
  total : item.totalMinor = some (rowAmount tables header values)

section Parsing

variable {tables : UnicodeTables} {header : HeaderMap} {values : List Cell} {item : PricingImportRow} {rowNumber : Nat}

theorem rowErrors_eq_nil {designation : Option String} {quantity : Option (List Char)}
    {unitPrice total calculated : Option Nat} (none : rowErrors designation quantity unitPrice total calculated = []) :
    designation ≠ .none ∧ quantity ≠ .none ∧ ¬ (total = .none ∧ unitPrice = .none) := by
  simp only [rowErrors, List.append_eq_nil_iff, ite_eq_right_iff, List.cons_ne_nil, imp_false] at none
  exact ⟨none.1.1.1, none.1.1.2, none.1.2⟩

theorem parseRow_clean (parsed : parseRow tables rowNumber values header = .ok item) (clean : item.errors = []) :
    CleanRow tables header values item := by
  simp only [parseRow, bind_ok, pure_ok] at parsed
  obtain ⟨unitPrice, priced, total, totalled, calculated, computed, rfl⟩ := parsed
  obtain ⟨named, measured, valued⟩ := rowErrors_eq_nil clean
  obtain ⟨text, quantity⟩ := Option.ne_none_iff_exists'.mp measured
  have amount : rowTotal tables header values = .ok (total.or calculated) := by
    rw [rowTotal, bind_of_ok priced, bind_of_ok totalled, bind_of_ok computed]
    rfl
  have some_ : total.or calculated ≠ none := by
    cases total with
    | some total => exact Option.some_ne_none total
    | none =>
      cases unitPrice with
      | none => exact absurd ⟨rfl, rfl⟩ valued
      | some price =>
        rw [quantity, calculatedTotal] at computed
        cases calculate : calculateTotalMinor tables text price with
        | error error =>
          rw [calculate] at computed
          cases computed
        | ok cents =>
          rw [calculate] at computed
          cases computed
          exact Option.some_ne_none cents
  obtain ⟨cents, its⟩ := Option.ne_none_iff_exists'.mp some_
  refine ⟨clean, rfl, rfl, named, rfl, ⟨text, quantity, ?_⟩, priced, ?_⟩
  · show Option.map String.ofList _ = _
    rw [quantity]
    rfl
  · show total.or calculated = _
    rw [its, rowAmount, amount, its]

end Parsing

section Texts

variable {cell : Cell} {text : String}

theorem trimBy_eq_nil {blank : Char → Bool} {chars : List Char} : trimBy blank chars = [] ↔ ∀ c ∈ chars, blank c = true := by
  rw [trimBy, List.reverse_eq_nil_iff, List.dropWhile_eq_nil_iff]
  simp only [List.mem_reverse]
  constructor
  · intro all c member
    by_cases kept : c ∈ chars.dropWhile blank
    · exact all c kept
    · rw [← List.takeWhile_append_dropWhile (p := blank) (l := chars), List.mem_append] at member
      exact List.mem_takeWhile_imp (member.resolve_right kept)
  · exact fun all c member => all c ((List.dropWhile_sublist blank).mem member)

/-- A text read from a cell starts with a character that is no space. -/
theorem cellText_head (read : cellText cell = some text) : ∃ c ∈ text.toList.head?, isSpace c = false := by
  simp only [cellText] at read
  split at read
  · cases read
  · split at read
    · cases read
    · rename_i full
      cases read
      have ends : BareEnds isSpace (trimBy isSpace cell.shown) := trimBy_bareEnds cell.shown
      have bare := ends.1
      rw [← stripChars_eq_trimBy] at bare
      rw [String.toList_ofList]
      cases shown : stripChars cell.shown with
      | nil => simp [shown] at full
      | cons c rest => exact ⟨c, rfl, bare c (by rw [shown]; rfl)⟩

/-- Trimming keeps the characters that are no spaces. -/
theorem trimmed_mem {c : Char} (member : c ∈ text.toList) (solid : isSpace c = false) : c ∈ (trimmed text).toList := by
  have clear : isWhiteSpace c = false := by
    by_contra white
    rw [isSpace_of_isWhiteSpace (by simpa using white)] at solid
    cases solid
  rw [trimmed, String.toList_ofList]
  exact mem_trimBy member clear

theorem strip_ne_empty {c : Char} (member : c ∈ text.toList) (solid : isSpace c = false) : strip text ≠ "" := by
  intro empty
  have none := congrArg String.toList empty
  rw [strip, String.toList_ofList, stripChars_eq_trimBy] at none
  rw [trimBy_eq_nil.mp none c member] at solid
  cases solid

end Texts

section Quantities

variable {number : Decimal}

theorem isDigit_not_white {c : Char} (digit : c.isDigit = true) : isSpace c = false := by
  have bounds : 48 ≤ c.toNat ∧ c.toNat ≤ 57 := Char.isDigit_iff_toNat.mp digit
  simp only [isSpace, Bool.or_eq_false_iff, Bool.and_eq_false_iff, decide_eq_false_iff_not, beq_eq_false_iff_ne]
  omega

theorem plain_solid {c : Char} (member : c ∈ number.plain) : isSpace c = false := by
  rcases Decimal.mem_plain member with digit | rfl | rfl
  · exact isDigit_not_white digit
  · decide
  · decide

theorem trimmed_plain : trimmed (String.ofList number.plain) = String.ofList number.plain := by
  have clear {c : Char} (member : c ∈ number.plain) : isWhiteSpace c = false := by
    rw [isWhiteSpace, plain_solid member, Bool.false_and]
  have bare : BareEnds isWhiteSpace number.plain :=
    ⟨fun c first => clear (List.mem_of_mem_head? first), fun c last => clear (List.mem_of_mem_getLast? last)⟩
  rw [trimmed, String.toList_ofList, trimBy_eq_self_iff.mpr bare]

theorem span_digits (digits tail : List Char) (all : ∀ c ∈ digits, c.isDigit = true)
    (ends : ∀ c ∈ tail.head?, c.isDigit = false) :
    (digits ++ tail).takeWhile Char.isDigit = digits ∧ (digits ++ tail).dropWhile Char.isDigit = tail := by
  rw [List.takeWhile_append_of_pos all, List.dropWhile_append_of_pos all]
  cases tail with
  | nil => simp
  | cons c rest => simp [ends c rfl]

/-- A number in full matches the pattern of quantities unless it has a minus sign. -/
theorem quantityPattern_plain : quantityPattern number.plain = !number.negative := by
  cases sign : number.negative with
  | true =>
    rw [Decimal.plain, if_pos sign, quantityPattern]
    rfl
  | false =>
    obtain ⟨whole, tail, shape, fraction⟩ := Decimal.unsigned_shape number
    have ends : ∀ c ∈ tail.head?, c.isDigit = false := by
      rcases fraction with rfl | ⟨digits, rfl, _, _⟩
      · intro c none
        cases none
      · intro c point
        cases point
        rfl
    obtain ⟨digits, rest⟩ := span_digits _ tail (toDigits_isDigit whole) ends
    have numeral : Nat.toDigits 10 whole = ['0'] ∨ (Nat.toDigits 10 whole).head? ≠ some '0' := by
      cases whole with
      | zero => exact .inl rfl
      | succ n => exact .inr (toDigits_head _ (Nat.succ_pos n))
    rw [Decimal.plain, if_neg (by simp [sign]), shape, quantityPattern, digits, rest]
    rcases fraction with rfl | ⟨others, rfl, some_, all⟩
    · simpa using numeral
    · simpa [some_] using ⟨numeral, all⟩

end Quantities

/-- The command of a row without errors, beside the cells of the row. -/
structure CleanCommand (tables : UnicodeTables) (header : HeaderMap) (values : List Cell)
    (row : CreatePricingImportRowCommand) : Prop where
  errors : row.errors = []
  code : row.code = (cellText (cellOf header values .code)).map trimmed
  designation : row.designation = (cellText (cellOf header values .designation)).map trimmed
  named : cellText (cellOf header values .designation) ≠ none
  unit : row.unit = (cellText (cellOf header values .unit)).map trimmed
  quantity : ∃ number : Decimal, row.quantityDecimal = some (String.ofList number.plain) ∧
    (QuantityFits tables (cellOf header values .quantity) ↔ number.plain.length ≤ 32)
  unitPrice : minor tables (cellOf header values .unitPrice) = .ok row.unitPriceMinor
  total : row.totalMinor = some (rowAmount tables header values)

/-- The values of a command fit the columns of a financial line. -/
structure RowFits (row : CreatePricingImportRowCommand) : Prop where
  code : fits 120 row.code = true
  designation : fits 160 row.designation = true
  unit : fits 32 row.unit = true
  quantity : fits 32 row.quantityDecimal = true
  unitPrice : row.unitPriceMinor.all (fun value => bigint value) = true

section Commands

variable {tables : UnicodeTables} {header : HeaderMap} {values : List Cell} {item : PricingImportRow}
  {row : CreatePricingImportRowCommand}

/-- The quantity of a row is a number in full; an empty cell counts as one. -/
theorem decimalText_plain {cell : Cell} {text : List Char} (read : decimalText tables cell (some ['1']) = some text) :
    ∃ number : Decimal, text = number.plain ∧
      (QuantityFits tables cell ↔ number.negative = false ∧ number.plain.length ≤ 32) := by
  rw [decimalText] at read
  split at read
  · rename_i empty
    cases read
    exact ⟨.ofNat 1, rfl, iff_of_true (.inl empty) ⟨rfl, by decide⟩⟩
  · rename_i full
    obtain ⟨number, parsed, shown⟩ := Option.bind_eq_some_iff.mp read
    split at shown
    · cases shown
    · cases shown
      refine ⟨number, rfl, ?_⟩
      rw [QuantityFits, parsed, or_iff_right full]
      constructor
      · exact fun each => each number rfl
      · rintro both other same
        cases same
        exact both

theorem CleanRow.rowCommand (clean : CleanRow tables header values item) (numbered : 1 ≤ item.rowNumber) :
    (QuantityFits tables (cellOf header values .quantity) → ∃ row, rowCommand item = some row) ∧
      ∀ row, rowCommand item = some row → CleanCommand tables header values row ∧ row.rowNumber = item.rowNumber := by
  obtain ⟨text, read, quantity⟩ := clean.quantity
  obtain ⟨number, rfl, fit⟩ := decimalText_plain read
  have pattern : (item.quantityDecimal.map trimmed).all (fun text => quantityPattern text.toList) = !number.negative := by
    rw [quantity, Option.map_some, trimmed_plain, Option.all_some, String.toList_ofList, quantityPattern_plain]
  constructor
  · intro holds
    refine ⟨_, if_pos ⟨numbered, ?_⟩⟩
    rw [pattern, (fit.mp holds).1]
    rfl
  · intro row made
    rw [SmartAo.Pricing.rowCommand] at made
    split at made
    · rename_i accepted
      cases made
      have positive : number.negative = false := by simpa [pattern] using accepted.2
      refine ⟨⟨?_, ?_, ?_, ?_, ?_, ⟨number, ?_, ?_⟩, clean.unitPrice, clean.total⟩, rfl⟩
      · show item.errors.map trimmed = []
        rw [clean.errors]
        rfl
      · exact congrArg (Option.map trimmed) clean.code
      · exact congrArg (Option.map trimmed) clean.designation
      · rw [← clean.designation]
        exact clean.named
      · exact congrArg (Option.map trimmed) clean.unit
      · show item.quantityDecimal.map trimmed = _
        rw [quantity, Option.map_some, trimmed_plain]
      · rw [fit, positive]
        exact and_iff_right rfl
    · cases made

theorem fits_stored {cell : Cell} (width : Nat) : fits width ((cellText cell).map trimmed) = true ↔ storedLength cell ≤ width := by
  rw [storedLength, fits]
  cases cellText cell <;> simp

theorem CleanCommand.fits_iff (clean : CleanCommand tables header values row) :
    CellsFit tables header values ↔ RowFits row := by
  obtain ⟨number, quantity, fit⟩ := clean.quantity
  have measured : QuantityFits tables (cellOf header values .quantity) ↔ fits 32 row.quantityDecimal = true := by
    rw [fit, quantity, fits, Option.all_some, String.length_ofList, decide_eq_true_iff]
  have priced : (∀ price, minor tables (cellOf header values .unitPrice) = .ok (some price) → bigint price = true) ↔
      row.unitPriceMinor.all (fun value => bigint value) = true := by
    rw [clean.unitPrice]
    cases row.unitPriceMinor <;> simp
  constructor
  · intro cells
    refine ⟨?_, ?_, ?_, measured.mp cells.quantity, priced.mp cells.unitPrice⟩
    · rw [clean.code, fits_stored]
      exact cells.code
    · rw [clean.designation, fits_stored]
      exact cells.designation
    · rw [clean.unit, fits_stored]
      exact cells.unit
  · intro stored
    refine ⟨?_, ?_, ?_, measured.mpr stored.quantity, priced.mpr stored.unitPrice⟩
    · rw [← fits_stored, ← clean.code]
      exact stored.code
    · rw [← fits_stored, ← clean.designation]
      exact stored.designation
    · rw [← fits_stored, ← clean.unit]
      exact stored.unit

end Commands

end SmartAo.Pricing
