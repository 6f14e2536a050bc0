import SmartAo.Pricing.RowCommands
import SmartAo.Pricing.RowTotals

namespace SmartAo.Pricing

open SmartAo.Foundation SmartAo.Platform

/-- A cell holds a number that is not below zero. -/
def ReadsAmount (tables : UnicodeTables) (cell : Cell) : Prop :=
  ∃ number, Reads tables cell number ∧ number.belowZero = false

/-- A cell with something in it that is no such number. -/
def Unread (tables : UnicodeTables) (cell : Cell) : Prop := cell.isEmpty = false ∧ ¬ ReadsAmount tables cell

/-- The number of a quantity cell, if it has one, is the stored one. -/
def QuantityStored (tables : UnicodeTables) (cell : Cell) (stored : Option String) : Prop :=
  cell.isEmpty = false → ∃ number, Reads tables cell number ∧ number.belowZero = false ∧
    stored = some (String.ofList number.plain)

/-- The number of a price cell, if it has one, is the stored one in cents. -/
def PriceStored (tables : UnicodeTables) (cell : Cell) (stored : Option Nat) : Prop :=
  cell.isEmpty = false → ∃ number product, Reads tables cell number ∧ number.belowZero = false ∧
    number.multiply (.ofNat 100) = some product ∧ stored = some product.integral.toNat

/-- Every number of a row was taken from its cell. -/
structure Understood (tables : UnicodeTables) (header : HeaderMap) (values : List Cell) (item : PricingImportRow) :
    Prop where
  quantity : QuantityStored tables (cellOf header values .quantity) item.quantityDecimal
  unitPrice : PriceStored tables (cellOf header values .unitPrice) item.unitPriceMinor
  totalPrice : PriceStored tables (cellOf header values .totalPrice) item.totalMinor

/-- A named row with a readable quantity, one price cell of which is read and the other is not. -/
structure DropsPrice (tables : UnicodeTables) (header : HeaderMap) (values : List Cell) : Prop where
  named : cellText (cellOf header values .designation) ≠ none
  quantity : ¬ Unread tables (cellOf header values .quantity)
  price : (ReadsAmount tables (cellOf header values .unitPrice) ∧ Unread tables (cellOf header values .totalPrice)) ∨
    (ReadsAmount tables (cellOf header values .totalPrice) ∧ Unread tables (cellOf header values .unitPrice))

section Reading

variable {tables : UnicodeTables} {cell : Cell} {header : HeaderMap} {values : List Cell} {item : PricingImportRow}
  {rowNumber : Nat}

theorem decimalText_some {text : List Char} {default : Option (List Char)} (filled : cell.isEmpty = false)
    (read : decimalText tables cell default = some text) :
    ∃ number, Reads tables cell number ∧ number.belowZero = false ∧ text = number.plain := by
  rw [decimalText, if_neg (by simp [filled])] at read
  obtain ⟨number, parsed, kept⟩ := Option.bind_eq_some_iff.mp read
  by_cases below : number.belowZero = true
  · rw [if_pos below] at kept
    cases kept
  · rw [if_neg below, Option.some.injEq] at kept
    exact ⟨number, ⟨filled, parsed⟩, by simpa using below, kept.symm⟩

theorem decimalText_none {default : List Char} :
    decimalText tables cell (some default) = none ↔ Unread tables cell := by
  unfold Unread ReadsAmount Reads decimalText
  cases empty : cell.isEmpty with
  | true => simp
  | false =>
    rw [if_neg (by decide)]
    cases cellDecimal tables cell with
    | none => simp
    | some number => cases below : number.belowZero <;> simp [below]

theorem minor_none (filled : cell.isEmpty = false) (read : minor tables cell = .ok none) :
    Unread tables cell := by
  refine ⟨filled, ?_⟩
  rintro ⟨number, ⟨_, parsed⟩, above⟩
  rw [minor, if_neg (by simp [filled]), parsed] at read
  simp only [above, Bool.false_eq_true, if_false] at read
  cases product : number.multiply (.ofNat 100) <;> rw [product] at read <;> cases read

theorem minor_some {price : Nat} (read : minor tables cell = .ok (some price)) :
    ∃ number product, Reads tables cell number ∧ number.belowZero = false ∧
      number.multiply (.ofNat 100) = some product ∧ price = product.integral.toNat := by
  unfold minor at read
  by_cases empty : cell.isEmpty = true
  · rw [if_pos empty] at read
    cases read
  · rw [if_neg empty] at read
    cases parsed : cellDecimal tables cell with
    | none =>
      rw [parsed] at read
      cases read
    | some number =>
      rw [parsed] at read
      by_cases below : number.belowZero = true
      · simp only [below, if_true] at read
        cases read
      · simp only [below] at read
        cases computed : number.multiply (.ofNat 100) with
        | none =>
          rw [computed] at read
          cases read
        | some product =>
          rw [computed] at read
          cases read
          exact ⟨number, product, ⟨by simpa using empty, parsed⟩, by simpa using below, computed, rfl⟩

theorem ReadsAmount.of_minor {price : Nat} (read : minor tables cell = .ok (some price)) :
    ReadsAmount tables cell := by
  obtain ⟨number, _, reads, above, _⟩ := minor_some read
  exact ⟨number, reads, above⟩

/-- A price is stored unless its cell was not read. -/
theorem priceStored_iff {price stored : Option Nat} (read : minor tables cell = .ok price)
    (kept : price ≠ none → stored = price) : PriceStored tables cell stored ↔ ¬ Unread tables cell := by
  constructor
  · rintro taken ⟨filled, unread⟩
    obtain ⟨number, _, reads, above, _⟩ := taken filled
    exact unread ⟨number, reads, above⟩
  · intro readable filled
    cases price with
    | none => exact absurd (minor_none filled read) readable
    | some price =>
      obtain ⟨number, product, reads, above, computed, amount⟩ := minor_some read
      refine ⟨number, product, reads, above, computed, ?_⟩
      rw [kept (by nofun), amount]

theorem minor_ne_none {price : Option Nat} (read : minor tables cell = .ok price) :
    price ≠ none ↔ ReadsAmount tables cell := by
  cases price with
  | some price => exact iff_of_true (by nofun) (.of_minor read)
  | none =>
    refine iff_of_false (by simp) ?_
    rintro ⟨number, reads, above⟩
    exact (minor_none reads.1 read).2 ⟨number, reads, above⟩

theorem rowErrors_unpaired {designation : Option String} {quantity : Option (List Char)}
    {unitPrice total calculated : Option Nat} (named : designation ≠ none) (measured : quantity ≠ none)
    (valued : ¬ (total = none ∧ unitPrice = none)) (unpaired : calculated = none ∨ total = none) :
    rowErrors designation quantity unitPrice total calculated = [] := by
  have alike : ¬ (calculated ≠ none ∧ total ≠ none ∧ total ≠ calculated) := by
    rintro ⟨computed, totalled, _⟩
    exact unpaired.elim computed totalled
  rw [rowErrors, if_neg named, if_neg measured, if_neg valued, if_neg alike]
  rfl

theorem calculatedTotal_unpriced {quantity : Option (List Char)} {calculated : Option Nat}
    (computed : calculatedTotal tables quantity none = .ok calculated) : calculated = none := by
  cases computed
  rfl

/-- A row that drops a price has no error. -/
theorem DropsPrice.clean (drops : DropsPrice tables header values)
    (parsed : parseRow tables rowNumber values header = .ok item) : item.errors = [] := by
  simp only [parseRow, bind_ok, pure_ok] at parsed
  obtain ⟨unitPrice, priced, total, totalled, calculated, computed, rfl⟩ := parsed
  have measured : decimalText tables (cellOf header values .quantity) (some ['1']) ≠ none :=
    mt decimalText_none.mp drops.quantity
  rcases drops.price with ⟨read, unread⟩ | ⟨read, unread⟩
  · have there : unitPrice ≠ none := (minor_ne_none priced).mpr read
    have gone : total = none := not_not.mp (mt (minor_ne_none totalled).mp unread.2)
    exact rowErrors_unpaired drops.named measured (fun both => there both.2) (.inr gone)
  · have there : total ≠ none := (minor_ne_none totalled).mpr read
    have gone : unitPrice = none := not_not.mp (mt (minor_ne_none priced).mp unread.2)
    rw [gone] at computed
    exact rowErrors_unpaired drops.named measured (fun both => there both.1) (.inl (calculatedTotal_unpriced computed))

/-- A clean row that drops no price was understood. -/
theorem understood_of_clean (parsed : parseRow tables rowNumber values header = .ok item) (clean : item.errors = [])
    (keeps : ¬ DropsPrice tables header values) : Understood tables header values item := by
  simp only [parseRow, bind_ok, pure_ok] at parsed
  obtain ⟨unitPrice, priced, total, totalled, calculated, computed, rfl⟩ := parsed
  obtain ⟨named, measured, valued⟩ := rowErrors_eq_nil clean
  have quantity : ¬ Unread tables (cellOf header values .quantity) := mt decimalText_none.mpr measured
  have either : ReadsAmount tables (cellOf header values .totalPrice) ∨
      ReadsAmount tables (cellOf header values .unitPrice) := by
    by_cases there : total = none
    · exact .inr ((minor_ne_none priced).mp fun gone => valued ⟨there, gone⟩)
    · exact .inl ((minor_ne_none totalled).mp there)
  constructor
  · intro filled
    obtain ⟨text, read⟩ := Option.ne_none_iff_exists'.mp measured
    obtain ⟨number, reads, above, full⟩ := decimalText_some filled read
    refine ⟨number, reads, above, ?_⟩
    show Option.map String.ofList _ = _
    rw [read, full]
    rfl
  · apply (priceStored_iff priced fun _ => rfl).mpr
    intro unread
    exact keeps ⟨named, quantity, .inr ⟨either.resolve_right unread.2, unread⟩⟩
  · have kept : total ≠ none → total.or calculated = total := by
      intro there
      obtain ⟨amount, rfl⟩ := Option.ne_none_iff_exists'.mp there
      rfl
    apply (priceStored_iff totalled kept).mpr
    intro unread
    exact keeps ⟨named, quantity, .inl ⟨either.resolve_left unread.2, unread⟩⟩

/-- An error-free row was understood exactly when none of its price cells is dropped for the other. -/
theorem row_understood_iff (parsed : parseRow tables rowNumber values header = .ok item) :
    (item.errors = [] → Understood tables header values item) ↔ ¬ DropsPrice tables header values := by
  constructor
  · intro understood drops
    have taken := understood (drops.clean parsed)
    rcases drops.price with ⟨_, filled, unread⟩ | ⟨_, filled, unread⟩
    · obtain ⟨number, _, reads, above, _⟩ := taken.totalPrice filled
      exact unread ⟨number, reads, above⟩
    · obtain ⟨number, _, reads, above, _⟩ := taken.unitPrice filled
      exact unread ⟨number, reads, above⟩
  · exact fun keeps clean => understood_of_clean parsed clean keeps

end Reading

/-- Designation, unit price and total, in this order. -/
def pricedHeader : HeaderMap
  | .designation => some 0
  | .unitPrice => some 1
  | .totalPrice => some 2
  | _ => none

def unreadPrice : List Cell := [.text "Pose".toList, .text "abc".toList, .text "10".toList]

def unreadPriceItem : PricingImportRow := ⟨2, none, some "Pose", none, some "1", none, some 1000, []⟩

theorem unreadPrice_row :
    ((unreadPriceItem.errors = [] → Understood asciiTables pricedHeader unreadPrice unreadPriceItem) ↔
      ¬ DropsPrice asciiTables pricedHeader unreadPrice) :=
  have parsed : parseRow asciiTables 2 unreadPrice pricedHeader = .ok unreadPriceItem := rfl
  row_understood_iff parsed

theorem unreadPrice_dropped : ¬ ∀ (tables : UnicodeTables) (header : HeaderMap) (values : List Cell)
    (rowNumber : Nat) (item : PricingImportRow), parseRow tables rowNumber values header = .ok item →
      item.errors = [] → Understood tables header values item := by
  intro understood
  have taken := understood asciiTables pricedHeader unreadPrice 2 unreadPriceItem rfl rfl
  obtain ⟨number, _, ⟨_, parsed⟩, _⟩ := taken.unitPrice rfl
  have unread : cellDecimal asciiTables (cellOf pricedHeader unreadPrice .unitPrice) = none := rfl
  rw [unread] at parsed
  cases parsed

end SmartAo.Pricing
