import SmartAo.Foundation.DecimalValue
import SmartAo.Pricing.PreviewCompleteness

namespace SmartAo.Pricing

open SmartAo.Foundation SmartAo.Platform

/-- An amount in cents, rounded half up. -/
def cents (amount : ℚ) : ℤ := roundHalfUp (100 * amount)

/-- A cell holds a number. -/
def Reads (tables : UnicodeTables) (cell : Cell) (number : Decimal) : Prop :=
  cell.isEmpty = false ∧ cellDecimal tables cell = some number

/-- The context's precision leaves a product exact. -/
def Exact (first second : Decimal) : Prop := first.multiply second = some (first.product second)

instance {first second : Decimal} : Decidable (Exact first second) :=
  inferInstanceAs (Decidable (first.multiply second = some (first.product second)))

/-- The arithmetic of a row is exact. -/
structure ExactRow (quantity unitPrice total : Decimal) : Prop where
  price : Exact unitPrice (.ofNat 100)
  total : Exact total (.ofNat 100)
  amount : Exact quantity.expanded (.ofNat (cents unitPrice.value).toNat)

/-- A row whose total is its quantity times its price, to the cent, is not flagged, and one whose total differs
    from it by a cent or more is. -/
def FlagsMismatch (quantity unitPrice total : ℚ) (item : PricingImportRow) : Prop :=
  (total = (cents (quantity * unitPrice) : ℚ) / 100 → "TOTAL_PRICE_MISMATCH" ∉ item.errors) ∧
    (cents total ≠ cents (quantity * unitPrice) → "TOTAL_PRICE_MISMATCH" ∈ item.errors)

/-- Rounding the price to the cent before it is multiplied makes no difference to the row. -/
def RoundingHarmless (quantity unitPrice total : ℚ) : Prop :=
  roundHalfUp (quantity * cents unitPrice) = cents (quantity * unitPrice) ∨
    (total ≠ (cents (quantity * unitPrice) : ℚ) / 100 ∧ cents total ≠ roundHalfUp (quantity * cents unitPrice))

/-- A negative number counts as none, so that no total is compared. -/
def TotalsAgree (quantity unitPrice total : ℚ) : Prop :=
  if 0 ≤ quantity ∧ 0 ≤ unitPrice ∧ 0 ≤ total then RoundingHarmless quantity unitPrice total
  else cents total = cents (quantity * unitPrice)

section Cells

variable {tables : UnicodeTables} {cell : Cell} {number : Decimal}

theorem decimalText_reads (reads : Reads tables cell number) (default : Option (List Char)) :
    decimalText tables cell default = if 0 ≤ number.value then some number.plain else none := by
  have below : number.belowZero = true ↔ ¬ 0 ≤ number.value := by rw [Decimal.belowZero_iff, not_le]
  rw [decimalText, if_neg (by simp [reads.1]), reads.2, Option.bind_some]
  by_cases nonneg : 0 ≤ number.value
  · rw [if_pos nonneg, if_neg (mt below.mp (not_not.mpr nonneg))]
  · rw [if_neg nonneg, if_pos (below.mpr nonneg)]

theorem product_cents (number : Decimal) : (number.product (.ofNat 100)).integral = cents number.value := by
  rw [Decimal.integral_eq, Decimal.value_product, Decimal.value_ofNat, cents, mul_comm]
  norm_num

theorem minor_reads (reads : Reads tables cell number) (exact : Exact number (.ofNat 100)) :
    minor tables cell = .ok (if 0 ≤ number.value then some (cents number.value).toNat else none) := by
  have below : number.belowZero = true ↔ ¬ 0 ≤ number.value := by rw [Decimal.belowZero_iff, not_le]
  have computed : number.multiply (.ofNat 100) = some (number.product (.ofNat 100)) := exact
  rw [minor, if_neg (by simp [reads.1]), reads.2]
  by_cases nonneg : 0 ≤ number.value
  · rw [if_pos nonneg]
    simp only [if_neg (mt below.mp (not_not.mpr nonneg)), computed, orRaise_some]
    rw [← product_cents]
    rfl
  · rw [if_neg nonneg]
    simp only [if_pos (below.mpr nonneg)]

theorem calculateTotalMinor_reads (reads : Reads tables cell number) {price : Nat}
    (exact : Exact number.expanded (.ofNat price)) :
    calculateTotalMinor tables number.plain price = .ok (roundHalfUp (number.value * price)).toNat := by
  have computed : number.expanded.multiply (.ofNat price) = some (number.expanded.product (.ofNat price)) := exact
  have again := Decimal.parse_plain tables.digit_ascii (Decimal.parse_representable reads.2)
  rw [calculateTotalMinor, again, orRaise_some, bind_of_ok rfl, computed, orRaise_some, bind_of_ok rfl,
    Decimal.integral_eq, Decimal.value_product, Decimal.value_expanded, Decimal.value_ofNat]
  rfl

end Cells

theorem mismatch_mem {designation : Option String} {quantity : Option (List Char)}
    {unitPrice total calculated : Option Nat} :
    "TOTAL_PRICE_MISMATCH" ∈ rowErrors designation quantity unitPrice total calculated ↔
      calculated ≠ none ∧ total ≠ none ∧ total ≠ calculated := by
  simp [rowErrors]

section Rows

variable {tables : UnicodeTables} {header : HeaderMap} {values : List Cell}
  {quantity unitPrice total : Decimal}

theorem cents_nonneg {amount : ℚ} (nonneg : 0 ≤ amount) : 0 ≤ cents amount :=
  roundHalfUp_nonneg (by linarith)

theorem calculatedTotal_reads (readQuantity : Reads tables (cellOf header values .quantity) quantity)
    (exact : ExactRow quantity unitPrice total) :
    calculatedTotal tables (if 0 ≤ quantity.value then some quantity.plain else none)
        (if 0 ≤ unitPrice.value then some (cents unitPrice.value).toNat else none) =
      .ok (if 0 ≤ quantity.value ∧ 0 ≤ unitPrice.value then
        some (roundHalfUp (quantity.value * cents unitPrice.value)).toNat else none) := by
  by_cases priced : 0 ≤ unitPrice.value
  · by_cases measured : 0 ≤ quantity.value
    · have computed := calculateTotalMinor_reads readQuantity exact.amount
      have known : ((cents unitPrice.value).toNat : ℚ) = cents unitPrice.value := by
        exact_mod_cast Int.toNat_of_nonneg (cents_nonneg priced)
      rw [known] at computed
      rw [if_pos priced, if_pos measured, if_pos ⟨measured, priced⟩, calculatedTotal, computed]
      rfl
    · have apart : ¬ (0 ≤ quantity.value ∧ 0 ≤ unitPrice.value) := fun both => measured both.1
      rw [if_neg measured, if_neg apart, if_pos priced]
      rfl
  · have apart : ¬ (0 ≤ quantity.value ∧ 0 ≤ unitPrice.value) := fun both => priced both.2
    rw [if_neg priced, if_neg apart]
    split <;> rfl

theorem parseRow_errors (rowNumber : Nat) {price amount calculated : Option Nat} {text : Option (List Char)}
    (measured : decimalText tables (cellOf header values .quantity) (some ['1']) = text)
    (priced : minor tables (cellOf header values .unitPrice) = .ok price)
    (totalled : minor tables (cellOf header values .totalPrice) = .ok amount)
    (computed : calculatedTotal tables text price = .ok calculated) :
    ∃ item, parseRow tables rowNumber values header = .ok item ∧
      item.errors = rowErrors (cellText (cellOf header values .designation)) text price amount calculated := by
  unfold parseRow
  rw [bind_of_ok priced, bind_of_ok totalled, measured, bind_of_ok computed]
  exact ⟨_, rfl, rfl⟩

theorem toNat_ne {first second : ℤ} (one : 0 ≤ first) (two : 0 ≤ second) : first.toNat ≠ second.toNat ↔ first ≠ second := by
  omega

/-- The error is reported when the three numbers are not negative and the rounded total is not the product of the
    quantity and the rounded price. -/
theorem parseRow_mismatch (rowNumber : Nat) (readQuantity : Reads tables (cellOf header values .quantity) quantity)
    (readPrice : Reads tables (cellOf header values .unitPrice) unitPrice)
    (readTotal : Reads tables (cellOf header values .totalPrice) total) (exact : ExactRow quantity unitPrice total) :
    ∃ item, parseRow tables rowNumber values header = .ok item ∧ ("TOTAL_PRICE_MISMATCH" ∈ item.errors ↔
      (0 ≤ quantity.value ∧ 0 ≤ unitPrice.value ∧ 0 ≤ total.value) ∧
        cents total.value ≠ roundHalfUp (quantity.value * cents unitPrice.value)) := by
  obtain ⟨item, parsed, errors⟩ := parseRow_errors rowNumber (decimalText_reads readQuantity _)
    (minor_reads readPrice exact.price) (minor_reads readTotal exact.total) (calculatedTotal_reads readQuantity exact)
  refine ⟨item, parsed, ?_⟩
  rw [errors, mismatch_mem]
  by_cases both : 0 ≤ quantity.value ∧ 0 ≤ unitPrice.value
  · by_cases totalled : 0 ≤ total.value
    · have product : 0 ≤ roundHalfUp (quantity.value * cents unitPrice.value) :=
        roundHalfUp_nonneg (mul_nonneg both.1 (by exact_mod_cast cents_nonneg both.2))
      rw [if_pos both, if_pos totalled]
      simp only [ne_eq, reduceCtorEq, not_false_eq_true, true_and, Option.some.injEq, both, totalled, and_self]
      exact toNat_ne (cents_nonneg totalled) product
    · rw [if_neg totalled]
      simp [totalled]
  · rw [if_neg both]
    simp only [ne_eq, not_true_eq_false, false_and, false_iff, not_and]
    rintro ⟨measured, priced, _⟩
    exact absurd ⟨measured, priced⟩ both

end Rows

theorem cents_exact (amount : ℤ) : cents ((amount : ℚ) / 100) = amount := by
  have whole : (100 : ℚ) * (amount / 100) = amount := by ring
  rw [cents, whole, roundHalfUp_intCast]

/-- Where no number is negative, the check is right exactly when the early rounding does no harm. -/
theorem roundingHarmless_iff (quantity unitPrice total : ℚ) :
    RoundingHarmless quantity unitPrice total ↔
      (total = (cents (quantity * unitPrice) : ℚ) / 100 → cents total = roundHalfUp (quantity * cents unitPrice)) ∧
        (cents total ≠ cents (quantity * unitPrice) → cents total ≠ roundHalfUp (quantity * cents unitPrice)) := by
  have paid : total = (cents (quantity * unitPrice) : ℚ) / 100 → cents total = cents (quantity * unitPrice) := by
    intro its
    rw [its, cents_exact]
  constructor
  · rintro (same | ⟨unpaid, other⟩)
    · rw [same]
      exact ⟨paid, id⟩
    · exact ⟨fun its => absurd its unpaid, fun _ => other⟩
  · rintro ⟨kept, flagged⟩
    by_cases same : roundHalfUp (quantity * cents unitPrice) = cents (quantity * unitPrice)
    · exact .inl same
    · refine .inr ⟨fun its => same ((kept its).symm.trans (paid its)), fun equal => ?_⟩
      exact flagged (fun its => same (equal.symm.trans its)) equal

/-- The check of a row's total is right exactly when no rounding of the price, and no negative number, gets in its
    way. -/
theorem parseRow_flags {tables : UnicodeTables} {header : HeaderMap} {values : List Cell} (rowNumber : Nat)
    {quantity unitPrice total : Decimal} (readQuantity : Reads tables (cellOf header values .quantity) quantity)
    (readPrice : Reads tables (cellOf header values .unitPrice) unitPrice)
    (readTotal : Reads tables (cellOf header values .totalPrice) total) (exact : ExactRow quantity unitPrice total) :
    ∃ item, parseRow tables rowNumber values header = .ok item ∧
      (FlagsMismatch quantity.value unitPrice.value total.value item ↔
        TotalsAgree quantity.value unitPrice.value total.value) := by
  obtain ⟨item, parsed, flagged⟩ := parseRow_mismatch rowNumber readQuantity readPrice readTotal exact
  refine ⟨item, parsed, ?_⟩
  unfold FlagsMismatch TotalsAgree
  rw [flagged]
  by_cases nonneg : 0 ≤ quantity.value ∧ 0 ≤ unitPrice.value ∧ 0 ≤ total.value
  · rw [if_pos nonneg, roundingHarmless_iff]
    simp only [nonneg, and_self, true_and, ne_eq, not_not]
  · rw [if_neg nonneg]
    simp only [nonneg, false_and, not_false_eq_true, implies_true, true_and, imp_false, not_not, ne_eq]

def pricedColumns : HeaderMap
  | .designation => some 0
  | .quantity => some 1
  | .unitPrice => some 2
  | .totalPrice => some 3
  | _ => none

def pricedRow (quantity unitPrice total : String) : List Cell :=
  [.text "Gravel".toList, .text quantity.toList, .text unitPrice.toList, .text total.toList]

/-- A thousand units at 0.125 make 125, which is flagged. -/
theorem subcent_price_flagged :
    Reads asciiTables (cellOf pricedColumns (pricedRow "1000" "0.125" "125") .quantity) ⟨false, 1000, 0⟩ ∧
      Reads asciiTables (cellOf pricedColumns (pricedRow "1000" "0.125" "125") .unitPrice) ⟨false, 125, -3⟩ ∧
      Reads asciiTables (cellOf pricedColumns (pricedRow "1000" "0.125" "125") .totalPrice) ⟨false, 125, 0⟩ ∧
      ExactRow ⟨false, 1000, 0⟩ ⟨false, 125, -3⟩ ⟨false, 125, 0⟩ ∧
      ∃ item, parseRow asciiTables 2 (pricedRow "1000" "0.125" "125") pricedColumns = .ok item ∧
        ¬ FlagsMismatch (Decimal.value ⟨false, 1000, 0⟩) (Decimal.value ⟨false, 125, -3⟩)
          (Decimal.value ⟨false, 125, 0⟩) item := by
  have price : cents (Decimal.value ⟨false, 125, -3⟩) = 13 := by
    norm_num [cents, roundHalfUp, Decimal.value]
  refine ⟨⟨rfl, by decide⟩, ⟨rfl, by decide⟩, ⟨rfl, by decide⟩, ⟨by decide, by decide, ?_⟩, ?_⟩
  · rw [price]
    decide
  · have parsed : parseRow asciiTables 2 (pricedRow "1000" "0.125" "125") pricedColumns = .ok
        ⟨2, none, some "Gravel", none, some "1000", some 13, some 12500, ["TOTAL_PRICE_MISMATCH"]⟩ := by decide
    refine ⟨_, parsed, fun law => law.1 ?_ (List.mem_singleton.mpr rfl)⟩
    norm_num [cents, roundHalfUp, Decimal.value]

theorem whole_cents_row : ∃ item, parseRow asciiTables 2 (pricedRow "3" "12.50" "37.5") pricedColumns = .ok item ∧
    FlagsMismatch (Decimal.value ⟨false, 3, 0⟩) (Decimal.value ⟨false, 1250, -2⟩) (Decimal.value ⟨false, 375, -1⟩)
      item := by
  have price : cents (Decimal.value ⟨false, 1250, -2⟩) = 1250 := by
    norm_num [cents, roundHalfUp, Decimal.value]
  have exact : ExactRow ⟨false, 3, 0⟩ ⟨false, 1250, -2⟩ ⟨false, 375, -1⟩ := by
    refine ⟨by decide, by decide, ?_⟩
    rw [price]
    decide
  have quantity : Reads asciiTables (cellOf pricedColumns (pricedRow "3" "12.50" "37.5") .quantity) ⟨false, 3, 0⟩ :=
    ⟨rfl, by decide⟩
  obtain ⟨item, parsed, law⟩ := parseRow_flags 2 quantity ⟨rfl, by decide⟩ ⟨rfl, by decide⟩ exact
  refine ⟨item, parsed, law.mpr ?_⟩
  rw [TotalsAgree, if_pos (by norm_num [Decimal.value])]
  left
  norm_num [cents, roundHalfUp, Decimal.value]

end SmartAo.Pricing
