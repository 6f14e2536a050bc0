import SmartAo.Foundation.Guard
import Mathlib.Data.Int.Order.Basic

namespace SmartAo.Pricing

section CostBasis

open SmartAo.Foundation

/-- Financial inputs in integer minor currency units and basis points. -/
structure CostBasisInput where
  salesTotalMinor : Int
  directCostTotalMinor : Int
  overheadTotalMinor : Int
  subcontractingTotalMinor : Int
  contingencyTotalMinor : Int
  penaltyReserveMinor : Int := 0
  retentionReserveMinor : Int := 0
  guaranteeReserveMinor : Int := 0
  targetMarginRateBps : Int := 0
  floorMarginRateBps : Int := 0

def requireNonNegative (fieldName : String) (value : Int) : Except String Unit :=
  raiseIf (value < 0) (fieldName ++ " must be a non-negative integer")

def requireRate (fieldName : String) (value : Int) : Except String Unit :=
  raiseIf (¬ (0 ≤ value ∧ value < 10000)) (fieldName ++ " must be an integer from 0 to 9999")

def CostBasisInput.validate (inputs : CostBasisInput) : Except String Unit := do
  requireNonNegative "sales_total_minor" inputs.salesTotalMinor
  requireNonNegative "direct_cost_total_minor" inputs.directCostTotalMinor
  requireNonNegative "overhead_total_minor" inputs.overheadTotalMinor
  requireNonNegative "subcontracting_total_minor" inputs.subcontractingTotalMinor
  requireNonNegative "contingency_total_minor" inputs.contingencyTotalMinor
  requireNonNegative "penalty_reserve_minor" inputs.penaltyReserveMinor
  requireNonNegative "retention_reserve_minor" inputs.retentionReserveMinor
  requireNonNegative "guarantee_reserve_minor" inputs.guaranteeReserveMinor
  requireRate "target_margin_rate_bps" inputs.targetMarginRateBps
  requireRate "floor_margin_rate_bps" inputs.floorMarginRateBps
  raiseIf (inputs.floorMarginRateBps > inputs.targetMarginRateBps)
    "floor_margin_rate_bps cannot exceed target_margin_rate_bps"

structure CostBasisResult where
  salesTotalMinor : Int
  totalCostMinor : Int
  grossMarginMinor : Int
  grossMarginRateBps : Int
  penaltyReserveMinor : Int
  retentionReserveMinor : Int
  guaranteeReserveMinor : Int
  breakEvenSalesMinor : Int
  floorSalesMinor : Int
  targetSalesMinor : Int
deriving DecidableEq

def minimumSalesForMargin (totalCostMinor marginRateBps : Int) : Int :=
  let denominator := 10000 - marginRateBps
  (totalCostMinor * 10000 + denominator - 1) / denominator

def calculateCostBasis (inputs : CostBasisInput) : Except String CostBasisResult := do
  inputs.validate
  let totalCost := inputs.directCostTotalMinor + inputs.overheadTotalMinor +
    inputs.subcontractingTotalMinor + inputs.contingencyTotalMinor + inputs.penaltyReserveMinor +
    inputs.retentionReserveMinor + inputs.guaranteeReserveMinor
  let grossMargin := inputs.salesTotalMinor - totalCost
  return {
    salesTotalMinor := inputs.salesTotalMinor
    totalCostMinor := totalCost
    grossMarginMinor := grossMargin
    grossMarginRateBps :=
      if inputs.salesTotalMinor = 0 then 0 else grossMargin * 10000 / inputs.salesTotalMinor
    penaltyReserveMinor := inputs.penaltyReserveMinor
    retentionReserveMinor := inputs.retentionReserveMinor
    guaranteeReserveMinor := inputs.guaranteeReserveMinor
    breakEvenSalesMinor := totalCost
    floorSalesMinor := minimumSalesForMargin totalCost inputs.floorMarginRateBps
    targetSalesMinor := minimumSalesForMargin totalCost inputs.targetMarginRateBps }

structure PricingScenarioAmounts where
  salesTotalMinor : Int
  totalCostMinor : Int
  grossMarginMinor : Int
  grossMarginRateBps : Int

def calculatePricingScenarioAmounts (salesTotalMinor directCostTotalMinor overheadTotalMinor
    subcontractingTotalMinor contingencyTotalMinor salesAdjustmentBps costAdjustmentBps : Int) :
    Except String PricingScenarioAmounts := do
  let sales := salesTotalMinor * (10000 + salesAdjustmentBps) / 10000
  let baseCosts := directCostTotalMinor + overheadTotalMinor + subcontractingTotalMinor +
    contingencyTotalMinor
  let costs := baseCosts * (10000 + costAdjustmentBps) / 10000
  let basis ← calculateCostBasis {
    salesTotalMinor := sales, directCostTotalMinor := costs, overheadTotalMinor := 0,
    subcontractingTotalMinor := 0, contingencyTotalMinor := 0 }
  return {
    salesTotalMinor := sales
    totalCostMinor := costs
    grossMarginMinor := basis.grossMarginMinor
    grossMarginRateBps := basis.grossMarginRateBps }

end CostBasis

section MinimumSales

open SmartAo.Foundation

section Rounding

variable {amount sales cost rate : Int}

/-- A quotient rounded up is reached where the product is. -/
theorem roundedUp_le_iff {denominator : Int} (positive : 0 < denominator) :
    (amount + denominator - 1) / denominator ≤ sales ↔ amount ≤ sales * denominator := by
  have next : (sales + 1) * denominator = sales * denominator + denominator := by rw [Int.add_mul, Int.one_mul]
  rw [← Int.lt_add_one_iff, Int.ediv_lt_iff_lt_mul positive, next]
  omega

theorem minimumSalesForMargin_le_iff (admitted : rate < 10000) :
    minimumSalesForMargin cost rate ≤ sales ↔ cost * 10000 ≤ sales * (10000 - rate) := by
  have positive : 0 < 10000 - rate := by omega
  exact roundedUp_le_iff positive

/-- A margin rate, rounded down, reaches a whole rate where the margin does. -/
theorem marginRate_ge_iff (positive : 0 < sales) :
    rate ≤ (sales - cost) * 10000 / sales ↔ cost * 10000 ≤ sales * (10000 - rate) := by
  have margin : (sales - cost) * 10000 = sales * 10000 - cost * 10000 := Int.sub_mul ..
  have share : sales * (10000 - rate) = sales * 10000 - rate * sales := by rw [Int.mul_sub, Int.mul_comm sales rate]
  rw [Int.le_ediv_iff_mul_le positive, margin, share]
  omega

theorem minimumSalesForMargin_nonneg (valid : 0 ≤ cost) (admitted : rate < 10000) :
    0 ≤ minimumSalesForMargin cost rate := by
  apply Int.ediv_nonneg
  · omega
  · omega

/-- The least sales cover their cost, whatever the margin asked for. -/
theorem minimumSalesForMargin_ge (valid : 0 ≤ cost) (asked : 0 ≤ rate) (admitted : rate < 10000) :
    cost ≤ minimumSalesForMargin cost rate := by
  have least := (minimumSalesForMargin_le_iff admitted).mp (Int.le_refl (minimumSalesForMargin cost rate))
  have nonneg := minimumSalesForMargin_nonneg valid admitted
  have kept : 0 ≤ minimumSalesForMargin cost rate * rate := Int.mul_nonneg nonneg asked
  rw [Int.mul_sub] at least
  omega

/-- A greater margin asks for no lesser sales. -/
theorem minimumSalesForMargin_mono {floor target : Int} (valid : 0 ≤ cost) (le : floor ≤ target)
    (admitted : target < 10000) : minimumSalesForMargin cost floor ≤ minimumSalesForMargin cost target := by
  have below : floor < 10000 := by omega
  rw [minimumSalesForMargin_le_iff below]
  have least := (minimumSalesForMargin_le_iff admitted).mp (Int.le_refl (minimumSalesForMargin cost target))
  have nonneg := minimumSalesForMargin_nonneg valid admitted
  have wider : minimumSalesForMargin cost target * (10000 - target) ≤
      minimumSalesForMargin cost target * (10000 - floor) := Int.mul_le_mul_of_nonneg_left (by omega) nonneg
  exact Int.le_trans least wider

end Rounding

section Valid

variable {inputs : CostBasisInput}

/-- What validation checks. -/
structure ValidBasis (inputs : CostBasisInput) : Prop where
  sales : 0 ≤ inputs.salesTotalMinor
  costs : 0 ≤ inputs.directCostTotalMinor ∧ 0 ≤ inputs.overheadTotalMinor ∧ 0 ≤ inputs.subcontractingTotalMinor ∧
    0 ≤ inputs.contingencyTotalMinor
  reserves : 0 ≤ inputs.penaltyReserveMinor ∧ 0 ≤ inputs.retentionReserveMinor ∧ 0 ≤ inputs.guaranteeReserveMinor
  target : 0 ≤ inputs.targetMarginRateBps ∧ inputs.targetMarginRateBps < 10000
  floor : 0 ≤ inputs.floorMarginRateBps ∧ inputs.floorMarginRateBps < 10000
  ordered : inputs.floorMarginRateBps ≤ inputs.targetMarginRateBps

theorem validate_ok : inputs.validate = .ok () ↔ ValidBasis inputs := by
  simp only [CostBasisInput.validate, requireNonNegative, requireRate, bind_ok, raiseIf_ok, exists_unit, not_lt, not_not,
    gt_iff_lt]
  constructor
  · rintro ⟨sales, direct, overhead, subcontracting, contingency, penalty, retention, guarantee, target, floor, ordered⟩
    exact ⟨sales, ⟨direct, overhead, subcontracting, contingency⟩, ⟨penalty, retention, guarantee⟩, target, floor, ordered⟩
  · intro valid
    exact ⟨valid.sales, valid.costs.1, valid.costs.2.1, valid.costs.2.2.1, valid.costs.2.2.2, valid.reserves.1,
      valid.reserves.2.1, valid.reserves.2.2, valid.target, valid.floor, valid.ordered⟩

def CostBasisInput.totalCost (inputs : CostBasisInput) : Int :=
  inputs.directCostTotalMinor + inputs.overheadTotalMinor + inputs.subcontractingTotalMinor +
    inputs.contingencyTotalMinor + inputs.penaltyReserveMinor + inputs.retentionReserveMinor +
    inputs.guaranteeReserveMinor

theorem ValidBasis.totalCost_nonneg (valid : ValidBasis inputs) : 0 ≤ inputs.totalCost := by
  have costs := valid.costs
  have reserves := valid.reserves
  rw [CostBasisInput.totalCost]
  omega

/-- What a valid basis is calculated to. -/
def CostBasisInput.result (inputs : CostBasisInput) : CostBasisResult where
  salesTotalMinor := inputs.salesTotalMinor
  totalCostMinor := inputs.totalCost
  grossMarginMinor := inputs.salesTotalMinor - inputs.totalCost
  grossMarginRateBps :=
    if inputs.salesTotalMinor = 0 then 0
    else (inputs.salesTotalMinor - inputs.totalCost) * 10000 / inputs.salesTotalMinor
  penaltyReserveMinor := inputs.penaltyReserveMinor
  retentionReserveMinor := inputs.retentionReserveMinor
  guaranteeReserveMinor := inputs.guaranteeReserveMinor
  breakEvenSalesMinor := inputs.totalCost
  floorSalesMinor := minimumSalesForMargin inputs.totalCost inputs.floorMarginRateBps
  targetSalesMinor := minimumSalesForMargin inputs.totalCost inputs.targetMarginRateBps

theorem calculateCostBasis_ok {result : CostBasisResult} :
    calculateCostBasis inputs = .ok result ↔ ValidBasis inputs ∧ inputs.result = result := by
  rw [← validate_ok, calculateCostBasis, bind_ok, exists_unit, pure_ok]
  rfl

end Valid

/-- The least sales of a valid cost basis are exact for every margin rate, and grow with the rates. -/
theorem minimum_sales_exact (inputs : CostBasisInput) (valid : inputs.validate = .ok ()) :
    ∃ result, calculateCostBasis inputs = .ok result ∧
      (0 < inputs.salesTotalMinor → ∀ rate, 0 ≤ rate → rate < 10000 →
        (rate ≤ result.grossMarginRateBps ↔
          minimumSalesForMargin result.totalCostMinor rate ≤ inputs.salesTotalMinor)) ∧
      result.breakEvenSalesMinor ≤ result.floorSalesMinor ∧ result.floorSalesMinor ≤ result.targetSalesMinor := by
  have basis := validate_ok.mp valid
  have nonneg := basis.totalCost_nonneg
  refine ⟨inputs.result, calculateCostBasis_ok.mpr ⟨basis, rfl⟩, ?_, ?_, ?_⟩
  · intro positive rate _ admitted
    have rated : inputs.result.grossMarginRateBps =
        (inputs.salesTotalMinor - inputs.totalCost) * 10000 / inputs.salesTotalMinor := if_neg (by omega)
    have spent : inputs.result.totalCostMinor = inputs.totalCost := rfl
    rw [rated, spent, marginRate_ge_iff positive, minimumSalesForMargin_le_iff admitted]
  · exact minimumSalesForMargin_ge nonneg basis.floor.1 basis.floor.2
  · exact minimumSalesForMargin_mono nonneg basis.ordered basis.target.2

theorem minimum_sales_exact_example : ∃ result,
    calculateCostBasis ⟨1000, 600, 100, 0, 50, 10, 20, 30, 2000, 1500⟩ = .ok result ∧
      ((0 : Int) < 1000 → ∀ rate : Int, 0 ≤ rate → rate < 10000 →
        (rate ≤ result.grossMarginRateBps ↔ minimumSalesForMargin result.totalCostMinor rate ≤ 1000)) ∧
      result.breakEvenSalesMinor ≤ result.floorSalesMinor ∧ result.floorSalesMinor ≤ result.targetSalesMinor :=
  minimum_sales_exact ⟨1000, 600, 100, 0, 50, 10, 20, 30, 2000, 1500⟩ rfl

end MinimumSales

end SmartAo.Pricing
