import Mathlib.Algebra.BigOperators.Fin
import Mathlib.Order.WellFounded

namespace SmartAo.Foundation

variable {ι α : Type}

/-- A weighted sum of variables that are zero or one. -/
abbrev LinearSum (ι : Type) := List (Nat × ι)

def LinearSum.value (values : ι → Bool) (sum : LinearSum ι) : Nat :=
  (sum.map fun term => if values term.2 then term.1 else 0).sum

/-- Sums that are to equal a number, sums that are not to exceed one, and the sum to be least. -/
structure ZeroOneModel (ι : Type) where
  equalities : List (LinearSum ι × Nat)
  bounds : List (LinearSum ι × Nat)
  objective : LinearSum ι

structure ZeroOneModel.Satisfies (model : ZeroOneModel ι) (values : ι → Bool) : Prop where
  equal : ∀ equality ∈ model.equalities, equality.1.value values = equality.2
  bounded : ∀ bound ∈ model.bounds, bound.1.value values ≤ bound.2

structure ZeroOneModel.Optimal (model : ZeroOneModel ι) (values : ι → Bool) : Prop where
  satisfies : model.Satisfies values
  least : ∀ other, model.Satisfies other → model.objective.value values ≤ model.objective.value other

namespace LinearSum

variable {values : ι → Bool}

theorem value_flatMap (items : List α) (terms : α → LinearSum ι) :
    LinearSum.value values (items.flatMap terms) = (items.map fun item => (terms item).value values).sum := by
  induction items with
  | nil => rfl
  | cons item items ih =>
    rw [List.flatMap_cons, List.map_cons, List.sum_cons, ← ih]
    simp [LinearSum.value]

theorem value_map (items : List α) (term : α → Nat × ι) :
    LinearSum.value values (items.map term) =
      (items.map fun item => if values (term item).2 then (term item).1 else 0).sum := by
  simp [LinearSum.value, Function.comp_def]

end LinearSum

theorem sum_range_map (count : Nat) (value : Nat → Nat) :
    ((List.range count).map value).sum = ∑ index : Fin count, value index := by
  have listed : (List.range count).map value = List.ofFn fun index : Fin count => value index := by
    apply List.ext_getElem
    · simp
    · intro index _ _
      simp
  rw [listed, List.sum_ofFn]

theorem sum_zipIdx_map (items : List α) (value : α × Nat → Nat) :
    (items.zipIdx.map value).sum = ∑ index : Fin items.length, value (items[index], index.val) := by
  have listed : items.zipIdx.map value = List.ofFn fun index : Fin items.length => value (items[index], index.val) := by
    apply List.ext_getElem
    · simp
    · intro index _ _
      simp
  rw [listed, List.sum_ofFn]

end SmartAo.Foundation
