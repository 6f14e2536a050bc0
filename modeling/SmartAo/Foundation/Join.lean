import SmartAo.Foundation.Table
import Mathlib.Data.List.Perm.Subperm

namespace SmartAo.Foundation

/-- Among distinct candidates, as many are found as there are candidates named only when the names
    do not repeat and every one is found. -/
theorem length_eq_iff_of_nodup_subset {α : Type} {found named : List α} (distinct : found.Nodup)
    (among : found ⊆ named) : found.length = named.length ↔ named.Nodup ∧ named ⊆ found := by
  have contained : found.Subperm named := distinct.subperm among
  constructor
  · intro same
    have permuted : found.Perm named := contained.perm_of_length_le (by omega)
    exact ⟨permuted.nodup_iff.mp distinct, permuted.symm.subset⟩
  · rintro ⟨unrepeated, covered⟩
    have fewer := contained.length_le
    have more := (unrepeated.subperm covered).length_le
    omega

namespace Table

variable {ρ κ : Type} [Schema ρ] [Schema κ]

/-- `JOIN`: the pairs of rows on which the condition holds. -/
def join (left : Table ρ) (right : Table κ) (condition : ρ → κ → Bool) : List (ρ × κ) :=
  left.rows.flatMap fun row => (right.rows.filter (condition row)).map fun other => (row, other)

variable {left : Table ρ} {right : Table κ} {condition : ρ → κ → Bool}

theorem mem_join {pair : ρ × κ} : pair ∈ left.join right condition ↔
    pair.1 ∈ left ∧ pair.2 ∈ right ∧ condition pair.1 pair.2 = true := by
  obtain ⟨row, other⟩ := pair
  simp only [join, List.mem_flatMap, List.mem_map, List.mem_filter, Prod.mk.injEq, mem_rows]
  constructor
  · rintro ⟨found, member, partner, ⟨stored, matched⟩, rfl, rfl⟩
    exact ⟨member, stored, matched⟩
  · rintro ⟨member, stored, matched⟩
    exact ⟨row, member, other, ⟨stored, matched⟩, rfl, rfl⟩

/-- A join on a key of the left table and a foreign key of the right one lists no left row twice. -/
theorem join_keys_nodup {γ : Type} {key : ρ → γ}
    (left_key : ∀ {first second : ρ}, key first = key second → Schema.Conflict first second)
    (right_key : ∀ {row : ρ} {first second : κ}, condition row first = true →
      condition row second = true → Schema.Conflict first second) :
    ((left.join right condition).map fun pair => key pair.1).Nodup := by
  rw [List.Nodup, List.pairwise_map, join, List.pairwise_flatMap]
  refine ⟨fun row member => ?_, ?_⟩
  · rw [List.pairwise_map]
    have apart : (right.rows.filter (condition row)).Pairwise fun first second =>
        ¬ Schema.Conflict first second := right.distinct.filter _
    refine apart.imp_of_mem fun {first second} hf hs different => ?_
    exact absurd (right_key (List.mem_filter.mp hf).2 (List.mem_filter.mp hs).2) different
  · refine left.distinct.imp fun {first second} different one isFirst two isSecond same => ?_
    obtain ⟨_, _, rfl⟩ := List.mem_map.mp isFirst
    obtain ⟨_, _, rfl⟩ := List.mem_map.mp isSecond
    exact different (left_key same)

/-- A join in which the selected rows have one partner each lists each of them once. -/
theorem join_filter_map_fst {query : ρ → Bool}
    (single : ∀ row ∈ left, query row = true → ∃ other, right.rows.filter (condition row) = [other]) :
    ((left.join right condition).filter fun pair => query pair.1).map Prod.fst = left.rows.filter query := by
  have listed : ∀ rows : List ρ, (∀ row ∈ rows, row ∈ left) → ((rows.flatMap fun row =>
      (right.rows.filter (condition row)).map fun other => (row, other)).filter fun pair => query pair.1).map
        Prod.fst = rows.filter query := by
    intro rows among
    induction rows with
    | nil => rfl
    | cons row rows ih =>
      have rest := ih fun other member => among other (List.mem_cons_of_mem _ member)
      rw [List.flatMap_cons, List.filter_append, List.map_append, rest]
      cases selected : query row with
      | false => simp [List.filter_map, Function.comp_def, selected]
      | true =>
        obtain ⟨other, partner⟩ := single row (among row List.mem_cons_self) selected
        simp [partner, selected]
  exact listed left.rows fun row member => member

/-- `LEFT OUTER JOIN`: every row with its partners, or once without one. -/
def outerJoin {α : Type} (rows : List α) (right : Table κ) (joins : α → κ → Bool) : List (α × Option κ) :=
  rows.flatMap fun row =>
    match right.rows.filter (joins row) with
    | [] => [(row, none)]
    | partner :: partners => (partner :: partners).map fun other => (row, some other)

/-- Every row of an outer join meets a condition when each row has a partner and all partners meet it. -/
theorem outerJoin_all {α : Type} {rows : List α} {joins : α → κ → Bool} (accepts : α → κ → Prop)
    (unique : ∀ {row : α} {first second : κ}, joins row first = true → joins row second = true →
      Schema.Conflict first second) :
    (∀ pair ∈ outerJoin rows right joins, ∃ other, pair.2 = some other ∧ accepts pair.1 other) ↔
      ∀ row ∈ rows, ∃ other ∈ right, joins row other = true ∧ accepts row other := by
  constructor
  · intro all row listed
    cases partners : right.rows.filter (joins row) with
    | nil =>
      have single : (row, none) ∈ outerJoin rows right joins :=
        List.mem_flatMap.mpr ⟨row, listed, by simp [partners]⟩
      obtain ⟨other, found, _⟩ := all _ single
      cases found
    | cons other rest =>
      have matched : other ∈ right.rows.filter (joins row) := by simp [partners]
      obtain ⟨stored, joined⟩ := List.mem_filter.mp matched
      have first : (row, some other) ∈ outerJoin rows right joins :=
        List.mem_flatMap.mpr ⟨row, listed, by simp [partners]⟩
      obtain ⟨same, found, accepted⟩ := all _ first
      cases found
      exact ⟨other, stored, joined, accepted⟩
  · intro each pair member
    obtain ⟨row, listed, produced⟩ := List.mem_flatMap.mp member
    obtain ⟨other, stored, joined, accepted⟩ := each row listed
    have matched : other ∈ right.rows.filter (joins row) := List.mem_filter.mpr ⟨stored, joined⟩
    cases partners : right.rows.filter (joins row) with
    | nil =>
      rw [partners] at matched
      cases matched
    | cons partner rest =>
      simp only [partners] at produced
      obtain ⟨found, present, rfl⟩ := List.mem_map.mp produced
      rw [← partners] at present
      obtain ⟨foundStored, foundJoined⟩ := List.mem_filter.mp present
      have same : found = other := eq_of_conflict foundStored stored (unique foundJoined joined)
      exact ⟨found, rfl, same ▸ accepted⟩

/-- An outer join on a key of the right table lists every row once. -/
theorem outerJoin_map_fst {α : Type} {rows : List α} {joins : α → κ → Bool}
    (unique : ∀ {row : α} {first second : κ}, joins row first = true → joins row second = true →
      Schema.Conflict first second) : (outerJoin rows right joins).map Prod.fst = rows := by
  induction rows with
  | nil => rfl
  | cons row rows ih =>
    rw [outerJoin, List.flatMap_cons, List.map_append]
    rw [outerJoin] at ih
    rw [ih]
    have apart : (right.rows.filter (joins row)).Pairwise fun first second => ¬ Schema.Conflict first second :=
      right.distinct.filter _
    cases partners : right.rows.filter (joins row) with
    | nil => rfl
    | cons partner others =>
      cases others with
      | nil => rfl
      | cons other rest =>
        have joined (found : κ) (member : found ∈ right.rows.filter (joins row)) : joins row found = true :=
          (List.mem_filter.mp member).2
        have first := joined partner (by simp [partners])
        have second := joined other (by simp [partners])
        rw [partners, List.pairwise_cons] at apart
        exact absurd (unique first second) (apart.1 other List.mem_cons_self)

end Table

end SmartAo.Foundation
