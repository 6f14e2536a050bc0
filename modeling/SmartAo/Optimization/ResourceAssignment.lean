import SmartAo.Foundation.Dict
import SmartAo.Foundation.Guard
import SmartAo.Foundation.ZeroOne
import SmartAo.Platform.Command

namespace SmartAo.Optimization

section Assignment

open SmartAo.Foundation SmartAo.Platform

inductive SolverStatus where
  | optimal
  | feasible
  | infeasible
  | unknown
  | modelInvalid
deriving DecidableEq

def SolverStatus.value : SolverStatus → String
  | optimal => "OPTIMAL"
  | feasible => "FEASIBLE"
  | infeasible => "INFEASIBLE"
  | unknown => "UNKNOWN"
  | modelInvalid => "MODEL_INVALID"

structure ResourceDemand where
  id : Uuid
  requiredUnits : Nat
  positive : 1 ≤ requiredUnits
deriving DecidableEq

structure ResourceSupply where
  id : Uuid
  capacityUnits : Nat
  positive : 1 ≤ capacityUnits
deriving DecidableEq

structure ResourceAssignmentResult where
  status : SolverStatus
  solverId : String
  assignments : Dict Uuid Uuid
  unassignedDemandIds : List Uuid

def solverId : String := "google-ortools-cp-sat"

/-- What CP-SAT reports of a model: the mapped status and the values of the variables. -/
structure SolverAnswer where
  status : SolverStatus
  values : Nat × Nat → Bool

/-- The variables of one demand, each with the weight a supply has by its position. -/
def demandSum (supplies : List ResourceSupply) (weight : Nat → Nat) (demandIndex : Nat) : LinearSum (Nat × Nat) :=
  (List.range supplies.length).map fun supplyIndex => (weight supplyIndex, (demandIndex, supplyIndex))

/-- The units every demand would take of one supply. -/
def supplySum (demands : List ResourceDemand) (supplyIndex : Nat) : LinearSum (Nat × Nat) :=
  demands.zipIdx.map fun entry => (entry.1.requiredUnits, (entry.2, supplyIndex))

def assignmentModel (demands : List ResourceDemand) (supplies : List ResourceSupply) : ZeroOneModel (Nat × Nat) where
  equalities := (List.range demands.length).map fun demandIndex => (demandSum supplies (fun _ => 1) demandIndex, 1)
  bounds := supplies.zipIdx.map fun entry => (supplySum demands entry.2, entry.1.capacityUnits)
  objective := (List.range demands.length).flatMap (demandSum supplies (· + 1))

def assignedPairs (demands : List ResourceDemand) (supplies : List ResourceSupply) (values : Nat × Nat → Bool) :
    List (Uuid × Uuid) :=
  demands.zipIdx.flatMap fun demand =>
    (supplies.zipIdx.filter fun supply => values (demand.2, supply.2)).map fun supply => (demand.1.id, supply.1.id)

def unassigned (demands : List ResourceDemand) (assignments : Dict Uuid Uuid) : List Uuid :=
  (demands.map (·.id)).filter fun id => assignments.get id = none

def solved (demands : List ResourceDemand) (supplies : List ResourceSupply) (answer : SolverAnswer) :
    ResourceAssignmentResult :=
  if answer.status = .optimal ∨ answer.status = .feasible then
    let assignments := Dict.ofEntries (assignedPairs demands supplies answer.values)
    ⟨answer.status, solverId, assignments, unassigned demands assignments⟩
  else ⟨answer.status, solverId, .empty, demands.map (·.id)⟩

def solve (solver : ZeroOneModel (Nat × Nat) → SolverAnswer) (demands : List ResourceDemand)
    (supplies : List ResourceSupply) : Except String ResourceAssignmentResult := do
  raiseIf (¬ (demands.map (·.id)).Nodup) "demand ids must be unique"
  raiseIf (¬ (supplies.map (·.id)).Nodup) "supply ids must be unique"
  if demands = [] then return ⟨.optimal, solverId, .empty, []⟩
  else if supplies = [] then return ⟨.infeasible, solverId, .empty, demands.map (·.id)⟩
  else return solved demands supplies (solver (assignmentModel demands supplies))

end Assignment

section Ties

open SmartAo.Foundation SmartAo.Platform

/-- One supply for each demand, by their positions. -/
abbrev Choice (demands : List ResourceDemand) (supplies : List ResourceSupply) :=
  Fin demands.length → Fin supplies.length

section Choices

variable {demands : List ResourceDemand} {supplies : List ResourceSupply}

/-- No supply gives more than its capacity. -/
def Choice.Fits (choice : Choice demands supplies) : Prop :=
  ∀ supply : Fin supplies.length,
    ∑ demand, (if choice demand = supply then demands[demand].requiredUnits else 0) ≤ supplies[supply].capacityUnits

instance {choice : Choice demands supplies} : Decidable choice.Fits :=
  inferInstanceAs (Decidable (∀ _ : Fin supplies.length, _ ≤ _))

/-- The sum of the positions of the supplies, from one. -/
def Choice.positions (choice : Choice demands supplies) : Nat := ∑ demand, ((choice demand).val + 1)

/-- A choice within the capacities whose sum of positions is least. -/
structure Choice.Least (choice : Choice demands supplies) : Prop where
  fits : choice.Fits
  least : ∀ other : Choice demands supplies, other.Fits → choice.positions ≤ other.positions

/-- The values of the variables pick the supplies of a choice. -/
def Choice.Picked (choice : Choice demands supplies) (values : Nat × Nat → Bool) : Prop :=
  ∀ (demand : Fin demands.length) (supply : Fin supplies.length),
    values (demand, supply) = true ↔ choice demand = supply

def Choice.values (choice : Choice demands supplies) (variable_ : Nat × Nat) : Bool :=
  if inside : variable_.1 < demands.length then (choice ⟨variable_.1, inside⟩).val = variable_.2 else false

end Choices

/-- Each demand has one supply, no supply gives more than its capacity, and no demand is left. -/
structure Covers (demands : List ResourceDemand) (supplies : List ResourceSupply)
    (result : ResourceAssignmentResult) : Prop where
  status : result.status = .optimal
  keys : result.assignments.entries.map Prod.fst = demands.map (·.id)
  supplied : ∀ entry ∈ result.assignments.entries, ∃ supply ∈ supplies, entry.2 = supply.id
  capacity : ∀ supply ∈ supplies, (demands.map fun demand =>
    if result.assignments.get demand.id = some supply.id then demand.requiredUnits else 0).sum ≤ supply.capacityUnits
  unassigned : result.unassignedDemandIds = []

/-- An answer that reports an optimal solution of the model. -/
structure Reported (demands : List ResourceDemand) (supplies : List ResourceSupply) (answer : SolverAnswer) : Prop where
  status : answer.status = .optimal
  optimal : (assignmentModel demands supplies).Optimal answer.values

/-- Whichever optimal solution is reported, the demands are covered, by the same assignment. -/
structure Deterministic (demands : List ResourceDemand) (supplies : List ResourceSupply) : Prop where
  covers : ∀ answer, Reported demands supplies answer →
    ∃ result, solve (fun _ => answer) demands supplies = .ok result ∧ Covers demands supplies result
  same : ∀ answer other, Reported demands supplies answer → Reported demands supplies other →
    solve (fun _ => answer) demands supplies = solve (fun _ => other) demands supplies

section Model

variable {demands : List ResourceDemand} {supplies : List ResourceSupply} {values : Nat × Nat → Bool}
  {choice : Choice demands supplies}

theorem demandSum_value (weight : Nat → Nat) (demand : Nat) : (demandSum supplies weight demand).value values =
    ∑ supply : Fin supplies.length, if values (demand, supply) then weight supply else 0 := by
  rw [demandSum, LinearSum.value_map, sum_range_map]

theorem supplySum_value (supply : Nat) : (supplySum demands supply).value values =
    ∑ demand : Fin demands.length, if values (demand, supply) then demands[demand].requiredUnits else 0 := by
  rw [supplySum, LinearSum.value_map, sum_zipIdx_map]

theorem objective_value : (assignmentModel demands supplies).objective.value values =
    ∑ demand : Fin demands.length, ∑ supply : Fin supplies.length,
      if values (demand, supply) then supply.val + 1 else 0 := by
  rw [assignmentModel, LinearSum.value_flatMap, sum_range_map]
  simp only [demandSum_value]

theorem picked_values : choice.Picked choice.values := by
  intro demand supply
  unfold Choice.values
  rw [dif_pos demand.isLt, decide_eq_true_eq, Fin.ext_iff]

theorem ite_picked (picked : choice.Picked values) (demand : Fin demands.length) (supply : Fin supplies.length)
    (amount : Nat) : (if values (demand, supply) then amount else 0) = if choice demand = supply then amount else 0 := by
  by_cases chosen : choice demand = supply
  · rw [if_pos chosen, if_pos ((picked demand supply).mpr chosen)]
  · rw [if_neg chosen, if_neg (mt (picked demand supply).mp chosen)]

theorem picked_sum (picked : choice.Picked values) (weight : Nat → Nat) (demand : Fin demands.length) :
    (∑ supply : Fin supplies.length, if values (demand, supply) then weight supply else 0) =
      weight (choice demand) := by
  rw [Finset.sum_congr rfl fun supply _ => ite_picked picked demand supply (weight supply), Finset.sum_ite_eq,
    if_pos (Finset.mem_univ _)]

/-- Values under which each demand has one supply pick a choice. -/
theorem exists_picked (one : ∀ demand : Fin demands.length,
      (∑ supply : Fin supplies.length, if values (demand, supply) then 1 else 0) = 1) :
    ∃ choice : Choice demands supplies, choice.Picked values := by
  have each : ∀ demand : Fin demands.length, ∃ supply : Fin supplies.length, ∀ other : Fin supplies.length,
      values (demand, other) = true ↔ supply = other := by
    intro demand
    have counted : (Finset.univ.filter fun supply : Fin supplies.length => values (demand, supply) = true).card = 1 := by
      rw [Finset.card_filter]
      exact one demand
    obtain ⟨supply, only⟩ := Finset.card_eq_one.mp counted
    refine ⟨supply, fun other => ?_⟩
    have member : other ∈ Finset.univ.filter (fun supply : Fin supplies.length => values (demand, supply) = true) ↔
        other = supply := by rw [only, Finset.mem_singleton]
    rw [Finset.mem_filter, and_iff_right (Finset.mem_univ _)] at member
    rw [member]
    exact eq_comm
  choose choice picked using each
  exact ⟨choice, picked⟩

theorem satisfies_of_picked (picked : choice.Picked values) :
    (assignmentModel demands supplies).Satisfies values ↔ choice.Fits := by
  have loads : ∀ supply : Fin supplies.length, (supplySum demands supply).value values =
      ∑ demand, if choice demand = supply then demands[demand].requiredUnits else 0 := by
    intro supply
    rw [supplySum_value]
    exact Finset.sum_congr rfl fun demand _ => ite_picked picked demand supply _
  constructor
  · intro satisfied supply
    have bound := satisfied.bounded (supplySum demands supply, supplies[supply].capacityUnits)
      (List.mem_map.mpr ⟨(supplies[supply], supply.val), by simp [List.mk_mem_zipIdx_iff_getElem?], rfl⟩)
    rw [loads] at bound
    exact bound
  · intro fits
    constructor
    · intro equality member
      obtain ⟨demand, inside, rfl⟩ := List.mem_map.mp member
      rw [demandSum_value]
      exact picked_sum picked (fun _ => 1) ⟨demand, List.mem_range.mp inside⟩
    · intro bound member
      obtain ⟨⟨supply, index⟩, listed, rfl⟩ := List.mem_map.mp member
      obtain ⟨inside, same⟩ := List.mem_zipIdx' listed
      have load := fits ⟨index, inside⟩
      rw [← loads ⟨index, inside⟩] at load
      rw [same]
      exact load

theorem objective_of_picked (picked : choice.Picked values) :
    (assignmentModel demands supplies).objective.value values = choice.positions := by
  rw [objective_value, Choice.positions]
  exact Finset.sum_congr rfl fun demand _ => picked_sum picked (· + 1) demand

theorem Satisfies.picked (satisfied : (assignmentModel demands supplies).Satisfies values) :
    ∃ choice : Choice demands supplies, choice.Picked values := by
  apply exists_picked
  intro demand
  have one := satisfied.equal (demandSum supplies (fun _ => 1) demand, 1)
    (List.mem_map.mpr ⟨demand, List.mem_range.mpr demand.isLt, rfl⟩)
  rw [demandSum_value] at one
  exact one

/-- The optimal solutions of the model are the values of the least choices. -/
theorem optimal_of_picked (picked : choice.Picked values) :
    (assignmentModel demands supplies).Optimal values ↔ choice.Least := by
  constructor
  · intro optimal
    refine ⟨(satisfies_of_picked picked).mp optimal.satisfies, fun other fits => ?_⟩
    have below := optimal.least _ ((satisfies_of_picked picked_values).mpr fits)
    rw [objective_of_picked picked, objective_of_picked picked_values] at below
    exact below
  · intro least
    refine ⟨(satisfies_of_picked picked).mpr least.fits, fun other satisfied => ?_⟩
    obtain ⟨another, taken⟩ := Satisfies.picked satisfied
    rw [objective_of_picked picked, objective_of_picked taken]
    exact least.least another ((satisfies_of_picked taken).mp satisfied)

end Model

section Results

variable {demands : List ResourceDemand} {supplies : List ResourceSupply} {answer : SolverAnswer}
  {choice other : Choice demands supplies}

/-- The one entry of a list whose index is picked. -/
theorem filter_zipIdx {α : Type} {items : List α} {start index : Nat} {wanted : Nat → Bool} (inside : index < items.length)
    (only : ∀ position, position < items.length → (wanted (start + position) = true ↔ position = index)) :
    (items.zipIdx start).filter (fun entry => wanted entry.2) = [(items[index], start + index)] := by
  induction items generalizing start index with
  | nil => cases inside
  | cons item items ih =>
    rw [List.zipIdx_cons]
    have head := only 0 (Nat.zero_lt_succ _)
    rw [Nat.add_zero] at head
    cases index with
    | zero =>
      have none : (items.zipIdx (start + 1)).filter (fun entry => wanted entry.2) = [] := by
        apply List.filter_eq_nil_iff.mpr
        rintro ⟨other, position⟩ member
        obtain ⟨above, below, _⟩ := List.mem_zipIdx member
        have later := only (position - start) (by rw [List.length_cons]; omega)
        rw [show start + (position - start) = position by omega] at later
        rw [later]
        omega
      rw [List.filter_cons, if_pos (head.mpr rfl), none]
      rfl
    | succ index =>
      rw [List.filter_cons, if_neg (mt head.mp (by omega)), ih (Nat.lt_of_succ_lt_succ inside)]
      · rw [show start + 1 + index = start + (index + 1) by omega]
        rfl
      · intro position below
        have later := only (position + 1) (Nat.succ_lt_succ below)
        rw [show start + 1 + position = start + (position + 1) by omega, later]
        omega

/-- The supply of the demand at a position. -/
def Choice.supplyId (choice : Choice demands supplies) (index : Nat) : Uuid :=
  if inside : index < demands.length then supplies[choice ⟨index, inside⟩].id else 0

def Choice.pairs (choice : Choice demands supplies) : List (Uuid × Uuid) :=
  demands.zipIdx.map fun demand => (demand.1.id, choice.supplyId demand.2)

theorem Choice.keys (choice : Choice demands supplies) : choice.pairs.map Prod.fst = demands.map (·.id) := by
  have firsts : demands.zipIdx.map (fun demand => demand.1.id) = (demands.zipIdx.map Prod.fst).map (·.id) := by
    rw [List.map_map]
    rfl
  rw [List.zipIdx_map_fst] at firsts
  rw [Choice.pairs, List.map_map]
  exact firsts

theorem Choice.mem_pairs (choice : Choice demands supplies) (demand : Fin demands.length) :
    (demands[demand].id, supplies[choice demand].id) ∈ choice.pairs := by
  refine List.mem_map.mpr ⟨(demands[demand], demand.val), by simp [List.mk_mem_zipIdx_iff_getElem?], ?_⟩
  rw [Choice.supplyId, dif_pos demand.isLt]

theorem assignedPairs_picked {values : Nat × Nat → Bool} (picked : choice.Picked values) :
    assignedPairs demands supplies values = choice.pairs := by
  have each : ∀ demand ∈ demands.zipIdx, ((supplies.zipIdx.filter fun supply => values (demand.2, supply.2)).map
      fun supply => (demand.1.id, supply.1.id)) = [(demand.1.id, choice.supplyId demand.2)] := by
    rintro ⟨demand, index⟩ member
    obtain ⟨inside, _⟩ := List.mem_zipIdx' member
    have only : ∀ position, position < supplies.length →
        (values (index, 0 + position) = true ↔ position = (choice ⟨index, inside⟩).val) := by
      intro position below
      rw [Nat.zero_add]
      have chosen := picked ⟨index, inside⟩ ⟨position, below⟩
      rw [Fin.ext_iff] at chosen
      rw [show values (index, position) = values ((⟨index, inside⟩ : Fin demands.length), position) from rfl]
      exact chosen.trans eq_comm
    have alone := @filter_zipIdx _ supplies 0 _ (fun position => values (index, position)) (choice ⟨index, inside⟩).isLt only
    rw [alone, Choice.supplyId, dif_pos inside]
    rfl
  rw [assignedPairs, List.flatMap_congr each, Choice.pairs, List.map_eq_flatMap]

def Choice.assignments (choice : Choice demands supplies) : Dict Uuid Uuid := Dict.ofEntries choice.pairs

def Choice.result (choice : Choice demands supplies) : ResourceAssignmentResult :=
  ⟨.optimal, solverId, choice.assignments, []⟩

theorem Choice.entries (choice : Choice demands supplies) (distinct : (demands.map (·.id)).Nodup) :
    choice.assignments.entries = choice.pairs := by
  apply Dict.ofEntries_entries
  rw [choice.keys]
  exact distinct

theorem Choice.get (choice : Choice demands supplies) (distinct : (demands.map (·.id)).Nodup)
    (demand : Fin demands.length) : choice.assignments.get demands[demand].id = some supplies[choice demand].id := by
  rw [Dict.get_eq_some, choice.entries distinct]
  exact choice.mem_pairs demand

theorem Choice.assigns_all (choice : Choice demands supplies) (distinct : (demands.map (·.id)).Nodup) :
    unassigned demands choice.assignments = [] := by
  apply List.filter_eq_nil_iff.mpr
  intro id member
  obtain ⟨demand, listed, rfl⟩ := List.mem_map.mp member
  obtain ⟨index, inside, rfl⟩ := List.mem_iff_getElem.mp listed
  have found := choice.get distinct ⟨index, inside⟩
  simp only [Fin.getElem_fin] at found
  simp [found]

/-- What `solve` makes of an answer that picks a choice. -/
theorem solve_picked (distinct : (demands.map (·.id)).Nodup) (apart : (supplies.map (·.id)).Nodup)
    (status : answer.status = .optimal) (picked : choice.Picked answer.values) :
    solve (fun _ => answer) demands supplies = .ok choice.result := by
  rw [solve, bind_of_ok (raiseIf_pass (not_not.mpr distinct)), bind_of_ok (raiseIf_pass (not_not.mpr apart))]
  have made : solved demands supplies answer = choice.result := by
    rw [solved, if_pos (.inl status), assignedPairs_picked picked, status]
    show ResourceAssignmentResult.mk _ _ choice.assignments (SmartAo.Optimization.unassigned demands choice.assignments) = _
    rw [choice.assigns_all distinct]
    rfl
  by_cases none : demands = []
  · subst none
    rw [if_pos rfl]
    rfl
  · by_cases empty : supplies = []
    · subst empty
      exact (choice ⟨0, List.length_pos_of_ne_nil none⟩).elim0
    · rw [if_neg none, if_neg empty, made]
      rfl

theorem supply_index (apart : (supplies.map (·.id)).Nodup) {first second : Fin supplies.length} :
    supplies[first].id = supplies[second].id ↔ first = second := by
  constructor
  · intro same
    have mapped : (supplies.map (·.id)).get ⟨first, by simp⟩ = (supplies.map (·.id)).get ⟨second, by simp⟩ := by
      simpa using same
    have positions := apart.get_inj_iff.mp mapped
    exact Fin.ext (congrArg (·.val) positions)
  · rintro rfl
    rfl

theorem Choice.Least.covers (least : choice.Least) (distinct : (demands.map (·.id)).Nodup)
    (apart : (supplies.map (·.id)).Nodup) : Covers demands supplies choice.result where
  status := rfl
  keys := by
    show choice.assignments.entries.map Prod.fst = _
    rw [choice.entries distinct, choice.keys]
  supplied := by
    intro entry member
    have listed : entry ∈ choice.assignments.entries := member
    rw [choice.entries distinct] at listed
    obtain ⟨⟨demand, index⟩, inside, rfl⟩ := List.mem_map.mp listed
    have below := (List.mem_zipIdx' inside).1
    refine ⟨supplies[choice ⟨index, below⟩], List.getElem_mem _, ?_⟩
    show choice.supplyId index = _
    rw [Choice.supplyId, dif_pos below]
  capacity := by
    intro supply member
    obtain ⟨index, inside, rfl⟩ := List.mem_iff_getElem.mp member
    have load := least.fits ⟨index, inside⟩
    have listed : (demands.map fun demand => if choice.assignments.get demand.id = some supplies[index].id then
        demand.requiredUnits else 0) = List.ofFn fun demand : Fin demands.length =>
          if choice demand = ⟨index, inside⟩ then demands[demand].requiredUnits else 0 := by
      apply List.ext_getElem
      · simp
      · intro position below _
        rw [List.length_map] at below
        have found := choice.get distinct ⟨position, below⟩
        have chosen := @supply_index supplies apart (choice ⟨position, below⟩) ⟨index, inside⟩
        simp only [Fin.getElem_fin] at found chosen
        simp only [List.getElem_map, List.getElem_ofFn, found, Option.some.injEq, chosen, Fin.getElem_fin]
    show (demands.map fun demand => if choice.assignments.get demand.id = some supplies[index].id then
      demand.requiredUnits else 0).sum ≤ _
    rw [listed, List.sum_ofFn]
    exact load
  unassigned := rfl

theorem Choice.result_injective (distinct : (demands.map (·.id)).Nodup) (apart : (supplies.map (·.id)).Nodup)
    (same : choice.result = other.result) : choice = other := by
  have dicts : choice.assignments = other.assignments := congrArg (·.assignments) same
  funext demand
  have one := choice.get distinct demand
  have two := other.get distinct demand
  rw [dicts, two, Option.some.injEq] at one
  exact ((supply_index apart).mp one).symm

/-- Where the assignment does not depend on the solution reported, a least choice is the only one. -/
theorem Deterministic.sole (deterministic : Deterministic demands supplies) (distinct : (demands.map (·.id)).Nodup)
    (apart : (supplies.map (·.id)).Nodup) (one : choice.Least) (two : other.Least) : choice = other := by
  have same := deterministic.same ⟨.optimal, choice.values⟩ ⟨.optimal, other.values⟩
    ⟨rfl, (optimal_of_picked picked_values).mpr one⟩ ⟨rfl, (optimal_of_picked picked_values).mpr two⟩
  have answers : solve (fun _ => ⟨.optimal, choice.values⟩) demands supplies = .ok choice.result :=
    solve_picked distinct apart rfl picked_values
  have others : solve (fun _ => ⟨.optimal, other.values⟩) demands supplies = .ok other.result :=
    solve_picked distinct apart rfl picked_values
  rw [answers, others, Except.ok.injEq] at same
  exact Choice.result_injective distinct apart same

/-- An answer that is reported makes the result of a least choice. -/
theorem Reported.result (reported : Reported demands supplies answer) (distinct : (demands.map (·.id)).Nodup)
    (apart : (supplies.map (·.id)).Nodup) :
    ∃ choice : Choice demands supplies, choice.Least ∧ solve (fun _ => answer) demands supplies = .ok choice.result := by
  obtain ⟨choice, picked⟩ := Satisfies.picked reported.optimal.satisfies
  exact ⟨choice, (optimal_of_picked picked).mp reported.optimal, solve_picked distinct apart reported.status picked⟩

/-- The demands are always covered, and the assignment does not depend on the solution that is reported exactly when
    one choice within the capacities alone has the least sum of positions. -/
theorem deterministic_iff (distinct : (demands.map (·.id)).Nodup) (apart : (supplies.map (·.id)).Nodup) :
    (∀ answer, Reported demands supplies answer →
      ∃ result, solve (fun _ => answer) demands supplies = .ok result ∧ Covers demands supplies result) ∧
    (Deterministic demands supplies ↔
      ∀ first second : Choice demands supplies, first.Least → second.Least → first = second) := by
  have covers : ∀ answer, Reported demands supplies answer →
      ∃ result, solve (fun _ => answer) demands supplies = .ok result ∧ Covers demands supplies result := by
    intro answer reported
    obtain ⟨choice, least, result⟩ := reported.result distinct apart
    exact ⟨choice.result, result, least.covers distinct apart⟩
  refine ⟨covers, fun deterministic first second one two => deterministic.sole distinct apart one two, ?_⟩
  intro sole
  refine ⟨covers, fun answer other one two => ?_⟩
  obtain ⟨first, leastFirst, resultFirst⟩ := one.result distinct apart
  obtain ⟨second, leastSecond, resultSecond⟩ := two.result distinct apart
  rw [resultFirst, resultSecond, sole first second leastFirst leastSecond]

/-- A choice with the supplies of two demands exchanged. -/
def Choice.exchanged (choice : Choice demands supplies) (first second : Fin demands.length) : Choice demands supplies :=
  fun demand => choice (Equiv.swap first second demand)

/-- Two demands of the same size exchange their supplies at no cost. -/
theorem Choice.Least.exchanged (least : choice.Least) {first second : Fin demands.length}
    (units : demands[first].requiredUnits = demands[second].requiredUnits) : (choice.exchanged first second).Least := by
  have same : ∀ demand : Fin demands.length,
      demands[Equiv.swap first second demand].requiredUnits = demands[demand].requiredUnits := by
    intro demand
    have at_ : ∀ {one other : Fin demands.length}, one = other →
        demands[one].requiredUnits = demands[other].requiredUnits := by
      rintro _ _ rfl
      rfl
    by_cases left : demand = first
    · exact (at_ (by rw [left, Equiv.swap_apply_left])).trans (units.symm.trans (at_ left.symm))
    · by_cases right : demand = second
      · exact (at_ (by rw [right, Equiv.swap_apply_right])).trans (units.trans (at_ right.symm))
      · exact at_ (Equiv.swap_apply_of_ne_of_ne left right)
  have positions : (choice.exchanged first second).positions = choice.positions :=
    Equiv.sum_comp (Equiv.swap first second) fun demand => (choice demand).val + 1
  constructor
  · intro supply
    have load := Equiv.sum_comp (Equiv.swap first second) fun demand =>
      if choice demand = supply then demands[demand].requiredUnits else 0
    have bound := least.fits supply
    rw [← load] at bound
    refine le_of_eq_of_le (Finset.sum_congr rfl fun demand _ => ?_) bound
    show (if choice (Equiv.swap first second demand) = supply then _ else 0) = _
    rw [same]
  · intro other fits
    rw [positions]
    exact least.least other fits

end Results

def unitDemands : List ResourceDemand := [⟨1, 1, by decide⟩, ⟨2, 1, by decide⟩]

def unitSupplies : List ResourceSupply := [⟨11, 1, by decide⟩, ⟨12, 1, by decide⟩]

theorem single_supply_deterministic :
    Deterministic unitDemands [⟨11, 2, by decide⟩] ↔ ∀ first second : Choice unitDemands [⟨11, 2, by decide⟩],
      first.Least → second.Least → first = second :=
  (deterministic_iff (by decide) (by decide)).2

def inOrder : Choice unitDemands unitSupplies := Fin.cast rfl

theorem inOrder_least : inOrder.Least where
  fits := by decide
  least := by decide

theorem exchanged_supplies : ¬ ∀ (demands : List ResourceDemand) (supplies : List ResourceSupply),
    (demands.map (·.id)).Nodup → (supplies.map (·.id)).Nodup → Deterministic demands supplies := by
  intro deterministic
  have units : unitDemands[0].requiredUnits = unitDemands[1].requiredUnits := rfl
  have exchanged := @Choice.Least.exchanged _ _ _ inOrder_least ⟨0, by decide⟩ ⟨1, by decide⟩ units
  have sole := (deterministic unitDemands unitSupplies (by decide) (by decide)).sole (by decide) (by decide)
    inOrder_least exchanged
  exact absurd (congrFun sole ⟨0, by decide⟩) (by decide)

end Ties

end SmartAo.Optimization
