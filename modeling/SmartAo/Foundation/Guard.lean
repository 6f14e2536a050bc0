import Mathlib.Data.Option.Basic

namespace SmartAo.Foundation

universe u

variable {α β : Type u} {ε : Type*}

def raiseIf (condition : Prop) [Decidable condition] (error : ε) : Except ε Unit :=
  if condition then .error error else .ok ()

def orRaise (value : Option α) (error : ε) : Except ε α :=
  match value with
  | some found => .ok found
  | none => .error error

@[simp] theorem raiseIf_ok {condition : Prop} [Decidable condition] {error : ε} {done : Unit} :
    raiseIf condition error = .ok done ↔ ¬ condition := by
  by_cases h : condition <;> simp [raiseIf, h]

theorem raiseIf_pass {condition : Prop} [Decidable condition] {error : ε} (passes : ¬ condition) :
    raiseIf condition error = .ok () := by
  simp [passes]

theorem raiseIf_fail {condition : Prop} [Decidable condition] {error : ε} (fails : condition) :
    raiseIf condition error = .error error := by
  simp [raiseIf, fails]

@[simp] theorem orRaise_ok {value : Option α} {error : ε} {found : α} :
    orRaise value error = .ok found ↔ value = some found := by
  cases value <;> simp [orRaise]

@[simp] theorem orRaise_some {error : ε} {found : α} :
    orRaise (some found) error = .ok found := rfl

@[simp] theorem orRaise_none {error : ε} :
    orRaise (none : Option α) error = .error error := rfl

@[simp] theorem bind_ok {computation : Except ε α} {rest : α → Except ε β} {result : β} :
    (computation >>= rest) = .ok result ↔ ∃ value, computation = .ok value ∧ rest value = .ok result := by
  cases computation <;> simp [Bind.bind, Except.bind]

theorem bind_of_ok {computation : Except ε α} {rest : α → Except ε β} {value : α}
    (first : computation = .ok value) : (computation >>= rest) = rest value := by
  simp [first, Bind.bind, Except.bind]

theorem bind_of_error {computation : Except ε α} {rest : α → Except ε β} {error : ε}
    (first : computation = .error error) : (computation >>= rest) = .error error := by
  simp [first, Bind.bind, Except.bind]

theorem map_bind {γ : Type u} (change : β → γ) (computation : Except ε α) (rest : α → Except ε β) :
    (computation >>= rest).map change = computation >>= fun value => (rest value).map change := by
  cases computation <;> rfl

theorem map_pure (change : α → β) (value : α) :
    (pure value : Except ε α).map change = pure (change value) := rfl

/-- What follows a computation matters only at its result. -/
theorem bind_congr_ok {computation : Except ε α} {rest other : α → Except ε β}
    (same : ∀ value, computation = .ok value → rest value = other value) :
    (computation >>= rest) = (computation >>= other) := by
  cases computed : computation with
  | error error => rfl
  | ok value => exact same value computed

@[simp] theorem pure_ok {value result : α} :
    (pure value : Except ε α) = .ok result ↔ value = result := by
  simp [Pure.pure, Except.pure]

theorem mapError_ok {δ : Type*} {computation : Except ε α} {change : ε → δ} {result : α} :
    computation.mapError change = .ok result ↔ computation = .ok result := by
  cases computation <;> simp [Except.mapError]

theorem toOption_ok {computation : Except ε α} {value : α} :
    computation.toOption = some value ↔ computation = .ok value := by
  cases computation <;> simp [Except.toOption]

@[simp] theorem map_fst_ok {computation : Except ε (α × β)} {result : α} :
    computation.map Prod.fst = .ok result ↔ ∃ rest, computation = .ok (result, rest) := by
  cases computation with
  | error error => simp [Except.map]
  | ok pair => obtain ⟨first, second⟩ := pair; simp [Except.map]

@[simp] theorem exists_unit {predicate : Unit → Prop} : (∃ done, predicate done) ↔ predicate () :=
  ⟨fun ⟨(), holds⟩ => holds, fun holds => ⟨(), holds⟩⟩

/-- What each step of a monadic fold makes of a state it may start from holds after the fold of some items. -/
theorem foldlM_makes {σ : Type u} {ι : Type*} {step : σ → ι → Except ε σ} {before after : σ → Prop}
    (weaker : ∀ state, after state → before state)
    (makes : ∀ {state item next}, before state → step state item = .ok next → after next) {items : List ι}
    {start final : σ} (some : items ≠ []) (starts : before start) (folded : items.foldlM step start = .ok final) :
    after final := by
  induction items generalizing start with
  | nil => exact absurd rfl some
  | cons item items ih =>
    rw [List.foldlM_cons, bind_ok] at folded
    obtain ⟨next, first, rest⟩ := folded
    have made := makes starts first
    by_cases last : items = []
    · rw [last, List.foldlM_nil, pure_ok] at rest
      rw [← rest]
      exact made
    · exact ih last (weaker next made) rest

/-- The results of a computation on each item, in order; the first error ends it. -/
def collect (compute : α → Except ε β) : List α → Except ε (List β)
  | [] => return []
  | item :: items => do
    let result ← compute item
    let results ← collect compute items
    return result :: results

theorem collect_nil {compute : α → Except ε β} : collect compute [] = .ok [] := rfl

theorem collect_cons {compute : α → Except ε β} {item : α} {items : List α} :
    collect compute (item :: items) = compute item >>= fun result => collect compute items >>= fun results =>
      pure (result :: results) := rfl

theorem collect_ok {compute : α → Except ε β} {items : List α} :
    (∃ results, collect compute items = .ok results) ↔ ∀ item ∈ items, ∃ result, compute item = .ok result := by
  induction items with
  | nil => simp [collect_nil]
  | cons item items ih =>
    simp only [collect_cons, bind_ok, pure_ok, List.forall_mem_cons, ← ih]
    constructor
    · rintro ⟨_, result, first, results, rest, _⟩
      exact ⟨⟨result, first⟩, results, rest⟩
    · rintro ⟨⟨result, first⟩, results, rest⟩
      exact ⟨result :: results, result, first, results, rest, rfl⟩

theorem collect_of_ok {compute : α → Except ε β} {result : α → β} {items : List α}
    (each : ∀ item ∈ items, compute item = .ok (result item)) :
    collect compute items = .ok (items.map result) := by
  induction items with
  | nil => rfl
  | cons item items ih =>
    rw [List.forall_mem_cons] at each
    rw [collect_cons, bind_of_ok each.1, bind_of_ok (ih each.2)]
    rfl

theorem collect_eq_mapM {compute : α → Except ε β} {items : List α} : collect compute items = items.mapM compute := by
  induction items with
  | nil => rfl
  | cons item items ih => rw [collect_cons, List.mapM_cons, ih]

theorem collect_map {γ : Type*} {compute : α → Except ε β} {before : α → γ} {after : β → γ} {items : List α}
    {results : List β} (keeps : ∀ item result, compute item = .ok result → after result = before item)
    (computed : collect compute items = .ok results) : results.map after = items.map before := by
  induction items generalizing results with
  | nil =>
    rw [collect_nil, Except.ok.injEq] at computed
    rw [← computed]
    rfl
  | cons item items ih =>
    simp only [collect_cons, bind_ok, pure_ok] at computed
    obtain ⟨result, first, rest, others, rfl⟩ := computed
    rw [List.map_cons, List.map_cons, keeps item result first, ih others]

/-- Each item has its result among the results, and each result its item. -/
theorem collect_mem {compute : α → Except ε β} {items : List α} {results : List β}
    (computed : collect compute items = .ok results) :
    (∀ item ∈ items, ∃ result ∈ results, compute item = .ok result) ∧
      ∀ result ∈ results, ∃ item ∈ items, compute item = .ok result := by
  induction items generalizing results with
  | nil =>
    rw [collect_nil, Except.ok.injEq] at computed
    rw [← computed]
    exact ⟨fun _ member => absurd member List.not_mem_nil, fun _ member => absurd member List.not_mem_nil⟩
  | cons item items ih =>
    simp only [collect_cons, bind_ok, pure_ok] at computed
    obtain ⟨result, first, rest, others, rfl⟩ := computed
    obtain ⟨forward, backward⟩ := ih others
    simp only [List.mem_cons, exists_eq_or_imp, forall_eq_or_imp]
    refine ⟨⟨.inl first, fun other member => .inr (forward other member)⟩, .inl first, fun other member => ?_⟩
    exact .inr (backward other member)

end SmartAo.Foundation
