import Mathlib.Data.List.Basic
import Mathlib.Data.List.Infix

namespace SmartAo.Foundation

variable {σ ι ε : Type*}

/-- A rejected input is rolled back: the state it ran in stays. -/
def commit (step : σ → ι → Except ε σ) (state : σ) (input : ι) : σ :=
  match step state input with
  | .ok next => next
  | .error _ => state

def refusal (step : σ → ι → Except ε σ) (state : σ) (input : ι) : Option ε :=
  match step state input with
  | .ok _ => none
  | .error error => some error

def run (step : σ → ι → Except ε σ) (state : σ) (inputs : List ι) : σ :=
  inputs.foldl (commit step) state

/-- Every input of the run meets the condition in the state it is submitted to. -/
def Along (step : σ → ι → Except ε σ) (condition : σ → ι → Prop) : σ → List ι → Prop
  | _, [] => True
  | state, input :: inputs =>
    condition state input ∧ Along step condition (commit step state input) inputs

/-- How many inputs of the run are counted in the state they are submitted to. -/
def tally (step : σ → ι → Except ε σ) (counted : σ → ι → Bool) : σ → List ι → Nat
  | _, [] => 0
  | state, input :: inputs =>
    (if counted state input then 1 else 0) + tally step counted (commit step state input) inputs

variable {step : σ → ι → Except ε σ} {condition : σ → ι → Prop} {invariant : σ → Prop}

def Along.decidable [∀ state input, Decidable (condition state input)] :
    ∀ state inputs, Decidable (Along step condition state inputs)
  | _, [] => inferInstanceAs (Decidable True)
  | state, input :: inputs =>
    have : Decidable (Along step condition (commit step state input) inputs) := Along.decidable _ _
    inferInstanceAs (Decidable (condition state input ∧ Along step condition (commit step state input) inputs))

instance [∀ state input, Decidable (condition state input)] {state : σ} {inputs : List ι} :
    Decidable (Along step condition state inputs) := Along.decidable state inputs

theorem commit_ok {state next : σ} {input : ι} (accepted : step state input = .ok next) :
    commit step state input = next := by
  simp [commit, accepted]

theorem commit_error {state : σ} {input : ι} {error : ε} (rejected : step state input = .error error) :
    commit step state input = state := by
  simp [commit, rejected]

theorem commit_of_isOk {state : σ} {input : ι} (accepted : (step state input).isOk = true) :
    step state input = .ok (commit step state input) := by
  cases h : step state input with
  | ok next => rw [commit_ok h]
  | error error =>
    rw [h] at accepted
    cases accepted

theorem commit_cases (step : σ → ι → Except ε σ) (state : σ) (input : ι) :
    step state input = .ok (commit step state input) ∨ commit step state input = state := by
  cases h : step state input with
  | ok next => exact .inl (by rw [commit_ok h])
  | error error => exact .inr (commit_error h)

@[simp] theorem run_nil (state : σ) : run step state [] = state := rfl

@[simp] theorem run_cons (state : σ) (input : ι) (inputs : List ι) :
    run step state (input :: inputs) = run step (commit step state input) inputs := rfl

theorem run_append (state : σ) (first second : List ι) :
    run step state (first ++ second) = run step (run step state first) second := by
  simp [run, List.foldl_append]

theorem Along.append {state : σ} {first second : List ι} :
    Along step condition state (first ++ second) ↔
      Along step condition state first ∧ Along step condition (run step state first) second := by
  induction first generalizing state with
  | nil => simp [Along]
  | cons input inputs ih => simp [Along, ih, and_assoc]

theorem Along.initial {state : σ} {first inputs : List ι} (along : Along step condition state inputs)
    (before : first <+: inputs) : Along step condition state first := by
  obtain ⟨second, rfl⟩ := before
  exact (Along.append.mp along).1

theorem along_iff_each {state : σ} {inputs : List ι} : Along step condition state inputs ↔
    ∀ first input, first ++ [input] <+: inputs → condition (run step state first) input := by
  constructor
  · intro along first input before
    exact (Along.append.mp (along.initial before)).2.1
  · intro each
    induction inputs generalizing state with
    | nil => exact True.intro
    | cons input inputs ih =>
      refine ⟨each [] input (by simp), ih fun first later before => ?_⟩
      exact each (input :: first) later (by simpa using before)

theorem Along.weaken {weaker : σ → ι → Prop} (implied : ∀ state input, condition state input →
    weaker state input) {state : σ} {inputs : List ι} (along : Along step condition state inputs) :
    Along step weaker state inputs := by
  induction inputs generalizing state with
  | nil => exact True.intro
  | cons input inputs ih => exact ⟨implied _ _ along.1, ih along.2⟩

theorem Along.and {other : σ → ι → Prop} {state : σ} {inputs : List ι} (along : Along step condition state inputs)
    (also : Along step other state inputs) :
    Along step (fun state input => condition state input ∧ other state input) state inputs := by
  induction inputs generalizing state with
  | nil => exact True.intro
  | cons input inputs ih => exact ⟨⟨along.1, also.1⟩, ih along.2 also.2⟩

/-- What every accepted input preserves holds after every run. -/
theorem run_invariant (preserved : ∀ state input next, invariant state → condition state input →
      step state input = .ok next → invariant next) {state : σ} {inputs : List ι}
    (holds : invariant state) (along : Along step condition state inputs) :
    invariant (run step state inputs) := by
  induction inputs generalizing state with
  | nil => exact holds
  | cons input inputs ih =>
    refine ih ?_ along.2
    rcases commit_cases step state input with accepted | rejected
    · exact preserved _ _ _ holds along.1 accepted
    · rw [rejected]
      exact holds

/-- What an invariant implies of every input it meets holds along the run. -/
theorem along_of_invariant {implied : σ → ι → Prop}
    (preserved : ∀ state input next, invariant state → condition state input →
      step state input = .ok next → invariant next)
    (implies : ∀ state input, invariant state → implied state input) {state : σ} {inputs : List ι}
    (holds : invariant state) (along : Along step condition state inputs) :
    Along step implied state inputs := by
  rw [along_iff_each]
  intro first input before
  exact implies _ _ (run_invariant preserved holds (along.initial ((List.prefix_append _ _).trans before)))

/-- Where an input leaves a property standing exactly under a condition, a run has the property throughout
    exactly when each of its inputs meets the condition. -/
theorem throughout_iff_along {property : σ → Prop}
    (preserved : ∀ state input next, invariant state → step state input = .ok next → invariant next)
    (each : ∀ state input, invariant state → property state →
      (property (commit step state input) ↔ condition state input)) {state : σ} {inputs : List ι}
    (holds : invariant state) (initially : property state) :
    (∀ first, first <+: inputs → property (run step state first)) ↔ Along step condition state inputs := by
  induction inputs generalizing state with
  | nil =>
    refine iff_of_true (fun first before => ?_) True.intro
    rw [List.prefix_nil.mp before]
    exact initially
  | cons input inputs ih =>
    have still : invariant (commit step state input) := by
      rcases commit_cases step state input with accepted | rejected
      · exact preserved _ _ _ holds accepted
      · rw [rejected]
        exact holds
    constructor
    · intro throughout
      have next : property (commit step state input) :=
        throughout [input] (List.prefix_append [input] inputs)
      refine ⟨(each state input holds initially).mp next, (ih still next).mp fun first before => ?_⟩
      exact throughout (input :: first) (List.cons_prefix_cons.mpr ⟨rfl, before⟩)
    · intro along first before
      have next := (each state input holds initially).mpr along.1
      cases first with
      | nil => exact initially
      | cons other first =>
        obtain ⟨rfl, rest⟩ := List.cons_prefix_cons.mp before
        exact (ih still next).mpr along.2 first rest

theorem along_trivial (state : σ) (inputs : List ι) : Along step (fun _ _ => True) state inputs := by
  induction inputs generalizing state with
  | nil => exact True.intro
  | cons input inputs ih => exact ⟨True.intro, ih _⟩

theorem run_invariant_always (preserved : ∀ state input next, invariant state →
      step state input = .ok next → invariant next) {state : σ} (inputs : List ι)
    (holds : invariant state) : invariant (run step state inputs) :=
  run_invariant (fun _ _ _ held _ => preserved _ _ _ held) holds (along_trivial state inputs)

/-- A measure that grows by one at each counted input counts them along the run. -/
theorem run_tally (measure : σ → Nat) {counted : σ → ι → Bool}
    (each : ∀ state input, measure (commit step state input) =
      measure state + if counted state input then 1 else 0) {state : σ} {inputs : List ι} :
    measure (run step state inputs) = measure state + tally step counted state inputs := by
  induction inputs generalizing state with
  | nil => rfl
  | cons input inputs ih =>
    rw [run_cons, ih, each, tally]
    omega

/-- As above, when each step counts under an invariant. -/
theorem run_tally_of (measure : σ → Nat) {counted : σ → ι → Bool} (preserved : ∀ state input next, invariant state →
      step state input = .ok next → invariant next)
    (each : ∀ state input, invariant state → measure (commit step state input) =
      measure state + if counted state input then 1 else 0) {state : σ} (holds : invariant state) (inputs : List ι) :
    measure (run step state inputs) = measure state + tally step counted state inputs := by
  induction inputs generalizing state with
  | nil => rfl
  | cons input inputs ih =>
    have next : invariant (commit step state input) := by
      rcases commit_cases step state input with accepted | rejected
      · exact preserved state input _ holds accepted
      · rw [rejected]
        exact holds
    rw [run_cons, ih next, each state input holds, tally]
    omega

theorem tally_mono {counted other : σ → ι → Bool} (implied : ∀ state input, counted state input = true →
    other state input = true) (state : σ) (inputs : List ι) : tally step counted state inputs ≤ tally step other state inputs := by
  induction inputs generalizing state with
  | nil => exact Nat.le_refl 0
  | cons input inputs ih =>
    have rest := ih (commit step state input)
    rw [tally, tally]
    by_cases one : counted state input = true
    · rw [if_pos one, if_pos (implied state input one)]
      omega
    · rw [if_neg one]
      omega

/-- A relation every accepted input keeps, from the state before it to the state after it, relates
    the two ends of a run. -/
theorem run_related (related : σ → σ → Prop) (reflexive : ∀ state, related state state)
    (transitive : ∀ {first second third}, related first second → related second third →
      related first third)
    (kept : ∀ state input next, condition state input → invariant state →
      step state input = .ok next → related state next)
    (preserved : ∀ state input next, invariant state → condition state input →
      step state input = .ok next → invariant next) {state : σ} {inputs : List ι}
    (holds : invariant state) (along : Along step condition state inputs) :
    related state (run step state inputs) := by
  induction inputs generalizing state with
  | nil => exact reflexive _
  | cons input inputs ih =>
    rcases commit_cases step state input with accepted | rejected
    · exact transitive (kept _ _ _ along.1 holds accepted)
        (ih (preserved _ _ _ holds along.1 accepted) along.2)
    · have rest := along.2
      rw [rejected] at rest
      rw [run_cons, rejected]
      exact ih holds rest

/-- A change of the state that every input of a run commutes with commutes with the run. -/
theorem run_commutes {change : σ → σ}
    (commutes : ∀ state input, invariant state → condition state input →
      commit step (change state) input = change (commit step state input))
    (preserved : ∀ state input, invariant state → condition state input →
      invariant (commit step state input)) {state : σ} {inputs : List ι} (holds : invariant state)
    (along : Along step condition state inputs) :
    run step (change state) inputs = change (run step state inputs) := by
  induction inputs generalizing state with
  | nil => rfl
  | cons input inputs ih =>
    rw [run_cons, run_cons, commutes state input holds along.1]
    exact ih (preserved state input holds along.1) along.2

end SmartAo.Foundation
