import SmartAo.Foundation.Transition

namespace SmartAo.Foundation

variable {σ τ ι κ ε δ : Type} {step : σ → ι → Except ε σ} {abstractStep : τ → κ → Except δ τ}
  {observe : σ → ι → List κ} {state : σ} {abstracted : τ} {inputs : List ι}

/-- What an observer sees of the accepted inputs of a run. -/
def trace (step : σ → ι → Except ε σ) (observe : σ → ι → List κ) : σ → List ι → List κ
  | _, [] => []
  | state, input :: inputs => match step state input with
    | .ok next => observe state input ++ trace step observe next inputs
    | .error _ => trace step observe state inputs

@[simp] theorem trace_nil : trace step observe state [] = [] := rfl

theorem trace_ok {input : ι} {next : σ} (accepted : step state input = .ok next) :
    trace step observe state (input :: inputs) = observe state input ++ trace step observe next inputs := by
  show (match step state input with | .ok next => _ | .error _ => _) = _
  rw [accepted]

theorem trace_error {input : ι} {error : ε} (rejected : step state input = .error error) :
    trace step observe state (input :: inputs) = trace step observe state inputs := by
  show (match step state input with | .ok next => _ | .error _ => _) = _
  rw [rejected]

/-- An input whose observation the abstract system follows, each event of it accepted. -/
structure Simulated (abstractStep : τ → κ → Except δ τ) (related : σ → τ → Prop) (next : σ) (abstracted : τ)
    (events : List κ) : Prop where
  accepted : Along abstractStep (fun abstracted event => (abstractStep abstracted event).isOk = true) abstracted events
  related : related next (run abstractStep abstracted events)

/-- A step by step simulation carries over to runs: the abstract system follows the trace and accepts every event. -/
theorem run_simulates {condition : σ → ι → Prop} {related : σ → τ → Prop}
    (preserved : ∀ state input next abstracted, related state abstracted → condition state input →
      step state input = .ok next → Simulated abstractStep related next abstracted (observe state input))
    (start : related state abstracted) (along : Along step condition state inputs) :
    Simulated abstractStep related (run step state inputs) abstracted (trace step observe state inputs) := by
  induction inputs generalizing state abstracted with
  | nil => exact ⟨True.intro, start⟩
  | cons input inputs ih =>
    obtain ⟨holds, along⟩ := along
    rw [run_cons]
    cases accepted : step state input with
    | ok next =>
      rw [commit_ok accepted] at along ⊢
      rw [trace_ok accepted]
      have here := preserved state input next abstracted start holds accepted
      have later := ih here.related along
      refine ⟨Along.append.mpr ⟨here.accepted, later.accepted⟩, ?_⟩
      rw [run_append]
      exact later.related
    | error error =>
      rw [commit_error accepted] at along ⊢
      rw [trace_error accepted]
      exact ih start along

end SmartAo.Foundation
