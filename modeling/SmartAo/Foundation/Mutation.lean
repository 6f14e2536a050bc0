import SmartAo.Foundation.Transition
import SmartAo.Foundation.Guard

namespace SmartAo.Foundation

variable {ε σ α β ι : Type}

/-- A method of an object: what it has assigned stays when it raises. -/
abbrev Mutation (ε σ α : Type) := EStateM ε σ α

/-- A test that reads the object and assigns nothing. -/
def Mutation.test (read : σ → Except ε α) : Mutation ε σ α := fun state =>
  match read state with
  | .ok value => .ok value state
  | .error error => .error error state

def Mutation.assign (change : σ → σ) : Mutation ε σ Unit := fun state => .ok () (change state)

/-- The object a method leaves, whether it returns or raises. -/
def Mutation.after (method : Mutation ε σ α) (state : σ) : σ :=
  match method state with
  | .ok _ next => next
  | .error _ next => next

def Mutation.returns (method : Mutation ε σ α) (state : σ) : Bool :=
  match method state with
  | .ok _ _ => true
  | .error _ _ => false

/-- One call after another on the same object, each one caught when it raises. -/
def Mutation.calls (method : ι → Mutation ε σ α) (state : σ) (input : ι) : Except Empty σ :=
  .ok ((method input).after state)

/-- A block inside a transaction: what it assigned before it raised is rolled back. -/
def Mutation.transaction (block : Mutation ε σ α) (state : σ) : Except ε (σ × α) :=
  match block state with
  | .ok value next => .ok (next, value)
  | .error error _ => .error error

/-- The object committed once the transaction of a block has ended. -/
def Mutation.committed (block : Mutation ε σ α) (state : σ) : σ :=
  commit (fun state (block : Mutation ε σ α) => (block.transaction state).map Prod.fst) state block

/-- A method that raises has assigned nothing. -/
def Mutation.AtomicAt (method : Mutation ε σ α) (state : σ) : Prop :=
  ∀ error next, method state = .error error next → next = state

namespace Mutation

variable {method : Mutation ε σ α} {state next : σ} {error : ε}

@[simp] theorem pure_apply (value : α) (state : σ) : (pure value : Mutation ε σ α) state = .ok value state := rfl

@[simp] theorem assign_bind (change : σ → σ) (rest : Unit → Mutation ε σ β) (state : σ) :
    (assign change >>= rest) state = rest () (change state) := rfl

@[simp] theorem assign_apply (change : σ → σ) (state : σ) :
    (assign change : Mutation ε σ Unit) state = .ok () (change state) := rfl

theorem test_bind (read : σ → Except ε α) (rest : α → Mutation ε σ β) (state : σ) :
    (test read >>= rest) state = match read state with
      | .ok value => rest value state
      | .error error => .error error state := by
  show EStateM.bind (test read) rest state = _
  unfold EStateM.bind test
  cases read state <;> rfl

@[simp] theorem test_bind_ok {read : σ → Except ε α} {rest : α → Mutation ε σ β} {value : β} :
    (test read >>= rest) state = .ok value next ↔ ∃ found, read state = .ok found ∧ rest found state = .ok value next := by
  rw [test_bind]
  cases read state <;> simp

@[simp] theorem test_bind_error {read : σ → Except ε α} {rest : α → Mutation ε σ β} :
    (test read >>= rest) state = .error error next ↔
      (read state = .error error ∧ state = next) ∨ ∃ found, read state = .ok found ∧ rest found state = .error error next := by
  rw [test_bind]
  cases read state <;> simp

theorem after_ok {value : α} (returned : method state = .ok value next) : method.after state = next := by
  simp [after, returned]

theorem returns_ok {value : α} (returned : method state = .ok value next) : method.returns state = true := by
  simp [returns, returned]

theorem returns_error (raised : method state = .error error next) : method.returns state = false := by
  simp [returns, raised]

/-- A call returns or raises, and leaves its object accordingly. -/
theorem after_cases (method : Mutation ε σ Unit) (state : σ) :
    method state = .ok () (method.after state) ∨ ∃ error, method state = .error error (method.after state) := by
  unfold after
  cases method state with
  | ok done next => exact .inl rfl
  | error error next => exact .inr ⟨error, rfl⟩

@[simp] theorem transaction_pure (value : α) (state : σ) :
    (pure value : Mutation ε σ α).transaction state = .ok (state, value) := rfl

@[simp] theorem transaction_test (read : σ → Except ε α) (rest : α → Mutation ε σ β) (state : σ) :
    (test read >>= rest).transaction state = (read state >>= fun value => (rest value).transaction state) := by
  unfold transaction
  rw [test_bind]
  cases read state <;> rfl

@[simp] theorem transaction_assign (change : σ → σ) (rest : Unit → Mutation ε σ β) (state : σ) :
    (assign change >>= rest).transaction state = (rest ()).transaction (change state) := rfl

theorem committed_error (raised : method.transaction state = .error error) : method.committed state = state := by
  unfold committed
  rw [commit_error]
  show (method.transaction state).map Prod.fst = .error error
  rw [raised]
  rfl

theorem AtomicAt.of_ok {value : α} (returned : method state = .ok value next) : method.AtomicAt state := by
  intro error left raised
  rw [returned] at raised
  cases raised

/-- Tests before the first assignment keep a method atomic. -/
theorem AtomicAt.test {read : σ → Except ε α} {rest : α → Mutation ε σ β}
    (atomic : ∀ found, read state = .ok found → (rest found).AtomicAt state) :
    (Mutation.test read >>= rest).AtomicAt state := by
  intro error next raised
  rcases test_bind_error.mp raised with ⟨_, same⟩ | ⟨found, passed, later⟩
  · exact same.symm
  · exact atomic found passed error next later

@[simp] theorem commit_calls (methods : ι → Mutation ε σ α) (input : ι) :
    commit (calls methods) state input = (methods input).after state := rfl

/-- What every call preserves holds after every sequence of calls. -/
theorem run_calls_invariant {methods : ι → Mutation ε σ α} {condition : σ → ι → Prop} (invariant : σ → Prop)
    (preserved : ∀ state input, invariant state → condition state input → invariant ((methods input).after state))
    {inputs : List ι} (holds : invariant state) (along : Along (calls methods) condition state inputs) :
    invariant (run (calls methods) state inputs) := by
  refine run_invariant ?_ holds along
  intro state input next held met called
  cases called
  exact preserved state input held met

/-- A relation that every call keeps relates the two ends of a sequence of calls. -/
theorem run_calls_related {methods : ι → Mutation ε σ α} (related : σ → σ → Prop)
    (reflexive : ∀ state, related state state)
    (transitive : ∀ {first second third}, related first second → related second third → related first third)
    (kept : ∀ state input, related state ((methods input).after state)) (state : σ) (inputs : List ι) :
    related state (run (calls methods) state inputs) := by
  induction inputs generalizing state with
  | nil => exact reflexive state
  | cons input inputs ih => exact transitive (kept state input) (ih _)

/-- The calls that return, counted along a sequence of calls. -/
def returned (methods : ι → Mutation ε σ α) (state : σ) (inputs : List ι) : Nat :=
  tally (calls methods) (fun state input => (methods input).returns state) state inputs

/-- A measure that grows by one at each call that returns counts them. -/
theorem run_calls_measure {methods : ι → Mutation ε σ α} (measure : σ → Nat)
    (each : ∀ state input, measure ((methods input).after state) =
      measure state + if (methods input).returns state then 1 else 0) (state : σ) (inputs : List ι) :
    measure (run (calls methods) state inputs) = measure state + returned methods state inputs :=
  run_tally measure each

end Mutation

end SmartAo.Foundation
