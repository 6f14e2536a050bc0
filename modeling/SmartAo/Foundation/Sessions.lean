import SmartAo.Foundation.Guard
import SmartAo.Foundation.Transition
import Mathlib.Data.List.GetD

namespace SmartAo.Foundation

variable {σ ε ι κ : Type*}

/-- An open transaction: its command, and what its statements saw committed, in their order. -/
structure Session (σ κ : Type*) where
  command : κ
  seen : List σ

/-- What a statement saw; one that has not run yet runs with the commit. -/
def Session.view (session : Session σ κ) (store : σ) (statement : Nat) : σ :=
  session.seen.getD statement store

def Session.read (session : Session σ κ) (store : σ) : Session σ κ :=
  { session with seen := session.seen ++ [store] }

/-- A store, and the transactions open on it. -/
structure Sessions (σ κ : Type*) where
  store : σ
  active : List (Session σ κ)

/-- An input that runs alone, or a phase of a transaction among others. -/
inductive SessionInput (ι κ : Type*) where
  | alone (input : ι)
  | start (command : κ)
  | read (index : Nat)
  | finish (index : Nat)

/-- A transaction that is refused stays open; a later attempt reads what it has already seen. -/
def Sessions.step (alone : σ → ι → Except ε σ) (finish : Session σ κ → σ → Except ε σ)
    (state : Sessions σ κ) : SessionInput ι κ → Except ε (Sessions σ κ)
  | .alone input => (alone state.store input).map fun store => { state with store }
  | .start command => .ok { state with active := state.active ++ [⟨command, []⟩] }
  | .read index => .ok { state with active := state.active.modify index (·.read state.store) }
  | .finish index =>
    match state.active[index]? with
    | none => .ok state
    | some session =>
      (finish session state.store).map fun store => ⟨store, state.active.eraseIdx index⟩

/-- The condition on the transactions that finish. -/
def Finishing (condition : Session σ κ → σ → Prop) (state : Sessions σ κ) : SessionInput ι κ → Prop
  | .finish index => ∀ session, state.active[index]? = some session → condition session state.store
  | _ => True

instance {condition : Session σ κ → σ → Prop} [∀ session store, Decidable (condition session store)]
    (state : Sessions σ κ) : ∀ input : SessionInput ι κ, Decidable (Finishing condition state input)
  | .alone _ | .start _ | .read _ => inferInstanceAs (Decidable True)
  | .finish index =>
    inferInstanceAs (Decidable (∀ session ∈ state.active[index]?, condition session state.store))

/-- Each transaction saw related states, the store being the last of them. -/
def Sessions.Ordered (related : σ → σ → Prop) (state : Sessions σ κ) : Prop :=
  ∀ session ∈ state.active, (session.seen ++ [state.store]).Pairwise related

variable {alone : σ → ι → Except ε σ} {finish : Session σ κ → σ → Except ε σ}
variable {related : σ → σ → Prop} {state next : Sessions σ κ}

theorem except_map_ok {α β : Type*} {change : α → β} {computation : Except ε α} {result : β} :
    computation.map change = .ok result ↔ ∃ value, computation = .ok value ∧ change value = result := by
  cases computation <;> simp [Except.map]

/-- The store moves by an input alone or by a transaction that finishes. -/
theorem Sessions.step_store {input : SessionInput ι κ} (accepted : state.step alone finish input = .ok next) :
    (next.store = state.store ∧ ∀ session ∈ next.active, session ∈ state.active ∨
      session.seen = [] ∨ ∃ old ∈ state.active, session = old.read state.store) ∨
    (next.active ⊆ state.active ∧ ((∃ single, input = .alone single ∧
        alone state.store single = .ok next.store) ∨
      ∃ index session, input = .finish index ∧ state.active[index]? = some session ∧
        finish session state.store = .ok next.store)) := by
  cases input with
  | alone single =>
    obtain ⟨store, moved, rfl⟩ := except_map_ok.mp accepted
    exact .inr ⟨List.Subset.refl _, .inl ⟨single, rfl, moved⟩⟩
  | start command =>
    cases accepted
    refine .inl ⟨rfl, fun session member => ?_⟩
    rcases List.mem_append.mp member with old | new
    · exact .inl old
    · exact .inr (.inl (by rw [List.mem_singleton.mp new]))
  | read index =>
    cases accepted
    refine .inl ⟨rfl, fun session member => ?_⟩
    obtain ⟨position, bound, rfl⟩ := List.mem_iff_getElem.mp member
    have inside : position < state.active.length := by simpa using bound
    rw [List.getElem_modify]
    split
    · exact .inr (.inr ⟨_, List.getElem_mem inside, rfl⟩)
    · exact .inl (List.getElem_mem inside)
  | finish index =>
    unfold step at accepted
    dsimp only at accepted
    split at accepted
    · cases accepted
      exact .inl ⟨rfl, fun session member => .inl member⟩
    · rename_i session found
      obtain ⟨store, moved, rfl⟩ := except_map_ok.mp accepted
      exact .inr ⟨List.eraseIdx_subset, .inr ⟨index, session, rfl, found, moved⟩⟩

theorem pairwise_concat_mono {seen : List σ} {store later : σ} (transitive : ∀ {first second third},
      related first second → related second third → related first third)
    (ordered : (seen ++ [store]).Pairwise related) (moved : related store later) :
    (seen ++ [later]).Pairwise related := by
  rw [List.pairwise_append] at ordered ⊢
  refine ⟨ordered.1, List.pairwise_singleton _ _, fun old member last only => ?_⟩
  rw [List.mem_singleton.mp only]
  exact transitive (ordered.2.2 old member store (List.mem_singleton_self _)) moved

theorem Session.view_mem (session : Session σ κ) (store : σ) (statement : Nat) :
    session.view store statement ∈ session.seen ++ [store] := by
  unfold Session.view
  rw [List.getD_eq_getElem?_getD]
  cases found : session.seen[statement]? with
  | none => simp
  | some old => exact List.mem_append_left _ (List.mem_of_getElem? found)

/-- What a transaction saw is related to the store it finishes in. -/
theorem Session.view_store {session : Session σ κ} {store : σ} (reflexive : ∀ state, related state state)
    (ordered : (session.seen ++ [store]).Pairwise related) (statement : Nat) :
    related (session.view store statement) store := by
  rcases List.mem_append.mp (session.view_mem store statement) with old | same
  · exact (List.pairwise_append.mp ordered).2.2 _ old store (List.mem_singleton_self _)
  · rw [List.mem_singleton.mp same]
    exact reflexive store

/-- What an earlier statement saw is related to what a later one saw. -/
theorem Session.view_view {session : Session σ κ} {store : σ} (reflexive : ∀ state, related state state)
    (ordered : (session.seen ++ [store]).Pairwise related) {first second : Nat} (before : first < second) :
    related (session.view store first) (session.view store second) := by
  by_cases bound : second < session.seen.length
  · have seen : session.view store second = session.seen[second] := List.getD_eq_getElem _ _ bound
    have inside : first < session.seen.length := by omega
    have earlier : session.view store first = session.seen[first] := List.getD_eq_getElem _ _ inside
    rw [seen, earlier]
    exact List.pairwise_iff_getElem.mp (List.pairwise_append.mp ordered).1 _ _ _ bound before
  · have last : session.view store second = store := List.getD_eq_default _ _ (by omega)
    rw [last]
    exact session.view_store reflexive ordered first

/-- A phase that moves the store along the relation keeps what the transactions saw in order. -/
theorem Sessions.step_ordered {input : SessionInput ι κ} (reflexive : ∀ state, related state state)
    (transitive : ∀ {first second third}, related first second → related second third → related first third)
    (ordered : state.Ordered related) (moved : related state.store next.store)
    (accepted : state.step alone finish input = .ok next) : next.Ordered related := by
  rcases Sessions.step_store accepted with ⟨same, origin⟩ | ⟨kept, _⟩
  · intro session member
    rw [same]
    rcases origin session member with old | fresh | ⟨old, stored, rfl⟩
    · exact ordered session old
    · rw [fresh]
      exact List.pairwise_singleton _ _
    · have before := ordered old stored
      refine List.pairwise_append.mpr ⟨before, List.pairwise_singleton _ _, fun first member last only => ?_⟩
      rw [List.mem_singleton.mp only]
      rcases List.mem_append.mp member with seen | now
      · exact (List.pairwise_append.mp before).2.2 first seen _ (List.mem_singleton_self _)
      · rw [List.mem_singleton.mp now]
        exact reflexive _
  · exact fun session member => pairwise_concat_mono transitive (ordered session (kept member)) moved

/-- What every input alone and every finishing transaction preserve, and the order they keep, hold of
    every interleaving. -/
theorem Sessions.run_invariant (invariant : σ → Prop) (condition : Session σ κ → σ → Prop)
    (reflexive : ∀ state, related state state)
    (transitive : ∀ {first second third}, related first second → related second third → related first third)
    (single : ∀ store input later, invariant store → alone store input = .ok later →
      invariant later ∧ related store later)
    (finishes : ∀ session store later, (session.seen ++ [store]).Pairwise related → condition session store →
      invariant store → finish session store = .ok later → invariant later ∧ related store later)
    {inputs : List (SessionInput ι κ)} (holds : invariant state.store) (ordered : state.Ordered related)
    (along : Along (Sessions.step alone finish) (Finishing condition) state inputs) :
    invariant (run (Sessions.step alone finish) state inputs).store ∧
      (run (Sessions.step alone finish) state inputs).Ordered related := by
  suffices preserved : ∀ state input next, (invariant state.store ∧ state.Ordered related) →
      Finishing condition state input → Sessions.step alone finish state input = .ok next →
      invariant next.store ∧ next.Ordered related from
    Foundation.run_invariant preserved ⟨holds, ordered⟩ along
  rintro state input next ⟨holds, ordered⟩ met accepted
  have step : invariant next.store ∧ related state.store next.store := by
    rcases Sessions.step_store accepted with
      ⟨same, _⟩ | ⟨_, ⟨one, _, written⟩ | ⟨index, session, rfl, found, written⟩⟩
    · rw [same]
      exact ⟨holds, reflexive _⟩
    · exact single _ one _ holds written
    · exact finishes session _ _ (ordered session (List.mem_of_getElem? found)) (met session found) holds written
  exact ⟨step.1, Sessions.step_ordered reflexive transitive ordered step.2 accepted⟩

/-- As above, when finishing needs the invariant of every store its transaction saw; and the stores of a run are
    related in their order. -/
theorem Sessions.run_seen (invariant : σ → Prop) (condition : Session σ κ → σ → Prop)
    (reflexive : ∀ state, related state state)
    (transitive : ∀ {first second third}, related first second → related second third → related first third)
    (single : ∀ store input later, invariant store → alone store input = .ok later →
      invariant later ∧ related store later)
    (finishes : ∀ session store later, (session.seen ++ [store]).Pairwise related →
      (∀ old ∈ session.seen ++ [store], invariant old) → condition session store →
      finish session store = .ok later → invariant later ∧ related store later)
    {inputs : List (SessionInput ι κ)} (holds : invariant state.store) (idle : state.active = [])
    (along : Along (Sessions.step alone finish) (Finishing condition) state inputs) :
    invariant (run (Sessions.step alone finish) state inputs).store ∧ ∀ first, first <+: inputs →
      related (run (Sessions.step alone finish) state first).store
        (run (Sessions.step alone finish) state inputs).store := by
  have kept : ∀ state input next, (invariant state.store ∧
      state.Ordered fun old new => related old new ∧ (invariant new → invariant old)) →
      Finishing condition state input → Sessions.step alone finish state input = .ok next →
        invariant next.store ∧ related state.store next.store := by
    rintro state input next ⟨holds, ordered⟩ met accepted
    rcases Sessions.step_store accepted with
      ⟨same, _⟩ | ⟨_, ⟨one, _, written⟩ | ⟨index, session, rfl, found, written⟩⟩
    · rw [same]
      exact ⟨holds, reflexive _⟩
    · exact single _ one _ holds written
    · have saw := ordered session (List.mem_of_getElem? found)
      refine finishes session _ _ (saw.imp And.left) (fun old member => ?_) (met session found) written
      rcases List.mem_append.mp member with earlier | now
      · exact ((List.pairwise_append.mp saw).2.2 old earlier _ (List.mem_singleton_self _)).2 holds
      · rw [List.mem_singleton.mp now]
        exact holds
  have preserved : ∀ state input next, (invariant state.store ∧
      state.Ordered fun old new => related old new ∧ (invariant new → invariant old)) →
      Finishing condition state input → Sessions.step alone finish state input = .ok next →
        invariant next.store ∧ next.Ordered fun old new => related old new ∧ (invariant new → invariant old) := by
    intro state input next both met accepted
    obtain ⟨later, moved⟩ := kept state input next both met accepted
    exact ⟨later, Sessions.step_ordered (fun _ => ⟨reflexive _, id⟩)
      (fun before after => ⟨transitive before.1 after.1, before.2 ∘ after.2⟩) both.2 ⟨moved, fun _ => both.1⟩ accepted⟩
  have initial : invariant state.store ∧
      state.Ordered fun old new => related old new ∧ (invariant new → invariant old) := by
    refine ⟨holds, fun session member => ?_⟩
    rw [idle] at member
    exact absurd member List.not_mem_nil
  refine ⟨(Foundation.run_invariant preserved initial along).1, fun first before => ?_⟩
  obtain ⟨rest, rfl⟩ := before
  obtain ⟨before, after⟩ := Along.append.mp along
  rw [run_append]
  have stores : ∀ first second third : Sessions σ κ, related first.store second.store →
      related second.store third.store → related first.store third.store :=
    fun _ _ _ before after => transitive before after
  exact run_related (fun old new : Sessions σ κ => related old.store new.store) (fun _ => reflexive _)
    (stores _ _ _) (fun state input next met both accepted => (kept state input next both met accepted).2)
    (fun state input next both met accepted => preserved state input next both met accepted)
    (Foundation.run_invariant preserved initial before) after

theorem Sessions.finishing_always (state : Sessions σ κ) (inputs : List (SessionInput ι κ)) :
    Along (Sessions.step alone finish) (Finishing fun _ _ => True) state inputs := by
  refine (along_trivial state inputs).weaken fun state input _ => ?_
  cases input with
  | finish index => exact fun _ _ => True.intro
  | _ => exact True.intro

end SmartAo.Foundation
