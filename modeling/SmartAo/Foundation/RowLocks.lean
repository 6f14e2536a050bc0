import SmartAo.Foundation.Sessions

namespace SmartAo.Foundation

variable {σ ε ι κ ρ : Type*}

/-- An input that runs alone, or a phase of a transaction whose first statement locks a row. -/
inductive LockInput (ι κ : Type*) where
  | alone (input : ι)
  | start (command : κ)
  | read (index : Nat)
  | finish (index : Nat)
  | rollback (index : Nat)

/-- Another transaction holds the row. -/
def Sessions.waits [DecidableEq ρ] (key : κ → ρ) (state : Sessions σ κ) (index : Nat) (row : ρ) : Bool :=
  (state.active.eraseIdx index).any fun other => !other.seen.isEmpty && decide (key other.command = row)

/-- A statement that would lock a row another transaction holds does not run before that one ends. -/
def Sessions.lockStep [DecidableEq ρ] (key : κ → ρ) (blocked : ε) (alone : σ → ι → Except ε σ)
    (finish : Session σ κ → σ → Except ε σ) (state : Sessions σ κ) : LockInput ι κ → Except ε (Sessions σ κ)
  | .alone input => (alone state.store input).map fun store => { state with store }
  | .start command => .ok { state with active := state.active ++ [⟨command, []⟩] }
  | .read index =>
    match state.active[index]? with
    | none => .error blocked
    | some session =>
      if state.waits key index (key session.command) then .error blocked
      else .ok { state with active := state.active.modify index (·.read state.store) }
  | .finish index =>
    match state.active[index]? with
    | none => .error blocked
    | some session =>
      if state.waits key index (key session.command) then .error blocked
      else (finish session state.store).map fun store => ⟨store, state.active.eraseIdx index⟩
  | .rollback index => .ok { state with active := state.active.eraseIdx index }

/-- Two transactions that have locked a row hold different ones, and what one of them saw is kept. -/
structure Sessions.Locked (key : κ → ρ) (kept : κ → σ → σ → Prop) (state : Sessions σ κ) : Prop where
  exclusive : ∀ (one other : Nat) (first second : Session σ κ), state.active[one]? = some first →
    state.active[other]? = some second →
    first.seen ≠ [] → second.seen ≠ [] → key first.command = key second.command → one = other
  kept : ∀ session ∈ state.active, ∀ old ∈ session.seen, kept session.command old state.store

theorem Sessions.locked_empty (key : κ → ρ) (kept : κ → σ → σ → Prop) (store : σ) :
    Sessions.Locked key kept ⟨store, []⟩ where
  exclusive one other first second found := by simp at found
  kept session member := absurd member List.not_mem_nil

section Held

variable {key : κ → ρ} {kept : κ → σ → σ → Prop} {state : Sessions σ κ}

theorem Sessions.Locked.move (locked : state.Locked key kept) {store : σ}
    (transitive : ∀ {command first second third}, kept command first second → kept command second third →
      kept command first third)
    (moved : ∀ session ∈ state.active, session.seen ≠ [] → kept session.command state.store store) :
    Sessions.Locked key kept ⟨store, state.active⟩ where
  exclusive := locked.exclusive
  kept session member old seen :=
    transitive (locked.kept session member old seen) (moved session member (List.ne_nil_of_mem seen))

theorem Sessions.Locked.start (locked : state.Locked key kept) (command : κ) :
    Sessions.Locked key kept { state with active := state.active ++ [⟨command, []⟩] } where
  exclusive one other first second hf hs heldFirst heldSecond same := by
    have old : ∀ (index : Nat) (session : Session σ κ), (state.active ++ [⟨command, []⟩])[index]? = some session →
        session.seen ≠ [] → state.active[index]? = some session := by
      intro index session found held
      rcases Nat.lt_or_ge index state.active.length with inside | outside
      · rwa [List.getElem?_append_left inside] at found
      · rw [List.getElem?_append_right outside, List.getElem?_singleton] at found
        split at found
        · exact absurd (Option.some.inj found ▸ rfl) held
        · cases found
    exact locked.exclusive one other first second (old one first hf heldFirst) (old other second hs heldSecond)
      heldFirst heldSecond same
  kept session member old seen := by
    rcases List.mem_append.mp member with stored | fresh
    · exact locked.kept session stored old seen
    · rw [List.mem_singleton.mp fresh] at seen
      exact absurd seen List.not_mem_nil

theorem Sessions.Locked.erase (locked : state.Locked key kept) (index : Nat) :
    Sessions.Locked key kept { state with active := state.active.eraseIdx index } where
  exclusive one other first second hf hs heldFirst heldSecond same := by
    rw [List.getElem?_eraseIdx] at hf hs
    have shifted : ∀ (position : Nat) (session : Session σ κ),
        (if position < index then state.active[position]? else state.active[position + 1]?) = some session →
          state.active[if position < index then position else position + 1]? = some session := by
      intro position session found
      by_cases before : position < index
      · rwa [if_pos before] at found ⊢
      · rwa [if_neg before] at found ⊢
    have distinct := locked.exclusive _ _ first second (shifted one first hf) (shifted other second hs) heldFirst
      heldSecond same
    split at distinct <;> split at distinct <;> omega
  kept session member old seen := locked.kept session (List.eraseIdx_subset member) old seen

end Held

variable [DecidableEq ρ] {key : κ → ρ} {kept : κ → σ → σ → Prop} {alone : σ → ι → Except ε σ} {blocked : ε}
  {finish : Session σ κ → σ → Except ε σ} {state : Sessions σ κ}

theorem Sessions.waits_false {index : Nat} {row : ρ} (free : state.waits key index row = false) :
    ∀ other session, state.active[other]? = some session → session.seen ≠ [] → key session.command = row →
      other = index := by
  intro other session found held same
  by_contra apart
  have member : session ∈ state.active.eraseIdx index :=
    List.mem_eraseIdx_iff_getElem?.mpr ⟨other, apart, found⟩
  have waiting := List.any_eq_false.mp free session member
  rw [decide_eq_true same, Bool.and_true, Bool.not_eq_true', Bool.not_eq_false,
    List.isEmpty_iff] at waiting
  exact held waiting

theorem Sessions.Locked.read (locked : state.Locked key kept) (reflexive : ∀ command store, kept command store store)
    {index : Nat} {session : Session σ κ} (found : state.active[index]? = some session)
    (free : state.waits key index (key session.command) = false) :
    Sessions.Locked key kept { state with active := state.active.modify index (·.read state.store) } where
  exclusive one other first second hf hs heldFirst heldSecond same := by
    have single := waits_false free
    have origin : ∀ position current, (state.active.modify index (·.read state.store))[position]? = some current →
        (position = index ∧ current.command = session.command) ∨
          (position ≠ index ∧ state.active[position]? = some current) := by
      intro position current held
      rw [List.getElem?_modify] at held
      by_cases here : index = position
      · subst here
        simp only [found, Option.map_eq_map, Option.map_some, Option.some.injEq, if_true] at held
        exact .inl ⟨rfl, by rw [← held]; rfl⟩
      · simp only [if_neg here, Option.map_eq_map, Option.map_id'] at held
        exact .inr ⟨fun same => here same.symm, held⟩
    rcases origin one first hf with ⟨rfl, named⟩ | ⟨apart, stored⟩ <;>
      rcases origin other second hs with ⟨rfl, also⟩ | ⟨away, kept⟩
    · rfl
    · exact (single other second kept heldSecond (same.symm.trans (congrArg key named))).symm
    · exact single one first stored heldFirst (same.trans (congrArg key also))
    · exact locked.exclusive one other first second stored kept heldFirst heldSecond same
  kept current member old seen := by
    obtain ⟨position, bound, rfl⟩ := List.mem_iff_getElem.mp member
    have inside : position < state.active.length := by simpa using bound
    rw [List.getElem_modify] at seen ⊢
    split at seen
    · rename_i here
      rw [if_pos here]
      rcases List.mem_append.mp seen with before | now
      · exact locked.kept _ (List.getElem_mem inside) old before
      · rw [List.mem_singleton.mp now]
        exact reflexive _ _
    · rename_i away
      rw [if_neg away]
      exact locked.kept _ (List.getElem_mem inside) old seen

theorem Sessions.lockStep_read {index : Nat} {next : Sessions σ κ}
    (accepted : state.lockStep key blocked alone finish (.read index) = .ok next) : next.store = state.store := by
  unfold lockStep at accepted
  dsimp only at accepted
  split at accepted
  · cases accepted
  · split at accepted
    · cases accepted
    · rw [← Except.ok.inj accepted]

/-- A transaction that finishes was not waiting for a row, and every other one that holds a row holds
    another. -/
theorem Sessions.lockStep_finish {index : Nat} {next : Sessions σ κ}
    (accepted : state.lockStep key blocked alone finish (.finish index) = .ok next) :
    ∃ session, state.active[index]? = some session ∧ finish session state.store = .ok next.store ∧
      next.active = state.active.eraseIdx index ∧
      ∀ other ∈ next.active, other.seen ≠ [] → key other.command ≠ key session.command := by
  unfold lockStep at accepted
  dsimp only at accepted
  split at accepted
  · cases accepted
  · rename_i session found
    split at accepted
    · cases accepted
    · rename_i free
      obtain ⟨store, written, rfl⟩ := except_map_ok.mp accepted
      refine ⟨session, found, written, rfl, fun other member held same => ?_⟩
      obtain ⟨position, apart, there⟩ := List.mem_eraseIdx_iff_getElem?.mp member
      exact apart (waits_false (Bool.eq_false_iff.mpr free) position other there held same)

/-- What inputs alone and finishing transactions preserve, each keeping what the holders of other rows
    saw, holds of every interleaving. -/
theorem Sessions.lock_invariant {invariant : σ → Prop} (reflexive : ∀ command store, kept command store store)
    (transitive : ∀ {command first second third}, kept command first second → kept command second third →
      kept command first third)
    (single : ∀ store input later, invariant store → alone store input = .ok later →
      invariant later ∧ ∀ command, kept command store later)
    (finishes : ∀ session store later, (∀ old ∈ session.seen, kept session.command old store) →
      invariant store → finish session store = .ok later →
      invariant later ∧ ∀ command, key command ≠ key session.command → kept command store later)
    (inputs : List (LockInput ι κ)) (holds : invariant state.store) (locked : state.Locked key kept) :
    invariant (run (Sessions.lockStep key blocked alone finish) state inputs).store ∧
      (run (Sessions.lockStep key blocked alone finish) state inputs).Locked key kept := by
  suffices preserved : ∀ (state : Sessions σ κ) input next, (invariant state.store ∧ state.Locked key kept) →
      Sessions.lockStep key blocked alone finish state input = .ok next →
      invariant next.store ∧ next.Locked key kept from
    run_invariant_always preserved inputs ⟨holds, locked⟩
  rintro state input next ⟨holds, locked⟩ accepted
  cases input with
  | alone input =>
    obtain ⟨store, moved, rfl⟩ := except_map_ok.mp accepted
    obtain ⟨later, kept⟩ := single _ input _ holds moved
    exact ⟨later, locked.move transitive fun session _ _ => kept session.command⟩
  | start command =>
    cases accepted
    exact ⟨holds, locked.start command⟩
  | read index =>
    unfold lockStep at accepted
    dsimp only at accepted
    split at accepted
    · cases accepted
    · rename_i session found
      split at accepted
      · cases accepted
      · rename_i free
        cases accepted
        exact ⟨holds, locked.read reflexive found (Bool.eq_false_iff.mpr free)⟩
  | finish index =>
    obtain ⟨session, found, written, rest, apart⟩ := Sessions.lockStep_finish accepted
    obtain ⟨later, kept⟩ := finishes session _ _ (locked.kept session (List.mem_of_getElem? found)) holds written
    have erased := locked.erase index
    rw [← rest] at erased
    exact ⟨later, erased.move transitive fun other member held =>
      kept other.command (apart other member held)⟩
  | rollback index =>
    cases accepted
    exact ⟨holds, locked.erase index⟩

end SmartAo.Foundation
