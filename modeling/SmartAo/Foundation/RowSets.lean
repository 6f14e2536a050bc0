import SmartAo.Foundation.Sessions
import Mathlib.Data.List.Perm.Basic

namespace SmartAo.Foundation

variable {σ ε ι κ ρ : Type*}

/-- An open transaction: what its first statement saw committed, and what the statement that locks its rows
    saw, once it ran. -/
structure Holder (σ κ : Type*) where
  command : κ
  read : σ
  locked : Option σ

/-- A store, and the transactions open on it. -/
structure Holders (σ κ : Type*) where
  store : σ
  active : List (Holder σ κ)

/-- An input that runs alone, or a phase of a transaction that locks some rows. -/
inductive HolderInput (ι κ : Type*) where
  | alone (input : ι)
  | start (command : κ)
  | lock (index : Nat)
  | finish (index : Nat)
  | rollback (index : Nat)

section Step

variable [DecidableEq ρ] (rows : κ → List ρ)

def Holder.holds (holder : Holder σ κ) (row : ρ) : Bool :=
  holder.locked.isSome && decide (row ∈ rows holder.command)

/-- A statement that would lock a row another transaction holds does not run before that one ends; a
    transaction writes what it computes from the rows it locked when it ends. -/
def Holders.step (blocked : ε) (alone : σ → ι → Except ε σ) (finish : κ → σ → σ → σ → Except ε σ)
    (state : Holders σ κ) : HolderInput ι κ → Except ε (Holders σ κ)
  | .alone input => (alone state.store input).map fun store => { state with store }
  | .start command => .ok { state with active := state.active ++ [⟨command, state.store, none⟩] }
  | .lock index =>
    match state.active[index]? with
    | none => .error blocked
    | some holder =>
      if ∃ row ∈ rows holder.command, ∃ other ∈ state.active, other.holds rows row = true then .error blocked
      else .ok { state with active := state.active.set index { holder with locked := some state.store } }
  | .finish index =>
    match state.active[index]? with
    | none => .error blocked
    | some holder =>
      match holder.locked with
      | none => .error blocked
      | some seen => (finish holder.command holder.read seen state.store).map fun store =>
        ⟨store, state.active.eraseIdx index⟩
  | .rollback index => .ok { state with active := state.active.eraseIdx index }

/-- Two transactions hold different rows. -/
def Holder.Apart (one other : Holder σ κ) : Prop :=
  ∀ row, one.holds rows row = true → other.holds rows row = false

/-- Two transactions that locked rows hold different ones, and the rows a transaction locked are kept. -/
structure Holders.Locked (kept : ρ → σ → σ → Prop) (state : Holders σ κ) : Prop where
  exclusive : state.active.Pairwise (Holder.Apart rows)
  kept : ∀ holder ∈ state.active, ∀ seen ∈ holder.locked, ∀ row ∈ rows holder.command, kept row seen state.store

end Step

theorem pairwise_set {α : Type*} {related : α → α → Prop} {xs : List α} {x : α} (apart : xs.Pairwise related)
    (before : ∀ y ∈ xs, related y x) (after : ∀ y ∈ xs, related x y) (index : Nat) :
    (xs.set index x).Pairwise related := by
  induction xs generalizing index with
  | nil => exact List.Pairwise.nil
  | cons y xs ih =>
    obtain ⟨first, rest⟩ := List.pairwise_cons.mp apart
    obtain ⟨_, later⟩ := List.forall_mem_cons.mp before
    obtain ⟨_, others⟩ := List.forall_mem_cons.mp after
    cases index with
    | zero => exact List.pairwise_cons.mpr ⟨others, rest⟩
    | succ index =>
      refine List.pairwise_cons.mpr ⟨fun z member => ?_, ih rest later others index⟩
      rcases List.mem_or_eq_of_mem_set member with old | rfl
      · exact first z old
      · exact before y List.mem_cons_self

section Locking

variable [DecidableEq ρ] {rows : κ → List ρ} {kept : ρ → σ → σ → Prop} {state next : Holders σ κ} {blocked : ε}
  {alone : σ → ι → Except ε σ} {finish : κ → σ → σ → σ → Except ε σ}

theorem Holder.Apart.symm {one other : Holder σ κ} (apart : one.Apart rows other) : other.Apart rows one := by
  intro row held
  by_contra both
  rw [apart row (by simpa using both)] at held
  cases held

theorem Holder.not_holds {holder : Holder σ κ} (unlocked : holder.locked = none) (row : ρ) :
    holder.holds rows row = false := by
  rw [Holder.holds, unlocked]
  rfl

theorem Holders.locked_empty (store : σ) : Holders.Locked rows kept (⟨store, []⟩ : Holders σ κ) where
  exclusive := List.Pairwise.nil
  kept _ member := absurd member List.not_mem_nil

theorem Holders.Locked.move (locked : state.Locked rows kept) {store : σ}
    (transitive : ∀ {row first second third}, kept row first second → kept row second third → kept row first third)
    (moved : ∀ row, kept row state.store store) : Holders.Locked rows kept ⟨store, state.active⟩ where
  exclusive := locked.exclusive
  kept holder member seen locks row listed :=
    transitive (locked.kept holder member seen locks row listed) (moved row)

theorem Holders.Locked.start (locked : state.Locked rows kept) (command : κ) (read : σ) :
    Holders.Locked rows kept { state with active := state.active ++ [⟨command, read, none⟩] } where
  exclusive := by
    refine List.pairwise_append.mpr ⟨locked.exclusive, List.pairwise_singleton _ _, fun one _ other fresh row _ => ?_⟩
    rw [List.mem_singleton.mp fresh]
    exact Holder.not_holds rfl row
  kept holder member seen locks := by
    rcases List.mem_append.mp member with stored | fresh
    · exact locked.kept holder stored seen locks
    · rw [List.mem_singleton.mp fresh] at locks
      cases locks

theorem Holders.Locked.erase (locked : state.Locked rows kept) (index : Nat) :
    Holders.Locked rows kept { state with active := state.active.eraseIdx index } where
  exclusive := locked.exclusive.sublist (List.eraseIdx_sublist _ _)
  kept holder member := locked.kept holder (List.eraseIdx_subset member)

theorem Holders.Locked.lock (locked : state.Locked rows kept) (reflexive : ∀ row store, kept row store store)
    {holder : Holder σ κ} (free : ∀ row ∈ rows holder.command, ∀ other ∈ state.active, other.holds rows row = false)
    (index : Nat) : Holders.Locked rows kept
      { state with active := state.active.set index { holder with locked := some state.store } } where
  exclusive := by
    have apart : ∀ other ∈ state.active,
        Holder.Apart rows { holder with locked := some state.store } other := by
      intro other member row held
      have listed : row ∈ rows holder.command := by
        simpa [Holder.holds] using held
      exact free row listed other member
    exact pairwise_set locked.exclusive (fun other member => (apart other member).symm) apart index
  kept other member seen locks row listed := by
    rcases List.mem_or_eq_of_mem_set member with stored | rfl
    · exact locked.kept other stored seen locks row listed
    · rw [← Option.some.inj locks]
      exact reflexive row state.store

/-- A transaction that ends leaves what the others locked as it keeps the rows it did not lock. -/
theorem Holders.Locked.finished (locked : state.Locked rows kept) {index : Nat} {holder : Holder σ κ} {store : σ}
    (transitive : ∀ {row first second third}, kept row first second → kept row second third → kept row first third)
    (found : state.active[index]? = some holder) (locks : holder.locked.isSome = true)
    (moved : ∀ row, row ∉ rows holder.command → kept row state.store store) :
    Holders.Locked rows kept ⟨store, state.active.eraseIdx index⟩ where
  exclusive := (locked.erase index).exclusive
  kept other member seen sees row listed := by
    refine transitive ((locked.erase index).kept other member seen sees row listed) (moved row fun shared => ?_)
    obtain ⟨inside, rfl⟩ := List.getElem?_eq_some_iff.mp found
    have reordered : (state.active[index] :: state.active.eraseIdx index).Pairwise (Holder.Apart rows) :=
      (List.getElem_cons_eraseIdx_perm inside).symm.pairwise locked.exclusive fun apart => apart.symm
    have apart := (List.pairwise_cons.mp reordered).1 other member row (by simp [Holder.holds, locks, shared])
    have held : other.holds rows row = true := by
      rw [Option.mem_def] at sees
      simp [Holder.holds, sees, listed]
    rw [held] at apart
    cases apart

/-- What an accepted phase does to the store: nothing, what an input alone does, or what a transaction computes
    from rows that are still as it locked them. -/
theorem Holders.step_store {input : HolderInput ι κ} (locked : state.Locked rows kept)
    (accepted : state.step rows blocked alone finish input = .ok next) :
    next.store = state.store ∨ (∃ single, alone state.store single = .ok next.store) ∨
      ∃ command read seen, (∀ row ∈ rows command, kept row seen state.store) ∧
        finish command read seen state.store = .ok next.store := by
  cases input with
  | alone single =>
    obtain ⟨store, moved, rfl⟩ := except_map_ok.mp accepted
    exact .inr (.inl ⟨single, moved⟩)
  | start command =>
    cases accepted
    exact .inl rfl
  | lock index =>
    unfold Holders.step at accepted
    dsimp only at accepted
    split at accepted
    · cases accepted
    · split at accepted
      · cases accepted
      · cases accepted
        exact .inl rfl
  | finish index =>
    unfold Holders.step at accepted
    dsimp only at accepted
    split at accepted
    · cases accepted
    · rename_i holder found
      split at accepted
      · cases accepted
      · rename_i seen locks
        obtain ⟨store, written, rfl⟩ := except_map_ok.mp accepted
        exact .inr (.inr ⟨_, _, _, locked.kept holder (List.mem_of_getElem? found) seen locks, written⟩)
  | rollback index =>
    cases accepted
    exact .inl rfl

/-- The locks hold along every interleaving in which inputs alone keep every row and transactions those they
    did not lock. -/
theorem Holders.step_locked {input : HolderInput ι κ} (reflexive : ∀ row store, kept row store store)
    (transitive : ∀ {row first second third}, kept row first second → kept row second third → kept row first third)
    (single : ∀ store input later, alone store input = .ok later → ∀ row, kept row store later)
    (finishes : ∀ command read seen store later, (∀ row ∈ rows command, kept row seen store) →
      finish command read seen store = .ok later → ∀ row, row ∉ rows command → kept row store later)
    (locked : state.Locked rows kept) (accepted : state.step rows blocked alone finish input = .ok next) :
    next.Locked rows kept := by
  cases input with
  | alone input =>
    obtain ⟨store, moved, rfl⟩ := except_map_ok.mp accepted
    exact locked.move transitive (single _ _ _ moved)
  | start command =>
    cases accepted
    exact locked.start command _
  | lock index =>
    unfold Holders.step at accepted
    dsimp only at accepted
    split at accepted
    · cases accepted
    · split at accepted
      · cases accepted
      · rename_i holder _ free
        cases accepted
        refine locked.lock reflexive (fun row listed other member => ?_) index
        by_contra held
        exact free ⟨row, listed, other, member, by simpa using held⟩
  | finish index =>
    unfold Holders.step at accepted
    dsimp only at accepted
    split at accepted
    · cases accepted
    · rename_i holder found
      split at accepted
      · cases accepted
      · rename_i seen locks
        obtain ⟨store, written, rfl⟩ := except_map_ok.mp accepted
        have kept := locked.kept holder (List.mem_of_getElem? found) seen locks
        exact locked.finished transitive found (by rw [locks]; rfl) (finishes _ _ _ _ _ kept written)
  | rollback index =>
    cases accepted
    exact locked.erase index

end Locking

end SmartAo.Foundation
