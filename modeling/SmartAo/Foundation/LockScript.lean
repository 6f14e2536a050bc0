import SmartAo.Foundation.RowSets

namespace SmartAo.Foundation

variable {σ ε ι κ ρ : Type*}

/-- An open transaction: the rows its statements locked, in order, each with the store its statement saw. -/
structure Locker (σ κ ρ : Type*) where
  command : κ
  held : List (ρ × σ)

/-- A store, and the transactions open on it. -/
structure Lockers (σ κ ρ : Type*) where
  store : σ
  active : List (Locker σ κ ρ)

/-- What a transaction locks: the row its next locking statement names, from what the earlier ones saw, the rows
    its last statements write without a lock of their own, and what it writes from what its statements saw. -/
structure LockScript (σ κ ρ ε : Type*) where
  next : κ → List (ρ × σ) → σ → Option ρ
  writes : κ → σ → List ρ
  finish : κ → (Nat → σ) → σ → Except ε σ

/-- What the numbered locking statement saw; one that found no row to lock sees the store of the moment. -/
def heldView (held : List (ρ × σ)) (store : σ) (statement : Nat) : σ :=
  (held[statement]?.map Prod.snd).getD store

section Step

variable [DecidableEq ρ]

def Locker.holds (locker : Locker σ κ ρ) (row : ρ) : Bool := decide (row ∈ locker.held.map Prod.fst)

/-- A statement that names a row another transaction holds does not run before that one ends. -/
def Lockers.step (script : LockScript σ κ ρ ε) (blocked : ε) (alone : σ → ι → Except ε σ) (state : Lockers σ κ ρ) :
    HolderInput ι κ → Except ε (Lockers σ κ ρ)
  | .alone input => (alone state.store input).map fun store => { state with store }
  | .start command => .ok { state with active := state.active ++ [⟨command, []⟩] }
  | .lock index =>
    match state.active[index]? with
    | none => .error blocked
    | some locker =>
      match script.next locker.command locker.held state.store with
      | none => .error blocked
      | some row =>
        if ∃ other ∈ state.active.eraseIdx index, other.holds row = true then .error blocked
        else .ok { state with
          active := state.active.set index { locker with held := locker.held ++ [(row, state.store)] } }
  | .finish index =>
    match state.active[index]? with
    | none => .error blocked
    | some locker =>
      if (script.next locker.command locker.held state.store).isSome = true ∨
          ∃ row ∈ script.writes locker.command state.store, ∃ other ∈ state.active.eraseIdx index,
            other.holds row = true then .error blocked
      else (script.finish locker.command (heldView locker.held state.store) state.store).map fun store =>
        ⟨store, state.active.eraseIdx index⟩
  | .rollback index => .ok { state with active := state.active.eraseIdx index }

/-- Two transactions hold different rows. -/
def Locker.Apart (one other : Locker σ κ ρ) : Prop := ∀ row, one.holds row = true → other.holds row = false

/-- No two transactions hold one row, each holds the rows its script names, and the rows it holds are as it saw
    them. -/
structure Lockers.Locked (script : LockScript σ κ ρ ε) (kept : ρ → σ → σ → Prop) (state : Lockers σ κ ρ) : Prop where
  exclusive : state.active.Pairwise Locker.Apart
  scripted : ∀ locker ∈ state.active, ∀ statement row seen, locker.held[statement]? = some (row, seen) →
    script.next locker.command (locker.held.take statement) seen = some row
  kept : ∀ locker ∈ state.active, ∀ entry ∈ locker.held, kept entry.1 entry.2 state.store

end Step

section Locking

variable [DecidableEq ρ] {script : LockScript σ κ ρ ε} {kept : ρ → σ → σ → Prop} {state next : Lockers σ κ ρ}
  {blocked : ε} {alone : σ → ι → Except ε σ} {locker : Locker σ κ ρ} {index : Nat}

theorem Locker.Apart.symm {one other : Locker σ κ ρ} (apart : one.Apart other) : other.Apart one := by
  intro row held
  by_contra both
  rw [apart row (by simpa using both)] at held
  cases held

theorem Locker.holds_iff {row : ρ} : locker.holds row = true ↔ ∃ seen, (row, seen) ∈ locker.held := by
  simp [Locker.holds]

theorem Lockers.locked_empty (store : σ) : Lockers.Locked script kept (⟨store, []⟩ : Lockers σ κ ρ) where
  exclusive := List.Pairwise.nil
  scripted _ member := absurd member List.not_mem_nil
  kept _ member := absurd member List.not_mem_nil

/-- The picked transaction holds no row of the others. -/
theorem Lockers.Locked.picked (locked : state.Locked script kept) (found : state.active[index]? = some locker) :
    ∀ other ∈ state.active.eraseIdx index, locker.Apart other := by
  obtain ⟨inside, rfl⟩ := List.getElem?_eq_some_iff.mp found
  have reordered : (state.active[index] :: state.active.eraseIdx index).Pairwise Locker.Apart :=
    (List.getElem_cons_eraseIdx_perm inside).symm.pairwise locked.exclusive fun apart => apart.symm
  exact (List.pairwise_cons.mp reordered).1

theorem Lockers.Locked.erase (locked : state.Locked script kept) (index : Nat) :
    Lockers.Locked script kept { state with active := state.active.eraseIdx index } where
  exclusive := locked.exclusive.sublist (List.eraseIdx_sublist _ _)
  scripted locker member := locked.scripted locker (List.eraseIdx_subset member)
  kept locker member := locked.kept locker (List.eraseIdx_subset member)

theorem Lockers.Locked.start (locked : state.Locked script kept) (command : κ) :
    Lockers.Locked script kept { state with active := state.active ++ [⟨command, []⟩] } where
  exclusive := by
    refine List.pairwise_append.mpr ⟨locked.exclusive, List.pairwise_singleton _ _, fun one _ other fresh row _ => ?_⟩
    rw [List.mem_singleton.mp fresh]
    rfl
  scripted locker member statement row seen found := by
    rcases List.mem_append.mp member with stored | fresh
    · exact locked.scripted locker stored statement row seen found
    · rw [List.mem_singleton.mp fresh] at found
      cases found
  kept locker member entry held := by
    rcases List.mem_append.mp member with stored | fresh
    · exact locked.kept locker stored entry held
    · rw [List.mem_singleton.mp fresh] at held
      exact absurd held List.not_mem_nil

theorem Lockers.Locked.lock (locked : state.Locked script kept) (reflexive : ∀ row store, kept row store store)
    (found : state.active[index]? = some locker) {row : ρ}
    (named : script.next locker.command locker.held state.store = some row)
    (free : ∀ other ∈ state.active.eraseIdx index, other.holds row = false) :
    Lockers.Locked script kept { state with
      active := state.active.set index { locker with held := locker.held ++ [(row, state.store)] } } where
  exclusive := by
    obtain ⟨inside, _⟩ := List.getElem?_eq_some_iff.mp found
    refine (List.set_perm_cons_eraseIdx inside _).symm.pairwise ?_ fun apart => apart.symm
    refine List.pairwise_cons.mpr ⟨fun other member held holds => ?_, (locked.erase index).exclusive⟩
    obtain ⟨seen, entry⟩ := Locker.holds_iff.mp holds
    rcases List.mem_append.mp entry with earlier | last
    · exact locked.picked found other member held (Locker.holds_iff.mpr ⟨seen, earlier⟩)
    · have same : held = row := (Prod.mk.inj (List.mem_singleton.mp last)).1
      rw [same]
      exact free other member
  scripted other member statement held seen entry := by
    rcases List.mem_or_eq_of_mem_set member with stored | rfl
    · exact locked.scripted other stored statement held seen entry
    · dsimp only at entry ⊢
      rcases Nat.lt_trichotomy statement locker.held.length with earlier | last | beyond
      · rw [List.getElem?_append_left earlier] at entry
        rw [List.take_append_of_le_length (Nat.le_of_lt earlier)]
        exact locked.scripted locker (List.mem_of_getElem? found) statement held seen entry
      · rw [last, List.getElem?_concat_length, Option.some.injEq, Prod.mk.injEq] at entry
        rw [last, List.take_left, ← entry.1, ← entry.2]
        exact named
      · rw [List.getElem?_eq_none (by simp; omega)] at entry
        cases entry
  kept other member entry held := by
    rcases List.mem_or_eq_of_mem_set member with stored | rfl
    · exact locked.kept other stored entry held
    · rcases List.mem_append.mp held with earlier | last
      · exact locked.kept locker (List.mem_of_getElem? found) entry earlier
      · rw [List.mem_singleton.mp last]
        exact reflexive row state.store

/-- A transaction that ends leaves what the others hold as it keeps the rows it does not hold. -/
theorem Lockers.Locked.finished (locked : state.Locked script kept) {store : σ}
    (transitive : ∀ {row first second third}, kept row first second → kept row second third → kept row first third)
    (found : state.active[index]? = some locker)
    (moved : ∀ row, locker.holds row = false → kept row state.store store) :
    Lockers.Locked script kept ⟨store, state.active.eraseIdx index⟩ where
  exclusive := (locked.erase index).exclusive
  scripted := (locked.erase index).scripted
  kept other member entry held := by
    refine transitive ((locked.erase index).kept other member entry held) (moved entry.1 ?_)
    exact (locked.picked found other member).symm entry.1 (Locker.holds_iff.mpr ⟨entry.2, held⟩)

theorem Lockers.step_finish (accepted : state.step script blocked alone (.finish index : HolderInput ι κ) = .ok next) :
    ∃ locker store, state.active[index]? = some locker ∧
      script.next locker.command locker.held state.store = none ∧
      script.finish locker.command (heldView locker.held state.store) state.store = .ok store ∧
      next = ⟨store, state.active.eraseIdx index⟩ := by
  unfold Lockers.step at accepted
  dsimp only at accepted
  split at accepted
  · cases accepted
  · rename_i locker found
    split at accepted
    · cases accepted
    · rename_i free
      obtain ⟨store, written, rfl⟩ := except_map_ok.mp accepted
      rw [not_or, Bool.not_eq_true, Option.isSome_eq_false_iff, Option.isNone_iff_eq_none] at free
      exact ⟨locker, store, found, free.1, written, rfl⟩

/-- What an accepted phase that is no ending does to the store: nothing, or what an input alone does. -/
theorem Lockers.step_store {input : HolderInput ι κ} (other : ∀ index, input ≠ .finish index)
    (accepted : state.step script blocked alone input = .ok next) :
    next.store = state.store ∨ ∃ single, alone state.store single = .ok next.store := by
  cases input with
  | alone single =>
    obtain ⟨store, moved, rfl⟩ := except_map_ok.mp accepted
    exact .inr ⟨single, moved⟩
  | start command =>
    cases accepted
    exact .inl rfl
  | lock index =>
    unfold Lockers.step at accepted
    dsimp only at accepted
    split at accepted
    · cases accepted
    · split at accepted
      · cases accepted
      · split at accepted
        · cases accepted
        · cases accepted
          exact .inl rfl
  | finish index => exact absurd rfl (other index)
  | rollback index =>
    cases accepted
    exact .inl rfl

/-- The locks hold along every interleaving in which inputs alone keep every row and transactions those they do
    not hold. -/
theorem Lockers.step_locked {input : HolderInput ι κ} (reflexive : ∀ row store, kept row store store)
    (transitive : ∀ {row first second third}, kept row first second → kept row second third → kept row first third)
    (single : ∀ input later, alone state.store input = .ok later → ∀ row, kept row state.store later)
    (finishes : ∀ locker ∈ state.active, ∀ later, script.next locker.command locker.held state.store = none →
      script.finish locker.command (heldView locker.held state.store) state.store = .ok later →
        ∀ row, locker.holds row = false → kept row state.store later)
    (locked : state.Locked script kept) (accepted : state.step script blocked alone input = .ok next) :
    next.Locked script kept := by
  cases input with
  | alone input =>
    obtain ⟨store, moved, rfl⟩ := except_map_ok.mp accepted
    exact ⟨locked.exclusive, locked.scripted, fun locker member entry held =>
      transitive (locked.kept locker member entry held) (single _ _ moved entry.1)⟩
  | start command =>
    cases accepted
    exact locked.start command
  | lock index =>
    unfold Lockers.step at accepted
    dsimp only at accepted
    split at accepted
    · cases accepted
    · rename_i locker found
      split at accepted
      · cases accepted
      · rename_i row named
        split at accepted
        · cases accepted
        · rename_i free
          cases accepted
          refine locked.lock reflexive found named fun other member => ?_
          by_contra held
          exact free ⟨other, member, by simpa using held⟩
  | finish index =>
    obtain ⟨locker, store, found, ended, written, rfl⟩ := Lockers.step_finish accepted
    exact locked.finished transitive found (finishes locker (List.mem_of_getElem? found) store ended written)
  | rollback index =>
    cases accepted
    exact locked.erase index

end Locking

section Order

/-- What a statement touches: a row it locks, or, when it only reads, its own transaction. -/
inductive Touched (ρ : Type*) where
  | row (key : ρ)
  | own (transaction : Nat)
deriving DecidableEq

def Locker.session (locker : Locker σ κ ρ) : Session σ κ := ⟨locker.command, locker.held.map Prod.snd⟩

/-- Each transaction saw related states, the store being the last of them. -/
def Lockers.Ordered (related : σ → σ → Prop) (state : Lockers σ κ ρ) : Prop :=
  ∀ locker ∈ state.active, (locker.session.seen ++ [state.store]).Pairwise related

variable {related : σ → σ → Prop} {state next : Lockers σ κ ρ} {locker : Locker σ κ ρ} {index : Nat}

theorem heldView_session {store : σ} {statement : Nat} :
    heldView locker.held store statement = locker.session.view store statement := by
  simp [heldView, Locker.session, Session.view, List.getD_eq_getElem?_getD]

theorem heldView_of_lt {held : List (ρ × σ)} {store : σ} {statement : Nat} (before : statement < held.length) :
    heldView held store statement = held[statement].2 := by
  simp [heldView, before]

/-- What a statement saw stays, whatever runs after it. -/
theorem heldView_append {held more : List (ρ × σ)} {later : σ} (store : σ) {statement : Nat}
    (ran : statement < held.length) : heldView (held ++ more) later statement = heldView held store statement := by
  simp [heldView, List.getElem?_append_left ran, ran]

theorem heldView_take {held : List (ρ × σ)} {seen : σ} (store : σ) {statement count : Nat} (before : statement < count)
    (inside : count ≤ held.length) : heldView (held.take count) seen statement = heldView held store statement := by
  have within : statement < held.length := by omega
  rw [heldView_of_lt within, heldView_of_lt (by rw [List.length_take]; omega), List.getElem_take]

theorem Lockers.Ordered.store (ordered : state.Ordered related) (reflexive : ∀ state, related state state)
    (member : locker ∈ state.active) (statement : Nat) :
    related (heldView locker.held state.store statement) state.store := by
  rw [heldView_session]
  exact Session.view_store reflexive (ordered locker member) statement

theorem Lockers.Ordered.view (ordered : state.Ordered related) (reflexive : ∀ state, related state state)
    (member : locker ∈ state.active) {first second : Nat} (before : first < second) :
    related (heldView locker.held state.store first) (heldView locker.held state.store second) := by
  rw [heldView_session, heldView_session]
  exact Session.view_view reflexive (ordered locker member) before

variable [DecidableEq ρ] {script : LockScript σ κ ρ ε} {blocked : ε} {alone : σ → ι → Except ε σ}

/-- An open transaction was open before, has just started, or has run one statement more. -/
theorem Lockers.step_active {input : HolderInput ι κ} (accepted : state.step script blocked alone input = .ok next)
    (member : locker ∈ next.active) : locker ∈ state.active ∨ locker.held = [] ∨
      next.store = state.store ∧ ∃ old ∈ state.active, ∃ row, script.next old.command old.held state.store = some row ∧
        locker = { old with held := old.held ++ [(row, state.store)] } := by
  cases input with
  | alone single =>
    obtain ⟨store, _, rfl⟩ := except_map_ok.mp accepted
    exact .inl member
  | start command =>
    cases accepted
    rcases List.mem_append.mp member with old | fresh
    · exact .inl old
    · exact .inr (.inl (by rw [List.mem_singleton.mp fresh]))
  | lock index =>
    unfold Lockers.step at accepted
    dsimp only at accepted
    split at accepted
    · cases accepted
    · rename_i old found
      split at accepted
      · cases accepted
      · rename_i row named
        split at accepted
        · cases accepted
        · cases accepted
          rcases List.mem_or_eq_of_mem_set member with stored | rfl
          · exact .inl stored
          · exact .inr (.inr ⟨rfl, old, List.mem_of_getElem? found, row, named, rfl⟩)
  | finish index =>
    obtain ⟨_, _, _, _, _, rfl⟩ := Lockers.step_finish accepted
    exact .inl (List.eraseIdx_subset member)
  | rollback index =>
    cases accepted
    exact .inl (List.eraseIdx_subset member)

/-- A phase that moves the store along the relation keeps what the transactions saw in order. -/
theorem Lockers.step_ordered {input : HolderInput ι κ} (reflexive : ∀ state, related state state)
    (transitive : ∀ {first second third}, related first second → related second third → related first third)
    (ordered : state.Ordered related) (moved : related state.store next.store)
    (accepted : state.step script blocked alone input = .ok next) : next.Ordered related := by
  intro locker member
  rcases Lockers.step_active accepted member with old | fresh | ⟨same, old, stored, row, _, rfl⟩
  · exact pairwise_concat_mono transitive (ordered locker old) moved
  · rw [Locker.session, fresh]
    exact List.pairwise_singleton _ _
  · have before := ordered old stored
    have seen : (Locker.session { old with held := old.held ++ [(row, state.store)] }).seen =
        old.session.seen ++ [state.store] := by simp [Locker.session]
    rw [same, seen]
    refine List.pairwise_append.mpr ⟨before, List.pairwise_singleton _ _, fun first member last only => ?_⟩
    rw [List.mem_singleton.mp only]
    rcases List.mem_append.mp member with earlier | now
    · exact (List.pairwise_append.mp before).2.2 first earlier _ (List.mem_singleton_self _)
    · rw [List.mem_singleton.mp now]
      exact reflexive _

end Order

end SmartAo.Foundation
