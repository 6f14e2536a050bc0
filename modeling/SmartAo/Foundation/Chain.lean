import SmartAo.Foundation.Succession
import Mathlib.Data.List.Sort

namespace SmartAo.Foundation

section History

variable {ε α : Type*} {before : ε → Option α} {after : ε → α} {start : Option α} {events : List ε} {event : ε}

/-- The value after a list of events, each of which records the value it results in. -/
def replay (after : ε → α) (start : Option α) (events : List ε) : Option α :=
  events.foldl (fun _ event => some (after event)) start

/-- Every event starts from the value the one before it resulted in. -/
def Linked (before : ε → Option α) (after : ε → α) : Option α → List ε → Prop
  | _, [] => True
  | start, event :: events => before event = start ∧ Linked before after (some (after event)) events

@[simp] theorem replay_nil : replay after start [] = start := rfl

@[simp] theorem replay_concat : replay after start (events ++ [event]) = some (after event) := by
  simp [replay, List.foldl_append]

theorem linked_concat : Linked before after start (events ++ [event]) ↔
    Linked before after start events ∧ before event = replay after start events := by
  induction events generalizing start with
  | nil => simp [Linked]
  | cons first events ih => simp [Linked, ih, replay, and_assoc]

/-- A list in strictly increasing order is its own ordering. -/
theorem insertionSort_of_increasing {key : ε → ℕ}
    (increasing : events.Pairwise fun first second => key first < key second) :
    events.insertionSort (fun first second => key first ≤ key second) = events :=
  List.Pairwise.insertionSort_eq (increasing.imp Nat.le_of_lt)

/-- Numbering one more event extends the numbers without a gap. -/
theorem perm_range_concat {numbers : List ℕ} {n : ℕ} (complete : numbers.Perm (List.range n)) :
    (numbers ++ [n]).Perm (List.range (n + 1)) := by
  rw [List.range_succ]
  exact complete.append_right [n]

end History

section Chain

/-- The version of a record, and the states it leads from and to. -/
structure Steps (ρ α : Type) where
  version : ρ → ℕ
  before : ρ → α
  after : ρ → α

variable {ρ α : Type} {steps : Steps ρ α} {allowed : α → α → Prop} {start : ℕ × α} {records seen : List ρ}
  {record : ρ}

/-- The version and the state a list of records ends in. -/
def Steps.position (steps : Steps ρ α) (start : ℕ × α) (records : List ρ) : ℕ × α :=
  (records.getLast?.map fun record => (steps.version record, steps.after record)).getD start

/-- Consecutive versions; each record leads from the state of the one before it, by an allowed move. -/
structure Steps.Chain (steps : Steps ρ α) (allowed : α → α → Prop) (start : ℕ × α) (records : List ρ) : Prop where
  versions : records.map steps.version = List.range' (start.1 + 1) records.length
  linked : Linked (fun record => some (steps.before record)) steps.after (some start.2) records
  moves : ∀ record ∈ records, allowed (steps.before record) (steps.after record)

namespace Steps

@[simp] theorem position_nil : steps.position start [] = start := rfl

@[simp] theorem position_concat :
    steps.position start (records ++ [record]) = (steps.version record, steps.after record) := by
  simp [position]

theorem replay_position : replay steps.after (some start.2) records = some (steps.position start records).2 := by
  rcases List.eq_nil_or_concat records with rfl | ⟨first, last, rfl⟩
  · rfl
  · rw [List.concat_eq_append, replay_concat, position_concat]

/-- A chain is a succession whose records start where the one before them ended. -/
def Follows (steps : Steps ρ α) (allowed : α → α → Prop) (start : α) (previous : Option ρ) (record : ρ) : Prop :=
  steps.before record = (previous.map steps.after).getD start ∧ allowed (steps.before record) (steps.after record)

theorem chain_iff_succession : steps.Chain allowed start records ↔
    Succession steps.version (start.1 + 1) (steps.Follows allowed start.2) records := by
  induction records using List.reverseRecOn with
  | nil => exact iff_of_true ⟨rfl, True.intro, fun _ member => absurd member List.not_mem_nil⟩ .nil
  | append_singleton records last ih =>
    have ended : (records.getLast?.map steps.after).getD start.2 = (steps.position start records).2 := by
      unfold position
      cases records.getLast? <;> rfl
    rw [succession_concat, ← ih, Follows, ended]
    constructor
    · rintro ⟨versions, linked, moves⟩
      rw [List.map_append, List.length_append, List.length_singleton, List.range'_concat] at versions
      have numbered := List.append_inj_right' versions rfl
      rw [List.map_singleton, List.cons.injEq, Nat.one_mul] at numbered
      obtain ⟨earlier, before⟩ := linked_concat.mp linked
      rw [replay_position, Option.some.injEq] at before
      exact ⟨⟨List.append_inj_left' versions rfl, earlier, fun record member => moves record (List.mem_append_left _ member)⟩,
        numbered.1, before, moves last (by simp)⟩
    · rintro ⟨⟨versions, linked, moves⟩, numbered, before, move⟩
      refine ⟨?_, ?_, fun record member => ?_⟩
      · rw [List.map_append, List.length_append, List.length_singleton, List.range'_concat, versions,
          List.map_singleton, numbered, Nat.one_mul]
      · refine linked_concat.mpr ⟨linked, ?_⟩
        rw [replay_position, before]
      · rcases List.mem_append.mp member with old | only
        · exact moves record old
        · rw [List.mem_singleton.mp only]
          exact move

namespace Chain

theorem nil : steps.Chain allowed start [] := chain_iff_succession.mpr .nil

theorem initial (chain : steps.Chain allowed start records) (older : seen <+: records) :
    steps.Chain allowed start seen := chain_iff_succession.mpr ((chain_iff_succession.mp chain).initial older)

/-- The last record of a chain leads where it ends; no record leads on from an absorbing state. -/
theorem absorbs (final : α) (chain : steps.Chain allowed start records) (absorbing : ∀ state, ¬ allowed final state)
    {first rest : List ρ} (split : records = first ++ record :: rest) (ended : steps.after record = final) : rest = [] := by
  refine (chain_iff_succession.mp chain).last split fun other follow => ?_
  obtain ⟨before, move⟩ := follow
  rw [before, Option.map_some, Option.getD_some, ended] at move
  exact absorbing _ move

end Chain

end Steps

section Stored

variable [Schema ρ] {table earlier next : Table ρ} {query : ρ → Bool}

/-- The position a table shows by the latest of its matching records. -/
def Steps.shown (steps : Steps ρ α) (start : ℕ × α) (table : Table ρ) (query : ρ → Bool) : ℕ × α :=
  ((table.latest query steps.version).map fun record => (steps.version record, steps.after record)).getD start

theorem Steps.shown_fst : (steps.shown start table query).1 =
    ((table.latest query steps.version).map steps.version).getD start.1 := by
  unfold Steps.shown
  cases table.latest query steps.version <;> rfl

theorem Steps.shown_snd : (steps.shown start table query).2 =
    ((table.latest query steps.version).map steps.after).getD start.2 := by
  unfold Steps.shown
  cases table.latest query steps.version <;> rfl

theorem Steps.Chain.shown (chain : steps.Chain allowed start (table.rows.filter query)) :
    steps.shown start table query = steps.position start (table.rows.filter query) := by
  unfold Steps.shown Steps.position
  rw [(Steps.chain_iff_succession.mp chain).latest]

/-- A record that leads on from what an earlier state of the table showed extends the chain, when no other record
    has its version; the table has not moved since. -/
theorem Steps.Chain.insert (chain : steps.Chain allowed start (table.rows.filter query))
    (older : earlier.rows <+: table.rows) (inserted : table.insert? record = some next) (inside : query record = true)
    (unique : ∀ stored ∈ table, query stored = true → steps.version stored = steps.version record →
      Schema.Conflict stored record)
    (version : steps.version record = (steps.shown start earlier query).1 + 1)
    (before : steps.before record = (steps.shown start earlier query).2)
    (move : allowed (steps.before record) (steps.after record)) :
    next.rows.filter query = table.rows.filter query ++ [record] ∧
      steps.Chain allowed start (next.rows.filter query) ∧
      steps.shown start table query = steps.shown start earlier query := by
  have numbered : steps.version record = (earlier.latest query steps.version).elim (start.1 + 1)
      (steps.version · + 1) := by
    rw [version, Steps.shown_fst]
    cases earlier.latest query steps.version <;> rfl
  have follow : steps.Follows allowed start.2 (earlier.latest query steps.version) record :=
    ⟨before.trans Steps.shown_snd, move⟩
  obtain ⟨rows, extended, still⟩ := (Steps.chain_iff_succession.mp chain).insert older inserted inside unique numbered follow
  refine ⟨rows, Steps.chain_iff_succession.mpr extended, ?_⟩
  unfold Steps.shown
  rw [still]

/-- One chain per key: a record extends the chain of its key and leaves the others as they are. -/
theorem Steps.chains_insert {κ : Type} (ofKey : κ → ρ → Bool) {key : κ}
    (chains : ∀ key, steps.Chain allowed start (table.rows.filter (ofKey key))) (older : earlier.rows <+: table.rows)
    (inserted : table.insert? record = some next) (inside : ofKey key record = true)
    (only : ∀ other, ofKey other record = true → other = key)
    (unique : ∀ stored ∈ table, ofKey key stored = true → steps.version stored = steps.version record →
      Schema.Conflict stored record)
    (version : steps.version record = (steps.shown start earlier (ofKey key)).1 + 1)
    (before : steps.before record = (steps.shown start earlier (ofKey key)).2)
    (move : allowed (steps.before record) (steps.after record)) :
    ∀ key, steps.Chain allowed start (next.rows.filter (ofKey key)) := by
  intro other
  by_cases its : ofKey other record = true
  · rw [only other its]
    exact ((chains key).insert older inserted inside unique version before move).2.1
  · rw [Table.filter_insert? inserted, Bool.eq_false_of_not_eq_true its]
    simpa using chains other

end Stored

end Chain

end SmartAo.Foundation
