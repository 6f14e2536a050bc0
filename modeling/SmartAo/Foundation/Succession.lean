import SmartAo.Foundation.Table
import Mathlib.Data.List.Induction
import Mathlib.Data.List.MinMax

namespace SmartAo.Foundation.Table

variable {ρ : Type} [Schema ρ] {table next : Table ρ} {row found : ρ} {query : ρ → Bool}
  {revision : ρ → Nat}

/-- The matching row of the greatest revision: `ORDER BY revision DESC LIMIT 1`. -/
def latest (table : Table ρ) (query : ρ → Bool) (revision : ρ → Nat) : Option ρ :=
  (table.rows.filter query).argmax revision

/-- `max(revision)` over the matching rows. -/
def greatest (table : Table ρ) (query : ρ → Bool) (revision : ρ → Nat) : Option Nat :=
  (table.latest query revision).map revision

theorem latest_mem (looked : table.latest query revision = some found) :
    found ∈ table ∧ query found = true := by
  have member := List.argmax_mem (Option.mem_def.mpr looked)
  exact List.mem_filter.mp member

theorem latest_le (looked : table.latest query revision = some found) (member : row ∈ table)
    (matched : query row = true) : revision row ≤ revision found :=
  List.le_of_mem_argmax (List.mem_filter.mpr ⟨member, matched⟩) looked

theorem latest_none : table.latest query revision = none ↔ ∀ row ∈ table, query row = false := by
  rw [latest, List.argmax_eq_none, List.filter_eq_nil_iff]
  simp only [Bool.not_eq_true, mem_rows]

theorem latest_isSome : (table.latest query revision).isSome ↔ ∃ row ∈ table, query row = true := by
  cases looked : table.latest query revision with
  | none =>
    have missed := latest_none.mp looked
    refine iff_of_false (by simp) ?_
    rintro ⟨row, member, matched⟩
    simp [missed row member] at matched
  | some found => exact iff_of_true rfl ⟨found, latest_mem looked⟩

theorem latest_insert?_of_not (inserted : table.insert? row = some next) (outside : query row = false) :
    next.latest query revision = table.latest query revision := by
  have rows : next.rows.filter query = table.rows.filter query := by simp [filter_insert? inserted, outside]
  rw [latest, rows, latest]

/-- An inserted row that matches and lies beyond every stored one is the latest. -/
theorem latest_insert? (inserted : table.insert? row = some next) (inside : query row = true)
    (beyond : ∀ stored ∈ table, query stored = true → revision stored < revision row) :
    next.latest query revision = some row := by
  have rows : next.rows.filter query = table.rows.filter query ++ [row] := by simp [filter_insert? inserted, inside]
  rw [latest, rows, List.argmax_concat]
  cases looked : (table.rows.filter query).argmax revision with
  | none => rfl
  | some found =>
    obtain ⟨member, matched⟩ : found ∈ table ∧ query found = true := latest_mem looked
    simp [beyond found member matched]

theorem greatest_none : table.greatest query revision = none ↔ ∀ row ∈ table, query row = false := by
  rw [greatest, Option.map_eq_none_iff, latest_none]

end SmartAo.Foundation.Table

namespace SmartAo.Foundation

variable {ρ : Type} {version : ρ → ℕ} {start : ℕ} {follows : Option ρ → ρ → Prop} {records seen : List ρ} {record : ρ}

/-- Consecutive versions; each record follows on from the one before it, the first from none. -/
structure Succession (version : ρ → ℕ) (start : ℕ) (follows : Option ρ → ρ → Prop) (records : List ρ) : Prop where
  versions : records.map version = List.range' start records.length
  linked : ∀ first record rest, records = first ++ record :: rest → follows first.getLast? record

/-- In an increasing list the greatest record is the last one. -/
theorem argmax_of_increasing {key : ρ → ℕ}
    (increasing : records.Pairwise fun first second => key first < key second) :
    records.argmax key = records.getLast? := by
  induction records using List.reverseRecOn with
  | nil => rfl
  | append_singleton records last ih =>
    obtain ⟨earlier, _, below⟩ := List.pairwise_append.mp increasing
    rw [List.argmax_concat, ih earlier, List.getLast?_concat]
    rcases List.eq_nil_or_concat records with rfl | ⟨first, previous, rfl⟩
    · rfl
    · have less : key previous < key last := below previous (by simp) last (List.mem_singleton_self _)
      simp [less]

theorem succession_concat : Succession version start follows (records ++ [record]) ↔
    Succession version start follows records ∧ version record = start + records.length ∧
      follows records.getLast? record := by
  constructor
  · intro whole
    have versions := whole.versions
    rw [List.map_append, List.length_append, List.length_singleton, List.range'_concat] at versions
    have last := List.append_inj_right' versions rfl
    rw [List.map_singleton, List.cons.injEq, Nat.one_mul] at last
    refine ⟨⟨List.append_inj_left' versions rfl, fun first middle rest split => ?_⟩, last.1,
      whole.linked records record [] rfl⟩
    exact whole.linked first middle (rest ++ [record]) (by rw [split]; simp)
  · rintro ⟨chain, numbered, follow⟩
    refine ⟨?_, fun first middle rest split => ?_⟩
    · rw [List.map_append, List.length_append, List.length_singleton, List.range'_concat, chain.versions,
        List.map_singleton, numbered, Nat.one_mul]
    · rcases List.eq_nil_or_concat rest with rfl | ⟨rest, last, rfl⟩
      · obtain ⟨same, equal⟩ := List.append_inj' split rfl
        rw [List.cons.injEq] at equal
        rw [← same, ← equal.1]
        exact follow
      · rw [List.concat_eq_append, ← List.cons_append, ← List.append_assoc] at split
        exact chain.linked first middle rest (List.append_inj_left' split rfl)

namespace Succession

theorem nil : Succession version start follows [] := ⟨rfl, fun first _ _ split => by cases first <;> cases split⟩

theorem initial (chain : Succession version start follows records) (older : seen <+: records) :
    Succession version start follows seen := by
  obtain ⟨rest, rfl⟩ := older
  induction rest using List.reverseRecOn with
  | nil => simpa using chain
  | append_singleton rest last ih =>
    rw [← List.append_assoc] at chain
    exact ih (succession_concat.mp chain).1

theorem increasing (chain : Succession version start follows records) :
    records.Pairwise fun first second => version first < version second := by
  have sorted : (records.map version).Pairwise (· < ·) := by
    rw [chain.versions]
    exact List.pairwise_lt_range'
  exact List.pairwise_map.mp sorted

/-- The version that follows on a chain. -/
theorem next_version (chain : Succession version start follows records) :
    records.getLast?.elim start (version · + 1) = start + records.length := by
  induction records using List.reverseRecOn with
  | nil => rfl
  | append_singleton records last _ =>
    have numbered := (succession_concat.mp chain).2.1
    rw [List.getLast?_concat, Option.elim_some, List.length_append, List.length_singleton]
    omega

/-- A list of earlier records that no record follows is the whole chain. -/
theorem whole (chain : Succession version start follows records) (older : seen <+: records)
    (fresh : ∀ record ∈ records, version record ≠ start + seen.length) : seen = records := by
  obtain ⟨rest, rfl⟩ := older
  cases rest with
  | nil => simp
  | cons following rest =>
    have longer : (seen ++ [following]) <+: seen ++ following :: rest := by simp
    have next := (succession_concat.mp (chain.initial longer)).2.1
    exact absurd next (fresh following (by simp))

/-- No record follows one that nothing may follow. -/
theorem last (chain : Succession version start follows records) {first rest : List ρ}
    (split : records = first ++ record :: rest) (final : ∀ other, ¬ follows (some record) other) : rest = [] := by
  cases rest with
  | nil => rfl
  | cons following rest =>
    have again : records = (first ++ [record]) ++ following :: rest := by
      rw [split]
      simp
    have follow := chain.linked _ following rest again
    rw [List.getLast?_concat] at follow
    exact absurd follow (final following)

end Succession

section Stored

variable [Schema ρ] {table earlier next : Table ρ} {query : ρ → Bool}

theorem Succession.latest (chain : Succession version start follows (table.rows.filter query)) :
    table.latest query version = (table.rows.filter query).getLast? := argmax_of_increasing chain.increasing

/-- A record that follows on from the latest one of an earlier state of the table extends the chain, when no other
    record has its version; the table has not moved since. -/
theorem Succession.insert (chain : Succession version start follows (table.rows.filter query))
    (older : earlier.rows <+: table.rows) (inserted : table.insert? record = some next) (inside : query record = true)
    (unique : ∀ stored ∈ table, query stored = true → version stored = version record → Schema.Conflict stored record)
    (numbered : version record = (earlier.latest query version).elim start (version · + 1))
    (follow : follows (earlier.latest query version) record) :
    next.rows.filter query = table.rows.filter query ++ [record] ∧
      Succession version start follows (next.rows.filter query) ∧
      table.latest query version = earlier.latest query version := by
  have filtered : earlier.rows.filter query <+: table.rows.filter query := older.filter query
  have past := chain.initial filtered
  rw [past.latest, past.next_version] at numbered
  have same : earlier.rows.filter query = table.rows.filter query := by
    refine chain.whole filtered fun stored member taken => ?_
    obtain ⟨present, matched⟩ := List.mem_filter.mp member
    exact Table.insert?_absent inserted stored present (unique stored present matched (taken.trans numbered.symm))
  have rows : next.rows.filter query = table.rows.filter query ++ [record] := by
    simp [Table.filter_insert? inserted, inside]
  rw [past.latest, same] at follow
  rw [same] at numbered
  refine ⟨rows, ?_, by rw [chain.latest, past.latest, same]⟩
  rw [rows]
  exact succession_concat.mpr ⟨chain, numbered, follow⟩

/-- One chain per key: a record extends the chain of its key and leaves the others as they are. -/
theorem Succession.insert_each {κ : Type} (ofKey : κ → ρ → Bool) {key : κ}
    (chains : ∀ key, Succession version start follows (table.rows.filter (ofKey key)))
    (older : earlier.rows <+: table.rows) (inserted : table.insert? record = some next) (inside : ofKey key record = true)
    (only : ∀ other, ofKey other record = true → other = key)
    (unique : ∀ stored ∈ table, ofKey key stored = true → version stored = version record →
      Schema.Conflict stored record)
    (numbered : version record = (earlier.latest (ofKey key) version).elim start (version · + 1))
    (follow : follows (earlier.latest (ofKey key) version) record) :
    ∀ key, Succession version start follows (next.rows.filter (ofKey key)) := by
  intro other
  by_cases its : ofKey other record = true
  · rw [only other its]
    exact ((chains key).insert older inserted inside unique numbered follow).2.1
  · rw [Table.filter_insert? inserted, Bool.eq_false_of_not_eq_true its]
    simpa using chains other

end Stored

end SmartAo.Foundation
