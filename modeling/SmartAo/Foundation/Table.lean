import Mathlib.Data.List.Pairwise

namespace SmartAo.Foundation

/-- The columns a table constrains (its primary key and unique constraints), and when two rows
    violate one of the constraints. -/
class Schema (ρ : Type) where
  Columns : Type
  columns : ρ → Columns
  Clash : Columns → Columns → Prop
  decidableClash : DecidableRel Clash
  symm : ∀ {first second}, Clash first second → Clash second first

instance {ρ : Type} [schema : Schema ρ] : DecidableRel schema.Clash := schema.decidableClash

def Schema.Conflict {ρ : Type} [Schema ρ] (first second : ρ) : Prop :=
  Schema.Clash (Schema.columns first) (Schema.columns second)

instance {ρ : Type} [Schema ρ] : DecidableRel (Schema.Conflict (ρ := ρ)) := fun first second =>
  inferInstanceAs (Decidable (Schema.Clash (Schema.columns first) (Schema.columns second)))

/-- A primary key. -/
@[reducible] def Schema.primary {ρ ι : Type} [DecidableEq ι] (columns : ρ → ι) : Schema ρ where
  Columns := ι
  columns := columns
  Clash first second := first = second
  decidableClash := inferInstance
  symm := Eq.symm

/-- A primary key, and one further key. -/
@[reducible] def Schema.keyed {ρ ι α : Type} [DecidableEq ι] [DecidableEq α] (columns : ρ → ι × α) :
    Schema ρ where
  Columns := ι × α
  columns := columns
  Clash first second := first.1 = second.1 ∨ first.2 = second.2
  decidableClash := inferInstance
  symm clash := clash.imp Eq.symm Eq.symm

/-- A primary key, and two further keys within an owner. -/
@[reducible] def Schema.ownedKeys {ρ ι κ α β : Type} [DecidableEq ι] [DecidableEq κ] [DecidableEq α]
    [DecidableEq β] (columns : ρ → ι × κ × α × β) : Schema ρ where
  Columns := ι × κ × α × β
  columns := columns
  Clash first second := first.1 = second.1 ∨
    (first.2.1 = second.2.1 ∧ (first.2.2.1 = second.2.2.1 ∨ first.2.2.2 = second.2.2.2))
  decidableClash _ _ := inferInstance
  symm clash := clash.imp Eq.symm fun ⟨owner, keys⟩ => ⟨owner.symm, keys.imp Eq.symm Eq.symm⟩

open Schema

/-- Stored rows in insertion order; no two of them violate a constraint. -/
structure Table (ρ : Type) [Schema ρ] where
  rows : List ρ
  distinct : rows.Pairwise fun first second => ¬ Conflict first second

namespace Table

variable {ρ : Type} [Schema ρ] {table next : Table ρ} {row first second : ρ}

def empty : Table ρ := ⟨[], List.Pairwise.nil⟩

def singleton (row : ρ) : Table ρ := ⟨[row], List.pairwise_singleton _ _⟩

instance : Membership ρ (Table ρ) := ⟨fun table row => row ∈ table.rows⟩

instance {table : Table ρ} {predicate : ρ → Prop} [DecidablePred predicate] :
    Decidable (∀ row ∈ table, predicate row) :=
  inferInstanceAs (Decidable (∀ row ∈ table.rows, predicate row))

instance {table : Table ρ} {predicate : ρ → Prop} [DecidablePred predicate] :
    Decidable (∃ row ∈ table, predicate row) :=
  inferInstanceAs (Decidable (∃ row ∈ table.rows, predicate row))

def find? (table : Table ρ) (query : ρ → Bool) : Option ρ := table.rows.find? query

/-- INSERT: fails when a stored row conflicts with the new one. -/
def insert? (table : Table ρ) (row : ρ) : Option (Table ρ) :=
  if absent : ∀ stored ∈ table.rows, ¬ Conflict stored row then
    some ⟨table.rows ++ [row], List.pairwise_append.mpr
      ⟨table.distinct, List.pairwise_singleton _ _, fun stored member other only => by
        rw [List.mem_singleton.mp only]
        exact absent stored member⟩⟩
  else none

def insertAll? (table : Table ρ) : List ρ → Option (Table ρ)
  | [] => some table
  | row :: rows => (table.insert? row).bind fun next => next.insertAll? rows

/-- UPDATE of columns under no constraint, on the rows that match the query. -/
def update (table : Table ρ) (query : ρ → Bool) (change : ρ → ρ)
    (keeps : ∀ row, columns (change row) = columns row) : Table ρ where
  rows := table.rows.map fun row => if query row then change row else row
  distinct := by
    have same : ∀ row : ρ, columns (if query row then change row else row) = columns row := by
      intro row
      split
      · exact keeps row
      · rfl
    refine List.pairwise_map.mpr (table.distinct.imp ?_)
    intro first second apart
    simpa only [Conflict, same] using apart

/-- UPDATE of constrained columns on the rows that match the query: fails when two rows would conflict. -/
def rewrite? (table : Table ρ) (query : ρ → Bool) (change : ρ → ρ) : Option (Table ρ) :=
  if distinct : (table.rows.map fun row => if query row then change row else row).Pairwise
      fun first second => ¬ Conflict first second then some ⟨_, distinct⟩
  else none

theorem mem_rows : row ∈ table.rows ↔ row ∈ table := Iff.rfl

@[simp] theorem not_mem_empty : ¬ row ∈ (empty : Table ρ) := List.not_mem_nil

theorem eq_of_conflict (hf : first ∈ table) (hs : second ∈ table) (conflict : Conflict first second) :
    first = second := by
  have symmetric : Std.Symm fun first second : ρ => ¬ Conflict first second :=
    ⟨fun _ _ apart h => apart (symm h)⟩
  by_contra different
  exact table.distinct.forall hf hs different conflict

theorem insert?_rows (inserted : table.insert? row = some next) : next.rows = table.rows ++ [row] := by
  simp only [insert?] at inserted
  split at inserted
  · rw [← Option.some.inj inserted]
  · cases inserted

theorem filter_insert? (inserted : table.insert? row = some next) (query : ρ → Bool) :
    next.rows.filter query = table.rows.filter query ++ if query row then [row] else [] := by
  rw [insert?_rows inserted, List.filter_append]
  cases matched : query row <;> simp [matched]

theorem insert?_isSome : (table.insert? row).isSome ↔ ∀ stored ∈ table, ¬ Conflict stored row := by
  simp only [insert?]
  split
  · rename_i absent
    exact iff_of_true rfl absent
  · rename_i present
    exact iff_of_false Bool.false_ne_true present

theorem insert?_absent (inserted : table.insert? row = some next) :
    ∀ stored ∈ table, ¬ Conflict stored row :=
  insert?_isSome.mp (by simp [inserted])

theorem mem_insert? {other : ρ} (inserted : table.insert? row = some next) :
    other ∈ next ↔ other ∈ table ∨ other = row := by
  rw [← mem_rows, insert?_rows inserted, List.mem_append, List.mem_singleton, mem_rows]

theorem insertAll?_rows {rows : List ρ} (inserted : table.insertAll? rows = some next) :
    next.rows = table.rows ++ rows := by
  induction rows generalizing table with
  | nil => cases inserted; simp
  | cons row rows ih =>
    obtain ⟨middle, one, rest⟩ := Option.bind_eq_some_iff.mp inserted
    rw [ih rest, insert?_rows one]
    simp

theorem mem_insertAll? {rows : List ρ} {other : ρ} (inserted : table.insertAll? rows = some next) :
    other ∈ next ↔ other ∈ table ∨ other ∈ rows := by
  rw [← mem_rows, insertAll?_rows inserted, List.mem_append, mem_rows]

/-- A list of rows is inserted exactly when it conflicts neither with the table nor with itself. -/
theorem insertAll?_isSome {rows : List ρ} : (table.insertAll? rows).isSome ↔
    (∀ stored ∈ table, ∀ row ∈ rows, ¬ Conflict stored row) ∧
      rows.Pairwise fun first second => ¬ Conflict first second := by
  induction rows generalizing table with
  | nil => simp [insertAll?]
  | cons row rows ih =>
    cases inserted : table.insert? row with
    | none =>
      have clash : ¬ ∀ stored ∈ table, ¬ Conflict stored row := fun absent => by
        simpa [inserted] using insert?_isSome.mpr absent
      simp only [insertAll?, inserted, Option.bind_none, Option.isSome_none, Bool.false_eq_true,
        false_iff, not_and]
      exact fun absent => absurd (fun stored member => absent stored member row (by simp)) clash
    | some next =>
      have absent := insert?_absent inserted
      simp only [insertAll?, inserted, Option.bind_some, ih, mem_insert? inserted, List.mem_cons,
        List.pairwise_cons]
      constructor
      · rintro ⟨free, apart⟩
        refine ⟨?_, fun other member => free row (.inr rfl) other member, apart⟩
        rintro stored member other (rfl | later)
        · exact absent stored member
        · exact free stored (.inl member) other later
      · rintro ⟨free, head, apart⟩
        refine ⟨?_, apart⟩
        rintro stored (member | rfl) other later
        · exact free stored member other (.inr later)
        · exact head other later

theorem insertAll?_isSome_columns {rows : List ρ} : (table.insertAll? rows).isSome ↔
    (∀ stored ∈ table, ∀ column ∈ rows.map columns, ¬ Clash (columns stored) column) ∧
      (rows.map columns).Pairwise fun first second => ¬ Clash first second := by
  rw [insertAll?_isSome, List.pairwise_map]
  refine and_congr (forall₂_congr fun stored _ => ?_) Iff.rfl
  simp only [List.mem_map, forall_exists_index, and_imp, forall_apply_eq_imp_iff₂]
  exact Iff.rfl

/-- Whether rows are inserted depends on their constrained columns alone. -/
theorem insertAll?_isSome_congr {rows others : List ρ} (same : rows.map columns = others.map columns) :
    (table.insertAll? rows).isSome ↔ (table.insertAll? others).isSome := by
  rw [insertAll?_isSome_columns, insertAll?_isSome_columns, same]

theorem mem_update {query : ρ → Bool} {change : ρ → ρ}
    {keeps : ∀ row, columns (change row) = columns row} :
    row ∈ table.update query change keeps ↔
      ∃ old ∈ table, (if query old then change old else old) = row :=
  List.mem_map

/-- A row of an updated table is an old row outside the query or the change of one inside it. -/
theorem mem_update_cases {query : ρ → Bool} {change : ρ → ρ}
    {keeps : ∀ row, columns (change row) = columns row}
    (member : row ∈ table.update query change keeps) :
    (row ∈ table ∧ query row = false) ∨ ∃ old ∈ table, query old = true ∧ row = change old := by
  obtain ⟨old, stored, rfl⟩ := mem_update.mp member
  cases h : query old
  · exact .inl (by simp [h, stored])
  · exact .inr ⟨old, stored, h, by simp⟩

theorem mem_update_of_not {query : ρ → Bool} {change : ρ → ρ}
    {keeps : ∀ row, columns (change row) = columns row} (member : row ∈ table)
    (outside : query row = false) : row ∈ table.update query change keeps :=
  mem_update.mpr ⟨row, member, by simp [outside]⟩

theorem mem_update_of {query : ρ → Bool} {change : ρ → ρ}
    {keeps : ∀ row, columns (change row) = columns row} (member : row ∈ table)
    (inside : query row = true) : change row ∈ table.update query change keeps :=
  mem_update.mpr ⟨row, member, by simp [inside]⟩

/-- Updating by a constrained key changes one stored row and keeps the others. -/
theorem mem_update_key {query : ρ → Bool} {change : ρ → ρ} {other : ρ}
    {keeps : ∀ row, columns (change row) = columns row} (key : ∀ {first second : ρ},
      query first = true → query second = true → Conflict first second)
    (member : row ∈ table) (inside : query row = true) :
    other ∈ table.update query change keeps ↔
      other = change row ∨ (other ∈ table ∧ query other = false) := by
  constructor
  · intro updated
    rcases mem_update_cases updated with outside | ⟨old, stored, matched, rfl⟩
    · exact .inr outside
    · rw [eq_of_conflict stored member (key matched inside)]
      exact .inl rfl
  · rintro (rfl | ⟨stored, outside⟩)
    · exact mem_update_of member inside
    · exact mem_update_of_not stored outside

/-- A selection that the change keeps selects the changed rows. -/
theorem filter_update {query selected : ρ → Bool} {change : ρ → ρ}
    {keeps : ∀ row, columns (change row) = columns row} (same : ∀ row, selected (change row) = selected row) :
    (table.update query change keeps).rows.filter selected =
      (table.rows.filter selected).map fun row => if query row then change row else row := by
  rw [update, List.filter_map]
  have unchanged : (selected ∘ fun row => if query row then change row else row) = selected := by
    funext row
    rw [Function.comp_apply]
    split
    · exact same row
    · rfl
  rw [unchanged]

theorem update_congr {query : ρ → Bool} {change other : ρ → ρ}
    {keeps : ∀ row, columns (change row) = columns row} {also : ∀ row, columns (other row) = columns row}
    (same : ∀ row ∈ table, query row = true → change row = other row) :
    table.update query change keeps = table.update query other also := by
  have rows : (table.rows.map fun row => if query row then change row else row) =
      table.rows.map fun row => if query row then other row else row := by
    refine List.map_congr_left fun row member => ?_
    split
    · rename_i matched
      exact same row member matched
    · rfl
  unfold update
  congr

theorem rewrite?_rows {query : ρ → Bool} {change : ρ → ρ} (rewritten : table.rewrite? query change = some next) :
    next.rows = table.rows.map fun row => if query row then change row else row := by
  unfold rewrite? at rewritten
  split at rewritten
  · rw [← Option.some.inj rewritten]
  · cases rewritten

theorem mem_rewrite? {query : ρ → Bool} {change : ρ → ρ} (rewritten : table.rewrite? query change = some next) :
    row ∈ next ↔ ∃ old ∈ table, (if query old then change old else old) = row := by
  rw [← mem_rows, rewrite?_rows rewritten, List.mem_map]
  rfl

theorem find?_mem {query : ρ → Bool} (found : table.find? query = some row) : row ∈ table :=
  List.mem_of_find?_eq_some found

theorem find?_query {query : ρ → Bool} (found : table.find? query = some row) : query row = true :=
  List.find?_some found

theorem find?_none {query : ρ → Bool} :
    table.find? query = none ↔ ∀ row ∈ table, query row = false := by
  simp only [find?, List.find?_eq_none, Bool.not_eq_true, mem_rows]

/-- A query on a constrained key finds the stored row, and only that one. -/
theorem find?_eq_some {query : ρ → Bool} (key : ∀ {first second : ρ}, query first = true →
      query second = true → Conflict first second) :
    table.find? query = some row ↔ row ∈ table ∧ query row = true := by
  constructor
  · exact fun found => ⟨find?_mem found, find?_query found⟩
  · rintro ⟨member, inside⟩
    cases found : table.find? query with
    | none => simp [find?_none.mp found row member] at inside
    | some other =>
      rw [eq_of_conflict (find?_mem found) member (key (find?_query found) inside)]

/-- A query on a constrained key selects the stored row alone. -/
theorem filter_key {query : ρ → Bool} (key : ∀ {first second : ρ}, query first = true →
      query second = true → Conflict first second) (member : row ∈ table) (inside : query row = true) :
    table.rows.filter query = [row] := by
  have selected : row ∈ table.rows.filter query := List.mem_filter.mpr ⟨member, inside⟩
  have apart := table.distinct.filter query
  cases rows : table.rows.filter query with
  | nil =>
    rw [rows] at selected
    cases selected
  | cons first rest =>
    cases rest with
    | nil =>
      rw [rows, List.mem_singleton] at selected
      rw [selected]
    | cons second rest =>
      rw [rows] at apart
      have one : query first = true := (List.mem_filter.mp (rows ▸ List.mem_cons_self)).2
      have two : query second = true :=
        (List.mem_filter.mp (rows ▸ List.mem_cons_of_mem _ List.mem_cons_self)).2
      exact absurd (key one two) ((List.pairwise_cons.mp apart).1 second List.mem_cons_self)

/-- A query on a constrained key finds the same row in whatever order the rows come. -/
theorem find?_perm {other : Table ρ} {query : ρ → Bool} (key : ∀ {first second : ρ}, query first = true →
      query second = true → Conflict first second) (same : table.rows.Perm other.rows) :
    table.find? query = other.find? query := by
  refine Option.ext fun row => ?_
  rw [find?_eq_some key, find?_eq_some key, ← mem_rows, ← mem_rows, same.mem_iff]

section Upsert

open Schema

variable {ρ : Type} [Schema ρ] {table next : Table ρ} {row : ρ} {same : ρ → Bool}

/-- INSERT ... ON CONFLICT (key) DO NOTHING: a row that the key finds stays, and no other conflict is ignored. -/
def insertIgnoring (table : Table ρ) (same : ρ → Bool) (row : ρ) : Option (Table ρ) :=
  if table.rows.any same then some table else table.insert? row

theorem insertIgnoring_cases (inserted : table.insertIgnoring same row = some next) :
    (next = table ∧ ∃ stored ∈ table, same stored = true) ∨
      ((∀ stored ∈ table, same stored = false) ∧ table.insert? row = some next) := by
  unfold insertIgnoring at inserted
  cases found : table.rows.any same with
  | true =>
    rw [if_pos found] at inserted
    exact .inl ⟨(Option.some.inj inserted).symm, List.any_eq_true.mp found⟩
  | false =>
    rw [found] at inserted
    refine .inr ⟨fun stored member => ?_, inserted⟩
    simpa using List.any_eq_false.mp found stored member

theorem mem_insertIgnoring (inserted : table.insertIgnoring same row = some next) {stored : ρ}
    (member : stored ∈ table) : stored ∈ next := by
  rcases insertIgnoring_cases inserted with ⟨rfl, -⟩ | ⟨-, new⟩
  · exact member
  · exact (mem_insert? new).mpr (.inl member)

/-- A stored row of the table after the statement was there before, or is the new row. -/
theorem mem_of_insertIgnoring (inserted : table.insertIgnoring same row = some next) {stored : ρ}
    (member : stored ∈ next) :
    stored ∈ table ∨ (stored = row ∧ ∀ other ∈ table, same other = false ∧ ¬ Conflict other row) := by
  rcases insertIgnoring_cases inserted with ⟨rfl, -⟩ | ⟨absent, new⟩
  · exact .inl member
  · rcases (mem_insert? new).mp member with old | only
    · exact .inl old
    · exact .inr ⟨only, fun other stored => ⟨absent other stored, insert?_absent new other stored⟩⟩

/-- Some stored row has the key after the statement. -/
theorem insertIgnoring_found (inserted : table.insertIgnoring same row = some next) (own : same row = true) :
    ∃ stored ∈ next, same stored = true := by
  rcases insertIgnoring_cases inserted with ⟨rfl, found⟩ | ⟨-, new⟩
  · exact found
  · exact ⟨row, (mem_insert? new).mpr (.inr rfl), own⟩

end Upsert

end Table

end SmartAo.Foundation
