import Mathlib.Data.List.Nodup
import Mathlib.Data.List.Infix

namespace SmartAo.Foundation

/-- Values by key, in the order the keys were first assigned. -/
structure Dict (κ β : Type*) where
  entries : List (κ × β)
  distinct : (entries.map Prod.fst).Nodup

namespace Dict

variable {κ β : Type*} {dict : Dict κ β} {key other : κ} {value : β}

def empty : Dict κ β := ⟨[], List.nodup_nil⟩

def size (dict : Dict κ β) : Nat := dict.entries.length

/-- The entries that meet a condition. -/
def keep (dict : Dict κ β) (wanted : κ × β → Bool) : Dict κ β where
  entries := dict.entries.filter wanted
  distinct := dict.distinct.sublist (List.filter_sublist.map _)

variable [DecidableEq κ]

def get (dict : Dict κ β) (key : κ) : Option β := dict.entries.lookup key

def pop (dict : Dict κ β) (key : κ) : Dict κ β := dict.keep fun entry => entry.1 ≠ key

theorem get_eq_some : dict.get key = some value ↔ (key, value) ∈ dict.entries := by
  obtain ⟨entries, distinct⟩ := dict
  unfold get
  induction entries with
  | nil => simp
  | cons entry entries ih =>
    obtain ⟨name, stored⟩ := entry
    obtain ⟨fresh, rest⟩ := List.nodup_cons.mp distinct
    have tail := ih rest
    by_cases same : key = name
    · subst same
      rw [List.lookup_cons_self]
      constructor
      · intro found
        rw [Option.some.inj found]
        exact List.mem_cons_self
      · intro member
        rcases List.mem_cons.mp member with head | later
        · rw [(Prod.mk.inj head).2]
        · exact absurd (List.mem_map_of_mem later) fresh
    · rw [List.lookup_cons, beq_false_of_ne same]
      dsimp only at tail ⊢
      rw [tail, List.mem_cons]
      constructor
      · exact .inr
      · rintro (head | later)
        · exact absurd (Prod.mk.inj head).1 same
        · exact later

theorem get_eq_none : dict.get key = none ↔ key ∉ dict.entries.map Prod.fst := by
  rw [Option.eq_none_iff_forall_ne_some]
  constructor
  · intro absent member
    obtain ⟨⟨name, value⟩, stored, rfl⟩ := List.mem_map.mp member
    exact absent value (get_eq_some.mpr stored)
  · intro absent value found
    exact absent (List.mem_map_of_mem (get_eq_some.mp found))

@[simp] theorem get_empty : (empty : Dict κ β).get key = none := rfl

theorem get_keep {wanted : κ × β → Bool} :
    (dict.keep wanted).get key = (dict.get key).filter fun value => wanted (key, value) := by
  ext value
  rw [get_eq_some, Option.filter_eq_some_iff, get_eq_some]
  exact List.mem_filter

theorem get_pop : (dict.pop key).get other = if other = key then none else dict.get other := by
  rw [pop, get_keep]
  by_cases same : other = key
  · simp [same]
  · cases dict.get other <;> simp [same]

/-- An assignment keeps the place of a key that is there. -/
def assign (dict : Dict κ β) (key : κ) (value : β) : Dict κ β where
  entries := if key ∈ dict.entries.map Prod.fst then
      dict.entries.map fun entry => if entry.1 = key then (key, value) else entry
    else dict.entries ++ [(key, value)]
  distinct := by
    split
    · have names : (dict.entries.map fun entry => if entry.1 = key then (key, value) else entry).map Prod.fst =
          dict.entries.map Prod.fst := by
        rw [List.map_map]
        refine List.map_congr_left fun entry _ => ?_
        by_cases same : entry.1 = key
        · simp [same]
        · simp [same]
      rw [names]
      exact dict.distinct
    · rename_i absent
      rw [List.map_append]
      refine List.nodup_append.mpr ⟨dict.distinct, List.nodup_singleton _, fun name member last only same => ?_⟩
      have named : last = key := by simpa using only
      rw [same, named] at member
      exact absent member

theorem assign_entries : (dict.assign key value).entries = if key ∈ dict.entries.map Prod.fst then
    dict.entries.map fun entry => if entry.1 = key then (key, value) else entry
  else dict.entries ++ [(key, value)] := rfl

theorem get_assign : (dict.assign key value).get other = if other = key then some value else dict.get other := by
  ext stored
  rw [get_eq_some, assign_entries]
  by_cases present : key ∈ dict.entries.map Prod.fst
  · rw [if_pos present, List.mem_map]
    by_cases same : other = key
    · subst same
      rw [if_pos rfl, Option.some.injEq]
      constructor
      · rintro ⟨entry, member, changed⟩
        by_cases here : entry.1 = other
        · rw [if_pos here] at changed
          exact (Prod.mk.inj changed).2
        · rw [if_neg here] at changed
          exact absurd (congrArg Prod.fst changed) here
      · rintro rfl
        obtain ⟨entry, member, here⟩ := List.mem_map.mp present
        exact ⟨entry, member, by rw [if_pos here]⟩
    · rw [if_neg same, get_eq_some]
      constructor
      · rintro ⟨entry, member, changed⟩
        by_cases here : entry.1 = key
        · rw [if_pos here] at changed
          exact absurd (congrArg Prod.fst changed).symm same
        · rw [if_neg here] at changed
          rw [← changed]
          exact member
      · intro member
        exact ⟨_, member, by rw [if_neg same]⟩
  · rw [if_neg present, List.mem_append, List.mem_singleton]
    by_cases same : other = key
    · subst same
      rw [if_pos rfl, Option.some.injEq]
      constructor
      · rintro (old | new)
        · exact absurd (List.mem_map_of_mem old) present
        · exact (Prod.mk.inj new).2.symm
      · rintro rfl
        exact .inr rfl
    · rw [if_neg same, get_eq_some]
      constructor
      · rintro (old | new)
        · exact old
        · exact absurd (Prod.mk.inj new).1 same
      · exact .inl

@[simp] theorem get_assign_self : (dict.assign key value).get key = some value := by
  rw [get_assign, if_pos rfl]

/-- Entries assigned one after another. -/
def ofEntries (entries : List (κ × β)) : Dict κ β := entries.foldl (fun dict entry => dict.assign entry.1 entry.2) empty

theorem foldl_assign {entries : List (κ × β)} (fresh : ((dict.entries ++ entries).map Prod.fst).Nodup) :
    (entries.foldl (fun dict entry => dict.assign entry.1 entry.2) dict).entries = dict.entries ++ entries := by
  induction entries generalizing dict with
  | nil => rw [List.foldl_nil, List.append_nil]
  | cons entry entries ih =>
    have absent : entry.1 ∉ dict.entries.map Prod.fst := by
      rw [List.map_append, List.map_cons, List.nodup_append] at fresh
      intro member
      exact fresh.2.2 entry.1 member entry.1 List.mem_cons_self rfl
    have assigned : (dict.assign entry.1 entry.2).entries = dict.entries ++ [entry] := by
      rw [assign_entries, if_neg absent]
    have grown : dict.entries ++ entry :: entries = (dict.assign entry.1 entry.2).entries ++ entries := by
      rw [assigned, List.append_assoc]
      rfl
    rw [grown] at fresh ⊢
    exact ih fresh

/-- Entries of distinct keys are those of their dictionary. -/
theorem ofEntries_entries {entries : List (κ × β)} (distinct : (entries.map Prod.fst).Nodup) :
    (ofEntries entries).entries = entries :=
  foldl_assign distinct

end Dict

end SmartAo.Foundation
