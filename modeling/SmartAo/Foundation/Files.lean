import Mathlib.Data.List.Basic

namespace SmartAo.Foundation

/-- Files by key, written once each. -/
structure Files (κ β : Type) where
  entries : List (κ × β)

namespace Files

variable {κ β : Type} [DecidableEq κ] {files next : Files κ β} {key other : κ} {content : β}

def empty : Files κ β := ⟨[]⟩

def read (files : Files κ β) (key : κ) : Option β := files.entries.lookup key

/-- Creates a file; an existing one is not overwritten. -/
def write? (files : Files κ β) (key : κ) (content : β) : Option (Files κ β) :=
  match files.read key with
  | some _ => none
  | none => some ⟨(key, content) :: files.entries⟩

/-- The files whose keys meet a condition. -/
def keep (files : Files κ β) (wanted : κ → Bool) : Files κ β :=
  ⟨files.entries.filter fun entry => wanted entry.1⟩

@[simp] theorem read_empty : (empty : Files κ β).read key = none := rfl

theorem write?_isSome : (files.write? key content).isSome ↔ files.read key = none := by
  cases found : files.read key with
  | none => simp [write?, found]
  | some stored => simp [write?, found]

theorem write?_absent (written : files.write? key content = some next) : files.read key = none :=
  write?_isSome.mp (Option.isSome_iff_exists.mpr ⟨next, written⟩)

theorem read_write? (written : files.write? key content = some next) :
    next.read other = if other = key then some content else files.read other := by
  have absent := write?_absent written
  simp only [write?, absent, Option.some.injEq] at written
  rw [← written]
  by_cases same : other = key
  · simp [read, same]
  · simp [read, List.lookup_cons, same, beq_false_of_ne same]

theorem read_keep {wanted : κ → Bool} :
    (files.keep wanted).read key = if wanted key then files.read key else none := by
  obtain ⟨entries⟩ := files
  unfold keep read
  induction entries with
  | nil => simp
  | cons entry entries ih =>
    obtain ⟨name, content⟩ := entry
    by_cases same : key = name
    · subst same
      cases h : wanted key
      · simpa [h, List.filter_cons] using ih
      · simp [h]
    · by_cases h : wanted name
      · simpa [h, List.filter_cons, List.lookup_cons, beq_false_of_ne same] using ih
      · simpa [h, List.filter_cons, List.lookup_cons, beq_false_of_ne same] using ih

end Files

end SmartAo.Foundation
