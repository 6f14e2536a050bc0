import SmartAo.Foundation.Files

namespace SmartAo.Foundation

/-- Names that lead to inodes, and what the inodes hold; a file may have several names, or none. -/
structure FileSystem (κ β : Type) where
  names : Files κ Nat
  inodes : List (List β)

namespace FileSystem

variable {κ β : Type} [DecidableEq κ] {fs next : FileSystem κ β} {name other source target : κ} {inode index : Nat}
  {bytes : List β}

def empty : FileSystem κ β := ⟨.empty, []⟩

/-- What a reader of a name finds. -/
def read (fs : FileSystem κ β) (name : κ) : Option (List β) := (fs.names.read name).bind fun inode => fs.inodes[inode]?

/-- An empty file under a name that was free, and its inode. -/
def create? (fs : FileSystem κ β) (name : κ) : Option (FileSystem κ β × Nat) :=
  (fs.names.write? name fs.inodes.length).map fun names => (⟨names, fs.inodes ++ [[]]⟩, fs.inodes.length)

/-- More bytes at the end of an open file, whatever its names are by now. -/
def append (fs : FileSystem κ β) (inode : Nat) (bytes : List β) : FileSystem κ β :=
  { fs with inodes := fs.inodes.modify inode (· ++ bytes) }

/-- A second name for a file; a name in use is not overwritten. -/
def link? (fs : FileSystem κ β) (source target : κ) : Option (FileSystem κ β) := do
  let inode ← fs.names.read source
  let names ← fs.names.write? target inode
  return { fs with names }

def unlink (fs : FileSystem κ β) (name : κ) : FileSystem κ β :=
  { fs with names := fs.names.keep fun other => decide (other ≠ name) }

/-- Every name leads to an inode. -/
def Sound (fs : FileSystem κ β) : Prop := ∀ name inode, fs.names.read name = some inode → inode < fs.inodes.length

theorem sound_empty : (empty : FileSystem κ β).Sound := fun _ _ found => by cases found

theorem create?_ok (created : fs.create? name = some (next, inode)) :
    fs.names.read name = none ∧ inode = fs.inodes.length ∧ next.inodes = fs.inodes ++ [[]] ∧
      ∀ other, next.names.read other = if other = name then some inode else fs.names.read other := by
  simp only [create?, Option.map_eq_some_iff, Prod.mk.injEq] at created
  obtain ⟨names, written, rfl, rfl⟩ := created
  exact ⟨Files.write?_absent written, rfl, rfl, fun other => Files.read_write? written⟩

theorem link?_ok (linked : fs.link? source target = some next) : ∃ inode, fs.names.read source = some inode ∧
    fs.names.read target = none ∧ next.inodes = fs.inodes ∧
      ∀ other, next.names.read other = if other = target then some inode else fs.names.read other := by
  simp only [link?, Option.bind_eq_bind, Option.bind_eq_some_iff, Option.pure_def, Option.some.injEq] at linked
  obtain ⟨inode, found, names, written, rfl⟩ := linked
  exact ⟨inode, found, Files.write?_absent written, rfl, fun other => Files.read_write? written⟩

theorem names_unlink : (fs.unlink name).names.read other = if other = name then none else fs.names.read other := by
  rw [unlink, Files.read_keep]
  by_cases same : other = name <;> simp [same]

theorem read_unlink : (fs.unlink name).read other = if other = name then none else fs.read other := by
  unfold read
  rw [names_unlink]
  split <;> rfl

theorem Sound.create? (sound : fs.Sound) (created : fs.create? name = some (next, inode)) : next.Sound := by
  obtain ⟨_, rfl, inodes, names⟩ := create?_ok created
  intro other index found
  rw [names] at found
  rw [inodes, List.length_append, List.length_singleton]
  split at found
  · cases found
    omega
  · have inside := sound other index found
    omega

theorem Sound.append (sound : fs.Sound) : (fs.append inode bytes).Sound := by
  intro other index found
  have inside := sound other index found
  simpa [FileSystem.append] using inside

theorem Sound.link? (sound : fs.Sound) (linked : fs.link? source target = some next) : next.Sound := by
  obtain ⟨inode, found, _, inodes, names⟩ := link?_ok linked
  intro other index shown
  rw [names] at shown
  rw [inodes]
  split at shown
  · cases shown
    exact sound source inode found
  · exact sound other index shown

theorem Sound.unlink (sound : fs.Sound) : (fs.unlink name).Sound := by
  intro other index found
  rw [names_unlink] at found
  split at found
  · cases found
  · exact sound other index found

theorem read_link? (linked : fs.link? source target = some next) :
    next.read other = if other = target then fs.read source else fs.read other := by
  obtain ⟨inode, found, _, inodes, names⟩ := link?_ok linked
  unfold read
  rw [names, inodes]
  by_cases same : other = target
  · simp [same, found]
  · simp [same]

/-- No other name leads to a file. -/
def Sole (fs : FileSystem κ β) (name : κ) (inode : Nat) : Prop := ∀ other, fs.names.read other = some inode → other = name

/-- What happens elsewhere leaves a name, what it leads to, and that no other name leads there. -/
structure KeptAt (fs next : FileSystem κ β) (name : κ) : Prop where
  names : next.names.read name = fs.names.read name
  content : ∀ inode, fs.names.read name = some inode → next.inodes[inode]? = fs.inodes[inode]?
  sole : ∀ inode, fs.names.read name = some inode → fs.Sole name inode → next.Sole name inode

theorem KeptAt.refl : KeptAt fs fs name := ⟨rfl, fun _ _ => rfl, fun _ _ sole => sole⟩

theorem KeptAt.read (kept : KeptAt fs next name) : next.read name = fs.read name := by
  unfold FileSystem.read
  rw [kept.names]
  cases found : fs.names.read name with
  | none => rfl
  | some inode => exact kept.content inode found

theorem keptAt_create? (sound : fs.Sound) (created : fs.create? other = some (next, index)) (apart : name ≠ other) :
    KeptAt fs next name := by
  obtain ⟨_, rfl, inodes, names⟩ := create?_ok created
  refine ⟨by rw [names, if_neg apart], fun inode found => ?_, fun inode found sole third leads => ?_⟩
  · rw [inodes, List.getElem?_append_left (sound name inode found)]
  · rw [names] at leads
    split at leads
    · cases leads
      exact absurd (sound name _ found) (Nat.lt_irrefl _)
    · exact sole third leads

theorem keptAt_append (apart : fs.names.read name ≠ some index) : KeptAt fs (fs.append index bytes) name := by
  refine ⟨rfl, fun inode found => ?_, fun _ _ sole => sole⟩
  have different : index ≠ inode := by
    rintro rfl
    exact apart found
  rw [append, List.getElem?_modify]
  cases fs.inodes[inode]? <;> simp [different]

theorem keptAt_link? (linked : fs.link? source target = some next) (notTarget : name ≠ target) (notSource : name ≠ source) :
    KeptAt fs next name := by
  obtain ⟨shared, found, _, inodes, names⟩ := link?_ok linked
  refine ⟨by rw [names, if_neg notTarget], fun inode _ => by rw [inodes], fun inode leads sole third shown => ?_⟩
  rw [names] at shown
  split at shown
  · cases shown
    exact absurd (sole source found).symm notSource
  · exact sole third shown

theorem keptAt_unlink (apart : name ≠ other) : KeptAt fs (fs.unlink other) name := by
  refine ⟨by rw [names_unlink, if_neg apart], fun _ _ => rfl, fun inode _ sole third leads => ?_⟩
  rw [names_unlink] at leads
  split at leads
  · cases leads
  · exact sole third leads

/-- A file just created is empty, and its name is the only one. -/
theorem create?_sole (sound : fs.Sound) (created : fs.create? name = some (next, inode)) :
    next.names.read name = some inode ∧ next.inodes[inode]? = some [] ∧ next.Sole name inode := by
  obtain ⟨_, rfl, inodes, names⟩ := create?_ok created
  refine ⟨by rw [names, if_pos rfl], by rw [inodes, List.getElem?_concat_length], fun other leads => ?_⟩
  rw [names] at leads
  split at leads
  · assumption
  · exact absurd (sound other _ leads) (Nat.lt_irrefl _)

end FileSystem

end SmartAo.Foundation
