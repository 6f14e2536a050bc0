import SmartAo.Dce.Quarantine

namespace SmartAo.Dce

open SmartAo.Foundation SmartAo.Platform

variable {state next : QuarantineState} {call other : QuarantineWrite} {path : StoragePath} {uuid : Uuid} {index : Nat}
  {fs after : FileSystem StoragePath UInt8}

/-- A path whose last name is not that of a hidden file. -/
def Plain (path : StoragePath) : Prop := ∀ name ∈ path.getLast?, name.head? ≠ some '.'

instance : Decidable (Plain path) := inferInstanceAs (Decidable (∀ name ∈ path.getLast?, name.head? ≠ some '.'))

theorem pathNames_intercalate {names : StoragePath} (some_ : names ≠ [])
    (each : ∀ name ∈ names, '/' ∉ name ∧ name ≠ [] ∧ name ≠ ['.']) : pathNames (['/'].intercalate names) = names := by
  have plain : (['/'].intercalate names).splitOn '/' = names :=
    List.splitOn_intercalate '/' (fun name member => (each name member).1) some_
  rw [pathNames, plain]
  exact List.filter_eq_self.mpr fun name member => decide_eq_true (each name member).2

theorem chars_name (id : Uuid) : '/' ∉ id.chars ∧ '.' ∉ id.chars ∧ id.chars ≠ [] := by
  have outside : ¬ IsHexDigit '/' ∧ ¬ IsHexDigit '.' := by decide
  refine ⟨fun member => ?_, fun member => ?_, fun none_ => ?_⟩
  · rcases Uuid.mem_chars member with digit | dash
    · exact outside.1 digit
    · cases dash
  · rcases Uuid.mem_chars member with digit | dash
    · exact outside.2 digit
    · cases dash
  · have size := congrArg List.length none_
    simp [Uuid.chars] at size

def stagingPath (tenantId storageObjectId : Uuid) : StoragePath :=
  ["dce-staging".toList, tenantId.chars, storageObjectId.chars]

/-- The keys that staging draws name files that are not hidden. -/
theorem stagingStorageKey_path (tenantId storageObjectId : Uuid) :
    storagePath? (stagingStorageKey tenantId storageObjectId) = some (stagingPath tenantId storageObjectId) ∧
      Plain (stagingPath tenantId storageObjectId) := by
  have each : ∀ name ∈ stagingPath tenantId storageObjectId, '/' ∉ name ∧ '.' ∉ name ∧ name ≠ [] := by
    have first : '/' ∉ "dce-staging".toList ∧ '.' ∉ "dce-staging".toList ∧ "dce-staging".toList ≠ [] := by decide +kernel
    unfold stagingPath
    simp only [List.forall_mem_cons, List.not_mem_nil, false_implies, implies_true, and_true]
    exact ⟨first, chars_name tenantId, chars_name storageObjectId⟩
  have shape : (stagingStorageKey tenantId storageObjectId).toList =
      "dce-staging/".toList ++ (tenantId.chars ++ '/' :: storageObjectId.chars) := String.toList_ofList
  have text : (stagingStorageKey tenantId storageObjectId).toList =
      ['/'].intercalate (stagingPath tenantId storageObjectId) := by
    have folder : "dce-staging/".toList = "dce-staging".toList ++ ['/'] := by decide +kernel
    rw [shape, folder, stagingPath]
    generalize "dce-staging".toList = name
    simp [List.intercalate]
  have names : pathNames (stagingStorageKey tenantId storageObjectId).toList = stagingPath tenantId storageObjectId := by
    rw [text]
    refine pathNames_intercalate (List.cons_ne_nil _ _) fun name member => ?_
    obtain ⟨slash, dot, some_⟩ := each name member
    refine ⟨slash, some_, ?_⟩
    rintro rfl
    exact dot (List.mem_singleton_self _)
  have climbs : ['.', '.'] ∉ stagingPath tenantId storageObjectId := fun member =>
    (each _ member).2.1 (List.mem_cons_self ..)
  have relative : (stagingStorageKey tenantId storageObjectId).toList.head? ≠ some '/' := by
    have letter : "dce-staging/".toList.head? = some 'd' := by decide +kernel
    rw [shape, List.head?_append, letter]
    exact fun same => by cases same
  refine ⟨?_, fun name last => ?_⟩
  · unfold storagePath?
    dsimp only
    rw [names, if_neg (by simp [relative, climbs])]
  · have listed := List.mem_of_getLast? last
    intro first
    exact (each name listed).2.1 (List.mem_of_head? first)

theorem temporaryPath_last : (temporaryPath path uuid).getLast? =
    some ('.' :: (path.getLast?.getD [] ++ '.' :: (hexDigits 32 uuid.toNat ++ ".part".toList))) :=
  List.getLast?_concat

theorem temporaryPath_not_plain : ¬ Plain (temporaryPath path uuid) :=
  fun plain => plain _ temporaryPath_last rfl

theorem temporaryPath_uuid {one two : StoragePath} {first second : Uuid}
    (same : temporaryPath one first = temporaryPath two second) : first = second := by
  have last := congrArg List.getLast? same
  rw [temporaryPath_last, temporaryPath_last, Option.some.injEq, List.cons.injEq] at last
  have suffix := List.append_inj_right' last.2 (by simp)
  have digits := List.append_inj_left' (List.tail_eq_of_cons_eq suffix) (by simp)
  exact BitVec.eq_of_toNat_eq (hexDigits_injective 32 first.isLt second.isLt digits)

/-- What a call is owed where it stands: its temporary file is its own and holds what it has received. -/
def PhaseSound (fs : FileSystem StoragePath UInt8) (call : QuarantineWrite) : WritePhase → Prop
  | .preparing | .creating => call.received = []
  | .streaming inode => call.received.length ≤ call.maxBytes ∧ fs.names.read call.temporary = some inode ∧
      fs.inodes[inode]? = some call.received ∧ fs.Sole call.temporary inode
  | .linking | .unlinking => call.received.length ≤ call.maxBytes ∧ fs.read call.temporary = some call.received
  | .ended (.ok result) => call.received.length ≤ call.maxBytes ∧ result = .of call.received
  | _ => True

structure WriteSound (fs : FileSystem StoragePath UInt8) (call : QuarantineWrite) : Prop where
  plain : Plain call.path
  phase : PhaseSound fs call call.phase

structure QuarantineSound (state : QuarantineState) : Prop where
  files : state.fs.Sound
  apart : state.calls.Pairwise fun one other => one.uuid ≠ other.uuid
  calls : ∀ call ∈ state.calls, WriteSound state.fs call

theorem WriteSound.kept (sound : WriteSound fs call) (kept : fs.KeptAt after call.temporary) : WriteSound after call := by
  refine ⟨sound.plain, ?_⟩
  have here := sound.phase
  unfold PhaseSound at here ⊢
  split at here
  · exact here
  · exact here
  · obtain ⟨bounded, name, content, sole⟩ := here
    exact ⟨bounded, kept.names.trans name, (kept.content _ name).trans content, kept.sole _ name sole⟩
  · exact ⟨here.1, kept.read.trans here.2⟩
  · exact ⟨here.1, kept.read.trans here.2⟩
  · exact here
  · exact here

/-- The other calls of a sound state have other temporary files. -/
theorem QuarantineSound.others (sound : QuarantineSound state) (found : state.calls[index]? = some call) :
    ∀ other ∈ state.calls.eraseIdx index, other.temporary ≠ call.temporary := by
  obtain ⟨inside, rfl⟩ := List.getElem?_eq_some_iff.mp found
  have reordered : (state.calls[index] :: state.calls.eraseIdx index).Pairwise fun one other => one.uuid ≠ other.uuid :=
    (List.getElem_cons_eraseIdx_perm inside).symm.pairwise sound.apart fun apart same => apart same.symm
  intro other member same
  exact (List.pairwise_cons.mp reordered).1 other member (temporaryPath_uuid same).symm

theorem mem_set_or {calls : List QuarantineWrite} {changed : QuarantineWrite} (found : calls[index]? = some call)
    (member : other ∈ calls.set index changed) : other = changed ∨ other ∈ calls.eraseIdx index := by
  obtain ⟨inside, _⟩ := List.getElem?_eq_some_iff.mp found
  exact List.mem_cons.mp ((List.set_perm_cons_eraseIdx inside changed).mem_iff.mp member)

/-- One call goes on and leaves the temporary files of the others. -/
theorem QuarantineSound.move (sound : QuarantineSound state) (found : state.calls[index]? = some call)
    (files : after.Sound) {changed : QuarantineWrite} (same : changed.uuid = call.uuid)
    (elsewhere : ∀ name, name ≠ call.temporary → ¬ Plain name → state.fs.KeptAt after name)
    (own : WriteSound after changed) : QuarantineSound ⟨after, state.calls.set index changed⟩ where
  files := files
  apart := by
    obtain ⟨inside, rfl⟩ := List.getElem?_eq_some_iff.mp found
    refine (List.set_perm_cons_eraseIdx inside changed).symm.pairwise ?_ fun apart same => apart same.symm
    have reordered : (state.calls[index] :: state.calls.eraseIdx index).Pairwise fun one other => one.uuid ≠ other.uuid :=
      (List.getElem_cons_eraseIdx_perm inside).symm.pairwise sound.apart fun apart same => apart same.symm
    obtain ⟨first, rest⟩ := List.pairwise_cons.mp reordered
    exact List.pairwise_cons.mpr ⟨fun other member => by rw [same]; exact first other member, rest⟩
  calls := by
    intro other member
    rcases mem_set_or found member with rfl | old
    · exact own
    · exact (sound.calls other (List.eraseIdx_subset old)).kept
        (elsewhere _ (sound.others found other old) temporaryPath_not_plain)

theorem QuarantineSound.create (sound : QuarantineSound state) (found : state.calls[index]? = some call)
    (stands : call.phase = .creating) (outcome : SystemCall) : QuarantineSound (state.create index call outcome) := by
  have here := sound.calls call (List.mem_of_getElem? found)
  have nothing : call.received = [] := by
    have held := here.phase
    rw [stands] at held
    exact held
  unfold QuarantineState.create
  split
  · rename_i fs inode created
    obtain ⟨name, content, sole⟩ := FileSystem.create?_sole sound.files created
    refine sound.move found (sound.files.create? created) rfl
      (fun name apart _ => FileSystem.keptAt_create? sound.files created apart) ⟨here.plain, ?_⟩
    show call.received.length ≤ call.maxBytes ∧ _
    rw [nothing]
    exact ⟨Nat.zero_le _, name, content, sole⟩
  · rename_i fs inode created
    exact sound.move found (sound.files.create? created) rfl
      (fun name apart _ => FileSystem.keptAt_create? sound.files created apart) ⟨here.plain, True.intro⟩
  · exact sound.move found sound.files rfl (fun _ _ _ => .refl) ⟨here.plain, True.intro⟩

theorem append_received {fs : FileSystem StoragePath UInt8} {inode : Nat} {stored bytes : List UInt8}
    (content : fs.inodes[inode]? = some stored) : (fs.append inode bytes).inodes[inode]? = some (stored ++ bytes) := by
  simp [FileSystem.append, content]

theorem QuarantineSound.chunk (sound : QuarantineSound state) (found : state.calls[index]? = some call) {inode : Nat}
    (stands : call.phase = .streaming inode) (bytes : List UInt8) (written : Option Nat) :
    QuarantineSound (state.chunk index call inode bytes written) := by
  have here := sound.calls call (List.mem_of_getElem? found)
  have held := here.phase
  rw [stands] at held
  obtain ⟨bounded, name, content, sole⟩ := held
  have elsewhere : ∀ part name, name ≠ call.temporary → ¬ Plain name → state.fs.KeptAt (state.fs.append inode part) name :=
    fun part name apart _ => FileSystem.keptAt_append fun leads => apart (sole name leads)
  unfold QuarantineState.chunk
  dsimp only
  split
  · exact sound
  · split
    · exact sound.move found sound.files rfl (fun _ _ _ => .refl) ⟨here.plain, True.intro⟩
    · rename_i fits
      split
      · refine sound.move found sound.files.append rfl (elsewhere bytes) ⟨here.plain, ?_⟩
        exact ⟨not_lt.mp fits, name, append_received content, sole⟩
      · rename_i count
        exact sound.move found sound.files.append rfl (elsewhere _) ⟨here.plain, True.intro⟩

theorem QuarantineSound.link (sound : QuarantineSound state) (found : state.calls[index]? = some call)
    (stands : call.phase = .linking) (outcome : SystemCall) : QuarantineSound (state.link index call outcome) := by
  have here := sound.calls call (List.mem_of_getElem? found)
  have held := here.phase
  rw [stands] at held
  have elsewhere : ∀ fs, state.fs.link? call.temporary call.path = some fs →
      ∀ name, name ≠ call.temporary → ¬ Plain name → state.fs.KeptAt fs name := by
    intro fs linked name apart hidden
    exact FileSystem.keptAt_link? linked (fun same => hidden (same ▸ here.plain)) apart
  unfold QuarantineState.link
  split
  · rename_i fs linked
    refine sound.move found (sound.files.link? linked) rfl (elsewhere fs linked) ⟨here.plain, held.1, ?_⟩
    have apart : call.temporary ≠ call.path := fun same => temporaryPath_not_plain (same ▸ here.plain)
    show fs.read call.temporary = _
    rw [FileSystem.read_link? linked, if_neg apart]
    exact held.2
  · rename_i fs linked
    exact sound.move found (sound.files.link? linked) rfl (elsewhere fs linked) ⟨here.plain, True.intro⟩
  · exact sound.move found sound.files rfl (fun _ _ _ => .refl) ⟨here.plain, True.intro⟩

theorem QuarantineSound.unlink (sound : QuarantineSound state) (found : state.calls[index]? = some call)
    (stands : call.phase = .unlinking) (succeeds : Bool) : QuarantineSound (state.unlink index call succeeds) := by
  have here := sound.calls call (List.mem_of_getElem? found)
  have held := here.phase
  rw [stands] at held
  unfold QuarantineState.unlink
  split
  · exact sound.move found sound.files.unlink rfl (fun name apart _ => FileSystem.keptAt_unlink apart)
      ⟨here.plain, held.1, rfl⟩
  · exact sound.move found sound.files rfl (fun _ _ _ => .refl) ⟨here.plain, True.intro⟩

theorem QuarantineSound.clean (sound : QuarantineSound state) (found : state.calls[index]? = some call)
    (error : QuarantineError) (succeeds : Bool) : QuarantineSound (state.clean index call error succeeds) := by
  have here := sound.calls call (List.mem_of_getElem? found)
  unfold QuarantineState.clean
  split
  · exact sound.move found sound.files.unlink rfl (fun name apart _ => FileSystem.keptAt_unlink apart)
      ⟨here.plain, True.intro⟩
  · exact sound.move found sound.files rfl (fun _ _ _ => .refl) ⟨here.plain, True.intro⟩

theorem QuarantineSound.prepare (sound : QuarantineSound state) (found : state.calls[index]? = some call)
    (stands : call.phase = .preparing) (succeeds : Bool) : QuarantineSound (state.prepare index call succeeds) := by
  have here := sound.calls call (List.mem_of_getElem? found)
  have held := here.phase
  rw [stands] at held
  unfold QuarantineState.prepare
  split
  · exact sound.move found sound.files rfl (fun _ _ _ => .refl) ⟨here.plain, True.intro⟩
  · split
    · exact sound.move found sound.files rfl (fun _ _ _ => .refl) ⟨here.plain, True.intro⟩
    · exact sound.move found sound.files rfl (fun _ _ _ => .refl) ⟨here.plain, held⟩

/-- No draw of `uuid4` repeats, and no storage key names a hidden file. -/
def DrawnOnce (state : QuarantineState) : QuarantineInput → Prop
  | .start storageKey uuid _ => (∀ call ∈ state.calls, call.uuid ≠ uuid) ∧
      ∀ path ∈ storagePath? storageKey, Plain path
  | .delete storageKey _ => ∀ path ∈ storagePath? storageKey, Plain path
  | _ => True

instance (input : QuarantineInput) : Decidable (DrawnOnce state input) := by
  cases input with
  | start storageKey uuid maxBytes =>
    exact inferInstanceAs (Decidable ((∀ call ∈ state.calls, call.uuid ≠ uuid) ∧
      ∀ path ∈ storagePath? storageKey, Plain path))
  | delete storageKey succeeds => exact inferInstanceAs (Decidable (∀ path ∈ storagePath? storageKey, Plain path))
  | _ => exact inferInstanceAs (Decidable True)

/-- A call that takes no more of its stream and links nothing. -/
def WritePhase.closed : WritePhase → Bool
  | .unlinking | .cleaning _ | .ended _ => true
  | _ => false

/-- The link of the call has succeeded. -/
def WritePhase.linked : WritePhase → Bool
  | .unlinking | .ended (.ok _) => true
  | _ => false

/-- The visible files are those of the abstract store, each one the whole stream of a call, within its bound. -/
structure Reflects (state : QuarantineState) (stored : StoredFiles) : Prop where
  sound : QuarantineSound state
  shown : ∀ path, Plain path → stored.files.read path = state.fs.read path
  linked : ∀ call ∈ state.calls, call.phase.linked = true → (call.path, call.received) ∈ stored.written
  whole : ∀ entry ∈ stored.written, ∃ call ∈ state.calls, call.phase.closed = true ∧ (call.path, call.received) = entry ∧
    call.received.length ≤ call.maxBytes

variable {stored : StoredFiles} {changed : QuarantineWrite}

theorem mem_set_self {calls : List QuarantineWrite} (found : calls[index]? = some call) :
    changed ∈ calls.set index changed := by
  obtain ⟨inside, _⟩ := List.getElem?_eq_some_iff.mp found
  exact List.mem_set inside changed

theorem mem_set_of_mem {calls : List QuarantineWrite} (found : calls[index]? = some call) (member : other ∈ calls) :
    other = call ∨ other ∈ calls.set index changed := by
  obtain ⟨inside, rfl⟩ := List.getElem?_eq_some_iff.mp found
  have picked := (List.getElem_cons_eraseIdx_perm inside).mem_iff.mpr member
  refine (List.mem_cons.mp picked).imp_right fun old => ?_
  exact (List.set_perm_cons_eraseIdx inside changed).mem_iff.mpr (List.mem_cons_of_mem _ old)

/-- A call goes on without a reader of the quarantine noticing. -/
theorem Reflects.quiet (reflects : Reflects state stored) (found : state.calls[index]? = some call)
    (sound : QuarantineSound ⟨after, state.calls.set index changed⟩)
    (shown : ∀ path, Plain path → after.read path = state.fs.read path)
    (linked : changed.phase.linked = true → call.phase = .unlinking ∧ changed.path = call.path ∧ changed.received = call.received)
    (closed : call.phase.closed = true → changed.phase.closed = true ∧ changed.path = call.path ∧
      changed.received = call.received ∧ changed.maxBytes = call.maxBytes) :
    Reflects ⟨after, state.calls.set index changed⟩ stored where
  sound := sound
  shown path plain := (reflects.shown path plain).trans (shown path plain).symm
  linked := by
    intro other member done
    rcases mem_set_or found member with rfl | old
    · obtain ⟨stands, path, received⟩ := linked done
      rw [path, received]
      exact reflects.linked call (List.mem_of_getElem? found) (by rw [stands]; rfl)
    · exact reflects.linked other (List.eraseIdx_subset old) done
  whole := by
    intro entry listed
    obtain ⟨other, member, ended, same, bounded⟩ := reflects.whole entry listed
    have known : other = call ∨ other ∈ state.calls.set index changed := mem_set_of_mem found member
    rcases known with rfl | still
    · obtain ⟨ends, path, received, limit⟩ := closed ended
      exact ⟨changed, mem_set_self found, ends, by rw [path, received, same], by rw [received, limit]; exact bounded⟩
    · exact ⟨other, still, ended, same, bounded⟩

/-- A quiet step of the phase alone. -/
theorem Reflects.stand (reflects : Reflects state stored) (found : state.calls[index]? = some call) {phase : WritePhase}
    (sound : QuarantineSound (state.move after index call phase))
    (shown : ∀ path, Plain path → after.read path = state.fs.read path)
    (linked : phase.linked = true → call.phase = .unlinking) (closed : call.phase.closed = true → phase.closed = true) :
    Reflects (state.move after index call phase) stored :=
  reflects.quiet found sound shown (fun done => ⟨linked done, rfl, rfl⟩) fun ended => ⟨closed ended, rfl, rfl, rfl⟩

theorem plain_ne_temporary (plain : Plain path) : path ≠ call.temporary :=
  fun same => temporaryPath_not_plain (same ▸ plain)

/-- A call goes on over the same files. -/
theorem Reflects.same (reflects : Reflects state stored) (found : state.calls[index]? = some call) (phase : WritePhase)
    (owed : PhaseSound state.fs { call with phase } phase) (linked : phase.linked = false)
    (closed : call.phase.closed = true → phase.closed = true) :
    Reflects (state.move state.fs index call phase) stored := by
  have here := reflects.sound.calls call (List.mem_of_getElem? found)
  have sound : QuarantineSound (state.move state.fs index call phase) :=
    reflects.sound.move found reflects.sound.files rfl (fun _ _ _ => .refl) ⟨here.plain, owed⟩
  refine reflects.stand found sound (fun _ _ => rfl) (fun done => ?_) closed
  rw [linked] at done
  cases done

theorem Reflects.create (reflects : Reflects state stored) (found : state.calls[index]? = some call)
    (stands : call.phase = .creating) (outcome : SystemCall) : Reflects (state.create index call outcome) stored := by
  have sound := reflects.sound.create found stands outcome
  have opened : call.phase.closed = true → ∀ {other : Prop}, other := fun ended => by rw [stands] at ended; cases ended
  unfold QuarantineState.create at sound ⊢
  split
  · rename_i fs inode created
    simp only [created] at sound
    exact reflects.stand found sound (fun path plain =>
      (FileSystem.keptAt_create? reflects.sound.files created (plain_ne_temporary plain)).read)
      (fun done => by cases done) fun ended => opened ended
  · rename_i fs inode created
    simp only [created] at sound
    exact reflects.stand found sound (fun path plain =>
      (FileSystem.keptAt_create? reflects.sound.files created (plain_ne_temporary plain)).read)
      (fun done => by cases done) fun ended => opened ended
  · rename_i first second
    exact reflects.stand found (by simpa only using sound) (fun _ _ => rfl) (fun done => by cases done) fun ended => opened ended

theorem Reflects.chunk (reflects : Reflects state stored) (found : state.calls[index]? = some call) {inode : Nat}
    (stands : call.phase = .streaming inode) (bytes : List UInt8) (written : Option Nat) :
    Reflects (state.chunk index call inode bytes written) stored := by
  have sound := reflects.sound.chunk found stands bytes written
  have held := (reflects.sound.calls call (List.mem_of_getElem? found)).phase
  rw [stands] at held
  obtain ⟨_, _, _, sole⟩ := held
  have shown : ∀ part path, Plain path → (state.fs.append inode part).read path = state.fs.read path :=
    fun part path plain => (FileSystem.keptAt_append fun leads => plain_ne_temporary plain (sole path leads)).read
  have opened : call.phase.closed = true → ∀ {other : Prop}, other := fun ended => by rw [stands] at ended; cases ended
  unfold QuarantineState.chunk at sound ⊢
  dsimp only at sound ⊢
  by_cases nothing : bytes = []
  · rw [if_pos nothing]
    exact reflects
  rw [if_neg nothing] at sound ⊢
  by_cases large : call.maxBytes < (call.received ++ bytes).length
  · rw [if_pos large] at sound ⊢
    exact reflects.quiet found sound (fun _ _ => rfl) (fun done => by cases done) fun ended => opened ended
  · rw [if_neg large] at sound ⊢
    cases written with
    | none => exact reflects.quiet found sound (shown bytes) (fun done => by cases done) fun ended => opened ended
    | some count => exact reflects.quiet found sound (shown _) (fun done => by cases done) fun ended => opened ended

theorem Reflects.prepare (reflects : Reflects state stored) (found : state.calls[index]? = some call)
    (stands : call.phase = .preparing) (succeeds : Bool) : Reflects (state.prepare index call succeeds) stored := by
  have sound := reflects.sound.prepare found stands succeeds
  have opened : call.phase.closed = true → ∀ {other : Prop}, other := fun ended => by rw [stands] at ended; cases ended
  unfold QuarantineState.prepare at sound ⊢
  by_cases fails : succeeds = false
  · rw [if_pos fails] at sound ⊢
    exact reflects.stand found sound (fun _ _ => rfl) (fun done => by cases done) fun ended => opened ended
  rw [if_neg fails] at sound ⊢
  by_cases present : call.path = [] ∨ (state.fs.names.read call.path).isSome = true
  · rw [if_pos present] at sound ⊢
    exact reflects.stand found sound (fun _ _ => rfl) (fun done => by cases done) fun ended => opened ended
  · rw [if_neg present] at sound ⊢
    exact reflects.stand found sound (fun _ _ => rfl) (fun done => by cases done) fun ended => opened ended

theorem Reflects.unlink (reflects : Reflects state stored) (found : state.calls[index]? = some call)
    (stands : call.phase = .unlinking) (succeeds : Bool) : Reflects (state.unlink index call succeeds) stored := by
  have sound := reflects.sound.unlink found stands succeeds
  unfold QuarantineState.unlink at sound ⊢
  by_cases removed : succeeds = true ∧ (state.fs.names.read call.temporary).isSome = true
  · rw [if_pos removed] at sound ⊢
    exact reflects.stand found sound (fun path plain => (FileSystem.keptAt_unlink (plain_ne_temporary plain)).read)
      (fun _ => stands) fun _ => rfl
  · rw [if_neg removed] at sound ⊢
    exact reflects.stand found sound (fun _ _ => rfl) (fun done => by cases done) fun _ => rfl

theorem Reflects.clean (reflects : Reflects state stored) (found : state.calls[index]? = some call)
    (error : QuarantineError) (succeeds : Bool) : Reflects (state.clean index call error succeeds) stored := by
  have sound := reflects.sound.clean found error succeeds
  unfold QuarantineState.clean at sound ⊢
  cases succeeds with
  | true =>
    exact reflects.stand found sound (fun path plain => (FileSystem.keptAt_unlink (plain_ne_temporary plain)).read)
      (fun done => by cases done) fun _ => rfl
  | false => exact reflects.stand found sound (fun _ _ => rfl) (fun done => by cases done) fun _ => rfl

/-- The link makes the whole stream visible at once, or it changes nothing. -/
theorem Reflects.link (reflects : Reflects state stored) (found : state.calls[index]? = some call)
    (stands : call.phase = .linking) (outcome : SystemCall) :
    Simulated StoredFiles.step Reflects (state.link index call outcome) stored (observeFiles state (.link index outcome)) := by
  have sound := reflects.sound.link found stands outcome
  have here := reflects.sound.calls call (List.mem_of_getElem? found)
  have held := here.phase
  rw [stands] at held
  have opened : call.phase.closed = true → ∀ {other : Prop}, other := fun ended => by rw [stands] at ended; cases ended
  have observed : observeFiles state (.link index outcome) =
      if outcome ≠ .failed false ∧ (state.fs.link? call.temporary call.path).isSome = true then
        [.write call.path call.received] else [] := by
    simp only [observeFiles, found]
  rw [observed]
  unfold QuarantineState.link at sound ⊢
  cases linked : state.fs.link? call.temporary call.path with
  | none =>
    rw [if_neg (by simp)]
    simp only [linked] at sound
    refine ⟨True.intro, ?_⟩
    have stays : Reflects (state.move state.fs index call (.cleaning .failed)) stored :=
      reflects.stand found (by cases outcome <;> exact sound) (fun _ _ => rfl) (fun done => by cases done)
        fun ended => opened ended
    cases outcome with
    | done => exact stays
    | failed effective => cases effective <;> exact stays
  | some fs =>
    have absent : state.fs.names.read call.path = none := by
      obtain ⟨_, _, absent, _⟩ := FileSystem.link?_ok linked
      exact absent
    obtain ⟨files, written⟩ : ∃ files, stored.files.write? call.path call.received = some files := by
      refine Option.isSome_iff_exists.mp (Files.write?_isSome.mpr ?_)
      rw [reflects.shown call.path here.plain, FileSystem.read, absent, Option.bind_none]
    have accepted : stored.step (.write call.path call.received) =
        .ok ⟨files, stored.written ++ [(call.path, call.received)]⟩ := by
      simp only [StoredFiles.step, written]
      rfl
    have visible : ∀ phase, phase.closed = true → QuarantineSound (state.move fs index call phase) →
        Simulated StoredFiles.step Reflects (state.move fs index call phase) stored [.write call.path call.received] := by
      intro phase closed sound
      have taken : (stored.step (.write call.path call.received)).isOk = true := by
        rw [accepted]
        rfl
      refine ⟨⟨taken, True.intro⟩, ?_⟩
      rw [run_cons, commit_ok accepted, run_nil]
      refine ⟨sound, fun path plain => ?_, fun other member done => ?_, fun entry listed => ?_⟩
      · rw [Files.read_write? written, QuarantineState.move, FileSystem.read_link? linked, held.2,
          reflects.shown path plain]
      · rcases mem_set_or found member with rfl | old
        · exact List.mem_append_right _ (List.mem_singleton_self _)
        · exact List.mem_append_left _ (reflects.linked other (List.eraseIdx_subset old) done)
      · rcases List.mem_append.mp listed with old | last
        · obtain ⟨other, member, ended, same, bounded⟩ := reflects.whole entry old
          rcases mem_set_of_mem found member with rfl | still
          · exact opened ended
          · exact ⟨other, still, ended, same, bounded⟩
        · rw [List.mem_singleton.mp last]
          exact ⟨{ call with phase }, mem_set_self found, closed, rfl, held.1⟩
    simp only [linked] at sound
    cases outcome with
    | done =>
      rw [if_pos ⟨by decide, rfl⟩]
      exact visible .unlinking rfl sound
    | failed effective =>
      cases effective with
      | true =>
        rw [if_pos ⟨by decide, rfl⟩]
        exact visible (.cleaning .failed) rfl sound
      | false =>
        rw [if_neg (by simp)]
        refine ⟨True.intro, ?_⟩
        rw [run_nil]
        exact reflects.stand found sound (fun _ _ => rfl) (fun done => by cases done) fun ended => opened ended

theorem quarantineStep_reflects {input : QuarantineInput} (reflects : Reflects state stored) (fresh : DrawnOnce state input)
    (accepted : quarantineStep state input = .ok next) :
    Simulated StoredFiles.step Reflects next stored (observeFiles state input) := by
  have quiet : Reflects next stored → Simulated StoredFiles.step Reflects next stored [] := fun still => ⟨True.intro, still⟩
  cases input with
  | start storageKey uuid maxBytes =>
    simp only [quarantineStep, bind_ok, orRaise_ok, pure_ok] at accepted
    obtain ⟨path, valid, rfl⟩ := accepted
    have kept : ∀ call ∈ state.calls, call ∈ state.calls ++ [⟨path, uuid, maxBytes, [], .preparing⟩] :=
      fun _ member => List.mem_append_left _ member
    refine quiet ⟨⟨reflects.sound.files, ?_, fun call member => ?_⟩, reflects.shown, fun call member done => ?_,
      fun entry listed => ?_⟩
    · refine List.pairwise_append.mpr ⟨reflects.sound.apart, List.pairwise_singleton _ _, fun call old last only => ?_⟩
      rw [List.mem_singleton.mp only]
      exact fresh.1 call old
    · rcases List.mem_append.mp member with old | last
      · exact reflects.sound.calls call old
      · rw [List.mem_singleton.mp last]
        exact ⟨fresh.2 path valid, rfl⟩
    · rcases List.mem_append.mp member with old | last
      · exact reflects.linked call old done
      · rw [List.mem_singleton.mp last] at done
        cases done
    · obtain ⟨call, member, whole⟩ := reflects.whole entry listed
      exact ⟨call, kept call member, whole⟩
  | prepare index succeeds =>
    simp only [quarantineStep, bind_ok, orRaise_ok] at accepted
    obtain ⟨call, found, accepted⟩ := accepted
    split at accepted
    · rename_i stands
      cases pure_ok.mp accepted
      exact quiet (reflects.prepare found stands succeeds)
    · cases accepted
  | create index outcome =>
    simp only [quarantineStep, bind_ok, orRaise_ok] at accepted
    obtain ⟨call, found, accepted⟩ := accepted
    split at accepted
    · rename_i stands
      cases pure_ok.mp accepted
      exact quiet (reflects.create found stands outcome)
    · cases accepted
  | chunk index bytes written =>
    simp only [quarantineStep, bind_ok, orRaise_ok] at accepted
    obtain ⟨call, found, accepted⟩ := accepted
    split at accepted
    · rename_i inode stands
      cases pure_ok.mp accepted
      exact quiet (reflects.chunk found stands bytes written)
    · cases accepted
  | interrupt index =>
    simp only [quarantineStep, bind_ok, orRaise_ok] at accepted
    obtain ⟨call, found, accepted⟩ := accepted
    split at accepted
    · rename_i inode stands
      cases pure_ok.mp accepted
      exact quiet (reflects.same found (.cleaning .failed) True.intro rfl fun _ => rfl)
    · cases accepted
  | finish index succeeds =>
    simp only [quarantineStep, bind_ok, orRaise_ok] at accepted
    obtain ⟨call, found, accepted⟩ := accepted
    split at accepted
    · rename_i inode stands
      cases pure_ok.mp accepted
      have held := (reflects.sound.calls call (List.mem_of_getElem? found)).phase
      rw [stands] at held
      obtain ⟨bounded, name, content, _⟩ := held
      have written : state.fs.read call.temporary = some call.received := by
        rw [FileSystem.read, name, Option.bind_some, content]
      have opened : call.phase.closed = true → ∀ {other : Prop}, other := fun ended => by rw [stands] at ended; cases ended
      cases succeeds with
      | true => exact quiet (reflects.same found .linking ⟨bounded, written⟩ rfl fun ended => opened ended)
      | false => exact quiet (reflects.same found (.cleaning .failed) True.intro rfl fun _ => rfl)
    · cases accepted
  | link index outcome =>
    simp only [quarantineStep, bind_ok, orRaise_ok] at accepted
    obtain ⟨call, found, accepted⟩ := accepted
    split at accepted
    · rename_i stands
      cases pure_ok.mp accepted
      exact reflects.link found stands outcome
    · cases accepted
  | unlink index succeeds =>
    simp only [quarantineStep, bind_ok, orRaise_ok] at accepted
    obtain ⟨call, found, accepted⟩ := accepted
    split at accepted
    · rename_i stands
      cases pure_ok.mp accepted
      exact quiet (reflects.unlink found stands succeeds)
    · cases accepted
  | clean index succeeds =>
    simp only [quarantineStep, bind_ok, orRaise_ok] at accepted
    obtain ⟨call, found, accepted⟩ := accepted
    split at accepted
    · rename_i error stands
      cases pure_ok.mp accepted
      exact quiet (reflects.clean found error succeeds)
    · cases accepted
  | crash index =>
    simp only [quarantineStep, bind_ok, orRaise_ok] at accepted
    obtain ⟨call, found, accepted⟩ := accepted
    split at accepted
    · cases accepted
    · cases pure_ok.mp accepted
      exact quiet (reflects.same found (.ended (.error .lost)) True.intro rfl fun _ => rfl)
  | delete storageKey succeeds =>
    simp only [quarantineStep, bind_ok, orRaise_ok, pure_ok] at accepted
    obtain ⟨path, valid, rfl⟩ := accepted
    have observed : observeFiles state (.delete storageKey succeeds) = if succeeds then [.delete path] else [] := by
      simp only [observeFiles, valid]
    rw [observed]
    cases succeeds with
    | false => exact quiet reflects
    | true =>
      have elsewhere : ∀ name, name ≠ path → state.fs.KeptAt (state.fs.unlink path) name :=
        fun name apart => FileSystem.keptAt_unlink apart
      refine ⟨⟨rfl, True.intro⟩, ⟨reflects.sound.files.unlink, reflects.sound.apart, fun call member => ?_⟩,
        fun name plain => ?_, reflects.linked, reflects.whole⟩
      · refine (reflects.sound.calls call member).kept (elsewhere _ fun same => ?_)
        exact temporaryPath_not_plain (same ▸ fresh path valid : Plain call.temporary)
      · show (stored.files.keep _).read name = (state.fs.unlink path).read name
        rw [Files.read_keep, FileSystem.read_unlink]
        by_cases same : name = path
        · simp [same]
        · simpa [same] using reflects.shown name plain

theorem reflects_empty : Reflects .empty .empty where
  sound := ⟨FileSystem.sound_empty, List.Pairwise.nil, fun _ member => absurd member List.not_mem_nil⟩
  shown _ _ := rfl
  linked _ member := absurd member List.not_mem_nil
  whole _ listed := absurd listed List.not_mem_nil

/-- What the quarantine promises of a run: whatever calls interleave, fail or are lost, its visible files are those of a
    store that writes each file whole and never over another; what a call returns is of the file it has written. -/
structure QuarantineKept (inputs : List QuarantineInput) (final : QuarantineState) (stored : StoredFiles) : Prop where
  accepted : Along StoredFiles.step (fun stored event => (stored.step event).isOk = true) .empty
    (trace quarantineStep observeFiles .empty inputs)
  shown : ∀ path, Plain path → final.fs.read path = stored.files.read path
  whole : ∀ path content, (path, content) ∈ stored.written → ∃ call ∈ final.calls, call.path = path ∧
    call.received = content ∧ content.length ≤ call.maxBytes
  returned : ∀ call ∈ final.calls, ∀ result, call.phase = .ended (.ok result) → result = .of call.received ∧
    (call.path, call.received) ∈ stored.written

/-- The quarantine adapter refines the store of whole files. -/
theorem quarantine_refines (inputs : List QuarantineInput)
    (fresh : Along quarantineStep DrawnOnce .empty inputs) :
    QuarantineKept inputs (run quarantineStep .empty inputs)
      (run StoredFiles.step .empty (trace quarantineStep observeFiles .empty inputs)) := by
  have follows := run_simulates (fun _ _ _ _ reflects fresh accepted => quarantineStep_reflects reflects fresh accepted)
    reflects_empty fresh
  have reflects := follows.related
  refine ⟨follows.accepted, fun path plain => (reflects.shown path plain).symm, fun path content listed => ?_,
    fun call member result ends => ⟨?_, reflects.linked call member (by rw [ends]; rfl)⟩⟩
  · obtain ⟨call, member, _, same, bounded⟩ := reflects.whole _ listed
    rw [Prod.mk.injEq] at same
    exact ⟨call, member, same.1, same.2, same.2 ▸ bounded⟩
  · have held := (reflects.sound.calls call member).phase
    rw [ends] at held
    exact held.2

/-- Two writes of one key race, and one of another key is lost in the middle; the file is deleted in the end. -/
def racedWrites : List QuarantineInput := [
  .start "dce-staging/a" 1 10, .start "dce-staging/a" 2 10, .start "dce-staging/b" 3 10,
  .prepare 0 true, .prepare 1 true, .prepare 2 true, .create 0 .done, .create 1 .done, .create 2 .done,
  .chunk 0 [1, 2] none, .chunk 1 [3] none, .chunk 2 [4] none, .crash 2, .finish 0 true, .finish 1 true,
  .link 1 .done, .link 0 .done, .unlink 1 true, .clean 0 true, .delete "dce-staging/a" true]

theorem raced_writes_kept : QuarantineKept racedWrites (run quarantineStep .empty racedWrites)
    (run StoredFiles.step .empty (trace quarantineStep observeFiles .empty racedWrites)) :=
  quarantine_refines racedWrites (by decide +kernel)

example : (trace quarantineStep observeFiles .empty racedWrites).length = 2 := by decide +kernel

end SmartAo.Dce
