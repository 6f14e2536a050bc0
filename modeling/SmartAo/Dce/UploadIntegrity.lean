import SmartAo.Dce.Upload

namespace SmartAo.Dce

open SmartAo.Foundation SmartAo.Platform

/-- What is known of the bytes that were admitted with a size, a hash and a type. -/
structure Admits (service : DceUploadService) (content : List UInt8) (byteSize : Nat) (sha256 mediaType : String) :
    Prop where
  byteSize : content.length = byteSize
  sha256 : hexdigestBytes content = sha256
  detected : service.detectMediaType content = some mediaType
  allowed : mediaType ∈ service.allowedMediaTypes
  scanned : ∃ signatures, service.scan signatures content = .clean

/-- The state its staged object is in while an upload stands at a phase and the object has not expired. -/
def UploadPhase.expects : UploadPhase → Option StagedObjectState
  | .claiming => none
  | .ended _ => none
  | .scanning _ _ => some .quarantined
  | .recordingScan _ _ _ => some .quarantined
  | .deleting => some .rejected
  | _ => some .uploading

/-- What an upload knows of the file it has written. -/
def UploadPhase.facts (service : DceUploadService) : UploadPhase → Option (List UInt8 → Prop)
  | .detecting written => some fun content => written = .of content
  | .recordingQuarantine written mediaType => some fun content =>
    written = .of content ∧ service.detectMediaType content = some mediaType
  | .scanning written mediaType => some fun content =>
    written = .of content ∧ service.detectMediaType content = some mediaType ∧ mediaType ∈ service.allowedMediaTypes
  | .recordingScan written mediaType verdict => some fun content =>
    (written = .of content ∧ service.detectMediaType content = some mediaType ∧
      mediaType ∈ service.allowedMediaTypes) ∧
    (verdict = .clean → ∃ signatures, service.scan signatures content = .clean)
  | _ => none

section Invariant

variable (service : DceUploadService)

def UploadPhase.Holds (files : Files String (List UInt8)) (row : DceStagedObjectRecord) (phase : UploadPhase) : Prop :=
  ∀ expected ∈ phase.expects, row.state = .expired ∨
    (row.state = expected ∧ ∀ facts ∈ phase.facts service, ∃ content, files.read row.storageKey = some content ∧
      facts content)

/-- An upload and the staged object its route read. -/
def CallSound (state : UploadState) (call : UploadCall) : Prop :=
  ∃ row ∈ state.store.stagedObjects, row.id = call.storageObjectId ∧ row.storageKey = call.storageKey ∧
    row.expectedByteSize = call.expectedByteSize ∧ call.phase.Holds service state.files row

def RowHeld (files : Files String (List UInt8)) (row : DceStagedObjectRecord) : Prop :=
  ∃ content byteSize sha256 mediaType, files.read row.storageKey = some content ∧
    row.actualByteSize = some byteSize ∧ row.sha256 = some sha256 ∧ row.mediaType = some mediaType ∧
    Admits service content byteSize sha256 mediaType

/-- A document and the consumed object it was admitted from. -/
def DocumentHeld (store : StagingStore) (document : DceDocumentRecord) : Prop :=
  ∃ row ∈ store.stagedObjects, row.state = .consumed ∧ row.storageKey = document.storageKey ∧
    row.actualByteSize = some document.byteSize ∧ row.sha256 = some document.sha256 ∧
    row.mediaType = some document.mediaType

/-- What holds of the uploads, the quarantine and the staged objects between any two steps. -/
structure UploadSound (state : UploadState) : Prop where
  keys : ∀ row ∈ state.store.stagedObjects, isStagingKey row.storageKey = true
  calls : ∀ call ∈ state.calls, CallSound service state call
  apart : ∀ (i j : Nat) one other, state.calls[i]? = some one → state.calls[j]? = some other → i ≠ j →
    one.phase.expects ≠ none → other.phase.expects ≠ none → one.storageObjectId ≠ other.storageObjectId
  admitted : ∀ row ∈ state.store.stagedObjects, row.state = .clean ∨ row.state = .consumed →
    RowHeld service state.files row
  deletions : ∀ storageKey ∈ state.deletions, ∃ row ∈ state.store.stagedObjects, row.storageKey = storageKey ∧
    (row.state = .rejected ∨ row.state = .expired)
  documents : ∀ document ∈ state.store.documents, DocumentHeld state.store document

end Invariant

section Phases

variable {service : DceUploadService} {files later : Files String (List UInt8)} {row : DceStagedObjectRecord}
  {phase : UploadPhase}

theorem UploadPhase.expected_open {expected : StagedObjectState} (expects : phase.expects = some expected) :
    expected = .uploading ∨ expected = .quarantined ∨ expected = .rejected := by
  have always : ∀ state ∈ phase.expects, state = .uploading ∨ state = .quarantined ∨ state = .rejected := by
    cases phase <;> simp [UploadPhase.expects]
  exact always expected expects

/-- The file of a rejected object is of no use to its upload. -/
theorem UploadPhase.facts_rejected (expects : phase.expects = some .rejected) : phase.facts service = none := by
  cases phase with
  | deleting => rfl
  | _ => simp [UploadPhase.expects] at expects

theorem UploadPhase.holds_idle (idle : phase.expects = none) : phase.Holds service files row := by
  intro expected expects
  rw [idle] at expects
  cases expects

theorem UploadPhase.Holds.state (holds : phase.Holds service files row) (busy : phase.expects ≠ none) :
    row.state = .expired ∨ row.state = .uploading ∨ row.state = .quarantined ∨ row.state = .rejected := by
  obtain ⟨expected, expects⟩ := Option.ne_none_iff_exists'.mp busy
  rcases holds expected expects with expired | ⟨same, _⟩
  · exact .inl expired
  · rw [same]
    exact .inr (UploadPhase.expected_open expects)

theorem UploadPhase.Holds.expired (state : row.state = .expired) : phase.Holds service files row :=
  fun _ _ => .inl state

/-- A phase keeps what it knows while the file of its object does, if it needs one. -/
theorem UploadPhase.Holds.keep (holds : phase.Holds service files row)
    (kept : row.state ≠ .rejected → row.state ≠ .expired → phase.facts service ≠ none → ∀ content,
      files.read row.storageKey = some content → later.read row.storageKey = some content) :
    phase.Holds service later row := by
  intro expected expects
  rcases holds expected expects with expired | ⟨same, known⟩
  · exact .inl expired
  refine .inr ⟨same, fun facts stated => ?_⟩
  obtain ⟨content, present, fact⟩ := known facts stated
  have stands : row.state ≠ .rejected := by
    intro rejected
    rw [same] at rejected
    rw [rejected] at expects
    rw [UploadPhase.facts_rejected expects] at stated
    cases stated
  have unexpired : row.state ≠ .expired := by
    rcases UploadPhase.expected_open expects with is | is | is <;> rw [same, is] <;> decide
  exact ⟨content, kept stands unexpired (Option.ne_none_iff_exists'.mpr ⟨facts, stated⟩) content present, fact⟩

end Phases

section Files

variable {service : DceUploadService} {state : UploadState} {index : Nat} {call : UploadCall} {phase : UploadPhase}

theorem key_unique {store : StagingStore} {first second : DceStagedObjectRecord} (one : first ∈ store.stagedObjects)
    (other : second ∈ store.stagedObjects) (same : first.storageKey = second.storageKey) : first = second :=
  Table.eq_of_conflict one other (.inr same)

theorem UploadSound.row (sound : UploadSound service state) (found : state.calls[index]? = some call) :
    ∃ row ∈ state.store.stagedObjects, row.id = call.storageObjectId ∧ row.storageKey = call.storageKey ∧
      row.expectedByteSize = call.expectedByteSize ∧ call.phase.Holds service state.files row :=
  sound.calls call (List.mem_of_getElem? found)

theorem mem_move (found : state.calls[index]? = some call) {other : UploadCall} :
    other ∈ (state.move index call phase).calls → other = { call with phase } ∨
      ∃ j, j ≠ index ∧ state.calls[j]? = some other := by
  intro member
  obtain ⟨j, present⟩ := List.mem_iff_getElem?.mp member
  by_cases same : j = index
  · subst same
    obtain ⟨inside, _⟩ := List.getElem?_eq_some_iff.mp found
    rw [UploadState.move, List.getElem?_set_self inside, Option.some.injEq] at present
    exact .inl present.symm
  · rw [UploadState.move, List.getElem?_set_ne (Ne.symm same)] at present
    exact .inr ⟨j, same, present⟩

/-- Two uploads that have claimed stay apart when one of them goes on. -/
theorem apart_move (found : state.calls[index]? = some call)
    (apart : ∀ (i j : Nat) one other, state.calls[i]? = some one → state.calls[j]? = some other → i ≠ j →
      one.phase.expects ≠ none → other.phase.expects ≠ none → one.storageObjectId ≠ other.storageObjectId)
    (claims : phase.expects ≠ none → ∀ j other, j ≠ index → state.calls[j]? = some other → other.phase.expects ≠ none →
      other.storageObjectId ≠ call.storageObjectId) (i j : Nat) (one other : UploadCall)
    (first : (state.move index call phase).calls[i]? = some one)
    (second : (state.move index call phase).calls[j]? = some other) (distinct : i ≠ j)
    (busy : one.phase.expects ≠ none) (busy' : other.phase.expects ≠ none) :
    one.storageObjectId ≠ other.storageObjectId := by
  obtain ⟨inside, _⟩ := List.getElem?_eq_some_iff.mp found
  have read (k : Nat) : (state.move index call phase).calls[k]? =
      if k = index then some { call with phase } else state.calls[k]? := by
    by_cases same : k = index
    · subst same
      rw [if_pos rfl, UploadState.move, List.getElem?_set_self inside]
    · rw [if_neg same, UploadState.move, List.getElem?_set_ne (Ne.symm same)]
  rw [read] at first second
  by_cases atFirst : i = index
  · rw [if_pos atFirst, Option.some.injEq] at first
    rw [if_neg fun same => distinct (atFirst.trans same.symm)] at second
    subst first
    exact (claims busy j other (fun same => distinct (atFirst.trans same.symm)) second busy').symm
  · rw [if_neg atFirst] at first
    by_cases atSecond : j = index
    · rw [if_pos atSecond, Option.some.injEq] at second
      subst second
      exact claims busy' i one atFirst first busy
    · rw [if_neg atSecond] at second
      exact apart i j one other first second distinct busy busy'

/-- An upload goes on with no transaction. -/
theorem UploadSound.move (sound : UploadSound service state) (found : state.calls[index]? = some call)
    (claimed : phase.expects ≠ none → call.phase.expects ≠ none)
    (holds : ∀ row ∈ state.store.stagedObjects, row.id = call.storageObjectId → row.storageKey = call.storageKey →
      call.phase.Holds service state.files row → phase.Holds service state.files row) :
    UploadSound service (state.move index call phase) where
  keys := sound.keys
  calls other member := by
    rcases mem_move found member with rfl | ⟨j, _, present⟩
    · obtain ⟨row, stored, named, key, size, held⟩ := sound.row found
      exact ⟨row, stored, named, key, size, holds row stored named key held⟩
    · exact sound.calls other (List.mem_of_getElem? present)
  apart := by
    refine apart_move found sound.apart fun busy j other different present busy' => ?_
    exact sound.apart j index other call present found different busy' (claimed busy)
  admitted := sound.admitted
  deletions := sound.deletions
  documents := sound.documents

/-- Files that still hold what they held. -/
theorem UploadSound.extend (sound : UploadSound service state) {files : Files String (List UInt8)}
    (kept : ∀ key content, state.files.read key = some content → files.read key = some content) :
    UploadSound service { state with files } where
  keys := sound.keys
  calls call member := by
    obtain ⟨row, stored, named, key, size, holds⟩ := sound.calls call member
    exact ⟨row, stored, named, key, size, holds.keep fun _ _ _ => kept row.storageKey⟩
  apart := sound.apart
  admitted row stored state := by
    obtain ⟨content, byteSize, sha256, mediaType, present, rest⟩ := sound.admitted row stored state
    exact ⟨content, byteSize, sha256, mediaType, kept _ _ present, rest⟩
  deletions := sound.deletions
  documents := sound.documents

/-- A file is deleted that no admitted object and no upload needs. -/
theorem UploadSound.unlink (sound : UploadSound service state) {storageKey : String}
    (free : ∀ row ∈ state.store.stagedObjects, row.storageKey = storageKey →
      (row.state ≠ .clean ∧ row.state ≠ .consumed) ∧ (row.state = .rejected ∨ row.state = .expired ∨
        ∀ call ∈ state.calls, call.storageObjectId = row.id → call.phase.facts service = none)) (succeeds : Bool) :
    UploadSound service (state.unlink storageKey succeeds) := by
  by_cases deleted : succeeds = true
  swap
  · rw [UploadState.unlink, if_neg deleted]
    exact sound
  rw [UploadState.unlink, if_pos deleted]
  have kept {row : DceStagedObjectRecord} (other : row.storageKey ≠ storageKey) (content : List UInt8)
      (present : state.files.read row.storageKey = some content) :
      (state.files.keep fun key => decide (key ≠ storageKey)).read row.storageKey = some content := by
    rw [Files.read_keep, if_pos (decide_eq_true other)]
    exact present
  refine ⟨sound.keys, fun call member => ?_, sound.apart, fun row stored admitted => ?_, sound.deletions, sound.documents⟩
  · obtain ⟨row, stored, named, key, size, holds⟩ := sound.calls call member
    refine ⟨row, stored, named, key, size, holds.keep fun stands unexpired needed content present => ?_⟩
    apply kept _ content present
    intro same
    rcases (free row stored same).2 with rejected | expired | useless
    · exact stands rejected
    · exact unexpired expired
    · exact needed (useless call member named.symm)
  · obtain ⟨content, byteSize, sha256, mediaType, present, rest⟩ := sound.admitted row stored admitted
    refine ⟨content, byteSize, sha256, mediaType, kept ?_ content present, rest⟩
    intro same
    rcases admitted with clean | consumed
    · exact (free row stored same).1.1 clean
    · exact (free row stored same).1.2 consumed

end Files

/-- How a command of a user or of the retention worker changes an object. -/
structure DceStagedObjectRecord.Follows (old new : DceStagedObjectRecord) : Prop where
  id : new.id = old.id
  storageKey : new.storageKey = old.storageKey
  expectedByteSize : new.expectedByteSize = old.expectedByteSize
  moved : new = old ∨ (new.state = .expired ∧ old.state ≠ .consumed) ∨
    (old.state = .clean ∧ ∃ dceVersionId, new = consumed dceVersionId old)

structure ObjectsFollow (store next : StagingStore) : Prop where
  forward : ∀ old ∈ store.stagedObjects, ∃ new ∈ next.stagedObjects, old.Follows new
  backward : ∀ new ∈ next.stagedObjects, (new.state = .awaitingUpload ∧ isStagingKey new.storageKey = true) ∨
    ∃ old ∈ store.stagedObjects, old.Follows new

section Commands

variable {service : DceUploadService} {state : UploadState} {store next : StagingStore} {read locked : StagingStore}
  {context : CommandContext} {row : DceStagedObjectRecord}

theorem DceStagedObjectRecord.Follows.refl (row : DceStagedObjectRecord) : row.Follows row := ⟨rfl, rfl, rfl, .inl rfl⟩

theorem UploadPhase.Holds.follow {files : Files String (List UInt8)} {old new : DceStagedObjectRecord}
    {phase : UploadPhase} (holds : phase.Holds service files old) (follows : old.Follows new) :
    phase.Holds service files new := by
  rcases follows.moved with rfl | ⟨expired, _⟩ | ⟨clean, _⟩
  · exact holds
  · exact .expired expired
  · by_cases idle : phase.expects = none
    · exact UploadPhase.holds_idle idle
    · have state := holds.state idle
      rw [clean] at state
      rcases state with is | is | is | is <;> cases is

theorem UploadSound.follow (sound : UploadSound service state) (follow : ObjectsFollow state.store store)
    (documents : ∀ document ∈ store.documents, document ∈ state.store.documents ∨ DocumentHeld store document) :
    UploadSound service { state with store } where
  keys new member := by
    rcases follow.backward new member with ⟨_, key⟩ | ⟨old, stored, follows⟩
    · exact key
    · rw [follows.storageKey]
      exact sound.keys old stored
  calls call member := by
    obtain ⟨row, stored, named, key, size, holds⟩ := sound.calls call member
    obtain ⟨new, present, follows⟩ := follow.forward row stored
    exact ⟨new, present, follows.id.trans named, follows.storageKey.trans key, follows.expectedByteSize.trans size,
      holds.follow follows⟩
  apart := sound.apart
  admitted new member state := by
    rcases follow.backward new member with ⟨awaiting, _⟩ | ⟨old, stored, follows⟩
    · rw [awaiting] at state
      rcases state with is | is <;> cases is
    rcases follows.moved with rfl | ⟨expired, _⟩ | ⟨clean, dceVersionId, rfl⟩
    · exact sound.admitted new stored state
    · rw [expired] at state
      rcases state with is | is <;> cases is
    · exact sound.admitted old stored (.inl clean)
  deletions storageKey listed := by
    obtain ⟨row, stored, key, closed⟩ := sound.deletions storageKey listed
    obtain ⟨new, present, follows⟩ := follow.forward row stored
    refine ⟨new, present, follows.storageKey.trans key, ?_⟩
    rcases follows.moved with rfl | ⟨expired, _⟩ | ⟨clean, _⟩
    · exact closed
    · exact .inr expired
    · rw [clean] at closed
      rcases closed with is | is <;> cases is
  documents document member := by
    rcases documents document member with known | held
    swap
    · exact held
    obtain ⟨row, stored, state, rest⟩ := sound.documents document known
    obtain ⟨new, present, follows⟩ := follow.forward row stored
    rcases follows.moved with rfl | ⟨_, unconsumed⟩ | ⟨clean, _⟩
    · exact ⟨new, present, state, rest⟩
    · exact absurd state unconsumed
    · rw [clean] at state
      cases state

theorem isStagingKey_stagingStorageKey (tenantId storageObjectId : Uuid) :
    isStagingKey (stagingStorageKey tenantId storageObjectId) = true := by
  have shape : (stagingStorageKey tenantId storageObjectId).toList =
      "dce-staging/".toList ++ (tenantId.chars ++ '/' :: storageObjectId.chars) := String.toList_ofList
  rw [isStagingKey, shape, List.isPrefixOf_iff_prefix]
  exact List.prefix_append _ _

theorem prepare_follows {command : PrepareDceStagingCommand}
    (finished : finishStaging ⟨.prepare command, context⟩ read locked store = .ok next) :
    ObjectsFollow store next ∧ next.documents = store.documents := by
  obtain ⟨outcome, accepted⟩ := map_fst_ok.mp finished
  simp only [StagingRequest.execute, prepareDceStaging, bind_ok, orRaise_ok, raiseIf_ok, exists_unit, flush,
    pure_ok, Prod.mk.injEq] at accepted
  obtain ⟨_, _, _, _, _, _, _, inserted, rfl, _⟩ := accepted
  refine ⟨⟨fun old member => ⟨old, (Table.mem_insert? inserted).mpr (.inl member), .refl old⟩, fun new member => ?_⟩, rfl⟩
  rcases (Table.mem_insert? inserted).mp member with old | rfl
  · exact .inr ⟨new, old, .refl new⟩
  · exact .inl ⟨rfl, isStagingKey_stagingStorageKey _ _⟩

theorem expire_follows {command : StagedObjectCommand}
    (kept : KeptObject (context.tenantId, command.storageObjectId) locked store)
    (finished : finishStaging ⟨.expire command, context⟩ read locked store = .ok next) :
    ObjectsFollow store next ∧ next.documents = store.documents := by
  obtain ⟨outcome, accepted⟩ := map_fst_ok.mp finished
  obtain ⟨stagedObject, writes, unconsumed, _⟩ := expire_ok accepted
  obtain ⟨stored, _, named⟩ := stagedObject_eq_some.mp (kept stagedObject writes.found)
  have expires : stagedObject.Follows
      (StagedObjectWrite.apply { StagedObjectWrite.of stagedObject with state := .expired } stagedObject) :=
    ⟨rfl, rfl, rfl, .inr (.inl ⟨rfl, unconsumed⟩)⟩
  rw [writes.next]
  refine ⟨⟨fun old member => ?_, fun new member => ?_⟩, rfl⟩
  · by_cases same : old.id = command.storageObjectId
    · obtain rfl := eq_of_id member stored (same.trans named.symm)
      exact ⟨_, (mem_write stored named).mpr (.inl rfl), expires⟩
    · exact ⟨old, (mem_write stored named).mpr (.inr ⟨member, same⟩), .refl old⟩
  · rcases (mem_write stored named).mp member with rfl | ⟨old, _⟩
    · exact .inr ⟨stagedObject, stored, expires⟩
    · exact .inr ⟨new, old, .refl new⟩

theorem admitStagedObject_recorded {command : RegisterDceVersionCommand} {receivedAt : Timestamp}
    {admitted : AdmittedObject} (accepted : admitStagedObject command receivedAt row = .ok admitted) :
    admitted.stagedObject = row ∧ row.state = .clean ∧ row.sha256 = some admitted.sha256 ∧
      row.mediaType = some admitted.mediaType ∧ row.actualByteSize = some admitted.byteSize := by
  simp only [admitStagedObject, bind_ok, orRaise_ok, raiseIf_ok, exists_unit, pure_ok, not_not] at accepted
  obtain ⟨_, state, _, _, hash, _, media, _, size, rfl⟩ := accepted
  exact ⟨rfl, state, hash, media, size⟩

theorem admitDocument_recorded {tenantId dceVersionId documentId : Uuid} {admitted : AdmittedObject}
    {document : DceDocumentRecord} (accepted : admitDocument tenantId dceVersionId documentId admitted = .ok document) :
    document.storageKey = admitted.stagedObject.storageKey ∧ document.mediaType = admitted.mediaType ∧
      document.byteSize = admitted.byteSize ∧ document.sha256 = admitted.sha256 := by
  unfold admitDocument at accepted
  split at accepted
  · cases accepted
  · split at accepted
    · cases accepted
      exact ⟨rfl, rfl, rfl, rfl⟩
    · cases accepted

/-- A document that a registration adds copies what its object was recorded with. -/
theorem registered_documents {view : StagingView} {outcome : HandlerOutcome} {command : RegisterDceVersionCommand}
    (accepted : registerDceVersion view command context = .ok (next, outcome)) :
    ∀ document ∈ next.documents, document ∈ view.store.documents ∨ ∃ id ∈ command.storageObjectIds, ∃ stagedObject,
      view.locked.stagedObject context.tenantId id = some stagedObject ∧
      stagedObject.storageKey = document.storageKey ∧ stagedObject.actualByteSize = some document.byteSize ∧
      stagedObject.sha256 = some document.sha256 ∧ stagedObject.mediaType = some document.mediaType := by
  simp only [registerDceVersion, bind_ok, orRaise_ok, raiseIf_ok, exists_unit, pure_ok, flush, Prod.mk.injEq,
    not_not] at accepted
  obtain ⟨_, _, _, _, _, stagedObjects, found, admitted, admits, _, documents, admission, _, _, _, _, table, added, rfl,
    _⟩ := accepted
  intro document member
  rcases (Table.mem_insertAll? added).mp member with old | new
  · exact .inl old
  obtain ⟨⟨documentId, object⟩, listed, made⟩ := (collect_mem admission).2 document new
  obtain ⟨stagedObject, locks, recorded⟩ := (collect_mem admits).2 object (List.of_mem_zip listed).2
  obtain ⟨id, asked, present⟩ := (collect_mem found).2 stagedObject locks
  obtain ⟨same, _, hash, media, size⟩ := admitStagedObject_recorded recorded
  obtain ⟨key, type, length, digest⟩ := admitDocument_recorded made
  refine .inr ⟨id, asked, stagedObject, orRaise_ok.mp present, ?_, ?_, ?_, ?_⟩
  · rw [key, same]
  · rw [length, size]
  · rw [digest, hash]
  · rw [type, media]

theorem register_follows {command : RegisterDceVersionCommand}
    (kept : ∀ id ∈ command.storageObjectIds, KeptObject (context.tenantId, id) locked store)
    (finished : finishStaging ⟨.register command, context⟩ read locked store = .ok next) :
    ObjectsFollow store next ∧
      ∀ document ∈ next.documents, document ∈ store.documents ∨ DocumentHeld next document := by
  obtain ⟨outcome, accepted⟩ := map_fst_ok.mp finished
  simp only [StagingRequest.execute, bind_ok, orRaise_ok] at accepted
  obtain ⟨_, valid, accepted⟩ := accepted
  obtain rfl := register_built valid
  have consumes : Consumes store next command context.tenantId := (registerDceVersion_ok accepted).consumes kept
  have follows (old : DceStagedObjectRecord) (member : old ∈ store.stagedObjects) :
      old.Follows (if old.id ∈ command.storageObjectIds then consumed command.dceVersionId old else old) := by
    by_cases listed : old.id ∈ command.storageObjectIds
    · rw [if_pos listed]
      exact ⟨rfl, rfl, rfl, .inr (.inr ⟨(consumes.clean old member listed).1, _, rfl⟩)⟩
    · rw [if_neg listed]
      exact .refl old
  refine ⟨⟨fun old member => ⟨_, consumes.mem_objects.mpr ⟨old, member, rfl⟩, follows old member⟩, fun new member => ?_⟩,
    fun document member => ?_⟩
  · obtain ⟨old, stored, rfl⟩ := consumes.mem_objects.mp member
    exact .inr ⟨old, stored, follows old stored⟩
  · rcases registered_documents accepted document member with old | ⟨id, listed, stagedObject, found, recorded⟩
    · exact .inl old
    obtain ⟨stored, _, rfl⟩ := stagedObject_eq_some.mp (kept id listed stagedObject found)
    exact .inr ⟨_, consumes.mem_objects.mpr ⟨stagedObject, stored, if_pos listed⟩, rfl, recorded⟩

end Commands

section Dispatches

variable {service : DceUploadService} {state : UploadState} {index : Nat} {call : UploadCall} {phase : UploadPhase}
  {row : DceStagedObjectRecord} {write : StagedObjectWrite} {read locked : StagingStore} {next : StagingStore}
  {context : CommandContext} {base : StagedObjectCommand}

/-- The command of an upload is committed: it writes its object, and the upload goes on. -/
theorem UploadSound.dispatch (sound : UploadSound service state) (found : state.calls[index]? = some call)
    (stored : row ∈ state.store.stagedObjects) (named : row.id = call.storageObjectId)
    (pending : row.state = .awaitingUpload ∨ row.state = .uploading ∨ row.state = .quarantined)
    (claimed : call.phase.expects ≠ none ∨ row.state = .awaitingUpload)
    (holds : phase.Holds service state.files (write.apply row))
    (admits : write.state = .clean ∨ write.state = .consumed → RowHeld service state.files (write.apply row)) :
    UploadSound service ({ state with store := state.store.write call.storageObjectId write }.move index call phase) := by
  have own {other : DceStagedObjectRecord} (present : other ∈ state.store.stagedObjects)
      (settled : other.state = .rejected ∨ other.state = .expired ∨ other.state = .consumed) :
      other ∈ (state.store.write call.storageObjectId write).stagedObjects := by
    refine (mem_write stored named).mpr (.inr ⟨present, fun same => ?_⟩)
    obtain rfl := eq_of_id present stored (same.trans named.symm)
    rcases settled with is | is | is <;> rw [is] at pending <;> rcases pending with never | never | never <;> cases never
  have waiting (other : UploadCall) (member : other ∈ state.calls) (busy : other.phase.expects ≠ none)
      (same : other.storageObjectId = call.storageObjectId) : row.state ≠ .awaitingUpload := by
    obtain ⟨row', present, named', _, _, held⟩ := sound.calls other member
    obtain rfl := eq_of_id present stored ((named'.trans same).trans named.symm)
    rcases held.state busy with is | is | is | is <;> rw [is] <;> decide
  refine ⟨fun new member => ?_, fun other member => ?_, ?_, fun new member admitted => ?_, fun storageKey listed => ?_,
    fun document member => ?_⟩
  · rcases (mem_write stored named).mp member with rfl | ⟨old, _⟩
    · exact sound.keys row stored
    · exact sound.keys new old
  · rcases mem_move found member with rfl | ⟨j, different, present⟩
    · obtain ⟨row', present, named', key, size, _⟩ := sound.row found
      obtain rfl := eq_of_id present stored (named'.trans named.symm)
      exact ⟨_, (mem_write stored named).mpr (.inl rfl), named, key, size, holds⟩
    · obtain ⟨row', kept, named', key, size, held⟩ := sound.calls other (List.mem_of_getElem? present)
      by_cases same : row'.id = call.storageObjectId
      · obtain rfl := eq_of_id kept stored (same.trans named.symm)
        refine ⟨_, (mem_write stored named).mpr (.inl rfl), named', key, size, UploadPhase.holds_idle ?_⟩
        by_contra busy
        have object : other.storageObjectId = call.storageObjectId := named'.symm.trans same
        rcases claimed with claimed | awaiting
        · exact sound.apart j index other call present found different busy claimed object
        · exact waiting other (List.mem_of_getElem? present) busy object awaiting
      · exact ⟨row', (mem_write stored named).mpr (.inr ⟨kept, same⟩), named', key, size, held⟩
  · refine apart_move found sound.apart fun _ j other different present busy' same => ?_
    rcases claimed with claimed | awaiting
    · exact sound.apart j index other call present found different busy' claimed same
    · exact waiting other (List.mem_of_getElem? present) busy' same awaiting
  · rcases (mem_write stored named).mp member with rfl | ⟨old, _⟩
    · exact admits admitted
    · exact sound.admitted new old admitted
  · obtain ⟨row', present, key, closed⟩ := sound.deletions storageKey listed
    exact ⟨row', own present (closed.imp_right .inl), key, closed⟩
  · obtain ⟨row', present, consumed, rest⟩ := sound.documents document member
    exact ⟨row', own present (.inr (.inr consumed)), consumed, rest⟩

/-- The object a dispatch locked is the one the route read. -/
theorem UploadSound.locked_row (sound : UploadSound service state) (found : state.calls[index]? = some call)
    (object : call.storageObjectId = base.storageObjectId)
    (kept : KeptObject (context.tenantId, base.storageObjectId) locked state.store)
    (present : locked.stagedObject context.tenantId base.storageObjectId = some row) :
    row ∈ state.store.stagedObjects ∧ row.id = call.storageObjectId ∧ row.storageKey = call.storageKey ∧
      row.expectedByteSize = call.expectedByteSize ∧ call.phase.Holds service state.files row := by
  obtain ⟨stored, _, named⟩ := stagedObject_eq_some.mp (kept row present)
  obtain ⟨row', stored', named', key, size, holds⟩ := sound.row found
  obtain rfl := eq_of_id stored stored' (named.trans (object.symm.trans named'.symm))
  exact ⟨stored, named', key, size, holds⟩

theorem UploadSound.claim (sound : UploadSound service state) (found : state.calls[index]? = some call)
    (claiming : call.phase = .claiming) (object : call.storageObjectId = base.storageObjectId)
    (kept : KeptObject (context.tenantId, base.storageObjectId) locked state.store)
    (finished : finishStaging ⟨.claim base, context⟩ read locked state.store = .ok next) :
    UploadSound service ({ state with store := next }.move index call (call.committed service)) := by
  obtain ⟨outcome, accepted⟩ := map_fst_ok.mp finished
  obtain ⟨row, writes, awaiting, _⟩ := claim_ok accepted
  obtain ⟨stored, named, _⟩ := sound.locked_row found object kept writes.found
  rw [writes.next, ← object]
  refine sound.dispatch found stored named (.inl awaiting) (.inr awaiting) ?_ fun admitted => ?_
  · rw [UploadCall.committed, claiming]
    dsimp only
    split <;> exact fun expected expects => .inr ⟨Option.some.inj expects, fun _ known => by cases known⟩
  · rcases admitted with is | is <;> cases is

theorem UploadSound.quarantine (sound : UploadSound service state) (found : state.calls[index]? = some call)
    {written : QuarantineWriteResult} {mediaType : String} (recording : call.phase = .recordingQuarantine written mediaType)
    (object : call.storageObjectId = base.storageObjectId)
    (kept : KeptObject (context.tenantId, base.storageObjectId) locked state.store)
    (finished : finishStaging ⟨.quarantine { base with
        actualByteSize := written.byteSize, sha256 := written.sha256, mediaType
        contentAllowed := decide (mediaType ∈ service.allowedMediaTypes) }, context⟩ read locked state.store = .ok next) :
    UploadSound service ({ state with store := next }.move index call (call.committed service)) := by
  obtain ⟨outcome, accepted⟩ := map_fst_ok.mp finished
  simp only [StagingRequest.execute, bind_ok, orRaise_ok] at accepted
  obtain ⟨_, valid, accepted⟩ := accepted
  obtain rfl := quarantine_built valid
  obtain ⟨row, writes, uploading⟩ := quarantine_ok accepted
  obtain ⟨stored, named, _, size, holds⟩ := sound.locked_row found object kept writes.found
  have busy : call.phase.expects = some .uploading := by rw [recording]; rfl
  have facts : ∃ content, state.files.read row.storageKey = some content ∧
      (written = .of content ∧ service.detectMediaType content = some mediaType) := by
    rcases holds _ busy with expired | ⟨_, known⟩
    · rw [uploading] at expired
      cases expired
    · exact known _ (by rw [recording]; rfl)
  rw [writes.next, ← object]
  refine sound.dispatch found stored named (.inr (.inl uploading)) (.inl (by rw [busy]; exact Option.some_ne_none _)) ?_
    fun admitted => ?_
  · rw [UploadCall.committed, recording]
    by_cases mismatch : written.byteSize ≠ call.expectedByteSize
    · have rejected : written.byteSize ≠ row.expectedByteSize := by rwa [size]
      simp only [RecordDceStagedObjectQuarantineCommand.write, if_pos rejected, if_pos (Or.inl mismatch)]
      exact fun expected expects => .inr ⟨Option.some.inj expects, fun _ known => by cases known⟩
    have agrees : ¬written.byteSize ≠ row.expectedByteSize := by rwa [size]
    by_cases allowed : mediaType ∈ service.allowedMediaTypes
    · simp only [RecordDceStagedObjectQuarantineCommand.write, if_neg agrees, allowed, decide_true, Bool.true_eq_false,
        if_false, mismatch, not_true, or_self]
      refine fun expected expects => .inr ⟨Option.some.inj expects, fun fact known => ?_⟩
      obtain ⟨content, present, same, detected⟩ := facts
      rw [← Option.some.inj known]
      exact ⟨content, present, same, detected, allowed⟩
    · simp only [RecordDceStagedObjectQuarantineCommand.write, if_neg agrees, allowed, decide_false, if_true,
        not_false_eq_true, or_true]
      exact fun expected expects => .inr ⟨Option.some.inj expects, fun _ known => by cases known⟩
  · unfold RecordDceStagedObjectQuarantineCommand.write at admitted
    dsimp only at admitted
    split at admitted
    · rcases admitted with is | is <;> cases is
    · split at admitted <;> rcases admitted with is | is <;> cases is

theorem UploadSound.scan (sound : UploadSound service state) (found : state.calls[index]? = some call)
    {written : QuarantineWriteResult} {mediaType : String} {verdict : ScanVerdict}
    (recording : call.phase = .recordingScan written mediaType verdict)
    (object : call.storageObjectId = base.storageObjectId)
    (kept : KeptObject (context.tenantId, base.storageObjectId) locked state.store)
    (finished : finishStaging ⟨.scan { base with
        actualByteSize := written.byteSize, sha256 := written.sha256, mediaType, scanVerdict := verdict },
          context⟩ read locked state.store = .ok next) :
    UploadSound service ({ state with store := next }.move index call (call.committed service)) := by
  obtain ⟨outcome, accepted⟩ := map_fst_ok.mp finished
  simp only [StagingRequest.execute, bind_ok, orRaise_ok] at accepted
  obtain ⟨_, valid, accepted⟩ := accepted
  obtain rfl := scan_built valid
  obtain ⟨row, writes, quarantined⟩ := scan_ok accepted
  obtain ⟨stored, named, _, size, holds⟩ := sound.locked_row found object kept writes.found
  have busy : call.phase.expects = some .quarantined := by rw [recording]; rfl
  have facts : ∃ content, state.files.read row.storageKey = some content ∧
      ((written = .of content ∧ service.detectMediaType content = some mediaType ∧
        mediaType ∈ service.allowedMediaTypes) ∧
      (verdict = .clean → ∃ signatures, service.scan signatures content = .clean)) := by
    rcases holds _ busy with expired | ⟨_, known⟩
    · rw [quarantined] at expired
      cases expired
    · exact known _ (by rw [recording]; rfl)
  rw [writes.next, ← object]
  refine sound.dispatch found stored named (.inr (.inr quarantined)) (.inl (by rw [busy]; exact Option.some_ne_none _)) ?_
    fun admitted => ?_
  · rw [UploadCall.committed, recording]
    dsimp only
    by_cases infected : verdict ≠ .clean
    · rw [if_pos infected]
      refine fun expected expects => .inr ⟨?_, fun _ known => by cases known⟩
      rw [← Option.some.inj expects]
      unfold RecordDceStagedObjectScanCommand.write
      dsimp only
      split
      · rfl
      · cases verdict with
        | clean => exact absurd rfl infected
        | infected => rfl
        | error => rfl
    · rw [if_neg infected]
      split <;> exact UploadPhase.holds_idle rfl
  · unfold RecordDceStagedObjectScanCommand.write at admitted ⊢
    dsimp only at admitted ⊢
    split at admitted
    · rcases admitted with is | is <;> cases is
    rename_i agrees
    rw [if_neg agrees]
    cases verdict with
    | clean =>
      obtain ⟨content, present, ⟨same, detected, allowed⟩, scanned⟩ := facts
      refine ⟨content, written.byteSize, lower written.sha256, mediaType, present, rfl, rfl, rfl, ?_⟩
      rw [same]
      exact ⟨rfl, (lower_hexdigestBytes content).symm, detected, allowed, scanned rfl⟩
    | infected => rcases admitted with is | is <;> cases is
    | error => rcases admitted with is | is <;> cases is

theorem UploadSound.reject (sound : UploadSound service state) (found : state.calls[index]? = some call)
    {rejectionCode : RejectionCode} (rejecting : call.phase = .rejecting rejectionCode)
    (object : call.storageObjectId = base.storageObjectId)
    (kept : KeptObject (context.tenantId, base.storageObjectId) locked state.store)
    (finished : finishStaging ⟨.reject { base with rejectionCode }, context⟩ read locked state.store = .ok next) :
    UploadSound service ({ state with store := next }.move index call (call.committed service)) := by
  obtain ⟨outcome, accepted⟩ := map_fst_ok.mp finished
  obtain ⟨row, writes, uploading⟩ := reject_ok accepted
  obtain ⟨stored, named, _⟩ := sound.locked_row found object kept writes.found
  have busy : call.phase.expects ≠ none := by
    rw [rejecting]
    exact Option.some_ne_none _
  rw [writes.next, ← object]
  refine sound.dispatch found stored named (.inr (.inl uploading)) (.inl busy) ?_ fun admitted => ?_
  · rw [UploadCall.committed, rejecting]
    exact UploadPhase.holds_idle rfl
  · rcases admitted with is | is <;> cases is

end Dispatches

section Events

variable {service : DceUploadService} {state next : UploadState} {index : Nat} {call : UploadCall}

theorem advance_ok {step : UploadCall → Transaction (UploadState × UploadPhase)} :
    state.advance index step = .ok next ↔ ∃ call, state.calls[index]? = some call ∧ ∃ moved phase,
      step call = .ok (moved, phase) ∧ next = moved.move index call phase := by
  simp only [UploadState.advance, bind_ok, orRaise_ok, pure_ok, Prod.exists]
  constructor
  · rintro ⟨call, found, moved, phase, stepped, rfl⟩
    exact ⟨call, found, moved, phase, stepped, rfl⟩
  · rintro ⟨call, found, moved, phase, stepped, rfl⟩
    exact ⟨call, found, moved, phase, stepped, rfl⟩

theorem UploadSound.start (sound : UploadSound service state) {row : DceStagedObjectRecord}
    (stored : row ∈ state.store.stagedObjects) (idle : call.phase.expects = none)
    (reads : row.id = call.storageObjectId ∧ row.storageKey = call.storageKey ∧
      row.expectedByteSize = call.expectedByteSize) :
    UploadSound service { state with calls := state.calls ++ [call] } where
  keys := sound.keys
  calls other member := by
    rcases List.mem_append.mp member with known | only
    · exact sound.calls other known
    · rw [List.mem_singleton.mp only]
      exact ⟨row, stored, reads.1, reads.2.1, reads.2.2, UploadPhase.holds_idle idle⟩
  apart i j one other first second distinct busy busy' := by
    have known {k : Nat} {some' : UploadCall} (present : (state.calls ++ [call])[k]? = some some')
        (busy : some'.phase.expects ≠ none) : state.calls[k]? = some some' := by
      by_cases inside : k < state.calls.length
      · rwa [List.getElem?_append_left inside] at present
      · rw [List.getElem?_append_right (Nat.le_of_not_lt inside)] at present
        rw [List.mem_singleton.mp (List.mem_of_getElem? present)] at busy
        exact absurd idle busy
    exact sound.apart i j one other (known first busy) (known second busy') distinct busy busy'
  admitted := sound.admitted
  deletions := sound.deletions
  documents := sound.documents

/-- The bytes of a stream are under the key of its upload, or the upload does not read them. -/
theorem UploadSound.write (sound : UploadSound service state) (found : state.calls[index]? = some call)
    (writing : call.phase = .writing) (content : List UInt8) (outcome : WriteOutcome) :
    UploadSound service ({ state with files := (state.write service call content outcome).1 }.move index call
      (state.write service call content outcome).2) := by
  have busy : call.phase.expects ≠ none := by
    rw [writing]
    exact Option.some_ne_none _
  have useless {phase : UploadPhase} (expects : phase.expects = some .uploading) (none : phase.facts service = none)
      {files : Files String (List UInt8)} {row : DceStagedObjectRecord}
      (holds : call.phase.Holds service files row) : phase.Holds service files row := by
    intro expected same
    rw [expects] at same
    rcases holds .uploading (by rw [writing]; rfl) with expired | ⟨uploading, _⟩
    · exact .inl expired
    · refine .inr ⟨uploading.trans (Option.some.inj same), fun facts known => ?_⟩
      rw [none] at known
      cases known
  have rejects (files : Files String (List UInt8)) (code : RejectionCode)
      (later : UploadSound service { state with files }) :
      UploadSound service ({ state with files }.move index call (.rejecting code)) :=
    later.move found (fun _ => busy) fun _ _ _ _ holds => useless rfl rfl holds
  have extended {files : Files String (List UInt8)} (written : state.files.write? call.storageKey content = some files) :
      UploadSound service { state with files } := by
    refine sound.extend fun key stored present => ?_
    rw [Files.read_write? written, if_neg fun same => ?_]
    · exact present
    · rw [same, Files.write?_absent written] at present
      cases present
  cases result : state.files.write? call.storageKey content with
  | none =>
    cases outcome with
    | completed =>
      simp only [UploadState.write, result]
      exact rejects _ _ sound
    | failed linked =>
      cases linked with
      | false => exact rejects _ _ sound
      | true =>
        simp only [UploadState.write, result]
        exact rejects _ _ sound
  | some files =>
    cases outcome with
    | failed linked =>
      cases linked with
      | false => exact rejects _ _ sound
      | true =>
        simp only [UploadState.write, result]
        exact rejects _ _ (extended result)
    | completed =>
      simp only [UploadState.write, result]
      by_cases large : service.maxBytes < content.length
      · rw [if_pos large]
        exact rejects _ _ sound
      rw [if_neg large]
      by_cases empty : content.length = 0
      · rw [if_pos empty]
        exact (extended result).move found (fun _ => busy) fun _ _ _ _ holds => useless rfl rfl holds
      rw [if_neg empty]
      refine (extended result).move found (fun _ => busy) fun row _ _ key holds expected expects => ?_
      rcases holds .uploading (by rw [writing]; rfl) with expired | ⟨uploading, _⟩
      · exact .inl expired
      refine .inr ⟨uploading.trans (Option.some.inj expects), fun facts known => ⟨content, ?_, ?_⟩⟩
      · rw [key, Files.read_write? result, if_pos rfl]
      · rw [← Option.some.inj known]

/-- An upload goes on from the same state of its object, with what it then knows of the file. -/
theorem UploadSound.read (sound : UploadSound service state) (found : state.calls[index]? = some call)
    {phase : UploadPhase} (expects : phase.expects = call.phase.expects)
    (learns : ∀ row, row.storageKey = call.storageKey → call.phase.Holds service state.files row →
      ∀ expected ∈ call.phase.expects, row.state = expected → ∀ facts ∈ phase.facts service, ∃ content,
        state.files.read row.storageKey = some content ∧ facts content) :
    UploadSound service (state.move index call phase) := by
  refine sound.move found (fun busy => expects ▸ busy) fun row _ _ key holds expected same => ?_
  rw [expects] at same
  rcases holds expected same with expired | ⟨stands, _⟩
  · exact .inl expired
  · exact .inr ⟨stands, learns row key holds expected same stands⟩

/-- A phase that has read the file of an object knows it unless the object has expired. -/
theorem UploadPhase.Holds.known {files : Files String (List UInt8)} {row : DceStagedObjectRecord} {phase : UploadPhase}
    (holds : phase.Holds service files row) {expected : StagedObjectState} (expects : phase.expects = some expected)
    (stands : row.state = expected) {facts : List UInt8 → Prop} (known : phase.facts service = some facts) :
    ∃ content, files.read row.storageKey = some content ∧ facts content := by
  rcases holds expected expects with expired | ⟨_, each⟩
  · rcases UploadPhase.expected_open expects with is | is | is <;> rw [stands, is] at expired <;> cases expired
  · exact each facts known

theorem UploadSound.detect (sound : UploadSound service state) (found : state.calls[index]? = some call)
    {written : QuarantineWriteResult} (detecting : call.phase = .detecting written) {mediaType : String}
    (detected : (state.files.read call.storageKey).bind service.detectMediaType = some mediaType) :
    UploadSound service (state.move index call (.recordingQuarantine written mediaType)) := by
  refine sound.read found (by rw [detecting]; rfl) fun row key holds expected expects stands facts known => ?_
  obtain ⟨content, present, same⟩ := holds.known expects stands (by rw [detecting]; rfl)
  rw [← Option.some.inj known]
  refine ⟨content, present, same, ?_⟩
  rwa [← key, present, Option.bind_some] at detected

theorem UploadSound.discard (sound : UploadSound service state) (found : state.calls[index]? = some call)
    (uploading : call.phase.expects = some .uploading) (rejectionCode : RejectionCode) :
    UploadSound service (state.move index call (.discarding rejectionCode)) :=
  sound.read found uploading.symm fun _ _ _ _ _ _ _ known => by cases known

theorem UploadSound.scanned (sound : UploadSound service state) (found : state.calls[index]? = some call)
    {written : QuarantineWriteResult} {mediaType : String} (scanning : call.phase = .scanning written mediaType)
    {verdict : ScanVerdict} (clean : verdict = .clean → ∃ content signatures,
      state.files.read call.storageKey = some content ∧ service.scan signatures content = .clean) :
    UploadSound service (state.move index call (.recordingScan written mediaType verdict)) := by
  refine sound.read found (by rw [scanning]; rfl) fun row key holds expected expects stands facts known => ?_
  obtain ⟨content, present, same⟩ := holds.known expects stands (by rw [scanning]; rfl)
  rw [← Option.some.inj known]
  refine ⟨content, present, same, fun is => ?_⟩
  obtain ⟨scanned, signatures, stored, passes⟩ := clean is
  rw [← key, present] at stored
  exact ⟨signatures, Option.some.inj stored ▸ passes⟩

theorem UploadSound.leave (sound : UploadSound service state) (found : state.calls[index]? = some call)
    {phase : UploadPhase} (idle : phase.expects = none) : UploadSound service (state.move index call phase) :=
  sound.move found (fun busy => absurd idle busy) fun _ _ _ _ _ => UploadPhase.holds_idle idle

/-- An upload that gives up deletes its own file, which no other needs. -/
theorem UploadSound.delete (sound : UploadSound service state) (found : state.calls[index]? = some call)
    {phase : UploadPhase} (giving : call.phase.expects = some .uploading ∨ call.phase.expects = some .rejected)
    (useless : phase.facts service = none)
    (moved : UploadSound service (state.move index call phase)) (succeeds : Bool) :
    UploadSound service ((state.unlink call.storageKey succeeds).move index call phase) := by
  have busy : call.phase.expects ≠ none := by
    rcases giving with is | is <;> rw [is] <;> exact Option.some_ne_none _
  have swap : (state.unlink call.storageKey succeeds).move index call phase =
      (state.move index call phase).unlink call.storageKey succeeds := by
    cases succeeds <;> rfl
  rw [swap]
  apply moved.unlink
  intro row stored key
  obtain ⟨row', stored', named, key', _, holds⟩ := sound.row found
  obtain rfl := key_unique stored stored' (key.trans key'.symm)
  have state := holds.state busy
  refine ⟨⟨fun is => ?_, fun is => ?_⟩, ?_⟩
  · rw [is] at state
    rcases state with never | never | never | never <;> cases never
  · rw [is] at state
    rcases state with never | never | never | never <;> cases never
  by_cases rejected : row.state = .rejected ∨ row.state = .expired
  · exact rejected.imp_right .inl
  refine .inr (.inr fun other member same => ?_)
  rcases mem_move found member with rfl | ⟨j, different, present⟩
  · exact useless
  · by_contra needed
    have busy' : other.phase.expects ≠ none := by
      intro idle
      apply needed
      cases phase : other.phase <;> rw [phase] at idle <;> first | rfl | cases idle
    exact sound.apart j index other call present found different busy' busy (same.trans named)

theorem UploadSound.event (sound : UploadSound service state) {event : UploadEvent}
    (accepted : state.event service event = .ok next) : UploadSound service next := by
  cases event with
  | start tenantId storageObjectId contentLength =>
    simp only [UploadState.event, bind_ok, orRaise_ok, pure_ok] at accepted
    obtain ⟨row, found, rfl⟩ := accepted
    have named : row.id = storageObjectId := by simpa using Table.find?_query found
    exact sound.start (Table.find?_mem found) rfl ⟨named, rfl, rfl⟩
  | write index content outcome =>
    obtain ⟨call, found, moved, phase, stepped, rfl⟩ := advance_ok.mp accepted
    cases standing : call.phase with
    | writing =>
      simp only [standing, Except.ok.injEq, Prod.mk.injEq] at stepped
      obtain ⟨rfl, rfl⟩ := stepped
      exact sound.write found standing content outcome
    | _ => simp [standing] at stepped
  | detect index succeeds =>
    obtain ⟨call, found, moved, phase, stepped, rfl⟩ := advance_ok.mp accepted
    cases standing : call.phase with
    | detecting written =>
      simp only [standing] at stepped
      split at stepped
      · rename_i mediaType detected
        cases stepped
        exact sound.detect found standing detected
      · cases stepped
        exact sound.discard found (by rw [standing]; rfl) _
    | _ => simp [standing] at stepped
  | scan index signatures succeeds =>
    obtain ⟨call, found, moved, phase, stepped, rfl⟩ := advance_ok.mp accepted
    cases standing : call.phase with
    | scanning written mediaType =>
      simp only [standing] at stepped
      split at stepped
      · rename_i content present
        cases stepped
        exact sound.scanned found standing fun clean => ⟨content, signatures, present, clean⟩
      · cases stepped
        exact sound.scanned found standing fun clean => by cases clean
    | _ => simp [standing] at stepped
  | delete index succeeds =>
    obtain ⟨call, found, moved, phase, stepped, rfl⟩ := advance_ok.mp accepted
    cases standing : call.phase with
    | discarding rejectionCode =>
      simp only [standing, Except.ok.injEq, Prod.mk.injEq] at stepped
      obtain ⟨rfl, rfl⟩ := stepped
      have uploading : call.phase.expects = some .uploading := by rw [standing]; rfl
      exact sound.delete found (.inl uploading) rfl
        (sound.read found (by rw [standing]; rfl) fun _ _ _ _ _ _ _ known => by cases known) succeeds
    | deleting =>
      simp only [standing, Except.ok.injEq, Prod.mk.injEq] at stepped
      obtain ⟨rfl, rfl⟩ := stepped
      exact sound.delete found (.inr (by rw [standing]; rfl)) rfl (sound.leave found rfl) succeeds
    | _ => simp [standing] at stepped
  | refuse index =>
    obtain ⟨call, found, moved, phase, stepped, rfl⟩ := advance_ok.mp accepted
    obtain ⟨refused, answered, same⟩ := except_map_ok.mp stepped
    obtain ⟨rfl, rfl⟩ := Prod.mk.inj same
    rw [orRaise_ok] at answered
    apply sound.leave found
    cases standing : call.phase with
    | claiming => rw [standing] at answered; cases answered; rfl
    | recordingQuarantine => rw [standing] at answered; cases answered; rfl
    | recordingScan => rw [standing] at answered; cases answered; rfl
    | rejecting => rw [standing] at answered; cases answered; rfl
    | _ => rw [standing] at answered; cases answered
  | interrupt index =>
    obtain ⟨call, found, moved, phase, stepped, rfl⟩ := advance_ok.mp accepted
    cases stepped
    exact sound.leave found rfl
  | sweep tenantId storageObjectId =>
    simp only [UploadState.event, bind_ok, orRaise_ok, raiseIf_ok, exists_unit, pure_ok, not_not] at accepted
    obtain ⟨row, found, closed, rfl⟩ := accepted
    obtain ⟨stored, _⟩ := stagedObject_found found
    refine { sound with deletions := fun storageKey listed => ?_ }
    rcases List.mem_append.mp listed with known | only
    · exact sound.deletions storageKey known
    · rw [List.mem_singleton.mp only]
      exact ⟨row, stored, rfl, by simpa using closed⟩
  | sweepDelete position succeeds =>
    simp only [UploadState.event, bind_ok, orRaise_ok, pure_ok] at accepted
    obtain ⟨storageKey, listed, rfl⟩ := accepted
    obtain ⟨row, stored, key, closed⟩ := sound.deletions storageKey (List.mem_of_getElem? listed)
    have free : ∀ other ∈ state.store.stagedObjects, other.storageKey = storageKey →
        (other.state ≠ .clean ∧ other.state ≠ .consumed) ∧ (other.state = .rejected ∨ other.state = .expired ∨
          ∀ call ∈ state.calls, call.storageObjectId = other.id → call.phase.facts service = none) := by
      intro other present same
      obtain rfl := key_unique present stored (same.trans key.symm)
      refine ⟨?_, closed.imp_right .inl⟩
      rcases closed with is | is <;> rw [is] <;> decide
    have store : (state.unlink storageKey succeeds).store = state.store := by cases succeeds <;> rfl
    refine { sound.unlink free succeeds with deletions := fun other remaining => ?_ }
    rw [store]
    exact sound.deletions other (List.eraseIdx_subset remaining)
  | foreignWrite storageKey content =>
    simp only [UploadState.event, bind_ok, orRaise_ok, raiseIf_ok, exists_unit, pure_ok] at accepted
    obtain ⟨_, files, written, rfl⟩ := accepted
    refine sound.extend fun key stored present => ?_
    rw [Files.read_write? written, if_neg fun same => ?_]
    · exact present
    · rw [same, Files.write?_absent written] at present
      cases present
  | foreignDelete storageKey =>
    simp only [UploadState.event, bind_ok, raiseIf_ok, exists_unit, pure_ok] at accepted
    obtain ⟨foreign, rfl⟩ := accepted
    refine sound.unlink (fun row stored same => absurd ?_ foreign) true
    rw [← same]
    exact sound.keys row stored
  | alone write =>
    obtain ⟨store, written, rfl⟩ := except_map_ok.mp accepted
    obtain ⟨objects, documents⟩ := writeAlone_kept written
    refine sound.follow ⟨fun old member => ⟨old, objects ▸ member, .refl old⟩, fun new member => ?_⟩ fun document member => ?_
    · exact .inr ⟨new, objects ▸ member, .refl new⟩
    · exact .inl (documents ▸ member)

theorem event_objects {event : UploadEvent} (accepted : state.event service event = .ok next) :
    next.store.stagedObjects = state.store.stagedObjects := by
  have unlinked (storageKey : String) (succeeds : Bool) : (state.unlink storageKey succeeds).store = state.store := by
    cases succeeds <;> rfl
  have advanced {index : Nat} {step : UploadCall → Transaction (UploadState × UploadPhase)}
      (keeps : ∀ call moved phase, step call = .ok (moved, phase) → moved.store = state.store)
      (accepted : state.advance index step = .ok next) : next.store.stagedObjects = state.store.stagedObjects := by
    obtain ⟨call, _, moved, phase, stepped, rfl⟩ := advance_ok.mp accepted
    exact congrArg StagingStore.stagedObjects (keeps call moved phase stepped)
  cases event with
  | start tenantId storageObjectId contentLength =>
    simp only [UploadState.event, bind_ok, orRaise_ok, pure_ok] at accepted
    obtain ⟨row, _, rfl⟩ := accepted
    rfl
  | write index content outcome =>
    refine advanced (fun call moved phase stepped => ?_) accepted
    split at stepped <;> cases stepped
    rfl
  | detect index succeeds =>
    refine advanced (fun call moved phase stepped => ?_) accepted
    split at stepped
    · split at stepped <;> cases stepped <;> rfl
    · cases stepped
  | scan index signatures succeeds =>
    refine advanced (fun call moved phase stepped => ?_) accepted
    split at stepped
    · split at stepped <;> cases stepped <;> rfl
    · cases stepped
  | delete index succeeds =>
    refine advanced (fun call moved phase stepped => ?_) accepted
    split at stepped <;> cases stepped <;> exact unlinked _ _
  | refuse index =>
    refine advanced (fun call moved phase stepped => ?_) accepted
    obtain ⟨_, _, same⟩ := except_map_ok.mp stepped
    rw [← (Prod.mk.inj same).1]
  | interrupt index =>
    refine advanced (fun call moved phase stepped => ?_) accepted
    cases stepped
    rfl
  | sweep tenantId storageObjectId =>
    simp only [UploadState.event, bind_ok, orRaise_ok, raiseIf_ok, exists_unit, pure_ok] at accepted
    obtain ⟨_, _, _, rfl⟩ := accepted
    rfl
  | sweepDelete position succeeds =>
    simp only [UploadState.event, bind_ok, orRaise_ok, pure_ok] at accepted
    obtain ⟨storageKey, _, rfl⟩ := accepted
    exact congrArg StagingStore.stagedObjects (unlinked storageKey succeeds)
  | foreignWrite storageKey content =>
    simp only [UploadState.event, bind_ok, orRaise_ok, raiseIf_ok, exists_unit, pure_ok] at accepted
    obtain ⟨_, _, _, rfl⟩ := accepted
    rfl
  | foreignDelete storageKey =>
    simp only [UploadState.event, bind_ok, raiseIf_ok, exists_unit, pure_ok] at accepted
    obtain ⟨_, rfl⟩ := accepted
    rfl
  | alone write =>
    obtain ⟨store, written, rfl⟩ := except_map_ok.mp accepted
    exact (writeAlone_kept written).1

end Events

section Runs

variable {service : DceUploadService} {state next : UploadState} {held later : Holders UploadState UploadRequest}

/-- An object stays as it was under its lock. -/
def KeptUpload (row : Uuid × Uuid) (before after : UploadState) : Prop := KeptObject row before.store after.store

theorem commit_ok {read locked : UploadState} {request : StagingRequest}
    (accepted : UploadState.commit read locked state request = .ok next) :
    ∃ store, finishStaging request read.store locked.store state.store = .ok store ∧ next = { state with store } := by
  obtain ⟨store, finished, same⟩ := except_map_ok.mp accepted
  exact ⟨store, finished, same.symm⟩

/-- What a dispatch of an upload commits. -/
theorem dispatch_ok {index : Nat} {base : StagedObjectCommand} {context : CommandContext} {read locked : UploadState}
    (accepted : finishUpload service (.dispatch index base context) read locked state = .ok next) :
    ∃ call, state.calls[index]? = some call ∧ call.storageObjectId = base.storageObjectId ∧
      ∃ command, call.phase.command service base = some command ∧ ∃ store,
        finishStaging ⟨command, context⟩ read.store locked.store state.store = .ok store ∧
        next = { state with store }.move index call (call.committed service) := by
  simp only [finishUpload, bind_ok, orRaise_ok, raiseIf_ok, exists_unit, pure_ok, not_or, not_not] at accepted
  obtain ⟨call, found, ⟨_, object⟩, command, commands, moved, committed, rfl⟩ := accepted
  obtain ⟨store, finished, rfl⟩ := commit_ok committed
  exact ⟨call, found, object, command, commands, store, finished, rfl⟩

theorem UploadSound.finish (sound : UploadSound service state) {request : UploadRequest} {read locked : UploadState}
    (kept : ∀ row ∈ request.rows, KeptUpload row locked state)
    (accepted : finishUpload service request read locked state = .ok next) : UploadSound service next := by
  cases request with
  | prepare command context =>
    obtain ⟨store, finished, rfl⟩ := commit_ok accepted
    obtain ⟨follow, documents⟩ := prepare_follows finished
    exact sound.follow follow fun document member => .inl (documents ▸ member)
  | register command context =>
    obtain ⟨store, finished, rfl⟩ := commit_ok accepted
    obtain ⟨follow, documents⟩ := register_follows (fun id listed => kept _ (List.mem_map_of_mem listed)) finished
    exact sound.follow follow documents
  | expire command context =>
    obtain ⟨store, finished, rfl⟩ := commit_ok accepted
    obtain ⟨follow, documents⟩ := expire_follows (kept _ (List.mem_singleton_self _)) finished
    exact sound.follow follow fun document member => .inl (documents ▸ member)
  | dispatch index base context =>
    obtain ⟨call, found, object, command, commands, store, finished, rfl⟩ := dispatch_ok accepted
    have lock := kept _ (List.mem_singleton_self _)
    cases standing : call.phase with
    | claiming =>
      rw [standing, UploadPhase.command, Option.some.injEq] at commands
      subst commands
      exact sound.claim found standing object lock finished
    | recordingQuarantine written mediaType =>
      rw [standing, UploadPhase.command, Option.some.injEq] at commands
      subst commands
      exact sound.quarantine found standing object lock finished
    | recordingScan written mediaType verdict =>
      rw [standing, UploadPhase.command, Option.some.injEq] at commands
      subst commands
      exact sound.scan found standing object lock finished
    | rejecting rejectionCode =>
      rw [standing, UploadPhase.command, Option.some.injEq] at commands
      subst commands
      exact sound.reject found standing object lock finished
    | _ =>
      rw [standing] at commands
      cases commands

theorem finish_outside {request : UploadRequest} {read locked : UploadState}
    (kept : ∀ row ∈ request.rows, KeptUpload row locked state)
    (accepted : finishUpload service request read locked state = .ok next) {row : Uuid × Uuid}
    (outside : row ∉ request.rows) : KeptUpload row state next := by
  cases request with
  | prepare command context =>
    obtain ⟨store, finished, rfl⟩ := commit_ok accepted
    exact (@finishStaging_commits state.store store ⟨.prepare command, context⟩ _ _ kept finished).kept outside
  | register command context =>
    obtain ⟨store, finished, rfl⟩ := commit_ok accepted
    exact (@finishStaging_commits state.store store ⟨.register command, context⟩ _ _ kept finished).kept outside
  | expire command context =>
    obtain ⟨store, finished, rfl⟩ := commit_ok accepted
    exact (@finishStaging_commits state.store store ⟨.expire command, context⟩ _ _ kept finished).kept outside
  | dispatch index base context =>
    obtain ⟨call, _, _, command, commands, store, finished, rfl⟩ := dispatch_ok accepted
    have rows : StagingRequest.rows ⟨command, context⟩ = UploadRequest.rows (.dispatch index base context) := by
      cases standing : call.phase <;> rw [standing] at commands <;> cases commands <;> rfl
    rw [← rows] at kept outside
    exact (finishStaging_commits kept finished).kept outside

theorem uploadStep_locked {input : HolderInput UploadEvent UploadRequest}
    (locked : held.Locked UploadRequest.rows KeptUpload) (accepted : uploadStep service held input = .ok later) :
    later.Locked UploadRequest.rows KeptUpload := by
  refine Holders.step_locked (fun row state => KeptObject.refl row state.store) (fun one other => KeptObject.trans one other)
    (fun state event next written row => ?_) (fun request read seen state next kept finished row outside => ?_) locked
    accepted
  · intro stagedObject found
    rw [StagingStore.stagedObject, event_objects written]
    exact found
  · exact finish_outside kept finished outside

theorem uploadStep_sound {input : HolderInput UploadEvent UploadRequest}
    (locked : held.Locked UploadRequest.rows KeptUpload) (sound : UploadSound service held.store)
    (accepted : uploadStep service held input = .ok later) : UploadSound service later.store := by
  rcases Holders.step_store locked accepted with same | ⟨event, written⟩ | ⟨request, read, seen, kept, finished⟩
  · rw [same]
    exact sound
  · exact sound.event written
  · exact sound.finish kept finished

theorem empty_sound (service : DceUploadService) : UploadSound service .empty where
  keys _ member := absurd member Table.not_mem_empty
  calls _ member := absurd member List.not_mem_nil
  apart _ _ _ _ first := by cases first
  admitted _ member := absurd member Table.not_mem_empty
  deletions _ member := absurd member List.not_mem_nil
  documents _ member := absurd member Table.not_mem_empty

/-- The locks of the open transactions, and what holds of the uploads. -/
def UploadHeld (service : DceUploadService) (held : Holders UploadState UploadRequest) : Prop :=
  held.Locked UploadRequest.rows KeptUpload ∧ UploadSound service held.store

theorem uploadStep_held {input : HolderInput UploadEvent UploadRequest} (invariant : UploadHeld service held)
    (accepted : uploadStep service held input = .ok later) : UploadHeld service later :=
  ⟨uploadStep_locked invariant.1 accepted, uploadStep_sound invariant.1 invariant.2 accepted⟩

theorem uploadRun_sound (service : DceUploadService) (inputs : List (HolderInput UploadEvent UploadRequest)) :
    UploadSound service (uploadRun service inputs) := by
  have held : UploadHeld service (run (uploadStep service) ⟨.empty, []⟩ inputs) :=
    run_invariant_always (fun _ _ _ invariant accepted => uploadStep_held invariant accepted) inputs
      ⟨Holders.locked_empty _, empty_sound service⟩
  exact held.2

/-- In every interleaving, the bytes under the key of an admitted document have its size, its hash and its type, and
    the scanner has called them clean. -/
theorem documents_intact (service : DceUploadService) (inputs : List (HolderInput UploadEvent UploadRequest)) :
    ∀ document ∈ (uploadRun service inputs).store.documents, ∃ content,
      (uploadRun service inputs).files.read document.storageKey = some content ∧
      Admits service content document.byteSize document.sha256 document.mediaType := by
  intro document member
  have sound := uploadRun_sound service inputs
  obtain ⟨row, stored, consumed, key, size, hash, type⟩ := sound.documents document member
  obtain ⟨content, byteSize, sha256, mediaType, present, recorded, digest, media, admits⟩ :=
    sound.admitted row stored (.inr consumed)
  rw [size, Option.some.injEq] at recorded
  rw [hash, Option.some.injEq] at digest
  rw [type, Option.some.injEq] at media
  rw [key] at present
  rw [← recorded, ← digest, ← media] at admits
  exact ⟨content, present, admits⟩

def pdfContent : List UInt8 := [37, 80, 68, 70]

def pdfService : DceUploadService where
  allowedMediaTypes := ["application/pdf"]
  maxBytes := 1000
  detectMediaType content := if content.take 4 = pdfContent then some "application/pdf" else none
  scan _ _ := .clean

def stagingContext : CommandContext := ⟨1, 2, .system, 1000000, none, none⟩

/-- A transaction nothing comes between. -/
def committed (request : UploadRequest) : List (HolderInput UploadEvent UploadRequest) :=
  [.start request, .lock 0, .finish 0]

/-- One file is staged, uploaded, scanned and admitted. -/
def admittedUpload : List (HolderInput UploadEvent UploadRequest) :=
  [.alone (.alone (.consultations (.singleton ⟨7, 1, 0⟩)))] ++
    committed (.prepare ⟨⟨51, 52, none⟩, 41, 7, 0, 4, 5000000⟩ stagingContext) ++
    [.alone (.start 1 41 (some 4))] ++ committed (.dispatch 0 ⟨⟨53, 54, none⟩, 41⟩ stagingContext) ++
    [.alone (.write 0 pdfContent .completed), .alone (.detect 0 true)] ++
    committed (.dispatch 0 ⟨⟨55, 56, none⟩, 41⟩ stagingContext) ++ [.alone (.scan 0 0 true)] ++
    committed (.dispatch 0 ⟨⟨57, 58, none⟩, 41⟩ stagingContext) ++
    committed (.register ⟨⟨59, 60, none⟩, 61, 7, 0, corpusHash [hexdigestBytes pdfContent], "MANUAL_UPLOAD", none,
      [⟨62, 41⟩]⟩ stagingContext)

theorem admitted_upload_intact :
    ∃ document ∈ (uploadRun pdfService admittedUpload).store.documents, ∃ content,
      (uploadRun pdfService admittedUpload).files.read document.storageKey = some content ∧
      Admits pdfService content document.byteSize document.sha256 document.mediaType := by
  have admitted : (uploadRun pdfService admittedUpload).store.documents.rows ≠ [] := by decide +kernel
  obtain ⟨document, member⟩ := List.exists_mem_of_ne_nil _ admitted
  exact ⟨document, member, documents_intact pdfService admittedUpload document member⟩

end Runs

end SmartAo.Dce
