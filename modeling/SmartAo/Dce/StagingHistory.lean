import SmartAo.Dce.Staging
import SmartAo.Foundation.RowSets

namespace SmartAo.Dce

open SmartAo.Foundation SmartAo.Platform

/-- What other handlers write to consultations and versions. -/
inductive StagingWrite where
  | consultations (table : Table ConsultationRecord)
  | version (versionId : Uuid) (write : VersionWrite)

def StagingStore.writeAlone (store : StagingStore) : StagingWrite → Transaction StagingStore
  | .consultations table => return { store with consultations := table }
  | .version versionId write => return { store with
      versions := (store.versions.update (fun row => row.id = versionId) write.apply write.apply_columns) }

def finishStaging (request : StagingRequest) (read locked store : StagingStore) : Transaction StagingStore :=
  (request.execute ⟨read, locked, store⟩).map Prod.fst

/-- The staging commands interleaved: each reads, locks the objects it names, and commits. -/
def stagingStep (state : Holders StagingStore StagingRequest) (input : HolderInput StagingWrite StagingRequest) :
    Transaction (Holders StagingStore StagingRequest) :=
  state.step StagingRequest.rows (.failed "LOCK_WAIT") StagingStore.writeAlone finishStaging input

/-- A staged object found under its key stays as it was. -/
def KeptObject (row : Uuid × Uuid) (before after : StagingStore) : Prop :=
  ∀ stagedObject, before.stagedObject row.1 row.2 = some stagedObject → after.stagedObject row.1 row.2 = some stagedObject

/-- What the scan of an object of the claimed size left. -/
structure DceStagedObjectRecord.Scanned (row : DceStagedObjectRecord) : Prop where
  byteSize : row.actualByteSize = some row.expectedByteSize
  verdict : row.scanVerdict = some .clean
  sha256 : row.sha256 ≠ none
  mediaType : row.mediaType ≠ none

def stagedTransitions : List (StagedObjectState × StagedObjectState) := [
  (.awaitingUpload, .uploading), (.uploading, .quarantined), (.uploading, .rejected), (.quarantined, .clean),
  (.quarantined, .rejected), (.awaitingUpload, .expired), (.uploading, .expired), (.quarantined, .expired),
  (.clean, .expired), (.rejected, .expired), (.clean, .consumed)]

/-- What a command does to an object it writes. -/
structure DceStagedObjectRecord.Advances (old new : DceStagedObjectRecord) : Prop where
  id : new.id = old.id
  tenantId : new.tenantId = old.tenantId
  consultationId : new.consultationId = old.consultationId
  storageKey : new.storageKey = old.storageKey
  transition : (old.state, new.state) ∈ stagedTransitions
  quarantined : new.state = .quarantined → new.sha256 ≠ none ∧ new.mediaType ≠ none
  clean : new.state = .clean → new.Scanned
  consumed : new.state = .consumed → old.Scanned → new.Scanned
  consumer : new.state ≠ .consumed → new.consumedByDceVersionId = old.consumedByDceVersionId

section Handlers

variable {view : StagingView} {next : StagingStore} {context : CommandContext} {outcome : HandlerOutcome}
  {tenantId storageObjectId : Uuid} {stagedObject : DceStagedObjectRecord}

theorem stagedObject_found {store : StagingStore}
    (found : store.stagedObject tenantId storageObjectId = some stagedObject) :
    stagedObject ∈ store.stagedObjects ∧ stagedObject.tenantId = tenantId ∧ stagedObject.id = storageObjectId := by
  have query := Table.find?_query found
  rw [decide_eq_true_eq] at query
  exact ⟨Table.find?_mem found, query⟩

/-- The write of a command on one object it locked. -/
structure WritesObject (view : StagingView) (next : StagingStore) (tenantId storageObjectId : Uuid)
    (write : DceStagedObjectRecord → StagedObjectWrite) (stagedObject : DceStagedObjectRecord) : Prop where
  found : view.locked.stagedObject tenantId storageObjectId = some stagedObject
  next : next = view.store.write storageObjectId (write stagedObject)

theorem claim_ok {command : StagedObjectCommand}
    (accepted : claimDceStagedObjectUpload view command context = .ok (next, outcome)) :
    ∃ stagedObject, WritesObject view next context.tenantId command.storageObjectId
        (fun row => { StagedObjectWrite.of row with state := .uploading }) stagedObject ∧
      stagedObject.state = .awaitingUpload ∧ context.receivedAt < stagedObject.expiresAt := by
  simp only [claimDceStagedObjectUpload, bind_ok, orRaise_ok, raiseIf_ok, exists_unit, pure_ok, Prod.mk.injEq,
    not_not, not_le] at accepted
  obtain ⟨stagedObject, found, state, expiry, rfl, _⟩ := accepted
  refine ⟨stagedObject, ⟨found, ?_⟩, state, expiry⟩
  rw [(stagedObject_found found).2.2]

theorem quarantine_ok {command : RecordDceStagedObjectQuarantineCommand}
    (accepted : recordDceStagedObjectQuarantine view command context = .ok (next, outcome)) :
    ∃ stagedObject, WritesObject view next context.tenantId command.storageObjectId command.write stagedObject ∧
      stagedObject.state = .uploading := by
  simp only [recordDceStagedObjectQuarantine, bind_ok, orRaise_ok, raiseIf_ok, exists_unit, pure_ok, Prod.mk.injEq,
    not_not] at accepted
  obtain ⟨_, stagedObject, found, state, rfl, _⟩ := accepted
  refine ⟨stagedObject, ⟨found, ?_⟩, state⟩
  rw [(stagedObject_found found).2.2]

theorem reject_ok {command : RejectDceStagedObjectUploadCommand}
    (accepted : rejectDceStagedObjectUpload view command context = .ok (next, outcome)) :
    ∃ stagedObject, WritesObject view next context.tenantId command.storageObjectId (fun row =>
        { StagedObjectWrite.of row with state := .rejected, rejectionCode := some command.rejectionCode.value })
          stagedObject ∧
      stagedObject.state = .uploading := by
  simp only [rejectDceStagedObjectUpload, bind_ok, orRaise_ok, raiseIf_ok, exists_unit, pure_ok, Prod.mk.injEq,
    not_not] at accepted
  obtain ⟨_, stagedObject, found, state, rfl, _⟩ := accepted
  refine ⟨stagedObject, ⟨found, ?_⟩, state⟩
  rw [(stagedObject_found found).2.2]

theorem expire_ok {command : StagedObjectCommand}
    (accepted : expireDceStagedObject view command context = .ok (next, outcome)) :
    ∃ stagedObject, WritesObject view next context.tenantId command.storageObjectId
        (fun row => { StagedObjectWrite.of row with state := .expired }) stagedObject ∧
      stagedObject.state ≠ .consumed ∧ stagedObject.state ≠ .expired := by
  simp only [expireDceStagedObject, bind_ok, orRaise_ok, raiseIf_ok, exists_unit, pure_ok, Prod.mk.injEq,
    not_or] at accepted
  obtain ⟨_, stagedObject, found, state, _, rfl, _⟩ := accepted
  refine ⟨stagedObject, ⟨found, ?_⟩, state⟩
  rw [(stagedObject_found found).2.2]

theorem scan_ok {command : RecordDceStagedObjectScanCommand}
    (accepted : recordDceStagedObjectScan view command context = .ok (next, outcome)) :
    ∃ stagedObject, WritesObject view next context.tenantId command.storageObjectId command.write stagedObject ∧
      stagedObject.state = .quarantined := by
  simp only [recordDceStagedObjectScan, bind_ok, orRaise_ok, raiseIf_ok, exists_unit, pure_ok, Prod.mk.injEq,
    not_not] at accepted
  obtain ⟨_, stagedObject, found, state, rfl, _⟩ := accepted
  refine ⟨stagedObject, ⟨found, ?_⟩, state⟩
  rw [(stagedObject_found found).2.2]

theorem StagedObjectWrite.advances {write : StagedObjectWrite}
    (transition : (stagedObject.state, write.state) ∈ stagedTransitions) (unconsumed : write.state ≠ .consumed)
    (quarantined : write.state = .quarantined → write.sha256 ≠ none ∧ write.mediaType ≠ none)
    (clean : write.state = .clean → (write.apply stagedObject).Scanned) :
    stagedObject.Advances (write.apply stagedObject) where
  id := rfl
  tenantId := rfl
  consultationId := rfl
  storageKey := rfl
  transition := transition
  quarantined := quarantined
  clean := clean
  consumed is := absurd is unconsumed
  consumer _ := rfl

/-- A write to one of the two final states of an object that is not admitted. -/
theorem StagedObjectWrite.closes {write : StagedObjectWrite}
    (transition : (stagedObject.state, write.state) ∈ stagedTransitions)
    (closed : write.state = .rejected ∨ write.state = .expired) : stagedObject.Advances (write.apply stagedObject) := by
  refine write.advances transition (fun is => ?_) (fun is => ?_) fun is => ?_
  all_goals
    rw [is] at closed
    rcases closed with never | never <;> cases never

theorem claim_advances (awaiting : stagedObject.state = .awaitingUpload) : stagedObject.Advances
    (StagedObjectWrite.apply { StagedObjectWrite.of stagedObject with state := .uploading } stagedObject) := by
  have transition : (stagedObject.state, StagedObjectState.uploading) ∈ stagedTransitions := by
    rw [awaiting]
    decide
  exact StagedObjectWrite.advances transition (fun is => by cases is) (fun is => by cases is) fun is => by cases is

theorem expire_advances (unconsumed : stagedObject.state ≠ .consumed) (unexpired : stagedObject.state ≠ .expired) :
    stagedObject.Advances
      (StagedObjectWrite.apply { StagedObjectWrite.of stagedObject with state := .expired } stagedObject) := by
  have transitions : ∀ state : StagedObjectState, state ≠ .consumed → state ≠ .expired →
      (state, StagedObjectState.expired) ∈ stagedTransitions := by
    intro state
    cases state <;> decide
  exact StagedObjectWrite.closes (transitions _ unconsumed unexpired) (.inr rfl)

theorem reject_advances {write : StagedObjectWrite}
    (pending : stagedObject.state = .uploading ∨ stagedObject.state = .quarantined)
    (rejected : write.state = .rejected) : stagedObject.Advances (write.apply stagedObject) := by
  have transition : (stagedObject.state, write.state) ∈ stagedTransitions := by
    rw [rejected]
    rcases pending with uploading | quarantined
    · rw [uploading]
      decide
    · rw [quarantined]
      decide
  exact StagedObjectWrite.closes transition (.inl rejected)

theorem quarantine_advances (command : RecordDceStagedObjectQuarantineCommand)
    (uploading : stagedObject.state = .uploading) :
    stagedObject.Advances ((command.write stagedObject).apply stagedObject) := by
  unfold RecordDceStagedObjectQuarantineCommand.write
  dsimp only
  split
  · exact reject_advances (.inl uploading) rfl
  · split
    · exact reject_advances (.inl uploading) rfl
    · have transition : (stagedObject.state, StagedObjectState.quarantined) ∈ stagedTransitions := by
        rw [uploading]
        decide
      exact StagedObjectWrite.advances transition (fun is => by cases is)
        (fun _ => ⟨Option.some_ne_none _, Option.some_ne_none _⟩) fun is => by cases is

theorem scan_advances (command : RecordDceStagedObjectScanCommand) (quarantined : stagedObject.state = .quarantined) :
    stagedObject.Advances ((command.write stagedObject).apply stagedObject) := by
  unfold RecordDceStagedObjectScanCommand.write
  dsimp only
  split
  · exact reject_advances (.inr quarantined) rfl
  · rename_i size
    split
    · rename_i clean
      have transition : (stagedObject.state, StagedObjectState.clean) ∈ stagedTransitions := by
        rw [quarantined]
        decide
      refine StagedObjectWrite.advances transition (fun is => by cases is) (fun is => by cases is) fun _ => ?_
      exact ⟨congrArg some (not_not.mp size), congrArg some clean, Option.some_ne_none _, Option.some_ne_none _⟩
    · exact reject_advances (.inr quarantined) rfl
    · exact reject_advances (.inr quarantined) rfl

theorem consumed_advances {dceVersionId : Uuid} (clean : stagedObject.state = .clean) :
    stagedObject.Advances (consumed dceVersionId stagedObject) where
  id := rfl
  tenantId := rfl
  consultationId := rfl
  storageKey := rfl
  transition := by
    rw [clean]
    exact List.mem_of_elem_eq_true rfl
  quarantined is := by cases is
  clean is := by cases is
  consumed _ scanned := ⟨scanned.byteSize, scanned.verdict, scanned.sha256, scanned.mediaType⟩
  consumer other := absurd rfl other

/-- What a registration writes. -/
structure RegistersVersion (view : StagingView) (next : StagingStore) (command : RegisterDceVersionCommand)
    (tenantId : Uuid) : Prop where
  found : ∀ id ∈ command.storageObjectIds, ∃ stagedObject, view.locked.stagedObject tenantId id = some stagedObject ∧
    stagedObject.state = .clean ∧ stagedObject.consultationId = command.consultationId
  distinct : command.storageObjectIds.Nodup
  version : ∃ version, version.id = command.dceVersionId ∧ version.tenantId = tenantId ∧
    version.consultationId = command.consultationId ∧ view.store.versions.insert? version = some next.versions
  documents : ∃ documents, view.store.documents.insertAll? documents = some next.documents ∧
    documents.map (·.storageObjectId) = command.storageObjectIds ∧
      ∀ document ∈ documents, document.tenantId = tenantId ∧ document.dceVersionId = command.dceVersionId
  objects : next.stagedObjects = view.store.stagedObjects.update (fun row => row.id ∈ command.storageObjectIds)
    (consumed command.dceVersionId) (consumed_columns _)

theorem admitStagedObject_ok {command : RegisterDceVersionCommand} {receivedAt : Timestamp}
    {admitted : AdmittedObject} (accepted : admitStagedObject command receivedAt stagedObject = .ok admitted) :
    admitted.stagedObject = stagedObject ∧ stagedObject.state = .clean ∧
      stagedObject.consultationId = command.consultationId := by
  simp only [admitStagedObject, bind_ok, orRaise_ok, raiseIf_ok, exists_unit, pure_ok, not_not] at accepted
  obtain ⟨consultation, state, _, _, _, _, _, _, _, rfl⟩ := accepted
  exact ⟨rfl, state, consultation⟩

theorem admitDocument_ok {dceVersionId documentId : Uuid} {admitted : AdmittedObject} {document : DceDocumentRecord}
    (accepted : admitDocument tenantId dceVersionId documentId admitted = .ok document) :
    document.storageObjectId = admitted.stagedObject.id ∧ document.tenantId = tenantId ∧
      document.dceVersionId = dceVersionId := by
  unfold admitDocument at accepted
  split at accepted
  · cases accepted
  · split at accepted
    · cases accepted
      exact ⟨rfl, rfl, rfl⟩
    · cases accepted

theorem registerDceVersion_ok {command : RegisterDceVersionCommand}
    (accepted : registerDceVersion view command context = .ok (next, outcome)) :
    RegistersVersion view next command context.tenantId := by
  simp only [registerDceVersion, RegisterDceVersionCommand.version, bind_ok, orRaise_ok, raiseIf_ok, exists_unit,
    pure_ok, flush, Prod.mk.injEq, not_not] at accepted
  obtain ⟨_, _, _, _, distinct, stagedObjects, found, admitted, admits, _, documents, admission, version,
    ⟨_, _, _, _, created⟩, versions, inserted, table, added, rfl, _⟩ := accepted
  have ids : stagedObjects.map (·.id) = command.storageObjectIds.map id :=
    collect_map (fun _ _ present => (stagedObject_found (orRaise_ok.mp present)).2.2) found
  have objects : admitted.map (·.stagedObject) = stagedObjects.map id :=
    collect_map (fun _ _ admits => (admitStagedObject_ok admits).1) admits
  rw [List.map_id] at ids objects
  have length : admitted.length = command.documents.length := by
    rw [← List.length_map (f := fun admitted : AdmittedObject => admitted.stagedObject), objects,
      ← List.length_map (f := fun row : DceStagedObjectRecord => row.id), ids, RegisterDceVersionCommand.storageObjectIds,
      List.length_map]
  refine ⟨fun id listed => ?_, distinct, ⟨version, ?_⟩, ⟨documents, added, ?_, fun document member => ?_⟩, rfl⟩
  · obtain ⟨stagedObject, member, present⟩ := (collect_mem found).1 id listed
    obtain ⟨_, _, admissible⟩ := (collect_mem admits).1 stagedObject member
    exact ⟨stagedObject, orRaise_ok.mp present, (admitStagedObject_ok admissible).2⟩
  · rw [← created] at inserted ⊢
    exact ⟨rfl, rfl, rfl, inserted⟩
  · have each : documents.map (·.storageObjectId) = ((command.documents.map (·.documentId)).zip admitted).map
        fun pair => pair.2.stagedObject.id :=
      collect_map (fun _ _ admission => (admitDocument_ok admission).1) admission
    have second : ((command.documents.map (·.documentId)).zip admitted).map Prod.snd = admitted :=
      List.map_snd_zip (by rw [List.length_map, length])
    calc documents.map (·.storageObjectId)
        = (((command.documents.map (·.documentId)).zip admitted).map Prod.snd).map (·.stagedObject.id) := by
          rw [each, List.map_map]
          rfl
      _ = (admitted.map (·.stagedObject)).map (·.id) := by
          rw [second, List.map_map]
          rfl
      _ = command.storageObjectIds := by rw [objects, ids]
  · obtain ⟨pair, _, admission⟩ := (collect_mem admission).2 document member
    exact (admitDocument_ok admission).2

theorem quarantine_built {command built : RecordDceStagedObjectQuarantineCommand}
    (valid : command.build.toOption = some built) : command = built := by
  simp only [toOption_ok, RecordDceStagedObjectQuarantineCommand.build, bind_ok, exists_unit, pure_ok] at valid
  exact valid.2

theorem scan_built {command built : RecordDceStagedObjectScanCommand}
    (valid : command.build.toOption = some built) : command = built := by
  simp only [toOption_ok, RecordDceStagedObjectScanCommand.build, bind_ok, exists_unit, pure_ok] at valid
  exact valid.2

theorem register_built {command built : RegisterDceVersionCommand} (valid : command.build.toOption = some built) :
    command = built := by
  simp only [toOption_ok, RegisterDceVersionCommand.build, bind_ok, exists_unit, pure_ok] at valid
  exact valid.2.2.2.2

/-- What a command does: it prepares an object, writes one it locked, or registers a version. -/
theorem execute_cases {request : StagingRequest} (accepted : request.execute view = .ok (next, outcome)) :
    (∃ row, row.state = .awaitingUpload ∧ view.store.stagedObjects.insert? row = some next.stagedObjects ∧
      next.versions = view.store.versions ∧ next.documents = view.store.documents) ∨
    (∃ id write stagedObject, (request.context.tenantId, id) ∈ request.rows ∧
      WritesObject view next request.context.tenantId id write stagedObject ∧
      stagedObject.Advances ((write stagedObject).apply stagedObject) ∧ (write stagedObject).state ≠ .consumed) ∨
    ∃ command, request.rows = command.storageObjectIds.map (fun id => (request.context.tenantId, id)) ∧
      RegistersVersion view next command request.context.tenantId := by
  obtain ⟨command, context⟩ := request
  have one {id : Uuid} {write : DceStagedObjectRecord → StagedObjectWrite} {stagedObject : DceStagedObjectRecord}
      (writes : WritesObject view next context.tenantId id write stagedObject)
      (advances : stagedObject.Advances ((write stagedObject).apply stagedObject))
      (unadmitted : stagedObject.state ≠ .clean) : (context.tenantId, id) ∈ [(context.tenantId, id)] ∧
        WritesObject view next context.tenantId id write stagedObject ∧
        stagedObject.Advances ((write stagedObject).apply stagedObject) ∧ (write stagedObject).state ≠ .consumed := by
    refine ⟨List.mem_singleton_self _, writes, advances, fun consumed => unadmitted ?_⟩
    have transition := advances.transition
    have only : ∀ state : StagedObjectState, (state, StagedObjectState.consumed) ∈ stagedTransitions →
        state = .clean := by
      intro state
      cases state <;> decide
    rw [show ((write stagedObject).apply stagedObject).state = .consumed from consumed] at transition
    exact only _ transition
  cases command with
  | prepare command =>
    simp only [StagingRequest.execute, prepareDceStaging, bind_ok, orRaise_ok, raiseIf_ok, exists_unit, flush,
      pure_ok, Prod.mk.injEq] at accepted
    obtain ⟨_, _, _, _, _, _, _, inserted, rfl, _⟩ := accepted
    exact .inl ⟨_, rfl, inserted, rfl, rfl⟩
  | claim command =>
    obtain ⟨stagedObject, writes, awaiting, _⟩ := claim_ok accepted
    exact .inr (.inl ⟨_, _, stagedObject, one writes (claim_advances awaiting) (by rw [awaiting]; decide)⟩)
  | quarantine command =>
    simp only [StagingRequest.execute, bind_ok, orRaise_ok] at accepted
    obtain ⟨_, valid, accepted⟩ := accepted
    obtain rfl := quarantine_built valid
    obtain ⟨stagedObject, writes, uploading⟩ := quarantine_ok accepted
    exact .inr (.inl ⟨_, _, stagedObject, one writes (quarantine_advances command uploading) (by rw [uploading]; decide)⟩)
  | reject command =>
    obtain ⟨stagedObject, writes, uploading⟩ := reject_ok accepted
    exact .inr (.inl ⟨_, _, stagedObject, one writes (reject_advances (.inl uploading) rfl) (by rw [uploading]; decide)⟩)
  | expire command =>
    obtain ⟨stagedObject, writes, unconsumed, unexpired⟩ := expire_ok accepted
    exact .inr (.inl ⟨_, _, stagedObject, List.mem_singleton_self _, writes, expire_advances unconsumed unexpired,
      fun is => by cases is⟩)
  | scan command =>
    simp only [StagingRequest.execute, bind_ok, orRaise_ok] at accepted
    obtain ⟨_, valid, accepted⟩ := accepted
    obtain rfl := scan_built valid
    obtain ⟨stagedObject, writes, quarantined⟩ := scan_ok accepted
    exact .inr (.inl ⟨_, _, stagedObject, one writes (scan_advances command quarantined) (by rw [quarantined]; decide)⟩)
  | register command =>
    simp only [StagingRequest.execute, bind_ok, orRaise_ok] at accepted
    obtain ⟨_, valid, accepted⟩ := accepted
    obtain rfl := register_built valid
    exact .inr (.inr ⟨command, rfl, registerDceVersion_ok accepted⟩)

end Handlers

section Objects

variable {store next : StagingStore} {request : StagingRequest} {tenantId storageObjectId : Uuid}
  {stagedObject : DceStagedObjectRecord}

theorem stagedObject_eq_some : store.stagedObject tenantId storageObjectId = some stagedObject ↔
    stagedObject ∈ store.stagedObjects ∧ stagedObject.tenantId = tenantId ∧ stagedObject.id = storageObjectId := by
  have key {first second : DceStagedObjectRecord}
      (one : decide (first.tenantId = tenantId ∧ first.id = storageObjectId) = true)
      (other : decide (second.tenantId = tenantId ∧ second.id = storageObjectId) = true) :
      Schema.Conflict first second :=
    .inl ((of_decide_eq_true one).2.trans (of_decide_eq_true other).2.symm)
  rw [StagingStore.stagedObject, Table.find?_eq_some key, decide_eq_true_eq]

theorem eq_of_id {first second : DceStagedObjectRecord} (one : first ∈ store.stagedObjects)
    (other : second ∈ store.stagedObjects) (same : first.id = second.id) : first = second :=
  Table.eq_of_conflict one other (.inl same)

theorem KeptObject.refl (row : Uuid × Uuid) (store : StagingStore) : KeptObject row store store :=
  fun _ found => found

theorem KeptObject.trans {row : Uuid × Uuid} {first second third : StagingStore}
    (one : KeptObject row first second) (other : KeptObject row second third) : KeptObject row first third :=
  fun stagedObject found => other stagedObject (one stagedObject found)

/-- How the staged objects of a store become those of the next. -/
structure ObjectsMove (store next : StagingStore) : Prop where
  forward : ∀ old ∈ store.stagedObjects, ∃ new ∈ next.stagedObjects, new = old ∨ old.Advances new
  backward : ∀ new ∈ next.stagedObjects, (∃ old ∈ store.stagedObjects, new = old ∨ old.Advances new) ∨
    new.state = .awaitingUpload

theorem ObjectsMove.of_eq (same : next.stagedObjects = store.stagedObjects) : ObjectsMove store next := by
  refine ⟨fun old member => ⟨old, same ▸ member, .inl rfl⟩, fun new member => .inl ⟨new, same ▸ member, .inl rfl⟩⟩

theorem mem_write {id : Uuid} {write : StagedObjectWrite} {row : DceStagedObjectRecord}
    (stored : stagedObject ∈ store.stagedObjects) (named : stagedObject.id = id) :
    row ∈ (store.write id write).stagedObjects ↔ row = write.apply stagedObject ∨
      (row ∈ store.stagedObjects ∧ row.id ≠ id) := by
  have key {first second : DceStagedObjectRecord} (one : decide (first.id = id) = true)
      (other : decide (second.id = id) = true) : Schema.Conflict first second :=
    .inl ((of_decide_eq_true one).trans (of_decide_eq_true other).symm)
  rw [StagingStore.write, Table.mem_update_key key stored (decide_eq_true named), decide_eq_false_iff_not]

theorem ObjectsMove.write {id : Uuid} {write : StagedObjectWrite} (stored : stagedObject ∈ store.stagedObjects)
    (named : stagedObject.id = id) (advances : stagedObject.Advances (write.apply stagedObject)) :
    ObjectsMove store (store.write id write) where
  forward old member := by
    by_cases same : old.id = id
    · obtain rfl := eq_of_id member stored (same.trans named.symm)
      exact ⟨_, (mem_write stored named).mpr (.inl rfl), .inr advances⟩
    · exact ⟨old, (mem_write stored named).mpr (.inr ⟨member, same⟩), .inl rfl⟩
  backward new member := by
    rcases (mem_write stored named).mp member with rfl | ⟨old, _⟩
    · exact .inl ⟨stagedObject, stored, .inr advances⟩
    · exact .inl ⟨new, old, .inl rfl⟩

theorem ObjectsMove.insert {row : DceStagedObjectRecord} (awaiting : row.state = .awaitingUpload)
    (inserted : store.stagedObjects.insert? row = some next.stagedObjects) : ObjectsMove store next where
  forward old member := ⟨old, (Table.mem_insert? inserted).mpr (.inl member), .inl rfl⟩
  backward new member := by
    rcases (Table.mem_insert? inserted).mp member with old | rfl
    · exact .inl ⟨new, old, .inl rfl⟩
    · exact .inr awaiting

/-- A registration whose objects are still as it locked them. -/
structure Consumes (store next : StagingStore) (command : RegisterDceVersionCommand) (tenantId : Uuid) : Prop where
  registers : ∃ view : StagingView, view.store = store ∧ RegistersVersion view next command tenantId
  clean : ∀ row ∈ store.stagedObjects, row.id ∈ command.storageObjectIds →
    row.state = .clean ∧ row.tenantId = tenantId ∧ row.consultationId = command.consultationId
  stored : ∀ id ∈ command.storageObjectIds, ∃ row ∈ store.stagedObjects, row.id = id

theorem RegistersVersion.consumes {view : StagingView} {command : RegisterDceVersionCommand}
    (registers : RegistersVersion view next command tenantId)
    (kept : ∀ id ∈ command.storageObjectIds, KeptObject (tenantId, id) view.locked view.store) :
    Consumes view.store next command tenantId where
  registers := ⟨view, rfl, registers⟩
  clean row member listed := by
    obtain ⟨stagedObject, found, state, consultation⟩ := registers.found row.id listed
    obtain ⟨stored, tenant, named⟩ := stagedObject_eq_some.mp (kept row.id listed stagedObject found)
    obtain rfl := eq_of_id stored member named
    exact ⟨state, tenant, consultation⟩
  stored id listed := by
    obtain ⟨stagedObject, found, _⟩ := registers.found id listed
    obtain ⟨stored, _, named⟩ := stagedObject_eq_some.mp (kept id listed stagedObject found)
    exact ⟨stagedObject, stored, named⟩

theorem Consumes.mem_objects {command : RegisterDceVersionCommand} (consumes : Consumes store next command tenantId)
    {row : DceStagedObjectRecord} : row ∈ next.stagedObjects ↔ ∃ old ∈ store.stagedObjects,
      (if old.id ∈ command.storageObjectIds then consumed command.dceVersionId old else old) = row := by
  obtain ⟨view, rfl, registers⟩ := consumes.registers
  rw [registers.objects, Table.mem_update]
  simp only [decide_eq_true_eq]

theorem Consumes.moves {command : RegisterDceVersionCommand} (consumes : Consumes store next command tenantId) :
    ObjectsMove store next where
  forward old member := by
    refine ⟨_, consumes.mem_objects.mpr ⟨old, member, rfl⟩, ?_⟩
    split
    · rename_i listed
      exact .inr (consumed_advances (consumes.clean old member listed).1)
    · exact .inl rfl
  backward new member := by
    obtain ⟨old, stored, rfl⟩ := consumes.mem_objects.mp member
    refine .inl ⟨old, stored, ?_⟩
    split
    · rename_i listed
      exact .inr (consumed_advances (consumes.clean old stored listed).1)
    · exact .inl rfl

/-- What a request whose objects are still as it locked them does to the store. -/
inductive Commits (store next : StagingStore) (request : StagingRequest) : Prop where
  | prepares (row : DceStagedObjectRecord) (awaiting : row.state = .awaitingUpload)
      (inserted : store.stagedObjects.insert? row = some next.stagedObjects) (versions : next.versions = store.versions)
      (documents : next.documents = store.documents)
  | writes (id : Uuid) (write : StagedObjectWrite) (stagedObject : DceStagedObjectRecord)
      (listed : (request.context.tenantId, id) ∈ request.rows)
      (found : store.stagedObject request.context.tenantId id = some stagedObject)
      (advances : stagedObject.Advances (write.apply stagedObject)) (unconsumed : write.state ≠ .consumed)
      (next : next = store.write id write)
  | registers (command : RegisterDceVersionCommand)
      (listed : request.rows = command.storageObjectIds.map fun id => (request.context.tenantId, id))
      (consumes : Consumes store next command request.context.tenantId)

theorem finishStaging_commits {read locked : StagingStore}
    (kept : ∀ row ∈ request.rows, KeptObject row locked store)
    (finished : finishStaging request read locked store = .ok next) : Commits store next request := by
  obtain ⟨outcome, accepted⟩ := map_fst_ok.mp finished
  rcases execute_cases accepted with ⟨row, awaiting, inserted, versions, documents⟩ |
    ⟨id, write, stagedObject, listed, writes, advances, unconsumed⟩ | ⟨command, listed, registers⟩
  · exact .prepares row awaiting inserted versions documents
  · exact .writes id _ stagedObject listed (kept _ listed _ writes.found) advances unconsumed writes.next
  · refine .registers command listed (registers.consumes fun id member => kept _ ?_)
    rw [listed]
    exact List.mem_map_of_mem member

theorem Commits.moves (commits : Commits store next request) : ObjectsMove store next := by
  cases commits with
  | prepares row awaiting inserted => exact .insert awaiting inserted
  | writes id write stagedObject _ found advances _ next =>
    obtain ⟨stored, _, named⟩ := stagedObject_eq_some.mp found
    rw [next]
    exact .write stored named advances
  | registers command _ consumes => exact consumes.moves

/-- A request leaves the objects it does not name. -/
theorem Commits.kept (commits : Commits store next request) {row : Uuid × Uuid} (outside : row ∉ request.rows) :
    KeptObject row store next := by
  intro other present
  obtain ⟨member, tenant, id⟩ := stagedObject_eq_some.mp present
  refine stagedObject_eq_some.mpr ⟨?_, tenant, id⟩
  cases commits with
  | prepares row awaiting inserted => exact (Table.mem_insert? inserted).mpr (.inl member)
  | writes named write stagedObject listed found _ _ next =>
    obtain ⟨stored, owner, same⟩ := stagedObject_eq_some.mp found
    rw [next]
    refine (mem_write stored same).mpr (.inr ⟨member, fun equal => outside ?_⟩)
    obtain rfl := eq_of_id stored member (same.trans equal.symm)
    rwa [show row = (request.context.tenantId, named) from Prod.ext (tenant.symm.trans owner) (id.symm.trans equal)]
  | registers command listed consumes =>
    refine consumes.mem_objects.mpr ⟨other, member, if_neg fun consumed => outside ?_⟩
    have owner := (consumes.clean other member consumed).2.1
    rw [listed, List.mem_map]
    exact ⟨other.id, consumed, Prod.ext (owner.symm.trans tenant) id⟩

/-- Every document has its consumed object and its version, each consumed object its one document. -/
structure Consumption (store : StagingStore) : Prop where
  documents : ∀ document ∈ store.documents, ∃ row ∈ store.stagedObjects, row.id = document.storageObjectId ∧
    row.state = .consumed ∧ row.tenantId = document.tenantId ∧
      row.consumedByDceVersionId = some document.dceVersionId ∧ ∃ version ∈ store.versions,
        version.id = document.dceVersionId ∧ version.tenantId = row.tenantId ∧
          version.consultationId = row.consultationId
  single : ∀ first ∈ store.documents, ∀ second ∈ store.documents,
    first.storageObjectId = second.storageObjectId → first = second
  objects : ∀ row ∈ store.stagedObjects, row.state = .consumed → ∃ document ∈ store.documents,
    document.storageObjectId = row.id

/-- Documents stay consumed while their objects and versions stay. -/
theorem Consumption.keep (consumption : Consumption store) (documents : next.documents = store.documents)
    (versions : ∀ version ∈ store.versions, ∃ later ∈ next.versions, later.id = version.id ∧
      later.tenantId = version.tenantId ∧ later.consultationId = version.consultationId)
    (stay : ∀ row ∈ store.stagedObjects, row.state = .consumed → row ∈ next.stagedObjects)
    (old : ∀ row ∈ next.stagedObjects, row.state = .consumed → row ∈ store.stagedObjects) : Consumption next where
  documents document member := by
    rw [documents] at member
    obtain ⟨row, stored, named, state, tenant, consumer, version, known, ofDocument, owner, consultation⟩ :=
      consumption.documents document member
    obtain ⟨later, present, sameId, sameTenant, same⟩ := versions version known
    exact ⟨row, stay row stored state, named, state, tenant, consumer, later, present, sameId.trans ofDocument,
      sameTenant.trans owner, same.trans consultation⟩
  single := by
    rw [documents]
    exact consumption.single
  objects row member state := by
    rw [documents]
    exact consumption.objects row (old row member state) state

theorem Consumes.consumption {command : RegisterDceVersionCommand} (consumes : Consumes store next command tenantId)
    (consumption : Consumption store) : Consumption next := by
  obtain ⟨view, rfl, registers⟩ := consumes.registers
  obtain ⟨version, versionId, owner, ofConsultation, inserted⟩ := registers.version
  obtain ⟨documents, added, ids, each⟩ := registers.documents
  have listed : ∀ document ∈ documents, document.storageObjectId ∈ command.storageObjectIds := by
    intro document member
    rw [← ids]
    exact List.mem_map_of_mem member
  have apart : ∀ document ∈ view.store.documents, document.storageObjectId ∉ command.storageObjectIds := by
    intro document member inside
    obtain ⟨row, stored, named, state, _⟩ := consumption.documents document member
    rw [← named] at inside
    have clean := (consumes.clean row stored inside).1
    rw [state] at clean
    cases clean
  refine ⟨fun document member => ?_, fun first one second other same => ?_, fun row member state => ?_⟩
  · rcases (Table.mem_insertAll? added).mp member with old | new
    · obtain ⟨row, stored, named, state, tenant, consumer, known, present, rest⟩ :=
        consumption.documents document old
      have outside : row.id ∉ command.storageObjectIds := by
        rw [named]
        exact apart document old
      exact ⟨row, consumes.mem_objects.mpr ⟨row, stored, if_neg outside⟩, named, state, tenant, consumer, known,
        (Table.mem_insert? inserted).mpr (.inl present), rest⟩
    · obtain ⟨row, stored, named⟩ := consumes.stored _ (listed document new)
      have inside : row.id ∈ command.storageObjectIds := by
        rw [named]
        exact listed document new
      obtain ⟨_, tenant, consultation⟩ := consumes.clean row stored inside
      obtain ⟨documentTenant, ofVersion⟩ := each document new
      refine ⟨_, consumes.mem_objects.mpr ⟨row, stored, if_pos inside⟩, named, rfl, ?_, ?_, version,
        (Table.mem_insert? inserted).mpr (.inr rfl), ?_, ?_, ?_⟩
      · exact tenant.trans documentTenant.symm
      · exact congrArg some ofVersion.symm
      · exact versionId.trans ofVersion.symm
      · exact owner.trans tenant.symm
      · exact ofConsultation.trans consultation.symm
  · rcases (Table.mem_insertAll? added).mp one with old | new <;>
      rcases (Table.mem_insertAll? added).mp other with old' | new'
    · exact consumption.single first old second old' same
    · exact absurd (same ▸ listed second new') (apart first old)
    · exact absurd (same ▸ listed first new) (apart second old')
    · have distinct := registers.distinct
      rw [← ids] at distinct
      exact List.inj_on_of_nodup_map distinct new new' same
  · obtain ⟨old, stored, rfl⟩ := consumes.mem_objects.mp member
    by_cases inside : old.id ∈ command.storageObjectIds
    · rw [if_pos inside]
      rw [← ids] at inside
      obtain ⟨document, new, same⟩ := List.mem_map.mp inside
      exact ⟨document, (Table.mem_insertAll? added).mpr (.inr new), same⟩
    · rw [if_neg inside] at state ⊢
      obtain ⟨document, known, same⟩ := consumption.objects old stored state
      exact ⟨document, (Table.mem_insertAll? added).mpr (.inl known), same⟩

theorem Commits.consumption (commits : Commits store next request) (consumption : Consumption store) :
    Consumption next := by
  have versionsStay (same : next.versions = store.versions) : ∀ version ∈ store.versions,
      ∃ later ∈ next.versions, later.id = version.id ∧ later.tenantId = version.tenantId ∧
        later.consultationId = version.consultationId :=
    fun version member => ⟨version, same ▸ member, rfl, rfl, rfl⟩
  cases commits with
  | prepares row awaiting inserted versions documents =>
    refine consumption.keep documents (versionsStay versions)
      (fun old member _ => (Table.mem_insert? inserted).mpr (.inl member)) fun old member state => ?_
    rcases (Table.mem_insert? inserted).mp member with stored | rfl
    · exact stored
    · rw [awaiting] at state
      cases state
  | writes id write stagedObject _ found advances unconsumed same =>
    obtain ⟨stored, _, named⟩ := stagedObject_eq_some.mp found
    have final : ∀ state : StagedObjectState, (StagedObjectState.consumed, state) ∉ stagedTransitions := by
      intro state
      cases state <;> decide
    subst same
    refine consumption.keep rfl (versionsStay rfl) (fun row member state => ?_) fun row member state => ?_
    · refine (mem_write stored named).mpr (.inr ⟨member, fun equal => ?_⟩)
      obtain rfl := eq_of_id stored member (named.trans equal.symm)
      have transition := advances.transition
      rw [state] at transition
      exact final _ transition
    · rcases (mem_write stored named).mp member with rfl | ⟨old, _⟩
      · exact absurd state unconsumed
      · exact old
  | registers command _ consumes => exact consumes.consumption consumption

end Objects

section Runs

variable {store next : StagingStore} {state later : Holders StagingStore StagingRequest}

theorem writeAlone_kept {write : StagingWrite} (written : store.writeAlone write = .ok next) :
    next.stagedObjects = store.stagedObjects ∧ next.documents = store.documents := by
  cases write with
  | consultations table =>
    cases written
    exact ⟨rfl, rfl⟩
  | version versionId write =>
    cases written
    exact ⟨rfl, rfl⟩

theorem writeAlone_consumption {write : StagingWrite} (written : store.writeAlone write = .ok next)
    (consumption : Consumption store) : Consumption next := by
  obtain ⟨objects, documents⟩ := writeAlone_kept written
  refine consumption.keep documents (fun version member => ?_) (fun row member _ => objects ▸ member)
    fun row member _ => objects ▸ member
  cases write with
  | consultations table =>
    cases written
    exact ⟨version, member, rfl, rfl, rfl⟩
  | version versionId write =>
    cases written
    show ∃ later ∈ store.versions.update (fun row => row.id = versionId) write.apply write.apply_columns, _
    refine ⟨_, Table.mem_update.mpr ⟨version, member, rfl⟩, ?_⟩
    split <;> exact ⟨rfl, rfl, rfl⟩

/-- What holds of the staged objects in every state of a run. -/
structure StagingSound (store : StagingStore) : Prop where
  scanned : ∀ row ∈ store.stagedObjects, row.state = .clean ∨ row.state = .consumed → row.Scanned
  quarantined : ∀ row ∈ store.stagedObjects, row.state = .quarantined → row.sha256 ≠ none ∧ row.mediaType ≠ none
  consumption : Consumption store

theorem transition_consumed : ∀ state, (state, StagedObjectState.consumed) ∈ stagedTransitions → state = .clean := by
  intro state
  cases state <;> decide

theorem ObjectsMove.sound (moves : ObjectsMove store next) (sound : StagingSound store)
    (consumption : Consumption next) : StagingSound next where
  scanned new member admitted := by
    rcases moves.backward new member with ⟨old, stored, rfl | advances⟩ | awaiting
    · exact sound.scanned new stored admitted
    · rcases admitted with clean | consumed
      · exact advances.clean clean
      · have transition := advances.transition
        rw [consumed] at transition
        exact advances.consumed consumed (sound.scanned old stored (.inl (transition_consumed _ transition)))
    · rw [awaiting] at admitted
      rcases admitted with never | never <;> cases never
  quarantined new member state := by
    rcases moves.backward new member with ⟨old, stored, rfl | advances⟩ | awaiting
    · exact sound.quarantined new stored state
    · exact advances.quarantined state
    · rw [awaiting] at state
      cases state
  consumption := consumption

theorem stagingStep_store {input : HolderInput StagingWrite StagingRequest}
    (locked : state.Locked StagingRequest.rows KeptObject) (accepted : stagingStep state input = .ok later) :
    ObjectsMove state.store later.store ∧ (Consumption state.store → Consumption later.store) := by
  rcases Holders.step_store locked accepted with same | ⟨write, written⟩ | ⟨request, read, seen, kept, finished⟩
  · rw [same]
    exact ⟨.of_eq rfl, id⟩
  · exact ⟨.of_eq (writeAlone_kept written).1, writeAlone_consumption written⟩
  · have commits := finishStaging_commits kept finished
    exact ⟨commits.moves, commits.consumption⟩

theorem stagingStep_locked {input : HolderInput StagingWrite StagingRequest}
    (locked : state.Locked StagingRequest.rows KeptObject) (accepted : stagingStep state input = .ok later) :
    later.Locked StagingRequest.rows KeptObject := by
  refine Holders.step_locked KeptObject.refl KeptObject.trans (fun store write next written row => ?_)
    (fun request read seen store next kept finished row outside => ?_) locked accepted
  · intro stagedObject found
    rw [StagingStore.stagedObject, (writeAlone_kept written).1]
    exact found
  · exact (finishStaging_commits kept finished).kept outside

/-- The locks of the open transactions, and the staged objects. -/
def StagingHeld (state : Holders StagingStore StagingRequest) : Prop :=
  state.Locked StagingRequest.rows KeptObject ∧ StagingSound state.store

theorem stagingStep_held {input : HolderInput StagingWrite StagingRequest} (held : StagingHeld state)
    (accepted : stagingStep state input = .ok later) : StagingHeld later := by
  obtain ⟨moves, consumption⟩ := stagingStep_store held.1 accepted
  exact ⟨stagingStep_locked held.1 accepted, moves.sound held.2 (consumption held.2.consumption)⟩

theorem start_held : StagingHeld ⟨.empty, []⟩ := by
  refine ⟨Holders.locked_empty _, ⟨fun _ member => absurd member Table.not_mem_empty,
    fun _ member => absurd member Table.not_mem_empty, ?_⟩⟩
  exact ⟨fun _ member => absurd member Table.not_mem_empty, fun _ member => absurd member Table.not_mem_empty,
    fun _ member => absurd member Table.not_mem_empty⟩

/-- The store after a run of the staging commands. -/
def stagingRun (inputs : List (HolderInput StagingWrite StagingRequest)) : StagingStore :=
  (run stagingStep ⟨.empty, []⟩ inputs).store

theorem stagingRun_held (inputs : List (HolderInput StagingWrite StagingRequest)) :
    StagingHeld (run stagingStep ⟨.empty, []⟩ inputs) :=
  run_invariant_always (fun _ _ _ held accepted => stagingStep_held held accepted) inputs start_held

theorem stagingRun_sound (inputs : List (HolderInput StagingWrite StagingRequest)) : StagingSound (stagingRun inputs) :=
  (stagingRun_held inputs).2

/-- One more input moves the objects of a run. -/
theorem stagingRun_concat (inputs : List (HolderInput StagingWrite StagingRequest))
    (input : HolderInput StagingWrite StagingRequest) :
    ObjectsMove (stagingRun inputs) (stagingRun (inputs ++ [input])) := by
  rw [stagingRun, stagingRun, run_append, run_cons, run_nil]
  rcases commit_cases stagingStep (run stagingStep ⟨.empty, []⟩ inputs) input with accepted | refused
  · exact (stagingStep_store (stagingRun_held inputs).1 accepted).1
  · rw [refused]
    exact .of_eq rfl

/-- An object is admitted only after it was quarantined. -/
theorem stagingRun_quarantined (inputs : List (HolderInput StagingWrite StagingRequest)) :
    ∀ row ∈ (stagingRun inputs).stagedObjects, row.state = .clean ∨ row.state = .consumed →
      ∃ earlier, earlier <+: inputs ∧ ∃ old ∈ (stagingRun earlier).stagedObjects, old.id = row.id ∧
        old.state = .quarantined := by
  induction inputs using List.reverseRecOn with
  | nil => exact fun row member => absurd member Table.not_mem_empty
  | append_singleton inputs input ih =>
    intro row member admitted
    have still {old : DceStagedObjectRecord} (stored : old ∈ (stagingRun inputs).stagedObjects)
        (named : row.id = old.id) (before : old.state = .clean ∨ old.state = .consumed) :
        ∃ earlier, earlier <+: inputs ++ [input] ∧ ∃ old ∈ (stagingRun earlier).stagedObjects, old.id = row.id ∧
          old.state = .quarantined := by
      obtain ⟨earlier, initial, first, present, same, state⟩ := ih old stored before
      exact ⟨earlier, initial.trans (List.prefix_append _ _), first, present, same.trans named.symm, state⟩
    rcases (stagingRun_concat inputs input).backward row member with ⟨old, stored, rfl | advances⟩ | awaiting
    · exact still stored rfl admitted
    · have transition := advances.transition
      rcases admitted with clean | consumed
      · have only : ∀ state, (state, StagedObjectState.clean) ∈ stagedTransitions → state = .quarantined := by
          intro state
          cases state <;> decide
        rw [clean] at transition
        exact ⟨inputs, List.prefix_append _ _, old, stored, advances.id.symm, only _ transition⟩
      · rw [consumed] at transition
        exact still stored advances.id (.inl (transition_consumed _ transition))
    · rw [awaiting] at admitted
      rcases admitted with never | never <;> cases never

/-- What a run leaves of an object that is not admitted any more, or for good. -/
def Closed (old new : DceStagedObjectRecord) : Prop :=
  new.id = old.id ∧ (old.state = .consumed → new = old) ∧
    (old.state = .rejected ∨ old.state = .expired → new.state = .rejected ∨ new.state = .expired)

theorem closed_of_move {old new : DceStagedObjectRecord} (moved : new = old ∨ old.Advances new) : Closed old new := by
  rcases moved with rfl | advances
  · exact ⟨rfl, fun _ => rfl, id⟩
  · have transition := advances.transition
    refine ⟨advances.id, fun consumed => ?_, fun closed => ?_⟩
    · have final : ∀ state, (StagedObjectState.consumed, state) ∉ stagedTransitions := by
        intro state
        cases state <;> decide
      rw [consumed] at transition
      exact absurd transition (final _)
    · have only : ∀ before after, (before, after) ∈ stagedTransitions → before = .rejected ∨ before = .expired →
          after = StagedObjectState.expired := by
        intro before after
        cases before <;> cases after <;> decide
      exact .inr (only _ _ transition closed)

theorem Closed.trans {first second third : DceStagedObjectRecord} (one : Closed first second)
    (other : Closed second third) : Closed first third := by
  refine ⟨other.1.trans one.1, fun consumed => ?_, fun closed => other.2.2 (one.2.2 closed)⟩
  have same := one.2.1 consumed
  rw [same] at other
  exact other.2.1 consumed

theorem stagingRun_closed (inputs more : List (HolderInput StagingWrite StagingRequest)) :
    ∀ row ∈ (stagingRun inputs).stagedObjects, ∃ after ∈ (stagingRun (inputs ++ more)).stagedObjects,
      Closed row after := by
  induction more using List.reverseRecOn with
  | nil =>
    intro row member
    rw [List.append_nil]
    exact ⟨row, member, closed_of_move (.inl rfl)⟩
  | append_singleton more input ih =>
    intro row member
    obtain ⟨middle, stored, first⟩ := ih row member
    rw [← List.append_assoc]
    obtain ⟨after, present, moved⟩ := (stagingRun_concat (inputs ++ more) input).forward middle stored
    exact ⟨after, present, first.trans (closed_of_move moved)⟩

end Runs

/-- What a run of the staging commands, and any continuation of it, show of an object the run leaves. -/
structure AdmittedObjects (inputs more : List (HolderInput StagingWrite StagingRequest)) : Prop where
  scanned : ∀ row ∈ (stagingRun inputs).stagedObjects, row.state = .clean ∨ row.state = .consumed →
    row.Scanned ∧ ∃ earlier, earlier <+: inputs ∧ ∃ old ∈ (stagingRun earlier).stagedObjects, old.id = row.id ∧
      old.state = .quarantined ∧ old.sha256 ≠ none ∧ old.mediaType ≠ none
  closed : ∀ row ∈ (stagingRun inputs).stagedObjects, row.state = .rejected ∨ row.state = .expired →
    ∀ later ∈ (stagingRun (inputs ++ more)).stagedObjects, later.id = row.id →
      later.state ≠ .clean ∧ later.state ≠ .consumed
  absorbing : ∀ row ∈ (stagingRun inputs).stagedObjects, row.state = .consumed →
    row ∈ (stagingRun (inputs ++ more)).stagedObjects
  consumed : ∀ row ∈ (stagingRun inputs).stagedObjects, row.state = .consumed →
    ∃ document ∈ (stagingRun inputs).documents, ∃ version ∈ (stagingRun inputs).versions,
      document.storageObjectId = row.id ∧ document.tenantId = row.tenantId ∧ document.dceVersionId = version.id ∧
      row.consumedByDceVersionId = some version.id ∧ version.tenantId = row.tenantId ∧
      version.consultationId = row.consultationId ∧
      (∀ other ∈ (stagingRun inputs).documents, other.storageObjectId = row.id → other = document) ∧
      ∀ other ∈ (stagingRun inputs).versions, other.id = version.id → other = version

/-- Only scanned objects are admitted, closed and consumed ones stay so, and a consumed one has its one document
    of its one version. -/
theorem staged_objects_admitted (inputs more : List (HolderInput StagingWrite StagingRequest)) :
    AdmittedObjects inputs more where
  scanned row member admitted := by
    obtain ⟨earlier, initial, old, stored, same, state⟩ := stagingRun_quarantined inputs row member admitted
    have recorded := (stagingRun_sound earlier).quarantined old stored state
    exact ⟨(stagingRun_sound inputs).scanned row member admitted, earlier, initial, old, stored, same, state, recorded⟩
  closed row member state later present same := by
    obtain ⟨after, stored, named, _, closed⟩ := stagingRun_closed inputs more row member
    obtain rfl := eq_of_id present stored (same.trans named.symm)
    rcases closed state with rejected | expired
    · rw [rejected]
      exact ⟨by decide, by decide⟩
    · rw [expired]
      exact ⟨by decide, by decide⟩
  absorbing row member state := by
    obtain ⟨after, stored, _, kept, _⟩ := stagingRun_closed inputs more row member
    rwa [kept state] at stored
  consumed row member state := by
    have consumption := (stagingRun_sound inputs).consumption
    obtain ⟨document, known, named⟩ := consumption.objects row member state
    obtain ⟨other, stored, same, _, tenant, consumer, version, present, ofDocument, owner, consultation⟩ :=
      consumption.documents document known
    obtain rfl := eq_of_id stored member (same.trans named)
    refine ⟨document, known, version, present, named, tenant.symm, ofDocument.symm, ?_, owner, consultation, ?_, ?_⟩
    · rw [consumer, ofDocument]
    · exact fun other listed equal => consumption.single other listed document known (equal.trans named.symm)
    · exact fun other listed equal => Table.eq_of_conflict listed present (.inl equal)

end SmartAo.Dce
