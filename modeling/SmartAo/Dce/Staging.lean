import SmartAo.Dce.Fragments
import Mathlib.Data.List.Sort

namespace SmartAo.Dce

open SmartAo.Foundation SmartAo.Platform

structure ConsultationRecord where
  id : Uuid
  tenantId : Uuid
  aggregateRevision : Nat
deriving DecidableEq

instance : Schema ConsultationRecord := .primary ConsultationRecord.id

structure StagingStore where
  consultations : Table ConsultationRecord
  versions : Table DceVersionRecord
  documents : Table DceDocumentRecord
  stagedObjects : Table DceStagedObjectRecord

namespace StagingStore

variable (store : StagingStore) (tenantId : Uuid)

def empty : StagingStore := ⟨.empty, .empty, .empty, .empty⟩

def consultation (consultationId : Uuid) : Option ConsultationRecord :=
  store.consultations.find? fun row => row.tenantId = tenantId ∧ row.id = consultationId

def stagedObject (storageObjectId : Uuid) : Option DceStagedObjectRecord :=
  store.stagedObjects.find? fun row => row.tenantId = tenantId ∧ row.id = storageObjectId

end StagingStore

/-- What a handler sees: the store its first statement read, the one its locking statement read, and the one
    its writes go to. -/
structure StagingView where
  read : StagingStore
  locked : StagingStore
  store : StagingStore

/-- A handler that runs alone. -/
def StagingView.of (store : StagingStore) : StagingView := ⟨store, store, store⟩

def StagedObjectState.value : StagedObjectState → String
  | awaitingUpload => "AWAITING_UPLOAD"
  | uploading => "UPLOADING"
  | quarantined => "QUARANTINED"
  | clean => "CLEAN"
  | rejected => "REJECTED"
  | consumed => "CONSUMED"
  | expired => "EXPIRED"

def retentionTopic : String := "dce_staging_retention"

def cockpitTopic : String := "cockpit_projection"

/-- `_staging_storage_key` -/
def stagingStorageKey (tenantId storageObjectId : Uuid) : String :=
  String.ofList ("dce-staging/".toList ++ (tenantId.chars ++ '/' :: storageObjectId.chars))

/-- The outcome of a command on one staged object; its code is that of its event. -/
def stagingOutcome (code : String) (tenantId : Uuid) (stagedObject : DceStagedObjectRecord)
    (state : Option StagedObjectState) (topic : String) : HandlerOutcome where
  resultCode := code
  aggregateRefs := [{
    aggregateType := "DCE_STAGED_OBJECT", aggregateId := stagedObject.id.str, aggregateRevision := 0 }]
  events := [{
    aggregateType := "DCE_STAGED_OBJECT", aggregateId := stagedObject.id, aggregateRevision := 0, eventType := code
    payload := [("storage_object_id", .str stagedObject.id.str), ("tenant_id", .str tenantId.str),
      ("consultation_id", .str stagedObject.consultationId.str)] ++
        (state.map fun state => ("state", Json.str state.value)).toList
    topic }]

/-- The topic of an object that may have to be deleted. -/
def stateTopic (state : StagedObjectState) : String := if state = .rejected then retentionTopic else cockpitTopic

structure PrepareDceStagingCommand extends ApplicationCommand where
  storageObjectId : Uuid
  consultationId : Uuid
  consultationRevision : Nat
  expectedByteSize : Nat
  expiresAt : Timestamp

def maxStagedBytes : Nat := 2000000000

def PrepareDceStagingCommand.build (command : PrepareDceStagingCommand) :
    Except ValidationError PrepareDceStagingCommand := do
  raiseIf (command.expectedByteSize = 0 ∨ maxStagedBytes < command.expectedByteSize) (.field "expected_byte_size")
  return command

def prepareDceStaging (view : StagingView) (command : PrepareDceStagingCommand) (context : CommandContext) :
    Transaction (StagingStore × HandlerOutcome) := do
  let consultation ← orRaise (view.read.consultation context.tenantId command.consultationId)
    (.failed "CONSULTATION_REQUIRED_OR_STALE")
  raiseIf (consultation.aggregateRevision ≠ command.consultationRevision) (.failed "CONSULTATION_REQUIRED_OR_STALE")
  raiseIf (command.expiresAt ≤ context.receivedAt) (.failed "DCE_STAGING_EXPIRY_REQUIRED")
  let stagedObject : DceStagedObjectRecord := {
    id := command.storageObjectId, tenantId := context.tenantId, consultationId := command.consultationId
    storageKey := stagingStorageKey context.tenantId command.storageObjectId
    expectedByteSize := command.expectedByteSize, actualByteSize := none, sha256 := none, mediaType := none
    state := .awaitingUpload, scanVerdict := none, rejectionCode := none, expiresAt := command.expiresAt
    consumedByDceVersionId := none }
  let stagedObjects ← flush (view.store.stagedObjects.insert? stagedObject)
  return ({ view.store with stagedObjects },
    stagingOutcome "DCE_STAGING_PREPARED" context.tenantId stagedObject none cockpitTopic)

/-- The columns of a staged object its commands write. -/
structure StagedObjectWrite where
  actualByteSize : Option Nat
  sha256 : Option String
  mediaType : Option String
  state : StagedObjectState
  scanVerdict : Option ScanVerdict
  rejectionCode : Option String

namespace StagedObjectWrite

def apply (write : StagedObjectWrite) (row : DceStagedObjectRecord) : DceStagedObjectRecord :=
  { row with
    actualByteSize := write.actualByteSize, sha256 := write.sha256, mediaType := write.mediaType
    state := write.state, scanVerdict := write.scanVerdict, rejectionCode := write.rejectionCode }

theorem apply_columns (write : StagedObjectWrite) (row : DceStagedObjectRecord) :
    Schema.columns (write.apply row) = Schema.columns row := rfl

def of (row : DceStagedObjectRecord) : StagedObjectWrite :=
  ⟨row.actualByteSize, row.sha256, row.mediaType, row.state, row.scanVerdict, row.rejectionCode⟩

end StagedObjectWrite

def StagingStore.write (store : StagingStore) (storageObjectId : Uuid) (write : StagedObjectWrite) : StagingStore :=
  { store with stagedObjects :=
    (store.stagedObjects.update (fun row => row.id = storageObjectId) write.apply write.apply_columns) }

/-- A command that names one staged object. -/
structure StagedObjectCommand extends ApplicationCommand where
  storageObjectId : Uuid

def claimDceStagedObjectUpload (view : StagingView) (command : StagedObjectCommand) (context : CommandContext) :
    Transaction (StagingStore × HandlerOutcome) := do
  let stagedObject ← orRaise (view.locked.stagedObject context.tenantId command.storageObjectId)
    (.failed "DCE_STAGED_OBJECT_NOT_AWAITING_UPLOAD")
  raiseIf (stagedObject.state ≠ .awaitingUpload) (.failed "DCE_STAGED_OBJECT_NOT_AWAITING_UPLOAD")
  raiseIf (stagedObject.expiresAt ≤ context.receivedAt) (.failed "DCE_STAGED_OBJECT_EXPIRED")
  return (view.store.write stagedObject.id { StagedObjectWrite.of stagedObject with state := .uploading },
    stagingOutcome "DCE_STAGING_UPLOAD_CLAIMED" context.tenantId stagedObject none cockpitTopic)

structure RecordDceStagedObjectQuarantineCommand extends StagedObjectCommand where
  actualByteSize : Nat
  sha256 : String
  mediaType : String
  contentAllowed : Bool

/-- The fields of a stream both records of it have. -/
def checkStream (actualByteSize : Nat) (sha256 mediaType : String) : Except ValidationError Unit := do
  raiseIf (actualByteSize = 0 ∨ maxStagedBytes < actualByteSize) (.field "actual_byte_size")
  raiseIf (isSha256 sha256 = false) (.field "sha256")
  raiseIf (mediaType = "" ∨ 180 < mediaType.length) (.field "media_type")

def RecordDceStagedObjectQuarantineCommand.build (command : RecordDceStagedObjectQuarantineCommand) :
    Except ValidationError RecordDceStagedObjectQuarantineCommand := do
  checkStream command.actualByteSize command.sha256 command.mediaType
  return command

def RecordDceStagedObjectQuarantineCommand.write (command : RecordDceStagedObjectQuarantineCommand)
    (stagedObject : DceStagedObjectRecord) : StagedObjectWrite :=
  let recorded := { StagedObjectWrite.of stagedObject with
    actualByteSize := some command.actualByteSize, sha256 := some (lower command.sha256)
    mediaType := some command.mediaType }
  if command.actualByteSize ≠ stagedObject.expectedByteSize then
    { recorded with state := .rejected, rejectionCode := some "BYTE_SIZE_MISMATCH" }
  else if command.contentAllowed = false then
    { recorded with state := .rejected, rejectionCode := some "MEDIA_TYPE_NOT_ALLOWED" }
  else { recorded with state := .quarantined, rejectionCode := none }

def recordDceStagedObjectQuarantine (view : StagingView) (command : RecordDceStagedObjectQuarantineCommand)
    (context : CommandContext) : Transaction (StagingStore × HandlerOutcome) := do
  raiseIf (context.actorKind ≠ .system) (.failed "DCE_STAGING_SYSTEM_ACTOR_REQUIRED")
  let stagedObject ← orRaise (view.locked.stagedObject context.tenantId command.storageObjectId)
    (.failed "DCE_STAGED_OBJECT_NOT_UPLOADING")
  raiseIf (stagedObject.state ≠ .uploading) (.failed "DCE_STAGED_OBJECT_NOT_UPLOADING")
  let write := command.write stagedObject
  return (view.store.write stagedObject.id write,
    stagingOutcome "DCE_STAGING_QUARANTINE_RECORDED" context.tenantId stagedObject (some write.state)
      (stateTopic write.state))

inductive RejectionCode where
  | uploadLimitExceeded
  | storageWriteFailed
  | inspectionError
  | mediaTypeNotAllowed
  | uploadInterrupted
deriving DecidableEq

def RejectionCode.value : RejectionCode → String
  | uploadLimitExceeded => "UPLOAD_LIMIT_EXCEEDED"
  | storageWriteFailed => "STORAGE_WRITE_FAILED"
  | inspectionError => "INSPECTION_ERROR"
  | mediaTypeNotAllowed => "MEDIA_TYPE_NOT_ALLOWED"
  | uploadInterrupted => "UPLOAD_INTERRUPTED"

structure RejectDceStagedObjectUploadCommand extends StagedObjectCommand where
  rejectionCode : RejectionCode

def rejectDceStagedObjectUpload (view : StagingView) (command : RejectDceStagedObjectUploadCommand)
    (context : CommandContext) : Transaction (StagingStore × HandlerOutcome) := do
  raiseIf (context.actorKind ≠ .system) (.failed "DCE_STAGING_SYSTEM_ACTOR_REQUIRED")
  let stagedObject ← orRaise (view.locked.stagedObject context.tenantId command.storageObjectId)
    (.failed "DCE_STAGED_OBJECT_NOT_UPLOADING")
  raiseIf (stagedObject.state ≠ .uploading) (.failed "DCE_STAGED_OBJECT_NOT_UPLOADING")
  return (view.store.write stagedObject.id { StagedObjectWrite.of stagedObject with
      state := .rejected, rejectionCode := some command.rejectionCode.value },
    stagingOutcome "DCE_STAGING_UPLOAD_REJECTED" context.tenantId stagedObject none retentionTopic)

def expireDceStagedObject (view : StagingView) (command : StagedObjectCommand) (context : CommandContext) :
    Transaction (StagingStore × HandlerOutcome) := do
  raiseIf (context.actorKind ≠ .system) (.failed "DCE_STAGING_SYSTEM_ACTOR_REQUIRED")
  let stagedObject ← orRaise (view.locked.stagedObject context.tenantId command.storageObjectId)
    (.failed "DCE_STAGED_OBJECT_NOT_EXPIRABLE")
  raiseIf (stagedObject.state = .consumed ∨ stagedObject.state = .expired) (.failed "DCE_STAGED_OBJECT_NOT_EXPIRABLE")
  raiseIf (context.receivedAt < stagedObject.expiresAt) (.failed "DCE_STAGED_OBJECT_NOT_EXPIRED")
  return (view.store.write stagedObject.id { StagedObjectWrite.of stagedObject with state := .expired },
    stagingOutcome "DCE_STAGING_EXPIRED" context.tenantId stagedObject none retentionTopic)

structure RecordDceStagedObjectScanCommand extends StagedObjectCommand where
  actualByteSize : Nat
  sha256 : String
  mediaType : String
  scanVerdict : ScanVerdict

def RecordDceStagedObjectScanCommand.build (command : RecordDceStagedObjectScanCommand) :
    Except ValidationError RecordDceStagedObjectScanCommand := do
  checkStream command.actualByteSize command.sha256 command.mediaType
  return command

def RecordDceStagedObjectScanCommand.write (command : RecordDceStagedObjectScanCommand)
    (stagedObject : DceStagedObjectRecord) : StagedObjectWrite :=
  let recorded := { StagedObjectWrite.of stagedObject with
    actualByteSize := some command.actualByteSize, sha256 := some (lower command.sha256)
    mediaType := some command.mediaType, scanVerdict := some command.scanVerdict }
  if command.actualByteSize ≠ stagedObject.expectedByteSize then
    { recorded with state := .rejected, rejectionCode := some "BYTE_SIZE_MISMATCH" }
  else match command.scanVerdict with
    | .clean => { recorded with state := .clean, rejectionCode := none }
    | .infected => { recorded with state := .rejected, rejectionCode := some "MALWARE_DETECTED" }
    | .error => { recorded with state := .rejected, rejectionCode := some "SCAN_ERROR" }

def recordDceStagedObjectScan (view : StagingView) (command : RecordDceStagedObjectScanCommand)
    (context : CommandContext) : Transaction (StagingStore × HandlerOutcome) := do
  raiseIf (context.actorKind ≠ .system) (.failed "DCE_STAGING_SYSTEM_ACTOR_REQUIRED")
  let stagedObject ← orRaise (view.locked.stagedObject context.tenantId command.storageObjectId)
    (.failed "DCE_STAGED_OBJECT_NOT_QUARANTINED")
  raiseIf (stagedObject.state ≠ .quarantined) (.failed "DCE_STAGED_OBJECT_NOT_QUARANTINED")
  let write := command.write stagedObject
  return (view.store.write stagedObject.id write,
    stagingOutcome "DCE_STAGING_SCAN_RECORDED" context.tenantId stagedObject (some write.state)
      (stateTopic write.state))

structure DceDocumentAdmissionInput where
  documentId : Uuid
  storageObjectId : Uuid

structure RegisterDceVersionCommand extends ApplicationCommand where
  dceVersionId : Uuid
  consultationId : Uuid
  consultationRevision : Nat
  corpusHash : String
  provenanceChannel : String
  provenanceReference : Option String
  documents : List DceDocumentAdmissionInput

def RegisterDceVersionCommand.build (command : RegisterDceVersionCommand) :
    Except ValidationError RegisterDceVersionCommand := do
  raiseIf (isSha256 command.corpusHash = false) (.field "corpus_hash")
  raiseIf (command.provenanceChannel ∉ ["BUYER_PLATFORM", "EMAIL", "MANUAL_UPLOAD", "RECTIFICATION"])
    (.field "provenance_channel")
  raiseIf (command.provenanceReference.any fun reference => 240 < reference.length) (.field "provenance_reference")
  raiseIf (command.documents = []) (.field "documents")
  return command

def RegisterDceVersionCommand.storageObjectIds (command : RegisterDceVersionCommand) : List Uuid :=
  command.documents.map (·.storageObjectId)

/-- What an admissible object was recorded with. -/
structure AdmittedObject where
  stagedObject : DceStagedObjectRecord
  sha256 : String
  mediaType : String
  byteSize : Nat

def admitStagedObject (command : RegisterDceVersionCommand) (receivedAt : Timestamp)
    (stagedObject : DceStagedObjectRecord) : Transaction AdmittedObject := do
  raiseIf (stagedObject.consultationId ≠ command.consultationId) (.failed "DCE_STAGED_OBJECT_CONSULTATION_REQUIRED")
  raiseIf (stagedObject.state ≠ .clean) (.failed "DCE_STAGED_OBJECT_NOT_CLEAN")
  raiseIf (stagedObject.expiresAt ≤ receivedAt) (.failed "DCE_STAGED_OBJECT_EXPIRED")
  let sha256 ← orRaise stagedObject.sha256 (.failed "DCE_STAGED_OBJECT_METADATA_REQUIRED")
  let mediaType ← orRaise stagedObject.mediaType (.failed "DCE_STAGED_OBJECT_METADATA_REQUIRED")
  let byteSize ← orRaise stagedObject.actualByteSize (.failed "DCE_STAGED_OBJECT_METADATA_REQUIRED")
  return ⟨stagedObject, sha256, mediaType, byteSize⟩

/-- `_corpus_hash` -/
def corpusHash (documentHashes : List String) : String :=
  hexdigest (['\n'].intercalate ((documentHashes.insertionSort (· ≤ ·)).map String.toList))

/-- A document of the version, with the checks of the domain's `DceDocument`. -/
def admitDocument (tenantId dceVersionId documentId : Uuid) (admitted : AdmittedObject) :
    Transaction DceDocumentRecord :=
  if strip admitted.mediaType = "" ∨ admitted.byteSize = 0 then
    .error (.failed "admitted document metadata is invalid")
  else if hex : isSha256 admitted.sha256 = true then .ok {
    id := documentId, tenantId, dceVersionId, storageObjectId := admitted.stagedObject.id
    storageKey := admitted.stagedObject.storageKey, mediaType := admitted.mediaType
    byteSize := admitted.byteSize, sha256 := admitted.sha256, hex }
  else .error (.failed "admitted document sha256 must be a valid SHA-256")

def consumed (dceVersionId : Uuid) (row : DceStagedObjectRecord) : DceStagedObjectRecord :=
  { row with state := .consumed, consumedByDceVersionId := some dceVersionId }

theorem consumed_columns (dceVersionId : Uuid) (row : DceStagedObjectRecord) :
    Schema.columns (consumed dceVersionId row) = Schema.columns row := rfl

/-- `provenance_reference or provenance_channel` -/
def RegisterDceVersionCommand.provenance (command : RegisterDceVersionCommand) : String :=
  match command.provenanceReference with
  | some reference => if reference = "" then command.provenanceChannel else reference
  | none => command.provenanceChannel

/-- The version of `DceVersion.register`, with its checks. -/
def RegisterDceVersionCommand.version (command : RegisterDceVersionCommand) (tenantId : Uuid) :
    Transaction DceVersionRecord := do
  raiseIf (isSha256 (lower command.corpusHash) = false) (.failed "DCE corpus hash must be a valid SHA-256")
  raiseIf (command.documents = []) (.failed "DCE version requires at least one admitted original")
  raiseIf (strip command.provenance = "") (.failed "DCE version requires provenance")
  raiseIf (¬ (command.documents.map (·.documentId)).Nodup)
    (.failed "DCE version contains duplicate document identifiers")
  return {
    id := command.dceVersionId, tenantId, consultationId := command.consultationId
    corpusHash := lower command.corpusHash, predecessorDceVersionId := none, lifecycle := .admitted
    integrity := .verified, classificationReadiness := .unclassified, analysisReadiness := .notReady
    aggregateRevision := 0 }

def registerDceVersion (view : StagingView) (command : RegisterDceVersionCommand) (context : CommandContext) :
    Transaction (StagingStore × HandlerOutcome) := do
  let consultation ← orRaise (view.read.consultation context.tenantId command.consultationId)
    (.failed "CONSULTATION_REQUIRED_OR_STALE")
  raiseIf (consultation.aggregateRevision ≠ command.consultationRevision) (.failed "CONSULTATION_REQUIRED_OR_STALE")
  raiseIf (¬ (command.documents.map (·.documentId)).Nodup) (.failed "DCE_DOCUMENT_IDENTIFIER_DUPLICATE")
  raiseIf (¬ command.storageObjectIds.Nodup) (.failed "DCE_STAGED_OBJECT_DUPLICATE")
  let stagedObjects ← collect (fun storageObjectId =>
    orRaise (view.locked.stagedObject context.tenantId storageObjectId) (.failed "DCE_STAGED_OBJECT_REQUIRED"))
      command.storageObjectIds
  let admitted ← collect (admitStagedObject command context.receivedAt) stagedObjects
  raiseIf (lower command.corpusHash ≠ corpusHash (admitted.map (·.sha256))) (.failed "DCE_CORPUS_HASH_REQUIRED")
  let documents ← collect (fun (document, object) =>
    admitDocument context.tenantId command.dceVersionId document object)
      ((command.documents.map (·.documentId)).zip admitted)
  let version ← command.version context.tenantId
  let versions ← flush (view.store.versions.insert? version)
  let documents ← flush (view.store.documents.insertAll? documents)
  let stagedObjects := view.store.stagedObjects.update (fun row => row.id ∈ command.storageObjectIds)
    (consumed command.dceVersionId) (consumed_columns _)
  return ({ view.store with versions, documents, stagedObjects }, {
    resultCode := "DCE_VERSION_REGISTERED"
    aggregateRefs := [{ aggregateType := "DCE", aggregateId := version.id.str, aggregateRevision := 0 }]
    events := [{
      aggregateType := "DCE_VERSION", aggregateId := version.id, aggregateRevision := 0
      eventType := "DCE_VERSION_REGISTERED"
      payload := [("dce_version_id", .str version.id.str), ("tenant_id", .str version.tenantId.str),
        ("consultation_id", .str version.consultationId.str)] }] })

inductive StagingCommand where
  | prepare (command : PrepareDceStagingCommand)
  | claim (command : StagedObjectCommand)
  | quarantine (command : RecordDceStagedObjectQuarantineCommand)
  | reject (command : RejectDceStagedObjectUploadCommand)
  | expire (command : StagedObjectCommand)
  | scan (command : RecordDceStagedObjectScanCommand)
  | register (command : RegisterDceVersionCommand)

structure StagingRequest where
  command : StagingCommand
  context : CommandContext

/-- The staged objects its locking statement names. -/
def StagingRequest.rows (request : StagingRequest) : List (Uuid × Uuid) :=
  match request.command with
  | .prepare _ => []
  | .claim command => [(request.context.tenantId, command.storageObjectId)]
  | .quarantine command => [(request.context.tenantId, command.storageObjectId)]
  | .reject command => [(request.context.tenantId, command.storageObjectId)]
  | .expire command => [(request.context.tenantId, command.storageObjectId)]
  | .scan command => [(request.context.tenantId, command.storageObjectId)]
  | .register command => command.storageObjectIds.map fun id => (request.context.tenantId, id)

/-- A command its model refuses is not built. -/
def StagingRequest.execute (request : StagingRequest) (view : StagingView) :
    Transaction (StagingStore × HandlerOutcome) :=
  match request.command with
  | .prepare command => do
    prepareDceStaging view (← orRaise command.build.toOption (.failed "validation")) request.context
  | .claim command => claimDceStagedObjectUpload view command request.context
  | .quarantine command => do
    recordDceStagedObjectQuarantine view (← orRaise command.build.toOption (.failed "validation")) request.context
  | .reject command => rejectDceStagedObjectUpload view command request.context
  | .expire command => expireDceStagedObject view command request.context
  | .scan command => do
    recordDceStagedObjectScan view (← orRaise command.build.toOption (.failed "validation")) request.context
  | .register command => do
    registerDceVersion view (← orRaise command.build.toOption (.failed "validation")) request.context

end SmartAo.Dce
