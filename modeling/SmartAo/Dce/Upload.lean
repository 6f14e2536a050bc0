import SmartAo.Dce.StagingHistory
import SmartAo.Foundation.Files

namespace SmartAo.Dce

open SmartAo.Foundation SmartAo.Platform

/-- What a write to the quarantine computes from the bytes. -/
structure QuarantineWriteResult where
  byteSize : Nat
  sha256 : String
deriving DecidableEq

def QuarantineWriteResult.of (content : List UInt8) : QuarantineWriteResult :=
  ⟨content.length, hexdigestBytes content⟩

/-- The upload service: what it admits, and what stands behind its ports. The scanner reads with the signatures of
    the day, and `none` is a file whose type is not detected. -/
structure DceUploadService where
  allowedMediaTypes : List String
  maxBytes : Nat
  detectMediaType : List UInt8 → Option String
  scan : Nat → List UInt8 → ScanVerdict

inductive DceUploadError where
  | alreadyClaimed
  | rejected (statusCode : Nat)
  | command
  | interrupted
deriving DecidableEq

/-- Where an `upload` stands, with what it has computed there. -/
inductive UploadPhase where
  | claiming
  | writing
  | detecting (written : QuarantineWriteResult)
  | recordingQuarantine (written : QuarantineWriteResult) (mediaType : String)
  | scanning (written : QuarantineWriteResult) (mediaType : String)
  | recordingScan (written : QuarantineWriteResult) (mediaType : String) (verdict : ScanVerdict)
  | discarding (rejectionCode : RejectionCode)
  | rejecting (rejectionCode : RejectionCode)
  | deleting
  | ended (answer : Except DceUploadError StagedObjectState)

/-- One call of `upload`, with what its route read of the staged object. -/
structure UploadCall where
  tenantId : Uuid
  storageObjectId : Uuid
  storageKey : String
  expectedByteSize : Nat
  contentLength : Option Nat
  phase : UploadPhase

def RejectionCode.statusCode (rejectionCode : RejectionCode) : Nat :=
  if rejectionCode = .uploadLimitExceeded then 413 else 422

/-- The staged objects, the quarantine by key, the uploads, and the keys the retention worker is about to delete. -/
structure UploadState where
  store : StagingStore
  files : Files String (List UInt8)
  calls : List UploadCall
  deletions : List String

namespace UploadState

def empty : UploadState := ⟨.empty, .empty, [], []⟩

def move (state : UploadState) (index : Nat) (call : UploadCall) (phase : UploadPhase) : UploadState :=
  { state with calls := state.calls.set index { call with phase } }

def unlink (state : UploadState) (storageKey : String) (succeeds : Bool) : UploadState :=
  if succeeds then { state with files := state.files.keep fun key => decide (key ≠ storageKey) } else state

end UploadState

/-- How the write of a stream ends: it may fail, before the file has its name or after. -/
inductive WriteOutcome where
  | completed
  | failed (linked : Bool)

section Calls

variable (service : DceUploadService)

/-- The command an upload dispatches where it stands. -/
def UploadPhase.command (base : StagedObjectCommand) : UploadPhase → Option StagingCommand
  | .claiming => some (.claim base)
  | .recordingQuarantine written mediaType => some (.quarantine { base with
      actualByteSize := written.byteSize, sha256 := written.sha256, mediaType
      contentAllowed := decide (mediaType ∈ service.allowedMediaTypes) })
  | .recordingScan written mediaType verdict => some (.scan { base with
      actualByteSize := written.byteSize, sha256 := written.sha256, mediaType, scanVerdict := verdict })
  | .rejecting rejectionCode => some (.reject { base with rejectionCode })
  | _ => none

/-- Where an upload goes on when its command is committed. -/
def UploadCall.committed (call : UploadCall) : UploadPhase :=
  match call.phase with
  | .claiming =>
    if call.contentLength.any fun length => service.maxBytes < length then .rejecting .uploadLimitExceeded else .writing
  | .recordingQuarantine written mediaType =>
    if written.byteSize ≠ call.expectedByteSize ∨ mediaType ∉ service.allowedMediaTypes then .deleting
    else .scanning written mediaType
  | .recordingScan written _ verdict =>
    if verdict ≠ .clean then .deleting
    else if written.byteSize ≠ call.expectedByteSize then .ended (.error (.rejected 422))
    else .ended (.ok .clean)
  | .rejecting rejectionCode => .ended (.error (.rejected rejectionCode.statusCode))
  | phase => phase

/-- Where an upload goes on when its command is refused; a refused rejection is only logged. -/
def UploadPhase.refused : UploadPhase → Option UploadPhase
  | .claiming => some (.ended (.error .alreadyClaimed))
  | .recordingQuarantine _ _ => some (.ended (.error .command))
  | .recordingScan _ _ _ => some (.ended (.error .command))
  | .rejecting rejectionCode => some (.ended (.error (.rejected rejectionCode.statusCode)))
  | _ => none

/-- `storage.write`, and where the upload goes on. -/
def UploadState.write (state : UploadState) (call : UploadCall) (content : List UInt8) (outcome : WriteOutcome) :
    Files String (List UInt8) × UploadPhase :=
  match outcome, state.files.write? call.storageKey content with
  | .failed true, some files => (files, .rejecting .storageWriteFailed)
  | .failed _, _ => (state.files, .rejecting .storageWriteFailed)
  | .completed, none => (state.files, .rejecting .storageWriteFailed)
  | .completed, some files =>
    if service.maxBytes < content.length then (state.files, .rejecting .uploadLimitExceeded)
    else (files, if content.length = 0 then .discarding .uploadInterrupted else .detecting (.of content))

end Calls

/-- What happens outside the transactions of the commands: the steps of an upload, those of the retention worker,
    other users of the same storage, and what other handlers write. -/
inductive UploadEvent where
  | start (tenantId storageObjectId : Uuid) (contentLength : Option Nat)
  | write (index : Nat) (content : List UInt8) (outcome : WriteOutcome)
  | detect (index : Nat) (succeeds : Bool)
  | scan (index : Nat) (signatures : Nat) (succeeds : Bool)
  | delete (index : Nat) (succeeds : Bool)
  | refuse (index : Nat)
  | interrupt (index : Nat)
  | sweep (tenantId storageObjectId : Uuid)
  | sweepDelete (position : Nat) (succeeds : Bool)
  | foreignWrite (storageKey : String) (content : List UInt8)
  | foreignDelete (storageKey : String)
  | alone (write : StagingWrite)

def idle : CommandError := .failed "IDLE"

def isStagingKey (storageKey : String) : Bool := "dce-staging/".toList.isPrefixOf storageKey.toList

section Events

variable (service : DceUploadService) (state : UploadState)

/-- The next step of an upload that is not a command. -/
def UploadState.advance (index : Nat) (step : UploadCall → Transaction (UploadState × UploadPhase)) :
    Transaction UploadState := do
  let call ← orRaise state.calls[index]? idle
  let (next, phase) ← step call
  return next.move index call phase

def UploadState.event : UploadEvent → Transaction UploadState
  | .start tenantId storageObjectId contentLength => do
    let target ← orRaise (state.store.stagedObjects.find? fun row => row.id = storageObjectId) idle
    let call : UploadCall := {
      tenantId, storageObjectId, storageKey := target.storageKey, expectedByteSize := target.expectedByteSize
      contentLength, phase := .claiming }
    return { state with calls := state.calls ++ [call] }
  | .write index content outcome => state.advance index fun call =>
    match call.phase with
    | .writing =>
      let written := state.write service call content outcome
      .ok ({ state with files := written.1 }, written.2)
    | _ => .error idle
  | .detect index succeeds => state.advance index fun call =>
    match call.phase with
    | .detecting written =>
      match (state.files.read call.storageKey).bind service.detectMediaType, succeeds with
      | some mediaType, true => .ok (state, .recordingQuarantine written mediaType)
      | _, _ => .ok (state, .discarding .inspectionError)
    | _ => .error idle
  | .scan index signatures succeeds => state.advance index fun call =>
    match call.phase with
    | .scanning written mediaType =>
      match state.files.read call.storageKey, succeeds with
      | some content, true => .ok (state, .recordingScan written mediaType (service.scan signatures content))
      | _, _ => .ok (state, .recordingScan written mediaType .error)
    | _ => .error idle
  | .delete index succeeds => state.advance index fun call =>
    match call.phase with
    | .discarding rejectionCode => .ok (state.unlink call.storageKey succeeds, .rejecting rejectionCode)
    | .deleting => .ok (state.unlink call.storageKey succeeds, .ended (.error (.rejected 422)))
    | _ => .error idle
  | .refuse index => state.advance index fun call =>
    (orRaise call.phase.refused idle).map fun phase => (state, phase)
  | .interrupt index => state.advance index fun _ => .ok (state, .ended (.error .interrupted))
  | .sweep tenantId storageObjectId => do
    let stagedObject ← orRaise (state.store.stagedObject tenantId storageObjectId) idle
    raiseIf (stagedObject.state ∉ [.rejected, .expired]) idle
    return { state with deletions := state.deletions ++ [stagedObject.storageKey] }
  | .sweepDelete position succeeds => do
    let storageKey ← orRaise state.deletions[position]? idle
    return { state.unlink storageKey succeeds with deletions := state.deletions.eraseIdx position }
  | .foreignWrite storageKey content => do
    raiseIf (isStagingKey storageKey = true) idle
    let files ← orRaise (state.files.write? storageKey content) idle
    return { state with files }
  | .foreignDelete storageKey => do
    raiseIf (isStagingKey storageKey = true) idle
    return state.unlink storageKey true
  | .alone write => (state.store.writeAlone write).map fun store => { state with store }

end Events

/-- A transaction: a command of a user or of the retention worker, or the one an upload stands at. -/
inductive UploadRequest where
  | prepare (command : PrepareDceStagingCommand) (context : CommandContext)
  | register (command : RegisterDceVersionCommand) (context : CommandContext)
  | expire (command : StagedObjectCommand) (context : CommandContext)
  | dispatch (index : Nat) (command : StagedObjectCommand) (context : CommandContext)

def UploadRequest.rows : UploadRequest → List (Uuid × Uuid)
  | .prepare command context => StagingRequest.rows ⟨.prepare command, context⟩
  | .register command context => StagingRequest.rows ⟨.register command, context⟩
  | .expire command context => StagingRequest.rows ⟨.expire command, context⟩
  | .dispatch _ command context => [(context.tenantId, command.storageObjectId)]

section Steps

variable (service : DceUploadService)

def UploadState.commit (read locked state : UploadState) (request : StagingRequest) : Transaction UploadState :=
  (finishStaging request read.store locked.store state.store).map fun store => { state with store }

def finishUpload (request : UploadRequest) (read locked state : UploadState) : Transaction UploadState :=
  match request with
  | .prepare command context => UploadState.commit read locked state ⟨.prepare command, context⟩
  | .register command context => UploadState.commit read locked state ⟨.register command, context⟩
  | .expire command context => UploadState.commit read locked state ⟨.expire command, context⟩
  | .dispatch index base context => do
    let call ← orRaise state.calls[index]? idle
    raiseIf (call.tenantId ≠ context.tenantId ∨ call.storageObjectId ≠ base.storageObjectId) idle
    let command ← orRaise (call.phase.command service base) idle
    let next ← UploadState.commit read locked state ⟨command, context⟩
    return next.move index call (call.committed service)

/-- Uploads, staging commands and the retention worker, interleaved. -/
def uploadStep (state : Holders UploadState UploadRequest) (input : HolderInput UploadEvent UploadRequest) :
    Transaction (Holders UploadState UploadRequest) :=
  state.step UploadRequest.rows (.failed "LOCK_WAIT") (UploadState.event service) (finishUpload service) input

def uploadRun (inputs : List (HolderInput UploadEvent UploadRequest)) : UploadState :=
  (run (uploadStep service) ⟨.empty, []⟩ inputs).store

end Steps

end SmartAo.Dce
