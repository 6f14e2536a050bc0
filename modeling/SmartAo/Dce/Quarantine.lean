import SmartAo.Dce.Upload
import SmartAo.Foundation.FileSystem
import SmartAo.Foundation.Simulation

namespace SmartAo.Dce

open SmartAo.Foundation SmartAo.Platform

/-- A file under the root of the quarantine, by the names on its path. -/
abbrev StoragePath := List (List Char)

/-- The names of `PurePosixPath(text)`, which drops the empty ones and `.`. -/
def pathNames (text : List Char) : StoragePath :=
  (text.splitOn '/').filter fun name => decide (name ≠ [] ∧ name ≠ ['.'])

/-- `_path`: a relative path that does not climb. -/
def storagePath? (storageKey : String) : Option StoragePath :=
  let text := storageKey.toList
  if text.head? = some '/' ∨ (pathNames text).contains ['.', '.'] then none else some (pathNames text)

example : storagePath? "dce-staging/./a//b" = some ["dce-staging".toList, ['a'], ['b']] ∧ storagePath? "a/../b" = none ∧
    storagePath? "/a" = none := by decide +kernel

/-- The file a stream is written to before it has its own name. -/
def temporaryPath (path : StoragePath) (uuid : Uuid) : StoragePath :=
  path.dropLast ++ ['.' :: (path.getLast?.getD [] ++ '.' :: (hexDigits 32 uuid.toNat ++ ".part".toList))]

inductive QuarantineError where
  | exists
  | tooLarge
  | failed
  | lost
deriving DecidableEq

/-- Where a `write` stands; an open file is known by its inode. -/
inductive WritePhase where
  | preparing
  | creating
  | streaming (inode : Nat)
  | linking
  | unlinking
  | cleaning (error : QuarantineError)
  | ended (answer : Except QuarantineError QuarantineWriteResult)

/-- One call of `write`, with what it has received of its stream. -/
structure QuarantineWrite where
  path : StoragePath
  uuid : Uuid
  maxBytes : Nat
  received : List UInt8
  phase : WritePhase

def QuarantineWrite.temporary (call : QuarantineWrite) : StoragePath := temporaryPath call.path call.uuid

structure QuarantineState where
  fs : FileSystem StoragePath UInt8
  calls : List QuarantineWrite

namespace QuarantineState

def empty : QuarantineState := ⟨.empty, []⟩

/-- The call at an index goes on, over what it has made of the files. -/
def move (state : QuarantineState) (fs : FileSystem StoragePath UInt8) (index : Nat) (call : QuarantineWrite)
    (phase : WritePhase) : QuarantineState :=
  ⟨fs, state.calls.set index { call with phase }⟩

end QuarantineState

/-- A call of the operating system may fail, before it has had its effect or after. -/
inductive SystemCall where
  | done
  | failed (effective : Bool)
deriving DecidableEq

/-- The steps of the calls of `write`, the end of a process in the middle of one, and `delete`. -/
inductive QuarantineInput where
  | start (storageKey : String) (uuid : Uuid) (maxBytes : Nat)
  | prepare (index : Nat) (succeeds : Bool)
  | create (index : Nat) (outcome : SystemCall)
  | chunk (index : Nat) (bytes : List UInt8) (written : Option Nat)
  | interrupt (index : Nat)
  | finish (index : Nat) (succeeds : Bool)
  | link (index : Nat) (outcome : SystemCall)
  | unlink (index : Nat) (succeeds : Bool)
  | clean (index : Nat) (succeeds : Bool)
  | crash (index : Nat)
  | delete (storageKey : String) (succeeds : Bool)

section Steps

variable (state : QuarantineState) (index : Nat) (call : QuarantineWrite)

/-- `mkdir`, `chmod`, and the target that must not exist; the root itself does. -/
def QuarantineState.prepare (succeeds : Bool) : QuarantineState :=
  if succeeds = false then state.move state.fs index call (.ended (.error .failed))
  else if call.path = [] ∨ (state.fs.names.read call.path).isSome = true then
    state.move state.fs index call (.ended (.error .exists))
  else state.move state.fs index call .creating

/-- `_create_private_file` -/
def QuarantineState.create (outcome : SystemCall) : QuarantineState :=
  match outcome, state.fs.create? call.temporary with
  | .done, some (fs, inode) => state.move fs index call (.streaming inode)
  | .failed true, some (fs, _) => state.move fs index call (.cleaning .failed)
  | _, _ => state.move state.fs index call (.cleaning .failed)

/-- One chunk of the stream; `written` bytes of it reach the file when the write fails. -/
def QuarantineState.chunk (inode : Nat) (bytes : List UInt8) (written : Option Nat) : QuarantineState :=
  let grown := { call with received := call.received ++ bytes }
  if bytes = [] then state
  else if call.maxBytes < grown.received.length then state.move state.fs index grown (.cleaning .tooLarge)
  else match written with
    | none => state.move (state.fs.append inode bytes) index grown (.streaming inode)
    | some count => state.move (state.fs.append inode (bytes.take count)) index grown (.cleaning .failed)

/-- `os.link`, which does not overwrite. -/
def QuarantineState.link (outcome : SystemCall) : QuarantineState :=
  match outcome, state.fs.link? call.temporary call.path with
  | .done, some fs => state.move fs index call .unlinking
  | .failed true, some fs => state.move fs index call (.cleaning .failed)
  | _, _ => state.move state.fs index call (.cleaning .failed)

def QuarantineState.unlink (succeeds : Bool) : QuarantineState :=
  if succeeds = true ∧ (state.fs.names.read call.temporary).isSome = true then
    state.move (state.fs.unlink call.temporary) index call (.ended (.ok (.of call.received)))
  else state.move state.fs index call (.cleaning .failed)

def QuarantineState.clean (error : QuarantineError) (succeeds : Bool) : QuarantineState :=
  if succeeds then state.move (state.fs.unlink call.temporary) index call (.ended (.error error))
  else state.move state.fs index call (.ended (.error .failed))

end Steps

/-- One step of an interleaving of any calls over one quarantine. -/
def quarantineStep (state : QuarantineState) : QuarantineInput → Except String QuarantineState
  | .start storageKey uuid maxBytes => do
    let path ← orRaise (storagePath? storageKey) "invalid private storage key"
    return { state with calls := state.calls ++ [⟨path, uuid, maxBytes, [], .preparing⟩] }
  | .prepare index succeeds => do
    let call ← orRaise state.calls[index]? "no such call"
    match call.phase with
    | .preparing => return state.prepare index call succeeds
    | _ => .error "phase"
  | .create index outcome => do
    let call ← orRaise state.calls[index]? "no such call"
    match call.phase with
    | .creating => return state.create index call outcome
    | _ => .error "phase"
  | .chunk index bytes written => do
    let call ← orRaise state.calls[index]? "no such call"
    match call.phase with
    | .streaming inode => return state.chunk index call inode bytes written
    | _ => .error "phase"
  | .interrupt index => do
    let call ← orRaise state.calls[index]? "no such call"
    match call.phase with
    | .streaming _ => return state.move state.fs index call (.cleaning .failed)
    | _ => .error "phase"
  | .finish index succeeds => do
    let call ← orRaise state.calls[index]? "no such call"
    match call.phase with
    | .streaming _ => return state.move state.fs index call (if succeeds then .linking else .cleaning .failed)
    | _ => .error "phase"
  | .link index outcome => do
    let call ← orRaise state.calls[index]? "no such call"
    match call.phase with
    | .linking => return state.link index call outcome
    | _ => .error "phase"
  | .unlink index succeeds => do
    let call ← orRaise state.calls[index]? "no such call"
    match call.phase with
    | .unlinking => return state.unlink index call succeeds
    | _ => .error "phase"
  | .clean index succeeds => do
    let call ← orRaise state.calls[index]? "no such call"
    match call.phase with
    | .cleaning error => return state.clean index call error succeeds
    | _ => .error "phase"
  | .crash index => do
    let call ← orRaise state.calls[index]? "no such call"
    match call.phase with
    | .ended _ => .error "phase"
    | _ => return state.move state.fs index call (.ended (.error .lost))
  | .delete storageKey succeeds => do
    let path ← orRaise (storagePath? storageKey) "invalid private storage key"
    return { state with fs := if succeeds then state.fs.unlink path else state.fs }

/-- What readers of the quarantine can tell: a file appears, or disappears. -/
inductive FilesEvent where
  | write (path : StoragePath) (content : List UInt8)
  | delete (path : StoragePath)

/-- The visible files, and every file that ever was. -/
structure StoredFiles where
  files : Files StoragePath (List UInt8)
  written : List (StoragePath × List UInt8)

def StoredFiles.empty : StoredFiles := ⟨.empty, []⟩

def StoredFiles.step (stored : StoredFiles) : FilesEvent → Except Unit StoredFiles
  | .write path content => do
    let files ← orRaise (stored.files.write? path content) ()
    return ⟨files, stored.written ++ [(path, content)]⟩
  | .delete path => return { stored with files := stored.files.keep fun other => decide (other ≠ path) }

/-- The link of a finished stream to its name is the whole write; a deletion is one too. -/
def observeFiles (state : QuarantineState) : QuarantineInput → List FilesEvent
  | .link index outcome => match state.calls[index]? with
    | some call => if outcome ≠ .failed false ∧ (state.fs.link? call.temporary call.path).isSome = true then
        [.write call.path call.received] else []
    | none => []
  | .delete storageKey succeeds => match storagePath? storageKey with
    | some path => if succeeds then [.delete path] else []
    | none => []
  | _ => []

end SmartAo.Dce
