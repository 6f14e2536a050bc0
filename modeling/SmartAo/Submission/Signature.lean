import SmartAo.Platform.Command
import SmartAo.Foundation.Sessions

namespace SmartAo.Submission

open SmartAo.Foundation SmartAo.Platform

inductive SignatureStatus where
  | requested
  | signed
  | rejected
deriving DecidableEq

def SignatureStatus.value : SignatureStatus → String
  | requested => "REQUESTED"
  | signed => "SIGNED"
  | rejected => "REJECTED"

inductive SignatureResult where
  | signed
  | rejected
deriving DecidableEq

def SignatureResult.status : SignatureResult → SignatureStatus
  | signed => .signed
  | rejected => .rejected

/-- What a signature request reads of a submission package. -/
structure SubmissionPackageRecord where
  id : Uuid
  tenantId : Uuid
  caseId : Uuid
  version : Nat
deriving DecidableEq

instance : Schema SubmissionPackageRecord := .primary (·.id)

structure SubmissionSignatureRecord where
  id : Uuid
  tenantId : Uuid
  submissionPackageId : Uuid
  caseId : Uuid
  provider : String
  signerMembershipId : Uuid
  expectedPackageVersion : Nat
  status : SignatureStatus
  providerReferenceHash : Option String
  signatureSha256 : Option String
  actorId : Uuid
  commandId : Uuid
deriving DecidableEq

instance : Schema SubmissionSignatureRecord := .keyed fun row => (row.id, row.tenantId, row.commandId)

/-- The tables of the signature commands, and the events they have published. -/
structure SignatureStore where
  packages : Table SubmissionPackageRecord
  signatures : Table SubmissionSignatureRecord
  events : List PendingDomainEvent

def SignatureStore.signature (store : SignatureStore) (tenantId signatureId : Uuid) :
    Option SubmissionSignatureRecord :=
  store.signatures.find? fun row => row.tenantId = tenantId ∧ row.id = signatureId

structure RequestSubmissionSignatureCommand extends ApplicationCommand where
  signatureId : Uuid
  submissionPackageId : Uuid
  expectedPackageVersion : Nat
  signerMembershipId : Uuid
  provider : String

structure RecordSubmissionSignatureCommand extends ApplicationCommand where
  signatureId : Uuid
  submissionPackageId : Uuid
  provider : String
  providerReferenceHash : String
  signatureSha256 : String
  outcome : SignatureResult

inductive SignatureCommand where
  | request (command : RequestSubmissionSignatureCommand) (context : CommandContext)
  | record (command : RecordSubmissionSignatureCommand) (context : CommandContext)

def signatureOutcome (record : SubmissionSignatureRecord) (revision : Nat) (resultCode eventType : String)
    (payload : List (String × Json)) : HandlerOutcome where
  resultCode := resultCode
  aggregateRefs := [⟨"SubmissionSignature", record.id.str, revision, none⟩]
  events := [{
    aggregateType := "SubmissionSignature", aggregateId := record.id, aggregateRevision := revision, eventType,
    payload }]

/-- `SubmissionSignatureHandler._request`. -/
def requestSignature (view : Nat → SignatureStore) (store : SignatureStore)
    (command : RequestSubmissionSignatureCommand) (context : CommandContext) :
    Transaction (SignatureStore × HandlerOutcome) := do
  let package ← orRaise
    ((view 0).packages.find? fun row => row.tenantId = context.tenantId ∧ row.id = command.submissionPackageId)
    (.execution "NOT_FOUND_OR_FORBIDDEN")
  raiseIf (package.version ≠ command.expectedPackageVersion) (.execution "VERSION_CONFLICT")
  let record : SubmissionSignatureRecord := {
    id := command.signatureId, tenantId := context.tenantId, submissionPackageId := package.id,
    caseId := package.caseId, provider := command.provider, signerMembershipId := command.signerMembershipId,
    expectedPackageVersion := package.version, status := .requested, providerReferenceHash := none,
    signatureSha256 := none, actorId := context.actorId, commandId := command.commandId }
  let signatures ← flush (store.signatures.insert? record)
  return ({ store with signatures }, signatureOutcome record 1 "SUBMISSION_SIGNATURE_REQUESTED"
    "SubmissionSignatureRequested" [("submission_package_id", .str package.id.str),
      ("provider", .str record.provider), ("status", .str record.status.value)])

/-- The columns a callback sets. -/
def finalized (command : RecordSubmissionSignatureCommand) (record : SubmissionSignatureRecord) :
    SubmissionSignatureRecord :=
  { record with
    status := command.outcome.status
    providerReferenceHash := some command.providerReferenceHash
    signatureSha256 := some command.signatureSha256 }

theorem finalized_columns (command : RecordSubmissionSignatureCommand) (record : SubmissionSignatureRecord) :
    Schema.columns (finalized command record) = Schema.columns record := rfl

/-- `SubmissionSignatureHandler._callback`; it updates the row it read, unless the table only takes new rows. -/
def recordSignature (appendOnly : Bool) (view : Nat → SignatureStore) (store : SignatureStore)
    (command : RecordSubmissionSignatureCommand) (context : CommandContext) :
    Transaction (SignatureStore × HandlerOutcome) := do
  let record ← orRaise ((view 0).signature context.tenantId command.signatureId) (.execution "NOT_FOUND_OR_FORBIDDEN")
  raiseIf (record.provider ≠ command.provider ∨ command.submissionPackageId ≠ record.submissionPackageId)
    (.execution "NOT_FOUND_OR_FORBIDDEN")
  raiseIf (record.status ≠ .requested) (.execution "SIGNATURE_ALREADY_FINALIZED")
  -- the trigger of the migration raises on every update of the table
  raiseIf (appendOnly = true) (.failed "submission signature is append-only")
  let signatures := store.signatures.update (fun row => row.id = record.id) (finalized command)
    (finalized_columns command)
  return ({ store with signatures }, signatureOutcome record 2 "SUBMISSION_SIGNATURE_RECORDED"
    "SubmissionSignatureRecorded" [("submission_package_id", .str record.submissionPackageId.str),
      ("provider", .str record.provider), ("status", .str command.outcome.status.value),
      ("external_submission", .str "NOT_PERFORMED")])

/-- The events of a command are committed with its rows. -/
def published (store : SignatureStore) (handled : SignatureStore × HandlerOutcome) : SignatureStore :=
  { handled.1 with events := store.events ++ handled.2.events }

def finishSignature (appendOnly : Bool) (session : Session SignatureStore SignatureCommand) (store : SignatureStore) :
    Transaction SignatureStore :=
  match session.command with
  | .request command context => (requestSignature (session.view store) store command context).map (published store)
  | .record command context =>
    (recordSignature appendOnly (session.view store) store command context).map (published store)

/-- Submission packages are written by other commands. -/
def writePackages (store : SignatureStore) (packages : Table SubmissionPackageRecord) : Transaction SignatureStore :=
  .ok { store with packages }

/-- Signature commands interleaved at read committed, with or without the trigger. -/
def interleaveSignatures (appendOnly : Bool) (state : Sessions SignatureStore SignatureCommand)
    (input : SessionInput (Table SubmissionPackageRecord) SignatureCommand) :
    Transaction (Sessions SignatureStore SignatureCommand) :=
  state.step writePackages (finishSignature appendOnly) input

def unsigned : Sessions SignatureStore SignatureCommand := ⟨⟨.empty, .empty, []⟩, []⟩

/-- The events that a callback of a signature published. -/
def recordedEvents (store : SignatureStore) (signatureId : Uuid) : List PendingDomainEvent :=
  store.events.filter fun event => event.eventType = "SubmissionSignatureRecorded" ∧ event.aggregateId = signatureId

def SignatureCommand.callbackOf (signatureId : Uuid) : SignatureCommand → Bool
  | .request _ _ => false
  | .record command _ => command.signatureId = signatureId

/-- The input commits a callback of a signature. -/
def commitsCallback (appendOnly : Bool) (signatureId : Uuid) (state : Sessions SignatureStore SignatureCommand)
    (input : SessionInput (Table SubmissionPackageRecord) SignatureCommand) : Bool :=
  match input with
  | .finish index => state.active[index]?.any fun session =>
    session.command.callbackOf signatureId && (finishSignature appendOnly session state.store).isOk
  | _ => false

/-- Finalized signatures stay as they are. -/
def KeepsFinalized (old new : SignatureStore) : Prop :=
  ∀ record ∈ old.signatures, record.status ≠ .requested → record ∈ new.signatures

/-- A signature after a step was there before it, is requested by it, or is finalized by the one callback that
    commits in it. -/
def WrittenByCallback (appendOnly : Bool) (state next : Sessions SignatureStore SignatureCommand)
    (input : SessionInput (Table SubmissionPackageRecord) SignatureCommand) : Prop :=
  ∀ record ∈ next.store.signatures, record ∈ state.store.signatures ∨ record.status = .requested ∨
    ∃ index session command context before, input = .finish index ∧ state.active[index]? = some session ∧
      session.command = .record command context ∧ commitsCallback appendOnly record.id state input = true ∧
      before ∈ state.store.signatures ∧ before.status = .requested ∧ record = finalized command before

/-- At most one callback of a signature commits, what it wrote stays, and it publishes one event. -/
structure SignatureFinality (appendOnly : Bool)
    (inputs : List (SessionInput (Table SubmissionPackageRecord) SignatureCommand)) : Prop where
  once : ∀ signatureId,
    tally (interleaveSignatures appendOnly) (commitsCallback appendOnly signatureId) unsigned inputs ≤ 1
  final : ∀ first, first <+: inputs → KeepsFinalized (run (interleaveSignatures appendOnly) unsigned first).store
    (run (interleaveSignatures appendOnly) unsigned inputs).store
  written : ∀ first input, first ++ [input] <+: inputs →
    WrittenByCallback appendOnly (run (interleaveSignatures appendOnly) unsigned first)
      (run (interleaveSignatures appendOnly) unsigned (first ++ [input])) input
  events : ∀ signatureId,
    (recordedEvents (run (interleaveSignatures appendOnly) unsigned inputs).store signatureId).length ≤ 1

end SmartAo.Submission
