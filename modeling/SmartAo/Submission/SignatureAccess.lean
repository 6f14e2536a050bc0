import SmartAo.Submission.Signature
import SmartAo.Security.Authorization

namespace SmartAo.Submission

open SmartAo.Foundation SmartAo.Platform SmartAo.Security

inductive SignatureAccessError where
  | permission (code : String)
  | command (error : CommandError)

/-- A signature command before its context is known. -/
inductive SubmittedSignature where
  | request (command : RequestSubmissionSignatureCommand)
  | record (command : RecordSubmissionSignatureCommand)

def SubmittedSignature.signatureId : SubmittedSignature → Uuid
  | request command => command.signatureId
  | record command => command.signatureId

def SubmittedSignature.provider : SubmittedSignature → String
  | request command => command.provider
  | record command => command.provider

def submissionSignatureRead : String := "submission.signature.read"

def submissionSignatureWrite : String := "submission.signature.write"

def signatureResource (actor : ActorContext) (signatureId : Uuid) : AuthorizationResource where
  resourceType := "SUBMISSION_SIGNATURE"
  resourceId := signatureId
  tenantId := actor.tenantId
  classification := .securityRestricted

/-- What `SubmissionSignatureService.execute` asks of the policy. -/
def writeRequest (actor : ActorContext) (signatureId : Uuid) (now : Timestamp) : AuthorizationRequest where
  action := submissionSignatureWrite
  resource := signatureResource actor signatureId
  evaluatedAt := some now
  mfaRequired := true

/-- What `SubmissionSignatureReadService.read` asks of the policy. -/
def readRequest (actor : ActorContext) (signatureId : Uuid) (now : Timestamp) : AuthorizationRequest where
  action := submissionSignatureRead
  resource := signatureResource actor signatureId
  evaluatedAt := some now

def isActivePatron (actor : ActorContext) : Bool :=
  actor.actorKind = .patronAdmin ∧ actor.membershipIsActive = true

def patronContext (actor : ActorContext) (now : Timestamp) : CommandContext where
  tenantId := actor.tenantId
  actorId := actor.actorId
  actorKind := actor.actorKind
  receivedAt := now
  membershipId := some actor.membershipId
  caseId := none

/-- The dispatcher runs the handler in a transaction of its own. -/
def dispatchSignature (appendOnly : Bool) (store : SignatureStore) (command : SubmittedSignature)
    (context : CommandContext) : Except SignatureAccessError SignatureStore :=
  match command with
  | .request command => (finishSignature appendOnly ⟨.request command context, []⟩ store).mapError .command
  | .record command => (finishSignature appendOnly ⟨.record command context, []⟩ store).mapError .command

/-- `SubmissionSignatureService.execute`, for the configured provider. -/
def executeSignature (appendOnly : Bool) (provider : String) (store : SignatureStore) (actor : ActorContext)
    (command : SubmittedSignature) (now : Timestamp) : Except SignatureAccessError SignatureStore := do
  raiseIf (isActivePatron actor = false) (.permission "PATRON_REQUIRED")
  raiseIf (command.provider ≠ provider) (.command (.execution "INVALID_PROVIDER"))
  let decision := authorize actor (writeRequest actor command.signatureId now)
  raiseIf (decision.allowed = false) (.permission decision.code)
  dispatchSignature appendOnly store command (patronContext actor now)

structure SubmissionSignatureProjection where
  signatureId : Uuid
  submissionPackageId : Uuid
  caseId : Uuid
  provider : String
  status : SignatureStatus
  expectedPackageVersion : Nat
  revision : Nat

def signatureProjection (record : SubmissionSignatureRecord) : SubmissionSignatureProjection where
  signatureId := record.id
  submissionPackageId := record.submissionPackageId
  caseId := record.caseId
  provider := record.provider
  status := record.status
  expectedPackageVersion := record.expectedPackageVersion
  revision := if record.status = .requested then 1 else 2

/-- `SubmissionSignatureReadService.read`. -/
def readSignature (store : SignatureStore) (actor : ActorContext) (signatureId : Uuid) (now : Timestamp) :
    Except SignatureAccessError SubmissionSignatureProjection := do
  raiseIf (isActivePatron actor = false) (.permission "PATRON_REQUIRED")
  let decision := authorize actor (readRequest actor signatureId now)
  raiseIf (decision.allowed = false) (.permission decision.code)
  let record ← orRaise (store.signature actor.tenantId signatureId) (.command (.execution "NOT_FOUND_OR_FORBIDDEN"))
  return signatureProjection record

/-- An active patron of the tenant who holds the signature capabilities and a recent verification. -/
structure AuthorisedPatron (actor : ActorContext) (now : Timestamp) : Prop where
  patron : actor.actorKind = .patronAdmin
  active : actor.membershipState = .active
  read : submissionSignatureRead ∈ actor.capabilities
  write : submissionSignatureWrite ∈ actor.capabilities
  verified : actor.hasRecentMfa now = true

/-- The commands request and record one signature of a package at its current version. -/
structure NamesPackage (provider : String) (store : SignatureStore) (actor : ActorContext)
    (request : RequestSubmissionSignatureCommand) (record : RecordSubmissionSignatureCommand) : Prop where
  package : ∃ package ∈ store.packages, package.tenantId = actor.tenantId ∧ package.id = request.submissionPackageId ∧
    package.version = request.expectedPackageVersion
  fresh : ∀ signature ∈ store.signatures, signature.id ≠ request.signatureId ∧ signature.commandId ≠ request.commandId
  signature : record.signatureId = request.signatureId ∧ record.submissionPackageId = request.submissionPackageId
  provider : request.provider = provider ∧ record.provider = provider

/-- The policy grants what the services ask, and the workflow goes through. -/
structure WorkflowReachable (appendOnly : Bool) (provider : String) (store : SignatureStore) (actor : ActorContext)
    (request : RequestSubmissionSignatureCommand) (record : RecordSubmissionSignatureCommand) (now : Timestamp) :
    Prop where
  write : (authorize actor (writeRequest actor request.signatureId now)).allowed = true
  read : (authorize actor (readRequest actor request.signatureId now)).allowed = true
  succeeds : ∃ requested recorded projection,
    executeSignature appendOnly provider store actor (.request request) now = .ok requested ∧
    executeSignature appendOnly provider requested actor (.record record) now = .ok recorded ∧
    readSignature recorded actor request.signatureId now = .ok projection

theorem write_denied (actor : ActorContext) (signatureId : Uuid) (now : Timestamp) :
    (authorize actor (writeRequest actor signatureId now)).allowed = false :=
  restricted_denied actor (by rfl)

theorem read_denied (actor : ActorContext) (signatureId : Uuid) (now : Timestamp) :
    (authorize actor (readRequest actor signatureId now)).allowed = false :=
  restricted_denied actor (by rfl)

theorem executeSignature_refused (appendOnly : Bool) (provider : String) (store after : SignatureStore)
    (actor : ActorContext) (command : SubmittedSignature) (now : Timestamp) :
    executeSignature appendOnly provider store actor command now ≠ .ok after := by
  intro accepted
  simp only [executeSignature, bind_ok, raiseIf_ok, exists_unit] at accepted
  exact accepted.2.2.1 (write_denied actor command.signatureId now)

theorem readSignature_refused (store : SignatureStore) (actor : ActorContext) (signatureId : Uuid) (now : Timestamp)
    (projection : SubmissionSignatureProjection) :
    readSignature store actor signatureId now ≠ .ok projection := by
  intro accepted
  simp only [readSignature, bind_ok, raiseIf_ok, exists_unit] at accepted
  exact accepted.2.1 (read_denied actor signatureId now)

/-- A patron whom every other check of the services lets through is denied by the policy's own rule. -/
theorem AuthorisedPatron.denied {actor : ActorContext} {now : Timestamp} (authorised : AuthorisedPatron actor now)
    (appendOnly : Bool) (store : SignatureStore) (command : SubmittedSignature) :
    executeSignature appendOnly command.provider store actor command now =
      .error (.permission "AUTHORIZATION_DENIED") := by
  have active : actor.membershipIsActive = true := by simp [ActorContext.membershipIsActive, authorised.active]
  have patron : isActivePatron actor = true := by simp [isActivePatron, authorised.patron, active]
  have checks : authorizationChecks actor (writeRequest actor command.signatureId now) =
      .error (.denied "restricted classification requires a dedicated flow") := by
    have capable := authorised.write
    simp [authorizationChecks, writeRequest, signatureResource, active, capable, raiseIf, restricted, Bind.bind,
      Except.bind]
  simp [executeSignature, patron, authorize, checks, Denial.decision, raiseIf, Bind.bind, Except.bind]

/-- The policy denies the classification of a signature to every actor: no signature is requested, recorded
    or read. -/
theorem signature_unreachable (appendOnly : Bool) (provider : String) (actor : ActorContext) (now : Timestamp) :
    (∀ signatureId, (authorize actor (writeRequest actor signatureId now)).allowed = false ∧
        (authorize actor (readRequest actor signatureId now)).allowed = false) ∧
      (∀ store command after, executeSignature appendOnly provider store actor command now ≠ .ok after) ∧
      (∀ store signatureId projection, readSignature store actor signatureId now ≠ .ok projection) ∧
      ∀ store request record, ¬ WorkflowReachable appendOnly provider store actor request record now := by
  refine ⟨fun signatureId => ?_, fun store command after => ?_, fun store signatureId projection => ?_, ?_⟩
  · exact ⟨write_denied actor signatureId now, read_denied actor signatureId now⟩
  · exact executeSignature_refused appendOnly provider store after actor command now
  · exact readSignature_refused store actor signatureId now projection
  · intro store request record reachable
    have granted := reachable.write
    rw [write_denied] at granted
    exact Bool.noConfusion granted

def exampleSigningPatron : ActorContext where
  actorId := 1
  identityId := 2
  tenantId := 3
  membershipId := 4
  actorKind := .patronAdmin
  membershipState := .active
  capabilities := [submissionSignatureRead, submissionSignatureWrite]
  assignedCaseIds := []
  sessionId := some 5
  authenticatedAt := 0
  mfaVerifiedAt := some 60000000
  correlationId := 6
  assignmentScopes := []

def exampleSigningStore : SignatureStore where
  packages := .singleton ⟨7, 3, 8, 1⟩
  signatures := .empty
  events := []

def exampleSignatureRequest : RequestSubmissionSignatureCommand where
  commandId := 10
  idempotencyKey := 11
  correlationId := none
  signatureId := 9
  submissionPackageId := 7
  expectedPackageVersion := 1
  signerMembershipId := 4
  provider := "PROVIDER"

def exampleSignatureRecord : RecordSubmissionSignatureCommand where
  commandId := 12
  idempotencyKey := 13
  correlationId := none
  signatureId := 9
  submissionPackageId := 7
  provider := "PROVIDER"
  providerReferenceHash := String.ofList (List.replicate 64 'a')
  signatureSha256 := String.ofList (List.replicate 64 'b')
  outcome := .signed

/-- A patron verified one minute ago asks for the signature of a package. -/
theorem authorised_patron_unreachable :
    AuthorisedPatron exampleSigningPatron 120000000 ∧
      NamesPackage "PROVIDER" exampleSigningStore exampleSigningPatron exampleSignatureRequest
        exampleSignatureRecord ∧
      ¬ WorkflowReachable false "PROVIDER" exampleSigningStore exampleSigningPatron exampleSignatureRequest
        exampleSignatureRecord 120000000 := by
  refine ⟨⟨rfl, rfl, by decide, by decide, by decide⟩, ⟨⟨⟨7, 3, 8, 1⟩, ?_, rfl, rfl, rfl⟩, ?_, ⟨rfl, rfl⟩, rfl, rfl⟩, ?_⟩
  · exact List.mem_singleton.mpr rfl
  · intro signature member
    exact absurd member (by simp [exampleSigningStore])
  · intro reachable
    have granted := reachable.write
    rw [write_denied] at granted
    exact Bool.noConfusion granted

end SmartAo.Submission
