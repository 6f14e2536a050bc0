import SmartAo.Security.Authorization
import SmartAo.SubmissionPackage.Prepare

namespace SmartAo.SubmissionPackage

open SmartAo.Foundation SmartAo.Platform SmartAo.Preparation SmartAo.Submission SmartAo.Security

inductive ExportError where
  | permission (code : String)
  | runtime (message : String)
  | command (error : CommandError)
  | storage

/-- What a storage returns for a key at export time. -/
abbrev StorageRead := String → Option (List UInt8)

/-- An archive: the files it was made of, in order, and its bytes. -/
structure ExportArchive where
  files : List (String × List UInt8)
  bytes : List UInt8

def submissionAuthorize : String := "submission.authorize"

/-- What `SubmissionPackageService.export` asks of the policy. -/
def exportRequest (actor : ActorContext) (submissionPackageId : Uuid) (now : Timestamp) : AuthorizationRequest where
  action := submissionAuthorize
  resource := {
    resourceType := "SUBMISSION_PACKAGE", resourceId := submissionPackageId, tenantId := actor.tenantId
    classification := .financialPrivate }
  evaluatedAt := some now

def SubmissionStore.package (store : SubmissionStore) (tenantId submissionPackageId : Uuid) :
    Option SubmissionPackageRecord :=
  store.packages.find? fun row => row.tenantId = tenantId ∧ row.id = submissionPackageId

def SubmissionStore.technicalDocument (store : SubmissionStore) (tenantId documentId : Uuid) :
    Option GeneratedTechnicalDocumentRecord :=
  store.preparation.documents.find? fun row => row.tenantId = tenantId ∧ row.id = documentId

/-- One export: the actor, the package, and the ids that are drawn. -/
structure ExportCall where
  actor : ActorContext
  submissionPackageId : Uuid
  now : Timestamp
  eventId : Uuid
  messageId : Uuid
  emailId : Uuid

def exportedTopic : String := "submission.package.exported"

def submissionExportEmailTopic : String := "submission.package.exported.smtp"

/-- The rows and the bytes an export is made of. -/
structure ExportContent where
  record : SubmissionPackageRecord
  document : GeneratedTechnicalDocumentRecord
  technicalBytes : List UInt8

def archiveFiles (content : ExportContent) : List (String × List UInt8) :=
  [("manifest.json", content.record.manifest.bytes), ("technical-response.md", content.technicalBytes)]

def exportPayload (submissionPackageId : Uuid) (manifestSha256 archiveSha256 : String) : List (String × Json) :=
  [("submission_package_id", .str submissionPackageId.str), ("manifest_sha256", .str manifestSha256),
    ("archive_sha256", .str archiveSha256), ("delivery", .str "DOWNLOAD")]

def emailPayload (submissionPackageId : Uuid) : List (String × Json) :=
  [("submission_package_id", .str submissionPackageId.str), ("delivery", .str "EXPORT_READY")]

namespace ExportCall

def eventRecord (call : ExportCall) (record : SubmissionPackageRecord) (archiveSha256 : String) :
    DirectEventRecord where
  id := call.eventId
  tenantId := call.actor.tenantId
  aggregateType := "SubmissionPackage"
  aggregateId := call.submissionPackageId
  aggregateRevision := record.version
  eventType := "SubmissionPackageExported"
  payload := exportPayload call.submissionPackageId record.manifestSha256 archiveSha256
  actorId := call.actor.actorId
  commandId := none
  correlationId := some call.actor.correlationId
  occurredAt := call.now

def outboxMessage (call : ExportCall) (record : SubmissionPackageRecord) (archiveSha256 : String) :
    OutboxMessageRecord :=
  pendingMessage call.messageId call.actor.tenantId call.eventId exportedTopic
    (exportPayload call.submissionPackageId record.manifestSha256 archiveSha256)
    ("submission-export:" ++ call.eventId.str)

def emailMessage (call : ExportCall) : OutboxMessageRecord :=
  pendingMessage call.emailId call.actor.tenantId call.eventId submissionExportEmailTopic
    (emailPayload call.submissionPackageId) ("submission-export-email:" ++ call.eventId.str)

end ExportCall

section Export

variable (reader : Option SubmissionDecisionGateReader) (zip : List (String × List UInt8) → List UInt8)
  (storage : Option StorageRead) (store : SubmissionStore) (call : ExportCall)

/-- The checks and reads of `SubmissionPackageService.export`. -/
def exportContent : Except ExportError ExportContent := do
  raiseIf (call.actor.actorKind ≠ .patronAdmin) (.permission "SUBMISSION_PATRON_REQUIRED")
  let read ← orRaise storage (.runtime "SUBMISSION_EXPORT_STORAGE_NOT_CONFIGURED")
  let decision := authorize call.actor (exportRequest call.actor call.submissionPackageId call.now)
  raiseIf (decision.allowed = false) (.permission decision.code)
  let record ← orRaise (store.package call.actor.tenantId call.submissionPackageId)
    (.permission "NOT_FOUND_OR_FORBIDDEN")
  raiseIf (hexdigestBytes record.manifest.bytes ≠ record.manifestSha256)
    (.command (.execution "SUBMISSION_MANIFEST_INTEGRITY_FAILED"))
  let document ← orRaise (store.technicalDocument call.actor.tenantId record.technicalDocumentId)
    (.command (.execution "TECHNICAL_DOCUMENT_REQUIRED"))
  (assertDecisionGate reader store.decision call.actor.tenantId record.caseId).mapError .command
  let technicalBytes ← orRaise (read document.storageKey) .storage
  return { record, document, technicalBytes }

/-- The second transaction: the event and its two outbox rows. -/
def announceExport (record : SubmissionPackageRecord) (archiveSha256 : String) : Transaction SubmissionStore := do
  let events ← flush (store.events.insert? (call.eventRecord record archiveSha256))
  let announced ← flush (store.outbox.insert? (call.outboxMessage record archiveSha256))
  let outbox ← flush (announced.insert? call.emailMessage)
  return { store with events, outbox }

/-- `SubmissionPackageService.export`. -/
def exportPackage : Except ExportError (SubmissionStore × ExportArchive) := do
  let content ← exportContent reader storage store call
  let archive : ExportArchive := ⟨archiveFiles content, zip (archiveFiles content)⟩
  let next ← (announceExport store call content.record (hexdigestBytes archive.bytes)).mapError .command
  return (next, archive)

end Export

end SmartAo.SubmissionPackage
