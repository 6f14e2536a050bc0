import SmartAo.Dce.Staging
import SmartAo.SubmissionPackage.Export
import SmartAo.Worker.Kinds

namespace SmartAo.Worker

open SmartAo.Foundation SmartAo.Platform SmartAo.Dce SmartAo.SubmissionPackage

/-- `_safe_package_id` of the e-mail worker. -/
def safePackageId (payload : Json) : Option Uuid := do
  let fields ← fieldsOf payload
  guard (hasExactly fields ["submission_package_id", "delivery"])
  let delivery ← (fields.lookup "delivery").bind textOf
  guard (delivery == "EXPORT_READY")
  (fields.lookup "submission_package_id").bind uuidOf

/-- `str(value)`, where it can be the text of an identifier. -/
def valueChars : Json → Option (List Char)
  | .str text => some text.toList
  | .int value => some value.repr.toList
  | _ => none

/-- `_uuid_payload` of the retention worker. -/
def uuidPayload (payload : Json) (key : String) : Option Uuid := do
  let fields ← fieldsOf payload
  let value ← fields.lookup key
  let text ← valueChars value
  Uuid.ofText? text

/-- The staged object and the tenant that a retention message names. -/
def retentionTarget (payload : Json) : Option (Uuid × Uuid) := do
  let fields ← fieldsOf payload
  let data := (fields.lookup "data").getD (.obj [])
  let storageObjectId ← uuidPayload data "storage_object_id"
  let tenantId ← uuidPayload data "tenant_id"
  return (storageObjectId, tenantId)

/-- Sends export-ready e-mails; the notifier and the recipient may be missing. -/
structure SubmissionExportSmtpWorker where
  notifier : Bool
  recipient : Option String
  batchSize : Nat
  leaseSeconds : Int
  maxAttempts : Nat
  attempts : 1 ≤ maxAttempts ∧ maxAttempts ≤ maxOutboxAttemptsLimit

def SubmissionExportSmtpWorker.leaseWorker (worker : SubmissionExportSmtpWorker) : LeaseWorker where
  topics := [submissionExportEmailTopic]
  batchSize := worker.batchSize
  leaseSeconds := worker.leaseSeconds
  maxAttempts := worker.maxAttempts
  process message :=
    if (safePackageId message.payload).isNone then .settle (.retry "INVALID_EXPORT_EMAIL_PAYLOAD")
    else if worker.notifier = false ∨ worker.recipient = none then .settle (.markNotConfigured "SMTP_NOT_CONFIGURED")
    else .deliver
  errorCode
    | .returned _ => none
    | .raised => some "SMTP_NOTIFICATION_DELIVERY_FAILED"

structure DceRetentionWorker where
  batchSize : Nat
  leaseSeconds : Int
  maxAttempts : Nat
  attempts : 1 ≤ maxAttempts ∧ maxAttempts ≤ maxOutboxAttemptsLimit

/-- The bytes of a rejected or expired object are deleted; `stagedObject` is the state the worker reads. -/
def DceRetentionWorker.leaseWorker (worker : DceRetentionWorker)
    (stagedObject : Uuid → Uuid → Option StagedObjectState) : LeaseWorker where
  topics := [retentionTopic]
  batchSize := worker.batchSize
  leaseSeconds := worker.leaseSeconds
  maxAttempts := worker.maxAttempts
  process message :=
    match retentionTarget message.payload with
    | none => .settle (.retry "INVALID_RETENTION_PAYLOAD")
    | some (storageObjectId, tenantId) =>
      if (stagedObject tenantId storageObjectId).any fun state => state = .rejected ∨ state = .expired then .deliver
      else .settle .publish
  errorCode
    | .returned _ => none
    | .raised => some "PRIVATE_DELETE_FAILED"

/-- A worker of one of the topics that leave the application. -/
inductive DeliveryWorker where
  | webhook (worker : SubmissionExportWebhookWorker)
  | smtp (worker : SubmissionExportSmtpWorker)
  | retention (worker : DceRetentionWorker) (stagedObject : Uuid → Uuid → Option StagedObjectState)
  | eventBus (worker : OpportunityEventBusWorker)

def DeliveryWorker.leaseWorker : DeliveryWorker → LeaseWorker
  | .webhook worker => worker.leaseWorker
  | .smtp worker => worker.leaseWorker
  | .retention worker stagedObject => worker.leaseWorker stagedObject
  | .eventBus worker => worker.leaseWorker

/-- What these workers record for a message they cannot decode. -/
def malformedCodes : List String :=
  ["INVALID_EXPORT_PAYLOAD", "INVALID_EXPORT_EMAIL_PAYLOAD", "INVALID_RETENTION_PAYLOAD", "INVALID_BOAMP_EVENT_PAYLOAD"]

/-- The identifiers and hashes of a delivery message, as its worker decodes them. -/
inductive Notice where
  | webhook (submissionPackageId archiveSha256 : String)
  | email (submissionPackageId : Uuid)
  | retention (storageObjectId tenantId : Uuid)
  | ingestion (ingestionRunId : String) (observationCount : Int) (requestHash : String)
  | qualification (qualificationId observationId decision reasonCode : String)
deriving DecidableEq

def Notice.topic : Notice → String
  | webhook .. => exportTopic
  | email _ => submissionExportEmailTopic
  | retention .. => retentionTopic
  | ingestion .. => boampIngestionTopic
  | qualification .. => boampQualificationTopic

def deliveryTopics : List String :=
  [exportTopic, submissionExportEmailTopic, retentionTopic, boampIngestionTopic, boampQualificationTopic]

def textField (fields : List (String × Json)) (key : String) : Option String := (fields.lookup key).bind textOf

def webhookNotice (payload : Json) : Option Notice := do
  let data ← safeExportPayload payload
  return .webhook (← textField data "submission_package_id") (← textField data "archive_sha256")

def ingestionNotice (payload : Json) : Option Notice := do
  let fields ← safeBoampPayload boampIngestionTopic payload
  return .ingestion (← textField fields "ingestion_run_id") (← (fields.lookup "observation_count").bind intOf)
    (← textField fields "request_hash")

def qualificationNotice (payload : Json) : Option Notice := do
  let fields ← safeBoampPayload boampQualificationTopic payload
  return .qualification (← textField fields "qualification_id") (← textField fields "observation_id")
    (← textField fields "decision") (← textField fields "reason_code")

/-- What the worker of a topic decodes. -/
def decodeNotice (topic : String) (payload : Json) : Option Notice :=
  if topic = exportTopic then webhookNotice payload
  else if topic = submissionExportEmailTopic then (safePackageId payload).map .email
  else if topic = retentionTopic then (retentionTarget payload).map fun target => .retention target.1 target.2
  else if topic = boampIngestionTopic then ingestionNotice payload
  else if topic = boampQualificationTopic then qualificationNotice payload
  else none

end SmartAo.Worker
