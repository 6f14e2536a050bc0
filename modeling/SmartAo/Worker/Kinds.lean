import SmartAo.Platform.Uuid
import SmartAo.Worker.Outbox

namespace SmartAo.Worker

open SmartAo.Foundation SmartAo.Platform

/-- `set(payload) == expected`, of the keys of an object. -/
def hasExactly (fields : List (String × Json)) (expected : List String) : Bool :=
  fields.all (fun field => expected.contains field.1) &&
    expected.all fun key => fields.any fun field => field.1 == key

def fieldsOf : Json → Option (List (String × Json))
  | .obj fields => some fields
  | _ => none

def textOf : Json → Option String
  | .str text => some text
  | _ => none

/-- `isinstance(value, int)`, which the two truth values are too. -/
def intOf : Json → Option Int
  | .int value => some value
  | .bool value => some (if value then 1 else 0)
  | _ => none

/-- `_uuid`. -/
def uuidOf (value : Json) : Option Uuid := (textOf value).bind fun text => Uuid.ofText? text.toList

def cockpitProjectionTopic : String := "cockpit_projection"

def allowedEventTypes : List String := ["DCE_STAGING_QUARANTINE_RECORDED", "DCE_STAGING_SCAN_RECORDED"]

def allowedDataFields : List String := ["storage_object_id", "tenant_id", "consultation_id", "state"]

def allowedStates : List String := ["PENDING_SCAN", "SCANNED", "REJECTED"]

structure SafeCockpitEvent where
  eventId : Uuid
  eventType : String
  aggregateType : String
  aggregateId : Uuid
  aggregateRevision : Int
  payload : List (String × Json)

/-- `_safe_event` of the cockpit worker. -/
def safeEvent (payload : Json) (tenantId : Uuid) : Option SafeCockpitEvent := do
  let fields ← fieldsOf payload
  guard (hasExactly fields
    ["event_id", "event_type", "aggregate_type", "aggregate_id", "aggregate_revision", "data"])
  let eventId ← (fields.lookup "event_id").bind uuidOf
  let aggregateId ← (fields.lookup "aggregate_id").bind uuidOf
  let eventType ← (fields.lookup "event_type").bind textOf
  guard (allowedEventTypes.contains eventType)
  let aggregateType ← (fields.lookup "aggregate_type").bind textOf
  let revision ← (fields.lookup "aggregate_revision").bind intOf
  guard (aggregateType == "DCE_STAGED_OBJECT" && 0 ≤ revision)
  let data ← (fields.lookup "data").bind fieldsOf
  guard (hasExactly data allowedDataFields)
  guard ((data.lookup "tenant_id").bind textOf == some tenantId.str)
  guard (["storage_object_id", "consultation_id"].all fun field => ((data.lookup field).bind uuidOf).isSome)
  let state ← (data.lookup "state").bind textOf
  guard (allowedStates.contains state)
  return { eventId, eventType, aggregateType, aggregateId, aggregateRevision := revision, payload := data }

def boampIngestionTopic : String := "opportunity.boamp.ingestion.recorded"

def boampQualificationTopic : String := "opportunity.boamp.qualification.recorded"

def boampTopics : List String := [boampIngestionTopic, boampQualificationTopic]

/-- `_safe_payload` of the event bus worker. -/
def safeBoampPayload (topic : String) (payload : Json) : Option (List (String × Json)) := do
  let fields ← fieldsOf payload
  if topic == boampIngestionTopic then
    guard (hasExactly fields ["ingestion_run_id", "observation_count", "request_hash"])
    let _ ← (fields.lookup "ingestion_run_id").bind textOf
    let _ ← (fields.lookup "observation_count").bind intOf
    let requestHash ← (fields.lookup "request_hash").bind textOf
    guard (requestHash.length == 64)
    return fields
  else if topic == boampQualificationTopic then
    guard (hasExactly fields ["qualification_id", "observation_id", "decision", "reason_code"])
    guard (fields.all fun field => (textOf field.2).isSome)
    let decision ← (fields.lookup "decision").bind textOf
    guard (["QUALIFIED", "REJECTED", "SNOOZED"].contains decision)
    return fields
  else none

def exportTopic : String := "submission.package.exported"

def exportFields : List String := ["submission_package_id", "archive_sha256", "delivery"]

/-- `_safe_payload` of the export worker keeps three fields. -/
def safeExportPayload (payload : Json) : Option (List (String × Json)) := do
  let fields ← fieldsOf payload
  let data := fields.filter fun field => exportFields.contains field.1
  guard (hasExactly data exportFields)
  let delivery ← (data.lookup "delivery").bind textOf
  guard (delivery == "DOWNLOAD")
  let _ ← (data.lookup "submission_package_id").bind textOf
  let archive ← (data.lookup "archive_sha256").bind textOf
  guard (archive.length == 64)
  return data

/-- Delivers the closed cockpit event contract; its projection may be missing. -/
structure CockpitProjectionWorker where
  projection : Bool
  batchSize : Nat
  leaseSeconds : Nat
  maxAttempts : Nat
  batch : 1 ≤ batchSize ∧ batchSize ≤ 200
  lease : 1 ≤ leaseSeconds ∧ leaseSeconds ≤ 3600
  attempts : 1 ≤ maxAttempts ∧ maxAttempts ≤ maxOutboxAttemptsLimit

def CockpitProjectionWorker.leaseWorker (worker : CockpitProjectionWorker) : LeaseWorker where
  topics := [cockpitProjectionTopic]
  batchSize := worker.batchSize
  leaseSeconds := worker.leaseSeconds
  maxAttempts := worker.maxAttempts
  process message :=
    if (safeEvent message.payload message.tenantId).isNone then .settle (.fail "INVALID_COCKPIT_EVENT_PAYLOAD")
    else if worker.projection then .deliver
    else .settle (.notConfigured "COCKPIT_PROJECTION_NOT_CONFIGURED")
  errorCode
    | .returned _ => none
    | .raised => some "COCKPIT_PROJECTION_DELIVERY_FAILED"

/-- Publishes notifications to an external bus, which may be missing. -/
structure OpportunityEventBusWorker where
  bus : Bool
  batchSize : Nat
  leaseSeconds : Nat
  maxAttempts : Nat
  batch : 1 ≤ batchSize ∧ batchSize ≤ 200
  lease : 1 ≤ leaseSeconds ∧ leaseSeconds ≤ 3600
  attempts : 1 ≤ maxAttempts ∧ maxAttempts ≤ maxOutboxAttemptsLimit

def OpportunityEventBusWorker.leaseWorker (worker : OpportunityEventBusWorker) : LeaseWorker where
  topics := boampTopics
  batchSize := worker.batchSize
  leaseSeconds := worker.leaseSeconds
  maxAttempts := worker.maxAttempts
  process message :=
    if (safeBoampPayload message.topic message.payload).isNone then .settle (.retry "INVALID_BOAMP_EVENT_PAYLOAD")
    else if worker.bus then .deliver
    else .skip
  errorCode
    | .returned _ => none
    | .raised => some "EXTERNAL_EVENT_BUS_DELIVERY_FAILED"

/-- Posts export notifications to a webhook, whose address and secret may be missing. -/
structure SubmissionExportWebhookWorker where
  webhookUrl : Option String
  webhookSecret : Option String
  batchSize : Nat
  leaseSeconds : Int
  maxAttempts : Nat
  attempts : 1 ≤ maxAttempts ∧ maxAttempts ≤ maxOutboxAttemptsLimit

def SubmissionExportWebhookWorker.leaseWorker (worker : SubmissionExportWebhookWorker) : LeaseWorker where
  topics := [exportTopic]
  batchSize := worker.batchSize
  leaseSeconds := worker.leaseSeconds
  maxAttempts := worker.maxAttempts
  process message :=
    if (safeExportPayload message.payload).isNone then .settle (.retry "INVALID_EXPORT_PAYLOAD")
    else if worker.webhookUrl.isNone then .settle (.markNotConfigured "WEBHOOK_NOT_CONFIGURED")
    else if (worker.webhookSecret.getD "").isEmpty then .settle (.retry "EXPORT_WEBHOOK_CONFIGURATION_INVALID")
    else .deliver
  errorCode
    | .returned status =>
      if status < 200 ∨ 300 ≤ status then some ("EXPORT_WEBHOOK_HTTP_" ++ toString status) else none
    | .raised => some "EXPORT_WEBHOOK_DELIVERY_FAILED"

/-- A worker of one of the three kinds. -/
inductive OutboxWorker where
  | cockpit (worker : CockpitProjectionWorker)
  | eventBus (worker : OpportunityEventBusWorker)
  | webhook (worker : SubmissionExportWebhookWorker)

def OutboxWorker.leaseWorker : OutboxWorker → LeaseWorker
  | .cockpit worker => worker.leaseWorker
  | .eventBus worker => worker.leaseWorker
  | .webhook worker => worker.leaseWorker

end SmartAo.Worker
