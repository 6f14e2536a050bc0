import SmartAo.Opportunity.Observations

namespace SmartAo.Opportunity

open SmartAo.Foundation SmartAo.Platform

inductive QualificationDecision where
  | qualified
  | rejected
  | snoozed
deriving DecidableEq

def QualificationDecision.value : QualificationDecision → String
  | qualified => "QUALIFIED"
  | rejected => "REJECTED"
  | snoozed => "SNOOZED"

inductive QualificationReason where
  | relevantPublicSignal
  | notRelevant
  | insufficientPublicData
  | expired
deriving DecidableEq

def QualificationReason.value : QualificationReason → String
  | relevantPublicSignal => "RELEVANT_PUBLIC_SIGNAL"
  | notRelevant => "NOT_RELEVANT"
  | insufficientPublicData => "INSUFFICIENT_PUBLIC_DATA"
  | expired => "EXPIRED"

structure BoampOpportunityQualificationRecord where
  id : Uuid
  tenantId : Uuid
  observationId : Uuid
  actorId : Uuid
  decision : QualificationDecision
  reasonCode : QualificationReason
  scoreSnapshot : Nat
  scoreVersion : String
  commandId : Uuid
  idempotencyKey : Uuid
  correlationId : Option Uuid

instance : Schema BoampOpportunityQualificationRecord := .ownedKeys fun row =>
  (row.id, row.tenantId, row.commandId, row.idempotencyKey)

structure BoampQualificationCommand extends ApplicationCommand where
  observationId : Uuid
  decision : QualificationDecision
  reasonCode : QualificationReason

structure QualificationPersistenceResult where
  qualificationId : Uuid
  eventId : Uuid
  replayed : Bool

/-- The reasons that go with a decision. -/
def QualificationDecision.allows : QualificationDecision → QualificationReason → Bool
  | qualified, .relevantPublicSignal => true
  | rejected, .notRelevant | rejected, .expired => true
  | snoozed, .insufficientPublicData => true
  | _, _ => false

/-- The tables of the patron's qualifications; `patrons` are the active administrators, by tenant and identity. -/
structure QualificationStore where
  observations : Table BoampOpportunityObservationRecord
  qualifications : Table BoampOpportunityQualificationRecord
  events : Table DirectEventRecord
  outbox : Table OutboxMessageRecord
  patrons : List (Uuid × Uuid)

def QualificationStore.observation (store : QualificationStore) (tenantId observationId : Uuid) :
    Option BoampOpportunityObservationRecord :=
  store.observations.find? fun row => row.tenantId = tenantId ∧ row.id = observationId

/-- One qualification: the actor, the command, and the ids that are drawn. -/
structure QualificationCall where
  context : CommandContext
  command : BoampQualificationCommand
  now : Timestamp
  eventId : Uuid
  messageId : Uuid

namespace QualificationCall

variable (call : QualificationCall) (observation : BoampOpportunityObservationRecord)

def qualificationId : Uuid :=
  uuid5 4 ("boamp-qualification:".toList ++ (call.context.tenantId.chars ++ ':' :: call.command.idempotencyKey.chars))

/-- A stored qualification that a call identifies itself with. -/
def names (row : BoampOpportunityQualificationRecord) : Bool :=
  row.tenantId = call.context.tenantId ∧ (row.id = call.qualificationId ∨ row.commandId = call.command.commandId ∨
    row.idempotencyKey = call.command.idempotencyKey)

def record : BoampOpportunityQualificationRecord where
  id := call.qualificationId
  tenantId := call.context.tenantId
  observationId := observation.id
  actorId := call.context.actorId
  decision := call.command.decision
  reasonCode := call.command.reasonCode
  scoreSnapshot := observation.score
  scoreVersion := observation.scoreVersion
  commandId := call.command.commandId
  idempotencyKey := call.command.idempotencyKey
  correlationId := call.command.correlationId

/-- The fields of the outbox message, which the event has too. -/
def payload : List (String × Json) :=
  [("qualification_id", .str call.qualificationId.str), ("observation_id", .str observation.id.str),
    ("decision", .str call.command.decision.value), ("reason_code", .str call.command.reasonCode.value)]

def eventRecord : DirectEventRecord where
  id := call.eventId
  tenantId := call.context.tenantId
  aggregateType := "BoampOpportunityQualification"
  aggregateId := call.qualificationId
  aggregateRevision := 0
  eventType := "BoampOpportunityQualified"
  payload := call.payload observation ++ [("score_snapshot", .int observation.score)]
  actorId := call.context.actorId
  commandId := some call.command.commandId
  correlationId := call.command.correlationId
  occurredAt := call.now

def outboxMessage : OutboxMessageRecord :=
  pendingMessage call.messageId call.context.tenantId call.eventId "opportunity.boamp.qualification.recorded"
    (call.payload observation)
    ("boamp-qualification:" ++ call.context.tenantId.str ++ ":" ++ call.qualificationId.str)

end QualificationCall

/-- The check constraints on a qualification. -/
def BoampOpportunityQualificationRecord.fits (row : BoampOpportunityQualificationRecord) : Bool :=
  row.scoreSnapshot ≤ 100 ∧ row.scoreVersion = scoringVersion

section Qualify

variable (store : QualificationStore) (call : QualificationCall)

def replayQualification (observation : BoampOpportunityObservationRecord)
    (record : BoampOpportunityQualificationRecord) : Transaction QualificationPersistenceResult := do
  raiseIf (record.id ≠ call.qualificationId ∨ record.observationId ≠ observation.id ∨
      record.decision ≠ call.command.decision ∨ record.reasonCode ≠ call.command.reasonCode)
    (.failed "qualification idempotency conflict")
  let event ← orRaise (store.events.find? fun row => row.tenantId = call.context.tenantId ∧
      row.aggregateId = record.id ∧ row.eventType = "BoampOpportunityQualified")
    (.failed "qualification replay has no audit event")
  return { qualificationId := record.id, eventId := event.id, replayed := true }

def recordQualification (observation : BoampOpportunityObservationRecord) :
    Transaction (QualificationStore × QualificationPersistenceResult) := do
  raiseIf (¬ (call.record observation).fits) .integrity
  let qualifications ← flush (store.qualifications.insert? (call.record observation))
  let events ← flush (store.events.insert? (call.eventRecord observation))
  let outbox ← flush (store.outbox.insert? (call.outboxMessage observation))
  return ({ store with qualifications, events, outbox },
    { qualificationId := call.qualificationId, eventId := call.eventId, replayed := false })

/-- `BoampQualificationRepository.persist_qualification`. -/
def persistQualification (observation : BoampOpportunityObservationRecord) :
    Transaction (QualificationStore × QualificationPersistenceResult) :=
  match store.qualifications.rows.filter call.names with
  | [] => recordQualification store call observation
  | record :: others => do
    raiseIf (others.any fun other => other.id ≠ record.id) (.failed "ambiguous qualification identity collision")
    let result ← replayQualification store call observation record
    return (store, result)

/-- `PatronBoampObservationService.qualify`. -/
def qualify : Transaction (QualificationStore × QualificationPersistenceResult) := do
  raiseIf (call.context.actorKind ≠ .patronAdmin) (.failed "BOAMP_QUALIFICATION_PATRON_REQUIRED")
  raiseIf (call.command.decision.allows call.command.reasonCode = false)
    (.failed "qualification decision and reason are incompatible")
  raiseIf ((call.context.tenantId, call.context.actorId) ∉ store.patrons) (.failed "BOAMP_QUALIFICATION_PATRON_REQUIRED")
  let observation ← orRaise (store.observation call.context.tenantId call.command.observationId)
    (.failed "NOT_FOUND_OR_FORBIDDEN")
  persistQualification store call observation

end Qualify

end SmartAo.Opportunity
