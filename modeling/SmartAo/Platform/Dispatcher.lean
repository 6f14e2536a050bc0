import SmartAo.Foundation.Digest
import SmartAo.Foundation.Transition
import SmartAo.Platform.Command

namespace SmartAo.Platform

open SmartAo.Foundation

/-- What the dispatcher reads of a command: its type, its identifiers, and its remaining fields in the
    order of their names. -/
structure Envelope extends ApplicationCommand where
  commandType : String
  payload : List (String × Json)

def Envelope.request (envelope : Envelope) : Json :=
  .obj [("command_type", .str envelope.commandType), ("payload", .obj envelope.payload)]

def canonicalRequestHash (envelope : Envelope) : String := hexdigest envelope.request.dumpsChars

inductive ReceiptStatus where
  | processing
  | succeeded
  | rejected
  | failedRetryable
  | expired
deriving DecidableEq

/-- The response a receipt keeps and a replay returns. -/
structure ResponseBody where
  status : ReceiptStatus
  commandId : Uuid
  idempotencyKey : Uuid
  resultCode : String
  aggregateRefs : List AggregateRef
  eventIds : List Uuid

structure DispatchResult extends ResponseBody where
  replayed : Bool

structure CommandReceiptRecord where
  id : Uuid
  tenantId : Uuid
  actorId : Uuid
  commandId : Uuid
  commandType : String
  idempotencyKey : Uuid
  requestHash : String
  correlationId : Option Uuid
  status : ReceiptStatus
  responseBody : Option ResponseBody

instance : Schema CommandReceiptRecord := .ownedKeys fun row =>
  (row.id, row.tenantId, (row.actorId, row.commandType, row.idempotencyKey), row.commandId)

structure DomainEventRecord where
  id : Uuid
  tenantId : Uuid
  aggregateType : String
  aggregateId : Uuid
  aggregateRevision : Nat
  eventType : String
  payloadVersion : Nat
  payload : List (String × Json)
  actorId : Uuid
  commandId : Uuid
  correlationId : Option Uuid
  causationId : Uuid

instance : Schema DomainEventRecord := .primary DomainEventRecord.id

inductive OutboxStatus where
  | pending
  | published
  | retry
  | failed
  | notConfigured
deriving DecidableEq

structure OutboxMessageRecord where
  id : Uuid
  tenantId : Uuid
  eventId : Uuid
  topic : String
  payloadVersion : Nat
  payload : List (String × Json)
  status : OutboxStatus
  attemptCount : Nat
  dedupeKey : String

instance : Schema OutboxMessageRecord := .keyed fun row => (row.id, row.eventId, row.topic)

/-- The dispatcher's tables beside the business state its handlers write. -/
structure Ledger (σ : Type) where
  receipts : Table CommandReceiptRecord
  events : Table DomainEventRecord
  outbox : Table OutboxMessageRecord
  business : σ

def Ledger.initial {σ : Type} (business : σ) : Ledger σ := ⟨.empty, .empty, .empty, business⟩

/-- What a dispatch raises to its caller. -/
inductive DispatchError where
  | unsupported (commandType : String)
  | idempotencyKeyReused
  | commandInProgress
  | collision
  | command (error : CommandError)
deriving DecidableEq

/-- A dispatch between its first query and its commit. -/
structure OpenDispatch where
  envelope : Envelope
  context : CommandContext
  receiptId : Uuid

abbrev DispatchKey := Uuid × Uuid × String × Uuid

def dispatchKey (envelope : Envelope) (context : CommandContext) : DispatchKey :=
  (context.tenantId, context.actorId, envelope.commandType, envelope.idempotencyKey)

def CommandReceiptRecord.key (receipt : CommandReceiptRecord) : DispatchKey :=
  (receipt.tenantId, receipt.actorId, receipt.commandType, receipt.idempotencyKey)

def OpenDispatch.key (dispatch : OpenDispatch) : DispatchKey := dispatchKey dispatch.envelope dispatch.context

def OpenDispatch.receipt (dispatch : OpenDispatch) : CommandReceiptRecord where
  id := dispatch.receiptId
  tenantId := dispatch.context.tenantId
  actorId := dispatch.context.actorId
  commandId := dispatch.envelope.commandId
  commandType := dispatch.envelope.commandType
  idempotencyKey := dispatch.envelope.idempotencyKey
  requestHash := canonicalRequestHash dispatch.envelope
  correlationId := dispatch.envelope.correlationId
  status := .processing
  responseBody := none

section Dispatch

variable {σ : Type}

def findReceipt (ledger : Ledger σ) (key : DispatchKey) : Option CommandReceiptRecord :=
  ledger.receipts.find? fun receipt => receipt.key = key

def resolveExistingReceipt (receipt : CommandReceiptRecord) (requestHash : String) :
    Except DispatchError DispatchResult := do
  raiseIf (receipt.requestHash ≠ requestHash) .idempotencyKeyReused
  raiseIf (receipt.status ≠ .succeeded) .commandInProgress
  let body ← orRaise receipt.responseBody (.command (.failed "response_body_json"))
  return { body with replayed := true }

def eventPayload (eventId : Uuid) (event : PendingDomainEvent) : List (String × Json) :=
  [("event_id", .str eventId.str), ("event_type", .str event.eventType),
    ("aggregate_type", .str event.aggregateType), ("aggregate_id", .str event.aggregateId.str),
    ("aggregate_revision", .int event.aggregateRevision), ("data", .obj event.payload)]

def eventRecord (dispatch : OpenDispatch) (eventId : Uuid) (event : PendingDomainEvent) : DomainEventRecord where
  id := eventId
  tenantId := dispatch.context.tenantId
  aggregateType := event.aggregateType
  aggregateId := event.aggregateId
  aggregateRevision := event.aggregateRevision
  eventType := event.eventType
  payloadVersion := event.payloadVersion
  payload := eventPayload eventId event
  actorId := dispatch.context.actorId
  commandId := dispatch.envelope.commandId
  correlationId := dispatch.envelope.correlationId
  causationId := dispatch.envelope.commandId

def outboxMessage (dispatch : OpenDispatch) (eventId messageId : Uuid) (event : PendingDomainEvent) :
    OutboxMessageRecord where
  id := messageId
  tenantId := dispatch.context.tenantId
  eventId := eventId
  topic := event.topic
  payloadVersion := event.payloadVersion
  payload := eventPayload eventId event
  status := .pending
  attemptCount := 0
  dedupeKey := event.topic ++ ":" ++ eventId.str

/-- The identifiers drawn for the events of a dispatch and for their messages. -/
structure Draws where
  event : Nat → Uuid
  message : Nat → Uuid

def response (dispatch : OpenDispatch) (outcome : HandlerOutcome) (draws : Draws) : ResponseBody where
  status := .succeeded
  commandId := dispatch.envelope.commandId
  idempotencyKey := dispatch.envelope.idempotencyKey
  resultCode := outcome.resultCode
  aggregateRefs := outcome.aggregateRefs
  eventIds := outcome.events.mapIdx fun index _ => draws.event index

def OpenDispatch.completed (dispatch : OpenDispatch) (body : ResponseBody) : CommandReceiptRecord :=
  { dispatch.receipt with status := .succeeded, responseBody := some body }

/-- The transaction from the handler's result on: its events, their messages and the terminal receipt
    commit with the business state, or nothing does. -/
def complete (ledger : Ledger σ) (dispatch : OpenDispatch) (draws : Draws)
    (result : Transaction (σ × HandlerOutcome)) : Transaction (Ledger σ × ResponseBody) := do
  let (business, outcome) ← result
  let events ← flush (ledger.events.insertAll? (outcome.events.mapIdx fun index event =>
    eventRecord dispatch (draws.event index) event))
  let outbox ← flush (ledger.outbox.insertAll? (outcome.events.mapIdx fun index event =>
    outboxMessage dispatch (draws.event index) (draws.message index) event))
  let body := response dispatch outcome draws
  let receipts ← flush (ledger.receipts.insert? (dispatch.completed body))
  return (⟨receipts, events, outbox, business⟩, body)

/-- A dispatch that no other one overlaps. -/
def dispatchAlone (supported : String → Bool) (ledger : Ledger σ) (envelope : Envelope)
    (context : CommandContext) (receiptId : Uuid) (draws : Draws)
    (execute : σ → Transaction (σ × HandlerOutcome)) : Except DispatchError (DispatchResult × Ledger σ) := do
  raiseIf (supported envelope.commandType = false) (.unsupported envelope.commandType)
  match findReceipt ledger (dispatchKey envelope context) with
  | some receipt =>
    let result ← resolveExistingReceipt receipt (canonicalRequestHash envelope)
    return (result, ledger)
  | none =>
    let dispatch : OpenDispatch := ⟨envelope, context, receiptId⟩
    let _ ← orRaise (ledger.receipts.insert? dispatch.receipt) .collision
    let (next, body) ← (complete ledger dispatch draws (execute ledger.business)).mapError .command
    return ({ body with replayed := false }, next)

/-- What a caller was told. -/
structure Reply where
  envelope : Envelope
  context : CommandContext
  answer : Except DispatchError DispatchResult

def Reply.key (reply : Reply) : DispatchKey := dispatchKey reply.envelope reply.context

/-- The committed tables, the dispatches that found no receipt, those whose own receipt is inserted but
    not committed, and the replies so far. -/
structure DispatchState (σ : Type) where
  ledger : Ledger σ
  looking : List OpenDispatch
  inserted : List OpenDispatch
  replies : List Reply

def DispatchState.initial (business : σ) : DispatchState σ := ⟨.initial business, [], [], []⟩

/-- A phase of a dispatch, a write outside the dispatcher, or a worker's update of a message. The result
    of a handler is arbitrary: whatever it read while it ran, its writes commit with the phase. -/
inductive DispatchInput (σ : Type) where
  | start (envelope : Envelope) (context : CommandContext) (receiptId : Uuid)
  | insertReceipt (index : Nat)
  | finish (index : Nat) (draws : Draws) (result : Transaction (σ × HandlerOutcome))
  | foreign (business : σ)
  | deliver (messageId : Uuid) (status : OutboxStatus)

inductive Refused where
  | noDispatch
  | blocked
deriving DecidableEq

def DispatchState.answer (state : DispatchState σ) (envelope : Envelope) (context : CommandContext)
    (answer : Except DispatchError DispatchResult) : DispatchState σ :=
  { state with replies := state.replies ++ [⟨envelope, context, answer⟩] }

def startDispatch (supported : String → Bool) (state : DispatchState σ) (envelope : Envelope)
    (context : CommandContext) (receiptId : Uuid) : DispatchState σ :=
  if supported envelope.commandType = false then
    state.answer envelope context (.error (.unsupported envelope.commandType))
  else match findReceipt state.ledger (dispatchKey envelope context) with
    | some receipt =>
      state.answer envelope context (resolveExistingReceipt receipt (canonicalRequestHash envelope))
    | none => { state with looking := state.looking ++ [⟨envelope, context, receiptId⟩] }

/-- An insertion waits for an uncommitted receipt it conflicts with; a committed one ends the dispatch. -/
def insertReceipt (state : DispatchState σ) (index : Nat) (dispatch : OpenDispatch) :
    Except Refused (DispatchState σ) := do
  raiseIf (∃ other ∈ state.inserted, Schema.Conflict other.receipt dispatch.receipt) .blocked
  let state := { state with looking := state.looking.eraseIdx index }
  match state.ledger.receipts.insert? dispatch.receipt, findReceipt state.ledger dispatch.key with
  | some _, _ => return { state with inserted := state.inserted ++ [dispatch] }
  | none, some receipt =>
    let answer := resolveExistingReceipt receipt (canonicalRequestHash dispatch.envelope)
    return state.answer dispatch.envelope dispatch.context answer
  | none, none => return state.answer dispatch.envelope dispatch.context (.error .collision)

def finishDispatch (state : DispatchState σ) (index : Nat) (dispatch : OpenDispatch) (draws : Draws)
    (result : Transaction (σ × HandlerOutcome)) : DispatchState σ :=
  let state := { state with inserted := state.inserted.eraseIdx index }
  match complete state.ledger dispatch draws result with
  | .ok (ledger, body) =>
    { state with ledger }.answer dispatch.envelope dispatch.context (.ok { body with replayed := false })
  | .error error => state.answer dispatch.envelope dispatch.context (.error (.command error))

def delivered (status : OutboxStatus) (message : OutboxMessageRecord) : OutboxMessageRecord :=
  { message with status }

theorem delivered_columns (status : OutboxStatus) (message : OutboxMessageRecord) :
    Schema.columns (delivered status message) = Schema.columns message := rfl

def dispatchStep (supported : String → Bool) (state : DispatchState σ) :
    DispatchInput σ → Except Refused (DispatchState σ)
  | .start envelope context receiptId => return startDispatch supported state envelope context receiptId
  | .insertReceipt index => do
    let dispatch ← orRaise state.looking[index]? .noDispatch
    insertReceipt state index dispatch
  | .finish index draws result => do
    let dispatch ← orRaise state.inserted[index]? .noDispatch
    return finishDispatch state index dispatch draws result
  | .foreign business => return { state with ledger := { state.ledger with business } }
  | .deliver messageId status => return { state with ledger := { state.ledger with
      outbox := state.ledger.outbox.update (fun message => message.id = messageId) (delivered status)
        (delivered_columns status) } }

end Dispatch

/-- A domain event that a service writes in its own transaction, with nothing that caused it. -/
structure DirectEventRecord where
  id : Uuid
  tenantId : Uuid
  aggregateType : String
  aggregateId : Uuid
  aggregateRevision : Nat
  eventType : String
  payload : List (String × Json)
  actorId : Uuid
  commandId : Option Uuid
  correlationId : Option Uuid
  occurredAt : Timestamp

instance : Schema DirectEventRecord := .primary (·.id)

/-- An outbox row as such a service writes it. -/
def pendingMessage (id tenantId eventId : Uuid) (topic : String) (payload : List (String × Json))
    (dedupeKey : String) : OutboxMessageRecord where
  id
  tenantId
  eventId
  topic
  payloadVersion := 1
  payload
  status := .pending
  attemptCount := 0
  dedupeKey

end SmartAo.Platform
