import SmartAo.Platform.Command
import SmartAo.Foundation.Transition
import Mathlib.Data.List.Sort

namespace SmartAo.Worker

open SmartAo.Foundation SmartAo.Platform

inductive OutboxStatus where
  | pending
  | published
  | retry
  | failed
  | notConfigured
deriving DecidableEq

/-- An outbox row as its delivery workers read and write it. -/
structure OutboxMessageRecord where
  id : Uuid
  tenantId : Uuid
  eventId : Uuid
  topic : String
  payload : Json
  status : OutboxStatus
  attemptCount : Nat
  createdAt : Timestamp
  nextAttemptAt : Option Timestamp
  publishedAt : Option Timestamp
  lastErrorCode : Option String

instance : Schema OutboxMessageRecord := .keyed fun row => (row.id, (row.eventId, row.topic))

/-- The states a worker never claims a message in. -/
def OutboxStatus.ended : OutboxStatus → Bool
  | .pending | .retry => false
  | .published | .failed | .notConfigured => true

def maxOutboxAttemptsLimit : Nat := 100

structure RetryDecision where
  attemptCount : Nat
  status : OutboxStatus
  nextAttemptAt : Option Timestamp

/-- `decide_retry`: a message fails after a bounded number of attempts. -/
def decideRetry (attemptCount : Nat) (now : Timestamp) (maxAttempts : Nat) : RetryDecision :=
  let nextAttemptCount := attemptCount + 1
  if maxAttempts ≤ nextAttemptCount then ⟨nextAttemptCount, .failed, none⟩
  else
    let delaySeconds := min (30 * 2 ^ (nextAttemptCount - 1)) 3600
    ⟨nextAttemptCount, .retry, some (now + delaySeconds * 1000000)⟩

example : (decideRetry 3 0 10).nextAttemptAt = some 240000000 := by decide

/-- What the transaction that ends a processing writes. -/
inductive Settlement where
  | publish
  | retry (errorCode : String)
  | fail (errorCode : String)
  | notConfigured (errorCode : String)
  | markNotConfigured (errorCode : String)

def OutboxMessageRecord.publish (row : OutboxMessageRecord) (now : Timestamp) : OutboxMessageRecord :=
  { row with status := .published, publishedAt := some now, nextAttemptAt := none, lastErrorCode := none }

def OutboxMessageRecord.retry (row : OutboxMessageRecord) (now : Timestamp) (maxAttempts : Nat) (errorCode : String) :
    OutboxMessageRecord :=
  let decision := decideRetry row.attemptCount now maxAttempts
  { row with
    status := decision.status
    attemptCount := decision.attemptCount
    nextAttemptAt := decision.nextAttemptAt
    lastErrorCode := some errorCode }

def OutboxMessageRecord.fail (row : OutboxMessageRecord) (errorCode : String) : OutboxMessageRecord :=
  { row with
    status := .failed
    attemptCount := row.attemptCount + 1
    nextAttemptAt := none
    lastErrorCode := some errorCode }

/-- Each settlement leaves a published message; `_mark_not_configured` leaves every ended one. -/
def Settlement.write (settlement : Settlement) (now : Timestamp) (maxAttempts : Nat) (row : OutboxMessageRecord) :
    OutboxMessageRecord :=
  match settlement with
  | .publish => if row.status = .published then row else row.publish now
  | .retry errorCode => if row.status = .published then row else row.retry now maxAttempts errorCode
  | .fail errorCode => if row.status = .published then row else row.fail errorCode
  | .notConfigured errorCode =>
    if row.status = .published then row
    else { row with status := .notConfigured, nextAttemptAt := none, lastErrorCode := some errorCode }
  | .markNotConfigured errorCode =>
    if row.status ≠ .pending ∧ row.status ≠ .retry then row
    else { row with
      status := .notConfigured, publishedAt := none, nextAttemptAt := none, lastErrorCode := some errorCode }

/-- What a port answers to a message: a status, or an error. -/
inductive Delivery where
  | returned (status : Int)
  | raised
deriving DecidableEq

/-- What a worker does with a message it reads. -/
inductive Processing where
  | skip
  | settle (settlement : Settlement)
  | deliver

/-- A worker that leases a batch of due messages and processes one after the other. -/
structure LeaseWorker where
  topics : List String
  batchSize : Nat
  leaseSeconds : Int
  maxAttempts : Nat
  process : OutboxMessageRecord → Processing
  errorCode : Delivery → Option String

/-- A batch in progress: the instant of its run, the messages left, and the answer to the first one. -/
structure WorkerRun (ω : Type) where
  worker : ω
  now : Timestamp
  remaining : List Uuid
  answer : Option Delivery

/-- The messages, the runs of any number of workers, and the messages whose delivery succeeded, in order. -/
structure OutboxState (ω : Type) where
  messages : Table OutboxMessageRecord
  runs : List (WorkerRun ω)
  delivered : List Uuid

def OutboxState.initial {ω : Type} : OutboxState ω := ⟨.empty, [], []⟩

/-- A transaction, a call of a port, or an error that ends a run; a claim skips the rows that other transactions
    hold. -/
inductive OutboxInput (ω : Type) where
  | enqueue (id tenantId eventId : Uuid) (topic : String) (payload : Json) (createdAt : Timestamp)
  | claim (worker : ω) (now : Timestamp) (held : List Uuid)
  | deliver (index : Nat) (answer : Delivery)
  | settle (index : Nat)
  | abort (index : Nat)

def enqueued (id tenantId eventId : Uuid) (topic : String) (payload : Json) (createdAt : Timestamp) :
    OutboxMessageRecord where
  id := id
  tenantId := tenantId
  eventId := eventId
  topic := topic
  payload := payload
  status := .pending
  attemptCount := 0
  createdAt := createdAt
  nextAttemptAt := none
  publishedAt := none
  lastErrorCode := none

def LeaseWorker.due (worker : LeaseWorker) (now : Timestamp) (row : OutboxMessageRecord) : Bool :=
  row.topic ∈ worker.topics ∧ row.status.ended = false ∧ row.nextAttemptAt.all (· ≤ now)

/-- The order of creation, then of identifiers. -/
def CreatedBefore (first second : OutboxMessageRecord) : Prop :=
  first.createdAt < second.createdAt ∨ (first.createdAt = second.createdAt ∧ first.id.toNat ≤ second.id.toNat)

instance : DecidableRel CreatedBefore := fun first second =>
  inferInstanceAs (Decidable (first.createdAt < second.createdAt ∨
    (first.createdAt = second.createdAt ∧ first.id.toNat ≤ second.id.toNat)))

/-- The messages that `_claim_due_messages` selects. -/
def LeaseWorker.claims (worker : LeaseWorker) (messages : Table OutboxMessageRecord) (now : Timestamp)
    (held : List Uuid) : List Uuid :=
  let due := messages.rows.filter fun row => worker.due now row && !(held.any fun id => id == row.id)
  ((due.insertionSort CreatedBefore).take worker.batchSize).map (·.id)

def leased (until_ : Timestamp) (row : OutboxMessageRecord) : OutboxMessageRecord :=
  { row with status := .retry, nextAttemptAt := some until_ }

theorem Settlement.write_columns (settlement : Settlement) (now : Timestamp) (maxAttempts : Nat)
    (row : OutboxMessageRecord) :
    Schema.columns (settlement.write now maxAttempts row) = Schema.columns row := by
  cases settlement <;> (dsimp only [Settlement.write]; split <;> rfl)

/-- The settlement of a message, from the answer of the port or from the message alone. -/
def LeaseWorker.settlement (worker : LeaseWorker) (answer : Option Delivery) (row : OutboxMessageRecord) :
    Processing :=
  match answer with
  | some answer => match worker.errorCode answer with
    | none => .settle .publish
    | some errorCode => .settle (.retry errorCode)
  | none => worker.process row

/-- One step of an interleaving of the runs of any workers over one outbox. -/
def outboxStep {ω : Type} (spec : ω → LeaseWorker) (state : OutboxState ω) : OutboxInput ω → Except String (OutboxState ω)
  | .enqueue id tenantId eventId topic payload createdAt => do
    let messages ← orRaise (state.messages.insert? (enqueued id tenantId eventId topic payload createdAt)) "conflict"
    return { state with messages }
  | .claim worker now held =>
    let ids := (spec worker).claims state.messages now held
    let until_ := now + (spec worker).leaseSeconds * 1000000
    return { state with
      messages := state.messages.update (fun row => row.id ∈ ids) (leased until_) fun _ => rfl
      runs := state.runs ++ [⟨worker, now, ids, none⟩] }
  | .deliver index answer => do
    let current ← orRaise state.runs[index]? "no such run"
    let id ← orRaise current.remaining.head? "run is over"
    let message ← orRaise (state.messages.find? fun row => row.id = id) "no such message"
    raiseIf (message.topic ∉ (spec current.worker).topics) "other topic"
    raiseIf (current.answer.isSome = true) "message was delivered"
    match (spec current.worker).process message with
    | .deliver => return { state with
        runs := state.runs.set index { current with answer := some answer }
        delivered := if (spec current.worker).errorCode answer = none then state.delivered ++ [id]
          else state.delivered }
    | _ => .error "message is not delivered"
  | .settle index => do
    let current ← orRaise state.runs[index]? "no such run"
    let id ← orRaise current.remaining.head? "run is over"
    let runs := state.runs.set index { current with remaining := current.remaining.tail, answer := none }
    match state.messages.find? fun row => row.id = id with
    | none => return { state with runs }
    | some message =>
      if message.topic ∉ (spec current.worker).topics then return { state with runs }
      else match (spec current.worker).settlement current.answer message with
        | .skip => return { state with runs }
        | .settle settlement => return { state with
            messages := state.messages.update (fun row => row.id = id)
              (settlement.write current.now (spec current.worker).maxAttempts) (settlement.write_columns _ _)
            runs }
        | .deliver => .error "message is to be delivered"
  | .abort index => do
    let current ← orRaise state.runs[index]? "no such run"
    return { state with runs := state.runs.set index { current with remaining := [], answer := none } }

end SmartAo.Worker
