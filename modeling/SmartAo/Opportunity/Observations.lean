import SmartAo.Foundation.Table
import SmartAo.Opportunity.Ingestion
import SmartAo.Platform.Dispatcher
import SmartAo.Platform.Uuid

namespace SmartAo.Opportunity

section Scoring

open SmartAo.Foundation SmartAo.Platform

def scoringVersion : String := "BOAMP_PUBLIC_V1"

structure ScoreFactor where
  code : String
  points : Nat
  matched : Bool
  explanation : String
deriving DecidableEq

def ScoreFactor.snapshot (factor : ScoreFactor) : Json :=
  .obj [("code", .str factor.code), ("explanation", .str factor.explanation), ("matched", .bool factor.matched),
    ("points", .int factor.points)]

structure ExplainableOpportunityScore where
  version : String
  score : Nat
  factors : List ScoreFactor
  explanationSha256 : String
deriving DecidableEq

def ExplainableOpportunityScore.snapshot (score : ExplainableOpportunityScore) : Json :=
  .obj [("explanation_sha256", .str score.explanationSha256),
    ("factors", .arr (score.factors.map ScoreFactor.snapshot)), ("score", .int score.score),
    ("version", .str score.version)]

/-- A factor that counts its points when its signal is there. -/
def signal (code : String) (points : Nat) (matched : Bool) (found missing : String) : ScoreFactor where
  code
  points := if matched then points else 0
  matched
  explanation := if matched then found else missing

/-- `part in text`. -/
def isIn (part text : String) : Bool := text.toList.tails.any fun rest => part.toList.isPrefixOf rest

/-- `_is_active_status`. -/
def isActiveStatus (tables : CaseTables) (status : Option String) : Bool :=
  ["ACTIVE", "EN_COURS", "OPEN", "PUBLIE"].contains (tables.upper (strip (status.getD "")))

section Score

variable (tables : CaseTables) (criteria : WatchProfileCriteria) (now : Timestamp) (candidate : OpportunityCandidate)

def matchedKeywords : List String :=
  criteria.keywords.filter fun keyword => isIn (tables.casefold keyword) (tables.casefold (candidate.title.getD ""))

def scoreFactors : List ScoreFactor :=
  let matched := matchedKeywords tables criteria candidate
  [signal "TITLE_KEYWORD_MATCH" 50 (!matched.isEmpty)
      (toString matched.length ++ " profil keyword(s) found in the public title")
      "No profile keyword found in the public title",
    signal "INCLUDED_DEPARTMENT_MATCH" 25 (meets candidate.departmentCodes criteria.includedDepartments)
      "The public notice has an included department" "No included department was configured or matched",
    signal "ACTIVE_SOURCE_STATUS" 15 (isActiveStatus tables candidate.sourceStatus)
      "The source status is allowlisted as active" "The source status is absent or not allowlisted as active",
    signal "FUTURE_RESPONSE_DEADLINE" 10 (candidate.responseDeadline.any fun deadline => now ≤ deadline)
      "A non-expired public response deadline is available" "No future public response deadline is available"]

/-- What the hash of a score's explanation covers. -/
def scoreExplanation (factors : List ScoreFactor) (score : Nat) : Json :=
  .obj [("factors", .arr (factors.map ScoreFactor.snapshot)), ("score", .int score), ("version", .str scoringVersion)]

/-- `BoampOpportunityScoringService.score`. -/
def scoreCandidate : ExplainableOpportunityScore :=
  let factors := scoreFactors tables criteria now candidate
  let score := (factors.map (·.points)).sum
  { version := scoringVersion
    score
    factors
    explanationSha256 := hexdigest (scoreExplanation factors score).dumpsChars }

end Score

theorem signal_points_le (code : String) (points : Nat) (matched : Bool) (found missing : String) :
    (signal code points matched found missing).points ≤ points := by
  cases matched <;> simp [signal]

/-- A score is one the database accepts. -/
theorem scoreCandidate_le (tables : CaseTables) (criteria : WatchProfileCriteria) (now : Timestamp)
    (candidate : OpportunityCandidate) : (scoreCandidate tables criteria now candidate).score ≤ 100 := by
  show ((scoreFactors tables criteria now candidate).map (·.points)).sum ≤ 100
  calc ((scoreFactors tables criteria now candidate).map (·.points)).sum
      ≤ 50 + (25 + (15 + (10 + 0))) := by
        simp only [scoreFactors, List.map_cons, List.map_nil, List.sum_cons, List.sum_nil]
        exact Nat.add_le_add (signal_points_le ..) (Nat.add_le_add (signal_points_le ..)
          (Nat.add_le_add (signal_points_le ..) (Nat.add_le_add (signal_points_le ..) (Nat.le_refl 0))))
    _ = 100 := rfl

end Scoring

section Observations

open SmartAo.Foundation SmartAo.Platform

structure BoampIngestionRunRecord where
  id : Uuid
  tenantId : Uuid
  profileId : Uuid
  profileVersion : Int
  actorId : Uuid
  commandId : Uuid
  idempotencyKey : Uuid
  correlationId : Option Uuid
  requestHash : String
  pagesRead : Int
  candidateCount : Nat
  truncated : Bool
  startedAt : Timestamp
  completedAt : Timestamp

instance : Schema BoampIngestionRunRecord := .ownedKeys fun row =>
  (row.id, row.tenantId, row.commandId, row.idempotencyKey)

/-- What an observation is unique by: tenant, source, notice and fingerprint. -/
abbrev SourceKey := Uuid × String × String × String

structure BoampOpportunityObservationRecord where
  id : Uuid
  tenantId : Uuid
  source : String
  sourceNoticeId : String
  fingerprintSha256 : String
  title : Option String
  publicationDate : Option Int
  responseDeadline : Option Timestamp
  departmentCodes : List String
  marketTypes : List String
  sourceStatus : Option String
  scoreVersion : String
  score : Nat
  scoreExplanation : ExplainableOpportunityScore
  scoreExplanationSha256 : String
  observedAt : Timestamp
deriving DecidableEq

def BoampOpportunityObservationRecord.sourceKey (row : BoampOpportunityObservationRecord) : SourceKey :=
  (row.tenantId, row.source, row.sourceNoticeId, row.fingerprintSha256)

instance : Schema BoampOpportunityObservationRecord := .keyed fun row => (row.id, row.sourceKey)

structure BoampIngestionObservationLinkRecord where
  id : Uuid
  tenantId : Uuid
  ingestionRunId : Uuid
  observationId : Uuid

def BoampIngestionObservationLinkRecord.target (row : BoampIngestionObservationLinkRecord) : Uuid × Uuid × Uuid :=
  (row.tenantId, row.ingestionRunId, row.observationId)

instance : Schema BoampIngestionObservationLinkRecord := .keyed fun row => (row.id, row.target)

structure ObservationStore where
  runs : Table BoampIngestionRunRecord
  observations : Table BoampOpportunityObservationRecord
  links : Table BoampIngestionObservationLinkRecord
  events : Table DirectEventRecord
  outbox : Table OutboxMessageRecord

def ObservationStore.empty : ObservationStore := ⟨.empty, .empty, .empty, .empty, .empty⟩

abbrev ScoredCandidate := OpportunityCandidate × ExplainableOpportunityScore

/-- One run of the operator script: the report it reads, its arguments, and the ids it draws. -/
structure IngestionCall where
  tenantId : Uuid
  actorId : Uuid
  profileId : Uuid
  profileVersion : Int
  commandId : Uuid
  idempotencyKey : Uuid
  correlationId : Option Uuid
  candidates : List OpportunityCandidate
  pagesRead : Int
  truncated : Bool
  criteria : WatchProfileCriteria
  now : Timestamp
  eventId : Uuid
  messageId : Uuid

structure BoampPersistenceResult where
  runId : Uuid
  observationIds : List Uuid
  eventId : Uuid
  replayed : Bool

namespace IngestionCall

variable (tables : CaseTables) (call : IngestionCall)

def runId : Uuid :=
  uuid5 1 ("boamp-ingestion:".toList ++ (call.tenantId.chars ++ ':' :: call.idempotencyKey.chars))

/-- The candidates of the report with the scores the script computes anew. -/
def scoredCandidates : List ScoredCandidate :=
  call.candidates.map fun candidate => (candidate, scoreCandidate tables call.criteria call.now candidate)

/-- `ingestion_request_hash`. -/
def requestHash : String := hexdigest (Json.dumpsChars (.obj [
  ("candidates", .arr ((call.scoredCandidates tables).map fun scored =>
    .obj [("candidate", scored.1.snapshot), ("score", scored.2.snapshot)])),
  ("pages_read", .int call.pagesRead), ("profile_id", .str call.profileId.str),
  ("profile_version", .int call.profileVersion), ("truncated", .bool call.truncated)]))

def runRecord : BoampIngestionRunRecord where
  id := call.runId
  tenantId := call.tenantId
  profileId := call.profileId
  profileVersion := call.profileVersion
  actorId := call.actorId
  commandId := call.commandId
  idempotencyKey := call.idempotencyKey
  correlationId := call.correlationId
  requestHash := call.requestHash tables
  pagesRead := call.pagesRead
  candidateCount := call.candidates.length
  truncated := call.truncated
  startedAt := call.now
  completedAt := call.now

/-- A stored run that a call identifies itself with. -/
def names (row : BoampIngestionRunRecord) : Bool :=
  row.tenantId = call.tenantId ∧
    (row.id = call.runId ∨ row.commandId = call.commandId ∨ row.idempotencyKey = call.idempotencyKey)

def observationId (candidate : OpportunityCandidate) : Uuid :=
  uuid5 2 ("boamp-observation:".toList ++ (call.tenantId.chars ++ ':' :: (candidate.sourceNoticeId.toList ++
    ':' :: candidate.fingerprint.toList)))

def observationRow (scored : ScoredCandidate) : BoampOpportunityObservationRecord where
  id := call.observationId scored.1
  tenantId := call.tenantId
  source := scored.1.source
  sourceNoticeId := scored.1.sourceNoticeId
  fingerprintSha256 := scored.1.fingerprint
  title := scored.1.title
  publicationDate := scored.1.publicationDate
  responseDeadline := scored.1.responseDeadline
  departmentCodes := scored.1.departmentCodes
  marketTypes := scored.1.marketTypes
  sourceStatus := scored.1.sourceStatus
  scoreVersion := scored.2.version
  score := scored.2.score
  scoreExplanation := scored.2
  scoreExplanationSha256 := scored.2.explanationSha256
  observedAt := call.now

def linkRow (observationId : Uuid) : BoampIngestionObservationLinkRecord where
  id := uuid5 3 ("boamp-link:".toList ++ (call.tenantId.chars ++ ':' :: (call.runId.chars ++
    ':' :: observationId.chars)))
  tenantId := call.tenantId
  ingestionRunId := call.runId
  observationId

def eventRecord : DirectEventRecord where
  id := call.eventId
  tenantId := call.tenantId
  aggregateType := "BoampIngestionRun"
  aggregateId := call.runId
  aggregateRevision := 0
  eventType := "BoampIngestionRecorded"
  payload := [("profile_id", .str call.profileId.str), ("profile_version", .int call.profileVersion),
    ("ingestion_run_id", .str call.runId.str), ("observation_count", .int call.candidates.length),
    ("request_hash", .str (call.requestHash tables))]
  actorId := call.actorId
  commandId := some call.commandId
  correlationId := call.correlationId
  occurredAt := call.now

def outboxMessage : OutboxMessageRecord :=
  pendingMessage call.messageId call.tenantId call.eventId "opportunity.boamp.ingestion.recorded"
    [("ingestion_run_id", .str call.runId.str), ("observation_count", .int call.candidates.length),
      ("request_hash", .str (call.requestHash tables))]
    ("boamp-ingestion:" ++ call.tenantId.str ++ ":" ++ call.runId.str)

end IngestionCall

/-- The check constraints and column lengths of a run. -/
def BoampIngestionRunRecord.fits (row : BoampIngestionRunRecord) : Bool :=
  1 ≤ row.profileVersion ∧ row.profileVersion < 2 ^ 31 ∧ 0 ≤ row.pagesRead ∧ row.pagesRead < 2 ^ 31

/-- Those of an observation. -/
def BoampOpportunityObservationRecord.fits (row : BoampOpportunityObservationRecord) : Bool :=
  row.source = "BOAMP" ∧ row.sourceNoticeId.length ≤ 160 ∧ row.title.all (·.length ≤ 500) ∧
    row.sourceStatus.all (·.length ≤ 64) ∧ row.score ≤ 100

section Persist

variable (tables : CaseTables) (store : ObservationStore) (call : IngestionCall)

/-- What a call that repeats a stored run gets. -/
def replayRun (record : BoampIngestionRunRecord) : Transaction BoampPersistenceResult := do
  raiseIf (record.id ≠ call.runId ∨ record.commandId ≠ call.commandId ∨
      record.idempotencyKey ≠ call.idempotencyKey ∨ record.requestHash ≠ call.requestHash tables)
    (.failed "ingestion idempotency conflict")
  let links := store.links.rows.filter fun row => row.tenantId = call.tenantId ∧ row.ingestionRunId = record.id
  let event ← orRaise (store.events.find? fun row =>
      row.tenantId = call.tenantId ∧ row.aggregateId = record.id ∧ row.eventType = "BoampIngestionRecorded")
    (.failed "ingestion replay has no audit event")
  return {
    runId := record.id
    observationIds := (links.map (·.observationId)).insertionSort fun first second => first.toNat ≤ second.toNat
    eventId := event.id
    replayed := true }

/-- The observations and links that the loop over the candidates has written, and the ids it has read back. -/
structure WrittenObservations where
  observations : Table BoampOpportunityObservationRecord
  links : Table BoampIngestionObservationLinkRecord
  observationIds : List Uuid

/-- An observation that is there already is linked as it stands. -/
def writeObservation (written : WrittenObservations) (scored : ScoredCandidate) : Transaction WrittenObservations := do
  let row := call.observationRow scored
  raiseIf (¬ row.fits) .integrity
  let observations ← flush (written.observations.insertIgnoring (·.sourceKey = row.sourceKey) row)
  let persisted ← orRaise (observations.find? (·.sourceKey = row.sourceKey))
    (.failed "observation insert was not readable")
  let link := call.linkRow persisted.id
  let links ← flush (written.links.insertIgnoring (·.target = link.target) link)
  return ⟨observations, links, written.observationIds ++ [persisted.id]⟩

def writeObservations : WrittenObservations → List ScoredCandidate → Transaction WrittenObservations
  | written, [] => return written
  | written, scored :: rest => do
    let next ← writeObservation call written scored
    writeObservations next rest

def recordRun : Transaction (ObservationStore × BoampPersistenceResult) := do
  raiseIf (¬ (call.runRecord tables).fits) .integrity
  let runs ← flush (store.runs.insert? (call.runRecord tables))
  let written ← writeObservations call ⟨store.observations, store.links, []⟩ (call.scoredCandidates tables)
  let events ← flush (store.events.insert? (call.eventRecord tables))
  let outbox ← flush (store.outbox.insert? (call.outboxMessage tables))
  return (⟨runs, written.observations, written.links, events, outbox⟩,
    { runId := call.runId, observationIds := written.observationIds, eventId := call.eventId, replayed := false })

/-- `BoampObservationRepository.persist`, called as the operator script calls it. -/
def persist : Transaction (ObservationStore × BoampPersistenceResult) :=
  match store.runs.rows.filter call.names with
  | [] => recordRun tables store call
  | record :: others => do
    raiseIf (others.any fun other => other.id ≠ record.id) (.failed "ambiguous ingestion identity collision")
    let result ← replayRun tables store call record
    return (store, result)

/-- A call of a history of calls. -/
def step : Transaction ObservationStore := (persist tables store call).map Prod.fst

end Persist

end Observations

end SmartAo.Opportunity
