import SmartAo.Case.Record
import SmartAo.Dce.Materialization

namespace SmartAo.Dce

open SmartAo.Foundation SmartAo.Platform SmartAo.Case

def impactAlgorithmId : String := "smart-ao-case-dce-impact"

def impactAlgorithmVersion : String := "1"

def systemImpactActorId : Uuid := 0x17

inductive ImpactKind where
  | dceVersionReplaced
  | previousRequirementRequiresReview
  | successorRequirementCandidate
  | versionHasNoMaterializedSignal
deriving DecidableEq

inductive ImpactReviewState where
  | reviewRequired
  | pendingHumanReview
deriving DecidableEq

inductive ImpactEvidence where
  | rectificationChain
  | previousRequirement
  | successorRequirement
  | noSignal
deriving DecidableEq

inductive ImpactStatus where
  | completed
  | noSignal
deriving DecidableEq

def ImpactStatus.value : ImpactStatus → String
  | completed => "COMPLETED"
  | noSignal => "NO_SIGNAL"

structure CaseDceImpactRunRecord where
  id : Uuid
  tenantId : Uuid
  caseId : Uuid
  predecessorDceVersionId : Uuid
  successorDceVersionId : Uuid
  inputManifestSha256 : String
  algorithmId : String
  algorithmVersion : String
  status : ImpactStatus
  previousRequirementCount : Nat
  successorRequirementCount : Nat
deriving DecidableEq

instance : Schema CaseDceImpactRunRecord := .keyed fun row =>
  (row.id, (row.tenantId, row.caseId, row.predecessorDceVersionId, row.successorDceVersionId),
    row.inputManifestSha256, row.algorithmId, row.algorithmVersion)

structure CaseDceImpactItemRecord where
  id : Uuid
  tenantId : Uuid
  impactRunId : Uuid
  caseId : Uuid
  impactKind : ImpactKind
  previousRequirementId : Option Uuid
  successorRequirementId : Option Uuid
  reviewState : ImpactReviewState
  evidenceCode : ImpactEvidence
deriving DecidableEq

instance : Schema CaseDceImpactItemRecord := .primary CaseDceImpactItemRecord.id

/-- The tables an impact run reads and writes, with the creation times the database stamped the
    materialization runs with. -/
structure ImpactStore where
  cases : Table CaseRecord
  dce : DceStore
  runs : Table DceRequirementMaterializationRunRecord
  createdAt : Uuid → Timestamp
  impactRuns : Table CaseDceImpactRunRecord
  impactItems : Table CaseDceImpactItemRecord

structure ImpactRequirement where
  id : Uuid
  requirementType : RequirementType
  directiveSignal : DirectiveSignal
  sourceObservationId : Uuid
deriving DecidableEq

def ImpactRequirement.of (row : DceRequirementRecord) : ImpactRequirement :=
  ⟨row.id, row.requirementType, row.directiveSignal, row.sourceObservationId⟩

namespace ImpactStore

variable (store : ImpactStore)

/-- The newest safe terminal run of a version: the latest stamp, then the greatest identifier. -/
def newestRun (tenantId dceVersionId : Uuid) : Option DceRequirementMaterializationRunRecord :=
  ((store.runs.rows.filter fun run => run.tenantId = tenantId ∧ run.dceVersionId = dceVersionId ∧
    (run.status = .completed ∨ run.status = .noSignal)).insertionSort fun first second =>
      store.createdAt second.id < store.createdAt first.id ∨
        store.createdAt second.id = store.createdAt first.id ∧ second.id ≤ first.id).head?

def requirementRows (tenantId runId : Uuid) : List DceRequirementRecord :=
  (store.dce.requirements.rows.filter fun row => row.tenantId = tenantId ∧ row.requirementsRunId = runId).insertionSort
    fun first second => first.id ≤ second.id

/-- `load_impact_requirements` -/
def loadRequirements (tenantId dceVersionId : Uuid) : Option (List ImpactRequirement) :=
  (store.newestRun tenantId dceVersionId).map fun run =>
    (store.requirementRows tenantId run.id).map ImpactRequirement.of

def case (tenantId caseId : Uuid) : Option CaseRecord :=
  (store.cases.find? fun row => row.tenantId = tenantId ∧ row.id = caseId).filter fun row => row.lifecycle ≠ .archived

def version (tenantId dceVersionId : Uuid) : Option DceVersionRecord :=
  store.dce.versions.find? fun row => row.tenantId = tenantId ∧ row.id = dceVersionId

end ImpactStore

def requirementLine (heading : String) (item : ImpactRequirement) : List (List Char) :=
  [heading.toList, item.id.chars, item.requirementType.value.toList, item.directiveSignal.value.toList,
    item.sourceObservationId.chars]

def impactManifestSha256 (caseId predecessorId successorId : Uuid) (previous successor : List ImpactRequirement) :
    String :=
  manifestSha256 ([["CASE".toList, caseId.chars], ["PREDECESSOR".toList, predecessorId.chars],
      ["SUCCESSOR".toList, successorId.chars]] ++
    previous.map (requirementLine "PREVIOUS") ++ successor.map (requirementLine "SUCCESSOR"))

def impactRunName (predecessorId successorId : Uuid) (manifest : String) : List Char :=
  predecessorId.chars ++ ':' :: (successorId.chars ++ ':' :: (manifest.toList ++ ':' ::
    (impactAlgorithmId.toList ++ ':' :: impactAlgorithmVersion.toList)))

structure CaseDceImpactItemInput where
  impactItemId : Uuid
  impactKind : ImpactKind
  previousRequirementId : Option Uuid
  successorRequirementId : Option Uuid
  reviewState : ImpactReviewState
  evidenceCode : ImpactEvidence
deriving DecidableEq

def replacedName : List Char := "DCE_VERSION_REPLACED".toList

def previousName (requirementId : Uuid) : List Char := "PREVIOUS_REQUIREMENT:".toList ++ requirementId.chars

def successorName (requirementId : Uuid) : List Char := "SUCCESSOR_REQUIREMENT:".toList ++ requirementId.chars

def noSignalName : List Char := "VERSION_HAS_NO_MATERIALIZED_SIGNAL".toList

def replacedItem (runId : Uuid) : CaseDceImpactItemInput :=
  ⟨uuid5 runId replacedName, .dceVersionReplaced, none, none, .reviewRequired, .rectificationChain⟩

def previousItem (runId : Uuid) (requirement : ImpactRequirement) : CaseDceImpactItemInput :=
  ⟨uuid5 runId (previousName requirement.id), .previousRequirementRequiresReview, some requirement.id, none,
    .reviewRequired, .previousRequirement⟩

def successorItem (runId : Uuid) (requirement : ImpactRequirement) : CaseDceImpactItemInput :=
  ⟨uuid5 runId (successorName requirement.id), .successorRequirementCandidate, none, some requirement.id,
    .pendingHumanReview, .successorRequirement⟩

def noSignalItem (runId : Uuid) : CaseDceImpactItemInput :=
  ⟨uuid5 runId noSignalName, .versionHasNoMaterializedSignal, none, none, .reviewRequired, .noSignal⟩

def expectedImpactItems (runId : Uuid) (previous successor : List ImpactRequirement) : List CaseDceImpactItemInput :=
  replacedItem runId :: (previous.map (previousItem runId) ++ successor.map (successorItem runId) ++
    if previous = [] ∧ successor = [] then [noSignalItem runId] else [])

structure RecordCaseDceImpactRunCommand extends ApplicationCommand where
  impactRunId : Uuid
  caseId : Uuid
  predecessorDceVersionId : Uuid
  successorDceVersionId : Uuid
  inputManifestSha256 : String
  algorithmId : String
  algorithmVersion : String
  status : ImpactStatus
  previousRequirementCount : Nat
  successorRequirementCount : Nat
  failureCode : Option String
  items : List CaseDceImpactItemInput

namespace RecordCaseDceImpactRunCommand

def validateTerminalProjection (command : RecordCaseDceImpactRunCommand) : Except ValidationError Unit := do
  raiseIf (¬ (command.items.map (·.impactItemId)).Nodup) (.model "impact item identifier duplicate")
  raiseIf (command.failureCode ≠ none) (.model "successful impact run cannot carry failure code")
  raiseIf (command.status = .noSignal ∧
    (command.previousRequirementCount ≠ 0 ∨ command.successorRequirementCount ≠ 0))
    (.model "no-signal impact requires empty requirement counts")
  if command.previousRequirementCount + command.successorRequirementCount = 0 then
    raiseIf (command.status ≠ .noSignal) (.model "empty impact requires no-signal status")
  else raiseIf (command.status ≠ .completed) (.model "materialized impact requires completed status")

def build (command : RecordCaseDceImpactRunCommand) : Except ValidationError RecordCaseDceImpactRunCommand := do
  raiseIf (isSha256 command.inputManifestSha256 = false) (.field "input_manifest_sha256")
  raiseIf (command.algorithmId = "" ∨ 100 < command.algorithmId.length) (.field "algorithm_id")
  raiseIf (command.algorithmVersion = "" ∨ 64 < command.algorithmVersion.length) (.field "algorithm_version")
  raiseIf (command.failureCode.any fun code => 120 < code.length) (.field "failure_code")
  raiseIf (40000 < command.items.length) (.field "items")
  command.validateTerminalProjection
  return command

end RecordCaseDceImpactRunCommand

/-- The checks of `CaseDceImpactService.run`, and the two lists it compares. -/
def impactSources (store : ImpactStore) (tenantId caseId predecessorId successorId : Uuid) :
    Except String (List ImpactRequirement × List ImpactRequirement) := do
  let case ← orRaise (store.case tenantId caseId) "CASE_NOT_FOUND_OR_FORBIDDEN"
  let predecessor ← orRaise (store.version tenantId predecessorId) "CASE_DCE_PREDECESSOR_MISMATCH"
  let successor ← orRaise (store.version tenantId successorId) "CASE_DCE_PREDECESSOR_MISMATCH"
  raiseIf (case.applicableDceVersionId ≠ some predecessor.id ∨
      predecessor.consultationId ≠ successor.consultationId ∨
      successor.predecessorDceVersionId ≠ some predecessor.id ∨ predecessor.integrity ≠ .verified ∨
      successor.lifecycle ≠ .admitted ∨ successor.integrity ≠ .verified)
    "CASE_DCE_PREDECESSOR_MISMATCH"
  let previousRequirements ← orRaise (store.loadRequirements tenantId predecessor.id) "DCE_REQUIREMENTS_NOT_READY"
  let successorRequirements ← orRaise (store.loadRequirements tenantId successor.id) "DCE_REQUIREMENTS_NOT_READY"
  return (previousRequirements, successorRequirements)

def impactRunId (caseId predecessorId successorId : Uuid) (previous successor : List ImpactRequirement) : Uuid :=
  uuid5 caseId (impactRunName predecessorId successorId
    (impactManifestSha256 caseId predecessorId successorId previous successor))

def impactCommand (caseId predecessorId successorId : Uuid) (previous successor : List ImpactRequirement) :
    Except ValidationError RecordCaseDceImpactRunCommand :=
  let runId := impactRunId caseId predecessorId successorId previous successor
  RecordCaseDceImpactRunCommand.build {
    commandId := runId, idempotencyKey := runId, correlationId := some successorId, impactRunId := runId, caseId
    predecessorDceVersionId := predecessorId, successorDceVersionId := successorId
    inputManifestSha256 := impactManifestSha256 caseId predecessorId successorId previous successor
    algorithmId := impactAlgorithmId, algorithmVersion := impactAlgorithmVersion
    status := if previous = [] ∧ successor = [] then .noSignal else .completed
    previousRequirementCount := previous.length, successorRequirementCount := successor.length
    failureCode := none, items := expectedImpactItems runId previous successor }

def impactContext (tenantId : Uuid) (now : Timestamp) : CommandContext :=
  ⟨tenantId, systemImpactActorId, .system, now, none, none⟩

namespace RecordCaseDceImpactRunCommand

variable (command : RecordCaseDceImpactRunCommand) (tenantId : Uuid)

def runRecord (manifest : String) : CaseDceImpactRunRecord where
  id := command.impactRunId
  tenantId := tenantId
  caseId := command.caseId
  predecessorDceVersionId := command.predecessorDceVersionId
  successorDceVersionId := command.successorDceVersionId
  inputManifestSha256 := manifest
  algorithmId := command.algorithmId
  algorithmVersion := command.algorithmVersion
  status := command.status
  previousRequirementCount := command.previousRequirementCount
  successorRequirementCount := command.successorRequirementCount

def itemRecord (item : CaseDceImpactItemInput) : CaseDceImpactItemRecord :=
  ⟨item.impactItemId, tenantId, command.impactRunId, command.caseId, item.impactKind, item.previousRequirementId,
    item.successorRequirementId, item.reviewState, item.evidenceCode⟩

def existing (store : ImpactStore) (manifest : String) : Option CaseDceImpactRunRecord :=
  store.impactRuns.find? fun row => row.tenantId = tenantId ∧ row.caseId = command.caseId ∧
    row.predecessorDceVersionId = command.predecessorDceVersionId ∧
    row.successorDceVersionId = command.successorDceVersionId ∧ row.inputManifestSha256 = manifest ∧
    row.algorithmId = command.algorithmId ∧ row.algorithmVersion = command.algorithmVersion

end RecordCaseDceImpactRunCommand

def alreadyRecorded (existing : CaseDceImpactRunRecord) : HandlerOutcome where
  resultCode := "CASE_DCE_IMPACT_ALREADY_RECORDED"
  aggregateRefs := [{
    aggregateType := "CASE_DCE_IMPACT_RUN", aggregateId := existing.id.str, aggregateRevision := 0 }]
  events := []

def impactRecorded (command : RecordCaseDceImpactRunCommand) : HandlerOutcome where
  resultCode := "CASE_DCE_IMPACT_RECORDED"
  aggregateRefs := [{
    aggregateType := "CASE_DCE_IMPACT_RUN", aggregateId := command.impactRunId.str, aggregateRevision := 0 }]
  events := [{
    aggregateType := "CASE_DCE_IMPACT_RUN", aggregateId := command.impactRunId, aggregateRevision := 0
    eventType := "CASE_DCE_IMPACT_RECORDED"
    payload := [("impact_run_id", .str command.impactRunId.str), ("case_id", .str command.caseId.str),
      ("predecessor_dce_version_id", .str command.predecessorDceVersionId.str),
      ("successor_dce_version_id", .str command.successorDceVersionId.str), ("status", .str command.status.value),
      ("previous_requirement_count", .int command.previousRequirementCount),
      ("successor_requirement_count", .int command.successorRequirementCount),
      ("item_count", .int command.items.length)] }]

def recordCaseDceImpactRun (store : ImpactStore) (command : RecordCaseDceImpactRunCommand)
    (context : CommandContext) : Transaction (ImpactStore × HandlerOutcome) := do
  raiseIf (context.actorKind ≠ .system) (.failed "CASE_DCE_IMPACT_SYSTEM_ACTOR_REQUIRED")
  let case ← orRaise (store.case context.tenantId command.caseId) (.failed "CASE_NOT_FOUND_OR_FORBIDDEN")
  let predecessor ← orRaise (store.version context.tenantId command.predecessorDceVersionId)
    (.failed "CASE_DCE_PREDECESSOR_MISMATCH")
  let successor ← orRaise (store.version context.tenantId command.successorDceVersionId)
    (.failed "CASE_DCE_PREDECESSOR_MISMATCH")
  raiseIf (case.applicableDceVersionId ≠ some predecessor.id ∨
      predecessor.consultationId ≠ successor.consultationId ∨
      successor.predecessorDceVersionId ≠ some predecessor.id ∨ predecessor.isAdmitted = false ∨
      predecessor.integrity ≠ .verified ∨ successor.lifecycle ≠ .admitted ∨ successor.integrity ≠ .verified)
    (.failed "CASE_DCE_PREDECESSOR_MISMATCH")
  let previousRequirements ← orRaise (store.loadRequirements context.tenantId predecessor.id)
    (.failed "DCE_REQUIREMENTS_NOT_READY")
  let successorRequirements ← orRaise (store.loadRequirements context.tenantId successor.id)
    (.failed "DCE_REQUIREMENTS_NOT_READY")
  let manifest := impactManifestSha256 command.caseId predecessor.id successor.id previousRequirements
    successorRequirements
  raiseIf (command.impactRunId ≠ uuid5 command.caseId (impactRunName predecessor.id successor.id manifest) ∨
    lower command.inputManifestSha256 ≠ manifest) (.failed "CASE_DCE_IMPACT_INPUT_MANIFEST_REQUIRED")
  raiseIf (command.previousRequirementCount ≠ previousRequirements.length ∨
    command.successorRequirementCount ≠ successorRequirements.length)
    (.failed "CASE_DCE_IMPACT_SOURCE_COUNT_REQUIRED")
  raiseIf (command.items ≠ expectedImpactItems command.impactRunId previousRequirements successorRequirements)
    (.failed "CASE_DCE_IMPACT_PROJECTION_REQUIRED")
  match command.existing context.tenantId store manifest with
  | some existing => return (store, alreadyRecorded existing)
  | none =>
    let impactRuns ← flush (store.impactRuns.insert? (command.runRecord context.tenantId manifest))
    let impactItems ← flush (store.impactItems.insertAll? (command.items.map (command.itemRecord context.tenantId)))
    return ({ store with impactRuns, impactItems }, impactRecorded command)

end SmartAo.Dce
