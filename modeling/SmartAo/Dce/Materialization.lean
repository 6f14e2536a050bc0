import SmartAo.Dce.Requirements
import SmartAo.Dce.Writes

namespace SmartAo.Dce

open SmartAo.Foundation SmartAo.Platform

structure DceRequirementMaterializationRunRecord where
  id : Uuid
  tenantId : Uuid
  dceVersionId : Uuid
  dceRcAnalysisId : Uuid
  inputManifestSha256 : String
  materializerId : String
  materializerVersion : String
  status : MaterializationStatus
  sourceObservationCount : Nat
  failureCode : Option String
deriving DecidableEq

instance : Schema DceRequirementMaterializationRunRecord := .keyed fun row =>
  (row.id, row.tenantId, row.dceVersionId, row.dceRcAnalysisId, row.inputManifestSha256, row.materializerId,
    row.materializerVersion)

structure DceRequirementSourceRecord where
  id : Uuid
  tenantId : Uuid
  requirementId : Uuid
  sourceObservationId : Uuid
  fragmentId : Uuid
  startByteOffset : Nat
  endByteOffset : Nat
deriving DecidableEq

instance : Schema DceRequirementSourceRecord := .keyed fun row => (row.id, row.tenantId, row.requirementId)

structure RequirementStore where
  dce : DceStore
  rc : RcStore
  runs : Table DceRequirementMaterializationRunRecord
  requirementSources : Table DceRequirementSourceRecord

abbrev ObservationRow := DceRcRequirementObservationRecord × DceRcRequirementSourceRecord

def signalOf (row : ObservationRow) : RequirementSignal :=
  ⟨row.1.id, row.1.requirementKind, row.1.directive, row.1.ruleId, row.1.ruleVersion, row.2.fragmentId,
    row.2.startByteOffset, row.2.endByteOffset⟩

/-- The selected observations with their sources, in the order of their identifiers. -/
def RcStore.observationRows (rc : RcStore) (query : DceRcRequirementObservationRecord → Bool) :
    List ObservationRow :=
  ((rc.observations.join rc.observationSources fun observation source =>
    source.tenantId = observation.tenantId ∧ source.observationId = observation.id).filter
      fun row => query row.1).insertionSort fun first second => first.1.id ≤ second.1.id

def RcStore.analysis (rc : RcStore) (tenantId analysisId : Uuid) : Option DceRcAnalysisRunRecord :=
  rc.analyses.find? fun row => row.tenantId = tenantId ∧ row.id = analysisId

def DceStore.requirementsReady (dce : DceStore) (tenantId dceVersionId : Uuid) : Option DceVersionRecord :=
  (dce.versions.find? fun row => row.tenantId = tenantId ∧ row.id = dceVersionId).filter fun row =>
    row.isAdmitted && row.integrity = .verified

/-- `_load_signals`; an error here leaves the service before it has a command. -/
def loadSignals (store : RequirementStore) (tenantId dceVersionId dceRcAnalysisId : Uuid) :
    Except String (List RequirementSignal) := do
  let _ ← orRaise (store.dce.requirementsReady tenantId dceVersionId) "DCE_VERSION_NOT_REQUIREMENTS_READY"
  let _ ← orRaise ((store.rc.analysis tenantId dceRcAnalysisId).filter fun analysis =>
    analysis.dceVersionId = dceVersionId ∧ analysis.status = .completed) "DCE_RC_ANALYSIS_COMPLETED_REQUIRED"
  return (store.rc.observationRows fun row => row.tenantId = tenantId ∧ row.analysisId = dceRcAnalysisId).map
    signalOf

/-- The handler's own `expected_types`. -/
def expectedTypes : List (RequirementKind × RequirementType) := [
  (.rcDocumentCandidature, .candidatureDocument),
  (.rcContentOffer, .offerDocument),
  (.rcSubmissionDeadline, .submissionDeadlineSignal),
  (.rcResponseChannel, .submissionChannel),
  (.rcFileConstraint, .fileConstraint),
  (.rcSiteVisit, .siteVisit),
  (.rcAwardCriterion, .awardCriterionSignal),
  (.rcNegotiation, .negotiationSignal),
  (.rcOfferValidity, .offerValiditySignal)]

/-- A kind the table lacks raises a `KeyError`. -/
def checkMappings : List (DceRequirementInput × RequirementSignal) → Transaction Unit
  | [] => return
  | (received, signal) :: rest => do
    raiseIf (received.sourceObservationId ≠ signal.observationId) (.failed "DCE_REQUIREMENT_MAPPING_REQUIRED")
    let expected ← orRaise (expectedTypes.lookup signal.requirementKind) (.failed signal.requirementKind.value)
    raiseIf (received.requirementType ≠ expected ∨ received.directiveSignal ≠ signal.directive ∨
      received.confirmationStatus ≠ .pendingHumanConfirmation ∨ received.uncertaintyStatus ≠ .sourceSignalOnly)
      (.failed "DCE_REQUIREMENT_MAPPING_REQUIRED")
    checkMappings rest

def checkRequirements (command : RecordDceRequirementMaterializationRunCommand)
    (signals : List RequirementSignal) : Transaction Unit :=
  if command.status = .completed then do
    raiseIf (command.requirements.length ≠ signals.length) (.failed "DCE_REQUIREMENT_COUNT_REQUIRED")
    checkMappings (command.requirements.zip signals)
  else return

def RequirementStore.existingRun (store : RequirementStore) (tenantId : Uuid)
    (command : RecordDceRequirementMaterializationRunCommand) : Option DceRequirementMaterializationRunRecord :=
  store.runs.find? fun row => row.tenantId = tenantId ∧ row.dceVersionId = command.dceVersionId ∧
    row.dceRcAnalysisId = command.dceRcAnalysisId ∧ row.inputManifestSha256 = lower command.inputManifestSha256 ∧
    row.materializerId = command.materializerId ∧ row.materializerVersion = command.materializerVersion

/-- The source of the last row of an observation. -/
def sourceByObservation (rows : List ObservationRow) (observationId : Uuid) :
    Option DceRcRequirementSourceRecord :=
  (rows.reverse.find? fun row => row.1.id = observationId).map (·.2)

namespace RecordDceRequirementMaterializationRunCommand

variable (command : RecordDceRequirementMaterializationRunCommand) (tenantId : Uuid)

def runRecord : DceRequirementMaterializationRunRecord where
  id := command.requirementsRunId
  tenantId := tenantId
  dceVersionId := command.dceVersionId
  dceRcAnalysisId := command.dceRcAnalysisId
  inputManifestSha256 := lower command.inputManifestSha256
  materializerId := command.materializerId
  materializerVersion := command.materializerVersion
  status := command.status
  sourceObservationCount := command.sourceObservationCount
  failureCode := command.failureCode

def requirementRecord (item : DceRequirementInput) : DceRequirementRecord where
  id := item.requirementId
  tenantId := tenantId
  requirementsRunId := command.requirementsRunId
  dceVersionId := command.dceVersionId
  sourceObservationId := item.sourceObservationId
  requirementType := item.requirementType
  directiveSignal := item.directiveSignal

def requirementSourceRecords (draw : Nat → Uuid) (sources : List DceRcRequirementSourceRecord) :
    List DceRequirementSourceRecord :=
  (command.requirements.zip sources).mapIdx fun index (item, source) =>
    ⟨draw index, tenantId, item.requirementId, item.sourceObservationId, source.fragmentId,
      source.startByteOffset, source.endByteOffset⟩

end RecordDceRequirementMaterializationRunCommand

def alreadyMaterialized (existing : DceRequirementMaterializationRunRecord) : HandlerOutcome where
  resultCode := "DCE_REQUIREMENTS_ALREADY_MATERIALIZED"
  aggregateRefs := [{
    aggregateType := "DCE_REQUIREMENT_MATERIALIZATION_RUN", aggregateId := existing.id.str, aggregateRevision := 0 }]
  events := []

def materialized (command : RecordDceRequirementMaterializationRunCommand) : HandlerOutcome where
  resultCode := "DCE_REQUIREMENTS_MATERIALIZED"
  aggregateRefs := [{
    aggregateType := "DCE_REQUIREMENT_MATERIALIZATION_RUN", aggregateId := command.requirementsRunId.str
    aggregateRevision := 0 }]
  events := [{
    aggregateType := "DCE_REQUIREMENT_MATERIALIZATION_RUN", aggregateId := command.requirementsRunId
    aggregateRevision := 0, eventType := "DCE_REQUIREMENTS_MATERIALIZED"
    payload := [("requirements_run_id", .str command.requirementsRunId.str),
      ("dce_version_id", .str command.dceVersionId.str), ("dce_rc_analysis_id", .str command.dceRcAnalysisId.str),
      ("status", .str command.status.value), ("source_observation_count", .int command.sourceObservationCount),
      ("requirement_count", .int command.requirements.length)] }]

def recordDceRequirementMaterializationRun (store : RequirementStore) (draw : Nat → Uuid)
    (command : RecordDceRequirementMaterializationRunCommand) (context : CommandContext) :
    Transaction (RequirementStore × HandlerOutcome) := do
  raiseIf (context.actorKind ≠ .system) (.failed "DCE_REQUIREMENT_SYSTEM_ACTOR_REQUIRED")
  let version ← orRaise (store.dce.requirementsReady context.tenantId command.dceVersionId)
    (.failed "DCE_VERSION_NOT_REQUIREMENTS_READY")
  let analysis ← orRaise ((store.rc.analysis context.tenantId command.dceRcAnalysisId).filter fun analysis =>
    analysis.dceVersionId = version.id ∧ analysis.status = .completed)
    (.failed "DCE_RC_ANALYSIS_COMPLETED_REQUIRED")
  let rows := store.rc.observationRows fun row => row.tenantId = context.tenantId ∧
    row.analysisId = analysis.id ∧ row.dceVersionId = version.id
  let signals := rows.map signalOf
  raiseIf (lower command.inputManifestSha256 ≠ requirementsManifestSha256 signals)
    (.failed "DCE_REQUIREMENT_INPUT_MANIFEST_REQUIRED")
  raiseIf (command.sourceObservationCount ≠ signals.length) (.failed "DCE_REQUIREMENT_SOURCE_COUNT_REQUIRED")
  match store.existingRun context.tenantId command with
  | some existing => return (store, alreadyMaterialized existing)
  | none =>
    let projection := projectRequirements signals
    raiseIf (command.status ≠ projection.status ∨ command.failureCode ≠ projection.failureCode)
      (.failed "DCE_REQUIREMENT_PROJECTION_REQUIRED")
    checkRequirements command signals
    let runs ← flush (store.runs.insert? (command.runRecord context.tenantId))
    let sources ← collect (fun item => orRaise (sourceByObservation rows item.sourceObservationId)
      (.failed item.sourceObservationId.str)) command.requirements
    let dce ← store.dce.write (.materialize
      (command.requirements.map (command.requirementRecord context.tenantId)))
    let requirementSources ← flush (store.requirementSources.insertAll?
      (command.requirementSourceRecords context.tenantId draw sources))
    return ({ store with dce, runs, requirementSources }, materialized command)

end SmartAo.Dce
