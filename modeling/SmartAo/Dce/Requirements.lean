import SmartAo.Dce.Fragments
import SmartAo.Dce.RcRecords
import SmartAo.Foundation.Join
import Mathlib.Data.List.Sort

namespace SmartAo.Dce

open SmartAo.Foundation SmartAo.Platform

def materializerId : String := "smart-ao-rc-requirement-materializer"

def materializerVersion : String := "2"

def maxObservations : Nat := 20000

/-- `_REQUIREMENT_TYPES` -/
def requirementTypes : List (RequirementKind × RequirementType) := [
  (.rcDocumentCandidature, .candidatureDocument),
  (.rcContentOffer, .offerDocument),
  (.rcSubmissionDeadline, .submissionDeadlineSignal),
  (.rcResponseChannel, .submissionChannel),
  (.rcFileConstraint, .fileConstraint),
  (.rcSiteVisit, .siteVisit),
  (.rcAwardCriterion, .awardCriterionSignal),
  (.rcNegotiation, .negotiationSignal),
  (.rcOfferValidity, .offerValiditySignal),
  (.ccapPenalties, .contractRiskSignal),
  (.ccapRetentionGuarantee, .contractRiskSignal),
  (.ccapGuarantee, .contractRiskSignal),
  (.ccapInsurance, .contractRiskSignal),
  (.cctpVariants, .contractRiskSignal),
  (.ccapSubcontracting, .contractRiskSignal),
  (.ccapQualifications, .contractRiskSignal)]

structure RequirementSignal where
  observationId : Uuid
  requirementKind : RequirementKind
  directive : DirectiveSignal
  ruleId : String
  ruleVersion : String
  fragmentId : Uuid
  startByteOffset : Nat
  endByteOffset : Nat
deriving DecidableEq

inductive MaterializationStatus where
  | completed
  | noSignal
  | rejectedLimit
  | failedSafe
deriving DecidableEq

def MaterializationStatus.value : MaterializationStatus → String
  | completed => "COMPLETED"
  | noSignal => "NO_SIGNAL"
  | rejectedLimit => "REJECTED_LIMIT"
  | failedSafe => "FAILED_SAFE"

structure RequirementProjection where
  status : MaterializationStatus
  failureCode : Option String
  signals : List RequirementSignal

def projectRequirements (signals : List RequirementSignal) : RequirementProjection :=
  if maxObservations < signals.length then ⟨.rejectedLimit, some "REQUIREMENT_LIMIT", signals⟩
  else if signals = [] then ⟨.noSignal, none, []⟩
  else if ∃ signal ∈ signals, requirementTypes.lookup signal.requirementKind = none then
    ⟨.failedSafe, some "REQUIREMENT_MAPPING_UNKNOWN", signals⟩
  else ⟨.completed, none, signals⟩

def requirementsManifestSha256 (signals : List RequirementSignal) : String :=
  manifestSha256 (signals.map fun signal => [signal.observationId.chars, signal.requirementKind.value.toList,
    signal.directive.value.toList, signal.ruleId.toList, signal.ruleVersion.toList, signal.fragmentId.chars,
    Nat.toDigits 10 signal.startByteOffset, Nat.toDigits 10 signal.endByteOffset])

inductive ConfirmationStatus where
  | pendingHumanConfirmation
deriving DecidableEq

inductive UncertaintyStatus where
  | sourceSignalOnly
deriving DecidableEq

structure DceRequirementInput where
  requirementId : Uuid
  sourceObservationId : Uuid
  requirementType : RequirementType
  directiveSignal : DirectiveSignal
  confirmationStatus : ConfirmationStatus
  uncertaintyStatus : UncertaintyStatus

structure RecordDceRequirementMaterializationRunCommand extends ApplicationCommand where
  requirementsRunId : Uuid
  dceVersionId : Uuid
  dceRcAnalysisId : Uuid
  inputManifestSha256 : String
  materializerId : String
  materializerVersion : String
  status : MaterializationStatus
  sourceObservationCount : Nat
  failureCode : Option String
  requirements : List DceRequirementInput

namespace RecordDceRequirementMaterializationRunCommand

def validateTerminalProjection (command : RecordDceRequirementMaterializationRunCommand) :
    Except ValidationError Unit := do
  raiseIf (¬ (command.requirements.map (·.sourceObservationId)).Nodup)
    (.model "requirement source observation identifier duplicate")
  raiseIf (¬ (command.requirements.map (·.requirementId)).Nodup) (.model "requirement identifier duplicate")
  match command.status with
  | .completed =>
    raiseIf (command.failureCode ≠ none ∨ command.requirements.length ≠ command.sourceObservationCount)
      (.model "completed materialization requires one requirement per observation")
  | .noSignal =>
    raiseIf (command.failureCode ≠ none ∨ command.sourceObservationCount ≠ 0 ∨ command.requirements.length ≠ 0)
      (.model "no-signal materialization requires no observations or requirements")
  | .rejectedLimit | .failedSafe =>
    raiseIf (command.failureCode = none ∨ command.requirements.length ≠ 0)
      (.model "failed materialization requires a code and no requirements")

def build (command : RecordDceRequirementMaterializationRunCommand) :
    Except ValidationError RecordDceRequirementMaterializationRunCommand := do
  raiseIf (isSha256 command.inputManifestSha256 = false) (.field "input_manifest_sha256")
  raiseIf (command.materializerId = "" ∨ 100 < command.materializerId.length) (.field "materializer_id")
  raiseIf (command.materializerVersion = "" ∨ 64 < command.materializerVersion.length)
    (.field "materializer_version")
  raiseIf (command.failureCode.any fun code => 120 < code.length) (.field "failure_code")
  raiseIf (20000 < command.requirements.length) (.field "requirements")
  command.validateTerminalProjection
  return command

end RecordDceRequirementMaterializationRunCommand

def requirementsRunId (dceRcAnalysisId : Uuid) (signals : List RequirementSignal) : Uuid :=
  uuid5 dceRcAnalysisId ((requirementsManifestSha256 signals).toList ++ ':' :: (materializerId.toList ++
    ':' :: materializerVersion.toList))

def requirementInput? (runId : Uuid) (signal : RequirementSignal) : Except ValidationError DceRequirementInput := do
  let requirementType ← orRaise (requirementTypes.lookup signal.requirementKind)
    (.key signal.requirementKind.value)
  return {
    requirementId := uuid5 runId signal.observationId.chars, sourceObservationId := signal.observationId
    requirementType, directiveSignal := signal.directive
    confirmationStatus := .pendingHumanConfirmation, uncertaintyStatus := .sourceSignalOnly }

/-- `recording_command` -/
def materializationCommand (dceVersionId dceRcAnalysisId : Uuid) (projection : RequirementProjection) :
    Except ValidationError RecordDceRequirementMaterializationRunCommand := do
  let runId := requirementsRunId dceRcAnalysisId projection.signals
  let requirements ← collect (requirementInput? runId)
    (if projection.status = .completed then projection.signals else [])
  RecordDceRequirementMaterializationRunCommand.build {
    commandId := runId, idempotencyKey := runId, correlationId := some dceVersionId
    requirementsRunId := runId, dceVersionId, dceRcAnalysisId
    inputManifestSha256 := requirementsManifestSha256 projection.signals, materializerId, materializerVersion
    status := projection.status, sourceObservationCount := projection.signals.length
    failureCode := projection.failureCode, requirements }

end SmartAo.Dce
