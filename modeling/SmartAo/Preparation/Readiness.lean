import SmartAo.Preparation.DocumentContent
import SmartAo.Membership.WorkTask

namespace SmartAo.Preparation

open SmartAo.Foundation SmartAo.Platform SmartAo.Dce SmartAo.Membership SmartAo.Enterprise

structure PreparationDceInput where
  analysisReadiness : AnalysisReadiness
  requirements : List PreparationRequirementInput

def requirementInput (dce : DceStore) (tenantId : Uuid) (requirement : DceRequirementRecord) :
    PreparationRequirementInput where
  requirementId := requirement.id
  requirementType := requirement.requirementType
  directiveSignal := requirement.directiveSignal
  confirmationOutcome := (dce.currentConfirmation tenantId requirement.id).map (·.outcome)

/-- `SqlAlchemyPreparationDceReader.read`. -/
def readDce (dce : DceStore) (tenantId dceVersionId : Uuid) : Option PreparationDceInput :=
  (dce.versions.find? fun row => row.tenantId = tenantId ∧ row.id = dceVersionId).map fun version => {
    analysisReadiness := version.analysisReadiness
    requirements := ((dce.requirements.rows.filter fun row =>
      row.tenantId = tenantId ∧ row.dceVersionId = dceVersionId).insertionSort fun first second =>
        first.id.toNat ≤ second.id.toNat).map (requirementInput dce tenantId) }

inductive ProofState where
  | current
  | expired
  | unauthorized
deriving DecidableEq

def ProofState.value : ProofState → String
  | current => "CURRENT"
  | expired => "EXPIRED"
  | unauthorized => "UNAUTHORIZED"

def expiredAt (instant : Timestamp) (expiry : Option Timestamp) : Bool :=
  expiry.any fun expiry => expiry ≤ instant

/-- How readiness judges one proof of a proposed capability. -/
def proofState (store : EnterpriseStore) (context : CommandContext)
    (capability : Option EnterpriseCapabilityRecord) (link : EnterpriseCapabilityProofLinkRecord) :
    ProofState :=
  match store.document context.tenantId link.documentId, capability with
  | some document, some capability =>
    if document.companyId ≠ capability.companyId then .unauthorized
    else if document.verificationStatus ≠ .validated then .unauthorized
    else if expiredAt context.receivedAt document.expiresAt then .expired
    else .current
  | _, _ => .unauthorized

def proofStates (store : EnterpriseStore) (context : CommandContext)
    (proposal : CaseCapabilityProposalRecord) : List ProofState :=
  (store.proofLinks context.tenantId proposal.capabilityVersionId).map
    (proofState store context (store.capability context.tenantId proposal.capabilityId))

/-- The code readiness adds for one proposal. -/
def proofBlocker (store : EnterpriseStore) (context : CommandContext)
    (proposal : CaseCapabilityProposalRecord) : Option BlockerCode :=
  match store.capability context.tenantId proposal.capabilityId,
    store.version context.tenantId proposal.capabilityVersionId proposal.capabilityId with
  | some capability, some version =>
    let states := proofStates store context proposal
    if capability.state ≠ .active then some .capabilityProofUnauthorized
    else if context.receivedAt < version.validFrom ∨ expiredAt context.receivedAt version.validUntil ∨
        proposal.validityState = .expired then some .capabilityProofExpired
    else if states = [] then some .capabilityProofMissing
    else if .current ∈ states then none
    else if .expired ∈ states then some .capabilityProofExpired
    else some .capabilityProofUnauthorized
  | _, _ => some .capabilityProofUnauthorized

/-- What one evaluation reads. -/
structure ReadinessInputs where
  dce : PreparationDceInput
  tasks : List CollaboratorTaskRecord
  proposals : List CaseCapabilityProposalRecord
  gaps : List CaseCapabilityGapRecord

def readinessInputs (sources : Sources) (context : CommandContext) (package : PreparationPackageRecord)
    (dce : PreparationDceInput) : ReadinessInputs where
  dce := dce
  tasks := sources.tasks.rows.filter fun row => row.tenantId = context.tenantId ∧
    row.caseId = package.caseId ∧ row.assignmentId = package.assignmentId
  proposals := sources.enterprise.caseProposals context.tenantId package.caseId package.assignmentId
  gaps := sources.enterprise.caseGaps context.tenantId package.caseId package.assignmentId

def unconfirmed (requirement : PreparationRequirementInput) : Bool :=
  requirement.confirmationOutcome = none ∨ requirement.confirmationOutcome = some .reviewRequired

def blockedBy (sources : Sources) (context : CommandContext) (inputs : ReadinessInputs)
    (code : BlockerCode) : Bool :=
  match code with
  | .capabilityGapBlocking => inputs.gaps.any fun gap => gap.severity = .blocking
  | .dceNotReady => inputs.dce.analysisReadiness ≠ .readyForAnalysis
  | .requirementUnconfirmed => inputs.dce.requirements.any unconfirmed
  | .taskBlocked => inputs.tasks.any fun task => task.state = .blocked
  | .capabilityProofExpired | .capabilityProofMissing | .capabilityProofUnauthorized =>
    some code ∈ inputs.proposals.map (proofBlocker sources.enterprise context)

/-- A task still open and without a recorded result. -/
def resultMissing (sources : Sources) (context : CommandContext) (task : CollaboratorTaskRecord) : Bool :=
  (task.state = .ready ∨ task.state = .inProgress) ∧
    (sources.results.find? fun row => row.tenantId = context.tenantId ∧ row.taskId = task.id) = none

def warnedBy (sources : Sources) (context : CommandContext) (inputs : ReadinessInputs) :
    WarningCode → Bool
  | .capabilityGapImportant => inputs.gaps.all (fun gap => gap.severity ≠ .blocking) ∧
    inputs.gaps.any fun gap => gap.severity = .important
  | .taskResultMissing => inputs.tasks.any (resultMissing sources context)

def readinessState (blockerCodes : List BlockerCode) (warningCodes : List WarningCode) : ReadinessState :=
  if blockerCodes ≠ [] then .blocked
  else if warningCodes ≠ [] then .readyWithWarnings
  else .ready

def sortedTexts (texts : List String) : Json := .arr ((texts.insertionSort (· ≤ ·)).map .str)

def readinessManifest (sources : Sources) (context : CommandContext) (package : PreparationPackageRecord)
    (inputs : ReadinessInputs) (blockerCodes : List BlockerCode) (warningCodes : List WarningCode) : Json :=
  .obj [("assignment_id", .str package.assignmentId.str),
    ("blockers", .arr (blockerCodes.map fun code => .str code.value)),
    ("capability_assessments", .arr (inputs.proposals.map fun proposal => .obj [
      ("capability_version_id", .str proposal.capabilityVersionId.str),
      ("proof_states", sortedTexts ((proofStates sources.enterprise context proposal).map (·.value))),
      ("proposal_id", .str proposal.id.str)])),
    ("case_id", .str package.caseId.str),
    ("dce_version_id", .str package.dceVersionId.str),
    ("gaps", .arr ((inputs.gaps.insertionSort fun first second => first.id.toNat ≤ second.id.toNat).map
      fun gap => .obj [("gap_id", .str gap.id.str), ("gap_kind", .str gap.gapKind.value),
        ("severity", .str gap.severity.value)])),
    ("requirements", sortedTexts (inputs.dce.requirements.map (·.requirementId.str))),
    ("tasks", sortedTexts (inputs.tasks.map (·.id.str))),
    ("warnings", .arr (warningCodes.map fun code => .str code.value))]

structure EvaluatePreparationReadinessCommand extends ApplicationCommand where
  packageId : Uuid
  caseId : Uuid
  assignmentId : Uuid
  dceVersionId : Uuid
  expectedRevision : Nat

def ensureAssignment (store : Store) (package : PreparationPackageRecord) (context : CommandContext)
    (membershipId : Uuid) : Transaction Unit := do
  let assignment ← orRaise
    (store.sources.assignments.find? fun row => row.tenantId = context.tenantId ∧
      row.id = package.assignmentId ∧ row.caseId = package.caseId ∧ row.membershipId = membershipId)
    (.execution "NOT_FOUND_OR_FORBIDDEN")
  raiseIf (assignment.state ≠ .active) (.execution "NOT_FOUND_OR_FORBIDDEN")
  raiseIf (Capability.workTaskWrite ∉ assignment.scopeActions) (.execution "ASSIGNMENT_SCOPE_FORBIDDEN")

/-- The package a command evaluates: a stored one named with its context, or a new one. -/
def evaluatedPackage (store : Store) (command : EvaluatePreparationReadinessCommand)
    (context : CommandContext) (membershipId : Uuid) :
    Transaction (PreparationPackageRecord × Table PreparationPackageRecord) :=
  match store.package context.tenantId command.packageId with
  | none => do
    raiseIf (command.expectedRevision ≠ 0) (.execution "VERSION_CONFLICT")
    let package : PreparationPackageRecord := {
      id := command.packageId, tenantId := context.tenantId, caseId := command.caseId,
      assignmentId := command.assignmentId, dceVersionId := command.dceVersionId,
      state := .inPreparation, aggregateRevision := 0, createdByActorId := context.actorId,
      membershipId }
    let packages ← flush (store.packages.insert? package)
    return (package, packages)
  | some package => do
    raiseIf (package.caseId ≠ command.caseId ∨ package.assignmentId ≠ command.assignmentId ∨
      package.dceVersionId ≠ command.dceVersionId) (.execution "PREPARATION_CONTEXT_MISMATCH")
    ensureAssignment store package context membershipId
    raiseIf (package.aggregateRevision ≠ command.expectedRevision) (.execution "VERSION_CONFLICT")
    return (package, store.packages)

/-- The evaluation of a package from what was read. -/
def readinessRecord (sources : Sources) (command : EvaluatePreparationReadinessCommand)
    (context : CommandContext) (membershipId : Uuid) (package : PreparationPackageRecord)
    (dce : PreparationDceInput) : PreparationReadinessRecord :=
  let inputs := readinessInputs sources context package dce
  let blockerCodes := BlockerCode.all.filter (blockedBy sources context inputs)
  let warningCodes := WarningCode.all.filter (warnedBy sources context inputs)
  { id := command.commandId, tenantId := context.tenantId, packageId := package.id,
    revision := package.aggregateRevision + 1, state := readinessState blockerCodes warningCodes,
    blockerCodes, warningCodes, checkedRequirementCount := dce.requirements.length,
    checkedTaskCount := inputs.tasks.length,
    inputManifestSha256 := hexdigest
      (readinessManifest sources context package inputs blockerCodes warningCodes).dumpsChars,
    actorId := context.actorId, membershipId }

def evaluatedState (readiness : PreparationReadinessRecord) : PackageState :=
  if readiness.state = .blocked then .blocked else .ready

/-- `PreparationHandler._evaluate`. -/
def evaluate (store : Store) (command : EvaluatePreparationReadinessCommand) (context : CommandContext) :
    Transaction (Store × HandlerOutcome) := do
  let membershipId ← collaboratorMembership context
  let (package, packages) ← evaluatedPackage store command context membershipId
  let dce ← orRaise (readDce store.sources.dce context.tenantId package.dceVersionId)
    (.execution "DCE_NOT_FOUND_OR_FORBIDDEN")
  let record := readinessRecord store.sources command context membershipId package dce
  let readiness ← flush (store.readiness.insert? record)
  return ({ store with
    packages := advancePackage packages package (evaluatedState record)
    readiness }, {
    resultCode := "PREPARATION_READINESS_EVALUATED"
    aggregateRefs := [{
      aggregateType := "PreparationPackage", aggregateId := package.id.str,
      aggregateRevision := record.revision }]
    events := [{
      aggregateType := "PreparationPackage", aggregateId := package.id,
      aggregateRevision := record.revision, eventType := "PreparationReadinessEvaluated",
      payload := [("package_id", .str package.id.str), ("readiness_id", .str record.id.str),
        ("state", .str record.state.value),
        ("blocker_codes", .arr (record.blockerCodes.map fun code => .str code.value)),
        ("warning_codes", .arr (record.warningCodes.map fun code => .str code.value))] }] })

end SmartAo.Preparation
