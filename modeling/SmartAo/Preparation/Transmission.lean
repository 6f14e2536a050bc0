import SmartAo.Preparation.Review

namespace SmartAo.Preparation

open SmartAo.Foundation SmartAo.Platform SmartAo.Membership SmartAo.PatronAction

structure CreatePreparationSnapshotCommand extends ApplicationCommand where
  packageId : Uuid
  snapshotId : Uuid
  expectedPackageRevision : Nat

structure TransmitPreparationSnapshotCommand extends ApplicationCommand where
  packageId : Uuid
  snapshotId : Uuid
  transmissionId : Uuid
  expectedPackageRevision : Nat

def ensureActiveAssignment (store : Store) (package : PreparationPackageRecord) (context : CommandContext)
    (membershipId : Uuid) : Transaction Unit := do
  let assignment ← orRaise
    (store.sources.assignments.find? fun row => row.tenantId = context.tenantId ∧
      row.id = package.assignmentId ∧ row.caseId = package.caseId ∧ row.membershipId = membershipId ∧
      row.state = .active)
    (.execution "NOT_FOUND_OR_FORBIDDEN")
  raiseIf (Capability.workTaskWrite ∉ assignment.scopeActions) (.execution "ASSIGNMENT_SCOPE_FORBIDDEN")

/-- The checks both transmission commands begin with. -/
def transmittedPackage (store : Store) (context : CommandContext) (packageId : Uuid) (expectedRevision : Nat) :
    Transaction PreparationPackageRecord := do
  let membershipId ← collaboratorMembership context
  let package ← loadedPackage store context packageId
  raiseIf (package.aggregateRevision ≠ expectedRevision) (.execution "VERSION_CONFLICT")
  ensureActiveAssignment store package context membershipId
  return package

/-- The generated document of the greatest version: `documents[0]`. -/
def Store.latestDocument (store : Store) (tenantId packageId : Uuid) : Option GeneratedTechnicalDocumentRecord :=
  store.documents.latest (fun row => row.tenantId = tenantId ∧ row.packageId = packageId ∧
    row.state = .generated) (·.version)

/-- The latest version of each response draft of a package, in the order of their identifiers. -/
def latestDrafts (store : Store) (tenantId packageId : Uuid) : List TechnicalResponseDraftRecord :=
  let ofPackage (row : TechnicalResponseDraftRecord) := row.tenantId = tenantId ∧ row.packageId = packageId
  let ids := ((store.drafts.rows.filter (ofPackage ·)).map (·.draftId)).dedup.insertionSort
    fun first second => first.toNat ≤ second.toNat
  ids.filterMap fun draftId => store.drafts.latest (fun row => ofPackage row ∧ row.draftId = draftId) (·.version)

def snapshotManifest (package : PreparationPackageRecord) (readiness : PreparationReadinessRecord)
    (document : GeneratedTechnicalDocumentRecord) (drafts : List TechnicalResponseDraftRecord) : Json :=
  .obj [("case_id", .str package.caseId.str), ("dce_version_id", .str package.dceVersionId.str),
    ("documents", .arr [.obj [("document_id", .str document.id.str),
      ("kind", .str document.documentKind.value), ("sha256", .str document.contentSha256),
      ("version", .int document.version)]]),
    ("package_id", .str package.id.str),
    ("readiness", .obj [("blocker_codes", .arr (readiness.blockerCodes.map fun code => .str code.value)),
      ("revision", .int readiness.revision), ("state", .str readiness.state.value),
      ("warning_codes", .arr (readiness.warningCodes.map fun code => .str code.value))]),
    ("response_drafts", .arr (drafts.map fun draft => .obj [("draft_id", .str draft.draftId.str),
      ("section_codes", .arr (draft.sectionCodes.map .str)),
      ("source_refs", .arr (draft.sourceRefs.map .str)), ("state", .str "DRAFT"),
      ("version", .int draft.version)])),
    ("schema_version", .int 1)]

def snapshotRecord (command : CreatePreparationSnapshotCommand) (context : CommandContext)
    (package : PreparationPackageRecord) (readiness : PreparationReadinessRecord)
    (document : GeneratedTechnicalDocumentRecord) (drafts : List TechnicalResponseDraftRecord)
    (version : Nat) : PreparationSnapshotRecord where
  id := command.snapshotId
  tenantId := context.tenantId
  packageId := package.id
  caseId := package.caseId
  dceVersionId := package.dceVersionId
  readinessId := readiness.id
  technicalDocumentId := document.id
  technicalDocumentVersion := document.version
  version := version
  manifestSha256 := hexdigest (snapshotManifest package readiness document drafts).dumpsChars
  actorId := context.actorId
  commandId := command.commandId

/-- `PreparationTransmissionHandler._create_snapshot`. -/
def createSnapshot (store : Store) (command : CreatePreparationSnapshotCommand) (context : CommandContext) :
    Transaction (Store × HandlerOutcome) := do
  let package ← transmittedPackage store context command.packageId command.expectedPackageRevision
  raiseIf (package.state ∉ [PackageState.generated, .aReview]) (.execution "PREPARATION_NOT_GENERATED")
  let readiness ← orRaise (store.latestReadiness context.tenantId package.id)
    (.execution "READINESS_NOT_FOUND")
  raiseIf (readiness.state = .blocked) (.execution "PREPARATION_BLOCKED")
  let document ← orRaise (store.latestDocument context.tenantId package.id)
    (.execution "TECHNICAL_DOCUMENT_REQUIRED")
  let version := ((store.snapshots.greatest (fun row =>
    row.tenantId = context.tenantId ∧ row.packageId = package.id) (·.version)).getD 0) + 1
  let record := snapshotRecord command context package readiness document
    (latestDrafts store context.tenantId package.id) version
  let snapshots ← flush (store.snapshots.insert? record)
  return ({ store with packages := advancePackage store.packages package .ready, snapshots },
    reviewOutcome "PREPARATION_SNAPSHOT_CREATED" "PreparationSnapshot" record.id record.version
      "PreparationSnapshotCreated" [("snapshot_id", .str record.id.str),
        ("package_id", .str package.id.str), ("version", .int record.version),
        ("state", .str "READY_FOR_PATRON_REVIEW"), ("manifest_sha256", .str record.manifestSha256)])

def Store.snapshotOf (store : Store) (tenantId packageId snapshotId : Uuid) : Option PreparationSnapshotRecord :=
  store.snapshots.find? fun row => row.tenantId = tenantId ∧ row.id = snapshotId ∧ row.packageId = packageId

/-- `PreparationTransmissionHandler._transmit_snapshot`. -/
def transmitSnapshot (store : Store) (command : TransmitPreparationSnapshotCommand)
    (context : CommandContext) : Transaction (Store × HandlerOutcome) := do
  let package ← transmittedPackage store context command.packageId command.expectedPackageRevision
  let snapshot ← orRaise (store.snapshotOf context.tenantId package.id command.snapshotId)
    (.execution "SNAPSHOT_NOT_FOUND_OR_FORBIDDEN")
  raiseIf ((store.transmissions.find? fun row =>
    row.tenantId = context.tenantId ∧ row.snapshotId = snapshot.id) ≠ none)
    (.execution "SNAPSHOT_ALREADY_TRANSMITTED")
  let transmissions ← flush (store.transmissions.insert? {
    id := command.transmissionId, tenantId := context.tenantId, packageId := package.id,
    snapshotId := snapshot.id, actorId := context.actorId, commandId := command.commandId })
  let (actions, action) ← createFromPreparationTransmission store.actions context.tenantId package.caseId
    command.transmissionId
  let revision := package.aggregateRevision + 1
  let outcome := reviewOutcome "PREPARATION_TRANSMITTED_TO_PATRON" "PreparationTransmission"
    command.transmissionId revision "PreparationTransmittedToPatron" [
      ("transmission_id", .str command.transmissionId.str), ("snapshot_id", .str snapshot.id.str),
      ("package_id", .str package.id.str), ("state", .str "TRANSMITTED_TO_PATRON")]
  return ({ store with
    packages := advancePackage store.packages package .aReview, transmissions, actions },
    { outcome with events := outcome.events ++ action.toList.map fun action => {
      aggregateType := "PatronAction", aggregateId := action.id,
      aggregateRevision := action.aggregateRevision, eventType := "PatronActionCreated",
      payload := [("action_id", .str action.id.str), ("case_id", .str package.caseId.str),
        ("action_type", .str action.actionType.value), ("severity", .str action.severity.value),
        ("state", .str action.state.value)] } })

end SmartAo.Preparation
