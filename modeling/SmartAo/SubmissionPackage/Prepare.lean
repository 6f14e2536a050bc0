import SmartAo.Foundation.Json
import SmartAo.Foundation.Utf8
import SmartAo.Platform.Dispatcher
import SmartAo.Preparation.Runs
import SmartAo.Submission.DecisionGate
import SmartAo.Submission.EnterpriseEntries

namespace SmartAo.SubmissionPackage

open SmartAo.Foundation SmartAo.Platform SmartAo.Preparation SmartAo.Submission

/-- The manifest entry of the technical document. -/
structure TechnicalEntry where
  kind : DocumentKind
  documentId : Uuid
  version : Nat
  sha256 : String
deriving DecidableEq

/-- The manifest of a package, as its JSON column keeps it. -/
structure SubmissionManifest where
  caseId : Uuid
  preparationPackageId : Uuid
  dceVersionId : Uuid
  readinessRevision : Nat
  readinessState : ReadinessState
  blockerCodes : List String
  warningCodes : List String
  technical : TechnicalEntry
  snapshotId : Uuid
  snapshotRevision : Nat
  enterpriseEntries : List Json

def TechnicalEntry.json (entry : TechnicalEntry) : Json :=
  .obj [("document_id", .str entry.documentId.str), ("kind", .str entry.kind.value), ("sha256", .str entry.sha256),
    ("version", .int entry.version)]

def SubmissionManifest.json (manifest : SubmissionManifest) : Json :=
  .obj [("case_id", .str manifest.caseId.str), ("dce_version_id", .str manifest.dceVersionId.str),
    ("entries", .arr (manifest.technical.json :: .obj [("kind", .str "OFFICIAL_PRICING_VERSION"),
      ("revision", .int manifest.snapshotRevision), ("snapshot_id", .str manifest.snapshotId.str)] ::
        manifest.enterpriseEntries)),
    ("external_submission", .str "NOT_PERFORMED"), ("preparation_package_id", .str manifest.preparationPackageId.str),
    ("readiness", .obj [("blocker_codes", .arr (manifest.blockerCodes.map .str)),
      ("revision", .int manifest.readinessRevision), ("state", .str manifest.readinessState.value),
      ("warning_codes", .arr (manifest.warningCodes.map .str))]),
    ("schema_version", .int 2)]

/-- The bytes that are hashed and exported. -/
def SubmissionManifest.bytes (manifest : SubmissionManifest) : List UInt8 :=
  utf8Bytes manifest.json.dumpsUnicode

structure SubmissionPackageRecord where
  id : Uuid
  tenantId : Uuid
  preparationPackageId : Uuid
  caseId : Uuid
  dceVersionId : Uuid
  technicalDocumentId : Uuid
  technicalDocumentVersion : Nat
  financialSnapshotId : Uuid
  financialSnapshotRevision : Nat
  version : Nat
  manifestSha256 : String
  manifest : SubmissionManifest
  actorId : Uuid
  membershipId : Uuid
  commandId : Uuid
  idempotencyKey : Uuid
  correlationId : Option Uuid

instance : Schema SubmissionPackageRecord := .ownedKeys fun row =>
  (row.id, row.tenantId, (row.preparationPackageId, row.version), row.commandId)

/-- The tables a submission package is prepared and exported from. -/
structure SubmissionStore where
  preparation : Preparation.Store
  decision : Decision.Store
  packages : Table SubmissionPackageRecord
  events : Table DirectEventRecord
  outbox : Table OutboxMessageRecord

def SubmissionStore.empty : SubmissionStore := ⟨.empty, .empty, .empty, .empty, .empty⟩

structure PrepareSubmissionPackageCommand extends ApplicationCommand where
  preparationPackageId : Uuid
  expectedPreparationRevision : Nat

/-- Of two published snapshots, the later one, then the one of the greater id. -/
def publishedLater (first second : Pricing.FinancialReportSnapshotRecord) : Bool :=
  second.publishedAt.getD 0 < first.publishedAt.getD 0 ∨
    (second.publishedAt.getD 0 = first.publishedAt.getD 0 ∧ second.id.toNat ≤ first.id.toNat)

def officialSnapshot (store : SubmissionStore) (tenantId caseId : Uuid) : Option Pricing.FinancialReportSnapshotRecord :=
  ((store.decision.pricing.snapshots.rows.filter fun row =>
    row.tenantId = tenantId ∧ row.caseId = caseId ∧ row.state = .published).insertionSort
      fun first second => publishedLater first second = true).head?

def sortedTexts (texts : List String) : List String := texts.insertionSort fun first second => first ≤ second

/-- The rows that a manifest freezes. -/
structure Frozen where
  preparation : PreparationPackageRecord
  readiness : PreparationReadinessRecord
  document : GeneratedTechnicalDocumentRecord
  snapshot : Pricing.FinancialReportSnapshotRecord
  enterpriseEntries : List Json

def Frozen.manifest (frozen : Frozen) : SubmissionManifest where
  caseId := frozen.preparation.caseId
  preparationPackageId := frozen.preparation.id
  dceVersionId := frozen.preparation.dceVersionId
  readinessRevision := frozen.readiness.revision
  readinessState := frozen.readiness.state
  blockerCodes := sortedTexts (frozen.readiness.blockerCodes.map (·.value))
  warningCodes := sortedTexts (frozen.readiness.warningCodes.map (·.value))
  technical := ⟨frozen.document.documentKind, frozen.document.id, frozen.document.version, frozen.document.contentSha256⟩
  snapshotId := frozen.snapshot.id
  snapshotRevision := frozen.snapshot.aggregateRevision
  enterpriseEntries := frozen.enterpriseEntries

section Prepare

variable (reader : Option SubmissionDecisionGateReader) (store : SubmissionStore)
  (command : PrepareSubmissionPackageCommand) (context : CommandContext) (recordId : Uuid)

/-- The checks of `PrepareSubmissionPackageHandler.execute`, up to the version. -/
def freezeRows : Transaction Frozen := do
  raiseIf (context.actorKind ≠ .patronAdmin ∨ context.membershipId = none) (.execution "SUBMISSION_PATRON_REQUIRED")
  let preparation ← orRaise (store.preparation.package context.tenantId command.preparationPackageId)
    (.execution "NOT_FOUND_OR_FORBIDDEN")
  raiseIf (preparation.aggregateRevision ≠ command.expectedPreparationRevision) (.execution "VERSION_CONFLICT")
  raiseIf (preparation.state ∉ [PackageState.generated, .ready, .aReview]) (.execution "PREPARATION_NOT_GENERATED")
  let readiness ← orRaise (store.preparation.latestReadiness context.tenantId preparation.id)
    (.execution "READINESS_NOT_FOUND")
  raiseIf (readiness.state = .blocked) (.execution "PREPARATION_BLOCKED")
  let document ← orRaise (store.preparation.latestDocument context.tenantId preparation.id)
    (.execution "TECHNICAL_DOCUMENT_REQUIRED")
  let snapshot ← orRaise (officialSnapshot store context.tenantId preparation.caseId)
    (.execution "OFFICIAL_PRICE_NOT_PUBLISHED")
  assertDecisionGate reader store.decision context.tenantId preparation.caseId
  let enterpriseEntries ← validatedEnterpriseEntries store.preparation.sources.enterprise context preparation.caseId
    preparation.assignmentId
  return { preparation, readiness, document, snapshot, enterpriseEntries }

def packageRecord (frozen : Frozen) (membershipId : Uuid) (version : Nat) : SubmissionPackageRecord where
  id := recordId
  tenantId := context.tenantId
  preparationPackageId := frozen.preparation.id
  caseId := frozen.preparation.caseId
  dceVersionId := frozen.preparation.dceVersionId
  technicalDocumentId := frozen.document.id
  technicalDocumentVersion := frozen.document.version
  financialSnapshotId := frozen.snapshot.id
  financialSnapshotRevision := frozen.snapshot.aggregateRevision
  version
  manifestSha256 := hexdigestBytes frozen.manifest.bytes
  manifest := frozen.manifest
  actorId := context.actorId
  membershipId
  commandId := command.commandId
  idempotencyKey := command.idempotencyKey
  correlationId := command.correlationId

/-- `PrepareSubmissionPackageHandler.execute`; the id of the record is drawn. -/
def prepare : Transaction (SubmissionStore × HandlerOutcome) := do
  let frozen ← freezeRows reader store command context
  let membershipId ← orRaise context.membershipId (.execution "SUBMISSION_PATRON_REQUIRED")
  let version := ((store.packages.greatest (fun row => row.tenantId = context.tenantId ∧
    row.preparationPackageId = frozen.preparation.id) (·.version)).getD 0) + 1
  let record := packageRecord command context recordId frozen membershipId version
  let packages ← flush (store.packages.insert? record)
  return ({ store with packages }, {
    resultCode := "SUBMISSION_PACKAGE_PREPARED"
    aggregateRefs := [{
      aggregateType := "SubmissionPackage", aggregateId := record.id.str, aggregateRevision := record.version }]
    events := [{
      aggregateType := "SubmissionPackage", aggregateId := record.id, aggregateRevision := record.version
      eventType := "SubmissionPackagePrepared"
      payload := [("submission_package_id", .str record.id.str),
        ("preparation_package_id", .str frozen.preparation.id.str), ("version", .int record.version),
        ("state", .str "PRET_CONTROLE"), ("manifest_sha256", .str record.manifestSha256),
        ("external_submission", .str "NOT_PERFORMED")] }] })

end Prepare

end SmartAo.SubmissionPackage
