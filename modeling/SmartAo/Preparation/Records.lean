import SmartAo.Dce.Writes
import SmartAo.Enterprise.Records
import SmartAo.Foundation.Digest
import SmartAo.Foundation.Files
import SmartAo.Foundation.Succession
import SmartAo.Membership.Records
import SmartAo.PatronAction.Actions

namespace SmartAo.Preparation

open SmartAo.Foundation SmartAo.Platform SmartAo.Case SmartAo.Dce SmartAo.Membership
  SmartAo.Enterprise SmartAo.PatronAction

inductive PackageState where
  | inPreparation
  | aReview
  | ready
  | blocked
  | generated
deriving DecidableEq

/-- Mutable preparation package owned by one case assignment and DCE version. -/
structure PreparationPackageRecord where
  id : Uuid
  tenantId : Uuid
  caseId : Uuid
  assignmentId : Uuid
  dceVersionId : Uuid
  state : PackageState
  aggregateRevision : Nat
  createdByActorId : Uuid
  membershipId : Uuid
deriving DecidableEq

instance : Schema PreparationPackageRecord :=
  .keyed fun row => (row.id, row.tenantId, row.caseId, row.assignmentId, row.dceVersionId)

inductive ReadinessState where
  | ready
  | readyWithWarnings
  | blocked
deriving DecidableEq

def ReadinessState.value : ReadinessState → String
  | ready => "READY"
  | readyWithWarnings => "READY_WITH_WARNINGS"
  | blocked => "BLOCKED"

/-- The blocker codes, in the order of their texts. -/
inductive BlockerCode where
  | capabilityGapBlocking
  | capabilityProofExpired
  | capabilityProofMissing
  | capabilityProofUnauthorized
  | dceNotReady
  | requirementUnconfirmed
  | taskBlocked
deriving DecidableEq

namespace BlockerCode

def value : BlockerCode → String
  | capabilityGapBlocking => "CAPABILITY_GAP_BLOCKING"
  | capabilityProofExpired => "CAPABILITY_PROOF_EXPIRED"
  | capabilityProofMissing => "CAPABILITY_PROOF_MISSING"
  | capabilityProofUnauthorized => "CAPABILITY_PROOF_UNAUTHORIZED"
  | dceNotReady => "DCE_NOT_READY"
  | requirementUnconfirmed => "REQUIREMENT_UNCONFIRMED"
  | taskBlocked => "TASK_BLOCKED"

def all : List BlockerCode :=
  [capabilityGapBlocking, capabilityProofExpired, capabilityProofMissing, capabilityProofUnauthorized,
    dceNotReady, requirementUnconfirmed, taskBlocked]

theorem mem_all (code : BlockerCode) : code ∈ all := by
  cases code <;> decide

example : (all.map value).Pairwise (· < ·) := by decide

end BlockerCode

inductive WarningCode where
  | capabilityGapImportant
  | taskResultMissing
deriving DecidableEq

namespace WarningCode

def value : WarningCode → String
  | capabilityGapImportant => "CAPABILITY_GAP_IMPORTANT"
  | taskResultMissing => "TASK_RESULT_MISSING"

def all : List WarningCode := [capabilityGapImportant, taskResultMissing]

theorem mem_all (code : WarningCode) : code ∈ all := by
  cases code <;> decide

end WarningCode

/-- Append-only deterministic completeness evaluation. -/
structure PreparationReadinessRecord where
  id : Uuid
  tenantId : Uuid
  packageId : Uuid
  revision : Nat
  state : ReadinessState
  blockerCodes : List BlockerCode
  warningCodes : List WarningCode
  checkedRequirementCount : Nat
  checkedTaskCount : Nat
  inputManifestSha256 : String
  actorId : Uuid
  membershipId : Uuid
deriving DecidableEq

instance : Schema PreparationReadinessRecord :=
  .keyed fun row => (row.id, row.tenantId, row.packageId, row.revision)

inductive DocumentKind where
  | technicalResponse
  | dc1
  | dc2
  | dc4
deriving DecidableEq

def DocumentKind.value : DocumentKind → String
  | technicalResponse => "TECHNICAL_RESPONSE"
  | dc1 => "DC1"
  | dc2 => "DC2"
  | dc4 => "DC4"

inductive DocumentState where
  | generated
  | failedSafe
deriving DecidableEq

/-- Immutable generated technical document metadata; the content stays in private storage. -/
structure GeneratedTechnicalDocumentRecord where
  id : Uuid
  tenantId : Uuid
  packageId : Uuid
  readinessId : Uuid
  version : Nat
  documentKind : DocumentKind
  state : DocumentState
  contentSha256 : String
  storageKey : String
  actorId : Uuid
  membershipId : Uuid
  commandId : Uuid
deriving DecidableEq

instance : Schema GeneratedTechnicalDocumentRecord :=
  .keyed fun row => (row.id, row.tenantId, row.packageId, row.version)

inductive ReviewState where
  | requested
  | accepted
  | returnedWithCorrections
  | rejected
deriving DecidableEq

inductive DecisionCode where
  | accepted
  | correctionsRequired
  | rejected
deriving DecidableEq

/-- Immutable state transition of a review of one document version. -/
structure PreparationReviewRecord where
  id : Uuid
  tenantId : Uuid
  reviewId : Uuid
  packageId : Uuid
  targetDocumentId : Uuid
  targetVersion : Nat
  revision : Nat
  state : ReviewState
  decisionCode : Option DecisionCode
  decisionNote : Option String
  actorId : Uuid
  commandId : Uuid
deriving DecidableEq

instance : Schema PreparationReviewRecord :=
  .keyed fun row => (row.id, row.tenantId, row.reviewId, row.revision)

inductive CorrectionCode where
  | sourceMissing
  | sourceWrong
  | sectionIncomplete
  | wordingUnclear
deriving DecidableEq

/-- Immutable targeted correction attached to a review transition. -/
structure PreparationReviewCorrectionRecord where
  id : Uuid
  tenantId : Uuid
  reviewId : Uuid
  reviewRevision : Nat
  targetDocumentId : Uuid
  revision : Nat
  correctionCode : CorrectionCode
  instruction : String
  sourceLocator : Option String
  actorId : Uuid
  commandId : Uuid
deriving DecidableEq

instance : Schema PreparationReviewCorrectionRecord :=
  .keyed fun row => (row.id, row.tenantId, row.reviewId, row.revision)

/-- Immutable, versioned response draft metadata. -/
structure TechnicalResponseDraftRecord where
  id : Uuid
  tenantId : Uuid
  draftId : Uuid
  packageId : Uuid
  sourceDocumentId : Uuid
  version : Nat
  sectionCodes : List String
  sourceRefs : List String
  contentSha256 : String
  storageKey : String
  actorId : Uuid
  commandId : Uuid
deriving DecidableEq

instance : Schema TechnicalResponseDraftRecord :=
  .keyed fun row => (row.id, row.tenantId, row.draftId, row.version)

/-- Immutable preparation facts frozen for patron review. -/
structure PreparationSnapshotRecord where
  id : Uuid
  tenantId : Uuid
  packageId : Uuid
  caseId : Uuid
  dceVersionId : Uuid
  readinessId : Uuid
  technicalDocumentId : Uuid
  technicalDocumentVersion : Nat
  version : Nat
  manifestSha256 : String
  actorId : Uuid
  commandId : Uuid
deriving DecidableEq

instance : Schema PreparationSnapshotRecord :=
  .keyed fun row => (row.id, row.tenantId, row.packageId, row.version)

/-- Append-only handoff of one snapshot to the patron. -/
structure PreparationTransmissionRecord where
  id : Uuid
  tenantId : Uuid
  packageId : Uuid
  snapshotId : Uuid
  actorId : Uuid
  commandId : Uuid
deriving DecidableEq

instance : Schema PreparationTransmissionRecord :=
  .keyed fun row => (row.id, row.tenantId, row.snapshotId)

/-- The tables of other modules that preparation reads. -/
structure Sources where
  cases : Table CaseRecord
  dce : DceStore
  assignments : Table CaseAssignmentRecord
  tasks : Table CollaboratorTaskRecord
  results : Table CollaboratorTaskResultRecord
  enterprise : EnterpriseStore

def Sources.empty : Sources := ⟨.empty, .empty, .empty, .empty, .empty, .empty⟩

/-- The preparation tables, and the private storage beside them. -/
structure Store where
  sources : Sources
  packages : Table PreparationPackageRecord
  readiness : Table PreparationReadinessRecord
  documents : Table GeneratedTechnicalDocumentRecord
  reviews : Table PreparationReviewRecord
  corrections : Table PreparationReviewCorrectionRecord
  drafts : Table TechnicalResponseDraftRecord
  snapshots : Table PreparationSnapshotRecord
  transmissions : Table PreparationTransmissionRecord
  actions : ActionStore
  files : Files String (List Char)

namespace Store

def empty : Store :=
  ⟨.empty, .empty, .empty, .empty, .empty, .empty, .empty, .empty, .empty, .empty, .empty⟩

def package (store : Store) (tenantId packageId : Uuid) : Option PreparationPackageRecord :=
  store.packages.find? fun row => row.tenantId = tenantId ∧ row.id = packageId

def latestReadiness (store : Store) (tenantId packageId : Uuid) : Option PreparationReadinessRecord :=
  store.readiness.latest (fun row => row.tenantId = tenantId ∧ row.packageId = packageId) (·.revision)

end Store

def advanced (state : PackageState) (package : PreparationPackageRecord) : PreparationPackageRecord :=
  { package with
    state
    aggregateRevision := package.aggregateRevision + 1 }

theorem advanced_columns (state : PackageState) (package : PreparationPackageRecord) :
    Schema.columns (advanced state package) = Schema.columns package := rfl

/-- The row of the package with a state and the next revision. -/
def advancePackage (packages : Table PreparationPackageRecord) (package : PreparationPackageRecord)
    (state : PackageState) : Table PreparationPackageRecord :=
  packages.update (fun row => row.id = package.id) (advanced state) (advanced_columns state)

/-- `storage.write` of a text: its digest; an existing file raises. -/
def writeFile (files : Files String (List Char)) (storageKey : String) (content : List Char) :
    Transaction (Files String (List Char) × String) := do
  let files ← orRaise (files.write? storageKey content)
    (.failed "private generated document already exists")
  return (files, hexdigest content)

end SmartAo.Preparation
