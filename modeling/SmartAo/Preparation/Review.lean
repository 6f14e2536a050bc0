import SmartAo.Preparation.Generation
import Mathlib.Data.List.Dedup

namespace SmartAo.Preparation

open SmartAo.Foundation SmartAo.Platform SmartAo.Membership

structure RequestPreparationReviewCommand extends ApplicationCommand where
  reviewId : Uuid
  packageId : Uuid
  targetDocumentId : Uuid
  targetVersion : Nat
  expectedPackageRevision : Nat

structure DecidePreparationReviewCommand extends ApplicationCommand where
  reviewId : Uuid
  packageId : Uuid
  targetDocumentId : Uuid
  expectedReviewRevision : Nat
  decisionCode : DecisionCode
  decisionNote : Option String

structure AddPreparationCorrectionCommand extends ApplicationCommand where
  reviewId : Uuid
  packageId : Uuid
  targetDocumentId : Uuid
  correctionCode : CorrectionCode
  instruction : String
  sourceLocator : Option String

structure CreateTechnicalResponseDraftCommand extends ApplicationCommand where
  draftId : Uuid
  packageId : Uuid
  sourceDocumentId : Uuid
  expectedPackageRevision : Nat
  sectionCodes : List String
  sourceRefs : List Uuid

def allowedSectionCodes : List String :=
  ["COVER", "UNDERSTANDING", "METHOD", "RESOURCES", "SCHEDULE", "RISKS", "SOURCES"]

def Store.latestReview (store : Store) (tenantId reviewId : Uuid) : Option PreparationReviewRecord :=
  store.reviews.latest (fun row => row.tenantId = tenantId ∧ row.reviewId = reviewId) (·.revision)

def loadedPackage (store : Store) (context : CommandContext) (packageId : Uuid) :
    Transaction PreparationPackageRecord :=
  orRaise (store.package context.tenantId packageId) (.execution "NOT_FOUND_OR_FORBIDDEN")

def reviewOutcome (resultCode aggregateType : String) (aggregateId : Uuid) (revision : Nat)
    (eventType : String) (payload : List (String × Json)) : HandlerOutcome where
  resultCode := resultCode
  aggregateRefs := [⟨aggregateType, aggregateId.str, revision, none⟩]
  events := [{ aggregateType, aggregateId, aggregateRevision := revision, eventType, payload }]

/-- `PreparationReviewHandler._request`. -/
def requestReview (store : Store) (command : RequestPreparationReviewCommand) (context : CommandContext) :
    Transaction (Store × HandlerOutcome) := do
  raiseIf (context.actorKind ≠ .collaborateur) (.execution "COLLABORATOR_REQUIRED")
  let package ← loadedPackage store context command.packageId
  raiseIf (package.aggregateRevision ≠ command.expectedPackageRevision) (.execution "VERSION_CONFLICT")
  let _ ← orRaise
    (store.documents.find? fun row => row.tenantId = context.tenantId ∧
      row.id = command.targetDocumentId ∧ row.packageId = package.id ∧ row.version = command.targetVersion)
    (.execution "TARGET_VERSION_NOT_FOUND")
  raiseIf (store.latestReview context.tenantId command.reviewId ≠ none) (.execution "REVIEW_ALREADY_EXISTS")
  let reviews ← flush (store.reviews.insert? {
    id := command.commandId, tenantId := context.tenantId, reviewId := command.reviewId,
    packageId := package.id, targetDocumentId := command.targetDocumentId,
    targetVersion := command.targetVersion, revision := 1, state := .requested, decisionCode := none,
    decisionNote := none, actorId := context.actorId, commandId := command.commandId })
  return ({ store with packages := advancePackage store.packages package .aReview, reviews },
    reviewOutcome "PREPARATION_REVIEW_REQUESTED" "PreparationReview" command.reviewId 1
      "PreparationReviewRequested" [("review_id", .str command.reviewId.str),
        ("target_document_id", .str command.targetDocumentId.str),
        ("target_version", .int command.targetVersion), ("state", .str "REQUESTED")])

/-- The latest transition of a review, checked against the package and the document it is about. -/
def commandedReview (store : Store) (context : CommandContext) (package : PreparationPackageRecord)
    (reviewId targetDocumentId : Uuid) : Transaction PreparationReviewRecord := do
  let latest ← orRaise (store.latestReview context.tenantId reviewId) (.execution "REVIEW_NOT_FOUND")
  raiseIf (latest.packageId ≠ package.id ∨ latest.targetDocumentId ≠ targetDocumentId)
    (.execution "REVIEW_NOT_FOUND")
  return latest

namespace DecisionCode

def value : DecisionCode → String
  | accepted => "ACCEPTED"
  | correctionsRequired => "CORRECTIONS_REQUIRED"
  | rejected => "REJECTED"

def reviewState : DecisionCode → ReviewState
  | accepted => .accepted
  | correctionsRequired => .returnedWithCorrections
  | rejected => .rejected

def packageState : DecisionCode → PackageState
  | accepted => .ready
  | correctionsRequired => .aReview
  | rejected => .blocked

end DecisionCode

def ReviewState.value : ReviewState → String
  | requested => "REQUESTED"
  | accepted => "ACCEPTED"
  | returnedWithCorrections => "RETURNED_WITH_CORRECTIONS"
  | rejected => "REJECTED"

/-- `PreparationReviewHandler._decide`. -/
def decideReview (store : Store) (command : DecidePreparationReviewCommand) (context : CommandContext) :
    Transaction (Store × HandlerOutcome) := do
  raiseIf (context.actorKind ≠ .patronAdmin) (.execution "PATRON_REQUIRED")
  let package ← loadedPackage store context command.packageId
  let latest ← commandedReview store context package command.reviewId command.targetDocumentId
  raiseIf (latest.revision ≠ command.expectedReviewRevision) (.execution "VERSION_CONFLICT")
  raiseIf (latest.state ∉ [ReviewState.requested, .returnedWithCorrections])
    (.execution "REVIEW_STATE_INVALID")
  let reviews ← flush (store.reviews.insert? { latest with
    id := command.commandId, packageId := package.id, revision := latest.revision + 1,
    state := command.decisionCode.reviewState, decisionCode := some command.decisionCode,
    decisionNote := command.decisionNote, actorId := context.actorId, commandId := command.commandId })
  return ({ store with
    packages := advancePackage store.packages package command.decisionCode.packageState, reviews },
    reviewOutcome "PREPARATION_REVIEW_DECIDED" "PreparationReview" latest.reviewId (latest.revision + 1)
      "PreparationReviewDecided" [("review_id", .str latest.reviewId.str),
        ("revision", .int (latest.revision + 1)), ("decision_code", .str command.decisionCode.value),
        ("state", .str command.decisionCode.reviewState.value)])

def CorrectionCode.value : CorrectionCode → String
  | sourceMissing => "SOURCE_MISSING"
  | sourceWrong => "SOURCE_WRONG"
  | sectionIncomplete => "SECTION_INCOMPLETE"
  | wordingUnclear => "WORDING_UNCLEAR"

/-- `PreparationReviewHandler._correction`, which leaves the package's state. -/
def addCorrection (store : Store) (command : AddPreparationCorrectionCommand) (context : CommandContext) :
    Transaction (Store × HandlerOutcome) := do
  raiseIf (context.actorKind ≠ .patronAdmin) (.execution "PATRON_REQUIRED")
  let package ← loadedPackage store context command.packageId
  let latest ← commandedReview store context package command.reviewId command.targetDocumentId
  raiseIf (latest.state ≠ .returnedWithCorrections) (.execution "CORRECTIONS_NOT_REQUESTED")
  let revision := ((store.corrections.greatest (fun row =>
    row.tenantId = context.tenantId ∧ row.reviewId = latest.reviewId) (·.revision)).getD 0) + 1
  let corrections ← flush (store.corrections.insert? {
    id := command.commandId, tenantId := context.tenantId, reviewId := latest.reviewId,
    reviewRevision := latest.revision, targetDocumentId := latest.targetDocumentId, revision,
    correctionCode := command.correctionCode, instruction := command.instruction,
    sourceLocator := command.sourceLocator, actorId := context.actorId, commandId := command.commandId })
  return ({ store with
    packages := advancePackage store.packages package package.state, corrections },
    reviewOutcome "PREPARATION_CORRECTION_ADDED" "PreparationReview" latest.reviewId revision
      "PreparationCorrectionAdded" [("review_id", .str latest.reviewId.str),
        ("correction_revision", .int revision), ("correction_code", .str command.correctionCode.value)])

def draftKey (tenantId packageId draftId : Uuid) (version : Nat) : String :=
  String.ofList ("technical-response-drafts/".toList ++ (tenantId.chars ++ '/' :: (packageId.chars ++
    '/' :: (draftId.chars ++ '/' :: (Nat.toDigits 10 version ++ ".md".toList)))))

/-- `sorted(set(texts))`. -/
def sortedSet (texts : List String) : List String := texts.dedup.insertionSort (· ≤ ·)

def draftContent (sections refs : List String) : List Char :=
  ("# Brouillon de réponse technique\n\n" ++
    "Ce brouillon est un candidat soumis à revue humaine.\n").toList ++
    "Sections: ".toList ++ joined [',', ' '] (sections.map String.toList) ++
    "\nSources internes: ".toList ++ joined [',', ' '] (refs.map String.toList) ++ ['\n']

/-- A draft whose checks have passed, before its file is written. -/
structure PendingDraft where
  package : PreparationPackageRecord
  source : GeneratedTechnicalDocumentRecord
  version : Nat
  content : List Char

/-- `PreparationReviewHandler._draft` up to the storage write. -/
def pendingDraft (store : Store) (command : CreateTechnicalResponseDraftCommand)
    (context : CommandContext) : Transaction PendingDraft := do
  raiseIf (context.actorKind ≠ .collaborateur) (.execution "COLLABORATOR_REQUIRED")
  let package ← loadedPackage store context command.packageId
  raiseIf (package.aggregateRevision ≠ command.expectedPackageRevision) (.execution "VERSION_CONFLICT")
  raiseIf (¬ ∀ code ∈ command.sectionCodes, code ∈ allowedSectionCodes) (.execution "SECTION_CODE_INVALID")
  let source ← orRaise
    (store.documents.find? fun row => row.tenantId = context.tenantId ∧
      row.id = command.sourceDocumentId ∧ row.packageId = package.id)
    (.execution "SOURCE_DOCUMENT_NOT_FOUND")
  let version := ((store.drafts.greatest (fun row =>
    row.tenantId = context.tenantId ∧ row.draftId = command.draftId) (·.version)).getD 0) + 1
  let content := draftContent (sortedSet command.sectionCodes) (sortedSet (command.sourceRefs.map Uuid.str))
  raiseIf (containsForbiddenText content) (.execution "FINANCIAL_DATA_FORBIDDEN")
  return { package, source, version, content }

def draftRecord (command : CreateTechnicalResponseDraftCommand) (context : CommandContext)
    (pending : PendingDraft) (contentSha256 : String) : TechnicalResponseDraftRecord where
  id := command.commandId
  tenantId := context.tenantId
  draftId := command.draftId
  packageId := pending.package.id
  sourceDocumentId := pending.source.id
  version := pending.version
  sectionCodes := sortedSet command.sectionCodes
  sourceRefs := sortedSet (command.sourceRefs.map Uuid.str)
  contentSha256 := contentSha256
  storageKey := draftKey context.tenantId pending.package.id command.draftId pending.version
  actorId := context.actorId
  commandId := command.commandId

/-- `PreparationReviewHandler._draft`. -/
def createDraft (store : Store) (command : CreateTechnicalResponseDraftCommand) (context : CommandContext) :
    Transaction (Store × HandlerOutcome) := do
  let pending ← pendingDraft store command context
  let (files, contentSha256) ← writeFile store.files
    (draftKey context.tenantId pending.package.id command.draftId pending.version) pending.content
  let record := draftRecord command context pending contentSha256
  let drafts ← flush (store.drafts.insert? record)
  return ({ store with
    packages := advancePackage store.packages pending.package .inPreparation
    drafts, files },
    reviewOutcome "TECHNICAL_RESPONSE_DRAFT_CREATED" "TechnicalResponseDraft" command.draftId
      pending.version "TechnicalResponseDraftCreated" [("draft_id", .str command.draftId.str),
        ("version", .int pending.version), ("package_id", .str pending.package.id.str),
        ("state", .str "DRAFT")])

end SmartAo.Preparation
