import SmartAo.Preparation.Readiness
import Mathlib.Data.List.Basic

namespace SmartAo.Membership

def forbiddenFinancialTerms : List (List Char) := [
  "price".toList, "prix".toList, "cost".toList, "coût".toList, "cout".toList, "margin".toList,
  "marge".toList, "treasury".toList, "trésorerie".toList, "tresorerie".toList, "financial".toList,
  "financier".toList, "finance".toList, "go/no-go".toList, "go_no_go".toList, "deposit".toList,
  "dépôt".toList, "depot".toList, "submission".toList, "soumission".toList, "chiffrage".toList]

/-- `\w` on ASCII and the Latin letters the texts are written with. -/
def isWord (c : Char) : Bool :=
  let code := c.toNat
  if code < 0x80 then
    (97 ≤ code && code ≤ 122) || (65 ≤ code && code ≤ 90) || (48 ≤ code && code ≤ 57) || code == 95
  else 0xc0 ≤ code && code ≤ 0x24f && code != 0xd7 && code != 0xf7

/-- The lower case of the letters the terms are written with, under `IGNORECASE`. -/
def lowerLetter (c : Char) : Char :=
  if c.toNat < 0x80 then c.toLower
  else if c = 'Û' then 'û' else if c = 'É' then 'é' else if c = 'Ô' then 'ô'
  else if c = 'İ' ∨ c = 'ı' then 'i' else if c = 'ſ' then 's' else c

/-- A term stands at the head of the text, up to a word boundary. -/
def termAtHead : List Char → List Char → Bool
  | [], rest => rest.head?.all fun c => !isWord c
  | _ :: _, [] => false
  | letter :: term, c :: rest => lowerLetter c == letter && termAtHead term rest

/-- The search from a position whose preceding character is or is not in a word. -/
def searchTerms : Bool → List Char → Bool
  | _, [] => false
  | inWord, c :: rest =>
    (!inWord && forbiddenFinancialTerms.any fun term => termAtHead term (c :: rest)) ||
      searchTerms (isWord c) rest

/-- Whether collaborator-facing text contains financial terms. -/
def containsForbiddenText (text : List Char) : Bool := searchTerms false text

example : containsForbiddenText "Le Coût, estimé.".toList = true ∧
    containsForbiddenText "SUBMISSION_CHANNEL surcoût".toList = false := by decide +kernel

end SmartAo.Membership

namespace SmartAo.Preparation

open SmartAo.Foundation SmartAo.Platform SmartAo.Dce SmartAo.Membership

structure GenerateTechnicalDocumentCommand extends ApplicationCommand where
  packageId : Uuid
  documentId : Uuid
  expectedRevision : Nat
  readinessRevision : Nat
  documentKind : DocumentKind

def Store.readinessAt (store : Store) (tenantId packageId : Uuid) (revision : Nat) :
    Option PreparationReadinessRecord :=
  store.readiness.find? fun row =>
    row.tenantId = tenantId ∧ row.packageId = packageId ∧ row.revision = revision

def controlledContent (kind : ControlledDocumentKind) (package : PreparationPackageRecord)
    (readiness : PreparationReadinessRecord) (version : Nat)
    (requirements : List PreparationRequirementInput) : List Char :=
  let facts : ControlledDraftServerFacts := {
    caseId := package.caseId, dceVersionId := package.dceVersionId, readinessState := readiness.state,
    readinessRevision := readiness.revision,
    confirmedRequirementIds := (requirements.filter fun requirement =>
      requirement.confirmationOutcome = some .confirmed).map (·.requirementId)
    blockerCodes := readiness.blockerCodes, warningCodes := readiness.warningCodes }
  buildControlledBtpDocument kind package.caseId package.dceVersionId version (facts.forKind kind)
    readiness.blockerCodes

def documentContent (kind : DocumentKind) (package : PreparationPackageRecord)
    (readiness : PreparationReadinessRecord) (version : Nat)
    (requirements : List PreparationRequirementInput) : List Char :=
  match kind with
  | .technicalResponse => buildTechnicalDocument {
      caseId := package.caseId, dceVersionId := package.dceVersionId,
      readinessState := readiness.state, readinessRevision := readiness.revision,
      documentVersion := version, requirements, blockerCodes := readiness.blockerCodes,
      warningCodes := readiness.warningCodes }
  | .dc1 => controlledContent .dc1 package readiness version requirements
  | .dc2 => controlledContent .dc2 package readiness version requirements
  | .dc4 => controlledContent .dc4 package readiness version requirements

def DocumentKind.outcome : DocumentKind → String × String
  | technicalResponse => ("TECHNICAL_DOCUMENT_GENERATED", "TechnicalDocumentGenerated")
  | dc1 | dc2 | dc4 => ("CONTROLLED_DRAFT_GENERATED", "ControlledDraftGenerated")

def documentKey (tenantId packageId documentId : Uuid) : String :=
  String.ofList ("generated-documents/".toList ++ (tenantId.chars ++ '/' :: (packageId.chars ++
    '/' :: (documentId.chars ++ ".md".toList))))

/-- A document whose checks have passed, before its file is written. -/
structure PendingDocument where
  package : PreparationPackageRecord
  readiness : PreparationReadinessRecord
  membershipId : Uuid
  version : Nat
  content : List Char

/-- `PreparationHandler._generate` up to the storage write. -/
def pendingDocument (store : Store) (command : GenerateTechnicalDocumentCommand)
    (context : CommandContext) : Transaction PendingDocument := do
  let membershipId ← collaboratorMembership context
  let package ← orRaise (store.package context.tenantId command.packageId)
    (.execution "NOT_FOUND_OR_FORBIDDEN")
  ensureAssignment store package context membershipId
  raiseIf (package.aggregateRevision ≠ command.expectedRevision) (.execution "VERSION_CONFLICT")
  let readiness ← orRaise (store.readinessAt context.tenantId package.id command.readinessRevision)
    (.execution "READINESS_NOT_FOUND")
  raiseIf (readiness.state = .blocked) (.execution "PREPARATION_BLOCKED")
  let dce ← orRaise (readDce store.sources.dce context.tenantId package.dceVersionId)
    (.execution "DCE_NOT_FOUND_OR_FORBIDDEN")
  let version := ((store.documents.greatest (fun row =>
    row.tenantId = context.tenantId ∧ row.packageId = package.id) (·.version)).getD 0) + 1
  let content := documentContent command.documentKind package readiness version dce.requirements
  raiseIf (containsForbiddenText content) (.execution "FINANCIAL_DATA_FORBIDDEN")
  return { package, readiness, membershipId, version, content }

def documentRecord (command : GenerateTechnicalDocumentCommand) (context : CommandContext)
    (pending : PendingDocument) (contentSha256 : String) : GeneratedTechnicalDocumentRecord where
  id := command.documentId
  tenantId := context.tenantId
  packageId := pending.package.id
  readinessId := pending.readiness.id
  version := pending.version
  documentKind := command.documentKind
  state := .generated
  contentSha256 := contentSha256
  storageKey := documentKey context.tenantId pending.package.id command.documentId
  actorId := context.actorId
  membershipId := pending.membershipId
  commandId := command.commandId

/-- `PreparationHandler._generate`. -/
def generate (store : Store) (command : GenerateTechnicalDocumentCommand) (context : CommandContext) :
    Transaction (Store × HandlerOutcome) := do
  let pending ← pendingDocument store command context
  let (files, contentSha256) ← writeFile store.files
    (documentKey context.tenantId pending.package.id command.documentId) pending.content
  let record := documentRecord command context pending contentSha256
  let documents ← flush (store.documents.insert? record)
  return ({ store with
    packages := advancePackage store.packages pending.package .generated
    documents, files }, {
    resultCode := command.documentKind.outcome.1
    aggregateRefs := [{
      aggregateType := "GeneratedTechnicalDocument", aggregateId := record.id.str,
      aggregateRevision := record.version }]
    events := [{
      aggregateType := "GeneratedTechnicalDocument", aggregateId := record.id,
      aggregateRevision := record.version, eventType := command.documentKind.outcome.2,
      payload := [("document_id", .str record.id.str), ("package_id", .str pending.package.id.str),
        ("version", .int record.version), ("document_kind", .str record.documentKind.value),
        ("state", .str "GENERATED")] }] })

end SmartAo.Preparation
