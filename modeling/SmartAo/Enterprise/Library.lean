import SmartAo.Enterprise.Uploads

namespace SmartAo.Enterprise

open SmartAo.Foundation SmartAo.Platform

structure CreateEnterpriseCompanyCommand extends ApplicationCommand where
  companyId : Uuid

structure RegisterEnterpriseDocumentCommand extends ApplicationCommand where
  companyId : Uuid
  documentId : Uuid
  expectedRevision : Nat
  documentKind : DocumentKind
  documentLabel : String
  storageObjectId : Uuid
  originalFilename : String
  issuedAt : Timestamp
  expiresAt : Option Timestamp
  verificationStatus : VerificationStatus
  dated : ∀ expiry ∈ expiresAt, issuedAt < expiry
  undated : documentKind = .rib → expiresAt = none
  pending : verificationStatus = .pending

structure CreateEnterpriseCapabilityCommand extends ApplicationCommand where
  companyId : Uuid
  capabilityId : Uuid
  capabilityKind : CapabilityKind
  name : String
  summary : String
  state : CapabilityState

structure AddEnterpriseCapabilityVersionCommand extends ApplicationCommand where
  capabilityId : Uuid
  versionId : Uuid
  expectedRevision : Nat
  title : String
  description : String
  validFrom : Timestamp
  validUntil : Option Timestamp
  usageScope : String
  proofDocumentIds : List Uuid
  dated : ∀ expiry ∈ validUntil, validFrom < expiry
  distinct : proofDocumentIds.Nodup

/-- `CreateEnterpriseCompanyHandler`. -/
def createCompany (store : LibraryStore) (command : CreateEnterpriseCompanyCommand) (context : CommandContext) :
    Transaction (LibraryStore × HandlerOutcome) := do
  let _ ← patronMembership context "ENTERPRISE_LIBRARY_PATRON_REQUIRED"
  raiseIf (store.company context.tenantId command.companyId ≠ none)
    (.execution "ENTERPRISE_COMPANY_ALREADY_EXISTS")
  let companies ← flush (store.companies.insert? ⟨command.companyId, context.tenantId, 0⟩)
  return ({ store with companies }, {
    resultCode := "ENTERPRISE_COMPANY_CREATED"
    aggregateRefs := [⟨"EnterpriseCompany", command.companyId.str, 0, none⟩]
    events := [{
      aggregateType := "EnterpriseCompany", aggregateId := command.companyId, aggregateRevision := 0,
      eventType := "EnterpriseCompanyCreated",
      payload := [("company_id", .str command.companyId.str), ("resulting_revision", .int 0)] }] })

/-- `RegisterEnterpriseDocumentHandler`. -/
def registerDocument (store : LibraryStore) (command : RegisterEnterpriseDocumentCommand)
    (context : CommandContext) : Transaction (LibraryStore × HandlerOutcome) := do
  let membershipId ← patronMembership context "ENTERPRISE_LIBRARY_PATRON_REQUIRED"
  let company ← orRaise (store.company context.tenantId command.companyId)
    (.execution "NOT_FOUND_OR_FORBIDDEN")
  raiseIf (company.aggregateRevision ≠ command.expectedRevision) (.execution "VERSION_CONFLICT")
  let upload ← orRaise
    (store.uploads.find? fun row => row.tenantId = context.tenantId ∧ row.id = command.storageObjectId ∧
      row.companyId = command.companyId ∧ row.documentId = command.documentId ∧ row.state = .clean)
    (.execution "DOCUMENT_UPLOAD_NOT_CLEAN")
  let sha256 ← orRaise upload.sha256 (.failed "sha256")
  let record : EnterpriseDocumentRecord := {
    id := command.documentId, tenantId := context.tenantId, companyId := company.id,
    documentKind := command.documentKind, documentLabel := command.documentLabel,
    storageObjectId := command.storageObjectId, originalFilename := command.originalFilename,
    issuedAt := command.issuedAt, expiresAt := command.expiresAt, sha256,
    verificationStatus := command.verificationStatus, registeredByMembershipId := membershipId,
    commandId := command.commandId }
  raiseIf (record.admissible = false) .integrity
  let documents ← flush (store.enterprise.documents.insert? record)
  let revision := company.aggregateRevision + 1
  return ({ store with
    companies := advanceCompany store.companies company
    enterprise := { store.enterprise with documents } }, {
    resultCode := "ENTERPRISE_DOCUMENT_REGISTERED"
    aggregateRefs := [⟨"EnterpriseCompany", company.id.str, revision, none⟩]
    events := [{
      aggregateType := "EnterpriseCompany", aggregateId := company.id, aggregateRevision := revision,
      eventType := "EnterpriseDocumentRegistered",
      payload := [("company_id", .str company.id.str), ("document_id", .str command.documentId.str),
        ("document_kind", .str command.documentKind.value), ("resulting_revision", .int revision)] }] })

/-- `CreateEnterpriseCapabilityHandler`. -/
def createCapability (store : LibraryStore) (command : CreateEnterpriseCapabilityCommand)
    (context : CommandContext) : Transaction (LibraryStore × HandlerOutcome) := do
  let _ ← patronMembership context "ENTERPRISE_CAPABILITY_PATRON_REQUIRED"
  let company ← orRaise (store.company context.tenantId command.companyId)
    (.execution "NOT_FOUND_OR_FORBIDDEN")
  raiseIf (store.enterprise.capability context.tenantId command.capabilityId ≠ none)
    (.execution "CAPABILITY_ALREADY_EXISTS")
  let capabilities ← flush (store.enterprise.capabilities.insert? {
    id := command.capabilityId, tenantId := context.tenantId, companyId := company.id, aggregateRevision := 0,
    capabilityKind := command.capabilityKind, name := command.name, summary := command.summary,
    state := command.state, commandId := command.commandId })
  return ({ store with enterprise := { store.enterprise with capabilities } }, {
    resultCode := "ENTERPRISE_CAPABILITY_CREATED"
    aggregateRefs := [⟨"EnterpriseCapability", command.capabilityId.str, 0, none⟩]
    events := [{
      aggregateType := "EnterpriseCapability", aggregateId := command.capabilityId, aggregateRevision := 0,
      eventType := "EnterpriseCapabilityCreated",
      payload := [("capability_id", .str command.capabilityId.str),
        ("company_id", .str command.companyId.str), ("capability_kind", .str command.capabilityKind.value),
        ("resulting_revision", .int 0)] }] })

/-- The documents of the company a version names as proofs. -/
def proofDocuments (store : EnterpriseStore) (tenantId companyId : Uuid) (documentIds : List Uuid) :
    List EnterpriseDocumentRecord :=
  store.documents.rows.filter fun row =>
    row.tenantId = tenantId ∧ row.companyId = companyId ∧ row.id ∈ documentIds

/-- The checks a version makes of its proofs. -/
def checkProofs (store : EnterpriseStore) (tenantId companyId : Uuid) (documentIds : List Uuid) :
    Transaction Unit := do
  let documents := proofDocuments store tenantId companyId documentIds
  raiseIf (documents.length ≠ documentIds.length) (.execution "PROOF_NOT_FOUND_OR_FORBIDDEN")
  raiseIf (∃ document ∈ documents, document.verificationStatus = .rejected) (.execution "PROOF_NOT_AUTHORIZED")

def capabilityAdvanced (capability : EnterpriseCapabilityRecord) : EnterpriseCapabilityRecord :=
  { capability with aggregateRevision := capability.aggregateRevision + 1 }

/-- `AddEnterpriseCapabilityVersionHandler`; `uuid4` draws the ids of the links. -/
def addVersion (store : LibraryStore) (command : AddEnterpriseCapabilityVersionCommand)
    (context : CommandContext) (uuid4 : Nat → Uuid) : Transaction (LibraryStore × HandlerOutcome) := do
  let membershipId ← patronMembership context "ENTERPRISE_CAPABILITY_PATRON_REQUIRED"
  let capability ← orRaise (store.enterprise.capability context.tenantId command.capabilityId)
    (.execution "NOT_FOUND_OR_FORBIDDEN")
  raiseIf (capability.aggregateRevision ≠ command.expectedRevision) (.execution "VERSION_CONFLICT")
  raiseIf (∃ row ∈ store.enterprise.versions, row.tenantId = context.tenantId ∧ row.id = command.versionId)
    (.execution "CAPABILITY_VERSION_ALREADY_EXISTS")
  checkProofs store.enterprise context.tenantId capability.companyId command.proofDocumentIds
  let versionNumber := ((store.enterprise.versions.greatest (fun row =>
    row.tenantId = context.tenantId ∧ row.capabilityId = capability.id) (·.versionNumber)).getD 0) + 1
  let versions ← flush (store.enterprise.versions.insert? {
    id := command.versionId, tenantId := context.tenantId, capabilityId := capability.id, versionNumber,
    title := command.title, description := command.description, validFrom := command.validFrom,
    validUntil := command.validUntil, usageScope := command.usageScope,
    createdByMembershipId := membershipId, commandId := command.commandId })
  let links ← flush (store.enterprise.links.insertAll? (command.proofDocumentIds.mapIdx fun index documentId =>
    ⟨uuid4 index, context.tenantId, command.versionId, documentId, "SUPPORTS_CAPABILITY"⟩))
  let capabilities := store.enterprise.capabilities.update (fun row => row.id = capability.id)
    capabilityAdvanced fun _ => rfl
  let revision := capability.aggregateRevision + 1
  return ({ store with enterprise := { store.enterprise with capabilities, versions, links } }, {
    resultCode := "ENTERPRISE_CAPABILITY_VERSION_ADDED"
    aggregateRefs := [⟨"EnterpriseCapability", capability.id.str, revision, none⟩]
    events := [{
      aggregateType := "EnterpriseCapability", aggregateId := capability.id, aggregateRevision := revision,
      eventType := "EnterpriseCapabilityVersionAdded",
      payload := [("capability_id", .str capability.id.str), ("version_id", .str command.versionId.str),
        ("version_number", .int versionNumber), ("proof_count", .int command.proofDocumentIds.length),
        ("resulting_revision", .int revision)] }] })

structure EnterpriseDocumentProjection where
  documentId : Uuid
  documentKind : DocumentKind
  documentLabel : String
  issuedAt : Timestamp
  expiresAt : Option Timestamp
  verificationStatus : VerificationStatus
  verificationRevision : Nat

structure EnterpriseCompanyProjection where
  companyId : Uuid
  aggregateRevision : Nat
  documents : List EnterpriseDocumentProjection

def VerificationOutcome.status : VerificationOutcome → VerificationStatus
  | validated => .validated
  | rejected => .rejected

def projectDocument (store : LibraryStore) (row : EnterpriseDocumentRecord) : EnterpriseDocumentProjection :=
  let latest := store.latestVerification row.tenantId row.id
  { documentId := row.id, documentKind := row.documentKind, documentLabel := row.documentLabel,
    issuedAt := row.issuedAt, expiresAt := row.expiresAt,
    verificationStatus := latest.elim row.verificationStatus (·.outcome.status)
    verificationRevision := latest.elim 0 (·.revision) }

/-- `SqlAlchemyEnterpriseLibraryReader.read_company`. -/
def readCompany (store : LibraryStore) (tenantId : Uuid) : Option EnterpriseCompanyProjection :=
  (store.companies.find? fun row => row.tenantId = tenantId).map fun company => {
    companyId := company.id, aggregateRevision := company.aggregateRevision,
    documents := (store.enterprise.documents.rows.filter fun row =>
      row.tenantId = tenantId ∧ row.companyId = company.id).map (projectDocument store) }

end SmartAo.Enterprise
