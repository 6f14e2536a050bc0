import SmartAo.Enterprise.Records
import SmartAo.Foundation.Succession

namespace SmartAo.Enterprise

open SmartAo.Foundation SmartAo.Platform

inductive UploadState where
  | awaitingUpload
  | uploading
  | quarantined
  | clean
  | rejected
  | expired
deriving DecidableEq

inductive ScanVerdict where
  | clean
  | infected
  | error
deriving DecidableEq

/-- The `sha256 ~ '^[0-9a-f]{64}$'` constraint. -/
def isSha256 (text : String) : Bool :=
  text.toList.length = 64 ∧ ∀ c ∈ text.toList, c ∈ "0123456789abcdef".toList

/-- Private upload ledger. -/
structure EnterpriseDocumentUploadRecord where
  id : Uuid
  tenantId : Uuid
  companyId : Uuid
  documentId : Uuid
  documentKind : DocumentKind
  documentLabel : String
  originalFilename : String
  storageKey : String
  expectedByteSize : Nat
  actualByteSize : Option Nat
  sha256 : Option String
  mediaType : Option String
  state : UploadState
  scanVerdict : Option ScanVerdict
  rejectionCode : Option String
  expiresAt : Timestamp
  createdByMembershipId : Uuid
  commandId : Uuid
deriving DecidableEq

instance : Schema EnterpriseDocumentUploadRecord :=
  .ownedKeys fun row => (row.id, (), row.storageKey, (row.tenantId, row.documentId))

/-- The check constraints of an upload row. -/
def EnterpriseDocumentUploadRecord.admissible (row : EnterpriseDocumentUploadRecord) : Bool :=
  0 < row.expectedByteSize ∧ row.actualByteSize ≠ some 0 ∧ row.sha256.all isSha256 ∧
    (row.state = .clean → row.actualByteSize.isSome ∧ row.sha256.isSome ∧ row.mediaType.isSome ∧
      row.scanVerdict = some .clean)

inductive VerificationOutcome where
  | validated
  | rejected
deriving DecidableEq

def VerificationOutcome.value : VerificationOutcome → String
  | validated => "VALIDATED"
  | rejected => "REJECTED"

inductive ReasonCode where
  | documentAccepted
  | documentIllegible
  | documentExpired
  | documentMismatch
  | documentDuplicate
deriving DecidableEq

/-- Append-only human decision history for one enterprise document. -/
structure EnterpriseDocumentVerificationRecord where
  id : Uuid
  tenantId : Uuid
  documentId : Uuid
  revision : Nat
  outcome : VerificationOutcome
  reasonCode : ReasonCode
  membershipId : Uuid
  commandId : Uuid
deriving DecidableEq

instance : Schema EnterpriseDocumentVerificationRecord :=
  .keyed fun row => (row.id, row.tenantId, row.documentId, row.revision)

/-- The check constraints of a document row. -/
def EnterpriseDocumentRecord.admissible (row : EnterpriseDocumentRecord) : Bool :=
  (∀ expiry ∈ row.expiresAt, row.issuedAt < expiry) ∧
    (row.documentKind = .rib → row.expiresAt = none) ∧ isSha256 row.sha256

structure LibraryStore where
  companies : Table EnterpriseCompanyRecord
  uploads : Table EnterpriseDocumentUploadRecord
  verifications : Table EnterpriseDocumentVerificationRecord
  enterprise : EnterpriseStore

namespace LibraryStore

def empty : LibraryStore := ⟨.empty, .empty, .empty, .empty⟩

def company (store : LibraryStore) (tenantId companyId : Uuid) : Option EnterpriseCompanyRecord :=
  store.companies.find? fun row => row.tenantId = tenantId ∧ row.id = companyId

def upload (store : LibraryStore) (tenantId uploadId : Uuid) : Option EnterpriseDocumentUploadRecord :=
  store.uploads.find? fun row => row.tenantId = tenantId ∧ row.id = uploadId

def latestVerification (store : LibraryStore) (tenantId documentId : Uuid) :
    Option EnterpriseDocumentVerificationRecord :=
  store.verifications.latest (fun row => row.tenantId = tenantId ∧ row.documentId = documentId) (·.revision)

end LibraryStore

structure PrepareEnterpriseDocumentUploadCommand extends ApplicationCommand where
  uploadId : Uuid
  companyId : Uuid
  documentId : Uuid
  documentKind : DocumentKind
  documentLabel : String
  originalFilename : String
  expectedByteSize : Nat
  storageKey : String
  expiresAt : Timestamp

structure FinalizeEnterpriseDocumentUploadCommand extends ApplicationCommand where
  uploadId : Uuid
  companyId : Uuid
  documentId : Uuid

structure VerifyEnterpriseDocumentCommand extends ApplicationCommand where
  companyId : Uuid
  documentId : Uuid
  expectedVerificationRevision : Nat
  outcome : VerificationOutcome
  reasonCode : ReasonCode
  reasoned : outcome = .validated ↔ reasonCode = .documentAccepted

/-- The membership of a patron who writes the enterprise library. -/
def patronMembership (context : CommandContext) (message : String) : Transaction Uuid := do
  raiseIf (context.actorKind ≠ .patronAdmin) (.execution message)
  orRaise context.membershipId (.execution message)

def companyAdvanced (company : EnterpriseCompanyRecord) : EnterpriseCompanyRecord :=
  { company with aggregateRevision := company.aggregateRevision + 1 }

def advanceCompany (companies : Table EnterpriseCompanyRecord) (company : EnterpriseCompanyRecord) :
    Table EnterpriseCompanyRecord :=
  companies.update (fun row => row.id = company.id) companyAdvanced fun _ => rfl

/-- `PrepareEnterpriseDocumentUploadHandler`. -/
def prepareUpload (store : LibraryStore) (command : PrepareEnterpriseDocumentUploadCommand)
    (context : CommandContext) : Transaction (LibraryStore × HandlerOutcome) := do
  let membershipId ← patronMembership context "ENTERPRISE_LIBRARY_PATRON_REQUIRED"
  let _ ← orRaise (store.company context.tenantId command.companyId) (.execution "NOT_FOUND_OR_FORBIDDEN")
  raiseIf (store.upload context.tenantId command.uploadId ≠ none)
    (.execution "ENTERPRISE_UPLOAD_ALREADY_EXISTS")
  let record : EnterpriseDocumentUploadRecord := {
    id := command.uploadId, tenantId := context.tenantId, companyId := command.companyId,
    documentId := command.documentId, documentKind := command.documentKind,
    documentLabel := command.documentLabel, originalFilename := command.originalFilename,
    storageKey := command.storageKey, expectedByteSize := command.expectedByteSize, actualByteSize := none,
    sha256 := none, mediaType := none, state := .awaitingUpload, scanVerdict := none, rejectionCode := none,
    expiresAt := command.expiresAt, createdByMembershipId := membershipId, commandId := command.commandId }
  raiseIf (record.admissible = false) .integrity
  let uploads ← flush (store.uploads.insert? record)
  return ({ store with uploads }, {
    resultCode := "ENTERPRISE_DOCUMENT_UPLOAD_PREPARED"
    aggregateRefs := [{
      aggregateType := "EnterpriseDocumentUpload", aggregateId := command.uploadId.str,
      aggregateRevision := 0 }]
    events := [{
      aggregateType := "EnterpriseDocumentUpload", aggregateId := command.uploadId, aggregateRevision := 0,
      eventType := "EnterpriseDocumentUploadPrepared",
      payload := [("upload_id", .str command.uploadId.str), ("company_id", .str command.companyId.str),
        ("document_id", .str command.documentId.str)] }] })

/-- What the upload service records of an upload, one transaction each. -/
inductive UploadProgress where
  | claimed
  | quarantined (byteSize : Nat) (sha256 mediaType : String)
  | scanned (verdict : ScanVerdict)
  | rejected (code : String)

def UploadProgress.apply (progress : UploadProgress) (upload : EnterpriseDocumentUploadRecord) :
    EnterpriseDocumentUploadRecord :=
  match progress with
  | claimed => if upload.state = .clean then upload else { upload with state := .uploading }
  | quarantined byteSize sha256 mediaType => { upload with
    actualByteSize := some byteSize, sha256 := some sha256, mediaType := some mediaType, state := .quarantined }
  | scanned .clean => { upload with scanVerdict := some .clean, state := .clean }
  | scanned verdict => { upload with
    scanVerdict := some verdict, state := .rejected, rejectionCode := some "MALWARE_SCAN_REJECTED" }
  | rejected code => { upload with state := .rejected, rejectionCode := some code }

theorem UploadProgress.apply_columns (progress : UploadProgress) (upload : EnterpriseDocumentUploadRecord) :
    Schema.columns (progress.apply upload) = Schema.columns upload := by
  cases progress with
  | claimed =>
    simp only [UploadProgress.apply]
    split <;> rfl
  | scanned verdict => cases verdict <;> rfl
  | _ => rfl

/-- Only the claim looks at the state. -/
def UploadProgress.allowed (progress : UploadProgress) (state : UploadState) : Bool :=
  match progress with
  | claimed => state = .clean ∨ state = .awaitingUpload
  | _ => true

/-- One transaction of `EnterprisePrivateUploadService.upload`. -/
def progressUpload (store : LibraryStore) (tenantId uploadId : Uuid) (progress : UploadProgress) :
    Transaction LibraryStore := do
  let upload ← orRaise (store.upload tenantId uploadId) (.failed "NOT_FOUND_OR_FORBIDDEN")
  raiseIf (progress.allowed upload.state = false) (.failed "EnterpriseUploadAlreadyClaimedError")
  raiseIf ((progress.apply upload).admissible = false) .integrity
  return { store with
    uploads := store.uploads.update (fun row => row.id = upload.id) progress.apply progress.apply_columns }

/-- `FinalizeEnterpriseDocumentUploadHandler`. -/
def finalizeUpload (store : LibraryStore) (command : FinalizeEnterpriseDocumentUploadCommand)
    (context : CommandContext) : Transaction (LibraryStore × HandlerOutcome) := do
  let membershipId ← patronMembership context "ENTERPRISE_LIBRARY_PATRON_REQUIRED"
  let upload ← orRaise
    (store.uploads.find? fun row => row.tenantId = context.tenantId ∧ row.id = command.uploadId ∧
      row.companyId = command.companyId ∧ row.documentId = command.documentId)
    (.execution "NOT_FOUND_OR_FORBIDDEN")
  raiseIf (upload.state ≠ .clean) (.execution "DOCUMENT_UPLOAD_NOT_CLEAN")
  let sha256 ← orRaise upload.sha256 (.execution "DOCUMENT_UPLOAD_NOT_CLEAN")
  let company ← orRaise (store.company context.tenantId command.companyId)
    (.execution "NOT_FOUND_OR_FORBIDDEN")
  raiseIf (store.enterprise.document context.tenantId command.documentId ≠ none)
    (.execution "ENTERPRISE_DOCUMENT_ALREADY_EXISTS")
  let record : EnterpriseDocumentRecord := {
    id := command.documentId, tenantId := context.tenantId, companyId := command.companyId,
    documentKind := upload.documentKind, documentLabel := upload.documentLabel,
    storageObjectId := command.uploadId, originalFilename := upload.originalFilename,
    issuedAt := min context.receivedAt (upload.expiresAt - 1), expiresAt := some upload.expiresAt,
    sha256, verificationStatus := .pending, registeredByMembershipId := membershipId,
    commandId := command.commandId }
  raiseIf (record.admissible = false) .integrity
  let documents ← flush (store.enterprise.documents.insert? record)
  let revision := company.aggregateRevision + 1
  return ({ store with
    companies := advanceCompany store.companies company
    enterprise := { store.enterprise with documents } }, {
    resultCode := "ENTERPRISE_DOCUMENT_REGISTERED"
    aggregateRefs := [⟨"EnterpriseCompany", company.id.str, revision, none⟩,
      ⟨"EnterpriseDocument", command.documentId.str, 0, none⟩]
    events := [{
      aggregateType := "EnterpriseCompany", aggregateId := company.id, aggregateRevision := revision,
      eventType := "EnterpriseDocumentRegistered",
      payload := [("company_id", .str company.id.str), ("document_id", .str command.documentId.str),
        ("source", .str "PRIVATE_UPLOAD_CLEAN")] }] })

/-- `VerifyEnterpriseDocumentHandler`. -/
def verifyDocument (store : LibraryStore) (command : VerifyEnterpriseDocumentCommand)
    (context : CommandContext) : Transaction (LibraryStore × HandlerOutcome) := do
  let membershipId ← patronMembership context "ENTERPRISE_LIBRARY_PATRON_REQUIRED"
  let _ ← orRaise
    (store.enterprise.documents.find? fun row => row.tenantId = context.tenantId ∧
      row.companyId = command.companyId ∧ row.id = command.documentId)
    (.execution "NOT_FOUND_OR_FORBIDDEN")
  let _ ← orRaise
    (store.uploads.find? fun row => row.tenantId = context.tenantId ∧
      row.documentId = command.documentId ∧ row.state = .clean)
    (.execution "DOCUMENT_UPLOAD_NOT_CLEAN")
  let current := store.latestVerification context.tenantId command.documentId
  raiseIf ((current.elim 0 (·.revision)) ≠ command.expectedVerificationRevision) (.execution "VERSION_CONFLICT")
  let revision := current.elim 0 (·.revision + 1)
  let verifications ← flush (store.verifications.insert? {
    id := command.commandId, tenantId := context.tenantId, documentId := command.documentId, revision,
    outcome := command.outcome, reasonCode := command.reasonCode, membershipId,
    commandId := command.commandId })
  return ({ store with verifications }, {
    resultCode := "ENTERPRISE_DOCUMENT_VERIFIED"
    aggregateRefs := [⟨"EnterpriseDocument", command.documentId.str, revision, none⟩]
    events := [{
      aggregateType := "EnterpriseDocument", aggregateId := command.documentId, aggregateRevision := revision,
      eventType := "EnterpriseDocumentVerified",
      payload := [("document_id", .str command.documentId.str), ("outcome", .str command.outcome.value),
        ("resulting_revision", .int revision)] }] })

end SmartAo.Enterprise
