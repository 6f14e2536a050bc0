import SmartAo.Platform.Command

namespace SmartAo.Enterprise

open SmartAo.Foundation SmartAo.Platform

inductive DocumentKind where
  | insurance
  | kbis
  | rib
deriving DecidableEq

def DocumentKind.value : DocumentKind → String
  | insurance => "INSURANCE"
  | kbis => "KBIS"
  | rib => "RIB"

inductive VerificationStatus where
  | pending
  | validated
  | expired
  | rejected
deriving DecidableEq

def VerificationStatus.value : VerificationStatus → String
  | pending => "PENDING"
  | validated => "VALIDATED"
  | expired => "EXPIRED"
  | rejected => "REJECTED"

/-- One patron-owned legal company profile per tenant. -/
structure EnterpriseCompanyRecord where
  id : Uuid
  tenantId : Uuid
  aggregateRevision : Nat
deriving DecidableEq

instance : Schema EnterpriseCompanyRecord :=
  .keyed fun row => (row.id, row.tenantId)

/-- Enterprise proof, insurance certificate or bank document. -/
structure EnterpriseDocumentRecord where
  id : Uuid
  tenantId : Uuid
  companyId : Uuid
  documentKind : DocumentKind
  documentLabel : String
  storageObjectId : Uuid
  originalFilename : String
  issuedAt : Timestamp
  expiresAt : Option Timestamp
  sha256 : String
  verificationStatus : VerificationStatus
  registeredByMembershipId : Uuid
  commandId : Uuid
deriving DecidableEq

instance : Schema EnterpriseDocumentRecord :=
  .keyed fun row => (row.id, row.tenantId, row.commandId)

inductive CapabilityState where
  | active
  | suspended
  | retired
deriving DecidableEq

inductive CapabilityKind where
  | qualification
  | reference
  | equipment
  | team
  | method
deriving DecidableEq

def CapabilityKind.value : CapabilityKind → String
  | qualification => "QUALIFICATION"
  | reference => "REFERENCE"
  | equipment => "EQUIPMENT"
  | team => "TEAM"
  | method => "METHOD"

/-- Patron-owned reusable capability root. -/
structure EnterpriseCapabilityRecord where
  id : Uuid
  tenantId : Uuid
  companyId : Uuid
  aggregateRevision : Nat
  capabilityKind : CapabilityKind
  name : String
  summary : String
  state : CapabilityState
  commandId : Uuid
deriving DecidableEq

instance : Schema EnterpriseCapabilityRecord :=
  .ownedKeys fun row => (row.id, row.tenantId, row.commandId, (row.companyId, row.capabilityKind, row.name))

/-- Immutable dated version of one capability. -/
structure EnterpriseCapabilityVersionRecord where
  id : Uuid
  tenantId : Uuid
  capabilityId : Uuid
  versionNumber : Nat
  title : String
  description : String
  validFrom : Timestamp
  validUntil : Option Timestamp
  usageScope : String
  createdByMembershipId : Uuid
  commandId : Uuid
deriving DecidableEq

instance : Schema EnterpriseCapabilityVersionRecord :=
  .ownedKeys fun row => (row.id, row.tenantId, row.commandId, (row.capabilityId, row.versionNumber))

/-- Immutable link from a capability version to a document that proves it. -/
structure EnterpriseCapabilityProofLinkRecord where
  id : Uuid
  tenantId : Uuid
  capabilityVersionId : Uuid
  documentId : Uuid
  relationLabel : String
deriving DecidableEq

instance : Schema EnterpriseCapabilityProofLinkRecord :=
  .keyed fun row => (row.id, row.tenantId, row.capabilityVersionId, row.documentId)

inductive ValidityState where
  | current
  | expired
  | unknown
deriving DecidableEq

def ValidityState.value : ValidityState → String
  | current => "CURRENT"
  | expired => "EXPIRED"
  | unknown => "UNKNOWN"

/-- A collaborator's candidate use of a capability for one case. -/
structure CaseCapabilityProposalRecord where
  id : Uuid
  tenantId : Uuid
  caseId : Uuid
  assignmentId : Uuid
  capabilityId : Uuid
  capabilityVersionId : Uuid
  validityState : ValidityState
  functionalKey : String
  commandId : Uuid
  requirementId : Option Uuid
  taskId : Option Uuid
  justification : String
  sourceLocator : Option String
  proposedByMembershipId : Uuid
deriving DecidableEq

instance : Schema CaseCapabilityProposalRecord :=
  .ownedKeys fun row => (row.id, row.tenantId, row.commandId, row.functionalKey)

inductive GapKind where
  | missing
  | expired
  | unauthorized
  | insufficient
deriving DecidableEq

def GapKind.value : GapKind → String
  | missing => "MISSING"
  | expired => "EXPIRED"
  | unauthorized => "UNAUTHORIZED"
  | insufficient => "INSUFFICIENT"

inductive GapSeverity where
  | informational
  | important
  | blocking
deriving DecidableEq

def GapSeverity.value : GapSeverity → String
  | informational => "INFORMATIONAL"
  | important => "IMPORTANT"
  | blocking => "BLOCKING"

/-- A collaborator's finding that a capability or its proof is missing or unusable. -/
structure CaseCapabilityGapRecord where
  id : Uuid
  tenantId : Uuid
  caseId : Uuid
  assignmentId : Uuid
  gapKind : GapKind
  severity : GapSeverity
  functionalKey : String
  commandId : Uuid
  capabilityId : Option Uuid
  requirementId : Option Uuid
  taskId : Option Uuid
  reason : String
  sourceLocator : Option String
  recommendedAction : String
  reportedByMembershipId : Uuid
deriving DecidableEq

instance : Schema CaseCapabilityGapRecord :=
  .ownedKeys fun row => (row.id, row.tenantId, row.commandId, row.functionalKey)

/-- The enterprise tables other modules read. -/
structure EnterpriseStore where
  documents : Table EnterpriseDocumentRecord
  capabilities : Table EnterpriseCapabilityRecord
  versions : Table EnterpriseCapabilityVersionRecord
  links : Table EnterpriseCapabilityProofLinkRecord
  proposals : Table CaseCapabilityProposalRecord
  gaps : Table CaseCapabilityGapRecord

namespace EnterpriseStore

def empty : EnterpriseStore := ⟨.empty, .empty, .empty, .empty, .empty, .empty⟩

def capability (store : EnterpriseStore) (tenantId capabilityId : Uuid) :
    Option EnterpriseCapabilityRecord :=
  store.capabilities.find? fun row => row.tenantId = tenantId ∧ row.id = capabilityId

def version (store : EnterpriseStore) (tenantId versionId capabilityId : Uuid) :
    Option EnterpriseCapabilityVersionRecord :=
  store.versions.find? fun row =>
    row.tenantId = tenantId ∧ row.id = versionId ∧ row.capabilityId = capabilityId

def document (store : EnterpriseStore) (tenantId documentId : Uuid) : Option EnterpriseDocumentRecord :=
  store.documents.find? fun row => row.tenantId = tenantId ∧ row.id = documentId

def proofLinks (store : EnterpriseStore) (tenantId versionId : Uuid) :
    List EnterpriseCapabilityProofLinkRecord :=
  store.links.rows.filter fun row => row.tenantId = tenantId ∧ row.capabilityVersionId = versionId

def caseProposals (store : EnterpriseStore) (tenantId caseId assignmentId : Uuid) :
    List CaseCapabilityProposalRecord :=
  store.proposals.rows.filter fun row =>
    row.tenantId = tenantId ∧ row.caseId = caseId ∧ row.assignmentId = assignmentId

def caseGaps (store : EnterpriseStore) (tenantId caseId assignmentId : Uuid) :
    List CaseCapabilityGapRecord :=
  store.gaps.rows.filter fun row =>
    row.tenantId = tenantId ∧ row.caseId = caseId ∧ row.assignmentId = assignmentId

end EnterpriseStore

end SmartAo.Enterprise
