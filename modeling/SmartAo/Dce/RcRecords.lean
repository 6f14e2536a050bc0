import SmartAo.Dce.Records
import SmartAo.Foundation.Digest

namespace SmartAo.Dce

open SmartAo.Foundation SmartAo.Platform

/-- The kinds of signals the analysis rules look for. -/
inductive RequirementKind where
  | rcDocumentCandidature
  | rcContentOffer
  | rcSubmissionDeadline
  | rcResponseChannel
  | rcFileConstraint
  | rcSiteVisit
  | rcAwardCriterion
  | rcNegotiation
  | rcOfferValidity
  | ccapPenalties
  | ccapRetentionGuarantee
  | ccapGuarantee
  | ccapInsurance
  | cctpVariants
  | ccapSubcontracting
  | ccapQualifications
deriving DecidableEq

def RequirementKind.value : RequirementKind → String
  | rcDocumentCandidature => "RC_DOCUMENT_CANDIDATURE"
  | rcContentOffer => "RC_CONTENT_OFFER"
  | rcSubmissionDeadline => "RC_SUBMISSION_DEADLINE"
  | rcResponseChannel => "RC_RESPONSE_CHANNEL"
  | rcFileConstraint => "RC_FILE_CONSTRAINT"
  | rcSiteVisit => "RC_SITE_VISIT"
  | rcAwardCriterion => "RC_AWARD_CRITERION"
  | rcNegotiation => "RC_NEGOTIATION"
  | rcOfferValidity => "RC_OFFER_VALIDITY"
  | ccapPenalties => "CCAP_PENALTIES"
  | ccapRetentionGuarantee => "CCAP_RETENTION_GUARANTEE"
  | ccapGuarantee => "CCAP_GUARANTEE"
  | ccapInsurance => "CCAP_INSURANCE"
  | cctpVariants => "CCTP_VARIANTS"
  | ccapSubcontracting => "CCAP_SUBCONTRACTING"
  | ccapQualifications => "CCAP_QUALIFICATIONS"

inductive RcAnalysisStatus where
  | completed
  | noRcMarker
  | rejectedLimit
  | failedSafe
deriving DecidableEq

def RcAnalysisStatus.value : RcAnalysisStatus → String
  | completed => "COMPLETED"
  | noRcMarker => "NO_RC_MARKER"
  | rejectedLimit => "REJECTED_LIMIT"
  | failedSafe => "FAILED_SAFE"

structure DceRcAnalysisRunRecord where
  id : Uuid
  tenantId : Uuid
  dceVersionId : Uuid
  inputManifestSha256 : String
  analyzerId : String
  analyzerVersion : String
  status : RcAnalysisStatus
  sourceFragmentCount : Nat
  sourceCharCount : Nat
  failureCode : Option String
deriving DecidableEq

instance : Schema DceRcAnalysisRunRecord := .keyed fun row =>
  (row.id, row.tenantId, row.dceVersionId, row.inputManifestSha256, row.analyzerId, row.analyzerVersion)

structure DceRcRequirementObservationRecord where
  id : Uuid
  tenantId : Uuid
  analysisId : Uuid
  dceVersionId : Uuid
  requirementKind : RequirementKind
  directive : DirectiveSignal
  ruleId : String
  ruleVersion : String
  fragmentId : Uuid
  startByteOffset : Nat
  endByteOffset : Nat
  excerpt : List Char
deriving DecidableEq

instance : Schema DceRcRequirementObservationRecord := .keyed fun row =>
  (row.id, row.tenantId, row.analysisId, row.ruleId, row.fragmentId, row.startByteOffset, row.endByteOffset)

structure DceRcRequirementSourceRecord where
  id : Uuid
  tenantId : Uuid
  observationId : Uuid
  fragmentId : Uuid
  startByteOffset : Nat
  endByteOffset : Nat
deriving DecidableEq

instance : Schema DceRcRequirementSourceRecord := .keyed fun row =>
  (row.id, row.tenantId, row.observationId, row.fragmentId)

/-- The recorded analyses; their handler alone writes them. -/
structure RcStore where
  analyses : Table DceRcAnalysisRunRecord
  observations : Table DceRcRequirementObservationRecord
  observationSources : Table DceRcRequirementSourceRecord

def RcStore.empty : RcStore := ⟨.empty, .empty, .empty⟩

/-- The lines of a manifest, each a list of fields. -/
def manifestText (lines : List (List (List Char))) : List Char :=
  ['\n'].intercalate (lines.map ['|'].intercalate)

def manifestSha256 (lines : List (List (List Char))) : String := hexdigest (manifestText lines)

end SmartAo.Dce
