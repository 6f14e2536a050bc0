import SmartAo.Platform.Command

namespace SmartAo.Dce

open SmartAo.Foundation SmartAo.Platform

inductive DceLifecycle where
  | admitted
  | superseded
  | withdrawn
deriving DecidableEq

inductive DceIntegrity where
  | verified
  | partialCorpus
  | unusable
deriving DecidableEq

inductive AnalysisReadiness where
  | notReady
  | readyForAnalysis
  | reviewRequired
deriving DecidableEq

inductive ClassificationReadiness where
  | unclassified
  | partiallyClassified
  | classified
deriving DecidableEq

def ClassificationReadiness.value : ClassificationReadiness → String
  | unclassified => "UNCLASSIFIED"
  | partiallyClassified => "PARTIALLY_CLASSIFIED"
  | classified => "CLASSIFIED"

structure DceVersionRecord where
  id : Uuid
  tenantId : Uuid
  consultationId : Uuid
  corpusHash : String
  predecessorDceVersionId : Option Uuid
  lifecycle : DceLifecycle
  integrity : DceIntegrity
  classificationReadiness : ClassificationReadiness
  analysisReadiness : AnalysisReadiness
  aggregateRevision : Nat
deriving DecidableEq

instance : RevisionedRoot DceVersionRecord where
  Columns := Uuid × Uuid × Uuid × String
  columns row := (row.id, row.tenantId, row.consultationId, row.corpusHash)
  Clash first second := first.1 = second.1 ∨ first.2 = second.2
  decidableClash := inferInstance
  symm clash := clash.imp Eq.symm Eq.symm
  tenantId := DceVersionRecord.tenantId
  id := DceVersionRecord.id
  aggregateRevision := DceVersionRecord.aggregateRevision
  conflict_of_id same := .inl same

def DceVersionRecord.isAdmitted (version : DceVersionRecord) : Bool :=
  version.lifecycle = .admitted ∨ version.lifecycle = .superseded

inductive RequirementType where
  | candidatureDocument
  | offerDocument
  | submissionDeadlineSignal
  | submissionChannel
  | fileConstraint
  | siteVisit
  | awardCriterionSignal
  | negotiationSignal
  | offerValiditySignal
  | contractRiskSignal
deriving DecidableEq

def RequirementType.value : RequirementType → String
  | candidatureDocument => "CANDIDATURE_DOCUMENT"
  | offerDocument => "OFFER_DOCUMENT"
  | submissionDeadlineSignal => "SUBMISSION_DEADLINE_SIGNAL"
  | submissionChannel => "SUBMISSION_CHANNEL"
  | fileConstraint => "FILE_CONSTRAINT"
  | siteVisit => "SITE_VISIT"
  | awardCriterionSignal => "AWARD_CRITERION_SIGNAL"
  | negotiationSignal => "NEGOTIATION_SIGNAL"
  | offerValiditySignal => "OFFER_VALIDITY_SIGNAL"
  | contractRiskSignal => "CONTRACT_RISK_SIGNAL"

inductive DirectiveSignal where
  | requiredSignal
  | optionalSignal
  | unspecified
deriving DecidableEq

def DirectiveSignal.value : DirectiveSignal → String
  | requiredSignal => "REQUIRED_SIGNAL"
  | optionalSignal => "OPTIONAL_SIGNAL"
  | unspecified => "UNSPECIFIED"

/-- An immutable requirement materialized from one DCE version. -/
structure DceRequirementRecord where
  id : Uuid
  tenantId : Uuid
  requirementsRunId : Uuid
  dceVersionId : Uuid
  sourceObservationId : Uuid
  requirementType : RequirementType
  directiveSignal : DirectiveSignal
deriving DecidableEq

instance : Schema DceRequirementRecord := .keyed fun row =>
  (row.id, row.tenantId, row.requirementsRunId, row.sourceObservationId)

inductive ConfirmationOutcome where
  | confirmed
  | reviewRequired
  | notApplicable
deriving DecidableEq

def ConfirmationOutcome.value : ConfirmationOutcome → String
  | confirmed => "CONFIRMED"
  | reviewRequired => "REVIEW_REQUIRED"
  | notApplicable => "NOT_APPLICABLE"

inductive ConfirmationReason where
  | sourceReviewed
  | ambiguousSource
  | contradictoryDce
  | patronNotApplicable
  | needsExternalClarification
deriving DecidableEq

def ConfirmationReason.value : ConfirmationReason → String
  | sourceReviewed => "SOURCE_REVIEWED"
  | ambiguousSource => "AMBIGUOUS_SOURCE"
  | contradictoryDce => "CONTRADICTORY_DCE"
  | patronNotApplicable => "PATRON_NOT_APPLICABLE"
  | needsExternalClarification => "NEEDS_EXTERNAL_CLARIFICATION"

structure DceRequirementConfirmationRecord where
  id : Uuid
  tenantId : Uuid
  requirementId : Uuid
  revision : Nat
  previousConfirmationId : Option Uuid
  outcome : ConfirmationOutcome
  reasonCode : ConfirmationReason
  confirmedByActorId : Uuid
deriving DecidableEq

instance : Schema DceRequirementConfirmationRecord where
  Columns := Uuid × Uuid × Uuid × Nat
  columns row := (row.id, row.tenantId, row.requirementId, row.revision)
  Clash first second := first.1 = second.1 ∨ first.2 = second.2
  decidableClash := inferInstance
  symm clash := clash.imp Eq.symm Eq.symm

structure DceRequirementConfirmationCurrentRecord where
  requirementId : Uuid
  tenantId : Uuid
  confirmationId : Uuid
  revision : Nat
  outcome : ConfirmationOutcome
deriving DecidableEq

instance : Schema DceRequirementConfirmationCurrentRecord where
  Columns := Uuid
  columns row := row.requirementId
  Clash first second := first = second
  decidableClash := inferInstance
  symm := Eq.symm

/-- The DCE tables other modules read. -/
structure DceStore where
  versions : Table DceVersionRecord
  requirements : Table DceRequirementRecord
  confirmations : Table DceRequirementConfirmationRecord
  currentConfirmations : Table DceRequirementConfirmationCurrentRecord

def DceStore.empty : DceStore := ⟨.empty, .empty, .empty, .empty⟩

end SmartAo.Dce
