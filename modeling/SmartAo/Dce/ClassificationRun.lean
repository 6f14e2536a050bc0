import SmartAo.Dce.Classification
import SmartAo.Dce.ExtractionService
import SmartAo.Foundation.Join
import Mathlib.Data.List.Sort

namespace SmartAo.Dce

open SmartAo.Foundation SmartAo.Platform

/-- A family of a document; at most one of a document is current. -/
structure DceDocumentClassificationRecord where
  id : Uuid
  tenantId : Uuid
  dceDocumentId : Uuid
  classification : DocumentFamily
  source : String
  previousClassificationId : Option Uuid
  isCurrent : Bool
deriving DecidableEq

instance : Schema DceDocumentClassificationRecord := .primary DceDocumentClassificationRecord.id

structure DceDocumentClassificationRunRecord where
  id : Uuid
  tenantId : Uuid
  dceVersionId : Uuid
  dceVersionRevisionBefore : Nat
  inputManifestSha256 : String
  classifierId : String
  classifierVersion : String
  status : ClassificationRunStatus
  documentCount : Nat
  sourceFragmentCount : Nat
  sourceCharCount : Nat
  failureCode : Option String
deriving DecidableEq

instance : Schema DceDocumentClassificationRunRecord := .keyed fun row =>
  (row.id, row.tenantId, row.dceVersionId, row.inputManifestSha256, row.classifierId, row.classifierVersion)

structure DceDocumentClassificationResultRecord where
  id : Uuid
  tenantId : Uuid
  classificationRunId : Uuid
  dceVersionId : Uuid
  dceDocumentId : Uuid
  status : ClassificationStatus
  classification : Option DocumentFamily
  ruleMatchCount : Nat
  classificationId : Option Uuid
deriving DecidableEq

instance : Schema DceDocumentClassificationResultRecord := .keyed fun row =>
  (row.id, row.tenantId, row.classificationRunId, row.dceDocumentId)

structure DceDocumentClassificationEvidenceRecord where
  id : Uuid
  tenantId : Uuid
  classificationResultId : Uuid
  fragmentId : Uuid
  classificationId : Uuid
  ruleId : String
  ruleVersion : String
  startByteOffset : Nat
  endByteOffset : Nat
  excerpt : List Char
deriving DecidableEq

instance : Schema DceDocumentClassificationEvidenceRecord := .keyed fun row =>
  (row.id, row.tenantId, row.classificationResultId, row.fragmentId, row.ruleId, row.startByteOffset,
    row.endByteOffset)

structure ClassificationStore extends ExtractionStore where
  classifications : Table DceDocumentClassificationRecord
  classificationRuns : Table DceDocumentClassificationRunRecord
  classificationResults : Table DceDocumentClassificationResultRecord
  classificationEvidence : Table DceDocumentClassificationEvidenceRecord

abbrev ExtractedRow := DceDocumentExtractionRecord × DceDocumentExtractionFragmentRecord

/-- The order of extraction, ordinal and fragment. -/
def ExtractedRow.before (first second : ExtractedRow) : Prop :=
  first.1.id < second.1.id ∨ first.1.id = second.1.id ∧ (first.2.ordinal < second.2.ordinal ∨
    first.2.ordinal = second.2.ordinal ∧ first.2.id ≤ second.2.id)

instance : DecidableRel ExtractedRow.before := fun _ _ => inferInstanceAs (Decidable (_ ∨ _))

def classificationFragment (row : ExtractedRow) : ClassificationFragment :=
  ⟨row.1.id, row.2.id, row.2.ordinal, row.2.text.toList, row.2.textSha256⟩

namespace ClassificationStore

variable (store : ClassificationStore) (tenantId : Uuid)

/-- The fragments of the completed extractions of a document, in their order. -/
def extractedRows (dceDocumentId : Uuid) : List ExtractedRow :=
  ((store.sources.extractions.join store.sources.fragments fun extraction fragment =>
    fragment.tenantId = extraction.tenantId ∧ fragment.extractionId = extraction.id).filter fun row =>
      row.1.tenantId = tenantId ∧ row.1.dceDocumentId = dceDocumentId ∧ row.1.status = .completed).insertionSort
    ExtractedRow.before

def documentIds (dceVersionId : Uuid) : List Uuid :=
  ((store.documents.rows.filter fun row => row.tenantId = tenantId ∧ row.dceVersionId = dceVersionId).map
    (·.id)).insertionSort (· ≤ ·)

def classificationDocument (dceDocumentId : Uuid) : ClassificationDocument :=
  ⟨dceDocumentId, (store.extractedRows tenantId dceDocumentId).map classificationFragment⟩

def classificationDocuments (dceVersionId : Uuid) : List ClassificationDocument :=
  (store.documentIds tenantId dceVersionId).map (store.classificationDocument tenantId)

def classifiable (dceVersionId : Uuid) : Option DceVersionRecord :=
  (store.version tenantId dceVersionId).filter fun row => row.isAdmitted && row.integrity = .verified

def classificationRun (dceVersionId : Uuid) (manifest classifierId classifierVersion : String) :
    Option DceDocumentClassificationRunRecord :=
  store.classificationRuns.find? fun row => row.tenantId = tenantId ∧ row.dceVersionId = dceVersionId ∧
    row.inputManifestSha256 = manifest ∧ row.classifierId = classifierId ∧ row.classifierVersion = classifierVersion

end ClassificationStore

/-- `_load_documents` -/
def loadDocuments (store : ClassificationStore) (tenantId dceVersionId : Uuid) :
    Except String (Nat × List ClassificationDocument) := do
  let version ← orRaise (store.classifiable tenantId dceVersionId) "DCE_VERSION_NOT_CLASSIFIABLE"
  let documents := store.classificationDocuments tenantId dceVersionId
  raiseIf (documents = []) "DCE_DOCUMENT_REQUIRED"
  return (((store.classificationRun tenantId dceVersionId (classificationInputManifestSha256 documents) classifierId
    classifierVersion).map (·.dceVersionRevisionBefore)).getD version.aggregateRevision, documents)

def sameEvidence (received : DceDocumentClassificationEvidenceInput) (expected : ClassificationEvidence) : Bool :=
  received.fragmentId = expected.fragmentId ∧ received.ruleId = expected.ruleId ∧
    received.startByteOffset = expected.startByteOffset ∧ received.endByteOffset = expected.endByteOffset ∧
    received.excerpt = expected.excerpt

/-- The text of a fragment of one of the documents. -/
def fragmentText (documents : List ClassificationDocument) (fragmentId : Uuid) : Option (List Char) :=
  ((documents.flatMap (·.fragments)).find? fun fragment => fragment.fragmentId = fragmentId).map (·.text)

def checkEvidence (documents : List ClassificationDocument) :
    List (DceDocumentClassificationEvidenceInput × ClassificationEvidence) → Transaction Unit
  | [] => return
  | (received, expected) :: rest => do
    let text ← orRaise (fragmentText documents received.fragmentId)
      (.failed "DCE_CLASSIFICATION_SOURCE_FRAGMENT_REQUIRED")
    raiseIf (sameEvidence received expected = false) (.failed "DCE_CLASSIFICATION_EVIDENCE_REQUIRED")
    let sourceBytes := utf8Bytes text
    raiseIf (sourceBytes.length < received.endByteOffset) (.failed "DCE_CLASSIFICATION_SOURCE_OFFSET_REQUIRED")
    let sourcedExcerpt ← orRaise (decodeUtf8 ((sourceBytes.drop received.startByteOffset).take
      (received.endByteOffset - received.startByteOffset))) (.failed "DCE_CLASSIFICATION_SOURCE_OFFSET_REQUIRED")
    raiseIf (sourcedExcerpt ≠ received.excerpt) (.failed "DCE_CLASSIFICATION_SOURCE_EXCERPT_REQUIRED")
    checkEvidence documents rest

def checkResults (documents : List ClassificationDocument) :
    List (DceDocumentClassificationResultInput × ClassificationResult) → Transaction Unit
  | [] => return
  | (received, expected) :: rest => do
    raiseIf (received.dceDocumentId ≠ expected.dceDocumentId ∨ received.status ≠ expected.status ∨
      received.classification ≠ expected.classification ∨ received.ruleMatchCount ≠ expected.ruleMatchCount ∨
      received.evidence.length ≠ expected.evidence.length) (.failed "DCE_CLASSIFICATION_RESULT_REQUIRED")
    checkEvidence documents (received.evidence.zip expected.evidence)
    checkResults documents rest

/-- `_validate_classification_command` -/
def validateClassificationCommand (command : RecordDceDocumentClassificationRunCommand)
    (expected : ClassificationProjection) : Transaction Unit := do
  raiseIf (command.status ≠ expected.status ∨ command.failureCode ≠ expected.failureCode)
    (.failed "DCE_CLASSIFICATION_PROJECTION_REQUIRED")
  if command.status = .completed then
    raiseIf (command.results.length ≠ expected.results.length) (.failed "DCE_CLASSIFICATION_RESULT_REQUIRED")
    checkResults expected.documents (command.results.zip expected.results)
  else return

/-- `_classification_readiness` -/
def classificationReadiness (results : List DceDocumentClassificationResultInput) : ClassificationReadiness :=
  let classifiedCount := results.countP fun result => result.status = .classified
  if classifiedCount = 0 then .unclassified
  else if classifiedCount = results.length then .classified
  else .partiallyClassified

/-- The identifiers drawn for the rows of a recording: for the family and the result of a document, and for
    the evidence of a result. -/
structure ClassificationDraws where
  classification : Uuid → Uuid
  result : Uuid → Uuid
  evidence : Uuid → Nat → Uuid

def retired (current : DceDocumentClassificationRecord) : DceDocumentClassificationRecord :=
  { current with isCurrent := false }

theorem retired_columns (current : DceDocumentClassificationRecord) :
    Schema.columns (retired current) = Schema.columns current := rfl

def newClassification (tenantId : Uuid) (draws : ClassificationDraws) (dceDocumentId : Uuid) (family : DocumentFamily)
    (previous : Option Uuid) : DceDocumentClassificationRecord where
  id := draws.classification dceDocumentId
  tenantId := tenantId
  dceDocumentId := dceDocumentId
  classification := family
  source := "SYSTEM_DETERMINISTIC_V1"
  previousClassificationId := previous
  isCurrent := true

/-- The current family of a document, when a result classifies it. -/
def classifyCurrent (tenantId : Uuid) (draws : ClassificationDraws) (currents : List DceDocumentClassificationRecord)
    (table : Table DceDocumentClassificationRecord) (dceDocumentId : Uuid) (family : DocumentFamily) :
    Transaction (Table DceDocumentClassificationRecord × Uuid) :=
  match currents.find? fun current => current.dceDocumentId = dceDocumentId with
  | none => do
    let table ← flush (table.insert? (newClassification tenantId draws dceDocumentId family none))
    return (table, draws.classification dceDocumentId)
  | some current =>
    if current.classification = family then return (table, current.id)
    else do
      let table ← flush ((table.update (fun row => row.id = current.id) retired retired_columns).insert?
        (newClassification tenantId draws dceDocumentId family (some current.id)))
      return (table, draws.classification dceDocumentId)

def classifyResult (tenantId : Uuid) (draws : ClassificationDraws) (currents : List DceDocumentClassificationRecord)
    (table : Table DceDocumentClassificationRecord) (result : DceDocumentClassificationResultInput) :
    Transaction (Table DceDocumentClassificationRecord × Option Uuid) :=
  match result.status, result.classification with
  | .classified, some family => do
    let (table, id) ← classifyCurrent tenantId draws currents table result.dceDocumentId family
    return (table, some id)
  | _, _ => return (table, none)

/-- The families after the results, and the one of each result. -/
def classifyResults (tenantId : Uuid) (draws : ClassificationDraws) (currents : List DceDocumentClassificationRecord)
    (table : Table DceDocumentClassificationRecord) : List DceDocumentClassificationResultInput →
    Transaction (Table DceDocumentClassificationRecord × List (Option Uuid))
  | [] => return (table, [])
  | result :: results => do
    let (table, found) ← classifyResult tenantId draws currents table result
    let (table, others) ← classifyResults tenantId draws currents table results
    return (table, found :: others)

namespace RecordDceDocumentClassificationRunCommand

variable (command : RecordDceDocumentClassificationRunCommand) (tenantId : Uuid)

def runRecord : DceDocumentClassificationRunRecord where
  id := command.classificationRunId
  tenantId := tenantId
  dceVersionId := command.dceVersionId
  dceVersionRevisionBefore := command.expectedDceVersionRevision
  inputManifestSha256 := lower command.inputManifestSha256
  classifierId := command.classifierId
  classifierVersion := command.classifierVersion
  status := command.status
  documentCount := command.documentCount
  sourceFragmentCount := command.sourceFragmentCount
  sourceCharCount := command.sourceCharCount
  failureCode := command.failureCode

def resultRecord (draws : ClassificationDraws) (result : DceDocumentClassificationResultInput)
    (classificationId : Option Uuid) : DceDocumentClassificationResultRecord where
  id := draws.result result.dceDocumentId
  tenantId := tenantId
  classificationRunId := command.classificationRunId
  dceVersionId := command.dceVersionId
  dceDocumentId := result.dceDocumentId
  status := result.status
  classification := result.classification
  ruleMatchCount := result.ruleMatchCount
  classificationId := classificationId

end RecordDceDocumentClassificationRunCommand

def evidenceRecords (tenantId : Uuid) (draws : ClassificationDraws) (result : DceDocumentClassificationResultInput)
    (classificationId : Uuid) : List DceDocumentClassificationEvidenceRecord :=
  result.evidence.mapIdx fun index evidence =>
    ⟨draws.evidence result.dceDocumentId index, tenantId, draws.result result.dceDocumentId, evidence.fragmentId,
      classificationId, evidence.ruleId, evidence.ruleVersion, evidence.startByteOffset, evidence.endByteOffset,
      evidence.excerpt⟩

/-- Evidence needs the family it proves. -/
def evidenceOf (tenantId : Uuid) (draws : ClassificationDraws) :
    List (DceDocumentClassificationResultInput × Option Uuid) →
    Transaction (List DceDocumentClassificationEvidenceRecord)
  | [] => return []
  | (result, classificationId) :: rest => do
    let first ← if result.evidence = [] then pure []
      else do
        let classificationId ← orRaise classificationId
          (.failed "DCE_CLASSIFICATION_EVIDENCE_WITHOUT_CLASSIFICATION")
        return evidenceRecords tenantId draws result classificationId
    let others ← evidenceOf tenantId draws rest
    return first ++ others

def reclassified (readiness : ClassificationReadiness) (version : DceVersionRecord) : DceVersionRecord :=
  { version with classificationReadiness := readiness, aggregateRevision := version.aggregateRevision + 1 }

theorem reclassified_columns (readiness : ClassificationReadiness) (version : DceVersionRecord) :
    Schema.columns (reclassified readiness version) = Schema.columns version := rfl

def alreadyClassified (existing : DceDocumentClassificationRunRecord) : HandlerOutcome where
  resultCode := "DCE_DOCUMENT_CLASSIFICATION_ALREADY_RECORDED"
  aggregateRefs := [{
    aggregateType := "DCE_DOCUMENT_CLASSIFICATION_RUN", aggregateId := existing.id.str, aggregateRevision := 0 }]
  events := []

def classificationRecorded (command : RecordDceDocumentClassificationRunCommand) : HandlerOutcome where
  resultCode := "DCE_DOCUMENT_CLASSIFICATION_RECORDED"
  aggregateRefs := [{
    aggregateType := "DCE_DOCUMENT_CLASSIFICATION_RUN", aggregateId := command.classificationRunId.str
    aggregateRevision := 0 }]
  events := [{
    aggregateType := "DCE_DOCUMENT_CLASSIFICATION_RUN", aggregateId := command.classificationRunId
    aggregateRevision := 0, eventType := "DCE_DOCUMENT_CLASSIFICATION_RECORDED"
    payload := [("classification_run_id", .str command.classificationRunId.str),
      ("dce_version_id", .str command.dceVersionId.str),
      ("classification_readiness", .str (classificationReadiness command.results).value),
      ("document_count", .int command.documentCount),
      ("classified_document_count", .int (command.results.countP fun result => result.status = .classified))] }]

def ClassificationStore.currents (store : ClassificationStore) (tenantId : Uuid) (documentIds : List Uuid) :
    List DceDocumentClassificationRecord :=
  store.classifications.rows.filter fun row => row.tenantId = tenantId ∧ row.dceDocumentId ∈ documentIds ∧
    row.isCurrent = true

/-- The handler from the insertion of the run on. -/
def writeClassificationRun (store : ClassificationStore) (draws : ClassificationDraws)
    (command : RecordDceDocumentClassificationRunCommand) (tenantId : Uuid) : Transaction ClassificationStore := do
  let classificationRuns ← flush (store.classificationRuns.insert? (command.runRecord tenantId))
  let (classifications, found) ← classifyResults tenantId draws
    (store.currents tenantId (store.documentIds tenantId command.dceVersionId)) store.classifications command.results
  let classificationResults ← flush (store.classificationResults.insertAll?
    ((command.results.zip found).map fun (result, id) => command.resultRecord tenantId draws result id))
  let evidence ← evidenceOf tenantId draws (command.results.zip found)
  let classificationEvidence ← flush (store.classificationEvidence.insertAll? evidence)
  let versions := store.versions.update (fun row => row.id = command.dceVersionId)
    (reclassified (classificationReadiness command.results)) (reclassified_columns _)
  return { store with versions, classificationRuns, classifications, classificationResults, classificationEvidence }

def recordDceDocumentClassificationRun (unicode : Unicode) (store : ClassificationStore) (draws : ClassificationDraws)
    (command : RecordDceDocumentClassificationRunCommand) (context : CommandContext) :
    Transaction (ClassificationStore × HandlerOutcome) := do
  raiseIf (context.actorKind ≠ .system) (.failed "DCE_CLASSIFICATION_SYSTEM_ACTOR_REQUIRED")
  let version ← orRaise (store.classifiable context.tenantId command.dceVersionId)
    (.failed "DCE_VERSION_NOT_CLASSIFIABLE")
  let documents := store.classificationDocuments context.tenantId command.dceVersionId
  raiseIf (documents = []) (.failed "DCE_DOCUMENT_REQUIRED")
  raiseIf (documents.length ≠ command.documentCount) (.failed "DCE_CLASSIFICATION_DOCUMENT_COUNT_REQUIRED")
  raiseIf (lower command.inputManifestSha256 ≠ classificationInputManifestSha256 documents)
    (.failed "DCE_CLASSIFICATION_INPUT_MANIFEST_REQUIRED")
  raiseIf (fragmentCount documents ≠ command.sourceFragmentCount ∨ fragmentChars documents ≠ command.sourceCharCount)
    (.failed "DCE_CLASSIFICATION_SOURCE_COUNT_REQUIRED")
  match store.classificationRun context.tenantId command.dceVersionId (lower command.inputManifestSha256)
      command.classifierId command.classifierVersion with
  | some existing => return (store, alreadyClassified existing)
  | none =>
    raiseIf (version.aggregateRevision ≠ command.expectedDceVersionRevision) (.failed "DCE_VERSION_STALE")
    validateClassificationCommand command (projectDceClassification unicode documents)
    let next ← writeClassificationRun store draws command context.tenantId
    return (next, classificationRecorded command)

end SmartAo.Dce
