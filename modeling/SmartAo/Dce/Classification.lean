import SmartAo.Dce.Fragments
import SmartAo.Dce.RcRecords
import SmartAo.Dce.TextRules

namespace SmartAo.Dce

open SmartAo.Foundation SmartAo.Platform

def classifierId : String := "smart-ao-document-rules"

def classifierVersion : String := "1"

def systemClassificationActorId : Uuid := 0x15

def maxDocuments : Nat := 10000

def maxSourceFragments : Nat := 100000

def maxSourceChars : Nat := 10000000

def maxEvidencePerDocument : Nat := 20

inductive DocumentFamily where
  | rc
  | ccap
  | ae
  | cctp
  | dpgf
  | bpu
  | plan
  | annex
  | rectification
  | other
deriving DecidableEq

def DocumentFamily.value : DocumentFamily → String
  | rc => "RC"
  | ccap => "CCAP"
  | ae => "AE"
  | cctp => "CCTP"
  | dpgf => "DPGF"
  | bpu => "BPU"
  | plan => "PLAN"
  | annex => "ANNEX"
  | rectification => "RECTIFICATION"
  | other => "OTHER"

structure ClassificationFragment where
  extractionId : Uuid
  fragmentId : Uuid
  ordinal : Nat
  text : List Char
  textSha256 : String
deriving DecidableEq

structure ClassificationDocument where
  dceDocumentId : Uuid
  fragments : List ClassificationFragment
deriving DecidableEq

structure ClassificationEvidence where
  fragmentId : Uuid
  ruleId : String
  startByteOffset : Nat
  endByteOffset : Nat
  excerpt : List Char
deriving DecidableEq

inductive ClassificationStatus where
  | classified
  | unclassified
  | reviewRequired
  | notExtracted
deriving DecidableEq

def ClassificationStatus.value : ClassificationStatus → String
  | classified => "CLASSIFIED"
  | unclassified => "UNCLASSIFIED"
  | reviewRequired => "REVIEW_REQUIRED"
  | notExtracted => "NOT_EXTRACTED"

structure ClassificationResult where
  dceDocumentId : Uuid
  status : ClassificationStatus
  classification : Option DocumentFamily
  ruleMatchCount : Nat
  evidence : List ClassificationEvidence
deriving DecidableEq

inductive ClassificationRunStatus where
  | completed
  | rejectedLimit
  | failedSafe
deriving DecidableEq

def ClassificationRunStatus.value : ClassificationRunStatus → String
  | completed => "COMPLETED"
  | rejectedLimit => "REJECTED_LIMIT"
  | failedSafe => "FAILED_SAFE"

structure ClassificationProjection where
  status : ClassificationRunStatus
  failureCode : Option String
  documents : List ClassificationDocument
  results : List ClassificationResult
  sourceFragmentCount : Nat
  sourceCharCount : Nat
deriving DecidableEq

structure ClassificationRule where
  classification : DocumentFamily
  ruleId : String
  pattern : Pattern

open Pattern in
/-- `_CLASSIFICATION_RULES`; their order decides nothing, as no two rules share a family. -/
def classificationRules : List ClassificationRule := [
  ⟨.rc, "DOCUMENT_RC_TITLE_V1", .alt (word (phrase "règlement" ["de", "la", "consultation"]))
    (word (phrase "règlement" ["de", "consultation"]))⟩,
  ⟨.ccap, "DOCUMENT_CCAP_TITLE_V1", .alt (word (literal "ccap"))
    (word (phrase "cahier" ["des", "clauses", "administratives", "particulières"]))⟩,
  ⟨.cctp, "DOCUMENT_CCTP_TITLE_V1", .alt (word (literal "cctp"))
    (word (phrase "cahier" ["des", "clauses", "techniques", "particulières"]))⟩,
  ⟨.ae, "DOCUMENT_AE_TITLE_V1", word (spaced (literal "acte")
    [.seq (literal "d") (.seq apostrophe (literal "engagement"))])⟩,
  ⟨.bpu, "DOCUMENT_BPU_TITLE_V1", .alt (word (literal "bpu"))
    (word (phrase "bordereau" ["de", "prix", "unitaires"]))⟩,
  ⟨.dpgf, "DOCUMENT_DPGF_TITLE_V1", .alt (word (literal "dpgf"))
    (word (phrase "décomposition" ["du", "prix", "global", "et", "forfaitaire"]))⟩,
  ⟨.plan, "DOCUMENT_PLAN_REFERENCE_V1", word (spaced (literal "plan") [anyOf (phrase "de" ["situation"])
    [.seq (literal "d") (.seq apostrophe (literal "installation")),
      .seq (literal "d") (.seq apostrophe (literal "implantation"))]])⟩,
  ⟨.annex, "DOCUMENT_ANNEX_REFERENCE_V1", word (.seq (literal "annexe") (.optional (literal "s")))⟩,
  ⟨.rectification, "DOCUMENT_RECTIFICATION_REFERENCE_V1", .alt (word (literal "rectificatif"))
    (word (phrase "modification" ["de", "la", "consultation"]))⟩]

abbrev EvidenceKey := String × Uuid × Nat × Nat

/-- The dictionaries of `_classify_document`; an absent family has no score and no evidence. -/
structure Tally where
  scores : DocumentFamily → Nat
  evidence : DocumentFamily → List ClassificationEvidence
  evidenceKeys : List EvidenceKey

def Tally.empty : Tally := ⟨fun _ => 0, fun _ => [], []⟩

namespace Tally

variable (unicode : Unicode) (rule : ClassificationRule) (fragment : ClassificationFragment)

def addEvidence (tally : Tally) (found : Span) : Tally :=
  if maxEvidencePerDocument ≤ (tally.evidence rule.classification).length then tally
  else
    let window := boundedExcerpt fragment.text found
    let evidenceKey := (rule.ruleId, fragment.fragmentId, window.startByteOffset, window.endByteOffset)
    if evidenceKey ∈ tally.evidenceKeys then tally
    else { tally with
      evidence := fun family => if family = rule.classification then tally.evidence family ++
        [⟨fragment.fragmentId, rule.ruleId, window.startByteOffset, window.endByteOffset, window.excerpt⟩]
        else tally.evidence family
      evidenceKeys := tally.evidenceKeys ++ [evidenceKey] }

def addMatches (tally : Tally) : Tally :=
  match rule.pattern.finditer unicode.alphabet fragment.text with
  | [] => tally
  | found :: others => (found :: others).foldl (addEvidence rule fragment) { tally with
    scores := fun family => if family = rule.classification then tally.scores family + (found :: others).length
      else tally.scores family }

def addFragment (tally : Tally) : Tally :=
  classificationRules.foldl (fun tally rule => tally.addMatches unicode rule fragment) tally

end Tally

def tallyDocument (unicode : Unicode) (document : ClassificationDocument) : Tally :=
  document.fragments.foldl (fun tally fragment => tally.addFragment unicode fragment) .empty

/-- The families with a score, among those of the rules. -/
def Tally.scored (tally : Tally) : List DocumentFamily :=
  (classificationRules.map (·.classification)).filter fun family => 0 < tally.scores family

def Tally.highestScore (tally : Tally) : Nat := (tally.scored.map tally.scores).foldl max 0

def Tally.winners (tally : Tally) : List DocumentFamily :=
  tally.scored.filter fun family => tally.scores family = tally.highestScore

def withoutFamily (document : ClassificationDocument) (status : ClassificationStatus) : ClassificationResult :=
  ⟨document.dceDocumentId, status, none, 0, []⟩

/-- `_classify_document` -/
def classifyDocument (unicode : Unicode) (document : ClassificationDocument) : ClassificationResult :=
  if document.fragments = [] then withoutFamily document .notExtracted
  else
    let tally := tallyDocument unicode document
    if tally.scored = [] then withoutFamily document .unclassified
    else match tally.winners with
      | [classification] => ⟨document.dceDocumentId, .classified, some classification, tally.highestScore,
        tally.evidence classification⟩
      | _ => withoutFamily document .reviewRequired

def fragmentCount (documents : List ClassificationDocument) : Nat :=
  (documents.map fun document => document.fragments.length).sum

def fragmentChars (documents : List ClassificationDocument) : Nat :=
  (documents.map fun document => charCount (·.text) document.fragments).sum

/-- `project_dce_classification` -/
def projectDceClassification (unicode : Unicode) (documents : List ClassificationDocument) :
    ClassificationProjection :=
  if maxDocuments < documents.length ∨ maxSourceFragments < fragmentCount documents ∨
      maxSourceChars < fragmentChars documents then
    ⟨.rejectedLimit, some "CLASSIFICATION_LIMIT", documents, [], fragmentCount documents, fragmentChars documents⟩
  else ⟨.completed, none, documents, documents.map (classifyDocument unicode), fragmentCount documents,
    fragmentChars documents⟩

/-- `_manifest_lines` -/
def manifestLines (document : ClassificationDocument) : List (List (List Char)) :=
  if document.fragments = [] then [["N".toList, document.dceDocumentId.chars]]
  else document.fragments.map fun fragment => ["D".toList, document.dceDocumentId.chars, fragment.extractionId.chars,
    fragment.fragmentId.chars, Nat.toDigits 10 fragment.ordinal, (lower fragment.textSha256).toList]

def classificationInputManifestSha256 (documents : List ClassificationDocument) : String :=
  manifestSha256 (documents.flatMap manifestLines)

structure DceDocumentClassificationEvidenceInput where
  fragmentId : Uuid
  ruleId : String
  ruleVersion : String
  startByteOffset : Nat
  endByteOffset : Nat
  excerpt : List Char
deriving DecidableEq

/-- `^[A-Z0-9_]+_V[0-9]+$` -/
def isRuleId (text : String) : Bool :=
  (List.range text.length).any fun cut =>
    let front := text.toList.take cut
    let number := text.toList.drop (cut + 2)
    front ≠ [] ∧ (∀ c ∈ front, c.isUpper ∨ c.isDigit ∨ c = '_') ∧ (text.toList.drop cut).take 2 = ['_', 'V'] ∧
      number ≠ [] ∧ ∀ c ∈ number, c.isDigit

/-- The evidence model does not strip its texts. -/
def DceDocumentClassificationEvidenceInput.build (evidence : DceDocumentClassificationEvidenceInput) :
    Except ValidationError DceDocumentClassificationEvidenceInput := do
  raiseIf (evidence.ruleId = "" ∨ 120 < evidence.ruleId.length ∨ isRuleId evidence.ruleId = false) (.field "rule_id")
  raiseIf (evidence.ruleVersion = "" ∨ 64 < evidence.ruleVersion.length) (.field "rule_version")
  raiseIf (evidence.endByteOffset = 0) (.field "end_byte_offset")
  raiseIf (evidence.excerpt = [] ∨ 1000 < evidence.excerpt.length) (.field "excerpt")
  raiseIf (evidence.endByteOffset ≤ evidence.startByteOffset)
    (.model "classification evidence offsets must be strictly ordered")
  return evidence

structure DceDocumentClassificationResultInput where
  dceDocumentId : Uuid
  status : ClassificationStatus
  classification : Option DocumentFamily
  ruleMatchCount : Nat
  evidence : List DceDocumentClassificationEvidenceInput
deriving DecidableEq

def DceDocumentClassificationResultInput.build (result : DceDocumentClassificationResultInput) :
    Except ValidationError DceDocumentClassificationResultInput := do
  raiseIf (20 < result.evidence.length) (.field "evidence")
  if result.status = .classified then
    raiseIf (result.classification = none ∨ result.evidence = [] ∨ result.ruleMatchCount = 0)
      (.model "classified document requires family, evidence and positive score")
  else
    raiseIf (result.classification ≠ none ∨ result.evidence ≠ [] ∨ result.ruleMatchCount ≠ 0)
      (.model "non-classified document cannot carry a family, evidence or score")
  return result

structure RecordDceDocumentClassificationRunCommand extends ApplicationCommand where
  classificationRunId : Uuid
  dceVersionId : Uuid
  expectedDceVersionRevision : Nat
  inputManifestSha256 : String
  classifierId : String
  classifierVersion : String
  status : ClassificationRunStatus
  documentCount : Nat
  sourceFragmentCount : Nat
  sourceCharCount : Nat
  failureCode : Option String
  results : List DceDocumentClassificationResultInput

namespace RecordDceDocumentClassificationRunCommand

def validateTerminalProjection (command : RecordDceDocumentClassificationRunCommand) :
    Except ValidationError Unit := do
  raiseIf (¬ (command.results.map (·.dceDocumentId)).Nodup)
    (.model "classification result document identifier duplicate")
  if command.status = .completed then
    raiseIf (command.failureCode ≠ none ∨ command.results.length ≠ command.documentCount)
      (.model "completed classification requires one result per DCE document")
  else
    raiseIf (command.failureCode = none ∨ command.results ≠ [])
      (.model "failed classification requires a code and no results")

def build (command : RecordDceDocumentClassificationRunCommand) :
    Except ValidationError RecordDceDocumentClassificationRunCommand := do
  raiseIf (isSha256 command.inputManifestSha256 = false) (.field "input_manifest_sha256")
  raiseIf (command.classifierId = "" ∨ 100 < command.classifierId.length) (.field "classifier_id")
  raiseIf (command.classifierVersion = "" ∨ 64 < command.classifierVersion.length) (.field "classifier_version")
  raiseIf (command.documentCount = 0) (.field "document_count")
  raiseIf (command.failureCode.any fun code => 120 < code.length) (.field "failure_code")
  command.validateTerminalProjection
  return command

end RecordDceDocumentClassificationRunCommand

def evidenceInput? (evidence : ClassificationEvidence) :
    Except ValidationError DceDocumentClassificationEvidenceInput :=
  DceDocumentClassificationEvidenceInput.build ⟨evidence.fragmentId, evidence.ruleId, classifierVersion,
    evidence.startByteOffset, evidence.endByteOffset, evidence.excerpt⟩

def resultInput? (result : ClassificationResult) : Except ValidationError DceDocumentClassificationResultInput := do
  let evidence ← collect evidenceInput? result.evidence
  DceDocumentClassificationResultInput.build ⟨result.dceDocumentId, result.status, result.classification,
    result.ruleMatchCount, evidence⟩

def classificationRunName (manifest : String) : List Char :=
  manifest.toList ++ ':' :: (classifierId.toList ++ ':' :: classifierVersion.toList)

def classificationRunId (dceVersionId : Uuid) (documents : List ClassificationDocument) : Uuid :=
  uuid5 dceVersionId (classificationRunName (classificationInputManifestSha256 documents))

/-- `_recording_command` -/
def classificationCommand (dceVersionId : Uuid) (expectedDceVersionRevision : Nat)
    (projection : ClassificationProjection) : Except ValidationError RecordDceDocumentClassificationRunCommand := do
  let runId := classificationRunId dceVersionId projection.documents
  let results ← collect resultInput? projection.results
  RecordDceDocumentClassificationRunCommand.build {
    commandId := runId, idempotencyKey := runId, correlationId := some dceVersionId
    classificationRunId := runId, dceVersionId, expectedDceVersionRevision
    inputManifestSha256 := classificationInputManifestSha256 projection.documents, classifierId, classifierVersion
    status := projection.status, documentCount := projection.documents.length
    sourceFragmentCount := projection.sourceFragmentCount, sourceCharCount := projection.sourceCharCount
    failureCode := projection.failureCode, results }

end SmartAo.Dce
