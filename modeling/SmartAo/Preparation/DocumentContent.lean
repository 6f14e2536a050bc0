import SmartAo.Preparation.Records
import Mathlib.Data.Char
import Mathlib.Data.List.Lex
import Mathlib.Data.List.Sort

namespace SmartAo.Preparation

open SmartAo.Foundation SmartAo.Platform SmartAo.Dce

/-- Requirement facts used by readiness and generation. -/
structure PreparationRequirementInput where
  requirementId : Uuid
  requirementType : RequirementType
  directiveSignal : DirectiveSignal
  confirmationOutcome : Option ConfirmationOutcome
deriving DecidableEq

def joined (separator : List Char) : List (List Char) → List Char
  | [] => []
  | [item] => item
  | item :: items => item ++ separator ++ joined separator items

/-- `", ".join(items) or empty`. -/
def listed (items : List (List Char)) (empty : String) : List Char :=
  if items.isEmpty then empty.toList else joined [',', ' '] items

def quoted (label : String) (value : List Char) : List Char := label.toList ++ '`' :: value ++ ['`']

/-- `"\n".join(lines) + "\n"`. -/
def document (lines : List (List Char)) : List Char := lines.flatMap fun line => line ++ ['\n']

/-- Server-resolved facts allowed in a collaborator technical draft. -/
structure TechnicalDocumentFacts where
  caseId : Uuid
  dceVersionId : Uuid
  readinessState : ReadinessState
  readinessRevision : Nat
  documentVersion : Nat
  requirements : List PreparationRequirementInput
  blockerCodes : List BlockerCode
  warningCodes : List WarningCode

def blockerTexts (codes : List BlockerCode) : List (List Char) := codes.map fun code => code.value.toList

def warningTexts (codes : List WarningCode) : List (List Char) := codes.map fun code => code.value.toList

def requirementLine (item : PreparationRequirementInput) : List Char :=
  quoted "- " item.requirementId.chars ++ " — ".toList ++ item.requirementType.value.toList ++
    " — ".toList ++ item.directiveSignal.value.toList ++ " — ".toList ++
    (item.confirmationOutcome.elim "PENDING_HUMAN_CONFIRMATION" (·.value)).toList

def buildTechnicalDocument (facts : TechnicalDocumentFacts) : List Char :=
  document ([
    "# Réponse technique — préparation contrôlée".toList,
    [],
    "## Identification de la préparation".toList,
    quoted "- Affaire : " facts.caseId.chars,
    quoted "- Version DCE : " facts.dceVersionId.chars,
    quoted "- État de complétude : " facts.readinessState.value.toList,
    quoted "- Révision de complétude : " (Nat.toDigits 10 facts.readinessRevision),
    quoted "- Version du document : " (Nat.toDigits 10 facts.documentVersion),
    [],
    "## Exigences DCE confirmées".toList] ++
    (if facts.requirements.isEmpty then
      ["- Aucune exigence matérialisée dans le périmètre courant.".toList]
    else facts.requirements.map requirementLine) ++ [
    [],
    "## Contrôle de complétude".toList,
    "- Blocages : ".toList ++ listed (blockerTexts facts.blockerCodes) "aucun",
    "- Avertissements : ".toList ++ listed (warningTexts facts.warningCodes) "aucun",
    [],
    "Ce document est un brouillon technique versionné réservé au contrôle humain.".toList])

inductive ControlledDocumentKind where
  | dc1
  | dc2
  | dc4
deriving DecidableEq

def ControlledDocumentKind.value : ControlledDocumentKind → String
  | dc1 => "DC1"
  | dc2 => "DC2"
  | dc4 => "DC4"

/-- Facts resolved by the server and safe to project into controlled drafts. -/
structure ControlledDraftServerFacts where
  caseId : Uuid
  dceVersionId : Uuid
  readinessState : ReadinessState
  readinessRevision : Nat
  confirmedRequirementIds : List Uuid
  blockerCodes : List BlockerCode
  warningCodes : List WarningCode

/-- The kind-specific facts, in the order of their keys. -/
def ControlledDraftServerFacts.forKind (facts : ControlledDraftServerFacts) (kind : ControlledDocumentKind) :
    List (String × List Char) :=
  let blockers := ("blocker_codes", listed (blockerTexts facts.blockerCodes) "NONE")
  let case := ("case_id", facts.caseId.chars)
  let dce := ("dce_version_id", facts.dceVersionId.chars)
  let revision := ("readiness_revision", Nat.toDigits 10 facts.readinessRevision)
  let state := ("readiness_state", facts.readinessState.value.toList)
  let warnings := ("warning_codes", listed (warningTexts facts.warningCodes) "NONE")
  match kind with
  | .dc1 => [blockers, case,
      ("confirmed_requirement_count", Nat.toDigits 10 facts.confirmedRequirementIds.length),
      dce, revision, state, warnings]
  | .dc2 => [blockers, case,
      ("confirmed_requirement_ids", listed ((facts.confirmedRequirementIds.map Uuid.chars).insertionSort
        (· ≤ ·)) "NONE"),
      dce, revision, state, warnings]
  | .dc4 => [blockers, case, dce, revision, state,
      ("scope_policy", "DCE_REQUIREMENTS_ONLY".toList), warnings]

def factLine (fact : String × List Char) : List Char :=
  "- ".toList ++ fact.1.toList ++ " : ".toList ++
    (if fact.2.isEmpty then "[À COMPLÉTER]".toList else fact.2)

/-- A non-binding envelope from server-provided facts only. -/
def buildControlledBtpDocument (kind : ControlledDocumentKind) (caseId dceVersionId : Uuid)
    (documentVersion : Nat) (facts : List (String × List Char)) (blockers : List BlockerCode) : List Char :=
  document ([
    "# ".toList ++ kind.value.toList ++ " — brouillon contrôlé".toList,
    [],
    ("> Document de préparation non contractuel. Validation humaine et " ++
      "signature externe obligatoires.").toList,
    [],
    "## Traçabilité".toList,
    quoted "- Affaire : " caseId.chars,
    quoted "- Version DCE : " dceVersionId.chars,
    quoted "- Version du document : " (Nat.toDigits 10 documentVersion),
    [],
    "## Faits fournis par le serveur".toList] ++ facts.map factLine ++ [
    [],
    "## Contrôles à effectuer".toList,
    "- Blocages : ".toList ++ listed (blockerTexts blockers) "aucun détecté",
    ("- Les champs absents, les échéances et la conformité juridique restent " ++
      "à confirmer par un opérateur habilité.").toList])

end SmartAo.Preparation
