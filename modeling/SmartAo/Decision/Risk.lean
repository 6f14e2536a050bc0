import SmartAo.Case.Record
import SmartAo.Dce.Extraction
import SmartAo.Dce.Records
import SmartAo.Foundation.Text
import SmartAo.PatronAction.Actions

namespace SmartAo.Decision

open SmartAo.Foundation SmartAo.Platform SmartAo.Case SmartAo.Dce SmartAo.PatronAction

inductive RiskCategory where
  | ccap
  | cctp
deriving DecidableEq

def RiskCategory.value : RiskCategory → String
  | ccap => "CCAP"
  | cctp => "CCTP"

inductive RiskSeverity where
  | low
  | medium
  | high
  | critical
deriving DecidableEq

def RiskSeverity.value : RiskSeverity → String
  | low => "LOW"
  | medium => "MEDIUM"
  | high => "HIGH"
  | critical => "CRITICAL"

inductive RiskLikelihood where
  | rare
  | possible
  | likely
  | almostCertain
deriving DecidableEq

inductive RiskTreatment where
  | open
  | accepted
  | mitigated
deriving DecidableEq

def RiskTreatment.value : RiskTreatment → String
  | .open => "OPEN"
  | .accepted => "ACCEPTED"
  | .mitigated => "MITIGATED"

def RiskTreatment.allowed : RiskTreatment → List RiskTreatment
  | .open => [.accepted, .mitigated]
  | .accepted => [.mitigated]
  | .mitigated => []

/-- A registered risk, as it was created. -/
structure DecisionRiskRecord where
  id : Uuid
  tenantId : Uuid
  caseId : Uuid
  dceVersionId : Uuid
  sourceFragmentId : Uuid
  functionalKey : String
  category : RiskCategory
  riskCode : String
  title : String
  statement : String
  severity : RiskSeverity
  likelihood : RiskLikelihood
  treatment : RiskTreatment
  sourceExcerpt : String
  startByteOffset : Nat
  endByteOffset : Nat
  dueAt : Option Timestamp
deriving DecidableEq

instance : Schema DecisionRiskRecord :=
  Schema.keyed fun row => (row.id, row.tenantId, row.functionalKey)

structure DecisionRiskTreatmentTransitionRecord where
  id : Uuid
  tenantId : Uuid
  riskId : Uuid
  fromTreatment : RiskTreatment
  toTreatment : RiskTreatment
  evidenceExcerpt : String
  evidenceStartByteOffset : Nat
  evidenceEndByteOffset : Nat
  rationale : String
  aggregateRevision : Nat
  commandId : Uuid
  idempotencyKey : Uuid
deriving DecidableEq

instance : Schema DecisionRiskTreatmentTransitionRecord where
  Columns := Uuid × Uuid × Uuid × Uuid × (Uuid × Nat)
  columns row := (row.id, row.tenantId, row.commandId, row.idempotencyKey,
    (row.riskId, row.aggregateRevision))
  Clash first second := first.1 = second.1 ∨ (first.2.1 = second.2.1 ∧
    (first.2.2.1 = second.2.2.1 ∨ first.2.2.2.1 = second.2.2.2.1 ∨ first.2.2.2.2 = second.2.2.2.2))
  decidableClash := fun _ _ => inferInstance
  symm clash := clash.imp Eq.symm fun ⟨tenant, rest⟩ =>
    ⟨tenant.symm, rest.imp Eq.symm (Or.imp Eq.symm Eq.symm)⟩

inductive RiskRequirementRelation where
  | impacts
  | mitigates
  | constrains
deriving DecidableEq

def RiskRequirementRelation.value : RiskRequirementRelation → String
  | impacts => "IMPACTS"
  | mitigates => "MITIGATES"
  | constrains => "CONSTRAINS"

/-- An immutable link from a registered risk to a confirmed DCE requirement. -/
structure DecisionRiskRequirementLinkRecord where
  id : Uuid
  tenantId : Uuid
  caseId : Uuid
  riskId : Uuid
  requirementId : Uuid
  dceVersionId : Uuid
  functionalKey : String
  relationship : RiskRequirementRelation
  rationale : String
  commandId : Uuid
  idempotencyKey : Uuid
deriving DecidableEq

instance : Schema DecisionRiskRequirementLinkRecord where
  Columns := Uuid × Uuid × String × Uuid × Uuid
  columns row := (row.id, row.tenantId, row.functionalKey, row.commandId, row.idempotencyKey)
  Clash first second := first.1 = second.1 ∨ (first.2.1 = second.2.1 ∧
    (first.2.2.1 = second.2.2.1 ∨ first.2.2.2.1 = second.2.2.2.1 ∨ first.2.2.2.2 = second.2.2.2.2))
  decidableClash := fun _ _ => inferInstance
  symm clash := clash.imp Eq.symm fun ⟨tenant, rest⟩ =>
    ⟨tenant.symm, rest.imp Eq.symm (Or.imp Eq.symm Eq.symm)⟩

structure RiskStore where
  risks : Table DecisionRiskRecord
  treatments : Table DecisionRiskTreatmentTransitionRecord
  links : Table DecisionRiskRequirementLinkRecord

def RiskStore.empty : RiskStore := ⟨.empty, .empty, .empty⟩

structure RegisterStructuredRiskCommand extends ApplicationCommand where
  riskId : Uuid
  caseId : Uuid
  dceVersionId : Uuid
  sourceFragmentId : Uuid
  category : RiskCategory
  riskCode : String
  title : String
  statement : String
  severity : RiskSeverity
  likelihood : RiskLikelihood
  sourceExcerpt : String
  sourceLocator : List (String × Json)
  startByteOffset : Nat
  endByteOffset : Nat
  dueAt : Option Timestamp

structure TransitionStructuredRiskTreatmentCommand extends ApplicationCommand where
  riskId : Uuid
  caseId : Uuid
  expectedRevision : Nat
  toTreatment : RiskTreatment
  evidenceExcerpt : String
  evidenceStartByteOffset : Nat
  evidenceEndByteOffset : Nat
  rationale : String

structure LinkRiskToRequirementCommand extends ApplicationCommand where
  linkId : Uuid
  caseId : Uuid
  riskId : Uuid
  requirementId : Uuid
  dceVersionId : Uuid
  relationship : RiskRequirementRelation
  rationale : String

def patronAdminRequired (context : CommandContext) : Transaction Unit :=
  raiseIf (context.actorKind ≠ .patronAdmin ∨ context.membershipId = none)
    (.execution "PATRON_REQUIRED")

/-- The first two checks of a risk command: its case, and that the case uses the DCE version. -/
def caseOfVersion (cases : Table CaseRecord) (tenantId caseId dceVersionId : Uuid) :
    Transaction Unit := do
  let case ← orRaise (cases.find? fun row => row.tenantId = tenantId ∧ row.id = caseId)
    (.execution "NOT_FOUND_OR_FORBIDDEN")
  raiseIf (case.applicableDceVersionId ≠ some dceVersionId) (.execution "STALE_DCE_CONTEXT")

/-- `StructuredRisk.validate`, on the fields of a registration. -/
def RegisterStructuredRiskCommand.validate (command : RegisterStructuredRiskCommand) :
    Transaction Unit := do
  raiseIf (strip command.riskCode = "" ∨ 100 < (strip command.riskCode).length)
    (.failed "risk_code must be between 1 and 100 characters")
  raiseIf (strip command.title = "" ∨ 240 < (strip command.title).length)
    (.failed "title must be between 1 and 240 characters")
  raiseIf (strip command.statement = "") (.failed "statement must not be empty")
  raiseIf (strip command.sourceExcerpt = "" ∨ 2000 < command.sourceExcerpt.length)
    (.failed "source_excerpt must be between 1 and 2000 characters")
  raiseIf (command.endByteOffset ≤ command.startByteOffset)
    (.failed "source offsets must be ordered and non-negative")
  raiseIf (command.sourceLocator.isEmpty = true) (.failed "source_locator must not be empty")

def RegisterStructuredRiskCommand.functionalKey (command : RegisterStructuredRiskCommand) : String :=
  command.caseId.str ++ ":" ++ command.dceVersionId.str ++ ":" ++ command.sourceFragmentId.str ++
    ":" ++ command.riskCode

def riskOutcome (riskId : Uuid) (revision : Nat) (resultCode eventType : String)
    (payload : List (String × Json)) : HandlerOutcome where
  resultCode := resultCode
  aggregateRefs := [{
    aggregateType := "DecisionRisk"
    aggregateId := riskId.str
    aggregateRevision := revision }]
  events := [{
    aggregateType := "DecisionRisk"
    aggregateId := riskId
    aggregateRevision := revision
    eventType := eventType
    payload := payload }]

def registerStructuredRisk (cases : Table CaseRecord) (sources : SourceStore) (store : RiskStore)
    (command : RegisterStructuredRiskCommand) (context : CommandContext) :
    Transaction (RiskStore × HandlerOutcome) := do
  patronAdminRequired context
  caseOfVersion cases context.tenantId command.caseId command.dceVersionId
  raiseIf (sources.fragment context.tenantId command.dceVersionId command.sourceFragmentId = none)
    (.execution "SOURCE_FRAGMENT_NOT_FOUND_OR_FORBIDDEN")
  raiseIf (¬ sources.supports context.tenantId command.dceVersionId command.sourceFragmentId
    command.sourceExcerpt command.startByteOffset command.endByteOffset)
    (.execution "SOURCE_PROVENANCE_MISMATCH")
  command.validate
  raiseIf (store.risks.find? (fun row => row.tenantId = context.tenantId ∧
    row.functionalKey = command.functionalKey) ≠ none) (.execution "RISK_ALREADY_REGISTERED")
  let record : DecisionRiskRecord := {
    id := command.riskId, tenantId := context.tenantId, caseId := command.caseId,
    dceVersionId := command.dceVersionId, sourceFragmentId := command.sourceFragmentId,
    functionalKey := command.functionalKey, category := command.category,
    riskCode := command.riskCode, title := command.title, statement := command.statement,
    severity := command.severity, likelihood := command.likelihood, treatment := .open,
    sourceExcerpt := command.sourceExcerpt, startByteOffset := command.startByteOffset,
    endByteOffset := command.endByteOffset, dueAt := command.dueAt }
  -- the column of the key is 160 characters wide
  raiseIf (160 < record.functionalKey.length) (.failed "value too long for its column")
  let risks ← flush (store.risks.insert? record)
  return ({ store with risks }, riskOutcome record.id 1 "DECISION_RISK_REGISTERED"
    "DecisionRiskRegistered" [
      ("risk_id", .str record.id.str), ("case_id", .str record.caseId.str),
      ("category", .str record.category.value), ("severity", .str record.severity.value)])

/-- The current position of a risk, from its latest treatment transition or else its row. -/
structure DecisionRiskSnapshot where
  id : Uuid
  caseId : Uuid
  dceVersionId : Uuid
  sourceFragmentId : Uuid
  riskCode : String
  category : RiskCategory
  title : String
  severity : RiskSeverity
  likelihood : RiskLikelihood
  treatment : RiskTreatment
  revision : Nat
  dueAt : Option Timestamp

def treatmentOf (tenantId riskId : Uuid) (row : DecisionRiskTreatmentTransitionRecord) : Bool :=
  row.tenantId = tenantId ∧ row.riskId = riskId

def RiskStore.latestTreatment (store : RiskStore) (tenantId riskId : Uuid) :
    Option DecisionRiskTreatmentTransitionRecord :=
  store.treatments.latest (treatmentOf tenantId riskId) (·.aggregateRevision)

/-- The projection the risk register shows, and the one transitions are checked against. -/
def RiskStore.getCurrent (store : RiskStore) (tenantId caseId riskId : Uuid) :
    Option DecisionRiskSnapshot :=
  (store.risks.find? fun row => row.tenantId = tenantId ∧ row.caseId = caseId ∧ row.id = riskId).map
    fun risk =>
      let latest := store.latestTreatment tenantId riskId
      { id := risk.id
        caseId := risk.caseId
        dceVersionId := risk.dceVersionId
        sourceFragmentId := risk.sourceFragmentId
        riskCode := risk.riskCode
        category := risk.category
        title := risk.title
        severity := risk.severity
        likelihood := risk.likelihood
        treatment := (latest.map (·.toTreatment)).getD risk.treatment
        revision := (latest.map (·.aggregateRevision)).getD 1
        dueAt := risk.dueAt }

/-- Appends a treatment transition; the risk row stays as it was created. -/
def transitionStructuredRiskTreatment (sources : SourceStore) (store : RiskStore)
    (command : TransitionStructuredRiskTreatmentCommand) (context : CommandContext) :
    Transaction (RiskStore × HandlerOutcome) := do
  patronAdminRequired context
  let snapshot ← orRaise (store.getCurrent context.tenantId command.caseId command.riskId)
    (.execution "RISK_NOT_FOUND_OR_FORBIDDEN")
  raiseIf (snapshot.revision ≠ command.expectedRevision) (.execution "RISK_REVISION_CONFLICT")
  raiseIf (command.toTreatment ∉ snapshot.treatment.allowed)
    (.execution "INVALID_RISK_TREATMENT_TRANSITION")
  raiseIf (¬ sources.supports context.tenantId snapshot.dceVersionId snapshot.sourceFragmentId
    command.evidenceExcerpt command.evidenceStartByteOffset command.evidenceEndByteOffset)
    (.execution "SOURCE_PROVENANCE_MISMATCH")
  let transition : DecisionRiskTreatmentTransitionRecord := {
    id := command.commandId, tenantId := context.tenantId, riskId := command.riskId,
    fromTreatment := snapshot.treatment, toTreatment := command.toTreatment,
    evidenceExcerpt := command.evidenceExcerpt,
    evidenceStartByteOffset := command.evidenceStartByteOffset,
    evidenceEndByteOffset := command.evidenceEndByteOffset, rationale := command.rationale,
    aggregateRevision := snapshot.revision + 1, commandId := command.commandId,
    idempotencyKey := command.idempotencyKey }
  let treatments ← flush (store.treatments.insert? transition)
  return ({ store with treatments }, riskOutcome command.riskId transition.aggregateRevision
    "DECISION_RISK_TREATMENT_TRANSITIONED" "DecisionRiskTreatmentTransitioned" [
      ("risk_id", .str command.riskId.str), ("case_id", .str command.caseId.str),
      ("from_treatment", .str transition.fromTreatment.value),
      ("to_treatment", .str transition.toTreatment.value),
      ("revision", .int transition.aggregateRevision)])

/-- A requirement of the DCE version whose current confirmation is CONFIRMED. -/
def requirementIsConfirmed (dce : DceStore) (tenantId requirementId dceVersionId : Uuid) : Bool :=
  ∃ requirement ∈ dce.requirements, (requirement.tenantId = tenantId ∧
    requirement.id = requirementId ∧ requirement.dceVersionId = dceVersionId) ∧
    ∃ current ∈ dce.currentConfirmations, current.tenantId = requirement.tenantId ∧
      current.requirementId = requirement.id ∧ current.outcome = .confirmed

def LinkRiskToRequirementCommand.functionalKey (command : LinkRiskToRequirementCommand) : String :=
  command.caseId.str ++ ":" ++ command.dceVersionId.str ++ ":" ++ command.riskId.str ++ ":" ++
    command.requirementId.str ++ ":" ++ command.relationship.value

def linkEvents (command : LinkRiskToRequirementCommand) : Option PatronActionRecord →
    List AggregateRef × List PendingDomainEvent
  | none => ([], [])
  | some action => (
    [{ aggregateType := "PatronAction", aggregateId := action.id.str,
       aggregateRevision := action.aggregateRevision }],
    [{ aggregateType := "PatronAction", aggregateId := action.id,
       aggregateRevision := action.aggregateRevision, eventType := "PatronActionCreated",
       payload := [("action_id", .str action.id.str), ("case_id", .str command.caseId.str),
         ("action_type", .str action.actionType.value), ("severity", .str action.severity.value),
         ("state", .str action.state.value)] }])

/-- Appends a link and opens the patron action that reviews it. -/
def linkRiskToRequirement (cases : Table CaseRecord) (dce : DceStore) (store : RiskStore)
    (actions : ActionStore) (command : LinkRiskToRequirementCommand) (context : CommandContext) :
    Transaction ((RiskStore × ActionStore) × HandlerOutcome) := do
  patronAdminRequired context
  caseOfVersion cases context.tenantId command.caseId command.dceVersionId
  raiseIf (store.risks.find? (fun row => row.tenantId = context.tenantId ∧ row.id = command.riskId ∧
    row.caseId = command.caseId ∧ row.dceVersionId = command.dceVersionId) = none)
    (.execution "RISK_NOT_FOUND_OR_FORBIDDEN")
  raiseIf (¬ requirementIsConfirmed dce context.tenantId command.requirementId command.dceVersionId)
    (.execution "DCE_REQUIREMENT_NOT_CONFIRMED")
  raiseIf (strip command.rationale = "") (.failed "rationale must be non-empty")
  raiseIf (4000 < command.rationale.length) (.failed "rationale is too long")
  raiseIf (store.links.find? (fun row => row.tenantId = context.tenantId ∧
    row.functionalKey = command.functionalKey) ≠ none)
    (.execution "RISK_REQUIREMENT_LINK_ALREADY_EXISTS")
  let links ← flush (store.links.insert? {
    id := command.linkId, tenantId := context.tenantId, caseId := command.caseId,
    riskId := command.riskId, requirementId := command.requirementId,
    dceVersionId := command.dceVersionId, functionalKey := command.functionalKey,
    relationship := command.relationship, rationale := command.rationale,
    commandId := command.commandId, idempotencyKey := command.idempotencyKey })
  let (actions, created) ← createFromRiskRequirementLink actions context.tenantId command.caseId
    command.linkId
  let (actionRefs, actionEvents) := linkEvents command created
  return (({ store with links }, actions), {
    resultCode := "DECISION_RISK_REQUIREMENT_LINKED"
    aggregateRefs := {
      aggregateType := "DecisionRiskRequirementLink", aggregateId := command.linkId.str,
      aggregateRevision := 1 } :: actionRefs
    events := {
      aggregateType := "DecisionRiskRequirementLink", aggregateId := command.linkId,
      aggregateRevision := 1, eventType := "DecisionRiskRequirementLinked",
      payload := [("link_id", .str command.linkId.str), ("case_id", .str command.caseId.str),
        ("risk_id", .str command.riskId.str), ("requirement_id", .str command.requirementId.str),
        ("relationship", .str command.relationship.value)] } :: actionEvents })

end SmartAo.Decision
