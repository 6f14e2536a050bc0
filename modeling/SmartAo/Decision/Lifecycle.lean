import SmartAo.Decision.Store
import SmartAo.Foundation.Digest
import SmartAo.Foundation.Instant

namespace SmartAo.Decision

open SmartAo.Foundation SmartAo.Platform SmartAo.Case SmartAo.Dce SmartAo.Pricing SmartAo.PatronAction

structure CreateDecisionCommand extends ApplicationCommand where
  decisionId : Uuid
  caseId : Uuid
  scopeFingerprint : Option String

/-- One reference of a freeze; the role arrives stripped and is not empty. -/
structure DecisionContextReferenceInput where
  aggregateType : ContextAggregate
  aggregateId : Uuid
  aggregateRevision : Nat
  contentHash : Option String
  referenceRole : String
  stripped : strip referenceRole = referenceRole
  nonempty : referenceRole ≠ ""

structure FreezeDecisionContextCommand extends ApplicationCommand where
  decisionId : Uuid
  caseId : Uuid
  contextId : Uuid
  expectedRevision : Nat
  rationale : String
  unknowns : List String
  risks : List String
  references : List DecisionContextReferenceInput

def decisionOutcome (decisionId : Uuid) (revision : Nat) (resultCode : String)
    (refs : List AggregateRef) (eventType : String) (payload : List (String × Json)) :
    HandlerOutcome where
  resultCode := resultCode
  aggregateRefs := {
    aggregateType := "Decision"
    aggregateId := decisionId.str
    aggregateRevision := revision } :: refs
  events := [{
    aggregateType := "Decision"
    aggregateId := decisionId
    aggregateRevision := revision
    eventType := eventType
    payload := payload }]

/-- The hash of the case, the type and the scope a decision is about. -/
def decisionKeyHash (caseId : Uuid) (scopeFingerprint : String) : String :=
  hexdigest (Json.dumpsChars (.obj [("case_id", .str caseId.str),
    ("decision_type", .str DecisionType.goNoGo.value), ("scope_fingerprint", .str scopeFingerprint)]))

def activeDecision (tenantId : Uuid) (keyHash : String) (row : DecisionRecord) : Bool :=
  row.tenantId = tenantId ∧ row.decisionKeyHash = keyHash ∧ row.validity = .current ∧
    row.lifecycle ≠ .superseded ∧ row.lifecycle ≠ .cancelled

def draftDecision (command : CreateDecisionCommand) (context : CommandContext)
    (scopeFingerprint : String) (cycleNumber : Nat) : DecisionRecord where
  id := command.decisionId
  tenantId := context.tenantId
  decisionType := .goNoGo
  caseId := command.caseId
  scopeFingerprint := scopeFingerprint
  decisionKeyHash := decisionKeyHash command.caseId scopeFingerprint
  cycleNumber := cycleNumber
  lifecycle := .draft
  outcome := .undecided
  validity := .current
  conditionStatus := .notApplicable
  contextStatus := .incomplete
  selectedFinalContextId := none
  finalJustification := none
  finalizedByActorId := none
  finalizedAt := none
  updatedByActorId := context.actorId
  aggregateRevision := 0

/-- A refused row of a new decision is reported as an active decision. -/
def createDecision (store : Store) (command : CreateDecisionCommand) (context : CommandContext) :
    Transaction (DecisionStore × HandlerOutcome) := do
  let case ← orRaise (store.activeCase context.tenantId command.caseId)
    (.execution "NOT_FOUND_OR_FORBIDDEN")
  raiseIf (command.scopeFingerprint.any fun scope => lower case.scopeFingerprint ≠ lower scope)
    (.execution "STALE_CASE_SCOPE")
  let scopeFingerprint := lower case.scopeFingerprint
  let keyHash := decisionKeyHash command.caseId scopeFingerprint
  raiseIf (store.decisions.decisions.find? (activeDecision context.tenantId keyHash) ≠ none)
    (.execution "DECISION_ALREADY_ACTIVE")
  let cycleNumber := (store.decisions.decisions.greatest (fun row => row.tenantId = context.tenantId ∧
    row.decisionKeyHash = keyHash) (·.cycleNumber)).getD 0 + 1
  let decisions ← orRaise
    (store.decisions.decisions.insert? (draftDecision command context scopeFingerprint cycleNumber))
    (.execution "DECISION_ALREADY_ACTIVE")
  return ({ store.decisions with decisions }, decisionOutcome command.decisionId 0
    "DECISION_DRAFT_CREATED" [] "DecisionDraftCreated"
    [("decision_id", .str command.decisionId.str), ("case_id", .str command.caseId.str)])

def caseHasApplicableDce (store : Store) (tenantId caseId : Uuid) : Bool :=
  ∃ version ∈ store.dce.versions, version.lifecycle = .admitted ∧
    ∃ case ∈ store.cases, case.tenantId = version.tenantId ∧
      case.applicableDceVersionId = some version.id ∧ case.tenantId = tenantId ∧ case.id = caseId

/-- Whether an aggregate exists for the case at the quoted revision. -/
def contextReferenceIsValid (store : Store) (tenantId caseId : Uuid) (aggregateType : ContextAggregate)
    (aggregateId : Uuid) (aggregateRevision : Nat) (contentHash : Option String) : Bool :=
  match aggregateType with
  | .case => contentHash = none ∧ ∃ case ∈ store.cases, case.tenantId = tenantId ∧
      case.id = caseId ∧ case.id = aggregateId ∧ case.aggregateRevision = aggregateRevision ∧
      case.lifecycle = .active
  | .dceVersion => ∃ version ∈ store.dce.versions,
      (∃ case ∈ store.cases, case.tenantId = version.tenantId ∧
        case.applicableDceVersionId = some version.id ∧ case.id = caseId) ∧
      version.tenantId = tenantId ∧ version.id = aggregateId ∧
      version.aggregateRevision = aggregateRevision ∧ version.lifecycle = .admitted ∧
      contentHash.all fun hash => lower version.corpusHash = lower hash
  | .dceRequirement => contentHash = none ∧ ∃ requirement ∈ store.dce.requirements,
      (∃ case ∈ store.cases, case.tenantId = requirement.tenantId ∧
        case.applicableDceVersionId = some requirement.dceVersionId ∧ case.id = caseId) ∧
      requirement.tenantId = tenantId ∧ requirement.id = aggregateId ∧
      ∃ current ∈ store.dce.currentConfirmations, current.tenantId = requirement.tenantId ∧
        current.requirementId = requirement.id ∧ current.revision = aggregateRevision ∧
        current.outcome = .confirmed
  | .decisionRisk => (aggregateRevision = 1 ∧ contentHash = none) ∧ ∃ risk ∈ store.risks.risks,
      (∃ case ∈ store.cases, case.tenantId = risk.tenantId ∧ case.id = risk.caseId ∧
        case.id = caseId ∧ case.lifecycle = .active ∧
        case.applicableDceVersionId = some risk.dceVersionId) ∧
      risk.tenantId = tenantId ∧ risk.id = aggregateId
  | .pricingScenario => contentHash = none ∧ ∃ scenario ∈ store.pricing.scenarios,
      scenario.tenantId = tenantId ∧ scenario.id = aggregateId ∧ scenario.caseId = caseId ∧
      scenario.version = aggregateRevision ∧ scenario.state ≠ .archived

def DecisionContextReferenceInput.isValid (reference : DecisionContextReferenceInput) (store : Store)
    (tenantId caseId : Uuid) : Bool :=
  contextReferenceIsValid store tenantId caseId reference.aggregateType reference.aggregateId
    reference.aggregateRevision reference.contentHash

def referenceToken (aggregateType : ContextAggregate) (aggregateId : Uuid) (revision : Nat)
    (role : String) : List Char :=
  aggregateType.value.toList ++ ':' :: (aggregateId.chars ++ ':' :: (Nat.toDigits 10 revision ++
    ':' :: role.toList))

def DecisionContextReferenceInput.token (reference : DecisionContextReferenceInput) : List Char :=
  referenceToken reference.aggregateType reference.aggregateId reference.aggregateRevision
    reference.referenceRole

/-- The first 32 hexadecimal digits of the hash of a reference's token. -/
def referenceId (token : List Char) : Uuid := (sha256 token).extractLsb' 128 128

/-- Stripped texts, without the empty ones. -/
def normalized (texts : List String) : List String := (texts.map strip).filter (· ≠ "")

def contextFingerprint (tenantId : Uuid) (references unknowns risks : List String)
    (preparedAt : Timestamp) : String :=
  hexdigest (Json.dumpsChars (.obj [("prepared_at", .str (isoformat preparedAt)),
    ("references", .arr (references.map .str)), ("risks", .arr (risks.map .str)),
    ("tenant_id", .str tenantId.str), ("unknowns", .arr (unknowns.map .str))]))

def DecisionContextReferenceInput.canonical (reference : DecisionContextReferenceInput) :
    CanonicalReference where
  aggregateType := reference.aggregateType
  aggregateId := reference.aggregateId
  aggregateRevision := reference.aggregateRevision
  contentHash := reference.contentHash
  referenceRole := reference.referenceRole

namespace FreezeDecisionContextCommand

def fingerprint (command : FreezeDecisionContextCommand) (context : CommandContext) : String :=
  contextFingerprint context.tenantId
    (normalized (command.references.map fun reference => String.ofList reference.token))
    (normalized command.unknowns) (normalized command.risks) context.receivedAt

def canonicalContext (command : FreezeDecisionContextCommand) (context : CommandContext) :
    CanonicalContext where
  decisionId := command.decisionId
  caseId := command.caseId
  references := command.references.map DecisionContextReferenceInput.canonical
  unknowns := normalized command.unknowns
  risks := normalized command.risks
  preparedAt := isoformat context.receivedAt

def contextRecord (command : FreezeDecisionContextCommand) (context : CommandContext) :
    DecisionContextRecord where
  id := command.contextId
  tenantId := context.tenantId
  decisionId := command.decisionId
  sequenceNumber := 1
  contextFingerprint := command.fingerprint context
  canonicalContext := command.canonicalContext context
  rationale := strip command.rationale
  unknowns := normalized command.unknowns
  preparedAt := context.receivedAt
  contextState := .frozen
  isSelectedFinal := false
  preparedByActorId := context.actorId

def referenceRecord (command : FreezeDecisionContextCommand) (context : CommandContext)
    (reference : DecisionContextReferenceInput) : DecisionContextReferenceRecord where
  id := referenceId reference.token
  tenantId := context.tenantId
  decisionContextId := command.contextId
  aggregateType := reference.aggregateType
  aggregateId := reference.aggregateId
  aggregateRevision := reference.aggregateRevision
  contentHash := reference.contentHash.map lower
  referenceRole := strip reference.referenceRole

def referenceRecords (command : FreezeDecisionContextCommand) (context : CommandContext) :
    List DecisionContextReferenceRecord :=
  command.references.map (command.referenceRecord context)

end FreezeDecisionContextCommand

/-- The checks of a freeze, before it writes. -/
def freezeChecks (store : Store) (command : FreezeDecisionContextCommand) (context : CommandContext) :
    Transaction Unit := do
  let decision ← orRaise (store.decisions.root context.tenantId command.decisionId)
    (.execution "NOT_FOUND_OR_FORBIDDEN")
  raiseIf (decision.caseId ≠ command.caseId) (.execution "NOT_FOUND_OR_FORBIDDEN")
  raiseIf (decision.decisionType ≠ .goNoGo ∨ decision.lifecycle ≠ .draft ∨
      decision.contextStatus ≠ .incomplete ∨
      store.decisions.contextsOf context.tenantId command.decisionId ≠ [])
    (.execution "DECISION_NOT_READY_FOR_CONTEXT")
  raiseIf (decision.aggregateRevision ≠ command.expectedRevision) (.execution "STALE_DECISION_REVISION")
  raiseIf (¬ ∃ reference ∈ command.references, reference.aggregateType = .case ∧
      reference.aggregateId = command.caseId)
    (.execution "DECISION_CONTEXT_CASE_REFERENCE_REQUIRED")
  raiseIf (caseHasApplicableDce store context.tenantId command.caseId ∧
      ¬ ∃ reference ∈ command.references, reference.aggregateType = .dceRequirement)
    (.execution "DCE_REQUIREMENT_REFERENCE_REQUIRED")
  raiseIf (∃ reference ∈ command.references,
      ¬ reference.isValid store context.tenantId command.caseId)
    (.execution "INVALID_DECISION_CONTEXT_REFERENCE")

def frozenRoot (context : CommandContext) (row : DecisionRecord) : DecisionRecord :=
  { row with
    lifecycle := .pendingPatron
    contextStatus := .frozen
    updatedByActorId := context.actorId
    aggregateRevision := row.aggregateRevision + 1 }

theorem frozenRoot_columns (context : CommandContext) (row : DecisionRecord) :
    Schema.columns (frozenRoot context row) = Schema.columns row := rfl

def freezeDecisionContext (store : Store) (command : FreezeDecisionContextCommand)
    (context : CommandContext) : Transaction (DecisionStore × HandlerOutcome) := do
  freezeChecks store command context
  let contexts ← flush (store.decisions.contexts.insert? (command.contextRecord context))
  let references ← flush (store.decisions.references.insertAll? (command.referenceRecords context))
  let decisions ← updateRoot store.decisions.decisions context.tenantId command.decisionId
    command.expectedRevision (frozenRoot context) (frozenRoot_columns context)
    (.execution "STALE_DECISION_REVISION")
  let revision := command.expectedRevision + 1
  let fingerprint := command.fingerprint context
  return ({ store.decisions with decisions, contexts, references },
    decisionOutcome command.decisionId revision "DECISION_CONTEXT_FROZEN"
      [{ aggregateType := "DecisionContext", aggregateId := command.contextId.str,
         aggregateRevision := revision, fingerprint := some fingerprint }]
      "DecisionContextFrozen" [
        ("decision_id", .str command.decisionId.str), ("case_id", .str command.caseId.str),
        ("context_id", .str command.contextId.str), ("fingerprint", .str fingerprint),
        ("reference_count", .int command.references.length)])

end SmartAo.Decision
