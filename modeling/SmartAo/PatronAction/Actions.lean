import SmartAo.Foundation.Succession
import SmartAo.Platform.Command

namespace SmartAo.PatronAction

open SmartAo.Foundation SmartAo.Platform

inductive ActionType where
  | reviewPreparation
  | controlSubmission
  | validatePrice
  | decideGoNoGo
deriving DecidableEq

def ActionType.value : ActionType → String
  | reviewPreparation => "REVIEW_PREPARATION"
  | controlSubmission => "CONTROL_SUBMISSION"
  | validatePrice => "VALIDATE_PRICE"
  | decideGoNoGo => "DECIDE_GO_NO_GO"

inductive Severity where
  | urgent
  | blocking
  | atRisk
  | monitor
deriving DecidableEq

def Severity.value : Severity → String
  | urgent => "URGENT"
  | blocking => "BLOCKING"
  | atRisk => "AT_RISK"
  | monitor => "MONITOR"

inductive PatronActionState where
  | open
  | inProgress
  | waiting
  | completed
  | abandoned
deriving DecidableEq

namespace PatronActionState

def value : PatronActionState → String
  | .open => "OPEN"
  | .inProgress => "IN_PROGRESS"
  | .waiting => "WAITING"
  | .completed => "COMPLETED"
  | .abandoned => "ABANDONED"

def closed (state : PatronActionState) : Bool := state = .completed ∨ state = .abandoned

def allowedTransitions : PatronActionState → List PatronActionState
  | .open => [.inProgress, .waiting, .abandoned]
  | .inProgress => [.waiting, .completed, .abandoned]
  | .waiting => [.inProgress, .abandoned]
  | .completed => []
  | .abandoned => []

theorem closed_iff_final (state : PatronActionState) : state.closed ↔ state.allowedTransitions = [] := by
  cases state <;> decide

end PatronActionState

/-- Current patron action projection. -/
structure PatronActionRecord where
  id : Uuid
  tenantId : Uuid
  caseId : Option Uuid
  functionalKey : String
  actionType : ActionType
  severity : Severity
  state : PatronActionState
  aggregateRevision : Nat
deriving DecidableEq

instance : Schema PatronActionRecord where
  Columns := Uuid × Uuid × String
  columns row := (row.id, row.tenantId, row.functionalKey)
  Clash first second := first.1 = second.1 ∨ first.2 = second.2
  decidableClash := inferInstance
  symm clash := clash.imp Eq.symm Eq.symm

structure PatronActionTransitionRecord where
  id : Uuid
  tenantId : Uuid
  actionId : Uuid
  fromState : PatronActionState
  toState : PatronActionState
  reasonCode : String
  aggregateRevision : Nat
  commandId : Uuid
deriving DecidableEq

instance : Schema PatronActionTransitionRecord where
  Columns := Uuid × Uuid × (Uuid × Nat) × Uuid
  columns row := (row.id, row.tenantId, (row.actionId, row.aggregateRevision), row.commandId)
  Clash first second := first.1 = second.1 ∨
    (first.2.1 = second.2.1 ∧ (first.2.2.1 = second.2.2.1 ∨ first.2.2.2 = second.2.2.2))
  decidableClash := fun _ _ => inferInstance
  symm clash := clash.imp Eq.symm fun ⟨tenant, rest⟩ => ⟨tenant.symm, rest.imp Eq.symm Eq.symm⟩

structure ActionStore where
  actions : Table PatronActionRecord
  transitions : Table PatronActionTransitionRecord

def ActionStore.empty : ActionStore := ⟨.empty, .empty⟩

def ActionStore.withKey (store : ActionStore) (tenantId : Uuid) (functionalKey : String) :
    Option PatronActionRecord :=
  store.actions.find? fun row => row.tenantId = tenantId ∧ row.functionalKey = functionalKey

def ActionStore.latestTransition (store : ActionStore) (tenantId actionId : Uuid) :
    Option PatronActionTransitionRecord :=
  store.transitions.latest (fun row => row.tenantId = tenantId ∧ row.actionId = actionId)
    (·.aggregateRevision)

structure CreatePatronActionCommand extends ApplicationCommand where
  actionId : Uuid
  caseId : Option Uuid
  functionalKey : String
  actionType : ActionType
  severity : Severity

structure TransitionPatronActionCommand extends ApplicationCommand where
  transitionId : Uuid
  actionId : Uuid
  expectedRevision : Nat
  targetState : PatronActionState
  reasonCode : String

def createPatronAction (store : ActionStore) (command : CreatePatronActionCommand)
    (context : CommandContext) : Transaction (ActionStore × HandlerOutcome) := do
  raiseIf (context.actorKind ≠ .patronAdmin ∨ context.membershipId = none)
    (.execution "PATRON_REQUIRED")
  raiseIf (store.withKey context.tenantId command.functionalKey ≠ none)
    (.execution "PATRON_ACTION_ALREADY_EXISTS")
  let record : PatronActionRecord := {
    id := command.actionId, tenantId := context.tenantId, caseId := command.caseId,
    functionalKey := command.functionalKey, actionType := command.actionType,
    severity := command.severity, state := .open, aggregateRevision := 1 }
  let actions ← flush (store.actions.insert? record)
  return ({ store with actions }, {
    resultCode := "PATRON_ACTION_CREATED"
    aggregateRefs := [{
      aggregateType := "PatronAction", aggregateId := record.id.str, aggregateRevision := 1 }]
    events := [{
      aggregateType := "PatronAction", aggregateId := record.id, aggregateRevision := 1,
      eventType := "PatronActionCreated",
      payload := [("action_id", .str record.id.str),
        ("case_id", (record.caseId.map fun caseId => .str caseId.str).getD .null),
        ("action_type", .str record.actionType.value), ("severity", .str record.severity.value),
        ("state", .str record.state.value)] }] })

def moved (state : PatronActionState) (revision : Nat) (row : PatronActionRecord) :
    PatronActionRecord :=
  { row with state, aggregateRevision := revision }

theorem moved_columns (state : PatronActionState) (revision : Nat) (row : PatronActionRecord) :
    Schema.columns (moved state revision row) = Schema.columns row := rfl

/-- Appends a transition and mutates the action row to the same state and revision. -/
def transitionPatronAction (store : ActionStore) (command : TransitionPatronActionCommand)
    (context : CommandContext) : Transaction (ActionStore × HandlerOutcome) := do
  let action ← orRaise
    (store.actions.find? fun row => row.tenantId = context.tenantId ∧ row.id = command.actionId)
    (.execution "NOT_FOUND_OR_FORBIDDEN")
  let latest := store.latestTransition context.tenantId action.id
  let currentState := (latest.map (·.toState)).getD action.state
  let currentRevision := (latest.map (·.aggregateRevision)).getD action.aggregateRevision
  raiseIf (currentRevision ≠ command.expectedRevision) (.execution "VERSION_CONFLICT")
  raiseIf (currentState.closed = true) (.execution "ACTION_ALREADY_CLOSED")
  raiseIf (command.targetState ∉ currentState.allowedTransitions)
    (.execution "INVALID_STATE_TRANSITION")
  let transition : PatronActionTransitionRecord := {
    id := command.transitionId, tenantId := context.tenantId, actionId := action.id,
    fromState := currentState, toState := command.targetState, reasonCode := command.reasonCode,
    aggregateRevision := currentRevision + 1, commandId := command.commandId }
  let transitions ← flush (store.transitions.insert? transition)
  return ({
      actions := store.actions.update (fun row => row.id = action.id)
        (moved transition.toState transition.aggregateRevision) (moved_columns _ _)
      transitions }, {
    resultCode := "PATRON_ACTION_TRANSITIONED"
    aggregateRefs := [{
      aggregateType := "PatronAction", aggregateId := action.id.str,
      aggregateRevision := transition.aggregateRevision }]
    events := [{
      aggregateType := "PatronAction", aggregateId := action.id,
      aggregateRevision := transition.aggregateRevision, eventType := "PatronActionTransitioned",
      payload := [("action_id", .str action.id.str), ("from_state", .str currentState.value),
        ("to_state", .str command.targetState.value),
        ("aggregate_revision", .int transition.aggregateRevision)] }] })

/-- The key of the action that reviews one transmitted preparation. -/
def transmissionActionKey (transmissionId : Uuid) : String :=
  "preparation-transmission:" ++ transmissionId.str

/-- `PatronActionWriter.create_from_preparation_transmission`: nothing when the key is taken. -/
def createFromPreparationTransmission (store : ActionStore) (tenantId caseId transmissionId : Uuid) :
    Transaction (ActionStore × Option PatronActionRecord) :=
  match store.withKey tenantId (transmissionActionKey transmissionId) with
  | some _ => return (store, none)
  | none => do
    let record : PatronActionRecord := {
      id := transmissionId, tenantId, caseId := some caseId,
      functionalKey := transmissionActionKey transmissionId, actionType := .reviewPreparation,
      severity := .blocking, state := .open, aggregateRevision := 1 }
    let actions ← flush (store.actions.insert? record)
    return ({ store with actions }, some record)

/-- The key of the action that reviews one risk-requirement link. -/
def linkActionKey (linkId : Uuid) : String := "decision-risk-requirement:" ++ linkId.str

/-- `PatronActionWriter.create_from_risk_requirement_link`: nothing when the key is taken. -/
def createFromRiskRequirementLink (store : ActionStore) (tenantId caseId linkId : Uuid) :
    Transaction (ActionStore × Option PatronActionRecord) :=
  match store.withKey tenantId (linkActionKey linkId) with
  | some _ => return (store, none)
  | none => do
    let record : PatronActionRecord := {
      id := linkId, tenantId, caseId := some caseId, functionalKey := linkActionKey linkId,
      actionType := .decideGoNoGo, severity := .blocking, state := .open, aggregateRevision := 1 }
    let actions ← flush (store.actions.insert? record)
    return ({ store with actions }, some record)

end SmartAo.PatronAction
