import SmartAo.Assignment.Records
import SmartAo.Foundation.Digest

namespace SmartAo.Assignment

open SmartAo.Foundation SmartAo.Platform SmartAo.Case SmartAo.Membership

/-- The closed vocabulary of the actions a scope command may carry. -/
inductive AssignmentScopeAction where
  | caseDceRead
  | dceRequirementConfirm
  | documentAdministrativeRead
  | preparationTransmit
  | assignmentAcknowledge
  | assignmentClarify
  | assignmentHistoryRead
  | assignmentUnavailability
deriving DecidableEq

def AssignmentScopeAction.capability : AssignmentScopeAction → Capability
  | caseDceRead => .caseDceRead
  | dceRequirementConfirm => .dceRequirementConfirm
  | documentAdministrativeRead => .documentAdminRead
  | preparationTransmit => .preparationTransmit
  | assignmentAcknowledge => .assignmentAcknowledge
  | assignmentClarify => .assignmentClarify
  | assignmentHistoryRead => .assignmentHistoryRead
  | assignmentUnavailability => .assignmentUnavailability

/-- An action a scope command can carry. -/
def InVocabulary (action : Capability) : Prop := ∃ scopeAction : AssignmentScopeAction, scopeAction.capability = action

inductive AssignmentScopeClassification where
  | internalOperational
deriving DecidableEq

def AssignmentScopeClassification.classification : AssignmentScopeClassification → DataClassification
  | internalOperational => .internalOperational

/-- A validated scope: not empty, without duplicates and sorted. -/
structure AssignmentScopeCommand extends ApplicationCommand where
  scopeActions : List AssignmentScopeAction
  scopeClassifications : List AssignmentScopeClassification
  some_action : scopeActions ≠ []
  one_classification : scopeClassifications = [.internalOperational]
  ordered : (scopeActions.map (·.capability.value)).Pairwise (· < ·)

namespace AssignmentScopeCommand

def actions (command : AssignmentScopeCommand) : List Capability := command.scopeActions.map (·.capability)

def classifications (command : AssignmentScopeCommand) : List DataClassification :=
  command.scopeClassifications.map (·.classification)

theorem actions_inVocabulary {command : AssignmentScopeCommand} :
    ∀ action ∈ command.actions, InVocabulary action := by
  intro action member
  obtain ⟨scopeAction, _, same⟩ := List.mem_map.mp member
  exact ⟨scopeAction, same⟩

end AssignmentScopeCommand

structure CreateCaseAssignmentCommand extends AssignmentScopeCommand where
  assignmentId : Uuid
  caseId : Uuid
  targetMembershipId : Uuid
  expectedCaseRevision : Nat
  startsAt : Timestamp
  endsAt : Option Timestamp
  dated : ∀ expiry ∈ endsAt, startsAt < expiry

structure AmendCaseAssignmentScopeCommand extends AssignmentScopeCommand where
  assignmentId : Uuid
  expectedRevision : Nat

inductive SuspensionReasonCode where
  | patronSuspended
  | workloadReallocation
  | casePaused
  | accessReview

def SuspensionReasonCode.reason : SuspensionReasonCode → ChangeReason
  | patronSuspended => .patronSuspended
  | workloadReallocation => .workloadReallocation
  | casePaused => .casePaused
  | accessReview => .accessReview

inductive ReactivationReasonCode where
  | patronReactivated
  | caseResumed
  | accessReviewCleared

def ReactivationReasonCode.reason : ReactivationReasonCode → ChangeReason
  | patronReactivated => .patronReactivated
  | caseResumed => .caseResumed
  | accessReviewCleared => .accessReviewCleared

inductive EndReasonCode where
  | patronEnded
  | caseStopped
  | caseArchived
  | collaboratorUnavailable
  | membershipRevoked

def EndReasonCode.reason : EndReasonCode → ChangeReason
  | patronEnded => .patronEnded
  | caseStopped => .caseStopped
  | caseArchived => .caseArchived
  | collaboratorUnavailable => .collaboratorUnavailable
  | membershipRevoked => .membershipRevoked

structure SuspendCaseAssignmentCommand extends ApplicationCommand where
  assignmentId : Uuid
  expectedRevision : Nat
  suspensionReasonCode : SuspensionReasonCode

structure ReactivateCaseAssignmentCommand extends ApplicationCommand where
  assignmentId : Uuid
  expectedRevision : Nat
  reactivationReasonCode : ReactivationReasonCode

structure EndCaseAssignmentCommand extends ApplicationCommand where
  assignmentId : Uuid
  expectedRevision : Nat
  endReasonCode : EndReasonCode

structure ValidateAssignmentInteractionCommand extends ApplicationCommand where
  assignmentId : Uuid
  interactionId : Uuid
  interactionKind : InteractionKind
  validationCode : ValidationCode
  paired : validationCode = interactionKind.noted

/-- The checks of `PatronAssignmentManagementHandler.execute`. -/
def patronMembership (context : CommandContext) : Transaction Uuid := do
  raiseIf (context.actorKind ≠ .patronAdmin) (.execution "ASSIGNMENT_PATRON_REQUIRED")
  orRaise context.membershipId (.execution "ASSIGNMENT_MEMBERSHIP_CONTEXT_REQUIRED")

def assignmentOutcome (assignment : CaseAssignmentRecord) (resultCode eventType : String)
    (payload : List (String × Json)) : HandlerOutcome where
  resultCode := resultCode
  aggregateRefs := [⟨"Assignment", assignment.id.str, assignment.aggregateRevision, none⟩]
  events := [{
    aggregateType := "Assignment", aggregateId := assignment.id
    aggregateRevision := assignment.aggregateRevision, eventType, payload }]

def actionTexts (actions : List Capability) : Json := .arr (actions.map fun action => .str action.value)

def classificationTexts (classifications : List DataClassification) : Json :=
  .arr (classifications.map fun classification => .str classification.value)

/-- `_scope_fingerprint`. -/
def scopeFingerprint (actions : List Capability) (classifications : List DataClassification) : String :=
  hexdigest (Json.obj [("actions", actionTexts actions),
    ("classifications", classificationTexts classifications)]).dumpsChars

/-- `_change_event_for_creation`. -/
def changeEventForCreation (assignment : CaseAssignmentRecord) (authorMembershipId : Uuid)
    (command : ApplicationCommand) (uuid4 : Uuid) : CaseAssignmentChangeEventRecord where
  id := uuid4
  tenantId := assignment.tenantId
  assignmentId := assignment.id
  caseId := assignment.caseId
  targetMembershipId := assignment.membershipId
  authorMembershipId := authorMembershipId
  eventType := .assignmentCreated
  previousRevision := none
  resultingRevision := 0
  previousState := none
  resultingState := .active
  reasonCode := none
  previousScopeActions := none
  previousScopeClassifications := none
  resultingScopeActions := assignment.scopeActions
  resultingScopeClassifications := assignment.scopeClassifications
  commandId := command.commandId
  correlationId := command.correlationId

/-- The event of a change of a stored assignment. -/
def changeEvent (assignment changed : CaseAssignmentRecord) (authorMembershipId : Uuid)
    (command : ApplicationCommand) (eventType : ChangeEventType) (reasonCode : Option ChangeReason)
    (uuid4 : Uuid) : CaseAssignmentChangeEventRecord where
  id := uuid4
  tenantId := assignment.tenantId
  assignmentId := assignment.id
  caseId := assignment.caseId
  targetMembershipId := assignment.membershipId
  authorMembershipId := authorMembershipId
  eventType := eventType
  previousRevision := some assignment.aggregateRevision
  resultingRevision := changed.aggregateRevision
  previousState := some assignment.state
  resultingState := changed.state
  reasonCode := reasonCode
  previousScopeActions := some assignment.scopeActions
  previousScopeClassifications := some assignment.scopeClassifications
  resultingScopeActions := changed.scopeActions
  resultingScopeClassifications := changed.scopeClassifications
  commandId := command.commandId
  correlationId := command.correlationId

def checkCollaborator (store : AssignmentStore) (tenantId membershipId : Uuid) :
    Transaction TenantMembershipRecord := do
  let membership ← orRaise (store.membership tenantId membershipId) (.execution "NOT_FOUND_OR_FORBIDDEN")
  raiseIf (membership.role ≠ .collaborateur ∨ membership.state ≠ .active)
    (.execution "ASSIGNMENT_TARGET_NOT_COLLABORATOR")
  return membership

/-- `_create`. -/
def createAssignment (store : AssignmentStore) (command : CreateCaseAssignmentCommand)
    (context : CommandContext) (uuid4 : Uuid) : Transaction (AssignmentStore × HandlerOutcome) := do
  let membershipId ← patronMembership context
  let case ← orRaise (store.case context.tenantId command.caseId) (.execution "NOT_FOUND_OR_FORBIDDEN")
  raiseIf (case.lifecycle ≠ .active) (.execution "CASE_INACTIVE")
  raiseIf (case.aggregateRevision ≠ command.expectedCaseRevision) (.execution "CASE_VERSION_CONFLICT")
  raiseIf (context.caseId.any (· ≠ case.id)) (.execution "CASE_CONTEXT_MISMATCH")
  let target ← checkCollaborator store context.tenantId command.targetMembershipId
  raiseIf (∃ row ∈ store.assignments, row.tenantId = context.tenantId ∧ row.membershipId = target.id ∧
      row.caseId = case.id ∧ IsOpen row)
    (.execution "ASSIGNMENT_ALREADY_OPEN")
  let assignment : CaseAssignmentRecord := {
    id := command.assignmentId, tenantId := context.tenantId, membershipId := target.id, caseId := case.id,
    aggregateRevision := 0, state := .active, scopeActions := command.actions,
    scopeClassifications := command.classifications, grantedByMembershipId := membershipId,
    grantedAt := context.receivedAt, startsAt := command.startsAt, endsAt := command.endsAt, endedAt := none }
  let assignments ← flush (store.assignments.insert? assignment)
  let changes ← flush (store.changes.insert?
    (changeEventForCreation assignment membershipId command.toApplicationCommand uuid4))
  return ({ store with assignments, changes },
    assignmentOutcome assignment "CASE_ASSIGNMENT_CREATED" "CaseAssignmentCreated" [
      ("assignment_id", .str assignment.id.str), ("case_id", .str case.id.str),
      ("target_membership_id", .str target.id.str), ("assignment_revision", .int 0),
      ("scope_actions", actionTexts command.actions),
      ("scope_classifications", classificationTexts command.classifications)])

/-- The assignment a patron command names, in one of the states the command admits. -/
def managedAssignment (store : AssignmentStore) (context : CommandContext) (assignmentId : Uuid)
    (expectedRevision : Nat) (states : List AssignmentState) (message : String) :
    Transaction CaseAssignmentRecord := do
  let assignment ← orRaise (store.assignment context.tenantId assignmentId)
    (.execution "NOT_FOUND_OR_FORBIDDEN")
  raiseIf (assignment.state ∉ states) (.execution message)
  raiseIf (assignment.aggregateRevision ≠ expectedRevision) (.execution "VERSION_CONFLICT")
  raiseIf (context.caseId.any (· ≠ assignment.caseId)) (.execution "CASE_CONTEXT_MISMATCH")
  return assignment

/-- A change of the authority of an assignment, with the next revision. -/
def changedTo (authority : Authority) (endedAt : Option Timestamp) (assignment : CaseAssignmentRecord) :
    CaseAssignmentRecord :=
  { assignment with
    state := authority.state, scopeActions := authority.scopeActions,
    scopeClassifications := authority.scopeClassifications, endedAt,
    aggregateRevision := assignment.aggregateRevision + 1 }

theorem changedTo_columns (authority : Authority) (endedAt : Option Timestamp)
    (assignment : CaseAssignmentRecord) :
    Schema.columns (changedTo authority endedAt assignment) = Schema.columns assignment := rfl

/-- Writes a change of a loaded assignment and its event. -/
def recordChange (store : AssignmentStore) (assignment : CaseAssignmentRecord) (authority : Authority)
    (endedAt : Option Timestamp) (authorMembershipId : Uuid) (command : ApplicationCommand)
    (eventType : ChangeEventType) (reasonCode : Option ChangeReason) (uuid4 : Uuid) :
    Transaction (AssignmentStore × CaseAssignmentRecord) := do
  let changed := changedTo authority endedAt assignment
  let changes ← flush (store.changes.insert?
    (changeEvent assignment changed authorMembershipId command eventType reasonCode uuid4))
  let assignments := store.assignments.update (fun row => row.id = assignment.id)
    (changedTo authority endedAt) (changedTo_columns authority endedAt)
  return ({ store with assignments, changes }, changed)

def revisionPayload (assignment changed : CaseAssignmentRecord) : List (String × Json) :=
  [("assignment_id", .str assignment.id.str), ("case_id", .str assignment.caseId.str),
    ("previous_revision", .int assignment.aggregateRevision),
    ("resulting_revision", .int changed.aggregateRevision)]

/-- `_amend_scope`. -/
def amendScope (store : AssignmentStore) (command : AmendCaseAssignmentScopeCommand)
    (context : CommandContext) (uuid4 : Uuid) : Transaction (AssignmentStore × HandlerOutcome) := do
  let membershipId ← patronMembership context
  let assignment ← managedAssignment store context command.assignmentId command.expectedRevision
    [.active, .suspended] "ASSIGNMENT_INACTIVE"
  let case ← orRaise (store.case context.tenantId assignment.caseId) (.execution "NOT_FOUND_OR_FORBIDDEN")
  raiseIf (case.lifecycle = .archived) (.execution "NOT_FOUND_OR_FORBIDDEN")
  raiseIf (assignment.scopeActions = command.actions ∧ assignment.scopeClassifications = command.classifications)
    (.execution "ASSIGNMENT_SCOPE_UNCHANGED")
  let (next, changed) ← recordChange store assignment ⟨assignment.state, command.actions, command.classifications⟩
    assignment.endedAt membershipId command.toApplicationCommand .assignmentScopeAmended none uuid4
  return (next, assignmentOutcome changed "CASE_ASSIGNMENT_SCOPE_AMENDED" "CaseAssignmentScopeAmended"
    (revisionPayload assignment changed ++ [
      ("previous_scope_fingerprint",
        .str (scopeFingerprint assignment.scopeActions assignment.scopeClassifications)),
      ("resulting_scope_fingerprint", .str (scopeFingerprint command.actions command.classifications))]))

/-- `_suspend`. -/
def suspendAssignment (store : AssignmentStore) (command : SuspendCaseAssignmentCommand)
    (context : CommandContext) (uuid4 : Uuid) : Transaction (AssignmentStore × HandlerOutcome) := do
  let membershipId ← patronMembership context
  let assignment ← managedAssignment store context command.assignmentId command.expectedRevision
    [.active] "ASSIGNMENT_NOT_ACTIVE"
  let (next, changed) ← recordChange store assignment { authority assignment with state := .suspended }
    assignment.endedAt membershipId command.toApplicationCommand .assignmentSuspended
    (some command.suspensionReasonCode.reason) uuid4
  return (next, assignmentOutcome changed "CASE_ASSIGNMENT_SUSPENDED" "CaseAssignmentSuspended"
    (revisionPayload assignment changed ++
      [("suspension_reason_code", .str command.suspensionReasonCode.reason.value)]))

/-- `_reactivate`. -/
def reactivateAssignment (store : AssignmentStore) (command : ReactivateCaseAssignmentCommand)
    (context : CommandContext) (uuid4 : Uuid) : Transaction (AssignmentStore × HandlerOutcome) := do
  let membershipId ← patronMembership context
  let assignment ← managedAssignment store context command.assignmentId command.expectedRevision
    [.suspended] "ASSIGNMENT_NOT_SUSPENDED"
  let case ← orRaise (store.case context.tenantId assignment.caseId) (.execution "NOT_FOUND_OR_FORBIDDEN")
  raiseIf (case.lifecycle ≠ .active) (.execution "CASE_INACTIVE")
  let _ ← checkCollaborator store context.tenantId assignment.membershipId
  raiseIf (assignment.startsAt > context.receivedAt) (.execution "ASSIGNMENT_WINDOW_NOT_OPEN")
  raiseIf (assignment.endsAt.any (· ≤ context.receivedAt)) (.execution "ASSIGNMENT_WINDOW_CLOSED")
  let (next, changed) ← recordChange store assignment { authority assignment with state := .active }
    assignment.endedAt membershipId command.toApplicationCommand .assignmentReactivated
    (some command.reactivationReasonCode.reason) uuid4
  return (next, assignmentOutcome changed "CASE_ASSIGNMENT_REACTIVATED" "CaseAssignmentReactivated"
    (revisionPayload assignment changed ++
      [("reactivation_reason_code", .str command.reactivationReasonCode.reason.value)]))

def stateText : AssignmentState → String
  | .active => "ACTIVE"
  | .suspended => "SUSPENDED"
  | .ended => "ENDED"
  | .expired => "EXPIRED"

/-- `_end`. -/
def endAssignment (store : AssignmentStore) (command : EndCaseAssignmentCommand)
    (context : CommandContext) (uuid4 : Uuid) : Transaction (AssignmentStore × HandlerOutcome) := do
  let membershipId ← patronMembership context
  let assignment ← managedAssignment store context command.assignmentId command.expectedRevision
    [.active, .suspended] "ASSIGNMENT_NOT_OPEN"
  let (next, changed) ← recordChange store assignment { authority assignment with state := .ended }
    (some context.receivedAt) membershipId command.toApplicationCommand .assignmentEnded
    (some command.endReasonCode.reason) uuid4
  return (next, assignmentOutcome changed "CASE_ASSIGNMENT_ENDED" "CaseAssignmentEnded"
    (revisionPayload assignment changed ++ [("previous_state", .str (stateText assignment.state)),
      ("end_reason_code", .str command.endReasonCode.reason.value)]))

/-- The stored interactions of an assignment of one kind, by id. -/
def interactionExists (store : AssignmentStore) (kind : InteractionKind) (tenantId assignmentId interactionId : Uuid) :
    Prop :=
  match kind with
  | .acknowledgement => ∃ row ∈ store.acknowledgements,
    row.tenantId = tenantId ∧ row.assignmentId = assignmentId ∧ row.id = interactionId
  | .clarificationRequest => ∃ row ∈ store.clarifications,
    row.tenantId = tenantId ∧ row.assignmentId = assignmentId ∧ row.id = interactionId
  | .unavailabilityReport => ∃ row ∈ store.unavailabilities,
    row.tenantId = tenantId ∧ row.assignmentId = assignmentId ∧ row.id = interactionId

instance (store : AssignmentStore) (kind : InteractionKind) (tenantId assignmentId interactionId : Uuid) :
    Decidable (interactionExists store kind tenantId assignmentId interactionId) :=
  match kind with
  | .acknowledgement => inferInstanceAs (Decidable (∃ row ∈ store.acknowledgements, _))
  | .clarificationRequest => inferInstanceAs (Decidable (∃ row ∈ store.clarifications, _))
  | .unavailabilityReport => inferInstanceAs (Decidable (∃ row ∈ store.unavailabilities, _))

/-- `_validate_interaction`. -/
def validateInteraction (store : AssignmentStore) (command : ValidateAssignmentInteractionCommand)
    (context : CommandContext) (uuid4 : Uuid) : Transaction (AssignmentStore × HandlerOutcome) := do
  let membershipId ← patronMembership context
  let assignment ← orRaise (store.assignment context.tenantId command.assignmentId)
    (.execution "NOT_FOUND_OR_FORBIDDEN")
  raiseIf (context.caseId.any (· ≠ assignment.caseId)) (.execution "CASE_CONTEXT_MISMATCH")
  raiseIf (¬ interactionExists store command.interactionKind context.tenantId assignment.id command.interactionId)
    (.execution "NOT_FOUND_OR_FORBIDDEN")
  raiseIf (∃ row ∈ store.validations, row.tenantId = context.tenantId ∧
      row.interactionKind = command.interactionKind ∧ row.interactionId = command.interactionId)
    (.execution "INTERACTION_ALREADY_VALIDATED")
  let validations ← flush (store.validations.insert? {
    id := uuid4, tenantId := context.tenantId, assignmentId := assignment.id, caseId := assignment.caseId,
    interactionId := command.interactionId, interactionKind := command.interactionKind,
    validationCode := command.validationCode, patronMembershipId := membershipId,
    commandId := command.commandId, correlationId := command.correlationId })
  return ({ store with validations }, {
    resultCode := "INTERACTION_VALIDATED"
    aggregateRefs := [⟨"AssignmentInteractionValidation", uuid4.str, 0, none⟩]
    events := [{
      aggregateType := "AssignmentInteractionValidation", aggregateId := uuid4, aggregateRevision := 0
      eventType := "AssignmentInteractionValidated"
      payload := [
        ("validation_id", .str uuid4.str), ("assignment_id", .str assignment.id.str),
        ("case_id", .str assignment.caseId.str), ("interaction_kind", .str command.interactionKind.value),
        ("validation_code", .str command.validationCode.value)] }] })

end SmartAo.Assignment
