import SmartAo.Assignment.Management

namespace SmartAo.Assignment

open SmartAo.Foundation SmartAo.Platform SmartAo.Case SmartAo.Membership

structure AcknowledgeAssignmentCommand extends ApplicationCommand where
  assignmentId : Uuid
  expectedRevision : Nat
  note : Option String

structure RequestAssignmentClarificationCommand extends ApplicationCommand where
  assignmentId : Uuid
  expectedRevision : Nat
  clarificationKind : ClarificationKind
  subject : String
  question : String
  requestedScope : Option String
  priority : ClarificationPriority

structure ReportAssignmentUnavailabilityCommand extends ApplicationCommand where
  assignmentId : Uuid
  expectedRevision : Nat
  reasonKind : UnavailabilityReason
  reason : String
  unavailableFrom : Timestamp
  unavailableUntil : Option Timestamp
  knownDeadlineImpact : Bool
  impactNote : Option String
  dated : ∀ expiry ∈ unavailableUntil, unavailableFrom < expiry
  explained : knownDeadlineImpact = true → ∃ note ∈ impactNote, note ≠ ""

/-- The checks of `AssignmentInteractionHandler.execute`, up to the dispatch on the command. -/
def interactionAssignment (store : AssignmentStore) (context : CommandContext) (assignmentId : Uuid)
    (expectedRevision : Nat) (requiredAction : Capability) : Transaction (CaseAssignmentRecord × Uuid) := do
  raiseIf (context.actorKind ≠ .collaborateur) (.execution "ASSIGNMENT_COLLABORATOR_REQUIRED")
  let membershipId ← orRaise context.membershipId (.execution "ASSIGNMENT_MEMBERSHIP_CONTEXT_REQUIRED")
  let assignment ← orRaise (store.assignment context.tenantId assignmentId)
    (.execution "NOT_FOUND_OR_FORBIDDEN")
  raiseIf (assignment.membershipId ≠ membershipId) (.execution "NOT_FOUND_OR_FORBIDDEN")
  raiseIf (assignment.state ≠ .active) (.execution "ASSIGNMENT_INACTIVE")
  raiseIf (assignment.startsAt > context.receivedAt ∨ assignment.endsAt.any (· ≤ context.receivedAt))
    (.execution "ASSIGNMENT_INACTIVE")
  raiseIf (assignment.aggregateRevision ≠ expectedRevision) (.execution "VERSION_CONFLICT")
  let case ← orRaise (store.case context.tenantId assignment.caseId) (.execution "NOT_FOUND_OR_FORBIDDEN")
  raiseIf (case.lifecycle = .archived) (.execution "NOT_FOUND_OR_FORBIDDEN")
  raiseIf (context.caseId.any (· ≠ assignment.caseId)) (.execution "CASE_CONTEXT_MISMATCH")
  raiseIf (requiredAction ∉ assignment.scopeActions) (.execution "ASSIGNMENT_SCOPE_FORBIDDEN")
  raiseIf (DataClassification.internalOperational ∉ assignment.scopeClassifications)
    (.execution "ASSIGNMENT_CLASSIFICATION_FORBIDDEN")
  return (assignment, membershipId)

/-- An interaction leaves the authority of the assignment and takes its next revision. -/
def interacted (assignment : CaseAssignmentRecord) : CaseAssignmentRecord :=
  { assignment with aggregateRevision := assignment.aggregateRevision + 1 }

theorem interacted_columns (assignment : CaseAssignmentRecord) :
    Schema.columns (interacted assignment) = Schema.columns assignment := rfl

def interactAssignment (assignments : Table CaseAssignmentRecord) (assignment : CaseAssignmentRecord) :
    Table CaseAssignmentRecord :=
  assignments.update (fun row => row.id = assignment.id) interacted interacted_columns

/-- `_acknowledge`. -/
def acknowledgeAssignment (store : AssignmentStore) (command : AcknowledgeAssignmentCommand)
    (context : CommandContext) (uuid4 : Uuid) : Transaction (AssignmentStore × HandlerOutcome) := do
  let (assignment, membershipId) ← interactionAssignment store context command.assignmentId
    command.expectedRevision .assignmentAcknowledge
  let revision := assignment.aggregateRevision + 1
  let acknowledgements ← flush (store.acknowledgements.insert? {
    id := uuid4, tenantId := context.tenantId, assignmentId := assignment.id, actorId := context.actorId,
    membershipId, assignmentRevision := revision, note := command.note, commandId := command.commandId,
    correlationId := command.correlationId })
  return ({ store with assignments := interactAssignment store.assignments assignment, acknowledgements },
    assignmentOutcome (interacted assignment) "ASSIGNMENT_ACKNOWLEDGED" "AssignmentAcknowledged" [
      ("assignment_id", .str assignment.id.str), ("case_id", .str assignment.caseId.str),
      ("membership_id", .str membershipId.str), ("assignment_revision", .int revision)])

/-- `_clarification_functional_key`. -/
def clarificationFunctionalKey (assignment : CaseAssignmentRecord)
    (command : RequestAssignmentClarificationCommand) : String :=
  hexdigest (Json.obj [("assignment_id", .str assignment.id.str), ("case_id", .str assignment.caseId.str),
    ("clarification_kind", .str command.clarificationKind.value), ("priority", .str command.priority.value),
    ("question", .str command.question), ("requested_scope", command.requestedScope.elim .null .str),
    ("subject", .str command.subject)]).dumpsChars

/-- `_clarify`: a repeated request returns the stored one. -/
def requestClarification (store : AssignmentStore) (command : RequestAssignmentClarificationCommand)
    (context : CommandContext) (uuid4 : Uuid) : Transaction (AssignmentStore × HandlerOutcome) := do
  let (assignment, membershipId) ← interactionAssignment store context command.assignmentId
    command.expectedRevision .assignmentClarify
  let functionalKey := clarificationFunctionalKey assignment command
  match store.clarifications.find? fun row =>
      row.tenantId = context.tenantId ∧ row.functionalKey = functionalKey with
  | some existing => return (store, {
      resultCode := "ASSIGNMENT_CLARIFICATION_REQUESTED"
      aggregateRefs := [⟨"AssignmentClarificationRequest", existing.id.str, 1, none⟩]
      events := [] })
  | none =>
    let clarifications ← flush (store.clarifications.insert? {
      id := uuid4, tenantId := context.tenantId, assignmentId := assignment.id, caseId := assignment.caseId,
      actorId := context.actorId, membershipId, clarificationKind := command.clarificationKind,
      subject := command.subject, question := command.question, requestedScope := command.requestedScope,
      priority := command.priority, functionalKey, commandId := command.commandId,
      correlationId := command.correlationId })
    return ({ store with clarifications }, {
      resultCode := "ASSIGNMENT_CLARIFICATION_REQUESTED"
      aggregateRefs := [⟨"AssignmentClarificationRequest", uuid4.str, 1, none⟩]
      events := [{
        aggregateType := "AssignmentClarificationRequest", aggregateId := uuid4, aggregateRevision := 1
        eventType := "AssignmentClarificationRequested"
        payload := [
          ("request_id", .str uuid4.str), ("assignment_id", .str assignment.id.str),
          ("case_id", .str assignment.caseId.str),
          ("clarification_kind", .str command.clarificationKind.value),
          ("priority", .str command.priority.value), ("state", .str "OPEN")] }] })

/-- `_unavailability`. -/
def reportUnavailability (store : AssignmentStore) (command : ReportAssignmentUnavailabilityCommand)
    (context : CommandContext) (uuid4 : Uuid) : Transaction (AssignmentStore × HandlerOutcome) := do
  let (assignment, membershipId) ← interactionAssignment store context command.assignmentId
    command.expectedRevision .assignmentUnavailability
  let revision := assignment.aggregateRevision + 1
  let unavailabilities ← flush (store.unavailabilities.insert? {
    id := uuid4, tenantId := context.tenantId, assignmentId := assignment.id, actorId := context.actorId,
    membershipId, assignmentRevision := revision, reasonKind := command.reasonKind, reason := command.reason,
    unavailableFrom := command.unavailableFrom, unavailableUntil := command.unavailableUntil,
    knownDeadlineImpact := command.knownDeadlineImpact, impactNote := command.impactNote,
    commandId := command.commandId, correlationId := command.correlationId })
  return ({ store with assignments := interactAssignment store.assignments assignment, unavailabilities },
    assignmentOutcome (interacted assignment) "ASSIGNMENT_UNAVAILABILITY_REPORTED"
      "AssignmentUnavailabilityReported" [
      ("assignment_id", .str assignment.id.str), ("case_id", .str assignment.caseId.str),
      ("membership_id", .str membershipId.str), ("assignment_revision", .int revision),
      ("reason_kind", .str command.reasonKind.value),
      ("known_deadline_impact", .bool command.knownDeadlineImpact)])

end SmartAo.Assignment
