import SmartAo.Foundation.Transition
import SmartAo.Membership.Records

namespace SmartAo.Membership

section WorkTask

open SmartAo.Foundation SmartAo.Platform SmartAo.Case SmartAo.Dce

/-- The tables the task and blocker commands read and write. Cases, requirements and assignments
    are written by other modules. -/
structure Store where
  cases : Table CaseRecord
  requirements : Table DceRequirementRecord
  assignments : Table CaseAssignmentRecord
  tasks : Table CollaboratorTaskRecord
  results : Table CollaboratorTaskResultRecord
  blockers : Table CollaboratorTaskBlockerRecord

def Store.empty : Store := ⟨.empty, .empty, .empty, .empty, .empty, .empty⟩

structure CreateTaskFromRequirementCommand extends ApplicationCommand where
  taskId : Uuid
  assignmentId : Uuid
  caseId : Uuid
  requirementId : Uuid
  taskKind : TaskKind
  title : String
  objective : String
  dueAt : Option Timestamp

structure ClaimTaskCommand extends ApplicationCommand where
  taskId : Uuid
  expectedRevision : Nat

structure RecordTaskResultCommand extends ApplicationCommand where
  taskId : Uuid
  expectedRevision : Nat
  resultText : String
  sourceLocator : Option String
  outcome : ResultOutcome

structure CompleteTaskCommand extends ApplicationCommand where
  taskId : Uuid
  expectedRevision : Nat

/-- Both collaborator handlers begin with this check. -/
def collaboratorMembership (context : CommandContext) : Transaction Uuid := do
  raiseIf (context.actorKind ≠ .collaborateur) (.execution "COLLABORATOR_REQUIRED")
  orRaise context.membershipId (.execution "COLLABORATOR_REQUIRED")

def ensureAssignment (store : Store) (task : CollaboratorTaskRecord) (membershipId : Uuid)
    (context : CommandContext) : Transaction Unit := do
  let assignment ← orRaise
    (store.assignments.find? fun row => row.tenantId = context.tenantId ∧ row.id = task.assignmentId)
    (.execution "NOT_FOUND_OR_FORBIDDEN")
  raiseIf (assignment.membershipId ≠ membershipId) (.execution "NOT_FOUND_OR_FORBIDDEN")
  raiseIf (assignment.state ≠ .active) (.execution "ASSIGNMENT_INACTIVE")
  raiseIf (assignment.startsAt > context.receivedAt ∨
      assignment.endsAt.any fun endsAt => endsAt ≤ context.receivedAt)
    (.execution "ASSIGNMENT_INACTIVE")
  raiseIf (Capability.workTaskWrite ∉ assignment.scopeActions)
    (.execution "ASSIGNMENT_SCOPE_FORBIDDEN")
  raiseIf (DataClassification.internalOperational ∉ assignment.scopeClassifications)
    (.execution "ASSIGNMENT_CLASSIFICATION_FORBIDDEN")
  raiseIf (context.caseId.any fun caseId => caseId ≠ task.caseId)
    (.execution "CASE_CONTEXT_MISMATCH")

/-- The task a command names, after the checks that precede every transition. -/
def commandedTask (store : Store) (context : CommandContext) (taskId : Uuid)
    (expectedRevision : Nat) : Transaction (CollaboratorTaskRecord × Uuid) := do
  let membershipId ← collaboratorMembership context
  let task ← orRaise
    (store.tasks.find? fun row => row.tenantId = context.tenantId ∧ row.id = taskId)
    (.execution "NOT_FOUND_OR_FORBIDDEN")
  ensureAssignment store task membershipId context
  raiseIf (task.aggregateRevision ≠ expectedRevision) (.execution "VERSION_CONFLICT")
  return (task, membershipId)

/-- Mutates the row of a loaded task. -/
def Store.writeTask (store : Store) (task : CollaboratorTaskRecord)
    (change : CollaboratorTaskRecord → CollaboratorTaskRecord)
    (keeps : ∀ row, Schema.columns (change row) = Schema.columns row) : Store :=
  { store with tasks := store.tasks.update (fun row => row.id = task.id) change keeps }

def taskResultCode : TaskState → String
  | .ready => "TASK_CREATED"
  | .inProgress => "TASK_CLAIMED"
  | .completed => "TASK_COMPLETED"
  | _ => "TASK_UPDATED"

def taskOutcome (task : CollaboratorTaskRecord) (resultCode : String)
    (events : List PendingDomainEvent) : HandlerOutcome where
  resultCode := resultCode
  aggregateRefs := [{
    aggregateType := "CollaboratorTask"
    aggregateId := task.id.str
    aggregateRevision := task.aggregateRevision }]
  events := events

def taskEvent (task : CollaboratorTaskRecord) (eventType : String)
    (payload : List (String × Json)) : PendingDomainEvent where
  aggregateType := "CollaboratorTask"
  aggregateId := task.id
  aggregateRevision := task.aggregateRevision
  eventType := eventType
  payload := payload

def functionalKey (requirementId : Uuid) (taskKind : TaskKind) (assignmentId : Uuid) : String :=
  requirementId.str ++ ":" ++ taskKind.value ++ ":" ++ assignmentId.str

/-- A repeated creation returns the task that already holds the functional key. -/
def createTaskFromRequirement (store : Store) (command : CreateTaskFromRequirementCommand)
    (context : CommandContext) : Transaction (Store × HandlerOutcome) := do
  let membershipId ← collaboratorMembership context
  let assignment ← orRaise
    (store.assignments.find? fun row =>
      row.tenantId = context.tenantId ∧ row.id = command.assignmentId)
    (.execution "NOT_FOUND_OR_FORBIDDEN")
  raiseIf (assignment.membershipId ≠ membershipId) (.execution "NOT_FOUND_OR_FORBIDDEN")
  raiseIf (assignment.state ≠ .active) (.execution "ASSIGNMENT_INACTIVE")
  raiseIf (assignment.caseId ≠ command.caseId) (.execution "CASE_CONTEXT_MISMATCH")
  raiseIf (Capability.workTaskWrite ∉ assignment.scopeActions)
    (.execution "ASSIGNMENT_SCOPE_FORBIDDEN")
  let case ← orRaise
    (store.cases.find? fun row => row.tenantId = context.tenantId ∧ row.id = command.caseId)
    (.execution "NOT_FOUND_OR_FORBIDDEN")
  raiseIf (case.lifecycle = .archived) (.execution "NOT_FOUND_OR_FORBIDDEN")
  let requirement ← orRaise
    (store.requirements.find? fun row =>
      row.tenantId = context.tenantId ∧ row.id = command.requirementId)
    (.execution "NOT_FOUND_OR_FORBIDDEN")
  raiseIf (case.applicableDceVersionId ≠ some requirement.dceVersionId) (.execution "STALE_CONTEXT")
  let key := functionalKey command.requirementId command.taskKind assignment.id
  match store.tasks.find? fun row => row.tenantId = context.tenantId ∧
      row.assignmentId = assignment.id ∧ row.functionalKey = key with
  | some existing => return (store, taskOutcome existing (taskResultCode existing.state) [])
  | none =>
    let task : CollaboratorTaskRecord := {
      id := command.taskId, tenantId := context.tenantId, caseId := assignment.caseId,
      assignmentId := assignment.id, requirementId := requirement.id, taskKind := command.taskKind,
      title := command.title, objective := command.objective, priority := .normal, state := .ready,
      functionalKey := key, dueAt := command.dueAt, aggregateRevision := 0, claimedAt := none,
      completedAt := none }
    let tasks ← flush (store.tasks.insert? task)
    return ({ store with tasks }, taskOutcome task (taskResultCode task.state)
      [taskEvent task "TaskCreatedFromRequirement" [
        ("task_id", .str task.id.str), ("case_id", .str task.caseId.str),
        ("assignment_id", .str task.assignmentId.str),
        ("requirement_id", .str task.requirementId.str), ("state", .str task.state.value)]])

def claimed (context : CommandContext) (task : CollaboratorTaskRecord) : CollaboratorTaskRecord :=
  { task with
    state := .inProgress
    aggregateRevision := task.aggregateRevision + 1
    claimedAt := some context.receivedAt }

theorem claimed_columns (context : CommandContext) (task : CollaboratorTaskRecord) :
    Schema.columns (claimed context task) = Schema.columns task := rfl

def claimTask (store : Store) (command : ClaimTaskCommand) (context : CommandContext) :
    Transaction (Store × HandlerOutcome) := do
  let (task, _) ← commandedTask store context command.taskId command.expectedRevision
  raiseIf (task.state ≠ .ready) (.execution "TASK_NOT_CLAIMABLE")
  let next := claimed context task
  return (store.writeTask task (claimed context) (claimed_columns context),
    taskOutcome next (taskResultCode next.state) [taskEvent next "TaskClaimed"
      [("task_id", .str next.id.str), ("state", .str next.state.value)]])

def revised (task : CollaboratorTaskRecord) : CollaboratorTaskRecord :=
  { task with aggregateRevision := task.aggregateRevision + 1 }

theorem revised_columns (task : CollaboratorTaskRecord) :
    Schema.columns (revised task) = Schema.columns task := rfl

/-- `resultId` is the identifier drawn for the appended row. -/
def recordTaskResult (store : Store) (command : RecordTaskResultCommand) (resultId : Uuid)
    (context : CommandContext) : Transaction (Store × HandlerOutcome) := do
  let (task, membershipId) ← commandedTask store context command.taskId command.expectedRevision
  raiseIf (task.state ∉ [TaskState.inProgress, .ready]) (.execution "TASK_NOT_ACTIVE")
  let next := revised task
  let results ← flush (store.results.insert? {
    id := resultId, tenantId := context.tenantId, taskId := task.id,
    taskRevision := next.aggregateRevision, outcome := command.outcome,
    resultText := command.resultText, sourceLocator := command.sourceLocator,
    actorId := context.actorId, membershipId, commandId := command.commandId,
    correlationId := command.correlationId })
  return ({ store.writeTask task revised revised_columns with results },
    taskOutcome next "TASK_UPDATED" [taskEvent next "TaskResultRecorded"
      [("task_id", .str next.id.str), ("state", .str next.state.value),
        ("result_revision", .int next.aggregateRevision)]])

def completed (context : CommandContext) (task : CollaboratorTaskRecord) : CollaboratorTaskRecord :=
  { task with
    state := .completed
    aggregateRevision := task.aggregateRevision + 1
    completedAt := some context.receivedAt }

theorem completed_columns (context : CommandContext) (task : CollaboratorTaskRecord) :
    Schema.columns (completed context task) = Schema.columns task := rfl

def completeTask (store : Store) (command : CompleteTaskCommand) (context : CommandContext) :
    Transaction (Store × HandlerOutcome) := do
  let (task, _) ← commandedTask store context command.taskId command.expectedRevision
  raiseIf (task.state ∉ [TaskState.inProgress, .ready]) (.execution "TASK_NOT_COMPLETABLE")
  let _ ← orRaise
    (store.results.find? fun row => row.tenantId = context.tenantId ∧ row.taskId = task.id)
    (.execution "EVIDENCE_OF_COMPLETION_REQUIRED")
  let next := completed context task
  return (store.writeTask task (completed context) (completed_columns context),
    taskOutcome next (taskResultCode next.state) [taskEvent next "TaskCompleted"
      [("task_id", .str next.id.str), ("state", .str next.state.value)]])

end WorkTask

section TaskBlockers

open SmartAo.Foundation SmartAo.Platform SmartAo.Case SmartAo.Dce

structure DeclareTaskBlockerCommand extends ApplicationCommand where
  taskId : Uuid
  expectedRevision : Nat
  blockerId : Uuid
  blockerKind : BlockerKind
  description : String
  sourceLocator : Option String
  resolutionOwner : ResolutionOwner

structure ResolveTaskBlockerCommand extends ApplicationCommand where
  taskId : Uuid
  blockerId : Uuid
  expectedRevision : Nat
  resolutionNote : String

def blocked (task : CollaboratorTaskRecord) : CollaboratorTaskRecord :=
  { task with state := .blocked, aggregateRevision := task.aggregateRevision + 1 }

theorem blocked_columns (task : CollaboratorTaskRecord) :
    Schema.columns (blocked task) = Schema.columns task := rfl

def declareTaskBlocker (store : Store) (command : DeclareTaskBlockerCommand)
    (context : CommandContext) : Transaction (Store × HandlerOutcome) := do
  let (task, membershipId) ← commandedTask store context command.taskId command.expectedRevision
  raiseIf (task.state ∈ [TaskState.completed, .abandoned]) (.execution "TASK_TERMINAL")
  let next := blocked task
  let blockers ← flush (store.blockers.insert? {
    id := command.blockerId, tenantId := context.tenantId, taskId := task.id,
    taskRevision := next.aggregateRevision, blockerKind := command.blockerKind,
    description := command.description, sourceLocator := command.sourceLocator,
    resolutionOwner := command.resolutionOwner, state := .open, resolutionNote := none,
    resolvedAt := none, actorId := context.actorId, membershipId, commandId := command.commandId,
    correlationId := command.correlationId })
  return ({ store.writeTask task blocked blocked_columns with blockers },
    taskOutcome next "TASK_BLOCKED" [taskEvent next "TaskBlockerDeclared"
      [("task_id", .str next.id.str), ("blocker_id", .str command.blockerId.str),
        ("state", .str next.state.value), ("blocker_kind", .str command.blockerKind.value)]])

def Store.findBlocker (store : Store) (context : CommandContext) (blockerId : Uuid)
    (task : CollaboratorTaskRecord) : Option CollaboratorTaskBlockerRecord :=
  store.blockers.find? fun row =>
    row.tenantId = context.tenantId ∧ row.id = blockerId ∧ row.taskId = task.id

def unblocked (task : CollaboratorTaskRecord) : CollaboratorTaskRecord :=
  { task with state := .inProgress, aggregateRevision := task.aggregateRevision + 1 }

theorem unblocked_columns (task : CollaboratorTaskRecord) :
    Schema.columns (unblocked task) = Schema.columns task := rfl

def resolved (command : ResolveTaskBlockerCommand) (context : CommandContext) (revision : Nat)
    (blocker : CollaboratorTaskBlockerRecord) : CollaboratorTaskBlockerRecord :=
  { blocker with
    state := .resolved
    taskRevision := revision
    resolutionNote := some command.resolutionNote
    resolvedAt := some context.receivedAt }

theorem resolved_columns (command : ResolveTaskBlockerCommand) (context : CommandContext)
    (revision : Nat) (blocker : CollaboratorTaskBlockerRecord) :
    Schema.columns (resolved command context revision blocker) = Schema.columns blocker := rfl

def resolveTaskBlocker (store : Store) (command : ResolveTaskBlockerCommand)
    (context : CommandContext) : Transaction (Store × HandlerOutcome) := do
  let (task, _) ← commandedTask store context command.taskId command.expectedRevision
  let blocker ← orRaise (store.findBlocker context command.blockerId task)
    (.execution "NOT_FOUND_OR_FORBIDDEN")
  raiseIf (blocker.state ≠ .open) (.execution "BLOCKER_ALREADY_RESOLVED")
  let next := unblocked task
  let blockers := store.blockers.update (fun row => row.id = blocker.id)
    (resolved command context next.aggregateRevision) (resolved_columns _ _ _)
  return ({ store.writeTask task unblocked unblocked_columns with blockers },
    taskOutcome next "TASK_UNBLOCKED" [taskEvent next "TaskBlockerResolved"
      [("task_id", .str next.id.str), ("blocker_id", .str blocker.id.str),
        ("state", .str next.state.value)]])

inductive Command where
  | createTaskFromRequirement (command : CreateTaskFromRequirementCommand)
  | claimTask (command : ClaimTaskCommand)
  | recordTaskResult (command : RecordTaskResultCommand) (resultId : Uuid)
  | completeTask (command : CompleteTaskCommand)
  | declareTaskBlocker (command : DeclareTaskBlockerCommand)
  | resolveTaskBlocker (command : ResolveTaskBlockerCommand)

def execute (store : Store) (context : CommandContext) :
    Command → Transaction (Store × HandlerOutcome)
  | .createTaskFromRequirement command => createTaskFromRequirement store command context
  | .claimTask command => claimTask store command context
  | .recordTaskResult command resultId => recordTaskResult store command resultId context
  | .completeTask command => completeTask store command context
  | .declareTaskBlocker command => declareTaskBlocker store command context
  | .resolveTaskBlocker command => resolveTaskBlocker store command context

/-- A task or blocker command, or any write of another module to the tables it owns. -/
inductive Input where
  | command (command : Command) (context : CommandContext)
  | foreign (cases : Table CaseRecord) (requirements : Table DceRequirementRecord)
      (assignments : Table CaseAssignmentRecord)

def step (store : Store) : Input → Transaction Store
  | .command command context => (execute store context command).map Prod.fst
  | .foreign cases requirements assignments => .ok { store with cases, requirements, assignments }

end TaskBlockers

end SmartAo.Membership
