import SmartAo.Assignment.Interaction
import SmartAo.Foundation.Transition

namespace SmartAo.Assignment

open SmartAo.Foundation SmartAo.Platform SmartAo.Case SmartAo.Membership

/-- The assignment commands. Each that adds a row draws its id by `uuid4`. -/
inductive Command where
  | create (command : CreateCaseAssignmentCommand)
  | amendScope (command : AmendCaseAssignmentScopeCommand)
  | suspend (command : SuspendCaseAssignmentCommand)
  | reactivate (command : ReactivateCaseAssignmentCommand)
  | finish (command : EndCaseAssignmentCommand)
  | validateInteraction (command : ValidateAssignmentInteractionCommand)
  | acknowledge (command : AcknowledgeAssignmentCommand)
  | clarify (command : RequestAssignmentClarificationCommand)
  | reportUnavailability (command : ReportAssignmentUnavailabilityCommand)

def execute (store : AssignmentStore) (command : Command) (context : CommandContext) (uuid4 : Uuid) :
    Transaction (AssignmentStore × HandlerOutcome) :=
  match command with
  | .create command => createAssignment store command context uuid4
  | .amendScope command => amendScope store command context uuid4
  | .suspend command => suspendAssignment store command context uuid4
  | .reactivate command => reactivateAssignment store command context uuid4
  | .finish command => endAssignment store command context uuid4
  | .validateInteraction command => validateInteraction store command context uuid4
  | .acknowledge command => acknowledgeAssignment store command context uuid4
  | .clarify command => requestClarification store command context uuid4
  | .reportUnavailability command => reportUnavailability store command context uuid4

/-- A write of another module, or a dispatched command. -/
inductive Input where
  | foreign (cases : Table CaseRecord) (memberships : Table TenantMembershipRecord)
  | command (command : Command) (context : CommandContext) (uuid4 : Uuid)

def step (store : AssignmentStore) : Input → Transaction AssignmentStore
  | .foreign cases memberships => .ok { store with cases, memberships }
  | .command command context uuid4 => (execute store command context uuid4).map (·.1)

/-- What a change of an assignment leaves: its context, and the next revision. -/
structure Advances (assignment changed : CaseAssignmentRecord) : Prop where
  id : changed.id = assignment.id
  tenantId : changed.tenantId = assignment.tenantId
  membershipId : changed.membershipId = assignment.membershipId
  caseId : changed.caseId = assignment.caseId
  revision : changed.aggregateRevision = assignment.aggregateRevision + 1

/-- What an accepted input does to the assignments and what accounts for their revisions. -/
inductive Effect (store next : AssignmentStore) : Prop where
  | created (assignment : CaseAssignmentRecord) (event : CaseAssignmentChangeEventRecord)
      (inserted : store.assignments.insert? assignment = some next.assignments)
      (recorded : store.changes.insert? event = some next.changes)
      (first : assignment.aggregateRevision = 0 ∧ event.resultingRevision = 0)
      (about : event.tenantId = assignment.tenantId ∧ event.assignmentId = assignment.id)
      (starts : event.previous = none) (results : event.resulting = authority assignment)
      (alone : ∀ row ∈ store.assignments, row.tenantId = assignment.tenantId →
        row.membershipId = assignment.membershipId → row.caseId = assignment.caseId → ¬ IsOpen row)
      (vocabulary : ∀ action ∈ assignment.scopeActions, InVocabulary action)
      (acknowledgements : next.acknowledgements = store.acknowledgements)
      (unavailabilities : next.unavailabilities = store.unavailabilities)
  | changed (assignment : CaseAssignmentRecord) (change : CaseAssignmentRecord → CaseAssignmentRecord)
      (keeps : ∀ row, Schema.columns (change row) = Schema.columns row)
      (event : CaseAssignmentChangeEventRecord) (stored : assignment ∈ store.assignments)
      (wasOpen : IsOpen assignment) (advances : Advances assignment (change assignment))
      (updated : next.assignments = store.assignments.update (fun row => row.id = assignment.id) change keeps)
      (recorded : store.changes.insert? event = some next.changes)
      (revision : event.resultingRevision = assignment.aggregateRevision + 1)
      (about : event.tenantId = assignment.tenantId ∧ event.assignmentId = assignment.id)
      (starts : event.previous = some (authority assignment))
      (results : event.resulting = authority (change assignment))
      (vocabulary : ∀ action ∈ (change assignment).scopeActions, action ∈ assignment.scopeActions ∨ InVocabulary action)
      (acknowledgements : next.acknowledgements = store.acknowledgements)
      (unavailabilities : next.unavailabilities = store.unavailabilities)
  | acknowledged (assignment : CaseAssignmentRecord) (record : CaseAssignmentAcknowledgementRecord)
      (stored : assignment ∈ store.assignments) (wasActive : assignment.state = .active)
      (updated : next.assignments = interactAssignment store.assignments assignment)
      (recorded : store.acknowledgements.insert? record = some next.acknowledgements)
      (revision : record.assignmentRevision = assignment.aggregateRevision + 1)
      (about : record.tenantId = assignment.tenantId ∧ record.assignmentId = assignment.id)
      (changes : next.changes = store.changes) (unavailabilities : next.unavailabilities = store.unavailabilities)
  | unavailable (assignment : CaseAssignmentRecord) (record : CaseAssignmentUnavailabilityRecord)
      (stored : assignment ∈ store.assignments) (wasActive : assignment.state = .active)
      (updated : next.assignments = interactAssignment store.assignments assignment)
      (recorded : store.unavailabilities.insert? record = some next.unavailabilities)
      (revision : record.assignmentRevision = assignment.aggregateRevision + 1)
      (about : record.tenantId = assignment.tenantId ∧ record.assignmentId = assignment.id)
      (changes : next.changes = store.changes) (acknowledgements : next.acknowledgements = store.acknowledgements)
  | kept (assignments : next.assignments = store.assignments) (changes : next.changes = store.changes)
      (acknowledgements : next.acknowledgements = store.acknowledgements)
      (unavailabilities : next.unavailabilities = store.unavailabilities)

variable {store next : AssignmentStore} {context : CommandContext} {outcome : HandlerOutcome} {uuid4 : Uuid}

theorem assignment_some {tenantId assignmentId : Uuid} {assignment : CaseAssignmentRecord}
    (found : store.assignment tenantId assignmentId = some assignment) :
    assignment ∈ store.assignments ∧ assignment.tenantId = tenantId ∧ assignment.id = assignmentId := by
  have query := Table.find?_query found
  simp only [decide_eq_true_eq] at query
  exact ⟨Table.find?_mem found, query⟩

theorem managedAssignment_ok {assignmentId : Uuid} {expectedRevision : Nat} {states : List AssignmentState}
    {message : String} {assignment : CaseAssignmentRecord}
    (managed : managedAssignment store context assignmentId expectedRevision states message = .ok assignment) :
    assignment ∈ store.assignments ∧ assignment.tenantId = context.tenantId ∧ assignment.state ∈ states := by
  simp only [managedAssignment, bind_ok, orRaise_ok, raiseIf_ok, exists_unit, pure_ok,
    Decidable.not_not] at managed
  obtain ⟨_, found, within, _, _, rfl⟩ := managed
  obtain ⟨stored, tenant, _⟩ := assignment_some found
  exact ⟨stored, tenant, within⟩

/-- What the four commands that record a change share. -/
theorem recordChange_effect {assignment changed : CaseAssignmentRecord} {authority : Authority}
    {endedAt : Option Timestamp} {author : Uuid} {command : ApplicationCommand} {eventType : ChangeEventType}
    {reason : Option ChangeReason} (stored : assignment ∈ store.assignments) (wasOpen : IsOpen assignment)
    (vocabulary : ∀ action ∈ authority.scopeActions, action ∈ assignment.scopeActions ∨ InVocabulary action)
    (recorded : recordChange store assignment authority endedAt author command eventType reason uuid4 =
      .ok (next, changed)) : Effect store next := by
  simp only [recordChange, bind_ok, orRaise_ok, pure_ok, Prod.mk.injEq, flush] at recorded
  obtain ⟨changes, inserted, rfl, rfl⟩ := recorded
  exact .changed assignment _ (changedTo_columns _ _) _ stored wasOpen ⟨rfl, rfl, rfl, rfl, rfl⟩ rfl inserted
    rfl ⟨rfl, rfl⟩ rfl rfl vocabulary rfl rfl

theorem createAssignment_effect {command : CreateCaseAssignmentCommand}
    (accepted : createAssignment store command context uuid4 = .ok (next, outcome)) : Effect store next := by
  simp only [createAssignment, bind_ok, orRaise_ok, raiseIf_ok, exists_unit, pure_ok, Prod.mk.injEq,
    flush, not_exists, not_and] at accepted
  obtain ⟨_, _, _, _, _, _, _, _, _, alone, assignments, inserted, changes, recorded, rfl, _⟩ := accepted
  exact .created _ _ inserted recorded ⟨rfl, rfl⟩ ⟨rfl, rfl⟩ rfl rfl alone
    AssignmentScopeCommand.actions_inVocabulary rfl rfl

theorem isOpen_of_mem {assignment : CaseAssignmentRecord}
    (within : assignment.state ∈ [AssignmentState.active, .suspended]) : IsOpen assignment := by
  simpa [IsOpen] using within

theorem amendScope_effect {command : AmendCaseAssignmentScopeCommand}
    (accepted : amendScope store command context uuid4 = .ok (next, outcome)) : Effect store next := by
  simp only [amendScope, bind_ok, orRaise_ok, raiseIf_ok, exists_unit, pure_ok, Prod.mk.injEq,
    Prod.exists] at accepted
  obtain ⟨_, _, assignment, managed, _, _, _, _, _, _, recorded, rfl, _⟩ := accepted
  obtain ⟨stored, _, within⟩ := managedAssignment_ok managed
  exact recordChange_effect stored (isOpen_of_mem within)
    (fun action member => .inr (AssignmentScopeCommand.actions_inVocabulary action member)) recorded

theorem suspendAssignment_effect {command : SuspendCaseAssignmentCommand}
    (accepted : suspendAssignment store command context uuid4 = .ok (next, outcome)) : Effect store next := by
  simp only [suspendAssignment, bind_ok, pure_ok, Prod.mk.injEq, Prod.exists] at accepted
  obtain ⟨_, _, assignment, managed, _, _, recorded, rfl, _⟩ := accepted
  obtain ⟨stored, _, within⟩ := managedAssignment_ok managed
  exact recordChange_effect stored (.inl (List.mem_singleton.mp within)) (fun _ => .inl) recorded

theorem reactivateAssignment_effect {command : ReactivateCaseAssignmentCommand}
    (accepted : reactivateAssignment store command context uuid4 = .ok (next, outcome)) : Effect store next := by
  simp only [reactivateAssignment, bind_ok, orRaise_ok, raiseIf_ok, exists_unit, pure_ok, Prod.mk.injEq,
    Prod.exists] at accepted
  obtain ⟨_, _, assignment, managed, _, _, _, _, _, _, _, _, _, recorded, rfl, _⟩ := accepted
  obtain ⟨stored, _, within⟩ := managedAssignment_ok managed
  exact recordChange_effect stored (.inr (List.mem_singleton.mp within)) (fun _ => .inl) recorded

theorem endAssignment_effect {command : EndCaseAssignmentCommand}
    (accepted : endAssignment store command context uuid4 = .ok (next, outcome)) : Effect store next := by
  simp only [endAssignment, bind_ok, pure_ok, Prod.mk.injEq, Prod.exists] at accepted
  obtain ⟨_, _, assignment, managed, _, _, recorded, rfl, _⟩ := accepted
  obtain ⟨stored, _, within⟩ := managedAssignment_ok managed
  exact recordChange_effect stored (isOpen_of_mem within) (fun _ => .inl) recorded

theorem validateInteraction_effect {command : ValidateAssignmentInteractionCommand}
    (accepted : validateInteraction store command context uuid4 = .ok (next, outcome)) : Effect store next := by
  simp only [validateInteraction, bind_ok, orRaise_ok, raiseIf_ok, exists_unit, pure_ok, Prod.mk.injEq,
    flush] at accepted
  obtain ⟨_, _, _, _, _, _, _, _, _, rfl, _⟩ := accepted
  exact .kept rfl rfl rfl rfl

theorem interactionAssignment_ok {assignmentId membershipId : Uuid} {expectedRevision : Nat} {action : Capability}
    {assignment : CaseAssignmentRecord} (checked : interactionAssignment store context assignmentId
      expectedRevision action = .ok (assignment, membershipId)) :
    assignment ∈ store.assignments ∧ assignment.tenantId = context.tenantId ∧ assignment.state = .active ∧
      action ∈ assignment.scopeActions := by
  simp only [interactionAssignment, bind_ok, orRaise_ok, raiseIf_ok, exists_unit, pure_ok, Prod.mk.injEq,
    Decidable.not_not] at checked
  obtain ⟨_, _, _, _, found, _, active, _, _, _, _, _, _, granted, _, rfl, _⟩ := checked
  obtain ⟨stored, tenant, _⟩ := assignment_some found
  exact ⟨stored, tenant, active, granted⟩

theorem acknowledgeAssignment_effect {command : AcknowledgeAssignmentCommand}
    (accepted : acknowledgeAssignment store command context uuid4 = .ok (next, outcome)) : Effect store next := by
  simp only [acknowledgeAssignment, bind_ok, orRaise_ok, pure_ok, Prod.mk.injEq, Prod.exists, flush] at accepted
  obtain ⟨assignment, _, checked, _, recorded, rfl, _⟩ := accepted
  obtain ⟨stored, tenant, active, _⟩ := interactionAssignment_ok checked
  exact .acknowledged assignment _ stored active rfl recorded rfl ⟨tenant.symm, rfl⟩ rfl rfl

theorem reportUnavailability_effect {command : ReportAssignmentUnavailabilityCommand}
    (accepted : reportUnavailability store command context uuid4 = .ok (next, outcome)) : Effect store next := by
  simp only [reportUnavailability, bind_ok, orRaise_ok, pure_ok, Prod.mk.injEq, Prod.exists, flush] at accepted
  obtain ⟨assignment, _, checked, _, recorded, rfl, _⟩ := accepted
  obtain ⟨stored, tenant, active, _⟩ := interactionAssignment_ok checked
  exact .unavailable assignment _ stored active rfl recorded rfl ⟨tenant.symm, rfl⟩ rfl rfl

theorem requestClarification_effect {command : RequestAssignmentClarificationCommand}
    (accepted : requestClarification store command context uuid4 = .ok (next, outcome)) : Effect store next := by
  simp only [requestClarification, bind_ok, Prod.exists] at accepted
  obtain ⟨assignment, _, _, accepted⟩ := accepted
  split at accepted
  · simp only [pure_ok, Prod.mk.injEq] at accepted
    rw [← accepted.1]
    exact .kept rfl rfl rfl rfl
  · simp only [bind_ok, orRaise_ok, pure_ok, Prod.mk.injEq, flush] at accepted
    obtain ⟨_, _, rfl, _⟩ := accepted
    exact .kept rfl rfl rfl rfl

theorem execute_effect {command : Command} (accepted : execute store command context uuid4 = .ok (next, outcome)) :
    Effect store next := by
  cases command with
  | create command => exact createAssignment_effect accepted
  | amendScope command => exact amendScope_effect accepted
  | suspend command => exact suspendAssignment_effect accepted
  | reactivate command => exact reactivateAssignment_effect accepted
  | finish command => exact endAssignment_effect accepted
  | validateInteraction command => exact validateInteraction_effect accepted
  | acknowledge command => exact acknowledgeAssignment_effect accepted
  | clarify command => exact requestClarification_effect accepted
  | reportUnavailability command => exact reportUnavailability_effect accepted

theorem step_effect {input : Input} (accepted : step store input = .ok next) : Effect store next := by
  cases input with
  | foreign cases memberships =>
    cases accepted
    exact .kept rfl rfl rfl rfl
  | command command context uuid4 =>
    simp only [step] at accepted
    cases executed : execute store command context uuid4 with
    | error error =>
      rw [executed] at accepted
      cases accepted
    | ok result =>
      rw [executed] at accepted
      cases accepted
      exact execute_effect executed

end SmartAo.Assignment
