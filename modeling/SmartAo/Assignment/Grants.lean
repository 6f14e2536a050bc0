import SmartAo.Assignment.Runs
import SmartAo.Preparation.Isolation

namespace SmartAo.Assignment

open SmartAo.Foundation SmartAo.Platform SmartAo.Case SmartAo.Membership

/-- The collaborator commands that demand an action of an assignment's scope. -/
inductive CollaboratorCommand where
  | createTaskFromRequirement
  | claimTask
  | recordTaskResult
  | completeTask
  | createInformationRequest
  | recordInformationRequestResponse
  | declareTaskBlocker
  | resolveTaskBlocker
  | proposeCapabilityForCase
  | reportCapabilityGap
  | evaluatePreparationReadiness
  | generateTechnicalDocument
  | requestPreparationReview
  | createTechnicalResponseDraft
  | createPreparationSnapshot
  | transmitPreparationSnapshot
  | acknowledgeAssignment
  | requestAssignmentClarification
  | reportAssignmentUnavailability

def demandedAction : CollaboratorCommand → Capability
  | .proposeCapabilityForCase => .preparationCapabilityPropose
  | .reportCapabilityGap => .preparationCapabilityGapReport
  | .acknowledgeAssignment => .assignmentAcknowledge
  | .requestAssignmentClarification => .assignmentClarify
  | .reportAssignmentUnavailability => .assignmentUnavailability
  | _ => .workTaskWrite

/-- `_require_active_assignment` of the capability handlers. -/
def requireActiveAssignment (assignments : Table CaseAssignmentRecord) (context : CommandContext)
    (caseId assignmentId : Uuid) (requiredAction : Capability) : Transaction CaseAssignmentRecord := do
  let membershipId ← orRaise context.membershipId (.execution "ASSIGNMENT_REQUIRED")
  let assignment ← orRaise
    (assignments.find? fun row => row.tenantId = context.tenantId ∧ row.id = assignmentId ∧ row.caseId = caseId ∧
      row.membershipId = membershipId ∧ row.state = .active ∧ row.startsAt ≤ context.receivedAt ∧
      row.endsAt.all (· > context.receivedAt))
    (.execution "NOT_FOUND_OR_FORBIDDEN")
  raiseIf (requiredAction ∉ assignment.scopeActions) (.execution "SCOPE_DENIED")
  return assignment

/-- The assignment `PreparationReviewService._resolve_package` asks of a collaborator. -/
def reviewAssignment (assignments : Table CaseAssignmentRecord) (tenantId membershipId : Uuid)
    (package : Preparation.PreparationPackageRecord) : Option CaseAssignmentRecord :=
  (assignments.find? fun row => row.tenantId = tenantId ∧ row.id = package.assignmentId ∧
    row.caseId = package.caseId ∧ row.membershipId = membershipId ∧ row.state = .active).filter fun row =>
      Capability.workTaskWrite ∈ row.scopeActions

/-- The assignment check of a command succeeds for some collaborator, whatever the other modules store. -/
def CheckSucceeds (granted : AssignmentStore) : CollaboratorCommand → Prop
  | .createTaskFromRequirement => ∃ (store : Membership.Store) (command : CreateTaskFromRequirementCommand)
    (context : CommandContext) (result : Membership.Store × HandlerOutcome),
    store.assignments = granted.assignments ∧ createTaskFromRequirement store command context = .ok result
  | .claimTask | .recordTaskResult | .completeTask | .createInformationRequest
  | .recordInformationRequestResponse | .declareTaskBlocker | .resolveTaskBlocker =>
    ∃ (store : Membership.Store) (task : CollaboratorTaskRecord) (membershipId : Uuid) (context : CommandContext),
      store.assignments = granted.assignments ∧
        Membership.ensureAssignment store task membershipId context = .ok ()
  | .proposeCapabilityForCase => ∃ context caseId assignmentId assignment,
    requireActiveAssignment granted.assignments context caseId assignmentId .preparationCapabilityPropose =
      .ok assignment
  | .reportCapabilityGap => ∃ context caseId assignmentId assignment,
    requireActiveAssignment granted.assignments context caseId assignmentId .preparationCapabilityGapReport =
      .ok assignment
  | .evaluatePreparationReadiness => ∃ (store : Preparation.Store) (tenantId membershipId : Uuid)
    (now : Timestamp) (command : Preparation.EvaluatePreparationReadinessCommand),
    store.sources.assignments = granted.assignments ∧
      (Preparation.resolveAssignment store tenantId membershipId now command).isSome
  | .generateTechnicalDocument => ∃ (store : Preparation.Store) (package : Preparation.PreparationPackageRecord)
    (context : CommandContext) (membershipId : Uuid), store.sources.assignments = granted.assignments ∧
      Preparation.ensureAssignment store package context membershipId = .ok ()
  | .requestPreparationReview | .createTechnicalResponseDraft => ∃ tenantId membershipId package,
    (reviewAssignment granted.assignments tenantId membershipId package).isSome
  | .createPreparationSnapshot | .transmitPreparationSnapshot => ∃ (store : Preparation.Store)
    (package : Preparation.PreparationPackageRecord) (context : CommandContext) (membershipId : Uuid),
      store.sources.assignments = granted.assignments ∧
        Preparation.ensureActiveAssignment store package context membershipId = .ok ()
  | .acknowledgeAssignment => ∃ context assignmentId revision checked,
    interactionAssignment granted context assignmentId revision .assignmentAcknowledge = .ok checked
  | .requestAssignmentClarification => ∃ context assignmentId revision checked,
    interactionAssignment granted context assignmentId revision .assignmentClarify = .ok checked
  | .reportAssignmentUnavailability => ∃ context assignmentId revision checked,
    interactionAssignment granted context assignmentId revision .assignmentUnavailability = .ok checked

def Grants : Input → Prop
  | .command (.create _) _ _ | .command (.amendScope _) _ _ => True
  | _ => False

/-- Some run of CreateCaseAssignment and AmendCaseAssignmentScope commands makes the check succeed. -/
def Grantable (command : CollaboratorCommand) : Prop :=
  ∃ cases memberships inputs, (∀ input ∈ inputs, Grants input) ∧
    CheckSucceeds (run step { AssignmentStore.empty with cases, memberships } inputs) command

variable {store next : AssignmentStore}

def WithinVocabulary (store : AssignmentStore) : Prop :=
  ∀ assignment ∈ store.assignments, ∀ action ∈ assignment.scopeActions, InVocabulary action

theorem interactAssignment_scoped {assignment : CaseAssignmentRecord} (holds : WithinVocabulary store)
    (updated : next.assignments = interactAssignment store.assignments assignment) : WithinVocabulary next := by
  intro other member
  rw [updated] at member
  rcases @Table.mem_update_cases _ _ _ _ _ _ interacted_columns member with ⟨old, _⟩ | ⟨old, stored, _, rfl⟩
  · exact holds other old
  · exact holds old stored

theorem Effect.withinVocabulary (effect : Effect store next) (holds : WithinVocabulary store) :
    WithinVocabulary next := by
  cases effect with
  | created assignment _ inserted _ _ _ _ _ _ vocabulary =>
    intro other member
    rcases (Table.mem_insert? inserted).mp member with old | rfl
    · exact holds other old
    · exact vocabulary
  | changed assignment change keeps _ stored _ _ updated _ _ _ _ _ vocabulary =>
    intro other member
    rw [updated, Table.mem_update_key (fun one two => ?_) stored (by simp)] at member
    · rcases member with rfl | ⟨old, _⟩
      · exact fun action within => (vocabulary action within).elim (holds assignment stored action) id
      · exact holds other old
    · exact (of_decide_eq_true one).trans (of_decide_eq_true two).symm
  | acknowledged _ _ _ _ updated => exact interactAssignment_scoped holds updated
  | unavailable _ _ _ _ updated => exact interactAssignment_scoped holds updated
  | kept assignments =>
    unfold WithinVocabulary
    rw [assignments]
    exact holds

theorem run_withinVocabulary (cases : Table CaseRecord) (memberships : Table TenantMembershipRecord)
    (inputs : List Input) :
    WithinVocabulary (run step { AssignmentStore.empty with cases, memberships } inputs) :=
  run_invariant_always (fun _ _ _ holds accepted => (step_effect accepted).withinVocabulary holds) inputs
    fun _ member => absurd member Table.not_mem_empty

theorem found_demanded {query : CaseAssignmentRecord → Bool} {action : Capability} {assignment : CaseAssignmentRecord}
    (found : store.assignments.find? query = some assignment) (demanded : action ∈ assignment.scopeActions) :
    ∃ assignment ∈ store.assignments, action ∈ assignment.scopeActions :=
  ⟨assignment, Table.find?_mem found, demanded⟩

theorem ensureAssignment_demanded {tasks : Membership.Store} {task : CollaboratorTaskRecord} {membershipId : Uuid}
    {context : CommandContext} (same : tasks.assignments = store.assignments)
    (checked : Membership.ensureAssignment tasks task membershipId context = .ok ()) :
    ∃ assignment ∈ store.assignments, Capability.workTaskWrite ∈ assignment.scopeActions := by
  simp only [Membership.ensureAssignment, bind_ok, orRaise_ok, raiseIf_ok, exists_unit, Decidable.not_not,
    same] at checked
  obtain ⟨_, found, _, _, _, demanded, _⟩ := checked
  exact found_demanded found demanded

theorem requireActiveAssignment_demanded {context : CommandContext} {caseId assignmentId : Uuid} {action : Capability}
    {assignment : CaseAssignmentRecord}
    (checked : requireActiveAssignment store.assignments context caseId assignmentId action = .ok assignment) :
    ∃ assignment ∈ store.assignments, action ∈ assignment.scopeActions := by
  simp only [requireActiveAssignment, bind_ok, orRaise_ok, raiseIf_ok, exists_unit, pure_ok,
    Decidable.not_not] at checked
  obtain ⟨_, _, _, found, demanded, rfl⟩ := checked
  exact found_demanded found demanded

theorem ensureActiveAssignment_demanded {preparation : Preparation.Store}
    {package : Preparation.PreparationPackageRecord} {context : CommandContext} {membershipId : Uuid}
    (same : preparation.sources.assignments = store.assignments)
    (checked : Preparation.ensureActiveAssignment preparation package context membershipId = .ok ()) :
    ∃ assignment ∈ store.assignments, Capability.workTaskWrite ∈ assignment.scopeActions := by
  simp only [Preparation.ensureActiveAssignment, bind_ok, orRaise_ok, raiseIf_ok, Decidable.not_not,
    same] at checked
  obtain ⟨_, found, demanded⟩ := checked
  exact found_demanded found demanded

theorem interactionAssignment_demanded {context : CommandContext} {assignmentId : Uuid} {revision : Nat}
    {action : Capability} {result : CaseAssignmentRecord × Uuid}
    (checked : interactionAssignment store context assignmentId revision action = .ok result) :
    ∃ assignment ∈ store.assignments, action ∈ assignment.scopeActions := by
  obtain ⟨assignment, membershipId⟩ := result
  obtain ⟨stored, _, _, demanded⟩ := interactionAssignment_ok checked
  exact ⟨_, stored, demanded⟩

/-- A check that succeeds found an assignment with the action the command demands. -/
theorem demanded_of_checkSucceeds {command : CollaboratorCommand} (succeeds : CheckSucceeds store command) :
    ∃ assignment ∈ store.assignments, demandedAction command ∈ assignment.scopeActions := by
  cases command with
  | createTaskFromRequirement =>
    obtain ⟨tasks, command, context, result, same, accepted⟩ := succeeds
    simp only [createTaskFromRequirement, bind_ok, orRaise_ok, raiseIf_ok, exists_unit, Decidable.not_not,
      same] at accepted
    obtain ⟨_, _, _, found, _, _, _, demanded, _⟩ := accepted
    exact found_demanded found demanded
  | proposeCapabilityForCase =>
    obtain ⟨_, _, _, _, checked⟩ := succeeds
    exact requireActiveAssignment_demanded checked
  | reportCapabilityGap =>
    obtain ⟨_, _, _, _, checked⟩ := succeeds
    exact requireActiveAssignment_demanded checked
  | evaluatePreparationReadiness =>
    obtain ⟨preparation, _, _, _, _, same, resolved⟩ := succeeds
    simp only [Preparation.resolveAssignment, Preparation.activeAssignment, Option.isSome_iff_exists,
      Option.filter_eq_some_iff, decide_eq_true_eq, same] at resolved
    obtain ⟨_, found, _, _, demanded⟩ := resolved
    exact found_demanded found demanded
  | generateTechnicalDocument =>
    obtain ⟨preparation, _, _, _, same, checked⟩ := succeeds
    simp only [Preparation.ensureAssignment, bind_ok, orRaise_ok, raiseIf_ok, exists_unit, Decidable.not_not,
      same] at checked
    obtain ⟨_, found, _, demanded⟩ := checked
    exact found_demanded found demanded
  | requestPreparationReview | createTechnicalResponseDraft =>
    obtain ⟨_, _, _, resolved⟩ := succeeds
    simp only [reviewAssignment, Option.isSome_iff_exists, Option.filter_eq_some_iff,
      decide_eq_true_eq] at resolved
    obtain ⟨_, found, demanded⟩ := resolved
    exact found_demanded found demanded
  | createPreparationSnapshot | transmitPreparationSnapshot =>
    obtain ⟨_, _, _, _, same, checked⟩ := succeeds
    exact ensureActiveAssignment_demanded same checked
  | acknowledgeAssignment | requestAssignmentClarification | reportAssignmentUnavailability =>
    obtain ⟨_, _, _, _, checked⟩ := succeeds
    exact interactionAssignment_demanded checked
  | _ =>
    obtain ⟨_, _, _, _, same, checked⟩ := succeeds
    exact ensureAssignment_demanded same checked

theorem inVocabulary_of_grantable {command : CollaboratorCommand} (grantable : Grantable command) :
    InVocabulary (demandedAction command) := by
  obtain ⟨cases, memberships, inputs, _, succeeds⟩ := grantable
  obtain ⟨assignment, member, demanded⟩ := demanded_of_checkSucceeds succeeds
  exact run_withinVocabulary cases memberships inputs assignment member _ demanded

section Granting

def granting : CommandContext := ⟨1, 2, .patronAdmin, 100, some 9, none⟩

def granted : CommandContext := ⟨1, 4, .collaborateur, 200, some 3, none⟩

def grantedCases : Table CaseRecord := .singleton ⟨4, 1, .active, "scope", some 5, 0⟩

def grantedMemberships : Table TenantMembershipRecord := .singleton ⟨3, 1, .collaborateur, .active⟩

/-- The patron assigns case 4 to membership 3 with the three interactions in scope. -/
def grant : List Input := [.command (.create {
  commandId := 20, idempotencyKey := 20, correlationId := none,
  scopeActions := [.assignmentAcknowledge, .assignmentClarify, .assignmentUnavailability]
  scopeClassifications := [.internalOperational], some_action := by decide, one_classification := rfl
  ordered := by decide +kernel, assignmentId := 7, caseId := 4, targetMembershipId := 3
  expectedCaseRevision := 0, startsAt := 100, endsAt := none, dated := by simp }) granting 21]

theorem grant_succeeds {action : Capability}
    (within : action ∈ [Capability.assignmentAcknowledge, .assignmentClarify, .assignmentUnavailability]) :
    ∃ checked, interactionAssignment (run step { AssignmentStore.empty with
      cases := grantedCases, memberships := grantedMemberships } grant) granted 7 0 action = .ok checked := by
  have evaluated : ∀ action ∈ [Capability.assignmentAcknowledge, .assignmentClarify, .assignmentUnavailability],
      (interactionAssignment (run step { AssignmentStore.empty with
        cases := grantedCases, memberships := grantedMemberships } grant) granted 7 0 action).isOk = true := by
    decide +kernel
  cases checked : interactionAssignment (run step { AssignmentStore.empty with
      cases := grantedCases, memberships := grantedMemberships } grant) granted 7 0 action with
  | ok result => exact ⟨result, rfl⟩
  | error error =>
    have ok := evaluated action within
    rw [checked] at ok
    cases ok

theorem grantable_of_grant {command : CollaboratorCommand} (succeeds : CheckSucceeds (run step
    { AssignmentStore.empty with cases := grantedCases, memberships := grantedMemberships } grant) command) :
    Grantable command := by
  refine ⟨grantedCases, grantedMemberships, grant, ?_, succeeds⟩
  intro input member
  rw [List.mem_singleton.mp member]
  exact True.intro

/-- A patron can grant a command exactly when a scope can carry the action it demands: the three
    assignment interactions, and no other. -/
theorem grantable_iff_inVocabulary (command : CollaboratorCommand) :
    Grantable command ↔ InVocabulary (demandedAction command) := by
  constructor
  · exact inVocabulary_of_grantable
  · rintro ⟨scopeAction, same⟩
    cases command with
    | acknowledgeAssignment =>
      obtain ⟨checked, succeeds⟩ := @grant_succeeds .assignmentAcknowledge (by decide)
      exact grantable_of_grant ⟨granted, 7, 0, checked, succeeds⟩
    | requestAssignmentClarification =>
      obtain ⟨checked, succeeds⟩ := @grant_succeeds .assignmentClarify (by decide)
      exact grantable_of_grant ⟨granted, 7, 0, checked, succeeds⟩
    | reportAssignmentUnavailability =>
      obtain ⟨checked, succeeds⟩ := @grant_succeeds .assignmentUnavailability (by decide)
      exact grantable_of_grant ⟨granted, 7, 0, checked, succeeds⟩
    | _ => cases scopeAction <;> cases same

theorem claimTask_not_grantable : ¬ Grantable .claimTask ∧ ¬ Grantable .proposeCapabilityForCase ∧
    ¬ Grantable .reportCapabilityGap ∧ ¬ Grantable .evaluatePreparationReadiness ∧
    ¬ ∀ command, Grantable command := by
  have work : ¬ InVocabulary .workTaskWrite := by
    rintro ⟨scopeAction, same⟩
    cases scopeAction <;> cases same
  have propose : ¬ InVocabulary .preparationCapabilityPropose := by
    rintro ⟨scopeAction, same⟩
    cases scopeAction <;> cases same
  have report : ¬ InVocabulary .preparationCapabilityGapReport := by
    rintro ⟨scopeAction, same⟩
    cases scopeAction <;> cases same
  have claim : ¬ Grantable .claimTask := fun grantable => work (inVocabulary_of_grantable grantable)
  exact ⟨claim, fun grantable => propose (inVocabulary_of_grantable grantable),
    fun grantable => report (inVocabulary_of_grantable grantable),
    fun grantable => work (inVocabulary_of_grantable grantable), fun every => claim (every .claimTask)⟩

end Granting

end SmartAo.Assignment
