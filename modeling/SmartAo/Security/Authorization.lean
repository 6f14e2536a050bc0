import SmartAo.Assignment.Records

namespace SmartAo.Security

open SmartAo.Foundation SmartAo.Platform SmartAo.Assignment

/-- Trusted active scope of one collaborator on one case. -/
structure AssignmentScope where
  caseId : Uuid
  allowedActions : List String
  allowedClassifications : List DataClassification

/-- Trusted authorization facts resolved by the server. -/
structure ActorContext where
  actorId : Uuid
  identityId : Uuid
  tenantId : Uuid
  membershipId : Uuid
  actorKind : ActorKind
  membershipState : MembershipState
  capabilities : List String
  assignedCaseIds : List Uuid
  sessionId : Option Uuid
  authenticatedAt : Timestamp
  mfaVerifiedAt : Option Timestamp
  correlationId : Uuid
  assignmentScopes : List AssignmentScope

def ActorContext.membershipIsActive (context : ActorContext) : Bool :=
  context.membershipState = .active

def ActorContext.assignmentScopeFor (context : ActorContext) (caseId : Uuid) : Option AssignmentScope :=
  context.assignmentScopes.find? fun scope => scope.caseId = caseId

def mfaMaximumAge : Int := 900000000

def ActorContext.hasRecentMfa (context : ActorContext) (evaluatedAt : Timestamp) : Bool :=
  match context.mfaVerifiedAt with
  | none => false
  | some verified => !decide (evaluatedAt < verified) && decide (evaluatedAt - verified ≤ mfaMaximumAge)

structure AuthorizationResource where
  resourceType : String
  resourceId : Uuid
  tenantId : Uuid
  classification : DataClassification
  caseId : Option Uuid := none

structure AuthorizationRequest where
  action : String
  resource : AuthorizationResource
  mfaRequired : Bool := false
  evaluatedAt : Option Timestamp := none

structure AuthorizationDecision where
  allowed : Bool
  code : String
  httpStatusCode : Nat
  reason : Option String := none

def AuthorizationDecision.allow : AuthorizationDecision where
  allowed := true
  code := "ALLOWED"
  httpStatusCode := 200

inductive Denial where
  | notFoundOrForbidden
  | denied (reason : String)
  | stepUpRequired

def Denial.decision : Denial → AuthorizationDecision
  | notFoundOrForbidden => ⟨false, "NOT_FOUND_OR_FORBIDDEN", 404, none⟩
  | denied reason => ⟨false, "AUTHORIZATION_DENIED", 403, some reason⟩
  | stepUpRequired => ⟨false, "STEP_UP_REQUIRED", 403, none⟩

/-- Classifications that no request of the baseline policy reaches. -/
def restricted (classification : DataClassification) : Bool :=
  classification = .securityRestricted ∨ classification = .supportRestricted

/-- The case scope that a collaborator needs. -/
def assignmentChecks (context : ActorContext) (request : AuthorizationRequest) : Except Denial Unit := do
  let caseId ← orRaise request.resource.caseId (.denied "collaborator resource has no case scope")
  let scope ← orRaise (context.assignmentScopeFor caseId) (.denied "case assignment is missing")
  raiseIf (request.action ∉ scope.allowedActions) (.denied "assignment action is missing")
  raiseIf (request.resource.classification ∉ scope.allowedClassifications)
    (.denied "assignment classification is missing")

def collaboratorChecks (context : ActorContext) (request : AuthorizationRequest) : Except Denial Unit :=
  if context.actorKind = .collaborateur then assignmentChecks context request else .ok ()

/-- The denials of `AuthorizationPolicy.authorize`, in its order. -/
def authorizationChecks (context : ActorContext) (request : AuthorizationRequest) : Except Denial Unit := do
  let resource := request.resource
  raiseIf (context.tenantId ≠ resource.tenantId) .notFoundOrForbidden
  raiseIf (context.membershipIsActive = false) (.denied "membership is not active")
  raiseIf (request.action ∉ context.capabilities) (.denied "capability is missing")
  raiseIf (restricted resource.classification = true)
    (.denied "restricted classification requires a dedicated flow")
  raiseIf (resource.classification = .financialPrivate ∧ context.actorKind ≠ .patronAdmin)
    (.denied "financial data requires patron access")
  collaboratorChecks context request
  raiseIf (request.mfaRequired = true ∧ request.evaluatedAt.any context.hasRecentMfa = false) .stepUpRequired

/-- `AuthorizationPolicy.authorize`: the decision of the first check that fails. -/
def authorize (context : ActorContext) (request : AuthorizationRequest) : AuthorizationDecision :=
  match authorizationChecks context request with
  | .error denial => denial.decision
  | .ok () => .allow

/-- The assignment of a collaborator covers a request. -/
def CoveredByAssignment (context : ActorContext) (request : AuthorizationRequest) : Prop :=
  ∃ caseId scope, request.resource.caseId = some caseId ∧ context.assignmentScopeFor caseId = some scope ∧
    request.action ∈ scope.allowedActions ∧ request.resource.classification ∈ scope.allowedClassifications

/-- What the policy grants. -/
structure Granted (context : ActorContext) (request : AuthorizationRequest) : Prop where
  tenant : context.tenantId = request.resource.tenantId
  active : context.membershipState = .active
  capability : request.action ∈ context.capabilities
  unrestricted : restricted request.resource.classification = false
  financial : request.resource.classification = .financialPrivate → context.actorKind = .patronAdmin
  assigned : context.actorKind = .collaborateur → CoveredByAssignment context request
  steppedUp : request.mfaRequired = true → ∃ now, request.evaluatedAt = some now ∧ context.hasRecentMfa now = true

theorem assignmentChecks_ok (context : ActorContext) (request : AuthorizationRequest) :
    assignmentChecks context request = .ok () ↔ CoveredByAssignment context request := by
  unfold assignmentChecks CoveredByAssignment
  simp only [bind_ok, orRaise_ok, raiseIf_ok, exists_unit, not_not]
  constructor
  · rintro ⟨caseId, its, scope, found, action, classification⟩
    exact ⟨caseId, scope, its, found, action, classification⟩
  · rintro ⟨caseId, scope, its, found, action, classification⟩
    exact ⟨caseId, its, scope, found, action, classification⟩

theorem collaboratorChecks_ok (context : ActorContext) (request : AuthorizationRequest) :
    collaboratorChecks context request = .ok () ↔
      (context.actorKind = .collaborateur → CoveredByAssignment context request) := by
  unfold collaboratorChecks
  by_cases kind : context.actorKind = .collaborateur
  · rw [if_pos kind, assignmentChecks_ok]
    exact ⟨fun covered _ => covered, fun covered => covered kind⟩
  · rw [if_neg kind]
    exact ⟨fun _ its => absurd its kind, fun _ => rfl⟩

theorem recentMfa_iff (context : ActorContext) (request : AuthorizationRequest) :
    ¬ (request.mfaRequired = true ∧ request.evaluatedAt.any context.hasRecentMfa = false) ↔
      (request.mfaRequired = true → ∃ now, request.evaluatedAt = some now ∧ context.hasRecentMfa now = true) := by
  cases request.evaluatedAt <;> simp

theorem authorizationChecks_ok (context : ActorContext) (request : AuthorizationRequest) :
    authorizationChecks context request = .ok () ↔ Granted context request := by
  unfold authorizationChecks
  simp only [bind_ok, raiseIf_ok, exists_unit, collaboratorChecks_ok, recentMfa_iff]
  constructor
  · rintro ⟨tenant, active, capability, unrestricted, financial, assigned, steppedUp⟩
    have member : context.membershipState = .active := by simpa [ActorContext.membershipIsActive] using active
    have patron : request.resource.classification = .financialPrivate → context.actorKind = .patronAdmin := by
      simpa using financial
    exact ⟨not_not.mp tenant, member, not_not.mp capability, by simpa using unrestricted, patron, assigned, steppedUp⟩
  · intro granted
    have active : context.membershipIsActive = true := by simp [ActorContext.membershipIsActive, granted.active]
    have patron := granted.financial
    exact ⟨not_not.mpr granted.tenant, by simp [active], not_not.mpr granted.capability, by simp [granted.unrestricted],
      by simpa using patron, granted.assigned, granted.steppedUp⟩

@[simp] theorem Denial.decision_allowed (denial : Denial) : denial.decision.allowed = false := by
  cases denial <;> rfl

theorem authorize_allowed (context : ActorContext) (request : AuthorizationRequest) :
    (authorize context request).allowed = true ↔ Granted context request := by
  rw [← authorizationChecks_ok]
  unfold authorize
  cases checked : authorizationChecks context request with
  | error denial => simp
  | ok done => simp [AuthorizationDecision.allow]

theorem restricted_denied (context : ActorContext) {request : AuthorizationRequest}
    (its : restricted request.resource.classification = true) : (authorize context request).allowed = false := by
  by_contra allowed
  have granted := (authorize_allowed context request).mp (by simpa using allowed)
  have unrestricted := granted.unrestricted
  rw [its] at unrestricted
  exact Bool.noConfusion unrestricted

end SmartAo.Security
