import SmartAo.Assignment.Grants
import SmartAo.Enterprise.Records

namespace SmartAo.Membership

open SmartAo.Foundation SmartAo.Platform SmartAo.Case SmartAo.Dce SmartAo.Enterprise SmartAo.Assignment

structure ProposeCapabilityForCaseCommand extends ApplicationCommand where
  proposalId : Uuid
  caseId : Uuid
  assignmentId : Uuid
  capabilityId : Uuid
  capabilityVersionId : Uuid
  requirementId : Option Uuid
  taskId : Option Uuid
  justification : String
  sourceLocator : Option String

structure ReportCapabilityGapCommand extends ApplicationCommand where
  gapId : Uuid
  caseId : Uuid
  assignmentId : Uuid
  capabilityId : Option Uuid
  requirementId : Option Uuid
  taskId : Option Uuid
  gapKind : GapKind
  severity : GapSeverity
  reason : String
  sourceLocator : Option String
  recommendedAction : String

/-- The tables of both modules; capability assessments are written in the enterprise's. -/
structure AssessmentStore where
  work : Store
  enterprise : EnterpriseStore

def AssessmentStore.empty : AssessmentStore := ⟨.empty, .empty⟩

def requirementOf (store : Store) (tenantId requirementId : Uuid) : Option DceRequirementRecord :=
  store.requirements.find? fun row => row.tenantId = tenantId ∧ row.id = requirementId

/-- `_validate_source`: a requirement of the tenant, a task of the case and the assignment, or both. -/
def validateSource (store : Store) (tenantId caseId assignmentId : Uuid) (requirementId taskId : Option Uuid) :
    Transaction Unit := do
  raiseIf (requirementId = none ∧ taskId = none) (.execution "CAPABILITY_SOURCE_REQUIRED")
  raiseIf (requirementId.any fun id => requirementOf store tenantId id = none) (.execution "NOT_FOUND_OR_FORBIDDEN")
  raiseIf (taskId.any fun taskId => (store.tasks.find? fun row => row.tenantId = tenantId ∧ row.id = taskId ∧
    row.caseId = caseId ∧ row.assignmentId = assignmentId) = none) (.execution "NOT_FOUND_OR_FORBIDDEN")

/-- A part of a functional key that may be absent. -/
def keyPart (id : Option Uuid) : String := (id.map Uuid.str).getD ""

def validityOf (capability : EnterpriseCapabilityRecord) (version : EnterpriseCapabilityVersionRecord)
    (receivedAt : Timestamp) : ValidityState :=
  if capability.state = .active ∧ version.validFrom ≤ receivedAt ∧ version.validUntil.all (· > receivedAt) then .current
  else .expired

/-- `ProposeCapabilityForCaseHandler`. -/
def proposeCapabilityForCase (store : AssessmentStore) (command : ProposeCapabilityForCaseCommand)
    (context : CommandContext) : Transaction (AssessmentStore × HandlerOutcome) := do
  let assignment ← requireActiveAssignment store.work.assignments context command.caseId command.assignmentId
    .preparationCapabilityPropose
  validateSource store.work context.tenantId command.caseId command.assignmentId command.requirementId command.taskId
  let version ← orRaise
    (store.enterprise.version context.tenantId command.capabilityVersionId command.capabilityId)
    (.execution "NOT_FOUND_OR_FORBIDDEN")
  let capability ← orRaise (store.enterprise.capability context.tenantId command.capabilityId)
    (.execution "NOT_FOUND_OR_FORBIDDEN")
  let validityState := validityOf capability version context.receivedAt
  let functionalKey := command.caseId.str ++ ":" ++ command.capabilityVersionId.str ++ ":" ++
    keyPart command.requirementId ++ ":" ++ keyPart command.taskId
  raiseIf ((store.enterprise.proposals.find? fun row => row.tenantId = context.tenantId ∧
    row.functionalKey = functionalKey) ≠ none) (.execution "CAPABILITY_PROPOSAL_ALREADY_EXISTS")
  let proposals ← flush (store.enterprise.proposals.insert? {
    id := command.proposalId, tenantId := context.tenantId, caseId := command.caseId,
    assignmentId := command.assignmentId, capabilityId := command.capabilityId,
    capabilityVersionId := command.capabilityVersionId, validityState, functionalKey,
    commandId := command.commandId, requirementId := command.requirementId, taskId := command.taskId,
    justification := command.justification, sourceLocator := command.sourceLocator,
    proposedByMembershipId := assignment.membershipId })
  return ({ store with enterprise := { store.enterprise with proposals } }, {
    resultCode := "CAPABILITY_PROPOSED_FOR_CASE"
    aggregateRefs := [⟨"CaseCapabilityProposal", command.proposalId.str, 0, none⟩]
    events := [{
      aggregateType := "CaseCapabilityProposal", aggregateId := command.proposalId, aggregateRevision := 0,
      eventType := "CapabilityProposedForCase",
      payload := [("proposal_id", .str command.proposalId.str), ("case_id", .str command.caseId.str),
        ("capability_id", .str command.capabilityId.str),
        ("capability_version_id", .str command.capabilityVersionId.str),
        ("validity_state", .str validityState.value)] }] })

/-- `ReportCapabilityGapHandler`. -/
def reportCapabilityGap (store : AssessmentStore) (command : ReportCapabilityGapCommand) (context : CommandContext) :
    Transaction (AssessmentStore × HandlerOutcome) := do
  let assignment ← requireActiveAssignment store.work.assignments context command.caseId command.assignmentId
    .preparationCapabilityGapReport
  validateSource store.work context.tenantId command.caseId command.assignmentId command.requirementId command.taskId
  raiseIf (command.capabilityId.any fun id => store.enterprise.capability context.tenantId id = none)
    (.execution "NOT_FOUND_OR_FORBIDDEN")
  let functionalKey := command.caseId.str ++ ":" ++ keyPart command.capabilityId ++ ":" ++
    keyPart command.requirementId ++ ":" ++ keyPart command.taskId ++ ":" ++ command.gapKind.value
  raiseIf ((store.enterprise.gaps.find? fun row => row.tenantId = context.tenantId ∧
    row.functionalKey = functionalKey) ≠ none) (.execution "CAPABILITY_GAP_ALREADY_REPORTED")
  let gaps ← flush (store.enterprise.gaps.insert? {
    id := command.gapId, tenantId := context.tenantId, caseId := command.caseId,
    assignmentId := command.assignmentId, gapKind := command.gapKind, severity := command.severity, functionalKey,
    commandId := command.commandId, capabilityId := command.capabilityId, requirementId := command.requirementId,
    taskId := command.taskId, reason := command.reason, sourceLocator := command.sourceLocator,
    recommendedAction := command.recommendedAction, reportedByMembershipId := assignment.membershipId })
  return ({ store with enterprise := { store.enterprise with gaps } }, {
    resultCode := "CAPABILITY_GAP_REPORTED"
    aggregateRefs := [⟨"CaseCapabilityGap", command.gapId.str, 0, none⟩]
    events := [{
      aggregateType := "CaseCapabilityGap", aggregateId := command.gapId, aggregateRevision := 0,
      eventType := "CapabilityGapReported",
      payload := [("gap_id", .str command.gapId.str), ("case_id", .str command.caseId.str),
        ("capability_id", (command.capabilityId.map fun id => .str id.str).getD .null),
        ("gap_kind", .str command.gapKind.value), ("severity", .str command.severity.value)] }] })

/-- A capability command, or what the other modules write: everything but proposals and gaps. -/
inductive AssessmentInput where
  | foreign (work : Store) (enterprise : EnterpriseStore)
  | propose (command : ProposeCapabilityForCaseCommand) (context : CommandContext)
  | report (command : ReportCapabilityGapCommand) (context : CommandContext)

def assess (store : AssessmentStore) : AssessmentInput → Transaction AssessmentStore
  | .foreign work enterprise =>
    .ok ⟨work, { enterprise with proposals := store.enterprise.proposals, gaps := store.enterprise.gaps }⟩
  | .propose command context => (proposeCapabilityForCase store command context).map (·.1)
  | .report command context => (reportCapabilityGap store command context).map (·.1)

/-- A requirement is of the DCE version that applies to the case. -/
def Applies (store : Store) (tenantId caseId requirementId : Uuid) : Prop :=
  ∃ requirement ∈ store.requirements, (requirement.tenantId = tenantId ∧ requirement.id = requirementId) ∧
    ∃ case ∈ store.cases, (case.tenantId = tenantId ∧ case.id = caseId) ∧
      case.applicableDceVersionId = some requirement.dceVersionId

instance (store : Store) (tenantId caseId requirementId : Uuid) :
    Decidable (Applies store tenantId caseId requirementId) := by
  unfold Applies
  infer_instance

/-- Each proposal and gap a step records names a requirement of the DCE version its case had at that step. -/
structure InsideCase (inputs : List AssessmentInput) : Prop where
  proposals : ∀ first input, first ++ [input] <+: inputs →
    ∀ proposal ∈ (run assess .empty (first ++ [input])).enterprise.proposals,
      proposal ∉ (run assess .empty first).enterprise.proposals → ∀ id ∈ proposal.requirementId,
        Applies (run assess .empty first).work proposal.tenantId proposal.caseId id
  gaps : ∀ first input, first ++ [input] <+: inputs →
    ∀ gap ∈ (run assess .empty (first ++ [input])).enterprise.gaps,
      gap ∉ (run assess .empty first).enterprise.gaps → ∀ id ∈ gap.requirementId,
        Applies (run assess .empty first).work gap.tenantId gap.caseId id

/-- The requirement of the tenant that a command names, if any, applies to its case. -/
def NamesApplicable (store : AssessmentStore) : AssessmentInput → Prop
  | .foreign _ _ => True
  | .propose command context => command.requirementId.all fun id =>
    requirementOf store.work context.tenantId id = none ∨ Applies store.work context.tenantId command.caseId id
  | .report command context => command.requirementId.all fun id =>
    requirementOf store.work context.tenantId id = none ∨ Applies store.work context.tenantId command.caseId id

instance (store : AssessmentStore) : ∀ input, Decidable (NamesApplicable store input)
  | .foreign _ _ => inferInstanceAs (Decidable True)
  | .propose _ _ | .report _ _ => inferInstanceAs (Decidable (Option.all _ _ = true))

variable {store next : AssessmentStore} {context : CommandContext} {outcome : HandlerOutcome}

theorem validateSource_ok {work : Store} {tenantId caseId assignmentId : Uuid} {requirementId taskId : Option Uuid}
    (checked : validateSource work tenantId caseId assignmentId requirementId taskId = .ok ()) :
    ∀ id ∈ requirementId, requirementOf work tenantId id ≠ none := by
  simp only [validateSource, bind_ok, raiseIf_ok, exists_unit] at checked
  intro id named absent
  rw [Option.mem_def] at named
  simp [named, absent] at checked

theorem proposeCapabilityForCase_ok {command : ProposeCapabilityForCaseCommand}
    (accepted : proposeCapabilityForCase store command context = .ok (next, outcome)) :
    (∀ id ∈ command.requirementId, requirementOf store.work context.tenantId id ≠ none) ∧
    ∃ proposal : CaseCapabilityProposalRecord, proposal.tenantId = context.tenantId ∧
      proposal.caseId = command.caseId ∧ proposal.requirementId = command.requirementId ∧
      store.enterprise.proposals.insert? proposal = some next.enterprise.proposals ∧
      next.enterprise.gaps = store.enterprise.gaps := by
  simp only [proposeCapabilityForCase, bind_ok, raiseIf_ok, exists_unit, orRaise_ok, pure_ok, flush,
    Prod.mk.injEq] at accepted
  obtain ⟨_, _, checked, _, _, _, _, _, proposals, inserted, rfl, _⟩ := accepted
  exact ⟨validateSource_ok checked, _, rfl, rfl, rfl, inserted, rfl⟩

theorem reportCapabilityGap_ok {command : ReportCapabilityGapCommand}
    (accepted : reportCapabilityGap store command context = .ok (next, outcome)) :
    (∀ id ∈ command.requirementId, requirementOf store.work context.tenantId id ≠ none) ∧
    ∃ gap : CaseCapabilityGapRecord, gap.tenantId = context.tenantId ∧
      gap.caseId = command.caseId ∧ gap.requirementId = command.requirementId ∧
      store.enterprise.gaps.insert? gap = some next.enterprise.gaps ∧
      next.enterprise.proposals = store.enterprise.proposals := by
  simp only [reportCapabilityGap, bind_ok, raiseIf_ok, exists_unit, orRaise_ok, pure_ok, flush,
    Prod.mk.injEq] at accepted
  obtain ⟨_, _, checked, _, _, gaps, inserted, rfl, _⟩ := accepted
  exact ⟨validateSource_ok checked, _, rfl, rfl, rfl, inserted, rfl⟩

/-- What an input that meets the condition records. -/
theorem assess_applies {input : AssessmentInput} (met : NamesApplicable store input)
    (accepted : assess store input = .ok next) :
    (∀ proposal ∈ next.enterprise.proposals, proposal ∉ store.enterprise.proposals →
      ∀ id ∈ proposal.requirementId, Applies store.work proposal.tenantId proposal.caseId id) ∧
    ∀ gap ∈ next.enterprise.gaps, gap ∉ store.enterprise.gaps →
      ∀ id ∈ gap.requirementId, Applies store.work gap.tenantId gap.caseId id := by
  cases input with
  | foreign work enterprise =>
    cases accepted
    exact ⟨fun _ member fresh => absurd member fresh, fun _ member fresh => absurd member fresh⟩
  | propose command context =>
    obtain ⟨outcome, handled⟩ := map_fst_ok.mp accepted
    obtain ⟨known, proposal, tenant, case, names, inserted, gaps⟩ := proposeCapabilityForCase_ok handled
    refine ⟨fun other member fresh id named => ?_, fun _ member fresh => absurd (gaps ▸ member) fresh⟩
    rcases (Table.mem_insert? inserted).mp member with old | rfl
    · exact absurd old fresh
    · rw [names] at named
      rw [tenant, case]
      rw [Option.mem_def] at named
      have either : requirementOf store.work context.tenantId id = none ∨
          Applies store.work context.tenantId command.caseId id := by
        simpa [NamesApplicable, named] using met
      exact either.resolve_left (known id named)
  | report command context =>
    obtain ⟨outcome, handled⟩ := map_fst_ok.mp accepted
    obtain ⟨known, gap, tenant, case, names, inserted, proposals⟩ := reportCapabilityGap_ok handled
    refine ⟨fun _ member fresh => absurd (proposals ▸ member) fresh, fun other member fresh id named => ?_⟩
    rcases (Table.mem_insert? inserted).mp member with old | rfl
    · exact absurd old fresh
    · rw [names] at named
      rw [tenant, case]
      rw [Option.mem_def] at named
      have either : requirementOf store.work context.tenantId id = none ∨
          Applies store.work context.tenantId command.caseId id := by
        simpa [NamesApplicable, named] using met
      exact either.resolve_left (known id named)

/-- A task that is created, as the sibling handler checks, is for a requirement that applies to its case. -/
theorem createTaskFromRequirement_applies {work later : Store} {command : CreateTaskFromRequirementCommand}
    (accepted : createTaskFromRequirement work command context = .ok (later, outcome)) :
    Applies work context.tenantId command.caseId command.requirementId := by
  simp only [createTaskFromRequirement, bind_ok, raiseIf_ok, exists_unit, orRaise_ok, Decidable.not_not] at accepted
  obtain ⟨_, _, _, _, _, _, _, _, case, stored, _, requirement, known, applies, _⟩ := accepted
  have matched := Table.find?_query known
  have its := Table.find?_query stored
  simp only [decide_eq_true_eq] at matched its
  exact ⟨requirement, Table.find?_mem known, matched, case, Table.find?_mem stored, its, applies⟩

/-- In a run whose commands name requirements that apply to their cases, what is recorded stays inside the case. -/
theorem insideCase_while_applicable {inputs : List AssessmentInput}
    (met : Along assess NamesApplicable .empty inputs) : InsideCase inputs := by
  have each : ∀ first input, first ++ [input] <+: inputs →
      run assess .empty (first ++ [input]) = run assess .empty first ∨
      (NamesApplicable (run assess .empty first) input ∧
        assess (run assess .empty first) input = .ok (run assess .empty (first ++ [input]))) := by
    intro first input before
    have condition := along_iff_each.mp met first input before
    rw [run_append]
    rcases commit_cases assess (run assess .empty first) input with accepted | rejected
    · exact .inr ⟨condition, accepted⟩
    · exact .inl rejected
  constructor
  · intro first input before proposal member fresh
    rcases each first input before with same | ⟨condition, accepted⟩
    · rw [same] at member
      exact absurd member fresh
    · exact (assess_applies condition accepted).1 proposal member fresh
  · intro first input before gap member fresh
    rcases each first input before with same | ⟨condition, accepted⟩
    · rw [same] at member
      exact absurd member fresh
    · exact (assess_applies condition accepted).2 gap member fresh

section Superseded

/-- Case 4 has DCE version 12 of the two versions of its requirements 30 and 31. -/
def supersededWork : Store := { Store.empty with
  cases := .singleton ⟨4, 1, .active, "", some 12, 0⟩
  requirements := ⟨[⟨30, 1, 20, 11, 21, .offerDocument, .requiredSignal⟩, ⟨31, 1, 22, 12, 23, .offerDocument, .requiredSignal⟩], by decide⟩
  assignments := .singleton ⟨7, 1, 3, 4, .active, 0, none, [.preparationCapabilityPropose], [], 0, 9, 0, none⟩ }

def teamCapability : EnterpriseStore := { EnterpriseStore.empty with
  capabilities := .singleton ⟨40, 1, 41, 0, .team, "Equipe", "Equipe de pose", .active, 60⟩
  versions := .singleton ⟨42, 1, 40, 1, "Equipe", "Pose", 0, none, "Travaux", 9, 62⟩ }

def proposer : CommandContext := ⟨1, 2, .collaborateur, 100, some 3, some 4⟩

def proposal (requirementId : Uuid) : ProposeCapabilityForCaseCommand :=
  ⟨⟨50, 50, none⟩, 51, 4, 7, 40, 42, some requirementId, none, "Equipe disponible", none⟩

theorem applicable_proposal_inside : InsideCase
    [.foreign supersededWork teamCapability, .propose (proposal 31) proposer] :=
  insideCase_while_applicable (by decide +kernel)

/-- A proposal for case 4 names a requirement of the version before its own. -/
theorem superseded_proposal_recorded : ¬ InsideCase
    [.foreign supersededWork teamCapability, .propose (proposal 30) proposer] := by
  intro inside
  have evaluated : ∃ recorded ∈ (run assess .empty [.foreign supersededWork teamCapability,
      .propose (proposal 30) proposer]).enterprise.proposals,
        recorded ∉ (run assess .empty [.foreign supersededWork teamCapability]).enterprise.proposals.rows ∧
        recorded.requirementId = some 30 ∧ ¬ Applies (run assess .empty
          [.foreign supersededWork teamCapability]).work recorded.tenantId recorded.caseId 30 := by decide +kernel
  obtain ⟨recorded, member, fresh, named, superseded⟩ := evaluated
  exact superseded (inside.proposals [.foreign supersededWork teamCapability] (.propose (proposal 30) proposer)
    (List.prefix_refl _) recorded member fresh 30 named)

end Superseded

end SmartAo.Membership
