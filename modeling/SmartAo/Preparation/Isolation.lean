import SmartAo.Preparation.LatestReadiness

namespace SmartAo.Preparation

open SmartAo.Foundation SmartAo.Platform SmartAo.Case SmartAo.Dce SmartAo.Membership

def Applicable (store : Store) (tenantId caseId versionId : Uuid) : Prop :=
  ∃ row ∈ store.sources.cases, row.tenantId = tenantId ∧ row.id = caseId ∧
    row.applicableDceVersionId = some versionId

/-- A version of a case: one that was applicable to it in some state of the run. -/
def VersionOf (inputs : List Input) (tenantId caseId versionId : Uuid) : Prop :=
  ∃ first, first <+: inputs ∧ Applicable (run step .empty first) tenantId caseId versionId

/-- An evaluation of a package that is not stored yet names the version applicable to its case. -/
def CreatesOnApplicable (store : Store) : Input → Prop
  | .command (.evaluate command) context => store.package context.tenantId command.packageId = none →
      Applicable store context.tenantId command.caseId command.dceVersionId
  | _ => True

/-- A package that an input creates is on the version applicable to its case. -/
def OwnVersions (inputs : List Input) : Prop :=
  ∀ first input, first ++ [input] <+: inputs → ∀ package ∈ (run step .empty (first ++ [input])).packages,
    (∀ old ∈ (run step .empty first).packages, old.id ≠ package.id) →
      Applicable (run step .empty first) package.tenantId package.caseId package.dceVersionId

def withDce (dce : DceStore) (store : Store) : Store :=
  { store with sources := { store.sources with dce } }

/-- Two states of the DCE module hold the same requirements and confirmations of one version. -/
structure SameVersion (first second : DceStore) (tenantId versionId : Uuid) : Prop where
  version : (first.versions.find? fun row => row.tenantId = tenantId ∧ row.id = versionId) =
    second.versions.find? fun row => row.tenantId = tenantId ∧ row.id = versionId
  requirements :
    (first.requirements.rows.filter fun row => row.tenantId = tenantId ∧ row.dceVersionId = versionId) =
      second.requirements.rows.filter fun row => row.tenantId = tenantId ∧ row.dceVersionId = versionId
  confirmations : ∀ requirement ∈ first.requirements, requirement.tenantId = tenantId →
    requirement.dceVersionId = versionId →
      first.currentConfirmation tenantId requirement.id = second.currentConfirmation tenantId requirement.id

def AssignedOnly (store : Store) (tenantId membershipId caseId : Uuid) : Prop :=
  ∀ assignment ∈ store.sources.assignments, assignment.tenantId = tenantId →
    assignment.membershipId = membershipId → assignment.caseId = caseId

def activeAssignment (store : Store) (tenantId membershipId assignmentId caseId : Uuid) (now : Timestamp) :
    Option CaseAssignmentRecord :=
  (store.sources.assignments.find? fun row => row.tenantId = tenantId ∧ row.id = assignmentId ∧
    row.caseId = caseId ∧ row.membershipId = membershipId ∧ row.state = .active).filter fun row =>
      row.startsAt ≤ now ∧ ¬ row.endsAt.any (· ≤ now) ∧ Capability.workTaskWrite ∈ row.scopeActions

/-- `PreparationService._resolve_assignment` of an evaluation. -/
def resolveAssignment (store : Store) (tenantId membershipId : Uuid) (now : Timestamp)
    (command : EvaluatePreparationReadinessCommand) : Option CaseAssignmentRecord :=
  activeAssignment store tenantId membershipId command.assignmentId command.caseId now

/-- A command of one collaborator; the service dispatches an evaluation under an active assignment. -/
def ByCollaborator (tenantId membershipId : Uuid) (store : Store) : Input → Prop
  | .foreign _ => False
  | .command command context | .interrupted command context =>
    context.tenantId = tenantId ∧ context.membershipId = some membershipId ∧
      ∀ evaluation, command = .evaluate evaluation →
        ∃ now, (resolveAssignment store tenantId membershipId now evaluation).isSome

/-- Every package is on a version of its case, and what a collaborator assigned only to one case then
    does to documents and files does not depend on the versions of other cases. -/
structure Isolated (inputs : List Input) : Prop where
  versions : OwnVersions inputs
  unchanged : ∀ first later, first ++ later <+: inputs → ∀ tenantId membershipId caseId dce,
    AssignedOnly (run step .empty first) tenantId membershipId caseId →
    Along step (ByCollaborator tenantId membershipId) (run step .empty first) later →
    (∀ versionId, VersionOf first tenantId caseId versionId →
      SameVersion (run step .empty first).sources.dce dce tenantId versionId) →
    (run step (withDce dce (run step .empty first)) later).documents =
      (run step .empty (first ++ later)).documents ∧
    (run step (withDce dce (run step .empty first)) later).files = (run step .empty (first ++ later)).files

variable {store next : Store} {context : CommandContext} {outcome : HandlerOutcome}

/-- What the reader returns depends on the rows of the version alone. -/
theorem SameVersion.readDce {first second : DceStore} {tenantId versionId : Uuid}
    (same : SameVersion first second tenantId versionId) :
    readDce first tenantId versionId = readDce second tenantId versionId := by
  unfold Preparation.readDce
  rw [same.version, ← same.requirements]
  congr 1
  funext version
  congr 1
  refine List.map_congr_left fun requirement member => ?_
  have listed := List.mem_filter.mp ((List.mem_insertionSort _).mp member)
  obtain ⟨tenant, ofVersion⟩ := of_decide_eq_true listed.2
  unfold requirementInput
  rw [same.confirmations requirement listed.1 tenant ofVersion]

def changedDce (dce : DceStore) (result : Store × HandlerOutcome) : Store × HandlerOutcome :=
  (withDce dce result.1, result.2)

theorem requestReview_withDce (dce : DceStore) (store : Store) (command : RequestPreparationReviewCommand)
    (context : CommandContext) : requestReview (withDce dce store) command context =
      (requestReview store command context).map (changedDce dce) := by
  simp only [requestReview, map_bind, map_pure]
  rfl

theorem decideReview_withDce (dce : DceStore) (store : Store) (command : DecidePreparationReviewCommand)
    (context : CommandContext) : decideReview (withDce dce store) command context =
      (decideReview store command context).map (changedDce dce) := by
  simp only [decideReview, map_bind, map_pure]
  rfl

theorem addCorrection_withDce (dce : DceStore) (store : Store) (command : AddPreparationCorrectionCommand)
    (context : CommandContext) : addCorrection (withDce dce store) command context =
      (addCorrection store command context).map (changedDce dce) := by
  simp only [addCorrection, map_bind, map_pure]
  rfl

theorem createDraft_withDce (dce : DceStore) (store : Store) (command : CreateTechnicalResponseDraftCommand)
    (context : CommandContext) : createDraft (withDce dce store) command context =
      (createDraft store command context).map (changedDce dce) := by
  simp only [createDraft, map_bind, map_pure]
  rfl

theorem createSnapshot_withDce (dce : DceStore) (store : Store) (command : CreatePreparationSnapshotCommand)
    (context : CommandContext) : createSnapshot (withDce dce store) command context =
      (createSnapshot store command context).map (changedDce dce) := by
  simp only [createSnapshot, map_bind, map_pure]
  rfl

theorem transmitSnapshot_withDce (dce : DceStore) (store : Store)
    (command : TransmitPreparationSnapshotCommand) (context : CommandContext) :
    transmitSnapshot (withDce dce store) command context =
      (transmitSnapshot store command context).map (changedDce dce) := by
  simp only [transmitSnapshot, map_bind, map_pure]
  rfl

theorem ensureAssignment_ok {package : PreparationPackageRecord} {membershipId : Uuid}
    (ensured : ensureAssignment store package context membershipId = .ok ()) :
    ∃ assignment ∈ store.sources.assignments, assignment.tenantId = context.tenantId ∧
      assignment.id = package.assignmentId ∧ assignment.caseId = package.caseId ∧
      assignment.membershipId = membershipId := by
  simp only [ensureAssignment, bind_ok, orRaise_ok, raiseIf_ok, exists_unit] at ensured
  obtain ⟨assignment, found, _⟩ := ensured
  have query := Table.find?_query found
  simp only [decide_eq_true_eq] at query
  exact ⟨assignment, Table.find?_mem found, query⟩

theorem collaboratorMembership_ok {membershipId : Uuid}
    (member : collaboratorMembership context = .ok membershipId) : context.membershipId = some membershipId := by
  simp only [collaboratorMembership, bind_ok, raiseIf_ok, exists_unit, orRaise_ok] at member
  exact member.2

theorem resolveAssignment_case {tenantId membershipId : Uuid} {now : Timestamp}
    {command : EvaluatePreparationReadinessCommand} {caseId : Uuid}
    (assigned : AssignedOnly store tenantId membershipId caseId)
    (resolved : (resolveAssignment store tenantId membershipId now command).isSome) :
    command.caseId = caseId := by
  obtain ⟨assignment, found⟩ := Option.isSome_iff_exists.mp resolved
  obtain ⟨looked, _⟩ := Option.filter_eq_some_iff.mp found
  have query := Table.find?_query looked
  simp only [decide_eq_true_eq] at query
  obtain ⟨tenant, _, ofCase, member, _⟩ := query
  exact ofCase.symm.trans (assigned assignment (Table.find?_mem looked) tenant member)

/-- Where the changed DCE module still holds the versions of one case: its stored packages and its
    applicable version. -/
structure SparesCase (dce : DceStore) (tenantId membershipId caseId : Uuid) (store : Store) : Prop where
  packages : ∀ package ∈ store.packages, package.tenantId = tenantId → package.caseId = caseId →
    SameVersion store.sources.dce dce tenantId package.dceVersionId
  applicable : ∀ versionId, Applicable store tenantId caseId versionId →
    SameVersion store.sources.dce dce tenantId versionId
  assigned : AssignedOnly store tenantId membershipId caseId

section Collaborator

variable {dce : DceStore} {tenantId membershipId caseId : Uuid}

theorem pendingDocument_withDce {command : GenerateTechnicalDocumentCommand}
    (spares : SparesCase dce tenantId membershipId caseId store) (tenant : context.tenantId = tenantId)
    (member : context.membershipId = some membershipId) :
    pendingDocument (withDce dce store) command context = pendingDocument store command context := by
  unfold pendingDocument
  refine bind_congr_ok fun actor resolved => bind_congr_ok fun package found =>
    bind_congr_ok fun _ ensured => bind_congr_ok fun _ _ => bind_congr_ok fun readiness _ =>
      bind_congr_ok fun _ _ => ?_
  have stored : store.package context.tenantId command.packageId = some package := orRaise_ok.mp found
  have mine : actor = membershipId :=
    Option.some.inj ((collaboratorMembership_ok resolved).symm.trans member)
  have guarded : ensureAssignment store package context actor = .ok () := ensured
  obtain ⟨assignment, present, ofTenant, _, ofCase, ofMember⟩ := ensureAssignment_ok guarded
  have here : package.caseId = caseId :=
    ofCase.symm.trans (spares.assigned assignment present (ofTenant.trans tenant) (ofMember.trans mine))
  obtain ⟨present, packageTenant, _⟩ := package_some stored
  have same := (spares.packages package present (packageTenant.trans tenant) here).readDce
  rw [← tenant] at same
  show (orRaise (readDce dce context.tenantId package.dceVersionId) _ >>= _) = _
  rw [← same]
  rfl

theorem generate_withDce {command : GenerateTechnicalDocumentCommand}
    (spares : SparesCase dce tenantId membershipId caseId store) (tenant : context.tenantId = tenantId)
    (member : context.membershipId = some membershipId) : generate (withDce dce store) command context =
      (generate store command context).map (changedDce dce) := by
  simp only [generate, map_bind, map_pure, pendingDocument_withDce spares tenant member]
  rfl

theorem evaluate_withDce {command : EvaluatePreparationReadinessCommand}
    (spares : SparesCase dce tenantId membershipId caseId store) (tenant : context.tenantId = tenantId)
    (here : command.caseId = caseId)
    (creates : CreatesOnApplicable store (.command (.evaluate command) context)) :
    evaluate (withDce dce store) command context =
      (evaluate store command context).map (changedDce dce) := by
  simp only [evaluate, map_bind, map_pure]
  refine bind_congr_ok fun actor _ => bind_congr_ok fun opening opened => ?_
  obtain ⟨package, packages⟩ := opening
  have evaluated : evaluatedPackage store command context actor = .ok (package, packages) := opened
  obtain ⟨ofCase, ofVersion, packageTenant, origin⟩ := evaluatedPackage_ok evaluated
  have same : SameVersion store.sources.dce dce tenantId package.dceVersionId := by
    rcases origin with ⟨absent, _⟩ | ⟨found, _⟩
    · have applicable := creates absent
      rw [tenant, here, ← ofVersion] at applicable
      exact spares.applicable _ applicable
    · exact spares.packages package (package_some found).1 (packageTenant.trans tenant) (ofCase.trans here)
  have read := same.readDce
  rw [← tenant] at read
  show (orRaise (readDce dce context.tenantId package.dceVersionId) _ >>= _) = _
  rw [← read]
  rfl

theorem evaluation_here {command : EvaluatePreparationReadinessCommand} {input : Command}
    (spares : SparesCase dce tenantId membershipId caseId store)
    (mine : ByCollaborator tenantId membershipId store (.command input context))
    (evaluation : input = .evaluate command) : command.caseId = caseId := by
  obtain ⟨now, resolved⟩ := mine.2.2 command evaluation
  exact resolveAssignment_case spares.assigned resolved

theorem execute_withDce {command : Command} (spares : SparesCase dce tenantId membershipId caseId store)
    (mine : ByCollaborator tenantId membershipId store (.command command context))
    (creates : CreatesOnApplicable store (.command command context)) :
    execute (withDce dce store) command context = (execute store command context).map (changedDce dce) := by
  cases command with
  | evaluate command => exact evaluate_withDce spares mine.1 (evaluation_here spares mine rfl) creates
  | generate command => exact generate_withDce spares mine.1 mine.2.1
  | requestReview command => exact requestReview_withDce dce store command context
  | decideReview command => exact decideReview_withDce dce store command context
  | addCorrection command => exact addCorrection_withDce dce store command context
  | createDraft command => exact createDraft_withDce dce store command context
  | createSnapshot command => exact createSnapshot_withDce dce store command context
  | transmitSnapshot command => exact transmitSnapshot_withDce dce store command context

theorem attemptedFiles_withDce {command : Command}
    (spares : SparesCase dce tenantId membershipId caseId store) (tenant : context.tenantId = tenantId)
    (member : context.membershipId = some membershipId) :
    attemptedFiles (withDce dce store) command context = attemptedFiles store command context := by
  have written : writtenFile (withDce dce store) command context = writtenFile store command context := by
    cases command with
    | generate command => simp only [writtenFile, pendingDocument_withDce spares tenant member]
    | _ => rfl
  unfold attemptedFiles
  rw [written]
  rfl

theorem advance_withDce {input : Input} (spares : SparesCase dce tenantId membershipId caseId store)
    (mine : ByCollaborator tenantId membershipId store input) (creates : CreatesOnApplicable store input) :
    advance (withDce dce store) input = withDce dce (advance store input) := by
  cases input with
  | foreign sources => cases mine
  | interrupted command context =>
    have files : attemptedFiles (withDce dce store) command context = attemptedFiles store command context :=
      attemptedFiles_withDce spares mine.1 mine.2.1
    simp only [advance, files]
    rfl
  | command command context =>
    have files : attemptedFiles (withDce dce store) command context = attemptedFiles store command context :=
      attemptedFiles_withDce spares mine.1 mine.2.1
    have same := execute_withDce spares mine creates
    cases executed : execute store command context with
    | ok result =>
      rw [executed] at same
      simp only [advance, same, executed, Except.map]
      rfl
    | error error =>
      rw [executed] at same
      simp only [advance, same, executed, Except.map, files]
      rfl

theorem execute_sources {command : Command} (accepted : execute store command context = .ok (next, outcome)) :
    next.sources = store.sources := by
  cases execute_effect accepted with
  | evaluated _ _ sources => exact sources
  | generated _ _ _ _ sources => exact sources
  | drafted _ _ _ _ sources => exact sources
  | snapshotted _ _ _ _ _ _ _ _ _ _ _ sources => exact sources
  | kept kept _ => exact kept.sources

theorem SparesCase.advance {input : Input} (spares : SparesCase dce tenantId membershipId caseId store)
    (mine : ByCollaborator tenantId membershipId store input) (creates : CreatesOnApplicable store input) :
    SparesCase dce tenantId membershipId caseId (advance store input) := by
  cases input with
  | foreign sources => cases mine
  | interrupted command context => exact ⟨spares.packages, spares.applicable, spares.assigned⟩
  | command command context =>
    rcases advance_command store command context with ⟨outcome, executed⟩ | unchanged
    · have sources := execute_sources executed
      have applicable : ∀ versionId, Applicable store tenantId caseId versionId →
          SameVersion (Preparation.advance store (.command command context)).sources.dce dce tenantId
            versionId := by
        rw [sources]
        exact spares.applicable
      refine ⟨fun package member tenant here => ?_, ?_, ?_⟩
      · rcases execute_packages executed member with ⟨old, stored, same⟩ | ⟨evaluation, rfl, absent, _, ofCase, ofVersion⟩
        · obtain ⟨_, sameTenant, sameCase, _, sameVersion⟩ := package_columns same
          rw [sources, sameVersion]
          exact spares.packages old stored (sameTenant.symm.trans tenant) (sameCase.symm.trans here)
        · have named := creates absent
          rw [mine.1, ← ofCase, here, ← ofVersion] at named
          exact applicable _ named
      · unfold Applicable at applicable ⊢
        rw [sources] at applicable ⊢
        exact applicable
      · unfold AssignedOnly
        rw [sources]
        exact spares.assigned
    · rw [unchanged]
      exact ⟨spares.packages, spares.applicable, spares.assigned⟩

theorem run_withDce {inputs : List Input} (spares : SparesCase dce tenantId membershipId caseId store)
    (mine : Along step (ByCollaborator tenantId membershipId) store inputs)
    (creates : Along step CreatesOnApplicable store inputs) :
    run step (withDce dce store) inputs = withDce dce (run step store inputs) := by
  have commutes (state : Store) (input : Input) (spares : SparesCase dce tenantId membershipId caseId state)
      (allowed : ByCollaborator tenantId membershipId state input ∧ CreatesOnApplicable state input) :
      commit step (withDce dce state) input = withDce dce (commit step state input) :=
    advance_withDce spares allowed.1 allowed.2
  have preserved (state : Store) (input : Input) (spares : SparesCase dce tenantId membershipId caseId state)
      (allowed : ByCollaborator tenantId membershipId state input ∧ CreatesOnApplicable state input) :
      SparesCase dce tenantId membershipId caseId (commit step state input) :=
    spares.advance allowed.1 allowed.2
  exact run_commutes commutes preserved spares (mine.and creates)

end Collaborator

theorem Applicable.versionOf {inputs first : List Input} {tenantId caseId versionId : Uuid}
    (applicable : Applicable (run step .empty first) tenantId caseId versionId) (before : first <+: inputs) :
    VersionOf inputs tenantId caseId versionId :=
  ⟨first, before, applicable⟩

/-- Every stored package is on a version of its case. -/
theorem package_versionOf {inputs : List Input} (along : Along step CreatesOnApplicable .empty inputs) :
    ∀ package ∈ (run step .empty inputs).packages,
      VersionOf inputs package.tenantId package.caseId package.dceVersionId := by
  induction inputs using List.reverseRecOn with
  | nil => exact fun _ member => absurd member Table.not_mem_empty
  | append_singleton first input ih =>
    have early := (Along.append.mp along).1
    have extend {tenantId caseId versionId : Uuid} (known : VersionOf first tenantId caseId versionId) :
        VersionOf (first ++ [input]) tenantId caseId versionId := by
      obtain ⟨earlier, before, applicable⟩ := known
      exact applicable.versionOf (before.trans (List.prefix_append _ _))
    rw [run_append]
    intro package member
    cases input with
    | foreign sources => exact extend (ih early package member)
    | interrupted command context => exact extend (ih early package member)
    | command command context =>
      rcases advance_command (run step .empty first) command context with ⟨outcome, executed⟩ | unchanged
      · rcases execute_packages executed member with ⟨old, stored, same⟩ | ⟨evaluation, rfl, absent, tenant, ofCase, ofVersion⟩
        · obtain ⟨_, sameTenant, sameCase, _, sameVersion⟩ := package_columns same
          rw [sameTenant, sameCase, sameVersion]
          exact extend (ih early old stored)
        · have named := (Along.append.mp along).2.1 absent
          rw [← tenant, ← ofCase, ← ofVersion] at named
          exact named.versionOf (List.prefix_append _ _)
      · rw [run_cons, run_nil, commit_step, unchanged] at member
        exact extend (ih early package member)

theorem ownVersions {inputs : List Input} (along : Along step CreatesOnApplicable .empty inputs) :
    OwnVersions inputs := by
  intro first input before package member created
  have allowed := along_iff_each.mp along first input before
  rw [run_append] at member
  cases input with
  | foreign sources => exact absurd rfl (created package member)
  | interrupted command context => exact absurd rfl (created package member)
  | command command context =>
    rcases advance_command (run step .empty first) command context with ⟨outcome, executed⟩ | unchanged
    · rcases execute_packages executed member with ⟨old, stored, same⟩ | ⟨evaluation, rfl, absent, tenant, ofCase, ofVersion⟩
      · exact absurd (package_columns same).1.symm (created old stored)
      · have named := allowed absent
        rw [← tenant, ← ofCase, ← ofVersion] at named
        exact named
    · rw [run_cons, run_nil, commit_step, unchanged] at member
      exact absurd rfl (created package member)

/-- In a run whose evaluations create packages on the applicable version of their case, packages stay on
    versions of their case, and what is generated for a case does not depend on versions of others. -/
theorem isolated_of_createsOnApplicable {inputs : List Input}
    (along : Along step CreatesOnApplicable .empty inputs) : Isolated inputs := by
  refine ⟨ownVersions along, fun first later before tenantId membershipId caseId dce assigned mine agrees => ?_⟩
  obtain ⟨early, late⟩ := Along.append.mp (along.initial before)
  have spares : SparesCase dce tenantId membershipId caseId (run step .empty first) := by
    refine ⟨fun package member tenant here => ?_, fun versionId applicable => ?_, assigned⟩
    · have known := package_versionOf early package member
      rw [tenant, here] at known
      exact agrees _ known
    · exact agrees _ (applicable.versionOf (List.prefix_refl _))
  rw [run_withDce spares mine late, run_append]
  exact ⟨rfl, rfl⟩

section CrossCase

/-- Version 5 is applicable to case 4 and version 6 to case 14; requirement 60 belongs to version 6. -/
def crossDce (outcome : ConfirmationOutcome) : DceStore where
  versions := ⟨[⟨5, 1, 8, "corpus", none, .admitted, .verified, .classified, .readyForAnalysis, 1⟩,
    ⟨6, 1, 18, "corpus", none, .admitted, .verified, .classified, .readyForAnalysis, 1⟩], by decide⟩
  requirements := .singleton ⟨60, 1, 61, 6, 62, .offerDocument, .requiredSignal⟩
  confirmations := .empty
  currentConfirmations := .singleton ⟨60, 1, 61, 1, outcome⟩

def crossSources : Sources := { Sources.empty with
  cases := ⟨[⟨4, 1, .active, "scope", some 5, 0⟩, ⟨14, 1, .active, "scope", some 6, 0⟩], by decide⟩
  dce := crossDce .confirmed
  assignments := .singleton ⟨7, 1, 3, 4, .active, 0, none, [.workTaskWrite], [.internalOperational], 0, 9, 0, none⟩ }

/-- A collaborator assigned to case 4 evaluates a new package of it on the version of case 14. -/
def crossRun : List Input := [
  .foreign crossSources,
  .command (.evaluate ⟨⟨20, 20, none⟩, 10, 4, 7, 6, 0⟩) preparer]

def crossGeneration : Input :=
  .command (.generate ⟨⟨21, 21, none⟩, 10, 30, 1, 1, .technicalResponse⟩) preparer

theorem crossRun_not_isolated :
    ((run step (withDce (crossDce .notApplicable) (run step .empty crossRun)) [crossGeneration]).files.read
        (documentKey 1 10 30) ≠
      (run step .empty (crossRun ++ [crossGeneration])).files.read (documentKey 1 10 30)) ∧
    ¬ Isolated (crossRun ++ [crossGeneration]) := by
  have evaluated :
      ((run step (withDce (crossDce .notApplicable) (run step .empty crossRun)) [crossGeneration]).files.read
        (documentKey 1 10 30) ≠
      (run step .empty (crossRun ++ [crossGeneration])).files.read (documentKey 1 10 30)) ∧
      (∀ row ∈ (run step .empty (crossRun.take 1)).sources.cases, row.id = 4 →
        row.applicableDceVersionId = some 5) ∧
      (∀ old ∈ (run step .empty (crossRun.take 1)).packages, old.id ≠ 10) ∧
      ∃ package ∈ (run step .empty crossRun).packages,
        package.id = 10 ∧ package.caseId = 4 ∧ package.dceVersionId = 6 := by decide +kernel
  obtain ⟨leaked, own, fresh, package, member, named, ofCase, ofVersion⟩ := evaluated
  refine ⟨leaked, fun isolated => ?_⟩
  have created : ∀ old ∈ (run step .empty (crossRun.take 1)).packages, old.id ≠ package.id := by
    rw [named]
    exact fresh
  obtain ⟨row, present, _, same, applicable⟩ :=
    isolated.versions (crossRun.take 1) _ (List.prefix_append _ _) package member created
  rw [own row present (same.trans ofCase), ofVersion] at applicable
  exact absurd applicable (by decide)

/-- The same collaborator evaluates the package on the version of case 4. -/
def ownRun : List Input := [
  .foreign crossSources,
  .command (.evaluate ⟨⟨20, 20, none⟩, 10, 4, 7, 5, 0⟩) preparer,
  crossGeneration]

theorem ownRun_isolated : Along step CreatesOnApplicable .empty ownRun ∧ Isolated ownRun := by
  have applicable : Applicable (run step .empty (ownRun.take 1)) 1 4 5 := by
    unfold Applicable
    decide +kernel
  have along : Along step CreatesOnApplicable .empty ownRun :=
    ⟨True.intro, fun _ => applicable, True.intro, True.intro⟩
  exact ⟨along, isolated_of_createsOnApplicable along⟩

end CrossCase

end SmartAo.Preparation
