import SmartAo.Preparation.Runs

namespace SmartAo.Preparation

open SmartAo.Foundation SmartAo.Platform SmartAo.Dce SmartAo.Membership

variable {store next : Store} {context : CommandContext} {outcome : HandlerOutcome}

/-- Everything stays but reviews, corrections, transmissions and the row of one package. -/
structure Kept (store next : Store) : Prop where
  sources : next.sources = store.sources
  readiness : next.readiness = store.readiness
  documents : next.documents = store.documents
  drafts : next.drafts = store.drafts
  snapshots : next.snapshots = store.snapshots
  files : next.files = store.files
  packages : ∃ package state, next.packages = advancePackage store.packages package state

/-- What an accepted command did to the evaluations, the documents, the drafts, the snapshots and the
    files. -/
inductive Effect (store next : Store) (context : CommandContext) : Command → Prop where
  | evaluated {command : EvaluatePreparationReadinessCommand} (record : PreparationReadinessRecord)
      (inserted : store.readiness.insert? record = some next.readiness)
      (sources : next.sources = store.sources) (documents : next.documents = store.documents)
      (drafts : next.drafts = store.drafts) (snapshots : next.snapshots = store.snapshots)
      (files : next.files = store.files) : Effect store next context (.evaluate command)
  | generated {command : GenerateTechnicalDocumentCommand} (pending : PendingDocument)
      (checked : pendingDocument store command context = .ok pending)
      (written : store.files.write? (documentKey context.tenantId pending.package.id command.documentId)
        pending.content = some next.files)
      (inserted : store.documents.insert?
        (documentRecord command context pending (hexdigest pending.content)) = some next.documents)
      (sources : next.sources = store.sources) (readiness : next.readiness = store.readiness)
      (drafts : next.drafts = store.drafts) (snapshots : next.snapshots = store.snapshots) :
      Effect store next context (.generate command)
  | drafted {command : CreateTechnicalResponseDraftCommand} (pending : PendingDraft)
      (checked : pendingDraft store command context = .ok pending)
      (written : store.files.write? (draftKey context.tenantId pending.package.id command.draftId
        pending.version) pending.content = some next.files)
      (inserted : store.drafts.insert?
        (draftRecord command context pending (hexdigest pending.content)) = some next.drafts)
      (sources : next.sources = store.sources) (readiness : next.readiness = store.readiness)
      (documents : next.documents = store.documents) (snapshots : next.snapshots = store.snapshots) :
      Effect store next context (.createDraft command)
  | snapshotted {command : CreatePreparationSnapshotCommand} (record : PreparationSnapshotRecord)
      (readiness : PreparationReadinessRecord) (document : GeneratedTechnicalDocumentRecord)
      (latest : store.latestReadiness context.tenantId command.packageId = some readiness)
      (unblocked : readiness.state ≠ .blocked)
      (newest : store.latestDocument context.tenantId command.packageId = some document)
      (inserted : store.snapshots.insert? record = some next.snapshots)
      (tenant : record.tenantId = context.tenantId) (package : record.packageId = command.packageId)
      (named : record.readinessId = readiness.id) (frozen : record.technicalDocumentId = document.id)
      (sources : next.sources = store.sources) (evaluations : next.readiness = store.readiness)
      (documents : next.documents = store.documents) (drafts : next.drafts = store.drafts)
      (files : next.files = store.files) : Effect store next context (.createSnapshot command)
  | kept {command : Command} (kept : Kept store next) (silent : ∀ store context,
      writtenFile store command context = none) : Effect store next context command

theorem evaluatedPackage_ok {command : EvaluatePreparationReadinessCommand} {membershipId : Uuid}
    {package : PreparationPackageRecord} {packages : Table PreparationPackageRecord}
    (opened : evaluatedPackage store command context membershipId = .ok (package, packages)) :
    package.caseId = command.caseId ∧ package.dceVersionId = command.dceVersionId ∧
      package.tenantId = context.tenantId ∧
      ((store.package context.tenantId command.packageId = none ∧
          store.packages.insert? package = some packages) ∨
        (store.package context.tenantId command.packageId = some package ∧ packages = store.packages)) := by
  unfold evaluatedPackage at opened
  cases found : store.package context.tenantId command.packageId with
  | none =>
    simp only [found, bind_ok, raiseIf_ok, exists_unit, orRaise_ok, pure_ok, Prod.mk.injEq, flush] at opened
    obtain ⟨_, packages, inserted, rfl, rfl⟩ := opened
    exact ⟨rfl, rfl, rfl, .inl ⟨rfl, inserted⟩⟩
  | some stored =>
    simp only [found, bind_ok, raiseIf_ok, exists_unit, pure_ok, Prod.mk.injEq, not_or,
      Decidable.not_not] at opened
    obtain ⟨⟨sameCase, _, sameVersion⟩, _, _, rfl, rfl⟩ := opened
    exact ⟨sameCase, sameVersion, (package_some found).2.1, .inr ⟨rfl, rfl⟩⟩

theorem package_columns {first second : PreparationPackageRecord}
    (same : Schema.columns first = Schema.columns second) :
    first.id = second.id ∧ first.tenantId = second.tenantId ∧ first.caseId = second.caseId ∧
      first.assignmentId = second.assignmentId ∧ first.dceVersionId = second.dceVersionId := by
  have columns : (first.id, first.tenantId, first.caseId, first.assignmentId, first.dceVersionId) =
    (second.id, second.tenantId, second.caseId, second.assignmentId, second.dceVersionId) := same
  simpa using columns

theorem evaluate_effect {command : EvaluatePreparationReadinessCommand}
    (accepted : evaluate store command context = .ok (next, outcome)) :
    Effect store next context (.evaluate command) := by
  obtain ⟨_, _, _, _, _, _, _, _, inserted, rfl⟩ := evaluate_ok accepted
  exact .evaluated _ inserted rfl rfl rfl rfl rfl

theorem generate_effect {command : GenerateTechnicalDocumentCommand}
    (accepted : generate store command context = .ok (next, outcome)) :
    Effect store next context (.generate command) := by
  obtain ⟨pending, _, _, checked, written, inserted, rfl⟩ := generate_ok accepted
  exact .generated pending checked written inserted rfl rfl rfl rfl

theorem createDraft_effect {command : CreateTechnicalResponseDraftCommand}
    (accepted : createDraft store command context = .ok (next, outcome)) :
    Effect store next context (.createDraft command) := by
  obtain ⟨pending, _, _, checked, written, inserted, rfl⟩ := createDraft_ok accepted
  exact .drafted pending checked written inserted rfl rfl rfl rfl

theorem createSnapshot_effect {command : CreatePreparationSnapshotCommand}
    (accepted : createSnapshot store command context = .ok (next, outcome)) :
    Effect store next context (.createSnapshot command) := by
  obtain ⟨package, readiness, document, version, _, loaded, latest, unblocked, newest, inserted, rfl⟩ :=
    createSnapshot_ok accepted
  obtain ⟨_, _, same⟩ := package_some (transmittedPackage_ok loaded)
  rw [same] at latest newest
  exact .snapshotted _ readiness document latest unblocked newest inserted rfl same rfl rfl rfl rfl rfl rfl rfl

theorem requestReview_kept {command : RequestPreparationReviewCommand}
    (accepted : requestReview store command context = .ok (next, outcome)) : Kept store next := by
  simp only [requestReview, bind_ok, orRaise_ok, pure_ok, raiseIf_ok, exists_unit, Prod.mk.injEq,
    flush] at accepted
  obtain ⟨_, _, _, _, _, _, _, _, _, rfl, _⟩ := accepted
  exact ⟨rfl, rfl, rfl, rfl, rfl, rfl, _, _, rfl⟩

theorem decideReview_kept {command : DecidePreparationReviewCommand}
    (accepted : decideReview store command context = .ok (next, outcome)) : Kept store next := by
  simp only [decideReview, bind_ok, orRaise_ok, pure_ok, raiseIf_ok, exists_unit, Prod.mk.injEq,
    flush] at accepted
  obtain ⟨_, _, _, _, _, _, _, _, _, rfl, _⟩ := accepted
  exact ⟨rfl, rfl, rfl, rfl, rfl, rfl, _, _, rfl⟩

theorem addCorrection_kept {command : AddPreparationCorrectionCommand}
    (accepted : addCorrection store command context = .ok (next, outcome)) : Kept store next := by
  simp only [addCorrection, bind_ok, orRaise_ok, pure_ok, raiseIf_ok, exists_unit, Prod.mk.injEq,
    flush] at accepted
  obtain ⟨_, _, _, _, _, _, _, _, rfl, _⟩ := accepted
  exact ⟨rfl, rfl, rfl, rfl, rfl, rfl, _, _, rfl⟩

theorem execute_effect {command : Command} (accepted : execute store command context = .ok (next, outcome)) :
    Effect store next context command := by
  cases command with
  | evaluate command => exact evaluate_effect accepted
  | generate command => exact generate_effect accepted
  | requestReview command => exact .kept (requestReview_kept accepted) fun _ _ => rfl
  | decideReview command => exact .kept (decideReview_kept accepted) fun _ _ => rfl
  | addCorrection command => exact .kept (addCorrection_kept accepted) fun _ _ => rfl
  | createDraft command => exact createDraft_effect accepted
  | createSnapshot command => exact createSnapshot_effect accepted
  | transmitSnapshot command =>
    obtain ⟨_, _, _, _, _, _, rfl⟩ := transmitSnapshot_ok accepted
    exact .kept ⟨rfl, rfl, rfl, rfl, rfl, rfl, _, _, rfl⟩ fun _ _ => rfl

theorem mem_advancePackage {packages : Table PreparationPackageRecord}
    {package changed : PreparationPackageRecord} {state : PackageState}
    (member : changed ∈ advancePackage packages package state) :
    ∃ old ∈ packages, Schema.columns changed = Schema.columns old := by
  rcases @Table.mem_update_cases _ _ _ _ _ _ (advanced_columns state) member with
    ⟨old, _⟩ | ⟨old, stored, _, rfl⟩
  · exact ⟨changed, old, rfl⟩
  · exact ⟨old, stored, advanced_columns state old⟩

/-- Where a package of the next state comes from: a stored one with its context, or the evaluation that
    creates it. -/
theorem execute_packages {command : Command} (accepted : execute store command context = .ok (next, outcome))
    {package : PreparationPackageRecord} (member : package ∈ next.packages) :
    (∃ old ∈ store.packages, Schema.columns package = Schema.columns old) ∨
      ∃ evaluation, command = .evaluate evaluation ∧
        store.package context.tenantId evaluation.packageId = none ∧
        package.tenantId = context.tenantId ∧ package.caseId = evaluation.caseId ∧
        package.dceVersionId = evaluation.dceVersionId := by
  cases command with
  | evaluate command =>
    obtain ⟨_, opened, packages, _, _, _, found, _, _, rfl⟩ := evaluate_ok accepted
    obtain ⟨other, present, same⟩ := mem_advancePackage member
    obtain ⟨ofCase, ofVersion, tenant, ⟨absent, inserted⟩ | ⟨_, rfl⟩⟩ := evaluatedPackage_ok found
    · rcases (Table.mem_insert? inserted).mp present with old | rfl
      · exact .inl ⟨other, old, same⟩
      · obtain ⟨_, sameTenant, sameCase, _, sameVersion⟩ := package_columns same
        exact .inr ⟨command, rfl, absent, sameTenant.trans tenant, sameCase.trans ofCase,
          sameVersion.trans ofVersion⟩
    · exact .inl ⟨other, present, same⟩
  | generate command =>
    obtain ⟨_, _, _, _, _, _, rfl⟩ := generate_ok accepted
    exact .inl (mem_advancePackage member)
  | createDraft command =>
    obtain ⟨_, _, _, _, _, _, rfl⟩ := createDraft_ok accepted
    exact .inl (mem_advancePackage member)
  | createSnapshot command =>
    obtain ⟨_, _, _, _, _, _, _, _, _, _, rfl⟩ := createSnapshot_ok accepted
    exact .inl (mem_advancePackage member)
  | transmitSnapshot command =>
    obtain ⟨_, _, _, _, _, _, rfl⟩ := transmitSnapshot_ok accepted
    exact .inl (mem_advancePackage member)
  | requestReview command =>
    obtain ⟨_, _, same⟩ := (requestReview_kept accepted).packages
    rw [same] at member
    exact .inl (mem_advancePackage member)
  | decideReview command =>
    obtain ⟨_, _, same⟩ := (decideReview_kept accepted).packages
    rw [same] at member
    exact .inl (mem_advancePackage member)
  | addCorrection command =>
    obtain ⟨_, _, same⟩ := (addCorrection_kept accepted).packages
    rw [same] at member
    exact .inl (mem_advancePackage member)

/-- A dispatched command either is accepted or changes nothing but the storage. -/
theorem advance_command (store : Store) (command : Command) (context : CommandContext) :
    (∃ outcome, execute store command context = .ok (advance store (.command command context), outcome)) ∨
      advance store (.command command context) =
        { store with files := attemptedFiles store command context } := by
  cases attempted : execute store command context with
  | ok result =>
    obtain ⟨next, outcome⟩ := result
    refine .inl ⟨outcome, ?_⟩
    simp [advance, attempted]
  | error error => exact .inr (by simp [advance, attempted])

end SmartAo.Preparation
