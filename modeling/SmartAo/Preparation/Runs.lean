import SmartAo.Preparation.Transmission
import SmartAo.Foundation.Transition

namespace SmartAo.Preparation

open SmartAo.Foundation SmartAo.Platform SmartAo.Dce SmartAo.Membership SmartAo.PatronAction

inductive Command where
  | evaluate (command : EvaluatePreparationReadinessCommand)
  | generate (command : GenerateTechnicalDocumentCommand)
  | requestReview (command : RequestPreparationReviewCommand)
  | decideReview (command : DecidePreparationReviewCommand)
  | addCorrection (command : AddPreparationCorrectionCommand)
  | createDraft (command : CreateTechnicalResponseDraftCommand)
  | createSnapshot (command : CreatePreparationSnapshotCommand)
  | transmitSnapshot (command : TransmitPreparationSnapshotCommand)

def execute (store : Store) (command : Command) (context : CommandContext) :
    Transaction (Store × HandlerOutcome) :=
  match command with
  | .evaluate command => evaluate store command context
  | .generate command => generate store command context
  | .requestReview command => requestReview store command context
  | .decideReview command => decideReview store command context
  | .addCorrection command => addCorrection store command context
  | .createDraft command => createDraft store command context
  | .createSnapshot command => createSnapshot store command context
  | .transmitSnapshot command => transmitSnapshot store command context

/-- The file a command writes: its key and its content. -/
def writtenFile (store : Store) (command : Command) (context : CommandContext) :
    Option (String × List Char) :=
  match command with
  | .generate command =>
    match pendingDocument store command context with
    | .ok pending =>
      some (documentKey context.tenantId pending.package.id command.documentId, pending.content)
    | .error _ => none
  | .createDraft command =>
    match pendingDraft store command context with
    | .ok pending =>
      some (draftKey context.tenantId pending.package.id command.draftId pending.version, pending.content)
    | .error _ => none
  | _ => none

/-- The storage after an attempt, whatever becomes of its rows. -/
def attemptedFiles (store : Store) (command : Command) (context : CommandContext) : Files String (List Char) :=
  ((writtenFile store command context).bind fun file => store.files.write? file.1 file.2).getD store.files

/-- A write of another module, a dispatched command, or a command whose transaction fails after its
    storage write. -/
inductive Input where
  | foreign (sources : Sources)
  | command (command : Command) (context : CommandContext)
  | interrupted (command : Command) (context : CommandContext)

/-- A refused or interrupted command rolls its rows back; the file it wrote stays. -/
def advance (store : Store) : Input → Store
  | .foreign sources => { store with sources }
  | .command command context =>
    match execute store command context with
    | .ok (next, _) => next
    | .error _ => { store with files := attemptedFiles store command context }
  | .interrupted command context => { store with files := attemptedFiles store command context }

def step (store : Store) (input : Input) : Transaction Store := .ok (advance store input)

@[simp] theorem commit_step (store : Store) (input : Input) : commit step store input = advance store input := rfl

variable {store next : Store} {context : CommandContext} {outcome : HandlerOutcome}

theorem writeFile_ok {files written : Files String (List Char)} {storageKey digest : String}
    {content : List Char} : writeFile files storageKey content = .ok (written, digest) ↔
      files.write? storageKey content = some written ∧ hexdigest content = digest := by
  simp only [writeFile, bind_ok, orRaise_ok, pure_ok, Prod.mk.injEq]
  constructor
  · rintro ⟨_, created, rfl, same⟩
    exact ⟨created, same⟩
  · rintro ⟨created, same⟩
    exact ⟨written, created, rfl, same⟩

theorem evaluate_ok {command : EvaluatePreparationReadinessCommand}
    (accepted : evaluate store command context = .ok (next, outcome)) :
    ∃ membershipId package packages dce readiness,
      collaboratorMembership context = .ok membershipId ∧
      evaluatedPackage store command context membershipId = .ok (package, packages) ∧
      readDce store.sources.dce context.tenantId package.dceVersionId = some dce ∧
      store.readiness.insert? (readinessRecord store.sources command context membershipId package dce) =
        some readiness ∧
      next = { store with
        packages := advancePackage packages package (evaluatedState
          (readinessRecord store.sources command context membershipId package dce))
        readiness } := by
  simp only [evaluate, bind_ok, orRaise_ok, pure_ok, Prod.mk.injEq, Prod.exists, flush] at accepted
  obtain ⟨membershipId, member, package, packages, opened, dce, read, readiness, inserted, rfl, _⟩ := accepted
  exact ⟨membershipId, package, packages, dce, readiness, member, opened, read, inserted, rfl⟩

theorem generate_ok {command : GenerateTechnicalDocumentCommand}
    (accepted : generate store command context = .ok (next, outcome)) :
    ∃ pending files documents, pendingDocument store command context = .ok pending ∧
      store.files.write? (documentKey context.tenantId pending.package.id command.documentId)
        pending.content = some files ∧
      store.documents.insert? (documentRecord command context pending (hexdigest pending.content)) =
        some documents ∧
      next = { store with
        packages := advancePackage store.packages pending.package .generated, documents, files } := by
  simp only [generate, bind_ok, orRaise_ok, pure_ok, Prod.mk.injEq, Prod.exists, flush,
    writeFile_ok] at accepted
  obtain ⟨pending, checked, files, _, ⟨written, rfl⟩, documents, inserted, rfl, _⟩ := accepted
  exact ⟨pending, files, documents, checked, written, inserted, rfl⟩

theorem pendingDocument_ok {command : GenerateTechnicalDocumentCommand} {pending : PendingDocument}
    (checked : pendingDocument store command context = .ok pending) :
    ∃ dce, collaboratorMembership context = .ok pending.membershipId ∧
      store.package context.tenantId command.packageId = some pending.package ∧
      ensureAssignment store pending.package context pending.membershipId = .ok () ∧
      store.readinessAt context.tenantId pending.package.id command.readinessRevision =
        some pending.readiness ∧ pending.readiness.state ≠ .blocked ∧
      readDce store.sources.dce context.tenantId pending.package.dceVersionId = some dce ∧
      pending.version = ((store.documents.greatest (fun row => row.tenantId = context.tenantId ∧
        row.packageId = pending.package.id) (·.version)).getD 0) + 1 ∧
      pending.content = documentContent command.documentKind pending.package pending.readiness
        pending.version dce.requirements := by
  simp only [pendingDocument, bind_ok, orRaise_ok, pure_ok, raiseIf_ok, exists_unit] at checked
  obtain ⟨membershipId, member, package, found, assigned, _, readiness, named, unblocked, dce, read,
    _, rfl⟩ := checked
  exact ⟨dce, member, found, assigned, named, unblocked, read, rfl, rfl⟩

theorem createSnapshot_ok {command : CreatePreparationSnapshotCommand}
    (accepted : createSnapshot store command context = .ok (next, outcome)) :
    ∃ package readiness document version snapshots,
      transmittedPackage store context command.packageId command.expectedPackageRevision = .ok package ∧
      store.latestReadiness context.tenantId package.id = some readiness ∧ readiness.state ≠ .blocked ∧
      store.latestDocument context.tenantId package.id = some document ∧
      store.snapshots.insert? (snapshotRecord command context package readiness document
        (latestDrafts store context.tenantId package.id) version) = some snapshots ∧
      next = { store with packages := advancePackage store.packages package .ready, snapshots } := by
  simp only [createSnapshot, bind_ok, orRaise_ok, pure_ok, raiseIf_ok, exists_unit, Prod.mk.injEq,
    flush] at accepted
  obtain ⟨package, loaded, _, readiness, latest, unblocked, document, newest, snapshots, inserted, rfl, _⟩ :=
    accepted
  exact ⟨package, readiness, document, _, snapshots, loaded, latest, unblocked, newest, inserted, rfl⟩

theorem transmittedPackage_ok {packageId : Uuid} {expectedRevision : Nat} {package : PreparationPackageRecord}
    (loaded : transmittedPackage store context packageId expectedRevision = .ok package) :
    store.package context.tenantId packageId = some package := by
  simp only [transmittedPackage, loadedPackage, bind_ok, orRaise_ok, pure_ok, raiseIf_ok,
    exists_unit] at loaded
  obtain ⟨_, _, found, stored, _, _, rfl⟩ := loaded
  exact stored

theorem package_some {tenantId packageId : Uuid} {package : PreparationPackageRecord}
    (found : store.package tenantId packageId = some package) :
    package ∈ store.packages ∧ package.tenantId = tenantId ∧ package.id = packageId := by
  have query := Table.find?_query found
  simp only [decide_eq_true_eq] at query
  exact ⟨Table.find?_mem found, query⟩

theorem transmitSnapshot_ok {command : TransmitPreparationSnapshotCommand}
    (accepted : transmitSnapshot store command context = .ok (next, outcome)) :
    ∃ package snapshot transmissions actions,
      transmittedPackage store context command.packageId command.expectedPackageRevision = .ok package ∧
      store.snapshotOf context.tenantId package.id command.snapshotId = some snapshot ∧
      next = { store with
        packages := advancePackage store.packages package .aReview, transmissions, actions } := by
  simp only [transmitSnapshot, bind_ok, orRaise_ok, pure_ok, raiseIf_ok, exists_unit, Prod.mk.injEq,
    Prod.exists, flush] at accepted
  obtain ⟨package, loaded, snapshot, found, _, transmissions, _, actions, _, _, rfl, _⟩ := accepted
  exact ⟨package, snapshot, transmissions, actions, loaded, found, rfl⟩

theorem createDraft_ok {command : CreateTechnicalResponseDraftCommand}
    (accepted : createDraft store command context = .ok (next, outcome)) :
    ∃ pending files drafts, pendingDraft store command context = .ok pending ∧
      store.files.write? (draftKey context.tenantId pending.package.id command.draftId pending.version)
        pending.content = some files ∧
      store.drafts.insert? (draftRecord command context pending (hexdigest pending.content)) =
        some drafts ∧
      next = { store with
        packages := advancePackage store.packages pending.package .inPreparation, drafts, files } := by
  simp only [createDraft, bind_ok, orRaise_ok, pure_ok, Prod.mk.injEq, Prod.exists, flush,
    writeFile_ok] at accepted
  obtain ⟨pending, checked, files, _, ⟨written, rfl⟩, drafts, inserted, rfl, _⟩ := accepted
  exact ⟨pending, files, drafts, checked, written, inserted, rfl⟩

end SmartAo.Preparation
