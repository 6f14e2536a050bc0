import SmartAo.Preparation.LatestReadiness
import SmartAo.Submission.GateSoundness
import SmartAo.SubmissionPackage.Export

namespace SmartAo.SubmissionPackage

open SmartAo.Foundation SmartAo.Platform SmartAo.Preparation SmartAo.Submission SmartAo.Security

/-- A write of the preparation or of the decisions, a package prepared, or an export under what the storage
    returns then. -/
inductive PackageInput where
  | preparation (input : Preparation.Input)
  | decision (input : Decision.Input)
  | prepare (command : PrepareSubmissionPackageCommand) (context : CommandContext) (recordId : Uuid)
  | export (storage : Option StorageRead) (call : ExportCall)

section Step

variable (reader : Option SubmissionDecisionGateReader) (zip : List (String × List UInt8) → List UInt8)

def packageStep (store : SubmissionStore) : PackageInput → Except ExportError SubmissionStore
  | .preparation input => .ok { store with preparation := Preparation.advance store.preparation input }
  | .decision input => .ok { store with decision := commit Decision.step store.decision input }
  | .prepare command context recordId =>
    ((prepare reader store command context recordId).map Prod.fst).mapError .command
  | .export storage call => (exportPackage reader zip storage store call).map Prod.fst

end Step

/-- The digests that the manifest and the database give for a file of an archive. -/
def recordedDigests (store : SubmissionStore) (record : SubmissionPackageRecord) (name : String) : List String :=
  if name = "manifest.json" then [record.manifestSha256]
  else if name = "technical-response.md" then
    record.manifest.technical.sha256 ::
      ((store.technicalDocument record.tenantId record.technicalDocumentId).map (·.contentSha256)).toList
  else []

/-- Every file of an archive has a recorded digest, and hashes to each of them. -/
def Intact (store : SubmissionStore) (record : SubmissionPackageRecord) (archive : ExportArchive) : Prop :=
  ∀ file ∈ archive.files, recordedDigests store record file.1 ≠ [] ∧
    ∀ digest ∈ recordedDigests store record file.1, hexdigestBytes file.2 = digest

/-- An export of the package that succeeds produces an intact archive. -/
def ExportsIntact (reader : Option SubmissionDecisionGateReader) (zip : List (String × List UInt8) → List UInt8)
    (storage : Option StorageRead) (store : SubmissionStore) (call : ExportCall) : Prop :=
  ∀ next archive, exportPackage reader zip storage store call = .ok (next, archive) →
    ∃ record, store.package call.actor.tenantId call.submissionPackageId = some record ∧ Intact store record archive

/-- The storage returns bytes of the stored digest for the technical document of the package. -/
def TechnicalKept (read : StorageRead) (store : SubmissionStore) (tenantId submissionPackageId : Uuid) : Prop :=
  ∃ record document content, store.package tenantId submissionPackageId = some record ∧
    store.technicalDocument tenantId record.technicalDocumentId = some document ∧
    read document.storageKey = some content ∧ hexdigestBytes content = document.contentSha256

theorem technicalKept_iff {read : StorageRead} {store : SubmissionStore} {tenantId submissionPackageId : Uuid} :
    TechnicalKept read store tenantId submissionPackageId ↔
      ((store.package tenantId submissionPackageId).bind fun record =>
        (store.technicalDocument tenantId record.technicalDocumentId).bind fun document =>
          (read document.storageKey).map fun content => decide (hexdigestBytes content = document.contentSha256)) =
        some true := by
  simp only [TechnicalKept, Option.bind_eq_some_iff, Option.map_eq_some_iff, decide_eq_true_eq]
  constructor
  · rintro ⟨record, document, content, found, named, returned, digest⟩
    exact ⟨record, found, document, named, content, returned, digest⟩
  · rintro ⟨record, found, document, named, content, returned, digest⟩
    exact ⟨record, document, content, found, named, returned, digest⟩

instance (read : StorageRead) (store : SubmissionStore) (tenantId submissionPackageId : Uuid) :
    Decidable (TechnicalKept read store tenantId submissionPackageId) := decidable_of_iff _ technicalKept_iff.symm

/-- A manifest gives the digest of the stored document that its package names. -/
def Recorded (store : SubmissionStore) : Prop :=
  ∀ record ∈ store.packages, ∃ document ∈ store.preparation.documents, document.tenantId = record.tenantId ∧
    document.id = record.technicalDocumentId ∧ record.manifest.technical.sha256 = document.contentSha256

variable {reader : Option SubmissionDecisionGateReader} {zip : List (String × List UInt8) → List UInt8}
  {store next : SubmissionStore}

theorem Recorded.empty : Recorded .empty := fun _ member => absurd member Table.not_mem_empty

theorem advance_documents {preparation : Preparation.Store} {input : Preparation.Input}
    {document : GeneratedTechnicalDocumentRecord} (stored : document ∈ preparation.documents) :
    document ∈ (advance preparation input).documents := by
  cases input with
  | foreign sources => exact stored
  | interrupted command context => exact stored
  | command command context =>
    cases executed : execute preparation command context with
    | error error =>
      have reached : advance preparation (.command command context) =
        { preparation with files := attemptedFiles preparation command context } := by simp [advance, executed]
      rw [reached]
      exact stored
    | ok result =>
      have reached : advance preparation (.command command context) = result.1 := by simp [advance, executed]
      rw [reached]
      cases execute_effect executed with
      | evaluated _ _ _ documents => exact documents ▸ stored
      | generated _ _ _ inserted => exact (Table.mem_insert? inserted).mpr (.inl stored)
      | drafted _ _ _ _ _ _ documents => exact documents ▸ stored
      | snapshotted _ _ _ _ _ _ _ _ _ _ _ _ _ documents => exact documents ▸ stored
      | kept kept => exact kept.documents ▸ stored

theorem freezeRows_document {command : PrepareSubmissionPackageCommand} {context : CommandContext} {frozen : Frozen}
    (checked : freezeRows reader store command context = .ok frozen) :
    frozen.document ∈ store.preparation.documents ∧ frozen.document.tenantId = context.tenantId := by
  simp only [freezeRows, bind_ok, raiseIf_ok, exists_unit, orRaise_ok, pure_ok] at checked
  obtain ⟨-, preparation, -, -, -, readiness, -, -, document, newest, snapshot, -, -, entries, -, rfl⟩ := checked
  exact latestDocument_some newest

theorem prepare_ok {command : PrepareSubmissionPackageCommand} {context : CommandContext} {recordId : Uuid}
    {outcome : HandlerOutcome} (accepted : prepare reader store command context recordId = .ok (next, outcome)) :
    ∃ frozen membershipId version packages, freezeRows reader store command context = .ok frozen ∧
      store.packages.insert? (packageRecord command context recordId frozen membershipId version) = some packages ∧
      next = { store with packages } := by
  simp only [prepare, bind_ok, orRaise_ok, pure_ok, flush, Prod.mk.injEq] at accepted
  obtain ⟨frozen, checked, membershipId, -, packages, inserted, rfl, -⟩ := accepted
  exact ⟨frozen, membershipId, _, packages, checked, inserted, rfl⟩

theorem Recorded.prepared {command : PrepareSubmissionPackageCommand} {context : CommandContext} {recordId : Uuid}
    {outcome : HandlerOutcome} (recorded : Recorded store)
    (accepted : prepare reader store command context recordId = .ok (next, outcome)) : Recorded next := by
  obtain ⟨frozen, membershipId, version, packages, checked, inserted, rfl⟩ := prepare_ok accepted
  obtain ⟨stored, tenant⟩ := freezeRows_document checked
  intro record member
  rcases (Table.mem_insert? inserted).mp member with old | rfl
  · exact recorded record old
  · exact ⟨frozen.document, stored, tenant, rfl, rfl⟩

theorem announceExport_ok {call : ExportCall} {record : SubmissionPackageRecord} {archiveSha256 : String}
    (announced : announceExport store call record archiveSha256 = .ok next) :
    ∃ events messages outbox, store.events.insert? (call.eventRecord record archiveSha256) = some events ∧
      store.outbox.insert? (call.outboxMessage record archiveSha256) = some messages ∧
      messages.insert? call.emailMessage = some outbox ∧ next = { store with events, outbox } := by
  simp only [announceExport, bind_ok, orRaise_ok, pure_ok, flush] at announced
  obtain ⟨events, written, messages, first, outbox, second, rfl⟩ := announced
  exact ⟨events, messages, outbox, written, first, second, rfl⟩

/-- What an export that succeeds has read and checked. -/
structure Exported (read : StorageRead) (store : SubmissionStore) (call : ExportCall) (content : ExportContent) :
    Prop where
  package : store.package call.actor.tenantId call.submissionPackageId = some content.record
  manifest : hexdigestBytes content.record.manifest.bytes = content.record.manifestSha256
  document : store.technicalDocument call.actor.tenantId content.record.technicalDocumentId = some content.document
  technical : read content.document.storageKey = some content.technicalBytes

theorem exportContent_ok {storage : Option StorageRead} {call : ExportCall} {content : ExportContent}
    (checked : exportContent reader storage store call = .ok content) :
    ∃ read, storage = some read ∧ Exported read store call content := by
  simp only [exportContent, bind_ok, raiseIf_ok, exists_unit, orRaise_ok, pure_ok, not_not] at checked
  obtain ⟨-, read, configured, -, record, found, manifest, document, named, -, technicalBytes, returned, same⟩ :=
    checked
  rw [← same]
  exact ⟨read, configured, found, manifest, named, returned⟩

theorem exportPackage_ok {storage : Option StorageRead} {call : ExportCall} {archive : ExportArchive}
    (accepted : exportPackage reader zip storage store call = .ok (next, archive)) :
    ∃ read content, storage = some read ∧ Exported read store call content ∧ archive.files = archiveFiles content ∧
      announceExport store call content.record (hexdigestBytes archive.bytes) = .ok next := by
  simp only [exportPackage, bind_ok, mapError_ok, pure_ok, Prod.mk.injEq] at accepted
  obtain ⟨content, checked, after, announced, same, rfl⟩ := accepted
  obtain ⟨read, configured, exported⟩ := exportContent_ok checked
  rw [same] at announced
  exact ⟨read, content, configured, exported, rfl, announced⟩

theorem packageStep_recorded {input : PackageInput} (recorded : Recorded store)
    (accepted : packageStep reader zip store input = .ok next) : Recorded next := by
  cases input with
  | preparation input =>
    cases accepted
    intro record member
    obtain ⟨document, stored, same⟩ := recorded record member
    exact ⟨document, advance_documents stored, same⟩
  | decision input =>
    cases accepted
    exact recorded
  | prepare command context recordId =>
    obtain ⟨outcome, prepared⟩ := map_fst_ok.mp (mapError_ok.mp accepted)
    exact recorded.prepared prepared
  | «export» storage call =>
    obtain ⟨archive, exported⟩ := map_fst_ok.mp accepted
    obtain ⟨_, _, -, -, -, announced⟩ := exportPackage_ok exported
    obtain ⟨_, _, _, -, -, -, rfl⟩ := announceExport_ok announced
    exact recorded

theorem package_some {tenantId submissionPackageId : Uuid} {record : SubmissionPackageRecord}
    (found : store.package tenantId submissionPackageId = some record) :
    record ∈ store.packages ∧ record.tenantId = tenantId := by
  have query := Table.find?_query found
  simp only [decide_eq_true_eq] at query
  exact ⟨Table.find?_mem found, query.1⟩

/-- The document that a package names is the one whose digest its manifest gives. -/
theorem Recorded.manifest {record : SubmissionPackageRecord} {document : GeneratedTechnicalDocumentRecord}
    (recorded : Recorded store) (member : record ∈ store.packages)
    (named : store.technicalDocument record.tenantId record.technicalDocumentId = some document) :
    record.manifest.technical.sha256 = document.contentSha256 := by
  obtain ⟨frozen, stored, -, id, digest⟩ := recorded record member
  have query := Table.find?_query named
  simp only [decide_eq_true_eq] at query
  have conflict : Schema.Conflict frozen document := .inl (id.trans query.2.symm)
  have same : frozen = document := Table.eq_of_conflict stored (Table.find?_mem named) conflict
  exact same ▸ digest

/-- The manifest is checked against its digest: an archive is intact when its technical response is. -/
theorem intact_iff {read : StorageRead} {call : ExportCall} {content : ExportContent} {archive : ExportArchive}
    (recorded : Recorded store) (exported : Exported read store call content)
    (files : archive.files = archiveFiles content) :
    Intact store content.record archive ↔ hexdigestBytes content.technicalBytes = content.document.contentSha256 := by
  obtain ⟨member, tenant⟩ := package_some exported.package
  have named : store.technicalDocument content.record.tenantId content.record.technicalDocumentId =
      some content.document := by rw [tenant]; exact exported.document
  have digest := recorded.manifest member named
  have manifestDigests : recordedDigests store content.record "manifest.json" = [content.record.manifestSha256] := rfl
  have technicalDigests : recordedDigests store content.record "technical-response.md" =
      [content.document.contentSha256, content.document.contentSha256] := by
    unfold recordedDigests
    rw [if_neg (by decide), if_pos rfl, named, digest]
    rfl
  unfold Intact
  rw [files]
  simp only [archiveFiles, List.forall_mem_cons, manifestDigests, technicalDigests, exported.manifest]
  simp

/-- An export that succeeds is intact exactly when the storage returns bytes of the technical document's digest. -/
theorem intact_kept {read : StorageRead} {call : ExportCall} {result : SubmissionStore × ExportArchive}
    (recorded : Recorded store) (accepted : exportPackage reader zip (some read) store call = .ok result) :
    ExportsIntact reader zip (some read) store call ↔
      TechnicalKept read store call.actor.tenantId call.submissionPackageId := by
  obtain ⟨next, archive⟩ := result
  obtain ⟨_, content, configured, exported, files, -⟩ := exportPackage_ok accepted
  cases configured
  have intact := intact_iff recorded exported files
  constructor
  · intro holds
    obtain ⟨record, found, matched⟩ := holds next archive accepted
    have same : record = content.record := Option.some.inj (found.symm.trans exported.package)
    rw [same] at matched
    exact ⟨content.record, content.document, content.technicalBytes, exported.package, exported.document,
      exported.technical, intact.mp matched⟩
  · rintro ⟨record, document, bytes, found, named, returned, digest⟩ after produced done
    rw [accepted] at done
    cases done
    have sameRecord : record = content.record := Option.some.inj (found.symm.trans exported.package)
    rw [sameRecord] at named
    have sameDocument : document = content.document := Option.some.inj (named.symm.trans exported.document)
    rw [sameDocument] at returned digest
    have sameBytes : bytes = content.technicalBytes := Option.some.inj (returned.symm.trans exported.technical)
    rw [sameBytes] at digest
    exact ⟨content.record, exported.package, intact.mpr digest⟩

/-- In every reachable state, an export that succeeds gives an intact archive exactly when the storage returns
    bytes of the technical document's digest. -/
theorem exports_intact_iff (reader : Option SubmissionDecisionGateReader)
    (zip : List (String × List UInt8) → List UInt8) (inputs : List PackageInput) (read : StorageRead)
    (call : ExportCall)
    (succeeds : (exportPackage reader zip (some read) (run (packageStep reader zip) .empty inputs) call).isOk = true) :
    ExportsIntact reader zip (some read) (run (packageStep reader zip) .empty inputs) call ↔
      TechnicalKept read (run (packageStep reader zip) .empty inputs) call.actor.tenantId
        call.submissionPackageId := by
  have recorded : Recorded (run (packageStep reader zip) .empty inputs) :=
    run_invariant_always (fun _ _ _ => packageStep_recorded) inputs Recorded.empty
  generalize run (packageStep reader zip) .empty inputs = store at *
  cases accepted : exportPackage reader zip (some read) store call with
  | error error =>
    rw [accepted] at succeeds
    cases succeeds
  | ok result => exact intact_kept recorded accepted

section Drift

def publishedSnapshot : Pricing.FinancialReportSnapshotRecord where
  id := 35
  tenantId := 1
  caseId := 4
  state := .published
  currencyCode := "EUR"
  rulesetVersion := 1
  aggregateRevision := 2
  calculatedAt := 0
  publishedAt := some 1
  salesTotalMinor := 0
  directCostTotalMinor := 0
  overheadTotalMinor := 0
  subcontractingTotalMinor := 0
  contingencyTotalMinor := 0
  grossMarginMinor := 0
  grossMarginRateBps := 0
  forecastCashflowMinor := 0

/-- The case is decided and priced, its technical document 30 is generated, and its package 41 is prepared. -/
def packagedRun : List PackageInput := oneRoleRun.map .decision ++ [
  .decision (.foreign .empty (.singleton publishedSnapshot)),
  .preparation (.foreign (preparationSources .completed)),
  .preparation (.command (.evaluate ⟨⟨20, 20, none⟩, 10, 4, 7, 5, 0⟩) preparer),
  .preparation (.command (.generate ⟨⟨22, 22, none⟩, 10, 30, 1, 1, .technicalResponse⟩) preparer),
  .prepare ⟨⟨40, 40, none⟩, 10, 2⟩ Decision.patronAdmin 41]

def exportingPatron : ActorContext where
  actorId := 2
  identityId := 50
  tenantId := 1
  membershipId := 3
  actorKind := .patronAdmin
  membershipState := .active
  capabilities := [submissionAuthorize]
  assignedCaseIds := []
  sessionId := some 51
  authenticatedAt := 0
  mfaVerifiedAt := none
  correlationId := 52
  assignmentScopes := []

def packageExport : ExportCall := ⟨exportingPatron, 41, 1772368496000000, 60, 61, 62⟩

/-- The names and contents of the files, one after the other. -/
def concatenated (files : List (String × List UInt8)) : List UInt8 :=
  files.flatMap fun file => utf8Bytes file.1.toList ++ file.2

def packagedStore : SubmissionStore := run (packageStep (some readDecisionGate) concatenated) .empty packagedRun

/-- The storage as it was written. -/
def writtenStorage (store : SubmissionStore) : StorageRead :=
  fun key => (store.preparation.files.read key).map utf8Bytes

theorem packagedStore_evaluated :
    ((exportPackage (some readDecisionGate) concatenated (some (writtenStorage packagedStore)) packagedStore
        packageExport).isOk = true ∧ TechnicalKept (writtenStorage packagedStore) packagedStore 1 41) ∧
      (exportPackage (some readDecisionGate) concatenated (some fun _ => some []) packagedStore packageExport).isOk =
        true ∧ ¬ TechnicalKept (fun _ => some []) packagedStore 1 41 := by decide +kernel

/-- What was written is exported intact. -/
theorem written_export_intact :
    ExportsIntact (some readDecisionGate) concatenated (some (writtenStorage packagedStore)) packagedStore
      packageExport :=
  (exports_intact_iff (some readDecisionGate) concatenated packagedRun (writtenStorage packagedStore) packageExport
    packagedStore_evaluated.1.1).mpr packagedStore_evaluated.1.2

/-- The storage has lost the content of the document: the export succeeds, on an empty technical response. -/
theorem drifted_export_not_intact :
    ¬ ∀ (inputs : List PackageInput) (storage : Option StorageRead) (call : ExportCall),
      ExportsIntact (some readDecisionGate) concatenated storage
        (run (packageStep (some readDecisionGate) concatenated) .empty inputs) call := by
  intro claimed
  have intact : ExportsIntact (some readDecisionGate) concatenated (some fun _ => some []) packagedStore
      packageExport := claimed packagedRun (some fun _ => some []) packageExport
  have recorded : Recorded packagedStore :=
    run_invariant_always (fun _ _ _ => packageStep_recorded) packagedRun Recorded.empty
  have evaluated := packagedStore_evaluated.2
  generalize packagedStore = store at *
  obtain ⟨succeeds, lost⟩ := evaluated
  cases accepted : exportPackage (some readDecisionGate) concatenated (some fun _ => some []) store packageExport with
  | error error =>
    rw [accepted] at succeeds
    cases succeeds
  | ok result => exact lost ((intact_kept recorded accepted).mp intact)

end Drift

end SmartAo.SubmissionPackage
