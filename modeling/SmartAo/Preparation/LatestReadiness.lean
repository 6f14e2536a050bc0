import SmartAo.Preparation.Effects

namespace SmartAo.Preparation

open SmartAo.Foundation SmartAo.Platform SmartAo.Case SmartAo.Dce SmartAo.Membership

/-- The latest evaluation of the package is not BLOCKED. -/
def Unblocked (store : Store) (tenantId packageId : Uuid) : Prop :=
  ∃ readiness, store.latestReadiness tenantId packageId = some readiness ∧ readiness.state ≠ .blocked

def Accepted (store : Store) (command : Command) (context : CommandContext) : Prop :=
  (execute store command context).isOk = true

/-- The package a generation, a snapshot or a transmission advances. -/
def advancedPackage : Command → Option Uuid
  | .generate command => some command.packageId
  | .createSnapshot command => some command.packageId
  | .transmitSnapshot command => some command.packageId
  | _ => none

def Advances (store : Store) : Input → Prop
  | .command command context => ∀ packageId, advancedPackage command = some packageId →
    Accepted store command context → Unblocked store context.tenantId packageId
  | _ => True

/-- Every snapshot's document was generated from the evaluation the snapshot records. -/
def DocumentsMatch (store : Store) : Prop :=
  ∀ snapshot ∈ store.snapshots, ∃ document ∈ store.documents, document.tenantId = snapshot.tenantId ∧
    document.id = snapshot.technicalDocumentId ∧ document.readinessId = snapshot.readinessId

structure RunAdvances (inputs : List Input) : Prop where
  advances : Along step Advances .empty inputs
  documents : ∀ first, first <+: inputs → DocumentsMatch (run step .empty first)

/-- What an accepted command relies on of the package's latest evaluation: a generation names it, the
    newest document was generated from it, a transmitted snapshot records it. A generation and a
    transmission may instead meet one that is not BLOCKED. -/
def FromLatest (store : Store) : Input → Prop
  | .command (.generate command) context => Accepted store (.generate command) context →
    ∀ latest, store.latestReadiness context.tenantId command.packageId = some latest →
      command.readinessRevision = latest.revision ∨ latest.state ≠ .blocked
  | .command (.createSnapshot command) context => Accepted store (.createSnapshot command) context →
    ∀ latest document, store.latestReadiness context.tenantId command.packageId = some latest →
      store.latestDocument context.tenantId command.packageId = some document →
      document.readinessId = latest.id
  | .command (.transmitSnapshot command) context => Accepted store (.transmitSnapshot command) context →
    ∀ latest snapshot, store.latestReadiness context.tenantId command.packageId = some latest →
      store.snapshotOf context.tenantId command.packageId command.snapshotId = some snapshot →
      snapshot.readinessId = latest.id ∨ latest.state ≠ .blocked
  | _ => True

variable {store next : Store} {context : CommandContext} {outcome : HandlerOutcome}

theorem accepted_ok {command : Command} (accepted : Accepted store command context) :
    ∃ next outcome, execute store command context = .ok (next, outcome) := by
  unfold Accepted at accepted
  cases executed : execute store command context with
  | ok result => exact ⟨result.1, result.2, rfl⟩
  | error error =>
    rw [executed] at accepted
    cases accepted

theorem accepted_of_ok {command : Command} (executed : execute store command context = .ok (next, outcome)) :
    Accepted store command context := by
  rw [Accepted, executed]
  rfl

theorem latestReadiness_some {tenantId packageId : Uuid} {readiness : PreparationReadinessRecord}
    (latest : store.latestReadiness tenantId packageId = some readiness) :
    readiness ∈ store.readiness ∧ readiness.tenantId = tenantId ∧ readiness.packageId = packageId := by
  obtain ⟨member, query⟩ := Table.latest_mem latest
  exact ⟨member, by simpa using query⟩

theorem readinessAt_some {tenantId packageId : Uuid} {revision : Nat} {readiness : PreparationReadinessRecord}
    (named : store.readinessAt tenantId packageId revision = some readiness) :
    readiness ∈ store.readiness ∧ readiness.tenantId = tenantId ∧ readiness.packageId = packageId ∧
      readiness.revision = revision := by
  have query := Table.find?_query named
  simp only [decide_eq_true_eq] at query
  exact ⟨Table.find?_mem named, query⟩

/-- A stored evaluation of a package leaves it with a latest one. -/
theorem latestReadiness_exists {readiness : PreparationReadinessRecord} (member : readiness ∈ store.readiness) :
    ∃ latest, store.latestReadiness readiness.tenantId readiness.packageId = some latest :=
  Option.isSome_iff_exists.mp (Table.latest_isSome.mpr ⟨readiness, member, by simp⟩)

theorem unblocked_of_latest {tenantId packageId : Uuid} {named : PreparationReadinessRecord}
    (member : named ∈ store.readiness) (tenant : named.tenantId = tenantId)
    (package : named.packageId = packageId) (passed : named.state ≠ .blocked)
    (relied : ∀ latest, store.latestReadiness tenantId packageId = some latest →
      Schema.Conflict latest named ∨ latest.state ≠ .blocked) : Unblocked store tenantId packageId := by
  subst tenant package
  obtain ⟨latest, found⟩ := latestReadiness_exists member
  rcases relied latest found with conflict | unblocked
  · have same : latest = named := Table.eq_of_conflict (latestReadiness_some found).1 member conflict
    exact ⟨latest, found, same ▸ passed⟩
  · exact ⟨latest, found, unblocked⟩

/-- Snapshots record evaluations of their package that were not BLOCKED. -/
def SnapshotsPassed (store : Store) : Prop :=
  ∀ snapshot ∈ store.snapshots, ∃ readiness ∈ store.readiness, readiness.id = snapshot.readinessId ∧
    readiness.tenantId = snapshot.tenantId ∧ readiness.packageId = snapshot.packageId ∧
    readiness.state ≠ .blocked

structure Invariant (store : Store) : Prop where
  documents : DocumentsMatch store
  passed : SnapshotsPassed store

theorem Invariant.empty : Invariant .empty :=
  ⟨fun _ member => absurd member Table.not_mem_empty, fun _ member => absurd member Table.not_mem_empty⟩

/-- Documents and evaluations are only added; snapshots stay. -/
theorem Invariant.grow (holds : Invariant store)
    (documents : ∀ document ∈ store.documents, document ∈ next.documents)
    (readiness : ∀ record ∈ store.readiness, record ∈ next.readiness)
    (snapshots : next.snapshots = store.snapshots) : Invariant next := by
  constructor
  · intro snapshot member
    rw [snapshots] at member
    obtain ⟨document, stored, matched⟩ := holds.documents snapshot member
    exact ⟨document, documents document stored, matched⟩
  · intro snapshot member
    rw [snapshots] at member
    obtain ⟨record, stored, matched⟩ := holds.passed snapshot member
    exact ⟨record, readiness record stored, matched⟩

theorem latestDocument_some {tenantId packageId : Uuid} {document : GeneratedTechnicalDocumentRecord}
    (newest : store.latestDocument tenantId packageId = some document) :
    document ∈ store.documents ∧ document.tenantId = tenantId := by
  obtain ⟨member, query⟩ := Table.latest_mem newest
  simp only [decide_eq_true_eq] at query
  exact ⟨member, query.1⟩

theorem Effect.invariant {command : Command} (effect : Effect store next context command)
    (accepted : Accepted store command context) (relied : FromLatest store (.command command context))
    (holds : Invariant store) : Invariant next := by
  cases effect with
  | evaluated record inserted _ documents _ snapshots =>
    refine holds.grow (by simp [documents]) (fun old stored => ?_) snapshots
    exact (Table.mem_insert? inserted).mpr (.inl stored)
  | generated pending _ _ inserted _ readiness _ snapshots =>
    refine holds.grow (fun old stored => ?_) (by simp [readiness]) snapshots
    exact (Table.mem_insert? inserted).mpr (.inl stored)
  | drafted pending _ _ _ _ readiness documents snapshots =>
    exact holds.grow (by simp [documents]) (by simp [readiness]) snapshots
  | snapshotted record readiness document latest unblocked newest inserted tenant package named frozen _
      evaluations documents =>
    obtain ⟨stored, readinessTenant, readinessPackage⟩ := latestReadiness_some latest
    obtain ⟨present, documentTenant⟩ := latestDocument_some newest
    have fromIt := relied accepted readiness document latest newest
    constructor
    · intro snapshot member
      rw [documents]
      rcases (Table.mem_insert? inserted).mp member with old | rfl
      · exact holds.documents snapshot old
      · exact ⟨document, present, documentTenant.trans tenant.symm, frozen.symm, fromIt.trans named.symm⟩
    · intro snapshot member
      rw [evaluations]
      rcases (Table.mem_insert? inserted).mp member with old | rfl
      · exact holds.passed snapshot old
      · exact ⟨readiness, stored, named.symm, readinessTenant.trans tenant.symm,
          readinessPackage.trans package.symm, unblocked⟩
  | kept kept _ =>
    exact holds.grow (by simp [kept.documents]) (by simp [kept.readiness]) kept.snapshots

theorem advance_invariant {input : Input} (relied : FromLatest store input) (holds : Invariant store) :
    Invariant (advance store input) := by
  cases input with
  | foreign sources => exact ⟨holds.documents, holds.passed⟩
  | interrupted command context => exact ⟨holds.documents, holds.passed⟩
  | command command context =>
    rcases advance_command store command context with ⟨outcome, executed⟩ | unchanged
    · exact (execute_effect executed).invariant (accepted_of_ok executed) relied holds
    · rw [unchanged]
      exact ⟨holds.documents, holds.passed⟩

theorem generate_advances {command : GenerateTechnicalDocumentCommand}
    (relied : FromLatest store (.command (.generate command) context))
    (accepted : Accepted store (.generate command) context) :
    Unblocked store context.tenantId command.packageId := by
  obtain ⟨_, _, executed⟩ := accepted_ok accepted
  obtain ⟨pending, _, _, checked, _⟩ := generate_ok executed
  obtain ⟨_, _, found, _, named, passed, _⟩ := pendingDocument_ok checked
  obtain ⟨member, tenant, package, revision⟩ := readinessAt_some named
  have samePackage := package.trans (package_some found).2.2
  refine unblocked_of_latest member tenant samePackage passed fun latest looked => ?_
  refine (relied accepted latest looked).imp_left fun same => .inr ?_
  obtain ⟨_, latestTenant, latestPackage⟩ := latestReadiness_some looked
  show (latest.tenantId, latest.packageId, latest.revision) =
    (pending.readiness.tenantId, pending.readiness.packageId, pending.readiness.revision)
  rw [latestTenant, latestPackage, tenant, samePackage, revision, same]

theorem createSnapshot_advances {command : CreatePreparationSnapshotCommand}
    (accepted : Accepted store (.createSnapshot command) context) :
    Unblocked store context.tenantId command.packageId := by
  obtain ⟨_, _, executed⟩ := accepted_ok accepted
  obtain ⟨package, readiness, _, _, _, loaded, latest, unblocked, _⟩ := createSnapshot_ok executed
  rw [(package_some (transmittedPackage_ok loaded)).2.2] at latest
  exact ⟨readiness, latest, unblocked⟩

theorem transmitSnapshot_advances {command : TransmitPreparationSnapshotCommand} (holds : Invariant store)
    (relied : FromLatest store (.command (.transmitSnapshot command) context))
    (accepted : Accepted store (.transmitSnapshot command) context) :
    Unblocked store context.tenantId command.packageId := by
  obtain ⟨_, _, executed⟩ := accepted_ok accepted
  obtain ⟨package, snapshot, _, _, loaded, found, _⟩ := transmitSnapshot_ok executed
  rw [(package_some (transmittedPackage_ok loaded)).2.2] at found
  have query := Table.find?_query found
  simp only [decide_eq_true_eq] at query
  obtain ⟨named, member, same, tenant, ofPackage, passed⟩ := holds.passed snapshot (Table.find?_mem found)
  refine unblocked_of_latest member (tenant.trans query.1) (ofPackage.trans query.2.2) passed
    fun latest looked => ?_
  exact (relied accepted latest snapshot looked found).imp_left fun recorded => .inl (recorded.symm.trans same.symm)

theorem advances_of_fromLatest {input : Input} (holds : Invariant store) (relied : FromLatest store input) :
    Advances store input := by
  cases input with
  | foreign sources => exact True.intro
  | interrupted command context => exact True.intro
  | command command context =>
    intro packageId advanced accepted
    cases command with
    | generate command => cases advanced; exact generate_advances relied accepted
    | createSnapshot command => cases advanced; exact createSnapshot_advances accepted
    | transmitSnapshot command => cases advanced; exact transmitSnapshot_advances holds relied accepted
    | _ => cases advanced

theorem unblocked_latest {tenantId packageId : Uuid} {latest : PreparationReadinessRecord}
    (unblocked : Unblocked store tenantId packageId)
    (looked : store.latestReadiness tenantId packageId = some latest) : latest.state ≠ .blocked := by
  obtain ⟨found, same, passed⟩ := unblocked
  rw [looked] at same
  cases same
  exact passed

theorem fromLatest_of_advances {input : Input} (advances : Advances store input)
    (documents : DocumentsMatch (advance store input)) : FromLatest store input := by
  cases input with
  | foreign sources => exact True.intro
  | interrupted command context => exact True.intro
  | command command context =>
    cases command with
    | generate command =>
      intro accepted latest looked
      exact .inr (unblocked_latest (advances _ rfl accepted) looked)
    | transmitSnapshot command =>
      intro accepted latest _ looked _
      exact .inr (unblocked_latest (advances _ rfl accepted) looked)
    | createSnapshot command =>
      intro accepted latest document looked newest
      obtain ⟨next, outcome, executed⟩ := accepted_ok accepted
      have reached : advance store (.command (.createSnapshot command) context) = next := by
        simp [advance, executed]
      rw [reached] at documents
      cases execute_effect executed with
      | kept kept _ =>
        obtain ⟨_, _, _, _, _, _, _, _, _, inserted, same⟩ := createSnapshot_ok executed
        have grown := Table.insert?_rows inserted
        rw [same] at kept
        have lengths := congrArg (fun table => table.rows.length) kept.snapshots
        simp [grown] at lengths
      | snapshotted record readiness newestDocument found _ newestFound inserted tenant _ named frozen _ _ kept =>
        rw [looked] at found
        rw [newest] at newestFound
        cases found
        cases newestFound
        obtain ⟨other, stored, _, same, matched⟩ :=
          documents record ((Table.mem_insert? inserted).mpr (.inr rfl))
        rw [kept] at stored
        have one : other = document := Table.eq_of_conflict stored (latestDocument_some newest).1
          (.inl (same.trans frozen))
        rw [← one, matched, named]
    | _ => exact True.intro

theorem run_invariant_fromLatest {inputs : List Input} (along : Along step FromLatest .empty inputs) :
    Invariant (run step .empty inputs) :=
  run_invariant (fun _ _ _ holds relied accepted => by
    cases accepted
    exact advance_invariant relied holds) Invariant.empty along

/-- A run generates, freezes and transmits from evaluations that are not BLOCKED exactly when its
    accepted commands rely on the latest one. -/
theorem runAdvances_iff_fromLatest (inputs : List Input) :
    RunAdvances inputs ↔ Along step FromLatest .empty inputs := by
  constructor
  · rintro ⟨advances, documents⟩
    rw [along_iff_each] at advances ⊢
    intro first input before
    have after := documents _ before
    rw [run_append] at after
    exact fromLatest_of_advances (advances first input before) after
  · intro along
    refine ⟨?_, fun first before => (run_invariant_fromLatest (along.initial before)).documents⟩
    rw [along_iff_each]
    intro first input before
    have holds := run_invariant_fromLatest (along.initial ((List.prefix_append _ _).trans before))
    exact advances_of_fromLatest holds (along_iff_each.mp along first input before)

section StaleReadiness

def preparer : CommandContext := ⟨1, 2, .collaborateur, 100, some 3, some 4⟩

def preparationTask (state : TaskState) : CollaboratorTaskRecord :=
  ⟨9, 1, 4, 7, 6, .siteVisit, "Visite", "Visiter le site", .normal, state, "key", none, 0, none, none⟩

/-- Case 4 with version 5 ready, assigned to membership 3, with one task. -/
def preparationSources (state : TaskState) : Sources := { Sources.empty with
  cases := .singleton ⟨4, 1, .active, "scope", some 5, 0⟩
  dce := { DceStore.empty with versions := .singleton ⟨5, 1, 8, "corpus", none, .admitted, .verified, .classified, .readyForAnalysis, 1⟩ }
  assignments := .singleton ⟨7, 1, 3, 4, .active, 0, none, [.workTaskWrite], [.internalOperational], 0, 9, 0, none⟩
  tasks := .singleton (preparationTask state) }

/-- The first evaluation passes and the second blocks; the document is generated from the first. After a
    third one passes, a review request lets a snapshot record it with that document; a fourth one blocks
    and the snapshot is transmitted. -/
def staleRun : List Input := [
  .foreign (preparationSources .completed),
  .command (.evaluate ⟨⟨20, 20, none⟩, 10, 4, 7, 5, 0⟩) preparer,
  .foreign (preparationSources .blocked),
  .command (.evaluate ⟨⟨21, 21, none⟩, 10, 4, 7, 5, 1⟩) preparer,
  .command (.generate ⟨⟨22, 22, none⟩, 10, 30, 2, 1, .technicalResponse⟩) preparer,
  .foreign (preparationSources .completed),
  .command (.evaluate ⟨⟨23, 23, none⟩, 10, 4, 7, 5, 3⟩) preparer,
  .command (.requestReview ⟨⟨24, 24, none⟩, 31, 10, 30, 1, 4⟩) preparer,
  .command (.createSnapshot ⟨⟨25, 25, none⟩, 10, 32, 5⟩) preparer,
  .foreign (preparationSources .blocked),
  .command (.evaluate ⟨⟨26, 26, none⟩, 10, 4, 7, 5, 6⟩) preparer,
  .command (.transmitSnapshot ⟨⟨27, 27, none⟩, 10, 32, 33, 7⟩) preparer]

theorem not_unblocked {state : Store} {tenantId packageId : Uuid}
    (blocked : (state.latestReadiness tenantId packageId).map (·.state) = some .blocked) :
    ¬ Unblocked state tenantId packageId := by
  rintro ⟨readiness, latest, passed⟩
  rw [latest, Option.map_some, Option.some.injEq] at blocked
  exact passed blocked

theorem staleRun_advances_blocked :
    ¬ Advances (run step .empty (staleRun.take 4))
      (.command (.generate ⟨⟨22, 22, none⟩, 10, 30, 2, 1, .technicalResponse⟩) preparer) ∧
    ¬ DocumentsMatch (run step .empty (staleRun.take 9)) ∧
    ¬ Advances (run step .empty (staleRun.take 11))
      (.command (.transmitSnapshot ⟨⟨27, 27, none⟩, 10, 32, 33, 7⟩) preparer) ∧
    ¬ RunAdvances staleRun := by
  have evaluated :
      (((run step .empty (staleRun.take 4)).latestReadiness 1 10).map (·.state) = some .blocked ∧
        (execute (run step .empty (staleRun.take 4))
          (.generate ⟨⟨22, 22, none⟩, 10, 30, 2, 1, .technicalResponse⟩) preparer).isOk = true) ∧
      (((run step .empty (staleRun.take 11)).latestReadiness 1 10).map (·.state) = some .blocked ∧
        (execute (run step .empty (staleRun.take 11))
          (.transmitSnapshot ⟨⟨27, 27, none⟩, 10, 32, 33, 7⟩) preparer).isOk = true) ∧
      ¬ ∀ snapshot ∈ (run step .empty (staleRun.take 9)).snapshots,
        ∃ document ∈ (run step .empty (staleRun.take 9)).documents,
          document.tenantId = snapshot.tenantId ∧ document.id = snapshot.technicalDocumentId ∧
            document.readinessId = snapshot.readinessId := by decide +kernel
  obtain ⟨⟨early, generated⟩, ⟨late, transmitted⟩, frozen⟩ := evaluated
  exact ⟨fun advances => not_unblocked early (advances 10 rfl generated), frozen,
    fun advances => not_unblocked late (advances 10 rfl transmitted),
    fun holds => frozen (holds.documents _ ⟨_, List.take_append_drop 9 _⟩)⟩

end StaleReadiness

end SmartAo.Preparation
