import SmartAo.Dce.ClassificationRun
import SmartAo.Foundation.Transition

namespace SmartAo.Dce

open SmartAo.Foundation SmartAo.Platform

/-- A registration of a version with its documents, another write of it, what extractions leave of their
    tables, or a recording. -/
inductive ClassificationInput where
  | register (version : DceVersionRecord) (documents : List DceDocumentRecord)
  | write (versionId : Uuid) (write : VersionWrite)
  | extract (sources : SourceStore)
  | record (draws : ClassificationDraws) (command : RecordDceDocumentClassificationRunCommand)
      (context : CommandContext)

def ClassificationStore.empty : ClassificationStore where
  versions := .empty
  documents := .empty
  stagedObjects := .empty
  sources := .empty
  classifications := .empty
  classificationRuns := .empty
  classificationResults := .empty
  classificationEvidence := .empty

def classificationStep (unicode : Unicode) (store : ClassificationStore) :
    ClassificationInput → Transaction ClassificationStore
  | .register version documents => do
    raiseIf (documents = []) (.failed "documents")
    let versions ← flush (store.versions.insert? { version with classificationReadiness := .unclassified })
    let documents ← flush (store.documents.insertAll? (documents.map fun document =>
      { document with tenantId := version.tenantId, dceVersionId := version.id }))
    return { store with versions, documents }
  | .write versionId write => do
    let versions := store.versions.update (fun row => row.id = versionId) write.apply write.apply_columns
    return { store with versions }
  | .extract sources => return { store with sources }
  | .record draws command context => do
    let command ← orRaise command.build.toOption (.failed "validation")
    let (next, _) ← recordDceDocumentClassificationRun unicode store draws command context
    return next

/-- A document has a current family. -/
def CurrentIn (tenantId : Uuid) (table : Table DceDocumentClassificationRecord) (dceDocumentId : Uuid) : Prop :=
  ∃ row ∈ table, row.tenantId = tenantId ∧ row.dceDocumentId = dceDocumentId ∧ row.isCurrent = true

instance {tenantId : Uuid} {table : Table DceDocumentClassificationRecord} {dceDocumentId : Uuid} :
    Decidable (CurrentIn tenantId table dceDocumentId) := inferInstanceAs (Decidable (∃ row ∈ table, _))

namespace ClassificationStore

variable (store : ClassificationStore) (tenantId : Uuid)

def HasCurrent (dceDocumentId : Uuid) : Prop := CurrentIn tenantId store.classifications dceDocumentId

instance (dceDocumentId : Uuid) : Decidable (store.HasCurrent tenantId dceDocumentId) :=
  inferInstanceAs (Decidable (CurrentIn tenantId store.classifications dceDocumentId))

def latestRun (dceVersionId : Uuid) : Option DceDocumentClassificationRunRecord :=
  (store.classificationRuns.rows.filter fun row => row.tenantId = tenantId ∧ row.dceVersionId = dceVersionId).getLast?

/-- The last recorded run of a version classified a document. -/
def LatestClassified (dceVersionId dceDocumentId : Uuid) : Prop :=
  ∃ run ∈ store.latestRun tenantId dceVersionId, ∃ result ∈ store.classificationResults,
    result.classificationRunId = run.id ∧ result.dceDocumentId = dceDocumentId ∧ result.status = .classified

/-- The readiness the current families of the documents of a version amount to. -/
def currentReadiness (dceVersionId : Uuid) : ClassificationReadiness :=
  let documentIds := store.documentIds tenantId dceVersionId
  let classifiedCount := documentIds.countP fun dceDocumentId => store.HasCurrent tenantId dceDocumentId
  if classifiedCount = 0 then .unclassified
  else if classifiedCount = documentIds.length then .classified
  else .partiallyClassified

/-- The readiness of a version is that of its current families, and these are the families its last run
    recorded. -/
def VersionAgrees (version : DceVersionRecord) : Prop :=
  version.classificationReadiness = store.currentReadiness version.tenantId version.id ∧
    ∀ dceDocumentId ∈ store.documentIds version.tenantId version.id,
      store.HasCurrent version.tenantId dceDocumentId ↔
        store.LatestClassified version.tenantId version.id dceDocumentId

def ReadinessAgrees : Prop := ∀ version ∈ store.versions, store.VersionAgrees version

/-- What foreign keys keep: documents and runs have their version, families their document and results their
    run. -/
structure Referenced : Prop where
  documents : ∀ document ∈ store.documents, ∃ version ∈ store.versions, version.id = document.dceVersionId ∧
    version.tenantId = document.tenantId
  classifications : ∀ row ∈ store.classifications, ∃ document ∈ store.documents, document.id = row.dceDocumentId
  runs : ∀ run ∈ store.classificationRuns, ∃ version ∈ store.versions, version.id = run.dceVersionId
  results : ∀ result ∈ store.classificationResults, ∃ run ∈ store.classificationRuns,
    run.id = result.classificationRunId

end ClassificationStore

section Families

variable {tenantId : Uuid} {draws : ClassificationDraws} {currents : List DceDocumentClassificationRecord}
  {table middle next : Table DceDocumentClassificationRecord} {dceDocumentId : Uuid} {family : DocumentFamily}
  {id : Uuid}

/-- What a recording does to the families: only touched documents change, and of these the classified ones
    have a current family afterwards. -/
structure Reclassifies (tenantId : Uuid) (table next : Table DceDocumentClassificationRecord)
    (touched classified : Uuid → Prop) : Prop where
  within : ∀ other, classified other → touched other
  others : ∀ tenant other, ¬ touched other → (CurrentIn tenant next other ↔ CurrentIn tenant table other)
  current : ∀ other, touched other → (CurrentIn tenantId next other ↔ CurrentIn tenantId table other ∨ classified other)
  kept : ∀ row ∈ table, ¬ touched row.dceDocumentId → row ∈ next
  rows : ∀ row ∈ next, (∃ old ∈ table, old.dceDocumentId = row.dceDocumentId) ∨ touched row.dceDocumentId

theorem Reclassifies.nothing (touched : Uuid → Prop) : Reclassifies tenantId table table touched fun _ => False where
  within _ never := never.elim
  others _ _ _ := Iff.rfl
  current _ _ := (or_iff_left id).symm
  kept _ member _ := member
  rows row member := .inl ⟨row, member, rfl⟩

theorem Reclassifies.append {touched classified touched' classified' : Uuid → Prop}
    (first : Reclassifies tenantId table middle touched classified)
    (second : Reclassifies tenantId middle next touched' classified')
    (apart : ∀ other, touched other → ¬ touched' other) :
    Reclassifies tenantId table next (fun other => touched other ∨ touched' other)
      fun other => classified other ∨ classified' other where
  within other := Or.imp (first.within other) (second.within other)
  others tenant other outside := by
    rw [not_or] at outside
    rw [second.others tenant other outside.2, first.others tenant other outside.1]
  current other inside := by
    by_cases here : touched other
    · have later := apart other here
      have none : ¬ classified' other := fun classified => later (second.within other classified)
      rw [second.others tenantId other later, first.current other here, or_iff_left none]
    · have later := inside.resolve_left here
      have none : ¬ classified other := fun classified => here (first.within other classified)
      rw [second.current other later, first.others tenantId other here, or_iff_right none]
  kept row member outside := by
    rw [not_or] at outside
    exact second.kept row (first.kept row member outside.1) outside.2
  rows row member := by
    rcases second.rows row member with ⟨old, stored, same⟩ | touched
    · rcases first.rows old stored with ⟨older, present, equal⟩ | touched
      · exact .inl ⟨older, present, equal.trans same⟩
      · exact .inr (.inl (same ▸ touched))
    · exact .inr (.inr touched)

/-- The current families of a document before a recording are still stored, and still current. -/
def Kept (tenantId : Uuid) (currents : List DceDocumentClassificationRecord)
    (table : Table DceDocumentClassificationRecord) (dceDocumentId : Uuid) : Prop :=
  ∀ current ∈ currents, current.dceDocumentId = dceDocumentId →
    current ∈ table ∧ current.tenantId = tenantId ∧ current.isCurrent = true

theorem insert_reclassifies {row : DceDocumentClassificationRecord} (inserted : table.insert? row = some next)
    (tenant : row.tenantId = tenantId) (named : row.dceDocumentId = dceDocumentId) (isCurrent : row.isCurrent = true) :
    Reclassifies tenantId table next (· = dceDocumentId) (· = dceDocumentId) where
  within _ touched := touched
  others tenant other different := by
    constructor
    · rintro ⟨stored, member, holds⟩
      rcases (Table.mem_insert? inserted).mp member with old | rfl
      · exact ⟨stored, old, holds⟩
      · exact absurd (holds.2.1.symm.trans named) different
    · rintro ⟨stored, member, holds⟩
      exact ⟨stored, (Table.mem_insert? inserted).mpr (.inl member), holds⟩
  current other same := by
    refine iff_of_true ⟨row, (Table.mem_insert? inserted).mpr (.inr rfl), tenant, ?_, isCurrent⟩ (.inr same)
    rw [named, same]
  kept row member _ := (Table.mem_insert? inserted).mpr (.inl member)
  rows other member := by
    rcases (Table.mem_insert? inserted).mp member with old | rfl
    · exact .inl ⟨other, old, rfl⟩
    · exact .inr named

/-- Retiring the current family of a document leaves the rows of the others. -/
theorem mem_retire {current row : DceDocumentClassificationRecord} (stored : current ∈ table) (member : row ∈ table)
    (different : row.dceDocumentId ≠ current.dceDocumentId) :
    row ∈ table.update (fun row => row.id = current.id) retired retired_columns := by
  refine Table.mem_update_of_not member (decide_eq_false fun sameId => different ?_)
  rw [Table.eq_of_conflict member stored sameId]

theorem replace_reclassifies {current row : DceDocumentClassificationRecord} (stored : current ∈ table)
    (replaced : current.dceDocumentId = dceDocumentId)
    (inserted : (table.update (fun row => row.id = current.id) retired retired_columns).insert? row = some next)
    (tenant : row.tenantId = tenantId) (named : row.dceDocumentId = dceDocumentId) (isCurrent : row.isCurrent = true) :
    Reclassifies tenantId table next (· = dceDocumentId) (· = dceDocumentId) := by
  have added := insert_reclassifies inserted tenant named isCurrent
  refine ⟨added.within, fun tenant other different => ?_, fun other same => ?_, fun old member different => ?_,
    fun other member => ?_⟩
  · rw [added.others tenant other different]
    constructor
    · rintro ⟨old, updated, tenant, named, isCurrent⟩
      rcases Table.mem_update_cases updated with ⟨old', _⟩ | ⟨_, _, _, rfl⟩
      · exact ⟨old, old', tenant, named, isCurrent⟩
      · cases isCurrent
    · rintro ⟨old, member, holds⟩
      have apart : old.dceDocumentId ≠ current.dceDocumentId :=
        fun same => different (holds.2.1.symm.trans (same.trans replaced))
      exact ⟨old, mem_retire stored member apart, holds⟩
  · exact iff_of_true ((added.current other same).mpr (.inr same)) (.inr same)
  · have apart : old.dceDocumentId ≠ current.dceDocumentId := fun same => different (same.trans replaced)
    exact added.kept old (mem_retire stored member apart) different
  · rcases added.rows other member with ⟨old, updated, same⟩ | same
    · rcases Table.mem_update_cases updated with ⟨old', _⟩ | ⟨older, present, _, rfl⟩
      · exact .inl ⟨old, old', same⟩
      · exact .inl ⟨older, present, same⟩
    · exact .inr same

theorem classifyCurrent_reclassifies (kept : Kept tenantId currents table dceDocumentId)
    (classified : classifyCurrent tenantId draws currents table dceDocumentId family = .ok (next, id)) :
    Reclassifies tenantId table next (· = dceDocumentId) (· = dceDocumentId) := by
  unfold classifyCurrent at classified
  cases found : currents.find? fun current => current.dceDocumentId = dceDocumentId with
  | none =>
    simp only [found, bind_ok, flush, orRaise_ok, pure_ok, Prod.mk.injEq] at classified
    obtain ⟨_, inserted, rfl, rfl⟩ := classified
    exact insert_reclassifies inserted rfl rfl rfl
  | some current =>
    have named : current.dceDocumentId = dceDocumentId := by
      have query := List.find?_some found
      rwa [decide_eq_true_eq] at query
    obtain ⟨stored, tenant, isCurrent⟩ := kept current (List.mem_of_find?_eq_some found) named
    rw [found] at classified
    by_cases same : current.classification = family
    · simp only [same, if_true, pure_ok, Prod.mk.injEq] at classified
      obtain ⟨rfl, rfl⟩ := classified
      have unchanged : Reclassifies tenantId table table (· = dceDocumentId) fun _ => False := .nothing _
      refine ⟨fun _ touched => touched, unchanged.others, fun other same => ?_, unchanged.kept, unchanged.rows⟩
      exact iff_of_true ⟨current, stored, tenant, named.trans same.symm, isCurrent⟩ (.inr same)
    · simp only [same, if_false, bind_ok, flush, orRaise_ok, pure_ok, Prod.mk.injEq] at classified
      obtain ⟨_, inserted, rfl, rfl⟩ := classified
      exact replace_reclassifies stored named inserted rfl rfl rfl

/-- A result classifies a document. -/
def Classifies (results : List DceDocumentClassificationResultInput) (dceDocumentId : Uuid) : Prop :=
  ∃ result ∈ results, result.dceDocumentId = dceDocumentId ∧ result.status = .classified

instance {results : List DceDocumentClassificationResultInput} : Decidable (Classifies results dceDocumentId) :=
  inferInstanceAs (Decidable (∃ result ∈ results, _))

theorem classifies_nil : Classifies [] = fun _ => False := by
  funext other
  simp [Classifies]

theorem classifies_cons {result : DceDocumentClassificationResultInput}
    {results : List DceDocumentClassificationResultInput} : Classifies (result :: results) = fun other =>
      (other = result.dceDocumentId ∧ result.status = .classified) ∨ Classifies results other := by
  funext other
  simp only [Classifies, List.mem_cons, exists_eq_or_imp, eq_comm (a := result.dceDocumentId)]

/-- The results of a command name each document once, and give a family to those they classify. -/
structure Given (results : List DceDocumentClassificationResultInput) : Prop where
  distinct : (results.map (·.dceDocumentId)).Nodup
  family : ∀ result ∈ results, result.status = .classified → result.classification ≠ none

theorem classifyResult_reclassifies {result : DceDocumentClassificationResultInput} {found : Option Uuid}
    (family : result.status = .classified → result.classification ≠ none)
    (kept : Kept tenantId currents table result.dceDocumentId)
    (classified : classifyResult tenantId draws currents table result = .ok (next, found)) :
    Reclassifies tenantId table next (· = result.dceDocumentId)
      fun other => other = result.dceDocumentId ∧ result.status = .classified := by
  unfold classifyResult at classified
  split at classified
  · rename_i status given
    simp only [bind_ok, pure_ok, Prod.mk.injEq] at classified
    obtain ⟨⟨middle, id⟩, current, rfl, _⟩ := classified
    have step := classifyCurrent_reclassifies kept current
    simp only [status, and_true]
    exact step
  · rename_i neither
    rw [pure_ok, Prod.mk.injEq] at classified
    obtain ⟨rfl, _⟩ := classified
    have unclassified : result.status ≠ .classified := by
      intro status
      obtain ⟨given, some⟩ := Option.ne_none_iff_exists'.mp (family status)
      exact neither given status some
    simp only [unclassified, and_false]
    exact .nothing _

/-- After a recording, the documents with a current family are those that had one and those it classified. -/
theorem classifyResults_reclassifies {results : List DceDocumentClassificationResultInput}
    {found : List (Option Uuid)} (given : Given results)
    (kept : ∀ result ∈ results, Kept tenantId currents table result.dceDocumentId)
    (classified : classifyResults tenantId draws currents table results = .ok (next, found)) :
    Reclassifies tenantId table next (fun other => ∃ result ∈ results, result.dceDocumentId = other)
      (Classifies results) ∧ found.length = results.length := by
  induction results generalizing table found with
  | nil =>
    rw [classifyResults, pure_ok, Prod.mk.injEq] at classified
    obtain ⟨rfl, rfl⟩ := classified
    rw [classifies_nil]
    exact ⟨.nothing _, rfl⟩
  | cons result results ih =>
    simp only [classifyResults, bind_ok, pure_ok, Prod.mk.injEq, Prod.exists] at classified
    obtain ⟨middle, id, first, final, ids, rest, rfl, rfl⟩ := classified
    obtain ⟨apart, distinct⟩ := List.nodup_cons.mp given.distinct
    obtain ⟨family, families⟩ := List.forall_mem_cons.mp given.family
    obtain ⟨here, others⟩ := List.forall_mem_cons.mp kept
    have step := classifyResult_reclassifies family here first
    have different : ∀ other ∈ results, other.dceDocumentId ≠ result.dceDocumentId := by
      intro other member same
      refine apart ?_
      show result.dceDocumentId ∈ results.map (·.dceDocumentId)
      rw [← same]
      exact List.mem_map_of_mem member
    have later : ∀ other ∈ results, Kept tenantId currents middle other.dceDocumentId := by
      intro other member current listed named
      obtain ⟨stored, holds⟩ := others other member current listed named
      refine ⟨step.kept current stored ?_, holds⟩
      rw [named]
      exact different other member
    obtain ⟨steps, length⟩ := ih ⟨distinct, families⟩ later rest
    refine ⟨?_, by rw [List.length_cons, length, List.length_cons]⟩
    have untouched : ∀ other, other = result.dceDocumentId → ¬ ∃ touched ∈ results, touched.dceDocumentId = other := by
      rintro other same ⟨touched, member, equal⟩
      exact different touched member (equal.trans same)
    have both := step.append steps untouched
    simp only [classifies_cons, List.mem_cons, exists_eq_or_imp, eq_comm (a := result.dceDocumentId)]
    exact both

end Families

section Recording

variable {unicode : Unicode} {store next : ClassificationStore} {draws : ClassificationDraws}
  {command : RecordDceDocumentClassificationRunCommand} {context : CommandContext} {outcome : HandlerOutcome}

theorem build_valid {built : RecordDceDocumentClassificationRunCommand} (valid : command.build = .ok built) :
    command = built ∧ (command.results.map (·.dceDocumentId)).Nodup ∧
      (command.status ≠ .completed → command.results = []) := by
  simp only [RecordDceDocumentClassificationRunCommand.build,
    RecordDceDocumentClassificationRunCommand.validateTerminalProjection, bind_ok, raiseIf_ok, exists_unit, pure_ok,
    not_not] at valid
  obtain ⟨_, _, _, _, _, ⟨distinct, terminal⟩, same⟩ := valid
  refine ⟨same, distinct, fun failed => ?_⟩
  rw [if_neg failed, raiseIf_ok, not_or, not_not] at terminal
  exact terminal.2

theorem checkResults_ok {documents : List ClassificationDocument}
    {pairs : List (DceDocumentClassificationResultInput × ClassificationResult)}
    (checked : checkResults documents pairs = .ok ()) : ∀ pair ∈ pairs,
      pair.1.dceDocumentId = pair.2.dceDocumentId ∧ pair.1.status = pair.2.status ∧
      pair.1.classification = pair.2.classification := by
  induction pairs with
  | nil => exact fun _ member => absurd member List.not_mem_nil
  | cons pair pairs ih =>
    obtain ⟨received, expected⟩ := pair
    simp only [checkResults, bind_ok, raiseIf_ok, exists_unit, not_or, not_not] at checked
    obtain ⟨⟨document, status, classification, _⟩, _, rest⟩ := checked
    exact List.forall_mem_cons.mpr ⟨⟨document, status, classification⟩, ih rest⟩

theorem classifyDocument_family (unicode : Unicode) (document : ClassificationDocument) :
    (classifyDocument unicode document).dceDocumentId = document.dceDocumentId ∧
      ((classifyDocument unicode document).status = .classified →
        (classifyDocument unicode document).classification ≠ none) := by
  unfold classifyDocument
  split
  · exact ⟨rfl, fun absurd => by cases absurd⟩
  · dsimp only
    split
    · exact ⟨rfl, fun absurd => by cases absurd⟩
    · split
      · exact ⟨rfl, fun _ => Option.some_ne_none _⟩
      · exact ⟨rfl, fun absurd => by cases absurd⟩

theorem map_eq_of_zip {α β γ : Type} {key : α → γ} {other : β → γ} {xs : List α} {ys : List β}
    (length : xs.length = ys.length) (same : ∀ pair ∈ xs.zip ys, key pair.1 = other pair.2) :
    xs.map key = ys.map other := by
  induction xs generalizing ys with
  | nil =>
    rw [List.eq_nil_of_length_eq_zero length.symm]
    rfl
  | cons x xs ih =>
    cases ys with
    | nil => cases length
    | cons y ys =>
      obtain ⟨first, rest⟩ := List.forall_mem_cons.mp same
      rw [List.map_cons, List.map_cons, first, ih (Nat.succ.inj length) rest]

theorem mem_documentIds {tenantId dceVersionId dceDocumentId : Uuid} :
    dceDocumentId ∈ store.documentIds tenantId dceVersionId ↔ ∃ document ∈ store.documents,
      document.tenantId = tenantId ∧ document.dceVersionId = dceVersionId ∧ document.id = dceDocumentId := by
  have sorted : dceDocumentId ∈ store.documentIds tenantId dceVersionId ↔ dceDocumentId ∈
      (store.documents.rows.filter fun row => row.tenantId = tenantId ∧ row.dceVersionId = dceVersionId).map (·.id) :=
    (List.perm_insertionSort _ _).mem_iff
  rw [sorted, List.mem_map]
  simp only [List.mem_filter, decide_eq_true_eq, Table.mem_rows, and_assoc]

/-- The results of an accepted recording: none, or one for each document of the version. -/
structure RecordedResults (store : ClassificationStore) (tenantId dceVersionId : Uuid)
    (results : List DceDocumentClassificationResultInput) : Prop where
  given : Given results
  documents : results = [] ∨ results.map (·.dceDocumentId) = store.documentIds tenantId dceVersionId

theorem validated_covers (valid : command.build = .ok command) {documents : List ClassificationDocument}
    (loaded : documents = store.classificationDocuments context.tenantId command.dceVersionId)
    (checked : validateClassificationCommand command (projectDceClassification unicode documents) = .ok ()) :
    RecordedResults store context.tenantId command.dceVersionId command.results := by
  obtain ⟨_, distinct, terminal⟩ := build_valid valid
  by_cases completed : command.status = .completed
  · simp only [validateClassificationCommand, bind_ok, raiseIf_ok, exists_unit, completed, if_true, not_or,
      not_not] at checked
    obtain ⟨⟨status, _⟩, length, results⟩ := checked
    have pairs := checkResults_ok results
    have projected : (projectDceClassification unicode documents).results = documents.map (classifyDocument unicode) := by
      unfold projectDceClassification at status ⊢
      split
      · rename_i limited
        rw [if_pos limited] at status
        cases status
      · rfl
    refine ⟨⟨distinct, fun result member status => ?_⟩, .inr ?_⟩
    · have shapes : command.results.map (fun result => (result.status, result.classification)) =
          (projectDceClassification unicode documents).results.map fun result =>
            (result.status, result.classification) :=
        map_eq_of_zip length fun pair member => Prod.ext (pairs pair member).2.1 (pairs pair member).2.2
      have shape := List.mem_map_of_mem (f := fun result => (result.status, result.classification)) member
      rw [shapes, projected] at shape
      obtain ⟨expected, listed, same⟩ := List.mem_map.mp shape
      obtain ⟨document, _, rfl⟩ := List.mem_map.mp listed
      obtain ⟨sameStatus, sameFamily⟩ := Prod.mk.inj same
      rw [← sameFamily]
      exact (classifyDocument_family unicode document).2 (sameStatus.trans status)
    · have ids : (store.documentIds context.tenantId command.dceVersionId).map (fun id =>
          (classifyDocument unicode (store.classificationDocument context.tenantId id)).dceDocumentId) =
          store.documentIds context.tenantId command.dceVersionId := by
        have each (id : Uuid) : (classifyDocument unicode
            (store.classificationDocument context.tenantId id)).dceDocumentId = id :=
          (classifyDocument_family unicode _).1
        simp only [each, List.map_id']
      rw [map_eq_of_zip length fun pair member => (pairs pair member).1, projected, List.map_map, loaded,
        ClassificationStore.classificationDocuments, List.map_map]
      exact ids
  · rw [terminal completed]
    exact ⟨⟨List.nodup_nil, fun _ member => absurd member List.not_mem_nil⟩, .inl rfl⟩

/-- What an accepted recording of a new run writes. -/
structure WritesRun (store next : ClassificationStore) (draws : ClassificationDraws)
    (command : RecordDceDocumentClassificationRunCommand) (tenantId : Uuid) (found : List (Option Uuid)) : Prop where
  runs : store.classificationRuns.insert? (command.runRecord tenantId) = some next.classificationRuns
  families : classifyResults tenantId draws (store.currents tenantId (store.documentIds tenantId command.dceVersionId))
    store.classifications command.results = .ok (next.classifications, found)
  results : store.classificationResults.insertAll? ((command.results.zip found).map fun (result, id) =>
    command.resultRecord tenantId draws result id) = some next.classificationResults
  versions : next.versions = store.versions.update (fun row => row.id = command.dceVersionId)
    (reclassified (classificationReadiness command.results)) (reclassified_columns _)
  documents : next.documents = store.documents

theorem writeClassificationRun_ok {tenantId : Uuid}
    (written : writeClassificationRun store draws command tenantId = .ok next) :
    ∃ found, WritesRun store next draws command tenantId found := by
  simp only [writeClassificationRun, bind_ok, flush, orRaise_ok, pure_ok, Prod.exists] at written
  obtain ⟨runs, inserted, families, found, classified, results, added, _, _, _, _, rfl⟩ := written
  exact ⟨found, inserted, classified, added, rfl, rfl⟩

/-- A recording finds its run stored, or writes it. -/
theorem recordRun_cases (valid : command.build = .ok command)
    (recorded : recordDceDocumentClassificationRun unicode store draws command context = .ok (next, outcome)) :
    (next = store ∧ store.classificationRun context.tenantId command.dceVersionId (lower command.inputManifestSha256)
        command.classifierId command.classifierVersion ≠ none) ∨
      (∃ version ∈ store.versions, version.tenantId = context.tenantId ∧ version.id = command.dceVersionId) ∧
      store.classificationRun context.tenantId command.dceVersionId (lower command.inputManifestSha256)
        command.classifierId command.classifierVersion = none ∧
      RecordedResults store context.tenantId command.dceVersionId command.results ∧
      ∃ found, WritesRun store next draws command context.tenantId found := by
  simp only [recordDceDocumentClassificationRun, bind_ok, raiseIf_ok, exists_unit, orRaise_ok] at recorded
  obtain ⟨_, version, loaded, _, _, _, _, recorded⟩ := recorded
  split at recorded
  · rename_i existing stored
    rw [pure_ok, Prod.mk.injEq] at recorded
    exact .inl ⟨recorded.1.symm, by rw [stored]; exact Option.some_ne_none _⟩
  · rename_i unrecorded
    simp only [bind_ok, raiseIf_ok, exists_unit, pure_ok, Prod.mk.injEq] at recorded
    obtain ⟨_, checked, _, written, rfl, _⟩ := recorded
    obtain ⟨found, _⟩ := Option.filter_eq_some_iff.mp loaded
    have query := Table.find?_query found
    simp only [decide_eq_true_eq] at query
    exact .inr ⟨⟨version, Table.find?_mem found, query⟩, unrecorded, validated_covers valid rfl checked,
      writeClassificationRun_ok written⟩

end Recording

section Agreement

variable {store next : ClassificationStore} {draws : ClassificationDraws}
  {command : RecordDceDocumentClassificationRunCommand} {tenantId : Uuid} {found : List (Option Uuid)}
  {version other : DceVersionRecord}

theorem currents_kept (store : ClassificationStore) (tenantId : Uuid) (documentIds : List Uuid) (dceDocumentId : Uuid) :
    Kept tenantId (store.currents tenantId documentIds) store.classifications dceDocumentId := by
  intro current listed named
  obtain ⟨stored, holds⟩ := List.mem_filter.mp listed
  rw [decide_eq_true_eq] at holds
  exact ⟨stored, holds.1, holds.2.2⟩

theorem WritesRun.families_reclassify (written : WritesRun store next draws command tenantId found)
    (recorded : RecordedResults store tenantId command.dceVersionId command.results) :
    Reclassifies tenantId store.classifications next.classifications
      (fun other => ∃ result ∈ command.results, result.dceDocumentId = other) (Classifies command.results) ∧
      found.length = command.results.length :=
  classifyResults_reclassifies recorded.given (fun _ _ => currents_kept _ _ _ _) written.families

/-- The documents a recording touches are those of its version. -/
theorem RecordedResults.touched (recorded : RecordedResults store tenantId command.dceVersionId command.results)
    {dceDocumentId : Uuid} (touched : ∃ result ∈ command.results, result.dceDocumentId = dceDocumentId) :
    dceDocumentId ∈ store.documentIds tenantId command.dceVersionId := by
  obtain ⟨result, member, rfl⟩ := touched
  rcases recorded.documents with none | all
  · rw [none] at member
    cases member
  · rw [← all]
    exact List.mem_map_of_mem member

theorem WritesRun.hasCurrent (written : WritesRun store next draws command tenantId found)
    (recorded : RecordedResults store tenantId command.dceVersionId command.results) (dceDocumentId : Uuid) :
    next.HasCurrent tenantId dceDocumentId ↔
      store.HasCurrent tenantId dceDocumentId ∨ Classifies command.results dceDocumentId := by
  have families := (written.families_reclassify recorded).1
  by_cases touched : ∃ result ∈ command.results, result.dceDocumentId = dceDocumentId
  · exact families.current dceDocumentId touched
  · have none : ¬ Classifies command.results dceDocumentId := fun classified =>
      touched (families.within _ classified)
    rw [or_iff_left none]
    exact families.others tenantId dceDocumentId touched

/-- The results stored under the identifier of a new run are its own. -/
theorem WritesRun.latestClassified (written : WritesRun store next draws command tenantId found)
    (recorded : RecordedResults store tenantId command.dceVersionId command.results) (referenced : store.Referenced)
    (dceDocumentId : Uuid) : next.LatestClassified tenantId command.dceVersionId dceDocumentId ↔
      Classifies command.results dceDocumentId := by
  have latest : next.latestRun tenantId command.dceVersionId = some (command.runRecord tenantId) := by
    rw [ClassificationStore.latestRun, Table.filter_insert? written.runs, if_pos (by simp [
      RecordDceDocumentClassificationRunCommand.runRecord]), List.getLast?_concat]
  have length := (written.families_reclassify recorded).2
  have fresh := Table.insert?_absent written.runs
  constructor
  · rintro ⟨run, isLatest, row, member, ofRun, named, status⟩
    rw [latest, Option.mem_some] at isLatest
    rcases (Table.mem_insertAll? written.results).mp member with old | new
    · obtain ⟨stored, present, same⟩ := referenced.results row old
      exact absurd (.inl (same.trans (ofRun.trans (congrArg _ isLatest.symm)))) (fresh stored present)
    · obtain ⟨⟨result, id⟩, listed, rfl⟩ := List.mem_map.mp new
      exact ⟨result, (List.of_mem_zip listed).1, named, status⟩
  · rintro ⟨result, member, named, status⟩
    obtain ⟨index, bound, rfl⟩ := List.mem_iff_getElem.mp member
    have pair : (command.results[index], found[index]) ∈ command.results.zip found := by
      have inside : index < (command.results.zip found).length := by
        rw [List.length_zip]
        omega
      exact List.mem_iff_getElem.mpr ⟨index, inside, List.getElem_zip⟩
    refine ⟨_, Option.mem_some.mpr rfl ▸ latest, _, (Table.mem_insertAll? written.results).mpr
      (.inr (List.mem_map_of_mem pair)), rfl, named, status⟩

theorem WritesRun.documentIds (written : WritesRun store next draws command tenantId found) (owner versionId : Uuid) :
    next.documentIds owner versionId = store.documentIds owner versionId := by
  rw [ClassificationStore.documentIds, written.documents]
  rfl

/-- The readiness a command computes is that of its version once no family outlives its document's result. -/
theorem RecordedResults.readiness (recorded : RecordedResults store tenantId command.dceVersionId command.results)
    (documents : next.documentIds tenantId command.dceVersionId = store.documentIds tenantId command.dceVersionId)
    (current : ∀ dceDocumentId ∈ store.documentIds tenantId command.dceVersionId,
      next.HasCurrent tenantId dceDocumentId ↔ Classifies command.results dceDocumentId) :
    next.currentReadiness tenantId command.dceVersionId = classificationReadiness command.results := by
  have counted : (next.documentIds tenantId command.dceVersionId).countP (fun dceDocumentId =>
      next.HasCurrent tenantId dceDocumentId) = (store.documentIds tenantId command.dceVersionId).countP
        fun dceDocumentId => Classifies command.results dceDocumentId := by
    rw [documents]
    refine List.countP_congr fun dceDocumentId member => ?_
    rw [decide_eq_true_eq, decide_eq_true_eq]
    exact current dceDocumentId member
  rcases recorded.documents with none | all
  · have zero : (store.documentIds tenantId command.dceVersionId).countP
        (fun dceDocumentId => Classifies command.results dceDocumentId) = 0 := by
      rw [none, List.countP_eq_zero]
      intro dceDocumentId _ classified
      obtain ⟨_, member, _⟩ := of_decide_eq_true classified
      cases member
    rw [ClassificationStore.currentReadiness, classificationReadiness, counted, zero, none]
    rfl
  · have each : (store.documentIds tenantId command.dceVersionId).countP
        (fun dceDocumentId => Classifies command.results dceDocumentId) =
        command.results.countP fun result => result.status = .classified := by
      rw [← all, List.countP_map]
      refine List.countP_congr fun result member => ?_
      rw [Function.comp_apply, decide_eq_true_eq, decide_eq_true_eq]
      constructor
      · rintro ⟨same, listed, named, status⟩
        rw [List.inj_on_of_nodup_map recorded.given.distinct listed member named] at status
        exact status
      · exact fun status => ⟨result, member, rfl, status⟩
    have length : (next.documentIds tenantId command.dceVersionId).length = command.results.length := by
      rw [documents, ← all, List.length_map]
    rw [ClassificationStore.currentReadiness, classificationReadiness, counted, each, length]

/-- A recording that drops no current family leaves its version in agreement, and only such a one does. -/
theorem WritesRun.version_agrees (written : WritesRun store next draws command tenantId found)
    (recorded : RecordedResults store tenantId command.dceVersionId command.results) (referenced : store.Referenced)
    (tenant : version.tenantId = tenantId) (named : version.id = command.dceVersionId)
    (readiness : version.classificationReadiness = classificationReadiness command.results) :
    next.VersionAgrees version ↔ ∀ dceDocumentId ∈ store.documentIds tenantId command.dceVersionId,
        store.HasCurrent tenantId dceDocumentId → Classifies command.results dceDocumentId := by
  simp only [ClassificationStore.VersionAgrees, tenant, named, written.documentIds,
    written.latestClassified recorded referenced]
  constructor
  · rintro ⟨_, agrees⟩ dceDocumentId member before
    exact (agrees dceDocumentId member).mp ((written.hasCurrent recorded dceDocumentId).mpr (.inl before))
  · intro keeps
    have current : ∀ dceDocumentId ∈ store.documentIds tenantId command.dceVersionId,
        next.HasCurrent tenantId dceDocumentId ↔ Classifies command.results dceDocumentId := by
      intro dceDocumentId member
      rw [written.hasCurrent recorded, or_iff_right_iff_imp]
      exact keeps dceDocumentId member
    refine ⟨?_, current⟩
    rw [readiness, recorded.readiness (written.documentIds _ _) current]

/-- What a version's agreement depends on. -/
theorem versionAgrees_congr (tenant : other.tenantId = version.tenantId) (named : other.id = version.id)
    (readiness : other.classificationReadiness = version.classificationReadiness)
    (documents : next.documentIds version.tenantId version.id = store.documentIds version.tenantId version.id)
    (current : ∀ dceDocumentId ∈ store.documentIds version.tenantId version.id,
      next.HasCurrent version.tenantId dceDocumentId ↔ store.HasCurrent version.tenantId dceDocumentId)
    (latest : ∀ dceDocumentId ∈ store.documentIds version.tenantId version.id,
      next.LatestClassified version.tenantId version.id dceDocumentId ↔
        store.LatestClassified version.tenantId version.id dceDocumentId) :
    next.VersionAgrees other ↔ store.VersionAgrees version := by
  have counted : (next.documentIds version.tenantId version.id).countP (fun dceDocumentId =>
      next.HasCurrent version.tenantId dceDocumentId) = (store.documentIds version.tenantId version.id).countP
        fun dceDocumentId => store.HasCurrent version.tenantId dceDocumentId := by
    rw [documents]
    refine List.countP_congr fun dceDocumentId member => ?_
    rw [decide_eq_true_eq, decide_eq_true_eq]
    exact current dceDocumentId member
  have same : next.currentReadiness version.tenantId version.id = store.currentReadiness version.tenantId version.id := by
    rw [ClassificationStore.currentReadiness, counted, documents]
    rfl
  rw [ClassificationStore.VersionAgrees, ClassificationStore.VersionAgrees, tenant, named, readiness, same, documents]
  refine and_congr_right fun _ => forall₂_congr fun dceDocumentId member => ?_
  rw [current dceDocumentId member, latest dceDocumentId member]

/-- The documents of one version are not those of another. -/
theorem documentIds_apart {owner : Uuid} {versionId otherId dceDocumentId : Uuid} (different : otherId ≠ versionId)
    (ofOther : dceDocumentId ∈ store.documentIds owner otherId) :
    dceDocumentId ∉ store.documentIds tenantId versionId := by
  intro ofVersion
  obtain ⟨document, stored, _, first, named⟩ := mem_documentIds.mp ofOther
  obtain ⟨same, present, _, second, equal⟩ := mem_documentIds.mp ofVersion
  have row := Table.eq_of_conflict stored present (.inl (named.trans equal.symm))
  rw [row] at first
  exact different (first.symm.trans second)

/-- A recording changes nothing another version's agreement depends on. -/
theorem WritesRun.other_agrees (written : WritesRun store next draws command tenantId found)
    (recorded : RecordedResults store tenantId command.dceVersionId command.results)
    (different : version.id ≠ command.dceVersionId) : next.VersionAgrees version ↔ store.VersionAgrees version := by
  have runs : next.latestRun version.tenantId version.id = store.latestRun version.tenantId version.id := by
    have outside : decide ((command.runRecord tenantId).tenantId = version.tenantId ∧
        (command.runRecord tenantId).dceVersionId = version.id) = false :=
      decide_eq_false fun both => different both.2.symm
    rw [ClassificationStore.latestRun, Table.filter_insert? written.runs, if_neg (by rw [outside]; decide),
      List.append_nil]
    rfl
  have fresh := Table.insert?_absent written.runs
  refine versionAgrees_congr rfl rfl rfl (written.documentIds _ _) (fun dceDocumentId member => ?_) fun dceDocumentId _ => ?_
  · refine (written.families_reclassify recorded).1.others version.tenantId dceDocumentId fun touched => ?_
    exact documentIds_apart different member (recorded.touched touched)
  · rw [ClassificationStore.LatestClassified, runs, ClassificationStore.LatestClassified]
    refine exists_congr fun run => and_congr_right fun latest => ?_
    constructor
    · rintro ⟨result, member, ofRun, holds⟩
      rcases (Table.mem_insertAll? written.results).mp member with old | new
      · exact ⟨result, old, ofRun, holds⟩
      · obtain ⟨pair, _, rfl⟩ := List.mem_map.mp new
        have stored : run ∈ store.classificationRuns :=
          (List.mem_filter.mp (List.mem_of_mem_getLast? latest)).1
        exact absurd (.inl ofRun.symm) (fresh run stored)
    · rintro ⟨result, member, holds⟩
      exact ⟨result, (Table.mem_insertAll? written.results).mpr (.inl member), holds⟩

theorem WritesRun.referenced (written : WritesRun store next draws command tenantId found)
    (recorded : RecordedResults store tenantId command.dceVersionId command.results) (referenced : store.Referenced)
    (known : ∃ version ∈ store.versions, version.tenantId = tenantId ∧ version.id = command.dceVersionId) :
    next.Referenced := by
  have stays {row : DceVersionRecord} (member : row ∈ store.versions) :
      ∃ later ∈ next.versions, later.id = row.id ∧ later.tenantId = row.tenantId := by
    rw [written.versions]
    refine ⟨_, Table.mem_update.mpr ⟨row, member, rfl⟩, ?_⟩
    split <;> exact ⟨rfl, rfl⟩
  refine ⟨fun document member => ?_, fun row member => ?_, fun run member => ?_, fun result member => ?_⟩
  · rw [written.documents] at member
    obtain ⟨version, stored, named, tenant⟩ := referenced.documents document member
    obtain ⟨later, present, sameId, sameTenant⟩ := stays stored
    exact ⟨later, present, sameId.trans named, sameTenant.trans tenant⟩
  · rw [written.documents]
    rcases (written.families_reclassify recorded).1.rows row member with ⟨old, stored, same⟩ | touched
    · rw [← same]
      exact referenced.classifications old stored
    · obtain ⟨document, stored, _, _, named⟩ := mem_documentIds.mp (recorded.touched touched)
      exact ⟨document, stored, named⟩
  · rcases (Table.mem_insert? written.runs).mp member with old | rfl
    · obtain ⟨version, stored, named⟩ := referenced.runs run old
      obtain ⟨later, present, sameId, _⟩ := stays stored
      exact ⟨later, present, sameId.trans named⟩
    · obtain ⟨version, stored, _, named⟩ := known
      obtain ⟨later, present, sameId, _⟩ := stays stored
      exact ⟨later, present, sameId.trans named⟩
  · rcases (Table.mem_insertAll? written.results).mp member with old | new
    · obtain ⟨run, stored, same⟩ := referenced.results result old
      exact ⟨run, (Table.mem_insert? written.runs).mpr (.inl stored), same⟩
    · obtain ⟨pair, _, rfl⟩ := List.mem_map.mp new
      exact ⟨_, (Table.mem_insert? written.runs).mpr (.inr rfl), rfl⟩

end Agreement

/-- A new recording of a version classifies every document of it that has a current family. -/
def KeepsFamilies (unicode : Unicode) (store : ClassificationStore) : ClassificationInput → Prop
  | .record draws command context =>
    (classificationStep unicode store (.record draws command context)).isOk = true →
      store.classificationRun context.tenantId command.dceVersionId (lower command.inputManifestSha256)
        command.classifierId command.classifierVersion = none →
      ∀ dceDocumentId ∈ store.documentIds context.tenantId command.dceVersionId,
        store.HasCurrent context.tenantId dceDocumentId → Classifies command.results dceDocumentId
  | _ => True

section Steps

variable {unicode : Unicode} {store next : ClassificationStore} {version : DceVersionRecord}
  {documents : List DceDocumentRecord}

/-- What a registration adds. -/
structure Registers (store next : ClassificationStore) (version : DceVersionRecord)
    (documents : List DceDocumentRecord) : Prop where
  versions : store.versions.insert? { version with classificationReadiness := .unclassified } = some next.versions
  documents : store.documents.insertAll? (documents.map fun document =>
    { document with tenantId := version.tenantId, dceVersionId := version.id }) = some next.documents
  rest : next = { store with versions := next.versions, documents := next.documents }

theorem register_ok (accepted : classificationStep unicode store (.register version documents) = .ok next) :
    Registers store next version documents := by
  simp only [classificationStep, bind_ok, raiseIf_ok, exists_unit, flush, orRaise_ok, pure_ok] at accepted
  obtain ⟨_, versions, inserted, documents, added, rfl⟩ := accepted
  exact ⟨inserted, added, rfl⟩

theorem Registers.referenced (registers : Registers store next version documents) (referenced : store.Referenced) :
    next.Referenced := by
  have stays {row : DceVersionRecord} (member : row ∈ store.versions) : row ∈ next.versions :=
    (Table.mem_insert? registers.versions).mpr (.inl member)
  rw [registers.rest]
  refine ⟨fun document member => ?_, fun row member => ?_, fun run member => ?_, referenced.results⟩
  · rcases (Table.mem_insertAll? registers.documents).mp member with old | new
    · obtain ⟨version, stored, same⟩ := referenced.documents document old
      exact ⟨version, stays stored, same⟩
    · obtain ⟨document, _, rfl⟩ := List.mem_map.mp new
      exact ⟨_, (Table.mem_insert? registers.versions).mpr (.inr rfl), rfl, rfl⟩
  · obtain ⟨document, stored, same⟩ := referenced.classifications row member
    exact ⟨document, (Table.mem_insertAll? registers.documents).mpr (.inl stored), same⟩
  · obtain ⟨version, stored, same⟩ := referenced.runs run member
    exact ⟨version, stays stored, same⟩

/-- A registered version has neither families nor runs. -/
theorem Registers.version_agrees (registers : Registers store next version documents)
    (referenced : store.Referenced) :
    next.VersionAgrees { version with classificationReadiness := .unclassified } := by
  have freshVersion := Table.insert?_absent registers.versions
  have freshDocuments := (Table.insertAll?_isSome.mp (by rw [registers.documents]; rfl)).1
  have none : ∀ dceDocumentId ∈ next.documentIds version.tenantId version.id,
      ¬ next.HasCurrent version.tenantId dceDocumentId := by
    rintro dceDocumentId member ⟨row, current, _, named, _⟩
    rw [registers.rest] at current
    obtain ⟨document, stored, same⟩ := referenced.classifications row current
    obtain ⟨registered, present, _, ofVersion, equal⟩ := mem_documentIds.mp member
    rcases (Table.mem_insertAll? registers.documents).mp present with old | new
    · obtain ⟨other, known, sameId, _⟩ := referenced.documents registered old
      exact freshVersion other known (.inl (sameId.trans ofVersion))
    · exact freshDocuments document stored registered new (.inl (same.trans (named.trans equal.symm)))
  have unrun : next.latestRun version.tenantId version.id = Option.none := by
    rw [ClassificationStore.latestRun, List.getLast?_eq_none_iff, List.filter_eq_nil_iff]
    intro run member ofVersion
    rw [registers.rest] at member
    obtain ⟨other, known, sameId⟩ := referenced.runs run member
    exact freshVersion other known (.inl (sameId.trans (of_decide_eq_true ofVersion).2))
  constructor
  · have zero : (next.documentIds version.tenantId version.id).countP (fun dceDocumentId =>
        next.HasCurrent version.tenantId dceDocumentId) = 0 := by
      rw [List.countP_eq_zero]
      exact fun dceDocumentId member current => none dceDocumentId member (of_decide_eq_true current)
    show ClassificationReadiness.unclassified = next.currentReadiness version.tenantId version.id
    rw [ClassificationStore.currentReadiness, zero]
    rfl
  · intro dceDocumentId member
    refine iff_of_false (none dceDocumentId member) fun ⟨run, latest, _⟩ => ?_
    rw [unrun] at latest
    cases latest

theorem Registers.other_agrees (registers : Registers store next version documents) {other : DceVersionRecord}
    (different : other.id ≠ version.id) : next.VersionAgrees other ↔ store.VersionAgrees other := by
  have same : next.documentIds other.tenantId other.id = store.documentIds other.tenantId other.id := by
    have outside : (documents.map fun document => { document with
        tenantId := version.tenantId, dceVersionId := version.id : DceDocumentRecord }).filter (fun row =>
          row.tenantId = other.tenantId ∧ row.dceVersionId = other.id) = [] := by
      rw [List.filter_eq_nil_iff]
      intro row member selected
      obtain ⟨_, _, rfl⟩ := List.mem_map.mp member
      exact different (of_decide_eq_true selected).2.symm
    rw [ClassificationStore.documentIds, ClassificationStore.documentIds, Table.insertAll?_rows registers.documents,
      List.filter_append, outside, List.append_nil]
  have current (dceDocumentId : Uuid) : next.HasCurrent other.tenantId dceDocumentId ↔
      store.HasCurrent other.tenantId dceDocumentId := by
    rw [registers.rest]
    exact Iff.rfl
  have latest (dceDocumentId : Uuid) : next.LatestClassified other.tenantId other.id dceDocumentId ↔
      store.LatestClassified other.tenantId other.id dceDocumentId := by
    rw [registers.rest]
    exact Iff.rfl
  exact versionAgrees_congr rfl rfl rfl same (fun _ _ => current _) fun _ _ => latest _

theorem Registers.agrees (registers : Registers store next version documents) (referenced : store.Referenced)
    (agrees : store.ReadinessAgrees) : next.ReadinessAgrees := by
  intro other member
  rcases (Table.mem_insert? registers.versions).mp member with old | rfl
  · have different : other.id ≠ version.id := fun same =>
      Table.insert?_absent registers.versions other old (.inl same)
    exact (registers.other_agrees different).mpr (agrees other old)
  · exact registers.version_agrees referenced

theorem write_agrees {versionId : Uuid} {write : VersionWrite}
    (accepted : classificationStep unicode store (.write versionId write) = .ok next) (agrees : store.ReadinessAgrees) :
    next.ReadinessAgrees := by
  cases accepted
  intro row member
  have unchanged {old : DceVersionRecord} (stored : old ∈ store.versions) (later : DceVersionRecord)
      (tenant : later.tenantId = old.tenantId) (named : later.id = old.id)
      (readiness : later.classificationReadiness = old.classificationReadiness) :
      ClassificationStore.VersionAgrees { store with versions := (store.versions.update (fun row =>
        row.id = versionId) write.apply write.apply_columns) } later :=
    (versionAgrees_congr tenant named readiness rfl (fun _ _ => Iff.rfl) fun _ _ => Iff.rfl).mpr (agrees old stored)
  have updated : row ∈ store.versions.update (fun row => row.id = versionId) write.apply write.apply_columns := member
  rcases Table.mem_update_cases updated with ⟨old, _⟩ | ⟨old, stored, _, rfl⟩
  · exact unchanged old row rfl rfl rfl
  · exact unchanged stored _ rfl rfl rfl

theorem write_referenced {versionId : Uuid} {write : VersionWrite}
    (accepted : classificationStep unicode store (.write versionId write) = .ok next) (referenced : store.Referenced) :
    next.Referenced := by
  cases accepted
  have stays {row : DceVersionRecord} (member : row ∈ store.versions) :
      ∃ later ∈ store.versions.update (fun row => row.id = versionId) write.apply write.apply_columns,
        later.id = row.id ∧ later.tenantId = row.tenantId := by
    refine ⟨_, Table.mem_update.mpr ⟨row, member, rfl⟩, ?_⟩
    split <;> exact ⟨rfl, rfl⟩
  refine ⟨fun document member => ?_, referenced.classifications, fun run member => ?_, referenced.results⟩
  · obtain ⟨version, stored, named, tenant⟩ := referenced.documents document member
    obtain ⟨later, present, sameId, sameTenant⟩ := stays stored
    exact ⟨later, present, sameId.trans named, sameTenant.trans tenant⟩
  · obtain ⟨version, stored, named⟩ := referenced.runs run member
    obtain ⟨later, present, sameId, _⟩ := stays stored
    exact ⟨later, present, sameId.trans named⟩

variable {draws : ClassificationDraws} {command : RecordDceDocumentClassificationRunCommand} {context : CommandContext}

theorem record_ok (accepted : classificationStep unicode store (.record draws command context) = .ok next) :
    command.build = .ok command ∧ ∃ outcome,
      recordDceDocumentClassificationRun unicode store draws command context = .ok (next, outcome) := by
  simp only [classificationStep, bind_ok, orRaise_ok, toOption_ok, pure_ok, Prod.exists] at accepted
  obtain ⟨built, builds, _, outcome, recorded, rfl⟩ := accepted
  have same := (build_valid builds).1
  subst same
  exact ⟨builds, outcome, recorded⟩

theorem WritesRun.agrees {found : List (Option Uuid)}
    (written : WritesRun store next draws command context.tenantId found)
    (recorded : RecordedResults store context.tenantId command.dceVersionId command.results)
    (known : ∃ version ∈ store.versions, version.tenantId = context.tenantId ∧ version.id = command.dceVersionId)
    (referenced : store.Referenced) (agrees : store.ReadinessAgrees) : next.ReadinessAgrees ↔
      ∀ dceDocumentId ∈ store.documentIds context.tenantId command.dceVersionId,
        store.HasCurrent context.tenantId dceDocumentId → Classifies command.results dceDocumentId := by
  obtain ⟨version, stored, tenant, named⟩ := known
  have classified : next.VersionAgrees (reclassified (classificationReadiness command.results) version) ↔ _ :=
    written.version_agrees recorded referenced tenant named rfl
  have key {first second : DceVersionRecord} (here : decide (first.id = command.dceVersionId) = true)
      (there : decide (second.id = command.dceVersionId) = true) : Schema.Conflict first second :=
    .inl ((of_decide_eq_true here).trans (of_decide_eq_true there).symm)
  have members {row : DceVersionRecord} : row ∈ next.versions ↔
      row = reclassified (classificationReadiness command.results) version ∨
        (row ∈ store.versions ∧ row.id ≠ command.dceVersionId) := by
    rw [written.versions, Table.mem_update_key key stored (decide_eq_true named), decide_eq_false_iff_not]
  constructor
  · exact fun all => classified.mp (all _ (members.mpr (.inl rfl)))
  · intro keeps row member
    rcases members.mp member with rfl | ⟨old, different⟩
    · exact classified.mpr keeps
    · exact (written.other_agrees recorded different).mpr (agrees row old)

theorem step_referenced {input : ClassificationInput} (referenced : store.Referenced)
    (accepted : classificationStep unicode store input = .ok next) : next.Referenced := by
  cases input with
  | register version documents => exact (register_ok accepted).referenced referenced
  | write versionId write => exact write_referenced accepted referenced
  | extract sources =>
    cases accepted
    exact ⟨referenced.documents, referenced.classifications, referenced.runs, referenced.results⟩
  | record draws command context =>
    obtain ⟨valid, _, recorded⟩ := record_ok accepted
    rcases recordRun_cases valid recorded with ⟨rfl, _⟩ | ⟨known, _, results, _, written⟩
    · exact referenced
    · exact written.referenced results referenced known

theorem step_agrees {input : ClassificationInput} (referenced : store.Referenced) (agrees : store.ReadinessAgrees) :
    (commit (classificationStep unicode) store input).ReadinessAgrees ↔ KeepsFamilies unicode store input := by
  cases step : classificationStep unicode store input with
  | error error =>
    rw [commit_error step]
    refine iff_of_true agrees ?_
    cases input with
    | record draws command context =>
      intro accepted
      rw [step] at accepted
      cases accepted
    | _ => exact True.intro
  | ok next =>
    rw [commit_ok step]
    cases input with
    | register version documents => exact iff_of_true ((register_ok step).agrees referenced agrees) True.intro
    | write versionId write => exact iff_of_true (write_agrees step agrees) True.intro
    | extract sources =>
      cases step
      exact iff_of_true agrees True.intro
    | record draws command context =>
      obtain ⟨valid, _, recorded⟩ := record_ok step
      rcases recordRun_cases valid recorded with ⟨rfl, stored⟩ | ⟨known, unrecorded, results, _, written⟩
      · exact iff_of_true agrees fun _ unrecorded => absurd unrecorded stored
      · rw [written.agrees results known referenced agrees]
        refine ⟨fun keeps _ _ => keeps, fun keeps => keeps ?_ unrecorded⟩
        rw [step]
        rfl

end Steps

theorem empty_referenced : ClassificationStore.empty.Referenced :=
  ⟨fun _ member => absurd member Table.not_mem_empty, fun _ member => absurd member Table.not_mem_empty,
    fun _ member => absurd member Table.not_mem_empty, fun _ member => absurd member Table.not_mem_empty⟩

/-- Along a run, readiness, current families and last results agree throughout exactly when every recording
    keeps the families it finds. -/
theorem classification_readiness_agrees (unicode : Unicode) (inputs : List ClassificationInput) :
    (∀ first, first <+: inputs → (run (classificationStep unicode) .empty first).ReadinessAgrees) ↔
      Along (classificationStep unicode) (KeepsFamilies unicode) .empty inputs :=
  have preserved (store : ClassificationStore) (input : ClassificationInput) (next : ClassificationStore)
      (referenced : store.Referenced) (accepted : classificationStep unicode store input = .ok next) :
      next.Referenced := step_referenced referenced accepted
  have each (store : ClassificationStore) (input : ClassificationInput) (referenced : store.Referenced)
      (agrees : store.ReadinessAgrees) : (commit (classificationStep unicode) store input).ReadinessAgrees ↔
        KeepsFamilies unicode store input := step_agrees referenced agrees
  throughout_iff_along preserved each empty_referenced fun _ member => absurd member Table.not_mem_empty

def annexVersion : DceVersionRecord :=
  ⟨5, 1, 7, "corpus", none, .admitted, .verified, .unclassified, .notReady, 0⟩

def annexDocument : DceDocumentRecord :=
  ⟨20, 1, 5, 30, "key", "application/pdf", 8, String.ofList (List.replicate 64 'a'), by decide +kernel⟩

def annexExtraction (id : Uuid) (extractorVersion : String) : DceDocumentExtractionRecord :=
  ⟨id, 1, 5, 20, annexDocument.sha256, "smart-ao-native", extractorVersion, .completed, 1, 6, none⟩

def annexFragment (id extractionId : Uuid) (text : String) : DceDocumentExtractionFragmentRecord :=
  ⟨id, 1, extractionId, 1, ⟨.pdfPage 1, 1⟩, text, hexdigest text.toList⟩

/-- An annex, read by one extractor, then also by another. -/
def annexSources : SourceStore := ⟨.singleton (annexExtraction 41 "1"), .singleton (annexFragment 51 41 "Annexe")⟩

def rereadSources : SourceStore :=
  ⟨⟨[annexExtraction 41 "1", annexExtraction 42 "2"], by decide +kernel⟩,
    ⟨[annexFragment 51 41 "Annexe", annexFragment 52 42 "CCAP"], by decide +kernel⟩⟩

/-- The recording of the version from the sources, at one of its revisions. -/
def annexRecording (sources : SourceStore) (revision : Nat) : Option ClassificationInput :=
  let store := { ClassificationStore.empty with documents := .singleton annexDocument, sources }
  let projection := projectDceClassification .latin (store.classificationDocuments 1 5)
  (classificationCommand 5 revision projection).toOption.map fun command =>
    .record ⟨fun _ => 60, fun _ => .ofNat 128 (70 + revision), fun _ _ => 80⟩ command ⟨1, 2, .system, 0, none, none⟩

def annexInputs : List ClassificationInput :=
  [.register annexVersion [annexDocument], .extract annexSources] ++ (annexRecording annexSources 0).toList ++
    .extract rereadSources :: (annexRecording rereadSources 1).toList

/-- The second recording leaves the document to a review, and its family current. -/
theorem annex_readiness : ¬ (run (classificationStep .latin) .empty annexInputs).ReadinessAgrees := by
  have apart : ∃ version ∈ (run (classificationStep .latin) .empty annexInputs).versions,
      version.classificationReadiness ≠ (run (classificationStep .latin) .empty annexInputs).currentReadiness
        version.tenantId version.id := by
    decide +kernel
  obtain ⟨version, member, different⟩ := apart
  exact fun agrees => different (agrees version member).1

end SmartAo.Dce
