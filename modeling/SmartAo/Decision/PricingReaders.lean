import SmartAo.Decision.Risk
import SmartAo.Foundation.Join
import SmartAo.Foundation.Transition
import SmartAo.Pricing.Imports

namespace SmartAo.Decision

open SmartAo.Foundation SmartAo.Platform SmartAo.Case SmartAo.Pricing

abbrev ImportedRow := PricingImportBatchRecord × PricingImportRowRecord

def isPricingDocument (kind : DocumentKind) : Bool := kind = .dpgf ∨ kind = .bpu

/-- The batches of a case with the rows the decision readers join to them. -/
def committedImports (store : PricingStore) (tenantId caseId : Uuid) : List ImportedRow :=
  store.importBatches.join store.importRows fun batch row =>
    (row.tenantId = batch.tenantId ∧ row.batchId = batch.id) ∧ batch.tenantId = tenantId ∧
      batch.caseId = caseId ∧ isPricingDocument batch.documentKind ∧ batch.state = .committed

/-- By creation of the batch, its identifier and the row number. -/
def byCreation (first second : ImportedRow) : Prop :=
  first.1.createdAt < second.1.createdAt ∨ (first.1.createdAt = second.1.createdAt ∧
    (first.1.id.toNat < second.1.id.toNat ∨ (first.1.id = second.1.id ∧
      first.2.rowNumber ≤ second.2.rowNumber)))

instance : DecidableRel byCreation := fun _ _ => inferInstanceAs (Decidable (_ ∨ _))

def byBatch (first second : ImportedRow) : Prop :=
  first.1.id.toNat < second.1.id.toNat ∨
    (first.1.id = second.1.id ∧ first.2.rowNumber ≤ second.2.rowNumber)

instance : DecidableRel byBatch := fun _ _ => inferInstanceAs (Decidable (_ ∨ _))

/-- The rows the reconciliation of a risk-requirement link searches. -/
def reconciliationRows (store : PricingStore) (tenantId caseId : Uuid) : List ImportedRow :=
  (committedImports store tenantId caseId).insertionSort byCreation

def crossingRows (store : PricingStore) (tenantId caseId : Uuid) : List ImportedRow :=
  (committedImports store tenantId caseId).insertionSort byBatch

def contradictionRows (store : PricingStore) (tenantId caseId : Uuid) : List ImportedRow :=
  (committedImports store tenantId caseId).insertionSort byBatch

structure DecisionPricingReconciliationProjection where
  linkId : Uuid
  batchId : Uuid
  documentKind : DocumentKind
  batchState : ImportState
  rowNumber : Nat
  code : Option String
  designation : Option String
  unit : Option String

/-- The reconciliation of a stored link: the first rows whose code or designation matches the search.
    `like` is the database's pattern match on the lowered text. -/
def reconcile (links : Table DecisionRiskRequirementLinkRecord) (store : PricingStore)
    (like : Option String → Bool) (tenantId caseId linkId : Uuid) (limit : Nat) :
    Option (List DecisionPricingReconciliationProjection) :=
  if ∃ link ∈ links, link.tenantId = tenantId ∧ link.caseId = caseId ∧ link.id = linkId then
    some ((((reconciliationRows store tenantId caseId).filter fun entry =>
        like entry.2.code || like entry.2.designation).take (min limit 100)).map fun (batch, row) => {
      linkId
      batchId := batch.id
      documentKind := batch.documentKind
      batchState := batch.state
      rowNumber := row.rowNumber
      code := row.code
      designation := row.designation
      unit := row.unit })
  else none

/-- The imports of a run and the tables their commands read; other modules write the cases, the
    snapshots and the lines. -/
structure ImportStore where
  cases : Table CaseRecord
  pricing : PricingStore

def ImportStore.empty : ImportStore := ⟨.empty, .empty⟩

inductive ImportInput where
  | foreign (cases : Table CaseRecord) (snapshots : Table FinancialReportSnapshotRecord)
      (lines : Table FinancialReportLineRecord)
  | preview (command : CreatePricingImportPreviewCommand) (batchId : Uuid) (rowId : Nat → Uuid)
      (context : CommandContext)
  | commit (command : CommitPricingImportCommand) (transitionId : Uuid) (lineId : Nat → Uuid)
      (context : CommandContext)

def importStep (store : ImportStore) : ImportInput → Transaction ImportStore
  | .foreign cases snapshots lines =>
    return { cases, pricing := { store.pricing with snapshots, lines } }
  | .preview command batchId rowId context => do
    let (pricing, _) ← createPricingImportPreview store.cases store.pricing command batchId rowId context
    return { store with pricing }
  | .commit command transitionId lineId context => do
    let (pricing, _) ← commitPricingImport store.pricing command transitionId lineId context
    return { store with pricing }

/-- Batch rows keep the state they were created in, every batch has a row, and every transition
    commits. -/
structure ImportsSound (store : PricingStore) : Prop where
  previewed : ∀ batch ∈ store.importBatches, batch.state = .previewed
  filled : ∀ batch ∈ store.importBatches, ∃ row ∈ store.importRows, rowOf batch row = true
  committed : ∀ transition ∈ store.importTransitions, transition.toState = .committed

variable {cases : Table CaseRecord} {store next : PricingStore} {context : CommandContext}
  {outcome : HandlerOutcome} {tenantId caseId : Uuid}

theorem importsSound_preview {command : CreatePricingImportPreviewCommand} {batchId : Uuid}
    {rowId : Nat → Uuid} (sound : ImportsSound store)
    (accepted : createPricingImportPreview cases store command batchId rowId context = .ok (next, outcome)) :
    ImportsSound next := by
  simp only [createPricingImportPreview, validateRows, bind_ok, raiseIf_ok, exists_unit, orRaise_ok,
    pure_ok, Prod.mk.injEq, flush] at accepted
  obtain ⟨_, _, _, ⟨filled, _, _⟩, _, _, _, batches, one, rows, all, rfl, _⟩ := accepted
  refine ⟨fun batch member => ?_, fun batch member => ?_, sound.committed⟩
  · rcases (Table.mem_insert? one).mp member with old | rfl
    · exact sound.previewed batch old
    · rfl
  · rcases (Table.mem_insert? one).mp member with old | rfl
    · obtain ⟨row, stored, of⟩ := sound.filled batch old
      exact ⟨row, (Table.mem_insertAll? all).mpr (.inl stored), of⟩
    · obtain ⟨row, rest, listed⟩ : ∃ row rest, command.rows = row :: rest := by
        cases submitted : command.rows with
        | nil => simp [submitted] at filled
        | cons row rest => exact ⟨row, rest, rfl⟩
      refine ⟨previewedRow context.tenantId batchId rowId (row, 0), ?_, ?_⟩
      · refine (Table.mem_insertAll? all).mpr (.inr ?_)
        rw [listed, List.zipIdx_cons]
        exact List.mem_map.mpr ⟨(row, 0), List.mem_cons_self, rfl⟩
      · simp [rowOf, previewedRow]

theorem importsSound_commit {command : CommitPricingImportCommand} {transitionId : Uuid}
    {lineId : Nat → Uuid} (sound : ImportsSound store)
    (accepted : commitPricingImport store command transitionId lineId context = .ok (next, outcome)) :
    ImportsSound next := by
  simp only [commitPricingImport, bind_ok, raiseIf_ok, exists_unit, orRaise_ok, pure_ok, Prod.mk.injEq,
    flush] at accepted
  obtain ⟨_, _, _, _, _, _, _, _, _, _, _, _, _, _, _, _, _, transitions, one, rfl, _⟩ := accepted
  refine ⟨sound.previewed, sound.filled, fun transition member => ?_⟩
  rcases (Table.mem_insert? one).mp member with old | rfl
  · exact sound.committed transition old
  · rfl

theorem run_importsSound (inputs : List ImportInput) :
    ImportsSound (run importStep .empty inputs).pricing := by
  have kept : ∀ store input next, ImportsSound store.pricing → importStep store input = .ok next →
      ImportsSound next.pricing := by
    intro store input next sound accepted
    cases input with
    | foreign cases snapshots lines =>
      cases accepted
      exact ⟨sound.previewed, sound.filled, sound.committed⟩
    | preview command batchId rowId context =>
      simp only [importStep, bind_ok, Prod.exists, pure_ok] at accepted
      obtain ⟨pricing, _, previewed, rfl⟩ := accepted
      exact importsSound_preview sound previewed
    | commit command transitionId lineId context =>
      simp only [importStep, bind_ok, Prod.exists, pure_ok] at accepted
      obtain ⟨pricing, _, committed, rfl⟩ := accepted
      exact importsSound_commit sound committed
  have initial : ImportsSound PricingStore.empty :=
    ⟨fun row member => absurd member Table.not_mem_empty, fun row member => absurd member Table.not_mem_empty,
      fun row member => absurd member Table.not_mem_empty⟩
  exact run_invariant_always kept inputs initial

theorem mem_committedImports {batch : PricingImportBatchRecord} {row : PricingImportRowRecord} :
    (batch, row) ∈ committedImports store tenantId caseId ↔ batch ∈ store.importBatches ∧
      row ∈ store.importRows ∧ (row.tenantId = batch.tenantId ∧ row.batchId = batch.id) ∧
        batch.tenantId = tenantId ∧ batch.caseId = caseId ∧ isPricingDocument batch.documentKind = true ∧
          batch.state = .committed := by
  rw [committedImports, Table.mem_join]
  simp only [decide_eq_true_eq]

theorem ImportsSound.committedImports_nil (sound : ImportsSound store) (tenantId caseId : Uuid) :
    committedImports store tenantId caseId = [] := by
  rw [List.eq_nil_iff_forall_not_mem]
  rintro ⟨batch, row⟩ member
  obtain ⟨stored, _, _, _, _, _, state⟩ := mem_committedImports.mp member
  rw [sound.previewed batch stored] at state
  cases state

/-- A batch of the case in a priced document whose latest transition commits it. -/
def isCommitted (store : PricingStore) (tenantId caseId : Uuid) (batch : PricingImportBatchRecord) : Prop :=
  batch ∈ store.importBatches ∧ (batch.tenantId = tenantId ∧ batch.caseId = caseId ∧
    isPricingDocument batch.documentKind = true) ∧ store.importState batch = .committed

/-- The rows a reader considers are those of the committed batches. -/
def ShowsCommitted (store : PricingStore) (tenantId caseId : Uuid) (rows : List ImportedRow) : Prop :=
  ∀ batch row, (batch, row) ∈ rows ↔
    isCommitted store tenantId caseId batch ∧ row ∈ store.importRows ∧ rowOf batch row = true

theorem ImportsSound.showsCommitted_nil (sound : ImportsSound store) :
    ShowsCommitted store tenantId caseId [] ↔ ∀ batch, ¬ isCommitted store tenantId caseId batch := by
  unfold ShowsCommitted
  constructor
  · intro shows batch committed
    obtain ⟨row, stored, of⟩ := sound.filled batch committed.1
    have seen := (shows batch row).mpr ⟨committed, stored, of⟩
    cases seen
  · intro none_committed batch row
    exact iff_of_false List.not_mem_nil fun ⟨committed, _⟩ => none_committed batch committed

/-- The three readers show the committed imports of a case in exactly the reachable stores where the
    case has none. -/
theorem readers_show_committed_iff (inputs : List ImportInput) (tenantId caseId : Uuid) :
    (ShowsCommitted (run importStep .empty inputs).pricing tenantId caseId
        (reconciliationRows (run importStep .empty inputs).pricing tenantId caseId) ∧
      ShowsCommitted (run importStep .empty inputs).pricing tenantId caseId
        (crossingRows (run importStep .empty inputs).pricing tenantId caseId) ∧
      ShowsCommitted (run importStep .empty inputs).pricing tenantId caseId
        (contradictionRows (run importStep .empty inputs).pricing tenantId caseId)) ↔
      ∀ batch, ¬ isCommitted (run importStep .empty inputs).pricing tenantId caseId batch := by
  have sound := run_importsSound inputs
  have unseen := sound.committedImports_nil tenantId caseId
  rw [reconciliationRows, crossingRows, contradictionRows, unseen, List.insertionSort_nil,
    List.insertionSort_nil, sound.showsCommitted_nil, and_self, and_self]

/-- A batch of one row is previewed and committed into a financial draft. -/
def committedRun : List ImportInput := [
  .foreign (Table.singleton ⟨4, 1, .active, "scope", none, 0⟩)
    (Table.singleton ⟨32, 1, 4, .draft, "EUR", 1, 1, 1772368496000000, none, 0, 0, 0, 0, 0, 0, 0, 0⟩) .empty,
  .preview ⟨⟨50, 50, none⟩, 4, .dpgf, "source", [⟨1, some "A1", some "Terrassement", some "m3", some "2", some 500,
    some 1000, []⟩]⟩ 51 (fun index => BitVec.ofNat 128 (52 + index))
    ⟨1, 2, .patronAdmin, 1772368496000000, some 3, some 4⟩,
  .commit ⟨⟨60, 60, none⟩, 51, 4, 32, 1, 1⟩ 61 (fun index => BitVec.ofNat 128 (62 + index))
    ⟨1, 2, .patronAdmin, 1772368496000000, some 3, some 4⟩]

theorem committedRun_unseen :
    (∃ batch ∈ (run importStep .empty committedRun).pricing.importBatches,
      (batch.tenantId = 1 ∧ batch.caseId = 4 ∧ isPricingDocument batch.documentKind = true) ∧
        (run importStep .empty committedRun).pricing.importState batch = .committed ∧
        ∃ row ∈ (run importStep .empty committedRun).pricing.importRows, rowOf batch row = true) ∧
      reconciliationRows (run importStep .empty committedRun).pricing 1 4 = [] ∧
      crossingRows (run importStep .empty committedRun).pricing 1 4 = [] ∧
      contradictionRows (run importStep .empty committedRun).pricing 1 4 = [] := by
  decide +kernel

end SmartAo.Decision
