import SmartAo.Pricing.FinancialTotals
import Mathlib.Algebra.BigOperators.Ring.Finset
import Mathlib.Data.List.Forall2

namespace SmartAo.Pricing

open SmartAo.Foundation SmartAo.Platform SmartAo.Case

variable {view : Nat → ReportStore} {store next : ReportStore} {context : CommandContext} {outcome : HandlerOutcome}
  {locked snapshot : FinancialReportSnapshotRecord}

/-- The tables of the imports stay. -/
structure ImportsStay (store next : PricingStore) : Prop where
  batches : next.importBatches = store.importBatches
  rows : next.importRows = store.importRows
  transitions : next.importTransitions = store.importTransitions

theorem ImportsStay.imports {store next : PricingStore} (stay : ImportsStay store next) (imports : Imports store) :
    Imports next := by
  refine ⟨fun batch member => ?_, ?_, ?_⟩
  · rw [stay.batches] at member
    have filled := imports.filled batch member
    have same : next.rowsOf batch = store.rowsOf batch := by rw [PricingStore.rowsOf, stay.rows]; rfl
    exact ⟨filled.state, filled.revision, by rw [same, filled.counted], by rw [same, filled.valued]⟩
  · rw [stay.batches, stay.rows]
    exact imports.listed
  · rw [stay.batches, stay.transitions]
    exact imports.committed

theorem lockedDraft_ok {store : PricingStore} {tenantId caseId reportId : Uuid} {expected : Int} {missing : String}
    (found : lockedDraft store tenantId caseId reportId expected missing = .ok locked) :
    store.report? tenantId caseId reportId = some locked ∧ locked.state = .draft := by
  simp only [lockedDraft, bind_ok, orRaise_ok, raiseIf_ok, exists_unit, pure_ok, not_not] at found
  obtain ⟨_, found, draft, _, rfl⟩ := found
  exact ⟨found, draft⟩

theorem report?_some {store : PricingStore} {tenantId caseId reportId : Uuid}
    (found : store.report? tenantId caseId reportId = some locked) :
    locked ∈ store.snapshots ∧ locked.tenantId = tenantId ∧ locked.caseId = caseId ∧ locked.id = reportId := by
  have query := Table.find?_query found
  rw [decide_eq_true_eq] at query
  exact ⟨Table.find?_mem found, query⟩

theorem createFinancialReportDraft_ok {command : CreateFinancialReportDraftCommand} {reportId : Uuid}
    (accepted : createFinancialReportDraft view store command reportId context = .ok (next, outcome)) :
    Move store.pricing next.pricing none ∧ ImportsStay store.pricing next.pricing := by
  simp only [createFinancialReportDraft, bind_ok, raiseIf_ok, exists_unit, orRaise_ok, pure_ok, flush,
    Prod.mk.injEq] at accepted
  obtain ⟨_, _, _, _, _, snapshots, inserted, rfl, _⟩ := accepted
  exact ⟨.draft inserted rfl (fun category => by cases category <;> rfl) rfl rfl, ⟨rfl, rfl, rfl⟩⟩

theorem addFinancialReportLine_ok {command : AddFinancialReportLineCommand} {lineId : Uuid}
    (accepted : addFinancialReportLine view store command lineId context = .ok (next, outcome)) :
    ∃ locked, (view 0).pricing.report? context.tenantId command.caseId command.reportId = some locked ∧
      ImportsStay store.pricing next.pricing ∧ ∃ line, locked ∈ store.pricing.snapshots →
        Addition store.pricing next.pricing locked command.category [line] context.receivedAt := by
  simp only [addFinancialReportLine, bind_ok, raiseIf_ok, exists_unit, orRaise_ok, pure_ok, flush,
    Prod.mk.injEq] at accepted
  obtain ⟨_, _, locked, found, _, _, _, lines, inserted, rfl, _⟩ := accepted
  obtain ⟨read, draft⟩ := lockedDraft_ok found
  refine ⟨locked, read, ⟨rfl, rfl, rfl⟩, _, fun present => ⟨present, draft, ?_, Table.insert?_rows inserted, ?_⟩⟩
  · simp
  · intro line only
    rw [List.mem_singleton.mp only]
    exact ⟨rfl, rfl⟩

theorem publishFinancialReport_ok {command : PublishFinancialReportCommand} {publicationId : Uuid}
    (accepted : publishFinancialReport view store command publicationId context = .ok (next, outcome)) :
    ∃ locked, (view 0).pricing.report? context.tenantId command.caseId command.reportId = some locked ∧
      ImportsStay store.pricing next.pricing ∧ (locked ∈ store.pricing.snapshots →
        Publication store.pricing next.pricing locked context.receivedAt) := by
  simp only [publishFinancialReport, bind_ok, raiseIf_ok, exists_unit, orRaise_ok, pure_ok, flush,
    Prod.mk.injEq] at accepted
  obtain ⟨_, _, locked, found, _, snapshots, rewritten, publications, _, rfl, _⟩ := accepted
  obtain ⟨read, draft⟩ := lockedDraft_ok found
  exact ⟨locked, read, ⟨rfl, rfl, rfl⟩, fun present => ⟨present, draft, rewritten, rfl⟩⟩

/-- A new batch with its rows. -/
structure BatchCreated (store next : PricingStore) (batch : PricingImportBatchRecord)
    (rows : List PricingImportRowRecord) : Prop where
  batches : store.importBatches.insert? batch = some next.importBatches
  inserted : store.importRows.insertAll? rows = some next.importRows
  transitions : next.importTransitions = store.importTransitions
  state : batch.state = .previewed
  revision : batch.aggregateRevision = 1
  its : ∀ row ∈ rows, rowOf batch row = true
  counted : rows.length = batch.rowCount
  valued : ((rows.filter fun row => row.errorCodes.isEmpty).map fun row => row.totalMinor.getD 0).sum = batch.totalMinor

theorem previewedRows_map {rows : List CreatePricingImportRowCommand} {tenantId batchId : Uuid} {rowId : Nat → Uuid} :
    ((rows.zipIdx.map (previewedRow tenantId batchId rowId)).filter fun row => row.errorCodes.isEmpty).map
        (fun row => row.totalMinor.getD 0) =
      (rows.filter fun row => row.errors.isEmpty).map fun row => row.totalMinor.getD 0 := by
  have unnumbered : rows = rows.zipIdx.map Prod.fst := (List.zipIdx_map_fst 0 rows).symm
  conv_rhs => rw [unnumbered]
  rw [List.filter_map, List.filter_map, List.map_map, List.map_map]
  rfl

theorem createPricingImportPreview_ok {cases : Table CaseRecord} {store next : PricingStore}
    {command : CreatePricingImportPreviewCommand} {batchId : Uuid} {rowId : Nat → Uuid}
    (accepted : createPricingImportPreview cases store command batchId rowId context = .ok (next, outcome)) :
    next.snapshots = store.snapshots ∧ next.lines = store.lines ∧ ∃ batch rows, BatchCreated store next batch rows := by
  simp only [createPricingImportPreview, bind_ok, raiseIf_ok, exists_unit, orRaise_ok, pure_ok, flush,
    Prod.mk.injEq] at accepted
  obtain ⟨_, _, _, _, _, _, _, batches, one, rows, all, rfl, _⟩ := accepted
  refine ⟨rfl, rfl, _, _, one, all, rfl, rfl, rfl, fun row member => ?_, by simp, congrArg List.sum previewedRows_map⟩
  obtain ⟨entry, _, rfl⟩ := List.mem_map.mp member
  simp [rowOf, previewedRow]

section Created

variable {store next : PricingStore} {batch : PricingImportBatchRecord} {rows : List PricingImportRowRecord}

theorem BatchCreated.absent (created : BatchCreated store next batch rows) :
    ∀ stored ∈ store.importBatches, stored.id ≠ batch.id := fun stored member same =>
  Table.insert?_absent created.batches stored member (.inl same)

theorem BatchCreated.rowsOf_append (created : BatchCreated store next batch rows) (other : PricingImportBatchRecord) :
    next.rowsOf other = store.rowsOf other ++ rows.filter (rowOf other) := by
  rw [PricingStore.rowsOf, Table.insertAll?_rows created.inserted, List.filter_append]
  rfl

/-- The rows of a new batch are those inserted with it. -/
theorem BatchCreated.rowsOf_own (created : BatchCreated store next batch rows) (imports : Imports store) :
    next.rowsOf batch = rows := by
  have none_before : store.rowsOf batch = [] := by
    refine List.filter_eq_nil_iff.mpr fun row member matched => ?_
    obtain ⟨owner, stored, named⟩ := imports.listed row member
    simp only [rowOf, decide_eq_true_eq] at matched
    exact created.absent owner stored (named.trans matched.2)
  rw [created.rowsOf_append, none_before, List.nil_append, List.filter_eq_self.mpr created.its]

theorem BatchCreated.imports (created : BatchCreated store next batch rows) (imports : Imports store) :
    Imports next := by
  refine ⟨fun other member => ?_, fun row member => ?_, fun transition member => ?_⟩
  · rcases (Table.mem_insert? created.batches).mp member with old | rfl
    · have filled := imports.filled other old
      have none : rows.filter (rowOf other) = [] := by
        refine List.filter_eq_nil_iff.mpr fun row listed matched => ?_
        have its := created.its row listed
        simp only [rowOf, decide_eq_true_eq] at its matched
        exact created.absent other old (matched.2.symm.trans its.2)
      have same : next.rowsOf other = store.rowsOf other := by rw [created.rowsOf_append, none, List.append_nil]
      exact ⟨filled.state, filled.revision, by rw [same, filled.counted], by rw [same, filled.valued]⟩
    · have all := created.rowsOf_own imports
      exact ⟨created.state, created.revision, by rw [all, created.counted], by rw [all, created.valued]⟩
  · rcases (Table.mem_insertAll? created.inserted).mp member with old | new
    · obtain ⟨owner, stored, named⟩ := imports.listed row old
      exact ⟨owner, (Table.mem_insert? created.batches).mpr (.inl stored), named⟩
    · have its := created.its row new
      simp only [rowOf, decide_eq_true_eq] at its
      exact ⟨batch, (Table.mem_insert? created.batches).mpr (.inr rfl), its.2.symm⟩
  · rw [created.transitions] at member
    obtain ⟨committed, version, owner, stored, its⟩ := imports.committed transition member
    exact ⟨committed, version, owner, (Table.mem_insert? created.batches).mpr (.inl stored), its⟩

end Created

theorem collect_forall₂ {α β ε : Type} {compute : α → Except ε β} {items : List α} {results : List β}
    (computed : collect compute items = .ok results) :
    List.Forall₂ (fun item result => compute item = .ok result) items results := by
  induction items generalizing results with
  | nil =>
    rw [collect, pure_ok] at computed
    rw [← computed]
    exact .nil
  | cons item items ih =>
    simp only [collect, bind_ok, pure_ok] at computed
    obtain ⟨result, first, rest, others, rfl⟩ := computed
    exact .cons first (ih others)

/-- The line a row of a batch becomes. -/
structure LineOf (reportId : Uuid) (row : PricingImportRowRecord) (line : FinancialReportLineRecord) : Prop where
  snapshotId : line.snapshotId = reportId
  category : line.category = .sales
  label : row.designation = some line.label
  quantityDecimal : row.quantityDecimal = some line.quantityDecimal
  unit : line.unit = if row.unit.getD "" = "" then "U" else row.unit.getD ""
  amountMinor : row.totalMinor.map Int.ofNat = some line.amountMinor

theorem importedLine_ok {reportId : Uuid} {lineId : Nat → Uuid} {entry : PricingImportRowRecord × Nat}
    {line : FinancialReportLineRecord} (made : importedLine reportId lineId entry = .ok line) :
    LineOf reportId entry.1 line := by
  simp only [importedLine, bind_ok, orRaise_ok, pure_ok] at made
  obtain ⟨label, designation, quantity, decimal, total, amount, rfl⟩ := made
  exact ⟨rfl, rfl, designation, decimal, rfl, by rw [amount]; rfl⟩

/-- What a commit of a batch writes, from what its statements read. -/
structure CommitWritten (view : Nat → ReportStore) (store next : ReportStore) (command : CommitPricingImportCommand)
    (context : CommandContext) (batch : PricingImportBatchRecord) (locked : FinancialReportSnapshotRecord)
    (added : List FinancialReportLineRecord) : Prop where
  found : (view 0).pricing.batch? context.tenantId command.caseId command.batchId = some batch
  pending : (view 1).pricing.importState batch = .previewed
  valid : batch.validRowCount = batch.rowCount
  read : (view 2).pricing.report? context.tenantId command.caseId command.reportId = some locked
  draft : locked.state = .draft
  clean : ∀ row ∈ (view 3).pricing.batchRows batch, row.errorCodes = []
  made : List.Forall₂ (LineOf locked.id) ((view 3).pricing.batchRows batch) added
  lines : next.pricing.lines.rows = store.pricing.lines.rows ++ added
  snapshots : next.pricing.snapshots = store.pricing.snapshots.update (fun row => row.id = locked.id)
    (locked.add .sales (added.map (·.amountMinor)).sum context.receivedAt) (add_columns _ _ _ _)
  batches : next.pricing.importBatches = store.pricing.importBatches
  rows : next.pricing.importRows = store.pricing.importRows
  transition : ∃ transition : PricingImportTransitionRecord, transition.tenantId = context.tenantId ∧
    transition.batchId = batch.id ∧ transition.toState = .committed ∧
    transition.version = (view 1).pricing.importRevision batch + 1 ∧
    store.pricing.importTransitions.insert? transition = some next.pricing.importTransitions

theorem commitImportSession_ok {command : CommitPricingImportCommand} {transitionId : Uuid} {lineId : Nat → Uuid}
    (accepted : commitImportSession view store command transitionId lineId context = .ok (next, outcome)) :
    ∃ batch locked added, CommitWritten view store next command context batch locked added := by
  simp only [commitImportSession, bind_ok, raiseIf_ok, exists_unit, orRaise_ok, pure_ok, flush, Prod.mk.injEq,
    not_or, not_exists, not_and, not_not] at accepted
  obtain ⟨_, _, batch, found, pending, _, valid, locked, opened, ⟨_, clean⟩, added, made, _, _, lines, all, transitions,
    inserted, rfl, _⟩ := accepted
  obtain ⟨read, draft⟩ := lockedDraft_ok opened
  have each : List.Forall₂ (LineOf locked.id) ((view 3).pricing.batchRows batch) added := by
    have made := collect_forall₂ made
    conv => arg 2; rw [← List.zipIdx_map_fst 0 ((view 3).pricing.batchRows batch)]
    exact List.forall₂_map_left_iff.mpr (made.imp fun _ _ => importedLine_ok)
  exact ⟨batch, locked, added, found, pending, valid.2, read, draft, clean, each, Table.insertAll?_rows all, rfl, rfl, rfl, _,
    rfl, rfl, rfl, rfl, inserted⟩

section Commit

variable {command : CommitPricingImportCommand} {batch : PricingImportBatchRecord}
  {added : List FinancialReportLineRecord}

theorem lines_of {reportId : Uuid} {rows : List PricingImportRowRecord} {added : List FinancialReportLineRecord}
    (made : List.Forall₂ (LineOf reportId) rows added) :
    (∀ line ∈ added, line.snapshotId = reportId ∧ line.category = .sales) ∧
      added.map (·.amountMinor) = rows.map fun row => (row.totalMinor.getD 0 : Int) := by
  induction made with
  | nil => exact ⟨fun _ member => absurd member List.not_mem_nil, rfl⟩
  | cons first _ ih =>
    obtain ⟨total, valued, amount⟩ := Option.map_eq_some_iff.mp first.amountMinor
    refine ⟨List.forall_mem_cons.mpr ⟨⟨first.snapshotId, first.category⟩, ih.1⟩, ?_⟩
    rw [List.map_cons, List.map_cons, ih.2, valued, ← amount]
    rfl

theorem batch?_some {store : PricingStore} {tenantId caseId batchId : Uuid}
    (found : store.batch? tenantId caseId batchId = some batch) :
    batch ∈ store.importBatches ∧ batch.tenantId = tenantId ∧ batch.caseId = caseId ∧ batch.id = batchId := by
  have query := Table.find?_query found
  rw [decide_eq_true_eq] at query
  exact ⟨Table.find?_mem found, query⟩

/-- A batch that reads as previewed has no transition, and its revision is its own. -/
theorem Imports.pending {store : PricingStore} (imports : Imports store) (revision : batch.aggregateRevision = 1)
    (pending : store.importState batch = .previewed) : store.importRevision batch = 1 := by
  unfold PricingStore.importState at pending
  unfold PricingStore.importRevision
  cases latest : store.latestImport batch with
  | none => exact revision
  | some transition =>
    rw [latest, Option.map_some, Option.getD_some, (imports.committed transition (Table.latest_mem latest).1).1] at pending
    cases pending

/-- The rows of a batch stay those it was created with. -/
theorem BatchFilled.same {old new : PricingStore} (before : BatchFilled old batch) (after : BatchFilled new batch)
    (growth : Growth old new) : new.rowsOf batch = old.rowsOf batch :=
  ((growth.rows.filter (rowOf batch)).eq_of_length (before.counted.trans after.counted.symm)).symm

/-- What a commit contributes: one line per row, in the order of their numbers, and the total of the batch. -/
structure Contributes (before after : PricingStore) (reportId batchId : Uuid) (batch : PricingImportBatchRecord)
    (added : List FinancialReportLineRecord) : Prop where
  stored : batch ∈ before.importBatches
  its : batch.id = batchId
  uncommitted : ∀ transition ∈ before.importTransitions, transition.batchId ≠ batchId
  committed : ∃ transition ∈ after.importTransitions, transition.batchId = batchId ∧ transition.toState = .committed
  lines : after.lines.rows = before.lines.rows ++ added
  rows : List.Forall₂ (LineOf reportId) (after.batchRows batch) added
  total : (added.map (·.amountMinor)).sum = batch.totalMinor

namespace CommitWritten

theorem addition (written : CommitWritten view store next command context batch locked added)
    (present : locked ∈ store.pricing.snapshots) :
    Addition store.pricing next.pricing locked .sales added context.receivedAt :=
  ⟨present, written.draft, written.snapshots, written.lines, (lines_of written.made).1⟩

/-- The rows a commit reads are those its batch has when it ends. -/
theorem batchRows_read (written : CommitWritten view store next command context batch locked added)
    (stages : ∀ statement, Growth (view statement).pricing store.pricing ∧ Ledger (view statement).pricing)
    (ledger : Ledger store.pricing) (order : Growth (view 0).pricing (view 3).pricing) :
    store.pricing.rowsOf batch = (view 3).pricing.rowsOf batch ∧
      next.pricing.batchRows batch = (view 3).pricing.batchRows batch := by
  have first := (batch?_some written.found).1
  have filled := ledger.imports.filled batch ((stages 0).1.batches.subset first)
  have same := ((stages 3).2.imports.filled batch (order.batches.subset first)).same filled (stages 3).1
  refine ⟨same, ?_⟩
  unfold PricingStore.batchRows
  rw [written.rows]
  exact congrArg _ same

theorem contributes (written : CommitWritten view store next command context batch locked added)
    (stages : ∀ statement, Growth (view statement).pricing store.pricing ∧ Ledger (view statement).pricing)
    (ledger : Ledger store.pricing) (order : Growth (view 0).pricing (view 3).pricing) :
    Contributes store.pricing next.pricing command.reportId command.batchId batch added ∧ Imports next.pricing := by
  obtain ⟨first, tenant, _, id⟩ := batch?_some written.found
  have stored : batch ∈ store.pricing.importBatches := (stages 0).1.batches.subset first
  have filled := ledger.imports.filled batch stored
  obtain ⟨same, rows⟩ := written.batchRows_read stages ledger order
  have revision := (stages 1).2.imports.pending filled.revision written.pending
  obtain ⟨transition, owner, its, state, version, inserted⟩ := written.transition
  rw [revision] at version
  have absent : ∀ stored ∈ store.pricing.importTransitions, stored.batchId ≠ batch.id := by
    intro stored member equal
    obtain ⟨_, second, other, known, named, held⟩ := ledger.imports.committed stored member
    rw [batch_of_id known ‹batch ∈ store.pricing.importBatches› (named.trans equal)] at held
    refine Table.insert?_absent inserted stored member (.inr ⟨held.symm.trans (tenant.trans owner.symm), .inl ?_⟩)
    exact Prod.ext (equal.trans its.symm) (second.trans version.symm)
  have sum : (added.map (·.amountMinor)).sum = batch.totalMinor := by
    have clean : (store.pricing.rowsOf batch).filter (fun row => row.errorCodes.isEmpty) = store.pricing.rowsOf batch := by
      refine List.filter_eq_self.mpr fun row member => ?_
      have listed : row ∈ (view 3).pricing.batchRows batch := by
        rw [same] at member
        exact (List.mem_insertionSort _).mpr member
      rw [written.clean row listed]
      rfl
    have sorted : ((view 3).pricing.batchRows batch).Perm (store.pricing.rowsOf batch) := by
      rw [same]
      exact List.perm_insertionSort _ _
    rw [(lines_of written.made).2, (sorted.map _).sum_eq, ← filled.valued, clean, Nat.cast_list_sum, List.map_map]
    rfl
  have target := (report?_some written.read).2.2.2
  have made := written.made
  rw [target] at made
  refine ⟨⟨stored, id, ?_, ?_, written.lines, by rw [rows]; exact made, sum⟩, ?_⟩
  · rw [← id]
    exact absent
  · exact ⟨transition, (Table.mem_insert? inserted).mpr (.inr rfl), its.trans id, state⟩
  · refine ⟨fun other member => ?_, ?_, fun other member => ?_⟩
    · rw [written.batches] at member
      have before := ledger.imports.filled other member
      have kept : next.pricing.rowsOf other = store.pricing.rowsOf other := by
        rw [PricingStore.rowsOf, written.rows]
        rfl
      exact ⟨before.state, before.revision, by rw [kept, before.counted], by rw [kept, before.valued]⟩
    · rw [written.batches, written.rows]
      exact ledger.imports.listed
    · rw [written.batches]
      rcases (Table.mem_insert? inserted).mp member with old | rfl
      · exact ledger.imports.committed other old
      · exact ⟨state, version, batch, stored, its.symm, tenant.trans owner.symm⟩

end CommitWritten

end Commit

section Locks

variable {state after : ReportSessions} {locker : Locker ReportStore FinancialTransaction (Touched FinancialRow)}
  {index : Nat} {tenantId caseId reportId : Uuid}

structure Reporting (state : ReportSessions) : Prop where
  ledger : Ledger state.store.pricing
  locked : state.Locked financialScript KeptRow
  ordered : state.Ordered Stage

/-- The snapshot a command writes. -/
def FinancialTransaction.target (entry : FinancialTransaction) : Option Uuid :=
  match entry.command with
  | .line command _ => some command.reportId
  | .publish command _ => some command.reportId
  | .commit command _ _ => some command.reportId
  | .draft _ _ | .preview _ _ _ => none

/-- The batch a command commits. -/
def FinancialTransaction.batch (entry : FinancialTransaction) : Option Uuid :=
  match entry.command with
  | .commit command _ _ => some command.batchId
  | _ => none

/-- A snapshot that a statement locked is still stored, and held. -/
theorem report_present (locked : state.Locked financialScript KeptRow) (member : locker ∈ state.active)
    {statement : Nat} (ran : statement < locker.held.length)
    (names : ∀ view, (view statement).pricing.report? tenantId caseId reportId = some snapshot →
      locker.command.statement statement view = some (.row (.snapshot snapshot.id)))
    (read : (heldView locker.held state.store statement).pricing.report? tenantId caseId reportId = some snapshot) :
    snapshot ∈ state.store.pricing.snapshots ∧ locker.holds (.row (.snapshot snapshot.id)) = true := by
  have entry : locker.held[statement]? = some (locker.held[statement].1, locker.held[statement].2) :=
    List.getElem?_eq_getElem ran
  have named := locked.scripted locker member statement _ _ entry
  have length : (locker.held.take statement).length = statement := by
    rw [List.length_take]
    omega
  have last : heldView (locker.held.take statement) locker.held[statement].2 statement = locker.held[statement].2 := by
    simp [heldView]
  rw [heldView_of_lt ran] at read
  simp only [financialScript, length] at named
  rw [names _ (by rw [last]; exact read), Option.some.injEq] at named
  have kept := locked.kept locker member _ (List.getElem_mem ran)
  rw [← named] at kept
  refine ⟨kept snapshot.id rfl snapshot (report?_some read).1 rfl, Locker.holds_iff.mpr ⟨locker.held[statement].2, ?_⟩⟩
  rw [named]
  exact List.getElem_mem ran

/-- What a command that ends does. -/
structure Ended (store next : ReportStore) (target batch : Option Uuid) : Prop where
  move : Move store.pricing next.pricing target
  growth : Growth store.pricing next.pricing
  imports : Imports next.pricing
  transitions : ∃ added, next.pricing.importTransitions.rows = store.pricing.importTransitions.rows ++ added ∧
    added.map (·.batchId) = batch.toList

theorem Ended.of {target batch : Option Uuid} (move : Move store.pricing next.pricing target)
    (batches : store.pricing.importBatches.rows <+: next.pricing.importBatches.rows)
    (rows : store.pricing.importRows.rows <+: next.pricing.importRows.rows) (imports : Imports next.pricing)
    (transitions : ∃ added, next.pricing.importTransitions.rows = store.pricing.importTransitions.rows ++ added ∧
      added.map (·.batchId) = batch.toList) : Ended store next target batch := by
  refine ⟨move, ⟨batches, rows, move.lines, ?_, move.published⟩, imports, transitions⟩
  obtain ⟨added, appended, _⟩ := transitions
  rw [appended]
  exact List.prefix_append _ _

theorem Ended.stay {target : Option Uuid} (move : Move store.pricing next.pricing target)
    (stay : ImportsStay store.pricing next.pricing) (imports : Imports store.pricing) : Ended store next target none :=
  .of move (by rw [stay.batches]) (by rw [stay.rows]) (stay.imports imports)
    ⟨[], by rw [stay.transitions, List.append_nil], rfl⟩

theorem Reporting.stages (reporting : Reporting state) (member : locker ∈ state.active) (statement : Nat) :
    Growth (heldView locker.held state.store statement).pricing state.store.pricing ∧
      Ledger (heldView locker.held state.store statement).pricing := by
  have stage := reporting.ordered.store Stage.refl member statement
  exact ⟨stage.1, stage.2 reporting.ledger⟩

/-- A commit that ends has locked the snapshot it writes. -/
theorem commit_locked (locked : state.Locked financialScript KeptRow) (member : locker ∈ state.active)
    (done : financialScript.next locker.command locker.held state.store = none) {transaction : Nat}
    {command : CommitPricingImportCommand} {transitionId : Uuid} {lineId : Nat → Uuid}
    (its : locker.command = ⟨transaction, .commit command transitionId lineId, context⟩)
    {batch : PricingImportBatchRecord} {added : List FinancialReportLineRecord}
    (written : CommitWritten (heldView locker.held state.store) state.store next command context batch snapshot added) :
    snapshot ∈ state.store.pricing.snapshots ∧ locker.holds (.row (.snapshot snapshot.id)) = true := by
  have ran : 2 < locker.held.length := by
    by_contra few
    have cases : locker.held.length = 0 ∨ locker.held.length = 1 ∨ locker.held.length = 2 := by omega
    simp only [financialScript, its, FinancialTransaction.statement] at done
    rcases cases with none | one | two
    · simp [none, written.found] at done
    · simp [one] at done
    · simp [two, written.read] at done
  exact report_present locked member ran (fun view read => by simp [its, FinancialTransaction.statement, read]) written.read

/-- A line or a publication that ends has locked the snapshot it writes. -/
theorem first_locked (locked : state.Locked financialScript KeptRow) (member : locker ∈ state.active)
    (done : financialScript.next locker.command locker.held state.store = none)
    (names : ∀ view, locker.command.statement 0 view =
      ((view 0).pricing.report? tenantId caseId reportId).map fun row => .row (.snapshot row.id))
    (read : (heldView locker.held state.store 0).pricing.report? tenantId caseId reportId = some snapshot) :
    snapshot ∈ state.store.pricing.snapshots ∧ locker.holds (.row (.snapshot snapshot.id)) = true := by
  have ran : 0 < locker.held.length := by
    by_contra none
    have empty : locker.held.length = 0 := by omega
    simp only [financialScript, empty, names, read, Option.map_some, reduceCtorEq] at done
  exact report_present locked member ran (fun view read => by rw [names, read]; rfl) read

theorem Reporting.ends (reporting : Reporting state) (member : locker ∈ state.active)
    (done : financialScript.next locker.command locker.held state.store = none)
    (written : locker.command.execute (heldView locker.held state.store) state.store = .ok (next, outcome)) :
    Ended state.store next locker.command.target locker.command.batch ∧ ∀ id, locker.command.target = some id →
      locker.holds (.row (.snapshot id)) = true := by
  have imports := reporting.ledger.imports
  cases its : locker.command with
  | mk transaction command context =>
    cases command with
    | draft command reportId =>
      simp only [FinancialTransaction.execute, its] at written
      obtain ⟨move, stay⟩ := createFinancialReportDraft_ok written
      exact ⟨.stay move stay imports, fun _ never => by cases never⟩
    | line command lineId =>
      simp only [FinancialTransaction.execute, its] at written
      obtain ⟨snapshot, read, stay, line, addition⟩ := addFinancialReportLine_ok written
      obtain ⟨present, held⟩ := first_locked reporting.locked member done (fun view => by rw [its]; rfl) read
      have move := (addition present).move
      rw [(report?_some read).2.2.2] at move held
      exact ⟨.stay move stay imports, fun id target => by cases target; exact held⟩
    | publish command publicationId =>
      simp only [FinancialTransaction.execute, its] at written
      obtain ⟨snapshot, read, stay, publication⟩ := publishFinancialReport_ok written
      obtain ⟨present, held⟩ := first_locked reporting.locked member done (fun view => by rw [its]; rfl) read
      have move := (publication present).move
      rw [(report?_some read).2.2.2] at move held
      exact ⟨.stay move stay imports, fun id target => by cases target; exact held⟩
    | preview command batchId rowId =>
      simp only [FinancialTransaction.execute, its, createImportSession, bind_ok, pure_ok, Prod.mk.injEq] at written
      obtain ⟨⟨pricing, _⟩, created, rfl, _⟩ := written
      obtain ⟨snapshots, lines, batch, rows, created⟩ := createPricingImportPreview_ok created
      refine ⟨.of (.same snapshots lines) ?_ ?_ (created.imports imports) ⟨[], ?_, rfl⟩, fun _ never => by cases never⟩
      · rw [Table.insert?_rows created.batches]
        exact List.prefix_append _ _
      · rw [Table.insertAll?_rows created.inserted]
        exact List.prefix_append _ _
      · rw [created.transitions, List.append_nil]
    | commit command transitionId lineId =>
      simp only [FinancialTransaction.execute, its] at written
      obtain ⟨batch, snapshot, added, written⟩ := commitImportSession_ok written
      obtain ⟨present, held⟩ := commit_locked reporting.locked member done its written
      have move := (written.addition present).move
      have order := (reporting.ordered.view Stage.refl member (by omega : 0 < 3)).1
      obtain ⟨_, after⟩ := written.contributes (reporting.stages member) reporting.ledger order
      rw [(report?_some written.read).2.2.2] at move held
      refine ⟨.of move (by rw [written.batches]) (by rw [written.rows]) after ?_, fun id target => by cases target; exact held⟩
      obtain ⟨transition, _, owner, _, _, inserted⟩ := written.transition
      refine ⟨[transition], Table.insert?_rows inserted, ?_⟩
      rw [List.map_singleton, owner, (batch?_some written.found).2.2.2]
      rfl

theorem Reporting.step {input : HolderInput ReportWrite FinancialTransaction} (reporting : Reporting state)
    (accepted : interleaveReports state input = .ok after) : Reporting after ∧ ∃ target batch,
      Ended state.store after.store target batch ∧ (∀ index, input = .finish index → ∃ locker,
        state.active[index]? = some locker ∧ locker.command.target = target ∧ locker.command.batch = batch) ∧
      ((∀ index, input ≠ .finish index) → target = none ∧ batch = none) := by
  have ended : ∃ target batch, Ended state.store after.store target batch ∧ (∀ index, input = .finish index →
        ∃ locker, state.active[index]? = some locker ∧ locker.command.target = target ∧ locker.command.batch = batch) ∧
      ((∀ index, input ≠ .finish index) → target = none ∧ batch = none) := by
    by_cases ending : ∃ index, input = .finish index
    · obtain ⟨index, rfl⟩ := ending
      obtain ⟨locker, store, picked, done, written, rfl⟩ := Lockers.step_finish accepted
      obtain ⟨outcome, written⟩ := map_fst_ok.mp written
      have ended := (reporting.ends (List.mem_of_getElem? picked) done written).1
      exact ⟨_, _, ended, fun _ same => by cases same; exact ⟨locker, picked, rfl, rfl⟩, fun never => absurd rfl (never index)⟩
    · have ongoing : ∀ index, input ≠ .finish index := fun index is => ending ⟨index, is⟩
      refine ⟨none, none, ?_, fun index is => absurd is (ongoing index), fun _ => ⟨rfl, rfl⟩⟩
      rcases Lockers.step_store ongoing accepted with same | ⟨write, moved⟩
      · rw [same]
        exact .stay (.same rfl rfl) ⟨rfl, rfl, rfl⟩ reporting.ledger.imports
      · rw [← Except.ok.inj moved]
        exact .stay (.same rfl rfl) ⟨rfl, rfl, rfl⟩ reporting.ledger.imports
  refine ⟨?_, ended⟩
  obtain ⟨target, batch, ended, _⟩ := ended
  have ledger : Ledger after.store.pricing := ⟨ended.move.books reporting.ledger.books, ended.imports⟩
  refine ⟨ledger, ?_, Lockers.step_ordered Stage.refl Stage.trans reporting.ordered ⟨ended.growth, fun _ => reporting.ledger⟩
    accepted⟩
  refine Lockers.step_locked KeptRow.refl KeptRow.trans (fun write later alone row id _ snapshot member _ => ?_)
    (fun locker member later done written row free id its snapshot stored same => ?_) reporting.locked accepted
  · rw [← Except.ok.inj alone]
    exact member
  · obtain ⟨outcome, written⟩ := map_fst_ok.mp written
    obtain ⟨ended, held⟩ := reporting.ends member done written
    refine ended.move.stays snapshot stored fun target => ?_
    have holds := held snapshot.id target
    rw [same, ← its, free] at holds
    cases holds

end Locks

end SmartAo.Pricing
