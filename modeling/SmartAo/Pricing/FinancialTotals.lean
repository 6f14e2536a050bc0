import SmartAo.Pricing.FinancialReport
import Mathlib.Algebra.BigOperators.Group.List.Basic

namespace SmartAo.Pricing

open SmartAo.Foundation SmartAo.Platform SmartAo.Case

def PricingStore.linesOf (store : PricingStore) (snapshotId : Uuid) : List FinancialReportLineRecord :=
  store.lines.rows.filter fun line => line.snapshotId = snapshotId

/-- The sum of the lines of one category. -/
def amounts (lines : List FinancialReportLineRecord) (category : LineCategory) : Int :=
  ((lines.filter fun line => line.category = category).map (·.amountMinor)).sum

def PricingStore.rowsOf (store : PricingStore) (batch : PricingImportBatchRecord) : List PricingImportRowRecord :=
  store.importRows.rows.filter (rowOf batch)

/-- The rows of a batch, and what the batch says of them. -/
structure BatchFilled (store : PricingStore) (batch : PricingImportBatchRecord) : Prop where
  state : batch.state = .previewed
  revision : batch.aggregateRevision = 1
  counted : (store.rowsOf batch).length = batch.rowCount
  valued : (((store.rowsOf batch).filter fun row => row.errorCodes.isEmpty).map fun row => row.totalMinor.getD 0).sum =
    batch.totalMinor

/-- Each total is the sum of its lines. -/
structure Books (store : PricingStore) : Prop where
  totals : ∀ snapshot ∈ store.snapshots, ∀ category,
    snapshot.total category = amounts (store.linesOf snapshot.id) category
  placed : ∀ line ∈ store.lines, ∃ snapshot ∈ store.snapshots, snapshot.id = line.snapshotId
  unrated : ∀ snapshot ∈ store.snapshots, snapshot.grossMarginRateBps = 0

/-- Batches hold their rows, and lead to one transition only. -/
structure Imports (store : PricingStore) : Prop where
  filled : ∀ batch ∈ store.importBatches, BatchFilled store batch
  listed : ∀ row ∈ store.importRows, ∃ batch ∈ store.importBatches, batch.id = row.batchId
  committed : ∀ transition ∈ store.importTransitions, transition.toState = .committed ∧ transition.version = 2 ∧
    ∃ batch ∈ store.importBatches, batch.id = transition.batchId ∧ batch.tenantId = transition.tenantId

structure Ledger (store : PricingStore) : Prop where
  books : Books store
  imports : Imports store

/-- Batches, rows, lines and transitions are only ever added, and a published snapshot stays with its lines. -/
structure Growth (old new : PricingStore) : Prop where
  batches : old.importBatches.rows <+: new.importBatches.rows
  rows : old.importRows.rows <+: new.importRows.rows
  lines : old.lines.rows <+: new.lines.rows
  transitions : old.importTransitions.rows <+: new.importTransitions.rows
  published : ∀ snapshot ∈ old.snapshots, snapshot.state = .published →
    snapshot ∈ new.snapshots ∧ new.linesOf snapshot.id = old.linesOf snapshot.id

def Stage (old new : ReportStore) : Prop :=
  Growth old.pricing new.pricing ∧ (Ledger new.pricing → Ledger old.pricing)

/-- A locked snapshot stays as it is. -/
def KeptRow (row : Touched FinancialRow) (old new : ReportStore) : Prop :=
  ∀ id, row = .row (.snapshot id) → ∀ snapshot ∈ old.pricing.snapshots, snapshot.id = id →
    snapshot ∈ new.pricing.snapshots

variable {store next : PricingStore} {snapshot locked : FinancialReportSnapshotRecord} {category : LineCategory}
  {line : FinancialReportLineRecord} {batch : PricingImportBatchRecord}

theorem Growth.refl (store : PricingStore) : Growth store store where
  batches := List.prefix_rfl
  rows := List.prefix_rfl
  lines := List.prefix_rfl
  transitions := List.prefix_rfl
  published _ member _ := ⟨member, rfl⟩

theorem Growth.trans {old new later : PricingStore} (first : Growth old new) (second : Growth new later) :
    Growth old later where
  batches := first.batches.trans second.batches
  rows := first.rows.trans second.rows
  lines := first.lines.trans second.lines
  transitions := first.transitions.trans second.transitions
  published snapshot member published := by
    obtain ⟨present, same⟩ := first.published snapshot member published
    obtain ⟨still, also⟩ := second.published snapshot present published
    exact ⟨still, also.trans same⟩

theorem Stage.refl (store : ReportStore) : Stage store store := ⟨Growth.refl _, id⟩

theorem Stage.trans {old new later : ReportStore} (first : Stage old new) (second : Stage new later) : Stage old later :=
  ⟨first.1.trans second.1, first.2 ∘ second.2⟩

theorem KeptRow.refl (row : Touched FinancialRow) (store : ReportStore) : KeptRow row store store :=
  fun _ _ _ member _ => member

theorem KeptRow.trans {row : Touched FinancialRow} {old new later : ReportStore} (first : KeptRow row old new)
    (second : KeptRow row new later) : KeptRow row old later :=
  fun id its snapshot member same => second id its snapshot (first id its snapshot member same) same

theorem amounts_append {first second : List FinancialReportLineRecord} :
    amounts (first ++ second) category = amounts first category + amounts second category := by
  simp [amounts]

theorem snapshot_of_id {other : FinancialReportSnapshotRecord} (one : snapshot ∈ store.snapshots)
    (two : other ∈ store.snapshots) (same : snapshot.id = other.id) : snapshot = other :=
  Table.eq_of_conflict one two (.inl same)

theorem batch_of_id {other : PricingImportBatchRecord} (one : batch ∈ store.importBatches)
    (two : other ∈ store.importBatches) (same : batch.id = other.id) : batch = other :=
  Table.eq_of_conflict one two (.inl same)

@[simp] theorem total_add {receivedAt : Timestamp} {amount : Int} {other : LineCategory} :
    (locked.add category amount receivedAt locked).total other =
      locked.total other + if other = category then amount else 0 := by
  cases category <;> cases other <;> simp [FinancialReportSnapshotRecord.add, FinancialReportSnapshotRecord.setTotal,
    FinancialReportSnapshotRecord.total]

@[simp] theorem add_id {receivedAt : Timestamp} {amount : Int} : (locked.add category amount receivedAt snapshot).id = snapshot.id := by
  cases category <;> rfl

@[simp] theorem add_state {receivedAt : Timestamp} {amount : Int} :
    (locked.add category amount receivedAt snapshot).state = snapshot.state := by
  cases category <;> rfl

@[simp] theorem add_rate {receivedAt : Timestamp} {amount : Int} :
    (locked.add category amount receivedAt snapshot).grossMarginRateBps = snapshot.grossMarginRateBps := by
  cases category <;> rfl

theorem linesOf_append {added : List FinancialReportLineRecord} (lines : next.lines.rows = store.lines.rows ++ added)
    (snapshotId : Uuid) :
    next.linesOf snapshotId = store.linesOf snapshotId ++ added.filter fun line => line.snapshotId = snapshotId := by
  rw [PricingStore.linesOf, lines, List.filter_append]
  rfl

theorem Books.no_lines (books : Books store) {id : Uuid} (absent : ∀ stored ∈ store.snapshots, stored.id ≠ id) :
    store.linesOf id = [] := by
  refine List.filter_eq_nil_iff.mpr fun line member matched => ?_
  obtain ⟨owner, stored, named⟩ := books.placed line member
  exact absent owner stored (named.trans (of_decide_eq_true matched))

theorem Books.draft (books : Books store) (inserted : store.snapshots.insert? snapshot = some next.snapshots)
    (lines : next.lines = store.lines) (zero : ∀ category, snapshot.total category = 0)
    (rate : snapshot.grossMarginRateBps = 0) : Books next := by
  have absent : ∀ stored ∈ store.snapshots, stored.id ≠ snapshot.id := fun stored member same =>
    Table.insert?_absent inserted stored member (.inl same)
  have same : ∀ id, next.linesOf id = store.linesOf id := by
    intro id
    rw [PricingStore.linesOf, lines]
    rfl
  refine ⟨fun other member category => ?_, fun line member => ?_, fun other member => ?_⟩
  · rw [same]
    rcases (Table.mem_insert? inserted).mp member with old | rfl
    · exact books.totals other old category
    · rw [zero, books.no_lines absent]
      rfl
  · rw [lines] at member
    obtain ⟨owner, stored, named⟩ := books.placed line member
    exact ⟨owner, (Table.mem_insert? inserted).mpr (.inl stored), named⟩
  · rcases (Table.mem_insert? inserted).mp member with old | rfl
    · exact books.unrated other old
    · exact rate

/-- A write that adds lines of one category to a locked draft. -/
structure Addition (store next : PricingStore) (locked : FinancialReportSnapshotRecord) (category : LineCategory)
    (added : List FinancialReportLineRecord) (receivedAt : Timestamp) : Prop where
  present : locked ∈ store.snapshots
  draft : locked.state = .draft
  snapshots : next.snapshots = store.snapshots.update (fun row => row.id = locked.id)
    (locked.add category (added.map (·.amountMinor)).sum receivedAt) (add_columns _ _ _ _)
  lines : next.lines.rows = store.lines.rows ++ added
  its : ∀ line ∈ added, line.snapshotId = locked.id ∧ line.category = category

namespace Addition

variable {added : List FinancialReportLineRecord} {receivedAt : Timestamp}

theorem mem (addition : Addition store next locked category added receivedAt) : snapshot ∈ next.snapshots ↔
    snapshot = locked.add category (added.map (·.amountMinor)).sum receivedAt locked ∨
      (snapshot ∈ store.snapshots ∧ snapshot.id ≠ locked.id) := by
  have key {first second : FinancialReportSnapshotRecord} (one : decide (first.id = locked.id) = true)
      (other : decide (second.id = locked.id) = true) : Schema.Conflict first second :=
    .inl ((of_decide_eq_true one).trans (of_decide_eq_true other).symm)
  rw [addition.snapshots, Table.mem_update_key key addition.present (decide_eq_true rfl), decide_eq_false_iff_not]

theorem linesOf (addition : Addition store next locked category added receivedAt) (id : Uuid) :
    next.linesOf id = store.linesOf id ++ if id = locked.id then added else [] := by
  rw [linesOf_append addition.lines]
  split
  · rename_i same
    rw [List.filter_eq_self.mpr fun line member => decide_eq_true ((addition.its line member).1.trans same.symm)]
  · rename_i apart
    rw [List.filter_eq_nil_iff.mpr fun line member matched =>
      apart ((of_decide_eq_true matched).symm.trans (addition.its line member).1)]

theorem amounts_added (addition : Addition store next locked category added receivedAt) (other : LineCategory) :
    amounts added other = if other = category then (added.map (·.amountMinor)).sum else 0 := by
  unfold amounts
  split
  · rename_i same
    rw [List.filter_eq_self.mpr fun line member => decide_eq_true ((addition.its line member).2.trans same.symm)]
  · rename_i apart
    rw [List.filter_eq_nil_iff.mpr fun line member matched =>
      apart ((of_decide_eq_true matched).symm.trans (addition.its line member).2)]
    rfl

theorem books (addition : Addition store next locked category added receivedAt) (books : Books store) : Books next := by
  refine ⟨fun snapshot member other => ?_, fun line member => ?_, fun snapshot member => ?_⟩
  · rw [addition.linesOf]
    rcases addition.mem.mp member with rfl | ⟨old, apart⟩
    · rw [add_id, if_pos rfl, amounts_append, total_add, addition.amounts_added,
        books.totals locked addition.present]
    · rw [if_neg apart, List.append_nil]
      exact books.totals snapshot old other
  · rw [← Table.mem_rows, addition.lines, List.mem_append] at member
    have owner : ∃ snapshot ∈ store.snapshots, snapshot.id = line.snapshotId := by
      rcases member with old | new
      · exact books.placed line old
      · exact ⟨locked, addition.present, (addition.its line new).1.symm⟩
    obtain ⟨snapshot, stored, named⟩ := owner
    by_cases same : snapshot.id = locked.id
    · exact ⟨_, addition.mem.mpr (.inl rfl), by rw [add_id, ← same, named]⟩
    · exact ⟨snapshot, addition.mem.mpr (.inr ⟨stored, same⟩), named⟩
  · rcases addition.mem.mp member with rfl | ⟨old, _⟩
    · rw [add_rate]
      exact books.unrated locked addition.present
    · exact books.unrated snapshot old

end Addition

/-- The publication of a locked draft. -/
structure Publication (store next : PricingStore) (locked : FinancialReportSnapshotRecord) (receivedAt : Timestamp) :
    Prop where
  present : locked ∈ store.snapshots
  draft : locked.state = .draft
  rewritten : store.snapshots.rewrite? (fun row => row.id = locked.id) (locked.publish receivedAt) = some next.snapshots
  lines : next.lines = store.lines

namespace Publication

variable {receivedAt : Timestamp}

theorem mem (publication : Publication store next locked receivedAt) : snapshot ∈ next.snapshots ↔
    snapshot = locked.publish receivedAt locked ∨ (snapshot ∈ store.snapshots ∧ snapshot.id ≠ locked.id) := by
  rw [Table.mem_rewrite? publication.rewritten]
  constructor
  · rintro ⟨old, stored, rfl⟩
    by_cases same : old.id = locked.id
    · rw [snapshot_of_id stored publication.present same]
      exact .inl (by simp)
    · exact .inr (by simpa [same] using stored)
  · rintro (rfl | ⟨stored, apart⟩)
    · exact ⟨locked, publication.present, by simp⟩
    · exact ⟨snapshot, stored, by simp [apart]⟩

theorem linesOf (publication : Publication store next locked receivedAt) (id : Uuid) :
    next.linesOf id = store.linesOf id := by
  rw [PricingStore.linesOf, publication.lines]
  rfl

theorem books (publication : Publication store next locked receivedAt) (books : Books store) : Books next := by
  refine ⟨fun snapshot member category => ?_, fun line member => ?_, fun snapshot member => ?_⟩
  · rw [publication.linesOf]
    rcases publication.mem.mp member with rfl | ⟨old, _⟩
    · have kept : (locked.publish receivedAt locked).total category = locked.total category := by cases category <;> rfl
      rw [kept]
      exact books.totals locked publication.present category
    · exact books.totals snapshot old category
  · rw [publication.lines] at member
    obtain ⟨snapshot, stored, named⟩ := books.placed line member
    by_cases same : snapshot.id = locked.id
    · exact ⟨_, publication.mem.mpr (.inl rfl), same.symm.trans named⟩
    · exact ⟨snapshot, publication.mem.mpr (.inr ⟨stored, same⟩), named⟩
  · rcases publication.mem.mp member with rfl | ⟨old, _⟩
    · exact books.unrated locked publication.present
    · exact books.unrated snapshot old

end Publication

/-- What a command does to the snapshots: it writes its target, or adds a snapshot of revision zero. -/
structure Move (store next : PricingStore) (target : Option Uuid) : Prop where
  books : Books store → Books next
  lines : store.lines.rows <+: next.lines.rows
  published : ∀ snapshot ∈ store.snapshots, snapshot.state = .published →
    snapshot ∈ next.snapshots ∧ next.linesOf snapshot.id = store.linesOf snapshot.id
  stays : ∀ snapshot ∈ store.snapshots, target ≠ some snapshot.id → snapshot ∈ next.snapshots
  written : ∀ id, target = some id → ∃ old ∈ store.snapshots, ∃ new ∈ next.snapshots, old.id = id ∧ new.id = id ∧
    new.aggregateRevision = old.aggregateRevision + 1
  fresh : ∀ snapshot ∈ next.snapshots, (∀ old ∈ store.snapshots, old.id ≠ snapshot.id) → snapshot.aggregateRevision = 0

theorem Move.same (snapshots : next.snapshots = store.snapshots) (lines : next.lines = store.lines) :
    Move store next none where
  books books := by
    have same : ∀ id, next.linesOf id = store.linesOf id := fun id => by rw [PricingStore.linesOf, lines]; rfl
    refine ⟨?_, ?_, ?_⟩
    · simp only [snapshots, same]
      exact books.totals
    · rw [snapshots, lines]
      exact books.placed
    · rw [snapshots]
      exact books.unrated
  lines := by rw [lines]
  published snapshot member _ := by
    rw [snapshots, PricingStore.linesOf, lines]
    exact ⟨member, rfl⟩
  stays snapshot member _ := by
    rw [snapshots]
    exact member
  written _ never := by cases never
  fresh snapshot member absent := by
    rw [snapshots] at member
    exact absurd rfl (absent snapshot member)

theorem Move.draft (inserted : store.snapshots.insert? snapshot = some next.snapshots)
    (lines : next.lines = store.lines) (zero : ∀ category, snapshot.total category = 0)
    (rate : snapshot.grossMarginRateBps = 0) (revision : snapshot.aggregateRevision = 0) : Move store next none where
  books books := books.draft inserted lines zero rate
  lines := by rw [lines]
  published other member _ := by
    rw [PricingStore.linesOf, lines]
    exact ⟨(Table.mem_insert? inserted).mpr (.inl member), rfl⟩
  stays other member _ := (Table.mem_insert? inserted).mpr (.inl member)
  written _ never := by cases never
  fresh other member absent := by
    rcases (Table.mem_insert? inserted).mp member with old | rfl
    · exact absurd rfl (absent other old)
    · exact revision

theorem Addition.move {added : List FinancialReportLineRecord} {receivedAt : Timestamp}
    (addition : Addition store next locked category added receivedAt) : Move store next (some locked.id) where
  books := addition.books
  lines := by
    rw [addition.lines]
    exact List.prefix_append _ _
  published snapshot member published := by
    have apart : snapshot.id ≠ locked.id := by
      intro same
      rw [snapshot_of_id member addition.present same, addition.draft] at published
      cases published
    rw [addition.linesOf, if_neg apart, List.append_nil]
    exact ⟨addition.mem.mpr (.inr ⟨member, apart⟩), rfl⟩
  stays snapshot member other := by
    exact addition.mem.mpr (.inr ⟨member, fun same => other (by rw [same])⟩)
  written id its := by
    cases its
    exact ⟨locked, addition.present, _, addition.mem.mpr (.inl rfl), rfl, add_id, rfl⟩
  fresh snapshot member absent := by
    rcases addition.mem.mp member with rfl | ⟨old, _⟩
    · exact absurd add_id.symm (absent locked addition.present)
    · exact absurd rfl (absent snapshot old)

theorem Publication.move {receivedAt : Timestamp} (publication : Publication store next locked receivedAt) :
    Move store next (some locked.id) where
  books := publication.books
  lines := by rw [publication.lines]
  published snapshot member published := by
    have apart : snapshot.id ≠ locked.id := by
      intro same
      rw [snapshot_of_id member publication.present same, publication.draft] at published
      cases published
    exact ⟨publication.mem.mpr (.inr ⟨member, apart⟩), publication.linesOf _⟩
  stays snapshot member other := publication.mem.mpr (.inr ⟨member, fun same => other (by rw [same])⟩)
  written id its := by
    cases its
    exact ⟨locked, publication.present, _, publication.mem.mpr (.inl rfl), rfl, rfl, rfl⟩
  fresh snapshot member absent := by
    rcases publication.mem.mp member with rfl | ⟨old, _⟩
    · exact absurd rfl (absent locked publication.present)
    · exact absurd rfl (absent snapshot old)

end SmartAo.Pricing
