import SmartAo.Pricing.CostBasis
import SmartAo.Pricing.FinancialHistory

namespace SmartAo.Pricing

open SmartAo.Foundation SmartAo.Platform SmartAo.Case

/-- Sales less costs, from the amount of each category. -/
def netMargin (amount : LineCategory → Int) : Int :=
  amount .sales - (amount .directCost + amount .overhead + amount .subcontracting + amount .contingency)

/-- The rate of a margin on sales, in basis points. -/
def marginRateBps (margin sales : Int) : Int := if sales = 0 then 0 else margin * 10000 / sales

/-- The margin a snapshot shows is the one its totals give. -/
def MarginAgrees (snapshot : FinancialReportSnapshotRecord) : Prop :=
  snapshot.grossMarginMinor = netMargin snapshot.total ∧
    snapshot.grossMarginRateBps = marginRateBps (netMargin snapshot.total) snapshot.salesTotalMinor

instance (snapshot : FinancialReportSnapshotRecord) : Decidable (MarginAgrees snapshot) :=
  inferInstanceAs (Decidable (_ ∧ _))

def MarginsAgree (store : PricingStore) : Prop :=
  ∀ snapshot ∈ store.snapshots, snapshot.state = .published → MarginAgrees snapshot

instance (store : PricingStore) : Decidable (MarginsAgree store) :=
  inferInstanceAs (Decidable (∀ snapshot ∈ store.snapshots, snapshot.state = .published → MarginAgrees snapshot))

/-- The lines carry their margin as lines of its own, and it is none, or below a basis point of the sales. -/
def MarginEntered (lines : List FinancialReportLineRecord) : Prop :=
  amounts lines .grossMargin = netMargin (amounts lines) ∧
    marginRateBps (netMargin (amounts lines)) (amounts lines .sales) = 0

/-- The margin of a snapshot is that of its cost basis without reserves. -/
theorem marginAgrees_costBasis {snapshot : FinancialReportSnapshotRecord} {result : CostBasisResult}
    (computed : calculateCostBasis {
      salesTotalMinor := snapshot.salesTotalMinor, directCostTotalMinor := snapshot.directCostTotalMinor,
      overheadTotalMinor := snapshot.overheadTotalMinor, subcontractingTotalMinor := snapshot.subcontractingTotalMinor,
      contingencyTotalMinor := snapshot.contingencyTotalMinor } = .ok result) :
    MarginAgrees snapshot ↔ snapshot.grossMarginMinor = result.grossMarginMinor ∧
      snapshot.grossMarginRateBps = result.grossMarginRateBps := by
  simp only [calculateCostBasis, bind_ok, exists_unit, pure_ok, Int.add_zero] at computed
  obtain ⟨_, rfl⟩ := computed
  exact Iff.rfl

def publishes (entry : FinancialTransaction) : Option Uuid :=
  match entry.command with
  | .publish command _ => some command.reportId
  | _ => none

/-- A publication that commits finds the margin of its report entered. -/
def PublishesEntered (state : ReportSessions) (input : ReportInput) : Prop :=
  ∀ index, input = .finish index → ∀ locker, state.active[index]? = some locker → ∀ reportId,
    publishes locker.command = some reportId → (interleaveReports state input).isOk = true →
      MarginEntered (state.store.pricing.linesOf reportId)

variable {state after : ReportSessions} {store next : ReportStore} {outcome : HandlerOutcome}
  {locker : Locker ReportStore FinancialTransaction (Touched FinancialRow)} {snapshot : FinancialReportSnapshotRecord}

/-- The totals are the sums of the lines and no rate is ever written. -/
theorem Books.marginAgrees {store : PricingStore} (books : Books store) (member : snapshot ∈ store.snapshots) :
    MarginAgrees snapshot ↔ MarginEntered (store.linesOf snapshot.id) := by
  have totals : snapshot.total = amounts (store.linesOf snapshot.id) := funext (books.totals snapshot member)
  have margin : snapshot.grossMarginMinor = amounts (store.linesOf snapshot.id) .grossMargin :=
    books.totals snapshot member .grossMargin
  have sales : snapshot.salesTotalMinor = amounts (store.linesOf snapshot.id) .sales :=
    books.totals snapshot member .sales
  unfold MarginAgrees MarginEntered
  rw [totals, margin, sales, books.unrated snapshot member]
  exact and_congr_right fun _ => eq_comm

/-- A command publishes its report, or leaves the published snapshots as they are. -/
structure Publishes (store next : PricingStore) (reportId : Option Uuid) : Prop where
  lines : ∀ id, reportId = some id → next.linesOf id = store.linesOf id
  published : ∀ id, reportId = some id → ∃ snapshot ∈ next.snapshots, snapshot.id = id ∧ snapshot.state = .published
  origin : ∀ snapshot ∈ next.snapshots, snapshot.state = .published →
    snapshot ∈ store.snapshots ∨ reportId = some snapshot.id

theorem Publishes.none {store next : PricingStore} (origin : ∀ snapshot ∈ next.snapshots, snapshot.state = .published →
    snapshot ∈ store.snapshots) : Publishes store next none where
  lines _ never := by cases never
  published _ never := by cases never
  origin snapshot member is := .inl (origin snapshot member is)

theorem Addition.publishes {store next : PricingStore} {locked : FinancialReportSnapshotRecord} {category : LineCategory}
    {added : List FinancialReportLineRecord} {receivedAt : Timestamp}
    (addition : Addition store next locked category added receivedAt) : Publishes store next none := by
  refine .none fun snapshot member is => ?_
  rcases addition.mem.mp member with rfl | ⟨old, _⟩
  · rw [add_state, addition.draft] at is
    cases is
  · exact old

theorem Publication.publishes {store next : PricingStore} {locked : FinancialReportSnapshotRecord} {receivedAt : Timestamp}
    (publication : Publication store next locked receivedAt) : Publishes store next (some locked.id) := by
  refine ⟨fun id _ => publication.linesOf id, fun id its => ?_, fun snapshot member _ => ?_⟩
  · cases its
    exact ⟨_, publication.mem.mpr (.inl rfl), rfl, rfl⟩
  · rcases publication.mem.mp member with rfl | ⟨old, _⟩
    · exact .inr rfl
    · exact .inl old

theorem createFinancialReportDraft_publishes {view : Nat → ReportStore} {command : CreateFinancialReportDraftCommand}
    {reportId : Uuid} {context : CommandContext}
    (accepted : createFinancialReportDraft view store command reportId context = .ok (next, outcome)) :
    Publishes store.pricing next.pricing none := by
  simp only [createFinancialReportDraft, bind_ok, raiseIf_ok, exists_unit, orRaise_ok, pure_ok, flush,
    Prod.mk.injEq] at accepted
  obtain ⟨_, _, _, _, _, snapshots, inserted, rfl, _⟩ := accepted
  refine .none fun snapshot member is => ?_
  rcases (Table.mem_insert? inserted).mp member with old | rfl
  · exact old
  · cases is

theorem Reporting.publishes (reporting : Reporting state) (member : locker ∈ state.active)
    (done : financialScript.next locker.command locker.held state.store = none)
    (written : locker.command.execute (heldView locker.held state.store) state.store = .ok (next, outcome)) :
    Publishes state.store.pricing next.pricing (publishes locker.command) := by
  cases its : locker.command with
  | mk transaction command context =>
    simp only [FinancialTransaction.execute, its] at written
    cases command with
    | draft command reportId => exact createFinancialReportDraft_publishes written
    | line command lineId =>
      obtain ⟨snapshot, read, _, line, addition⟩ := addFinancialReportLine_ok written
      exact (addition (first_locked reporting.locked member done (fun view => by rw [its]; rfl) read).1).publishes
    | publish command publicationId =>
      obtain ⟨snapshot, read, _, publication⟩ := publishFinancialReport_ok written
      have published := (publication
        (first_locked reporting.locked member done (fun view => by rw [its]; rfl) read).1).publishes
      rw [(report?_some read).2.2.2] at published
      exact published
    | preview command batchId rowId =>
      simp only [createImportSession, bind_ok, pure_ok, Prod.mk.injEq] at written
      obtain ⟨⟨pricing, _⟩, created, rfl, _⟩ := written
      refine .none fun snapshot member _ => ?_
      rw [← (createPricingImportPreview_ok created).1]
      exact member
    | commit command transitionId lineId =>
      obtain ⟨batch, snapshot, added, written⟩ := commitImportSession_ok written
      exact (written.addition (commit_locked reporting.locked member done its written).1).publishes

/-- An accepted phase publishes what its transaction publishes, or nothing. -/
theorem Reporting.step_publishes (reporting : Reporting state) {input : ReportInput}
    (accepted : interleaveReports state input = .ok after) : ∃ reportId,
      Publishes state.store.pricing after.store.pricing reportId ∧ (∀ index, input = .finish index →
        ∃ locker, state.active[index]? = some locker ∧ Pricing.publishes locker.command = reportId) ∧
      ((∀ index, input ≠ .finish index) → reportId = none) := by
  by_cases ending : ∃ index, input = .finish index
  · obtain ⟨index, rfl⟩ := ending
    obtain ⟨locker, store, picked, done, written, rfl⟩ := Lockers.step_finish accepted
    obtain ⟨outcome, written⟩ := map_fst_ok.mp written
    have published := reporting.publishes (List.mem_of_getElem? picked) done written
    exact ⟨_, published, fun _ same => by cases same; exact ⟨locker, picked, rfl⟩, fun never => absurd rfl (never index)⟩
  · have ongoing : ∀ index, input ≠ .finish index := fun index is => ending ⟨index, is⟩
    refine ⟨none, .none fun snapshot member _ => ?_, fun index is => absurd is (ongoing index), fun _ => rfl⟩
    rcases Lockers.step_store ongoing accepted with same | ⟨write, moved⟩
    · rwa [← same]
    · rw [← Except.ok.inj moved] at member
      exact member

/-- A publication agrees with its totals exactly when the margin of its report was entered. -/
theorem Reporting.margins (reporting : Reporting state) (agree : MarginsAgree state.store.pricing) (input : ReportInput) :
    MarginsAgree (commit interleaveReports state input).store.pricing ↔ PublishesEntered state input := by
  cases accepted : interleaveReports state input with
  | error error =>
    rw [commit_error accepted]
    refine iff_of_true agree fun _ _ _ _ _ _ done => ?_
    rw [accepted] at done
    cases done
  | ok after =>
    rw [commit_ok accepted]
    have books := (reporting.step accepted).1.ledger.books
    obtain ⟨reportId, published, finished, ongoing⟩ := reporting.step_publishes accepted
    constructor
    · intro agrees index is locker picked id publishing _
      obtain ⟨other, found, its⟩ := finished index is
      rw [Option.some.inj (found.symm.trans picked), publishing] at its
      obtain ⟨snapshot, member, named, state⟩ := published.published id its.symm
      have entered := (books.marginAgrees member).mp (agrees snapshot member state)
      rwa [named, published.lines id its.symm] at entered
    · intro entered snapshot member state
      rcases published.origin snapshot member state with old | target
      · exact agree snapshot old state
      · refine (books.marginAgrees member).mpr ?_
        rw [published.lines snapshot.id target]
        by_cases ending : ∃ index, input = .finish index
        · obtain ⟨index, is⟩ := ending
          obtain ⟨locker, picked, its⟩ := finished index is
          refine entered index is locker picked snapshot.id (its.trans target) ?_
          rw [accepted]
          rfl
        · rw [ongoing fun index is => ending ⟨index, is⟩] at target
          cases target

/-- Every published snapshot of a run shows the margin its totals give exactly when each publication found it entered
    as lines, at a rate of zero. -/
theorem published_margins (inputs : List ReportInput) :
    (∀ first, first <+: inputs → MarginsAgree (reportsAfter first).store.pricing) ↔
      Along interleaveReports PublishesEntered ⟨.empty, []⟩ inputs :=
  throughout_iff_along (fun _ _ _ reporting accepted => (Reporting.step reporting accepted).1)
    (fun _ input reporting agree => reporting.margins agree input) reporting_empty
    fun _ member => absurd member Table.not_mem_empty

/-- A transaction that runs alone: its statements one after the other, and its end. -/
def uninterrupted (entry : FinancialTransaction) (statements : Nat) : List ReportInput :=
  .start entry :: (List.replicate statements (.lock 0) ++ [.finish 0])

def reportAdmin : CommandContext := ⟨1, 6, .patronAdmin, 1772368496000000, some 3, some 4⟩

/-- Sales of 1000 and direct costs of 400 are entered and published. -/
def unenteredRun : List ReportInput :=
  [.alone ⟨.singleton ⟨4, 1, .active, "", none, 1⟩, .empty, .empty⟩] ++
  uninterrupted ⟨1, .draft ⟨⟨50, 50, none⟩, 4, "EUR", 1⟩ 60, reportAdmin⟩ 2 ++
  uninterrupted ⟨2, .line ⟨⟨51, 51, none⟩, 4, 60, 0, .sales, "Lot 1", "1", "U", 1000⟩ 61, reportAdmin⟩ 1 ++
  uninterrupted ⟨3, .line ⟨⟨52, 52, none⟩, 4, 60, 1, .directCost, "Béton", "1", "U", 400⟩ 62, reportAdmin⟩ 1 ++
  uninterrupted ⟨4, .publish ⟨⟨53, 53, none⟩, 4, 60, 2⟩ 63, reportAdmin⟩ 1

/-- The published snapshot shows a margin of 0 at a rate of 0, where its totals give 600 and 6000. -/
theorem unenteredRun_disagrees : (((reportsAfter unenteredRun).store.pricing.snapshots.rows.map fun snapshot =>
      (snapshot.state, netMargin snapshot.total, snapshot.grossMarginMinor, snapshot.grossMarginRateBps)) =
        [(.published, 600, 0, 0)]) ∧
    ¬ ∀ inputs, MarginsAgree (reportsAfter inputs).store.pricing := by
  have shown : ((reportsAfter unenteredRun).store.pricing.snapshots.rows.map fun snapshot =>
      (snapshot.state, netMargin snapshot.total, snapshot.grossMarginMinor, snapshot.grossMarginRateBps)) =
        [(.published, 600, 0, 0)] := by decide +kernel
  have disagrees : ¬ MarginsAgree (reportsAfter unenteredRun).store.pricing := by decide +kernel
  exact ⟨shown, fun always => disagrees (always unenteredRun)⟩

end SmartAo.Pricing
