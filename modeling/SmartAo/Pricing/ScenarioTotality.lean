import SmartAo.Pricing.CostBasis
import SmartAo.Pricing.PublishedMargins
import SmartAo.Pricing.Scenario

namespace SmartAo.Pricing

open SmartAo.Foundation SmartAo.Platform SmartAo.Case

/-- What the model of the command accepts. -/
structure AcceptedScenario (command : CreatePricingScenarioCommand) : Prop where
  key : 1 ≤ command.scenarioKey.length ∧ command.scenarioKey.length ≤ 120
  sales : -5000 ≤ command.salesAdjustmentBps ∧ command.salesAdjustmentBps ≤ 10000
  costs : -5000 ≤ command.costAdjustmentBps ∧ command.costAdjustmentBps ≤ 10000
  reserves : 0 ≤ command.penaltyReserveMinor ∧ 0 ≤ command.retentionReserveMinor ∧ 0 ≤ command.guaranteeReserveMinor
  floor : 0 ≤ command.floorMarginRateBps ∧ command.floorMarginRateBps < 10000
  target : 0 ≤ command.targetMarginRateBps ∧ command.targetMarginRateBps < 10000

/-- A patron asks for a scenario of a published snapshot of the case. -/
structure AsksFor (store : PricingStore) (command : CreatePricingScenarioCommand) (context : CommandContext)
    (snapshot : FinancialReportSnapshotRecord) : Prop where
  patron : context.actorKind = .patronAdmin ∧ context.membershipId ≠ none
  member : snapshot ∈ store.snapshots
  published : snapshot.state = .published
  tenant : snapshot.tenantId = context.tenantId
  named : snapshot.id = command.sourceSnapshotId
  owner : snapshot.caseId = command.caseId

/-- The insertion stores the assumptions too, and fails on a document the database refuses. -/
def createPricingScenarioRow {Document : Type} (storable : Document → Bool) (store : PricingStore)
    (command : CreatePricingScenarioCommand) (assumptions : Document) (context : CommandContext) :
    Transaction (PricingStore × HandlerOutcome) := do
  let created ← createPricingScenario store command context
  raiseIf (¬ storable assumptions) (.failed "document refused")
  return created

/-- The scenario is created with amounts its columns hold, or the cost basis is declared invalid. -/
def CreatesOrDeclares (store : PricingStore) (command : CreatePricingScenarioCommand)
    (result : Transaction (PricingStore × HandlerOutcome)) : Prop :=
  result = .error (.execution "INVALID_COST_BASIS") ∨ ∃ next outcome record, result = .ok (next, outcome) ∧
    store.scenarios.insert? record = some next.scenarios ∧ record.id = command.scenarioId ∧
    scenarioInRange record = true

/-- An amount adjusted by basis points, rounded down. -/
def adjusted (amount bps : Int) : Int := amount * (10000 + bps) / 10000

theorem adjusted_nonneg {amount bps : Int} (admitted : -5000 ≤ bps) : 0 ≤ adjusted amount bps ↔ 0 ≤ amount := by
  have positive : 0 < 10000 + bps := by omega
  have divisor : (0 : Int) < 10000 := by decide
  rw [adjusted, Int.le_ediv_iff_mul_le divisor, Int.zero_mul]
  exact ⟨fun nonneg => Int.nonneg_of_mul_nonneg_left nonneg positive, fun nonneg =>
    Int.mul_nonneg nonneg (Int.le_of_lt positive)⟩

/-- The costs entered in the lines of a report. -/
def costAmounts (lines : List FinancialReportLineRecord) : Int :=
  amounts lines .directCost + amounts lines .overhead + amounts lines .subcontracting + amounts lines .contingency

def PricingStore.nextScenarioVersion (store : PricingStore) (tenantId caseId : Uuid) (scenarioKey : String) : Nat :=
  (store.scenarios.greatest (fun row => row.tenantId = tenantId ∧ row.caseId = caseId ∧
    row.scenarioKey = scenarioKey) (·.version)).getD 0 + 1

section Amounts

variable (command : CreatePricingScenarioCommand) (lines : List FinancialReportLineRecord)

def CreatePricingScenarioCommand.sales : Int := adjusted (amounts lines .sales) command.salesAdjustmentBps

def CreatePricingScenarioCommand.costs : Int := adjusted (costAmounts lines) command.costAdjustmentBps

def CreatePricingScenarioCommand.reserves : Int :=
  command.penaltyReserveMinor + command.retentionReserveMinor + command.guaranteeReserveMinor

def CreatePricingScenarioCommand.basis : CostBasisInput where
  salesTotalMinor := command.sales lines
  directCostTotalMinor := command.costs lines
  overheadTotalMinor := 0
  subcontractingTotalMinor := 0
  contingencyTotalMinor := 0
  penaltyReserveMinor := command.penaltyReserveMinor
  retentionReserveMinor := command.retentionReserveMinor
  guaranteeReserveMinor := command.guaranteeReserveMinor
  floorMarginRateBps := command.floorMarginRateBps
  targetMarginRateBps := command.targetMarginRateBps

/-- The adjusted sales, the sales at the target margin and the rate of the margin are held by their columns. -/
structure AmountsFit : Prop where
  sales : command.sales lines ≤ 9223372036854775807
  target : (command.costs lines + command.reserves) * 10000 ≤
    9223372036854775807 * (10000 - command.targetMarginRateBps)
  rate : command.sales lines = 0 ∨
    (command.costs lines + command.reserves) * 10000 ≤ command.sales lines * (10000 + 2147483648)

end Amounts

/-- The lines of the snapshot sum to sales and costs that are not negative, and the floor rate exceeds the target rate
    or the row can be stored. -/
structure Creatable {Document : Type} (storable : Document → Bool) (store : PricingStore)
    (command : CreatePricingScenarioCommand) (assumptions : Document) (lines : List FinancialReportLineRecord)
    (tenantId : Uuid) : Prop where
  key : sendable command.scenarioKey = true
  sales : 0 ≤ amounts lines .sales
  costs : 0 ≤ costAmounts lines
  storable : command.targetMarginRateBps < command.floorMarginRateBps ∨
    (AmountsFit command lines ∧ storable assumptions = true ∧
      (∀ stored ∈ store.scenarios, stored.id ≠ command.scenarioId) ∧
      store.nextScenarioVersion tenantId command.caseId command.scenarioKey ≤ 2147483647)

section Basis

variable {command : CreatePricingScenarioCommand} {lines : List FinancialReportLineRecord}

theorem AcceptedScenario.sales_nonneg (accepted : AcceptedScenario command) : 0 ≤ command.sales lines ↔ 0 ≤ amounts lines .sales :=
  adjusted_nonneg accepted.sales.1

theorem AcceptedScenario.costs_nonneg (accepted : AcceptedScenario command) : 0 ≤ command.costs lines ↔ 0 ≤ costAmounts lines :=
  adjusted_nonneg accepted.costs.1

/-- An accepted command leaves the order of its rates to the cost basis. -/
theorem AcceptedScenario.validBasis_iff (accepted : AcceptedScenario command) (sales : 0 ≤ amounts lines .sales)
    (costs : 0 ≤ costAmounts lines) :
    ValidBasis (command.basis lines) ↔ command.floorMarginRateBps ≤ command.targetMarginRateBps := by
  constructor
  · intro valid
    exact valid.ordered
  · intro ordered
    have none : (0 : Int) ≤ 0 := Int.le_refl 0
    exact ⟨accepted.sales_nonneg.mpr sales, ⟨accepted.costs_nonneg.mpr costs, none, none, none⟩, accepted.reserves,
      accepted.target, accepted.floor, ordered⟩

theorem basis_totalCost : (command.basis lines).totalCost = command.costs lines + command.reserves := by
  simp only [CostBasisInput.totalCost, CreatePricingScenarioCommand.basis, CreatePricingScenarioCommand.reserves]
  omega

end Basis

section Row

variable {command : CreatePricingScenarioCommand} {lines : List FinancialReportLineRecord}

/-- The row of a scenario, from the result of its cost basis. -/
def CreatePricingScenarioCommand.row (command : CreatePricingScenarioCommand) (context : CommandContext)
    (snapshot : FinancialReportSnapshotRecord) (version : Nat) (costBasis : CostBasisResult) : PricingScenarioRecord where
  id := command.scenarioId
  tenantId := context.tenantId
  caseId := command.caseId
  sourceSnapshotId := snapshot.id
  scenarioKey := command.scenarioKey
  scenarioType := command.scenarioType
  version := version
  state := .draft
  salesTotalMinor := costBasis.salesTotalMinor
  totalCostMinor := costBasis.totalCostMinor
  grossMarginMinor := costBasis.grossMarginMinor
  grossMarginRateBps := costBasis.grossMarginRateBps
  penaltyReserveMinor := costBasis.penaltyReserveMinor
  retentionReserveMinor := costBasis.retentionReserveMinor
  guaranteeReserveMinor := costBasis.guaranteeReserveMinor
  floorMarginRateBps := command.floorMarginRateBps
  targetMarginRateBps := command.targetMarginRateBps
  breakEvenSalesMinor := costBasis.breakEvenSalesMinor
  floorSalesMinor := costBasis.floorSalesMinor
  targetSalesMinor := costBasis.targetSalesMinor
  sourceSnapshotRevision := snapshot.aggregateRevision

/-- A rate rounded down is at most one whole, and an INTEGER holds it where the costs are not too far beyond the
    sales. -/
theorem marginRate_integer {sales cost : Int} (positive : 0 < sales) (nonneg : 0 ≤ cost) :
    integer ((sales - cost) * 10000 / sales) = true ↔ cost * 10000 ≤ sales * (10000 + 2147483648) := by
  have least : -2147483648 ≤ (sales - cost) * 10000 / sales ↔ cost * 10000 ≤ sales * (10000 - -2147483648) :=
    marginRate_ge_iff positive
  have most : 10001 ≤ (sales - cost) * 10000 / sales ↔ cost * 10000 ≤ sales * (10000 - 10001) :=
    marginRate_ge_iff positive
  have below : (sales - cost) * 10000 / sales < 10001 := by
    by_contra reached
    have := most.mp (by omega)
    omega
  rw [integer, decide_eq_true_eq]
  omega

/-- Amounts that stand as those of a valid basis do. -/
structure Standing (row : PricingScenarioRecord) : Prop where
  sales : 0 ≤ row.salesTotalMinor
  margin : row.grossMarginMinor = row.salesTotalMinor - row.totalCostMinor
  reserves : 0 ≤ row.penaltyReserveMinor ∧ 0 ≤ row.retentionReserveMinor ∧ 0 ≤ row.guaranteeReserveMinor
  spent : row.penaltyReserveMinor + row.retentionReserveMinor + row.guaranteeReserveMinor ≤ row.totalCostMinor
  even : row.breakEvenSalesMinor = row.totalCostMinor
  floored : row.totalCostMinor ≤ row.floorSalesMinor
  grows : row.floorSalesMinor ≤ row.targetSalesMinor
  rates : 0 ≤ row.floorMarginRateBps ∧ row.floorMarginRateBps ≤ row.targetMarginRateBps ∧ row.targetMarginRateBps < 10000

variable {row : PricingScenarioRecord}

/-- The sales, the sales at the target margin and the rate are the greatest amounts. -/
theorem Standing.inRange_iff (standing : Standing row) : scenarioInRange row = true ↔
    row.salesTotalMinor ≤ 9223372036854775807 ∧ row.targetSalesMinor ≤ 9223372036854775807 ∧
      integer row.grossMarginRateBps = true ∧ row.version ≤ 2147483647 ∧ row.sourceSnapshotRevision ≤ 2147483647 := by
  have sales := standing.sales
  have margin := standing.margin
  have reserves := standing.reserves
  have spent := standing.spent
  have even := standing.even
  have floored := standing.floored
  have grows := standing.grows
  have rates := standing.rates
  simp only [scenarioInRange, integer, bigint, Bool.and_eq_true, decide_eq_true_eq]
  omega

theorem Standing.checks (standing : Standing row) : scenarioChecks row = true := by
  have reserves := standing.reserves
  have spent := standing.spent
  have even := standing.even
  have floored := standing.floored
  have grows := standing.grows
  have rates := standing.rates
  rw [scenarioChecks, decide_eq_true_eq]
  omega

variable {context : CommandContext} {snapshot : FinancialReportSnapshotRecord} {version : Nat}

theorem row_standing (valid : ValidBasis (command.basis lines)) :
    Standing (command.row context snapshot version (command.basis lines).result) where
  sales := valid.sales
  margin := rfl
  reserves := valid.reserves
  spent := by
    have spent : (command.basis lines).result.totalCostMinor = command.costs lines + command.reserves := basis_totalCost
    have costs : 0 ≤ command.costs lines := valid.costs.1
    rw [CreatePricingScenarioCommand.reserves] at spent
    simp only [CreatePricingScenarioCommand.row]
    rw [spent]
    simp only [CostBasisInput.result, CreatePricingScenarioCommand.basis]
    omega
  even := rfl
  floored := minimumSalesForMargin_ge valid.totalCost_nonneg valid.floor.1 valid.floor.2
  grows := minimumSalesForMargin_mono valid.totalCost_nonneg valid.ordered valid.target.2
  rates := ⟨valid.floor.1, valid.ordered, valid.target.2⟩

/-- The row of a valid basis is held by its columns where its greatest amounts are. -/
theorem row_inRange (valid : ValidBasis (command.basis lines)) (revision : snapshot.aggregateRevision ≤ 2147483647) :
    scenarioInRange (command.row context snapshot version (command.basis lines).result) = true ↔
      AmountsFit command lines ∧ version ≤ 2147483647 := by
  have nonneg := valid.totalCost_nonneg
  have earned : 0 ≤ command.sales lines := valid.sales
  have target : (command.basis lines).result.targetSalesMinor ≤ 9223372036854775807 ↔
      (command.costs lines + command.reserves) * 10000 ≤
        9223372036854775807 * (10000 - command.targetMarginRateBps) := by
    rw [← basis_totalCost]
    exact minimumSalesForMargin_le_iff valid.target.2
  have rate : integer (command.basis lines).result.grossMarginRateBps = true ↔ command.sales lines = 0 ∨
      (command.costs lines + command.reserves) * 10000 ≤ command.sales lines * (10000 + 2147483648) := by
    rw [← basis_totalCost]
    by_cases unsold : command.sales lines = 0
    · have zero : (command.basis lines).result.grossMarginRateBps = 0 := if_pos unsold
      rw [zero]
      exact iff_of_true rfl (.inl unsold)
    · have rated : (command.basis lines).result.grossMarginRateBps =
          (command.sales lines - (command.basis lines).totalCost) * 10000 / command.sales lines := if_neg unsold
      rw [rated, marginRate_integer (by omega) nonneg, or_iff_right unsold]
  rw [(row_standing valid).inRange_iff]
  constructor
  · rintro ⟨sales, targeted, rated, versioned, _⟩
    exact ⟨⟨sales, target.mp targeted, rate.mp rated⟩, versioned⟩
  · rintro ⟨fit, versioned⟩
    exact ⟨fit.sales, target.mpr fit.target, rate.mpr fit.rate, versioned, revision⟩

end Row

section Revisions

/-- An INTEGER column holds the revisions. -/
def RevisionsFit (store : PricingStore) : Prop :=
  ∀ snapshot ∈ store.snapshots, snapshot.aggregateRevision ≤ 2147483647

variable {pricing other : PricingStore} {locked : FinancialReportSnapshotRecord} {receivedAt : Timestamp}

theorem revision_inRange {snapshot : FinancialReportSnapshotRecord} (inRange : snapshotInRange snapshot = true) :
    snapshot.aggregateRevision ≤ 2147483647 := by
  simp only [snapshotInRange, Bool.and_eq_true] at inRange
  have revision : integer snapshot.aggregateRevision = true := inRange.1.1.1.1.1.1.1.1
  rw [integer, decide_eq_true_eq] at revision
  omega

theorem RevisionsFit.add {category : LineCategory} {amount : Int} (fit : RevisionsFit pricing)
    (reached : locked.aggregateRevision + 1 ≤ 2147483647)
    (snapshots : other.snapshots = pricing.snapshots.update (fun row => row.id = locked.id)
      (locked.add category amount receivedAt) (add_columns locked category amount receivedAt)) : RevisionsFit other := by
  intro snapshot member
  rw [snapshots] at member
  rcases Table.mem_update_cases member with ⟨stored, _⟩ | ⟨old, _, _, rfl⟩
  · exact fit snapshot stored
  · exact reached

theorem RevisionsFit.publish (fit : RevisionsFit pricing)
    (inRange : integer ((locked.aggregateRevision + 1 : Nat) : Int) = true)
    (rewritten : pricing.snapshots.rewrite? (fun row => row.id = locked.id) (locked.publish receivedAt) =
      some other.snapshots) : RevisionsFit other := by
  intro snapshot member
  obtain ⟨old, stored, rfl⟩ := (Table.mem_rewrite? rewritten).mp member
  split
  · rw [integer, decide_eq_true_eq] at inRange
    show locked.aggregateRevision + 1 ≤ 2147483647
    omega
  · exact fit old stored

variable {view : Nat → ReportStore} {store next : ReportStore} {outcome : HandlerOutcome} {entry : FinancialTransaction}

/-- Every write of a revision is within its column. -/
theorem RevisionsFit.execute (fit : RevisionsFit store.pricing)
    (written : entry.execute view store = .ok (next, outcome)) : RevisionsFit next.pricing := by
  cases entry with
  | mk transaction command context =>
    cases command with
    | draft command reportId =>
      simp only [FinancialTransaction.execute, createFinancialReportDraft, bind_ok, raiseIf_ok, exists_unit, orRaise_ok,
        pure_ok, flush, Prod.mk.injEq] at written
      obtain ⟨_, _, _, _, _, snapshots, inserted, rfl, _⟩ := written
      intro snapshot member
      rcases (Table.mem_insert? inserted).mp member with old | rfl
      · exact fit snapshot old
      · exact Nat.zero_le _
    | line command lineId =>
      simp only [FinancialTransaction.execute, addFinancialReportLine, bind_ok, raiseIf_ok, exists_unit, orRaise_ok,
        pure_ok, flush, Prod.mk.injEq, not_not, Bool.and_eq_true] at written
      obtain ⟨_, _, locked, _, _, inRange, _, lines, _, rfl, _⟩ := written
      exact fit.add (revision_inRange inRange.2) rfl
    | publish command publicationId =>
      simp only [FinancialTransaction.execute, publishFinancialReport, bind_ok, raiseIf_ok, exists_unit, orRaise_ok,
        pure_ok, flush, Prod.mk.injEq, not_not] at written
      obtain ⟨_, _, locked, _, inRange, snapshots, rewritten, publications, _, rfl, _⟩ := written
      exact fit.publish inRange rewritten
    | preview command batchId rowId =>
      simp only [FinancialTransaction.execute, createImportSession, bind_ok, pure_ok, Prod.mk.injEq] at written
      obtain ⟨⟨pricing, _⟩, created, rfl, _⟩ := written
      intro snapshot member
      rw [(createPricingImportPreview_ok created).1] at member
      exact fit snapshot member
    | commit command transitionId lineId =>
      simp only [FinancialTransaction.execute, commitImportSession, bind_ok, raiseIf_ok, exists_unit, orRaise_ok,
        pure_ok, flush, Prod.mk.injEq, not_not, Bool.and_eq_true] at written
      obtain ⟨_, _, batch, _, _, _, _, locked, _, _, added, _, _, inRange, lines, _, transitions, _, rfl, _⟩ := written
      exact fit.add (revision_inRange inRange.2) rfl

theorem revisionsFit_step {state after : ReportSessions} {input : ReportInput} (fit : RevisionsFit state.store.pricing)
    (accepted : interleaveReports state input = .ok after) : RevisionsFit after.store.pricing := by
  by_cases ending : ∃ index, input = .finish index
  · obtain ⟨index, rfl⟩ := ending
    obtain ⟨locker, store, _, _, written, rfl⟩ := Lockers.step_finish accepted
    obtain ⟨outcome, written⟩ := map_fst_ok.mp written
    exact fit.execute written
  · have ongoing : ∀ index, input ≠ .finish index := fun index is => ending ⟨index, is⟩
    rcases Lockers.step_store ongoing accepted with same | ⟨write, moved⟩
    · rw [same]
      exact fit
    · rw [← Except.ok.inj moved]
      exact fit

theorem revisionsFit_after (inputs : List ReportInput) : RevisionsFit (reportsAfter inputs).store.pricing := by
  have kept : ∀ (state : ReportSessions) input after, RevisionsFit state.store.pricing →
      interleaveReports state input = .ok after → RevisionsFit after.store.pricing :=
    fun _ _ _ fit accepted => revisionsFit_step fit accepted
  have empty : RevisionsFit ReportStore.empty.pricing := fun _ member => absurd member Table.not_mem_empty
  exact run_invariant_always kept inputs empty

end Revisions

section Handler

variable {Document : Type} {storable : Document → Bool} {assumptions : Document} {store : PricingStore}
  {command : CreatePricingScenarioCommand} {context : CommandContext} {snapshot : FinancialReportSnapshotRecord}
  {lines : List FinancialReportLineRecord}

/-- The totals of the snapshot are the sums of the lines. -/
structure Totals (snapshot : FinancialReportSnapshotRecord) (lines : List FinancialReportLineRecord) : Prop where
  sales : snapshot.salesTotalMinor = amounts lines .sales
  direct : snapshot.directCostTotalMinor = amounts lines .directCost
  overhead : snapshot.overheadTotalMinor = amounts lines .overhead
  subcontracting : snapshot.subcontractingTotalMinor = amounts lines .subcontracting
  contingency : snapshot.contingencyTotalMinor = amounts lines .contingency

theorem Books.totals_of (books : Books store) (member : snapshot ∈ store.snapshots) :
    Totals snapshot (store.linesOf snapshot.id) where
  sales := books.totals snapshot member .sales
  direct := books.totals snapshot member .directCost
  overhead := books.totals snapshot member .overhead
  subcontracting := books.totals snapshot member .subcontracting
  contingency := books.totals snapshot member .contingency

/-- The cost basis of sales and costs without reserves. -/
def unreserved (sales costs : Int) : CostBasisInput where
  salesTotalMinor := sales
  directCostTotalMinor := costs
  overheadTotalMinor := 0
  subcontractingTotalMinor := 0
  contingencyTotalMinor := 0

theorem unreserved_valid {sales costs : Int} : ValidBasis (unreserved sales costs) ↔ 0 ≤ sales ∧ 0 ≤ costs := by
  have none : (0 : Int) ≤ 0 := Int.le_refl 0
  have rate : (0 : Int) ≤ 0 ∧ (0 : Int) < 10000 := by decide
  constructor
  · intro valid
    exact ⟨valid.sales, valid.costs.1⟩
  · intro nonneg
    exact ⟨nonneg.1, ⟨nonneg.2, none, none, none⟩, ⟨none, none, none⟩, rate, rate, none⟩

/-- The amounts of a scenario, from its adjusted sales and costs. -/
def amountsOf (sales costs : Int) : PricingScenarioAmounts where
  salesTotalMinor := sales
  totalCostMinor := costs
  grossMarginMinor := (unreserved sales costs).result.grossMarginMinor
  grossMarginRateBps := (unreserved sales costs).result.grossMarginRateBps

def adjustedAmounts (snapshot : FinancialReportSnapshotRecord) (command : CreatePricingScenarioCommand) :
    Except String PricingScenarioAmounts :=
  calculatePricingScenarioAmounts snapshot.salesTotalMinor snapshot.directCostTotalMinor snapshot.overheadTotalMinor
    snapshot.subcontractingTotalMinor snapshot.contingencyTotalMinor command.salesAdjustmentBps command.costAdjustmentBps

/-- The amounts are calculated where neither the adjusted sales nor the adjusted costs are negative. -/
theorem adjustedAmounts_ok (totals : Totals snapshot lines) {result : PricingScenarioAmounts} :
    adjustedAmounts snapshot command = .ok result ↔ (0 ≤ command.sales lines ∧ 0 ≤ command.costs lines) ∧
      amountsOf (command.sales lines) (command.costs lines) = result := by
  have computed : adjustedAmounts snapshot command =
      (calculateCostBasis (unreserved (command.sales lines) (command.costs lines)) >>= fun basis =>
        pure ⟨command.sales lines, command.costs lines, basis.grossMarginMinor, basis.grossMarginRateBps⟩) := by
    rw [adjustedAmounts, totals.sales, totals.direct, totals.overhead, totals.subcontracting, totals.contingency]
    rfl
  rw [computed, bind_ok]
  constructor
  · rintro ⟨basis, calculated, same⟩
    obtain ⟨valid, rfl⟩ := calculateCostBasis_ok.mp calculated
    exact ⟨unreserved_valid.mp valid, pure_ok.mp same⟩
  · rintro ⟨nonneg, rfl⟩
    exact ⟨_, calculateCostBasis_ok.mpr ⟨unreserved_valid.mpr nonneg, rfl⟩, rfl⟩

theorem AsksFor.found (asked : AsksFor store command context snapshot) :
    (store.snapshots.find? fun row => row.tenantId = context.tenantId ∧ row.id = command.sourceSnapshotId ∧
      row.caseId = command.caseId ∧ row.state = .published) = some snapshot := by
  have key {first second : FinancialReportSnapshotRecord}
      (one : decide (first.tenantId = context.tenantId ∧ first.id = command.sourceSnapshotId ∧
        first.caseId = command.caseId ∧ first.state = .published) = true)
      (other : decide (second.tenantId = context.tenantId ∧ second.id = command.sourceSnapshotId ∧
        second.caseId = command.caseId ∧ second.state = .published) = true) : Schema.Conflict first second :=
    .inl ((of_decide_eq_true one).2.1.trans (of_decide_eq_true other).2.1.symm)
  exact (Table.find?_eq_some key).mpr ⟨asked.member, decide_eq_true ⟨asked.tenant, asked.named, asked.owner, asked.published⟩⟩

theorem AsksFor.allowed (asked : AsksFor store command context snapshot) :
    ¬ (context.actorKind ≠ .patronAdmin ∨ context.membershipId = none) := by
  rintro (other | none)
  · exact other asked.patron.1
  · exact asked.patron.2 none

theorem AsksFor.refusesKey (asked : AsksFor store command context snapshot)
    (refused : sendable command.scenarioKey = false) :
    createPricingScenario store command context = .error nulRefused := by
  have nul : ¬ sendable command.scenarioKey = true := by simp [refused]
  rw [createPricingScenario, bind_of_ok (raiseIf_pass asked.allowed), bind_of_ok (orRaise_ok.mpr asked.found),
    bind_of_error (raiseIf_fail nul)]

theorem AsksFor.refusesAmounts (asked : AsksFor store command context snapshot)
    (sent : sendable command.scenarioKey = true) {message : String}
    (refused : adjustedAmounts snapshot command = .error message) :
    createPricingScenario store command context = .error (.failed message) := by
  have failed : calculated CommandError.failed (adjustedAmounts snapshot command) = .error (.failed message) := by
    rw [refused]
    rfl
  rw [createPricingScenario, bind_of_ok (raiseIf_pass asked.allowed), bind_of_ok (orRaise_ok.mpr asked.found),
    bind_of_ok (raiseIf_pass (not_not_intro sent))]
  exact bind_of_error failed

theorem AsksFor.refusesBasis (asked : AsksFor store command context snapshot)
    (sent : sendable command.scenarioKey = true)
    (computed : adjustedAmounts snapshot command = .ok (amountsOf (command.sales lines) (command.costs lines)))
    {message : String} (refused : calculateCostBasis (command.basis lines) = .error message) :
    createPricingScenario store command context = .error (.execution "INVALID_COST_BASIS") := by
  have amounts : calculated CommandError.failed (adjustedAmounts snapshot command) =
      .ok (amountsOf (command.sales lines) (command.costs lines)) := calculated_ok.mpr computed
  have declared : calculated (fun _ => CommandError.execution "INVALID_COST_BASIS")
      (calculateCostBasis (command.basis lines)) = .error (.execution "INVALID_COST_BASIS") := by
    rw [refused]
    rfl
  rw [createPricingScenario, bind_of_ok (raiseIf_pass asked.allowed), bind_of_ok (orRaise_ok.mpr asked.found),
    bind_of_ok (raiseIf_pass (not_not_intro sent))]
  exact (bind_of_ok amounts).trans (bind_of_error declared)

/-- What remains once the cost basis is valid is the insertion of the row. -/
theorem AsksFor.inserts (asked : AsksFor store command context snapshot)
    (sent : sendable command.scenarioKey = true)
    (computed : adjustedAmounts snapshot command = .ok (amountsOf (command.sales lines) (command.costs lines)))
    (valid : ValidBasis (command.basis lines)) {record : PricingScenarioRecord}
    (made : record = command.row context snapshot
      (store.nextScenarioVersion context.tenantId command.caseId command.scenarioKey) (command.basis lines).result) :
    createPricingScenario store command context = (do
      raiseIf (¬ scenarioInRange record) outOfRange
      raiseIf (¬ scenarioChecks record) .integrity
      let scenarios ← flush (store.scenarios.insert? record)
      return ({ store with scenarios }, scenarioOutcome record.id record.version
        "PRICING_SCENARIO_CREATED" "PricingScenarioCreated" [
          ("scenario_id", .str record.id.str), ("case_id", .str record.caseId.str),
          ("version", .int record.version)])) := by
  have amounts : calculated CommandError.failed (adjustedAmounts snapshot command) =
      .ok (amountsOf (command.sales lines) (command.costs lines)) := calculated_ok.mpr computed
  have basis : calculated (fun _ => CommandError.execution "INVALID_COST_BASIS")
      (calculateCostBasis (command.basis lines)) = .ok (command.basis lines).result :=
    calculated_ok.mpr (calculateCostBasis_ok.mpr ⟨valid, rfl⟩)
  rw [createPricingScenario, bind_of_ok (raiseIf_pass asked.allowed), bind_of_ok (orRaise_ok.mpr asked.found),
    bind_of_ok (raiseIf_pass (not_not_intro sent))]
  refine (bind_of_ok amounts).trans ((bind_of_ok basis).trans ?_)
  rw [made]
  rfl

/-- A version beyond every version of the key is new, so that only the identifier can conflict. -/
theorem row_conflict {record stored : PricingScenarioRecord} (member : stored ∈ store.scenarios)
    (next : record.version = store.nextScenarioVersion record.tenantId record.caseId record.scenarioKey) :
    Schema.Conflict stored record ↔ stored.id = record.id := by
  constructor
  · rintro (same | version)
    · exact same
    · have columns : stored.tenantId = record.tenantId ∧ stored.caseId = record.caseId ∧
          stored.scenarioKey = record.scenarioKey ∧ stored.version = record.version := by
        simpa only [Schema.columns, Prod.mk.injEq] using version
      obtain ⟨tenant, owner, key, same⟩ := columns
      have query : decide (stored.tenantId = record.tenantId ∧ stored.caseId = record.caseId ∧
          stored.scenarioKey = record.scenarioKey) = true := decide_eq_true ⟨tenant, owner, key⟩
      rw [PricingStore.nextScenarioVersion, Table.greatest] at next
      cases looked : store.scenarios.latest (fun row => row.tenantId = record.tenantId ∧ row.caseId = record.caseId ∧
          row.scenarioKey = record.scenarioKey) (·.version) with
      | none => exact absurd query (by simp [Table.latest_none.mp looked stored member])
      | some latest =>
        have below := Table.latest_le looked member query
        simp only [looked, Option.map_some, Option.getD_some] at next
        omega
  · exact .inl

theorem row_inserts {record : PricingScenarioRecord}
    (next : record.version = store.nextScenarioVersion record.tenantId record.caseId record.scenarioKey) :
    (store.scenarios.insert? record).isSome ↔ ∀ stored ∈ store.scenarios, stored.id ≠ record.id := by
  rw [Table.insert?_isSome]
  exact forall₂_congr fun stored member => not_congr (row_conflict member next)

theorem createsOrDeclares_error {error : CommandError} :
    CreatesOrDeclares store command (.error error) ↔ error = .execution "INVALID_COST_BASIS" := by
  constructor
  · rintro (declared | ⟨_, _, _, created, _⟩)
    · exact Except.error.inj declared
    · cases created
  · intro declared
    rw [declared]
    exact .inl rfl

theorem createPricingScenarioRow_error {error : CommandError}
    (refused : createPricingScenario store command context = .error error) :
    createPricingScenarioRow storable store command assumptions context = .error error := by
  rw [createPricingScenarioRow, bind_of_error refused]

/-- A valid basis is created where its row can be stored. -/
theorem AsksFor.creates_iff (asked : AsksFor store command context snapshot)
    (sent : sendable command.scenarioKey = true)
    (computed : adjustedAmounts snapshot command = .ok (amountsOf (command.sales lines) (command.costs lines)))
    (valid : ValidBasis (command.basis lines)) (revision : snapshot.aggregateRevision ≤ 2147483647) :
    CreatesOrDeclares store command (createPricingScenarioRow storable store command assumptions context) ↔
      AmountsFit command lines ∧ storable assumptions = true ∧
        (∀ stored ∈ store.scenarios, stored.id ≠ command.scenarioId) ∧
        store.nextScenarioVersion context.tenantId command.caseId command.scenarioKey ≤ 2147483647 := by
  obtain ⟨record, made⟩ : ∃ record, record = command.row context snapshot
    (store.nextScenarioVersion context.tenantId command.caseId command.scenarioKey) (command.basis lines).result := ⟨_, rfl⟩
  have inserts := asked.inserts sent computed valid made
  have checks : scenarioChecks record = true := by
    rw [made]
    exact (row_standing valid).checks
  have fits : scenarioInRange record = true ↔ AmountsFit command lines ∧
      store.nextScenarioVersion context.tenantId command.caseId command.scenarioKey ≤ 2147483647 := by
    rw [made]
    exact row_inRange valid revision
  have named : record.id = command.scenarioId := by rw [made]; rfl
  have absent : (store.scenarios.insert? record).isSome ↔ ∀ stored ∈ store.scenarios, stored.id ≠ command.scenarioId := by
    rw [← named]
    exact row_inserts (by rw [made]; rfl)
  by_cases inRange : scenarioInRange record = true
  · rw [bind_of_ok (raiseIf_pass (not_not_intro inRange)), bind_of_ok (raiseIf_pass (not_not_intro checks))] at inserts
    cases inserted : store.scenarios.insert? record with
    | none =>
      have refused : createPricingScenario store command context = .error .integrity := by
        rw [inserts, inserted]
        rfl
      rw [createPricingScenarioRow_error refused, createsOrDeclares_error]
      refine iff_of_false (by simp) fun creatable => ?_
      have present := absent.mpr creatable.2.2.1
      rw [inserted] at present
      cases present
    | some scenarios =>
      have unused := absent.mp (by rw [inserted]; rfl)
      rw [inserted] at inserts
      obtain ⟨outcome, accepted⟩ : ∃ outcome, createPricingScenario store command context =
        .ok ({ store with scenarios }, outcome) := ⟨_, inserts⟩
      have created := fits.mp inRange
      by_cases kept : storable assumptions = true
      · have done : createPricingScenarioRow storable store command assumptions context =
            .ok ({ store with scenarios }, outcome) := by
          rw [createPricingScenarioRow, bind_of_ok accepted, bind_of_ok (raiseIf_pass (not_not_intro kept))]
          rfl
        exact iff_of_true (.inr ⟨_, outcome, record, done, inserted, named, inRange⟩) ⟨created.1, kept, unused, created.2⟩
      · have refused : createPricingScenarioRow storable store command assumptions context =
            .error (.failed "document refused") := by
          rw [createPricingScenarioRow, bind_of_ok accepted, bind_of_error (raiseIf_fail kept)]
        rw [refused, createsOrDeclares_error]
        exact iff_of_false (by simp) fun creatable => kept creatable.2.1
  · have refused : createPricingScenario store command context = .error outOfRange := by
      rw [inserts, bind_of_error (raiseIf_fail inRange)]
    rw [createPricingScenarioRow_error refused, createsOrDeclares_error]
    refine iff_of_false (by simp [outOfRange]) fun creatable => ?_
    exact inRange (fits.mpr ⟨creatable.1, creatable.2.2.2⟩)

/-- For a snapshot whose totals are the sums of its lines. -/
theorem AsksFor.total_iff (asked : AsksFor store command context snapshot) (accepted : AcceptedScenario command)
    (totals : Totals snapshot lines) (revision : snapshot.aggregateRevision ≤ 2147483647) :
    CreatesOrDeclares store command (createPricingScenarioRow storable store command assumptions context) ↔
      Creatable storable store command assumptions lines context.tenantId := by
  by_cases sent : sendable command.scenarioKey = true
  · by_cases nonneg : 0 ≤ amounts lines .sales ∧ 0 ≤ costAmounts lines
    · have computed : adjustedAmounts snapshot command = .ok (amountsOf (command.sales lines) (command.costs lines)) :=
        (adjustedAmounts_ok totals).mpr ⟨⟨accepted.sales_nonneg.mpr nonneg.1, accepted.costs_nonneg.mpr nonneg.2⟩, rfl⟩
      have ordered := accepted.validBasis_iff nonneg.1 nonneg.2
      by_cases valid : ValidBasis (command.basis lines)
      · rw [asked.creates_iff sent computed valid revision]
        have below := ordered.mp valid
        constructor
        · intro created
          exact ⟨sent, nonneg.1, nonneg.2, .inr created⟩
        · intro creatable
          rcases creatable.storable with reversed | created
          · omega
          · exact created
      · have reversed : command.targetMarginRateBps < command.floorMarginRateBps := by
          rw [ordered] at valid
          omega
        cases judged : calculateCostBasis (command.basis lines) with
        | ok result => exact absurd (calculateCostBasis_ok.mp judged).1 valid
        | error message =>
          rw [createPricingScenarioRow_error (asked.refusesBasis sent computed judged), createsOrDeclares_error]
          exact iff_of_true rfl ⟨sent, nonneg.1, nonneg.2, .inl reversed⟩
    · cases judged : adjustedAmounts snapshot command with
      | ok result =>
        obtain ⟨sales, costs⟩ := ((adjustedAmounts_ok totals).mp judged).1
        exact absurd ⟨accepted.sales_nonneg.mp sales, accepted.costs_nonneg.mp costs⟩ nonneg
      | error message =>
        rw [createPricingScenarioRow_error (asked.refusesAmounts sent judged), createsOrDeclares_error]
        exact iff_of_false (by simp) fun creatable => nonneg ⟨creatable.sales, creatable.costs⟩
  · have refused := asked.refusesKey (Bool.eq_false_iff.mpr sent)
    rw [createPricingScenarioRow_error refused, createsOrDeclares_error]
    exact iff_of_false (by simp [nulRefused]) fun creatable => sent creatable.key

end Handler

/-- A scenario of a published snapshot is created, or its cost basis declared invalid, exactly when the lines of the
    snapshot sum to sales and costs that are not negative and the row can be stored or the floor rate exceeds the
    target rate. -/
theorem scenario_creation_total {Document : Type} (storable : Document → Bool) (inputs : List ReportInput)
    (command : CreatePricingScenarioCommand) (assumptions : Document) (context : CommandContext)
    (snapshot : FinancialReportSnapshotRecord) (accepted : AcceptedScenario command)
    (asked : AsksFor (reportsAfter inputs).store.pricing command context snapshot) :
    CreatesOrDeclares (reportsAfter inputs).store.pricing command
        (createPricingScenarioRow storable (reportsAfter inputs).store.pricing command assumptions context) ↔
      Creatable storable (reportsAfter inputs).store.pricing command assumptions
        ((reportsAfter inputs).store.pricing.linesOf snapshot.id) context.tenantId := by
  have totals := (reporting_after inputs).ledger.books.totals_of asked.member
  have revision := revisionsFit_after inputs snapshot asked.member
  exact asked.total_iff accepted totals revision

def publishedSnapshot : FinancialReportSnapshotRecord :=
  ⟨60, 1, 4, .published, "EUR", 1, 3, 1772368496000000, some 1772368496000000, 1000, 400, 0, 0, 0, 0, 0, 0⟩

def baseScenario : CreatePricingScenarioCommand :=
  ⟨⟨54, 54, none⟩, 64, 4, 60, "base", .base, 0, 0, 0, 0, 0, 500, 1000⟩

theorem baseScenario_accepted : AcceptedScenario baseScenario := by
  refine ⟨?_, ?_, ?_, ?_, ?_, ?_⟩ <;> decide

theorem unenteredRun_published : (reportsAfter unenteredRun).store.pricing.snapshots.rows = [publishedSnapshot] := by
  decide +kernel

theorem asks_unenteredRun : AsksFor (reportsAfter unenteredRun).store.pricing baseScenario reportAdmin publishedSnapshot where
  patron := by decide
  member := by
    rw [← Table.mem_rows, unenteredRun_published]
    exact List.mem_singleton.mpr rfl
  published := rfl
  tenant := rfl
  named := rfl
  owner := rfl

theorem scenario_creation_total_example :
    CreatesOrDeclares (reportsAfter unenteredRun).store.pricing baseScenario
        (createPricingScenarioRow (fun _ : Unit => true) (reportsAfter unenteredRun).store.pricing baseScenario ()
          reportAdmin) ↔
      Creatable (fun _ : Unit => true) (reportsAfter unenteredRun).store.pricing baseScenario ()
        ((reportsAfter unenteredRun).store.pricing.linesOf publishedSnapshot.id) reportAdmin.tenantId :=
  scenario_creation_total (fun _ => true) unenteredRun baseScenario () reportAdmin publishedSnapshot baseScenario_accepted
    asks_unenteredRun

/-- A discount of one cent is entered as sales, and published. -/
def negativeRun : List ReportInput :=
  [.alone ⟨.singleton ⟨4, 1, .active, "", none, 1⟩, .empty, .empty⟩] ++
  uninterrupted ⟨1, .draft ⟨⟨50, 50, none⟩, 4, "EUR", 1⟩ 60, reportAdmin⟩ 2 ++
  uninterrupted ⟨2, .line ⟨⟨51, 51, none⟩, 4, 60, 0, .sales, "Remise", "1", "U", -1⟩ 61, reportAdmin⟩ 1 ++
  uninterrupted ⟨3, .publish ⟨⟨53, 53, none⟩, 4, 60, 1⟩ 63, reportAdmin⟩ 1

def negativeSnapshot : FinancialReportSnapshotRecord :=
  ⟨60, 1, 4, .published, "EUR", 1, 2, 1772368496000000, some 1772368496000000, -1, 0, 0, 0, 0, 0, 0, 0⟩

/-- The cost basis of the adjusted amounts is refused with an exception the handler does not declare. -/
theorem negativeRun_escapes : ¬ ∀ (inputs : List ReportInput) (command : CreatePricingScenarioCommand)
    (context : CommandContext) (snapshot : FinancialReportSnapshotRecord), AcceptedScenario command →
      AsksFor (reportsAfter inputs).store.pricing command context snapshot →
        CreatesOrDeclares (reportsAfter inputs).store.pricing command
          (createPricingScenarioRow (fun _ : Unit => true) (reportsAfter inputs).store.pricing command () context) := by
  intro always
  have published : (reportsAfter negativeRun).store.pricing.snapshots.rows = [negativeSnapshot] := by decide +kernel
  have member : negativeSnapshot ∈ (reportsAfter negativeRun).store.pricing.snapshots := by
    rw [← Table.mem_rows, published]
    exact List.mem_singleton.mpr rfl
  have asked : AsksFor (reportsAfter negativeRun).store.pricing baseScenario reportAdmin negativeSnapshot :=
    ⟨by decide, member, rfl, rfl, rfl, rfl⟩
  have refused : adjustedAmounts negativeSnapshot baseScenario =
      .error "sales_total_minor must be a non-negative integer" := rfl
  have created := always negativeRun baseScenario reportAdmin negativeSnapshot baseScenario_accepted asked
  rw [createPricingScenarioRow_error (asked.refusesAmounts rfl refused), createsOrDeclares_error] at created
  cases created

end SmartAo.Pricing
