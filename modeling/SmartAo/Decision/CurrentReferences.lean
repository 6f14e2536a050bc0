import SmartAo.Decision.FrozenContext
import SmartAo.Pricing.ScenarioHistory

namespace SmartAo.Decision

open SmartAo.Foundation SmartAo.Platform SmartAo.Case SmartAo.Dce SmartAo.Pricing SmartAo.PatronAction

/-- Treatment transitions are numbered from two; the row of a risk is its first revision. -/
def TreatmentsBeyond (store : RiskStore) : Prop :=
  ∀ transition ∈ store.treatments, 1 < transition.aggregateRevision

variable {store : Store} {context : CommandContext} {outcome : HandlerOutcome}

theorem getCurrent_revision {risks : RiskStore} {tenantId caseId riskId : Uuid}
    {snapshot : DecisionRiskSnapshot} (shown : risks.getCurrent tenantId caseId riskId = some snapshot) :
    snapshot.revision = ((risks.latestTreatment tenantId riskId).map (·.aggregateRevision)).getD 1 := by
  unfold RiskStore.getCurrent at shown
  obtain ⟨risk, _, rfl⟩ := Option.map_eq_some_iff.mp shown
  rfl

theorem TreatmentsBeyond.shown {risks : RiskStore} (beyond : TreatmentsBeyond risks)
    {tenantId caseId riskId : Uuid} {snapshot : DecisionRiskSnapshot}
    (shown : risks.getCurrent tenantId caseId riskId = some snapshot) :
    1 ≤ snapshot.revision ∧ (snapshot.revision = 1 ↔
      ∀ transition ∈ risks.treatments, treatmentOf tenantId riskId transition = false) := by
  rw [getCurrent_revision shown]
  cases looked : risks.latestTreatment tenantId riskId with
  | none =>
    have untreated := Table.latest_none.mp looked
    exact ⟨Nat.le_refl 1, iff_of_true rfl untreated⟩
  | some latest =>
    obtain ⟨present, matched⟩ := Table.latest_mem looked
    have later := beyond latest present
    refine ⟨Nat.le_of_lt later, iff_of_false (Nat.ne_of_gt later) fun untreated => ?_⟩
    rw [untreated latest present] at matched
    cases matched

theorem treatmentsBeyond_preserved {command : RiskCommand} {risks : RiskStore} {actions : ActionStore}
    (beyond : TreatmentsBeyond store.risks)
    (executed : store.executeRisk context command = .ok ((risks, actions), outcome)) :
    TreatmentsBeyond risks := by
  cases command with
  | register command =>
    simp only [Store.executeRisk, bind_ok, Prod.exists, pure_ok, Prod.mk.injEq] at executed
    obtain ⟨registered, _, accepted, ⟨rfl, _⟩, _⟩ := executed
    simp only [registerStructuredRisk, bind_ok, raiseIf_ok, exists_unit, pure_ok, Prod.mk.injEq, flush,
      orRaise_ok] at accepted
    obtain ⟨_, _, _, _, _, _, _, risks, _, rfl, _⟩ := accepted
    exact beyond
  | transition command =>
    simp only [Store.executeRisk, bind_ok, Prod.exists, pure_ok, Prod.mk.injEq] at executed
    obtain ⟨moved, _, accepted, ⟨rfl, _⟩, _⟩ := executed
    simp only [transitionStructuredRiskTreatment, bind_ok, raiseIf_ok, exists_unit, pure_ok,
      Prod.mk.injEq, flush, orRaise_ok] at accepted
    obtain ⟨_, snapshot, shown, _, _, _, treatments, inserted, rfl, _⟩ := accepted
    intro transition member
    rcases (Table.mem_insert? inserted).mp member with old | rfl
    · exact beyond transition old
    · have first := (beyond.shown shown).1
      show 1 < snapshot.revision + 1
      omega
  | link command =>
    simp only [Store.executeRisk, linkRiskToRequirement, bind_ok, raiseIf_ok, exists_unit, Prod.exists,
      pure_ok, Prod.mk.injEq] at executed
    obtain ⟨_, _, _, _, _, _, _, links, _, _, _, _, ⟨rfl, _⟩, _⟩ := executed
    exact beyond

theorem run_treatmentsBeyond (inputs : List Input) : TreatmentsBeyond (run step .empty inputs).risks := by
  have kept : ∀ store input next, TreatmentsBeyond store.risks → step store input = .ok next →
      TreatmentsBeyond next.risks := by
    intro store input next beyond accepted
    rcases step_risks accepted with same | ⟨command, context, actions, outcome, _, executed⟩
    · rw [same]
      exact beyond
    · exact treatmentsBeyond_preserved beyond executed
  have initial : TreatmentsBeyond RiskStore.empty := fun row member => absurd member Table.not_mem_empty
  exact run_invariant_always kept inputs initial

theorem run_scenarioHistory (inputs : List Input) : ScenarioHistory (run step .empty inputs).pricing := by
  have kept : ∀ store input next, ScenarioHistory store.pricing → step store input = .ok next →
      ScenarioHistory next.pricing := by
    intro store input next history accepted
    rcases step_scenarios accepted with ⟨scenarios, transitions⟩ | ⟨command, context, outcome, executed⟩
    · refine ⟨?_, ?_, ?_⟩
      · rw [scenarios]
        exact history.draft
      · rw [scenarios, transitions]
        exact history.owned
      · rw [scenarios, transitions]
        exact history.beyond
    · cases command with
      | create command => exact scenarioHistory_create history executed
      | transition command => exact scenarioHistory_transition history executed
  have initial : ScenarioHistory PricingStore.empty :=
    ⟨fun row member => absurd member Table.not_mem_empty, fun row member => absurd member Table.not_mem_empty,
      fun row member => absurd member Table.not_mem_empty⟩
  exact run_invariant_always kept inputs initial

/-- The case of a risk is active and still uses the version the risk was found in. -/
def caseCitesRisk (store : Store) (risk : DecisionRiskRecord) : Prop :=
  ∃ case ∈ store.cases, case.tenantId = risk.tenantId ∧ case.id = risk.caseId ∧ case.lifecycle = .active ∧
    case.applicableDceVersionId = some risk.dceVersionId

/-- A freeze accepts the risk exactly at the revision the risk register shows. -/
def RiskQuotedAsShown (store : Store) (risk : DecisionRiskRecord) : Prop :=
  ∀ snapshot, store.risks.getCurrent risk.tenantId risk.caseId risk.id = some snapshot →
    ∀ revision, contextReferenceIsValid store risk.tenantId risk.caseId .decisionRisk risk.id revision none ↔
      caseCitesRisk store risk ∧ revision = snapshot.revision

/-- A freeze accepts the scenario exactly at the version the patron's list shows, unless it is shown
    archived. -/
def ScenarioQuotedAsShown (store : Store) (scenario : PricingScenarioRecord) : Prop :=
  ∀ version, contextReferenceIsValid store scenario.tenantId scenario.caseId .pricingScenario scenario.id
      version none ↔
    (projection store.pricing scenario.tenantId scenario).state ≠ .archived ∧
      version = (projection store.pricing scenario.tenantId scenario).version

theorem riskQuotedAsShown_iff (beyond : TreatmentsBeyond store.risks) {risk : DecisionRiskRecord}
    (stored : risk ∈ store.risks.risks) : RiskQuotedAsShown store risk ↔
      (caseCitesRisk store risk → ∀ transition ∈ store.risks.treatments,
        treatmentOf risk.tenantId risk.id transition = false) := by
  have valid : ∀ revision, contextReferenceIsValid store risk.tenantId risk.caseId .decisionRisk risk.id
      revision none ↔ caseCitesRisk store risk ∧ revision = 1 := by
    intro revision
    simp only [contextReferenceIsValid, decide_eq_true_eq, and_true]
    constructor
    · rintro ⟨first, other, present, ⟨case, known, tenant, same, named, active, applicable⟩, owner, sameId⟩
      have only : other = risk := Table.eq_of_conflict present stored (.inl sameId)
      subst only
      exact ⟨⟨case, known, tenant, same, active, applicable⟩, first⟩
    · rintro ⟨⟨case, known, tenant, same, active, applicable⟩, first⟩
      exact ⟨first, risk, stored, ⟨case, known, tenant, same, same, active, applicable⟩, rfl, rfl⟩
  obtain ⟨snapshot, shown⟩ : ∃ snapshot,
      store.risks.getCurrent risk.tenantId risk.caseId risk.id = some snapshot := by
    unfold RiskStore.getCurrent
    rw [← Option.isSome_iff_exists, Option.isSome_map]
    cases found : store.risks.risks.find? (fun row => decide (row.tenantId = risk.tenantId ∧
        row.caseId = risk.caseId ∧ row.id = risk.id)) with
    | some other => rfl
    | none =>
      have missed := Table.find?_none.mp found risk stored
      simp at missed
  have first := (beyond.shown shown).2
  unfold RiskQuotedAsShown
  simp only [valid, shown, Option.some.injEq, forall_eq']
  constructor
  · intro agrees cited
    rw [← first]
    exact ((agrees 1).mp ⟨cited, rfl⟩).2.symm
  · intro untreated revision
    refine and_congr_right fun cited => ?_
    rw [first.mpr (untreated cited)]

theorem scenarioQuotedAsShown_iff (history : ScenarioHistory store.pricing)
    {scenario : PricingScenarioRecord} (stored : scenario ∈ store.pricing.scenarios) :
    ScenarioQuotedAsShown store scenario ↔ ∀ transition ∈ store.pricing.scenarioTransitions,
      transitionOf scenario.tenantId scenario.id transition = false := by
  have valid : ∀ version, contextReferenceIsValid store scenario.tenantId scenario.caseId .pricingScenario
      scenario.id version none ↔ version = scenario.version := by
    intro version
    simp only [contextReferenceIsValid, decide_eq_true_eq, true_and]
    constructor
    · rintro ⟨other, present, _, sameId, _, same, _⟩
      have only : other = scenario := Table.eq_of_conflict present stored (.inl sameId)
      rw [← same, only]
    · rintro rfl
      refine ⟨scenario, stored, rfl, rfl, rfl, rfl, ?_⟩
      rw [history.draft scenario stored]
      decide
  unfold ScenarioQuotedAsShown
  simp only [valid]
  constructor
  · intro agrees transition member
    have shown := ((agrees scenario.version).mp rfl).2
    by_contra matched
    have later := history.projection_beyond stored member (Bool.not_eq_false _ ▸ matched)
    omega
  · intro untouched version
    obtain ⟨sameVersion, sameState⟩ := projection_untouched untouched
    rw [sameVersion, sameState, history.draft scenario stored]
    simp

/-- In every reachable store the risks quoted as shown are those never treated, or whose case cites
    them no more; the scenarios quoted as shown are those never selected nor archived. -/
theorem quotedAsShown_iff (inputs : List Input) :
    (∀ risk ∈ (run step .empty inputs).risks.risks, RiskQuotedAsShown (run step .empty inputs) risk ↔
      (caseCitesRisk (run step .empty inputs) risk →
        ∀ transition ∈ (run step .empty inputs).risks.treatments,
          treatmentOf risk.tenantId risk.id transition = false)) ∧
    ∀ scenario ∈ (run step .empty inputs).pricing.scenarios,
      ScenarioQuotedAsShown (run step .empty inputs) scenario ↔
        ∀ transition ∈ (run step .empty inputs).pricing.scenarioTransitions,
          transitionOf scenario.tenantId scenario.id transition = false :=
  ⟨fun _ stored => riskQuotedAsShown_iff (run_treatmentsBeyond inputs) stored,
    fun _ stored => scenarioQuotedAsShown_iff (run_scenarioHistory inputs) stored⟩

/-- A risk is registered and accepted, and a scenario created and archived. -/
def transitionedRun : List Input := draftedCase ++ [
  .foreign ⟨Table.singleton ⟨30, 1, 5, 33, "", "smart-ao-deterministic", "1", .completed, 1, 6, none⟩,
      Table.singleton ⟨31, 1, 30, 1, ⟨.pdfPage 1, 1⟩, "retard", ""⟩⟩
    (Table.singleton ⟨32, 1, 4, .published, "EUR", 1, 1, 1772368496000000, some 1772368496000000, 1000, 500, 100, 100, 0, 0, 0, 0⟩),
  .risk (.register ⟨⟨40, 40, none⟩, 41, 4, 5, 31, .ccap, "R1", "Retard", "Retard de chantier", .high, .likely,
    "retard", [("page", .int 1)], 0, 6, none⟩) patronAdmin,
  .risk (.transition ⟨⟨42, 42, none⟩, 41, 4, 1, .accepted, "retard", 0, 6, "Accepte"⟩) patronAdmin,
  .pricing (.create ⟨⟨43, 43, none⟩, 44, 4, 32, "base", .base, 0, 0, 0, 0, 0, 0, 0⟩) patronAdmin,
  .pricing (.transition ⟨⟨45, 45, none⟩, 46, 44, 1, .archived, "OBSOLETE"⟩) patronAdmin]

/-- The freeze accepts the risk at revision 1 while revision 2 is shown, and the archived scenario. -/
theorem transitionedRun_quoted_stale :
    (contextReferenceIsValid (run step .empty transitionedRun) 1 4 .decisionRisk 41 1 none = true ∧
      ((run step .empty transitionedRun).risks.getCurrent 1 4 41).map (·.revision) = some 2) ∧
    (contextReferenceIsValid (run step .empty transitionedRun) 1 4 .pricingScenario 44 1 none = true ∧
      listForCase (run step .empty transitionedRun).pricing 1 4 = [⟨44, 4, 2, .archived⟩]) := by
  decide +kernel

end SmartAo.Decision
