import SmartAo.Decision.Risk
import SmartAo.Foundation.Chain
import SmartAo.Foundation.Sessions
import SmartAo.Foundation.Utf8

namespace SmartAo.Decision

open SmartAo.Foundation SmartAo.Platform SmartAo.Case SmartAo.Dce SmartAo.PatronAction

/-- The risk register, with the cases and the extracted texts it reads. -/
structure RiskRegister where
  cases : Table CaseRecord
  sources : SourceStore
  store : RiskStore

/-- A registration or a link, which no treatment waits for, or what other modules write: stored fragments stay. -/
inductive RiskInput where
  | register (command : RegisterStructuredRiskCommand) (context : CommandContext)
  | link (dce : DceStore) (actions : ActionStore) (command : LinkRiskToRequirementCommand) (context : CommandContext)
  | foreign (cases : Table CaseRecord) (extractions : Table DceDocumentExtractionRecord)
      (fragments : List DceDocumentExtractionFragmentRecord)

def RiskRegister.step (register : RiskRegister) : RiskInput → Transaction RiskRegister
  | .register command context => do
    let (store, _) ← registerStructuredRisk register.cases register.sources register.store command context
    return { register with store }
  | .link dce actions command context => do
    let ((store, _), _) ← linkRiskToRequirement register.cases dce register.store actions command context
    return { register with store }
  | .foreign cases extractions fragments => do
    let stored ← flush (register.sources.fragments.insertAll? fragments)
    return { register with cases, sources := ⟨extractions, stored⟩ }

structure TreatmentCommand where
  command : TransitionStructuredRiskTreatmentCommand
  context : CommandContext

/-- `get_current` reads the risk and its latest treatment, and `transition` reads them again. -/
def treatmentSession (view : Nat → RiskRegister) (register : RiskRegister)
    (command : TransitionStructuredRiskTreatmentCommand) (context : CommandContext) : Transaction RiskRegister := do
  patronAdminRequired context
  let risk ← orRaise ((view 0).store.risks.find? fun row =>
    row.tenantId = context.tenantId ∧ row.caseId = command.caseId ∧ row.id = command.riskId)
    (.execution "RISK_NOT_FOUND_OR_FORBIDDEN")
  let latest := (view 1).store.latestTreatment context.tenantId command.riskId
  let treatment := (latest.map (·.toTreatment)).getD risk.treatment
  let revision := (latest.map (·.aggregateRevision)).getD 1
  raiseIf (revision ≠ command.expectedRevision) (.execution "RISK_REVISION_CONFLICT")
  raiseIf (command.toTreatment ∉ treatment.allowed) (.execution "INVALID_RISK_TREATMENT_TRANSITION")
  raiseIf (¬ (view 2).sources.supports context.tenantId risk.dceVersionId risk.sourceFragmentId
    command.evidenceExcerpt command.evidenceStartByteOffset command.evidenceEndByteOffset)
    (.execution "SOURCE_PROVENANCE_MISMATCH")
  let locked ← orRaise ((view 3).store.risks.find? fun row =>
    row.tenantId = context.tenantId ∧ row.id = command.riskId) (.execution "RISK_NOT_FOUND_OR_FORBIDDEN")
  let current := (view 4).store.latestTreatment context.tenantId command.riskId
  raiseIf ((current.map (·.toTreatment)).getD locked.treatment ≠ treatment) (.execution "RISK_TREATMENT_NOT_CURRENT")
  raiseIf ((current.map (·.aggregateRevision)).getD 1 ≠ revision) (.execution "RISK_REVISION_CONFLICT")
  let treatments ← flush (register.store.treatments.insert? {
    id := command.commandId, tenantId := context.tenantId, riskId := command.riskId,
    fromTreatment := treatment, toTreatment := command.toTreatment, evidenceExcerpt := command.evidenceExcerpt,
    evidenceStartByteOffset := command.evidenceStartByteOffset,
    evidenceEndByteOffset := command.evidenceEndByteOffset, rationale := command.rationale,
    aggregateRevision := revision + 1, commandId := command.commandId, idempotencyKey := command.idempotencyKey })
  return { register with store := { register.store with treatments } }

def finishTreatment (session : Session RiskRegister TreatmentCommand) (register : RiskRegister) :
    Transaction RiskRegister :=
  treatmentSession (session.view register) register session.command.command session.command.context

/-- Treatment commands interleaved statement by statement, among the other writers. -/
def interleaveTreatments (state : Sessions RiskRegister TreatmentCommand) (input : SessionInput RiskInput TreatmentCommand) :
    Transaction (Sessions RiskRegister TreatmentCommand) := state.step RiskRegister.step finishTreatment input

def emptyRegister : Sessions RiskRegister TreatmentCommand := ⟨⟨.empty, .empty, .empty⟩, []⟩

abbrev treatmentSteps : Steps DecisionRiskTreatmentTransitionRecord RiskTreatment where
  version := (·.aggregateRevision)
  before := (·.fromTreatment)
  after := (·.toTreatment)

def Allowed (first second : RiskTreatment) : Prop := second ∈ first.allowed

def ofRisk (risk : Uuid × Uuid) : DecisionRiskTreatmentTransitionRecord → Bool := treatmentOf risk.1 risk.2

/-- The treatments of a risk, in the order they were committed. -/
def treatmentsOf (store : RiskStore) (risk : Uuid × Uuid) : List DecisionRiskTreatmentTransitionRecord :=
  store.treatments.rows.filter (ofRisk risk)

/-- A stored excerpt is the bytes of the cited fragment between the offsets. -/
def Cited (sources : SourceStore) (tenantId sourceFragmentId : Uuid) (excerpt : String)
    (startByteOffset endByteOffset : Nat) : Prop :=
  ∃ fragment ∈ sources.fragments, (fragment.tenantId = tenantId ∧ fragment.id = sourceFragmentId) ∧
    startByteOffset < endByteOffset ∧ endByteOffset ≤ (utf8 fragment.text).length ∧
    ((utf8 fragment.text).drop startByteOffset).take (endByteOffset - startByteOffset) = utf8 excerpt

/-- The treatments of every risk form a chain from its registration; each cites its risk's fragment. -/
structure RiskHistory (register : RiskRegister) : Prop where
  registered : ∀ risk ∈ register.store.risks, risk.treatment = .open
  sourced : ∀ risk ∈ register.store.risks, Cited register.sources risk.tenantId risk.sourceFragmentId
    risk.sourceExcerpt risk.startByteOffset risk.endByteOffset
  evidenced : ∀ treatment ∈ register.store.treatments, ∃ risk ∈ register.store.risks,
    ofRisk (risk.tenantId, risk.id) treatment = true ∧ Cited register.sources risk.tenantId risk.sourceFragmentId
      treatment.evidenceExcerpt treatment.evidenceStartByteOffset treatment.evidenceEndByteOffset
  chained : ∀ risk, treatmentSteps.Chain Allowed (1, .open) (treatmentsOf register.store risk)

/-- Risks, treatments and fragments stay. -/
structure Kept (old new : RiskRegister) : Prop where
  risks : old.store.risks.rows <+: new.store.risks.rows
  treatments : old.store.treatments.rows <+: new.store.treatments.rows
  fragments : old.sources.fragments.rows <+: new.sources.fragments.rows

/-- A mitigated risk keeps its treatments as they are. -/
def Settled (old new : RiskRegister) : Prop :=
  ∀ risk, (treatmentSteps.position (1, .open) (treatmentsOf old.store risk)).2 = .mitigated →
    treatmentsOf new.store risk = treatmentsOf old.store risk

variable {view : Nat → RiskRegister} {register next old new : RiskRegister} {context : CommandContext}

/-- The check of the offsets, as the repository makes it: it decodes the bytes between them. -/
theorem excerptAt_iff_decodes {text excerpt : String} {start stop : Nat} : excerptAt text excerpt start stop = true ↔
    start < stop ∧ stop ≤ (utf8 text).length ∧
      decodeUtf8 (((utf8 text).drop start).take (stop - start)) = some excerpt.toList := by
  have decoded : decodeUtf8 (((utf8 text).drop start).take (stop - start)) = some excerpt.toList ↔
      ((utf8 text).drop start).take (stop - start) = utf8 excerpt := decodeUtf8_eq_some
  simp only [excerptAt, decoded, Bool.and_eq_true, decide_eq_true_eq, beq_iff_eq, and_assoc]

theorem ofRisk_iff {risk : Uuid × Uuid} {row : DecisionRiskTreatmentTransitionRecord} :
    ofRisk risk row = true ↔ row.tenantId = risk.1 ∧ row.riskId = risk.2 := decide_eq_true_iff

theorem supports_cited {sources : SourceStore} {tenantId dceVersionId sourceFragmentId : Uuid} {excerpt : String}
    {start stop : Nat} (supported : sources.supports tenantId dceVersionId sourceFragmentId excerpt start stop = true) :
    Cited sources tenantId sourceFragmentId excerpt start stop := by
  rw [SourceStore.supports, Option.any_eq_true] at supported
  obtain ⟨fragment, found, holds⟩ := supported
  have query := Table.find?_query found
  simp only [decide_eq_true_eq] at query
  simp only [excerptAt, Bool.and_eq_true, decide_eq_true_eq, beq_iff_eq] at holds
  exact ⟨fragment, Table.find?_mem found, query.1, holds.1.1, holds.1.2, holds.2⟩

theorem Cited.keep {sources later : SourceStore} {tenantId sourceFragmentId : Uuid} {excerpt : String}
    {start stop : Nat} (cited : Cited sources tenantId sourceFragmentId excerpt start stop)
    (kept : sources.fragments.rows <+: later.fragments.rows) : Cited later tenantId sourceFragmentId excerpt start stop := by
  obtain ⟨fragment, member, holds⟩ := cited
  exact ⟨fragment, kept.subset member, holds⟩

theorem Kept.refl (register : RiskRegister) : Kept register register :=
  ⟨List.prefix_refl _, List.prefix_refl _, List.prefix_refl _⟩

theorem Kept.trans {first second third : RiskRegister} (before : Kept first second) (after : Kept second third) :
    Kept first third :=
  ⟨before.risks.trans after.risks, before.treatments.trans after.treatments, before.fragments.trans after.fragments⟩

theorem riskHistory_empty : RiskHistory ⟨.empty, .empty, .empty⟩ where
  registered _ member := absurd member Table.not_mem_empty
  sourced _ member := absurd member Table.not_mem_empty
  evidenced _ member := absurd member Table.not_mem_empty
  chained _ := .nil

/-- Risks and fragments that come to a register leave its history as it is. -/
theorem RiskHistory.extend (history : RiskHistory register) (kept : Kept register next)
    (same : next.store.treatments = register.store.treatments)
    (fresh : ∀ risk ∈ next.store.risks, risk ∈ register.store.risks ∨ risk.treatment = .open ∧
      Cited next.sources risk.tenantId risk.sourceFragmentId risk.sourceExcerpt risk.startByteOffset
        risk.endByteOffset) : RiskHistory next where
  registered risk member := by
    rcases fresh risk member with old | ⟨opened, _⟩
    · exact history.registered risk old
    · exact opened
  sourced risk member := by
    rcases fresh risk member with old | ⟨_, cited⟩
    · exact (history.sourced risk old).keep kept.fragments
    · exact cited
  evidenced treatment member := by
    rw [same] at member
    obtain ⟨risk, stored, its, cited⟩ := history.evidenced treatment member
    exact ⟨risk, kept.risks.subset stored, its, cited.keep kept.fragments⟩
  chained risk := by
    rw [treatmentsOf, same]
    exact history.chained risk

theorem step_history {input : RiskInput} (history : RiskHistory register) (accepted : register.step input = .ok next) :
    RiskHistory next ∧ Kept register next := by
  cases input with
  | register command context =>
    simp only [RiskRegister.step, registerStructuredRisk, bind_ok, raiseIf_ok, exists_unit, orRaise_ok, pure_ok, flush,
      Decidable.not_not] at accepted
    obtain ⟨_, ⟨_, _, _, supported, _, _, _, risks, inserted, rfl⟩, rfl⟩ := accepted
    have kept : Kept register { register with store := { register.store with risks } } :=
      ⟨by rw [Table.insert?_rows inserted]; exact List.prefix_append _ _, List.prefix_refl _, List.prefix_refl _⟩
    refine ⟨history.extend kept rfl fun risk member => ?_, kept⟩
    rcases (Table.mem_insert? inserted).mp member with old | rfl
    · exact .inl old
    · exact .inr ⟨rfl, supports_cited supported⟩
  | link dce actions command context =>
    simp only [RiskRegister.step, linkRiskToRequirement, bind_ok, raiseIf_ok, exists_unit, orRaise_ok, pure_ok,
      flush] at accepted
    obtain ⟨_, ⟨_, _, _, _, _, _, _, links, _, _, _, rfl⟩, rfl⟩ := accepted
    have kept : Kept register { register with store := { register.store with links } } :=
      ⟨List.prefix_refl _, List.prefix_refl _, List.prefix_refl _⟩
    exact ⟨history.extend kept rfl fun risk member => .inl member, kept⟩
  | foreign cases extractions fragments =>
    simp only [RiskRegister.step, bind_ok, orRaise_ok, pure_ok, flush] at accepted
    obtain ⟨stored, inserted, rfl⟩ := accepted
    have kept : Kept register { register with cases, sources := ⟨extractions, stored⟩ } :=
      ⟨List.prefix_refl _, List.prefix_refl _, by
        rw [Table.insertAll?_rows inserted]
        exact List.prefix_append _ _⟩
    exact ⟨history.extend kept rfl fun risk member => .inl member, kept⟩

/-- What a treatment session writes. -/
structure Treats (view : Nat → RiskRegister) (register next : RiskRegister) (risk : DecisionRiskRecord)
    (record : DecisionRiskTreatmentTransitionRecord) : Prop where
  read : risk ∈ (view 0).store.risks
  its : ofRisk (risk.tenantId, risk.id) record = true
  before : record.fromTreatment =
    (((view 1).store.latestTreatment risk.tenantId risk.id).map (·.toTreatment)).getD risk.treatment
  version : record.aggregateRevision =
    (((view 1).store.latestTreatment risk.tenantId risk.id).map (·.aggregateRevision)).getD 1 + 1
  move : Allowed record.fromTreatment record.toTreatment
  cited : Cited (view 2).sources risk.tenantId risk.sourceFragmentId record.evidenceExcerpt
    record.evidenceStartByteOffset record.evidenceEndByteOffset
  inserted : register.store.treatments.insert? record = some next.store.treatments
  risks : next.store.risks = register.store.risks
  sources : next.sources = register.sources

theorem treatmentSession_ok {command : TransitionStructuredRiskTreatmentCommand}
    (accepted : treatmentSession view register command context = .ok next) :
    ∃ risk record, Treats view register next risk record := by
  simp only [treatmentSession, bind_ok, raiseIf_ok, exists_unit, orRaise_ok, pure_ok, flush,
    Decidable.not_not] at accepted
  obtain ⟨_, risk, found, _, move, supported, _, _, _, _, treatments, inserted, same⟩ := accepted
  have matched := Table.find?_query found
  simp only [decide_eq_true_eq] at matched
  rw [← matched.1] at inserted move supported
  rw [← matched.2.2] at inserted move
  subst same
  refine ⟨risk, _, Table.find?_mem found, ?_, ?_, ?_, ?_, ?_, inserted, rfl, rfl⟩
  · exact ofRisk_iff.mpr ⟨rfl, rfl⟩
  · rfl
  · rfl
  · exact move
  · exact supports_cited supported

/-- A session whose statements all see the register it commits in is the handler. -/
theorem treatmentSession_alone (register : RiskRegister) (command : TransitionStructuredRiskTreatmentCommand)
    (context : CommandContext) : treatmentSession (fun _ => register) register command context =
      (transitionStructuredRiskTreatment register.sources register.store command context).map fun written =>
        { register with store := written.1 } := by
  have same : ∀ risk, (register.store.risks.find? fun row => row.tenantId = context.tenantId ∧
      row.caseId = command.caseId ∧ row.id = command.riskId) = some risk →
        (register.store.risks.find? fun row => row.tenantId = context.tenantId ∧ row.id = command.riskId) = some risk := by
    intro risk found
    have matched := Table.find?_query found
    simp only [decide_eq_true_eq] at matched
    refine (Table.find?_eq_some fun first second => ?_).mpr ⟨Table.find?_mem found, by simp [matched.1, matched.2.2]⟩
    simp only [decide_eq_true_eq] at first second
    exact .inl (first.2.trans second.2.symm)
  unfold treatmentSession transitionStructuredRiskTreatment RiskStore.getCurrent
  cases found : register.store.risks.find? fun row => row.tenantId = context.tenantId ∧
      row.caseId = command.caseId ∧ row.id = command.riskId with
  | none => cases patronAdminRequired context <;> rfl
  | some risk =>
    simp only [same risk found, Foundation.map_bind, Foundation.map_pure, orRaise_some, Option.map_some,
      raiseIf_pass (not_not_intro rfl), bind_of_ok rfl]

theorem finishTreatment_history {session : Session RiskRegister TreatmentCommand}
    (saw : (session.seen ++ [register]).Pairwise Kept) (seen : ∀ old ∈ session.seen ++ [register], RiskHistory old)
    (accepted : finishTreatment session register = .ok next) : RiskHistory next ∧ Kept register next := by
  have history : RiskHistory register := seen register (by simp)
  obtain ⟨risk, record, written⟩ := treatmentSession_ok accepted
  have before : ∀ statement, Kept (session.view register statement) register := session.view_store Kept.refl saw
  have opened : risk.treatment = .open := (seen _ (session.view_mem register 0)).registered risk written.read
  have kept : Kept register next := by
    refine ⟨by rw [written.risks], ?_, by rw [written.sources]⟩
    rw [Table.insert?_rows written.inserted]
    exact List.prefix_append _ _
  refine ⟨⟨fun other member => ?_, fun other member => ?_, fun treatment member => ?_, ?_⟩, kept⟩
  · rw [written.risks] at member
    exact history.registered other member
  · rw [written.risks] at member
    exact (history.sourced other member).keep kept.fragments
  · rcases (Table.mem_insert? written.inserted).mp member with old | rfl
    · obtain ⟨owner, stored, its, cited⟩ := history.evidenced treatment old
      exact ⟨owner, kept.risks.subset stored, its, cited.keep kept.fragments⟩
    · have present : risk ∈ next.store.risks := ((before 0).trans kept).risks.subset written.read
      exact ⟨risk, present, written.its, written.cited.keep ((before 2).trans kept).fragments⟩
  · refine Steps.chains_insert ofRisk history.chained (before 1).treatments written.inserted written.its
      (fun other its => ?_) (fun stored _ matched equal => ?_) ?_ ?_ written.move
    · obtain ⟨tenant, owner⟩ := ofRisk_iff.mp written.its
      obtain ⟨same, named⟩ := ofRisk_iff.mp its
      exact Prod.ext (same.symm.trans tenant) (named.symm.trans owner)
    · obtain ⟨tenant, owner⟩ := ofRisk_iff.mp written.its
      obtain ⟨same, named⟩ := ofRisk_iff.mp matched
      exact .inr ⟨same.trans tenant.symm, .inr (.inr (Prod.ext (named.trans owner.symm) equal))⟩
    · rw [Steps.shown_fst]
      exact written.version
    · rw [Steps.shown_snd, ← opened]
      exact written.before

theorem Kept.settled (kept : Kept old new) (history : RiskHistory new) : Settled old new := by
  intro risk mitigated
  obtain ⟨rest, appended⟩ := kept.treatments.filter (ofRisk risk)
  rcases List.eq_nil_or_concat (treatmentsOf old.store risk) with empty | ⟨first, last, split⟩
  · rw [empty, Steps.position_nil] at mitigated
    cases mitigated
  · rw [List.concat_eq_append] at split
    rw [split, Steps.position_concat] at mitigated
    have whole : treatmentsOf new.store risk = first ++ last :: rest := by
      rw [treatmentsOf, ← appended]
      show treatmentsOf old.store risk ++ rest = _
      rw [split]
      simp
    have none : rest = [] :=
      (history.chained risk).absorbs .mitigated (by simp [Allowed, RiskTreatment.allowed]) whole mitigated
    rw [whole, split, none]

/-- Whatever the commands and their interleaving, the treatments of a risk form one chain from its registration,
    each citing the risk's fragment; they stay, and none follows a mitigation. -/
theorem risk_treatment_history (inputs : List (SessionInput RiskInput TreatmentCommand)) :
    RiskHistory (run interleaveTreatments emptyRegister inputs).store ∧ ∀ first, first <+: inputs →
      Kept (run interleaveTreatments emptyRegister first).store (run interleaveTreatments emptyRegister inputs).store ∧
        Settled (run interleaveTreatments emptyRegister first).store (run interleaveTreatments emptyRegister inputs).store := by
  obtain ⟨history, kept⟩ := Sessions.run_seen RiskHistory (fun _ _ => True) Kept.refl Kept.trans (fun _ _ _ history accepted => step_history history accepted)
    (fun _ _ _ saw seen _ accepted => finishTreatment_history saw seen accepted) riskHistory_empty rfl
    (Sessions.finishing_always emptyRegister inputs)
  exact ⟨history, fun first before => ⟨kept first before, (kept first before).settled history⟩⟩

end SmartAo.Decision
