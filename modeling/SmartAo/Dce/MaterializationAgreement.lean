import SmartAo.Dce.Materialization

namespace SmartAo.Dce

open SmartAo.Foundation SmartAo.Platform

def ofAnalysis (analysis : DceRcAnalysisRunRecord) (row : DceRcRequirementObservationRecord) : Bool :=
  row.tenantId = analysis.tenantId ∧ row.analysisId = analysis.id

def RcStore.observationsOf (rc : RcStore) (analysis : DceRcAnalysisRunRecord) :
    List DceRcRequirementObservationRecord :=
  rc.observations.rows.filter (ofAnalysis analysis)

/-- A completed analysis as its handler records it: at most 20 000 observations of its own version, and
    one source for each. -/
structure RcStore.Recorded (rc : RcStore) (analysis : DceRcAnalysisRunRecord) : Prop where
  stored : analysis ∈ rc.analyses
  completed : analysis.status = .completed
  observed : rc.observationsOf analysis ≠ []
  bounded : (rc.observationsOf analysis).length ≤ maxObservations
  ofVersion : ∀ observation ∈ rc.observationsOf analysis, observation.dceVersionId = analysis.dceVersionId
  sourced : ∀ observation ∈ rc.observationsOf analysis, ∃ source,
    rc.observationSources.rows.filter (fun source => source.tenantId = observation.tenantId ∧
      source.observationId = observation.id) = [source]

section Rows

variable {rc : RcStore} {analysis : DceRcAnalysisRunRecord}

theorem observationRows_perm (recorded : rc.Recorded analysis) :
    ((rc.observationRows (ofAnalysis analysis)).map Prod.fst).Perm (rc.observationsOf analysis) := by
  have listed : ((rc.observations.join rc.observationSources fun observation source =>
      source.tenantId = observation.tenantId ∧ source.observationId = observation.id).filter
        fun row => ofAnalysis analysis row.1).map Prod.fst = rc.observationsOf analysis := by
    apply Table.join_filter_map_fst
    intro row member selected
    exact recorded.sourced row (List.mem_filter.mpr ⟨member, selected⟩)
  rw [← listed]
  exact (List.perm_insertionSort _ _).map Prod.fst

theorem observationIds_nodup (rc : RcStore) (analysis : DceRcAnalysisRunRecord) :
    ((rc.observationsOf analysis).map (·.id)).Nodup := by
  rw [List.Nodup, List.pairwise_map]
  refine (rc.observations.distinct.filter _).imp fun apart same => ?_
  exact apart (.inl same)

/-- The handler and the service read the same rows. -/
theorem observationRows_ofVersion (recorded : rc.Recorded analysis) :
    rc.observationRows (fun row => row.tenantId = analysis.tenantId ∧ row.analysisId = analysis.id ∧
      row.dceVersionId = analysis.dceVersionId) = rc.observationRows (ofAnalysis analysis) := by
  unfold RcStore.observationRows
  congr 1
  refine List.filter_congr fun row member => ?_
  have stored := (Table.mem_join.mp member).1
  simp only [ofAnalysis, decide_eq_decide]
  constructor
  · exact fun ⟨tenant, named, _⟩ => ⟨tenant, named⟩
  · rintro ⟨tenant, named⟩
    have selected : row.1 ∈ rc.observationsOf analysis :=
      List.mem_filter.mpr ⟨stored, decide_eq_true ⟨tenant, named⟩⟩
    exact ⟨tenant, named, recorded.ofVersion row.1 selected⟩

def RcStore.signals (rc : RcStore) (analysis : DceRcAnalysisRunRecord) : List RequirementSignal :=
  (rc.observationRows (ofAnalysis analysis)).map signalOf

theorem signals_observationIds (recorded : rc.Recorded analysis) :
    ((rc.signals analysis).map (·.observationId)).Perm ((rc.observationsOf analysis).map (·.id)) := by
  have rows := (observationRows_perm recorded).map (·.id)
  rw [List.map_map] at rows
  rw [RcStore.signals, List.map_map]
  exact rows

theorem signals_nodup (recorded : rc.Recorded analysis) :
    ((rc.signals analysis).map (·.observationId)).Nodup :=
  (signals_observationIds recorded).nodup_iff.mpr (observationIds_nodup rc analysis)

theorem signals_length (recorded : rc.Recorded analysis) :
    (rc.signals analysis).length = (rc.observationsOf analysis).length := by
  have lengths := (observationRows_perm recorded).length_eq
  rw [List.length_map] at lengths
  rw [RcStore.signals, List.length_map, lengths]

theorem mem_observationsOf (recorded : rc.Recorded analysis) {observation : DceRcRequirementObservationRecord} :
    observation ∈ rc.observationsOf analysis ↔
      ∃ row ∈ rc.observationRows (ofAnalysis analysis), row.1 = observation := by
  rw [← (observationRows_perm recorded).mem_iff, List.mem_map]

theorem forall_signals (recorded : rc.Recorded analysis) (accepts : RequirementKind → Prop) :
    (∀ signal ∈ rc.signals analysis, accepts signal.requirementKind) ↔
      ∀ observation ∈ rc.observationsOf analysis, accepts observation.requirementKind := by
  rw [RcStore.signals, List.forall_mem_map]
  constructor
  · intro all observation member
    obtain ⟨row, listed, rfl⟩ := (mem_observationsOf recorded).mp member
    exact all row listed
  · intro all row listed
    exact all row.1 ((mem_observationsOf recorded).mpr ⟨row, listed, rfl⟩)

theorem sourceByObservation_isSome {rows : List ObservationRow} {row : ObservationRow} (member : row ∈ rows) :
    ∃ source, sourceByObservation rows row.1.id = some source := by
  cases found : rows.reverse.find? fun other => other.1.id = row.1.id with
  | none =>
    have absent := List.find?_eq_none.mp found row (List.mem_reverse.mpr member)
    exact absurd (decide_eq_true rfl) absent
  | some other => exact ⟨other.2, by rw [sourceByObservation, found]; rfl⟩

end Rows

/-- The type the materializer gives a kind. -/
def RequirementKind.requirementType (kind : RequirementKind) : RequirementType :=
  (requirementTypes.lookup kind).getD .contractRiskSignal

theorem lookup_requirementTypes (kind : RequirementKind) :
    requirementTypes.lookup kind = some kind.requirementType := by
  cases kind <;> rfl

/-- The handler's table agrees with the materializer's where it has the kind, and lacks the kinds of
    contract risks. -/
theorem lookup_expectedTypes (kind : RequirementKind) : expectedTypes.lookup kind =
    if kind.requirementType = .contractRiskSignal then none else some kind.requirementType := by
  cases kind <;> rfl

def requirementInput (runId : Uuid) (signal : RequirementSignal) : DceRequirementInput where
  requirementId := uuid5 runId signal.observationId.chars
  sourceObservationId := signal.observationId
  requirementType := signal.requirementKind.requirementType
  directiveSignal := signal.directive
  confirmationStatus := .pendingHumanConfirmation
  uncertaintyStatus := .sourceSignalOnly

theorem requirementInput?_ok (runId : Uuid) (signal : RequirementSignal) :
    requirementInput? runId signal = .ok (requirementInput runId signal) := by
  rw [requirementInput?, lookup_requirementTypes]
  rfl

def completedCommand (analysis : DceRcAnalysisRunRecord) (signals : List RequirementSignal) :
    RecordDceRequirementMaterializationRunCommand where
  commandId := requirementsRunId analysis.id signals
  idempotencyKey := requirementsRunId analysis.id signals
  correlationId := some analysis.dceVersionId
  requirementsRunId := requirementsRunId analysis.id signals
  dceVersionId := analysis.dceVersionId
  dceRcAnalysisId := analysis.id
  inputManifestSha256 := requirementsManifestSha256 signals
  materializerId := materializerId
  materializerVersion := materializerVersion
  status := .completed
  sourceObservationCount := signals.length
  failureCode := none
  requirements := signals.map (requirementInput (requirementsRunId analysis.id signals))

section Command

variable {analysis : DceRcAnalysisRunRecord} {signals : List RequirementSignal}

theorem projectRequirements_completed (observed : signals ≠ []) (bounded : signals.length ≤ maxObservations) :
    projectRequirements signals = ⟨.completed, none, signals⟩ := by
  have mapped : ¬ ∃ signal ∈ signals, requirementTypes.lookup signal.requirementKind = none := by
    rintro ⟨signal, _, absent⟩
    rw [lookup_requirementTypes] at absent
    cases absent
  rw [projectRequirements, if_neg (by omega), if_neg observed, if_neg mapped]

/-- A completed projection has a command when no two of its requirements share an identifier. -/
theorem materializationCommand_ok {command : RecordDceRequirementMaterializationRunCommand}
    (observed : signals ≠ []) (bounded : signals.length ≤ maxObservations)
    (distinct : (signals.map (·.observationId)).Nodup) :
    materializationCommand analysis.dceVersionId analysis.id (projectRequirements signals) = .ok command ↔
      (signals.map fun signal => uuid5 (requirementsRunId analysis.id signals) signal.observationId.chars).Nodup ∧
        completedCommand analysis signals = command := by
  have inputs : collect (requirementInput? (requirementsRunId analysis.id signals)) signals =
      .ok (signals.map (requirementInput (requirementsRunId analysis.id signals))) :=
    collect_of_ok fun signal _ => requirementInput?_ok _ signal
  have hex : isSha256 (requirementsManifestSha256 signals) = true := isSha256_hexdigest _
  have identifier : ¬ (materializerId = "" ∨ 100 < materializerId.length) := by decide
  have version : ¬ (materializerVersion = "" ∨ 64 < materializerVersion.length) := by decide
  have limit : ¬ 20000 < signals.length := by
    unfold maxObservations at bounded
    omega
  have observations : (signals.map ((·.sourceObservationId) ∘ requirementInput (requirementsRunId analysis.id
      signals))).Nodup := distinct
  rw [projectRequirements_completed observed bounded, materializationCommand, if_pos rfl, bind_of_ok inputs]
  simp only [RecordDceRequirementMaterializationRunCommand.build,
    RecordDceRequirementMaterializationRunCommand.validateTerminalProjection, bind_ok, raiseIf_ok, exists_unit,
    pure_ok, hex, identifier, version, limit, List.length_map, List.map_map, observations, not_not,
    Option.any_none, Bool.true_eq_false, Bool.false_eq_true, not_false_eq_true, true_and, ne_eq, not_true_eq_false,
    or_self, and_true]
  exact Iff.rfl

theorem checkMappings_ok {pairs : List (DceRequirementInput × RequirementSignal)} :
    checkMappings pairs = .ok () ↔ ∀ pair ∈ pairs, pair.1.sourceObservationId = pair.2.observationId ∧
      expectedTypes.lookup pair.2.requirementKind = some pair.1.requirementType ∧
      pair.1.directiveSignal = pair.2.directive := by
  induction pairs with
  | nil => simp [checkMappings]
  | cons pair pairs ih =>
    obtain ⟨received, signal⟩ := pair
    simp only [checkMappings, bind_ok, raiseIf_ok, exists_unit, orRaise_ok, not_or, not_not, ih, ne_eq,
      List.forall_mem_cons]
    constructor
    · rintro ⟨named, expected, found, ⟨typed, directed, _⟩, rest⟩
      exact ⟨⟨named, typed ▸ found, directed⟩, rest⟩
    · rintro ⟨⟨named, found, directed⟩, rest⟩
      exact ⟨named, received.requirementType, found, ⟨rfl, directed, trivial, trivial⟩, rest⟩

/-- The handler's mapping check passes exactly when no signal is a contract risk. -/
theorem checkRequirements_completed : checkRequirements (completedCommand analysis signals) signals = .ok () ↔
    ∀ signal ∈ signals, signal.requirementKind.requirementType ≠ .contractRiskSignal := by
  have pairs : (completedCommand analysis signals).requirements.zip signals = signals.map fun signal =>
      (requirementInput (requirementsRunId analysis.id signals) signal, signal) := by
    have zipped : (signals.map (requirementInput (requirementsRunId analysis.id signals))).zip (signals.map id) =
        signals.map fun signal => (requirementInput (requirementsRunId analysis.id signals) signal, id signal) :=
      List.zip_map'
    rwa [List.map_id] at zipped
  have completed : (completedCommand analysis signals).status = .completed := rfl
  rw [checkRequirements, if_pos completed, pairs]
  simp only [bind_ok, raiseIf_ok, exists_unit, checkMappings_ok, List.forall_mem_map, lookup_expectedTypes]
  constructor
  · rintro ⟨_, mapped⟩ signal member risk
    have found := (mapped signal member).2.1
    rw [if_pos risk] at found
    cases found
  · intro clear
    refine ⟨by simp [completedCommand], fun signal member => ⟨rfl, ?_, rfl⟩⟩
    rw [if_neg (clear signal member)]
    rfl

end Command

/-- The context in which the service dispatches. -/
def requirementsContext (tenantId : Uuid) (receivedAt : Timestamp) : CommandContext where
  tenantId := tenantId
  actorId := 0x16
  actorKind := .system
  receivedAt := receivedAt
  membershipId := none
  caseId := none

section Agreement

variable {store : RequirementStore} {analysis : DceRcAnalysisRunRecord} {draw : Nat → Uuid}

/-- The identifiers derived from an analysis and drawn for its requirements are neither repeated nor
    stored. -/
structure Unclaimed (store : RequirementStore) (analysis : DceRcAnalysisRunRecord) (draw : Nat → Uuid) : Prop where
  run : ∀ run ∈ store.runs, run.id ≠ requirementsRunId analysis.id (store.rc.signals analysis)
  apart : ((store.rc.signals analysis).map fun signal =>
    uuid5 (requirementsRunId analysis.id (store.rc.signals analysis)) signal.observationId.chars).Nodup
  requirements : ∀ row ∈ store.dce.requirements, ∀ signal ∈ store.rc.signals analysis,
    row.id ≠ uuid5 (requirementsRunId analysis.id (store.rc.signals analysis)) signal.observationId.chars ∧
      (row.tenantId, row.requirementsRunId, row.sourceObservationId) ≠
        (analysis.tenantId, requirementsRunId analysis.id (store.rc.signals analysis), signal.observationId)
  drawn : ((List.range (store.rc.signals analysis).length).map draw).Nodup
  sources : ∀ row ∈ store.requirementSources,
    (∀ index < (store.rc.signals analysis).length, row.id ≠ draw index) ∧
      ∀ signal ∈ store.rc.signals analysis, (row.tenantId, row.requirementId) ≠ (analysis.tenantId,
        uuid5 (requirementsRunId analysis.id (store.rc.signals analysis)) signal.observationId.chars)

/-- Each observation of an analysis has the one requirement of its kind and directive that was added
    for it. -/
structure Materialized (store next : RequirementStore) (analysis : DceRcAnalysisRunRecord) : Prop where
  added : ∃ rows, next.dce.requirements.rows = store.dce.requirements.rows ++ rows ∧
    rows.length = (store.rc.observationsOf analysis).length ∧
    ∀ observation ∈ store.rc.observationsOf analysis, ∃ row ∈ rows, row.sourceObservationId = observation.id ∧
      row.tenantId = analysis.tenantId ∧ row.dceVersionId = analysis.dceVersionId ∧
      row.requirementType = observation.requirementKind.requirementType ∧
      row.directiveSignal = observation.directive

def requirementRows (store : RequirementStore) (analysis : DceRcAnalysisRunRecord) : List DceRequirementRecord :=
  (completedCommand analysis (store.rc.signals analysis)).requirements.map
    ((completedCommand analysis (store.rc.signals analysis)).requirementRecord analysis.tenantId)

theorem materialized_of_rows {next : RequirementStore} (recorded : store.rc.Recorded analysis)
    (rows : next.dce.requirements.rows = store.dce.requirements.rows ++ requirementRows store analysis) :
    Materialized store next analysis := by
  refine ⟨requirementRows store analysis, rows, ?_, ?_⟩
  · simp [requirementRows, completedCommand, signals_length recorded]
  · intro observation member
    obtain ⟨row, listed, rfl⟩ := (mem_observationsOf recorded).mp member
    have signal : signalOf row ∈ store.rc.signals analysis := List.mem_map_of_mem listed
    have input := List.mem_map_of_mem (f := requirementInput
      (requirementsRunId analysis.id (store.rc.signals analysis))) signal
    exact ⟨_, List.mem_map_of_mem input, rfl, rfl, rfl, rfl, rfl⟩

theorem run_insert_iff (first : ∀ run ∈ store.runs, run.tenantId = analysis.tenantId →
      run.dceRcAnalysisId ≠ analysis.id) :
    (store.runs.insert? ((completedCommand analysis (store.rc.signals analysis)).runRecord
      analysis.tenantId)).isSome ↔
      ∀ run ∈ store.runs, run.id ≠ requirementsRunId analysis.id (store.rc.signals analysis) := by
  rw [Table.insert?_isSome]
  refine forall₂_congr fun run member => ?_
  constructor
  · exact fun apart same => apart (.inl same)
  · rintro apart (same | same)
    · exact apart same
    · have keys := Prod.mk.inj same
      exact first run member keys.1 (Prod.mk.inj (Prod.mk.inj keys.2).2).1

theorem requirements_insert_iff (recorded : store.rc.Recorded analysis) (apart : ((store.rc.signals analysis).map
      fun signal => uuid5 (requirementsRunId analysis.id (store.rc.signals analysis))
        signal.observationId.chars).Nodup) :
    (store.dce.requirements.insertAll? (requirementRows store analysis)).isSome ↔
      ∀ row ∈ store.dce.requirements, ∀ signal ∈ store.rc.signals analysis,
        row.id ≠ uuid5 (requirementsRunId analysis.id (store.rc.signals analysis)) signal.observationId.chars ∧
          (row.tenantId, row.requirementsRunId, row.sourceObservationId) ≠ (analysis.tenantId,
            requirementsRunId analysis.id (store.rc.signals analysis), signal.observationId) := by
  have distinct := signals_nodup recorded
  have pairwise : (requirementRows store analysis).Pairwise fun one other => ¬ Schema.Conflict one other := by
    rw [List.Nodup, List.pairwise_map] at apart distinct
    rw [requirementRows, completedCommand, List.pairwise_map, List.pairwise_map]
    refine (apart.and distinct).imp fun ⟨ids, observations⟩ conflict => ?_
    rcases conflict with same | same
    · exact ids same
    · exact observations (Prod.mk.inj (Prod.mk.inj same).2).2
  rw [Table.insertAll?_isSome, and_iff_left pairwise]
  refine forall₂_congr fun row _ => ?_
  rw [requirementRows, completedCommand, List.forall_mem_map, List.forall_mem_map]
  exact forall₂_congr fun signal _ => not_or

theorem sources_insert_iff {sources : List DceRcRequirementSourceRecord}
    (length : sources.length = (store.rc.signals analysis).length) (apart : ((store.rc.signals analysis).map
      fun signal => uuid5 (requirementsRunId analysis.id (store.rc.signals analysis))
        signal.observationId.chars).Nodup) :
    (store.requirementSources.insertAll? ((completedCommand analysis
        (store.rc.signals analysis)).requirementSourceRecords analysis.tenantId draw sources)).isSome ↔
      ((List.range (store.rc.signals analysis).length).map draw).Nodup ∧
        ∀ row ∈ store.requirementSources,
          (∀ index < (store.rc.signals analysis).length, row.id ≠ draw index) ∧
            ∀ signal ∈ store.rc.signals analysis, (row.tenantId, row.requirementId) ≠ (analysis.tenantId,
              uuid5 (requirementsRunId analysis.id (store.rc.signals analysis)) signal.observationId.chars) := by
  let runId := requirementsRunId analysis.id (store.rc.signals analysis)
  have keys : ((completedCommand analysis (store.rc.signals analysis)).requirementSourceRecords analysis.tenantId
      draw sources).map Schema.columns = (store.rc.signals analysis).mapIdx fun index signal =>
        (draw index, analysis.tenantId, uuid5 runId signal.observationId.chars) := by
    refine List.ext_getElem ?_ fun index _ _ => ?_
    · simp [RecordDceRequirementMaterializationRunCommand.requirementSourceRecords, completedCommand, length]
    · simp only [RecordDceRequirementMaterializationRunCommand.requirementSourceRecords, completedCommand,
        List.getElem_map, List.getElem_mapIdx, List.getElem_zip]
      rfl
  rw [Table.insertAll?_isSome_columns, keys, and_comm]
  refine and_congr ?_ (forall₂_congr fun row _ => ?_)
  · rw [List.Nodup, List.pairwise_map, List.pairwise_iff_getElem, List.pairwise_iff_getElem]
    rw [List.nodup_iff_pairwise_ne, List.pairwise_map, List.pairwise_iff_getElem] at apart
    simp only [List.length_mapIdx, List.getElem_mapIdx, List.length_range, List.getElem_range]
    refine forall₅_congr fun first second hf hs before => ?_
    constructor
    · exact fun different same => different (.inl same)
    · rintro different (same | same)
      · exact different same
      · exact apart first second hf hs before (Prod.mk.inj same).2
  · simp only [List.mem_mapIdx, forall_exists_index]
    constructor
    · intro free
      refine ⟨fun index inside same => free _ index inside rfl (.inl same), fun signal member same => ?_⟩
      obtain ⟨index, inside, rfl⟩ := List.mem_iff_getElem.mp member
      exact free _ index inside rfl (.inr same)
    · rintro ⟨drawn, owned⟩ column index inside rfl (same | same)
      · exact drawn index inside same
      · exact owned _ (List.getElem_mem inside) same

theorem unclaimed_iff (recorded : store.rc.Recorded analysis) (first : ∀ run ∈ store.runs,
      run.tenantId = analysis.tenantId → run.dceRcAnalysisId ≠ analysis.id)
    {sources : List DceRcRequirementSourceRecord} (length : sources.length = (store.rc.signals analysis).length) :
    Unclaimed store analysis draw ↔
      ((store.rc.signals analysis).map fun signal => uuid5 (requirementsRunId analysis.id
        (store.rc.signals analysis)) signal.observationId.chars).Nodup ∧
      (store.runs.insert? ((completedCommand analysis (store.rc.signals analysis)).runRecord
        analysis.tenantId)).isSome ∧
      (store.dce.requirements.insertAll? (requirementRows store analysis)).isSome ∧
      (store.requirementSources.insertAll? ((completedCommand analysis
        (store.rc.signals analysis)).requirementSourceRecords analysis.tenantId draw sources)).isSome := by
  constructor
  · intro unclaimed
    exact ⟨unclaimed.apart, (run_insert_iff first).mpr unclaimed.run,
      (requirements_insert_iff recorded unclaimed.apart).mpr unclaimed.requirements,
      (sources_insert_iff length unclaimed.apart).mpr ⟨unclaimed.drawn, unclaimed.sources⟩⟩
  · rintro ⟨apart, run, requirements, sources⟩
    have drawn := (sources_insert_iff length apart).mp sources
    exact ⟨(run_insert_iff first).mp run, apart, (requirements_insert_iff recorded apart).mp requirements,
      drawn.1, drawn.2⟩

theorem requirementsReady_id {dce : DceStore} {tenantId dceVersionId : Uuid} {version : DceVersionRecord}
    (ready : dce.requirementsReady tenantId dceVersionId = some version) : version.id = dceVersionId := by
  rw [DceStore.requirementsReady, Option.filter_eq_some_iff] at ready
  have query := Table.find?_query ready.1
  simp only [decide_eq_true_eq] at query
  exact query.2

theorem completedAnalysis (recorded : store.rc.Recorded analysis) {query : DceRcAnalysisRunRecord → Bool}
    (matched : query analysis = true) :
    (store.rc.analysis analysis.tenantId analysis.id).filter query = some analysis := by
  have found : store.rc.analysis analysis.tenantId analysis.id = some analysis := by
    refine (Table.find?_eq_some ?_).mpr ⟨recorded.stored, decide_eq_true ⟨rfl, rfl⟩⟩
    intro one other hf hs
    simp only [decide_eq_true_eq] at hf hs
    exact .inl (hf.2.trans hs.2.symm)
  rw [found, Option.filter_some, if_pos matched]

/-- What the service loads from a recorded analysis of a version that is ready. -/
theorem loadSignals_ok (recorded : store.rc.Recorded analysis) {version : DceVersionRecord}
    (ready : store.dce.requirementsReady analysis.tenantId analysis.dceVersionId = some version) :
    loadSignals store analysis.tenantId analysis.dceVersionId analysis.id = .ok (store.rc.signals analysis) := by
  rw [loadSignals, ready, completedAnalysis recorded (decide_eq_true ⟨rfl, recorded.completed⟩)]
  rfl

theorem existingRun_none (first : ∀ run ∈ store.runs, run.tenantId = analysis.tenantId →
      run.dceRcAnalysisId ≠ analysis.id) (signals : List RequirementSignal) :
    store.existingRun analysis.tenantId (completedCommand analysis signals) = none := by
  rw [RequirementStore.existingRun, Table.find?_none]
  intro run member
  rw [decide_eq_false_iff_not]
  rintro ⟨tenant, _, named, _⟩
  exact first run member tenant named

/-- What the handler does with the command of an analysis that has no run yet. -/
theorem record_completedCommand (recorded : store.rc.Recorded analysis) {version : DceVersionRecord}
    (ready : store.dce.requirementsReady analysis.tenantId analysis.dceVersionId = some version)
    (first : ∀ run ∈ store.runs, run.tenantId = analysis.tenantId → run.dceRcAnalysisId ≠ analysis.id)
    (receivedAt : Timestamp) {next : RequirementStore} {outcome : HandlerOutcome} :
    recordDceRequirementMaterializationRun store draw (completedCommand analysis (store.rc.signals analysis))
        (requirementsContext analysis.tenantId receivedAt) = .ok (next, outcome) ↔
      (∀ signal ∈ store.rc.signals analysis, signal.requirementKind.requirementType ≠ .contractRiskSignal) ∧
      ∃ runs sources requirements requirementSources,
        store.runs.insert? ((completedCommand analysis (store.rc.signals analysis)).runRecord analysis.tenantId) =
          some runs ∧
        collect (fun item => orRaise (sourceByObservation (store.rc.observationRows (ofAnalysis analysis))
          item.sourceObservationId) (CommandError.failed item.sourceObservationId.str))
          (completedCommand analysis (store.rc.signals analysis)).requirements = .ok sources ∧
        store.dce.requirements.insertAll? (requirementRows store analysis) = some requirements ∧
        store.requirementSources.insertAll? ((completedCommand analysis
          (store.rc.signals analysis)).requirementSourceRecords analysis.tenantId draw sources) =
          some requirementSources ∧
        ({ store with dce := { store.dce with requirements }, runs, requirementSources },
          materialized (completedCommand analysis (store.rc.signals analysis))) = (next, outcome) := by
  have named := requirementsReady_id ready
  have found : (store.rc.analysis analysis.tenantId analysis.id).filter (fun row =>
      decide (row.dceVersionId = version.id ∧ row.status = .completed)) = some analysis :=
    completedAnalysis recorded (decide_eq_true ⟨named.symm, recorded.completed⟩)
  have bounded : (store.rc.signals analysis).length ≤ maxObservations := by
    rw [signals_length recorded]
    exact recorded.bounded
  have observed : store.rc.signals analysis ≠ [] := by
    rw [← List.length_pos_iff, signals_length recorded, List.length_pos_iff]
    exact recorded.observed
  have rows : store.rc.observationRows (fun row => row.tenantId = analysis.tenantId ∧
      row.analysisId = analysis.id ∧ row.dceVersionId = version.id) =
      store.rc.observationRows (ofAnalysis analysis) := by
    rw [named]
    exact observationRows_ofVersion recorded
  have manifest : lower (requirementsManifestSha256 (store.rc.signals analysis)) =
      requirementsManifestSha256 (store.rc.signals analysis) := lower_hexdigest _
  let command := completedCommand analysis (store.rc.signals analysis)
  let context := requirementsContext analysis.tenantId receivedAt
  have system : ¬ context.actorKind ≠ .system := fun other => other rfl
  have versioned : store.dce.requirementsReady context.tenantId command.dceVersionId = some version := ready
  have analysed : (store.rc.analysis context.tenantId command.dceRcAnalysisId).filter (fun row =>
      decide (row.dceVersionId = version.id ∧ row.status = .completed)) = some analysis := found
  have listed : store.rc.observationRows (fun row => row.tenantId = context.tenantId ∧
      row.analysisId = analysis.id ∧ row.dceVersionId = version.id) =
      store.rc.observationRows (ofAnalysis analysis) := rows
  have signals : (store.rc.observationRows (ofAnalysis analysis)).map signalOf = store.rc.signals analysis := rfl
  have hashed : ¬ lower command.inputManifestSha256 ≠ requirementsManifestSha256 (store.rc.signals analysis) :=
    fun different => different manifest
  have counted : ¬ command.sourceObservationCount ≠ (store.rc.signals analysis).length := fun different => different rfl
  have unrecorded : store.existingRun context.tenantId command = none := existingRun_none first _
  have projected : ¬ (command.status ≠ .completed ∨ command.failureCode ≠ none) := by
    rw [not_or, not_not, not_not]
    exact ⟨rfl, rfl⟩
  show recordDceRequirementMaterializationRun store draw command context = .ok (next, outcome) ↔ _
  unfold recordDceRequirementMaterializationRun
  simp only [raiseIf_pass system, versioned, analysed, listed, signals, raiseIf_pass hashed, raiseIf_pass counted,
    unrecorded, projectRequirements_completed observed bounded, raiseIf_pass projected, orRaise_some, bind_ok,
    exists_unit, flush, orRaise_ok, pure_ok, Option.some.injEq, Except.ok.injEq, exists_eq_left', true_and]
  refine and_congr checkRequirements_completed ?_
  simp only [DceStore.write, bind_ok, flush, orRaise_ok, pure_ok]
  constructor
  · rintro ⟨runs, inserted, sources, traced, _, ⟨requirements, added, rfl⟩, requirementSources, proven, same⟩
    exact ⟨runs, sources, requirements, requirementSources, inserted, traced, added, proven, same⟩
  · rintro ⟨runs, sources, requirements, requirementSources, inserted, traced, added, proven, same⟩
    exact ⟨runs, inserted, sources, traced, _, ⟨requirements, added, rfl⟩, requirementSources, proven, same⟩

theorem sources_traced (store : RequirementStore) (analysis : DceRcAnalysisRunRecord) : ∃ sources,
    collect (fun item => orRaise (sourceByObservation (store.rc.observationRows (ofAnalysis analysis))
      item.sourceObservationId) (CommandError.failed item.sourceObservationId.str))
      (completedCommand analysis (store.rc.signals analysis)).requirements = .ok sources ∧
      sources.length = (store.rc.signals analysis).length := by
  have each : ∀ item ∈ (completedCommand analysis (store.rc.signals analysis)).requirements, ∃ source,
      orRaise (sourceByObservation (store.rc.observationRows (ofAnalysis analysis)) item.sourceObservationId)
        (CommandError.failed item.sourceObservationId.str) = .ok source := by
    intro item member
    obtain ⟨signal, listed, rfl⟩ := List.mem_map.mp member
    obtain ⟨row, stored, rfl⟩ := List.mem_map.mp listed
    obtain ⟨source, found⟩ := sourceByObservation_isSome stored
    exact ⟨source, orRaise_ok.mpr found⟩
  obtain ⟨sources, traced⟩ := collect_ok.mpr each
  have units : sources.map (fun _ => ()) =
      (completedCommand analysis (store.rc.signals analysis)).requirements.map fun _ => () :=
    collect_map (fun _ _ _ => rfl) traced
  have lengths := congrArg List.length units
  rw [List.length_map, List.length_map, completedCommand, List.length_map] at lengths
  exact ⟨sources, traced, lengths⟩

/-- The service materializes an analysis: its command is built and accepted, and every observation of the
    analysis has its requirement. -/
def MaterializationAccepted (store : RequirementStore) (analysis : DceRcAnalysisRunRecord) (draw : Nat → Uuid)
    (receivedAt : Timestamp) : Prop :=
  ∃ signals command next outcome,
    loadSignals store analysis.tenantId analysis.dceVersionId analysis.id = .ok signals ∧
    materializationCommand analysis.dceVersionId analysis.id (projectRequirements signals) = .ok command ∧
    recordDceRequirementMaterializationRun store draw command (requirementsContext analysis.tenantId receivedAt) =
      .ok (next, outcome) ∧
    Materialized store next analysis

def RiskFree (store : RequirementStore) (analysis : DceRcAnalysisRunRecord) : Prop :=
  ∀ observation ∈ store.rc.observationsOf analysis,
    requirementTypes.lookup observation.requirementKind ≠ some .contractRiskSignal

theorem riskFree_iff (recorded : store.rc.Recorded analysis) : RiskFree store analysis ↔
    ∀ signal ∈ store.rc.signals analysis, signal.requirementKind.requirementType ≠ .contractRiskSignal := by
  rw [forall_signals recorded fun kind => kind.requirementType ≠ .contractRiskSignal]
  simp only [RiskFree, lookup_requirementTypes, ne_eq, Option.some.injEq]

theorem signals_limits (recorded : store.rc.Recorded analysis) :
    store.rc.signals analysis ≠ [] ∧ (store.rc.signals analysis).length ≤ maxObservations := by
  constructor
  · rw [← List.length_pos_iff, signals_length recorded, List.length_pos_iff]
    exact recorded.observed
  · rw [signals_length recorded]
    exact recorded.bounded

theorem riskFree_of_accepted (recorded : store.rc.Recorded analysis) {version : DceVersionRecord}
    (ready : store.dce.requirementsReady analysis.tenantId analysis.dceVersionId = some version)
    (first : ∀ run ∈ store.runs, run.tenantId = analysis.tenantId → run.dceRcAnalysisId ≠ analysis.id)
    {receivedAt : Timestamp} (accepted : MaterializationAccepted store analysis draw receivedAt) :
    RiskFree store analysis ∧ Unclaimed store analysis draw := by
  obtain ⟨signals, command, next, outcome, loaded, built, executed, _⟩ := accepted
  obtain ⟨observed, bounded⟩ := signals_limits recorded
  obtain ⟨sources, traced, length⟩ := sources_traced store analysis
  rw [loadSignals_ok recorded ready, Except.ok.injEq] at loaded
  subst loaded
  obtain ⟨apart, rfl⟩ := (materializationCommand_ok observed bounded (signals_nodup recorded)).mp built
  obtain ⟨risks, runs, others, requirements, requirementSources, inserted, again, added, proven, _⟩ :=
    (record_completedCommand recorded ready first receivedAt).mp executed
  rw [traced, Except.ok.injEq] at again
  subst again
  refine ⟨(riskFree_iff recorded).mpr risks, (unclaimed_iff recorded first length).mpr ⟨apart, ?_, ?_, ?_⟩⟩
  · exact Option.isSome_iff_exists.mpr ⟨runs, inserted⟩
  · exact Option.isSome_iff_exists.mpr ⟨requirements, added⟩
  · exact Option.isSome_iff_exists.mpr ⟨requirementSources, proven⟩

theorem accepted_of_riskFree (recorded : store.rc.Recorded analysis) {version : DceVersionRecord}
    (ready : store.dce.requirementsReady analysis.tenantId analysis.dceVersionId = some version)
    (first : ∀ run ∈ store.runs, run.tenantId = analysis.tenantId → run.dceRcAnalysisId ≠ analysis.id)
    (receivedAt : Timestamp) (clear : RiskFree store analysis) (unclaimed : Unclaimed store analysis draw) :
    MaterializationAccepted store analysis draw receivedAt := by
  obtain ⟨observed, bounded⟩ := signals_limits recorded
  obtain ⟨sources, traced, length⟩ := sources_traced store analysis
  obtain ⟨apart, run, requirement, source⟩ := (unclaimed_iff recorded first length).mp unclaimed
  obtain ⟨runs, inserted⟩ := Option.isSome_iff_exists.mp run
  obtain ⟨requirements, added⟩ := Option.isSome_iff_exists.mp requirement
  obtain ⟨requirementSources, proven⟩ := Option.isSome_iff_exists.mp source
  have built : materializationCommand analysis.dceVersionId analysis.id
      (projectRequirements (store.rc.signals analysis)) = .ok (completedCommand analysis (store.rc.signals analysis)) :=
    (materializationCommand_ok observed bounded (signals_nodup recorded)).mpr ⟨apart, rfl⟩
  have executed := (record_completedCommand recorded ready first receivedAt).mpr
    ⟨(riskFree_iff recorded).mp clear, runs, sources, requirements, requirementSources, inserted, traced, added,
      proven, rfl⟩
  exact ⟨_, _, _, _, loadSignals_ok recorded ready, built, executed,
    materialized_of_rows recorded (Table.insertAll?_rows added)⟩

/-- The first materialization of a recorded analysis is accepted exactly when no observation is of a kind
    the materializer maps to a contract risk, and the derived identifiers are unclaimed. -/
theorem materialization_agreement (recorded : store.rc.Recorded analysis) {version : DceVersionRecord}
    (ready : store.dce.requirementsReady analysis.tenantId analysis.dceVersionId = some version)
    (first : ∀ run ∈ store.runs, run.tenantId = analysis.tenantId → run.dceRcAnalysisId ≠ analysis.id)
    (receivedAt : Timestamp) : MaterializationAccepted store analysis draw receivedAt ↔
      RiskFree store analysis ∧ Unclaimed store analysis draw := by
  constructor
  · exact riskFree_of_accepted recorded ready first
  · exact fun ⟨clear, unclaimed⟩ => accepted_of_riskFree recorded ready first receivedAt clear unclaimed

/-- A run the handler accepted is found by every later execution of its command. -/
theorem existingRun_runRecord {tenantId : Uuid} {command : RecordDceRequirementMaterializationRunCommand}
    (member : command.runRecord tenantId ∈ store.runs) :
    ∃ existing, store.existingRun tenantId command = some existing := by
  cases found : store.existingRun tenantId command with
  | some existing => exact ⟨existing, rfl⟩
  | none =>
    have absent := Table.find?_none.mp found _ member
    rw [decide_eq_false_iff_not] at absent
    exact absurd ⟨rfl, rfl, rfl, rfl, rfl, rfl⟩ absent

/-- Executing an accepted command again is accepted and changes nothing. -/
theorem materialize_again {next : RequirementStore} {command : RecordDceRequirementMaterializationRunCommand}
    {context : CommandContext} {outcome : HandlerOutcome} (again : Nat → Uuid)
    (accepted : recordDceRequirementMaterializationRun store draw command context = .ok (next, outcome)) :
    ∃ existing, recordDceRequirementMaterializationRun next again command context =
      .ok (next, alreadyMaterialized existing) := by
  simp only [recordDceRequirementMaterializationRun, bind_ok, raiseIf_ok, exists_unit, orRaise_ok] at accepted
  obtain ⟨system, version, ready, analysis, found, hashed, counted, accepted⟩ := accepted
  have later : next.rc = store.rc ∧ next.dce.versions = store.dce.versions ∧
      ∃ existing, next.existingRun context.tenantId command = some existing := by
    cases existing : store.existingRun context.tenantId command with
    | some earlier =>
      rw [existing, pure_ok, Prod.mk.injEq] at accepted
      obtain ⟨rfl, _⟩ := accepted
      exact ⟨rfl, rfl, earlier, existing⟩
    | none =>
      simp only [existing, bind_ok, raiseIf_ok, exists_unit, flush, orRaise_ok, DceStore.write, pure_ok,
        Prod.mk.injEq] at accepted
      obtain ⟨_, _, runs, inserted, _, _, _, ⟨_, _, rfl⟩, _, _, rfl, _⟩ := accepted
      exact ⟨rfl, rfl, existingRun_runRecord ((Table.mem_insert? inserted).mpr (.inr rfl))⟩
  obtain ⟨sameRc, sameVersions, existing, recalled⟩ := later
  refine ⟨existing, ?_⟩
  have readyAgain : next.dce.requirementsReady context.tenantId command.dceVersionId = some version := by
    rw [DceStore.requirementsReady, sameVersions]
    exact ready
  simp only [recordDceRequirementMaterializationRun, bind_ok, raiseIf_ok, exists_unit, orRaise_ok, readyAgain, sameRc,
    Option.some.injEq, exists_eq_left', found, recalled, pure_ok, and_true]
  exact ⟨system, hashed, counted⟩

end Agreement

def analysedVersion : DceVersionRecord := ⟨5, 1, 8, "corpus", none, .admitted, .verified, .classified, .readyForAnalysis, 1⟩

def completedAnalysisRun : DceRcAnalysisRunRecord :=
  ⟨7, 1, 5, "manifest", "smart-ao-rc-rules", "2", .completed, 1, 20, none⟩

/-- A version whose analysis recorded one observation of a kind. -/
def observedStore (kind : RequirementKind) (ruleId : String) : RequirementStore where
  dce := { DceStore.empty with versions := .singleton analysedVersion }
  rc := {
    analyses := .singleton completedAnalysisRun
    observations := .singleton
      ⟨9, 1, 7, 5, kind, .unspecified, ruleId, "1", 11, 0, 9, "penalites".toList⟩
    observationSources := .singleton ⟨10, 1, 9, 11, 0, 9⟩ }
  runs := .empty
  requirementSources := .empty

theorem observedStore_recorded (kind : RequirementKind) (ruleId : String) :
    (observedStore kind ruleId).rc.Recorded completedAnalysisRun := by
  have observations : (observedStore kind ruleId).rc.observationsOf completedAnalysisRun =
      [⟨9, 1, 7, 5, kind, .unspecified, ruleId, "1", 11, 0, 9, "penalites".toList⟩] := rfl
  refine ⟨List.mem_singleton_self _, rfl, ?_, ?_, ?_, ?_⟩
  all_goals rw [observations]
  · exact List.cons_ne_nil _ _
  · have small : 1 ≤ maxObservations := by decide
    exact small
  · exact List.forall_mem_singleton.mpr rfl
  · exact List.forall_mem_singleton.mpr ⟨_, rfl⟩

theorem observedStore_ready (kind : RequirementKind) (ruleId : String) :
    (observedStore kind ruleId).dce.requirementsReady completedAnalysisRun.tenantId
      completedAnalysisRun.dceVersionId = some analysedVersion := rfl

theorem observedStore_first (kind : RequirementKind) (ruleId : String) :
    ∀ run ∈ (observedStore kind ruleId).runs, run.tenantId = completedAnalysisRun.tenantId →
      run.dceRcAnalysisId ≠ completedAnalysisRun.id :=
  fun _ member => absurd member List.not_mem_nil

theorem materialization_agreement_siteVisit :
    MaterializationAccepted (observedStore .rcSiteVisit "SITE_VISIT_V1") completedAnalysisRun (fun _ => 12) 0 ↔
      RiskFree (observedStore .rcSiteVisit "SITE_VISIT_V1") completedAnalysisRun ∧
        Unclaimed (observedStore .rcSiteVisit "SITE_VISIT_V1") completedAnalysisRun fun _ => 12 :=
  materialization_agreement (observedStore_recorded _ _) (observedStore_ready _ _) (observedStore_first _ _) 0

/-- An analysis with one penalty clause is never materialized. -/
theorem penalties_refused : (observedStore .ccapPenalties "CCAP_DELAY_PENALTIES_V1").rc.Recorded completedAnalysisRun ∧
    ¬ MaterializationAccepted (observedStore .ccapPenalties "CCAP_DELAY_PENALTIES_V1") completedAnalysisRun
      (fun _ => 12) 0 := by
  refine ⟨observedStore_recorded _ _, fun accepted => ?_⟩
  obtain ⟨clear, _⟩ := riskFree_of_accepted (observedStore_recorded _ _) (observedStore_ready _ _)
    (observedStore_first _ _) accepted
  exact clear _ List.mem_cons_self rfl

end SmartAo.Dce
