import SmartAo.Dce.Impact
import SmartAo.Platform.Uuid

namespace SmartAo.Dce

open SmartAo.Foundation SmartAo.Platform SmartAo.Case

/-- The name an item's identifier is derived from. -/
def impactItemName (kind : ImpactKind) (previousRequirementId successorRequirementId : Option Uuid) : List Char :=
  match kind with
  | .dceVersionReplaced => replacedName
  | .previousRequirementRequiresReview => previousName (previousRequirementId.getD 0)
  | .successorRequirementCandidate => successorName (successorRequirementId.getD 0)
  | .versionHasNoMaterializedSignal => noSignalName

def CaseDceImpactItemInput.name (item : CaseDceImpactItemInput) : List Char :=
  impactItemName item.impactKind item.previousRequirementId item.successorRequirementId

def CaseDceImpactItemRecord.name (row : CaseDceImpactItemRecord) : List Char :=
  impactItemName row.impactKind row.previousRequirementId row.successorRequirementId

def CaseDceImpactRunRecord.name (row : CaseDceImpactRunRecord) : List Char :=
  impactRunName row.predecessorDceVersionId row.successorDceVersionId row.inputManifestSha256

theorem chars_length (id : Uuid) : id.chars.length = 36 := by simp [Uuid.chars]

theorem impactRunName_injective {predecessor successor predecessor' successor' : Uuid} {manifest manifest' : String}
    (same : impactRunName predecessor successor manifest = impactRunName predecessor' successor' manifest') :
    predecessor = predecessor' ∧ successor = successor' ∧ manifest = manifest' := by
  unfold impactRunName at same
  obtain ⟨first, rest⟩ := List.append_inj same (by rw [chars_length, chars_length])
  obtain ⟨second, rest⟩ := List.append_inj (List.tail_eq_of_cons_eq rest) (by rw [chars_length, chars_length])
  have third := List.append_cancel_right (List.tail_eq_of_cons_eq rest)
  exact ⟨Uuid.chars_injective first, Uuid.chars_injective second, String.ext third⟩

section Items

variable {runId : Uuid} {previous successor : List ImpactRequirement} {item : CaseDceImpactItemInput}

theorem expectedImpactItems_id (member : item ∈ expectedImpactItems runId previous successor) :
    item.impactItemId = uuid5 runId item.name := by
  simp only [expectedImpactItems, List.mem_cons, List.mem_append, List.mem_map] at member
  rcases member with rfl | (⟨requirement, _, rfl⟩ | ⟨requirement, _, rfl⟩) | last
  · rfl
  · rfl
  · rfl
  · split at last
    · rw [List.mem_singleton.mp last]
      rfl
    · exact absurd last List.not_mem_nil

theorem expectedImpactItems_ids : (expectedImpactItems runId previous successor).map (·.impactItemId) =
    ((expectedImpactItems runId previous successor).map (·.name)).map (uuid5 runId) := by
  rw [List.map_map]
  exact List.map_congr_left fun item member => expectedImpactItems_id member

theorem previousName_head (id : Uuid) : (previousName id).head? = some 'P' := by
  have shown : "PREVIOUS_REQUIREMENT:".toList.head? = some 'P' := by decide +kernel
  unfold previousName
  rw [List.head?_append, shown, Option.some_or]

theorem successorName_head (id : Uuid) : (successorName id).head? = some 'S' := by
  have shown : "SUCCESSOR_REQUIREMENT:".toList.head? = some 'S' := by decide +kernel
  unfold successorName
  rw [List.head?_append, shown, Option.some_or]

theorem replacedName_head : replacedName.head? = some 'D' := by decide

theorem expectedImpactItems_names (apart : (previous.map (·.id)).Nodup) (others : (successor.map (·.id)).Nodup) :
    ((expectedImpactItems runId previous successor).map (·.name)).Nodup := by
  have previousNames : (previous.map fun requirement => previousName requirement.id).Nodup := by
    have injective : Function.Injective previousName := fun first second same =>
      Uuid.chars_injective (List.append_cancel_left same)
    have mapped := apart.map injective
    rw [List.map_map] at mapped
    exact mapped
  have successorNames : (successor.map fun requirement => successorName requirement.id).Nodup := by
    have injective : Function.Injective successorName := fun first second same =>
      Uuid.chars_injective (List.append_cancel_left same)
    have mapped := others.map injective
    rw [List.map_map] at mapped
    exact mapped
  have names : (expectedImpactItems runId previous successor).map (·.name) =
      replacedName :: (previous.map (fun requirement => previousName requirement.id) ++
        successor.map (fun requirement => successorName requirement.id) ++
        if previous = [] ∧ successor = [] then [noSignalName] else []) := by
    simp only [expectedImpactItems, List.map_cons, List.map_append, List.map_map]
    refine congrArg₂ List.cons rfl (congrArg₂ List.append rfl ?_)
    split <;> rfl
  rw [names, List.nodup_cons]
  by_cases empty : previous = [] ∧ successor = []
  · rw [if_pos empty, empty.1, empty.2]
    exact ⟨by decide, by decide⟩
  · rw [if_neg empty, List.append_nil]
    constructor
    · intro member
      rcases List.mem_append.mp member with first | second
      · obtain ⟨requirement, _, same⟩ := List.mem_map.mp first
        have head := congrArg List.head? same
        rw [previousName_head, replacedName_head] at head
        exact absurd head (by decide)
      · obtain ⟨requirement, _, same⟩ := List.mem_map.mp second
        have head := congrArg List.head? same
        rw [successorName_head, replacedName_head] at head
        exact absurd head (by decide)
    · refine List.nodup_append.mpr ⟨previousNames, successorNames, ?_⟩
      intro first one second two same
      obtain ⟨requirement, _, rfl⟩ := List.mem_map.mp one
      obtain ⟨other, _, rfl⟩ := List.mem_map.mp two
      have head := congrArg List.head? same
      rw [previousName_head, successorName_head] at head
      exact absurd head (by decide)

theorem expectedImpactItems_length : (expectedImpactItems runId previous successor).length =
    1 + (previous.length + successor.length) + if previous = [] ∧ successor = [] then 1 else 0 := by
  simp only [expectedImpactItems, List.length_cons, List.length_append, List.length_map]
  split <;> simp <;> omega

end Items

/-- One item for the replacement, one for each requirement of either version, and no two items share an
    identifier. -/
structure Covers (items : List CaseDceImpactItemInput) (previous successor : List ImpactRequirement) : Prop where
  distinct : (items.map (·.impactItemId)).Nodup
  replaced : (items.countP fun item => item.impactKind = .dceVersionReplaced) = 1
  previous : ∀ requirement ∈ previous, (items.countP fun item => item.previousRequirementId = some requirement.id) = 1
  successor : ∀ requirement ∈ successor,
    (items.countP fun item => item.successorRequirementId = some requirement.id) = 1

section Cover

variable {runId : Uuid} {previous successor : List ImpactRequirement} {requirement : ImpactRequirement}

theorem count_requirement {requirements : List ImpactRequirement} (apart : (requirements.map (·.id)).Nodup)
    (member : requirement ∈ requirements) :
    (requirements.countP fun other => some other.id = some requirement.id) = 1 := by
  have counted := List.count_eq_one_of_mem apart (List.mem_map_of_mem (f := (·.id)) member)
  rw [List.count, List.countP_map] at counted
  rw [← counted]
  refine List.countP_congr fun other _ => ?_
  simp

theorem covers_expectedImpactItems (apart : (previous.map (·.id)).Nodup) (others : (successor.map (·.id)).Nodup)
    (distinct : ((expectedImpactItems runId previous successor).map (·.impactItemId)).Nodup) :
    Covers (expectedImpactItems runId previous successor) previous successor := by
  refine ⟨distinct, ?_, fun requirement member => ?_, fun requirement member => ?_⟩
  · simp only [expectedImpactItems, List.countP_cons, List.countP_append, List.countP_map]
    split <;> simp [Function.comp_def, replacedItem, previousItem, successorItem, noSignalItem]
  · have nonempty : ¬ (previous = [] ∧ successor = []) := fun empty => by simp [empty.1] at member
    have counted := count_requirement apart member
    simp only [expectedImpactItems, List.countP_cons, List.countP_append, List.countP_map, if_neg nonempty]
    simpa [Function.comp_def, replacedItem, previousItem, successorItem] using counted
  · have nonempty : ¬ (previous = [] ∧ successor = []) := fun empty => by simp [empty.2] at member
    have counted := count_requirement others member
    simp only [expectedImpactItems, List.countP_cons, List.countP_append, List.countP_map, if_neg nonempty]
    simpa [Function.comp_def, replacedItem, previousItem, successorItem] using counted

end Cover

/-- Every stored run and item of it is identified by what it is derived from, and every run belongs to a
    stored case. -/
structure ImpactStore.Derived (store : ImpactStore) : Prop where
  run : ∀ run ∈ store.impactRuns, run.id = uuid5 run.caseId run.name ∧ run.algorithmId = impactAlgorithmId ∧
    run.algorithmVersion = impactAlgorithmVersion ∧ ∃ case ∈ store.cases, case.tenantId = run.tenantId ∧
      case.id = run.caseId
  item : ∀ item ∈ store.impactItems, ∃ run ∈ store.impactRuns, run.id = item.impactRunId ∧
    item.id = uuid5 run.id item.name

/-- The stores reached by impact runs of the service between writes of other handlers, which keep the
    impact tables and delete no case. -/
inductive ImpactHistory : ImpactStore → Prop where
  | start {store : ImpactStore} (runs : store.impactRuns.rows = []) (items : store.impactItems.rows = []) :
      ImpactHistory store
  | foreign {store after : ImpactStore} (before : ImpactHistory store) (runs : after.impactRuns = store.impactRuns)
      (items : after.impactItems = store.impactItems) (cases : ∀ case ∈ store.cases, ∃ later ∈ after.cases,
        later.tenantId = case.tenantId ∧ later.id = case.id) : ImpactHistory after
  | run {store after : ImpactStore} (before : ImpactHistory store) {tenantId caseId predecessorId successorId : Uuid}
      {previous successor : List ImpactRequirement} {command : RecordCaseDceImpactRunCommand} {now : Timestamp}
      {outcome : HandlerOutcome} (built : impactCommand caseId predecessorId successorId previous successor = .ok command)
      (recorded : recordCaseDceImpactRun store command (impactContext tenantId now) = .ok (after, outcome)) :
      ImpactHistory after

/-- The command of the service when the model accepts it. -/
def comparison (caseId predecessorId successorId : Uuid) (previous successor : List ImpactRequirement) :
    RecordCaseDceImpactRunCommand :=
  let runId := impactRunId caseId predecessorId successorId previous successor
  { commandId := runId, idempotencyKey := runId, correlationId := some successorId, impactRunId := runId, caseId
    predecessorDceVersionId := predecessorId, successorDceVersionId := successorId
    inputManifestSha256 := impactManifestSha256 caseId predecessorId successorId previous successor
    algorithmId := impactAlgorithmId, algorithmVersion := impactAlgorithmVersion
    status := if previous = [] ∧ successor = [] then .noSignal else .completed
    previousRequirementCount := previous.length, successorRequirementCount := successor.length
    failureCode := none, items := expectedImpactItems runId previous successor }

section Command

variable {caseId predecessorId successorId : Uuid} {previous successor : List ImpactRequirement}
  {command : RecordCaseDceImpactRunCommand}

theorem impactCommand_ok : impactCommand caseId predecessorId successorId previous successor = .ok command ↔
    (expectedImpactItems (impactRunId caseId predecessorId successorId previous successor) previous
      successor).length ≤ 40000 ∧
    ((expectedImpactItems (impactRunId caseId predecessorId successorId previous successor) previous
      successor).map (·.impactItemId)).Nodup ∧
    comparison caseId predecessorId successorId previous successor = command := by
  have hex : isSha256 (impactManifestSha256 caseId predecessorId successorId previous successor) = true :=
    isSha256_hexdigest _
  have identifier : ¬ (impactAlgorithmId = "" ∨ 100 < impactAlgorithmId.length) := by decide
  have version : ¬ (impactAlgorithmVersion = "" ∨ 64 < impactAlgorithmVersion.length) := by decide
  have projected : (if previous.length + successor.length = 0 then
      raiseIf ((comparison caseId predecessorId successorId previous successor).status ≠ .noSignal)
        (ValidationError.model "empty impact requires no-signal status")
      else raiseIf ((comparison caseId predecessorId successorId previous successor).status ≠ .completed)
        (.model "materialized impact requires completed status")) = .ok () := by
    by_cases empty : previous = [] ∧ successor = []
    · simp [comparison, empty]
    · have counted : previous.length + successor.length ≠ 0 := by
        intro zero
        exact empty ⟨List.length_eq_zero_iff.mp (by omega), List.length_eq_zero_iff.mp (by omega)⟩
      simp [comparison, empty]
  have status : ¬ ((comparison caseId predecessorId successorId previous successor).status = .noSignal ∧
      (previous.length ≠ 0 ∨ successor.length ≠ 0)) := by
    by_cases empty : previous = [] ∧ successor = []
    · simp [empty]
    · simp [comparison, empty]
  show (comparison caseId predecessorId successorId previous successor).build = .ok command ↔ _
  simp only [RecordCaseDceImpactRunCommand.build, RecordCaseDceImpactRunCommand.validateTerminalProjection, bind_ok,
    raiseIf_ok, exists_unit, pure_ok, not_not, not_lt]
  constructor
  · rintro ⟨_, _, _, _, bounded, ⟨distinct, _⟩, same⟩
    exact ⟨bounded, distinct, same⟩
  · rintro ⟨bounded, distinct, same⟩
    refine ⟨?_, identifier, version, Bool.false_ne_true, bounded, ⟨distinct, rfl, status, projected⟩, same⟩
    rw [Bool.not_eq_false]
    exact hex

end Command

section Handler

variable {store next : ImpactStore} {tenantId caseId predecessorId successorId : Uuid}
  {previous successor : List ImpactRequirement} {command : RecordCaseDceImpactRunCommand} {now : Timestamp}
  {outcome : HandlerOutcome}

theorem version_named {versionId : Uuid} {version : DceVersionRecord}
    (found : store.version tenantId versionId = some version) : version.id = versionId := by
  have query := Table.find?_query found
  simp only [decide_eq_true_eq] at query
  exact query.2

theorem case_stored {case : CaseRecord} (found : store.case tenantId caseId = some case) :
    case ∈ store.cases ∧ case.tenantId = tenantId ∧ case.id = caseId := by
  obtain ⟨found, _⟩ := Option.filter_eq_some_iff.mp found
  have query := Table.find?_query found
  simp only [decide_eq_true_eq] at query
  exact ⟨Table.find?_mem found, query⟩

/-- A run already stored or the one run of the command, with its items, is all a recording leaves. -/
theorem recorded_cases (recorded : recordCaseDceImpactRun store command (impactContext tenantId now) =
      .ok (next, outcome)) : next = store ∨ ∃ manifest previous successor,
      command.impactRunId = uuid5 command.caseId
        (impactRunName command.predecessorDceVersionId command.successorDceVersionId manifest) ∧
      command.items = expectedImpactItems command.impactRunId previous successor ∧
      (∃ case ∈ store.cases, case.tenantId = tenantId ∧ case.id = command.caseId) ∧
      next.cases = store.cases ∧
      store.impactRuns.insert? (command.runRecord tenantId manifest) = some next.impactRuns ∧
      store.impactItems.insertAll? (command.items.map (command.itemRecord tenantId)) = some next.impactItems := by
  simp only [recordCaseDceImpactRun, bind_ok, raiseIf_ok, exists_unit, orRaise_ok, not_or, not_not] at recorded
  obtain ⟨_, case, found, first, one, second, two, _, previous, _, successor, _, ⟨identified, _⟩, _, projected,
    recorded⟩ := recorded
  rw [version_named one, version_named two] at identified recorded
  split at recorded
  · rw [pure_ok, Prod.mk.injEq] at recorded
    exact .inl recorded.1.symm
  · simp only [bind_ok, flush, orRaise_ok, pure_ok, Prod.mk.injEq] at recorded
    obtain ⟨runs, inserted, items, added, rfl, _⟩ := recorded
    exact .inr ⟨_, previous, successor, identified, projected, ⟨case, case_stored found⟩, rfl, inserted, added⟩

theorem recordCaseDceImpactRun_derived (derived : store.Derived)
    (built : impactCommand caseId predecessorId successorId previous successor = .ok command)
    (recorded : recordCaseDceImpactRun store command (impactContext tenantId now) = .ok (next, outcome)) :
    next.Derived := by
  have algorithm : command.algorithmId = impactAlgorithmId ∧ command.algorithmVersion = impactAlgorithmVersion := by
    rw [← (impactCommand_ok.mp built).2.2]
    exact ⟨rfl, rfl⟩
  rcases recorded_cases recorded with rfl | ⟨manifest, before, after, identified, projected, owned, cases, inserted, added⟩
  · exact derived
  · refine ⟨fun run member => ?_, fun item member => ?_⟩
    · rw [cases]
      rcases (Table.mem_insert? inserted).mp member with old | rfl
      · exact derived.run run old
      · exact ⟨identified, algorithm.1, algorithm.2, owned⟩
    · rcases (Table.mem_insertAll? added).mp member with old | new
      · obtain ⟨run, stored, named, same⟩ := derived.item item old
        exact ⟨run, (Table.mem_insert? inserted).mpr (.inl stored), named, same⟩
      · obtain ⟨input, listed, rfl⟩ := List.mem_map.mp new
        rw [projected] at listed
        exact ⟨_, (Table.mem_insert? inserted).mpr (.inr rfl), rfl, expectedImpactItems_id listed⟩

theorem derived_of_history (history : ImpactHistory store) : store.Derived := by
  induction history with
  | start runs items =>
    refine ⟨fun run member => ?_, fun item member => ?_⟩
    · rw [← Table.mem_rows, runs] at member
      exact absurd member List.not_mem_nil
    · rw [← Table.mem_rows, items] at member
      exact absurd member List.not_mem_nil
  | foreign _ runs items cases derived =>
    refine ⟨fun run member => ?_, fun item member => ?_⟩
    · rw [runs] at member
      obtain ⟨identified, algorithm, version, case, stored, tenant, named⟩ := derived.run run member
      obtain ⟨later, present, sameTenant, sameId⟩ := cases case stored
      exact ⟨identified, algorithm, version, later, present, sameTenant.trans tenant, sameId.trans named⟩
    · rw [items] at member
      rw [runs]
      exact derived.item item member
  | run _ built recorded derived => exact recordCaseDceImpactRun_derived derived built recorded

/-- The spaces and names of the identifiers a comparison derives, and of the stored ones. -/
def ImpactStore.names (store : ImpactStore) (caseId predecessorId successorId : Uuid)
    (previous successor : List ImpactRequirement) : List (Uuid × List Char) :=
  (caseId, impactRunName predecessorId successorId
      (impactManifestSha256 caseId predecessorId successorId previous successor)) ::
    ((comparison caseId predecessorId successorId previous successor).items.map fun item =>
      (impactRunId caseId predecessorId successorId previous successor, item.name)) ++
    (store.impactRuns.rows.map fun run => (run.caseId, run.name)) ++
    store.impactItems.rows.map fun item => (item.impactRunId, item.name)

theorem comparison_ids_nodup (apart : (previous.map (·.id)).Nodup) (others : (successor.map (·.id)).Nodup)
    (injective : Uuid5Injective (store.names caseId predecessorId successorId previous successor)) :
    ((comparison caseId predecessorId successorId previous successor).items.map (·.impactItemId)).Nodup := by
  rw [comparison, expectedImpactItems_ids]
  refine (expectedImpactItems_names apart others).map_on ?_
  intro first one second two same
  obtain ⟨item, listed, rfl⟩ := List.mem_map.mp one
  obtain ⟨other, present, rfl⟩ := List.mem_map.mp two
  have inPlay (input : CaseDceImpactItemInput) (member : input ∈ expectedImpactItems
      (impactRunId caseId predecessorId successorId previous successor) previous successor) :
      (impactRunId caseId predecessorId successorId previous successor, input.name) ∈
        store.names caseId predecessorId successorId previous successor := by
    refine List.mem_append_left _ (List.mem_append_left _ (List.mem_cons_of_mem _ ?_))
    exact List.mem_map_of_mem (f := fun input : CaseDceImpactItemInput => (_, input.name)) member
  exact (Prod.mk.inj (injective _ (inPlay item listed) _ (inPlay other present) same)).2

/-- A stored run with the identifier of a comparison is that comparison's own run. -/
theorem run_recognized (derived : store.Derived) {case : CaseRecord} (owned : store.case tenantId caseId = some case)
    (injective : Uuid5Injective (store.names caseId predecessorId successorId previous successor))
    {run : CaseDceImpactRunRecord} (member : run ∈ store.impactRuns)
    (same : run.id = impactRunId caseId predecessorId successorId previous successor) :
    ∃ existing, (comparison caseId predecessorId successorId previous successor).existing tenantId store
      (impactManifestSha256 caseId predecessorId successorId previous successor) = some existing := by
  obtain ⟨identified, algorithm, version, other, stored, tenant, named⟩ := derived.run run member
  have head : (caseId, impactRunName predecessorId successorId
      (impactManifestSha256 caseId predecessorId successorId previous successor)) ∈
      store.names caseId predecessorId successorId previous successor := List.mem_cons_self
  have inPlay : (run.caseId, run.name) ∈ store.names caseId predecessorId successorId previous successor :=
    List.mem_append_left _ (List.mem_append_right _
      (List.mem_map_of_mem (f := fun run : CaseDceImpactRunRecord => (run.caseId, run.name)) member))
  obtain ⟨sameCase, sameName⟩ := Prod.mk.inj (injective _ inPlay _ head (identified.symm.trans same))
  obtain ⟨first, second, manifest⟩ := impactRunName_injective sameName
  obtain ⟨present, ofTenant, ofCase⟩ := case_stored owned
  have sameRow : other = case :=
    Table.eq_of_conflict stored present (show other.id = case.id by rw [named, sameCase, ofCase])
  have sameTenant : run.tenantId = tenantId := by rw [← tenant, sameRow, ofTenant]
  cases found : (comparison caseId predecessorId successorId previous successor).existing tenantId store
      (impactManifestSha256 caseId predecessorId successorId previous successor) with
  | some existing => exact ⟨existing, rfl⟩
  | none =>
    have absent := Table.find?_none.mp found run member
    rw [decide_eq_false_iff_not] at absent
    exact absurd ⟨sameTenant, sameCase, first, second, manifest, algorithm, version⟩ absent

theorem comparison_inserted (derived : store.Derived) {case : CaseRecord}
    (owned : store.case tenantId caseId = some case)
    (distinct : ((comparison caseId predecessorId successorId previous successor).items.map (·.impactItemId)).Nodup)
    (injective : Uuid5Injective (store.names caseId predecessorId successorId previous successor))
    (unrecorded : (comparison caseId predecessorId successorId previous successor).existing tenantId store
      (impactManifestSha256 caseId predecessorId successorId previous successor) = none) :
    (store.impactRuns.insert? ((comparison caseId predecessorId successorId previous successor).runRecord tenantId
      (impactManifestSha256 caseId predecessorId successorId previous successor))).isSome ∧
    (store.impactItems.insertAll? ((comparison caseId predecessorId successorId previous successor).items.map
      ((comparison caseId predecessorId successorId previous successor).itemRecord tenantId))).isSome := by
  have fresh : ∀ run ∈ store.impactRuns,
      run.id ≠ impactRunId caseId predecessorId successorId previous successor := by
    intro run member same
    obtain ⟨existing, found⟩ := run_recognized derived owned injective member same
    rw [unrecorded] at found
    cases found
  constructor
  · rw [Table.insert?_isSome]
    rintro run member (same | same)
    · exact fresh run member same
    · have absent := Table.find?_none.mp unrecorded run member
      rw [decide_eq_false_iff_not] at absent
      obtain ⟨first, second⟩ := Prod.mk.inj same
      obtain ⟨tenant, first⟩ := Prod.mk.inj first
      obtain ⟨ofCase, first⟩ := Prod.mk.inj first
      obtain ⟨one, two⟩ := Prod.mk.inj first
      obtain ⟨manifest, second⟩ := Prod.mk.inj second
      obtain ⟨algorithm, version⟩ := Prod.mk.inj second
      exact absent ⟨tenant, ofCase, one, two, manifest, algorithm, version⟩
  · rw [Table.insertAll?_isSome]
    refine ⟨fun stored present row member conflict => ?_, ?_⟩
    · obtain ⟨item, listed, rfl⟩ := List.mem_map.mp member
      obtain ⟨run, kept, named, identified⟩ := derived.item stored present
      have derivedId : item.impactItemId = uuid5 (impactRunId caseId predecessorId successorId previous successor)
          item.name := expectedImpactItems_id listed
      have same : uuid5 stored.impactRunId stored.name =
          uuid5 (impactRunId caseId predecessorId successorId previous successor) item.name := by
        rw [← named, ← identified, ← derivedId]
        exact conflict
      have ours : (impactRunId caseId predecessorId successorId previous successor, item.name) ∈
          store.names caseId predecessorId successorId previous successor := by
        refine List.mem_append_left _ (List.mem_append_left _ (List.mem_cons_of_mem _ ?_))
        exact List.mem_map_of_mem (f := fun input : CaseDceImpactItemInput => (_, input.name)) listed
      have theirs : (stored.impactRunId, stored.name) ∈
          store.names caseId predecessorId successorId previous successor := by
        refine List.mem_append_right _ ?_
        exact List.mem_map_of_mem (f := fun row : CaseDceImpactItemRecord => (row.impactRunId, row.name)) present
      have sameRun := (Prod.mk.inj (injective _ theirs _ ours same)).1
      exact fresh run kept (named.trans sameRun)
    · rw [List.Nodup, List.pairwise_map] at distinct
      rw [List.pairwise_map]
      exact distinct

theorem loadRequirements_nodup {versionId : Uuid} {requirements : List ImpactRequirement}
    (loaded : store.loadRequirements tenantId versionId = some requirements) :
    (requirements.map (·.id)).Nodup := by
  obtain ⟨run, _, rfl⟩ := Option.map_eq_some_iff.mp loaded
  rw [List.map_map]
  have ids : (((store.dce.requirements.rows.filter fun row => row.tenantId = tenantId ∧
      row.requirementsRunId = run.id)).map (·.id)).Nodup := by
    rw [List.Nodup, List.pairwise_map]
    exact (store.dce.requirements.distinct.filter _).imp fun apart same => apart (.inl same)
  have sorted : (store.requirementRows tenantId run.id).Perm (store.dce.requirements.rows.filter fun row =>
      row.tenantId = tenantId ∧ row.requirementsRunId = run.id) := List.perm_insertionSort _ _
  exact (sorted.map fun row : DceRequirementRecord => row.id).nodup_iff.mpr ids

/-- The predecessor is a version whose lifecycle the handler accepts. -/
def ImpactStore.Admits (store : ImpactStore) (tenantId versionId : Uuid) : Prop :=
  ∃ version, store.version tenantId versionId = some version ∧ version.isAdmitted = true

/-- The service's command is built, covers the two lists, and is accepted by its handler. -/
def ImpactRecorded (store : ImpactStore) (tenantId caseId predecessorId successorId : Uuid)
    (previous successor : List ImpactRequirement) (now : Timestamp) : Prop :=
  ∃ command next outcome, impactCommand caseId predecessorId successorId previous successor = .ok command ∧
    Covers command.items previous successor ∧
    recordCaseDceImpactRun store command (impactContext tenantId now) = .ok (next, outcome)

theorem admits_of_recorded (recorded : recordCaseDceImpactRun store command (impactContext tenantId now) =
    .ok (next, outcome)) : store.Admits tenantId command.predecessorDceVersionId := by
  simp only [recordCaseDceImpactRun, bind_ok, raiseIf_ok, exists_unit, orRaise_ok, not_or, not_not] at recorded
  obtain ⟨_, _, _, version, found, _, _, ⟨_, _, _, admitted, _⟩, _⟩ := recorded
  refine ⟨version, found, ?_⟩
  rwa [Bool.not_eq_false] at admitted

theorem record_comparison (derived : store.Derived)
    (sources : impactSources store tenantId caseId predecessorId successorId = .ok (previous, successor))
    (distinct : ((comparison caseId predecessorId successorId previous successor).items.map (·.impactItemId)).Nodup)
    (injective : Uuid5Injective (store.names caseId predecessorId successorId previous successor)) :
    (∃ next outcome, recordCaseDceImpactRun store (comparison caseId predecessorId successorId previous successor)
      (impactContext tenantId now) = .ok (next, outcome)) ↔ store.Admits tenantId predecessorId := by
  simp only [impactSources, bind_ok, raiseIf_ok, exists_unit, orRaise_ok, pure_ok, not_or, not_not,
    Prod.mk.injEq] at sources
  obtain ⟨case, owned, first, one, second, two, ⟨applicable, consultation, chained, verified, lifecycle, integrity⟩,
    before, loaded, after, others, rfl, rfl⟩ := sources
  constructor
  · rintro ⟨next, outcome, recorded⟩
    exact admits_of_recorded recorded
  · rintro ⟨version, found, admitted⟩
    have same : first = version := Option.some.inj (one.symm.trans found)
    have firstId := version_named one
    have secondId := version_named two
    subst same firstId secondId
    have admission : ¬ first.isAdmitted = false := by
      rw [Bool.not_eq_false]
      exact admitted
    simp only [recordCaseDceImpactRun, bind_ok, raiseIf_ok, exists_unit, orRaise_ok, not_or, not_not]
    have tenant : (impactContext tenantId now).tenantId = tenantId := rfl
    have ofCase : (comparison caseId first.id second.id before after).caseId = caseId := rfl
    cases recorded : (comparison caseId first.id second.id before after).existing tenantId store
      (impactManifestSha256 caseId first.id second.id before after) with
    | some existing =>
      refine ⟨store, alreadyRecorded existing, rfl, case, owned, first, one, second, two, ⟨applicable, consultation,
        chained, admission, verified, lifecycle, integrity⟩, _, loaded, _, others, ⟨rfl, lower_hexdigest _⟩,
        ⟨rfl, rfl⟩, rfl, ?_⟩
      rw [tenant, ofCase, recorded]
      rfl
    | none =>
      obtain ⟨run, items⟩ := comparison_inserted derived owned distinct injective recorded
      obtain ⟨impactRuns, inserted⟩ := Option.isSome_iff_exists.mp run
      obtain ⟨impactItems, added⟩ := Option.isSome_iff_exists.mp items
      refine ⟨{ store with impactRuns, impactItems },
        impactRecorded (comparison caseId first.id second.id before after), rfl, case, owned, first, one, second, two,
        ⟨applicable, consultation, chained, admission, verified, lifecycle, integrity⟩, _, loaded, _, others,
        ⟨rfl, lower_hexdigest _⟩, ⟨rfl, rfl⟩, rfl, ?_⟩
      rw [tenant, ofCase, recorded, inserted, added]
      rfl

theorem expectedImpactItems_bounded {runId : Uuid} : (expectedImpactItems runId previous successor).length ≤ 40000 ↔
    previous.length + successor.length < 40000 := by
  rw [expectedImpactItems_length]
  by_cases empty : previous = [] ∧ successor = []
  · simp [empty]
  · rw [if_neg empty]
    omega

theorem limits_of_recorded (recorded : ImpactRecorded store tenantId caseId predecessorId successorId previous
    successor now) : previous.length + successor.length < 40000 ∧ store.Admits tenantId predecessorId := by
  obtain ⟨command, next, outcome, built, _, recorded⟩ := recorded
  obtain ⟨bounded, _, rfl⟩ := impactCommand_ok.mp built
  exact ⟨expectedImpactItems_bounded.mp bounded, admits_of_recorded recorded⟩

theorem impactSources_nodup
    (sources : impactSources store tenantId caseId predecessorId successorId = .ok (previous, successor)) :
    (previous.map (·.id)).Nodup ∧ (successor.map (·.id)).Nodup := by
  simp only [impactSources, bind_ok, orRaise_ok, pure_ok, Prod.mk.injEq] at sources
  obtain ⟨_, _, _, _, _, _, _, _, _, loaded, _, others, rfl, rfl⟩ := sources
  exact ⟨loadRequirements_nodup loaded, loadRequirements_nodup others⟩

theorem impactRecorded_iff (derived : store.Derived)
    (sources : impactSources store tenantId caseId predecessorId successorId = .ok (previous, successor))
    (injective : Uuid5Injective (store.names caseId predecessorId successorId previous successor)) (now : Timestamp) :
    ImpactRecorded store tenantId caseId predecessorId successorId previous successor now ↔
      previous.length + successor.length < 40000 ∧ store.Admits tenantId predecessorId := by
  obtain ⟨apart, others⟩ := impactSources_nodup sources
  have distinct := comparison_ids_nodup apart others injective
  constructor
  · exact limits_of_recorded
  · rintro ⟨bounded, admitted⟩
    obtain ⟨next, outcome, recorded⟩ := (@record_comparison _ _ _ _ _ _ _ now derived sources distinct injective).mpr admitted
    have built := impactCommand_ok.mpr ⟨expectedImpactItems_bounded.mpr bounded, distinct, rfl⟩
    exact ⟨_, next, outcome, built, covers_expectedImpactItems apart others distinct, recorded⟩

/-- A comparison that passes the service's checks is recorded exactly when its items fit the command and the
    handler accepts the lifecycle of the predecessor. -/
theorem impact_recordable (history : ImpactHistory store)
    (sources : impactSources store tenantId caseId predecessorId successorId = .ok (previous, successor))
    (injective : Uuid5Injective (store.names caseId predecessorId successorId previous successor)) (now : Timestamp) :
    ImpactRecorded store tenantId caseId predecessorId successorId previous successor now ↔
      previous.length + successor.length < 40000 ∧ store.Admits tenantId predecessorId :=
  impactRecorded_iff (derived_of_history history) sources injective now

end Handler

def replacedVersion (lifecycle : DceLifecycle) : DceVersionRecord :=
  ⟨5, 1, 8, "first corpus", none, lifecycle, .verified, .classified, .readyForAnalysis, 1⟩

def rectifiedVersion : DceVersionRecord :=
  ⟨6, 1, 8, "second corpus", some 5, .admitted, .verified, .classified, .readyForAnalysis, 1⟩

def materializationRun (id versionId : Uuid) : DceRequirementMaterializationRunRecord :=
  ⟨id, 1, versionId, versionId, "manifest", "smart-ao-rc-requirement-materializer", "2", .completed, 1, none⟩

def numberedRequirement (runId versionId : Uuid) (number : Nat) : DceRequirementRecord :=
  ⟨.ofNat 128 number, 1, runId, versionId, .ofNat 128 number, .siteVisit, .unspecified⟩

theorem ofNat_injective {first second : Nat} (one : first < 2 ^ 128) (two : second < 2 ^ 128)
    (same : BitVec.ofNat 128 first = BitVec.ofNat 128 second) : first = second := by
  have values := congrArg BitVec.toNat same
  rwa [BitVec.toNat_ofNat, BitVec.toNat_ofNat, Nat.mod_eq_of_lt one, Nat.mod_eq_of_lt two] at values

/-- As many requirements of the first version as of the second. -/
def numberedRequirements (count : Nat) (small : count ≤ 20000) : Table DceRequirementRecord where
  rows := (List.range count).map (numberedRequirement 11 5) ++
    (List.range count).map fun number => numberedRequirement 12 6 (count + number)
  distinct := by
    have within (runId versionId : Uuid) (start : Nat) (bounded : start ≤ 20000) :
        ((List.range count).map fun number => numberedRequirement runId versionId (start + number)).Pairwise
          fun first second => ¬ Schema.Conflict first second := by
      rw [List.pairwise_map]
      refine (List.nodup_range (n := count)).imp_of_mem ?_
      intro first second one two apart conflict
      rw [List.mem_range] at one two
      rcases conflict with same | same
      · have equal := ofNat_injective (by omega) (by omega) same
        omega
      · have equal := ofNat_injective (by omega) (by omega) (Prod.mk.inj (Prod.mk.inj same).2).2
        omega
    have first := within 11 5 0 (by omega)
    simp only [Nat.zero_add] at first
    refine List.pairwise_append.mpr ⟨first, within 12 6 count small, ?_⟩
    intro one member two other conflict
    obtain ⟨first, listed, rfl⟩ := List.mem_map.mp member
    obtain ⟨second, present, rfl⟩ := List.mem_map.mp other
    rw [List.mem_range] at listed present
    rcases conflict with same | same
    · have equal := ofNat_injective (by omega) (by omega) same
      omega
    · have runs : (11 : Uuid) = 12 := (Prod.mk.inj (Prod.mk.inj same).2).1
      exact absurd runs (by decide)

/-- A case whose applicable version was replaced, both versions with as many requirements. -/
def rectifiedStore (lifecycle : DceLifecycle) (count : Nat) (small : count ≤ 20000) : ImpactStore where
  cases := .singleton ⟨3, 1, .active, "scope", some 5, 0⟩
  dce := { DceStore.empty with
    versions := ⟨[replacedVersion lifecycle, rectifiedVersion], by cases lifecycle <;> decide⟩
    requirements := numberedRequirements count small }
  runs := ⟨[materializationRun 11 5, materializationRun 12 6], by decide⟩
  createdAt := fun _ => 0
  impactRuns := .empty
  impactItems := .empty

def rectifiedRequirements (lifecycle : DceLifecycle) (count : Nat) (small : count ≤ 20000) (runId : Uuid) :
    List ImpactRequirement :=
  ((rectifiedStore lifecycle count small).requirementRows 1 runId).map ImpactRequirement.of

theorem rectifiedStore_sources (lifecycle : DceLifecycle) (count : Nat) (small : count ≤ 20000) :
    impactSources (rectifiedStore lifecycle count small) 1 3 5 6 = .ok
      (rectifiedRequirements lifecycle count small 11, rectifiedRequirements lifecycle count small 12) := by
  rfl

theorem rectifiedRequirements_length (lifecycle : DceLifecycle) (count : Nat) (small : count ≤ 20000) :
    (rectifiedRequirements lifecycle count small 11).length = count ∧
      (rectifiedRequirements lifecycle count small 12).length = count := by
  have listed (runId : Uuid) : (rectifiedRequirements lifecycle count small runId).length =
      ((numberedRequirements count small).rows.filter fun row => row.tenantId = 1 ∧
        row.requirementsRunId = runId).length := by
    rw [rectifiedRequirements, List.length_map]
    exact (List.perm_insertionSort _ _).length_eq
  rw [listed, listed]
  constructor
  all_goals
    simp [numberedRequirements, numberedRequirement, List.filter_map, Function.comp_def]

theorem rectifiedStore_history (lifecycle : DceLifecycle) (count : Nat) (small : count ≤ 20000) :
    ImpactHistory (rectifiedStore lifecycle count small) := .start rfl rfl

theorem impact_recordable_single :
    ∃ previous successor, ImpactRecorded (rectifiedStore .superseded 1 (by decide)) 1 3 5 6 previous successor 0 ↔
      previous.length + successor.length < 40000 ∧ (rectifiedStore .superseded 1 (by decide)).Admits 1 5 := by
  have injective : Uuid5Injective ((rectifiedStore .superseded 1 (by decide)).names 3 5 6
      (rectifiedRequirements .superseded 1 (by decide) 11) (rectifiedRequirements .superseded 1 (by decide) 12)) := by
    unfold Uuid5Injective
    decide +kernel
  exact ⟨_, _, impact_recordable (rectifiedStore_history _ _ _) (rectifiedStore_sources _ _ _) injective 0⟩

/-- Two full requirement lists are refused, and so is any comparison with a withdrawn version. -/
theorem impact_refused :
    (∃ previous successor, impactSources (rectifiedStore .admitted 20000 (by decide)) 1 3 5 6 = .ok (previous, successor) ∧
      previous.length = 20000 ∧ successor.length = 20000 ∧
      ¬ ImpactRecorded (rectifiedStore .admitted 20000 (by decide)) 1 3 5 6 previous successor 0) ∧
    ∃ previous successor, impactSources (rectifiedStore .withdrawn 1 (by decide)) 1 3 5 6 = .ok (previous, successor) ∧
      previous.length = 1 ∧ successor.length = 1 ∧
      ¬ ImpactRecorded (rectifiedStore .withdrawn 1 (by decide)) 1 3 5 6 previous successor 0 := by
  refine ⟨⟨_, _, rectifiedStore_sources _ _ _, (rectifiedRequirements_length _ _ _).1,
    (rectifiedRequirements_length _ _ _).2, fun recorded => ?_⟩, ⟨_, _, rectifiedStore_sources _ _ _,
    (rectifiedRequirements_length _ _ _).1, (rectifiedRequirements_length _ _ _).2, fun recorded => ?_⟩⟩
  · obtain ⟨bounded, _⟩ := limits_of_recorded recorded
    rw [(rectifiedRequirements_length _ _ _).1, (rectifiedRequirements_length _ _ _).2] at bounded
    omega
  · obtain ⟨_, version, found, admitted⟩ := limits_of_recorded recorded
    have withdrawn : version = replacedVersion .withdrawn := (Option.some.inj found).symm
    rw [withdrawn] at admitted
    exact absurd admitted (by decide)

end SmartAo.Dce
