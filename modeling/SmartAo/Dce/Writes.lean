import SmartAo.Dce.Records

namespace SmartAo.Dce

open SmartAo.Foundation SmartAo.Platform

structure RecordDceRequirementConfirmationCommand extends ApplicationCommand where
  confirmationId : Uuid
  requirementId : Uuid
  expectedConfirmationRevision : Nat
  outcome : ConfirmationOutcome
  reasonCode : ConfirmationReason

def DceStore.requirement (store : DceStore) (tenantId requirementId : Uuid) :
    Option DceRequirementRecord :=
  store.requirements.find? fun row => row.tenantId = tenantId ∧ row.id = requirementId

def DceStore.currentConfirmation (store : DceStore) (tenantId requirementId : Uuid) :
    Option DceRequirementConfirmationCurrentRecord :=
  store.currentConfirmations.find? fun row =>
    row.tenantId = tenantId ∧ row.requirementId = requirementId

def succeeded (confirmation : DceRequirementConfirmationRecord)
    (current : DceRequirementConfirmationCurrentRecord) : DceRequirementConfirmationCurrentRecord :=
  { current with
    confirmationId := confirmation.id
    revision := confirmation.revision
    outcome := confirmation.outcome }

theorem succeeded_columns (confirmation : DceRequirementConfirmationRecord)
    (current : DceRequirementConfirmationCurrentRecord) :
    Schema.columns (succeeded confirmation current) = Schema.columns current := rfl

/-- Appends a human confirmation and makes it the current one of its requirement. -/
def recordDceRequirementConfirmation (store : DceStore)
    (command : RecordDceRequirementConfirmationCommand) (context : CommandContext) :
    Transaction (DceStore × HandlerOutcome) := do
  raiseIf (context.actorKind = .system) (.failed "DCE_REQUIREMENT_HUMAN_ACTOR_REQUIRED")
  let requirement ← orRaise (store.requirement context.tenantId command.requirementId)
    (.failed "NOT_FOUND_OR_FORBIDDEN")
  let current := store.currentConfirmation context.tenantId requirement.id
  let currentRevision := (current.map (·.revision)).getD 0
  raiseIf (currentRevision ≠ command.expectedConfirmationRevision)
    (.failed "DCE_REQUIREMENT_CONFIRMATION_STALE")
  raiseIf (command.outcome = .notApplicable ∧ context.actorKind = .collaborateur)
    (.failed "DCE_REQUIREMENT_PATRON_REQUIRED")
  let confirmation : DceRequirementConfirmationRecord := {
    id := command.confirmationId, tenantId := context.tenantId, requirementId := requirement.id,
    revision := currentRevision + 1, previousConfirmationId := current.map (·.confirmationId),
    outcome := command.outcome, reasonCode := command.reasonCode,
    confirmedByActorId := context.actorId }
  let confirmations ← flush (store.confirmations.insert? confirmation)
  let currentConfirmations ← match current with
    | none => flush (store.currentConfirmations.insert? {
        requirementId := requirement.id, tenantId := context.tenantId,
        confirmationId := confirmation.id, revision := confirmation.revision,
        outcome := confirmation.outcome })
    | some current => pure (store.currentConfirmations.update
        (fun row => row.requirementId = current.requirementId) (succeeded confirmation)
        (succeeded_columns confirmation))
  return ({ store with confirmations, currentConfirmations }, {
    resultCode := "DCE_REQUIREMENT_CONFIRMED"
    aggregateRefs := [{
      aggregateType := "DCE_REQUIREMENT_CONFIRMATION", aggregateId := confirmation.id.str,
      aggregateRevision := confirmation.revision }]
    events := [{
      aggregateType := "DCE_REQUIREMENT_CONFIRMATION", aggregateId := confirmation.id,
      aggregateRevision := confirmation.revision, eventType := "DCE_REQUIREMENT_CONFIRMED",
      payload := [("confirmation_id", .str confirmation.id.str),
        ("requirement_id", .str requirement.id.str), ("outcome", .str confirmation.outcome.value),
        ("reason_code", .str confirmation.reasonCode.value),
        ("revision", .int confirmation.revision)] }] })

/-- The root columns of a DCE version other modules read, among those its repository may write. -/
structure DceVersionChanges where
  lifecycle : Option DceLifecycle
  integrity : Option DceIntegrity
  classificationReadiness : Option ClassificationReadiness
  analysisReadiness : Option AnalysisReadiness

def DceVersionChanges.apply (changes : DceVersionChanges) (row : DceVersionRecord) :
    DceVersionRecord :=
  { row with
    lifecycle := changes.lifecycle.getD row.lifecycle
    integrity := changes.integrity.getD row.integrity
    classificationReadiness := changes.classificationReadiness.getD row.classificationReadiness
    analysisReadiness := changes.analysisReadiness.getD row.analysisReadiness
    aggregateRevision := row.aggregateRevision + 1 }

theorem DceVersionChanges.apply_columns (changes : DceVersionChanges) (row : DceVersionRecord) :
    Schema.columns (changes.apply row) = Schema.columns row := rfl

/-- The writes of the DCE module: registration of an admitted version, guarded updates of its root,
    materialization of its requirements, and human confirmation of one of them. -/
inductive DceWrite where
  | register (id tenantId consultationId : Uuid) (corpusHash : String)
  | updateVersion (tenantId versionId : Uuid) (expectedRevision : Nat) (changes : DceVersionChanges)
  | materialize (requirements : List DceRequirementRecord)
  | confirm (command : RecordDceRequirementConfirmationCommand) (context : CommandContext)

def DceStore.write (store : DceStore) : DceWrite → Transaction DceStore
  | .register id tenantId consultationId corpusHash => do
    let versions ← flush (store.versions.insert?
      ⟨id, tenantId, consultationId, corpusHash, none, .admitted, .verified, .unclassified, .notReady, 0⟩)
    return { store with versions }
  | .updateVersion tenantId versionId expectedRevision changes => do
    let versions ← updateRoot store.versions tenantId versionId expectedRevision changes.apply
      changes.apply_columns (.failed "aggregate was changed or is unavailable")
    return { store with versions }
  | .materialize requirements => do
    let requirements ← flush (store.requirements.insertAll? requirements)
    return { store with requirements }
  | .confirm command context =>
    (recordDceRequirementConfirmation store command context).map Prod.fst

variable {store next : DceStore} {current : DceRequirementConfirmationCurrentRecord}

/-- After a confirmation, the current row of its requirement has the submitted outcome and the others
    are old. -/
theorem recordDceRequirementConfirmation_current {command : RecordDceRequirementConfirmationCommand}
    {context : CommandContext} {outcome : HandlerOutcome}
    (accepted : recordDceRequirementConfirmation store command context = .ok (next, outcome))
    (member : current ∈ next.currentConfirmations) : current ∈ store.currentConfirmations ∨
      (current.tenantId = context.tenantId ∧ current.requirementId = command.requirementId ∧
        current.outcome = command.outcome) := by
  simp only [recordDceRequirementConfirmation, bind_ok, raiseIf_ok, exists_unit, orRaise_ok,
    flush] at accepted
  obtain ⟨_, requirement, found, _, _, confirmations, _, accepted⟩ := accepted
  have named : requirement.id = command.requirementId := by
    have query := Table.find?_query found
    simp only [decide_eq_true_eq] at query
    exact query.2
  cases before : store.currentConfirmation context.tenantId requirement.id with
  | none =>
    simp only [before, bind_ok, orRaise_ok, pure_ok, Prod.mk.injEq] at accepted
    obtain ⟨currents, written, rfl, _⟩ := accepted
    rcases (Table.mem_insert? written).mp member with old | rfl
    · exact .inl old
    · exact .inr ⟨rfl, named, rfl⟩
  | some previous =>
    have query := Table.find?_query before
    simp only [decide_eq_true_eq] at query
    simp only [before, pure_ok, bind_ok, Prod.mk.injEq] at accepted
    obtain ⟨currents, rfl, rfl, _⟩ := accepted
    rcases @Table.mem_update_cases _ _ _ _ _ _ (succeeded_columns _) member with ⟨old, _⟩ | ⟨row, stored, matched, rfl⟩
    · exact .inl old
    · have same : row = previous :=
        Table.eq_of_conflict stored (Table.find?_mem before) (of_decide_eq_true matched)
      subst same
      exact .inr ⟨query.1, query.2.trans named, rfl⟩

/-- Only a confirmation writes current confirmations. -/
theorem DceStore.write_currentConfirmations {write : DceWrite} (accepted : store.write write = .ok next)
    (member : current ∈ next.currentConfirmations) : current ∈ store.currentConfirmations ∨
      ∃ command context, write = .confirm command context ∧ current.tenantId = context.tenantId ∧
        current.requirementId = command.requirementId ∧ current.outcome = command.outcome := by
  cases write with
  | register id tenantId consultationId corpusHash =>
    simp only [DceStore.write, bind_ok, pure_ok] at accepted
    obtain ⟨_, _, rfl⟩ := accepted
    exact .inl member
  | updateVersion tenantId versionId expectedRevision changes =>
    simp only [DceStore.write, bind_ok, pure_ok] at accepted
    obtain ⟨_, _, rfl⟩ := accepted
    exact .inl member
  | materialize requirements =>
    simp only [DceStore.write, bind_ok, pure_ok] at accepted
    obtain ⟨_, _, rfl⟩ := accepted
    exact .inl member
  | confirm command context =>
    obtain ⟨outcome, recorded⟩ := map_fst_ok.mp accepted
    rcases recordDceRequirementConfirmation_current recorded member with old | new
    · exact .inl old
    · exact .inr ⟨command, context, rfl, new⟩

end SmartAo.Dce
