import SmartAo.Foundation.Transition
import SmartAo.Optimization.CapacityRuns

namespace SmartAo.Optimization

open SmartAo.Foundation SmartAo.Platform

section Replay

variable {store next : CapacityStore} {command : CapacityRunCommand} {solver : Solver} {eventId : Uuid}
  {record existing : OptimizationRunRecord} {result : CapacityRunPersistenceResult} {planInput : CaseCapacityPlanInput}
  {plan : CaseCapacityPlan} {input : CapacityStep}

/-- The run of a command and its audit event are stored. -/
def Recorded (command : CapacityRunCommand) (sha256 : String) (auditEventId : Uuid) (store : CapacityStore) : Prop :=
  (∃ row ∈ store.runs, row.id = command.runId ∧ row.tenantId = command.tenantId ∧ row.caseId = command.caseId ∧
    row.sourceRevision = command.expectedSourceRevision ∧ row.inputSha256 = sha256 ∧
    row.commandId = command.commandId ∧ row.idempotencyKey = command.idempotencyKey) ∧
  ∃ event, auditEvent store.events command.tenantId command.runId = some event ∧ event.id = auditEventId

/-- The source answers for the case with the expected revision and an input of the same digest. -/
structure SourceUnchanged (source : CapacitySource) (command : CapacityRunCommand) (sha256 : String)
    (planInput : CaseCapacityPlanInput) : Prop where
  loads : source command.tenantId command.caseId = .ok planInput
  scope : planInput.tenantId = command.tenantId ∧ planInput.caseId = command.caseId
  revision : planInput.sourceRevision = command.expectedSourceRevision
  digest : inputSha256 planInput = sha256
  demands : (planInput.demands.map (·.id)).Nodup
  supplies : (planInput.supplies.map (·.id)).Nodup

theorem existingRun_ok {runs : Table OptimizationRunRecord} (found : existingRun runs record = .ok existing) :
    existing ∈ runs ∧ existing.sameRequest record = true := by
  unfold existingRun at found
  have member : ∀ row ∈ runs.rows.filter (·.sharesKey record), row ∈ runs := fun row listed =>
    (List.mem_filter.mp listed).1
  cases listed : runs.rows.filter (·.sharesKey record) with
  | nil =>
    rw [listed] at found
    cases found
  | cons first rest =>
    rw [listed] at found member
    cases rest with
    | cons second rest => cases found
    | nil =>
      dsimp only at found
      by_cases same : first.sameRequest record = true
      · rw [if_pos same, Except.ok.injEq] at found
        rw [← found]
        exact ⟨member first List.mem_cons_self, same⟩
      · rw [if_neg same] at found
        cases found

theorem sameRequest_iff : existing.sameRequest record = true ↔ existing.id = record.id ∧
    existing.tenantId = record.tenantId ∧ existing.caseId = record.caseId ∧
    existing.sourceRevision = record.sourceRevision ∧ existing.inputSha256 = record.inputSha256 ∧
    existing.commandId = record.commandId ∧ existing.idempotencyKey = record.idempotencyKey :=
  decide_eq_true_iff

theorem auditEvent_append {events later : Table DomainEventRecord} {rows : List DomainEventRecord}
    {tenantId runId : Uuid} {event : DomainEventRecord} (appended : later.rows = events.rows ++ rows)
    (found : auditEvent events tenantId runId = some event) : auditEvent later tenantId runId = some event := by
  unfold auditEvent Table.find? at found ⊢
  rw [appended, List.find?_append, found]
  rfl

/-- The run a call answers with is stored, with its audit event. -/
theorem saveOrReplay_recorded (saved : saveOrReplay store record eventId = .ok (next, result)) :
    (∃ row ∈ next.runs, row.sameRequest record = true) ∧ result.runId = record.id ∧
      ∃ event, auditEvent next.events record.tenantId record.id = some event ∧ event.id = result.auditEventId := by
  unfold saveOrReplay at saved
  obtain ⟨_, _, saved⟩ := bind_ok.mp saved
  cases inserted : store.runs.insert? record with
  | some runs =>
    rw [inserted] at saved
    simp only [bind_ok, raiseIf_ok, exists_unit, orRaise_ok, pure_ok, Prod.mk.injEq] at saved
    obtain ⟨existing, found, fresh, events, recorded, rfl, rfl⟩ := saved
    obtain ⟨member, same⟩ := existingRun_ok found
    have id : existing.id = record.id := (sameRequest_iff.mp same).1
    refine ⟨⟨existing, member, same⟩, id, recordedEvent record eventId, ?_, rfl⟩
    have none : auditEvent store.events record.tenantId record.id = none := by
      rw [id] at fresh
      simpa using fresh
    unfold auditEvent Table.find? at none ⊢
    show events.rows.find? _ = _
    rw [Table.insert?_rows recorded, List.find?_append, none]
    simp [recordedEvent]
  | none =>
    rw [inserted] at saved
    simp only [bind_ok, orRaise_ok, pure_ok, Prod.mk.injEq] at saved
    obtain ⟨existing, found, event, audited, rfl, rfl⟩ := saved
    obtain ⟨member, same⟩ := existingRun_ok found
    have id : existing.id = record.id := (sameRequest_iff.mp same).1
    rw [id] at audited
    exact ⟨⟨existing, member, same⟩, id, event, audited, rfl⟩

theorem planWithInput_ok {source : CapacitySource} {tenantId caseId : Uuid} :
    planWithInput source solver tenantId caseId = .ok (planInput, plan) ↔ source tenantId caseId = .ok planInput ∧
      (planInput.tenantId = tenantId ∧ planInput.caseId = caseId) ∧ ∃ answer,
        solve solver planInput.demands planInput.supplies = .ok answer ∧
          toPlan tenantId caseId planInput.demands answer = plan := by
  simp only [planWithInput, bind_ok, mapError_ok, raiseIf_ok, exists_unit, pure_ok, Prod.mk.injEq, not_or, not_not]
  constructor
  · rintro ⟨loaded, found, scope, answer, solved, rfl, made⟩
    exact ⟨found, scope, answer, solved, made⟩
  · rintro ⟨found, scope, answer, solved, made⟩
    exact ⟨planInput, found, scope, answer, solved, rfl, made⟩

theorem execute_ok (executed : execute store command solver eventId = .ok (next, result)) :
    ∃ planInput plan, planWithInput store.source solver command.tenantId command.caseId = .ok (planInput, plan) ∧
      planInput.sourceRevision = command.expectedSourceRevision ∧
      saveOrReplay store (runRecord command planInput plan) eventId = .ok (next, result) := by
  simp only [execute, bind_ok, Prod.exists, raiseIf_ok, exists_unit, not_not] at executed
  exact executed

theorem execute_recorded (executed : execute store command solver eventId = .ok (next, result)) :
    result.runId = command.runId ∧ ∃ planInput, store.source command.tenantId command.caseId = .ok planInput ∧
      Recorded command (inputSha256 planInput) result.auditEventId next := by
  obtain ⟨planInput, plan, planned, revision, saved⟩ := execute_ok executed
  obtain ⟨⟨row, member, same⟩, runId, audited⟩ := saveOrReplay_recorded saved
  refine ⟨runId, planInput, (planWithInput_ok.mp planned).1, ⟨row, member, ?_⟩, audited⟩
  rw [← revision]
  exact sameRequest_iff.mp same

/-- Runs and events are only ever added. -/
theorem capacityStep_appends (done : capacityStep store input = .ok next) :
    (∃ runs, next.runs.rows = store.runs.rows ++ runs) ∧ ∃ events, next.events.rows = store.events.rows ++ events := by
  cases input with
  | source source =>
    cases done
    exact ⟨⟨[], (List.append_nil _).symm⟩, [], (List.append_nil _).symm⟩
  | event row other =>
    rw [capacityStep] at done
    cases inserted : store.events.insert? row with
    | none =>
      rw [inserted] at done
      cases done
    | some events =>
      rw [inserted] at done
      cases done
      exact ⟨⟨[], (List.append_nil _).symm⟩, [row], Table.insert?_rows inserted⟩
  | execute command solver eventId =>
    obtain ⟨result, executed⟩ := map_fst_ok.mp done
    obtain ⟨planInput, plan, _, _, saved⟩ := execute_ok executed
    unfold saveOrReplay at saved
    obtain ⟨_, _, saved⟩ := bind_ok.mp saved
    cases inserted : store.runs.insert? (runRecord command planInput plan) with
    | some runs =>
      rw [inserted] at saved
      simp only [bind_ok, raiseIf_ok, exists_unit, orRaise_ok, pure_ok, Prod.mk.injEq] at saved
      obtain ⟨_, _, _, events, recorded, rfl, _⟩ := saved
      exact ⟨⟨_, Table.insert?_rows inserted⟩, _, Table.insert?_rows recorded⟩
    | none =>
      rw [inserted] at saved
      simp only [bind_ok, orRaise_ok, pure_ok, Prod.mk.injEq] at saved
      obtain ⟨_, _, _, _, rfl, _⟩ := saved
      exact ⟨⟨[], (List.append_nil _).symm⟩, [], (List.append_nil _).symm⟩

theorem Recorded.step {sha256 : String} {auditEventId : Uuid} (recorded : Recorded command sha256 auditEventId store)
    (done : capacityStep store input = .ok next) : Recorded command sha256 auditEventId next := by
  obtain ⟨⟨row, member, kept⟩, event, found, named⟩ := recorded
  obtain ⟨⟨runs, grown⟩, events, appended⟩ := capacityStep_appends done
  refine ⟨⟨row, ?_, kept⟩, event, auditEvent_append appended found, named⟩
  show row ∈ next.runs.rows
  rw [grown]
  exact List.mem_append_left _ member

theorem Recorded.run {sha256 : String} {auditEventId : Uuid} (recorded : Recorded command sha256 auditEventId store)
    (steps : List CapacityStep) : Recorded command sha256 auditEventId (run capacityStep store steps) :=
  run_invariant_always (fun _ _ _ held done => held.step done) steps recorded

theorem execute_fits (executed : execute store command solver eventId = .ok (next, result)) :
    command.expectedSourceRevision ≤ 2147483647 := by
  obtain ⟨planInput, plan, _, revision, saved⟩ := execute_ok executed
  unfold saveOrReplay at saved
  obtain ⟨_, fits, _⟩ := bind_ok.mp saved
  rw [← revision]
  exact not_lt.mp (raiseIf_ok.mp fits)

/-- Distinct ids are what a solution takes, whatever the solver answers. -/
theorem solve_isOk {demands : List ResourceDemand} {supplies : List ResourceSupply} :
    (∃ answer, solve solver demands supplies = .ok answer) ↔
      (demands.map (·.id)).Nodup ∧ (supplies.map (·.id)).Nodup := by
  constructor
  · rintro ⟨answer, solved⟩
    simp only [solve, bind_ok, raiseIf_ok, exists_unit, not_not] at solved
    exact ⟨solved.1, solved.2.1⟩
  · rintro ⟨distinct, apart⟩
    rw [solve, bind_of_ok (raiseIf_pass (not_not.mpr distinct)), bind_of_ok (raiseIf_pass (not_not.mpr apart))]
    split
    · exact ⟨_, rfl⟩
    · split <;> exact ⟨_, rfl⟩

/-- The run stored under all the keys of a record is the one it is compared with. -/
theorem existingRun_of_keys {runs : Table OptimizationRunRecord} (member : existing ∈ runs)
    (keys : existing.id = record.id ∧ existing.tenantId = record.tenantId ∧ existing.commandId = record.commandId ∧
      existing.idempotencyKey = record.idempotencyKey) :
    existingRun runs record =
      if existing.sameRequest record then .ok existing else .error .idempotencyConflict := by
  obtain ⟨id, tenant, commandId, key⟩ := keys
  have alone : ∀ row ∈ runs.rows.filter (·.sharesKey record), row = existing := by
    intro row listed
    obtain ⟨stored, shares⟩ := List.mem_filter.mp listed
    obtain ⟨owner, shared⟩ := of_decide_eq_true shares
    refine Table.eq_of_conflict stored member ?_
    rcases shared with sameId | sameCommand | sameKey
    · exact .inl (sameId.trans id.symm)
    · exact .inr ⟨owner.trans tenant.symm, .inl (sameCommand.trans commandId.symm)⟩
    · exact .inr ⟨owner.trans tenant.symm, .inr (sameKey.trans key.symm)⟩
  have there : existing ∈ runs.rows.filter (·.sharesKey record) :=
    List.mem_filter.mpr ⟨member, decide_eq_true ⟨tenant, .inl id⟩⟩
  have apart := runs.distinct.filter (·.sharesKey record)
  have listed : runs.rows.filter (·.sharesKey record) = [existing] := by
    cases rows : runs.rows.filter (·.sharesKey record) with
    | nil =>
      rw [rows] at there
      cases there
    | cons first rest =>
      rw [rows] at alone apart
      cases rest with
      | nil => rw [alone first List.mem_cons_self]
      | cons second rest =>
        have one := alone first List.mem_cons_self
        have two := alone second (List.mem_cons_of_mem _ List.mem_cons_self)
        rw [one, two] at apart
        exact absurd (.inl rfl) ((List.pairwise_cons.mp apart).1 existing List.mem_cons_self)
  unfold existingRun
  rw [listed]

/-- A stored command is only replayed while its source is unchanged. -/
theorem Recorded.unchanged {sha256 : String} {auditEventId : Uuid} (recorded : Recorded command sha256 auditEventId store)
    (executed : execute store command solver eventId = .ok (next, result)) :
    ∃ planInput, SourceUnchanged store.source command sha256 planInput := by
  obtain ⟨planInput, plan, planned, revision, saved⟩ := execute_ok executed
  obtain ⟨loads, scope, answer, solved, _⟩ := planWithInput_ok.mp planned
  obtain ⟨demands, supplies⟩ := solve_isOk.mp ⟨answer, solved⟩
  have done : capacityStep store (.execute command solver eventId) = .ok next := map_fst_ok.mpr ⟨result, executed⟩
  obtain ⟨⟨row, member, id, _, _, _, digest, _⟩, _⟩ := recorded.step done
  obtain ⟨⟨other, stored, same⟩, _⟩ := saveOrReplay_recorded saved
  obtain ⟨sameId, _, _, _, sameDigest, _⟩ := sameRequest_iff.mp same
  have equal : other = row := Table.eq_of_conflict stored member (.inl (sameId.trans id.symm))
  rw [equal, digest] at sameDigest
  exact ⟨planInput, loads, scope, revision, sameDigest.symm, demands, supplies⟩

/-- A stored command is replayed while its source is unchanged, and nothing is written. -/
theorem Recorded.replays {sha256 : String} {auditEventId : Uuid} (recorded : Recorded command sha256 auditEventId store)
    (fits : command.expectedSourceRevision ≤ 2147483647)
    (unchanged : SourceUnchanged store.source command sha256 planInput) :
    ∃ status, execute store command solver eventId = .ok (store, ⟨command.runId, status, auditEventId, true⟩) := by
  obtain ⟨⟨row, member, id, tenant, case_, revision, digest, commandId, key⟩, event, audited, named⟩ := recorded
  obtain ⟨answer, solved⟩ := (@solve_isOk solver _ _).mpr ⟨unchanged.demands, unchanged.supplies⟩
  let plan := toPlan command.tenantId command.caseId planInput.demands answer
  have planned : planWithInput store.source solver command.tenantId command.caseId = .ok (planInput, plan) :=
    planWithInput_ok.mpr ⟨unchanged.loads, unchanged.scope, answer, solved, rfl⟩
  have same : row.sameRequest (runRecord command planInput plan) = true :=
    sameRequest_iff.mpr ⟨id, tenant, case_, revision.trans unchanged.revision.symm,
      digest.trans unchanged.digest.symm, commandId, key⟩
  have refused : store.runs.insert? (runRecord command planInput plan) = none := by
    by_contra inserted
    have free := Table.insert?_isSome.mp (Option.isSome_iff_ne_none.mpr inserted)
    exact free row member (.inl id)
  have found : existingRun store.runs (runRecord command planInput plan) = .ok row := by
    rw [existingRun_of_keys member ⟨id, tenant, commandId, key⟩, if_pos same]
  refine ⟨plan.status, ?_⟩
  rw [execute, bind_of_ok planned]
  dsimp only
  rw [bind_of_ok (raiseIf_pass (not_not.mpr unchanged.revision)), saveOrReplay,
    bind_of_ok (raiseIf_pass (by show ¬ 2147483647 < planInput.sourceRevision; rw [unchanged.revision]; omega)), refused]
  dsimp only
  rw [bind_of_ok found, id]
  show (orRaise (auditEvent store.events command.tenantId command.runId) _ >>= _) = _
  rw [audited, orRaise_some, bind_of_ok rfl, ← named]
  rfl

/-- After a command is executed and whatever is written since, executing it again writes nothing: it answers with the
    run and the audit event of the first execution while the source is unchanged, and is refused otherwise. -/
theorem capacity_run_replays (first : execute store command solver eventId = .ok (next, result)) :
    ∃ original, store.source command.tenantId command.caseId = .ok original ∧
      ∀ (later : List CapacityStep) (again : Solver) (againId : Uuid),
        commit capacityStep (run capacityStep next later) (.execute command again againId) =
          run capacityStep next later ∧
        (∀ last answer, execute (run capacityStep next later) command again againId = .ok (last, answer) →
          answer.runId = result.runId ∧ answer.auditEventId = result.auditEventId ∧ answer.replayed = true) ∧
        ((execute (run capacityStep next later) command again againId).isOk = true ↔
          ∃ current, SourceUnchanged (run capacityStep next later).source command (inputSha256 original) current) := by
  obtain ⟨runId, original, loads, stored⟩ := execute_recorded first
  refine ⟨original, loads, fun later again againId => ?_⟩
  have recorded := stored.run later
  generalize run capacityStep next later = now at recorded
  by_cases unchanged : ∃ current, SourceUnchanged now.source command (inputSha256 original) current
  · obtain ⟨current, held⟩ := unchanged
    obtain ⟨status, replayed⟩ := @Recorded.replays now command again againId current _ _ recorded (execute_fits first) held
    refine ⟨?_, ?_, ?_⟩
    · exact commit_ok (map_fst_ok.mpr ⟨_, replayed⟩)
    · intro last answer executed
      rw [replayed, Except.ok.injEq, Prod.mk.injEq] at executed
      rw [← executed.2]
      exact ⟨runId.symm, rfl, rfl⟩
    · rw [replayed]
      exact iff_of_true rfl ⟨current, held⟩
  · cases executed : execute now command again againId with
    | ok answered =>
      obtain ⟨last, answer⟩ := answered
      exact absurd (recorded.unchanged executed) unchanged
    | error error =>
      refine ⟨?_, nofun, iff_of_false (by nofun) unchanged⟩
      apply commit_error
      show (execute now command again againId).map Prod.fst = _
      rw [executed]
      rfl

end Replay

/-- One demand and one supply of two units, read at a revision. -/
def capacityInput (revision : Nat) : CaseCapacityPlanInput :=
  ⟨1, 2, revision + 1, [⟨10, 2, by decide⟩], [⟨11, 2, by decide⟩], Nat.le_add_left 1 revision⟩

def capacitySource (revision : Nat) : CapacitySource := fun _ _ => .ok (capacityInput revision)

def unplanned : CapacityStore := ⟨.empty, .empty, capacitySource 2⟩

def capacityCommand : CapacityRunCommand := ⟨5, 6, 7, none, 8, 1, 2, 3, by decide⟩

def pickAll : Solver := fun _ => ⟨.optimal, fun _ => true⟩

theorem capacityCommand_executed : ∃ next result,
    execute unplanned capacityCommand pickAll 50 = .ok (next, result) := by
  have accepted : (execute unplanned capacityCommand pickAll 50).isOk = true := by decide +kernel
  cases executed : execute unplanned capacityCommand pickAll 50 with
  | ok answered => exact ⟨answered.1, answered.2, rfl⟩
  | error error =>
    rw [executed] at accepted
    cases accepted

theorem capacityCommand_replayed : ∃ next result,
    execute unplanned capacityCommand pickAll 50 = .ok (next, result) ∧
      commit capacityStep next (.execute capacityCommand pickAll 51) = next := by
  obtain ⟨next, result, executed⟩ := capacityCommand_executed
  obtain ⟨_, _, replays⟩ := capacity_run_replays executed
  exact ⟨next, result, executed, (replays [] pickAll 51).1⟩

theorem revised_source_refused : ¬ ∀ (store next : CapacityStore) (command : CapacityRunCommand) (solver : Solver)
    (eventId : Uuid) (result : CapacityRunPersistenceResult),
    execute store command solver eventId = .ok (next, result) →
    ∀ (later : List CapacityStep) (again : Solver) (againId : Uuid), ∃ last answer,
      execute (run capacityStep next later) command again againId = .ok (last, answer) ∧
        answer.runId = result.runId ∧ answer.status = result.status ∧ answer.replayed = true := by
  intro replays
  obtain ⟨next, result, executed⟩ := capacityCommand_executed
  obtain ⟨last, answer, answered, _⟩ := replays unplanned next capacityCommand pickAll 50 result executed
    [.source (capacitySource 3)] pickAll 51
  have refused : execute (run capacityStep next [.source (capacitySource 3)]) capacityCommand pickAll 51 =
      .error .sourceRevisionConflict := rfl
  rw [refused] at answered
  cases answered

end SmartAo.Optimization
