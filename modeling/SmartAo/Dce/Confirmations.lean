import SmartAo.Dce.Writes
import SmartAo.Foundation.Chain
import SmartAo.Foundation.RowLocks

namespace SmartAo.Dce

section Confirmations

open SmartAo.Foundation SmartAo.Platform

structure ConfirmationRequest where
  command : RecordDceRequirementConfirmationCommand
  context : CommandContext

/-- The requirement row its first statement locks. -/
def ConfirmationRequest.row (request : ConfirmationRequest) : Uuid × Uuid :=
  (request.context.tenantId, request.command.requirementId)

/-- The two locking reads of a confirmation see what is committed when they run; its inserts and its
    update go to the store it commits in. -/
def confirmSession (view : Nat → DceStore) (store : DceStore)
    (command : RecordDceRequirementConfirmationCommand) (context : CommandContext) :
    Transaction (DceStore × HandlerOutcome) := do
  raiseIf (context.actorKind = .system) (.failed "DCE_REQUIREMENT_HUMAN_ACTOR_REQUIRED")
  let requirement ← orRaise ((view 0).requirement context.tenantId command.requirementId)
    (.failed "NOT_FOUND_OR_FORBIDDEN")
  let current := (view 1).currentConfirmation context.tenantId requirement.id
  let currentRevision := (current.map (·.revision)).getD 0
  raiseIf (currentRevision ≠ command.expectedConfirmationRevision)
    (.failed "DCE_REQUIREMENT_CONFIRMATION_STALE")
  raiseIf (command.outcome = .notApplicable ∧ context.actorKind = .collaborateur)
    (.failed "DCE_REQUIREMENT_PATRON_REQUIRED")
  let confirmation : DceRequirementConfirmationRecord := {
    id := command.confirmationId, tenantId := context.tenantId, requirementId := requirement.id,
    revision := currentRevision + 1, previousConfirmationId := current.map (·.confirmationId),
    outcome := command.outcome, reasonCode := command.reasonCode,
    confirmedByActorId := context.actorId }
  let confirmations ← flush (store.confirmations.insert? confirmation)
  let currentConfirmations ← match current with
    | none => flush (store.currentConfirmations.insert? {
        requirementId := requirement.id, tenantId := context.tenantId,
        confirmationId := confirmation.id, revision := confirmation.revision,
        outcome := confirmation.outcome })
    | some current => pure (store.currentConfirmations.update
        (fun row => row.requirementId = current.requirementId) (succeeded confirmation)
        (succeeded_columns confirmation))
  return ({ store with confirmations, currentConfirmations }, {
    resultCode := "DCE_REQUIREMENT_CONFIRMED"
    aggregateRefs := [{
      aggregateType := "DCE_REQUIREMENT_CONFIRMATION", aggregateId := confirmation.id.str,
      aggregateRevision := confirmation.revision }]
    events := [{
      aggregateType := "DCE_REQUIREMENT_CONFIRMATION", aggregateId := confirmation.id,
      aggregateRevision := confirmation.revision, eventType := "DCE_REQUIREMENT_CONFIRMED",
      payload := [("confirmation_id", .str confirmation.id.str),
        ("requirement_id", .str requirement.id.str), ("outcome", .str confirmation.outcome.value),
        ("reason_code", .str confirmation.reasonCode.value),
        ("revision", .int confirmation.revision)] }] })

/-- Alone, a confirmation is its handler. -/
theorem confirmSession_alone (store : DceStore) (command : RecordDceRequirementConfirmationCommand)
    (context : CommandContext) :
    confirmSession (fun _ => store) store command context = recordDceRequirementConfirmation store command context := rfl

def finishConfirmation (session : Session DceStore ConfirmationRequest) (store : DceStore) : Transaction DceStore :=
  (confirmSession (session.view store) store session.command.command session.command.context).map Prod.fst

/-- The writes of the DCE module that run beside the confirmations. -/
def otherWrite (store : DceStore) : DceWrite → Transaction DceStore
  | .confirm _ _ => .error (.failed "DCE_REQUIREMENT_CONFIRMATION_STALE")
  | write => store.write write

/-- Confirmations interleaved statement by statement, among the other writes of the module; a statement
    that waits for a row is submitted again. -/
def confirmStep (state : Sessions DceStore ConfirmationRequest) (input : LockInput DceWrite ConfirmationRequest) :
    Transaction (Sessions DceStore ConfirmationRequest) :=
  state.lockStep ConfirmationRequest.row (.failed "LOCK_WAIT") otherWrite finishConfirmation input

/-- What a transaction that holds a requirement saw of it. -/
structure Unmoved (request : ConfirmationRequest) (before after : DceStore) : Prop where
  requirement : ∀ requirement,
    before.requirement request.context.tenantId request.command.requirementId = some requirement →
      after.requirement request.context.tenantId request.command.requirementId = some requirement
  current : after.currentConfirmation request.context.tenantId request.command.requirementId =
    before.currentConfirmation request.context.tenantId request.command.requirementId

theorem Unmoved.refl (request : ConfirmationRequest) (store : DceStore) : Unmoved request store store :=
  ⟨fun _ found => found, rfl⟩

theorem Unmoved.trans {request : ConfirmationRequest} {first second third : DceStore}
    (one : Unmoved request first second) (other : Unmoved request second third) : Unmoved request first third where
  requirement requirement found := other.requirement requirement (one.requirement requirement found)
  current := other.current.trans one.current

variable {store next : DceStore} {request : ConfirmationRequest}

theorem requirement_id {tenantId requirementId : Uuid} {requirement : DceRequirementRecord}
    (found : store.requirement tenantId requirementId = some requirement) :
    requirement.tenantId = tenantId ∧ requirement.id = requirementId := by
  have query := Table.find?_query found
  simpa only [decide_eq_true_eq] using query

theorem currentConfirmation_key {tenantId requirementId : Uuid} {current : DceRequirementConfirmationCurrentRecord}
    (found : store.currentConfirmation tenantId requirementId = some current) :
    current.tenantId = tenantId ∧ current.requirementId = requirementId := by
  have query := Table.find?_query found
  simpa only [decide_eq_true_eq] using query

/-- A requirement whose row stays locked is confirmed as if its transaction ran alone. -/
theorem confirmSession_serial {view : Nat → DceStore} {command : RecordDceRequirementConfirmationCommand}
    {context : CommandContext} {result : DceStore × HandlerOutcome}
    (accepted : confirmSession view store command context = .ok result)
    (locked : Unmoved ⟨command, context⟩ (view 0) store) (read : Unmoved ⟨command, context⟩ (view 1) store) :
    recordDceRequirementConfirmation store command context = .ok result := by
  rw [← confirmSession_alone]
  simp only [confirmSession, bind_ok, raiseIf_ok, exists_unit, orRaise_ok] at accepted ⊢
  obtain ⟨human, requirement, found, rest⟩ := accepted
  have same : store.currentConfirmation context.tenantId requirement.id =
      (view 1).currentConfirmation context.tenantId requirement.id := by
    rw [(requirement_id found).2]
    exact read.current
  rw [← same] at rest
  exact ⟨human, requirement, locked.requirement requirement found, rest⟩

end Confirmations

section Chain

open SmartAo.Foundation SmartAo.Platform

/-- The confirmation records of a requirement, in the order they were committed. -/
def chainOf (store : DceStore) (tenantId requirementId : Uuid) : List DceRequirementConfirmationRecord :=
  store.confirmations.rows.filter fun record => record.tenantId = tenantId ∧ record.requirementId = requirementId

def currentRows (store : DceStore) (tenantId requirementId : Uuid) : List DceRequirementConfirmationCurrentRecord :=
  store.currentConfirmations.rows.filter fun row => row.tenantId = tenantId ∧ row.requirementId = requirementId

def currentOf (record : DceRequirementConfirmationRecord) : DceRequirementConfirmationCurrentRecord where
  requirementId := record.requirementId
  tenantId := record.tenantId
  confirmationId := record.id
  revision := record.revision
  outcome := record.outcome

/-- One linear chain of consecutive revisions, whose last record the single current row names. -/
structure Chained (store : DceStore) (tenantId requirementId : Uuid) : Prop where
  revisions : (chainOf store tenantId requirementId).map (·.revision) =
    List.range' 1 (chainOf store tenantId requirementId).length
  linked : Linked (·.previousConfirmationId) (·.id) none (chainOf store tenantId requirementId)
  current : currentRows store tenantId requirementId =
    ((chainOf store tenantId requirementId).getLast?.map currentOf).toList

def AllChained (store : DceStore) : Prop := ∀ tenantId requirementId, Chained store tenantId requirementId

/-- What a confirmation commits. -/
structure Confirms (store next : DceStore) (command : RecordDceRequirementConfirmationCommand)
    (context : CommandContext) (record : DceRequirementConfirmationRecord) : Prop where
  requirement : record.tenantId = context.tenantId ∧ record.requirementId = command.requirementId
  outcome : record.outcome = command.outcome
  expected : ((store.currentConfirmation context.tenantId command.requirementId).map (·.revision)).getD 0 =
    command.expectedConfirmationRevision
  patron : ¬ (record.outcome = .notApplicable ∧ context.actorKind = .collaborateur)
  revision : record.revision = command.expectedConfirmationRevision + 1
  previous : record.previousConfirmationId =
    (store.currentConfirmation context.tenantId command.requirementId).map (·.confirmationId)
  records : next.confirmations.rows = store.confirmations.rows ++ [record]
  current : currentRows next context.tenantId command.requirementId = [currentOf record]
  others : ∀ tenantId requirementId, (tenantId, requirementId) ≠ (context.tenantId, command.requirementId) →
    currentRows next tenantId requirementId = currentRows store tenantId requirementId
  requirements : next.requirements = store.requirements

variable {store next : DceStore} {command : RecordDceRequirementConfirmationCommand} {context : CommandContext}
  {record : DceRequirementConfirmationRecord} {tenantId requirementId : Uuid}

theorem currentConfirmation_eq_head? :
    store.currentConfirmation tenantId requirementId = (currentRows store tenantId requirementId).head? :=
  (List.head?_filter ..).symm

/-- A requirement has one current row at most. -/
theorem currentRows_of_current {current : DceRequirementConfirmationCurrentRecord}
    (found : store.currentConfirmation tenantId requirementId = some current) :
    currentRows store tenantId requirementId = [current] := by
  have query := Table.find?_query found
  refine Table.filter_key ?_ (Table.find?_mem found) query
  intro first second hf hs
  simp only [decide_eq_true_eq] at hf hs
  exact hf.2.trans hs.2.symm

theorem currentRows_eq_nil (absent : store.currentConfirmation tenantId requirementId = none) :
    currentRows store tenantId requirementId = [] :=
  List.head?_eq_none_iff.mp (currentConfirmation_eq_head?.symm.trans absent)

theorem chainOf_append {more : List DceRequirementConfirmationRecord}
    (grown : next.confirmations.rows = store.confirmations.rows ++ more) :
    chainOf next tenantId requirementId = chainOf store tenantId requirementId ++
      more.filter fun record => record.tenantId = tenantId ∧ record.requirementId = requirementId := by
  rw [chainOf, grown, List.filter_append]
  rfl

theorem currentRows_succeeded (confirmation : DceRequirementConfirmationRecord)
    (current : DceRequirementConfirmationCurrentRecord) (confirmations : Table DceRequirementConfirmationRecord) :
    currentRows { store with
        confirmations
        currentConfirmations := store.currentConfirmations.update
          (fun row => row.requirementId = current.requirementId) (succeeded confirmation)
          (succeeded_columns confirmation) } tenantId requirementId =
      (currentRows store tenantId requirementId).map fun row =>
        if row.requirementId = current.requirementId then succeeded confirmation row else row := by
  have changed := @Table.filter_update _ _ store.currentConfirmations
    (fun row => decide (row.requirementId = current.requirementId))
    (fun row => decide (row.tenantId = tenantId ∧ row.requirementId = requirementId)) (succeeded confirmation)
    (succeeded_columns confirmation) fun row => rfl
  simp only [decide_eq_true_eq] at changed
  exact changed

theorem recordDceRequirementConfirmation_confirms {outcome : HandlerOutcome}
    (accepted : recordDceRequirementConfirmation store command context = .ok (next, outcome)) :
    ∃ record, Confirms store next command context record := by
  simp only [recordDceRequirementConfirmation, bind_ok, raiseIf_ok, exists_unit, orRaise_ok, flush,
    Decidable.not_not] at accepted
  obtain ⟨_, requirement, found, expected, patron, confirmations, inserted, accepted⟩ := accepted
  obtain ⟨_, named⟩ := requirement_id found
  rw [named] at expected inserted accepted
  cases before : store.currentConfirmation context.tenantId command.requirementId with
  | none =>
    simp only [before, bind_ok, orRaise_ok, pure_ok, Prod.mk.injEq] at accepted expected inserted
    obtain ⟨currents, written, rfl, _⟩ := accepted
    refine ⟨_, ⟨rfl, rfl⟩, rfl, by rw [before]; exact expected, patron, congrArg (· + 1) expected,
      by rw [before], Table.insert?_rows inserted, ?_, fun tenantId requirementId apart => ?_, rfl⟩
    · have fresh := Table.filter_insert? written fun row =>
        decide (row.tenantId = context.tenantId ∧ row.requirementId = command.requirementId)
      have none : store.currentConfirmations.rows.filter (fun row =>
          decide (row.tenantId = context.tenantId ∧ row.requirementId = command.requirementId)) = [] :=
        currentRows_eq_nil before
      rw [none, decide_eq_true ⟨rfl, rfl⟩] at fresh
      exact fresh
    · have kept := Table.filter_insert? written fun row =>
        decide (row.tenantId = tenantId ∧ row.requirementId = requirementId)
      rw [decide_eq_false fun same => apart (Prod.ext same.1.symm same.2.symm)] at kept
      exact kept.trans (List.append_nil _)
  | some current =>
    obtain ⟨owner, key⟩ := currentConfirmation_key before
    simp only [before, bind_ok, pure_ok, Prod.mk.injEq] at accepted expected inserted
    obtain ⟨currents, rfl, rfl, _⟩ := accepted
    refine ⟨_, ⟨rfl, rfl⟩, rfl, by rw [before]; exact expected, patron, congrArg (· + 1) expected,
      by rw [before], Table.insert?_rows inserted, ?_, fun tenantId requirementId apart => ?_, rfl⟩
    · rw [currentRows_succeeded, currentRows_of_current before, List.map_singleton, if_pos rfl]
      simp only [succeeded, currentOf, owner, key]
    · rw [currentRows_succeeded]
      refine (List.map_congr_left fun row member => ?_).trans (List.map_id _)
      obtain ⟨stored, selected⟩ := List.mem_filter.mp member
      rw [decide_eq_true_eq] at selected
      have outside : ¬ row.requirementId = current.requirementId := by
        intro same
        have single : row = current := Table.eq_of_conflict stored (Table.find?_mem before) same
        rw [single, owner, key] at selected
        exact apart (Prod.ext selected.1.symm selected.2.symm)
      rw [if_neg outside]
      rfl

/-- A confirmation appends one record to the chain of its requirement. -/
theorem Confirms.chain (confirms : Confirms store next command context record) :
    chainOf next context.tenantId command.requirementId =
      chainOf store context.tenantId command.requirementId ++ [record] := by
  rw [chainOf_append confirms.records, List.filter_singleton, decide_eq_true confirms.requirement]
  rfl

theorem Confirms.otherChain (confirms : Confirms store next command context record)
    (apart : (tenantId, requirementId) ≠ (context.tenantId, command.requirementId)) :
    chainOf next tenantId requirementId = chainOf store tenantId requirementId := by
  rw [chainOf_append confirms.records, List.filter_singleton, decide_eq_false]
  · exact List.append_nil _
  · intro same
    rw [← same.1, ← same.2, confirms.requirement.1, confirms.requirement.2] at apart
    exact apart rfl

/-- The current revision of a chained requirement is the length of its chain. -/
theorem Chained.currentRevision (chained : Chained store tenantId requirementId) :
    ((store.currentConfirmation tenantId requirementId).map (·.revision)).getD 0 =
      (chainOf store tenantId requirementId).length := by
  rw [currentConfirmation_eq_head?, chained.current]
  rcases List.eq_nil_or_concat (chainOf store tenantId requirementId) with empty | ⟨records, last, grown⟩
  · rw [empty]
    rfl
  · have revisions := chained.revisions
    rw [grown] at revisions ⊢
    have final := congrArg List.getLast? revisions
    rw [List.concat_eq_append, List.map_append, List.length_append, List.length_singleton, List.range'_concat,
      List.map_singleton, List.getLast?_concat, List.getLast?_concat, Option.some.injEq] at final
    rw [List.concat_eq_append, List.getLast?_concat, List.length_append, List.length_singleton]
    show last.revision = _
    omega

theorem Chained.confirm (chained : Chained store context.tenantId command.requirementId)
    (confirms : Confirms store next command context record) :
    Chained next context.tenantId command.requirementId where
  revisions := by
    have length := chained.currentRevision.symm.trans confirms.expected
    rw [confirms.chain, List.map_append, List.length_append, List.length_singleton, List.range'_concat,
      chained.revisions, List.map_singleton, confirms.revision, ← length]
    simp [Nat.add_comm]
  linked := by
    rw [confirms.chain]
    refine linked_concat.mpr ⟨chained.linked, ?_⟩
    rw [confirms.previous, currentConfirmation_eq_head?, chained.current]
    rcases List.eq_nil_or_concat (chainOf store context.tenantId command.requirementId) with
      empty | ⟨records, last, grown⟩
    · rw [empty]
      rfl
    · rw [grown, List.concat_eq_append, List.getLast?_concat, replay_concat]
      rfl
  current := by
    rw [confirms.chain, List.getLast?_concat, confirms.current]
    rfl

theorem Chained.of_same (chained : Chained store tenantId requirementId)
    (records : chainOf next tenantId requirementId = chainOf store tenantId requirementId)
    (current : currentRows next tenantId requirementId = currentRows store tenantId requirementId) :
    Chained next tenantId requirementId where
  revisions := by rw [records]; exact chained.revisions
  linked := by rw [records]; exact chained.linked
  current := by rw [records, current]; exact chained.current

/-- Every requirement keeps its chain when one of them is confirmed. -/
theorem Confirms.chained (confirms : Confirms store next command context record)
    (chained : AllChained store) : AllChained next := by
  intro tenantId requirementId
  by_cases same : (tenantId, requirementId) = (context.tenantId, command.requirementId)
  · obtain ⟨rfl, rfl⟩ := Prod.mk.inj same
    exact (chained _ _).confirm confirms
  · exact (chained _ _).of_same (confirms.otherChain same) (confirms.others _ _ same)

/-- What a confirmation commits leaves what the holders of other requirements saw. -/
theorem Confirms.unmoved (confirms : Confirms store next command context record) {other : ConfirmationRequest}
    (apart : other.row ≠ (context.tenantId, command.requirementId)) : Unmoved other store next where
  requirement requirement found := by
    rw [DceStore.requirement, confirms.requirements]
    exact found
  current := by
    rw [currentConfirmation_eq_head?, currentConfirmation_eq_head?, confirms.others _ _ apart]

theorem finishConfirmation_confirms {session : Session DceStore ConfirmationRequest}
    (kept : ∀ old ∈ session.seen, Unmoved session.command old store)
    (accepted : finishConfirmation session store = .ok next) :
    ∃ record, Confirms store next session.command.command session.command.context record := by
  have unmoved : ∀ statement, Unmoved session.command (session.view store statement) store := by
    intro statement
    rcases List.mem_append.mp (session.view_mem store statement) with seen | now
    · exact kept _ seen
    · rw [List.mem_singleton.mp now]
      exact .refl _ _
  obtain ⟨outcome, confirmed⟩ := map_fst_ok.mp accepted
  exact recordDceRequirementConfirmation_confirms (confirmSession_serial confirmed (unmoved 0) (unmoved 1))

/-- The other writes leave the confirmations, and the requirements that exist. -/
theorem otherWrite_keeps {write : DceWrite} (accepted : otherWrite store write = .ok next) :
    next.confirmations = store.confirmations ∧ next.currentConfirmations = store.currentConfirmations ∧
      ∀ request, Unmoved request store next := by
  cases write with
  | register id tenantId consultationId corpusHash =>
    simp only [otherWrite, DceStore.write, bind_ok, pure_ok] at accepted
    obtain ⟨versions, _, rfl⟩ := accepted
    exact ⟨rfl, rfl, fun request => ⟨fun _ found => found, rfl⟩⟩
  | updateVersion tenantId versionId expectedRevision changes =>
    simp only [otherWrite, DceStore.write, bind_ok, pure_ok] at accepted
    obtain ⟨versions, _, rfl⟩ := accepted
    exact ⟨rfl, rfl, fun request => ⟨fun _ found => found, rfl⟩⟩
  | materialize requirements =>
    simp only [otherWrite, DceStore.write, bind_ok, flush, orRaise_ok, pure_ok] at accepted
    obtain ⟨inserted, written, rfl⟩ := accepted
    refine ⟨rfl, rfl, fun request => ⟨fun requirement found => ?_, rfl⟩⟩
    have rows := Table.insertAll?_rows written
    rw [DceStore.requirement, Table.find?] at found ⊢
    dsimp only
    rw [rows, List.find?_append, found]
    rfl
  | confirm command context => cases accepted

theorem allChained_empty : AllChained .empty := fun _ _ => ⟨rfl, True.intro, rfl⟩

/-- The store of a run, and the transactions open after it. -/
def confirmRun (inputs : List (LockInput DceWrite ConfirmationRequest)) : Sessions DceStore ConfirmationRequest :=
  run confirmStep ⟨.empty, []⟩ inputs

theorem confirmRun_sound (inputs : List (LockInput DceWrite ConfirmationRequest)) :
    AllChained (confirmRun inputs).store ∧ (confirmRun inputs).Locked ConfirmationRequest.row Unmoved := by
  refine Sessions.lock_invariant Unmoved.refl Unmoved.trans ?_ ?_ inputs allChained_empty
    (Sessions.locked_empty _ _ _)
  · intro store write later chained written
    obtain ⟨records, current, unmoved⟩ := otherWrite_keeps written
    refine ⟨fun tenantId requirementId => (chained tenantId requirementId).of_same ?_ ?_, unmoved⟩
    · rw [chainOf, records, chainOf]
    · rw [currentRows, current, currentRows]
  · intro session store later kept chained accepted
    obtain ⟨record, confirms⟩ := finishConfirmation_confirms kept accepted
    exact ⟨confirms.chained chained, fun other apart => confirms.unmoved apart⟩

/-- A step of a run appends to the confirmation records. -/
theorem confirmStep_appends {state later : Sessions DceStore ConfirmationRequest}
    {input : LockInput DceWrite ConfirmationRequest} (locked : state.Locked ConfirmationRequest.row Unmoved)
    (accepted : confirmStep state input = .ok later) :
    state.store.confirmations.rows <+: later.store.confirmations.rows := by
  cases input with
  | alone write =>
    obtain ⟨store, written, rfl⟩ := except_map_ok.mp accepted
    rw [(otherWrite_keeps written).1]
  | start request =>
    cases accepted
    exact List.prefix_refl _
  | read index =>
    rw [Sessions.lockStep_read accepted]
  | finish index =>
    obtain ⟨session, found, written, _⟩ := Sessions.lockStep_finish accepted
    obtain ⟨record, confirms⟩ := finishConfirmation_confirms (locked.kept session (List.mem_of_getElem? found)) written
    rw [confirms.records]
    exact List.prefix_append _ _
  | rollback index =>
    cases accepted
    exact List.prefix_refl _

/-- What every interleaving of confirmations guarantees. -/
structure ConfirmationHistory (inputs : List (LockInput DceWrite ConfirmationRequest)) : Prop where
  chained : ∀ tenantId requirementId, Chained (confirmRun inputs).store tenantId requirementId
  /-- A transaction that commits named the current revision of the store it commits in. -/
  commits : ∀ index later, confirmStep (confirmRun inputs) (.finish index) = .ok later →
    ∃ session record, (confirmRun inputs).active[index]? = some session ∧
      Confirms (confirmRun inputs).store later.store session.command.command session.command.context record
  immutable : ∀ more, (confirmRun inputs).store.confirmations.rows <+:
    (confirmRun (inputs ++ more)).store.confirmations.rows

theorem confirmation_history (inputs : List (LockInput DceWrite ConfirmationRequest)) : ConfirmationHistory inputs := by
  obtain ⟨chained, locked⟩ := confirmRun_sound inputs
  refine ⟨chained, fun index later accepted => ?_, fun more => ?_⟩
  · obtain ⟨session, found, written, _⟩ := Sessions.lockStep_finish accepted
    obtain ⟨record, confirms⟩ := finishConfirmation_confirms (locked.kept session (List.mem_of_getElem? found)) written
    exact ⟨session, record, found, confirms⟩
  · induction more using List.reverseRecOn with
    | nil =>
      rw [List.append_nil]
    | append_singleton more input ih =>
      refine ih.trans ?_
      have next : confirmRun (inputs ++ (more ++ [input])) = commit confirmStep (confirmRun (inputs ++ more)) input := by
        rw [confirmRun, ← List.append_assoc, run_append, run_cons, run_nil, confirmRun]
      rw [next]
      rcases commit_cases confirmStep (confirmRun (inputs ++ more)) input with accepted | refused
      · exact confirmStep_appends (confirmRun_sound (inputs ++ more)).2 accepted
      · rw [refused]

end Chain

end SmartAo.Dce
