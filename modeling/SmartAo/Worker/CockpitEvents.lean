import SmartAo.Worker.DeliveryEvents
import SmartAo.Worker.Lifecycle

namespace SmartAo.Worker

open SmartAo.Foundation SmartAo.Platform SmartAo.Dce

/-- The types of the events that the handlers outside the staging of objects raise, each for the default topic. -/
def handlerEventTypes : List String := [
  "CASE_CREATED", "CONSULTATION_CREATED", "DCE_DOCUMENT_EXTRACTION_RECORDED", "DCE_DOCUMENT_CLASSIFICATION_RECORDED",
  "DCE_RC_ANALYSIS_RECORDED", "DCE_REQUIREMENTS_MATERIALIZED", "CASE_DCE_IMPACT_RECORDED", "DCE_REQUIREMENT_CONFIRMED",
  "DecisionDraftCreated", "DecisionContextFrozen", "DecisionConditionResolved", "DecisionFinalized",
  "DecisionRiskRegistered", "DecisionRiskTreatmentTransitioned", "DecisionRiskRequirementLinked", "PatronActionCreated",
  "PatronActionTransitioned", "EnterpriseCapabilityCreated", "EnterpriseCapabilityVersionAdded",
  "EnterpriseCompanyCreated", "EnterpriseDocumentRegistered", "EnterpriseDocumentUploadPrepared",
  "EnterpriseDocumentVerified", "AssignmentAcknowledged", "AssignmentClarificationRequested",
  "AssignmentUnavailabilityReported", "CapabilityProposedForCase", "CapabilityGapReported", "InformationRequestCreated",
  "RequestResponseReceived", "TaskBlockerDeclared", "TaskBlockerResolved", "TaskCreatedFromRequirement", "TaskClaimed",
  "TaskResultRecorded", "TaskCompleted", "FinancialReportDraftCreated", "FinancialReportLineAdded",
  "FinancialReportPublished", "CaseAssignmentCreated", "CaseAssignmentScopeAmended", "CaseAssignmentSuspended",
  "CaseAssignmentReactivated", "CaseAssignmentEnded", "AssignmentInteractionValidated",
  "OpportunityWatchProfileCreated", "OpportunityWatchProfileVersionAdded", "PreparationReadinessEvaluated",
  "TechnicalDocumentGenerated", "ControlledDraftGenerated", "PreparationReviewRequested", "PreparationReviewDecided",
  "PreparationCorrectionAdded", "TechnicalResponseDraftCreated", "PreparationSnapshotCreated",
  "PreparationTransmittedToPatron", "PricingImportPreviewed", "PricingImportCommitted", "PricingScenarioCreated",
  "PricingScenarioTransitioned", "SubmissionEvidenceRecorded", "SubmissionPackagePrepared",
  "SubmissionSignatureRequested", "SubmissionSignatureRecorded"]

/-- A command that commits through the dispatcher: one on staged objects, or another one, whose events are arbitrary
    but for their types. -/
inductive CommitsCommand : Table Platform.OutboxMessageRecord → Table Platform.OutboxMessageRecord → Prop where
  | staged {ledger next : Ledger StagingStore} {dispatch : OpenDispatch} {draws : Draws} {request : StagingRequest}
      {view : StagingView} {body : ResponseBody}
      (accepted : complete ledger dispatch draws (request.execute view) = .ok (next, body)) :
      CommitsCommand ledger.outbox next.outbox
  | handled {σ : Type} {ledger next : Ledger σ} {dispatch : OpenDispatch} {draws : Draws}
      {result : Transaction (σ × HandlerOutcome)} {body : ResponseBody}
      (raised : ∀ business outcome, result = .ok (business, outcome) → ∀ event ∈ outcome.events,
        event.eventType ∈ handlerEventTypes)
      (accepted : complete ledger dispatch draws result = .ok (next, body)) :
      CommitsCommand ledger.outbox next.outbox

theorem textOf_some {value : Json} {text : String} : textOf value = some text ↔ value = .str text := by
  cases value <;> simp [textOf]

/-- An event that the decoder of the cockpit refuses whatever its identifiers are. -/
def Undecodable (event : PendingDomainEvent) : Prop :=
  event.eventType ∉ allowedEventTypes ∨ ∀ state ∈ allowedStates, event.payload.lookup "state" ≠ some (.str state)

section Decoder

variable {event : PendingDomainEvent} {eventId tenantId : Uuid}

/-- The decoder of the cockpit reads the type of an event and the state in its data. -/
theorem safeEvent_reads {safe : SafeCockpitEvent}
    (decoded : safeEvent (.obj (eventPayload eventId event)) tenantId = some safe) :
    event.eventType ∈ allowedEventTypes ∧ ∃ state ∈ allowedStates, event.payload.lookup "state" = some (.str state) := by
  simp only [safeEvent, Option.bind_eq_bind, Option.bind_eq_some_iff, Option.guard_eq_some', List.contains_iff_mem] at decoded
  obtain ⟨fields, payload, -, -, -, -, -, -, eventType, ⟨value, named, typed⟩, -, listed, -, -, -, -, -, -, data,
    ⟨object, held, its⟩, -, -, -, -, -, -, state, ⟨found, looked, read⟩, -, known, -⟩ := decoded
  obtain rfl : eventPayload eventId event = fields := Option.some.inj payload
  obtain rfl : Json.str event.eventType = value := Option.some.inj named
  obtain rfl : event.eventType = eventType := Option.some.inj typed
  obtain rfl : Json.obj event.payload = object := Option.some.inj held
  obtain rfl : event.payload = data := Option.some.inj its
  rw [textOf_some.mp read] at looked
  exact ⟨listed, state, known, looked⟩

theorem Undecodable.refused (undecodable : Undecodable event) :
    safeEvent (.obj (eventPayload eventId event)) tenantId = none := by
  cases decoded : safeEvent (.obj (eventPayload eventId event)) tenantId with
  | none => rfl
  | some safe =>
    obtain ⟨typed, state, known, looked⟩ := safeEvent_reads decoded
    rcases undecodable with unlisted | unknown
    · exact absurd typed unlisted
    · exact absurd looked (unknown state known)

theorem handlerEventTypes_refused : ∀ eventType ∈ handlerEventTypes, eventType ∉ allowedEventTypes := by decide

/-- A state whose event is for the cockpit is none that its decoder knows. -/
theorem cockpitState_unknown {state : StagedObjectState} (cockpit : stateTopic state = cockpitTopic) :
    ∀ known ∈ allowedStates, state.value ≠ known := by
  cases state
  case rejected => exact absurd cockpit (by decide)
  all_goals decide

/-- An event of a staged object is undecodable by its type, or by the state that sends it to the cockpit. -/
theorem stagingOutcome_undecodable {code topic : String} {stagedObject : DceStagedObjectRecord}
    {state : Option StagedObjectState}
    (member : event ∈ (stagingOutcome code tenantId stagedObject state topic).events)
    (undecodable : code ∉ allowedEventTypes ∨ ∃ written, state = some written ∧ stateTopic written = cockpitTopic) :
    Undecodable event := by
  obtain rfl := List.mem_singleton.mp member
  rcases undecodable with unlisted | ⟨written, rfl, cockpit⟩
  · exact .inl unlisted
  · refine .inr fun known listed looked => ?_
    have shown : Json.str written.value = .str known := Option.some.inj looked
    exact cockpitState_unknown cockpit known listed (Json.str.inj shown)

/-- An event of a staging command that is for the cockpit is undecodable. -/
theorem staged_undecodable {request : StagingRequest} {view : StagingView} {next : StagingStore}
    {outcome : HandlerOutcome} (accepted : request.execute view = .ok (next, outcome)) (member : event ∈ outcome.events)
    (cockpit : event.topic = cockpitTopic) : Undecodable event := by
  obtain ⟨command, context⟩ := request
  cases command with
  | prepare command =>
    simp only [StagingRequest.execute, prepareDceStaging, bind_ok, raiseIf_ok, exists_unit, orRaise_ok, pure_ok,
      flush, Prod.mk.injEq] at accepted
    obtain ⟨built, -, consultation, -, -, -, rows, -, -, rfl⟩ := accepted
    exact stagingOutcome_undecodable member (.inl (by decide))
  | claim command =>
    simp only [StagingRequest.execute, claimDceStagedObjectUpload, bind_ok, raiseIf_ok, exists_unit, orRaise_ok,
      pure_ok, Prod.mk.injEq] at accepted
    obtain ⟨stagedObject, -, -, -, -, rfl⟩ := accepted
    exact stagingOutcome_undecodable member (.inl (by decide))
  | quarantine command =>
    simp only [StagingRequest.execute, recordDceStagedObjectQuarantine, bind_ok, raiseIf_ok, exists_unit, orRaise_ok,
      pure_ok, Prod.mk.injEq] at accepted
    obtain ⟨built, -, -, stagedObject, -, -, -, rfl⟩ := accepted
    rw [(stagingOutcome_event member).1] at cockpit
    exact stagingOutcome_undecodable member (.inr ⟨_, rfl, cockpit⟩)
  | reject command =>
    simp only [StagingRequest.execute, rejectDceStagedObjectUpload, bind_ok, raiseIf_ok, exists_unit, orRaise_ok,
      pure_ok, Prod.mk.injEq] at accepted
    obtain ⟨-, stagedObject, -, -, -, rfl⟩ := accepted
    exact stagingOutcome_undecodable member (.inl (by decide))
  | expire command =>
    simp only [StagingRequest.execute, expireDceStagedObject, bind_ok, raiseIf_ok, exists_unit, orRaise_ok,
      pure_ok, Prod.mk.injEq] at accepted
    obtain ⟨-, stagedObject, -, -, -, -, rfl⟩ := accepted
    exact stagingOutcome_undecodable member (.inl (by decide))
  | scan command =>
    simp only [StagingRequest.execute, recordDceStagedObjectScan, bind_ok, raiseIf_ok, exists_unit, orRaise_ok,
      pure_ok, Prod.mk.injEq] at accepted
    obtain ⟨built, -, -, stagedObject, -, -, -, rfl⟩ := accepted
    rw [(stagingOutcome_event member).1] at cockpit
    exact stagingOutcome_undecodable member (.inr ⟨_, rfl, cockpit⟩)
  | register command =>
    simp only [StagingRequest.execute, registerDceVersion, bind_ok, raiseIf_ok, exists_unit, orRaise_ok,
      pure_ok, flush, Prod.mk.injEq] at accepted
    obtain ⟨built, -, consultation, -, -, -, -, stagedObjects, -, admitted, -, -, documents, -, version, -, versions, -,
      rows, -, -, rfl⟩ := accepted
    obtain rfl := List.mem_singleton.mp member
    exact .inl (by decide : "DCE_VERSION_REGISTERED" ∉ allowedEventTypes)

end Decoder

/-- Every row that a command commits for the cockpit is refused by its decoder. -/
theorem CommitsCommand.refused {before after : Table Platform.OutboxMessageRecord} (commits : CommitsCommand before after)
    {row : Platform.OutboxMessageRecord} (member : row ∈ after) (added : row ∉ before)
    (cockpit : row.topic = cockpitProjectionTopic) : safeEvent (.obj row.payload) row.tenantId = none := by
  cases commits with
  | staged accepted =>
    rcases completed_row accepted member with old | ⟨_, outcome, executed, event, raised, eventId, messageId, rfl⟩
    · exact absurd old added
    · exact (staged_undecodable executed raised cockpit).refused
  | handled types accepted =>
    rcases completed_row accepted member with old | ⟨_, outcome, executed, event, raised, eventId, messageId, rfl⟩
    · exact absurd old added
    · have typed := types _ outcome executed event raised
      exact Undecodable.refused (.inl (handlerEventTypes_refused event.eventType typed))

/-- What enters the outbox for the cockpit is a row that a command committed. -/
def CommittedRows {ω : Type} (_ : OutboxState ω) : OutboxInput ω → Prop
  | .enqueue id tenantId eventId topic payload _ => topic = cockpitProjectionTopic →
    ∃ before after row, CommitsCommand before after ∧ row ∈ after ∧ row ∉ before ∧ row.topic = topic ∧ row.id = id ∧
      row.tenantId = tenantId ∧ row.eventId = eventId ∧ payload = .obj row.payload
  | _ => True

/-- A message of the cockpit is refused by the decoder, and fails whenever a worker reads it. -/
structure CockpitRefused (message : OutboxMessageRecord) : Prop where
  decoder : safeEvent message.payload message.tenantId = none
  processed : ∀ worker : CockpitProjectionWorker,
    worker.leaseWorker.process message = .settle (.fail "INVALID_COCKPIT_EVENT_PAYLOAD")
  status : message.status = .pending ∨ message.status = .retry ∨ message.status = .failed

theorem refused_of {message : OutboxMessageRecord} (decoder : safeEvent message.payload message.tenantId = none)
    (status : message.status = .pending ∨ message.status = .retry ∨ message.status = .failed) : CockpitRefused message where
  decoder := decoder
  processed worker := by
    have none : (safeEvent message.payload message.tenantId).isNone = true := by rw [decoder]; rfl
    exact if_pos none
  status := status

/-- The cockpit messages are refused, and nothing is delivered. -/
structure Undelivered (state : OutboxState CockpitProjectionWorker) : Prop where
  refused : ∀ message ∈ state.messages, message.topic = cockpitProjectionTopic → CockpitRefused message
  unanswered : ∀ run ∈ state.runs, run.answer = none
  delivered : state.delivered = []

section Steps

variable {state next : OutboxState CockpitProjectionWorker} {message : OutboxMessageRecord}

theorem CockpitRefused.leased (refused : CockpitRefused message) (until_ : Timestamp) : CockpitRefused (leased until_ message) :=
  refused_of refused.decoder (.inr (.inl rfl))

theorem CockpitRefused.failed (refused : CockpitRefused message) (now : Timestamp) (maxAttempts : Nat) (errorCode : String) :
    CockpitRefused ((Settlement.fail errorCode).write now maxAttempts message) := by
  have unpublished : message.status ≠ .published := by
    rcases refused.status with is | is | is <;> simp [is]
  have written : (Settlement.fail errorCode).write now maxAttempts message = message.fail errorCode := if_neg unpublished
  rw [written]
  exact refused_of refused.decoder (.inr (.inr rfl))

theorem Undelivered.step (undelivered : Undelivered state) {input : OutboxInput CockpitProjectionWorker}
    (committed : CommittedRows state input)
    (accepted : outboxStep CockpitProjectionWorker.leaseWorker state input = .ok next) : Undelivered next := by
  cases input with
  | enqueue id tenantId eventId topic payload createdAt =>
    obtain ⟨inserted, runs, delivered⟩ := enqueue_ok accepted
    refine ⟨fun message member cockpit => ?_, ?_, ?_⟩
    · rcases (Table.mem_insert? inserted).mp member with old | rfl
      · exact undelivered.refused message old cockpit
      · obtain ⟨before, after, row, commits, present, added, topical, -, tenant, -, rfl⟩ := committed cockpit
        have refused := commits.refused present added (topical.trans cockpit)
        rw [tenant] at refused
        exact refused_of refused (.inl rfl)
    · rw [runs]
      exact undelivered.unanswered
    · rw [delivered]
      exact undelivered.delivered
  | claim worker now held =>
    obtain ⟨messages, runs, delivered⟩ := claim_ok accepted
    refine ⟨fun message member cockpit => ?_, fun run member => ?_, ?_⟩
    · rw [messages] at member
      rcases Table.mem_update_cases member with ⟨old, _⟩ | ⟨old, stored, _, rfl⟩
      · exact undelivered.refused message old cockpit
      · exact (undelivered.refused old stored cockpit).leased _
    · rw [runs, List.mem_append, List.mem_singleton] at member
      rcases member with old | rfl
      · exact undelivered.unanswered run old
      · rfl
    · rw [delivered]
      exact undelivered.delivered
  | deliver index answer =>
    obtain ⟨current, id, message, -, -, -, stored, -, topical, processed, -⟩ := deliver_ok accepted
    have refused := undelivered.refused message stored (List.mem_singleton.mp topical)
    rw [refused.processed] at processed
    cases processed
  | settle index =>
    obtain ⟨current, id, found, -, runs, delivered, written⟩ := settle_ok accepted
    have unanswered := undelivered.unanswered current (List.mem_of_getElem? found)
    refine ⟨fun message member cockpit => ?_, fun run member => ?_, ?_⟩
    · rcases written with ⟨same, -⟩ | ⟨settled, settlement, stored, named, decided, messages⟩
      · rw [same] at member
        exact undelivered.refused message member cockpit
      · rw [messages] at member
        rcases Table.mem_update_cases member with ⟨old, _⟩ | ⟨old, present, its, rfl⟩
        · exact undelivered.refused message old cockpit
        · obtain rfl : old = settled :=
            Table.eq_of_conflict present stored (.inl ((of_decide_eq_true its).trans named.symm))
          have topical : old.topic = cockpitProjectionTopic := (write_topic ..).2.symm.trans cockpit
          have refused := undelivered.refused old stored topical
          rw [unanswered] at decided
          have fails : settlement = .fail "INVALID_COCKPIT_EVENT_PAYLOAD" :=
            (Processing.settle.inj ((refused.processed current.worker).symm.trans decided)).symm
          rw [fails]
          exact refused.failed ..
    · rw [runs] at member
      rcases mem_set_cases found member with rfl | other
      · rfl
      · exact undelivered.unanswered run (List.mem_of_mem_eraseIdx other)
    · rw [delivered]
      exact undelivered.delivered
  | abort index =>
    obtain ⟨current, found, rfl⟩ := abort_ok accepted
    refine ⟨undelivered.refused, fun run member => ?_, undelivered.delivered⟩
    rcases mem_set_cases found member with rfl | other
    · rfl
    · exact undelivered.unanswered run (List.mem_of_mem_eraseIdx other)

end Steps

/-- Whatever commands commit and whichever workers run, no row of the cockpit is accepted by its decoder: each waits,
    or has failed, and nothing is ever delivered. -/
theorem cockpit_rows_refused (inputs : List (OutboxInput CockpitProjectionWorker))
    (committed : Along (outboxStep CockpitProjectionWorker.leaseWorker) CommittedRows OutboxState.initial inputs) :
    Undelivered (run (outboxStep CockpitProjectionWorker.leaseWorker) OutboxState.initial inputs) := by
  have kept : ∀ (state : OutboxState CockpitProjectionWorker) input next, Undelivered state → CommittedRows state input →
      outboxStep CockpitProjectionWorker.leaseWorker state input = .ok next → Undelivered next :=
    fun _ _ _ undelivered committed accepted => undelivered.step committed accepted
  have initial : Undelivered OutboxState.initial :=
    ⟨fun _ member => absurd member Table.not_mem_empty, fun _ member => absurd member List.not_mem_nil, rfl⟩
  exact run_invariant kept initial committed

section First

variable {request : StagingRequest} {view : StagingView} {written : StagingStore} {outcome : HandlerOutcome}
  {event : PendingDomainEvent}

theorem insert_empty {ρ : Type} [Schema ρ] (row : ρ) : ∃ next, Table.empty.insert? row = some next ∧ row ∈ next := by
  obtain ⟨next, inserted⟩ := Option.isSome_iff_exists.mp
    (Table.insert?_isSome.mpr fun stored (member : stored ∈ (Table.empty : Table ρ)) => absurd member Table.not_mem_empty)
  exact ⟨next, inserted, (Table.mem_insert? inserted).mpr (.inr rfl)⟩

/-- The first command of the program commits the row of its event. -/
theorem first_commits (dispatch : OpenDispatch) (draws : Draws) (accepted : request.execute view = .ok (written, outcome))
    (only : outcome.events = [event]) : ∃ after, CommitsCommand .empty after ∧
      outboxMessage dispatch (draws.event 0) (draws.message 0) event ∈ after := by
  obtain ⟨events, recorded, -⟩ := insert_empty (eventRecord dispatch (draws.event 0) event)
  obtain ⟨outbox, sent, member⟩ := insert_empty (outboxMessage dispatch (draws.event 0) (draws.message 0) event)
  obtain ⟨receipts, received, -⟩ := insert_empty (dispatch.completed (response dispatch outcome draws))
  have completed : complete (Ledger.initial view.store) dispatch draws (request.execute view) =
      .ok (⟨receipts, events, outbox, written⟩, response dispatch outcome draws) := by
    rw [complete, bind_of_ok accepted]
    simp only [only, List.mapIdx_cons, List.mapIdx_nil, Table.insertAll?, Ledger.initial, recorded, sent, received, flush,
      Option.bind_some, orRaise_some]
    rfl
  exact ⟨outbox, .staged completed, member⟩

end First

/-- An upload of ten bytes. -/
def uploadingObject : DceStagedObjectRecord where
  id := 2
  tenantId := 3
  consultationId := 4
  storageKey := "dce-staging/3/2"
  expectedByteSize := 10
  actualByteSize := none
  sha256 := none
  mediaType := none
  state := .uploading
  scanVerdict := none
  rejectionCode := none
  expiresAt := 100
  consumedByDceVersionId := none

def uploadingView : StagingView := .of ⟨.empty, .empty, .empty, .singleton uploadingObject⟩

def quarantineCommand : RecordDceStagedObjectQuarantineCommand :=
  ⟨⟨⟨7, 7, none⟩, 2⟩, 10, "e3b0c44298fc1c149afbf4c8996fb92427ae41e4649b934ca495991b7852b855", "application/pdf", true⟩

def stagingSystem : CommandContext := ⟨3, 6, .system, 50, none, none⟩

theorem quarantine_executes : ∃ written, (StagingRequest.mk (.quarantine quarantineCommand) stagingSystem).execute
    uploadingView = .ok (written, stagingOutcome "DCE_STAGING_QUARANTINE_RECORDED" 3 uploadingObject (some .quarantined)
      cockpitTopic) := by
  have hex : ¬ isSha256 quarantineCommand.sha256 = false := by decide +kernel
  have stream : checkStream quarantineCommand.actualByteSize quarantineCommand.sha256 quarantineCommand.mediaType =
      .ok () := by
    rw [checkStream, bind_of_ok (raiseIf_pass (by decide)), bind_of_ok (raiseIf_pass hex)]
    exact raiseIf_pass (by decide)
  have built : quarantineCommand.build.toOption = some quarantineCommand := by
    rw [RecordDceStagedObjectQuarantineCommand.build, bind_of_ok stream]
    rfl
  have found : uploadingView.locked.stagedObject stagingSystem.tenantId quarantineCommand.storageObjectId =
      some uploadingObject := by decide +kernel
  have executed : (StagingRequest.mk (.quarantine quarantineCommand) stagingSystem).execute uploadingView =
      recordDceStagedObjectQuarantine uploadingView quarantineCommand stagingSystem :=
    bind_of_ok (orRaise_ok.mpr built)
  rw [executed, recordDceStagedObjectQuarantine, bind_of_ok (raiseIf_pass (by decide)),
    bind_of_ok (orRaise_ok.mpr found), bind_of_ok (raiseIf_pass (by decide))]
  exact ⟨_, rfl⟩

def quarantineDispatch : OpenDispatch := ⟨⟨⟨7, 7, none⟩, "RecordDceStagedObjectQuarantine", []⟩, stagingSystem, 8⟩

def quarantineDraws : Draws := ⟨fun _ => 9, fun _ => 10⟩

/-- The event of an object that was quarantined. -/
def quarantinedEvent : PendingDomainEvent where
  aggregateType := "DCE_STAGED_OBJECT"
  aggregateId := 2
  aggregateRevision := 0
  eventType := "DCE_STAGING_QUARANTINE_RECORDED"
  payload := [("storage_object_id", .str (2 : Uuid).str), ("tenant_id", .str (3 : Uuid).str),
    ("consultation_id", .str (4 : Uuid).str), ("state", .str "QUARANTINED")]
  topic := cockpitTopic

/-- The row of the quarantined object, as the dispatcher commits it. -/
def quarantinedRow : Platform.OutboxMessageRecord := outboxMessage quarantineDispatch 9 10 quarantinedEvent

theorem quarantine_commits : ∃ after, CommitsCommand .empty after ∧ quarantinedRow ∈ after := by
  obtain ⟨written, executed⟩ := quarantine_executes
  exact first_commits quarantineDispatch quarantineDraws executed rfl

def quarantinedInputs : List (OutboxInput CockpitProjectionWorker) :=
  [.enqueue 10 3 9 cockpitProjectionTopic (.obj quarantinedRow.payload) 0, .claim (cockpitWorker true) 0 [], .settle 0]

theorem quarantinedInputs_committed :
    Along (outboxStep CockpitProjectionWorker.leaseWorker) CommittedRows OutboxState.initial quarantinedInputs := by
  obtain ⟨after, commits, member⟩ := quarantine_commits
  refine ⟨fun _ => ⟨.empty, after, quarantinedRow, commits, member, Table.not_mem_empty, rfl, rfl, rfl, rfl, rfl⟩, ?_⟩
  exact ⟨trivial, trivial, trivial⟩

theorem quarantinedInputs_undelivered :
    Undelivered (run (outboxStep CockpitProjectionWorker.leaseWorker) OutboxState.initial quarantinedInputs) :=
  cockpit_rows_refused quarantinedInputs quarantinedInputs_committed

/-- The row of an object that was quarantined is refused, though its handler committed it for the cockpit. -/
theorem quarantined_row_refused : ¬ ∀ (before after : Table Platform.OutboxMessageRecord), CommitsCommand before after →
    ∀ row ∈ after, row ∉ before → row.topic = cockpitProjectionTopic →
      (safeEvent (.obj row.payload) row.tenantId).isSome = true := by
  intro always
  obtain ⟨after, commits, member⟩ := quarantine_commits
  have accepted := always .empty after commits quarantinedRow member Table.not_mem_empty rfl
  rw [commits.refused member Table.not_mem_empty rfl] at accepted
  cases accepted

end SmartAo.Worker
