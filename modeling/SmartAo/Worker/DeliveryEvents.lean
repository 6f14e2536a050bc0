import SmartAo.Dce.StagingHistory
import SmartAo.Opportunity.Observations
import SmartAo.Opportunity.Qualification
import SmartAo.SubmissionPackage.ExportIntegrity
import SmartAo.Worker.Decoders

namespace SmartAo.Worker

open SmartAo.Foundation SmartAo.Platform SmartAo.Dce SmartAo.Opportunity SmartAo.Submission SmartAo.SubmissionPackage

/-- A command whose messages leave the application, with the digests it computes. -/
inductive DeliveryCommand where
  | export (call : ExportCall) (archiveSha256 : String)
  | staging (request : StagingRequest)
  | ingestion (call : IngestionCall) (requestHash : String)
  | qualification (call : QualificationCall)

/-- The identifiers and hashes that a command emits for the decoders of its topics. -/
def DeliveryCommand.emitted : DeliveryCommand → List Notice
  | .export call archiveSha256 => [.webhook call.submissionPackageId.str archiveSha256, .email call.submissionPackageId]
  | .staging request => request.rows.map fun row => .retention row.2 row.1
  | .ingestion call requestHash => [.ingestion call.runId.str call.candidates.length requestHash]
  | .qualification call => [.qualification call.qualificationId.str call.command.observationId.str
      call.command.decision.value call.command.reasonCode.value]

/-- A command that commits takes the outbox from one table to the next. -/
inductive CommitsDelivery : DeliveryCommand → Table Platform.OutboxMessageRecord →
    Table Platform.OutboxMessageRecord → Prop where
  | exported {reader : Option SubmissionDecisionGateReader} {zip : List (String × List UInt8) → List UInt8}
      {storage : Option SubmissionPackage.StorageRead} {store next : SubmissionStore} {call : ExportCall}
      {archive : ExportArchive}
      (accepted : exportPackage reader zip storage store call = .ok (next, archive)) :
      CommitsDelivery (.export call (hexdigestBytes archive.bytes)) store.outbox next.outbox
  | staged {ledger next : Ledger StagingStore} {dispatch : OpenDispatch} {draws : Draws} {request : StagingRequest}
      {view : StagingView} {body : ResponseBody} (context : dispatch.context = request.context)
      (accepted : complete ledger dispatch draws (request.execute view) = .ok (next, body)) :
      CommitsDelivery (.staging request) ledger.outbox next.outbox
  | ingested {tables : CaseTables} {store next : ObservationStore} {call : IngestionCall}
      {result : BoampPersistenceResult} (accepted : persist tables store call = .ok (next, result)) :
      CommitsDelivery (.ingestion call (call.requestHash tables)) store.outbox next.outbox
  | qualified {store next : QualificationStore} {call : QualificationCall} {result : QualificationPersistenceResult}
      (accepted : qualify store call = .ok (next, result)) :
      CommitsDelivery (.qualification call) store.outbox next.outbox

/-- Where a message has the topic and the payload of a row, its worker does not fail it as malformed. -/
def NotMalformed (topic : String) (payload : Json) : Prop :=
  ∀ (worker : DeliveryWorker) (message : OutboxMessageRecord), topic ∈ worker.leaseWorker.topics →
    message.topic = topic → message.payload = payload → ∀ code ∈ malformedCodes,
      worker.leaseWorker.process message ≠ .settle (.retry code)

theorem uuidOf_str (id : Uuid) : uuidOf (.str id.str) = some id := by
  rw [uuidOf, textOf, Option.bind_some, Uuid.str, String.toList_ofList, Uuid.ofText?_chars]

theorem guard_length {text : String} (length : text.length = 64) :
    (guard (text.length == 64) : Option Unit) = some () := by
  rw [length]
  rfl

theorem length_hexdigest (text : List Char) : (hexdigest text).length = 64 := by
  rw [hexdigest, String.length_ofList, hexDigits_length]

theorem length_hexdigestBytes (bytes : List UInt8) : (hexdigestBytes bytes).length = 64 := by
  rw [hexdigestBytes, String.length_ofList, hexDigits_length]

theorem safeExportPayload_of {package manifest archive : String} (length : archive.length = 64) :
    safeExportPayload (.obj [("submission_package_id", .str package), ("manifest_sha256", .str manifest),
      ("archive_sha256", .str archive), ("delivery", .str "DOWNLOAD")]) = some [("submission_package_id", .str package),
        ("archive_sha256", .str archive), ("delivery", .str "DOWNLOAD")] := by
  have reads : safeExportPayload (.obj [("submission_package_id", .str package), ("manifest_sha256", .str manifest),
      ("archive_sha256", .str archive), ("delivery", .str "DOWNLOAD")]) =
        (guard (archive.length == 64) : Option Unit).bind fun _ => some [("submission_package_id", .str package),
          ("archive_sha256", .str archive), ("delivery", .str "DOWNLOAD")] := rfl
  rw [reads, guard_length length, Option.bind_some]

theorem webhookNotice_of {package manifest archive : String} (length : archive.length = 64) :
    webhookNotice (.obj [("submission_package_id", .str package), ("manifest_sha256", .str manifest),
      ("archive_sha256", .str archive), ("delivery", .str "DOWNLOAD")]) = some (.webhook package archive) := by
  rw [webhookNotice, safeExportPayload_of length]
  rfl

theorem safePackageId_of (package : String) :
    safePackageId (.obj [("submission_package_id", .str package), ("delivery", .str "EXPORT_READY")]) =
      uuidOf (.str package) := by
  have exactly : hasExactly [("submission_package_id", .str package), ("delivery", .str "EXPORT_READY")]
      ["submission_package_id", "delivery"] = true := rfl
  have named : [("submission_package_id", Json.str package), ("delivery", .str "EXPORT_READY")].lookup
      "submission_package_id" = some (.str package) := rfl
  have delivered : [("submission_package_id", Json.str package), ("delivery", .str "EXPORT_READY")].lookup
      "delivery" = some (.str "EXPORT_READY") := rfl
  simp [safePackageId, fieldsOf, exactly, named, delivered, textOf]

theorem uuidPayload_str {fields : List (String × Json)} {key : String} {id : Uuid}
    (found : fields.lookup key = some (.str id.str)) : uuidPayload (.obj fields) key = some id := by
  have reads : uuidPayload (.obj fields) key = (fields.lookup key).bind fun value =>
      (valueChars value).bind Uuid.ofText? := rfl
  rw [reads, found, Option.bind_some, valueChars, Option.bind_some, Uuid.str, String.toList_ofList,
    Uuid.ofText?_chars]

theorem retentionTarget_event {eventId : Uuid} {event : PendingDomainEvent} {storageObjectId tenantId : Uuid}
    (object : event.payload.lookup "storage_object_id" = some (.str storageObjectId.str))
    (tenant : event.payload.lookup "tenant_id" = some (.str tenantId.str)) :
    retentionTarget (.obj (eventPayload eventId event)) = some (storageObjectId, tenantId) := by
  have reads : retentionTarget (.obj (eventPayload eventId event)) =
      (uuidPayload (.obj event.payload) "storage_object_id").bind fun storageObjectId =>
        (uuidPayload (.obj event.payload) "tenant_id").bind fun tenantId => some (storageObjectId, tenantId) := rfl
  rw [reads, uuidPayload_str object, uuidPayload_str tenant]
  rfl

theorem ingestionNotice_of {runId requestHash : String} (count : Int) (length : requestHash.length = 64) :
    ingestionNotice (.obj [("ingestion_run_id", .str runId), ("observation_count", .int count),
      ("request_hash", .str requestHash)]) = some (.ingestion runId count requestHash) := by
  have safe : safeBoampPayload boampIngestionTopic (.obj [("ingestion_run_id", .str runId),
      ("observation_count", .int count), ("request_hash", .str requestHash)]) =
        (guard (requestHash.length == 64) : Option Unit).bind fun _ => some [("ingestion_run_id", .str runId),
          ("observation_count", .int count), ("request_hash", .str requestHash)] := rfl
  rw [ingestionNotice, safe, guard_length length]
  rfl

theorem qualificationNotice_of (qualificationId observationId reason : String) (decision : QualificationDecision) :
    qualificationNotice (.obj [("qualification_id", .str qualificationId), ("observation_id", .str observationId),
      ("decision", .str decision.value), ("reason_code", .str reason)]) =
        some (.qualification qualificationId observationId decision.value reason) := by
  cases decision <;> rfl

theorem decodeNotice_export (payload : Json) : decodeNotice exportedTopic payload = webhookNotice payload :=
  if_pos rfl

theorem decodeNotice_email (payload : Json) :
    decodeNotice submissionExportEmailTopic payload = (safePackageId payload).map .email := by
  rw [decodeNotice, if_neg (by decide), if_pos rfl]

theorem decodeNotice_retention (payload : Json) :
    decodeNotice retentionTopic payload =
      (retentionTarget payload).map fun target => .retention target.1 target.2 := by
  rw [decodeNotice, if_neg (by decide), if_neg (by decide), if_pos rfl]

theorem decodeNotice_ingestion (payload : Json) :
    decodeNotice boampIngestionTopic payload = ingestionNotice payload := by
  rw [decodeNotice, if_neg (by decide), if_neg (by decide), if_neg (by decide), if_pos rfl]

theorem decodeNotice_qualification (payload : Json) :
    decodeNotice boampQualificationTopic payload = qualificationNotice payload := by
  rw [decodeNotice, if_neg (by decide), if_neg (by decide), if_neg (by decide), if_neg (by decide), if_pos rfl]

section Rows

variable {row : Platform.OutboxMessageRecord}

theorem exported_row {reader : Option SubmissionDecisionGateReader} {zip : List (String × List UInt8) → List UInt8}
    {storage : Option SubmissionPackage.StorageRead} {store next : SubmissionStore} {call : ExportCall}
    {archive : ExportArchive}
    (accepted : exportPackage reader zip storage store call = .ok (next, archive)) (member : row ∈ next.outbox) :
    row ∈ store.outbox ∨ (∃ record, row = call.outboxMessage record (hexdigestBytes archive.bytes)) ∨
      row = call.emailMessage := by
  obtain ⟨read, content, -, -, -, announced⟩ := exportPackage_ok accepted
  obtain ⟨events, messages, outbox, -, first, second, rfl⟩ := announceExport_ok announced
  rcases (Table.mem_insert? second).mp member with before | email
  · rcases (Table.mem_insert? first).mp before with old | webhook
    · exact .inl old
    · exact .inr (.inl ⟨content.record, webhook⟩)
  · exact .inr (.inr email)

theorem completed_row {σ : Type} {ledger next : Ledger σ} {dispatch : OpenDispatch} {draws : Draws}
    {result : Transaction (σ × HandlerOutcome)} {body : ResponseBody}
    (accepted : complete ledger dispatch draws result = .ok (next, body)) (member : row ∈ next.outbox) :
    row ∈ ledger.outbox ∨ ∃ business outcome, result = .ok (business, outcome) ∧ ∃ event ∈ outcome.events,
      ∃ eventId messageId, row = outboxMessage dispatch eventId messageId event := by
  simp only [complete, bind_ok, orRaise_ok, pure_ok, flush, Prod.exists, Prod.mk.injEq] at accepted
  obtain ⟨business, outcome, executed, events, -, outbox, inserted, receipts, -, rfl, -⟩ := accepted
  rcases (Table.mem_insertAll? inserted).mp member with old | added
  · exact .inl old
  · obtain ⟨index, bound, rfl⟩ := List.mem_mapIdx.mp added
    exact .inr ⟨business, outcome, executed, _, List.getElem_mem bound, _, _, rfl⟩

theorem ingested_row {tables : CaseTables} {store next : ObservationStore} {call : IngestionCall}
    {result : BoampPersistenceResult} (accepted : persist tables store call = .ok (next, result))
    (member : row ∈ next.outbox) : row ∈ store.outbox ∨ row = call.outboxMessage tables := by
  unfold persist at accepted
  split at accepted
  · simp only [recordRun, bind_ok, raiseIf_ok, exists_unit, pure_ok, flush, orRaise_ok, Prod.mk.injEq] at accepted
    obtain ⟨-, runs, -, written, -, events, -, outbox, inserted, rfl, -⟩ := accepted
    exact (Table.mem_insert? inserted).mp member
  · simp only [bind_ok, raiseIf_ok, exists_unit, pure_ok, Prod.mk.injEq] at accepted
    obtain ⟨-, replayed, -, rfl, -⟩ := accepted
    exact .inl member

theorem qualified_row {store next : QualificationStore} {call : QualificationCall}
    {result : QualificationPersistenceResult} (accepted : qualify store call = .ok (next, result))
    (member : row ∈ next.outbox) : row ∈ store.outbox ∨
      ∃ observation : BoampOpportunityObservationRecord, observation.id = call.command.observationId ∧
        row = call.outboxMessage observation := by
  simp only [qualify, bind_ok, raiseIf_ok, exists_unit, orRaise_ok] at accepted
  obtain ⟨-, -, -, observation, found, persisted⟩ := accepted
  have query := Table.find?_query found
  simp only [decide_eq_true_eq] at query
  unfold persistQualification at persisted
  split at persisted
  · simp only [recordQualification, bind_ok, raiseIf_ok, exists_unit, pure_ok, flush, orRaise_ok,
      Prod.mk.injEq] at persisted
    obtain ⟨-, rows, -, events, -, outbox, inserted, rfl, -⟩ := persisted
    rcases (Table.mem_insert? inserted).mp member with old | added
    · exact .inl old
    · exact .inr ⟨observation, query.2, added⟩
  · simp only [bind_ok, raiseIf_ok, exists_unit, pure_ok, Prod.mk.injEq] at persisted
    obtain ⟨-, _, -, rfl, -⟩ := persisted
    exact .inl member

/-- An event of a command on one staged object names it. -/
theorem stagingOutcome_event {code topic : String} {tenantId : Uuid} {stagedObject : DceStagedObjectRecord}
    {state : Option StagedObjectState} {event : PendingDomainEvent}
    (member : event ∈ (stagingOutcome code tenantId stagedObject state topic).events) : event.topic = topic ∧
      event.payload.lookup "storage_object_id" = some (.str stagedObject.id.str) ∧
      event.payload.lookup "tenant_id" = some (.str tenantId.str) := by
  obtain rfl := List.mem_singleton.mp member
  exact ⟨rfl, rfl, rfl⟩

theorem stagedObject_id {store : StagingStore} {tenantId storageObjectId : Uuid}
    {stagedObject : DceStagedObjectRecord} (found : store.stagedObject tenantId storageObjectId = some stagedObject) :
    stagedObject.id = storageObjectId := by
  have query := Table.find?_query found
  simp only [decide_eq_true_eq] at query
  exact query.2

/-- An event names a staged object that its command names, by the tenant and the object. -/
def NamesObject (request : StagingRequest) (event : PendingDomainEvent) : Prop :=
  ∃ storageObjectId, (request.context.tenantId, storageObjectId) ∈ request.rows ∧
    event.payload.lookup "storage_object_id" = some (.str storageObjectId.str) ∧
    event.payload.lookup "tenant_id" = some (.str request.context.tenantId.str)

theorem namesObject_of {request : StagingRequest} {view : StagingView} {storageObjectId : Uuid}
    {stagedObject : DceStagedObjectRecord} {code topic : String} {state : Option StagedObjectState}
    {event : PendingDomainEvent} (rows : request.rows = [(request.context.tenantId, storageObjectId)])
    (found : view.locked.stagedObject request.context.tenantId storageObjectId = some stagedObject)
    (member : event ∈ (stagingOutcome code request.context.tenantId stagedObject state topic).events) :
    NamesObject request event := by
  obtain ⟨-, object, tenant⟩ := stagingOutcome_event member
  rw [stagedObject_id found] at object
  exact ⟨storageObjectId, by rw [rows]; exact List.mem_singleton.mpr rfl, object, tenant⟩

theorem stateTopic_cases (state : StagedObjectState) :
    stateTopic state = cockpitTopic ∨ stateTopic state = retentionTopic := by
  cases state <;> simp [stateTopic]

/-- An event of a staging command is for the cockpit, or names for the retention worker what its command names. -/
theorem staged_event {request : StagingRequest} {view : StagingView} {next : StagingStore} {outcome : HandlerOutcome}
    {event : PendingDomainEvent} (accepted : request.execute view = .ok (next, outcome))
    (member : event ∈ outcome.events) :
    event.topic = cockpitTopic ∨ (event.topic = retentionTopic ∧ NamesObject request event) := by
  obtain ⟨command, context⟩ := request
  cases command with
  | prepare command =>
    simp only [StagingRequest.execute, prepareDceStaging, bind_ok, raiseIf_ok, exists_unit, orRaise_ok, pure_ok,
      flush, Prod.mk.injEq] at accepted
    obtain ⟨built, -, consultation, -, -, -, rows, -, -, rfl⟩ := accepted
    exact .inl (stagingOutcome_event member).1
  | claim command =>
    simp only [StagingRequest.execute, claimDceStagedObjectUpload, bind_ok, raiseIf_ok, exists_unit, orRaise_ok,
      pure_ok, Prod.mk.injEq] at accepted
    obtain ⟨stagedObject, -, -, -, -, rfl⟩ := accepted
    exact .inl (stagingOutcome_event member).1
  | quarantine command =>
    simp only [StagingRequest.execute, recordDceStagedObjectQuarantine, bind_ok, raiseIf_ok, exists_unit, orRaise_ok,
      pure_ok, Prod.mk.injEq] at accepted
    obtain ⟨built, validated, -, stagedObject, found, -, -, rfl⟩ := accepted
    rw [← quarantine_built validated] at found
    have names : NamesObject ⟨.quarantine command, context⟩ event := namesObject_of rfl found member
    rw [(stagingOutcome_event member).1]
    exact (stateTopic_cases _).imp_right fun topic => ⟨topic, names⟩
  | reject command =>
    simp only [StagingRequest.execute, rejectDceStagedObjectUpload, bind_ok, raiseIf_ok, exists_unit, orRaise_ok,
      pure_ok, Prod.mk.injEq] at accepted
    obtain ⟨-, stagedObject, found, -, -, rfl⟩ := accepted
    exact .inr ⟨(stagingOutcome_event member).1, namesObject_of rfl found member⟩
  | expire command =>
    simp only [StagingRequest.execute, expireDceStagedObject, bind_ok, raiseIf_ok, exists_unit, orRaise_ok,
      pure_ok, Prod.mk.injEq] at accepted
    obtain ⟨-, stagedObject, found, -, -, -, rfl⟩ := accepted
    exact .inr ⟨(stagingOutcome_event member).1, namesObject_of rfl found member⟩
  | scan command =>
    simp only [StagingRequest.execute, recordDceStagedObjectScan, bind_ok, raiseIf_ok, exists_unit, orRaise_ok,
      pure_ok, Prod.mk.injEq] at accepted
    obtain ⟨built, validated, -, stagedObject, found, -, -, rfl⟩ := accepted
    rw [← scan_built validated] at found
    have names : NamesObject ⟨.scan command, context⟩ event := namesObject_of rfl found member
    rw [(stagingOutcome_event member).1]
    exact (stateTopic_cases _).imp_right fun topic => ⟨topic, names⟩
  | register command =>
    simp only [StagingRequest.execute, registerDceVersion, bind_ok, raiseIf_ok, exists_unit, orRaise_ok,
      pure_ok, flush, Prod.mk.injEq] at accepted
    obtain ⟨built, -, consultation, -, -, -, -, stagedObjects, -, admitted, -, -, documents, -, version, -, versions, -,
      rows, -, -, rfl⟩ := accepted
    obtain rfl := List.mem_singleton.mp member
    exact .inl rfl

/-- A row that a command adds for one of the topics decodes to what the command emitted. -/
theorem delivery_row_decodes {command : DeliveryCommand} {before after : Table Platform.OutboxMessageRecord}
    (commits : CommitsDelivery command before after) (member : row ∈ after) (added : row ∉ before)
    (topic : row.topic ∈ deliveryTopics) :
    ∃ notice ∈ command.emitted, notice.topic = row.topic ∧ decodeNotice row.topic (.obj row.payload) = some notice := by
  cases commits with
  | exported accepted =>
    rcases exported_row accepted member with old | ⟨record, same⟩ | same
    · exact absurd old added
    · refine ⟨_, List.mem_cons_self, by rw [same]; rfl, ?_⟩
      rw [same, ExportCall.outboxMessage, pendingMessage, decodeNotice_export, exportPayload]
      exact webhookNotice_of (length_hexdigestBytes _)
    · refine ⟨_, List.mem_cons_of_mem _ (List.mem_singleton_self _), by rw [same]; rfl, ?_⟩
      rw [same, ExportCall.emailMessage, pendingMessage, decodeNotice_email, emailPayload, safePackageId_of,
        uuidOf_str, Option.map_some]
  | staged context accepted =>
    rcases completed_row accepted member with old | ⟨_, outcome, executed, event, raised, eventId, messageId, same⟩
    · exact absurd old added
    · have raisedFor : row.topic = event.topic := by rw [same]; rfl
      rcases staged_event executed raised with cockpit | ⟨retention, storageObjectId, named, object, tenant⟩
      · rw [raisedFor, cockpit] at topic
        exact absurd topic (by decide)
      · refine ⟨_, List.mem_map.mpr ⟨_, named, rfl⟩, (raisedFor.trans retention).symm, ?_⟩
        rw [raisedFor, retention, decodeNotice_retention, same, outboxMessage, retentionTarget_event object tenant,
          Option.map_some]
  | ingested accepted =>
    rcases ingested_row accepted member with old | same
    · exact absurd old added
    · refine ⟨_, List.mem_singleton_self _, by rw [same]; rfl, ?_⟩
      rw [same]
      show decodeNotice boampIngestionTopic _ = _
      rw [decodeNotice_ingestion]
      exact ingestionNotice_of _ (length_hexdigest _)
  | qualified accepted =>
    rcases qualified_row accepted member with old | ⟨observation, named, same⟩
    · exact absurd old added
    · refine ⟨_, List.mem_singleton_self _, by rw [same]; rfl, ?_⟩
      rw [← named, same]
      show decodeNotice boampQualificationTopic _ = _
      rw [decodeNotice_qualification]
      exact qualificationNotice_of _ _ _ _

end Rows

/-- A worker settles a message as malformed only where its decoder refuses it. -/
theorem not_malformed {topic : String} {payload : Json} {notice : Notice}
    (decoded : decodeNotice topic payload = some notice) : NotMalformed topic payload := by
  rintro worker message consumed rfl rfl code known
  have different (other : String) (unlisted : other ∉ malformedCodes) : code ≠ other := by
    rintro rfl
    exact unlisted known
  cases worker with
  | webhook worker =>
    have topic : message.topic = exportTopic := List.mem_singleton.mp consumed
    have read : decodeNotice message.topic message.payload = webhookNotice message.payload := if_pos topic
    rw [read, webhookNotice, Option.bind_eq_bind, Option.bind_eq_some_iff] at decoded
    obtain ⟨data, safe, -⟩ := decoded
    have unconfigured := different "EXPORT_WEBHOOK_CONFIGURATION_INVALID" (by decide)
    simp only [DeliveryWorker.leaseWorker, SubmissionExportWebhookWorker.leaseWorker, safe, Option.isNone_some,
      Bool.false_eq_true, if_false]
    split_ifs <;> simp [unconfigured.symm]
  | smtp worker =>
    have topic : message.topic = submissionExportEmailTopic := List.mem_singleton.mp consumed
    rw [topic, decodeNotice_email, Option.map_eq_some_iff] at decoded
    obtain ⟨package, safe, -⟩ := decoded
    simp only [DeliveryWorker.leaseWorker, SubmissionExportSmtpWorker.leaseWorker, safe, Option.isNone_some,
      Bool.false_eq_true, if_false]
    split_ifs <;> simp
  | retention worker stagedObject =>
    have topic : message.topic = retentionTopic := List.mem_singleton.mp consumed
    rw [topic, decodeNotice_retention, Option.map_eq_some_iff] at decoded
    obtain ⟨target, safe, -⟩ := decoded
    simp only [DeliveryWorker.leaseWorker, DceRetentionWorker.leaseWorker, safe]
    split_ifs <;> simp
  | eventBus worker =>
    have safe : ∃ fields, safeBoampPayload message.topic message.payload = some fields := by
      have topic : message.topic = boampIngestionTopic ∨ message.topic = boampQualificationTopic := by
        simpa [DeliveryWorker.leaseWorker, OpportunityEventBusWorker.leaseWorker, boampTopics] using consumed
      rcases topic with topic | topic
      · rw [topic, decodeNotice_ingestion, ingestionNotice, Option.bind_eq_bind, Option.bind_eq_some_iff] at decoded
        obtain ⟨fields, safe, -⟩ := decoded
        exact ⟨fields, topic ▸ safe⟩
      · rw [topic, decodeNotice_qualification, qualificationNotice, Option.bind_eq_bind,
          Option.bind_eq_some_iff] at decoded
        obtain ⟨fields, safe, -⟩ := decoded
        exact ⟨fields, topic ▸ safe⟩
    obtain ⟨fields, safe⟩ := safe
    simp only [DeliveryWorker.leaseWorker, OpportunityEventBusWorker.leaseWorker, safe, Option.isNone_some,
      Bool.false_eq_true, if_false]
    split_ifs <;> simp

/-- Every row that a command commits for a topic that leaves the application is decoded by the worker of the topic,
    to the identifiers and hashes that the decoder is there for, and is not failed as malformed. -/
theorem delivery_rows_decode {command : DeliveryCommand} {before after : Table Platform.OutboxMessageRecord}
    (commits : CommitsDelivery command before after) {row : Platform.OutboxMessageRecord} (member : row ∈ after)
    (added : row ∉ before) (topic : row.topic ∈ deliveryTopics) :
    (∃ notice ∈ command.emitted, notice.topic = row.topic ∧
      decodeNotice row.topic (.obj row.payload) = some notice) ∧ NotMalformed row.topic (.obj row.payload) := by
  obtain ⟨notice, emitted, same, decoded⟩ := delivery_row_decodes commits member added topic
  exact ⟨⟨notice, emitted, same, decoded⟩, not_malformed decoded⟩

/-- The export of the example package commits a message for the webhook. -/
theorem packaged_export_commits : ∃ before after row manifestSha256 archiveSha256,
    CommitsDelivery (.export packageExport archiveSha256) before after ∧ row ∈ after ∧ row ∉ before ∧
      row.topic = exportTopic ∧ row.payload = exportPayload 41 manifestSha256 archiveSha256 ∧
      archiveSha256.length = 64 := by
  have succeeds := packagedStore_evaluated.1.1
  generalize packagedStore = store at succeeds
  cases accepted : exportPackage (some readDecisionGate) concatenated (some (writtenStorage store)) store
      packageExport with
  | error error =>
    rw [accepted] at succeeds
    cases succeeds
  | ok result =>
    obtain ⟨next, archive⟩ := result
    obtain ⟨_, content, -, -, -, announced⟩ := exportPackage_ok accepted
    obtain ⟨_, messages, outbox, -, first, second, rfl⟩ := announceExport_ok announced
    refine ⟨_, _, packageExport.outboxMessage content.record (hexdigestBytes archive.bytes),
      content.record.manifestSha256, _, .exported accepted, ?_, ?_, rfl, rfl,
      length_hexdigestBytes _⟩
    · have written := (Table.mem_insert? first).mpr (.inr rfl)
      exact (Table.mem_insert? second).mpr (.inl written)
    · intro stored
      exact Table.insert?_absent first _ stored (.inl rfl)

theorem packaged_export_decodes : ∃ row : Platform.OutboxMessageRecord, row.topic = exportTopic ∧
    (∃ notice, notice.topic = row.topic ∧ decodeNotice row.topic (.obj row.payload) = some notice) ∧
      NotMalformed row.topic (.obj row.payload) := by
  obtain ⟨before, after, row, manifestSha256, archiveSha256, commits, member, added, topic, -, -⟩ :=
    packaged_export_commits
  have listed : row.topic ∈ deliveryTopics := by rw [topic]; exact List.mem_cons_self
  obtain ⟨⟨notice, -, same, decoded⟩, delivered⟩ := delivery_rows_decode commits member added listed
  exact ⟨row, topic, ⟨notice, same, decoded⟩, delivered⟩

/-- The webhook's decoder leaves out the hash of the manifest, which the export emits. -/
theorem webhook_drops_manifest : ¬ ∀ (command : DeliveryCommand) (before after : Table Platform.OutboxMessageRecord),
    CommitsDelivery command before after → ∀ row ∈ after, row ∉ before → row.topic = exportTopic →
      ∀ data, safeExportPayload (.obj row.payload) = some data → ∀ field ∈ row.payload, field ∈ data := by
  intro claimed
  obtain ⟨before, after, row, manifestSha256, archiveSha256, commits, member, added, topic, payload, length⟩ :=
    packaged_export_commits
  have safe : safeExportPayload (.obj row.payload) = some [("submission_package_id", .str (41 : Uuid).str),
      ("archive_sha256", .str archiveSha256), ("delivery", .str "DOWNLOAD")] := by
    rw [payload, exportPayload]
    exact safeExportPayload_of length
  have emitted : ("manifest_sha256", Json.str manifestSha256) ∈ row.payload := by
    rw [payload, exportPayload]
    exact List.mem_cons_of_mem _ List.mem_cons_self
  have kept := claimed _ before after commits row member added topic _ safe _ emitted
  have names : "manifest_sha256" ∈ ["submission_package_id", "archive_sha256", "delivery"] :=
    List.mem_map_of_mem (f := Prod.fst) kept
  exact absurd names (by decide)

end SmartAo.Worker
