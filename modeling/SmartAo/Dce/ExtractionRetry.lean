import SmartAo.Dce.ExtractionService
import SmartAo.Dce.FragmentAgreement
import SmartAo.Foundation.Json

namespace SmartAo.Dce

open SmartAo.Foundation SmartAo.Platform

variable {supported : String → Bool} {ledger next : Ledger ExtractionStore} {tenantId dceDocumentId : Uuid}
  {attempt : Attempt} {result : DispatchResult} {document : DceDocumentRecord} {projection : ExtractionProjection}
  {command earlier : RecordDceDocumentExtractionCommand} {store after : ExtractionStore} {context : CommandContext}
  {draw : Nat → Uuid} {outcome : HandlerOutcome}

theorem extract_ok : extract supported ledger tenantId dceDocumentId attempt = .ok (result, next) ↔
    ∃ document command, loadPrivateDocument ledger.business tenantId dceDocumentId = .ok document ∧
      recordingCommand document (attemptProjection attempt.extractors document attempt.read) = .ok command ∧
      dispatchAlone supported ledger command.envelope (extractionContext tenantId attempt.now) attempt.receiptId
        attempt.draws (attempt.execute tenantId command) = .ok (result, next) := by
  simp only [extract, bind_ok, mapError_ok, exists_and_left]

/-- The identifier a document's projection is recorded under. -/
def extractionIdentity (document : DceDocumentRecord) (projection : ExtractionProjection) : Uuid :=
  uuid5 document.id (extractionName document projection)

/-- What a projection becomes in its command. -/
structure Records (document : DceDocumentRecord) (projection : ExtractionProjection)
    (command : RecordDceDocumentExtractionCommand) : Prop where
  commandId : command.commandId = extractionIdentity document projection
  idempotencyKey : command.idempotencyKey = extractionIdentity document projection
  extractionId : command.extractionId = extractionIdentity document projection
  extractorId : command.extractorId = projection.extractorId
  failureCode : command.failureCode = projection.failureCode
  fragments : command.fragments.length = projection.fragments.length

theorem recordingCommand_records (recorded : recordingCommand document projection = .ok command) :
    Records document projection command := by
  obtain ⟨inputs, traversed, built⟩ := recordingCommand_ok.mp recorded
  obtain ⟨_, rfl⟩ := command_build_ok.mp built
  have texts := congrArg List.length (collect_map (fun _ _ => buildFragment_text) traversed)
  rw [List.length_map, List.length_map] at texts
  exact ⟨rfl, rfl, rfl, rfl, rfl, texts⟩

def extractionRecord (document : DceDocumentRecord) (versionId : Uuid) (command : RecordDceDocumentExtractionCommand)
    (context : CommandContext) : DceDocumentExtractionRecord where
  id := command.extractionId
  tenantId := context.tenantId
  dceVersionId := versionId
  dceDocumentId := document.id
  inputSha256 := lower command.inputSha256
  extractorId := command.extractorId
  extractorVersion := command.extractorVersion
  status := command.status
  fragmentCount := command.fragments.length
  extractedCharCount := command.extractedCharCount
  failureCode := command.failureCode

/-- What the handler checks, and the rows it adds. -/
structure Extracts (store after : ExtractionStore) (draw : Nat → Uuid) (command : RecordDceDocumentExtractionCommand)
    (context : CommandContext) (document : DceDocumentRecord) (version : DceVersionRecord) : Prop where
  system : context.actorKind = .system
  loaded : store.document context.tenantId command.dceDocumentId = some document
  admitted : (store.version context.tenantId document.dceVersionId).filter (·.isAdmitted) = some version
  verified : version.integrity = .verified
  consumed : (store.stagedObject context.tenantId document.storageObjectId).any (·.isConsumedBy document) = true
  hash : lower command.inputSha256 = lower document.sha256
  checked : checkFragments command = .ok ()
  extractions : store.sources.extractions.insert? (extractionRecord document version.id command context) =
    some after.sources.extractions
  fragments : store.sources.fragments.insertAll? (fragmentRecords context.tenantId draw command) =
    some after.sources.fragments
  rest : after = { store with sources := after.sources }

def extractionOutcome (document : DceDocumentRecord) (command : RecordDceDocumentExtractionCommand) : HandlerOutcome where
  resultCode := "DCE_DOCUMENT_EXTRACTION_RECORDED"
  aggregateRefs := [{
    aggregateType := "DCE_DOCUMENT_EXTRACTION", aggregateId := command.extractionId.str, aggregateRevision := 0 }]
  events := [{
    aggregateType := "DCE_DOCUMENT_EXTRACTION", aggregateId := command.extractionId, aggregateRevision := 0
    eventType := "DCE_DOCUMENT_EXTRACTION_RECORDED"
    payload := [("extraction_id", .str command.extractionId.str), ("dce_document_id", .str document.id.str),
      ("status", .str command.status.value), ("fragment_count", .int command.fragments.length),
      ("extracted_char_count", .int command.extractedCharCount)] }]

theorem recordDceDocumentExtraction_ok :
    recordDceDocumentExtraction store draw command context = .ok (after, outcome) ↔
      ∃ document version, Extracts store after draw command context document version ∧
        outcome = extractionOutcome document command := by
  simp only [recordDceDocumentExtraction, bind_ok, raiseIf_ok, exists_unit, orRaise_ok, pure_ok, Prod.mk.injEq, flush,
    Decidable.not_not, ne_eq, Bool.not_eq_false]
  constructor
  · rintro ⟨system, document, found, version, admitted, verified, consumed, hash, checked, extractions, added,
      fragments, written, rfl, rfl⟩
    exact ⟨document, version, ⟨system, found, admitted, verified, consumed, hash, checked, added, written, rfl⟩, rfl⟩
  · rintro ⟨document, version, extracts, rfl⟩
    exact ⟨extracts.system, document, extracts.loaded, version, extracts.admitted, extracts.verified,
      extracts.consumed, extracts.hash, extracts.checked, _, extracts.extractions, _, extracts.fragments,
      extracts.rest.symm, rfl⟩

/-- An extraction that recorded no fragment leaves what another one under another identifier checks. -/
theorem Extracts.again {drawn : Nat → Uuid} {before : CommandContext} {other failed : DceDocumentRecord}
    {version admitted : DceVersionRecord} {whole : ExtractionStore}
    (failing : Extracts store after drawn earlier before other version) (empty : earlier.fragments = [])
    (extracts : Extracts store whole draw command context failed admitted)
    (apart : earlier.extractionId ≠ command.extractionId) (extractor : earlier.extractorId ≠ command.extractorId) :
    ∃ again, Extracts after again draw command context failed admitted := by
  have untouched : after.sources.fragments = store.sources.fragments := by
    have added := failing.fragments
    rw [fragmentRecords, empty] at added
    exact (Option.some.inj added).symm
  have free : ∀ stored ∈ after.sources.extractions,
      ¬ Schema.Conflict stored (extractionRecord failed admitted.id command context) := by
    intro stored member
    rcases (Table.mem_insert? failing.extractions).mp member with old | rfl
    · exact Table.insert?_absent extracts.extractions stored old
    · rintro (id | keys)
      · exact apart id
      · exact extractor (Prod.mk.inj (Prod.mk.inj (Prod.mk.inj (Prod.mk.inj keys).2).2).2).1
  obtain ⟨extractions, added⟩ := Option.isSome_iff_exists.mp (Table.insert?_isSome.mpr free)
  have same : after = { store with sources := after.sources } := failing.rest
  refine ⟨{ after with sources := ⟨extractions, whole.sources.fragments⟩ }, extracts.system, ?_, ?_,
    extracts.verified, ?_, extracts.hash, extracts.checked, added, ?_, rfl⟩
  · rw [same]
    exact extracts.loaded
  · rw [same]
    exact extracts.admitted
  · rw [same]
    exact extracts.consumed
  · rw [untouched]
    exact extracts.fragments

/-- What is recorded under an extraction identifier. -/
def recordedAs (store : ExtractionStore) (extractionId : Uuid) :
    List DceDocumentExtractionRecord × List DceDocumentExtractionFragmentRecord :=
  (store.sources.extractions.rows.filter fun row => row.id = extractionId,
    store.sources.fragments.rows.filter fun row => row.extractionId = extractionId)

theorem Extracts.recordedAs {version : DceVersionRecord}
    (extracts : Extracts store after draw command context document version) :
    recordedAs after command.extractionId =
      ((recordedAs store command.extractionId).1 ++ [extractionRecord document version.id command context],
        (recordedAs store command.extractionId).2 ++ fragmentRecords context.tenantId draw command) := by
  have named : ∀ row ∈ fragmentRecords context.tenantId draw command,
      decide (row.extractionId = command.extractionId) = true := by
    intro row member
    obtain ⟨index, bound, rfl⟩ := List.mem_mapIdx.mp member
    exact decide_eq_true rfl
  have single : decide ((extractionRecord document version.id command context).id = command.extractionId) = true :=
    decide_eq_true rfl
  rw [Dce.recordedAs, Table.insert?_rows extracts.extractions, Table.insertAll?_rows extracts.fragments,
    List.filter_append, List.filter_append, List.filter_eq_self.mpr named, List.filter_singleton, single]
  rfl

/-- An extraction leaves what other ones recorded. -/
theorem Extracts.recordedAs_other {version : DceVersionRecord} {extractionId : Uuid}
    (extracts : Extracts store after draw command context document version)
    (apart : command.extractionId ≠ extractionId) : Dce.recordedAs after extractionId = Dce.recordedAs store extractionId := by
  have none : (fragmentRecords context.tenantId draw command).filter
      (fun row => decide (row.extractionId = extractionId)) = [] := by
    refine List.filter_eq_nil_iff.mpr fun row member => ?_
    obtain ⟨index, bound, rfl⟩ := List.mem_mapIdx.mp member
    rw [decide_eq_true_eq]
    exact apart
  have single : decide ((extractionRecord document version.id command context).id = extractionId) = false :=
    decide_eq_false apart
  rw [Dce.recordedAs, Table.insert?_rows extracts.extractions, Table.insertAll?_rows extracts.fragments,
    List.filter_append, List.filter_append, none, List.filter_singleton, single]
  simp [Dce.recordedAs]

/-- The bytes have no native fragment, and an adapter reads them. -/
def ReadElsewhere (extractors : Extractors) (mediaType : String) (sourceBytes : List UInt8) : Prop :=
  (extractors.native mediaType sourceBytes = .ok [] ∨
    extractors.native mediaType sourceBytes = .error .mediaTypeUnsupported) ∧
  ∃ advanced projection, extractors.advanced = some advanced ∧
    advanced.extract mediaType sourceBytes = .ok projection ∧ projection.status ≠ .unsupported

/-- A projection of the deterministic extractor, other than that of bytes it could not read. -/
structure Deterministic (projection : ExtractionProjection) : Prop where
  extractorId : projection.extractorId = Dce.extractorId
  extractorVersion : projection.extractorVersion = Dce.extractorVersion
  failureCode : projection.failureCode ≠ unavailableProjection.failureCode

theorem ExtractionError.deterministic (error : ExtractionError) : Deterministic error.projection := by
  cases error <;> exact ⟨rfl, rfl, by decide⟩

theorem projectAdvanced_cases (extractors : Extractors) (mediaType : String) (sourceBytes : List UInt8)
    {otherwise : ExtractionProjection} (deterministic : Deterministic otherwise) :
    (∃ advanced projection, extractors.advanced = some advanced ∧
        advanced.extract mediaType sourceBytes = .ok projection ∧ projection.status ≠ .unsupported) ∧
      (projectAdvanced extractors mediaType sourceBytes otherwise).extractorId ≠ extractorId ∨
    (¬ ∃ advanced projection, extractors.advanced = some advanced ∧
        advanced.extract mediaType sourceBytes = .ok projection ∧ projection.status ≠ .unsupported) ∧
      Deterministic (projectAdvanced extractors mediaType sourceBytes otherwise) := by
  unfold projectAdvanced
  cases installed : extractors.advanced with
  | none => exact .inr ⟨by simp, deterministic⟩
  | some advanced =>
    cases read : advanced.extract mediaType sourceBytes with
    | error error =>
      refine .inr ⟨by simp [read], ?_⟩
      simp only [read]
      exact error.deterministic
    | ok projection =>
      by_cases unsupported : projection.status = .unsupported
      · refine .inr ⟨by simp [read, unsupported], ?_⟩
        simp only [read, if_pos unsupported]
        exact deterministic
      · refine .inl ⟨⟨advanced, projection, rfl, read, unsupported⟩, ?_⟩
        simp only [read, if_neg unsupported]
        exact advanced.named mediaType sourceBytes projection read unsupported

/-- Readable bytes are projected by an adapter, or by the deterministic extractor. -/
theorem projectBytes_cases (extractors : Extractors) (mediaType : String) (sourceBytes : List UInt8) :
    ReadElsewhere extractors mediaType sourceBytes ∧
        (projectBytes extractors mediaType sourceBytes).extractorId ≠ extractorId ∨
      ¬ ReadElsewhere extractors mediaType sourceBytes ∧
        Deterministic (projectBytes extractors mediaType sourceBytes) := by
  unfold projectBytes ReadElsewhere
  cases native : extractors.native mediaType sourceBytes with
  | ok fragments =>
    cases fragments with
    | nil =>
      have empty : Deterministic (failedProjection .failedSafe "EMPTY_EXTRACTED_TEXT") := ⟨rfl, rfl, by decide⟩
      rcases projectAdvanced_cases extractors mediaType sourceBytes empty with ⟨read, named⟩ | ⟨unread, kept⟩
      · exact .inl ⟨⟨.inl rfl, read⟩, named⟩
      · exact .inr ⟨fun elsewhere => unread elsewhere.2, kept⟩
    | cons fragment fragments => exact .inr ⟨by simp, rfl, rfl, by simp [unavailableProjection, failedProjection]⟩
  | error error =>
    cases error with
    | limit => exact .inr ⟨by simp, ExtractionError.limit.deterministic⟩
    | parse => exact .inr ⟨by simp, ExtractionError.parse.deterministic⟩
    | mediaTypeUnsupported =>
      have unsupported := ExtractionError.mediaTypeUnsupported.deterministic
      rcases projectAdvanced_cases extractors mediaType sourceBytes unsupported with ⟨read, named⟩ | ⟨unread, kept⟩
      · exact .inl ⟨⟨.inr rfl, read⟩, named⟩
      · exact .inr ⟨fun elsewhere => unread elsewhere.2, kept⟩

theorem extractionName_apart (named : projection.extractorId ≠ extractorId) :
    extractionName document unavailableProjection ≠ extractionName document projection := by
  intro same
  have tails := List.tail_eq_of_cons_eq (List.append_cancel_left same)
  have split := (List.append_cons_inj_of_notMem (by decide) (by decide)).mp tails
  exact named (String.toList_injective split.1.symm)

theorem extractionName_same (deterministic : Deterministic projection) :
    extractionName document unavailableProjection = extractionName document projection := by
  rw [extractionName, extractionName, deterministic.extractorId, deterministic.extractorVersion]
  rfl

theorem optional_injective {first second : Option String} (same : optional first = optional second) :
    first = second := by
  cases first <;> cases second <;> simp_all [optional]

/-- Commands with the same request record the same failure code. -/
theorem failureCode_of_request (same : earlier.envelope.request = command.envelope.request) :
    earlier.failureCode = command.failureCode := by
  simp only [Envelope.request, RecordDceDocumentExtractionCommand.envelope, Json.obj.injEq, List.cons.injEq,
    Prod.mk.injEq, true_and, and_true] at same
  exact optional_injective same.2.2.2.2.2.1

/-- Nothing an extraction writes is read again when its document is loaded. -/
theorem loadPrivateDocument_congr (documents : after.documents = store.documents)
    (versions : after.versions = store.versions) (stagedObjects : after.stagedObjects = store.stagedObjects) :
    loadPrivateDocument after tenantId dceDocumentId = loadPrivateDocument store tenantId dceDocumentId := by
  unfold loadPrivateDocument ExtractionStore.document ExtractionStore.version ExtractionStore.stagedObject
  rw [documents, versions, stagedObjects]

theorem Extracts.load {version : DceVersionRecord}
    (extracts : Extracts store after draw command context document version) :
    loadPrivateDocument after tenantId dceDocumentId = loadPrivateDocument store tenantId dceDocumentId := by
  have rest : after = { store with sources := after.sources } := extracts.rest
  refine loadPrivateDocument_congr ?_ ?_ ?_
  · rw [rest]
  · rw [rest]
  · rw [rest]

/-- Two attempts on a document: one finds its bytes unavailable, one reads them. -/
structure Attempts (document : DceDocumentRecord) (first again : Attempt) (sourceBytes : List UInt8) : Prop where
  bounded : document.byteSize ≤ maxSourceBytes
  unavailable : first.read = .unavailable
  readable : again.read = .bytes sourceBytes
  intact : sourceBytes.length = document.byteSize ∧ hexdigestBytes sourceBytes = document.sha256
  receiptId : first.receiptId ≠ again.receiptId
  event : ∀ one other, first.draws.event one ≠ again.draws.event other
  message : ∀ one other, first.draws.message one ≠ again.draws.message other

theorem Attempts.first {again : Attempt} {sourceBytes : List UInt8}
    (attempts : Attempts document attempt again sourceBytes) :
    attemptProjection attempt.extractors document attempt.read = unavailableProjection := by
  have bounded : ¬ maxSourceBytes < document.byteSize := Nat.not_lt.mpr attempts.bounded
  rw [attemptProjection, if_neg bounded, attempts.unavailable]
  rfl

theorem Attempts.again {first : Attempt} {sourceBytes : List UInt8}
    (attempts : Attempts document first attempt sourceBytes) :
    attemptProjection attempt.extractors document attempt.read =
      projectBytes attempt.extractors document.mediaType sourceBytes := by
  have bounded : ¬ maxSourceBytes < document.byteSize := Nat.not_lt.mpr attempts.bounded
  have intact : ¬ (sourceBytes.length ≠ document.byteSize ∨ hexdigestBytes sourceBytes ≠ document.sha256) := by
    rw [not_or, not_not, not_not]
    exact attempts.intact
  rw [attemptProjection, if_neg bounded, attempts.readable, readProjection, if_neg intact]

/-- The two hashes tell the identities and the requests of two projections apart. -/
structure Hashed (document : DceDocumentRecord) (first second : ExtractionProjection) : Prop where
  identity : extractionIdentity document first = extractionIdentity document second →
    extractionName document first = extractionName document second
  request : ∀ one other, recordingCommand document first = .ok one → recordingCommand document second = .ok other →
    canonicalRequestHash one.envelope = canonicalRequestHash other.envelope →
      one.envelope.request.dumpsChars = other.envelope.request.dumpsChars

section Retry

variable {failed : Ledger ExtractionStore} {first again : Attempt} {sourceBytes : List UInt8}

theorem extract_of_loaded (loaded : loadPrivateDocument ledger.business tenantId dceDocumentId = .ok document)
    (accepted : extract supported ledger tenantId dceDocumentId attempt = .ok (result, next)) :
    ∃ command, recordingCommand document (attemptProjection attempt.extractors document attempt.read) = .ok command ∧
      dispatchAlone supported ledger command.envelope (extractionContext tenantId attempt.now) attempt.receiptId
        attempt.draws (attempt.execute tenantId command) = .ok (result, next) := by
  obtain ⟨other, command, found, recorded, dispatched⟩ := extract_ok.mp accepted
  rw [loaded] at found
  cases found
  exact ⟨command, recorded, dispatched⟩

/-- A receipt of the failed attempt refuses the projection of the deterministic extractor for good. -/
theorem retry_refused (attempts : Attempts document first again sourceBytes)
    (hashed : Hashed document unavailableProjection (projectBytes again.extractors document.mediaType sourceBytes))
    (loaded : loadPrivateDocument ledger.business tenantId dceDocumentId = .ok document)
    (failing : extract supported ledger tenantId dceDocumentId first = .ok (result, failed))
    (recorded : recordingCommand document (projectBytes again.extractors document.mediaType sourceBytes) = .ok command)
    (deterministic : Deterministic (projectBytes again.extractors document.mediaType sourceBytes))
    {later : Ledger ExtractionStore} (kept : ∀ receipt ∈ failed.receipts, receipt ∈ later.receipts)
    (still : loadPrivateDocument later.business tenantId dceDocumentId = .ok document) :
    extract supported later tenantId dceDocumentId again = .error (.dispatch .idempotencyKeyReused) := by
  obtain ⟨earlier, recording, dispatched⟩ := extract_of_loaded loaded failing
  rw [attempts.first] at recording
  have known : supported "RecordDceDocumentExtraction" = true := dispatchAlone_known dispatched
  obtain ⟨receipt, found, hash, _⟩ := dispatchAlone_recorded known dispatched
  obtain ⟨member, key⟩ := findReceipt_some found
  have before := recordingCommand_records recording
  have after := recordingCommand_records recorded
  have identity : earlier.idempotencyKey = command.idempotencyKey := by
    rw [before.idempotencyKey, after.idempotencyKey, extractionIdentity, extractionIdentity,
      extractionName_same deterministic]
  have sameKey : receipt.key = dispatchKey command.envelope (extractionContext tenantId again.now) := by
    rw [key, dispatchKey, dispatchKey]
    simp only [RecordDceDocumentExtractionCommand.envelope, extractionContext, identity]
  have lookup : findReceipt later (dispatchKey command.envelope (extractionContext tenantId again.now)) =
      some receipt := by
    rw [← sameKey]
    exact findReceipt_of_mem (kept receipt member)
  have different : receipt.requestHash ≠ canonicalRequestHash command.envelope := by
    intro same
    have dumped := hashed.request earlier command recording recorded (hash.symm.trans same)
    have code := failureCode_of_request (Json.dumpsChars_injective dumped)
    rw [before.failureCode, after.failureCode] at code
    exact deterministic.failureCode code.symm
  have refused : dispatchAlone supported later command.envelope (extractionContext tenantId again.now) again.receiptId
      again.draws (again.execute tenantId command) = .error .idempotencyKeyReused :=
    dispatchAlone_reused known lookup different
  unfold extract
  rw [bind_of_ok still, attempts.again, bind_of_ok (mapError_ok.mpr recorded), refused]
  rfl

/-- An attempt that another extractor reads succeeds after the failed one as it would have before it. -/
theorem retry_recorded {whole : Ledger ExtractionStore} {answer : DispatchResult}
    (attempts : Attempts document first again sourceBytes)
    (hashed : Hashed document unavailableProjection (projectBytes again.extractors document.mediaType sourceBytes))
    (loaded : loadPrivateDocument ledger.business tenantId dceDocumentId = .ok document)
    (failing : extract supported ledger tenantId dceDocumentId first = .ok (result, failed))
    (succeeding : extract supported ledger tenantId dceDocumentId again = .ok (answer, whole))
    (named : (projectBytes again.extractors document.mediaType sourceBytes).extractorId ≠ extractorId) :
    ∃ after, extract supported failed tenantId dceDocumentId again = .ok (answer, after) ∧
      recordedAs after.business (extractionIdentity document
        (projectBytes again.extractors document.mediaType sourceBytes)) =
      recordedAs whole.business (extractionIdentity document
        (projectBytes again.extractors document.mediaType sourceBytes)) := by
  obtain ⟨earlier, recording, dispatched⟩ := extract_of_loaded loaded failing
  obtain ⟨command, recorded, answered⟩ := extract_of_loaded loaded succeeding
  rw [attempts.first] at recording
  rw [attempts.again] at recorded
  have before := recordingCommand_records recording
  have after := recordingCommand_records recorded
  have apart : extractionIdentity document unavailableProjection ≠
      extractionIdentity document (projectBytes again.extractors document.mediaType sourceBytes) :=
    fun same => extractionName_apart named (hashed.identity same)
  have empty : earlier.fragments = [] := List.eq_nil_of_length_eq_zero before.fragments
  have other : earlier.extractionId ≠ command.extractionId := by
    rw [before.extractionId, after.extractionId]
    exact apart
  have extractor : earlier.extractorId ≠ command.extractorId := by
    rw [before.extractorId, after.extractorId]
    exact named.symm
  rw [← after.extractionId]
  rcases (dispatchAlone_ok (dispatchAlone_known dispatched)).mp dispatched with
    ⟨receipt, _, _, rfl⟩ | ⟨outcome, executes, _⟩
  · exact ⟨whole, succeeding, rfl⟩
  obtain ⟨owner, version, extracts, _⟩ := recordDceDocumentExtraction_ok.mp executes.executed
  have separate : OpenDispatch.Apart ⟨earlier.envelope, extractionContext tenantId first.now, first.receiptId⟩
      ⟨command.envelope, extractionContext tenantId again.now, again.receiptId⟩ first.draws again.draws := by
    have keys : earlier.idempotencyKey ≠ command.idempotencyKey := by
      rw [before.idempotencyKey, after.idempotencyKey]
      exact apart
    have commands : earlier.commandId ≠ command.commandId := by
      rw [before.commandId, after.commandId]
      exact apart
    refine ⟨fun same => keys (Prod.mk.inj (Prod.mk.inj (Prod.mk.inj same).2).2).2, ?_, attempts.event, attempts.message⟩
    rintro (id | ⟨_, key | commandId⟩)
    · exact attempts.receiptId id
    · exact keys (Prod.mk.inj (Prod.mk.inj key).2).2
    · exact commands commandId
  have agree : ∀ business outcome, again.execute tenantId command ledger.business = .ok (business, outcome) →
      ∃ later, again.execute tenantId command failed.business = .ok (later, outcome) ∧
        recordedAs business command.extractionId = recordedAs later command.extractionId := by
    intro business outcome executed
    obtain ⟨written, admitted, writes, rfl⟩ := recordDceDocumentExtraction_ok.mp executed
    obtain ⟨later, rewrites⟩ := extracts.again empty writes other extractor
    refine ⟨later, recordDceDocumentExtraction_ok.mpr ⟨written, admitted, rewrites, rfl⟩, ?_⟩
    rw [writes.recordedAs, rewrites.recordedAs, extracts.recordedAs_other other]
  obtain ⟨later, accepted, same⟩ := dispatchAlone_after executes answered separate agree
    (extracts.recordedAs_other other).symm
  refine ⟨later, extract_ok.mpr ⟨document, command, extracts.load.trans loaded, ?_, accepted⟩, same.symm⟩
  rw [attempts.again]
  exact recorded

/-- A document whose bytes were unavailable once is extracted as a first attempt would have, exactly when an
    adapter reads them; the failed attempt's receipt refuses every other projection of them for good. -/
theorem extraction_retryable {whole : Ledger ExtractionStore} {answer : DispatchResult}
    (attempts : Attempts document first again sourceBytes)
    (hashed : Hashed document unavailableProjection (projectBytes again.extractors document.mediaType sourceBytes))
    (loaded : loadPrivateDocument ledger.business tenantId dceDocumentId = .ok document)
    (failing : extract supported ledger tenantId dceDocumentId first = .ok (result, failed))
    (succeeding : extract supported ledger tenantId dceDocumentId again = .ok (answer, whole)) :
    ((∃ answer after, extract supported failed tenantId dceDocumentId again = .ok (answer, after) ∧
        recordedAs after.business (extractionIdentity document
          (projectBytes again.extractors document.mediaType sourceBytes)) =
        recordedAs whole.business (extractionIdentity document
          (projectBytes again.extractors document.mediaType sourceBytes))) ↔
      ReadElsewhere again.extractors document.mediaType sourceBytes) ∧
    (¬ ReadElsewhere again.extractors document.mediaType sourceBytes → ∀ later : Ledger ExtractionStore,
      (∀ receipt ∈ failed.receipts, receipt ∈ later.receipts) →
      loadPrivateDocument later.business tenantId dceDocumentId = .ok document →
        extract supported later tenantId dceDocumentId again = .error (.dispatch .idempotencyKeyReused)) := by
  obtain ⟨command, recorded, _⟩ := extract_of_loaded loaded succeeding
  rw [attempts.again] at recorded
  have still : loadPrivateDocument failed.business tenantId dceDocumentId = .ok document := by
    obtain ⟨earlier, _, dispatched⟩ := extract_of_loaded loaded failing
    rcases (dispatchAlone_ok (dispatchAlone_known dispatched)).mp dispatched with
      ⟨_, _, _, rfl⟩ | ⟨_, executes, _⟩
    · exact loaded
    · obtain ⟨_, _, extracts, _⟩ := recordDceDocumentExtraction_ok.mp executes.executed
      exact extracts.load.trans loaded
  rcases projectBytes_cases again.extractors document.mediaType sourceBytes with
    ⟨elsewhere, named⟩ | ⟨unread, deterministic⟩
  · refine ⟨iff_of_true ?_ elsewhere, fun unread => absurd elsewhere unread⟩
    obtain ⟨after, accepted, same⟩ := retry_recorded attempts hashed loaded failing succeeding named
    exact ⟨answer, after, accepted, same⟩
  · have refused : ∀ later : Ledger ExtractionStore, (∀ receipt ∈ failed.receipts, receipt ∈ later.receipts) →
        loadPrivateDocument later.business tenantId dceDocumentId = .ok document →
          extract supported later tenantId dceDocumentId again = .error (.dispatch .idempotencyKeyReused) :=
      fun later => retry_refused attempts hashed loaded failing recorded deterministic
    refine ⟨iff_of_false ?_ unread, fun _ => refused⟩
    rintro ⟨answer, after, accepted, _⟩
    rw [refused failed (fun _ member => member) still] at accepted
    cases accepted

end Retry

def tenderStore : ExtractionStore where
  versions := .singleton ⟨2, 1, 9, "corpus", none, .admitted, .verified, .classified, .notReady, 0⟩
  documents := .singleton tenderDocument
  stagedObjects := .singleton {
    id := 4, tenantId := 1, consultationId := 9, storageKey := "dce/4", expectedByteSize := 3
    actualByteSize := some 3, sha256 := some tenderDocument.sha256, mediaType := some "text/plain"
    state := .consumed, scanVerdict := some .clean, rejectionCode := none, expiresAt := 0
    consumedByDceVersionId := some 2 }
  sources := .empty

/-- A text extractor that finds one line, and no adapter. -/
def lineExtractors : Extractors := ⟨fun _ _ => .ok [⟨1, ⟨.textLine 1, 1⟩, "abc".toList⟩], none⟩

def unavailableAttempt : Attempt := ⟨.unavailable, lineExtractors, 0, 10, ⟨fun _ => 20, fun _ => 30⟩, fun _ => 40⟩

def readAttempt : Attempt := ⟨.bytes [97, 98, 99], lineExtractors, 1, 11, ⟨fun _ => 21, fun _ => 31⟩, fun _ => 41⟩

def handled (commandType : String) : Bool := commandType = "RecordDceDocumentExtraction"

theorem tenderAttempts : Attempts tenderDocument unavailableAttempt readAttempt [97, 98, 99] where
  bounded := by decide
  unavailable := rfl
  readable := rfl
  intact := by decide +kernel
  receiptId := by decide
  event _ _ := (by decide : (20 : Uuid) ≠ 21)
  message _ _ := (by decide : (30 : Uuid) ≠ 31)

theorem unavailableAttempt_ok : (extract handled (.initial tenderStore) 1 3 unavailableAttempt).isOk = true := by
  decide +kernel

theorem readAttempt_ok : (extract handled (.initial tenderStore) 1 3 readAttempt).isOk = true := by
  decide +kernel

def requestHashOf (document : DceDocumentRecord) (projection : ExtractionProjection) : Option String :=
  (recordingCommand document projection).toOption.map fun command => canonicalRequestHash command.envelope

theorem tender_hashed : Hashed tenderDocument unavailableProjection
    (projectBytes lineExtractors tenderDocument.mediaType [97, 98, 99]) where
  identity _ := extractionName_same ⟨rfl, rfl, by decide⟩
  request one other first second same := by
    have apart : requestHashOf tenderDocument unavailableProjection ≠
        requestHashOf tenderDocument (projectBytes lineExtractors tenderDocument.mediaType [97, 98, 99]) := by
      decide +kernel
    rw [requestHashOf, requestHashOf, first, second] at apart
    exact absurd (congrArg some same) apart

theorem tenderRuns : ∃ result failed answer whole,
    extract handled (.initial tenderStore) 1 3 unavailableAttempt = .ok (result, failed) ∧
      extract handled (.initial tenderStore) 1 3 readAttempt = .ok (answer, whole) := by
  have isOk_ok : ∀ {computation : Except ServiceError (DispatchResult × Ledger ExtractionStore)},
      computation.isOk = true → ∃ result ledger, computation = .ok (result, ledger) := by
    intro computation accepted
    cases computation with
    | ok pair => exact ⟨pair.1, pair.2, rfl⟩
    | error error => cases accepted
  obtain ⟨result, failed, failing⟩ := isOk_ok unavailableAttempt_ok
  obtain ⟨answer, whole, succeeding⟩ := isOk_ok readAttempt_ok
  exact ⟨result, failed, answer, whole, failing, succeeding⟩

theorem extraction_retryable_line : ∃ failed whole,
    ((∃ answer after, extract handled failed 1 3 readAttempt = .ok (answer, after) ∧
        recordedAs after.business (extractionIdentity tenderDocument
          (projectBytes lineExtractors "text/plain" [97, 98, 99])) =
        recordedAs (Ledger.business whole) (extractionIdentity tenderDocument
          (projectBytes lineExtractors "text/plain" [97, 98, 99]))) ↔
      ReadElsewhere lineExtractors "text/plain" [97, 98, 99]) ∧
    (¬ ReadElsewhere lineExtractors "text/plain" [97, 98, 99] → ∀ later : Ledger ExtractionStore,
      (∀ receipt ∈ failed.receipts, receipt ∈ later.receipts) →
      loadPrivateDocument later.business 1 3 = .ok tenderDocument →
        extract handled later 1 3 readAttempt = .error (.dispatch .idempotencyKeyReused)) := by
  obtain ⟨result, failed, answer, whole, failing, succeeding⟩ := tenderRuns
  exact ⟨failed, whole, extraction_retryable tenderAttempts tender_hashed rfl failing succeeding⟩

/-- The storage fails once, and the bytes are refused when it answers again. -/
theorem retried_bytes_refused : ∃ result failed answer whole,
    extract handled (.initial tenderStore) 1 3 unavailableAttempt = .ok (result, failed) ∧
      extract handled (.initial tenderStore) 1 3 readAttempt = .ok (answer, whole) ∧
      extract handled failed 1 3 readAttempt = .error (.dispatch .idempotencyKeyReused) := by
  obtain ⟨result, failed, answer, whole, failing, succeeding⟩ := tenderRuns
  have loaded : loadPrivateDocument (Ledger.initial tenderStore).business 1 3 = .ok tenderDocument := rfl
  obtain ⟨command, recorded, _⟩ := extract_of_loaded loaded succeeding
  rw [tenderAttempts.again] at recorded
  refine ⟨result, failed, answer, whole, failing, succeeding, ?_⟩
  refine retry_refused tenderAttempts tender_hashed loaded failing recorded ⟨rfl, rfl, by decide⟩
    (fun _ member => member) ?_
  obtain ⟨earlier, _, dispatched⟩ := extract_of_loaded loaded failing
  rcases (dispatchAlone_ok (dispatchAlone_known dispatched)).mp dispatched with ⟨_, _, _, rfl⟩ | ⟨_, executes, _⟩
  · rfl
  · obtain ⟨_, _, extracts, _⟩ := recordDceDocumentExtraction_ok.mp executes.executed
    exact extracts.load

end SmartAo.Dce
