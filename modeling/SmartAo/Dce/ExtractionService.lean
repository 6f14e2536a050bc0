import SmartAo.Dce.Fragments
import SmartAo.Platform.Replay

namespace SmartAo.Dce

open SmartAo.Foundation SmartAo.Platform

def maxSourceBytes : Nat := 128 * 1024 * 1024

def systemExtractionActorId : Uuid := 0x13

/-- How a parser fails: at a limit, on a media type it does not know, or on the bytes. -/
inductive ExtractionError where
  | limit
  | mediaTypeUnsupported
  | parse
deriving DecidableEq

def extractorId : String := "smart-ao-deterministic"

def extractorVersion : String := "1"

/-- A local adapter names itself as the extractor of what it supports. -/
structure AdvancedExtractor where
  extract : String → List UInt8 → Except ExtractionError ExtractionProjection
  named : ∀ mediaType sourceBytes projection, extract mediaType sourceBytes = .ok projection →
    projection.status ≠ .unsupported → projection.extractorId ≠ extractorId

/-- The parsers behind `_extract_fragments`, and the optional adapter. -/
structure Extractors where
  native : String → List UInt8 → Except ExtractionError (List ExtractedFragment)
  advanced : Option AdvancedExtractor

def failedProjection (status : ExtractionStatus) (failureCode : String) : ExtractionProjection :=
  ⟨status, some failureCode, [], extractorId, extractorVersion⟩

def ExtractionError.projection : ExtractionError → ExtractionProjection
  | .limit => failedProjection .rejectedLimit "EXTRACTION_LIMIT"
  | .mediaTypeUnsupported => failedProjection .unsupported "MEDIA_TYPE_UNSUPPORTED"
  | .parse => failedProjection .failedSafe "EXTRACTION_PARSE_FAILED"

/-- The projection of bytes without a native fragment. -/
def projectAdvanced (extractors : Extractors) (mediaType : String) (sourceBytes : List UInt8)
    (otherwise : ExtractionProjection) : ExtractionProjection :=
  match extractors.advanced with
  | none => otherwise
  | some advanced => match advanced.extract mediaType sourceBytes with
    | .error error => error.projection
    | .ok projection => if projection.status = .unsupported then otherwise else projection

/-- `_project_document` -/
def projectBytes (extractors : Extractors) (mediaType : String) (sourceBytes : List UInt8) : ExtractionProjection :=
  match extractors.native mediaType sourceBytes with
  | .ok [] => projectAdvanced extractors mediaType sourceBytes (failedProjection .failedSafe "EMPTY_EXTRACTED_TEXT")
  | .ok fragments => ⟨.completed, none, fragments, extractorId, extractorVersion⟩
  | .error .mediaTypeUnsupported =>
    projectAdvanced extractors mediaType sourceBytes (failedProjection .unsupported "MEDIA_TYPE_UNSUPPORTED")
  | .error error => error.projection

/-- What the private storage answers. -/
inductive StorageRead where
  | unavailable
  | bytes (sourceBytes : List UInt8)

def unavailableProjection : ExtractionProjection := failedProjection .failedSafe "PRIVATE_DOCUMENT_UNAVAILABLE"

def readProjection (extractors : Extractors) (document : DceDocumentRecord) : StorageRead → ExtractionProjection
  | .unavailable => unavailableProjection
  | .bytes sourceBytes =>
    if sourceBytes.length ≠ document.byteSize ∨ hexdigestBytes sourceBytes ≠ document.sha256 then
      failedProjection .failedSafe "PRIVATE_DOCUMENT_INTEGRITY_MISMATCH"
    else projectBytes extractors document.mediaType sourceBytes

def attemptProjection (extractors : Extractors) (document : DceDocumentRecord) (read : StorageRead) :
    ExtractionProjection :=
  if maxSourceBytes < document.byteSize then failedProjection .rejectedLimit "EXTRACTION_LIMIT"
  else readProjection extractors document read

def FragmentLocator.json (locator : FragmentLocator) : Json :=
  match locator.entry with
  | .pdfPage page => .obj [("kind", .str "pdf_page"), ("page", .int page), ("part", .int locator.part)]
  | .docxParagraph paragraph =>
    .obj [("kind", .str "docx_paragraph"), ("paragraph", .int paragraph), ("part", .int locator.part)]
  | .xlsxCell sheet cell =>
    .obj [("cell", .str cell), ("kind", .str "xlsx_cell"), ("part", .int locator.part), ("sheet", .str sheet)]
  | .textLine line => .obj [("kind", .str "text_line"), ("line", .int line), ("part", .int locator.part)]

def DceExtractionFragmentInput.json (fragment : DceExtractionFragmentInput) : Json :=
  .obj [("locator_json", fragment.locator.json), ("ordinal", .int fragment.ordinal),
    ("text", .str (String.ofList fragment.text)), ("text_sha256", .str fragment.textSha256)]

def optional (text : Option String) : Json := (text.map Json.str).getD .null

def RecordDceDocumentExtractionCommand.envelope (command : RecordDceDocumentExtractionCommand) : Envelope where
  toApplicationCommand := command.toApplicationCommand
  commandType := "RecordDceDocumentExtraction"
  payload := [("dce_document_id", .str command.dceDocumentId.str),
    ("extracted_char_count", .int command.extractedCharCount), ("extraction_id", .str command.extractionId.str),
    ("extractor_id", .str command.extractorId), ("extractor_version", .str command.extractorVersion),
    ("failure_code", optional command.failureCode),
    ("fragments", .arr (command.fragments.map DceExtractionFragmentInput.json)),
    ("input_sha256", .str command.inputSha256), ("status", .str command.status.value)]

/-- Why a service call fails: a check of its own, a command it cannot build, or the dispatch. -/
inductive ServiceError where
  | value (message : String)
  | validation (error : ValidationError)
  | dispatch (error : DispatchError)

def loadPrivateDocument (store : ExtractionStore) (tenantId dceDocumentId : Uuid) :
    Except ServiceError DceDocumentRecord := do
  let document ← orRaise (store.document tenantId dceDocumentId) (.value "DCE_DOCUMENT_REQUIRED")
  let version ← orRaise ((store.version tenantId document.dceVersionId).filter (·.isAdmitted))
    (.value "DCE_VERSION_NOT_ADMITTED")
  raiseIf (version.integrity ≠ .verified) (.value "DCE_VERSION_NOT_VERIFIED")
  raiseIf ((store.stagedObject tenantId document.storageObjectId).any (fun stagedObject =>
    stagedObject.state = .consumed ∧ stagedObject.consumedByDceVersionId = some document.dceVersionId) = false)
    (.value "DOCUMENT_STORAGE_NOT_CONSUMED")
  return document

def extractionContext (tenantId : Uuid) (now : Timestamp) : CommandContext :=
  ⟨tenantId, systemExtractionActorId, .system, now, none, none⟩

/-- An extraction: what the storage and the parsers answer it, when it runs, and the identifiers drawn for its
    receipt, its events, their messages and its fragments. -/
structure Attempt where
  read : StorageRead
  extractors : Extractors
  now : Timestamp
  receiptId : Uuid
  draws : Draws
  fragmentId : Nat → Uuid

def Attempt.dispatch (attempt : Attempt) (tenantId : Uuid) (command : RecordDceDocumentExtractionCommand) :
    OpenDispatch :=
  ⟨command.envelope, extractionContext tenantId attempt.now, attempt.receiptId⟩

def Attempt.execute (attempt : Attempt) (tenantId : Uuid) (command : RecordDceDocumentExtractionCommand)
    (store : ExtractionStore) : Transaction (ExtractionStore × HandlerOutcome) :=
  recordDceDocumentExtraction store attempt.fragmentId command (extractionContext tenantId attempt.now)

/-- `DceDocumentExtractionService.extract`; the dispatcher has a handler of the command. -/
def extract (supported : String → Bool) (ledger : Ledger ExtractionStore) (tenantId dceDocumentId : Uuid)
    (attempt : Attempt) : Except ServiceError (DispatchResult × Ledger ExtractionStore) := do
  let document ← loadPrivateDocument ledger.business tenantId dceDocumentId
  let command ← (recordingCommand document (attemptProjection attempt.extractors document attempt.read)).mapError
    .validation
  (dispatchAlone supported ledger command.envelope (extractionContext tenantId attempt.now) attempt.receiptId
    attempt.draws (attempt.execute tenantId command)).mapError .dispatch

end SmartAo.Dce
