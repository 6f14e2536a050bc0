import SmartAo.Dce.Extraction
import SmartAo.Dce.Records
import SmartAo.Foundation.Digest
import SmartAo.Foundation.Text
import SmartAo.Platform.Uuid

namespace SmartAo.Dce

open SmartAo.Foundation SmartAo.Platform

def maxFragmentChars : Nat := 8000

def maxTotalChars : Nat := 10000000

def maxTotalDocumentChars : Nat := 20000000

structure ExtractedFragment where
  ordinal : Nat
  locator : FragmentLocator
  text : List Char
deriving DecidableEq

/-- What an extractor yields: where it found a text, and the text. -/
structure ExtractedEntry where
  locator : Locator
  rawText : List Char

structure ExtractionProjection where
  status : ExtractionStatus
  failureCode : Option String
  fragments : List ExtractedFragment
  extractorId : String
  extractorVersion : String

inductive ExtractionLimitError where
  | limit
deriving DecidableEq

/-- The slices of a text of at most 8000 characters, in order. -/
def splitText (text : List Char) : List (List Char) :=
  (List.range ((text.length + (maxFragmentChars - 1)) / maxFragmentChars)).map fun index =>
    (text.drop (maxFragmentChars * index)).take maxFragmentChars

/-- The parts of one entry, numbered after the fragments before them. -/
def appendParts (locator : Locator) : Nat → List (List Char) → List ExtractedFragment → List ExtractedFragment
  | _, [], fragments => fragments
  | part, text :: texts, fragments =>
    appendParts locator (part + 1) texts (fragments ++ [⟨fragments.length + 1, ⟨locator, part⟩, text⟩])

def fragmentizeFrom (total : Nat) (fragments : List ExtractedFragment) :
    List ExtractedEntry → Except ExtractionLimitError (List ExtractedFragment)
  | [] => return fragments
  | entry :: entries => do
    raiseIf (maxTotalChars < entry.rawText.length) .limit
    raiseIf (maxTotalDocumentChars < total + entry.rawText.length) .limit
    fragmentizeFrom (total + entry.rawText.length)
      (appendParts entry.locator 1 (splitText (stripChars entry.rawText)) fragments) entries

/-- An entry without text has no part. -/
def fragmentize (entries : List ExtractedEntry) : Except ExtractionLimitError (List ExtractedFragment) :=
  fragmentizeFrom 0 [] entries

def isSha256 (text : String) : Bool :=
  text.length = 64 ∧ ∀ c ∈ text.toList, c ∈ "0123456789abcdefABCDEF".toList

theorem isSha256_hexdigest (text : List Char) : isSha256 (hexdigest text) = true := by
  have digits := hexDigits_isHexDigit 64 (sha256 text).toNat
  have widened : ∀ c, IsHexDigit c → c ∈ "0123456789abcdefABCDEF".toList := by
    intro c digit
    have inner : "0123456789abcdef".toList ⊆ "0123456789abcdefABCDEF".toList := by decide
    exact inner digit
  rw [isSha256, decide_eq_true_eq, hexdigest]
  refine ⟨by rw [String.length_ofList, hexDigits_length], fun c member => widened c (digits c ?_)⟩
  rwa [String.toList_ofList] at member

theorem lower_hexDigits (width n : Nat) :
    lower (String.ofList (hexDigits width n)) = String.ofList (hexDigits width n) := by
  have digits := hexDigits_isHexDigit width n
  have table : ∀ c ∈ "0123456789abcdef".toList, c.toLower = c := by decide
  have same : (hexDigits width n).map Char.toLower = hexDigits width n := by
    rw [List.map_congr_left fun c member => table c (digits c member), List.map_id']
  rw [lower, String.toList_ofList, same]

theorem lower_hexdigest (text : List Char) : lower (hexdigest text) = hexdigest text := lower_hexDigits 64 _

theorem lower_hexdigestBytes (bytes : List UInt8) : lower (hexdigestBytes bytes) = hexdigestBytes bytes :=
  lower_hexDigits 64 _

theorem isSha256_lower {text : String} (hex : isSha256 text = true) : isSha256 (lower text) = true := by
  have table : ∀ c ∈ "0123456789abcdefABCDEF".toList, c.toLower ∈ "0123456789abcdefABCDEF".toList := by decide
  rw [isSha256, decide_eq_true_eq] at hex ⊢
  rw [lower, String.length_ofList, String.toList_ofList, List.length_map, String.length_toList]
  refine ⟨hex.1, fun c member => ?_⟩
  obtain ⟨digit, inside, rfl⟩ := List.mem_map.mp member
  exact table digit (hex.2 digit inside)

/-- The other columns of a version a write may change. -/
structure VersionWrite where
  lifecycle : DceLifecycle
  integrity : DceIntegrity
  analysisReadiness : AnalysisReadiness

def VersionWrite.apply (write : VersionWrite) (version : DceVersionRecord) : DceVersionRecord :=
  { version with
    lifecycle := write.lifecycle, integrity := write.integrity, analysisReadiness := write.analysisReadiness
    aggregateRevision := version.aggregateRevision + 1 }

theorem VersionWrite.apply_columns (write : VersionWrite) (version : DceVersionRecord) :
    Schema.columns (write.apply version) = Schema.columns version := rfl

/-- A document of an admitted version carries the hash its staged object was consumed with. -/
structure DceDocumentRecord where
  id : Uuid
  tenantId : Uuid
  dceVersionId : Uuid
  storageObjectId : Uuid
  storageKey : String
  mediaType : String
  byteSize : Nat
  sha256 : String
  hex : isSha256 sha256 = true
deriving DecidableEq

instance : Schema DceDocumentRecord := .keyed fun row =>
  (row.id, row.tenantId, row.dceVersionId, row.sha256)

inductive StagedObjectState where
  | awaitingUpload
  | uploading
  | quarantined
  | clean
  | rejected
  | consumed
  | expired
deriving DecidableEq

inductive ScanVerdict where
  | clean
  | infected
  | error
deriving DecidableEq

structure DceStagedObjectRecord where
  id : Uuid
  tenantId : Uuid
  consultationId : Uuid
  storageKey : String
  expectedByteSize : Nat
  actualByteSize : Option Nat
  sha256 : Option String
  mediaType : Option String
  state : StagedObjectState
  scanVerdict : Option ScanVerdict
  rejectionCode : Option String
  expiresAt : Timestamp
  consumedByDceVersionId : Option Uuid
deriving DecidableEq

instance : Schema DceStagedObjectRecord := .keyed fun row => (row.id, row.storageKey)

structure ExtractionStore where
  versions : Table DceVersionRecord
  documents : Table DceDocumentRecord
  stagedObjects : Table DceStagedObjectRecord
  sources : SourceStore

/-- Why a command is not built: a field or the model refuses its values, or a table lacks a key. -/
inductive ValidationError where
  | field (name : String)
  | model (message : String)
  | key (name : String)
deriving DecidableEq

structure DceExtractionFragmentInput where
  ordinal : Nat
  locator : FragmentLocator
  text : List Char
  textSha256 : String

/-- The text loses its whitespace at both ends before its length is checked. -/
def DceExtractionFragmentInput.build (ordinal : Nat) (locator : FragmentLocator) (text : List Char)
    (textSha256 : String) : Except ValidationError DceExtractionFragmentInput := do
  raiseIf (ordinal = 0) (.field "ordinal")
  let text := trimBy isWhiteSpace text
  raiseIf (text = [] ∨ maxFragmentChars < text.length) (.field "text")
  raiseIf (isSha256 textSha256 = false) (.field "text_sha256")
  return ⟨ordinal, locator, text, textSha256⟩

structure RecordDceDocumentExtractionCommand extends ApplicationCommand where
  extractionId : Uuid
  dceDocumentId : Uuid
  inputSha256 : String
  extractorId : String
  extractorVersion : String
  status : ExtractionStatus
  extractedCharCount : Nat
  failureCode : Option String
  fragments : List DceExtractionFragmentInput

def charCount {α : Type} (text : α → List Char) (items : List α) : Nat :=
  (items.map fun item => (text item).length).sum

namespace RecordDceDocumentExtractionCommand

def validateTerminalProjection (command : RecordDceDocumentExtractionCommand) : Except ValidationError Unit :=
  match command.status with
  | .completed => do
    raiseIf (command.failureCode ≠ none ∨ command.fragments.isEmpty)
      (.model "completed extraction requires fragments and no failure code")
    raiseIf (charCount (·.text) command.fragments ≠ command.extractedCharCount)
      (.model "completed extraction character count mismatch")
  | .reviewRequired => do
    raiseIf (command.failureCode = none ∨ command.fragments.isEmpty)
      (.model "review-required extraction requires fragments and a reason")
    raiseIf (charCount (·.text) command.fragments ≠ command.extractedCharCount)
      (.model "review-required extraction character count mismatch")
  | .unsupported | .rejectedLimit | .failedSafe =>
    raiseIf (command.failureCode = none ∨ command.fragments.isEmpty = false ∨ command.extractedCharCount ≠ 0)
      (.model "failed extraction requires a code and no fragments")

/-- The fields a command is built from are checked first, in their order, then the model. -/
def build (command : RecordDceDocumentExtractionCommand) :
    Except ValidationError RecordDceDocumentExtractionCommand := do
  raiseIf (isSha256 command.inputSha256 = false) (.field "input_sha256")
  raiseIf (command.extractorId = "" ∨ 100 < command.extractorId.length) (.field "extractor_id")
  raiseIf (command.extractorVersion = "" ∨ 64 < command.extractorVersion.length) (.field "extractor_version")
  raiseIf (10000000 < command.extractedCharCount) (.field "extracted_char_count")
  raiseIf (command.failureCode.any fun code => 120 < code.length) (.field "failure_code")
  raiseIf (500000 < command.fragments.length) (.field "fragments")
  command.validateTerminalProjection
  return command

end RecordDceDocumentExtractionCommand

def extractionName (document : DceDocumentRecord) (projection : ExtractionProjection) : List Char :=
  (lower document.sha256).toList ++ ':' :: (projection.extractorId.toList ++ ':' ::
    projection.extractorVersion.toList)

/-- `_recording_command` -/
def recordingCommand (document : DceDocumentRecord) (projection : ExtractionProjection) :
    Except ValidationError RecordDceDocumentExtractionCommand := do
  let extractionIdentity := uuid5 document.id (extractionName document projection)
  let fragments ← collect (fun fragment => DceExtractionFragmentInput.build fragment.ordinal fragment.locator
    fragment.text (hexdigest fragment.text)) projection.fragments
  RecordDceDocumentExtractionCommand.build {
    commandId := extractionIdentity, idempotencyKey := extractionIdentity
    correlationId := some document.dceVersionId, extractionId := extractionIdentity
    dceDocumentId := document.id, inputSha256 := lower document.sha256
    extractorId := projection.extractorId, extractorVersion := projection.extractorVersion
    status := projection.status, extractedCharCount := charCount (·.text) projection.fragments
    failureCode := projection.failureCode, fragments }

/-- `_project_document` on a supported media type, without an advanced extractor. -/
def projectDocument (entries : List ExtractedEntry) : ExtractionProjection :=
  match fragmentize entries with
  | .error .limit => ⟨.rejectedLimit, some "EXTRACTION_LIMIT", [], "smart-ao-deterministic", "1"⟩
  | .ok fragments =>
    if fragments = [] then ⟨.failedSafe, some "EMPTY_EXTRACTED_TEXT", [], "smart-ao-deterministic", "1"⟩
    else ⟨.completed, none, fragments, "smart-ao-deterministic", "1"⟩

/-- Every locator an extractor yields has a kind, so the check of it never fires. -/
def validateExtractionFragments (command : RecordDceDocumentExtractionCommand) : Transaction Unit := do
  raiseIf (command.fragments.map (·.ordinal) ≠ List.range' 1 command.fragments.length)
    (.failed "DCE_EXTRACTION_FRAGMENT_ORDINAL_REQUIRED")
  raiseIf (∃ fragment ∈ command.fragments, lower fragment.textSha256 ≠ hexdigest fragment.text)
    (.failed "DCE_EXTRACTION_FRAGMENT_HASH_REQUIRED")

def checkFragments (command : RecordDceDocumentExtractionCommand) : Transaction Unit :=
  if command.status = .completed ∨ command.status = .reviewRequired then validateExtractionFragments command
  else return

/-- The rows of a projection, under the identifiers drawn for them. -/
def fragmentRecords (tenantId : Uuid) (draw : Nat → Uuid) (command : RecordDceDocumentExtractionCommand) :
    List DceDocumentExtractionFragmentRecord :=
  command.fragments.mapIdx fun index fragment =>
    ⟨draw index, tenantId, command.extractionId, fragment.ordinal, fragment.locator,
      String.ofList fragment.text, lower fragment.textSha256⟩

namespace ExtractionStore

def version (store : ExtractionStore) (tenantId dceVersionId : Uuid) : Option DceVersionRecord :=
  store.versions.find? fun row => row.tenantId = tenantId ∧ row.id = dceVersionId

def document (store : ExtractionStore) (tenantId dceDocumentId : Uuid) : Option DceDocumentRecord :=
  store.documents.find? fun row => row.tenantId = tenantId ∧ row.id = dceDocumentId

def stagedObject (store : ExtractionStore) (tenantId storageObjectId : Uuid) : Option DceStagedObjectRecord :=
  store.stagedObjects.find? fun row => row.tenantId = tenantId ∧ row.id = storageObjectId

end ExtractionStore

def DceStagedObjectRecord.isConsumedBy (stagedObject : DceStagedObjectRecord) (document : DceDocumentRecord) :
    Bool :=
  stagedObject.state = .consumed ∧ stagedObject.consumedByDceVersionId = some document.dceVersionId ∧
    stagedObject.sha256.map lower = some (lower document.sha256)

def recordDceDocumentExtraction (store : ExtractionStore) (draw : Nat → Uuid)
    (command : RecordDceDocumentExtractionCommand) (context : CommandContext) :
    Transaction (ExtractionStore × HandlerOutcome) := do
  raiseIf (context.actorKind ≠ .system) (.failed "DCE_EXTRACTION_SYSTEM_ACTOR_REQUIRED")
  let document ← orRaise (store.document context.tenantId command.dceDocumentId) (.failed "DCE_DOCUMENT_REQUIRED")
  let version ← orRaise ((store.version context.tenantId document.dceVersionId).filter (·.isAdmitted))
    (.failed "DCE_VERSION_NOT_ADMITTED")
  raiseIf (version.integrity ≠ .verified) (.failed "DCE_VERSION_NOT_VERIFIED")
  raiseIf ((store.stagedObject context.tenantId document.storageObjectId).any (·.isConsumedBy document) = false)
    (.failed "DOCUMENT_STORAGE_NOT_CONSUMED")
  raiseIf (lower command.inputSha256 ≠ lower document.sha256) (.failed "DOCUMENT_INPUT_HASH_REQUIRED")
  checkFragments command
  let extractions ← flush (store.sources.extractions.insert? {
    id := command.extractionId, tenantId := context.tenantId, dceVersionId := version.id
    dceDocumentId := document.id, inputSha256 := lower command.inputSha256
    extractorId := command.extractorId, extractorVersion := command.extractorVersion
    status := command.status, fragmentCount := command.fragments.length
    extractedCharCount := command.extractedCharCount, failureCode := command.failureCode })
  let fragments ← flush (store.sources.fragments.insertAll? (fragmentRecords context.tenantId draw command))
  return ({ store with sources := { extractions, fragments } }, {
    resultCode := "DCE_DOCUMENT_EXTRACTION_RECORDED"
    aggregateRefs := [{
      aggregateType := "DCE_DOCUMENT_EXTRACTION", aggregateId := command.extractionId.str, aggregateRevision := 0 }]
    events := [{
      aggregateType := "DCE_DOCUMENT_EXTRACTION", aggregateId := command.extractionId, aggregateRevision := 0
      eventType := "DCE_DOCUMENT_EXTRACTION_RECORDED"
      payload := [("extraction_id", .str command.extractionId.str), ("dce_document_id", .str document.id.str),
        ("status", .str command.status.value), ("fragment_count", .int command.fragments.length),
        ("extracted_char_count", .int command.extractedCharCount)] }] })

end SmartAo.Dce
