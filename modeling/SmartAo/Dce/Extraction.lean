import SmartAo.Platform.Command

namespace SmartAo.Dce

open SmartAo.Foundation SmartAo.Platform

inductive ExtractionStatus where
  | completed
  | reviewRequired
  | unsupported
  | rejectedLimit
  | failedSafe
deriving DecidableEq

def ExtractionStatus.value : ExtractionStatus → String
  | completed => "COMPLETED"
  | reviewRequired => "REVIEW_REQUIRED"
  | unsupported => "UNSUPPORTED"
  | rejectedLimit => "REJECTED_LIMIT"
  | failedSafe => "FAILED_SAFE"

/-- Where an extractor found a text. -/
inductive Locator where
  | pdfPage (page : Nat)
  | docxParagraph (paragraph : Nat)
  | xlsxCell (sheet cell : String)
  | textLine (line : Nat)
deriving DecidableEq

structure DceDocumentExtractionRecord where
  id : Uuid
  tenantId : Uuid
  dceVersionId : Uuid
  dceDocumentId : Uuid
  inputSha256 : String
  extractorId : String
  extractorVersion : String
  status : ExtractionStatus
  fragmentCount : Nat
  extractedCharCount : Nat
  failureCode : Option String
deriving DecidableEq

instance : Schema DceDocumentExtractionRecord := .keyed fun row =>
  (row.id, row.tenantId, row.dceDocumentId, row.inputSha256, row.extractorId, row.extractorVersion)

/-- A located part of a text. -/
structure FragmentLocator where
  entry : Locator
  part : Nat
deriving DecidableEq

structure DceDocumentExtractionFragmentRecord where
  id : Uuid
  tenantId : Uuid
  extractionId : Uuid
  ordinal : Nat
  locator : FragmentLocator
  text : String
  textSha256 : String
deriving DecidableEq

instance : Schema DceDocumentExtractionFragmentRecord := .keyed fun row =>
  (row.id, row.tenantId, row.extractionId, row.ordinal)

/-- The extracted texts risks are sourced from; the extraction worker writes them. -/
structure SourceStore where
  extractions : Table DceDocumentExtractionRecord
  fragments : Table DceDocumentExtractionFragmentRecord

def SourceStore.empty : SourceStore := ⟨.empty, .empty⟩

/-- A fragment of a completed extraction of one DCE version. -/
def SourceStore.fragment (store : SourceStore) (tenantId dceVersionId sourceFragmentId : Uuid) :
    Option DceDocumentExtractionFragmentRecord :=
  store.fragments.find? fun fragment =>
    (fragment.tenantId = tenantId ∧ fragment.id = sourceFragmentId) ∧
      ∃ extraction ∈ store.extractions, extraction.tenantId = fragment.tenantId ∧
        extraction.id = fragment.extractionId ∧ extraction.dceVersionId = dceVersionId ∧
        extraction.status = .completed

def utf8 (text : String) : List UInt8 := text.toList.flatMap String.utf8EncodeChar

/-- The bytes of a text between two offsets decode to the excerpt when they are its encoding. -/
def excerptAt (text excerpt : String) (startByteOffset endByteOffset : Nat) : Bool :=
  let bytes := utf8 text
  startByteOffset < endByteOffset && endByteOffset ≤ bytes.length &&
    ((bytes.drop startByteOffset).take (endByteOffset - startByteOffset) == utf8 excerpt)

def SourceStore.supports (store : SourceStore) (tenantId dceVersionId sourceFragmentId : Uuid)
    (excerpt : String) (startByteOffset endByteOffset : Nat) : Bool :=
  (store.fragment tenantId dceVersionId sourceFragmentId).any fun fragment =>
    excerptAt fragment.text excerpt startByteOffset endByteOffset

end SmartAo.Dce
