import SmartAo.Foundation.Digest
import SmartAo.Foundation.Table
import SmartAo.Foundation.Transition
import SmartAo.Knowledge.Retrieval

namespace SmartAo.Knowledge

open SmartAo.Foundation SmartAo.Platform

/-- One immutable embedding of an extracted fragment and a model. -/
structure DceFragmentEmbeddingRecord (α : Type) where
  id : Uuid
  tenantId : Uuid
  dceVersionId : Uuid
  caseId : Uuid
  fragmentId : Uuid
  modelId : String
  ordinal : Int
  text : String
  locator : List (String × Json)
  classification : DataClassification
  textSha256 : String
  embedding : List α
  valid : retrievable ordinal text locator = true
  nonempty : embedding ≠ []

instance {α : Type} : Schema (DceFragmentEmbeddingRecord α) := .keyed fun row =>
  (row.id, (row.tenantId, row.fragmentId, row.modelId))

mutual

/-- A column of texts takes no character 0, nor does one of JSON values. -/
def hasNul : Json → Bool
  | .str text => text.toList.contains '\x00'
  | .arr items => anyNul items
  | .obj fields => anyFieldNul fields
  | _ => false

def anyNul : List Json → Bool
  | [] => false
  | item :: items => hasNul item || anyNul items

def anyFieldNul : List (String × Json) → Bool
  | [] => false
  | (key, value) :: fields => key.toList.contains '\x00' || hasNul value || anyFieldNul fields

end

/-- The check constraints and column types of a row. -/
def DceFragmentEmbeddingRecord.fits {α : Type} (row : DceFragmentEmbeddingRecord α) : Bool :=
  row.modelId.length ≤ 180 ∧ row.ordinal < 2 ^ 31 ∧ row.text.toList.contains '\x00' = false ∧
    anyFieldNul row.locator = false ∧ row.embedding.length < 2 ^ 31 ∧
    (row.classification = .publicData ∨ row.classification = .internalOperational)

/-- `references` tells whether a row's tenant, version, case and fragment are stored. -/
structure SqlAlchemyVectorIndex (α : Type) where
  modelId : String
  named : strip modelId ≠ ""
  references : RetrievalChunk → Bool
  records : Table (DceFragmentEmbeddingRecord α)

namespace SqlAlchemyVectorIndex

variable {α : Type}

def record (modelId : String) (entry : IndexEntry α) (id : Uuid) : DceFragmentEmbeddingRecord α where
  id
  tenantId := entry.1.tenantId
  dceVersionId := entry.1.dceVersionId
  caseId := entry.1.caseId
  fragmentId := entry.1.sourceFragmentId
  modelId
  ordinal := entry.1.ordinal
  text := entry.1.text
  locator := entry.1.locator
  classification := entry.1.classification
  textSha256 := hexdigest entry.1.text.toList
  embedding := entry.2.values
  valid := entry.1.valid
  nonempty := entry.2.nonempty

def existing (index : SqlAlchemyVectorIndex α) (chunk : RetrievalChunk) : Option (DceFragmentEmbeddingRecord α) :=
  index.records.find? fun row =>
    row.tenantId = chunk.tenantId ∧ row.fragmentId = chunk.sourceFragmentId ∧ row.modelId = index.modelId

variable [DecidableEq α]

/-- One chunk of an upsert, with the id drawn for its row; what the session has added is found by the next query. -/
def put (index : SqlAlchemyVectorIndex α) (entry : IndexEntry α) (id : Uuid) :
    Except VectorError (SqlAlchemyVectorIndex α) :=
  if entry.1.classification = .financialPrivate then .ok index
  else match index.existing entry.1 with
    | some row => do
      raiseIf (row.textSha256 ≠ hexdigest entry.1.text.toList ∨ row.embedding ≠ entry.2.values)
        (.value "embedding identity already exists with different content")
      return index
    | none => do
      raiseIf ((record index.modelId entry id).fits = false ∨ index.references entry.1 = false) .integrity
      let records ← orRaise (index.records.insert? (record index.modelId entry id)) .integrity
      return { index with records }

def putAll (index : SqlAlchemyVectorIndex α) : List (IndexEntry α × Uuid) → Except VectorError (SqlAlchemyVectorIndex α)
  | [] => return index
  | (entry, id) :: rest => do
    let next ← index.put entry id
    next.putAll rest

/-- `SqlAlchemyVectorIndex.upsert`, in one transaction. -/
def upsert (index : SqlAlchemyVectorIndex α) (chunks : List RetrievalChunk) (embeddings : List (EmbeddingVector α))
    (drawn : List Uuid) : Except VectorError (SqlAlchemyVectorIndex α) := do
  raiseIf (chunks.length ≠ embeddings.length) (.value "chunks and embeddings must have the same length")
  index.putAll ((chunks.zip embeddings).zip drawn)

end SqlAlchemyVectorIndex

namespace DceFragmentEmbeddingRecord

variable {α : Type} (row : DceFragmentEmbeddingRecord α)

/-- The chunk read back from a row has the row's own id. -/
def chunk : RetrievalChunk where
  chunkId := row.id
  tenantId := row.tenantId
  caseId := row.caseId
  dceVersionId := row.dceVersionId
  sourceFragmentId := row.fragmentId
  ordinal := row.ordinal
  text := row.text
  locator := row.locator
  classification := row.classification
  valid := row.valid

def vector : EmbeddingVector α := ⟨row.embedding, row.nonempty⟩

def inScope (scope : RetrievalScope) (embeddingModel : String) : Bool :=
  row.tenantId = scope.tenantId ∧ row.caseId = scope.caseId ∧ row.dceVersionId = scope.dceVersionId ∧
    row.modelId = embeddingModel ∧ row.classification ∈ scope.allowedClassifications

def order : Int ×ₗ Nat := toLex (row.ordinal, row.id.toNat)

end DceFragmentEmbeddingRecord

/-- `SqlAlchemyVectorIndex.search`: the rows of the scope are ranked by an index in memory. -/
def SqlAlchemyVectorIndex.search {α : Type} [Field α] [LinearOrder α] (sqrt : α → α) (index : SqlAlchemyVectorIndex α)
    (query : EmbeddingVector α) (scope : RetrievalScope) (embeddingModel : String) (topK : Int) :
    Except VectorError (List (RetrievalResult α)) := do
  let rows := rankBy (·.order) (index.records.rows.filter fun row => row.inScope scope embeddingModel)
  let memory ← InMemoryVectorIndex.empty.upsert (rows.map (·.chunk)) (rows.map (·.vector))
  return memory.search sqrt query scope embeddingModel topK

/-- A call that names the index's own model; an upsert comes with the ids that are drawn for it. -/
inductive VectorCall (α : Type) where
  | upsert (chunks : List RetrievalChunk) (embeddings : List (EmbeddingVector α)) (drawn : List Uuid)
  | search (query : EmbeddingVector α) (scope : RetrievalScope) (topK : Int)

variable {α : Type}

/-- What a call leaves in the index in memory. -/
def memoryStep (index : InMemoryVectorIndex α) : VectorCall α → Except VectorError (InMemoryVectorIndex α)
  | .upsert chunks embeddings _ => index.upsert chunks embeddings
  | .search .. => .ok index

/-- What it leaves in the database. -/
def sqlStep [DecidableEq α] (index : SqlAlchemyVectorIndex α) :
    VectorCall α → Except VectorError (SqlAlchemyVectorIndex α)
  | .upsert chunks embeddings drawn => index.upsert chunks embeddings drawn
  | .search .. => .ok index

end SmartAo.Knowledge
