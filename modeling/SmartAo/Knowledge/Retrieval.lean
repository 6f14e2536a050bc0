import Mathlib.Algebra.Field.Basic
import Mathlib.Algebra.Order.Ring.Defs
import Mathlib.Data.Prod.Lex
import SmartAo.Foundation.Dict
import SmartAo.Foundation.Guard
import SmartAo.Foundation.Json
import SmartAo.Foundation.Ranking
import SmartAo.Foundation.Text
import SmartAo.Platform.Command

namespace SmartAo.Knowledge

open SmartAo.Foundation SmartAo.Platform

inductive DataClassification where
  | publicData
  | internalOperational
  | personalData
  | financialPrivate
deriving DecidableEq

structure RetrievalScope where
  tenantId : Uuid
  caseId : Uuid
  dceVersionId : Uuid
  allowedClassifications : List DataClassification
  nonempty : allowedClassifications ≠ []

def maxRetrievalTextChars : Nat := 16000

/-- The checks of a chunk. -/
def retrievable (ordinal : Int) (text : String) (locator : List (String × Json)) : Bool :=
  1 ≤ ordinal ∧ strip text ≠ "" ∧ text.length ≤ maxRetrievalTextChars ∧ locator ≠ []

structure RetrievalChunk where
  chunkId : Uuid
  tenantId : Uuid
  caseId : Uuid
  dceVersionId : Uuid
  sourceFragmentId : Uuid
  ordinal : Int
  text : String
  locator : List (String × Json)
  classification : DataClassification
  valid : retrievable ordinal text locator = true

def RetrievalChunk.isVisibleIn (chunk : RetrievalChunk) (scope : RetrievalScope) : Bool :=
  chunk.tenantId = scope.tenantId ∧ chunk.caseId = scope.caseId ∧ chunk.dceVersionId = scope.dceVersionId ∧
    chunk.classification ∈ scope.allowedClassifications

/-- A vector of exact values. -/
structure EmbeddingVector (α : Type) where
  values : List α
  nonempty : values ≠ []

def EmbeddingVector.dimension {α : Type} (vector : EmbeddingVector α) : Nat := vector.values.length

structure RetrievalResult (α : Type) where
  chunk : RetrievalChunk
  score : α
  embeddingModel : String

inductive VectorError where
  | value (message : String)
  | integrity
deriving DecidableEq

section Similarity

variable {α : Type} [Field α] [LinearOrder α] (sqrt : α → α)

def norm (values : List α) : α := sqrt (values.map fun value => value * value).sum

/-- `_cosine_similarity` of two vectors of one dimension. -/
def cosineSimilarity (left right : List α) : α :=
  if norm sqrt left = 0 ∨ norm sqrt right = 0 then 0
  else max 0 (min 1 ((List.zipWith (· * ·) left right).sum / (norm sqrt left * norm sqrt right)))

/-- A score is between 0 and 1, as a result requires. -/
theorem cosineSimilarity_range [IsStrictOrderedRing α] (left right : List α) :
    0 ≤ cosineSimilarity sqrt left right ∧ cosineSimilarity sqrt left right ≤ 1 := by
  unfold cosineSimilarity
  split
  · exact ⟨le_refl 0, zero_le_one⟩
  · exact ⟨le_max_left _ _, max_le zero_le_one (min_le_left _ _)⟩

end Similarity

abbrev IndexEntry (α : Type) := RetrievalChunk × EmbeddingVector α

structure InMemoryVectorIndex (α : Type) where
  entries : Dict (Uuid × Uuid) (IndexEntry α)

namespace InMemoryVectorIndex

variable {α : Type}

def empty : InMemoryVectorIndex α := ⟨.empty⟩

def put (index : InMemoryVectorIndex α) (entry : IndexEntry α) : InMemoryVectorIndex α :=
  if entry.1.classification = .financialPrivate then index
  else ⟨index.entries.assign (entry.1.tenantId, entry.1.chunkId) entry⟩

def upsert (index : InMemoryVectorIndex α) (chunks : List RetrievalChunk) (embeddings : List (EmbeddingVector α)) :
    Except VectorError (InMemoryVectorIndex α) := do
  raiseIf (chunks.length ≠ embeddings.length) (.value "chunks and embeddings must have the same length")
  return (chunks.zip embeddings).foldl put index

variable [Field α] [LinearOrder α] (sqrt : α → α) (index : InMemoryVectorIndex α) (query : EmbeddingVector α)
  (scope : RetrievalScope) (embeddingModel : String)

/-- The result of a visible entry, if it has one. -/
def score (entry : IndexEntry α) : Option (RetrievalResult α) :=
  if entry.1.isVisibleIn scope = true ∧ entry.2.dimension = query.dimension ∧
      0 < cosineSimilarity sqrt query.values entry.2.values then
    some ⟨entry.1, cosineSimilarity sqrt query.values entry.2.values, embeddingModel⟩
  else none

/-- By descending score, then by ordinal, then by chunk; the texts of identifiers are in the order of their numbers. -/
def sortKey (result : RetrievalResult α) : α ×ₗ Int ×ₗ Nat :=
  toLex (-result.score, toLex (result.chunk.ordinal, result.chunk.chunkId.toNat))

/-- The results, before the limit. -/
def ranked : List (RetrievalResult α) :=
  rankBy sortKey (index.entries.entries.filterMap fun entry => score sqrt query scope embeddingModel entry.2)

/-- `InMemoryVectorIndex.search`, for a model with a name. -/
def search (topK : Int) : List (RetrievalResult α) := sliceTo topK (index.ranked sqrt query scope embeddingModel)

end InMemoryVectorIndex

end SmartAo.Knowledge
