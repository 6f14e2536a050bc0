import Mathlib.Algebra.Order.Field.Rat
import Mathlib.Data.Rat.Sqrt
import SmartAo.Knowledge.VectorIndex

namespace SmartAo.Knowledge

open SmartAo.Foundation SmartAo.Platform

variable {α : Type}

/-- A hit, identified by tenant and source fragment. -/
structure Hit (α : Type) where
  tenantId : Uuid
  sourceFragmentId : Uuid
  text : String
  classification : DataClassification
  score : α
  ordinal : Int

def RetrievalResult.hit (result : RetrievalResult α) : Hit α where
  tenantId := result.chunk.tenantId
  sourceFragmentId := result.chunk.sourceFragmentId
  text := result.chunk.text
  classification := result.chunk.classification
  score := result.score
  ordinal := result.chunk.ordinal

/-- What an index holds of a fragment, whatever it identifies it by. -/
structure IndexedFragment (α : Type) where
  tenantId : Uuid
  caseId : Uuid
  dceVersionId : Uuid
  sourceFragmentId : Uuid
  ordinal : Int
  text : String
  classification : DataClassification
  values : List α

def fragmentOf (entry : IndexEntry α) : IndexedFragment α where
  tenantId := entry.1.tenantId
  caseId := entry.1.caseId
  dceVersionId := entry.1.dceVersionId
  sourceFragmentId := entry.1.sourceFragmentId
  ordinal := entry.1.ordinal
  text := entry.1.text
  classification := entry.1.classification
  values := entry.2.values

def DceFragmentEmbeddingRecord.entry (row : DceFragmentEmbeddingRecord α) : IndexEntry α := (row.chunk, row.vector)

/-- The ids that a call draws. -/
def VectorCall.drawn : VectorCall α → List Uuid
  | .upsert _ _ drawn => drawn
  | .search .. => []

/-- The entries that a call offers to the indexes. -/
def VectorCall.offers : VectorCall α → List (IndexEntry α)
  | .upsert chunks embeddings _ =>
    if chunks.length = embeddings.length then
      (chunks.zip embeddings).filter fun entry => entry.1.classification ≠ .financialPrivate
    else []
  | .search .. => []

/-- Every upsert draws an id for each of its chunks. -/
def VectorCall.Drawn : VectorCall α → Prop
  | .upsert chunks _ drawn => drawn.length = chunks.length
  | .search .. => True

/-- A fragment has one chunk id, it is offered again unchanged, and the table takes its row. -/
structure Steady (modelId : String) (references : RetrievalChunk → Bool) (offers : List (IndexEntry α)) : Prop where
  named : ∀ first ∈ offers, ∀ second ∈ offers, first.1.tenantId = second.1.tenantId →
    (first.1.chunkId = second.1.chunkId ↔ first.1.sourceFragmentId = second.1.sourceFragmentId)
  unchanged : ∀ first ∈ offers, ∀ second ∈ offers, first.1.tenantId = second.1.tenantId →
    first.1.sourceFragmentId = second.1.sourceFragmentId → fragmentOf first = fragmentOf second
  stored : ∀ entry ∈ offers,
    (SqlAlchemyVectorIndex.record modelId entry 0).fits = true ∧ references entry.1 = true

/-- The calls offer steady entries, and every id they draw is new. -/
structure Repeatable (modelId : String) (references : RetrievalChunk → Bool) (calls : List (VectorCall α)) : Prop where
  drawn : ∀ call ∈ calls, call.Drawn
  fresh : (calls.flatMap VectorCall.drawn).Nodup
  steady : Steady modelId references (calls.flatMap VectorCall.offers)

section Agreement

variable [Field α] [LinearOrder α] (sqrt : α → α)

/-- What the results are ordered by before their chunk ids. -/
def Hit.rank (hit : Hit α) : α ×ₗ Int := toLex (-hit.score, hit.ordinal)

/-- Two limited lists of results: the same ranks, and the same hits where no two visible fragments have one rank. A
    limit that cuts nothing off leaves the same hits in some order. -/
structure SameHits (ranking first second : List (RetrievalResult α)) : Prop where
  ranks : first.map (·.hit.rank) = second.map (·.hit.rank)
  hits : (ranking.map (·.hit.rank)).Nodup → first.map (·.hit) = second.map (·.hit)
  whole : first.length = ranking.length → (first.map (·.hit)).Perm (second.map (·.hit))

/-- The two indexes answer a call alike. -/
def CallAgrees (memory : InMemoryVectorIndex α) (sql : SqlAlchemyVectorIndex α) : VectorCall α → Prop
  | .upsert chunks embeddings drawn =>
    (memory.upsert chunks embeddings).isOk = (sql.upsert chunks embeddings drawn).isOk
  | .search query scope topK => ∃ results, sql.search sqrt query scope sql.modelId topK = .ok results ∧
    SameHits (memory.ranked sqrt query scope sql.modelId) (memory.search sqrt query scope sql.modelId topK) results

end Agreement

/-- The entries of the index in memory and the rows of the table hold the same fragments in the same order. -/
structure Related (modelId : String) (references : RetrievalChunk → Bool) (offers : List (IndexEntry α))
    (drawn : List Uuid) (memory : InMemoryVectorIndex α) (sql : SqlAlchemyVectorIndex α) : Prop where
  model : sql.modelId = modelId
  references : sql.references = references
  fragments : memory.entries.entries.map (fun entry => fragmentOf entry.2) =
    sql.records.rows.map fun row => fragmentOf row.entry
  keys : ∀ entry ∈ memory.entries.entries, entry.1 = (entry.2.1.tenantId, entry.2.1.chunkId) ∧ entry.2 ∈ offers
  rows : ∀ row ∈ sql.records, row.modelId = modelId ∧ row.textSha256 = hexdigest row.text.toList ∧
    row.id ∈ drawn ∧ row.classification ≠ .financialPrivate

section Simulation

variable {modelId : String} {references : RetrievalChunk → Bool} {offers : List (IndexEntry α)}
  {drawn : List Uuid} {memory : InMemoryVectorIndex α} {sql : SqlAlchemyVectorIndex α} {entry : IndexEntry α}

theorem existing_eq_some {chunk : RetrievalChunk} {row : DceFragmentEmbeddingRecord α} :
    sql.existing chunk = some row ↔ row ∈ sql.records ∧ row.tenantId = chunk.tenantId ∧
      row.fragmentId = chunk.sourceFragmentId ∧ row.modelId = sql.modelId := by
  have key {first second : DceFragmentEmbeddingRecord α}
      (one : decide (first.tenantId = chunk.tenantId ∧ first.fragmentId = chunk.sourceFragmentId ∧
        first.modelId = sql.modelId) = true)
      (other : decide (second.tenantId = chunk.tenantId ∧ second.fragmentId = chunk.sourceFragmentId ∧
        second.modelId = sql.modelId) = true) : Schema.Conflict first second := by
    obtain ⟨tenant, fragment, model⟩ := of_decide_eq_true one
    obtain ⟨sameTenant, sameFragment, sameModel⟩ := of_decide_eq_true other
    have keys : (first.tenantId, first.fragmentId, first.modelId) =
        (second.tenantId, second.fragmentId, second.modelId) := by
      rw [tenant, fragment, model, sameTenant, sameFragment, sameModel]
    exact .inr keys
  rw [SqlAlchemyVectorIndex.existing, Table.find?_eq_some key, decide_eq_true_eq]

/-- Entries of one key hold one fragment. -/
theorem Related.same_fragment (related : Related modelId references offers drawn memory sql)
    (steady : Steady modelId references offers) (offered : entry ∈ offers)
    {stored : (Uuid × Uuid) × IndexEntry α} (member : stored ∈ memory.entries.entries) :
    stored.1 = (entry.1.tenantId, entry.1.chunkId) ↔
      stored.2.1.tenantId = entry.1.tenantId ∧ stored.2.1.sourceFragmentId = entry.1.sourceFragmentId := by
  obtain ⟨key, known⟩ := related.keys stored member
  rw [key, Prod.mk.injEq]
  constructor
  · rintro ⟨tenant, chunk⟩
    exact ⟨tenant, (steady.named _ known _ offered tenant).mp chunk⟩
  · rintro ⟨tenant, fragment⟩
    exact ⟨tenant, (steady.named _ known _ offered tenant).mpr fragment⟩

/-- A key is in memory exactly when the table has a row of its fragment, which holds what is offered. -/
theorem Related.present_iff (related : Related modelId references offers drawn memory sql)
    (steady : Steady modelId references offers) (offered : entry ∈ offers) :
    (entry.1.tenantId, entry.1.chunkId) ∈ memory.entries.entries.map Prod.fst ↔
      ∃ row ∈ sql.records, row.tenantId = entry.1.tenantId ∧ row.fragmentId = entry.1.sourceFragmentId := by
  constructor
  · intro present
    obtain ⟨stored, member, key⟩ := List.mem_map.mp present
    obtain ⟨tenant, fragment⟩ := (related.same_fragment steady offered member).mp key
    have held : fragmentOf stored.2 ∈ sql.records.rows.map fun row => fragmentOf row.entry := by
      rw [← related.fragments]
      exact List.mem_map.mpr ⟨stored, member, rfl⟩
    obtain ⟨row, stands, same⟩ := List.mem_map.mp held
    have rowTenant : row.tenantId = stored.2.1.tenantId := congrArg IndexedFragment.tenantId same
    have rowFragment : row.fragmentId = stored.2.1.sourceFragmentId := congrArg IndexedFragment.sourceFragmentId same
    exact ⟨row, stands, rowTenant.trans tenant, rowFragment.trans fragment⟩
  · rintro ⟨row, stands, tenant, fragment⟩
    have held : fragmentOf row.entry ∈ memory.entries.entries.map fun entry => fragmentOf entry.2 := by
      rw [related.fragments]
      exact List.mem_map.mpr ⟨row, stands, rfl⟩
    obtain ⟨stored, member, same⟩ := List.mem_map.mp held
    have storedTenant : stored.2.1.tenantId = row.tenantId := congrArg IndexedFragment.tenantId same
    have storedFragment : stored.2.1.sourceFragmentId = row.fragmentId := congrArg IndexedFragment.sourceFragmentId same
    have key := (related.same_fragment steady offered member).mpr
      ⟨storedTenant.trans tenant, storedFragment.trans fragment⟩
    exact List.mem_map.mpr ⟨stored, member, key⟩

theorem Related.draw (related : Related modelId references offers drawn memory sql) (more : List Uuid) :
    Related modelId references offers (drawn ++ more) memory sql where
  model := related.model
  references := related.references
  fragments := related.fragments
  keys := related.keys
  rows row member :=
    have held := related.rows row member
    ⟨held.1, held.2.1, List.mem_append_left _ held.2.2.1, held.2.2.2⟩

variable [DecidableEq α]

theorem Related.put_present (related : Related modelId references offers drawn memory sql)
    (steady : Steady modelId references offers) (offered : entry ∈ offers)
    (kept : entry.1.classification ≠ .financialPrivate)
    (present : (entry.1.tenantId, entry.1.chunkId) ∈ memory.entries.entries.map Prod.fst) (id : Uuid) :
    sql.put entry id = .ok sql ∧ Related modelId references offers drawn (memory.put entry) sql := by
  have same {stored : (Uuid × Uuid) × IndexEntry α} (member : stored ∈ memory.entries.entries)
      (key : stored.1 = (entry.1.tenantId, entry.1.chunkId)) : fragmentOf stored.2 = fragmentOf entry := by
    obtain ⟨tenant, fragment⟩ := (related.same_fragment steady offered member).mp key
    exact steady.unchanged _ (related.keys stored member).2 _ offered tenant fragment
  constructor
  · obtain ⟨row, stands, tenant, fragment⟩ := (related.present_iff steady offered).mp present
    obtain ⟨model, digest, -, -⟩ := related.rows row stands
    have found : sql.existing entry.1 = some row :=
      existing_eq_some.mpr ⟨stands, tenant, fragment, model.trans related.model.symm⟩
    have held : fragmentOf row.entry ∈ memory.entries.entries.map fun entry => fragmentOf entry.2 := by
      rw [related.fragments]
      exact List.mem_map.mpr ⟨row, stands, rfl⟩
    obtain ⟨stored, member, alike⟩ := List.mem_map.mp held
    have storedTenant : stored.2.1.tenantId = row.tenantId := congrArg IndexedFragment.tenantId alike
    have storedFragment : stored.2.1.sourceFragmentId = row.fragmentId :=
      congrArg IndexedFragment.sourceFragmentId alike
    have key := (related.same_fragment steady offered member).mpr
      ⟨storedTenant.trans tenant, storedFragment.trans fragment⟩
    have content : fragmentOf row.entry = fragmentOf entry := alike.symm.trans (same member key)
    have text : row.text = entry.1.text := congrArg IndexedFragment.text content
    have values : row.embedding = entry.2.values := congrArg IndexedFragment.values content
    rw [SqlAlchemyVectorIndex.put, if_neg kept, found]
    show (do raiseIf _ _; return sql : Except VectorError _) = _
    rw [raiseIf_pass (by rw [digest, text, values]; simp)]
    rfl
  · have assigned : (memory.put entry).entries.entries = memory.entries.entries.map fun stored =>
        if stored.1 = (entry.1.tenantId, entry.1.chunkId) then ((entry.1.tenantId, entry.1.chunkId), entry)
        else stored := by
      rw [InMemoryVectorIndex.put, if_neg kept]
      exact if_pos present
    refine ⟨related.model, related.references, ?_, ?_, related.rows⟩
    · rw [assigned, ← related.fragments, List.map_map]
      refine List.map_congr_left fun stored member => ?_
      by_cases key : stored.1 = (entry.1.tenantId, entry.1.chunkId)
      · simp [key, same member key]
      · simp [key]
    · rw [assigned]
      intro changed member
      obtain ⟨stored, before, rfl⟩ := List.mem_map.mp member
      by_cases key : stored.1 = (entry.1.tenantId, entry.1.chunkId)
      · rw [if_pos key]
        exact ⟨rfl, offered⟩
      · rw [if_neg key]
        exact related.keys stored before

theorem Related.put_absent (related : Related modelId references offers drawn memory sql)
    (steady : Steady modelId references offers) (offered : entry ∈ offers)
    (kept : entry.1.classification ≠ .financialPrivate)
    (absent : (entry.1.tenantId, entry.1.chunkId) ∉ memory.entries.entries.map Prod.fst) {id : Uuid}
    (new : id ∉ drawn) :
    ∃ next, sql.put entry id = .ok next ∧
      Related modelId references offers (drawn ++ [id]) (memory.put entry) next := by
  have unseen : ∀ row ∈ sql.records, ¬ (row.tenantId = entry.1.tenantId ∧
      row.fragmentId = entry.1.sourceFragmentId) :=
    fun row stands both => absent ((related.present_iff steady offered).mpr ⟨row, stands, both⟩)
  have missing : sql.existing entry.1 = none := by
    refine Table.find?_none.mpr fun row stands => ?_
    rw [decide_eq_false_iff_not]
    exact fun all => unseen row stands ⟨all.1, all.2.1⟩
  have fits : (SqlAlchemyVectorIndex.record sql.modelId entry id).fits = true ∧ sql.references entry.1 = true := by
    rw [related.model, related.references]
    exact steady.stored entry offered
  have free : (sql.records.insert? (SqlAlchemyVectorIndex.record sql.modelId entry id)).isSome := by
    refine Table.insert?_isSome.mpr fun row stands conflict => ?_
    rcases conflict with same | same
    · have drawnBefore := (related.rows row stands).2.2.1
      have named : row.id = id := same
      rw [named] at drawnBefore
      exact new drawnBefore
    · have keys : (row.tenantId, row.fragmentId, row.modelId) =
          (entry.1.tenantId, entry.1.sourceFragmentId, sql.modelId) := same
      exact unseen row stands ⟨(Prod.mk.inj keys).1, (Prod.mk.inj (Prod.mk.inj keys).2).1⟩
  obtain ⟨records, inserted⟩ := Option.isSome_iff_exists.mp free
  refine ⟨{ sql with records }, ?_, related.model, related.references, ?_, ?_, ?_⟩
  · rw [SqlAlchemyVectorIndex.put, if_neg kept, missing]
    show (do
      raiseIf _ _
      let records ← orRaise (sql.records.insert? _) _
      return { sql with records } : Except VectorError _) = _
    rw [raiseIf_pass (by simp [fits]), inserted]
    rfl
  · have assigned : (memory.put entry).entries.entries =
        memory.entries.entries ++ [((entry.1.tenantId, entry.1.chunkId), entry)] := by
      rw [InMemoryVectorIndex.put, if_neg kept]
      exact if_neg absent
    show _ = records.rows.map _
    rw [assigned, Table.insert?_rows inserted, List.map_append, List.map_append, related.fragments]
    rfl
  · have assigned : (memory.put entry).entries.entries =
        memory.entries.entries ++ [((entry.1.tenantId, entry.1.chunkId), entry)] := by
      rw [InMemoryVectorIndex.put, if_neg kept]
      exact if_neg absent
    rw [assigned]
    intro stored member
    rcases List.mem_append.mp member with before | only
    · exact related.keys stored before
    · rw [List.mem_singleton.mp only]
      exact ⟨rfl, offered⟩
  · intro row member
    rcases (Table.mem_insert? inserted).mp member with before | only
    · obtain ⟨model, digest, known, shown⟩ := related.rows row before
      exact ⟨model, digest, List.mem_append_left _ known, shown⟩
    · rw [only]
      exact ⟨related.model, rfl, List.mem_append_right _ (List.mem_singleton_self _), kept⟩

/-- One entry is taken by both indexes, or by neither. -/
theorem Related.put (related : Related modelId references offers drawn memory sql)
    (steady : Steady modelId references offers) (offered : entry.1.classification ≠ .financialPrivate → entry ∈ offers)
    {id : Uuid} (new : id ∉ drawn) :
    ∃ next, sql.put entry id = .ok next ∧
      Related modelId references offers (drawn ++ [id]) (memory.put entry) next := by
  by_cases hidden : entry.1.classification = .financialPrivate
  · refine ⟨sql, if_pos hidden, ?_⟩
    rw [InMemoryVectorIndex.put, if_pos hidden]
    exact related.draw [id]
  · by_cases present : (entry.1.tenantId, entry.1.chunkId) ∈ memory.entries.entries.map Prod.fst
    · obtain ⟨done, after⟩ := related.put_present steady (offered hidden) hidden present id
      exact ⟨sql, done, after.draw [id]⟩
    · exact related.put_absent steady (offered hidden) hidden present new

theorem Related.putAll {pairs : List (IndexEntry α × Uuid)}
    (related : Related modelId references offers drawn memory sql) (steady : Steady modelId references offers)
    (offered : ∀ pair ∈ pairs, pair.1.1.classification ≠ .financialPrivate → pair.1 ∈ offers)
    (fresh : (drawn ++ pairs.map Prod.snd).Nodup) :
    ∃ next, sql.putAll pairs = .ok next ∧ Related modelId references offers (drawn ++ pairs.map Prod.snd)
      ((pairs.map Prod.fst).foldl InMemoryVectorIndex.put memory) next := by
  induction pairs generalizing drawn memory sql with
  | nil => exact ⟨sql, rfl, by simpa using related⟩
  | cons pair pairs ih =>
    obtain ⟨entry, id⟩ := pair
    have spread : drawn ++ ((entry, id) :: pairs).map Prod.snd = (drawn ++ [id]) ++ pairs.map Prod.snd := by simp
    have new : id ∉ drawn := by
      intro old
      have apart := (List.nodup_append.mp fresh).2.2
      exact apart id old id List.mem_cons_self rfl
    obtain ⟨after, done, held⟩ := related.put steady (offered _ List.mem_cons_self) new
    obtain ⟨next, rest, related⟩ := ih held (fun pair member => offered pair (List.mem_cons_of_mem _ member))
      (by rw [← spread]; exact fresh)
    refine ⟨next, ?_, ?_⟩
    · rw [SqlAlchemyVectorIndex.putAll, bind_of_ok done, rest]
    · rw [spread]
      exact related

/-- A call whose ids are new is accepted or refused by both indexes, and leaves them related. -/
theorem Related.step {call : VectorCall α} (related : Related modelId references offers drawn memory sql)
    (steady : Steady modelId references offers) (offered : ∀ entry ∈ call.offers, entry ∈ offers)
    (draws : call.Drawn) (fresh : (drawn ++ call.drawn).Nodup) :
    (memoryStep memory call).isOk = (sqlStep sql call).isOk ∧
      Related modelId references offers (drawn ++ call.drawn) (commit memoryStep memory call)
        (commit sqlStep sql call) := by
  cases call with
  | search query scope topK => exact ⟨rfl, related.draw []⟩
  | upsert chunks embeddings drawnIds =>
    by_cases same : chunks.length = embeddings.length
    · have pairing : (chunks.zip embeddings).length = drawnIds.length := by
        rw [List.length_zip, ← same, Nat.min_self]
        exact draws.symm
      have entries : ((chunks.zip embeddings).zip drawnIds).map Prod.fst = chunks.zip embeddings :=
        List.map_fst_zip (le_of_eq pairing)
      have ids : ((chunks.zip embeddings).zip drawnIds).map Prod.snd = drawnIds :=
        List.map_snd_zip (le_of_eq pairing.symm)
      have kept : ∀ pair ∈ (chunks.zip embeddings).zip drawnIds,
          pair.1.1.classification ≠ .financialPrivate → pair.1 ∈ offers := by
        intro pair member shown
        refine offered pair.1 ?_
        rw [VectorCall.offers, if_pos same]
        have entry : pair.1 ∈ chunks.zip embeddings := by
          rw [← entries]
          exact List.mem_map_of_mem member
        exact List.mem_filter.mpr ⟨entry, decide_eq_true shown⟩
      obtain ⟨next, done, after⟩ := related.putAll steady kept (by rw [ids]; exact fresh)
      rw [entries, ids] at after
      have taken : memoryStep memory (.upsert chunks embeddings drawnIds) =
          .ok ((chunks.zip embeddings).foldl InMemoryVectorIndex.put memory) := by
        rw [memoryStep, InMemoryVectorIndex.upsert, raiseIf_pass (not_not.mpr same)]
        rfl
      have stored : sqlStep sql (.upsert chunks embeddings drawnIds) = .ok next := by
        rw [sqlStep, SqlAlchemyVectorIndex.upsert, raiseIf_pass (not_not.mpr same)]
        exact done
      refine ⟨by rw [taken, stored]; rfl, ?_⟩
      rw [commit_ok taken, commit_ok stored]
      exact after
    · have refused : memoryStep memory (.upsert chunks embeddings drawnIds) =
          .error (.value "chunks and embeddings must have the same length") := by
        rw [memoryStep, InMemoryVectorIndex.upsert, raiseIf_fail same]
        rfl
      have rejected : sqlStep sql (.upsert chunks embeddings drawnIds) =
          .error (.value "chunks and embeddings must have the same length") := by
        rw [sqlStep, SqlAlchemyVectorIndex.upsert, raiseIf_fail same]
        rfl
      refine ⟨by rw [refused, rejected]; rfl, ?_⟩
      rw [commit_error refused, commit_error rejected]
      exact related.draw drawnIds

/-- The indexes stay related along calls that offer steady entries. -/
theorem run_related_indexes {calls first : List (VectorCall α)} (repeatable : Repeatable modelId references calls)
    (before : first <+: calls) (related : Related modelId references (calls.flatMap VectorCall.offers) [] memory sql) :
    Related modelId references (calls.flatMap VectorCall.offers) (first.flatMap VectorCall.drawn)
      (run memoryStep memory first) (run sqlStep sql first) := by
  induction first using List.reverseRecOn with
  | nil => exact related
  | append_singleton first call ih =>
    have earlier : first <+: calls := (List.prefix_append _ _).trans before
    have member : call ∈ calls := before.subset (List.mem_append_right _ (List.mem_singleton_self _))
    have fresh : (first.flatMap VectorCall.drawn ++ call.drawn).Nodup := by
      obtain ⟨rest, whole⟩ := before
      have all := repeatable.fresh
      rw [← whole, List.flatMap_append, List.flatMap_append, List.flatMap_singleton] at all
      exact (List.nodup_append.mp all).1
    have offered : ∀ entry ∈ call.offers, entry ∈ calls.flatMap VectorCall.offers :=
      fun entry found => List.mem_flatMap.mpr ⟨call, member, found⟩
    rw [run_append, run_append, List.flatMap_append, List.flatMap_singleton]
    exact ((ih earlier).step repeatable.steady offered (repeatable.drawn call member) fresh).2

end Simulation

/-- Entries of distinct keys are all kept. -/
theorem foldl_put_entries {entries : List (IndexEntry α)} {index : InMemoryVectorIndex α}
    (shown : ∀ entry ∈ entries, entry.1.classification ≠ .financialPrivate)
    (distinct : (index.entries.entries.map Prod.fst ++
      entries.map fun entry => (entry.1.tenantId, entry.1.chunkId)).Nodup) :
    (entries.foldl InMemoryVectorIndex.put index).entries.entries = index.entries.entries ++
      entries.map fun entry => ((entry.1.tenantId, entry.1.chunkId), entry) := by
  induction entries generalizing index with
  | nil => simp
  | cons entry entries ih =>
    have absent : (entry.1.tenantId, entry.1.chunkId) ∉ index.entries.entries.map Prod.fst := by
      intro old
      exact (List.nodup_append.mp distinct).2.2 _ old _ List.mem_cons_self rfl
    have assigned : (index.put entry).entries.entries =
        index.entries.entries ++ [((entry.1.tenantId, entry.1.chunkId), entry)] := by
      rw [InMemoryVectorIndex.put, if_neg (shown entry List.mem_cons_self)]
      exact if_neg absent
    rw [List.foldl_cons, ih (fun entry member => shown entry (List.mem_cons_of_mem _ member)), assigned]
    · simp
    · rw [assigned]
      simpa using distinct

theorem row_ids_nodup (table : Table (DceFragmentEmbeddingRecord α)) : (table.rows.map (·.id)).Nodup := by
  refine List.pairwise_map.mpr (table.distinct.imp ?_)
  intro first second apart same
  exact apart (.inl same)

section Search

variable [Field α] [LinearOrder α] {sqrt : α → α} {query : EmbeddingVector α} {scope : RetrievalScope}
  {modelId : String} {references : RetrievalChunk → Bool} {offers : List (IndexEntry α)} {drawn : List Uuid}
  {memory : InMemoryVectorIndex α} {sql : SqlAlchemyVectorIndex α}

def IndexedFragment.visible (fragment : IndexedFragment α) (scope : RetrievalScope) : Prop :=
  fragment.tenantId = scope.tenantId ∧ fragment.caseId = scope.caseId ∧ fragment.dceVersionId = scope.dceVersionId ∧
    fragment.classification ∈ scope.allowedClassifications

instance (fragment : IndexedFragment α) (scope : RetrievalScope) : Decidable (fragment.visible scope) :=
  inferInstanceAs (Decidable (_ ∧ _))

/-- The hit of a fragment, if it has one. -/
def hitOf (sqrt : α → α) (query : EmbeddingVector α) (scope : RetrievalScope) (fragment : IndexedFragment α) :
    Option (Hit α) :=
  if fragment.visible scope ∧ fragment.values.length = query.dimension ∧
      0 < cosineSimilarity sqrt query.values fragment.values then
    some ⟨fragment.tenantId, fragment.sourceFragmentId, fragment.text, fragment.classification,
      cosineSimilarity sqrt query.values fragment.values, fragment.ordinal⟩
  else none

theorem score_hit (entry : IndexEntry α) :
    (InMemoryVectorIndex.score sqrt query scope modelId entry).map (·.hit) =
      hitOf sqrt query scope (fragmentOf entry) := by
  have visible : entry.1.isVisibleIn scope = true ↔ (fragmentOf entry).visible scope := decide_eq_true_iff
  by_cases seen : entry.1.isVisibleIn scope = true ∧ entry.2.dimension = query.dimension ∧
      0 < cosineSimilarity sqrt query.values entry.2.values
  · have found : (fragmentOf entry).visible scope ∧ (fragmentOf entry).values.length = query.dimension ∧
        0 < cosineSimilarity sqrt query.values (fragmentOf entry).values := ⟨visible.mp seen.1, seen.2⟩
    rw [InMemoryVectorIndex.score, if_pos seen, hitOf, if_pos found]
    rfl
  · have unfound : ¬ ((fragmentOf entry).visible scope ∧ (fragmentOf entry).values.length = query.dimension ∧
        0 < cosineSimilarity sqrt query.values (fragmentOf entry).values) :=
      fun found => seen ⟨visible.mpr found.1, found.2⟩
    rw [InMemoryVectorIndex.score, if_neg seen, hitOf, if_neg unfound]
    rfl

/-- The ranking of an index holds the hits of its fragments. -/
theorem ranked_hits (index : InMemoryVectorIndex α) :
    ((index.ranked sqrt query scope modelId).map (·.hit)).Perm
      ((index.entries.entries.map fun entry => fragmentOf entry.2).filterMap (hitOf sqrt query scope)) := by
  have each : (index.entries.entries.filterMap fun entry =>
      InMemoryVectorIndex.score sqrt query scope modelId entry.2).map (·.hit) =
        (index.entries.entries.map fun entry => fragmentOf entry.2).filterMap (hitOf sqrt query scope) := by
    rw [List.map_filterMap, List.filterMap_map]
    exact List.filterMap_congr fun entry _ => score_hit entry.2
  rw [← each]
  exact (rankBy_perm _ _).map _

theorem ranked_sorted (index : InMemoryVectorIndex α) :
    ((index.ranked sqrt query scope modelId).map (·.hit)).Pairwise fun one other => one.rank ≤ other.rank := by
  refine List.pairwise_map.mpr ((rankBy_sorted InMemoryVectorIndex.sortKey _).imp ?_)
  intro one other ordered
  rcases Prod.Lex.toLex_le_toLex.mp ordered with higher | ⟨same, later⟩
  · exact Prod.Lex.toLex_le_toLex.mpr (.inl higher)
  · refine Prod.Lex.toLex_le_toLex.mpr (.inr ⟨same, ?_⟩)
    rcases Prod.Lex.toLex_le_toLex.mp later with before | ⟨tied, -⟩
    · exact le_of_lt before
    · exact le_of_eq tied

/-- The rows of a scope hold all the hits of the table. -/
theorem inScope_hits (related : Related modelId references offers drawn memory sql) :
    ((sql.records.rows.filter fun row => row.inScope scope modelId).map fun row => fragmentOf row.entry).filterMap
        (hitOf sqrt query scope) =
      (sql.records.rows.map fun row => fragmentOf row.entry).filterMap (hitOf sqrt query scope) := by
  rw [List.filterMap_map, List.filterMap_map, List.filterMap_filter]
  refine List.filterMap_congr fun row member => ?_
  by_cases shown : row.inScope scope modelId = true
  · rw [if_pos shown]
  · rw [if_neg shown]
    have model := (related.rows row member).1
    have hidden : ¬ (fragmentOf row.entry).visible scope := by
      rintro ⟨tenant, case, version, classification⟩
      exact shown (decide_eq_true ⟨tenant, case, version, model, classification⟩)
    exact (if_neg fun seen => hidden seen.1).symm

/-- The search of the table ranks the fragments that the index in memory holds. -/
theorem search_ranking (related : Related modelId references offers drawn memory sql) (topK : Int) :
    ∃ index : InMemoryVectorIndex α, sql.search sqrt query scope modelId topK =
        .ok (index.search sqrt query scope modelId topK) ∧
      ((index.ranked sqrt query scope modelId).map (·.hit)).Perm
        ((memory.ranked sqrt query scope modelId).map (·.hit)) := by
  set rows := rankBy (·.order) (sql.records.rows.filter fun row => row.inScope scope modelId) with ranking
  have sorted : rows.Perm (sql.records.rows.filter fun row => row.inScope scope modelId) := rankBy_perm _ _
  have stands : ∀ row ∈ rows, row ∈ sql.records := fun row member =>
    List.mem_of_mem_filter (sorted.mem_iff.mp member)
  have entries : (rows.map (·.chunk)).zip (rows.map (·.vector)) = rows.map DceFragmentEmbeddingRecord.entry :=
    List.zip_map' ..
  have shown : ∀ entry ∈ rows.map DceFragmentEmbeddingRecord.entry, entry.1.classification ≠ .financialPrivate := by
    intro entry member
    obtain ⟨row, listed, rfl⟩ := List.mem_map.mp member
    exact (related.rows row (stands row listed)).2.2.2
  have ids : (rows.map (·.id)).Nodup :=
    ((sorted.map (·.id)).nodup_iff).mpr ((row_ids_nodup sql.records).sublist (List.filter_sublist.map _))
  have keys : ((InMemoryVectorIndex.empty : InMemoryVectorIndex α).entries.entries.map Prod.fst ++
      (rows.map DceFragmentEmbeddingRecord.entry).map fun entry : IndexEntry α =>
        (entry.1.tenantId, entry.1.chunkId)).Nodup := by
    show ([] ++ (rows.map DceFragmentEmbeddingRecord.entry).map fun entry : IndexEntry α =>
      (entry.1.tenantId, entry.1.chunkId)).Nodup
    rw [List.nil_append, List.map_map]
    refine List.Nodup.of_map Prod.snd ?_
    rw [List.map_map]
    exact ids
  set index := (rows.map DceFragmentEmbeddingRecord.entry).foldl InMemoryVectorIndex.put InMemoryVectorIndex.empty
  have held := foldl_put_entries shown keys
  refine ⟨index, ?_, ?_⟩
  · have taken : (InMemoryVectorIndex.empty : InMemoryVectorIndex α).upsert (rows.map (·.chunk))
        (rows.map (·.vector)) = .ok index := by
      rw [InMemoryVectorIndex.upsert, raiseIf_pass (by simp), entries]
      rfl
    rw [SqlAlchemyVectorIndex.search, ← ranking, bind_of_ok taken]
    rfl
  · have fragments : index.entries.entries.map (fun entry => fragmentOf entry.2) =
        rows.map fun row => fragmentOf row.entry := by
      rw [held, List.map_append, List.map_map, List.map_map]
      rfl
    have found : ((index.ranked sqrt query scope modelId).map (·.hit)).Perm
        ((index.entries.entries.map fun entry => fragmentOf entry.2).filterMap (hitOf sqrt query scope)) :=
      ranked_hits index
    rw [fragments] at found
    have inScope := (sorted.map fun row => fragmentOf row.entry).filterMap (hitOf sqrt query scope)
    rw [inScope_hits related, ← related.fragments] at inScope
    exact found.trans (inScope.trans (ranked_hits memory).symm)

theorem sameHits_of_perm {ranking other : List (RetrievalResult α)} (topK : Int)
    (same : (ranking.map (·.hit)).Perm (other.map (·.hit)))
    (ordered : (ranking.map (·.hit)).Pairwise fun one other => one.rank ≤ other.rank)
    (alike : (other.map (·.hit)).Pairwise fun one other => one.rank ≤ other.rank) :
    SameHits ranking (sliceTo topK ranking) (sliceTo topK other) := by
  have through (results : List (RetrievalResult α)) :
      results.map (·.hit.rank) = (results.map (·.hit)).map Hit.rank := by rw [List.map_map]; rfl
  constructor
  · rw [sliceTo_map, sliceTo_map, through, through, ranks_eq same ordered alike]
  · intro apart
    rw [through] at apart
    rw [sliceTo_map, sliceTo_map, eq_of_ranks_nodup same ordered alike apart]
  · intro whole
    have length : other.length = ranking.length := by simpa using same.length_eq.symm
    rw [sliceTo_of_length whole rfl, sliceTo_of_length whole length]
    exact same

theorem Related.search_agrees (related : Related modelId references offers drawn memory sql)
    (query : EmbeddingVector α) (scope : RetrievalScope) (topK : Int) :
    CallAgrees sqrt memory sql (.search query scope topK) := by
  obtain ⟨index, found, same⟩ := search_ranking related topK
  rw [CallAgrees, related.model]
  refine ⟨_, found, ?_⟩
  exact sameHits_of_perm topK same.symm (ranked_sorted memory) (ranked_sorted index)

end Search

/-- Along calls whose upserts repeat a fragment only as it was offered first, the indexes accept the same calls, and
    every search finds the same hits in the same order of score and ordinal. -/
theorem indexes_agree [Field α] [LinearOrder α] (sqrt : α → α) (modelId : String) (named : strip modelId ≠ "")
    (references : RetrievalChunk → Bool) (calls : List (VectorCall α))
    (repeatable : Repeatable modelId references calls) (first : List (VectorCall α)) (call : VectorCall α)
    (before : first ++ [call] <+: calls) :
    CallAgrees sqrt (run memoryStep .empty first) (run sqlStep ⟨modelId, named, references, .empty⟩ first) call := by
  have initial : Related modelId references (calls.flatMap VectorCall.offers) [] (InMemoryVectorIndex.empty (α := α))
      ⟨modelId, named, references, .empty⟩ := by
    refine ⟨rfl, rfl, rfl, fun entry member => absurd member List.not_mem_nil, fun row member => ?_⟩
    exact absurd member Table.not_mem_empty
  have related := run_related_indexes repeatable ((List.prefix_append _ _).trans before) initial
  have member : call ∈ calls := before.subset (List.mem_append_right _ (List.mem_singleton_self _))
  cases call with
  | search query scope topK => exact related.search_agrees query scope topK
  | upsert chunks embeddings drawn =>
    have fresh : (first.flatMap VectorCall.drawn ++ drawn).Nodup := by
      obtain ⟨rest, whole⟩ := before
      have all := repeatable.fresh
      rw [← whole, List.flatMap_append, List.flatMap_append, List.flatMap_singleton] at all
      exact (List.nodup_append.mp all).1
    exact (related.step repeatable.steady (fun entry found => List.mem_flatMap.mpr ⟨_, member, found⟩)
      (repeatable.drawn _ member) fresh).1

section Example

def exampleChunk (text : String) (valid : retrievable 1 text [("page", .int 1)] = true) : RetrievalChunk where
  chunkId := 11
  tenantId := 1
  caseId := 4
  dceVersionId := 5
  sourceFragmentId := 9
  ordinal := 1
  text
  locator := [("page", .int 1)]
  classification := .publicData
  valid

def exampleVector : EmbeddingVector ℚ := ⟨[3, 4], List.cons_ne_nil _ _⟩

/-- The fragment with a text, under an id drawn for it. -/
def exampleUpsert (text : String) (valid : retrievable 1 text [("page", .int 1)] = true) (id : Uuid) : VectorCall ℚ :=
  .upsert [exampleChunk text valid] [exampleVector] [id]

theorem clause_valid : retrievable 1 "Clause" [("page", .int 1)] = true := by decide +kernel

theorem article_valid : retrievable 1 "Article" [("page", .int 1)] = true := by decide +kernel

def exampleScope : RetrievalScope := ⟨1, 4, 5, [.publicData, .internalOperational], List.cons_ne_nil _ _⟩

theorem bge_named : strip "BAAI/bge-m3" ≠ "" := by decide +kernel

def exampleCalls : List (VectorCall ℚ) :=
  [exampleUpsert "Clause" clause_valid 21, exampleUpsert "Clause" clause_valid 22, .search exampleVector exampleScope 5]

theorem exampleCalls_repeatable : Repeatable "BAAI/bge-m3" (fun _ => true) exampleCalls := by
  have offered : ∀ entry ∈ exampleCalls.flatMap VectorCall.offers,
      entry = (exampleChunk "Clause" clause_valid, exampleVector) := by
    intro entry member
    simpa [exampleCalls, exampleUpsert, VectorCall.offers, exampleChunk] using member
  refine ⟨by simp [exampleCalls, exampleUpsert, VectorCall.Drawn], by decide +kernel, ?_, ?_, ?_⟩
  · intro first one second other _
    rw [offered first one, offered second other]
    exact iff_of_true rfl rfl
  · intro first one second other _ _
    rw [offered first one, offered second other]
  · intro entry member
    rw [offered entry member]
    exact ⟨by decide +kernel, rfl⟩

theorem repeated_fragment_agrees :
    CallAgrees Rat.sqrt (run memoryStep .empty (exampleCalls.take 2))
      (run sqlStep ⟨"BAAI/bge-m3", bge_named, fun _ => true, .empty⟩ (exampleCalls.take 2))
      (.search exampleVector exampleScope 5) :=
  indexes_agree Rat.sqrt "BAAI/bge-m3" bge_named (fun _ => true) exampleCalls exampleCalls_repeatable
    (exampleCalls.take 2) _ (List.prefix_refl _)

/-- The fragment is uploaded again with another text: the index in memory takes it, the table does not. -/
theorem changed_fragment_disagrees :
    ¬ CallAgrees Rat.sqrt (run memoryStep .empty [exampleUpsert "Clause" clause_valid 21])
      (run sqlStep ⟨"BAAI/bge-m3", bge_named, fun _ => true, .empty⟩ [exampleUpsert "Clause" clause_valid 21])
      (exampleUpsert "Article" article_valid 22) := by
  intro agrees
  have taken : ((run memoryStep .empty [exampleUpsert "Clause" clause_valid 21]).upsert
      [exampleChunk "Article" article_valid] [exampleVector]).isOk = true := by decide +kernel
  have refused : ((run sqlStep ⟨"BAAI/bge-m3", bge_named, fun _ => true, .empty⟩
      [exampleUpsert "Clause" clause_valid 21]).upsert [exampleChunk "Article" article_valid] [exampleVector]
        [22]).isOk = false := by decide +kernel
  have both := taken.symm.trans (agrees.trans refused)
  exact Bool.noConfusion both

end Example

end SmartAo.Knowledge
