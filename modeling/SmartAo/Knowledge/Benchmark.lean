import SmartAo.Foundation.Dict
import SmartAo.Foundation.Ranking
import SmartAo.Platform.Uuid
import Mathlib.Algebra.BigOperators.Group.List.Basic
import Mathlib.Algebra.Order.Field.Rat
import Mathlib.Data.Finset.Basic
import Mathlib.Data.Finset.Card
import Mathlib.Data.String.Basic

namespace SmartAo.Knowledge

open SmartAo.Foundation SmartAo.Platform

/-- How loading or scoring fails: a `BenchmarkManifestError`, a classification that cannot be hashed, or a
    division by zero. -/
inductive BenchmarkError where
  | manifest (message : String)
  | unhashable
  | zeroDivision
deriving DecidableEq

/-- A decoded JSON value; a number is NaN or infinite where it has no value. -/
inductive Payload where
  | null
  | bool (value : Bool)
  | number (value : Option ℚ)
  | str (text : String)
  | arr (items : List Payload)
  | obj (fields : List (String × Payload))

structure BenchmarkQuery where
  queryId : String
  querySha256 : String
  expectedFragmentIds : Finset Uuid
deriving DecidableEq

structure BenchmarkCase where
  caseId : Uuid
  dceVersionId : Uuid
  fragmentIds : Finset Uuid
  queries : List BenchmarkQuery
deriving DecidableEq

structure BenchmarkManifest where
  corpusId : String
  modelId : String
  cases : List BenchmarkCase
deriving DecidableEq

structure QueryBenchmarkResult where
  queryId : String
  retrievedFragmentIds : List Uuid
  elapsedMs : ℚ

structure BenchmarkSummary where
  corpusId : String
  modelId : String
  queryCount : Nat
  recallAtK : ℚ
  meanElapsedMs : ℚ
  p95ElapsedMs : ℚ
  evaluatedQueryIds : List String

def forbiddenKeys : List String :=
  ["text", "excerpt", "content", "embedding", "vector", "amount", "price", "currency", "financial", "storage_key"]

mutual

/-- `_reject_forbidden_keys`. -/
def rejectForbiddenKeys : Payload → Except BenchmarkError Unit
  | .obj fields => do
    let forbidden : List String := rankBy id (forbiddenKeys.filter fun key => fields.any fun field => field.1 = key)
    raiseIf (forbidden ≠ []) (.manifest ("manifest contains forbidden fields: " ++ ", ".intercalate forbidden))
    rejectForbiddenFields fields
  | .arr items => rejectForbiddenItems items
  | .null | .bool _ | .number _ | .str _ => return ()

def rejectForbiddenItems : List Payload → Except BenchmarkError Unit
  | [] => return ()
  | item :: items => do
    rejectForbiddenKeys item
    rejectForbiddenItems items

def rejectForbiddenFields : List (String × Payload) → Except BenchmarkError Unit
  | [] => return ()
  | (_, child) :: fields => do
    rejectForbiddenKeys child
    rejectForbiddenFields fields

end

abbrev Fields := List (String × Payload)

/-- `_required_string`. -/
def requiredString (fields : Fields) (key : String) : Except BenchmarkError String :=
  match fields.lookup key with
  | some (.str text) => do
    raiseIf (strip text = "") (.manifest (key ++ " must be a non-empty string"))
    return text
  | _ => .error (.manifest (key ++ " must be a non-empty string"))

/-- `_parse_uuid`. -/
def parseUuid (value : Option Payload) (key : String) : Except BenchmarkError Uuid :=
  match value with
  | some (.str text) => orRaise (Uuid.ofText? text.toList) (.manifest (key ++ " contains an invalid UUID"))
  | _ => .error (.manifest (key ++ " must contain UUID strings"))

/-- `_required_uuid`. -/
def requiredUuid (fields : Fields) (key : String) : Except BenchmarkError Uuid := parseUuid (fields.lookup key) key

def requiredObject (value : Payload) (message : String) : Except BenchmarkError Fields :=
  match value with
  | .obj fields => .ok fields
  | _ => .error (.manifest message)

/-- A field that holds an array with items. -/
def requiredArray (fields : Fields) (key message : String) : Except BenchmarkError (List Payload) :=
  match fields.lookup key with
  | some (.arr (item :: items)) => .ok (item :: items)
  | _ => .error (.manifest message)

def requireTrue (fields : Fields) (key : String) : Except BenchmarkError Unit :=
  match fields.lookup key with
  | some (.bool true) => .ok ()
  | _ => .error (.manifest (key ++ " must be true"))

/-- A value that Python finds equal to one. -/
def isOne : Option Payload → Bool
  | some (.number value) => value = some 1
  | some (.bool value) => value
  | _ => false

/-- `_CORPUS_ID` and `_QUERY_ID`. -/
def isBenchmarkId (text : String) : Bool :=
  match text.toList with
  | [] => false
  | first :: rest => (first.isLower || first.isDigit) && rest.length ≤ 63 &&
      rest.all fun c => c.isLower || c.isDigit || c = '.' || c = '_' || c = '-'

/-- `[0-9a-f]{64}`. -/
def isSha256 (text : String) : Bool :=
  text.length = 64 ∧ text.toList.all fun c => c.isDigit || ('a' ≤ c && c ≤ 'f')

def checkClassification : Option Payload → Except BenchmarkError Unit
  | some (.arr _) | some (.obj _) => .error .unhashable
  | some (.str text) => raiseIf (text ∉ ["PUBLIC", "INTERNAL_OPERATIONAL"])
      (.manifest "fragment classification must be PUBLIC or INTERNAL_OPERATIONAL")
  | _ => .error (.manifest "fragment classification must be PUBLIC or INTERNAL_OPERATIONAL")

def checkLocator : Option Payload → Except BenchmarkError Unit
  | some (.obj (field :: fields)) => rejectForbiddenKeys (.obj (field :: fields))
  | _ => .error (.manifest "fragment locator must be a non-empty object")

/-- One turn of the loop over a case's fragments. -/
def loadFragment (fragmentIds : Finset Uuid) (rawFragment : Payload) : Except BenchmarkError (Finset Uuid) := do
  let fields ← requiredObject rawFragment "each fragment must be an object"
  rejectForbiddenKeys rawFragment
  let fragmentId ← requiredUuid fields "source_fragment_id"
  raiseIf (fragmentId ∈ fragmentIds) (.manifest "source_fragment_id must be unique per case")
  checkClassification (fields.lookup "classification")
  checkLocator (fields.lookup "locator")
  return insert fragmentId fragmentIds

/-- One turn of the loop over a case's queries. -/
def loadQuery (fragmentIds : Finset Uuid) (queries : List BenchmarkQuery) (rawQuery : Payload) :
    Except BenchmarkError (List BenchmarkQuery) := do
  let fields ← requiredObject rawQuery "each query must be an object"
  rejectForbiddenKeys rawQuery
  let queryId ← requiredString fields "query_id"
  raiseIf (isBenchmarkId queryId = false ∨ queryId ∈ queries.map BenchmarkQuery.queryId)
    (.manifest "query_id must be unique and safely formatted")
  let querySha256 ← requiredString fields "query_sha256"
  raiseIf (isSha256 querySha256 = false) (.manifest "query_sha256 must be a lowercase SHA-256")
  let rawExpected ← requiredArray fields "expected_fragment_ids" "expected_fragment_ids must be non-empty"
  let expected ← collect (fun value => parseUuid (some value) "expected_fragment_ids") rawExpected
  raiseIf (¬ expected.toFinset ⊆ fragmentIds) (.manifest "expected fragment must belong to the case")
  return queries ++ [⟨queryId, querySha256, expected.toFinset⟩]

/-- One turn of the loop over the cases. -/
def loadCase (cases : List BenchmarkCase) (rawCase : Payload) : Except BenchmarkError (List BenchmarkCase) := do
  let fields ← requiredObject rawCase "each case must be an object"
  rejectForbiddenKeys rawCase
  let caseId ← requiredUuid fields "case_id"
  let dceVersionId ← requiredUuid fields "dce_version_id"
  raiseIf (caseId ∈ cases.map BenchmarkCase.caseId) (.manifest "case_id must be unique")
  let rawFragments ← requiredArray fields "fragments" "fragments must be a non-empty array"
  let fragmentIds ← rawFragments.foldlM loadFragment ∅
  let rawQueries ← requiredArray fields "queries" "queries must be a non-empty array"
  let queries ← rawQueries.foldlM (loadQuery fragmentIds) []
  return cases ++ [⟨caseId, dceVersionId, fragmentIds, queries⟩]

def loadManifest (payload : Payload) : Except BenchmarkError BenchmarkManifest := do
  let fields ← requiredObject payload "manifest must be a JSON object"
  rejectForbiddenKeys payload
  raiseIf (isOne (fields.lookup "schema_version") = false) (.manifest "unsupported schema_version")
  let corpusId ← requiredString fields "corpus_id"
  raiseIf (isBenchmarkId corpusId = false) (.manifest "corpus_id has an invalid format")
  requireTrue fields "anonymized"
  requireTrue fields "authorized"
  requireTrue fields "tenant_scoped"
  let modelId ← requiredString fields "model_id"
  let rawCases ← requiredArray fields "cases" "cases must be a non-empty array"
  let cases ← rawCases.foldlM loadCase []
  return ⟨corpusId, modelId, cases⟩

/-- The cases of a manifest with their queries. -/
def BenchmarkManifest.pairs (manifest : BenchmarkManifest) : List (BenchmarkCase × BenchmarkQuery) :=
  manifest.cases.flatMap fun benchmarkCase => benchmarkCase.queries.map fun query => (benchmarkCase, query)

/-- `expected_by_query`: a later query of an id replaces an earlier one. -/
def BenchmarkManifest.expectedByQuery (manifest : BenchmarkManifest) : Dict String (Finset Uuid) :=
  Dict.ofEntries (manifest.pairs.map fun pair => (pair.2.queryId, pair.2.expectedFragmentIds))

def recallOf (expected : Finset Uuid) (retrievedFragmentIds : List Uuid) (topK : Int) : ℚ :=
  (expected ∩ (retrievedFragmentIds.take topK.toNat).toFinset).card / expected.card

structure ScoreState where
  seen : List String
  recalls : List ℚ
  latencies : List ℚ

def ScoreState.record (state : ScoreState) (expected : Finset Uuid) (topK : Int) (result : QueryBenchmarkResult) :
    ScoreState where
  seen := state.seen ++ [result.queryId]
  recalls := state.recalls ++ [recallOf expected result.retrievedFragmentIds topK]
  latencies := state.latencies ++ [result.elapsedMs]

/-- One turn of the loop over the results. -/
def scoreResult (expectedByQuery : Dict String (Finset Uuid)) (topK : Int) (state : ScoreState)
    (result : QueryBenchmarkResult) : Except BenchmarkError ScoreState := do
  raiseIf (result.queryId ∈ state.seen ∨ expectedByQuery.get result.queryId = none)
    (.manifest "results contain an unknown or duplicate query_id")
  raiseIf (result.elapsedMs < 0) (.manifest "elapsed_ms must not be negative")
  let expected := (expectedByQuery.get result.queryId).getD ∅
  raiseIf (expected = ∅) .zeroDivision
  return state.record expected topK result

def fmean (values : List ℚ) : ℚ := values.sum / values.length

/-- The item at `min(n - 1, max(0, ceil(n * 0.95) - 1))`. -/
def p95 (ordered : List ℚ) : ℚ := ordered.getD (min (ordered.length - 1) ((95 * ordered.length + 99) / 100 - 1)) 0

def ScoreState.summary (scored : ScoreState) (manifest : BenchmarkManifest) (queryCount : Nat) : BenchmarkSummary where
  corpusId := manifest.corpusId
  modelId := manifest.modelId
  queryCount := queryCount
  recallAtK := fmean scored.recalls
  meanElapsedMs := fmean scored.latencies
  p95ElapsedMs := p95 (rankBy id scored.latencies)
  evaluatedQueryIds := rankBy id scored.seen

def scoreResults (manifest : BenchmarkManifest) (results : List QueryBenchmarkResult) (topK : Int) :
    Except BenchmarkError BenchmarkSummary := do
  raiseIf (¬ (1 ≤ topK ∧ topK ≤ 50)) (.manifest "top_k must be between 1 and 50")
  raiseIf (results = []) (.manifest "results must be non-empty")
  let scored ← results.foldlM (scoreResult manifest.expectedByQuery topK) ⟨[], [], []⟩
  return scored.summary manifest results.length

section Loaded

variable {payload : Payload} {manifest : BenchmarkManifest} {fragmentIds : Finset Uuid}

/-- What loading promises of a query of a case with these fragments. -/
structure BenchmarkQuery.Loaded (fragmentIds : Finset Uuid) (query : BenchmarkQuery) : Prop where
  formatted : isBenchmarkId query.queryId = true
  hashed : isSha256 query.querySha256 = true
  expects : query.expectedFragmentIds ≠ ∅
  belongs : query.expectedFragmentIds ⊆ fragmentIds

structure LoadedQueries (fragmentIds : Finset Uuid) (queries : List BenchmarkQuery) : Prop where
  each : ∀ query ∈ queries, query.Loaded fragmentIds
  distinct : (queries.map BenchmarkQuery.queryId).Nodup

structure BenchmarkCase.Loaded (benchmarkCase : BenchmarkCase) : Prop where
  asked : benchmarkCase.queries ≠ []
  queries : LoadedQueries benchmarkCase.fragmentIds benchmarkCase.queries

structure LoadedCases (cases : List BenchmarkCase) : Prop where
  each : ∀ benchmarkCase ∈ cases, benchmarkCase.Loaded
  distinct : (cases.map BenchmarkCase.caseId).Nodup

theorem LoadedQueries.nil (fragmentIds : Finset Uuid) : LoadedQueries fragmentIds [] where
  each _ member := absurd member List.not_mem_nil
  distinct := List.nodup_nil

theorem LoadedCases.nil : LoadedCases [] where
  each _ member := absurd member List.not_mem_nil
  distinct := List.nodup_nil

theorem nodup_map_concat {α β : Type} {items : List α} {item : α} {key : α → β} (distinct : (items.map key).Nodup)
    (fresh : key item ∉ items.map key) : ((items ++ [item]).map key).Nodup := by
  rw [List.map_append, List.map_singleton, ← List.concat_eq_append]
  exact distinct.concat fresh

theorem requiredArray_ok {fields : Fields} {key message : String} {items : List Payload}
    (held : requiredArray fields key message = .ok items) : items ≠ [] := by
  unfold requiredArray at held
  split at held
  · cases held
    exact List.cons_ne_nil _ _
  · cases held

theorem collect_length {ε α β : Type} {compute : α → Except ε β} {items : List α} {results : List β}
    (computed : collect compute items = .ok results) : results.length = items.length := by
  have same : (results.map fun _ => ()) = items.map fun _ => () := collect_map (fun _ _ _ => rfl) computed
  simpa using congrArg List.length same

theorem loadQuery_loaded {queries next : List BenchmarkQuery} {raw : Payload} (loaded : LoadedQueries fragmentIds queries)
    (step : loadQuery fragmentIds queries raw = .ok next) : LoadedQueries fragmentIds next ∧ next ≠ [] := by
  simp only [loadQuery, bind_ok, raiseIf_ok, exists_unit, pure_ok, not_or, not_not, Bool.not_eq_false] at step
  obtain ⟨_, _, _, queryId, _, ⟨formatted, fresh⟩, sha, _, hashed, raws, array, expected, parsed, belongs, rfl⟩ := step
  have expects : expected.toFinset ≠ ∅ := by
    intro empty
    have none : expected = [] := List.toFinset_eq_empty_iff expected |>.mp empty
    have length := collect_length parsed
    rw [none, List.length_nil] at length
    exact requiredArray_ok array (List.eq_nil_of_length_eq_zero length.symm)
  refine ⟨⟨?_, nodup_map_concat loaded.distinct fresh⟩, by simp⟩
  intro query member
  rcases List.mem_append.mp member with earlier | last
  · exact loaded.each query earlier
  · rw [List.mem_singleton.mp last]
    exact ⟨formatted, hashed, expects, belongs⟩

theorem loadCase_loaded {cases next : List BenchmarkCase} {raw : Payload} (loaded : LoadedCases cases)
    (step : loadCase cases raw = .ok next) : LoadedCases next ∧ next ≠ [] := by
  simp only [loadCase, bind_ok, raiseIf_ok, exists_unit, pure_ok] at step
  obtain ⟨_, _, _, caseId, _, version, _, fresh, _, _, fragmentIds, _, raws, array, queries, folded, rfl⟩ := step
  have made : LoadedQueries fragmentIds queries ∧ queries ≠ [] :=
    foldlM_makes (fun _ => And.left) loadQuery_loaded (requiredArray_ok array) (LoadedQueries.nil fragmentIds) folded
  refine ⟨⟨?_, nodup_map_concat loaded.distinct fresh⟩, by simp⟩
  intro benchmarkCase member
  rcases List.mem_append.mp member with earlier | last
  · exact loaded.each benchmarkCase earlier
  · rw [List.mem_singleton.mp last]
    exact ⟨made.2, made.1⟩

/-- A loaded manifest has cases, each with queries of its own fragments; query ids differ within a case. -/
theorem loadManifest_loaded (loaded : loadManifest payload = .ok manifest) :
    LoadedCases manifest.cases ∧ manifest.cases ≠ [] := by
  simp only [loadManifest, bind_ok, raiseIf_ok, exists_unit, pure_ok] at loaded
  obtain ⟨_, _, _, _, corpusId, _, _, _, _, _, modelId, _, raws, array, cases, folded, rfl⟩ := loaded
  exact foldlM_makes (fun _ => And.left) loadCase_loaded (requiredArray_ok array) LoadedCases.nil folded

theorem mem_pairs {pair : BenchmarkCase × BenchmarkQuery} :
    pair ∈ manifest.pairs ↔ pair.1 ∈ manifest.cases ∧ pair.2 ∈ pair.1.queries := by
  obtain ⟨benchmarkCase, query⟩ := pair
  simp only [BenchmarkManifest.pairs, List.mem_flatMap, List.mem_map, Prod.mk.injEq]
  constructor
  · rintro ⟨_, listed, _, asked, rfl, rfl⟩
    exact ⟨listed, asked⟩
  · rintro ⟨listed, asked⟩
    exact ⟨benchmarkCase, listed, query, asked, rfl, rfl⟩

theorem pairs_ne_nil (loaded : loadManifest payload = .ok manifest) : manifest.pairs ≠ [] := by
  obtain ⟨cases, listing⟩ := loadManifest_loaded loaded
  obtain ⟨benchmarkCase, listed⟩ := List.exists_mem_of_ne_nil _ listing
  obtain ⟨query, asked⟩ := List.exists_mem_of_ne_nil _ (cases.each benchmarkCase listed).asked
  exact List.ne_nil_of_mem (mem_pairs.mpr (show (benchmarkCase, query).1 ∈ manifest.cases ∧ _ from ⟨listed, asked⟩))

theorem expects_of_mem (loaded : loadManifest payload = .ok manifest) {pair : BenchmarkCase × BenchmarkQuery}
    (member : pair ∈ manifest.pairs) : pair.2.expectedFragmentIds ≠ ∅ := by
  obtain ⟨listed, asked⟩ := mem_pairs.mp member
  exact (((loadManifest_loaded loaded).1.each pair.1 listed).queries.each pair.2 asked).expects

end Loaded

section Scored

variable {payload : Payload} {manifest : BenchmarkManifest} {table : Dict String (Finset Uuid)} {topK : Int}
  {state next final : ScoreState} {result : QueryBenchmarkResult} {results : List QueryBenchmarkResult}

theorem scoreResult_ok : scoreResult table topK state result = .ok next ↔
    result.queryId ∉ state.seen ∧ 0 ≤ result.elapsedMs ∧ ∃ expected, table.get result.queryId = some expected ∧
      expected ≠ ∅ ∧ next = state.record expected topK result := by
  cases known : table.get result.queryId with
  | none => simp [scoreResult, known]
  | some expected =>
    simp only [scoreResult, known, bind_ok, raiseIf_ok, exists_unit, pure_ok, Option.getD_some, not_or, not_lt,
      reduceCtorEq, not_false_eq_true, and_true, Option.some.injEq, exists_eq_left', ne_eq]
    constructor
    · rintro ⟨fresh, measured, expects, rfl⟩
      exact ⟨fresh, measured, expects, rfl⟩
    · rintro ⟨fresh, measured, expects, rfl⟩
      exact ⟨fresh, measured, expects, rfl⟩

/-- Scored results have distinct query ids. -/
theorem scored_nodup (distinct : state.seen.Nodup) (folded : results.foldlM (scoreResult table topK) state = .ok final) :
    (state.seen ++ results.map QueryBenchmarkResult.queryId).Nodup := by
  induction results generalizing state with
  | nil => simpa using distinct
  | cons result results ih =>
    rw [List.foldlM_cons, bind_ok] at folded
    obtain ⟨next, first, rest⟩ := folded
    obtain ⟨fresh, _, expected, _, _, rfl⟩ := scoreResult_ok.mp first
    have grown : (state.seen ++ [result.queryId]).Nodup := by
      rw [← List.concat_eq_append]
      exact distinct.concat fresh
    have whole := ih grown rest
    rwa [ScoreState.record, List.append_assoc] at whole

/-- A result with the query of the case it is the result of. -/
structure Answer where
  benchmarkCase : BenchmarkCase
  query : BenchmarkQuery
  result : QueryBenchmarkResult

def Answer.recall (topK : Int) (answer : Answer) : ℚ :=
  recallOf answer.query.expectedFragmentIds answer.result.retrievedFragmentIds topK

/-- One measured result for each query of each case. -/
structure CompleteReport (manifest : BenchmarkManifest) (answers : List Answer) : Prop where
  covers : (answers.map fun answer => (answer.benchmarkCase, answer.query)).Perm manifest.pairs
  named : ∀ answer ∈ answers, answer.result.queryId = answer.query.queryId
  measured : ∀ answer ∈ answers, 0 ≤ answer.result.elapsedMs

/-- The report is accepted, its recall is the mean over the pairs, and no result meets the expectations of a query
    other than its own. -/
def ScoredRight (manifest : BenchmarkManifest) (answers : List Answer) (topK : Int) : Prop :=
  (∃ summary, scoreResults manifest (answers.map Answer.result) topK = .ok summary ∧
    summary.recallAtK = fmean (answers.map (Answer.recall topK))) ∧
  ∀ answer ∈ answers, manifest.expectedByQuery.get answer.result.queryId = some answer.query.expectedFragmentIds

/-- Answers whose results meet the expectations of their own queries are scored with their own recalls. -/
theorem scored_own (topK : Int) (state : ScoreState) {answers : List Answer}
    (own : ∀ answer ∈ answers, table.get answer.result.queryId = some answer.query.expectedFragmentIds)
    (expects : ∀ answer ∈ answers, answer.query.expectedFragmentIds ≠ ∅)
    (measured : ∀ answer ∈ answers, 0 ≤ answer.result.elapsedMs)
    (distinct : (state.seen ++ answers.map fun answer => answer.result.queryId).Nodup) :
    ∃ final, (answers.map Answer.result).foldlM (scoreResult table topK) state = .ok final ∧
      final.recalls = state.recalls ++ answers.map (Answer.recall topK) := by
  induction answers generalizing state with
  | nil => exact ⟨state, rfl, by simp⟩
  | cons answer answers ih =>
    rw [List.forall_mem_cons] at own expects measured
    have fresh : answer.result.queryId ∉ state.seen := by
      intro member
      rw [List.map_cons, List.nodup_append] at distinct
      exact distinct.2.2 _ member _ List.mem_cons_self rfl
    have first : scoreResult table topK state answer.result =
        .ok (state.record answer.query.expectedFragmentIds topK answer.result) :=
      scoreResult_ok.mpr ⟨fresh, measured.1, _, own.1, expects.1, rfl⟩
    rw [List.map_cons, List.append_cons] at distinct
    obtain ⟨final, folded, recalls⟩ := ih (state.record answer.query.expectedFragmentIds topK answer.result) own.2
      expects.2 measured.2 distinct
    refine ⟨final, ?_, ?_⟩
    · rw [List.map_cons, List.foldlM_cons, bind_of_ok first]
      exact folded
    · rw [recalls, List.map_cons, ScoreState.record, List.append_assoc]
      rfl

theorem report_ids {answers : List Answer} (complete : CompleteReport manifest answers) :
    (answers.map fun answer => answer.result.queryId).Perm (manifest.pairs.map fun pair => pair.2.queryId) := by
  have same : (answers.map fun answer => answer.result.queryId) =
      (answers.map fun answer => (answer.benchmarkCase, answer.query)).map fun pair => pair.2.queryId := by
    rw [List.map_map]
    exact List.map_congr_left complete.named
  rw [same]
  exact complete.covers.map _

theorem recall_by_query (loaded : loadManifest payload = .ok manifest) {answers : List Answer}
    (complete : CompleteReport manifest answers) (bounds : 1 ≤ topK ∧ topK ≤ 50) :
    ScoredRight manifest answers topK ↔ (manifest.pairs.map fun pair => pair.2.queryId).Nodup := by
  have ids := report_ids complete
  have listed (answer : Answer) (member : answer ∈ answers) : (answer.benchmarkCase, answer.query) ∈ manifest.pairs :=
    complete.covers.mem_iff.mp (List.mem_map_of_mem member)
  constructor
  · rintro ⟨⟨summary, scored, _⟩, _⟩
    simp only [scoreResults, bind_ok] at scored
    obtain ⟨_, _, _, _, final, folded, _⟩ := scored
    have distinct := scored_nodup List.nodup_nil folded
    rw [List.nil_append, List.map_map] at distinct
    exact ids.nodup_iff.mp distinct
  · intro distinct
    have own (answer : Answer) (member : answer ∈ answers) :
        manifest.expectedByQuery.get answer.result.queryId = some answer.query.expectedFragmentIds := by
      rw [complete.named answer member, Dict.get_eq_some, BenchmarkManifest.expectedByQuery, Dict.ofEntries_entries]
      · exact List.mem_map.mpr ⟨_, listed answer member, rfl⟩
      · rw [List.map_map]
        exact distinct
    have answered : answers.map Answer.result ≠ [] := by
      intro none
      have empty : answers = [] := List.map_eq_nil_iff.mp none
      have covers := complete.covers
      rw [empty] at covers
      exact pairs_ne_nil loaded covers.nil_eq.symm
    have expects (answer : Answer) (member : answer ∈ answers) : answer.query.expectedFragmentIds ≠ ∅ :=
      expects_of_mem loaded (listed answer member)
    obtain ⟨final, folded, recalls⟩ := scored_own topK ⟨[], [], []⟩ own expects complete.measured
      (ids.nodup_iff.mpr distinct)
    refine ⟨⟨final.summary manifest (answers.map Answer.result).length, ?_, ?_⟩, own⟩
    · rw [scoreResults, bind_of_ok (raiseIf_pass (not_not.mpr bounds)), bind_of_ok (raiseIf_pass answered),
        bind_of_ok folded]
      rfl
    · rw [ScoreState.summary, recalls, List.nil_append]

end Scored

def sampleFragment (source : String) : Payload :=
  .obj [("source_fragment_id", .str source), ("classification", .str "PUBLIC"),
    ("locator", .obj [("page", .number (some 3))])]

def sampleQuery (queryId source : String) : Payload :=
  .obj [("query_id", .str queryId), ("query_sha256", .str (String.ofList (List.replicate 64 'a'))),
    ("expected_fragment_ids", .arr [.str source])]

/-- A case with one fragment, which its one query expects. -/
def sampleCase (caseId queryId source : String) : Payload :=
  .obj [("case_id", .str caseId), ("dce_version_id", .str "22222222-2222-4222-8222-222222222222"),
    ("fragments", .arr [sampleFragment source]), ("queries", .arr [sampleQuery queryId source])]

def samplePayload (secondQuery : String) : Payload :=
  .obj [("schema_version", .number (some 1)), ("corpus_id", .str "golden-public-v1"), ("anonymized", .bool true),
    ("authorized", .bool true), ("tenant_scoped", .bool true), ("model_id", .str "BAAI/bge-m3"),
    ("cases", .arr [
      sampleCase "11111111-1111-4111-8111-111111111111" "q-01" "33333333-3333-4333-8333-333333333333",
      sampleCase "11111111-1111-4111-8111-111111111112" secondQuery "44444444-4444-4444-8444-444444444444"])]

def loadedQuery (queryId : String) (source : Uuid) : BenchmarkQuery :=
  ⟨queryId, String.ofList (List.replicate 64 'a'), {source}⟩

def loadedCase (caseId : Uuid) (queryId : String) (source : Uuid) : BenchmarkCase :=
  ⟨caseId, 0x22222222222242228222222222222222, {source}, [loadedQuery queryId source]⟩

def firstAnswer : Answer where
  benchmarkCase := loadedCase 0x11111111111141118111111111111111 "q-01" 0x33333333333343338333333333333333
  query := loadedQuery "q-01" 0x33333333333343338333333333333333
  result := ⟨"q-01", [0x33333333333343338333333333333333], 10⟩

def secondAnswer (queryId : String) : Answer where
  benchmarkCase := loadedCase 0x11111111111141118111111111111112 queryId 0x44444444444444448444444444444444
  query := loadedQuery queryId 0x44444444444444448444444444444444
  result := ⟨queryId, [0x33333333333343338333333333333333, 0x44444444444444448444444444444444], 20⟩

def sampleManifest (secondQuery : String) : BenchmarkManifest where
  corpusId := "golden-public-v1"
  modelId := "BAAI/bge-m3"
  cases := [firstAnswer.benchmarkCase, (secondAnswer secondQuery).benchmarkCase]

theorem samplePayload_loaded : loadManifest (samplePayload "q-01") = .ok (sampleManifest "q-01") ∧
    loadManifest (samplePayload "q-02") = .ok (sampleManifest "q-02") := by
  constructor <;> exact toOption_ok.mp (by decide +kernel)

theorem sampleReport (secondQuery : String) :
    CompleteReport (sampleManifest secondQuery) [firstAnswer, secondAnswer secondQuery] := by
  constructor
  · exact List.Perm.refl _
  · intro answer member
    rcases List.mem_pair.mp member with rfl | rfl <;> rfl
  · intro answer member
    rcases List.mem_pair.mp member with rfl | rfl
    · exact (by decide : (0 : ℚ) ≤ 10)
    · exact (by decide : (0 : ℚ) ≤ 20)

theorem shared_query_id : loadManifest (samplePayload "q-01") = .ok (sampleManifest "q-01") ∧
    CompleteReport (sampleManifest "q-01") [firstAnswer, secondAnswer "q-01"] ∧
    ¬ ScoredRight (sampleManifest "q-01") [firstAnswer, secondAnswer "q-01"] 5 := by
  refine ⟨samplePayload_loaded.1, sampleReport "q-01", ?_⟩
  rintro ⟨⟨summary, scored, _⟩, _⟩
  have refused : scoreResults (sampleManifest "q-01") [firstAnswer.result, (secondAnswer "q-01").result] 5 =
      .error (.manifest "results contain an unknown or duplicate query_id") := rfl
  rw [List.map_cons, List.map_singleton, refused] at scored
  cases scored

theorem recall_by_query_pair : ScoredRight (sampleManifest "q-02") [firstAnswer, secondAnswer "q-02"] 2 :=
  (recall_by_query samplePayload_loaded.2 (sampleReport "q-02") (by decide)).mpr (by decide)

end SmartAo.Knowledge
