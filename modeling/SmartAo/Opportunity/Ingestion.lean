import SmartAo.Foundation.Dict
import SmartAo.Foundation.Digest
import SmartAo.Foundation.Instant
import SmartAo.Foundation.Text
import SmartAo.Platform.Command
import Mathlib.Data.List.Sort

namespace SmartAo.Opportunity

open SmartAo.Foundation SmartAo.Platform

/-- `str.upper` and `str.casefold`. -/
structure CaseTables where
  upper : String → String
  casefold : String → String

structure BoampNotice where
  noticeId : String
  title : Option String
  publicationDate : Option Int
  responseDeadline : Option Timestamp
  departmentCodes : List String
  marketTypes : List String
  status : Option String
deriving DecidableEq

/-- The preferences of a watch profile that ingestion and scoring read. -/
structure WatchProfileCriteria where
  keywords : List String
  includedDepartments : List String
  excludedDepartments : List String
deriving DecidableEq

structure OpportunityCandidate where
  source : String
  sourceNoticeId : String
  title : Option String
  publicationDate : Option Int
  responseDeadline : Option Timestamp
  departmentCodes : List String
  marketTypes : List String
  sourceStatus : Option String
deriving DecidableEq

/-- `" ".join(text.split())`. -/
def squeeze (text : String) : String :=
  String.ofList ([' '].intercalate ((text.toList.splitOnP isSpace).filter (· ≠ [])))

/-- An optional text that counts as absent when it is empty. -/
def squeezed (text : Option String) : Option String := (text.filter (· ≠ "")).map squeeze

/-- `tuple(sorted(set(texts)))`. -/
def sortedSet (texts : List String) : List String := texts.dedup.insertionSort fun first second => first ≤ second

def isoDate (days : Int) : String :=
  let (year, month, day) := civilFromDays days
  padded 4 year ++ "-" ++ padded 2 month ++ "-" ++ padded 2 day

def jsonOf {α : Type} (shown : α → String) (value : Option α) : Json := value.elim .null fun known => .str (shown known)

namespace OpportunityCandidate

def snapshot (candidate : OpportunityCandidate) : Json :=
  .obj [("department_codes", .arr (candidate.departmentCodes.map .str)),
    ("market_types", .arr (candidate.marketTypes.map .str)),
    ("publication_date", jsonOf isoDate candidate.publicationDate),
    ("response_deadline", jsonOf isoformat candidate.responseDeadline), ("source", .str candidate.source),
    ("source_notice_id", .str candidate.sourceNoticeId), ("source_status", jsonOf id candidate.sourceStatus),
    ("title", jsonOf id candidate.title)]

def fingerprint (candidate : OpportunityCandidate) : String := hexdigest candidate.snapshot.dumpsChars

end OpportunityCandidate

def candidateFromNotice (tables : CaseTables) (notice : BoampNotice) : OpportunityCandidate where
  source := "BOAMP"
  sourceNoticeId := squeeze notice.noticeId
  title := (squeezed notice.title).map fun title => String.ofList (title.toList.take 500)
  publicationDate := notice.publicationDate
  responseDeadline := notice.responseDeadline
  departmentCodes := sortedSet (notice.departmentCodes.map fun code => tables.upper (strip code))
  marketTypes := sortedSet (notice.marketTypes.map fun market => tables.upper (strip market))
  sourceStatus := squeezed notice.status

def meets (codes departments : List String) : Bool := codes.any fun code => departments.contains code

def matchesCriteria (criteria : WatchProfileCriteria) (now : Timestamp) (candidate : OpportunityCandidate) : Bool :=
  (criteria.includedDepartments.isEmpty || meets candidate.departmentCodes criteria.includedDepartments) &&
    !meets candidate.departmentCodes criteria.excludedDepartments &&
    !candidate.responseDeadline.any fun deadline => deadline < now

structure SearchRequest where
  text : String
  limit : Nat
  offset : Nat
deriving DecidableEq

abbrev PublicNoticeSearchPort := SearchRequest → List BoampNotice

/-- A port over fixed result lists. -/
def listPort (results : String → List BoampNotice) : PublicNoticeSearchPort := fun request =>
  ((results request.text).drop request.offset).take request.limit

/-- The budgets of `BoampOpportunityIngestionService`. -/
structure IngestionBudget where
  pageSize : Nat
  maxPagesPerKeyword : Nat
  maxKeywords : Nat
  maxResults : Nat
  page_size : 1 ≤ pageSize ∧ pageSize ≤ 100
  max_pages : 1 ≤ maxPagesPerKeyword ∧ maxPagesPerKeyword ≤ 10
  max_keywords : 1 ≤ maxKeywords ∧ maxKeywords ≤ 32
  max_results : 1 ≤ maxResults ∧ maxResults ≤ 500

/-- The candidates by notice, and the requests sent so far. -/
structure IngestionState where
  candidates : Dict String OpportunityCandidate
  requests : List SearchRequest
  truncated : Bool

structure OpportunityIngestionReport where
  candidates : List OpportunityCandidate
  searchedKeywords : List String
  pagesRead : Nat
  truncated : Bool

inductive IngestionError where
  | value (message : String)
  | limit (message : String)
deriving DecidableEq

section Ingestion

variable (tables : CaseTables) (budget : IngestionBudget) (port : PublicNoticeSearchPort)
  (criteria : WatchProfileCriteria) (now : Timestamp)

/-- Of two matching notices of one id, the one with the smaller fingerprint stays. -/
def addNotice (candidates : Dict String OpportunityCandidate) (notice : BoampNotice) :
    Dict String OpportunityCandidate :=
  let candidate := candidateFromNotice tables notice
  if matchesCriteria criteria now candidate then
    match candidates.get candidate.sourceNoticeId with
    | none => candidates.assign candidate.sourceNoticeId candidate
    | some existing =>
      if candidate.fingerprint < existing.fingerprint then candidates.assign candidate.sourceNoticeId candidate
      else candidates
  else candidates

def addNotices (candidates : Dict String OpportunityCandidate) (notices : List BoampNotice) :
    Dict String OpportunityCandidate :=
  notices.foldl (addNotice tables criteria now) candidates

def pageRequest (keyword : String) (page : Nat) (state : IngestionState) : SearchRequest where
  text := keyword
  limit := min budget.pageSize (budget.maxResults - state.candidates.size)
  offset := page * budget.pageSize

/-- The pages of a keyword from a page on, as many as its budget has left. -/
def readPages (keyword : String) : Nat → Nat → IngestionState → IngestionState
  | 0, _, state => state
  | remaining + 1, page, state =>
    if budget.maxResults ≤ state.candidates.size then { state with truncated := true }
    else
      let request := pageRequest budget keyword page state
      let notices := port request
      let read := { state with
        candidates := addNotices tables criteria now state.candidates notices
        requests := state.requests ++ [request] }
      if notices.length < budget.pageSize then read
      else readPages keyword remaining (page + 1)
        { read with truncated := read.truncated || decide (page + 1 = budget.maxPagesPerKeyword) }

def readKeywords : List String → IngestionState → IngestionState
  | [], state => state
  | keyword :: keywords, state =>
    let read := readPages tables budget port criteria now keyword budget.maxPagesPerKeyword 0 state
    if read.truncated = true ∧ budget.maxResults ≤ read.candidates.size then read else readKeywords keywords read

/-- The loops of `ingest`. -/
def readAll : IngestionState := readKeywords tables budget port criteria now criteria.keywords ⟨.empty, [], false⟩

/-- `BoampOpportunityIngestionService.ingest`. -/
def ingest : Except IngestionError OpportunityIngestionReport := do
  raiseIf (criteria.keywords = []) (.value "BOAMP ingestion requires at least one profile keyword")
  raiseIf (budget.maxKeywords < criteria.keywords.length)
    (.limit "BOAMP keyword count exceeds the ingestion request budget")
  let read := readAll tables budget port criteria now
  return {
    candidates := (read.candidates.entries.insertionSort fun first second => first.1 ≤ second.1).map Prod.snd
    searchedKeywords := criteria.keywords
    pagesRead := read.requests.length
    truncated := read.truncated }

end Ingestion

end SmartAo.Opportunity
