import SmartAo.Opportunity.Ingestion
import Mathlib.Data.List.Dedup

namespace SmartAo.Opportunity

open SmartAo.Foundation SmartAo.Platform

section Keys

variable (tables : CaseTables) (criteria : WatchProfileCriteria) (now : Timestamp)

/-- The ids of the notices that match the criteria. -/
def matchingIds (notices : List BoampNotice) : List String :=
  ((notices.map (candidateFromNotice tables)).filter (matchesCriteria criteria now)).map (·.sourceNoticeId)

/-- How many notices a list holds that match the criteria, each counted once. -/
def distinctMatches (notices : List BoampNotice) : Nat := (matchingIds tables criteria now notices).dedup.length

end Keys

section Condition

variable (tables : CaseTables) (budget : IngestionBudget) (results : String → List BoampNotice)
  (criteria : WatchProfileCriteria) (now : Timestamp)

/-- When the result budget leaves less than a page of room, the rest of the list fits in it. -/
def PageFits (before : List BoampNotice) (listed : List BoampNotice) (page : Nat) : Prop :=
  let found := distinctMatches tables criteria now (before ++ listed.take (page * budget.pageSize))
  found < budget.maxResults → budget.maxResults - found < budget.pageSize →
    listed.length ≤ page * budget.pageSize + (budget.maxResults - found)

instance {before listed : List BoampNotice} {page : Nat} :
    Decidable (PageFits tables budget criteria now before listed page) :=
  inferInstanceAs (Decidable (
    distinctMatches tables criteria now (before ++ listed.take (page * budget.pageSize)) < budget.maxResults →
      budget.maxResults - distinctMatches tables criteria now (before ++ listed.take (page * budget.pageSize)) <
        budget.pageSize →
      listed.length ≤ page * budget.pageSize +
        (budget.maxResults - distinctMatches tables criteria now (before ++ listed.take (page * budget.pageSize)))))

/-- What the page budget lets a keyword read. -/
def readable (listed : List BoampNotice) : List BoampNotice :=
  listed.take (budget.maxPagesPerKeyword * budget.pageSize)

/-- Every page of every keyword that its list reaches fits, after all the pages before it. -/
def PagesFit : List BoampNotice → List String → Prop
  | _, [] => True
  | before, keyword :: keywords =>
    (∀ page < budget.maxPagesPerKeyword, page * budget.pageSize ≤ (results keyword).length →
      PageFits tables budget criteria now before (results keyword) page) ∧
      PagesFit (before ++ readable budget (results keyword)) keywords

/-- A request whose page is short only by its own limit. -/
def CutShort (request : SearchRequest) : Prop :=
  request.limit < budget.pageSize ∧ request.offset + request.limit < (results request.text).length

/-- The candidates have every matching notice of every keyword. -/
def Complete (candidates : List OpportunityCandidate) : Prop :=
  ∀ keyword ∈ criteria.keywords, ∀ notice ∈ results keyword,
    matchesCriteria criteria now (candidateFromNotice tables notice) = true →
      ∃ candidate ∈ candidates, candidate.sourceNoticeId = (candidateFromNotice tables notice).sourceNoticeId

/-- The ingestion is complete or says so, and takes no page that is short only by its own limit. -/
structure CompleteOrTruncated (report : OpportunityIngestionReport) : Prop where
  complete : report.truncated = false → Complete tables results criteria now report.candidates
  pages : ∀ request ∈ (readAll tables budget (listPort results) criteria now).requests,
    ¬ CutShort budget results request

end Condition

section Tracking

variable {tables : CaseTables} {budget : IngestionBudget} {results : String → List BoampNotice}
  {criteria : WatchProfileCriteria} {now : Timestamp} {candidates : Dict String OpportunityCandidate}
  {seen more : List BoampNotice} {id : String}

theorem matchingIds_append : matchingIds tables criteria now (seen ++ more) =
    matchingIds tables criteria now seen ++ matchingIds tables criteria now more := by
  simp [matchingIds]

/-- The candidates are the matching notices of a list. -/
def Tracks (tables : CaseTables) (criteria : WatchProfileCriteria) (now : Timestamp)
    (candidates : Dict String OpportunityCandidate) (seen : List BoampNotice) : Prop :=
  ∀ id, id ∈ candidates.entries.map Prod.fst ↔ id ∈ matchingIds tables criteria now seen

theorem mem_keys_assign {key other : String} {value : OpportunityCandidate} :
    other ∈ (candidates.assign key value).entries.map Prod.fst ↔
      other = key ∨ other ∈ candidates.entries.map Prod.fst := by
  have present (dict : Dict String OpportunityCandidate) :
      other ∈ dict.entries.map Prod.fst ↔ dict.get other ≠ none := by
    rw [ne_eq, Dict.get_eq_none, not_not]
  rw [present, present, Dict.get_assign]
  by_cases same : other = key <;> simp [same]

theorem mem_keys_of_get {key : String} {value : OpportunityCandidate} (found : candidates.get key = some value) :
    key ∈ candidates.entries.map Prod.fst :=
  List.mem_map_of_mem (Dict.get_eq_some.mp found)

theorem mem_keys_addNotice {notice : BoampNotice} :
    id ∈ (addNotice tables criteria now candidates notice).entries.map Prod.fst ↔
      id ∈ candidates.entries.map Prod.fst ∨ id ∈ matchingIds tables criteria now [notice] := by
  by_cases matched : matchesCriteria criteria now (candidateFromNotice tables notice) = true
  · have only : id ∈ matchingIds tables criteria now [notice] ↔
        id = (candidateFromNotice tables notice).sourceNoticeId := by
      simp [matchingIds, matched]
    rw [only, addNotice, if_pos matched]
    cases found : candidates.get (candidateFromNotice tables notice).sourceNoticeId with
    | none =>
      rw [mem_keys_assign]
      exact or_comm
    | some existing =>
      dsimp only
      split
      · rw [mem_keys_assign]
        exact or_comm
      · constructor
        · exact .inl
        · rintro (member | rfl)
          · exact member
          · exact mem_keys_of_get found
  · have none : matchingIds tables criteria now [notice] = [] := by simp [matchingIds, matched]
    rw [none, addNotice, if_neg matched]
    simp

theorem Tracks.addNotices (tracks : Tracks tables criteria now candidates seen) (more : List BoampNotice) :
    Tracks tables criteria now (addNotices tables criteria now candidates more) (seen ++ more) := by
  induction more generalizing candidates seen with
  | nil =>
    rw [List.append_nil]
    exact tracks
  | cons notice more ih =>
    have next : Tracks tables criteria now (addNotice tables criteria now candidates notice) (seen ++ [notice]) := by
      intro id
      rw [mem_keys_addNotice, matchingIds_append, List.mem_append, tracks id]
    have rest := ih next
    rw [List.append_assoc] at rest
    exact rest

theorem Tracks.size (tracks : Tracks tables criteria now candidates seen) :
    candidates.size = distinctMatches tables criteria now seen := by
  have same : (candidates.entries.map Prod.fst).Perm (matchingIds tables criteria now seen).dedup := by
    rw [List.perm_ext_iff_of_nodup candidates.distinct (List.nodup_dedup _)]
    intro id
    rw [tracks id, List.mem_dedup]
  have lengths := same.length_eq
  rw [List.length_map] at lengths
  exact lengths

theorem distinctMatches_mono (kept : ∀ notice ∈ seen, notice ∈ more) :
    distinctMatches tables criteria now seen ≤ distinctMatches tables criteria now more := by
  apply List.Subperm.length_le
  apply List.subperm_of_subset (List.nodup_dedup _)
  intro id member
  rw [List.mem_dedup] at member ⊢
  obtain ⟨candidate, filtered, rfl⟩ := List.mem_map.mp member
  obtain ⟨listed, matched⟩ := List.mem_filter.mp filtered
  obtain ⟨notice, there, rfl⟩ := List.mem_map.mp listed
  exact List.mem_map_of_mem (List.mem_filter.mpr ⟨List.mem_map_of_mem (kept notice there), matched⟩)

end Tracking

section Loops

variable {tables : CaseTables} {budget : IngestionBudget} {results : String → List BoampNotice}
  {criteria : WatchProfileCriteria} {now : Timestamp} {keyword : String} {state : IngestionState}
  {before : List BoampNotice}

/-- No request so far was cut short. -/
def Whole (budget : IngestionBudget) (results : String → List BoampNotice) (state : IngestionState) : Prop :=
  ∀ request ∈ state.requests, ¬ CutShort budget results request

/-- The result budget stopped the reading. -/
def Stopped (budget : IngestionBudget) (state : IngestionState) : Prop :=
  state.truncated = true ∧ budget.maxResults ≤ state.candidates.size

/-- What a loop leaves of the state before it. -/
def Extends (state after : IngestionState) : Prop :=
  (∀ request ∈ state.requests, request ∈ after.requests) ∧ (state.truncated = true → after.truncated = true)

theorem readPages_extends (port : PublicNoticeSearchPort) (remaining page : Nat) (state : IngestionState) :
    Extends state (readPages tables budget port criteria now keyword remaining page state) := by
  induction remaining generalizing page state with
  | zero => exact ⟨fun _ sent => sent, id⟩
  | succ remaining ih =>
    rw [readPages]
    split
    · exact ⟨fun _ sent => sent, fun _ => rfl⟩
    · dsimp only
      split
      · exact ⟨fun _ sent => List.mem_append_left _ sent, id⟩
      · obtain ⟨requests, truncated⟩ := ih (page + 1) { state with
          candidates := addNotices tables criteria now state.candidates (port (pageRequest budget keyword page state))
          requests := state.requests ++ [pageRequest budget keyword page state]
          truncated := state.truncated || decide (page + 1 = budget.maxPagesPerKeyword) }
        exact ⟨fun request sent => requests request (List.mem_append_left _ sent), fun known => truncated (by simp [known])⟩

theorem readKeywords_extends (port : PublicNoticeSearchPort) (keywords : List String) (state : IngestionState) :
    Extends state (readKeywords tables budget port criteria now keywords state) := by
  induction keywords generalizing state with
  | nil => exact ⟨fun _ sent => sent, id⟩
  | cons keyword keywords ih =>
    have pages : Extends state (readPages tables budget port criteria now keyword budget.maxPagesPerKeyword 0 state) :=
      readPages_extends port _ 0 state
    rw [readKeywords]
    split
    · exact pages
    · have rest := ih (readPages tables budget port criteria now keyword budget.maxPagesPerKeyword 0 state)
      exact ⟨fun request sent => rest.1 request (pages.1 request sent), fun known => rest.2 (pages.2 known)⟩

theorem pageFits_of_full {listed : List BoampNotice} {page : Nat}
    (full : budget.maxResults ≤ distinctMatches tables criteria now (before ++ listed.take (page * budget.pageSize))) :
    PageFits tables budget criteria now before listed page := by
  intro found
  exact absurd found (Nat.not_lt.mpr full)

/-- Once the result budget is used up, no later page can be cut short. -/
theorem pagesFit_of_full (keywords : List String) (full : budget.maxResults ≤ distinctMatches tables criteria now before) :
    PagesFit tables budget results criteria now before keywords := by
  induction keywords generalizing before with
  | nil => exact True.intro
  | cons keyword keywords ih =>
    have more (others : List BoampNotice) :
        budget.maxResults ≤ distinctMatches tables criteria now (before ++ others) :=
      full.trans (distinctMatches_mono fun notice listed => List.mem_append_left _ listed)
    exact ⟨fun page _ _ => pageFits_of_full (more _), ih (more _)⟩

/-- What the pages of a keyword leave. -/
structure KeywordRead (tables : CaseTables) (budget : IngestionBudget) (criteria : WatchProfileCriteria)
    (now : Timestamp) (before listed : List BoampNotice) (after : IngestionState) : Prop where
  reached : (Stopped budget after ∧ budget.maxResults ≤ distinctMatches tables criteria now (before ++ readable budget listed)) ∨
    Tracks tables criteria now after.candidates (before ++ readable budget listed)
  complete : after.truncated = false → listed.length ≤ budget.maxPagesPerKeyword * budget.pageSize

theorem whole_append {request : SearchRequest} {requests : List SearchRequest} {candidates : Dict String OpportunityCandidate}
    {truncated : Bool} : Whole budget results ⟨candidates, requests ++ [request], truncated⟩ ↔
      (∀ sent ∈ requests, ¬ CutShort budget results sent) ∧ ¬ CutShort budget results request := by
  simp only [Whole, List.mem_append, List.mem_singleton, or_imp, forall_and, forall_eq]

theorem page_le {page remaining : Nat} (left : page + (remaining + 1) = budget.maxPagesPerKeyword) :
    (page + 1) * budget.pageSize ≤ budget.maxPagesPerKeyword * budget.pageSize :=
  Nat.mul_le_mul_right _ (by omega)

/-- The page a request returns, and what it makes of the list read so far. -/
theorem take_page {listed : List BoampNotice} {offset limit : Nat} :
    listed.take offset ++ (listed.drop offset).take limit = listed.take (offset + limit) :=
  List.take_add.symm

/-- Reading the pages of a keyword: the requests stay whole exactly when the pages fit, and then either the result
    budget stops the reading or what the page budget allows has been read. -/
theorem readPages_keyword (remaining page : Nat) (state : IngestionState)
    (left : page + remaining = budget.maxPagesPerKeyword)
    (tracks : Tracks tables criteria now state.candidates (before ++ (results keyword).take (page * budget.pageSize)))
    (within : page * budget.pageSize ≤ (results keyword).length)
    (ended : remaining = 0 → state.truncated = true) :
    (Whole budget results (readPages tables budget (listPort results) criteria now keyword remaining page state) ↔
      Whole budget results state ∧ ∀ later, page ≤ later → later < budget.maxPagesPerKeyword →
        later * budget.pageSize ≤ (results keyword).length →
          PageFits tables budget criteria now before (results keyword) later) ∧
    (Whole budget results (readPages tables budget (listPort results) criteria now keyword remaining page state) →
      KeywordRead tables budget criteria now before (results keyword)
        (readPages tables budget (listPort results) criteria now keyword remaining page state)) := by
  induction remaining generalizing page state with
  | zero =>
    have last : page = budget.maxPagesPerKeyword := left
    refine ⟨⟨fun whole => ⟨whole, fun later from_ below => by omega⟩, And.left⟩, fun _ => ⟨.inr ?_, ?_⟩⟩
    · rw [readable, ← last]
      exact tracks
    · intro open_
      rw [readPages, ended rfl] at open_
      cases open_
  | succ remaining ih =>
    have size := tracks.size
    have bound := page_le left
    rw [readPages]
    by_cases full : budget.maxResults ≤ state.candidates.size
    · rw [if_pos full]
      have found (later : Nat) (from_ : page ≤ later) :
          budget.maxResults ≤ distinctMatches tables criteria now (before ++ (results keyword).take (later * budget.pageSize)) := by
        rw [size] at full
        refine full.trans (distinctMatches_mono fun notice member => ?_)
        rcases List.mem_append.mp member with old | taken
        · exact List.mem_append_left _ old
        · exact List.mem_append_right _ ((List.take_prefix_take_left (Nat.mul_le_mul_right _ from_)).subset taken)
      refine ⟨⟨fun whole => ⟨whole, fun later from_ _ _ => pageFits_of_full (found later from_)⟩, And.left⟩,
        fun _ => ⟨.inl ⟨⟨rfl, full⟩, ?_⟩, nofun⟩⟩
      exact found _ (by omega)
    · rw [if_neg full]
      have cut : ¬ CutShort budget results (pageRequest budget keyword page state) ↔
          PageFits tables budget criteria now before (results keyword) page := by
        simp only [CutShort, pageRequest, PageFits, ← size]
        omega
      have length : (listPort results (pageRequest budget keyword page state)).length =
          min (min budget.pageSize (budget.maxResults - state.candidates.size))
            ((results keyword).length - page * budget.pageSize) := by
        simp only [listPort, pageRequest, List.length_take, List.length_drop]
      have next := tracks.addNotices (listPort results (pageRequest budget keyword page state))
      have read : (results keyword).take (page * budget.pageSize) ++
          listPort results (pageRequest budget keyword page state) = (results keyword).take (page * budget.pageSize +
            min budget.pageSize (budget.maxResults - state.candidates.size)) := take_page
      rw [List.append_assoc, read] at next
      have successor : (page + 1) * budget.pageSize = page * budget.pageSize + budget.pageSize := Nat.succ_mul _ _
      by_cases short : (listPort results (pageRequest budget keyword page state)).length < budget.pageSize
      · rw [if_pos short]
        -- the list ends on a short page that is not cut
        have ends : PageFits tables budget criteria now before (results keyword) page →
            (results keyword).length ≤ page * budget.pageSize +
              min budget.pageSize (budget.maxResults - state.candidates.size) := by
          intro fits
          simp only [PageFits, ← size] at fits
          omega
        have lone : PageFits tables budget criteria now before (results keyword) page → ∀ later, page ≤ later →
            later < budget.maxPagesPerKeyword → later * budget.pageSize ≤ (results keyword).length →
              PageFits tables budget criteria now before (results keyword) later := by
          intro fits later from_ _ reached
          rcases Nat.lt_or_eq_of_le from_ with beyond | rfl
          · have far : (page + 1) * budget.pageSize ≤ later * budget.pageSize := Nat.mul_le_mul_right _ beyond
            have final := ends fits
            omega
          · exact fits
        refine ⟨?_, fun whole => ?_⟩
        · rw [whole_append, cut]
          constructor
          · rintro ⟨sent, fits⟩
            exact ⟨sent, lone fits⟩
          · rintro ⟨sent, fits⟩
            exact ⟨sent, fits page (Nat.le_refl page) (by omega) within⟩
        · have final := ends (cut.mp (whole_append.mp whole).2)
          have all : readable budget (results keyword) = (results keyword).take (page * budget.pageSize +
              min budget.pageSize (budget.maxResults - state.candidates.size)) := by
            rw [readable, List.take_of_length_le (by omega), List.take_of_length_le final]
          refine ⟨.inr ?_, fun _ => by omega⟩
          rw [all]
          exact next
      · rw [if_neg short]
        have room : min budget.pageSize (budget.maxResults - state.candidates.size) = budget.pageSize := by omega
        rw [room, ← successor] at next
        have fits : PageFits tables budget criteria now before (results keyword) page := by
          simp only [PageFits, ← size]
          omega
        have ended : remaining = 0 → (state.truncated || decide (page + 1 = budget.maxPagesPerKeyword)) = true := by
          intro none
          have final : page + 1 = budget.maxPagesPerKeyword := by omega
          simp [final]
        obtain ⟨whole, rest⟩ := ih (page + 1) {
          candidates := addNotices tables criteria now state.candidates
            (listPort results (pageRequest budget keyword page state))
          requests := state.requests ++ [pageRequest budget keyword page state]
          truncated := state.truncated || decide (page + 1 = budget.maxPagesPerKeyword) } (by omega) next (by omega) ended
        refine ⟨?_, rest⟩
        rw [whole, whole_append, cut]
        constructor
        · rintro ⟨⟨sent, _⟩, later⟩
          refine ⟨sent, fun other from_ below reached => ?_⟩
          rcases Nat.lt_or_eq_of_le from_ with beyond | rfl
          · exact later other beyond below reached
          · exact fits
        · rintro ⟨sent, later⟩
          exact ⟨⟨sent, fits⟩, fun other from_ => later other (by omega)⟩

theorem readKeywords_stopped {port : PublicNoticeSearchPort} {keywords : List String}
    (stopped : Stopped budget (readPages tables budget port criteria now keyword budget.maxPagesPerKeyword 0 state)) :
    readKeywords tables budget port criteria now (keyword :: keywords) state =
      readPages tables budget port criteria now keyword budget.maxPagesPerKeyword 0 state := if_pos stopped

theorem readKeywords_next {port : PublicNoticeSearchPort} {keywords : List String}
    (goes : ¬ Stopped budget (readPages tables budget port criteria now keyword budget.maxPagesPerKeyword 0 state)) :
    readKeywords tables budget port criteria now (keyword :: keywords) state =
      readKeywords tables budget port criteria now keywords
        (readPages tables budget port criteria now keyword budget.maxPagesPerKeyword 0 state) := if_neg goes

/-- Reading the keywords: the requests stay whole exactly when all pages fit, and an ingestion that is not truncated
    has read every list to its end. -/
theorem readKeywords_whole (keywords : List String) (state : IngestionState)
    (tracks : Tracks tables criteria now state.candidates before) :
    (Whole budget results (readKeywords tables budget (listPort results) criteria now keywords state) ↔
      Whole budget results state ∧ PagesFit tables budget results criteria now before keywords) ∧
    (Whole budget results (readKeywords tables budget (listPort results) criteria now keywords state) →
      (readKeywords tables budget (listPort results) criteria now keywords state).truncated = false →
        Tracks tables criteria now (readKeywords tables budget (listPort results) criteria now keywords state).candidates
          (before ++ keywords.flatMap results)) := by
  induction keywords generalizing state before with
  | nil =>
    refine ⟨⟨fun whole => ⟨whole, True.intro⟩, And.left⟩, fun _ _ => ?_⟩
    rw [List.flatMap_nil, List.append_nil]
    exact tracks
  | cons keyword keywords ih =>
    have start : Tracks tables criteria now state.candidates
        (before ++ (results keyword).take (0 * budget.pageSize)) := by
      rw [Nat.zero_mul, List.take_zero, List.append_nil]
      exact tracks
    have positive := budget.max_pages.1
    obtain ⟨whole, rest⟩ := readPages_keyword budget.maxPagesPerKeyword 0 state (Nat.zero_add _) start (by omega)
      (by omega)
    by_cases stopped : Stopped budget
        (readPages tables budget (listPort results) criteria now keyword budget.maxPagesPerKeyword 0 state)
    · rw [readKeywords_stopped stopped]
      refine ⟨?_, fun _ open_ => absurd (stopped.1.symm.trans open_) (by decide)⟩
      constructor
      · intro all
        have full : budget.maxResults ≤
            distinctMatches tables criteria now (before ++ readable budget (results keyword)) := by
          rcases (rest all).reached with ⟨_, full⟩ | reached
          · exact full
          · rw [← reached.size]
            exact stopped.2
        obtain ⟨sent, fits⟩ := whole.mp all
        exact ⟨sent, fun page => fits page (Nat.zero_le page), pagesFit_of_full keywords full⟩
      · rintro ⟨sent, fits, _⟩
        exact whole.mpr ⟨sent, fun page _ => fits page⟩
    · have extended : Extends
          (readPages tables budget (listPort results) criteria now keyword budget.maxPagesPerKeyword 0 state)
          (readKeywords tables budget (listPort results) criteria now keywords
            (readPages tables budget (listPort results) criteria now keyword budget.maxPagesPerKeyword 0 state)) :=
        readKeywords_extends _ keywords _
      rw [readKeywords_next stopped]
      by_cases all : Whole budget results
          (readPages tables budget (listPort results) criteria now keyword budget.maxPagesPerKeyword 0 state)
      · have reached := (rest all).reached.resolve_left fun both => stopped both.1
        obtain ⟨others, later⟩ := ih _ reached
        refine ⟨?_, fun every open_ => ?_⟩
        · rw [others, whole]
          constructor
          · rintro ⟨⟨sent, fits⟩, more⟩
            exact ⟨sent, fun page => fits page (Nat.zero_le page), more⟩
          · rintro ⟨sent, fits, more⟩
            exact ⟨⟨sent, fun page _ => fits page⟩, more⟩
        · have quiet : (readPages tables budget (listPort results) criteria now keyword budget.maxPagesPerKeyword 0
              state).truncated = false := by
            by_contra known
            have still := extended.2 (by simpa using known)
            exact absurd (still.symm.trans open_) (by decide)
          have entire : readable budget (results keyword) = results keyword :=
            List.take_of_length_le ((rest all).complete quiet)
          have final := later every open_
          rw [entire, List.append_assoc] at final
          exact final
      · have partial_ (every : Whole budget results (readKeywords tables budget (listPort results) criteria now keywords
            (readPages tables budget (listPort results) criteria now keyword budget.maxPagesPerKeyword 0 state))) : False :=
          all fun request sent => every request (extended.1 request sent)
        refine ⟨⟨fun every => (partial_ every).elim, ?_⟩, fun every => (partial_ every).elim⟩
        rintro ⟨sent, fits, _⟩
        exact absurd (whole.mpr ⟨sent, fun page _ => fits page⟩) all

end Loops

section Ingest

variable {tables : CaseTables} {budget : IngestionBudget} {results : String → List BoampNotice}
  {criteria : WatchProfileCriteria} {now : Timestamp} {report : OpportunityIngestionReport}

/-- The report of an accepted ingestion. -/
theorem ingest_report {port : PublicNoticeSearchPort} (accepted : ingest tables budget port criteria now = .ok report) :
    report.truncated = (readAll tables budget port criteria now).truncated ∧
      ∀ candidate, candidate ∈ report.candidates ↔
        ∃ key, (key, candidate) ∈ (readAll tables budget port criteria now).candidates.entries := by
  simp only [ingest, bind_ok, raiseIf_ok, exists_unit, pure_ok] at accepted
  obtain ⟨_, _, rfl⟩ := accepted
  refine ⟨rfl, fun candidate => ?_⟩
  simp only [List.mem_map, List.mem_insertionSort, Prod.exists, exists_eq_right]

/-- Every candidate is kept under its own notice id. -/
def Named (candidates : Dict String OpportunityCandidate) : Prop :=
  ∀ key candidate, candidates.get key = some candidate → candidate.sourceNoticeId = key

theorem Named.assign {candidates : Dict String OpportunityCandidate} (named : Named candidates)
    (candidate : OpportunityCandidate) : Named (candidates.assign candidate.sourceNoticeId candidate) := by
  intro key other found
  rw [Dict.get_assign] at found
  split at found
  · rename_i same
    cases found
    exact same.symm
  · exact named key other found

theorem Named.addNotices {candidates : Dict String OpportunityCandidate} (named : Named candidates)
    (notices : List BoampNotice) : Named (addNotices tables criteria now candidates notices) := by
  induction notices generalizing candidates with
  | nil => exact named
  | cons notice notices ih =>
    apply ih
    unfold addNotice
    dsimp only
    split
    · split
      · exact named.assign _
      · split
        · exact named.assign _
        · exact named
    · exact named

theorem Named.readPages (port : PublicNoticeSearchPort) (keyword : String) (remaining page : Nat) {state : IngestionState}
    (named : Named state.candidates) :
    Named (readPages tables budget port criteria now keyword remaining page state).candidates := by
  induction remaining generalizing page state with
  | zero => exact named
  | succ remaining ih =>
    rw [Opportunity.readPages]
    split
    · exact named
    · dsimp only
      split
      · exact named.addNotices _
      · exact ih (page + 1) (named.addNotices _)

theorem Named.readKeywords (port : PublicNoticeSearchPort) (keywords : List String) {state : IngestionState}
    (named : Named state.candidates) : Named (readKeywords tables budget port criteria now keywords state).candidates := by
  induction keywords generalizing state with
  | nil => exact named
  | cons keyword keywords ih =>
    rw [Opportunity.readKeywords]
    split
    · exact named.readPages port keyword _ 0
    · exact ih (named.readPages port keyword _ 0)

/-- An accepted ingestion is complete or says so exactly when each page that its lists reach fits in the result
    budget. -/
theorem ingest_complete_iff (accepted : ingest tables budget (listPort results) criteria now = .ok report) :
    CompleteOrTruncated tables budget results criteria now report ↔
      PagesFit tables budget results criteria now [] criteria.keywords := by
  obtain ⟨truncated, candidates⟩ := ingest_report accepted
  have nothing : Tracks tables criteria now Dict.empty [] := fun id => Iff.rfl
  have sent : Whole budget results ⟨.empty, [], false⟩ := fun request member => absurd member List.not_mem_nil
  obtain ⟨whole, complete⟩ : (Whole budget results (readAll tables budget (listPort results) criteria now) ↔ _) ∧ _ :=
    readKeywords_whole criteria.keywords ⟨.empty, [], false⟩ nothing
  constructor
  · intro law
    exact (whole.mp law.pages).2
  · intro fits
    have every := whole.mpr ⟨sent, fits⟩
    refine ⟨fun open_ keyword member notice listed matched => ?_, every⟩
    rw [truncated] at open_
    have tracks := complete every open_
    have wanted : (candidateFromNotice tables notice).sourceNoticeId ∈
        matchingIds tables criteria now ([] ++ criteria.keywords.flatMap results) := by
      refine List.mem_map_of_mem (List.mem_filter.mpr ⟨List.mem_map_of_mem ?_, matched⟩)
      exact List.mem_flatMap.mpr ⟨keyword, member, listed⟩
    obtain ⟨⟨key, candidate⟩, stored, same⟩ := List.mem_map.mp ((tracks _).mpr wanted)
    have named : Named (readAll tables budget (listPort results) criteria now).candidates :=
      Named.readKeywords _ _ fun key other found => by cases found
    have its := named key candidate (Dict.get_eq_some.mpr stored)
    exact ⟨candidate, (candidates candidate).mpr ⟨key, stored⟩, its.trans same⟩

end Ingest

def exampleTables : CaseTables := ⟨String.toUpper, String.toLower⟩

def exampleBudget : IngestionBudget := ⟨2, 5, 8, 3, by decide, by decide, by decide, by decide⟩

def listedNotice (noticeId : String) : BoampNotice := ⟨noticeId, none, none, none, [], [], none⟩

def worksCriteria : WatchProfileCriteria := ⟨["works"], [], []⟩

def worksResults : String → List BoampNotice := fun _ => ["1", "2", "3", "4"].map listedNotice

def worksReport : OpportunityIngestionReport where
  candidates := ["1", "2", "3"].map fun id => candidateFromNotice exampleTables (listedNotice id)
  searchedKeywords := ["works"]
  pagesRead := 2
  truncated := false

/-- The last page holds one notice because one is all it asked for. -/
theorem reduced_page_incomplete :
    ingest exampleTables exampleBudget (listPort worksResults) worksCriteria 0 = .ok worksReport ∧
      ¬ Complete exampleTables worksResults worksCriteria 0 worksReport.candidates ∧
      ¬ CompleteOrTruncated exampleTables exampleBudget worksResults worksCriteria 0 worksReport := by
  have missing : ¬ Complete exampleTables worksResults worksCriteria 0 worksReport.candidates := by
    intro complete
    obtain ⟨candidate, member, same⟩ := complete "works" (by decide) (listedNotice "4") (by decide) (by decide)
    revert candidate
    decide
  exact ⟨by rfl, missing, fun law => missing (law.complete rfl)⟩

theorem three_results_complete : ∃ report,
    ingest exampleTables exampleBudget (listPort fun _ => ["1", "2", "3"].map listedNotice) worksCriteria 0 = .ok report ∧
      CompleteOrTruncated exampleTables exampleBudget (fun _ => ["1", "2", "3"].map listedNotice) worksCriteria 0 report := by
  refine ⟨worksReport, by rfl, (ingest_complete_iff (by rfl)).mpr ⟨?_, True.intro⟩⟩
  intro page small reached
  have reach : page * 2 ≤ 3 := reached
  have cases : page = 0 ∨ page = 1 := by omega
  rcases cases with rfl | rfl
  · decide
  · decide
end SmartAo.Opportunity
