import SmartAo.Decision.Risk
import SmartAo.Foundation.Base64
import SmartAo.Foundation.Datetime
import SmartAo.Foundation.Join
import SmartAo.Foundation.Ranking
import SmartAo.Foundation.Utf8
import SmartAo.Platform.Uuid
import Mathlib.Data.Prod.Lex

namespace SmartAo.Decision

open SmartAo.Foundation SmartAo.Platform SmartAo.PatronAction

/-- A stored link with the columns a listing shows; the driver reads its creation time as an aware moment. -/
structure ListedLinkRecord extends DecisionRiskRequirementLinkRecord where
  sourceRefs : List String
  createdAt : Datetime
  shift : Int
  aware : createdAt.offset = some shift

instance : Schema ListedLinkRecord where
  Columns := Schema.Columns DecisionRiskRequirementLinkRecord
  columns row := Schema.columns row.toDecisionRiskRequirementLinkRecord
  Clash := Schema.Clash (ρ := DecisionRiskRequirementLinkRecord)
  decidableClash := Schema.decidableClash (ρ := DecisionRiskRequirementLinkRecord)
  symm := Schema.symm (ρ := DecisionRiskRequirementLinkRecord)

/-- The tables of the listing; `localInstant` is the instant of a clock reading in the session's time zone. -/
structure LinkStore where
  links : Table ListedLinkRecord
  actions : ActionStore
  localInstant : Int → Int

structure DecisionRiskRequirementLinkProjection where
  linkId : Uuid
  caseId : Uuid
  riskId : Uuid
  requirementId : Uuid
  dceVersionId : Uuid
  relationship : RiskRequirementRelation
  rationale : String
  sourceRefs : List String
  createdAt : Datetime
  actionId : Option Uuid
  actionState : Option PatronActionState
  actionSeverity : Option Severity
  actionRevision : Option Nat

structure DecisionRiskRequirementPage where
  items : List DecisionRiskRequirementLinkProjection
  nextCursor : Option String

/-- `_encode_cursor`. -/
def encodeCursor (createdAt : Datetime) (linkId : Uuid) : String :=
  String.ofList (base64Url (utf8Bytes (createdAt.isoformat ++ '|' :: linkId.chars)))

/-- `text.split("|", 1)` into two parts. -/
def splitCursor (text : List Char) : Option (List Char × List Char) :=
  match text.dropWhile (· ≠ '|') with
  | [] => none
  | _ :: rest => some (text.takeWhile (· ≠ '|'), rest)

def decodeCursor (value : String) : Option (Datetime × Uuid) := do
  let bytes ← urlsafeB64decode (padBase64 value.toList)
  let text ← decodeUtf8 bytes
  let (createdAt, linkId) ← splitCursor text
  return (← Datetime.fromisoformat createdAt, ← Uuid.ofText? linkId)

namespace LinkStore

variable (store : LinkStore) (tenantId caseId : Uuid)

/-- The instant of a moment as the database compares it. -/
def instant (moment : Datetime) : Int :=
  match moment.offset with
  | some shift => moment.clock - shift
  | none => store.localInstant moment.clock

/-- The condition of the outer join. -/
def joinsAction (link : ListedLinkRecord) (action : PatronActionRecord) : Bool :=
  action.tenantId = tenantId ∧ action.functionalKey = linkActionKey link.id

/-- The key the listing is ordered by. -/
def sortKey (link : ListedLinkRecord) : Int ×ₗ Nat := toLex (store.instant link.createdAt, link.id.toNat)

/-- The condition on the rows behind a cursor; there is none unless both parts are given. -/
def follows (afterCreatedAt : Option Datetime) (afterId : Option Uuid) (link : ListedLinkRecord) : Bool :=
  match afterCreatedAt, afterId with
  | some createdAt, some id => store.instant createdAt < store.instant link.createdAt ∨
      (store.instant link.createdAt = store.instant createdAt ∧ id.toNat < link.id.toNat)
  | _, _ => true

/-- `_link_projection`, with the state and the revision of the action's latest transition. -/
def linkProjection (row : ListedLinkRecord × Option PatronActionRecord) : DecisionRiskRequirementLinkProjection :=
  let latest : Option PatronActionTransitionRecord :=
    row.2.bind fun action => store.actions.latestTransition tenantId action.id
  { linkId := row.1.id
    caseId := row.1.caseId
    riskId := row.1.riskId
    requirementId := row.1.requirementId
    dceVersionId := row.1.dceVersionId
    relationship := row.1.relationship
    rationale := row.1.rationale
    sourceRefs := row.1.sourceRefs
    createdAt := row.1.createdAt
    actionId := row.2.map PatronActionRecord.id
    actionState := (latest.map PatronActionTransitionRecord.toState).or (row.2.map PatronActionRecord.state)
    actionSeverity := row.2.map PatronActionRecord.severity
    actionRevision := ((latest.map PatronActionTransitionRecord.aggregateRevision).filter (· ≠ 0)).or
      (row.2.map PatronActionRecord.aggregateRevision) }

/-- The rows the listing of a case selects from. -/
def joined : List (ListedLinkRecord × Option PatronActionRecord) :=
  (Table.outerJoin store.links.rows store.actions.actions (joinsAction tenantId)).filter fun row =>
    row.1.tenantId = tenantId ∧ row.1.caseId = caseId

def pageLimit (limit : Int) : Nat := (min (max limit 1) 100).toNat

/-- `SqlAlchemyDecisionRiskRequirementReader.list_for_case`. -/
def listForCase (limit : Int) (afterCreatedAt : Option Datetime) (afterId : Option Uuid) :
    DecisionRiskRequirementPage :=
  let selected := (store.joined tenantId caseId).filter fun row => store.follows afterCreatedAt afterId row.1
  let rows := (rankBy (fun row => store.sortKey row.1) selected).take (pageLimit limit + 1)
  let items : List DecisionRiskRequirementLinkProjection :=
    (rows.take (pageLimit limit)).map (store.linkProjection tenantId)
  { items := items
    nextCursor := if pageLimit limit < rows.length then
        items.getLast?.map fun item => encodeCursor item.createdAt item.linkId
      else none }

/-- The page of a cursor; an empty cursor is none, and none is returned for one that cannot be decoded. -/
def pageOf (limit : Int) (cursor : Option String) : Option DecisionRiskRequirementPage :=
  match cursor.filter (· ≠ "") with
  | none => some (store.listForCase tenantId caseId limit none none)
  | some value => (decodeCursor value).map fun (createdAt, id) =>
      store.listForCase tenantId caseId limit (some createdAt) (some id)

/-- `PatronDecisionRiskRequirementReadService.list_links`. -/
def listLinks (limit : Int) (cursor : Option String) : Except String DecisionRiskRequirementPage := do
  raiseIf (¬ (1 ≤ limit ∧ limit ≤ 100)) "limit must be between 1 and 100"
  orRaise (store.pageOf tenantId caseId limit cursor) "invalid decision risk link cursor"

def cursorPage (limit : Int) (cursor : Option String) :
    Option (List DecisionRiskRequirementLinkProjection × Option String) :=
  (store.pageOf tenantId caseId limit cursor).map fun page => (page.items, page.nextCursor)

/-- The items seen when the cursors are followed from the first page on. -/
def visit (limit : Int) (turns : Nat) : Option (List DecisionRiskRequirementLinkProjection) :=
  Keyset.follow (store.cursorPage tenantId caseId limit) turns none

def linksOf : List ListedLinkRecord := store.links.rows.filter fun link => link.tenantId = tenantId ∧ link.caseId = caseId

end LinkStore

section Cursor

variable {createdAt : Datetime} {linkId : Uuid}

theorem splitCursor_text {front rest : List Char} (plain : ∀ c ∈ front, c ≠ '|') :
    splitCursor (front ++ '|' :: rest) = some (front, rest) := by
  have plainly : ∀ c ∈ front, decide (c ≠ '|') = true := fun c member => decide_eq_true (plain c member)
  rw [splitCursor, List.dropWhile_append_of_pos plainly, List.takeWhile_append_of_pos plainly]
  simp

/-- The cursor of a link gives its creation time and its id. -/
theorem decodeCursor_encodeCursor : decodeCursor (encodeCursor createdAt linkId) = some (createdAt, linkId) := by
  have plain : ∀ c ∈ createdAt.isoformat, c ≠ '|' := by
    refine Datetime.isoformat_all ?_ (by decide) createdAt
    rintro _ digit rfl
    cases digit
  unfold decodeCursor encodeCursor
  rw [String.toList_ofList, urlsafeB64decode_base64Url]
  simp only [Option.bind_eq_bind, Option.bind_some, decodeUtf8_utf8Bytes, splitCursor_text plain,
    Datetime.fromisoformat_isoformat, Uuid.ofText?_chars, Option.pure_def]

theorem encodeCursor_ne_empty : encodeCursor createdAt linkId ≠ "" := by
  intro empty
  have decoded : decodeCursor (encodeCursor createdAt linkId) = some (createdAt, linkId) := decodeCursor_encodeCursor
  rw [empty] at decoded
  cases decoded

end Cursor

namespace LinkStore

variable {store : LinkStore} {tenantId caseId : Uuid} {limit : Int}

theorem joined_links : (store.joined tenantId caseId).map Prod.fst = store.linksOf tenantId caseId := by
  have unique : ∀ {link : ListedLinkRecord} {first second : PatronActionRecord},
      joinsAction tenantId link first = true → joinsAction tenantId link second = true →
        Schema.Conflict first second := by
    intro link first second hf hs
    simp only [joinsAction, decide_eq_true_eq] at hf hs
    refine .inr ?_
    show (first.tenantId, first.functionalKey) = (second.tenantId, second.functionalKey)
    rw [hf.1, hs.1, hf.2, hs.2]
  have whole : (Table.outerJoin store.links.rows store.actions.actions (joinsAction tenantId)).map Prod.fst =
      store.links.rows := Table.outerJoin_map_fst unique
  rw [linksOf, ← whole, List.filter_map]
  rfl

theorem linksOf_ids : ((store.linksOf tenantId caseId).map fun link => link.id).Nodup := by
  have apart : store.links.rows.Pairwise fun first second => first.id ≠ second.id := by
    refine store.links.distinct.imp fun different same => different (.inl ?_)
    exact same
  exact List.pairwise_map.mpr (apart.filter _)

theorem joined_keys : ((store.joined tenantId caseId).map fun row => store.sortKey row.1).Nodup := by
  have ids : ((store.joined tenantId caseId).map fun row => row.1.id).Nodup := by
    have names : ((store.joined tenantId caseId).map Prod.fst).map (fun link => link.id) =
        (store.joined tenantId caseId).map fun row => row.1.id := List.map_map
    rw [← names, joined_links]
    exact linksOf_ids
  refine List.pairwise_map.mpr ((List.pairwise_map.mp ids).imp fun different same => different ?_)
  have second := congrArg (fun key => (ofLex key).2) same
  exact BitVec.eq_of_toNat_eq second

theorem follows_iff {last link : ListedLinkRecord} :
    store.follows (some last.createdAt) (some last.id) link = decide (store.sortKey last < store.sortKey link) := by
  unfold follows sortKey
  rw [decide_eq_decide, Prod.Lex.toLex_lt_toLex]
  simp only [eq_comm]

theorem pageLimit_positive : 0 < pageLimit limit := by
  unfold pageLimit
  omega

/-- The cursor of a joined row. -/
def cursorOf (row : ListedLinkRecord × Option PatronActionRecord) : String := encodeCursor row.1.createdAt row.1.id

/-- A page that fetched the rows left, and one more than it shows, shows the front of them. -/
theorem listForCase_fetched {afterCreatedAt : Option Datetime} {afterId : Option Uuid}
    {rest : List (ListedLinkRecord × Option PatronActionRecord)}
    (fetched : (rankBy (fun row => store.sortKey row.1) ((store.joined tenantId caseId).filter fun row =>
      store.follows afterCreatedAt afterId row.1)).take (pageLimit limit + 1) = rest.take (pageLimit limit + 1)) :
    ((store.listForCase tenantId caseId limit afterCreatedAt afterId).items,
      (store.listForCase tenantId caseId limit afterCreatedAt afterId).nextCursor) =
        Keyset.pageOf (store.linkProjection tenantId) cursorOf (pageLimit limit) rest := by
  have front : (rest.take (pageLimit limit + 1)).take (pageLimit limit) = rest.take (pageLimit limit) := by
    rw [List.take_take, Nat.min_eq_left (Nat.le_succ _)]
  have more : pageLimit limit < (rest.take (pageLimit limit + 1)).length ↔ pageLimit limit < rest.length := by
    rw [List.length_take]
    omega
  simp only [listForCase, Keyset.pageOf, fetched, front, more, List.getLast?_map, Option.map_map]
  rfl

theorem cursorPage_first : store.cursorPage tenantId caseId limit none =
    some (Keyset.pageOf (store.linkProjection tenantId) cursorOf (pageLimit limit)
      (rankBy (fun row => store.sortKey row.1) (store.joined tenantId caseId))) := by
  have every : (store.joined tenantId caseId).filter (fun row => store.follows none none row.1) =
      store.joined tenantId caseId := List.filter_eq_self.mpr fun _ _ => rfl
  have page : ((store.listForCase tenantId caseId limit none none).items,
      (store.listForCase tenantId caseId limit none none).nextCursor) =
        Keyset.pageOf (store.linkProjection tenantId) cursorOf (pageLimit limit)
          (rankBy (fun row => store.sortKey row.1) (store.joined tenantId caseId)) :=
    listForCase_fetched (by rw [every])
  exact congrArg some page

theorem cursorPage_cursor {front back : List (ListedLinkRecord × Option PatronActionRecord)}
    {last : ListedLinkRecord × Option PatronActionRecord}
    (split : rankBy (fun row => store.sortKey row.1) (store.joined tenantId caseId) = front ++ last :: back) :
    store.cursorPage tenantId caseId limit (some (cursorOf last)) =
      some (Keyset.pageOf (store.linkProjection tenantId) cursorOf (pageLimit limit) back) := by
  have fetched := Keyset.fetch_after joined_keys split (pageLimit limit + 1)
  have selected : (store.joined tenantId caseId).filter (fun row =>
        store.follows (some last.1.createdAt) (some last.1.id) row.1) =
      (store.joined tenantId caseId).filter fun row => decide (store.sortKey last.1 < store.sortKey row.1) :=
    List.filter_congr fun row _ => follows_iff
  have given : (some (cursorOf last)).filter (· ≠ "") = some (cursorOf last) := by
    simp [Option.filter, cursorOf, encodeCursor_ne_empty]
  rw [cursorPage, pageOf, given]
  simp only [cursorOf, decodeCursor_encodeCursor, Option.map_some]
  refine congrArg some (listForCase_fetched ?_)
  rw [selected]
  exact fetched

/-- Following the cursors shows the links of the case in their order. -/
theorem visit_eq {turns : Nat} (enough : (store.linksOf tenantId caseId).length < turns) :
    store.visit tenantId caseId limit turns =
      some ((rankBy (fun row => store.sortKey row.1) (store.joined tenantId caseId)).map
        (store.linkProjection tenantId)) := by
  have length : (rankBy (fun row => store.sortKey row.1) (store.joined tenantId caseId)).length =
      (store.linksOf tenantId caseId).length := by
    rw [(rankBy_perm _ _).length_eq, ← joined_links, List.length_map]
  rw [← length] at enough
  have first : store.cursorPage tenantId caseId limit none = _ := cursorPage_first
  rw [visit]
  exact Keyset.follow_rest pageLimit_positive (fun _ _ _ split => cursorPage_cursor split) List.suffix_rfl first
    enough

/-- The order the listing declares. -/
def Declared (store : LinkStore) (one other : DecisionRiskRequirementLinkProjection) : Prop :=
  store.instant one.createdAt < store.instant other.createdAt ∨
    (store.instant one.createdAt = store.instant other.createdAt ∧ one.linkId.toNat < other.linkId.toNat)

/-- Following the cursors ends, and shows every link of the case once, in the declared order; a cursor holds the
    key of its link. -/
structure ExactPaging (store : LinkStore) (tenantId caseId : Uuid) (limit : Int) : Prop where
  visited : ∀ turns, (store.linksOf tenantId caseId).length < turns → ∃ items,
    store.visit tenantId caseId limit turns = some items ∧
      (items.map DecisionRiskRequirementLinkProjection.linkId).Perm
        ((store.linksOf tenantId caseId).map fun link => link.id) ∧
      (items.map DecisionRiskRequirementLinkProjection.linkId).Nodup ∧ items.Pairwise (Declared store)
  decoded : ∀ link ∈ store.links, decodeCursor (encodeCursor link.createdAt link.id) = some (link.createdAt, link.id)

theorem link_paging_exact (store : LinkStore) (tenantId caseId : Uuid) (limit : Int) :
    ExactPaging store tenantId caseId limit := by
  constructor
  · intro turns enough
    have names : ((rankBy (fun row => store.sortKey row.1) (store.joined tenantId caseId)).map
        (store.linkProjection tenantId)).map DecisionRiskRequirementLinkProjection.linkId =
          (rankBy (fun row => store.sortKey row.1) (store.joined tenantId caseId)).map fun row => row.1.id :=
      List.map_map
    have links : (store.joined tenantId caseId).map (fun row => row.1.id) =
        (store.linksOf tenantId caseId).map fun link => link.id := by
      rw [← joined_links, List.map_map]
      rfl
    have permuted := (rankBy_perm (fun row => store.sortKey row.1) (store.joined tenantId caseId)).map fun row => row.1.id
    rw [links] at permuted
    refine ⟨_, visit_eq enough, ?_, ?_, ?_⟩
    · rw [names]
      exact permuted
    · rw [names]
      exact permuted.nodup_iff.mpr linksOf_ids
    · refine List.pairwise_map.mpr ((Keyset.rankBy_strict joined_keys).imp fun below => ?_)
      rw [sortKey, sortKey, Prod.Lex.toLex_lt_toLex] at below
      exact below
  · exact fun link _ => decodeCursor_encodeCursor

/-- A service call within the bounds is the page of its cursor. -/
theorem listLinks_ok {cursor : Option String} {page : DecisionRiskRequirementPage} :
    store.listLinks tenantId caseId limit cursor = .ok page ↔
      (1 ≤ limit ∧ limit ≤ 100) ∧ store.pageOf tenantId caseId limit cursor = some page := by
  simp only [listLinks, bind_ok, raiseIf_ok, exists_unit, orRaise_ok, not_not]

end LinkStore

end SmartAo.Decision
