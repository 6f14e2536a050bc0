import SmartAo.Foundation.Json
import SmartAo.Foundation.Ranking
import SmartAo.Opportunity.Ingestion
import SmartAo.Platform.Uuid
import Mathlib.Data.List.Dedup
import Mathlib.Data.String.Basic

namespace SmartAo.Opportunity.WatchProfile

open SmartAo.Foundation SmartAo.Platform

/-- The members of a `StrEnum` in their order, each with its text. -/
class StrEnum (ε : Type) where
  members : List ε
  value : ε → String
  complete : ∀ member, member ∈ members
  value_injective : Function.Injective value

open StrEnum

/-- `enum_type(text)`. -/
def ofValue? (ε : Type) [StrEnum ε] (text : String) : Option ε := members.find? fun member : ε => value member = text

inductive ProjectType where
  | newBuild
  | refurbishment
  | occupiedSite
  | tertiary
  | healthcare
  | housing
  | industry
  | «public»
  | «private»
  | heritage
deriving DecidableEq

def ProjectType.value : ProjectType → String
  | newBuild => "NEW_BUILD"
  | refurbishment => "REFURBISHMENT"
  | occupiedSite => "OCCUPIED_SITE"
  | tertiary => "TERTIARY"
  | healthcare => "HEALTHCARE"
  | housing => "HOUSING"
  | industry => "INDUSTRY"
  | «public» => "PUBLIC"
  | «private» => "PRIVATE"
  | heritage => "HERITAGE"

inductive BuyerType where
  | publicBuyer
  | privateBuyer
  | socialLandlord
  | localAuthority
  | healthcareBuyer
  | industrialBuyer
  | knownClient
deriving DecidableEq

def BuyerType.value : BuyerType → String
  | publicBuyer => "PUBLIC_BUYER"
  | privateBuyer => "PRIVATE_BUYER"
  | socialLandlord => "SOCIAL_LANDLORD"
  | localAuthority => "LOCAL_AUTHORITY"
  | healthcareBuyer => "HEALTHCARE_BUYER"
  | industrialBuyer => "INDUSTRIAL_BUYER"
  | knownClient => "KNOWN_CLIENT"

inductive ResponseMode where
  | solo
  | consortium
  | subcontracting
deriving DecidableEq

def ResponseMode.value : ResponseMode → String
  | solo => "SOLO"
  | consortium => "CONSORTIUM"
  | subcontracting => "SUBCONTRACTING"

instance : StrEnum ProjectType where
  members := [.newBuild, .refurbishment, .occupiedSite, .tertiary, .healthcare, .housing, .industry, .public, .private,
    .heritage]
  value := ProjectType.value
  complete member := by cases member <;> decide
  value_injective first second := by cases first <;> cases second <;> decide

instance : StrEnum BuyerType where
  members := [.publicBuyer, .privateBuyer, .socialLandlord, .localAuthority, .healthcareBuyer, .industrialBuyer,
    .knownClient]
  value := BuyerType.value
  complete member := by cases member <;> decide
  value_injective first second := by cases first <;> cases second <;> decide

instance : StrEnum ResponseMode where
  members := [.solo, .consortium, .subcontracting]
  value := ResponseMode.value
  complete member := by cases member <;> decide
  value_injective first second := by cases first <;> cases second <;> decide

/-- How saving a profile fails: a `WatchProfileValidationError`, a text that is no member of an enumeration,
    an execution error, or a row that the database refuses. -/
inductive ProfileError where
  | validation (message : String)
  | notMember (text enumType : String)
  | execution (code : String)
  | integrity
deriving DecidableEq

/-- The fields of a profile as they are given. -/
structure CriteriaFields where
  keywords : List String := []
  projectTypes : List String := []
  buyerTypes : List String := []
  includedDepartments : List String := []
  excludedDepartments : List String := []
  maxRadiusKm : Option Int := none
  responseModes : List String := []
  requireQualification : Bool := false
  visitPreference : String := "ANY"

structure WatchProfileCriteria where
  keywords : List String
  projectTypes : List ProjectType
  buyerTypes : List BuyerType
  includedDepartments : List String
  excludedDepartments : List String
  maxRadiusKm : Option Int
  responseModes : List ResponseMode
  requireQualification : Bool
  visitPreference : String
deriving DecidableEq

/-- `_ensure_unique`. -/
def ensureUnique {α : Type} [DecidableEq α] (values : List α) (field : String) : Except ProfileError Unit :=
  raiseIf (values.length ≠ values.dedup.length) (.validation (field ++ " must not contain duplicates"))

def keywordOf (tables : CaseTables) (text : String) : String := tables.casefold (squeeze text)

def normalizeKeywords (tables : CaseTables) (values : List String) : Except ProfileError (List String) := do
  raiseIf (32 < values.length) (.validation "too many keywords")
  let normalized : List String := values.map (keywordOf tables)
  raiseIf (∃ keyword ∈ normalized, keyword = "" ∨ 80 < keyword.length) (.validation "keyword is empty or too long")
  ensureUnique normalized "keywords"
  return rankBy id normalized

def normalizeEnumValues (ε : Type) [StrEnum ε] (field : String) (values : List String) :
    Except ProfileError (List ε) :=
  orRaise (values.mapM (ofValue? ε)) (.validation (field ++ " contains an unsupported value"))

/-- `_DEPARTMENT_PATTERN.fullmatch`. -/
def isDepartment (code : String) : Bool :=
  (code.length = 2 ∨ code.length = 3) ∧ code.toList.all fun c => c.isDigit || c.isUpper

def departmentOf (tables : CaseTables) (text : String) : String := tables.upper (strip text)

def normalizeDepartments (tables : CaseTables) (values : List String) : Except ProfileError (List String) := do
  raiseIf (101 < values.length) (.validation "too many departments")
  let normalized : List String := values.map (departmentOf tables)
  raiseIf (∃ code ∈ normalized, isDepartment code = false) (.validation "department code is invalid")
  ensureUnique normalized "departments"
  return rankBy id normalized

/-- `WatchProfileCriteria.__post_init__`. -/
def CriteriaFields.postInit (tables : CaseTables) (given : CriteriaFields) :
    Except ProfileError WatchProfileCriteria := do
  let keywords ← normalizeKeywords tables given.keywords
  let projectTypes ← normalizeEnumValues ProjectType "project_types" given.projectTypes
  let buyerTypes ← normalizeEnumValues BuyerType "buyer_types" given.buyerTypes
  let responseModes ← normalizeEnumValues ResponseMode "response_modes" given.responseModes
  let includedDepartments ← normalizeDepartments tables given.includedDepartments
  let excludedDepartments ← normalizeDepartments tables given.excludedDepartments
  raiseIf (∃ code ∈ includedDepartments, code ∈ excludedDepartments)
    (.validation "department cannot be both included and excluded")
  raiseIf (∃ radius ∈ given.maxRadiusKm, ¬ (1 ≤ radius ∧ radius ≤ 1000))
    (.validation "max_radius_km must be between 1 and 1000")
  raiseIf (given.visitPreference ∉ ["ANY", "PRIORITIZE", "REQUIRE"])
    (.validation "visit_preference is not supported")
  ensureUnique projectTypes "project_types"
  ensureUnique buyerTypes "buyer_types"
  ensureUnique responseModes "response_modes"
  return {
    keywords := keywords
    projectTypes := projectTypes
    buyerTypes := buyerTypes
    includedDepartments := includedDepartments
    excludedDepartments := excludedDepartments
    maxRadiusKm := given.maxRadiusKm
    responseModes := responseModes
    requireQualification := given.requireQualification
    visitPreference := given.visitPreference }

def textsJson (texts : List String) : Json := .arr (texts.map .str)

def WatchProfileCriteria.snapshot (criteria : WatchProfileCriteria) : Json :=
  .obj [("buyer_types", textsJson (criteria.buyerTypes.map value)),
    ("excluded_departments", textsJson criteria.excludedDepartments),
    ("included_departments", textsJson criteria.includedDepartments), ("keywords", textsJson criteria.keywords),
    ("max_radius_km", criteria.maxRadiusKm.elim .null .int),
    ("project_types", textsJson (criteria.projectTypes.map value)),
    ("require_qualification", .bool criteria.requireQualification),
    ("response_modes", textsJson (criteria.responseModes.map value)),
    ("visit_preference", .str criteria.visitPreference)]

/-- `_criteria_hash`. -/
def criteriaHash (criteria : Json) : String := hexdigest criteria.dumpsChars

/-- `normalize_profile_name`. -/
def normalizeProfileName (name : String) : Except ProfileError String := do
  raiseIf (squeeze name = "") (.validation "profile name is required")
  raiseIf (120 < (squeeze name).length) (.validation "profile name is too long")
  return squeeze name

section Lists

variable {ε : Type} [StrEnum ε]

theorem ofValue?_eq_some {text : String} {member : ε} : ofValue? ε text = some member ↔ value member = text := by
  unfold ofValue?
  constructor
  · intro found
    have same := List.find?_some found
    exact of_decide_eq_true same
  · rintro rfl
    cases found : members.find? fun other : ε => value other = value member with
    | none =>
      have differs := List.find?_eq_none.mp found member (complete member)
      simp at differs
    | some other =>
      have same := List.find?_some found
      rw [value_injective (of_decide_eq_true same)]

theorem mapM_ofValue? {values : List String} {normalized : List ε} :
    values.mapM (ofValue? ε) = some normalized ↔ normalized.map value = values := by
  induction values generalizing normalized with
  | nil => cases normalized <;> simp
  | cons text texts ih =>
    cases normalized with
    | nil => simp [Option.bind_eq_some_iff]
    | cons member others =>
      simp only [List.mapM_cons, Option.bind_eq_bind, Option.pure_def, Option.bind_eq_some_iff, Option.some.injEq,
        List.cons.injEq, ofValue?_eq_some, List.map_cons]
      constructor
      · rintro ⟨first, rfl, rest, found, rfl, rfl⟩
        exact ⟨rfl, ih.mp found⟩
      · rintro ⟨same, rest⟩
        exact ⟨member, same, others, ih.mpr rest, rfl, rfl⟩

theorem normalizeEnumValues_ok {field : String} {values : List String} {normalized : List ε} :
    normalizeEnumValues ε field values = .ok normalized ↔ normalized.map value = values := by
  rw [normalizeEnumValues, orRaise_ok, mapM_ofValue?]

theorem ensureUnique_ok {α : Type} [DecidableEq α] {values : List α} {field : String} {done : Unit} :
    ensureUnique values field = .ok done ↔ values.Nodup := by
  rw [ensureUnique, raiseIf_ok, not_not, ← List.dedup_eq_self]
  constructor
  · intro same
    exact (List.dedup_sublist values).eq_of_length same.symm
  · intro same
    rw [same]

end Lists

section Build

variable {tables : CaseTables} {given one other : CriteriaFields} {criteria first second : WatchProfileCriteria}
  {values normalized : List String}

theorem normalizeKeywords_ok (accepted : normalizeKeywords tables values = .ok normalized) :
    (values.map (keywordOf tables)).Nodup ∧ normalized = rankBy id (values.map (keywordOf tables)) := by
  simp only [normalizeKeywords, bind_ok, raiseIf_ok, ensureUnique_ok, exists_unit, pure_ok] at accepted
  obtain ⟨_, _, apart, same⟩ := accepted
  exact ⟨apart, same.symm⟩

theorem normalizeDepartments_ok (accepted : normalizeDepartments tables values = .ok normalized) :
    (values.map (departmentOf tables)).Nodup ∧ normalized = rankBy id (values.map (departmentOf tables)) := by
  simp only [normalizeDepartments, bind_ok, raiseIf_ok, ensureUnique_ok, exists_unit, pure_ok] at accepted
  obtain ⟨_, _, apart, same⟩ := accepted
  exact ⟨apart, same.symm⟩

/-- How accepted criteria come from the fields that were given. -/
structure Normalised (tables : CaseTables) (given : CriteriaFields) (criteria : WatchProfileCriteria) : Prop where
  keywords : (given.keywords.map (keywordOf tables)).Nodup ∧
    criteria.keywords = rankBy id (given.keywords.map (keywordOf tables))
  projectTypes : criteria.projectTypes.map value = given.projectTypes
  buyerTypes : criteria.buyerTypes.map value = given.buyerTypes
  included : (given.includedDepartments.map (departmentOf tables)).Nodup ∧
    criteria.includedDepartments = rankBy id (given.includedDepartments.map (departmentOf tables))
  excluded : (given.excludedDepartments.map (departmentOf tables)).Nodup ∧
    criteria.excludedDepartments = rankBy id (given.excludedDepartments.map (departmentOf tables))
  responseModes : criteria.responseModes.map value = given.responseModes
  maxRadiusKm : criteria.maxRadiusKm = given.maxRadiusKm
  requireQualification : criteria.requireQualification = given.requireQualification
  visitPreference : criteria.visitPreference = given.visitPreference

theorem normalised_of_ok (built : given.postInit tables = .ok criteria) : Normalised tables given criteria := by
  simp only [CriteriaFields.postInit, bind_ok, raiseIf_ok, ensureUnique_ok, exists_unit, pure_ok,
    normalizeEnumValues_ok] at built
  obtain ⟨_, keywords, _, projectTypes, _, buyerTypes, _, responseModes, _, included, _, excluded, _, _, _, _, _, _,
    same⟩ := built
  subst same
  constructor
  · exact normalizeKeywords_ok keywords
  · exact projectTypes
  · exact buyerTypes
  · exact normalizeDepartments_ok included
  · exact normalizeDepartments_ok excluded
  · exact responseModes
  · rfl
  · rfl
  · rfl

/-- Two requests give the same criteria, each list as a set after its normalisation. -/
structure SameSets (tables : CaseTables) (one other : CriteriaFields) : Prop where
  keywords : ∀ keyword, keyword ∈ one.keywords.map (keywordOf tables) ↔ keyword ∈ other.keywords.map (keywordOf tables)
  projectTypes : ∀ member : ProjectType, value member ∈ one.projectTypes ↔ value member ∈ other.projectTypes
  buyerTypes : ∀ member : BuyerType, value member ∈ one.buyerTypes ↔ value member ∈ other.buyerTypes
  included : ∀ code, code ∈ one.includedDepartments.map (departmentOf tables) ↔
    code ∈ other.includedDepartments.map (departmentOf tables)
  excluded : ∀ code, code ∈ one.excludedDepartments.map (departmentOf tables) ↔
    code ∈ other.excludedDepartments.map (departmentOf tables)
  responseModes : ∀ member : ResponseMode, value member ∈ one.responseModes ↔ value member ∈ other.responseModes
  maxRadiusKm : one.maxRadiusKm = other.maxRadiusKm
  requireQualification : one.requireQualification = other.requireQualification
  visitPreference : one.visitPreference = other.visitPreference

/-- The lists of enumeration members are given in the same order. -/
structure SameOrder (one other : CriteriaFields) : Prop where
  projectTypes : one.projectTypes = other.projectTypes
  buyerTypes : one.buyerTypes = other.buyerTypes
  responseModes : one.responseModes = other.responseModes

theorem members_eq {ε : Type} [StrEnum ε] {members others : List ε} {texts words : List String}
    (named : members.map value = texts) (worded : others.map value = words) : members = others ↔ texts = words := by
  rw [← named, ← worded]
  exact (List.map_injective_iff.mpr value_injective).eq_iff.symm

/-- Accepted criteria are one exactly when their fields are equal as sets and the enumeration members are in order. -/
theorem criteria_eq_iff (built : Normalised tables one first) (rebuilt : Normalised tables other second) :
    first = second ↔ SameSets tables one other ∧ SameOrder one other := by
  have keywords := rankBy_id_eq_iff built.keywords.1 rebuilt.keywords.1
  have included := rankBy_id_eq_iff built.included.1 rebuilt.included.1
  have excluded := rankBy_id_eq_iff built.excluded.1 rebuilt.excluded.1
  rw [← built.keywords.2, ← rebuilt.keywords.2] at keywords
  rw [← built.included.2, ← rebuilt.included.2] at included
  rw [← built.excluded.2, ← rebuilt.excluded.2] at excluded
  have projectTypes := members_eq built.projectTypes rebuilt.projectTypes
  have buyerTypes := members_eq built.buyerTypes rebuilt.buyerTypes
  have responseModes := members_eq built.responseModes rebuilt.responseModes
  have radius := built.maxRadiusKm
  have qualification := built.requireQualification
  have visit := built.visitPreference
  constructor
  · rintro rfl
    have order : SameOrder one other :=
      ⟨projectTypes.mp rfl, buyerTypes.mp rfl, responseModes.mp rfl⟩
    refine ⟨⟨keywords.mp rfl, fun member => ?_, fun member => ?_, included.mp rfl, excluded.mp rfl, fun member => ?_,
      ?_, ?_, ?_⟩, order⟩
    · rw [order.projectTypes]
    · rw [order.buyerTypes]
    · rw [order.responseModes]
    · rw [← radius, rebuilt.maxRadiusKm]
    · rw [← qualification, rebuilt.requireQualification]
    · rw [← visit, rebuilt.visitPreference]
  · rintro ⟨same, order⟩
    have sameRadius := same.maxRadiusKm
    have sameQualification := same.requireQualification
    have sameVisit := same.visitPreference
    rw [← radius, ← rebuilt.maxRadiusKm] at sameRadius
    rw [← qualification, ← rebuilt.requireQualification] at sameQualification
    rw [← visit, ← rebuilt.visitPreference] at sameVisit
    cases first
    cases second
    simp only [WatchProfileCriteria.mk.injEq]
    exact ⟨keywords.mpr same.keywords, projectTypes.mpr order.projectTypes, buyerTypes.mpr order.buyerTypes,
      included.mpr same.included, excluded.mpr same.excluded, sameRadius, responseModes.mpr order.responseModes,
      sameQualification, sameVisit⟩

theorem textsJson_injective : Function.Injective textsJson := by
  intro texts others same
  have items : texts.map Json.str = others.map Json.str := by
    injection same
  exact List.map_injective_iff.mpr (fun _ _ equal => Json.str.inj equal) items

/-- A snapshot shows every field. -/
theorem snapshot_injective : Function.Injective WatchProfileCriteria.snapshot := by
  intro first second same
  have members {ε : Type} [StrEnum ε] : Function.Injective (List.map (value (ε := ε))) :=
    List.map_injective_iff.mpr value_injective
  have radius (one other : Option Int) (shown : one.elim Json.null .int = other.elim Json.null .int) :
      one = other := by
    cases one <;> cases other <;> simp_all
  simp only [WatchProfileCriteria.snapshot, Json.obj.injEq, List.cons.injEq, Prod.mk.injEq, true_and, and_true,
    textsJson_injective.eq_iff, members.eq_iff, Json.bool.injEq, Json.str.injEq] at same
  obtain ⟨buyerTypes, excluded, included, keywords, shown, projectTypes, qualification, responseModes, visit⟩ := same
  cases first
  cases second
  simp only [WatchProfileCriteria.mk.injEq]
  exact ⟨keywords, projectTypes, buyerTypes, included, excluded, radius _ _ shown, responseModes, qualification, visit⟩

/-- Equal criteria have one snapshot and one hash, criteria that differ have different snapshots. -/
structure Canonical (tables : CaseTables) (one other : CriteriaFields) (first second : WatchProfileCriteria) :
    Prop where
  alike : SameSets tables one other →
    first.snapshot = second.snapshot ∧ criteriaHash first.snapshot = criteriaHash second.snapshot
  apart : ¬ SameSets tables one other → first.snapshot ≠ second.snapshot

theorem snapshot_canonical (built : one.postInit tables = .ok first) (rebuilt : other.postInit tables = .ok second) :
    Canonical tables one other first second ↔ (SameSets tables one other → SameOrder one other) := by
  have same := criteria_eq_iff (normalised_of_ok built) (normalised_of_ok rebuilt)
  constructor
  · intro canonical sets
    have equal : first = second := snapshot_injective (canonical.alike sets).1
    exact (same.mp equal).2
  · intro ordered
    constructor
    · intro sets
      have equal : first = second := same.mpr ⟨sets, ordered sets⟩
      rw [equal]
      exact ⟨rfl, rfl⟩
    · intro differ shown
      exact differ (same.mp (snapshot_injective shown)).1

end Build

def plainTables : CaseTables := ⟨id, id⟩

def housingFirst : CriteriaFields := { projectTypes := ["HOUSING", "TERTIARY"] }

def tertiaryFirst : CriteriaFields := { projectTypes := ["TERTIARY", "HOUSING"] }

def projectCriteria (projectTypes : List ProjectType) : WatchProfileCriteria :=
  ⟨[], projectTypes, [], [], [], none, [], false, "ANY"⟩

theorem reordered_project_types : housingFirst.postInit plainTables = .ok (projectCriteria [.housing, .tertiary]) ∧
    tertiaryFirst.postInit plainTables = .ok (projectCriteria [.tertiary, .housing]) ∧
    ¬ Canonical plainTables housingFirst tertiaryFirst (projectCriteria [.housing, .tertiary])
      (projectCriteria [.tertiary, .housing]) := by
  refine ⟨rfl, rfl, ?_⟩
  intro canonical
  have sets : SameSets plainTables housingFirst tertiaryFirst := by
    constructor
    · exact fun _ => Iff.rfl
    · intro member
      cases member <;> decide
    · exact fun _ => Iff.rfl
    · exact fun _ => Iff.rfl
    · exact fun _ => Iff.rfl
    · exact fun _ => Iff.rfl
    · rfl
    · rfl
    · rfl
  have equal := snapshot_injective (canonical.alike sets).1
  revert equal
  decide

def northOf (departments keywords : List String) : CriteriaFields :=
  { keywords := keywords, includedDepartments := departments, projectTypes := ["HOUSING", "TERTIARY"] }

def northCriteria : WatchProfileCriteria :=
  ⟨["lot", "toiture"], [.housing, .tertiary], [], ["2A", "59"], [], none, [], false, "ANY"⟩

theorem snapshot_canonical_departments : Canonical plainTables (northOf ["59", "2A"] ["toiture", " lot "])
    (northOf ["2A", " 59"] ["lot", "toiture"]) northCriteria northCriteria :=
  (snapshot_canonical rfl rfl).mpr fun _ => ⟨rfl, rfl, rfl⟩

inductive WatchProfileState where
  | active
  | paused

structure OpportunityWatchProfileRecord where
  id : Uuid
  tenantId : Uuid
  aggregateRevision : Nat
  name : String
  state : WatchProfileState
  currentVersion : Nat
  actorId : Uuid
  commandId : Uuid
  idempotencyKey : Uuid
  correlationId : Option Uuid

instance : Schema OpportunityWatchProfileRecord := .ownedKeys fun row =>
  (row.id, row.tenantId, row.commandId, row.idempotencyKey)

structure OpportunityWatchProfileVersionRecord where
  id : Uuid
  tenantId : Uuid
  profileId : Uuid
  versionNumber : Nat
  name : String
  criteriaJson : Json
  criteriaSha256 : String
  actorId : Uuid
  commandId : Uuid
  idempotencyKey : Uuid
  correlationId : Option Uuid

instance : Schema OpportunityWatchProfileVersionRecord where
  Columns := Uuid × Uuid × (Uuid × Nat) × Uuid × Uuid
  columns row := (row.id, row.tenantId, (row.profileId, row.versionNumber), row.commandId, row.idempotencyKey)
  Clash first second := first.1 = second.1 ∨ (first.2.1 = second.2.1 ∧
    (first.2.2.1 = second.2.2.1 ∨ first.2.2.2.1 = second.2.2.2.1 ∨ first.2.2.2.2 = second.2.2.2.2))
  decidableClash _ _ := inferInstance
  symm clash := clash.imp Eq.symm (And.imp Eq.symm (Or.imp Eq.symm (Or.imp Eq.symm Eq.symm)))

structure ProfileStore where
  profiles : Table OpportunityWatchProfileRecord
  versions : Table OpportunityWatchProfileVersionRecord

structure CreateOpportunityWatchProfileCommand extends ApplicationCommand where
  profileId : Uuid
  name : String
  fields : CriteriaFields

structure AddOpportunityWatchProfileVersionCommand extends ApplicationCommand where
  profileId : Uuid
  versionId : Uuid
  expectedRevision : Nat
  name : Option String
  fields : CriteriaFields

/-- `command.criteria()`: the members are looked up before the criteria are built. -/
def CriteriaFields.criteria (tables : CaseTables) (given : CriteriaFields) : Except ProfileError WatchProfileCriteria := do
  let known (ε : Type) [StrEnum ε] (enumType : String) (texts : List String) : Except ProfileError Unit :=
    texts.forM fun text => raiseIf (ofValue? ε text).isNone (.notMember text enumType)
  known ProjectType "ProjectType" given.projectTypes
  known BuyerType "BuyerType" given.buyerTypes
  known ResponseMode "ResponseMode" given.responseModes
  given.postInit tables

/-- `_require_patron`. -/
def requirePatron (context : CommandContext) : Except ProfileError Unit :=
  raiseIf (context.actorKind ≠ .patronAdmin ∨ context.membershipId = none)
    (.execution "OPPORTUNITY_PROFILE_PATRON_REQUIRED")

/-- `_version_record`. -/
def versionRecord (profileId versionId : Uuid) (versionNumber : Nat) (name : String) (criteria : Json)
    (command : ApplicationCommand) (context : CommandContext) : OpportunityWatchProfileVersionRecord where
  id := versionId
  tenantId := context.tenantId
  profileId := profileId
  versionNumber := versionNumber
  name := name
  criteriaJson := criteria
  criteriaSha256 := criteriaHash criteria
  actorId := context.actorId
  commandId := command.commandId
  idempotencyKey := command.idempotencyKey
  correlationId := command.correlationId

def ProfileStore.profile (store : ProfileStore) (tenantId profileId : Uuid) : Option OpportunityWatchProfileRecord :=
  store.profiles.find? fun row => row.tenantId = tenantId ∧ row.id = profileId

namespace CreateOpportunityWatchProfileCommand

variable (tables : CaseTables) (store : ProfileStore) (context : CommandContext)
  (command : CreateOpportunityWatchProfileCommand)

def versionId : Uuid :=
  uuid5 0x6ba7b8119dad11d180b400c04fd430c8
    ("smart-ao:opportunity-watch-profile:".toList ++ command.profileId.chars ++ ":version:1".toList)

def profileRecord (name : String) : OpportunityWatchProfileRecord where
  id := command.profileId
  tenantId := context.tenantId
  aggregateRevision := 0
  name := name
  state := .active
  currentVersion := 1
  actorId := context.actorId
  commandId := command.commandId
  idempotencyKey := command.idempotencyKey
  correlationId := command.correlationId

def outcome : HandlerOutcome where
  resultCode := "OPPORTUNITY_PROFILE_CREATED"
  aggregateRefs := [⟨"OpportunityWatchProfile", command.profileId.str, 0, none⟩]
  events := [{
    aggregateType := "OpportunityWatchProfile"
    aggregateId := command.profileId
    aggregateRevision := 0
    eventType := "OpportunityWatchProfileCreated"
    payload := [("profile_id", .str command.profileId.str), ("version_number", .int 1)] }]

def execute : Except ProfileError (ProfileStore × HandlerOutcome) := do
  requirePatron context
  let name ← normalizeProfileName command.name
  let criteria ← command.fields.criteria tables
  raiseIf (store.profile context.tenantId command.profileId).isSome (.execution "OPPORTUNITY_PROFILE_ALREADY_EXISTS")
  let profiles ← orRaise (store.profiles.insert? (command.profileRecord context name)) .integrity
  let versions ← orRaise (store.versions.insert? (versionRecord command.profileId command.versionId 1 name
    criteria.snapshot command.toApplicationCommand context)) .integrity
  return (⟨profiles, versions⟩, command.outcome)

end CreateOpportunityWatchProfileCommand

namespace AddOpportunityWatchProfileVersionCommand

variable (tables : CaseTables) (store : ProfileStore) (context : CommandContext)
  (command : AddOpportunityWatchProfileVersionCommand) (profile : OpportunityWatchProfileRecord)

def outcome : HandlerOutcome where
  resultCode := "OPPORTUNITY_PROFILE_VERSION_ADDED"
  aggregateRefs := [⟨"OpportunityWatchProfile", profile.id.str, profile.aggregateRevision + 1, none⟩]
  events := [{
    aggregateType := "OpportunityWatchProfile"
    aggregateId := profile.id
    aggregateRevision := profile.aggregateRevision + 1
    eventType := "OpportunityWatchProfileVersionAdded"
    payload := [("profile_id", .str profile.id.str), ("version_id", .str command.versionId.str),
      ("version_number", .int (profile.currentVersion + 1))] }]

def execute : Except ProfileError (ProfileStore × HandlerOutcome) := do
  requirePatron context
  let profile ← orRaise (store.profile context.tenantId command.profileId) (.execution "NOT_FOUND_OR_FORBIDDEN")
  raiseIf (profile.aggregateRevision ≠ command.expectedRevision) (.execution "VERSION_CONFLICT")
  raiseIf (store.versions.find? fun row => row.tenantId = context.tenantId ∧ row.id = command.versionId).isSome
    (.execution "OPPORTUNITY_PROFILE_VERSION_ALREADY_EXISTS")
  let criteria ← command.fields.criteria tables
  let name ← normalizeProfileName ((command.name.filter (· ≠ "")).getD profile.name)
  let versions ← orRaise (store.versions.insert? (versionRecord profile.id command.versionId
    (profile.currentVersion + 1) name criteria.snapshot command.toApplicationCommand context)) .integrity
  let profiles := store.profiles.update (fun row => row.id = profile.id)
    (fun row => { row with
      name := name
      currentVersion := row.currentVersion + 1
      aggregateRevision := row.aggregateRevision + 1 }) fun _ => rfl
  return (⟨profiles, versions⟩, command.outcome profile)

end AddOpportunityWatchProfileVersionCommand

/-- A save of the patron. -/
inductive ProfileSave where
  | create (command : CreateOpportunityWatchProfileCommand)
  | addVersion (command : AddOpportunityWatchProfileVersionCommand)

namespace ProfileSave

def execute (tables : CaseTables) (store : ProfileStore) (context : CommandContext) :
    ProfileSave → Except ProfileError (ProfileStore × HandlerOutcome)
  | create command => command.execute tables store context
  | addVersion command => command.execute tables store context

def fields : ProfileSave → CriteriaFields
  | create command => command.fields
  | addVersion command => command.fields

def versionId : ProfileSave → Uuid
  | create command => command.versionId
  | addVersion command => command.versionId

end ProfileSave

section Saves

variable {tables : CaseTables} {store next : ProfileStore} {context : CommandContext} {save : ProfileSave}
  {outcome : HandlerOutcome} {given : CriteriaFields} {criteria : WatchProfileCriteria}

theorem criteria_built (named : given.criteria tables = .ok criteria) : given.postInit tables = .ok criteria := by
  simp only [CriteriaFields.criteria, bind_ok] at named
  obtain ⟨_, _, _, _, _, _, built⟩ := named
  exact built

/-- What the version row of a save keeps. -/
structure Keeps (save : ProfileSave) (criteria : WatchProfileCriteria)
    (version : OpportunityWatchProfileVersionRecord) : Prop where
  id : version.id = save.versionId
  json : version.criteriaJson = criteria.snapshot
  sha256 : version.criteriaSha256 = criteriaHash criteria.snapshot

/-- A save adds one version row, which keeps the snapshot of its criteria and their hash. -/
theorem execute_saves (executed : save.execute tables store context = .ok (next, outcome)) :
    ∃ criteria version, save.fields.postInit tables = .ok criteria ∧ Keeps save criteria version ∧
      next.versions.rows = store.versions.rows ++ [version] := by
  cases save with
  | create command =>
    simp only [ProfileSave.execute, CreateOpportunityWatchProfileCommand.execute, bind_ok, orRaise_ok, pure_ok,
      Prod.mk.injEq] at executed
    obtain ⟨_, _, name, _, criteria, built, _, _, profiles, _, versions, inserted, rfl, _⟩ := executed
    refine ⟨criteria, _, criteria_built built, ?_, Table.insert?_rows inserted⟩
    exact ⟨rfl, rfl, rfl⟩
  | addVersion command =>
    simp only [ProfileSave.execute, AddOpportunityWatchProfileVersionCommand.execute, bind_ok, orRaise_ok, pure_ok,
      Prod.mk.injEq] at executed
    obtain ⟨_, _, profile, _, _, _, _, _, criteria, built, name, _, versions, inserted, rfl, _⟩ := executed
    refine ⟨criteria, _, criteria_built built, ?_, Table.insert?_rows inserted⟩
    exact ⟨rfl, rfl, rfl⟩

/-- Saves of one profile content, its enumeration members in order, store one document and one hash. -/
theorem saves_agree {other : ProfileSave} {store' next' : ProfileStore} {actor : CommandContext}
    {result : HandlerOutcome} (executed : save.execute tables store context = .ok (next, outcome))
    (repeated : other.execute tables store' actor = .ok (next', result))
    (sets : SameSets tables save.fields other.fields) (order : SameOrder save.fields other.fields) :
    ∃ version ∈ next.versions, ∃ again ∈ next'.versions, version.id = save.versionId ∧ again.id = other.versionId ∧
      version.criteriaJson = again.criteriaJson ∧ version.criteriaSha256 = again.criteriaSha256 := by
  obtain ⟨criteria, version, built, keeps, rows⟩ := execute_saves executed
  obtain ⟨others, again, rebuilt, keepsAgain, rowsAgain⟩ := execute_saves repeated
  have same := (criteria_eq_iff (normalised_of_ok built) (normalised_of_ok rebuilt)).mpr ⟨sets, order⟩
  have stored : version ∈ next.versions := by
    rw [← Table.mem_rows, rows]
    exact List.mem_append_right _ (List.mem_singleton_self version)
  have storedAgain : again ∈ next'.versions := by
    rw [← Table.mem_rows, rowsAgain]
    exact List.mem_append_right _ (List.mem_singleton_self again)
  refine ⟨version, stored, again, storedAgain, keeps.id, keepsAgain.id, ?_, ?_⟩
  · rw [keeps.json, keepsAgain.json, same]
  · rw [keeps.sha256, keepsAgain.sha256, same]

end Saves

end SmartAo.Opportunity.WatchProfile
