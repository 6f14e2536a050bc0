import SmartAo.Decision.FrozenContext
import SmartAo.Foundation.Hex

namespace SmartAo.Decision

open SmartAo.Foundation SmartAo.Platform SmartAo.Case SmartAo.Dce SmartAo.Pricing SmartAo.PatronAction

/-- What the identifier of a reference is derived from. -/
abbrev Quote := ContextAggregate × Uuid × Nat × String

def Quote.token (quote : Quote) : List Char := referenceToken quote.1 quote.2.1 quote.2.2.1 quote.2.2.2

def DecisionContextReferenceInput.quote (reference : DecisionContextReferenceInput) : Quote :=
  (reference.aggregateType, reference.aggregateId, reference.aggregateRevision, reference.referenceRole)

def DecisionContextReferenceRecord.quote (reference : DecisionContextReferenceRecord) : Quote :=
  (reference.aggregateType, reference.aggregateId, reference.aggregateRevision, reference.referenceRole)

theorem aggregateValue_injective {first second : ContextAggregate} (same : first.value = second.value) :
    first = second := by
  cases first <;> cases second <;> first | rfl | exact absurd same (by decide)

theorem colon_not_mem_aggregateValue (aggregateType : ContextAggregate) :
    ':' ∉ aggregateType.value.toList := by
  cases aggregateType <;> decide

theorem colon_not_mem_chars (id : Uuid) : ':' ∉ id.chars := by
  intro member
  rcases Uuid.mem_chars member with digit | dash
  · exact absurd digit (by decide)
  · exact absurd dash (by decide)

/-- The hashed token separates the quotes. -/
theorem Quote.token_injective {first second : Quote} (same : first.token = second.token) :
    first = second := by
  obtain ⟨firstType, firstId, firstRevision, firstRole⟩ := first
  obtain ⟨secondType, secondId, secondRevision, secondRole⟩ := second
  obtain ⟨types, rest⟩ := split_unique (colon_not_mem_aggregateValue _) (colon_not_mem_aggregateValue _) same
  obtain ⟨ids, rest⟩ := split_unique (colon_not_mem_chars _) (colon_not_mem_chars _) rest
  obtain ⟨revisions, roles⟩ := split_unique (not_mem_toDigits (by decide) _)
    (not_mem_toDigits (by decide) _) rest
  cases aggregateValue_injective (String.toList_injective types)
  cases Uuid.chars_injective ids
  cases toDigits_injective revisions
  cases String.toList_injective roles
  rfl

/-- The quotes of a freeze and of the stored references. -/
def QuoteInPlay (store : Store) (freeze : FreezeDecisionContextCommand) (quote : Quote) : Prop :=
  (∃ reference ∈ freeze.references, quote = reference.quote) ∨
    ∃ reference ∈ store.decisions.references, quote = reference.quote

/-- The first 128 bits of SHA-256 separate the tokens in play. -/
def HashSeparates (store : Store) (freeze : FreezeDecisionContextCommand) : Prop :=
  ∀ first second, QuoteInPlay store freeze first → QuoteInPlay store freeze second →
    referenceId first.token = referenceId second.token → first.token = second.token

/-- The rows a freeze inserts have identifiers distinct from each other and from the stored ones. -/
def KeysDistinct (store : Store) (freeze : FreezeDecisionContextCommand) (context : CommandContext) : Prop :=
  ((freeze.referenceRecords context).map (·.id)).Nodup ∧
    ∀ stored ∈ store.decisions.references, ∀ row ∈ freeze.referenceRecords context, stored.id ≠ row.id

/-- No type, aggregate, revision and role is quoted twice by the freeze, nor quoted by a stored
    reference. -/
def QuotesNew (store : Store) (freeze : FreezeDecisionContextCommand) : Prop :=
  (freeze.references.map DecisionContextReferenceInput.quote).Nodup ∧
    ∀ stored ∈ store.decisions.references, ∀ reference ∈ freeze.references, stored.quote ≠ reference.quote

variable {store : Store} {context : CommandContext} {freeze : FreezeDecisionContextCommand}

theorem referenceRecord_id (reference : DecisionContextReferenceInput) :
    (freeze.referenceRecord context reference).id = referenceId reference.quote.token := rfl

theorem HashSeparates.same (separates : HashSeparates store freeze) {first second : Quote}
    (hf : QuoteInPlay store freeze first) (hs : QuoteInPlay store freeze second) :
    referenceId first.token = referenceId second.token ↔ first = second := by
  constructor
  · exact fun same => Quote.token_injective (separates first second hf hs same)
  · rintro rfl
    rfl

theorem keysDistinct_iff (sound : ContextsSound store.decisions) (separates : HashSeparates store freeze) :
    KeysDistinct store freeze context ↔ QuotesNew store freeze := by
  have submitted {reference : DecisionContextReferenceInput} (member : reference ∈ freeze.references) :
      QuoteInPlay store freeze reference.quote := .inl ⟨reference, member, rfl⟩
  unfold KeysDistinct QuotesNew
  refine and_congr ?_ ?_
  · simp only [FreezeDecisionContextCommand.referenceRecords, List.map_map, List.Nodup, List.pairwise_map,
      Function.comp, referenceRecord_id]
    constructor
    · refine List.Pairwise.imp fun {first second} different same => different ?_
      rw [same]
    · intro apart
      refine apart.imp_of_mem fun {first second} hf hs different same => different ?_
      exact (separates.same (submitted hf) (submitted hs)).mp same
  · refine forall₂_congr fun stored kept => ?_
    have keyed : stored.id = referenceId stored.quote.token := sound.keyed stored kept
    constructor
    · intro apart reference member same
      refine apart (freeze.referenceRecord context reference) (List.mem_map.mpr ⟨reference, member, rfl⟩) ?_
      rw [keyed, same, referenceRecord_id]
    · intro new row inserted same
      obtain ⟨reference, member, rfl⟩ := List.mem_map.mp inserted
      rw [keyed, referenceRecord_id] at same
      exact new reference member
        ((separates.same (.inr ⟨stored, kept, rfl⟩) (submitted member)).mp same)

/-- A freeze accepts one revision of an aggregate. -/
theorem contextReferenceIsValid_revision {tenantId caseId aggregateId : Uuid} {aggregateType : ContextAggregate}
    {first second : Nat} {firstHash secondHash : Option String}
    (hf : contextReferenceIsValid store tenantId caseId aggregateType aggregateId first firstHash)
    (hs : contextReferenceIsValid store tenantId caseId aggregateType aggregateId second secondHash) :
    first = second := by
  cases aggregateType with
  | case =>
    simp only [contextReferenceIsValid, decide_eq_true_eq] at hf hs
    obtain ⟨_, one, storedOne, _, _, namedOne, revisionOne, _⟩ := hf
    obtain ⟨_, two, storedTwo, _, _, namedTwo, revisionTwo, _⟩ := hs
    have same : one = two := Table.eq_of_conflict storedOne storedTwo (namedOne.trans namedTwo.symm)
    rw [← revisionOne, ← revisionTwo, same]
  | dceVersion =>
    simp only [contextReferenceIsValid, decide_eq_true_eq] at hf hs
    obtain ⟨one, storedOne, _, _, namedOne, revisionOne, _⟩ := hf
    obtain ⟨two, storedTwo, _, _, namedTwo, revisionTwo, _⟩ := hs
    have same : one = two := Table.eq_of_conflict storedOne storedTwo (.inl (namedOne.trans namedTwo.symm))
    rw [← revisionOne, ← revisionTwo, same]
  | dceRequirement =>
    obtain ⟨_, _, _, ofOne, _, ⟨_, namedOne, _⟩, one, storedOne, _, keyOne, revisionOne, _⟩ :=
      requirementReference_valid.mp hf
    obtain ⟨_, _, _, ofTwo, _, ⟨_, namedTwo, _⟩, two, storedTwo, _, keyTwo, revisionTwo, _⟩ :=
      requirementReference_valid.mp hs
    have same : one = two := Table.eq_of_conflict storedOne storedTwo
      ((keyOne.trans namedOne).trans (keyTwo.trans namedTwo).symm)
    rw [← revisionOne, ← revisionTwo, same]
  | decisionRisk =>
    simp only [contextReferenceIsValid, decide_eq_true_eq] at hf hs
    rw [hf.1.1, hs.1.1]
  | pricingScenario =>
    simp only [contextReferenceIsValid, decide_eq_true_eq] at hf hs
    obtain ⟨_, one, storedOne, _, namedOne, _, revisionOne, _⟩ := hf
    obtain ⟨_, two, storedTwo, _, namedTwo, _, revisionTwo, _⟩ := hs
    have same : one = two := Table.eq_of_conflict storedOne storedTwo (.inl (namedOne.trans namedTwo.symm))
    rw [← revisionOne, ← revisionTwo, same]

theorem QuotesNew.inserted {decision : DecisionRecord} (new : QuotesNew store freeze)
    (checked : FreezeChecked store freeze context decision) (sound : ContextsSound store.decisions)
    (separates : HashSeparates store freeze)
    (fresh : ∀ row ∈ store.decisions.contexts, row.id ≠ freeze.contextId) :
    (store.decisions.references.insertAll? (freeze.referenceRecords context)).isSome := by
  have keys : KeysDistinct store freeze context ↔ QuotesNew store freeze := keysDistinct_iff sound separates
  obtain ⟨apart, distinct⟩ := keys.mpr new
  rw [Table.insertAll?_isSome]
  constructor
  · rintro stored kept row inserted (sameId | sameColumns)
    · exact distinct stored kept row inserted sameId
    · obtain ⟨reference, _, rfl⟩ := List.mem_map.mp inserted
      obtain ⟨owner, present, _, named⟩ := sound.owned stored kept
      have context_id : stored.decisionContextId = freeze.contextId := congrArg (fun columns => columns.2.1) sameColumns
      exact fresh owner present (named.trans context_id)
  · rw [List.Nodup, List.pairwise_map] at apart
    refine apart.imp_of_mem fun {first second} hf hs different clash => ?_
    rcases clash with sameId | sameColumns
    · exact different sameId
    · obtain ⟨one, listedOne, rfl⟩ := List.mem_map.mp hf
      obtain ⟨two, listedTwo, rfl⟩ := List.mem_map.mp hs
      have types : one.aggregateType = two.aggregateType := congrArg (fun columns => columns.2.2.1) sameColumns
      have ids : one.aggregateId = two.aggregateId := congrArg (fun columns => columns.2.2.2.1) sameColumns
      have roles : strip one.referenceRole = strip two.referenceRole :=
        congrArg (fun columns => columns.2.2.2.2) sameColumns
      rw [one.stripped, two.stripped] at roles
      have validOne := checked.valid one listedOne
      have validTwo := checked.valid two listedTwo
      rw [DecisionContextReferenceInput.isValid, types, ids] at validOne
      have revisions := contextReferenceIsValid_revision validOne validTwo
      have same : one.quote = two.quote := by
        unfold DecisionContextReferenceInput.quote
        rw [types, ids, revisions, roles]
      exact different (by rw [referenceRecord_id, referenceRecord_id, same])

/-- A freeze that passed its checks writes its context under a new identifier, then its references. -/
theorem FreezeChecked.accepted_iff {decision : DecisionRecord}
    (checked : FreezeChecked store freeze context decision)
    (fresh : ∀ row ∈ store.decisions.contexts, row.id ≠ freeze.contextId) :
    (∃ result, freezeDecisionContext store freeze context = .ok result) ↔
      (store.decisions.references.insertAll? (freeze.referenceRecords context)).isSome := by
  constructor
  · rintro ⟨⟨result, outcome⟩, accepted⟩
    obtain ⟨_, contexts, references, decisions, _, _, all, _, _⟩ := freezeDecisionContext_ok accepted
    rw [all]
    rfl
  · intro inserted
    obtain ⟨references, all⟩ := Option.isSome_iff_exists.mp inserted
    obtain ⟨contexts, first⟩ : ∃ contexts,
        store.decisions.contexts.insert? (freeze.contextRecord context) = some contexts := by
      rw [← Option.isSome_iff_exists, Table.insert?_isSome]
      rintro row stored (sameId | sameColumns)
      · exact fresh row stored sameId
      · have tenant : row.tenantId = context.tenantId := congrArg (fun columns => columns.1) sameColumns
        have named : row.decisionId = freeze.decisionId := congrArg (fun columns => columns.2.1) sameColumns
        have listed := DecisionStore.mem_contextsOf.mpr ⟨stored, tenant, named⟩
        rw [checked.contexts] at listed
        cases listed
    obtain ⟨decisions, updated⟩ : ∃ decisions, updateRoot store.decisions.decisions context.tenantId
        freeze.decisionId freeze.expectedRevision (frozenRoot context) (frozenRoot_columns context)
        (.execution "STALE_DECISION_REVISION") = .ok decisions :=
      updateRoot_accepted checked.root.1 ⟨checked.root.2.1, checked.root.2.2, checked.revision⟩
    simp only [freezeDecisionContext, bind_ok, exists_unit, pure_ok, flush, orRaise_ok, freezeChecks_ok]
    exact ⟨_, ⟨decision, checked⟩, contexts, first, references, all, decisions, updated, rfl⟩

section Shared

theorem hashSeparates_of {quotes : List Quote}
    (listed : freeze.references.map DecisionContextReferenceInput.quote ++
      store.decisions.references.rows.map DecisionContextReferenceRecord.quote = quotes)
    (apart : ∀ first ∈ quotes, ∀ second ∈ quotes,
      referenceId first.token = referenceId second.token → first.token = second.token) :
    HashSeparates store freeze := by
  have among {quote : Quote} (inPlay : QuoteInPlay store freeze quote) : quote ∈ quotes := by
    rw [← listed, List.mem_append]
    rcases inPlay with ⟨reference, member, rfl⟩ | ⟨reference, member, rfl⟩
    · exact .inl (List.mem_map.mpr ⟨reference, member, rfl⟩)
    · exact .inr (List.mem_map.mpr ⟨reference, member, rfl⟩)
  exact fun first second hf hs => apart first (among hf) second (among hs)

/-- A second case of the tenant uses the same version, whose requirement a frozen context quotes. -/
def sharedVersionRun : List Input := draftedCase ++ [
  .decision (.freeze (freezeOf [caseReference, requirementReference])) patronAdmin,
  .case (.create 12 1 "lot 2"),
  .case (.update 1 12 0 ⟨none, some (some 5)⟩),
  .decision (.create ⟨⟨25, 25, none⟩, 13, 12, none⟩) patronAdmin]

def secondCaseReference : DecisionContextReferenceInput :=
  ⟨.case, 12, 1, none, "AFFAIRE", affaire_stripped, affaire_nonempty⟩

def secondFreeze : FreezeDecisionContextCommand :=
  ⟨⟨26, 26, none⟩, 13, 12, 14, 0, "Analyse", [], [], [secondCaseReference, requirementReference]⟩

end Shared

end SmartAo.Decision
