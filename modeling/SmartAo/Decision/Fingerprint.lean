import SmartAo.Decision.ReferenceKeys
import SmartAo.Foundation.Json

namespace SmartAo.Decision

open SmartAo.Foundation SmartAo.Platform SmartAo.Case SmartAo.Dce SmartAo.Pricing SmartAo.PatronAction

/-- The document a fingerprint hashes. -/
def fingerprintPayload (freeze : FreezeDecisionContextCommand) (context : CommandContext) : Json :=
  .obj [("prepared_at", .str (isoformat context.receivedAt)),
    ("references", .arr ((normalized (freeze.references.map fun reference =>
      String.ofList reference.token)).map .str)),
    ("risks", .arr ((normalized freeze.risks).map .str)), ("tenant_id", .str context.tenantId.str),
    ("unknowns", .arr ((normalized freeze.unknowns).map .str))]

theorem fingerprint_eq (freeze : FreezeDecisionContextCommand) (context : CommandContext) :
    freeze.fingerprint context = hexdigest (fingerprintPayload freeze context).dumpsChars := by
  unfold FreezeDecisionContextCommand.fingerprint contextFingerprint fingerprintPayload
  rfl

/-- A freeze committed in a reachable store. -/
def Executed (inputs : List Input) (freeze : FreezeDecisionContextCommand) (context : CommandContext) : Prop :=
  ∃ next, step (run step .empty inputs) (.decision (.freeze freeze) context) = .ok next

/-- Two stored documents agree on what the patron relies on. -/
def SameFacts (first second : CanonicalContext) : Prop :=
  first.references = second.references ∧ first.unknowns = second.unknowns ∧
    first.risks = second.risks ∧ first.preparedAt = second.preparedAt

/-- Every execution of the tenant that stores the same fingerprint stores the same facts, unless the
    hash confuses the two payloads. -/
def FingerprintCommits (freeze : FreezeDecisionContextCommand) (context : CommandContext) : Prop :=
  ∀ inputs (other : FreezeDecisionContextCommand) (actor : CommandContext), Executed inputs other actor →
    actor.tenantId = context.tenantId →
    (sha256 (fingerprintPayload freeze context).dumpsChars =
        sha256 (fingerprintPayload other actor).dumpsChars →
      (fingerprintPayload freeze context).dumpsChars = (fingerprintPayload other actor).dumpsChars) →
    (freeze.contextRecord context).contextFingerprint = (other.contextRecord actor).contextFingerprint →
      SameFacts (freeze.contextRecord context).canonicalContext (other.contextRecord actor).canonicalContext

theorem aggregateValue_starts (aggregateType : ContextAggregate) :
    ∃ head tail, aggregateType.value.toList = head :: tail ∧ isSpace head = false := by
  cases aggregateType <;> exact ⟨_, _, rfl, by decide⟩

/-- A token starts with its type and ends with its stripped role. -/
theorem strip_token (reference : DecisionContextReferenceInput) :
    strip (String.ofList reference.token) = String.ofList reference.token := by
  obtain ⟨head, tail, value, notSpace⟩ := aggregateValue_starts reference.aggregateType
  have role : reference.referenceRole.toList ≠ [] := fun empty =>
    reference.nonempty (String.toList_injective empty)
  have stripped : stripChars reference.referenceRole.toList = reference.referenceRole.toList := by
    have same := congrArg String.toList reference.stripped
    rwa [strip, String.toList_ofList] at same
  rw [strip, String.toList_ofList]
  congr 1
  apply stripChars_of_ends
  · intro c first
    rw [DecisionContextReferenceInput.token, referenceToken, value] at first
    cases first
    exact notSpace
  · intro c last
    apply stripChars_getLast
    rw [stripped]
    have ends : reference.token.getLast? = reference.referenceRole.toList.getLast? := by
      unfold DecisionContextReferenceInput.token referenceToken
      simp [List.getLast?_append, List.getLast?_cons, List.getLast?_eq_some_getLast role]
    rw [← ends]
    exact last

theorem normalized_tokens (references : List DecisionContextReferenceInput) :
    normalized (references.map fun reference => String.ofList reference.token) =
      references.map fun reference => String.ofList reference.token := by
  unfold normalized
  rw [List.map_map, List.filter_eq_self.mpr]
  · exact List.map_congr_left fun reference _ => strip_token reference
  · intro text member
    obtain ⟨reference, _, rfl⟩ := List.mem_map.mp member
    rw [Function.comp, strip_token, decide_eq_true_eq]
    intro empty
    have none : reference.token = [] := String.ofList_injective empty
    unfold DecisionContextReferenceInput.token referenceToken at none
    exact absurd none (by simp)

theorem map_str_injective {first second : List String} (same : first.map Json.str = second.map Json.str) :
    first = second :=
  List.map_injective_iff.mpr (fun _ _ equal => Json.str.inj equal) same

/-- Equal payloads name the same quotes, texts and instant. -/
theorem fingerprintPayload_injective {freeze other : FreezeDecisionContextCommand}
    {context actor : CommandContext}
    (same : fingerprintPayload freeze context = fingerprintPayload other actor) :
    freeze.references.map DecisionContextReferenceInput.quote =
        other.references.map DecisionContextReferenceInput.quote ∧
      normalized freeze.unknowns = normalized other.unknowns ∧
      normalized freeze.risks = normalized other.risks ∧
      isoformat context.receivedAt = isoformat actor.receivedAt := by
  simp only [fingerprintPayload, Json.obj.injEq, List.cons.injEq, Prod.mk.injEq, Json.str.injEq,
    Json.arr.injEq, true_and, and_true] at same
  obtain ⟨preparedAt, references, risks, _, unknowns⟩ := same
  refine ⟨?_, map_str_injective unknowns, map_str_injective risks, preparedAt⟩
  have tokens := map_str_injective references
  rw [normalized_tokens, normalized_tokens] at tokens
  have encode (references : List DecisionContextReferenceInput) :
      references.map (fun reference => String.ofList reference.token) =
        (references.map DecisionContextReferenceInput.quote).map fun quote => String.ofList quote.token := by
    rw [List.map_map]
    rfl
  rw [encode, encode] at tokens
  refine List.map_injective_iff.mpr (fun _ _ equal => ?_) tokens
  exact Quote.token_injective (String.ofList_injective equal)

variable {inputs : List Input} {freeze : FreezeDecisionContextCommand} {context : CommandContext}

theorem Executed.checked (executed : Executed inputs freeze context) :
    ∃ decision, FreezeChecked (run step .empty inputs) freeze context decision := by
  obtain ⟨next, accepted⟩ := executed
  obtain ⟨decisions, outcome, frozen, _⟩ := step_decision.mp accepted
  obtain ⟨decision, _, _, _, checked, _⟩ := freezeDecisionContext_ok frozen
  exact ⟨decision, checked⟩

/-- Only a DCE version can be quoted with a content hash. -/
theorem Executed.unhashed (executed : Executed inputs freeze context)
    {reference : DecisionContextReferenceInput} (member : reference ∈ freeze.references)
    (other : reference.aggregateType ≠ .dceVersion) : reference.contentHash = none := by
  obtain ⟨_, checked⟩ := executed.checked
  have valid := checked.valid reference member
  unfold DecisionContextReferenceInput.isValid at valid
  cases kind : reference.aggregateType with
  | dceVersion => exact absurd kind other
  | case =>
    simp only [kind, contextReferenceIsValid, decide_eq_true_eq] at valid
    exact valid.1
  | dceRequirement =>
    simp only [kind, contextReferenceIsValid, decide_eq_true_eq] at valid
    exact valid.1
  | decisionRisk =>
    simp only [kind, contextReferenceIsValid, decide_eq_true_eq] at valid
    exact valid.1.2
  | pricingScenario =>
    simp only [kind, contextReferenceIsValid, decide_eq_true_eq] at valid
    exact valid.1

theorem canonical_of_quote {first second : DecisionContextReferenceInput} (quotes : first.quote = second.quote)
    (hf : first.contentHash = none) (hs : second.contentHash = none) : first.canonical = second.canonical := by
  simp only [DecisionContextReferenceInput.quote, Prod.mk.injEq] at quotes
  obtain ⟨types, ids, revisions, roles⟩ := quotes
  unfold DecisionContextReferenceInput.canonical
  rw [types, ids, revisions, roles, hf, hs]

theorem canonical_of_quotes {first second : List DecisionContextReferenceInput}
    (quotes : first.map DecisionContextReferenceInput.quote = second.map DecisionContextReferenceInput.quote)
    (hf : ∀ reference ∈ first, reference.contentHash = none)
    (hs : ∀ reference ∈ second, reference.contentHash = none) :
    first.map DecisionContextReferenceInput.canonical = second.map DecisionContextReferenceInput.canonical := by
  induction first generalizing second with
  | nil =>
    cases second with
    | nil => rfl
    | cons => cases quotes
  | cons reference rest ih =>
    cases second with
    | nil => cases quotes
    | cons other others =>
      obtain ⟨heads, tails⟩ := List.cons.inj quotes
      rw [List.map_cons, List.map_cons, canonical_of_quote heads (hf _ List.mem_cons_self)
        (hs _ List.mem_cons_self), ih tails (fun _ member => hf _ (List.mem_cons_of_mem _ member))
        (fun _ member => hs _ (List.mem_cons_of_mem _ member))]

/-- Without a DCE version nothing stored escapes the fingerprint. -/
theorem Executed.commits (executed : Executed inputs freeze context)
    (unversioned : ∀ reference ∈ freeze.references, reference.aggregateType ≠ .dceVersion) :
    FingerprintCommits freeze context := by
  intro inputs' other actor again _ separates shown
  have digests : hexdigest (fingerprintPayload freeze context).dumpsChars =
      hexdigest (fingerprintPayload other actor).dumpsChars := by
    rw [← fingerprint_eq, ← fingerprint_eq]
    exact shown
  have payloads := Json.dumpsChars_injective (separates (hexdigest_injective digests))
  obtain ⟨quotes, unknowns, risks, preparedAt⟩ := fingerprintPayload_injective payloads
  have types : freeze.references.map (·.aggregateType) = other.references.map (·.aggregateType) := by
    have firsts := congrArg (List.map Prod.fst) quotes
    rw [List.map_map, List.map_map] at firsts
    exact firsts
  refine ⟨canonical_of_quotes quotes ?_ ?_, unknowns, risks, preparedAt⟩
  · exact fun reference member => executed.unhashed member (unversioned reference member)
  · intro reference member
    refine again.unhashed member fun version => ?_
    have listed : ContextAggregate.dceVersion ∈ freeze.references.map (·.aggregateType) := by
      rw [types]
      exact List.mem_map.mpr ⟨reference, member, version⟩
    obtain ⟨quoted, present, kind⟩ := List.mem_map.mp listed
    exact unversioned quoted present kind

theorem versionReference_valid {store : Store} {tenantId caseId versionId : Uuid} {revision : Nat}
    {contentHash : Option String} :
    contextReferenceIsValid store tenantId caseId .dceVersion versionId revision contentHash ↔
      ∃ version ∈ store.dce.versions, version.tenantId = tenantId ∧ version.id = versionId ∧
        version.aggregateRevision = revision ∧ version.lifecycle = .admitted ∧
        store.applicableVersion tenantId caseId = some versionId ∧
        contentHash.all (fun hash => lower version.corpusHash = lower hash) = true := by
  simp only [contextReferenceIsValid, decide_eq_true_eq, applicableVersion_some]
  constructor
  · rintro ⟨version, stored, ⟨case, known, tenant, applicable, same⟩, owner, rfl, revision, admitted, hash⟩
    exact ⟨version, stored, owner, rfl, revision, admitted, ⟨case, known, tenant.trans owner, same, applicable⟩,
      hash⟩
  · rintro ⟨version, stored, owner, rfl, revision, admitted, ⟨case, known, tenant, same, applicable⟩, hash⟩
    exact ⟨version, stored, ⟨case, known, tenant.trans owner.symm, applicable, same⟩, owner, rfl, revision,
      admitted, hash⟩

/-- The reference with its content hash dropped, or given where it had none. -/
def toggled (corpusHash : String) (reference : DecisionContextReferenceInput) : DecisionContextReferenceInput :=
  { reference with
    contentHash := if reference.aggregateType = .dceVersion then
        (if reference.contentHash = none then some corpusHash else none)
      else reference.contentHash }

def toggledFreeze (corpusHash : String) (freeze : FreezeDecisionContextCommand) : FreezeDecisionContextCommand :=
  { freeze with references := freeze.references.map (toggled corpusHash) }

theorem toggled_valid {store : Store} {tenantId caseId : Uuid} {corpusHash : String}
    {reference : DecisionContextReferenceInput} (valid : reference.isValid store tenantId caseId)
    (corpus : ∀ version ∈ store.dce.versions,
      store.applicableVersion tenantId caseId = some version.id → version.corpusHash = corpusHash) :
    (toggled corpusHash reference).isValid store tenantId caseId := by
  unfold DecisionContextReferenceInput.isValid at valid ⊢
  by_cases kind : reference.aggregateType = .dceVersion
  · simp only [toggled, kind, if_true]
    rw [kind, versionReference_valid] at valid
    obtain ⟨version, stored, owner, same, revision, admitted, applicable, _⟩ := valid
    rw [versionReference_valid]
    refine ⟨version, stored, owner, same, revision, admitted, applicable, ?_⟩
    have hash := corpus version stored (applicable.trans (by rw [same]))
    split
    · simp [hash]
    · rfl
  · simp only [toggled, kind, if_false]
    exact valid

/-- Whoever freezes with the hash toggled stores the same fingerprint. -/
theorem toggledFreeze_payload (corpusHash : String) (freeze : FreezeDecisionContextCommand)
    (context : CommandContext) :
    fingerprintPayload (toggledFreeze corpusHash freeze) context = fingerprintPayload freeze context := by
  have tokens : (toggledFreeze corpusHash freeze).references.map (fun reference => String.ofList reference.token) =
      freeze.references.map fun reference => String.ofList reference.token := by
    rw [toggledFreeze, List.map_map]
    rfl
  unfold fingerprintPayload
  rw [tokens]
  rfl

theorem toggledFreeze_checked {store : Store} {decision : DecisionRecord} {corpusHash : String}
    (checked : FreezeChecked store freeze context decision)
    (corpus : ∀ version ∈ store.dce.versions,
      store.applicableVersion context.tenantId freeze.caseId = some version.id →
        version.corpusHash = corpusHash) :
    FreezeChecked store (toggledFreeze corpusHash freeze) context decision := by
  obtain ⟨quotedCase, member, kind, named⟩ := checked.quotesCase
  refine ⟨checked.root, checked.case, checked.type, checked.draft, checked.incomplete, checked.contexts,
    checked.revision, ⟨toggled corpusHash quotedCase, List.mem_map.mpr ⟨quotedCase, member, rfl⟩, kind, named⟩,
    fun applicable => ?_, fun reference listed => ?_⟩
  · obtain ⟨quoted, present, requirement⟩ := checked.quotesRequirement applicable
    exact ⟨toggled corpusHash quoted, List.mem_map.mpr ⟨quoted, present, rfl⟩, requirement⟩
  · obtain ⟨original, submitted, rfl⟩ := List.mem_map.mp listed
    exact toggled_valid (checked.valid original submitted) corpus

theorem Executed.toggled (executed : Executed inputs freeze context) {corpusHash : String}
    (corpus : ∀ version ∈ (run step .empty inputs).dce.versions,
      (run step .empty inputs).applicableVersion context.tenantId freeze.caseId = some version.id →
        version.corpusHash = corpusHash) : Executed inputs (toggledFreeze corpusHash freeze) context := by
  obtain ⟨next, accepted⟩ := executed
  obtain ⟨_, _, frozen, _⟩ := step_decision.mp accepted
  obtain ⟨decision, contexts, references, _, checked, first, all, _, _⟩ := freezeDecisionContext_ok frozen
  have fresh : ∀ row ∈ (run step .empty inputs).decisions.contexts,
      row.id ≠ (toggledFreeze corpusHash freeze).contextId :=
    fun row stored same => Table.insert?_absent first row stored (.inl same)
  have columns : ((toggledFreeze corpusHash freeze).referenceRecords context).map Schema.columns =
      (freeze.referenceRecords context).map Schema.columns := by
    rw [FreezeDecisionContextCommand.referenceRecords, FreezeDecisionContextCommand.referenceRecords,
      toggledFreeze, List.map_map, List.map_map, List.map_map]
    refine List.map_congr_left fun reference _ => ?_
    have sameId : (freeze.referenceRecord context reference).id = referenceId reference.quote.token :=
      referenceRecord_id reference
    exact congrArg (·, context.tenantId, freeze.contextId, reference.aggregateType, reference.aggregateId,
      strip reference.referenceRole) sameId
  have inserted : ((run step .empty inputs).decisions.references.insertAll?
      ((toggledFreeze corpusHash freeze).referenceRecords context)).isSome := by
    rw [Table.insertAll?_isSome_congr columns, all]
    rfl
  obtain ⟨⟨result, outcome⟩, again⟩ := ((toggledFreeze_checked checked corpus).accepted_iff fresh).mpr inserted
  exact ⟨_, step_decision.mpr ⟨result, outcome, again, rfl⟩⟩

section Versioned

def corpusDigest : String := String.ofList (List.replicate 64 'a')

def versionedCase : List Input := [
  .dce (.register 5 1 7 corpusDigest),
  .case (.create 4 1 "scope"),
  .case (.update 1 4 0 ⟨none, some (some 5)⟩),
  .dce (.materialize [⟨6, 1, 60, 5, 61, .offerDocument, .requiredSignal⟩]),
  .dce (.confirm ⟨⟨20, 20, none⟩, 8, 6, 0, .confirmed, .sourceReviewed⟩ patronAdmin),
  .decision (.create ⟨⟨21, 21, none⟩, 10, 4, none⟩) patronAdmin]

def versionReference (contentHash : Option String) : DecisionContextReferenceInput :=
  ⟨.dceVersion, 5, 0, contentHash, "DCE", by decide +kernel, by decide⟩

def versionFreeze (contentHash : Option String) : FreezeDecisionContextCommand :=
  freezeOf [caseReference, requirementReference, versionReference contentHash]

end Versioned

end SmartAo.Decision
