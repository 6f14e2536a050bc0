import SmartAo.Case.Creation
import SmartAo.Decision.Fingerprint

namespace SmartAo.Case

open SmartAo.Foundation SmartAo.Platform SmartAo.Dce SmartAo.Decision

/-- Two commands name the same consultation, origin and scope. -/
structure SameIdentity (first second : CreateCaseCommand) : Prop where
  consultation : first.consultationId = second.consultationId
  origin : first.originKind = second.originKind ∧ first.originReferenceId = second.originReferenceId
  kind : first.scopeKind = second.scopeKind
  lots : ∀ lot, lot ∈ namedLots first.lotNumbers ↔ lot ∈ namedLots second.lotNumbers
  tranche : stripped first.trancheReference = stripped second.trancheReference
  variant : stripped first.variantReference = stripped second.variantReference
  justification : first.scopeJustification = second.scopeJustification

/-- Two commands write their lots and references alike. -/
structure WrittenAlike (first second : CreateCaseCommand) : Prop where
  lots : first.lotNumbers = second.lotNumbers
  tranche : first.trancheReference = second.trancheReference
  variant : first.variantReference = second.variantReference

/-- The tenant has the case of a command, not archived. -/
def HoldsCase (store : CaseStore) (command : CreateCaseCommand) (tenantId : Uuid) : Prop :=
  ∃ row ∈ store.cases, row.id = command.caseId ∧ row.tenantId = tenantId ∧
    row.functionalIdentityHash = functionalIdentityHash command ∧ row.lifecycle ≠ .archived

/-- While the case of the first command is there, the second one is a duplicate. -/
def RefusedWhileHeld (first second : CreateCaseCommand) : Prop :=
  ∀ store context linkId, HoldsCase store first context.tenantId →
    checkCreation store.consultations second context.tenantId = .ok () →
    createCaseRoot store second context linkId = .error (.failed "DUPLICATE_FUNCTIONAL_IDENTITY")

/-- Commands of one identity share their hash, and others never do. -/
structure CanonicalIdentity (first second : CreateCaseCommand) : Prop where
  same : SameIdentity first second → functionalIdentityHash first = functionalIdentityHash second
  refused : SameIdentity first second → RefusedWhileHeld first second
  different : ¬ SameIdentity first second → functionalIdentityHash first ≠ functionalIdentityHash second

variable {first second command : CreateCaseCommand} {store next : CaseStore} {context : CommandContext} {linkId : Uuid}

theorem createCaseRoot_holds {outcome : HandlerOutcome}
    (accepted : createCaseRoot store command context linkId = .ok (next, outcome)) :
    HoldsCase next command context.tenantId := by
  simp only [createCaseRoot, bind_ok, raiseIf_ok, exists_unit, orRaise_ok, pure_ok, flush, Prod.mk.injEq] at accepted
  obtain ⟨_, _, cases, inserted, links, _, rfl, _⟩ := accepted
  exact ⟨createdCase command context, (Table.mem_insert? inserted).mpr (.inr rfl), rfl, rfl, rfl, by simp [createdCase]⟩

theorem duplicate_refused (same : functionalIdentityHash first = functionalIdentityHash second) :
    RefusedWhileHeld first second := by
  rintro store context linkId ⟨row, member, _, tenant, hash, active⟩ checked
  have held : hasActiveFunctionalIdentity store.cases context.tenantId (functionalIdentityHash second) = true := by
    rw [hasActiveFunctionalIdentity, List.any_eq_true]
    exact ⟨row, member, by simp [tenant, hash, same, active]⟩
  rw [createCaseRoot, bind_of_ok checked, raiseIf_fail held]
  rfl

theorem jsonText_injective {one two : Option String} (same : jsonText one = jsonText two) : one = two := by
  cases one <;> cases two <;> simp_all [jsonText]

theorem uuidText_injective {one two : Option Uuid}
    (same : jsonText (one.map Uuid.str) = jsonText (two.map Uuid.str)) : one = two := by
  have texts := jsonText_injective same
  refine Option.map_injective (fun id other equal => ?_) texts
  exact Uuid.chars_injective (String.ofList_injective equal)

theorem kind_injective {one two : CaseScopeKind} (same : one.value = two.value) : one = two := by
  revert same
  cases one <;> cases two <;> decide

theorem origin_injective {one two : CaseOriginKind} (same : one.commandValue = two.commandValue) : one = two := by
  revert same
  cases one <;> cases two <;> decide

theorem scopeJson_injective {one two : CaseScope} (same : scopeJson one = scopeJson two) : one = two := by
  simp only [scopeJson, Json.obj.injEq, List.cons.injEq, Prod.mk.injEq, Json.str.injEq, Json.arr.injEq, true_and,
    and_true] at same
  obtain ⟨kind, lots, justification, tranche, variant_⟩ := same
  have texts : one.lotNumbers = two.lotNumbers := List.map_injective_iff.mpr (fun _ _ equal => Json.str.inj equal) lots
  obtain ⟨_, _, _, _, _⟩ := one
  obtain ⟨_, _, _, _, _⟩ := two
  simp only [CaseScope.mk.injEq]
  exact ⟨kind_injective kind, texts, jsonText_injective tranche, jsonText_injective variant_, jsonText_injective justification⟩

/-- The document of an identity determines what it was written from. -/
theorem functionalIdentity_injective (same : functionalIdentity first = functionalIdentity second) :
    first.consultationId = second.consultationId ∧ first.originKind = second.originKind ∧
      first.originReferenceId = second.originReferenceId ∧ first.scope = second.scope := by
  simp only [functionalIdentity, Json.obj.injEq, List.cons.injEq, Prod.mk.injEq, Json.str.injEq, true_and,
    and_true] at same
  obtain ⟨consultation, origin, reference, scope⟩ := same
  exact ⟨uuidText_injective consultation, origin_injective origin, uuidText_injective reference,
    scopeJson_injective scope⟩

/-- SHA-256 tells the identities of two commands apart. -/
def Separates (first second : CreateCaseCommand) : Prop :=
  sha256 (functionalIdentity first).dumpsChars = sha256 (functionalIdentity second).dumpsChars →
    (functionalIdentity first).dumpsChars = (functionalIdentity second).dumpsChars

theorem hash_eq_iff (separates : Separates first second) :
    functionalIdentityHash first = functionalIdentityHash second ↔
      SameIdentity first second ∧ WrittenAlike first second := by
  constructor
  · intro same
    have documents := Json.dumpsChars_injective (separates (hexdigest_injective same))
    obtain ⟨consultation, origin, reference, scope⟩ := functionalIdentity_injective documents
    have lots : first.lotNumbers = second.lotNumbers := congrArg CaseScope.lotNumbers scope
    have tranche : first.trancheReference = second.trancheReference := congrArg CaseScope.trancheReference scope
    have variant_ : first.variantReference = second.variantReference := congrArg CaseScope.variantReference scope
    refine ⟨⟨consultation, ⟨origin, reference⟩, congrArg CaseScope.kind scope, ?_, ?_, ?_,
      congrArg CaseScope.sourceJustification scope⟩, lots, tranche, variant_⟩
    · intro lot
      rw [lots]
    · rw [tranche]
    · rw [variant_]
  · rintro ⟨identity, alike⟩
    have scope : first.scope = second.scope := by
      simp only [CreateCaseCommand.scope, CaseScope.mk.injEq]
      exact ⟨identity.kind, alike.lots, alike.tranche, alike.variant, identity.justification⟩
    rw [functionalIdentityHash, functionalIdentityHash, functionalIdentity, functionalIdentity, identity.consultation,
      identity.origin.1, identity.origin.2, scope]

/-- The identity of two commands is canonical exactly when they cannot name the same thing and write it otherwise. -/
theorem canonicalIdentity_iff (first second : CreateCaseCommand) (separates : Separates first second) :
    CanonicalIdentity first second ↔ (SameIdentity first second → WrittenAlike first second) := by
  have hashes := hash_eq_iff separates
  constructor
  · intro canonical identity
    exact (hashes.mp (canonical.same identity)).2
  · intro alike
    refine ⟨fun identity => hashes.mpr ⟨identity, alike identity⟩, fun identity => ?_, fun apart same => ?_⟩
    · exact duplicate_refused (hashes.mpr ⟨identity, alike identity⟩)
    · exact apart (hashes.mp same).1

def exampleLotsCommand (commandId caseId : Uuid) (lotNumbers : List String) : CreateCaseCommand where
  commandId := commandId
  idempotencyKey := commandId
  correlationId := none
  caseId := caseId
  title := "Works"
  objectDescription := "School extension"
  consultationId := none
  consultationRevision := none
  scopeKind := .multiLot
  lotNumbers := lotNumbers
  trancheReference := none
  variantReference := none
  scopeJustification := some "one contractor"
  originKind := .manual
  originRationale := some "call"
  originReferenceId := none

/-- The same two lots in another order make another case. -/
theorem swapped_lots_identity :
    (exampleLotsCommand 1 2 ["1", "2"]).build = some (exampleLotsCommand 1 2 ["1", "2"]) ∧
      (exampleLotsCommand 3 4 ["2", "1"]).build = some (exampleLotsCommand 3 4 ["2", "1"]) ∧
      checkCreation .empty (exampleLotsCommand 1 2 ["1", "2"]) 5 = .ok () ∧
      checkCreation .empty (exampleLotsCommand 3 4 ["2", "1"]) 5 = .ok () ∧
      SameIdentity (exampleLotsCommand 1 2 ["1", "2"]) (exampleLotsCommand 3 4 ["2", "1"]) ∧
      ¬ CanonicalIdentity (exampleLotsCommand 1 2 ["1", "2"]) (exampleLotsCommand 3 4 ["2", "1"]) := by
  have apart : functionalIdentityHash (exampleLotsCommand 1 2 ["1", "2"]) ≠
      functionalIdentityHash (exampleLotsCommand 3 4 ["2", "1"]) := by decide +kernel
  have identity : SameIdentity (exampleLotsCommand 1 2 ["1", "2"]) (exampleLotsCommand 3 4 ["2", "1"]) := by
    refine ⟨rfl, ⟨rfl, rfl⟩, rfl, fun lot => ?_, rfl, rfl, rfl⟩
    have first : namedLots ["1", "2"] = ["1", "2"] := by decide
    have second : namedLots ["2", "1"] = ["2", "1"] := by decide
    show lot ∈ namedLots ["1", "2"] ↔ lot ∈ namedLots ["2", "1"]
    rw [first, second]
    simp only [List.mem_cons, List.not_mem_nil, or_false]
    exact or_comm
  exact ⟨rfl, rfl, by decide, by decide, identity, fun canonical => apart (canonical.same identity)⟩

theorem same_lots_identity :
    CanonicalIdentity (exampleLotsCommand 1 2 ["1", "2"]) (exampleLotsCommand 3 4 ["1", "2"]) := by
  have separates : Separates (exampleLotsCommand 1 2 ["1", "2"]) (exampleLotsCommand 3 4 ["1", "2"]) := fun _ => rfl
  exact (canonicalIdentity_iff _ _ separates).mpr fun _ => ⟨rfl, rfl, rfl⟩
end SmartAo.Case
