import SmartAo.Decision.Records
import SmartAo.Decision.Risk
import SmartAo.Pricing.Scenario
import SmartAo.Dce.Writes
import Mathlib.Data.List.Sort

namespace SmartAo.Decision

open SmartAo.Foundation SmartAo.Platform SmartAo.Case SmartAo.Dce SmartAo.Pricing SmartAo.PatronAction

/-- The tables the decision commands read and write. -/
structure Store where
  cases : Table CaseRecord
  dce : DceStore
  sources : SourceStore
  risks : RiskStore
  pricing : PricingStore
  actions : ActionStore
  decisions : DecisionStore

def Store.empty : Store := ⟨.empty, .empty, .empty, .empty, .empty, .empty, .empty⟩

def Store.case (store : Store) (tenantId caseId : Uuid) : Option CaseRecord :=
  store.cases.find? fun row => row.tenantId = tenantId ∧ row.id = caseId

def Store.activeCase (store : Store) (tenantId caseId : Uuid) : Option CaseRecord :=
  store.cases.find? fun row => row.tenantId = tenantId ∧ row.id = caseId ∧ row.lifecycle = .active

def Store.applicableVersion (store : Store) (tenantId caseId : Uuid) : Option Uuid :=
  (store.case tenantId caseId).bind (·.applicableDceVersionId)

namespace DecisionStore

def root (store : DecisionStore) (tenantId decisionId : Uuid) : Option DecisionRecord :=
  store.decisions.find? fun row => row.tenantId = tenantId ∧ row.id = decisionId

def ofDecision (tenantId decisionId : Uuid) (row : DecisionContextRecord) : Bool :=
  row.tenantId = tenantId ∧ row.decisionId = decisionId

/-- The contexts of a decision by sequence number, then identifier. -/
def contextsOf (store : DecisionStore) (tenantId decisionId : Uuid) : List DecisionContextRecord :=
  (store.contexts.rows.filter (ofDecision tenantId decisionId)).insertionSort fun first second =>
    first.sequenceNumber < second.sequenceNumber ∨
      (first.sequenceNumber = second.sequenceNumber ∧ first.id.toNat ≤ second.id.toNat)

def referencesOf (store : DecisionStore) (tenantId decisionId : Uuid) :
    List DecisionContextReferenceRecord :=
  store.references.rows.filter fun reference => reference.tenantId = tenantId ∧
    ∃ context ∈ store.contexts, context.tenantId = reference.tenantId ∧
      context.id = reference.decisionContextId ∧ context.decisionId = decisionId

def conditionsOf (store : DecisionStore) (tenantId decisionId : Uuid) : List DecisionConditionRecord :=
  (store.conditions.rows.filter fun row => row.tenantId = tenantId ∧ row.decisionId = decisionId).insertionSort
    fun first second => first.id.toNat ≤ second.id.toNat

/-- The references of a context to DCE requirements. -/
def requirementReferences (store : DecisionStore) (tenantId contextId : Uuid) :
    List DecisionContextReferenceRecord :=
  store.references.rows.filter fun row => row.tenantId = tenantId ∧
    row.decisionContextId = contextId ∧ row.aggregateType = .dceRequirement

def requirementIds (store : DecisionStore) (tenantId contextId : Uuid) : List Uuid :=
  (store.requirementReferences tenantId contextId).map (·.aggregateId)

variable {store : DecisionStore} {tenantId decisionId contextId : Uuid}

theorem root_some {row : DecisionRecord} : store.root tenantId decisionId = some row ↔
    row ∈ store.decisions ∧ row.tenantId = tenantId ∧ row.id = decisionId := by
  unfold root
  rw [Table.find?_eq_some]
  · simp
  · intro first second hf hs
    simp only [decide_eq_true_eq] at hf hs
    exact .inl (hf.2.trans hs.2.symm)

theorem mem_contextsOf {row : DecisionContextRecord} : row ∈ store.contextsOf tenantId decisionId ↔
    row ∈ store.contexts ∧ row.tenantId = tenantId ∧ row.decisionId = decisionId := by
  unfold contextsOf
  rw [List.mem_insertionSort, List.mem_filter]
  simp [ofDecision, Table.mem_rows]

theorem mem_conditionsOf {row : DecisionConditionRecord} :
    row ∈ store.conditionsOf tenantId decisionId ↔
      row ∈ store.conditions ∧ row.tenantId = tenantId ∧ row.decisionId = decisionId := by
  unfold conditionsOf
  rw [List.mem_insertionSort, List.mem_filter]
  simp [Table.mem_rows]

theorem mem_referencesOf {row : DecisionContextReferenceRecord} :
    row ∈ store.referencesOf tenantId decisionId ↔ row ∈ store.references ∧
      row.tenantId = tenantId ∧ ∃ context ∈ store.contexts, context.tenantId = row.tenantId ∧
        context.id = row.decisionContextId ∧ context.decisionId = decisionId := by
  simp only [referencesOf, List.mem_filter, decide_eq_true_eq, Table.mem_rows]

theorem mem_requirementReferences {row : DecisionContextReferenceRecord} :
    row ∈ store.requirementReferences tenantId contextId ↔ row ∈ store.references ∧
      row.tenantId = tenantId ∧ row.decisionContextId = contextId ∧
        row.aggregateType = .dceRequirement := by
  simp only [requirementReferences, List.mem_filter, decide_eq_true_eq, Table.mem_rows]

end DecisionStore

end SmartAo.Decision
