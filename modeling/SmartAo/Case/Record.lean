import SmartAo.Platform.Command

namespace SmartAo.Case

open SmartAo.Foundation SmartAo.Platform

inductive CaseLifecycle where
  | active
  | stopped
  | archived
deriving DecidableEq

structure CaseRecord where
  id : Uuid
  tenantId : Uuid
  lifecycle : CaseLifecycle
  scopeFingerprint : String
  applicableDceVersionId : Option Uuid
  aggregateRevision : Nat
deriving DecidableEq

instance : RevisionedRoot CaseRecord where
  Columns := Uuid
  columns row := row.id
  Clash first second := first = second
  decidableClash := inferInstance
  symm := Eq.symm
  tenantId := CaseRecord.tenantId
  id := CaseRecord.id
  aggregateRevision := CaseRecord.aggregateRevision
  conflict_of_id same := same

/-- The root columns of a case other modules read, among those its repository may write. -/
structure CaseChanges where
  lifecycle : Option CaseLifecycle
  applicableDceVersionId : Option (Option Uuid)

def CaseChanges.apply (changes : CaseChanges) (row : CaseRecord) : CaseRecord :=
  { row with
    lifecycle := changes.lifecycle.getD row.lifecycle
    applicableDceVersionId := changes.applicableDceVersionId.getD row.applicableDceVersionId
    aggregateRevision := row.aggregateRevision + 1 }

theorem CaseChanges.apply_columns (changes : CaseChanges) (row : CaseRecord) :
    Schema.columns (changes.apply row) = Schema.columns row := rfl

/-- A case starts active and without an applicable DCE version. -/
def createCase (cases : Table CaseRecord) (id tenantId : Uuid) (scopeFingerprint : String) :
    Transaction (Table CaseRecord) :=
  flush (cases.insert? ⟨id, tenantId, .active, scopeFingerprint, none, 0⟩)

/-- `CaseRepository.update_root`, the one write of the applicable DCE version. -/
def updateCaseRoot (cases : Table CaseRecord) (tenantId caseId : Uuid) (expectedRevision : Nat)
    (changes : CaseChanges) : Transaction (Table CaseRecord) :=
  updateRoot cases tenantId caseId expectedRevision changes.apply changes.apply_columns
    (.failed "aggregate was changed or is unavailable")

end SmartAo.Case
