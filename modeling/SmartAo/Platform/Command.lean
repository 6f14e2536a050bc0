import SmartAo.Foundation.Guard
import SmartAo.Foundation.Json
import SmartAo.Foundation.Table

namespace SmartAo.Platform

section Command

open SmartAo.Foundation

abbrev Uuid := BitVec 128

instance Uuid.decidableMem (id : Uuid) (ids : List Uuid) : Decidable (id ∈ ids) :=
  List.instDecidableMemOfLawfulBEq id ids

/-- Microseconds since the epoch, in UTC. -/
abbrev Timestamp := Int

/-- The canonical text of a UUID: 32 hexadecimal digits in groups of 8-4-4-4-12. -/
def Uuid.chars (id : Uuid) : List Char :=
  let digits := hexDigits 32 id.toNat
  digits.take 8 ++ '-' :: ((digits.drop 8).take 4 ++ '-' :: ((digits.drop 12).take 4 ++
    '-' :: ((digits.drop 16).take 4 ++ '-' :: digits.drop 20)))

def Uuid.str (id : Uuid) : String := String.ofList id.chars

theorem Uuid.chars_injective {first second : Uuid} (same : first.chars = second.chars) : first = second := by
  have grouped (digits : List Char) : digits = digits.take 8 ++ ((digits.drop 8).take 4 ++
      ((digits.drop 12).take 4 ++ ((digits.drop 16).take 4 ++ digits.drop 20))) := by
    have group (n : Nat) : (digits.drop n).take 4 ++ digits.drop (n + 4) = digits.drop n := by
      rw [← List.drop_drop, List.take_append_drop]
    rw [group 16, group 12, group 8, List.take_append_drop]
  unfold Uuid.chars at same
  obtain ⟨one, rest⟩ := List.append_inj same (by simp)
  obtain ⟨two, rest⟩ := List.append_inj (List.tail_eq_of_cons_eq rest) (by simp)
  obtain ⟨three, rest⟩ := List.append_inj (List.tail_eq_of_cons_eq rest) (by simp)
  obtain ⟨four, rest⟩ := List.append_inj (List.tail_eq_of_cons_eq rest) (by simp)
  have five := List.tail_eq_of_cons_eq rest
  have digits : hexDigits 32 first.toNat = hexDigits 32 second.toNat := by
    rw [grouped (hexDigits 32 first.toNat), one, two, three, four, five, ← grouped]
  exact BitVec.eq_of_toNat_eq (hexDigits_injective 32 first.isLt second.isLt digits)

theorem Uuid.mem_chars {id : Uuid} {c : Char} (member : c ∈ id.chars) : IsHexDigit c ∨ c = '-' := by
  have digit := hexDigits_isHexDigit 32 id.toNat
  simp only [Uuid.chars, List.mem_append, List.mem_cons] at member
  rcases member with one | dash | two | dash | three | dash | four | dash | five
  · exact .inl (digit c (List.mem_of_mem_take one))
  · exact .inr dash
  · exact .inl (digit c (List.mem_of_mem_drop (List.mem_of_mem_take two)))
  · exact .inr dash
  · exact .inl (digit c (List.mem_of_mem_drop (List.mem_of_mem_take three)))
  · exact .inr dash
  · exact .inl (digit c (List.mem_of_mem_drop (List.mem_of_mem_take four)))
  · exact .inr dash
  · exact .inl (digit c (List.mem_of_mem_drop five))

example : Uuid.str 0x123e4567e89b12d3a456426614174000 =
    "123e4567-e89b-12d3-a456-426614174000" := by decide

inductive ActorKind where
  | patronAdmin
  | patronDelegate
  | collaborateur
  | partenaireExternal
  | supportBreakGlass
  | system
deriving DecidableEq

inductive DataClassification where
  | publicTender
  | internalOperational
  | personalOrAdministrative
  | financialPrivate
  | securityRestricted
  | supportRestricted
deriving DecidableEq

def DataClassification.value : DataClassification → String
  | publicTender => "PUBLIC_TENDER"
  | internalOperational => "INTERNAL_OPERATIONAL"
  | personalOrAdministrative => "PERSONAL_OR_ADMINISTRATIVE"
  | financialPrivate => "FINANCIAL_PRIVATE"
  | securityRestricted => "SECURITY_RESTRICTED"
  | supportRestricted => "SUPPORT_RESTRICTED"

/-- The actions assignment scopes carry or handlers demand of them. -/
inductive Capability where
  | workTaskRead
  | workTaskWrite
  | caseDceRead
  | dceRequirementConfirm
  | documentAdminRead
  | preparationTransmit
  | preparationCapabilityPropose
  | preparationCapabilityGapReport
  | assignmentAcknowledge
  | assignmentClarify
  | assignmentHistoryRead
  | assignmentUnavailability
deriving DecidableEq

def Capability.value : Capability → String
  | workTaskRead => "work.task.read"
  | workTaskWrite => "work.task.write"
  | caseDceRead => "case.dce.read"
  | dceRequirementConfirm => "dce.requirement.confirm"
  | documentAdminRead => "document.administrative.read"
  | preparationTransmit => "preparation.transmit"
  | preparationCapabilityPropose => "preparation.capability.propose"
  | preparationCapabilityGapReport => "preparation.capability.gap.report"
  | assignmentAcknowledge => "assignment.acknowledge"
  | assignmentClarify => "assignment.clarify"
  | assignmentHistoryRead => "assignment.history.read"
  | assignmentUnavailability => "assignment.unavailability"

/-- Trusted command facts resolved by the server, never by an HTTP body. -/
structure CommandContext where
  tenantId : Uuid
  actorId : Uuid
  actorKind : ActorKind
  receivedAt : Timestamp
  membershipId : Option Uuid
  caseId : Option Uuid

structure ApplicationCommand where
  commandId : Uuid
  idempotencyKey : Uuid
  correlationId : Option Uuid

/-- Why a command does not commit: the handler raised an execution error, the database refused a row
    at the flush, or another exception left the handler. -/
inductive CommandError where
  | execution (message : String)
  | integrity
  | failed (detail : String)
deriving DecidableEq

/-- The message the dispatcher raises to its caller. -/
def CommandError.message : CommandError → String
  | .execution message => message
  | .integrity => "command persistence failed before commit"
  | .failed _ => "command failed before commit"

structure PendingDomainEvent where
  aggregateType : String
  aggregateId : Uuid
  aggregateRevision : Nat
  eventType : String
  payload : List (String × Json)
  topic : String := "cockpit_projection"
  payloadVersion : Nat := 1

structure AggregateRef where
  aggregateType : String
  aggregateId : String
  aggregateRevision : Nat
  fingerprint : Option String := none

structure HandlerOutcome where
  resultCode : String
  aggregateRefs : List AggregateRef
  events : List PendingDomainEvent

/-- A handler's computation inside the transaction its dispatcher opens. -/
abbrev Transaction := Except CommandError

/-- A flushed INSERT: a conflicting row aborts the transaction. -/
def flush {ρ : Type} [Schema ρ] (table : Option (Table ρ)) : Transaction (Table ρ) :=
  orRaise table .integrity

end Command

section RootUpdate

open SmartAo.Foundation

/-- What a guarded update needs of a root row: its tenant, its identifier, which is unique in the
    table, and its revision. -/
class RevisionedRoot (ρ : Type) extends Schema ρ where
  tenantId : ρ → Uuid
  id : ρ → Uuid
  aggregateRevision : ρ → Nat
  conflict_of_id : ∀ {first second : ρ}, id first = id second → Schema.Conflict first second

variable {ρ : Type} [RevisionedRoot ρ]

def atRevision (tenant aggregate : Uuid) (revision : Nat) (row : ρ) : Bool :=
  RevisionedRoot.tenantId row = tenant ∧ RevisionedRoot.id row = aggregate ∧
    RevisionedRoot.aggregateRevision row = revision

/-- `update_root_with_expected_revision`: no row at the expected revision is a conflict. The change
    carries the revision increment. -/
def updateRoot (table : Table ρ) (tenant aggregate : Uuid) (revision : Nat) (change : ρ → ρ)
    (keeps : ∀ row, Schema.columns (change row) = Schema.columns row) (conflict : CommandError) :
    Transaction (Table ρ) := do
  let _ ← orRaise (table.find? (atRevision tenant aggregate revision)) conflict
  return table.update (atRevision tenant aggregate revision) change keeps

theorem updateRoot_ok {table next : Table ρ} {tenant aggregate : Uuid} {revision : Nat}
    {change : ρ → ρ} {keeps : ∀ row, Schema.columns (change row) = Schema.columns row}
    {conflict : CommandError} :
    updateRoot table tenant aggregate revision change keeps conflict = .ok next ↔
      (∃ row ∈ table, RevisionedRoot.tenantId row = tenant ∧ RevisionedRoot.id row = aggregate ∧
        RevisionedRoot.aggregateRevision row = revision) ∧
      table.update (atRevision tenant aggregate revision) change keeps = next := by
  simp only [updateRoot, bind_ok, orRaise_ok, pure_ok]
  constructor
  · rintro ⟨row, found, rfl⟩
    exact ⟨⟨row, Table.find?_mem found, by simpa [atRevision] using Table.find?_query found⟩, rfl⟩
  · rintro ⟨⟨row, member, matched⟩, rfl⟩
    cases found : table.find? (atRevision tenant aggregate revision) with
    | none =>
      have missed := Table.find?_none.mp found row member
      simp [atRevision, matched] at missed
    | some other => exact ⟨other, rfl, rfl⟩

theorem updateRoot_accepted {table : Table ρ} {tenant aggregate : Uuid} {revision : Nat}
    {change : ρ → ρ} {keeps : ∀ row, Schema.columns (change row) = Schema.columns row}
    {conflict : CommandError} {row : ρ} (member : row ∈ table)
    (matched : RevisionedRoot.tenantId row = tenant ∧ RevisionedRoot.id row = aggregate ∧
      RevisionedRoot.aggregateRevision row = revision) :
    ∃ next, updateRoot table tenant aggregate revision change keeps conflict = .ok next :=
  ⟨_, updateRoot_ok.mpr ⟨⟨row, member, matched⟩, rfl⟩⟩

/-- The rows after a guarded update: the changed root, and the rows of other identifiers. -/
theorem mem_updateRoot {table next : Table ρ} {tenant aggregate : Uuid} {revision : Nat}
    {change : ρ → ρ} {keeps : ∀ row, Schema.columns (change row) = Schema.columns row}
    {conflict : CommandError} {row other : ρ}
    (updated : updateRoot table tenant aggregate revision change keeps conflict = .ok next)
    (member : row ∈ table) (same : RevisionedRoot.id row = aggregate) :
    other ∈ next ↔ other = change row ∨ (other ∈ table ∧ RevisionedRoot.id other ≠ aggregate) := by
  obtain ⟨⟨target, stored, matched⟩, rfl⟩ := updateRoot_ok.mp updated
  have key : ∀ {first second : ρ}, atRevision tenant aggregate revision first = true →
      atRevision tenant aggregate revision second = true → Schema.Conflict first second := by
    intro first second hf hs
    simp only [atRevision, decide_eq_true_eq] at hf hs
    exact RevisionedRoot.conflict_of_id (hf.2.1.trans hs.2.1.symm)
  have target_eq : target = row :=
    Table.eq_of_conflict stored member (RevisionedRoot.conflict_of_id (matched.2.1.trans same.symm))
  subst target_eq
  have inside : atRevision tenant aggregate revision target = true := by simpa [atRevision] using matched
  rw [Table.mem_update_key key member inside]
  refine or_congr_right (and_congr_right fun present => ?_)
  constructor
  · intro outside sameId
    have same_row := Table.eq_of_conflict present member
      (RevisionedRoot.conflict_of_id (sameId.trans same.symm))
    rw [same_row, inside] at outside
    cases outside
  · intro different
    simp [atRevision, different]

end RootUpdate

end SmartAo.Platform
