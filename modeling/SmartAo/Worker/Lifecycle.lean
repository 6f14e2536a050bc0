import SmartAo.Worker.Kinds
import SmartAo.Worker.Leases

namespace SmartAo.Worker

section Delivery

open SmartAo.Foundation SmartAo.Platform

/-- An event of the closed contract. -/
def scanRecorded : Json := .obj [
  ("event_id", .str "00000000-0000-0000-0000-000000000001"),
  ("event_type", .str "DCE_STAGING_SCAN_RECORDED"),
  ("aggregate_type", .str "DCE_STAGED_OBJECT"),
  ("aggregate_id", .str "00000000-0000-0000-0000-000000000002"),
  ("aggregate_revision", .int 1),
  ("data", .obj [
    ("storage_object_id", .str "00000000-0000-0000-0000-000000000002"),
    ("tenant_id", .str "00000000-0000-0000-0000-000000000003"),
    ("consultation_id", .str "00000000-0000-0000-0000-000000000004"),
    ("state", .str "SCANNED")])]

example : (safeEvent scanRecorded 3).isSome = true := by decide +kernel

def cockpitWorker (projection : Bool) : CockpitProjectionWorker where
  projection := projection
  batchSize := 50
  leaseSeconds := 120
  maxAttempts := 1
  batch := by decide
  lease := by decide
  attempts := by decide

/-- Two workers claim one event, the second one at an instant of its own. -/
def claimedTwice {ω : Type} (worker : ω) (second : Timestamp) : List (OutboxInput ω) :=
  [.enqueue 5 3 1 cockpitProjectionTopic scanRecorded 0, .claim worker 0 [], .claim worker second []]

end Delivery

section Lifecycle

open SmartAo.Foundation SmartAo.Platform

/-- The shared policy: a message fails after a bounded number of attempts. -/
structure RetryPolicy where
  maxAttempts : Nat
  bounded : 1 ≤ maxAttempts ∧ maxAttempts ≤ maxOutboxAttemptsLimit

/-- A worker of any kind under the policy. -/
structure PolicyWorker (policy : RetryPolicy) where
  worker : OutboxWorker
  follows : worker.leaseWorker.maxAttempts = policy.maxAttempts

def PolicyWorker.leaseWorker {policy : RetryPolicy} (worker : PolicyWorker policy) : LeaseWorker :=
  worker.worker.leaseWorker

/-- A step leaves attempts within the policy, published exactly what has an instant of publication, and ended
    messages as they are. -/
structure LifecycleKept (policy : RetryPolicy) (state : OutboxState (PolicyWorker policy))
    (input : OutboxInput (PolicyWorker policy)) : Prop where
  bounded : ∀ message ∈ (commit (outboxStep PolicyWorker.leaseWorker) state input).messages,
    message.attemptCount ≤ policy.maxAttempts
  published : ∀ message ∈ (commit (outboxStep PolicyWorker.leaseWorker) state input).messages,
    message.status = .published ↔ message.publishedAt.isSome = true
  ended : ∀ message ∈ state.messages, message.status.ended = true →
    message ∈ (commit (outboxStep PolicyWorker.leaseWorker) state input).messages

/-- An open message has an attempt left. -/
structure Tracked (policy : RetryPolicy) (message : OutboxMessageRecord) : Prop where
  left : message.status.ended = false → message.attemptCount < policy.maxAttempts
  bounded : message.attemptCount ≤ policy.maxAttempts
  published : message.status = .published ↔ message.publishedAt.isSome = true

variable {policy : RetryPolicy} {state next : OutboxState (PolicyWorker policy)}
  {input : OutboxInput (PolicyWorker policy)} {message : OutboxMessageRecord} {now : Timestamp}

theorem enqueued_tracked {id tenantId eventId : Uuid} {topic : String} {payload : Json} {createdAt : Timestamp} :
    Tracked policy (enqueued id tenantId eventId topic payload createdAt) where
  left _ := policy.bounded.1
  bounded := Nat.zero_le _
  published := ⟨(fun same => by cases same), (fun same => by cases same)⟩

theorem leased_tracked {until_ : Timestamp} (tracked : Tracked policy message) (opened : message.status.ended = false) :
    Tracked policy (leased until_ message) where
  left _ := tracked.left opened
  bounded := tracked.bounded
  published := by
    have unpublished : message.publishedAt.isSome = false := by
      by_contra published
      rw [Bool.not_eq_false] at published
      rw [tracked.published.mpr published] at opened
      cases opened
    refine iff_of_false (fun same => by cases same) ?_
    show ¬ message.publishedAt.isSome = true
    rw [unpublished]
    exact Bool.false_ne_true

theorem retry_tracked {errorCode : String} (tracked : Tracked policy message) (leased : message.status = .retry) :
    Tracked policy (message.retry now policy.maxAttempts errorCode) := by
  have left : message.attemptCount < policy.maxAttempts := tracked.left (by rw [leased]; rfl)
  have unpublished : ¬ message.publishedAt.isSome = true := by
    intro published
    rw [tracked.published.mpr published] at leased
    cases leased
  unfold OutboxMessageRecord.retry decideRetry
  dsimp only
  split
  · refine ⟨(fun opened => by cases opened), ?_, iff_of_false (fun same => by cases same) unpublished⟩
    show message.attemptCount + 1 ≤ policy.maxAttempts
    omega
  · refine ⟨fun _ => ?_, ?_, iff_of_false (fun same => by cases same) unpublished⟩
    · show message.attemptCount + 1 < policy.maxAttempts
      omega
    · show message.attemptCount + 1 ≤ policy.maxAttempts
      omega

theorem write_tracked (settlement : Settlement) (tracked : Tracked policy message) (leased : message.status = .retry) :
    Tracked policy (settlement.write now policy.maxAttempts message) := by
  have left : message.attemptCount < policy.maxAttempts := tracked.left (by rw [leased]; rfl)
  have other : message.status ≠ .published := by
    rw [leased]
    exact fun same => by cases same
  have unpublished : ¬ message.publishedAt.isSome = true := fun published => other (tracked.published.mpr published)
  cases settlement with
  | publish =>
    rw [Settlement.write, if_neg other]
    exact ⟨(fun opened => by cases opened), tracked.bounded, iff_of_true rfl rfl⟩
  | retry errorCode =>
    rw [Settlement.write, if_neg other]
    exact retry_tracked tracked leased
  | fail errorCode =>
    rw [Settlement.write, if_neg other]
    exact ⟨(fun opened => by cases opened), left, iff_of_false (fun same => by cases same) unpublished⟩
  | notConfigured errorCode =>
    rw [Settlement.write, if_neg other]
    exact ⟨(fun opened => by cases opened), tracked.bounded, iff_of_false (fun same => by cases same) unpublished⟩
  | markNotConfigured errorCode =>
    rw [Settlement.write, if_neg (fun both => both.2 leased)]
    exact ⟨(fun opened => by cases opened), tracked.bounded, iff_of_false (fun same => by cases same) Bool.false_ne_true⟩

/-- What a settlement writes was leased. -/
theorem settle_leased {index : Nat} (exclusive : Exclusive state)
    (accepted : outboxStep PolicyWorker.leaseWorker state (.settle index) = .ok next) :
    next.messages = state.messages ∨ ∃ id settlement now, (∀ message ∈ state.messages, message.id = id →
        message.status = .retry) ∧
      next.messages = state.messages.update (fun row => row.id = id)
        (Settlement.write settlement now policy.maxAttempts) (settlement.write_columns _ _) := by
  obtain ⟨current, id, found, first, _, _, ⟨same, _⟩ | ⟨_, settlement, _, _, _, changed⟩⟩ := settle_ok accepted
  · exact .inl same
  · refine .inr ⟨id, settlement, current.now, fun message stored named => ?_, ?_⟩
    · obtain ⟨other, present, its, leased⟩ :=
        exclusive.leased current (List.mem_of_getElem? found) id (head_mem first)
      have equal : message = other := Table.eq_of_conflict stored present (.inl (named.trans its.symm))
      rw [equal]
      exact leased
    · rw [changed]
      congr 2
      exact current.worker.follows

theorem outboxStep_tracked (exclusive : Exclusive state) (tracked : ∀ message ∈ state.messages, Tracked policy message)
    (accepted : outboxStep PolicyWorker.leaseWorker state input = .ok next) :
    (∀ message ∈ next.messages, Tracked policy message) ∧
      ∀ message ∈ state.messages, message.status.ended = true → message ∈ next.messages := by
  cases input with
  | enqueue id tenantId eventId topic payload createdAt =>
    obtain ⟨inserted, _, _⟩ := enqueue_ok accepted
    refine ⟨fun message member => ?_, fun message stored _ => (Table.mem_insert? inserted).mpr (.inl stored)⟩
    rcases (Table.mem_insert? inserted).mp member with old | rfl
    · exact tracked message old
    · exact enqueued_tracked
  | claim worker now held =>
    rw [(claim_ok accepted).1]
    refine ⟨fun message member => ?_, fun message stored ended => Table.mem_update_of_not stored ?_⟩
    · rcases Table.mem_update_cases member with ⟨old, _⟩ | ⟨old, stored, claimed, rfl⟩
      · exact tracked message old
      · exact leased_tracked (tracked old stored) (claims_open stored (of_decide_eq_true claimed))
    · rw [decide_eq_false_iff_not]
      intro claimed
      rw [claims_open stored claimed] at ended
      cases ended
  | deliver index answer =>
    obtain ⟨_, _, _, _, _, _, _, _, _, _, rfl⟩ := deliver_ok accepted
    exact ⟨tracked, fun message stored _ => stored⟩
  | settle index =>
    rcases settle_leased exclusive accepted with same | ⟨id, settlement, now, leased, changed⟩
    · rw [same]
      exact ⟨tracked, fun message stored _ => stored⟩
    · rw [changed]
      refine ⟨fun message member => ?_, fun message stored ended => Table.mem_update_of_not stored ?_⟩
      · rcases Table.mem_update_cases member with ⟨old, _⟩ | ⟨old, stored, named, rfl⟩
        · exact tracked message old
        · exact write_tracked settlement (tracked old stored) (leased old stored (of_decide_eq_true named))
      · rw [decide_eq_false_iff_not]
        intro named
        rw [leased message stored named] at ended
        cases ended
  | abort index =>
    obtain ⟨_, _, rfl⟩ := abort_ok accepted
    exact ⟨tracked, fun message stored _ => stored⟩

theorem singleAttempt_bounded : 1 ≤ 1 ∧ 1 ≤ maxOutboxAttemptsLimit := by decide

def singleAttempt : RetryPolicy where
  maxAttempts := 1
  bounded := singleAttempt_bounded

def singleWorker (projection : Bool) : PolicyWorker singleAttempt where
  worker := .cockpit (cockpitWorker projection)
  follows := rfl

end Lifecycle

end SmartAo.Worker
