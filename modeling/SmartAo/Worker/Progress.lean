import SmartAo.Worker.Decoders
import SmartAo.Worker.Lifecycle

namespace SmartAo.Worker

open SmartAo.Foundation SmartAo.Platform SmartAo.Dce SmartAo.SubmissionPackage

/-- What no transaction changes of a message. -/
def OutboxMessageRecord.identity (row : OutboxMessageRecord) : Uuid × Uuid × String × Json :=
  (row.id, row.tenantId, row.topic, row.payload)

/-- The transaction that ends a processing wrote `later` over `row`. -/
structure Settled {ω : Type} (spec : ω → LeaseWorker) (state : OutboxState ω) (row later : OutboxMessageRecord) : Prop where
  stored : row ∈ state.messages
  writes : ∃ current ∈ state.runs, current.remaining.head? = some row.id ∧ row.topic ∈ (spec current.worker).topics ∧
    ∃ settlement, (spec current.worker).settlement current.answer row = .settle settlement ∧
      later = settlement.write current.now (spec current.worker).maxAttempts row

section Steps

variable {ω : Type} {spec : ω → LeaseWorker} {state next : OutboxState ω} {input : OutboxInput ω}
  {message later : OutboxMessageRecord} {id : Uuid} {index : Nat}

theorem settle_written (accepted : outboxStep spec state (.settle index) = .ok next) :
    ∀ later ∈ next.messages, later ∈ state.messages ∨ ∃ row, Settled spec state row later := by
  intro later member
  simp only [outboxStep, bind_ok, orRaise_ok] at accepted
  obtain ⟨current, found, id, first, accepted⟩ := accepted
  split at accepted
  · cases pure_ok.mp accepted
    exact .inl member
  · rename_i message stored
    have named := Table.find?_query stored
    simp only [decide_eq_true_eq] at named
    split at accepted
    · cases pure_ok.mp accepted
      exact .inl member
    · rename_i topic
      split at accepted
      · cases pure_ok.mp accepted
        exact .inl member
      · rename_i settlement settles
        cases pure_ok.mp accepted
        have written : later ∈ state.messages.update (fun row => row.id = id)
            (settlement.write current.now (spec current.worker).maxAttempts) (settlement.write_columns _ _) := member
        rcases Table.mem_update_cases written with ⟨old, _⟩ | ⟨row, present, same, rfl⟩
        · exact .inl old
        · have equal : row = message :=
            Table.eq_of_conflict present (Table.find?_mem stored) (.inl ((of_decide_eq_true same).trans named.symm))
          subst equal
          refine .inr ⟨row, present, current, List.mem_of_getElem? found, ?_, not_not.mp topic, settlement, settles, rfl⟩
          rw [named]
          exact first
      · cases accepted

theorem write_identity (settlement : Settlement) (now : Timestamp) (maxAttempts : Nat) (row : OutboxMessageRecord) :
    (settlement.write now maxAttempts row).identity = row.identity := by
  cases settlement <;> (dsimp only [Settlement.write]; split <;> rfl)

/-- Where a message of the next state comes from. -/
theorem outboxStep_origin (accepted : outboxStep spec state input = .ok next) (member : later ∈ next.messages) :
    (∃ id tenantId eventId topic payload createdAt, input = .enqueue id tenantId eventId topic payload createdAt ∧
        later = enqueued id tenantId eventId topic payload createdAt) ∨
      later ∈ state.messages ∨
      (∃ worker now held row, input = .claim worker now held ∧ row ∈ state.messages ∧ row.status.ended = false ∧
        later = leased (now + (spec worker).leaseSeconds * 1000000) row) ∨
      ∃ row, Settled spec state row later := by
  cases input with
  | enqueue id tenantId eventId topic payload createdAt =>
    rcases (Table.mem_insert? (enqueue_ok accepted).1).mp member with old | rfl
    · exact .inr (.inl old)
    · exact .inl ⟨id, tenantId, eventId, topic, payload, createdAt, rfl, rfl⟩
  | claim worker now held =>
    rw [(claim_ok accepted).1] at member
    rcases Table.mem_update_cases member with ⟨old, _⟩ | ⟨row, stored, claimed, rfl⟩
    · exact .inr (.inl old)
    · exact .inr (.inr (.inl ⟨worker, now, held, row, rfl, stored, claims_open stored (of_decide_eq_true claimed), rfl⟩))
  | deliver index answer =>
    obtain ⟨_, _, _, _, _, _, _, _, _, _, rfl⟩ := deliver_ok accepted
    exact .inr (.inl member)
  | settle index =>
    rcases settle_written accepted later member with old | settled
    · exact .inr (.inl old)
    · exact .inr (.inr (.inr settled))
  | abort index =>
    obtain ⟨_, _, rfl⟩ := abort_ok accepted
    exact .inr (.inl member)

theorem outboxStep_identity (accepted : outboxStep spec state input = .ok next) :
    ∀ message ∈ state.messages, ∃ later ∈ next.messages, later.identity = message.identity := by
  intro message stored
  obtain ⟨later, present, same, _⟩ := outboxStep_follows accepted message stored
  refine ⟨later, present, ?_⟩
  rcases outboxStep_origin accepted present with
    ⟨id, tenantId, eventId, topic, payload, createdAt, rfl, rfl⟩ | old | ⟨_, _, _, row, _, old, _, rfl⟩ |
      ⟨row, old, settles⟩
  · exact absurd (.inl same.symm) (Table.insert?_absent (enqueue_ok accepted).1 message stored)
  · rw [Table.eq_of_conflict old stored (.inl same)]
  · rw [Table.eq_of_conflict old stored (.inl same)]
    rfl
  · obtain ⟨current, _, _, _, settlement, _, rfl⟩ := settles
    rw [write_identity, Table.eq_of_conflict old stored (.inl ((write_topic ..).1.symm.trans same))]

theorem outboxStep_delivered (accepted : outboxStep spec state input = .ok next) :
    ∀ id ∈ state.delivered, id ∈ next.delivered := by
  intro id listed
  cases input with
  | enqueue _ _ _ _ _ _ =>
    rw [(enqueue_ok accepted).2.2]
    exact listed
  | claim _ _ _ =>
    rw [(claim_ok accepted).2.2]
    exact listed
  | deliver _ _ =>
    obtain ⟨_, _, _, _, _, _, _, _, _, _, rfl⟩ := deliver_ok accepted
    dsimp only
    split
    · exact List.mem_append_left _ listed
    · exact listed
  | settle _ =>
    obtain ⟨_, _, _, _, _, same, _⟩ := settle_ok accepted
    rw [same]
    exact listed
  | abort _ =>
    obtain ⟨_, _, rfl⟩ := abort_ok accepted
    exact listed

/-- A run of the next state was there, has just been claimed, waits for no answer, or has one. -/
theorem outboxStep_run (accepted : outboxStep spec state input = .ok next) {later : WorkerRun ω}
    (member : later ∈ next.runs) :
    later ∈ state.runs ∨ (∃ now held, input = .claim later.worker now held ∧ later.now = now ∧ later.answer = none) ∨
      ∃ current ∈ state.runs, later.worker = current.worker ∧ later.now = current.now ∧
        (later.answer = none ∨ later.remaining = current.remaining ∧
          ∃ answer, later.answer = some answer ∧ ∃ row ∈ state.messages, later.remaining.head? = some row.id ∧
            (spec later.worker).process row = .deliver ∧
            ((spec later.worker).errorCode answer = none → row.id ∈ next.delivered)) := by
  cases input with
  | enqueue _ _ _ _ _ _ =>
    rw [(enqueue_ok accepted).2.1] at member
    exact .inl member
  | claim worker now held =>
    rw [(claim_ok accepted).2.1] at member
    rcases List.mem_append.mp member with old | last
    · exact .inl old
    · rw [List.mem_singleton.mp last]
      exact .inr (.inl ⟨now, held, rfl, rfl, rfl⟩)
  | deliver index answer =>
    obtain ⟨current, id, row, found, first, _, stored, named, _, process, rfl⟩ := deliver_ok accepted
    rcases mem_set_cases found member with rfl | old
    · refine .inr (.inr ⟨current, List.mem_of_getElem? found, rfl, rfl, .inr ⟨rfl, answer, rfl, row, stored, ?_, process, ?_⟩⟩)
      · rw [named]
        exact first
      · intro success
        dsimp only at success ⊢
        rw [if_pos success, named]
        exact List.mem_append_right _ (List.mem_singleton_self id)
    · exact .inl (List.eraseIdx_subset old)
  | settle index =>
    obtain ⟨current, id, found, _, runs, _⟩ := settle_ok accepted
    rw [runs] at member
    rcases mem_set_cases found member with rfl | old
    · exact .inr (.inr ⟨current, List.mem_of_getElem? found, rfl, rfl, .inl rfl⟩)
    · exact .inl (List.eraseIdx_subset old)
  | abort index =>
    obtain ⟨current, found, rfl⟩ := abort_ok accepted
    rcases mem_set_cases found member with rfl | old
    · exact .inr (.inr ⟨current, List.mem_of_getElem? found, rfl, rfl, .inl rfl⟩)
    · exact .inl (List.eraseIdx_subset old)

end Steps

section Publication

variable {ω : Type} {spec : ω → LeaseWorker} {state next : OutboxState ω} {input : OutboxInput ω}
  {claimed : ω → Prop} {row : OutboxMessageRecord}

/-- What a worker does with a message depends on nothing that a transaction changes. -/
def Steady (spec : ω → LeaseWorker) : Prop :=
  ∀ worker first second, first.identity = second.identity → (spec worker).process first = (spec worker).process second

/-- A worker of the topic delivered the message, or had nothing to deliver. -/
structure PublishedBy (spec : ω → LeaseWorker) (delivered : List Uuid) (row : OutboxMessageRecord) (worker : ω) : Prop where
  topic : row.topic ∈ (spec worker).topics
  reason : (spec worker).process row = .deliver ∧ row.id ∈ delivered ∨ (spec worker).process row = .settle .publish

structure Accounted (spec : ω → LeaseWorker) (claimed : ω → Prop) (state : OutboxState ω) : Prop where
  published : ∀ row ∈ state.messages, row.status = .published →
    ∃ worker, claimed worker ∧ PublishedBy spec state.delivered row worker
  answered : ∀ current ∈ state.runs, ∀ answer, current.answer = some answer →
    (spec current.worker).errorCode answer = none → ∃ row ∈ state.messages, current.remaining.head? = some row.id ∧
      (spec current.worker).process row = .deliver ∧ row.id ∈ state.delivered
  workers : ∀ current ∈ state.runs, claimed current.worker

theorem write_newly_published {settlement : Settlement} {now : Timestamp} {maxAttempts : Nat}
    (published : (settlement.write now maxAttempts row).status = .published) :
    row.status = .published ∨ settlement = .publish := by
  by_cases already : row.status = .published
  · exact .inl already
  right
  cases settlement with
  | publish => rfl
  | retry errorCode =>
    rw [Settlement.write, if_neg already, OutboxMessageRecord.retry, decideRetry] at published
    dsimp only at published
    split at published <;> cases published
  | fail errorCode =>
    rw [Settlement.write, if_neg already] at published
    cases published
  | notConfigured errorCode =>
    rw [Settlement.write, if_neg already] at published
    cases published
  | markNotConfigured errorCode =>
    rw [Settlement.write] at published
    split at published
    · exact absurd published already
    · cases published

theorem PublishedBy.later {delivered more : List Uuid} {later : OutboxMessageRecord} {worker : ω}
    (by_ : PublishedBy spec delivered row worker) (steady : Steady spec) (same : later.identity = row.identity)
    (grows : ∀ id ∈ delivered, id ∈ more) : PublishedBy spec more later worker := by
  have process := steady worker later row same
  simp only [OutboxMessageRecord.identity, Prod.mk.injEq] at same
  refine ⟨?_, ?_⟩
  · rw [same.2.2.1]
    exact by_.topic
  · rw [process, same.1]
    exact by_.reason.imp_left fun delivers => ⟨delivers.1, grows _ delivers.2⟩

theorem Accounted.settled {later : OutboxMessageRecord} (accounted : Accounted spec claimed state)
    (steady : Steady spec) (settled : Settled spec state row later) (published : later.status = .published) :
    ∃ worker, claimed worker ∧ PublishedBy spec state.delivered later worker := by
  obtain ⟨current, present, first, topic, settlement, settles, rfl⟩ := settled.writes
  have same := write_identity settlement current.now (spec current.worker).maxAttempts row
  rcases write_newly_published published with already | rfl
  · obtain ⟨worker, known, by_⟩ := accounted.published row settled.stored already
    exact ⟨worker, known, by_.later steady same fun _ listed => listed⟩
  refine ⟨current.worker, accounted.workers current present, PublishedBy.later ⟨topic, ?_⟩ steady same fun _ listed => listed⟩
  unfold LeaseWorker.settlement at settles
  split at settles
  · rename_i answer answered
    split at settles
    · rename_i success
      obtain ⟨other, stored, head, process, listed⟩ := accounted.answered current present answer answered success
      rw [first, Option.some.injEq] at head
      have equal : other = row := Table.eq_of_conflict stored settled.stored (.inl head.symm)
      rw [equal] at process listed
      exact .inl ⟨process, listed⟩
    · cases settles
  · exact .inr settles

theorem Accounted.step (accounted : Accounted spec claimed state) (steady : Steady spec)
    (known : ∀ worker now held, input = .claim worker now held → claimed worker)
    (accepted : outboxStep spec state input = .ok next) : Accounted spec claimed next := by
  have grows := outboxStep_delivered accepted
  have moved : ∀ row ∈ state.messages, ∀ worker : ω, ∃ later ∈ next.messages, later.id = row.id ∧
      (spec worker).process later = (spec worker).process row := by
    intro row stored worker
    obtain ⟨later, present, same⟩ := outboxStep_identity accepted row stored
    exact ⟨later, present, congrArg (·.1) same, steady worker later row same⟩
  constructor
  · intro later member published
    rcases outboxStep_origin accepted member with
      ⟨_, _, _, _, _, _, _, rfl⟩ | old | ⟨_, _, _, _, _, _, _, rfl⟩ | ⟨row, settled⟩
    · cases published
    · obtain ⟨worker, claims, by_⟩ := accounted.published later old published
      exact ⟨worker, claims, by_.later steady rfl grows⟩
    · cases published
    · obtain ⟨worker, claims, by_⟩ := accounted.settled steady settled published
      exact ⟨worker, claims, by_.later steady rfl grows⟩
  · intro current member answer answered success
    rcases outboxStep_run accepted member with old | ⟨_, _, _, _, none_⟩ | ⟨_, _, _, _, none_ | ⟨_, other, some_, row, stored, first, process, listed⟩⟩
    · obtain ⟨row, stored, first, process, listed⟩ := accounted.answered current old answer answered success
      obtain ⟨later, present, named, same⟩ := moved row stored current.worker
      exact ⟨later, present, named.symm ▸ first, same.trans process, named.symm ▸ grows _ listed⟩
    · rw [none_] at answered
      cases answered
    · rw [none_] at answered
      cases answered
    · rw [answered, Option.some.injEq] at some_
      subst some_
      obtain ⟨later, present, named, same⟩ := moved row stored current.worker
      exact ⟨later, present, named.symm ▸ first, same.trans process, named.symm ▸ listed success⟩
  · intro current member
    rcases outboxStep_run accepted member with old | ⟨now, held, claims, _⟩ | ⟨earlier, old, same, _⟩
    · exact accounted.workers current old
    · exact known _ now held claims
    · rw [same]
      exact accounted.workers earlier old

theorem accounted_initial : Accounted spec claimed OutboxState.initial where
  published _ member := absurd member Table.not_mem_empty
  answered _ member := absurd member List.not_mem_nil
  workers _ member := absurd member List.not_mem_nil

/-- Any published message is accounted for by a worker that claims in the run. -/
theorem run_accounted (steady : Steady spec) (inputs : List (OutboxInput ω)) :
    Accounted spec (fun worker => ∃ now held, .claim worker now held ∈ inputs)
      (run (outboxStep spec) OutboxState.initial inputs) := by
  have among : Along (outboxStep spec) (fun _ input => input ∈ inputs) OutboxState.initial inputs :=
    along_iff_each.mpr fun first input before => before.subset (List.mem_append_right _ (List.mem_singleton_self input))
  refine run_invariant (fun _ input _ accounted member accepted => accounted.step steady ?_ accepted) accounted_initial among
  rintro worker now held rfl
  exact ⟨now, held, member⟩

/-- A worker of any topic of the outbox. -/
inductive ApplicationWorker where
  | cockpit (worker : CockpitProjectionWorker)
  | delivery (worker : DeliveryWorker)

def ApplicationWorker.leaseWorker : ApplicationWorker → LeaseWorker
  | .cockpit worker => worker.leaseWorker
  | .delivery worker => worker.leaseWorker

/-- The contract of the topic accepts the payload. -/
def OutboxMessageRecord.decodable (row : OutboxMessageRecord) : Bool :=
  if row.topic = cockpitProjectionTopic then (safeEvent row.payload row.tenantId).isSome
  else if row.topic ∈ boampTopics then (safeBoampPayload row.topic row.payload).isSome
  else if row.topic = exportTopic then (safeExportPayload row.payload).isSome
  else if row.topic = submissionExportEmailTopic then (safePackageId row.payload).isSome
  else (retentionTarget row.payload).isSome

/-- The worker found nothing to delete behind a retention message. -/
def NothingToDelete (row : OutboxMessageRecord) (worker : ApplicationWorker) : Prop :=
  ∃ retention stagedObject storageObjectId tenantId, worker = .delivery (.retention retention stagedObject) ∧
    row.topic = retentionTopic ∧ retentionTarget row.payload = some (storageObjectId, tenantId) ∧
    stagedObject tenantId storageObjectId ≠ some .rejected ∧ stagedObject tenantId storageObjectId ≠ some .expired

theorem application_steady : Steady ApplicationWorker.leaseWorker := by
  intro worker first second same
  simp only [OutboxMessageRecord.identity, Prod.mk.injEq] at same
  obtain ⟨_, tenant, topic, payload⟩ := same
  rcases worker with worker | worker | worker | worker | worker <;>
    simp only [ApplicationWorker.leaseWorker, DeliveryWorker.leaseWorker, CockpitProjectionWorker.leaseWorker,
      OpportunityEventBusWorker.leaseWorker, SubmissionExportWebhookWorker.leaseWorker,
      SubmissionExportSmtpWorker.leaseWorker, DceRetentionWorker.leaseWorker, tenant, topic, payload]

theorem topics_apart : boampIngestionTopic ≠ cockpitProjectionTopic ∧ boampQualificationTopic ≠ cockpitProjectionTopic ∧
    exportTopic ≠ cockpitProjectionTopic ∧ exportTopic ∉ boampTopics ∧
    submissionExportEmailTopic ≠ cockpitProjectionTopic ∧ submissionExportEmailTopic ∉ boampTopics ∧
    submissionExportEmailTopic ≠ exportTopic ∧
    retentionTopic ≠ cockpitProjectionTopic ∧ retentionTopic ∉ boampTopics ∧ retentionTopic ≠ exportTopic ∧
    retentionTopic ≠ submissionExportEmailTopic := by decide +kernel

/-- What each worker leads to publish: a decodable message that it delivers, or an object that is not to be deleted. -/
theorem application_process (worker : ApplicationWorker) (topic : row.topic ∈ worker.leaseWorker.topics) :
    (worker.leaseWorker.process row = .deliver → row.decodable = true) ∧
      (worker.leaseWorker.process row = .settle .publish → NothingToDelete row worker) := by
  obtain ⟨ingestion, qualification, export_, outside, email, emailOutside, emailExport, retention, retentionOutside,
    retentionExport, retentionEmail⟩ := topics_apart
  rcases worker with worker | worker | worker | ⟨worker, stagedObject⟩ | worker
  · have named : row.topic = cockpitProjectionTopic := List.mem_singleton.mp topic
    simp only [ApplicationWorker.leaseWorker, CockpitProjectionWorker.leaseWorker, OutboxMessageRecord.decodable,
      if_pos named]
    cases safeEvent row.payload row.tenantId <;> cases worker.projection <;> simp
  · have named : row.topic = exportTopic := List.mem_singleton.mp topic
    simp only [ApplicationWorker.leaseWorker, DeliveryWorker.leaseWorker, SubmissionExportWebhookWorker.leaseWorker,
      OutboxMessageRecord.decodable, named, if_neg export_, if_neg outside, if_true]
    cases safeExportPayload row.payload with
    | none => simp
    | some data =>
      refine ⟨fun _ => rfl, fun publishes => ?_⟩
      simp only [Option.isNone_some, Bool.false_eq_true, if_false] at publishes
      repeat' split at publishes
      all_goals cases publishes
  · have named : row.topic = submissionExportEmailTopic := List.mem_singleton.mp topic
    simp only [ApplicationWorker.leaseWorker, DeliveryWorker.leaseWorker, SubmissionExportSmtpWorker.leaseWorker,
      OutboxMessageRecord.decodable, named, if_neg email, if_neg emailOutside, if_neg emailExport, if_true]
    cases safePackageId row.payload with
    | none => simp
    | some packageId =>
      refine ⟨fun _ => rfl, fun publishes => ?_⟩
      simp only [Option.isNone_some, Bool.false_eq_true, if_false] at publishes
      split at publishes <;> cases publishes
  · have named : row.topic = retentionTopic := List.mem_singleton.mp topic
    simp only [ApplicationWorker.leaseWorker, DeliveryWorker.leaseWorker, DceRetentionWorker.leaseWorker,
      OutboxMessageRecord.decodable, named, if_neg retention, if_neg retentionOutside, if_neg retentionExport,
      if_neg retentionEmail]
    cases target : retentionTarget row.payload with
    | none => simp
    | some pair =>
      obtain ⟨storageObjectId, tenantId⟩ := pair
      refine ⟨fun _ => rfl, fun kept => ⟨worker, stagedObject, storageObjectId, tenantId, rfl, named, target, ?_⟩⟩
      dsimp only at kept
      split at kept
      · cases kept
      · rename_i other
        constructor <;> (intro state; simp [state] at other)
  · have named : row.topic ∈ boampTopics := topic
    have apart : row.topic ≠ cockpitProjectionTopic := by
      rcases List.mem_cons.mp named with same | same
      · rw [same]
        exact ingestion
      · rw [List.mem_singleton.mp same]
        exact qualification
    simp only [ApplicationWorker.leaseWorker, DeliveryWorker.leaseWorker, OpportunityEventBusWorker.leaseWorker,
      OutboxMessageRecord.decodable, if_neg apart, if_pos named]
    cases safeBoampPayload row.topic row.payload <;> cases worker.bus <;> simp

/-- Whichever workers run and whatever becomes of them, a published message was delivered and honours the contract of
    its topic, or it is a retention message of an object that a retention worker found with nothing to delete. -/
theorem published_accounted (inputs : List (OutboxInput ApplicationWorker)) :
    ∀ row ∈ (run (outboxStep ApplicationWorker.leaseWorker) OutboxState.initial inputs).messages,
      row.status = .published →
        (row.decodable = true ∧
          row.id ∈ (run (outboxStep ApplicationWorker.leaseWorker) OutboxState.initial inputs).delivered) ∨
        ∃ worker now held, .claim worker now held ∈ inputs ∧ NothingToDelete row worker := by
  intro row stored published
  obtain ⟨worker, ⟨now, held, claimed⟩, by_⟩ := (run_accounted application_steady inputs).published row stored published
  have process := application_process worker by_.topic
  rcases by_.reason with ⟨delivers, listed⟩ | publishes
  · exact .inl ⟨process.1 delivers, listed⟩
  · exact .inr ⟨worker, now, held, claimed, process.2 publishes⟩

def projectedScan : List (OutboxInput ApplicationWorker) :=
  [.enqueue 5 3 1 cockpitProjectionTopic scanRecorded 0, .claim (.cockpit (cockpitWorker true)) 0 [],
    .deliver 0 (.returned 0), .settle 0]

theorem projected_scan_accounted :
    ∃ row ∈ (run (outboxStep ApplicationWorker.leaseWorker) OutboxState.initial projectedScan).messages,
      (row.decodable = true ∧
        row.id ∈ (run (outboxStep ApplicationWorker.leaseWorker) OutboxState.initial projectedScan).delivered) ∨
      ∃ worker now held, .claim worker now held ∈ projectedScan ∧ NothingToDelete row worker := by
  have present : (run (outboxStep ApplicationWorker.leaseWorker) OutboxState.initial projectedScan).messages.rows.any
      (fun row => row.status = .published) = true := by decide +kernel
  obtain ⟨row, stored, published⟩ := List.any_eq_true.mp present
  exact ⟨row, stored, published_accounted projectedScan row stored (of_decide_eq_true published)⟩

end Publication

section Backlog

variable {ω : Type} {spec : ω → LeaseWorker} {state next : OutboxState ω} {input : OutboxInput ω}
  {horizon : Timestamp} {row : OutboxMessageRecord}

/-- The longest delay after which a failed message is due again. -/
def longestDelay : Int := 3600 * 1000000

/-- At the horizon every open message is due, and so is what the runs have left to settle. -/
structure Scheduled (horizon : Timestamp) (state : OutboxState ω) : Prop where
  messages : ∀ row ∈ state.messages, row.status.ended = false → ∀ time, row.nextAttemptAt = some time → time ≤ horizon
  runs : ∀ current ∈ state.runs, current.now + longestDelay ≤ horizon

/-- A claim whose lease, and the delay after a failure, end before the horizon. -/
def EndsBefore (spec : ω → LeaseWorker) (horizon : Timestamp) : OutboxInput ω → Prop
  | .claim worker now _ => now + (spec worker).leaseSeconds * 1000000 ≤ horizon ∧ now + longestDelay ≤ horizon
  | _ => True

theorem retry_scheduled {now time : Timestamp} {maxAttempts : Nat} {errorCode : String}
    (due : (row.retry now maxAttempts errorCode).nextAttemptAt = some time) : time ≤ now + longestDelay := by
  unfold OutboxMessageRecord.retry decideRetry at due
  dsimp only at due
  split at due
  · cases due
  · have shorter : min (30 * 2 ^ (row.attemptCount + 1 - 1)) 3600 ≤ (3600 : Int) := Int.min_le_right ..
    rw [Option.some.injEq] at due
    rw [← due, longestDelay]
    exact Int.add_le_add_left (Int.mul_le_mul_of_nonneg_right shorter (by decide)) now

theorem write_cases (settlement : Settlement) (now : Timestamp) (maxAttempts : Nat) (row : OutboxMessageRecord) :
    settlement.write now maxAttempts row = row ∨ (settlement.write now maxAttempts row).nextAttemptAt = none ∨
      ∃ errorCode, settlement.write now maxAttempts row = row.retry now maxAttempts errorCode := by
  cases settlement with
  | publish =>
    dsimp only [Settlement.write]
    split
    · exact .inl rfl
    · exact .inr (.inl rfl)
  | retry errorCode =>
    dsimp only [Settlement.write]
    split
    · exact .inl rfl
    · exact .inr (.inr ⟨errorCode, rfl⟩)
  | fail errorCode =>
    dsimp only [Settlement.write]
    split
    · exact .inl rfl
    · exact .inr (.inl rfl)
  | notConfigured errorCode =>
    dsimp only [Settlement.write]
    split
    · exact .inl rfl
    · exact .inr (.inl rfl)
  | markNotConfigured errorCode =>
    dsimp only [Settlement.write]
    split
    · exact .inl rfl
    · exact .inr (.inl rfl)

theorem Scheduled.step (scheduled : Scheduled horizon state) (ends : EndsBefore spec horizon input)
    (accepted : outboxStep spec state input = .ok next) : Scheduled horizon next := by
  constructor
  · intro later member opened time due
    rcases outboxStep_origin accepted member with
      ⟨_, _, _, _, _, _, _, rfl⟩ | old | ⟨worker, now, held, row, rfl, _, _, rfl⟩ | ⟨row, stored, current, present, _, _, settlement, _, rfl⟩
    · cases due
    · exact scheduled.messages later old opened time due
    · cases due
      exact ends.1
    · rcases write_cases settlement current.now (spec current.worker).maxAttempts row with same | never | ⟨_, retries⟩
      · rw [same] at opened due
        exact scheduled.messages row stored opened time due
      · rw [never] at due
        cases due
      · rw [retries] at due
        exact (retry_scheduled due).trans (scheduled.runs current present)
  · intro current member
    rcases outboxStep_run accepted member with old | ⟨now, held, rfl, same, _⟩ | ⟨earlier, old, _, same, _⟩
    · exact scheduled.runs current old
    · rw [same]
      exact ends.2
    · rw [same]
      exact scheduled.runs earlier old

theorem scheduled_initial : Scheduled horizon (OutboxState.initial : OutboxState ω) where
  messages _ member := absurd member Table.not_mem_empty
  runs _ member := absurd member List.not_mem_nil

/-- The messages a worker would claim, were its batch as large as that. -/
def backlog (worker : LeaseWorker) (now : Timestamp) (state : OutboxState ω) : List OutboxMessageRecord :=
  state.messages.rows.filter fun row => worker.due now row

/-- The messages of a backlog after the first batch of it. -/
def LeaseWorker.later (worker : LeaseWorker) (now : Timestamp) (state : OutboxState ω) : List OutboxMessageRecord :=
  ((backlog worker now state).insertionSort CreatedBefore).drop worker.batchSize

theorem mem_backlog {worker : LeaseWorker} {now : Timestamp} :
    row ∈ backlog worker now state ↔ row ∈ state.messages ∧ worker.due now row = true := List.mem_filter

theorem claimed_or_later {worker : LeaseWorker} {now : Timestamp} (waiting : row ∈ backlog worker now state) :
    row.id ∈ worker.claims state.messages now [] ∨ row ∈ worker.later now state := by
  have sorted : row ∈ (backlog worker now state).insertionSort CreatedBefore :=
    (List.perm_insertionSort CreatedBefore _).mem_iff.mpr waiting
  rw [← List.take_append_drop worker.batchSize ((backlog worker now state).insertionSort CreatedBefore)] at sorted
  refine (List.mem_append.mp sorted).imp_left fun first => ?_
  unfold LeaseWorker.claims
  simpa [backlog] using List.mem_map_of_mem first

/-- A claim leaves the messages after its batch, and nothing else. -/
theorem backlog_claim {worker : ω} {now : Timestamp} (lease : 0 < (spec worker).leaseSeconds)
    (accepted : outboxStep spec state (.claim worker now []) = .ok next) :
    (∀ row ∈ backlog (spec worker) now state,
        row.id ∈ (spec worker).claims state.messages now [] ∨ row ∈ backlog (spec worker) now next) ∧
      (backlog (spec worker) now next).length ≤ (backlog (spec worker) now state).length - (spec worker).batchSize := by
  have written := (claim_ok accepted).1
  have left : ∀ row ∈ backlog (spec worker) now next, row ∈ (spec worker).later now state := by
    intro row waiting
    obtain ⟨stored, due⟩ := mem_backlog.mp waiting
    rw [written] at stored
    rcases Table.mem_update_cases stored with ⟨old, outside⟩ | ⟨old, _, _, rfl⟩
    · have unclaimed := of_decide_eq_false outside
      exact (claimed_or_later (mem_backlog.mpr ⟨old, due⟩)).resolve_left unclaimed
    · simp only [LeaseWorker.due, leased, Option.all_some, decide_eq_true_eq] at due
      have positive : 0 < (spec worker).leaseSeconds * 1000000 := by omega
      exact absurd due.2.2 (not_le.mpr (Int.lt_add_of_pos_right now positive))
  constructor
  · intro row waiting
    by_cases claimed : row.id ∈ (spec worker).claims state.messages now []
    · exact .inl claimed
    · obtain ⟨stored, due⟩ := mem_backlog.mp waiting
      refine .inr (mem_backlog.mpr ⟨?_, due⟩)
      rw [written]
      exact Table.mem_update_of_not stored (decide_eq_false claimed)
  · have distinct : (backlog (spec worker) now next).Nodup :=
      (next.messages.distinct.imp fun apart same => apart (by rw [same]; exact .inl rfl)).sublist List.filter_sublist
    have fewer := (List.subperm_of_subset distinct left).length_le
    rw [LeaseWorker.later, List.length_drop, (List.perm_insertionSort CreatedBefore _).length_eq] at fewer
    exact fewer

theorem claims_kept {inputs : List (OutboxInput ω)} {worker : ω} {now : Timestamp}
    (only : ∀ input ∈ inputs, input = .claim worker now []) :
    state.runs <+: (run (outboxStep spec) state inputs).runs := by
  induction inputs generalizing state with
  | nil => exact List.prefix_rfl
  | cons input inputs ih =>
    rw [run_cons, only input (List.mem_cons_self ..)]
    refine List.IsPrefix.trans ?_ (ih fun other member => only other (List.mem_cons_of_mem _ member))
    exact List.prefix_append ..

/-- Enough claims take every message that is due. -/
theorem backlog_claimed {worker : ω} {now : Timestamp} (lease : 0 < (spec worker).leaseSeconds) (rounds : Nat) :
    ∀ state : OutboxState ω, (backlog (spec worker) now state).length ≤ rounds * (spec worker).batchSize →
      ∀ row ∈ backlog (spec worker) now state,
        ∃ current ∈ (run (outboxStep spec) state (List.replicate rounds (.claim worker now []))).runs.drop state.runs.length,
          current.worker = worker ∧ current.now = now ∧ row.id ∈ current.remaining := by
  induction rounds with
  | zero =>
    intro state enough row waiting
    rw [Nat.zero_mul, Nat.le_zero, List.length_eq_zero_iff] at enough
    rw [enough] at waiting
    exact absurd waiting List.not_mem_nil
  | succ rounds ih =>
    intro state enough row waiting
    obtain ⟨next, accepted⟩ : ∃ next, outboxStep spec state (.claim worker now []) = .ok next := ⟨_, rfl⟩
    obtain ⟨_, runs, _⟩ := claim_ok accepted
    obtain ⟨taken, fewer⟩ := backlog_claim lease accepted
    rw [List.replicate_succ, run_cons, commit_ok accepted]
    have only : ∀ input ∈ List.replicate rounds (OutboxInput.claim worker now []), input = .claim worker now [] :=
      fun input member => List.eq_of_mem_replicate member
    obtain ⟨more, grown⟩ : next.runs <+: (run (outboxStep spec) next (List.replicate rounds _)).runs := claims_kept only
    rcases taken row waiting with claimed | still
    · refine ⟨⟨worker, now, _, none⟩, ?_, rfl, rfl, claimed⟩
      rw [← grown, runs, List.append_assoc, List.drop_left]
      exact List.mem_append_left _ (List.mem_singleton_self _)
    · have enough' : (backlog (spec worker) now next).length ≤ rounds * (spec worker).batchSize := by
        rw [Nat.succ_mul] at enough
        omega
      obtain ⟨current, present, found⟩ := ih next enough' row still
      refine ⟨current, ?_, found⟩
      rw [runs, List.length_append] at present
      rw [← List.drop_drop] at present
      exact List.mem_of_mem_drop present

/-- Two workers end on an error, one of them with the message it has claimed. -/
def lostClaims : List (OutboxInput ApplicationWorker) :=
  [.enqueue 5 3 1 cockpitProjectionTopic scanRecorded 0, .claim (.cockpit (cockpitWorker true)) 0 [],
    .deliver 0 .raised, .abort 0, .claim (.cockpit (cockpitWorker true)) 60000000 [], .abort 1]

end Backlog

end SmartAo.Worker
