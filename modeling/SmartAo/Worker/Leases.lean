import SmartAo.Worker.Outbox
import Mathlib.Data.List.Perm.Basic

namespace SmartAo.Worker

open SmartAo.Foundation SmartAo.Platform

variable {ω : Type} {spec : ω → LeaseWorker} {state next : OutboxState ω} {input : OutboxInput ω}
  {message : OutboxMessageRecord} {id : Uuid} {index : Nat} {current : WorkerRun ω}

/-- A claim takes no message that an earlier run has left to settle: no lease runs out under its worker. -/
def LeasesHeld (spec : ω → LeaseWorker) (state : OutboxState ω) : OutboxInput ω → Prop
  | .claim worker now held => ∀ id ∈ (spec worker).claims state.messages now held, ∀ run ∈ state.runs, id ∉ run.remaining
  | _ => True

instance : Decidable (LeasesHeld spec state input) := by
  cases input with
  | claim worker now held =>
    exact List.decidableBAll (fun id => ∀ run ∈ state.runs, id ∉ run.remaining)
      ((spec worker).claims state.messages now held)
  | _ => exact inferInstanceAs (Decidable True)

/-- No run ends on an error after a port took a message and before the message is published. -/
def AnswersKept (spec : ω → LeaseWorker) (state : OutboxState ω) : OutboxInput ω → Prop
  | .abort index => ∀ run ∈ state.runs[index]?, ∀ answer ∈ run.answer, (spec run.worker).errorCode answer ≠ none
  | _ => True

instance : Decidable (AnswersKept spec state input) := by
  cases input with
  | abort index =>
    exact inferInstanceAs (Decidable (∀ run ∈ state.runs[index]?, ∀ answer ∈ run.answer,
      (spec run.worker).errorCode answer ≠ none))
  | _ => exact inferInstanceAs (Decidable True)

/-- Neither a lease that runs out nor an error comes between the delivery of a message and its settlement. -/
structure Undisturbed (spec : ω → LeaseWorker) (state : OutboxState ω) (input : OutboxInput ω) : Prop where
  leases : LeasesHeld spec state input
  answers : AnswersKept spec state input

instance : Decidable (Undisturbed spec state input) :=
  decidable_of_iff (LeasesHeld spec state input ∧ AnswersKept spec state input)
    ⟨fun both => ⟨both.1, both.2⟩, fun undisturbed => ⟨undisturbed.leases, undisturbed.answers⟩⟩

/-- The port accepted the message that the run settles next. -/
structure Accepted (spec : ω → LeaseWorker) (messages : Table OutboxMessageRecord) (run : WorkerRun ω) (id : Uuid) :
    Prop where
  first : run.remaining.head? = some id
  answer : ∃ answer, run.answer = some answer ∧ (spec run.worker).errorCode answer = none
  message : ∃ message ∈ messages, message.id = id ∧ message.topic ∈ (spec run.worker).topics

/-- No two runs have a message left, and a message left is leased. -/
structure Exclusive (state : OutboxState ω) : Prop where
  apart : state.runs.Pairwise fun one other => ∀ id ∈ one.remaining, id ∉ other.remaining
  distinct : ∀ run ∈ state.runs, run.remaining.Nodup
  leased : ∀ run ∈ state.runs, ∀ id ∈ run.remaining, ∃ message ∈ state.messages, message.id = id ∧
    message.status = .retry

/-- A delivered message is published, or its run is about to publish it, and none is delivered twice. -/
structure DeliveredOnce (spec : ω → LeaseWorker) (state : OutboxState ω) : Prop where
  once : state.delivered.Nodup
  settled : ∀ id ∈ state.delivered, (∃ message ∈ state.messages, message.id = id ∧ message.status = .published) ∨
    ∃ run ∈ state.runs, Accepted spec state.messages run id

theorem mem_claims {worker : LeaseWorker} {messages : Table OutboxMessageRecord} {now : Timestamp} {held : List Uuid}
    (claimed : id ∈ worker.claims messages now held) :
    ∃ message ∈ messages, message.id = id ∧ worker.due now message = true := by
  obtain ⟨message, taken, rfl⟩ := List.mem_map.mp claimed
  have sorted := (List.perm_insertionSort CreatedBefore _).mem_iff.mp (List.mem_of_mem_take taken)
  obtain ⟨stored, due⟩ := List.mem_filter.mp sorted
  exact ⟨message, stored, rfl, (Bool.and_eq_true_iff.mp due).1⟩

theorem claims_nodup (worker : LeaseWorker) (messages : Table OutboxMessageRecord) (now : Timestamp)
    (held : List Uuid) : (worker.claims messages now held).Nodup := by
  have named : (messages.rows.map (·.id)).Nodup :=
    List.pairwise_map.mpr (messages.distinct.imp fun apart same => apart (.inl same))
  unfold LeaseWorker.claims
  dsimp only
  refine ((List.take_sublist _ _).map _).nodup ?_
  refine ((List.perm_insertionSort CreatedBefore _).map _).nodup_iff.mpr ?_
  exact (List.filter_sublist.map _).nodup named

/-- A message that a claim takes was not ended. -/
theorem claims_open {worker : LeaseWorker} {messages : Table OutboxMessageRecord} {now : Timestamp} {held : List Uuid}
    (stored : message ∈ messages) (claimed : message.id ∈ worker.claims messages now held) :
    message.status.ended = false := by
  obtain ⟨other, present, same, due⟩ := mem_claims claimed
  have equal : other = message := Table.eq_of_conflict present stored (.inl same)
  rw [equal] at due
  simp only [LeaseWorker.due, decide_eq_true_eq] at due
  exact due.2.1

theorem run_unique (exclusive : Exclusive state) {one other : WorkerRun ω} (first : one ∈ state.runs)
    (second : other ∈ state.runs) (mine : id ∈ one.remaining) (yours : id ∈ other.remaining) : one = other := by
  by_contra different
  have apart : ∀ ⦃one⦄, one ∈ state.runs → ∀ ⦃other⦄, other ∈ state.runs → one ≠ other →
      ∀ id ∈ one.remaining, id ∉ other.remaining := by
    have symmetric : Std.Symm fun one other : WorkerRun ω => ∀ id ∈ one.remaining, id ∉ other.remaining :=
      ⟨fun _ _ apart id mine yours => apart id yours mine⟩
    exact fun _ first _ second => exclusive.apart.forall first second
  exact apart first second different id mine yours

theorem deliver_ok {answer : Delivery} (accepted : outboxStep spec state (.deliver index answer) = .ok next) :
    ∃ current id message, state.runs[index]? = some current ∧ current.remaining.head? = some id ∧
      current.answer = none ∧ message ∈ state.messages ∧ message.id = id ∧
      message.topic ∈ (spec current.worker).topics ∧ (spec current.worker).process message = .deliver ∧
      next = { state with
        runs := state.runs.set index { current with answer := some answer }
        delivered := if (spec current.worker).errorCode answer = none then state.delivered ++ [id]
          else state.delivered } := by
  simp only [outboxStep, bind_ok, orRaise_ok, raiseIf_ok, exists_unit, not_not, Bool.not_eq_true,
    Option.isSome_eq_false_iff, Option.isNone_iff_eq_none] at accepted
  obtain ⟨current, found, id, first, message, stored, topic, unanswered, accepted⟩ := accepted
  have named := Table.find?_query stored
  simp only [decide_eq_true_eq] at named
  split at accepted
  · rename_i delivers
    exact ⟨current, id, message, found, first, unanswered, Table.find?_mem stored, named, topic, delivers,
      (pure_ok.mp accepted).symm⟩
  · cases accepted

/-- A settlement writes one message, or leaves it as its worker skips it. -/
theorem settle_ok (accepted : outboxStep spec state (.settle index) = .ok next) :
    ∃ current id, state.runs[index]? = some current ∧ current.remaining.head? = some id ∧
      next.runs = state.runs.set index { current with remaining := current.remaining.tail, answer := none } ∧
      next.delivered = state.delivered ∧
      ((next.messages = state.messages ∧ ∀ message ∈ state.messages, message.id = id →
          message.topic ∈ (spec current.worker).topics →
          (spec current.worker).settlement current.answer message = .skip) ∨
        ∃ message settlement, message ∈ state.messages ∧ message.id = id ∧
          (spec current.worker).settlement current.answer message = .settle settlement ∧
          next.messages = state.messages.update (fun row => row.id = id)
            (settlement.write current.now (spec current.worker).maxAttempts) (settlement.write_columns _ _)) := by
  simp only [outboxStep, bind_ok, orRaise_ok] at accepted
  obtain ⟨current, found, id, first, accepted⟩ := accepted
  refine ⟨current, id, found, first, ?_⟩
  split at accepted
  · rename_i absent
    cases pure_ok.mp accepted
    refine ⟨rfl, rfl, .inl ⟨rfl, fun message stored named _ => ?_⟩⟩
    have missing := Table.find?_none.mp absent message stored
    rw [decide_eq_false_iff_not] at missing
    exact absurd named missing
  · rename_i message stored
    have named := Table.find?_query stored
    simp only [decide_eq_true_eq] at named
    have only : ∀ other ∈ state.messages, other.id = id → other = message := fun other present same =>
      Table.eq_of_conflict present (Table.find?_mem stored) (.inl (same.trans named.symm))
    split at accepted
    · rename_i foreign
      cases pure_ok.mp accepted
      refine ⟨rfl, rfl, .inl ⟨rfl, fun other present same topic => ?_⟩⟩
      rw [only other present same] at topic
      exact absurd topic foreign
    · split at accepted
      · rename_i skips
        cases pure_ok.mp accepted
        refine ⟨rfl, rfl, .inl ⟨rfl, fun other present same _ => ?_⟩⟩
        rw [only other present same]
        exact skips
      · rename_i settlement settles
        cases pure_ok.mp accepted
        exact ⟨rfl, rfl, .inr ⟨message, settlement, Table.find?_mem stored, named, settles, rfl⟩⟩
      · cases accepted

theorem enqueue_ok {tenantId eventId : Uuid} {topic : String} {payload : Json} {createdAt : Timestamp}
    (accepted : outboxStep spec state (.enqueue id tenantId eventId topic payload createdAt) = .ok next) :
    state.messages.insert? (enqueued id tenantId eventId topic payload createdAt) = some next.messages ∧
      next.runs = state.runs ∧ next.delivered = state.delivered := by
  simp only [outboxStep, bind_ok, orRaise_ok, pure_ok] at accepted
  obtain ⟨messages, inserted, rfl⟩ := accepted
  exact ⟨inserted, rfl, rfl⟩

theorem claim_ok {worker : ω} {now : Timestamp} {held : List Uuid}
    (accepted : outboxStep spec state (.claim worker now held) = .ok next) :
    next.messages = state.messages.update (fun row => row.id ∈ (spec worker).claims state.messages now held)
        (leased (now + (spec worker).leaseSeconds * 1000000)) (fun _ => rfl) ∧
      next.runs = state.runs ++ [⟨worker, now, (spec worker).claims state.messages now held, none⟩] ∧
      next.delivered = state.delivered := by
  cases pure_ok.mp accepted
  exact ⟨rfl, rfl, rfl⟩

theorem abort_ok (accepted : outboxStep spec state (.abort index) = .ok next) : ∃ current,
    state.runs[index]? = some current ∧
      next = { state with runs := state.runs.set index { current with remaining := [], answer := none } } := by
  simp only [outboxStep, bind_ok, orRaise_ok, pure_ok] at accepted
  obtain ⟨current, found, rfl⟩ := accepted
  exact ⟨current, found, rfl⟩

/-- The run at an index, after it has changed, and the others. -/
theorem mem_set_cases {runs : List (WorkerRun ω)} {changed run : WorkerRun ω} (found : runs[index]? = some current)
    (member : run ∈ runs.set index changed) : run = changed ∨ run ∈ runs.eraseIdx index := by
  obtain ⟨inside, _⟩ := List.getElem?_eq_some_iff.mp found
  exact List.mem_cons.mp ((List.set_perm_cons_eraseIdx inside changed).mem_iff.mp member)

/-- No other run has a message of the run at an index left. -/
theorem Exclusive.others (exclusive : Exclusive state) (found : state.runs[index]? = some current) :
    ∀ other ∈ state.runs.eraseIdx index, ∀ id ∈ current.remaining, id ∉ other.remaining := by
  obtain ⟨inside, rfl⟩ := List.getElem?_eq_some_iff.mp found
  have reordered : (state.runs[index] :: state.runs.eraseIdx index).Pairwise
      fun one other => ∀ id ∈ one.remaining, id ∉ other.remaining :=
    (List.getElem_cons_eraseIdx_perm inside).symm.pairwise exclusive.apart
      fun apart id mine yours => apart id yours mine
  exact (List.pairwise_cons.mp reordered).1

/-- A run that keeps some of the messages it has left stays apart from the others. -/
theorem Exclusive.shrink (exclusive : Exclusive state) (found : state.runs[index]? = some current)
    (changed : WorkerRun ω) (fewer : changed.remaining.Sublist current.remaining) :
    (state.runs.set index changed).Pairwise (fun one other => ∀ id ∈ one.remaining, id ∉ other.remaining) ∧
      ∀ run ∈ state.runs.set index changed, run.remaining.Nodup := by
  have others := exclusive.others found
  obtain ⟨inside, _⟩ := List.getElem?_eq_some_iff.mp found
  constructor
  · refine (List.set_perm_cons_eraseIdx inside changed).symm.pairwise ?_ fun apart id mine yours => apart id yours mine
    refine List.pairwise_cons.mpr ⟨fun other later id mine => others other later id (fewer.subset mine), ?_⟩
    exact exclusive.apart.sublist (List.eraseIdx_sublist _ _)
  · intro run changes
    rcases mem_set_cases found changes with rfl | old
    · exact fewer.nodup (exclusive.distinct _ (List.mem_of_getElem? found))
    · exact exclusive.distinct run (List.eraseIdx_subset old)

theorem head_mem {run : WorkerRun ω} (first : run.remaining.head? = some id) : id ∈ run.remaining :=
  List.mem_of_mem_head? first

/-- A message stands first in what its run has left, and nowhere else. -/
theorem head_not_mem_tail {ids : List Uuid} (distinct : ids.Nodup) (first : ids.head? = some id) :
    id ∉ ids.tail := by
  cases ids with
  | nil => cases first
  | cons head tail =>
    cases first
    exact (List.nodup_cons.mp distinct).1

theorem Exclusive.claim {worker : ω} {now : Timestamp} {held : List Uuid} (exclusive : Exclusive state)
    (fresh : LeasesHeld spec state (.claim worker now held))
    (accepted : outboxStep spec state (.claim worker now held) = .ok next) : Exclusive next := by
  obtain ⟨messages, runs, _⟩ := claim_ok accepted
  refine ⟨?_, fun run member => ?_, fun run member id left => ?_⟩
  · rw [runs]
    refine List.pairwise_append.mpr ⟨exclusive.apart, List.pairwise_singleton _ _, fun run old last only id left => ?_⟩
    rw [List.mem_singleton.mp only]
    exact fun claimed => fresh id claimed run old left
  · rw [runs] at member
    rcases List.mem_append.mp member with old | last
    · exact exclusive.distinct run old
    · rw [List.mem_singleton.mp last]
      exact claims_nodup _ _ _ _
  · rw [runs] at member
    rw [messages]
    rcases List.mem_append.mp member with old | last
    · obtain ⟨message, stored, named, leased⟩ := exclusive.leased run old id left
      have outside : id ∉ (spec worker).claims state.messages now held := fun claimed => fresh id claimed run old left
      exact ⟨message, Table.mem_update_of_not stored (by simpa [named] using outside), named, leased⟩
    · rw [List.mem_singleton.mp last] at left
      obtain ⟨message, stored, named, _⟩ := mem_claims left
      refine ⟨_, Table.mem_update_of stored ?_, named, rfl⟩
      rw [named]
      exact decide_eq_true left

theorem Exclusive.settle (exclusive : Exclusive state)
    (accepted : outboxStep spec state (.settle index) = .ok next) : Exclusive next := by
  obtain ⟨current, id, found, first, runs, _, written⟩ := settle_ok accepted
  have member := List.mem_of_getElem? found
  have fewer := exclusive.shrink found { current with remaining := current.remaining.tail, answer := none }
    (List.tail_sublist _)
  have kept : ∀ other : Uuid, other ≠ id → (∃ message ∈ state.messages, message.id = other ∧ message.status = .retry) →
      ∃ message ∈ next.messages, message.id = other ∧ message.status = .retry := by
    rintro other different ⟨message, stored, named, leased⟩
    rcases written with ⟨same, _⟩ | ⟨_, settlement, _, _, _, changed⟩
    · rw [same]
      exact ⟨message, stored, named, leased⟩
    · rw [changed]
      exact ⟨message, Table.mem_update_of_not stored (by simpa [named] using different), named, leased⟩
  rw [← runs] at fewer
  refine ⟨fewer.1, fewer.2, fun run changes other left => ?_⟩
  rw [runs] at changes
  rcases mem_set_cases found changes with rfl | old
  · have different : other ≠ id := by
      rintro rfl
      exact head_not_mem_tail (exclusive.distinct current member) first left
    exact kept other different (exclusive.leased current member other (List.mem_of_mem_tail left))
  · have different : other ≠ id := by
      rintro rfl
      exact exclusive.others found run old other (head_mem first) left
    exact kept other different (exclusive.leased run (List.eraseIdx_subset old) other left)

theorem Exclusive.step (exclusive : Exclusive state) (fresh : LeasesHeld spec state input)
    (accepted : outboxStep spec state input = .ok next) : Exclusive next := by
  cases input with
  | enqueue id tenantId eventId topic payload createdAt =>
    obtain ⟨inserted, runs, _⟩ := enqueue_ok accepted
    refine ⟨by rw [runs]; exact exclusive.apart, by rw [runs]; exact exclusive.distinct, ?_⟩
    rw [runs]
    intro run member id left
    obtain ⟨message, stored, kept⟩ := exclusive.leased run member id left
    exact ⟨message, (Table.mem_insert? inserted).mpr (.inl stored), kept⟩
  | claim worker now held => exact exclusive.claim fresh accepted
  | deliver index answer =>
    obtain ⟨current, id, message, found, _, _, _, _, _, _, rfl⟩ := deliver_ok accepted
    have fewer := exclusive.shrink found { current with answer := some answer } (List.Sublist.refl _)
    refine ⟨fewer.1, fewer.2, fun run changes other left => ?_⟩
    rcases mem_set_cases found changes with rfl | old
    · exact exclusive.leased current (List.mem_of_getElem? found) other left
    · exact exclusive.leased run (List.eraseIdx_subset old) other left
  | settle index => exact exclusive.settle accepted
  | abort index =>
    obtain ⟨current, found, rfl⟩ := abort_ok accepted
    have fewer := exclusive.shrink found { current with remaining := [], answer := none } (List.nil_sublist _)
    refine ⟨fewer.1, fewer.2, fun run changes other left => ?_⟩
    rcases mem_set_cases found changes with rfl | old
    · exact absurd left List.not_mem_nil
    · exact exclusive.leased run (List.eraseIdx_subset old) other left

theorem write_published {settlement : Settlement} {now : Timestamp} {maxAttempts : Nat}
    (published : message.status = .published) : settlement.write now maxAttempts message = message := by
  cases settlement <;> simp [Settlement.write, published]

theorem write_topic (settlement : Settlement) (now : Timestamp) (maxAttempts : Nat) (row : OutboxMessageRecord) :
    (settlement.write now maxAttempts row).id = row.id ∧ (settlement.write now maxAttempts row).topic = row.topic :=
  ⟨congrArg (·.1) (settlement.write_columns now maxAttempts row),
    congrArg (·.2.2) (settlement.write_columns now maxAttempts row)⟩

/-- A message keeps its topic, and stays published once it is. -/
def Follows (message later : OutboxMessageRecord) : Prop :=
  later.id = message.id ∧ later.topic = message.topic ∧ (message.status = .published → later.status = .published)

theorem Follows.refl (message : OutboxMessageRecord) : Follows message message := ⟨rfl, rfl, id⟩

theorem outboxStep_follows (accepted : outboxStep spec state input = .ok next) :
    ∀ message ∈ state.messages, ∃ later ∈ next.messages, Follows message later := by
  intro message stored
  cases input with
  | enqueue id tenantId eventId topic payload createdAt =>
    exact ⟨message, (Table.mem_insert? (enqueue_ok accepted).1).mpr (.inl stored), Follows.refl message⟩
  | claim worker now held =>
    rw [(claim_ok accepted).1]
    refine ⟨_, Table.mem_update.mpr ⟨message, stored, rfl⟩, ?_⟩
    split
    · rename_i claimed
      have open_ := claims_open stored (of_decide_eq_true claimed)
      refine ⟨rfl, rfl, fun published => ?_⟩
      rw [published] at open_
      cases open_
    · exact Follows.refl message
  | deliver index answer =>
    obtain ⟨_, _, _, _, _, _, _, _, _, _, rfl⟩ := deliver_ok accepted
    exact ⟨message, stored, Follows.refl message⟩
  | settle index =>
    obtain ⟨_, _, _, _, _, _, ⟨same, _⟩ | ⟨_, settlement, _, _, _, changed⟩⟩ := settle_ok accepted
    · rw [same]
      exact ⟨message, stored, Follows.refl message⟩
    · rw [changed]
      refine ⟨_, Table.mem_update.mpr ⟨message, stored, rfl⟩, ?_⟩
      split
      · refine ⟨(write_topic ..).1, (write_topic ..).2, fun published => ?_⟩
        rw [write_published published]
        exact published
      · exact Follows.refl message
  | abort index =>
    obtain ⟨_, _, rfl⟩ := abort_ok accepted
    exact ⟨message, stored, Follows.refl message⟩

theorem mem_set_of_ne {runs : List (WorkerRun ω)} {changed run : WorkerRun ω} (found : runs[index]? = some current)
    (member : run ∈ runs) (other : run ≠ current) : run ∈ runs.set index changed := by
  obtain ⟨inside, rfl⟩ := List.getElem?_eq_some_iff.mp found
  have picked := (List.getElem_cons_eraseIdx_perm inside).mem_iff.mpr member
  refine (List.set_perm_cons_eraseIdx inside changed).mem_iff.mpr (List.mem_cons_of_mem _ ?_)
  exact (List.mem_cons.mp picked).resolve_left other

theorem Accepted.later {run : WorkerRun ω} (waits : Accepted spec state.messages run id)
    (accepted : outboxStep spec state input = .ok next) : Accepted spec next.messages run id := by
  obtain ⟨message, stored, named, topic⟩ := waits.message
  obtain ⟨later, present, same, kept, _⟩ := outboxStep_follows accepted message stored
  exact ⟨waits.first, waits.answer, later, present, same.trans named, by rw [kept]; exact topic⟩

theorem DeliveredOnce.deliver {answer : Delivery} (delivered : DeliveredOnce spec state) (exclusive : Exclusive state)
    (accepted : outboxStep spec state (.deliver index answer) = .ok next) : DeliveredOnce spec next := by
  obtain ⟨current, id, message, found, first, unanswered, stored, named, topic, _, rfl⟩ := deliver_ok accepted
  have member := List.mem_of_getElem? found
  have waiting : ∀ run, ∀ id, Accepted spec state.messages run id → run ≠ current := by
    rintro run id waits rfl
    obtain ⟨_, answered, _⟩ := waits.answer
    rw [unanswered] at answered
    cases answered
  have settled : ∀ other ∈ state.delivered,
      (∃ message ∈ state.messages, message.id = other ∧ message.status = .published) ∨
        ∃ run ∈ state.runs.set index { current with answer := some answer }, Accepted spec state.messages run other := by
    intro other old
    refine (delivered.settled other old).imp_right ?_
    rintro ⟨run, present, waits⟩
    exact ⟨run, mem_set_of_ne found present (waiting run other waits), waits⟩
  by_cases success : (spec current.worker).errorCode answer = none
  · have fresh : id ∉ state.delivered := by
      intro old
      rcases delivered.settled id old with ⟨other, present, same, published⟩ | ⟨run, present, waits⟩
      · obtain ⟨leased, there, its, retry⟩ := exclusive.leased current member id (head_mem first)
        have equal : other = leased := Table.eq_of_conflict present there (.inl (same.trans its.symm))
        rw [equal, retry] at published
        cases published
      · exact waiting run id waits (run_unique exclusive present member (head_mem waits.first) (head_mem first))
    refine ⟨?_, ?_⟩
    · rw [if_pos success]
      exact List.nodup_append.mpr ⟨delivered.once, List.nodup_singleton id, fun other old last only => by
        rw [List.mem_singleton.mp only]
        rintro rfl
        exact fresh old⟩
    · rw [if_pos success]
      intro other listed
      rcases List.mem_append.mp listed with old | last
      · exact settled other old
      · rw [List.mem_singleton.mp last]
        obtain ⟨inside, _⟩ := List.getElem?_eq_some_iff.mp found
        exact .inr ⟨_, List.mem_set inside _, first, ⟨answer, rfl, success⟩, message, stored, named, topic⟩
  · refine ⟨?_, ?_⟩
    · rw [if_neg success]
      exact delivered.once
    · rw [if_neg success]
      exact settled

theorem DeliveredOnce.settle (delivered : DeliveredOnce spec state)
    (accepted : outboxStep spec state (.settle index) = .ok next) : DeliveredOnce spec next := by
  obtain ⟨current, id, found, first, runs, same, written⟩ := settle_ok accepted
  refine ⟨by rw [same]; exact delivered.once, fun other listed => ?_⟩
  rw [same] at listed
  rcases delivered.settled other listed with ⟨message, stored, named, published⟩ | ⟨run, present, waits⟩
  · obtain ⟨later, there, its, _, still⟩ := outboxStep_follows accepted message stored
    exact .inl ⟨later, there, its.trans named, still published⟩
  · by_cases mine : run = current
    · rw [mine] at waits
      have head : other = id := by
        have one := waits.first
        rw [first, Option.some.injEq] at one
        exact one.symm
      obtain ⟨answer, answered, success⟩ := waits.answer
      obtain ⟨message, stored, named, topic⟩ := waits.message
      have publishes : ∀ row, (spec current.worker).settlement current.answer row = .settle .publish := by
        intro row
        simp only [LeaseWorker.settlement, answered, success]
      rcases written with ⟨_, skips⟩ | ⟨_, settlement, _, _, settles, changed⟩
      · have skipped := skips message stored (named.trans head) topic
        rw [publishes] at skipped
        cases skipped
      · rw [publishes] at settles
        cases settles
        left
        rw [changed]
        refine ⟨_, Table.mem_update.mpr ⟨message, stored, rfl⟩, ?_⟩
        rw [if_pos (by simpa using named.trans head)]
        refine ⟨(write_topic ..).1.trans named, ?_⟩
        by_cases published : message.status = .published
        · rw [write_published published]
          exact published
        · simp [Settlement.write, published, OutboxMessageRecord.publish]
    · rw [runs]
      exact .inr ⟨run, mem_set_of_ne found present mine, waits.later accepted⟩

theorem DeliveredOnce.abort (delivered : DeliveredOnce spec state) (kept : AnswersKept spec state (.abort index))
    (accepted : outboxStep spec state (.abort index) = .ok next) : DeliveredOnce spec next := by
  obtain ⟨current, found, rfl⟩ := abort_ok accepted
  refine ⟨delivered.once, fun id listed => (delivered.settled id listed).imp_right ?_⟩
  rintro ⟨run, present, waits⟩
  have other : run ≠ current := by
    rintro rfl
    obtain ⟨answer, answered, success⟩ := waits.answer
    exact kept run found answer answered success
  exact ⟨run, mem_set_of_ne found present other, waits⟩

theorem DeliveredOnce.step (delivered : DeliveredOnce spec state) (exclusive : Exclusive state)
    (answers : AnswersKept spec state input) (accepted : outboxStep spec state input = .ok next) : DeliveredOnce spec next := by
  have kept : next.delivered = state.delivered → (∀ run ∈ state.runs, run ∈ next.runs) → DeliveredOnce spec next := by
    intro same runs
    refine ⟨by rw [same]; exact delivered.once, fun id listed => ?_⟩
    rw [same] at listed
    rcases delivered.settled id listed with ⟨message, stored, named, published⟩ | ⟨run, present, waits⟩
    · obtain ⟨later, there, its, _, still⟩ := outboxStep_follows accepted message stored
      exact .inl ⟨later, there, its.trans named, still published⟩
    · exact .inr ⟨run, runs run present, waits.later accepted⟩
  cases input with
  | enqueue id tenantId eventId topic payload createdAt =>
    obtain ⟨_, runs, same⟩ := enqueue_ok accepted
    exact kept same fun run member => by rw [runs]; exact member
  | claim worker now held =>
    obtain ⟨_, runs, same⟩ := claim_ok accepted
    exact kept same fun run member => by rw [runs]; exact List.mem_append_left _ member
  | deliver index answer => exact delivered.deliver exclusive accepted
  | settle index => exact delivered.settle accepted
  | abort index => exact delivered.abort answers accepted

theorem exclusive_initial : Exclusive (OutboxState.initial : OutboxState ω) where
  apart := List.Pairwise.nil
  distinct _ member := absurd member List.not_mem_nil
  leased _ member := absurd member List.not_mem_nil

theorem deliveredOnce_initial : DeliveredOnce spec OutboxState.initial where
  once := List.nodup_nil
  settled _ member := absurd member List.not_mem_nil

/-- While no run is disturbed, no message is delivered twice, whichever workers run. -/
theorem delivered_once {inputs : List (OutboxInput ω)}
    (undisturbed : Along (outboxStep spec) (Undisturbed spec) OutboxState.initial inputs) :
    (run (outboxStep spec) OutboxState.initial inputs).delivered.Nodup := by
  have preserved : ∀ state input next, Exclusive state ∧ DeliveredOnce spec state → Undisturbed spec state input →
      outboxStep spec state input = .ok next → Exclusive next ∧ DeliveredOnce spec next :=
    fun _ _ _ holds undisturbed accepted =>
      ⟨holds.1.step undisturbed.leases accepted, holds.2.step holds.1 undisturbed.answers accepted⟩
  exact (run_invariant preserved ⟨exclusive_initial, deliveredOnce_initial⟩ undisturbed).2.once

end SmartAo.Worker
