import SmartAo.Platform.Dispatcher

namespace SmartAo.Platform

open SmartAo.Foundation

theorem mapIdx_map {α β γ : Type} (f : Nat → α → β) (g : β → γ) (xs : List α) :
    (xs.mapIdx f).map g = xs.mapIdx fun index x => g (f index x) := by
  rw [List.mapIdx_eq_zipIdx_map, List.mapIdx_eq_zipIdx_map, List.map_map]
  rfl

section Steps

variable {σ : Type} {supported : String → Bool} {state next : DispatchState σ} {ledger : Ledger σ}
  {dispatch : OpenDispatch} {draws : Draws} {body : ResponseBody}

theorem findReceipt_some {key : DispatchKey} {receipt : CommandReceiptRecord}
    (found : findReceipt ledger key = some receipt) : receipt ∈ ledger.receipts ∧ receipt.key = key := by
  have query := Table.find?_query found
  rw [decide_eq_true_eq] at query
  exact ⟨Table.find?_mem found, query⟩

theorem receipt_eq_of_key {first second : CommandReceiptRecord} (hf : first ∈ ledger.receipts)
    (hs : second ∈ ledger.receipts) (same : first.key = second.key) : first = second := by
  refine Table.eq_of_conflict hf hs (.inr ?_)
  obtain ⟨tenant, rest⟩ := Prod.mk.inj same
  exact ⟨tenant, .inl rest⟩

theorem findReceipt_of_mem {receipt : CommandReceiptRecord} (member : receipt ∈ ledger.receipts) :
    findReceipt ledger receipt.key = some receipt := by
  refine (Table.find?_eq_some ?_).mpr ⟨member, decide_eq_true rfl⟩
  intro first second hf hs
  rw [decide_eq_true_eq] at hf hs
  obtain ⟨tenant, rest⟩ := Prod.mk.inj (hf.trans hs.symm)
  exact .inr ⟨tenant, .inl rest⟩

theorem resolveExistingReceipt_ok {receipt : CommandReceiptRecord} {requestHash : String}
    {result : DispatchResult} (resolved : resolveExistingReceipt receipt requestHash = .ok result) :
    receipt.requestHash = requestHash ∧ receipt.responseBody = some result.toResponseBody := by
  simp only [resolveExistingReceipt, bind_ok, raiseIf_ok, exists_unit, orRaise_ok, pure_ok, not_not, ne_eq]
    at resolved
  obtain ⟨same, _, body, kept, rfl⟩ := resolved
  exact ⟨same, kept⟩

theorem resolveExistingReceipt_reused {receipt : CommandReceiptRecord} {requestHash : String}
    (different : receipt.requestHash ≠ requestHash) :
    resolveExistingReceipt receipt requestHash = .error .idempotencyKeyReused := by
  rw [resolveExistingReceipt, bind_of_error (raiseIf_fail different)]

/-- A reply of success rests on a committed receipt of its key and request. -/
def Recalled (ledger : Ledger σ) (reply : Reply) : Prop :=
  ∀ result, reply.answer = .ok result → ∃ receipt ∈ ledger.receipts, receipt.key = reply.key ∧
    receipt.requestHash = canonicalRequestHash reply.envelope ∧
    receipt.responseBody = some result.toResponseBody

def DispatchState.open (state : DispatchState σ) : List OpenDispatch := state.looking ++ state.inserted

/-- A step of a dispatch that leaves the committed tables. -/
structure Quiet (supported : String → Bool) (state next : DispatchState σ) : Prop where
  ledger : next.ledger = state.ledger
  replies : next.replies = state.replies ∨
    ∃ reply, next.replies = state.replies ++ [reply] ∧ Recalled state.ledger reply
  inserted : next.inserted.Sublist state.inserted ∨ ∃ dispatch, next.inserted = state.inserted ++ [dispatch] ∧
    (∀ other ∈ state.inserted, ¬ Schema.Conflict other.receipt dispatch.receipt) ∧
    ∀ receipt ∈ state.ledger.receipts, ¬ Schema.Conflict receipt dispatch.receipt
  known : ∀ dispatch ∈ next.open, dispatch ∈ state.open ∨ supported dispatch.envelope.commandType = true

/-- The commit of a dispatch with the handler's result. -/
structure Commits (state next : DispatchState σ) (index : Nat) (dispatch : OpenDispatch) (draws : Draws)
    (outcome : HandlerOutcome) : Prop where
  held : state.inserted[index]? = some dispatch
  receipts : state.ledger.receipts.insert? (dispatch.completed (response dispatch outcome draws)) =
    some next.ledger.receipts
  events : state.ledger.events.insertAll? (outcome.events.mapIdx fun index event =>
    eventRecord dispatch (draws.event index) event) = some next.ledger.events
  outbox : state.ledger.outbox.insertAll? (outcome.events.mapIdx fun index event =>
    outboxMessage dispatch (draws.event index) (draws.message index) event) = some next.ledger.outbox
  replies : next.replies = state.replies ++ [⟨dispatch.envelope, dispatch.context,
    .ok { response dispatch outcome draws with replayed := false }⟩]
  inserted : next.inserted = state.inserted.eraseIdx index
  looking : next.looking = state.looking

/-- A write outside the dispatcher, or a worker's update of a message. -/
structure Outside (state next : DispatchState σ) (input : DispatchInput σ) : Prop where
  business : (∃ written, input = .foreign written) ∨ next.ledger.business = state.ledger.business
  receipts : next.ledger.receipts = state.ledger.receipts
  events : next.ledger.events = state.ledger.events
  outbox : next.ledger.outbox = state.ledger.outbox ∨ ∃ query status, next.ledger.outbox =
    state.ledger.outbox.update query (delivered status) (delivered_columns status)
  replies : next.replies = state.replies
  inserted : next.inserted = state.inserted
  looking : next.looking = state.looking

theorem complete_ok {result : Transaction (σ × HandlerOutcome)} {after : Ledger σ} :
    complete ledger dispatch draws result = .ok (after, body) ↔ ∃ outcome, result = .ok (after.business, outcome) ∧
      ledger.events.insertAll? (outcome.events.mapIdx fun index event =>
        eventRecord dispatch (draws.event index) event) = some after.events ∧
      ledger.outbox.insertAll? (outcome.events.mapIdx fun index event =>
        outboxMessage dispatch (draws.event index) (draws.message index) event) = some after.outbox ∧
      ledger.receipts.insert? (dispatch.completed (response dispatch outcome draws)) = some after.receipts ∧
      response dispatch outcome draws = body := by
  simp only [complete, bind_ok, flush, orRaise_ok, pure_ok, Prod.exists, Prod.mk.injEq]
  constructor
  · rintro ⟨business, outcome, rfl, events, facts, outbox, messages, receipts, inserted, rfl, same⟩
    exact ⟨outcome, rfl, facts, messages, inserted, same⟩
  · rintro ⟨outcome, found, facts, messages, inserted, same⟩
    exact ⟨_, outcome, found, _, facts, _, messages, _, inserted, rfl, same⟩

theorem quiet_answer (envelope : Envelope) (context : CommandContext) {answer : Except DispatchError DispatchResult}
    (recalled : Recalled state.ledger ⟨envelope, context, answer⟩) {waiting held : List OpenDispatch}
    (fewer : waiting.Sublist state.looking) (sublist : held.Sublist state.inserted) :
    Quiet supported state ({ state with looking := waiting, inserted := held }.answer envelope context answer) :=
  ⟨rfl, .inr ⟨_, rfl, recalled⟩, .inl sublist, fun _ member => .inl ((fewer.append sublist).subset member)⟩

theorem recalled_error {envelope : Envelope} {context : CommandContext} {error : DispatchError} :
    Recalled ledger ⟨envelope, context, .error error⟩ := by
  intro result answered
  cases answered

theorem recalled_existing {envelope : Envelope} {context : CommandContext} {receipt : CommandReceiptRecord}
    (found : findReceipt ledger (dispatchKey envelope context) = some receipt) :
    Recalled ledger ⟨envelope, context, resolveExistingReceipt receipt (canonicalRequestHash envelope)⟩ := by
  intro result answered
  obtain ⟨member, key⟩ := findReceipt_some found
  obtain ⟨hash, kept⟩ := resolveExistingReceipt_ok answered
  exact ⟨receipt, member, key, hash, kept⟩

theorem startDispatch_quiet (envelope : Envelope) (context : CommandContext) (receiptId : Uuid) :
    Quiet supported state (startDispatch supported state envelope context receiptId) := by
  unfold startDispatch
  split
  · exact quiet_answer envelope context recalled_error (List.Sublist.refl _) (List.Sublist.refl _)
  · rename_i known
    split
    · rename_i found
      exact quiet_answer envelope context (recalled_existing found) (List.Sublist.refl _) (List.Sublist.refl _)
    · refine ⟨rfl, .inl rfl, .inl (List.Sublist.refl _), fun dispatch member => ?_⟩
      rcases List.mem_append.mp member with waiting | held
      · rcases List.mem_append.mp waiting with old | new
        · exact .inl (List.mem_append_left _ old)
        · rw [List.mem_singleton.mp new]
          exact .inr (Bool.not_eq_false _ ▸ known)
      · exact .inl (List.mem_append_right _ held)

theorem insertReceipt_quiet {index : Nat} (waiting : state.looking[index]? = some dispatch)
    (accepted : insertReceipt state index dispatch = .ok next) : Quiet supported state next := by
  have fewer := List.eraseIdx_sublist state.looking index
  simp only [insertReceipt, bind_ok, raiseIf_ok, exists_unit, not_exists, not_and] at accepted
  obtain ⟨free, accepted⟩ := accepted
  split at accepted
  · rename_i inserted
    rw [← pure_ok.mp accepted]
    refine ⟨rfl, .inl rfl, .inr ⟨dispatch, rfl, free, Table.insert?_absent inserted⟩, fun other member => ?_⟩
    rcases List.mem_append.mp member with old | held
    · exact .inl (List.mem_append_left _ (fewer.subset old))
    · rcases List.mem_append.mp held with old | new
      · exact .inl (List.mem_append_right _ old)
      · rw [List.mem_singleton.mp new]
        exact .inl (List.mem_append_left _ (List.mem_of_getElem? waiting))
  · rename_i found
    rw [← pure_ok.mp accepted]
    exact quiet_answer _ _ (recalled_existing found) fewer (List.Sublist.refl _)
  · rw [← pure_ok.mp accepted]
    exact quiet_answer _ _ recalled_error fewer (List.Sublist.refl _)

theorem finishDispatch_cases {index : Nat} (held : state.inserted[index]? = some dispatch)
    (result : Transaction (σ × HandlerOutcome)) :
    Quiet supported state (finishDispatch state index dispatch draws result) ∨
      ∃ outcome, result = .ok ((finishDispatch state index dispatch draws result).ledger.business, outcome) ∧
        Commits state (finishDispatch state index dispatch draws result) index dispatch draws outcome := by
  cases completed : complete state.ledger dispatch draws result with
  | error error =>
    simp only [finishDispatch, completed]
    exact .inl (quiet_answer _ _ recalled_error (List.Sublist.refl _) (List.eraseIdx_sublist _ _))
  | ok written =>
    obtain ⟨after, body⟩ := written
    obtain ⟨outcome, found, events, outbox, receipts, rfl⟩ := complete_ok.mp completed
    simp only [finishDispatch, completed]
    exact .inr ⟨outcome, found, held, receipts, events, outbox, rfl, rfl, rfl⟩

theorem dispatchStep_cases {input : DispatchInput σ} (accepted : dispatchStep supported state input = .ok next) :
    Quiet supported state next ∨ Outside state next input ∨ ∃ index dispatch draws outcome,
      input = .finish index draws (.ok (next.ledger.business, outcome)) ∧
        Commits state next index dispatch draws outcome := by
  cases input with
  | start envelope context receiptId =>
    rw [dispatchStep, pure_ok] at accepted
    rw [← accepted]
    exact .inl (startDispatch_quiet envelope context receiptId)
  | insertReceipt index =>
    simp only [dispatchStep, bind_ok] at accepted
    obtain ⟨dispatch, waiting, accepted⟩ := accepted
    exact .inl (insertReceipt_quiet (orRaise_ok.mp waiting) accepted)
  | finish index draws result =>
    simp only [dispatchStep, bind_ok, orRaise_ok, pure_ok] at accepted
    obtain ⟨dispatch, held, rfl⟩ := accepted
    rcases finishDispatch_cases held result with quiet | ⟨outcome, found, commits⟩
    · exact .inl quiet
    · exact .inr (.inr ⟨index, dispatch, draws, outcome, by rw [← found], commits⟩)
  | foreign business =>
    rw [dispatchStep, pure_ok] at accepted
    rw [← accepted]
    exact .inr (.inl ⟨.inl ⟨business, rfl⟩, rfl, rfl, .inl rfl, rfl, rfl, rfl⟩)
  | deliver messageId status =>
    rw [dispatchStep, pure_ok] at accepted
    rw [← accepted]
    exact .inr (.inl ⟨.inr rfl, rfl, rfl, .inr ⟨_, status, rfl⟩, rfl, rfl, rfl⟩)

/-- The events a receipt answers with. -/
def CommandReceiptRecord.events (receipt : CommandReceiptRecord) : List Uuid :=
  (receipt.responseBody.map (·.eventIds)).getD []

def DomainEventRecord.facts (event : DomainEventRecord) : Uuid × Uuid × Nat × List (String × Json) :=
  (event.tenantId, event.id, event.payloadVersion, event.payload)

def OutboxMessageRecord.facts (message : OutboxMessageRecord) : Uuid × Uuid × Nat × List (String × Json) :=
  (message.tenantId, message.eventId, message.payloadVersion, message.payload)

/-- The receipts, the events and the messages move together, and the replies rest on the receipts. -/
structure Sound (supported : String → Bool) (state : DispatchState σ) : Prop where
  replied : ∀ reply ∈ state.replies, Recalled state.ledger reply
  terminal : ∀ receipt ∈ state.ledger.receipts, receipt.status = .succeeded ∧ ∃ body, receipt.responseBody = some body
  events : state.ledger.events.rows.map (·.id) = state.ledger.receipts.rows.flatMap (·.events)
  published : state.ledger.outbox.rows.map (·.facts) = state.ledger.events.rows.map (·.facts)
  apart : state.inserted.Pairwise fun first second => ¬ Schema.Conflict first.receipt second.receipt
  free : ∀ dispatch ∈ state.inserted, ∀ receipt ∈ state.ledger.receipts, ¬ Schema.Conflict receipt dispatch.receipt
  known : (∀ receipt ∈ state.ledger.receipts, supported receipt.commandType = true) ∧
    ∀ dispatch ∈ state.open, supported dispatch.envelope.commandType = true

theorem sound_initial (business : σ) : Sound supported (DispatchState.initial business) :=
  ⟨fun _ member => absurd member List.not_mem_nil, fun _ member => absurd member List.not_mem_nil, rfl, rfl,
    List.Pairwise.nil, fun _ member => absurd member List.not_mem_nil,
    fun _ member => absurd member List.not_mem_nil, fun _ member => absurd member List.not_mem_nil⟩

theorem Quiet.sound (quiet : Quiet supported state next) (sound : Sound supported state) : Sound supported next := by
  have recalled : ∀ reply ∈ next.replies, Recalled state.ledger reply := by
    rcases quiet.replies with same | ⟨reply, same, recalled⟩
    · rw [same]
      exact sound.replied
    · intro other member
      rw [same] at member
      rcases List.mem_append.mp member with old | new
      · exact sound.replied other old
      · rw [List.mem_singleton.mp new]
        exact recalled
  have known : ∀ dispatch ∈ next.open, supported dispatch.envelope.commandType = true := by
    intro dispatch member
    rcases quiet.known dispatch member with old | new
    · exact sound.known.2 dispatch old
    · exact new
  have held : next.inserted.Pairwise (fun first second => ¬ Schema.Conflict first.receipt second.receipt) ∧
      ∀ dispatch ∈ next.inserted, ∀ receipt ∈ state.ledger.receipts, ¬ Schema.Conflict receipt dispatch.receipt := by
    rcases quiet.inserted with fewer | ⟨dispatch, same, others, receipts⟩
    · exact ⟨sound.apart.sublist fewer, fun dispatch member => sound.free dispatch (fewer.subset member)⟩
    · rw [same]
      refine ⟨List.pairwise_append.mpr ⟨sound.apart, List.pairwise_singleton _ _, ?_⟩, ?_⟩
      · intro other member last new
        rw [List.mem_singleton.mp new]
        exact others other member
      · intro other member
        rcases List.mem_append.mp member with old | new
        · exact sound.free other old
        · rw [List.mem_singleton.mp new]
          exact receipts
  obtain ⟨apart, free⟩ := held
  refine ⟨?_, ?_, ?_, ?_, apart, ?_, ?_, known⟩
  all_goals rw [quiet.ledger]
  · exact recalled
  · exact sound.terminal
  · exact sound.events
  · exact sound.published
  · exact free
  · exact sound.known.1

theorem delivered_facts (query : OutboxMessageRecord → Bool) (status : OutboxStatus)
    (messages : Table OutboxMessageRecord) :
    (messages.update query (delivered status) (delivered_columns status)).rows.map (·.facts) =
      messages.rows.map (·.facts) := by
  rw [Table.update, List.map_map]
  refine List.map_congr_left fun message _ => ?_
  rw [Function.comp_apply]
  split <;> rfl

theorem Outside.sound {input : DispatchInput σ} (outside : Outside state next input) (sound : Sound supported state) : Sound supported next := by
  have published : next.ledger.outbox.rows.map (·.facts) = state.ledger.outbox.rows.map (·.facts) := by
    rcases outside.outbox with same | ⟨query, status, same⟩
    · rw [same]
    · rw [same]
      exact delivered_facts query status _
  have opened : next.open = state.open := by
    rw [DispatchState.open, outside.looking, outside.inserted, DispatchState.open]
  refine ⟨?_, ?_, ?_, ?_, ?_, ?_, ?_, ?_⟩
  · rw [outside.replies]
    unfold Recalled
    rw [outside.receipts]
    exact sound.replied
  · rw [outside.receipts]
    exact sound.terminal
  · rw [outside.receipts, outside.events]
    exact sound.events
  · rw [published, outside.events]
    exact sound.published
  · rw [outside.inserted]
    exact sound.apart
  · rw [outside.receipts, outside.inserted]
    exact sound.free
  · rw [outside.receipts]
    exact sound.known.1
  · rw [opened]
    exact sound.known.2

variable {index : Nat} {outcome : HandlerOutcome}

theorem Commits.receipt_mem (commits : Commits state next index dispatch draws outcome)
    {receipt : CommandReceiptRecord} : receipt ∈ next.ledger.receipts ↔
      receipt ∈ state.ledger.receipts ∨ receipt = dispatch.completed (response dispatch outcome draws) :=
  Table.mem_insert? commits.receipts

theorem Recalled.grow {reply : Reply} {later : Ledger σ} (recalled : Recalled ledger reply)
    (kept : ∀ receipt ∈ ledger.receipts, receipt ∈ later.receipts) : Recalled later reply := by
  intro result answered
  obtain ⟨receipt, member, facts⟩ := recalled result answered
  exact ⟨receipt, kept receipt member, facts⟩

theorem Commits.sound (commits : Commits state next index dispatch draws outcome) (sound : Sound supported state) :
    Sound supported next := by
  have held : dispatch ∈ state.inserted := List.mem_of_getElem? commits.held
  have fewer : next.inserted.Sublist state.inserted := commits.inserted ▸ List.eraseIdx_sublist _ _
  have messages := Table.insertAll?_rows commits.outbox
  have facts := Table.insertAll?_rows commits.events
  refine ⟨?_, ?_, ?_, ?_, sound.apart.sublist fewer, ?_, ?_, ?_⟩
  · intro reply member
    rw [commits.replies] at member
    rcases List.mem_append.mp member with old | new
    · exact (sound.replied reply old).grow fun receipt stored => commits.receipt_mem.mpr (.inl stored)
    · rw [List.mem_singleton.mp new]
      intro result answered
      rw [← Except.ok.inj answered]
      exact ⟨_, commits.receipt_mem.mpr (.inr rfl), rfl, rfl, rfl⟩
  · intro receipt member
    rcases commits.receipt_mem.mp member with old | rfl
    · exact sound.terminal receipt old
    · exact ⟨rfl, _, rfl⟩
  · have drawn : (outcome.events.mapIdx fun index event => eventRecord dispatch (draws.event index) event).map
        (·.id) = (dispatch.completed (response dispatch outcome draws)).events := mapIdx_map _ _ _
    rw [facts, Table.insert?_rows commits.receipts, List.map_append, List.flatMap_append, sound.events, drawn,
      List.flatMap_singleton]
  · have same : (outcome.events.mapIdx fun index event =>
        outboxMessage dispatch (draws.event index) (draws.message index) event).map (·.facts) =
        (outcome.events.mapIdx fun index event => eventRecord dispatch (draws.event index) event).map (·.facts) := by
      rw [mapIdx_map, mapIdx_map]
      rfl
    rw [messages, facts, List.map_append, List.map_append, sound.published, same]
  · intro other member receipt stored
    rcases commits.receipt_mem.mp stored with old | rfl
    · exact sound.free other (fewer.subset member) receipt old
    · rw [commits.inserted, List.mem_eraseIdx_iff_getElem] at member
      obtain ⟨position, inside, different, rfl⟩ := member
      obtain ⟨bound, rfl⟩ := List.getElem?_eq_some_iff.mp commits.held
      have pairwise := List.pairwise_iff_getElem.mp sound.apart
      intro conflict
      rcases Nat.lt_or_gt_of_ne different with before | after
      · exact pairwise position index inside bound before (Schema.symm conflict)
      · exact pairwise index position bound inside after conflict
  · intro receipt member
    rcases commits.receipt_mem.mp member with old | rfl
    · exact sound.known.1 receipt old
    · exact sound.known.2 dispatch (List.mem_append_right _ held)
  · intro other member
    rw [DispatchState.open, commits.looking] at member
    exact sound.known.2 other ((List.Sublist.refl _).append fewer |>.subset member)

theorem dispatchStep_sound {input : DispatchInput σ} (sound : Sound supported state)
    (accepted : dispatchStep supported state input = .ok next) : Sound supported next := by
  rcases dispatchStep_cases accepted with quiet | outside | ⟨_, _, _, _, _, commits⟩
  · exact quiet.sound sound
  · exact outside.sound sound
  · exact commits.sound sound

theorem run_sound (business : σ) (inputs : List (DispatchInput σ)) :
    Sound supported (run (dispatchStep supported) (.initial business) inputs) :=
  run_invariant_always (fun _ _ _ sound accepted => dispatchStep_sound sound accepted) inputs
    (sound_initial business)

/-- The input commits the effects of a handler under a key. -/
def commitsUnder (key : DispatchKey) (state : DispatchState σ) : DispatchInput σ → Bool
  | .finish index draws result => state.inserted[index]?.any fun dispatch =>
      dispatch.key = key && (complete state.ledger dispatch draws result).isOk
  | _ => false

def receiptsUnder (key : DispatchKey) (state : DispatchState σ) : Nat :=
  (state.ledger.receipts.rows.filter fun receipt => receipt.key = key).length

theorem receiptsUnder_le_one (key : DispatchKey) (state : DispatchState σ) : receiptsUnder key state ≤ 1 := by
  unfold receiptsUnder
  cases found : state.ledger.receipts.rows.filter fun receipt => receipt.key = key with
  | nil => simp
  | cons receipt rest =>
    have member : receipt ∈ state.ledger.receipts.rows.filter fun receipt => receipt.key = key := by
      rw [found]
      exact List.mem_cons_self
    obtain ⟨stored, matched⟩ := List.mem_filter.mp member
    have single : state.ledger.receipts.rows.filter (fun receipt => receipt.key = key) = [receipt] := by
      refine Table.filter_key ?_ stored matched
      intro first second hf hs
      rw [decide_eq_true_eq] at hf hs
      obtain ⟨tenant, rest⟩ := Prod.mk.inj (hf.trans hs.symm)
      exact .inr ⟨tenant, .inl rest⟩
    rw [found] at single
    rw [single]
    simp

theorem receiptsUnder_finish (key : DispatchKey) (index : Nat) (dispatch : OpenDispatch) (draws : Draws)
    (result : Transaction (σ × HandlerOutcome)) :
    receiptsUnder key (finishDispatch state index dispatch draws result) = receiptsUnder key state +
      if dispatch.key = key ∧ (complete state.ledger dispatch draws result).isOk = true then 1 else 0 := by
  cases completed : complete state.ledger dispatch draws result with
  | error error =>
    have failed : ¬ (dispatch.key = key ∧ (Except.error error :
        Transaction (Ledger σ × ResponseBody)).isOk = true) := fun accepted => Bool.false_ne_true accepted.2
    rw [if_neg failed, finishDispatch, completed]
    rfl
  | ok written =>
    obtain ⟨after, body⟩ := written
    obtain ⟨outcome, _, _, _, receipts, _⟩ := complete_ok.mp completed
    have added := Table.filter_insert? receipts fun receipt => receipt.key = key
    have keyed : (dispatch.completed (response dispatch outcome draws)).key = dispatch.key := rfl
    have lengths := congrArg List.length added
    rw [List.length_append, keyed] at lengths
    rw [finishDispatch, completed]
    refine Eq.trans lengths ?_
    by_cases same : dispatch.key = key
    · simp [receiptsUnder, same, Except.isOk, Except.toBool]
    · simp [receiptsUnder, same]

/-- A step adds a receipt under a key exactly when it commits the effects of a handler under it. -/
theorem receiptsUnder_commit (key : DispatchKey) (state : DispatchState σ) (input : DispatchInput σ) :
    receiptsUnder key (commit (dispatchStep supported) state input) =
      receiptsUnder key state + if commitsUnder key state input then 1 else 0 := by
  cases input with
  | start envelope context receiptId =>
    have quiet : Quiet supported state (startDispatch supported state envelope context receiptId) :=
      startDispatch_quiet envelope context receiptId
    exact congrArg (fun ledger : Ledger σ => (ledger.receipts.rows.filter fun receipt => receipt.key = key).length)
      quiet.ledger
  | insertReceipt index =>
    rcases commit_cases (dispatchStep supported) state (.insertReceipt index) with accepted | refused
    · have quiet := accepted
      simp only [dispatchStep, bind_ok, orRaise_ok] at quiet
      obtain ⟨dispatch, waiting, quiet⟩ := quiet
      have same : Quiet supported state (commit (dispatchStep supported) state (.insertReceipt index)) :=
        insertReceipt_quiet waiting quiet
      exact congrArg (fun ledger : Ledger σ =>
        (ledger.receipts.rows.filter fun receipt => receipt.key = key).length) same.ledger
    · rw [refused]
      rfl
  | finish index draws result =>
    cases held : state.inserted[index]? with
    | none =>
      have refused : dispatchStep supported state (.finish index draws result) = .error .noDispatch := by
        rw [dispatchStep, held]
        rfl
      rw [commit_error refused, commitsUnder, held]
      rfl
    | some dispatch =>
      have accepted : dispatchStep supported state (.finish index draws result) =
          .ok (finishDispatch state index dispatch draws result) := by
        rw [dispatchStep, held]
        rfl
      rw [commit_ok accepted, receiptsUnder_finish key index dispatch draws, commitsUnder, held]
      simp
  | foreign business => rfl
  | deliver messageId status => rfl

theorem commitsUnder_of_commits {result : Transaction (σ × HandlerOutcome)} {business : σ}
    (found : result = .ok (business, outcome)) (commits : Commits state next index dispatch draws outcome) :
    commitsUnder dispatch.key state (.finish index draws result) = true := by
  have completed : complete state.ledger dispatch draws result = .ok (⟨next.ledger.receipts, next.ledger.events,
      next.ledger.outbox, business⟩, response dispatch outcome draws) :=
    complete_ok.mpr ⟨outcome, found, commits.events, commits.outbox, commits.receipts, rfl⟩
  rw [commitsUnder, commits.held, Option.any_some, completed, decide_eq_true rfl]
  rfl

/-- The dispatch an input carries on. -/
def presents (state : DispatchState σ) : DispatchInput σ → Option (Envelope × CommandContext)
  | .start envelope context _ => some (envelope, context)
  | .insertReceipt index => state.looking[index]?.map fun dispatch => (dispatch.envelope, dispatch.context)
  | .finish index _ _ => state.inserted[index]?.map fun dispatch => (dispatch.envelope, dispatch.context)
  | _ => none

theorem existing_reused {receipt : CommandReceiptRecord} (stored : receipt ∈ ledger.receipts) {envelope : Envelope}
    {context : CommandContext} (key : receipt.key = dispatchKey envelope context)
    (different : receipt.requestHash ≠ canonicalRequestHash envelope) :
    ∃ other, findReceipt ledger (dispatchKey envelope context) = some other ∧
      resolveExistingReceipt other (canonicalRequestHash envelope) = .error .idempotencyKeyReused :=
  ⟨receipt, key ▸ findReceipt_of_mem stored, resolveExistingReceipt_reused different⟩

/-- A dispatch whose key is taken by another request is told so and changes nothing. -/
theorem Sound.keyReused (sound : Sound supported state) {input : DispatchInput σ} {envelope : Envelope}
    {context : CommandContext} (presented : presents state input = some (envelope, context))
    {receipt : CommandReceiptRecord} (stored : receipt ∈ state.ledger.receipts)
    (key : receipt.key = dispatchKey envelope context)
    (different : receipt.requestHash ≠ canonicalRequestHash envelope)
    (accepted : dispatchStep supported state input = .ok next) : next.ledger = state.ledger ∧
      next.replies = state.replies ++ [⟨envelope, context, .error .idempotencyKeyReused⟩] := by
  obtain ⟨other, found, reused⟩ := existing_reused stored key different
  cases input with
  | start submitted actor receiptId =>
    obtain ⟨rfl, rfl⟩ := Prod.mk.inj (Option.some.inj presented)
    have known : supported submitted.commandType = true := by
      have sameType : receipt.commandType = submitted.commandType := (Prod.mk.inj (Prod.mk.inj (Prod.mk.inj key).2).2).1
      exact sameType ▸ sound.known.1 receipt stored
    rw [dispatchStep, pure_ok, startDispatch, if_neg (by rw [known]; exact Bool.noConfusion), found] at accepted
    rw [← accepted]
    exact ⟨rfl, by simp only [DispatchState.answer, reused]⟩
  | insertReceipt index =>
    simp only [dispatchStep, bind_ok, orRaise_ok] at accepted
    obtain ⟨dispatch, waiting, accepted⟩ := accepted
    rw [presents, waiting] at presented
    obtain ⟨rfl, rfl⟩ := Prod.mk.inj (Option.some.inj presented)
    have clash : state.ledger.receipts.insert? dispatch.receipt = none := by
      cases inserted : state.ledger.receipts.insert? dispatch.receipt with
      | none => rfl
      | some table =>
        obtain ⟨tenant, rest⟩ := Prod.mk.inj key
        exact absurd (.inr ⟨tenant, .inl rest⟩) (Table.insert?_absent inserted receipt stored)
    have sought : findReceipt state.ledger dispatch.key = some other := found
    simp only [insertReceipt, clash, sought, bind_ok, raiseIf_ok, exists_unit, reused, pure_ok] at accepted
    rw [← accepted.2]
    exact ⟨rfl, rfl⟩
  | finish index draws result =>
    simp only [dispatchStep, bind_ok, orRaise_ok] at accepted
    obtain ⟨dispatch, held, _⟩ := accepted
    rw [presents, held] at presented
    obtain ⟨rfl, rfl⟩ := Prod.mk.inj (Option.some.inj presented)
    obtain ⟨tenant, rest⟩ := Prod.mk.inj key
    exact absurd (.inr ⟨tenant, .inl rest⟩) (sound.free dispatch (List.mem_of_getElem? held) receipt stored)
  | foreign business => cases presented
  | deliver messageId status => cases presented

/-- An error reply changes nothing. -/
theorem error_keeps {input : DispatchInput σ} (accepted : dispatchStep supported state input = .ok next)
    {reply : Reply} (told : next.replies = state.replies ++ [reply]) {error : DispatchError}
    (failed : reply.answer = .error error) : next.ledger = state.ledger := by
  rcases dispatchStep_cases accepted with quiet | outside | ⟨_, _, _, _, _, commits⟩
  · exact quiet.ledger
  · have lengths := congrArg List.length (outside.replies.symm.trans told)
    rw [List.length_append, List.length_singleton] at lengths
    omega
  · have same := List.append_inj' (commits.replies.symm.trans told) rfl
    rw [← List.head_eq_of_cons_eq same.2] at failed
    cases failed

end Steps

/-- What a run of dispatches guarantees, in every interleaving of their phases. -/
structure ExactlyOnce {σ : Type} (supported : String → Bool) (business : σ) (inputs : List (DispatchInput σ)) :
    Prop where
  /-- The effects of a handler are committed at most once under a key, -/
  atMostOnce : ∀ key, tally (dispatchStep supported) (commitsUnder key) (.initial business) inputs ≤ 1
  /-- and the dispatcher commits no other effect. -/
  effects : ∀ first input, first ++ [input] <+: inputs →
    (∃ written, input = .foreign written) ∨
      (∃ key, commitsUnder key (run (dispatchStep supported) (.initial business) first) input = true) ∨
      (run (dispatchStep supported) (.initial business) (first ++ [input])).ledger.business =
        (run (dispatchStep supported) (.initial business) first).ledger.business
  /-- Successful dispatches with a key are told the same response. -/
  sameResponse : ∀ one ∈ (run (dispatchStep supported) (.initial business) inputs).replies,
    ∀ other ∈ (run (dispatchStep supported) (.initial business) inputs).replies, one.key = other.key →
    ∀ first second, one.answer = .ok first → other.answer = .ok second →
      first.toResponseBody = second.toResponseBody
  keyReused : ∀ input envelope context next receipt,
    presents (run (dispatchStep supported) (.initial business) inputs) input = some (envelope, context) →
    receipt ∈ (run (dispatchStep supported) (.initial business) inputs).ledger.receipts →
    receipt.key = dispatchKey envelope context → receipt.requestHash ≠ canonicalRequestHash envelope →
    dispatchStep supported (run (dispatchStep supported) (.initial business) inputs) input = .ok next →
      next.ledger = (run (dispatchStep supported) (.initial business) inputs).ledger ∧
        next.replies = (run (dispatchStep supported) (.initial business) inputs).replies ++
          [⟨envelope, context, .error .idempotencyKeyReused⟩]
  rolledBack : ∀ input next reply error,
    dispatchStep supported (run (dispatchStep supported) (.initial business) inputs) input = .ok next →
    next.replies = (run (dispatchStep supported) (.initial business) inputs).replies ++ [reply] →
    reply.answer = .error error →
      next.ledger = (run (dispatchStep supported) (.initial business) inputs).ledger
  terminal : ∀ receipt ∈ (run (dispatchStep supported) (.initial business) inputs).ledger.receipts,
    receipt.status = .succeeded
  /-- The committed events are those the receipts answer with, and each has its one message. -/
  together : (run (dispatchStep supported) (.initial business) inputs).ledger.events.rows.map (·.id) =
    (run (dispatchStep supported) (.initial business) inputs).ledger.receipts.rows.flatMap (·.events) ∧
    (run (dispatchStep supported) (.initial business) inputs).ledger.outbox.rows.map (·.facts) =
      (run (dispatchStep supported) (.initial business) inputs).ledger.events.rows.map (·.facts)

theorem dispatch_exactlyOnce {σ : Type} (supported : String → Bool) (business : σ)
    (inputs : List (DispatchInput σ)) : ExactlyOnce supported business inputs := by
  have sound : Sound supported (run (dispatchStep supported) (.initial business) inputs) := run_sound business inputs
  refine ⟨?_, ?_, ?_, ?_, ?_, fun receipt member => (sound.terminal receipt member).1, sound.events, sound.published⟩
  · intro key
    have counted : receiptsUnder key (run (dispatchStep supported) (.initial business) inputs) =
        receiptsUnder key (DispatchState.initial business) +
          tally (dispatchStep supported) (commitsUnder key) (.initial business) inputs :=
      run_tally (receiptsUnder key) (receiptsUnder_commit key)
    have bound := receiptsUnder_le_one key (run (dispatchStep supported) (.initial business) inputs)
    omega
  · intro first input _
    rw [run_append]
    rcases commit_cases (dispatchStep supported) (run (dispatchStep supported) (.initial business) first) input with
      accepted | refused
    · rcases dispatchStep_cases accepted with quiet | outside | ⟨_, dispatch, _, _, found, commits⟩
      · exact .inr (.inr (congrArg Ledger.business quiet.ledger))
      · rcases outside.business with foreign | same
        · exact .inl foreign
        · exact .inr (.inr same)
      · rw [run_cons, run_nil, found]
        exact .inr (.inl ⟨dispatch.key, commitsUnder_of_commits rfl commits⟩)
    · exact .inr (.inr (by rw [run_cons, refused, run_nil]))
  · intro one member other another same first second hf hs
    obtain ⟨receipt, stored, key, _, body⟩ := sound.replied one member first hf
    obtain ⟨twin, kept, twinKey, _, twinBody⟩ := sound.replied other another second hs
    have equal : receipt = twin := receipt_eq_of_key stored kept (key.trans (same.trans twinKey.symm))
    rw [equal, twinBody] at body
    exact (Option.some.inj body).symm
  · exact fun input envelope context next receipt presented stored key different accepted =>
      sound.keyReused presented stored key different accepted
  · exact fun input next reply error accepted told failed => error_keeps accepted told failed

end SmartAo.Platform
