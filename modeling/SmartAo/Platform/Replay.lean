import SmartAo.Platform.ExactlyOnce

namespace SmartAo.Platform

open SmartAo.Foundation

variable {σ : Type} {supported : String → Bool} {ledger next : Ledger σ} {envelope : Envelope}
  {context : CommandContext} {receiptId : Uuid} {draws : Draws} {execute : σ → Transaction (σ × HandlerOutcome)}
  {result : DispatchResult} {receipt : CommandReceiptRecord}

/-- A dispatch that executes its handler, alone. -/
structure Executes (ledger next : Ledger σ) (dispatch : OpenDispatch) (draws : Draws)
    (execute : σ → Transaction (σ × HandlerOutcome)) (outcome : HandlerOutcome) : Prop where
  absent : findReceipt ledger dispatch.key = none
  free : ∀ receipt ∈ ledger.receipts, ¬ Schema.Conflict receipt dispatch.receipt
  executed : execute ledger.business = .ok (next.business, outcome)
  events : ledger.events.insertAll? (outcome.events.mapIdx fun index event =>
    eventRecord dispatch (draws.event index) event) = some next.events
  outbox : ledger.outbox.insertAll? (outcome.events.mapIdx fun index event =>
    outboxMessage dispatch (draws.event index) (draws.message index) event) = some next.outbox
  receipts : ledger.receipts.insert? (dispatch.completed (response dispatch outcome draws)) = some next.receipts

/-- A dispatch that runs alone replays a receipt or executes its handler. -/
theorem dispatchAlone_ok (known : supported envelope.commandType = true) :
    dispatchAlone supported ledger envelope context receiptId draws execute = .ok (result, next) ↔
      (∃ receipt, findReceipt ledger (dispatchKey envelope context) = some receipt ∧
        resolveExistingReceipt receipt (canonicalRequestHash envelope) = .ok result ∧ next = ledger) ∨
      ∃ outcome, Executes ledger next ⟨envelope, context, receiptId⟩ draws execute outcome ∧
        result = { response ⟨envelope, context, receiptId⟩ outcome draws with replayed := false } := by
  have supports : ¬ supported envelope.commandType = false := by
    rw [known]
    exact Bool.noConfusion
  unfold dispatchAlone
  rw [bind_of_ok (raiseIf_pass supports)]
  cases found : findReceipt ledger (dispatchKey envelope context) with
  | some receipt =>
    simp only [bind_ok, pure_ok, Prod.mk.injEq, Option.some.injEq, exists_eq_left']
    constructor
    · rintro ⟨_, resolved, rfl, rfl⟩
      exact .inl ⟨resolved, rfl⟩
    · rintro (⟨resolved, rfl⟩ | ⟨outcome, executes, _⟩)
      · exact ⟨result, resolved, rfl, rfl⟩
      · exact absurd (found.symm.trans executes.absent) (by simp)
  | none =>
    have mapped : ∀ computation : Transaction (Ledger σ × ResponseBody), ∀ after body,
        computation.mapError DispatchError.command = .ok (after, body) ↔ computation = .ok (after, body) := by
      intro computation after body
      cases computation <;> simp [Except.mapError]
    simp only [bind_ok, orRaise_ok, pure_ok, Prod.exists, Prod.mk.injEq, mapped, complete_ok, reduceCtorEq,
      false_and, exists_false, false_or]
    constructor
    · rintro ⟨_, inserted, _, body, ⟨outcome, executed, events, outbox, receipts, rfl⟩, rfl, rfl⟩
      exact ⟨outcome, ⟨found, Table.insert?_absent inserted, executed, events, outbox, receipts⟩, rfl⟩
    · rintro ⟨outcome, executes, rfl⟩
      obtain ⟨inserted, stored⟩ := Option.isSome_iff_exists.mp (Table.insert?_isSome.mpr executes.free)
      exact ⟨inserted, stored, next, _, ⟨outcome, executes.executed, executes.events, executes.outbox,
        executes.receipts, rfl⟩, rfl, rfl⟩

theorem dispatchAlone_reused (known : supported envelope.commandType = true)
    (found : findReceipt ledger (dispatchKey envelope context) = some receipt)
    (different : receipt.requestHash ≠ canonicalRequestHash envelope) :
    dispatchAlone supported ledger envelope context receiptId draws execute = .error .idempotencyKeyReused := by
  have supports : ¬ supported envelope.commandType = false := by
    rw [known]
    exact Bool.noConfusion
  unfold dispatchAlone
  rw [bind_of_ok (raiseIf_pass supports), found]
  exact bind_of_error (resolveExistingReceipt_reused different)

theorem Executes.receipt_mem {dispatch : OpenDispatch} {outcome : HandlerOutcome}
    (executes : Executes ledger next dispatch draws execute outcome) :
    dispatch.completed (response dispatch outcome draws) ∈ next.receipts :=
  (Table.mem_insert? executes.receipts).mpr (.inr rfl)

/-- A dispatch that was answered has its receipt, with the hash of its request. -/
theorem dispatchAlone_recorded (known : supported envelope.commandType = true)
    (accepted : dispatchAlone supported ledger envelope context receiptId draws execute = .ok (result, next)) :
    ∃ receipt, findReceipt next (dispatchKey envelope context) = some receipt ∧
      receipt.requestHash = canonicalRequestHash envelope ∧ receipt.responseBody = some result.toResponseBody ∧
      (receipt.status = .succeeded ∨ next = ledger) := by
  rcases (dispatchAlone_ok known).mp accepted with ⟨receipt, found, resolved, rfl⟩ | ⟨outcome, executes, rfl⟩
  · obtain ⟨hash, body⟩ := resolveExistingReceipt_ok resolved
    exact ⟨receipt, found, hash, body, .inr rfl⟩
  · exact ⟨_, findReceipt_of_mem executes.receipt_mem, rfl, rfl, .inl rfl⟩

/-- Two dispatches under different keys and identifiers. -/
structure OpenDispatch.Apart (first second : OpenDispatch) (drawn draws : Draws) : Prop where
  key : first.key ≠ second.key
  receipt : ¬ Schema.Conflict first.receipt second.receipt
  event : ∀ one other, drawn.event one ≠ draws.event other
  message : ∀ one other, drawn.message one ≠ draws.message other

theorem insertAll?_grown {ρ : Type} [Schema ρ] {table grown after : Table ρ} {more rows : List ρ}
    (inserted : table.insertAll? rows = some after) (added : table.insertAll? more = some grown)
    (apart : ∀ first ∈ more, ∀ second ∈ rows, ¬ Schema.Conflict first second) :
    ∃ both, grown.insertAll? rows = some both := by
  obtain ⟨free, distinct⟩ := Table.insertAll?_isSome.mp (Option.isSome_iff_exists.mpr ⟨after, inserted⟩)
  refine Option.isSome_iff_exists.mp (Table.insertAll?_isSome.mpr ⟨fun stored member => ?_, distinct⟩)
  rcases (Table.mem_insertAll? added).mp member with old | new
  · exact free stored old
  · exact apart stored new

theorem dispatchAlone_known
    (accepted : dispatchAlone supported ledger envelope context receiptId draws execute = .ok (result, next)) :
    supported envelope.commandType = true := by
  unfold dispatchAlone at accepted
  obtain ⟨_, passes, _⟩ := bind_ok.mp accepted
  exact Bool.eq_true_of_not_eq_false (raiseIf_ok.mp passes)

/-- A dispatch is answered after another one as it would have been before it, when its handler agrees. -/
theorem dispatchAlone_after {first : OpenDispatch} {drawn : Draws} {earlier : HandlerOutcome}
    {before : σ → Transaction (σ × HandlerOutcome)} {after : Ledger σ} {agree : σ → σ → Prop}
    (executes : Executes ledger next first drawn before earlier)
    (accepted : dispatchAlone supported ledger envelope context receiptId draws execute = .ok (result, after))
    (apart : first.Apart ⟨envelope, context, receiptId⟩ drawn draws)
    (same : ∀ business outcome, execute ledger.business = .ok (business, outcome) →
      ∃ later, execute next.business = .ok (later, outcome) ∧ agree business later)
    (kept : agree ledger.business next.business) :
    ∃ whole, dispatchAlone supported next envelope context receiptId draws execute = .ok (result, whole) ∧
      agree after.business whole.business := by
  have known := dispatchAlone_known accepted
  have grown := Table.insert?_rows executes.receipts
  have lookup : findReceipt next (dispatchKey envelope context) = findReceipt ledger (dispatchKey envelope context) := by
    have other : ¬ (first.completed (response first earlier drawn)).key = dispatchKey envelope context := apart.key
    rw [findReceipt, findReceipt, Table.find?, Table.find?, grown, List.find?_append, List.find?_singleton,
      decide_eq_false other]
    simp
  rcases (dispatchAlone_ok known).mp accepted with ⟨receipt, found, resolved, rfl⟩ | ⟨outcome, runs, rfl⟩
  · exact ⟨next, (dispatchAlone_ok known).mpr (.inl ⟨receipt, lookup.trans found, resolved, rfl⟩), kept⟩
  · obtain ⟨business, executed, agreed⟩ := same _ _ runs.executed
    obtain ⟨events, facts⟩ := insertAll?_grown runs.events executes.events (by
      intro one hf other hs conflict
      obtain ⟨i, _, rfl⟩ := List.mem_mapIdx.mp hf
      obtain ⟨j, _, rfl⟩ := List.mem_mapIdx.mp hs
      exact apart.event i j conflict)
    obtain ⟨outbox, messages⟩ := insertAll?_grown runs.outbox executes.outbox (by
      intro one hf other hs conflict
      obtain ⟨i, _, rfl⟩ := List.mem_mapIdx.mp hf
      obtain ⟨j, _, rfl⟩ := List.mem_mapIdx.mp hs
      rcases conflict with id | keys
      · exact apart.message i j id
      · exact apart.event i j (Prod.mk.inj keys).1)
    have free : ∀ stored ∈ next.receipts, ¬ Schema.Conflict stored (OpenDispatch.receipt ⟨envelope, context, receiptId⟩) := by
      intro stored member
      rcases (Table.mem_insert? executes.receipts).mp member with old | rfl
      · exact runs.free stored old
      · exact apart.receipt
    obtain ⟨receipts, stored⟩ : ∃ receipts, next.receipts.insert? (OpenDispatch.completed ⟨envelope, context, receiptId⟩
        (response ⟨envelope, context, receiptId⟩ outcome draws)) = some receipts :=
      Option.isSome_iff_exists.mp (Table.insert?_isSome.mpr free)
    exact ⟨⟨receipts, events, outbox, business⟩, (dispatchAlone_ok known).mpr (.inr ⟨outcome,
      ⟨lookup.trans runs.absent, free, executed, facts, messages, stored⟩, rfl⟩), agreed⟩

end SmartAo.Platform
