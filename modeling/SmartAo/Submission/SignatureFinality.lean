import SmartAo.Submission.Signature

namespace SmartAo.Submission

open SmartAo.Foundation SmartAo.Platform

variable {appendOnly : Bool} {view : Nat → SignatureStore} {store next old new : SignatureStore}
  {context : CommandContext} {session : Session SignatureStore SignatureCommand}

/-- The table refuses updates, or the signature that a callback read is still the stored one. -/
def Current (appendOnly : Bool) (session : Session SignatureStore SignatureCommand) (store : SignatureStore) : Prop :=
  appendOnly = true ∨ match session.command with
    | .request _ _ => True
    | .record command context => (session.view store 0).signature context.tenantId command.signatureId =
      store.signature context.tenantId command.signatureId

instance (session : Session SignatureStore SignatureCommand) (store : SignatureStore) :
    Decidable (Current appendOnly session store) := by
  unfold Current
  cases session.command <;> infer_instance

/-- A signature that a callback has recorded is finalized, by one event. -/
structure Recorded (store : SignatureStore) : Prop where
  single : ∀ signatureId, (recordedEvents store signatureId).length ≤ 1
  final : ∀ signatureId, recordedEvents store signatureId ≠ [] →
    ∃ record ∈ store.signatures, record.id = signatureId ∧ record.status ≠ .requested

/-- What a transaction that finishes does to signatures and events. -/
inductive Finishes (session : Session SignatureStore SignatureCommand) (store next : SignatureStore) : Prop where
  | requested (record : SubmissionSignatureRecord) (status : record.status = .requested)
      (other : ∀ signatureId, session.command.callbackOf signatureId = false)
      (inserted : store.signatures.insert? record = some next.signatures)
      (events : ∀ signatureId, recordedEvents next signatureId = recordedEvents store signatureId)
  | recorded (command : RecordSubmissionSignatureCommand) (context : CommandContext)
      (record : SubmissionSignatureRecord) (callback : session.command = .record command context)
      (read : (session.view store 0).signature context.tenantId command.signatureId = some record)
      (pending : record.status = .requested)
      (signatures : next.signatures = store.signatures.update (fun row => row.id = record.id) (finalized command)
        (finalized_columns command))
      (events : ∀ signatureId, (recordedEvents next signatureId).length =
        (recordedEvents store signatureId).length + if command.signatureId = signatureId then 1 else 0)

theorem finishSignature_finishes (accepted : finishSignature appendOnly session store = .ok next) :
    Finishes session store next ∧ ((∃ command context, session.command = .record command context) → appendOnly = false) := by
  unfold finishSignature at accepted
  split at accepted
  · rename_i command context same
    obtain ⟨⟨written, outcome⟩, handled, rfl⟩ := except_map_ok.mp accepted
    simp only [requestSignature, bind_ok, raiseIf_ok, exists_unit, orRaise_ok, pure_ok, flush, Prod.mk.injEq] at handled
    obtain ⟨package, _, _, signatures, inserted, rfl, rfl⟩ := handled
    refine ⟨.requested _ rfl (fun _ => by rw [same]; rfl) inserted fun signatureId => ?_, ?_⟩
    · simp [recordedEvents, published, signatureOutcome]
    · rintro ⟨_, _, other⟩
      rw [same] at other
      cases other
  · rename_i command context same
    obtain ⟨⟨written, outcome⟩, handled, rfl⟩ := except_map_ok.mp accepted
    simp only [recordSignature, bind_ok, raiseIf_ok, exists_unit, orRaise_ok, pure_ok, Prod.mk.injEq,
      Decidable.not_not, Bool.not_eq_true] at handled
    obtain ⟨record, read, _, pending, mutable, rfl, rfl⟩ := handled
    have named := Table.find?_query read
    simp only [decide_eq_true_eq] at named
    refine ⟨.recorded command context record same read pending rfl fun signatureId => ?_, fun _ => mutable⟩
    by_cases its : command.signatureId = signatureId
    · simp [recordedEvents, published, signatureOutcome, named.2, its]
    · simp [recordedEvents, published, signatureOutcome, named.2, its]

theorem KeepsFinalized.refl (store : SignatureStore) : KeepsFinalized store store := fun _ member _ => member

theorem KeepsFinalized.trans {first second third : SignatureStore} (before : KeepsFinalized first second)
    (after : KeepsFinalized second third) : KeepsFinalized first third :=
  fun record member finalized => after record (before record member finalized) finalized

/-- A callback that commits finalizes the stored signature, which was REQUESTED. -/
theorem current_read {command : RecordSubmissionSignatureCommand} {record : SubmissionSignatureRecord}
    (callback : session.command = .record command context)
    (read : (session.view store 0).signature context.tenantId command.signatureId = some record)
    (mutable : appendOnly = false) (current : Current appendOnly session store) :
    record ∈ store.signatures ∧ record.id = command.signatureId := by
  unfold Current at current
  rw [callback, mutable] at current
  have stored : store.signature context.tenantId command.signatureId = some record := by
    rw [← current.resolve_left Bool.false_ne_true]
    exact read
  have named := Table.find?_query stored
  simp only [decide_eq_true_eq] at named
  exact ⟨Table.find?_mem stored, named.2⟩

theorem Recorded.finish (recorded : Recorded store) (current : Current appendOnly session store)
    (accepted : finishSignature appendOnly session store = .ok next) : Recorded next ∧ KeepsFinalized store next := by
  obtain ⟨finishes, writable⟩ := finishSignature_finishes accepted
  cases finishes with
  | requested record status other inserted events =>
    refine ⟨⟨fun signatureId => ?_, fun signatureId some => ?_⟩, fun old member _ => ?_⟩
    · rw [events]
      exact recorded.single signatureId
    · rw [events] at some
      obtain ⟨final, member, its⟩ := recorded.final signatureId some
      exact ⟨final, (Table.mem_insert? inserted).mpr (.inl member), its⟩
    · exact (Table.mem_insert? inserted).mpr (.inl member)
  | recorded command context record callback read pending signatures events =>
    obtain ⟨member, named⟩ := current_read callback read (writable ⟨command, context, callback⟩) current
    have kept : KeepsFinalized store next := by
      intro other stored final
      rw [signatures]
      refine Table.mem_update_of_not stored ?_
      have different : other.id ≠ record.id := by
        intro same
        have equal : other = record := Table.eq_of_conflict stored member (.inl same)
        rw [equal] at final
        exact final pending
      simpa using different
    have none : recordedEvents store command.signatureId = [] := by
      by_contra some
      obtain ⟨final, stored, its, status⟩ := recorded.final _ some
      have equal : final = record := Table.eq_of_conflict stored member (.inl (its.trans named.symm))
      rw [equal] at status
      exact status pending
    refine ⟨⟨fun signatureId => ?_, fun signatureId some => ?_⟩, kept⟩
    · rw [events]
      by_cases its : command.signatureId = signatureId
      · rw [if_pos its, ← its, none]
        exact Nat.le_refl 1
      · rw [if_neg its]
        exact recorded.single signatureId
    · by_cases its : command.signatureId = signatureId
      · refine ⟨finalized command record, ?_, named.trans its, ?_⟩
        · rw [signatures]
          exact Table.mem_update_of member (by simp)
        · show command.outcome.status ≠ .requested
          cases command.outcome <;> simp [SignatureResult.status]
      · have count := events signatureId
        rw [if_neg its, Nat.add_zero] at count
        have before : recordedEvents store signatureId ≠ [] := by
          rw [← List.length_pos_iff_ne_nil] at some ⊢
          omega
        obtain ⟨final, stored, same, status⟩ := recorded.final signatureId before
        exact ⟨final, kept final stored status, same, status⟩

theorem commitsCallback_events (signatureId : Uuid) (state : Sessions SignatureStore SignatureCommand)
    (input : SessionInput (Table SubmissionPackageRecord) SignatureCommand) :
    (recordedEvents (commit (interleaveSignatures appendOnly) state input).store signatureId).length =
      (recordedEvents state.store signatureId).length +
        if commitsCallback appendOnly signatureId state input then 1 else 0 := by
  cases input with
  | alone packages => rfl
  | start command => rfl
  | read index => rfl
  | finish index =>
    cases found : state.active[index]? with
    | none => simp [commit, interleaveSignatures, Sessions.step, commitsCallback, found]
    | some session =>
      cases taken : finishSignature appendOnly session state.store with
      | error error =>
        simp [commit, interleaveSignatures, Sessions.step, commitsCallback, found, taken, Except.map, Except.isOk,
          Except.toBool]
      | ok next =>
        have step : (commit (interleaveSignatures appendOnly) state (.finish index)).store = next := by
          simp [commit, interleaveSignatures, Sessions.step, found, taken, Except.map]
        rw [step]
        have ok : commitsCallback appendOnly signatureId state (.finish index) =
            session.command.callbackOf signatureId := by
          simp [commitsCallback, found, taken, Except.isOk, Except.toBool]
        rw [ok]
        cases (finishSignature_finishes taken).1 with
        | requested _ _ other _ events => rw [events, other]; rfl
        | recorded command context _ callback _ _ _ events =>
          rw [events, callback]
          simp [SignatureCommand.callbackOf]

theorem finishSignature_written {state : Sessions SignatureStore SignatureCommand} {index : Nat}
    (found : state.active[index]? = some session) (current : Current appendOnly session state.store)
    (accepted : finishSignature appendOnly session state.store = .ok next)
    {after : Sessions SignatureStore SignatureCommand} (same : after.store = next) : WrittenByCallback appendOnly state after (.finish index) := by
  intro record member
  rw [same] at member
  obtain ⟨finishes, writable⟩ := finishSignature_finishes accepted
  cases finishes with
  | requested fresh status _ inserted =>
    rcases (Table.mem_insert? inserted).mp member with old | rfl
    · exact .inl old
    · exact .inr (.inl status)
  | recorded command context previous callback looked pending signatures =>
    obtain ⟨stored, named⟩ := current_read callback looked (writable ⟨command, context, callback⟩) current
    rw [signatures] at member
    rcases Table.mem_update_cases member with ⟨old, _⟩ | ⟨before, old, inside, rfl⟩
    · exact .inl old
    · have its : before = previous := Table.eq_of_conflict old stored (.inl (of_decide_eq_true inside))
      refine .inr (.inr ⟨index, session, command, context, before, rfl, found, callback, ?_, old, ?_, rfl⟩)
      · have about : session.command.callbackOf (finalized command before).id = true := by
          rw [callback, its]
          exact decide_eq_true named.symm
        simp [commitsCallback, found, accepted, about, Except.isOk, Except.toBool]
      · rw [its]
        exact pending

theorem commit_written {state : Sessions SignatureStore SignatureCommand}
    {input : SessionInput (Table SubmissionPackageRecord) SignatureCommand}
    (current : Finishing (Current appendOnly) state input) :
    WrittenByCallback appendOnly state (commit (interleaveSignatures appendOnly) state input) input := by
  rcases commit_cases (interleaveSignatures appendOnly) state input with accepted | rejected
  · rcases Sessions.step_store accepted with
      ⟨same, _⟩ | ⟨_, ⟨packages, _, written⟩ | ⟨index, session, rfl, found, written⟩⟩
    · exact fun record member => .inl (same ▸ member)
    · have same := Except.ok.inj written
      intro record member
      rw [← same] at member
      exact .inl member
    · exact finishSignature_written found (current session found) written rfl
  · rw [rejected]
    exact fun record member => .inl member

/-- With the trigger, or while no signature changes between a callback's read and its commit, signatures are final. -/
theorem finality_while_current {inputs : List (SessionInput (Table SubmissionPackageRecord) SignatureCommand)}
    (met : Along (interleaveSignatures appendOnly) (Finishing (Current appendOnly)) unsigned inputs) :
    SignatureFinality appendOnly inputs := by
  have empty : Recorded unsigned.store := ⟨fun _ => Nat.zero_le 1, fun _ some => absurd rfl some⟩
  obtain ⟨recorded, final⟩ := Sessions.run_seen Recorded (Current appendOnly) KeepsFinalized.refl KeepsFinalized.trans
    (fun store packages next holds accepted => by
      cases accepted
      exact ⟨⟨holds.single, holds.final⟩, fun _ member _ => member⟩)
    (fun session store next _ seen current accepted => (seen store (by simp)).finish current accepted) empty rfl met
  refine ⟨fun signatureId => ?_, final, fun first input before => ?_, recorded.single⟩
  · have counts : (recordedEvents (run (interleaveSignatures appendOnly) unsigned inputs).store signatureId).length =
        0 + tally (interleaveSignatures appendOnly) (commitsCallback appendOnly signatureId) unsigned inputs :=
      run_tally (fun state : Sessions SignatureStore SignatureCommand =>
        (recordedEvents state.store signatureId).length) (commitsCallback_events signatureId)
    have atMost : (recordedEvents (run (interleaveSignatures appendOnly) unsigned inputs).store signatureId).length ≤ 1 :=
      recorded.single signatureId
    omega
  · rw [run_append]
    exact commit_written (along_iff_each.mp met first input before)

/-- The database of the migrations: under every interleaving of the signature commands, signatures are final. -/
theorem signature_finality (inputs : List (SessionInput (Table SubmissionPackageRecord) SignatureCommand)) :
    SignatureFinality true inputs := by
  refine finality_while_current ((Sessions.finishing_always unsigned inputs).weaken fun state input _ => ?_)
  cases input with
  | finish index => exact fun _ _ => .inl rfl
  | _ => exact True.intro

section Overlapping

def signer : CommandContext := ⟨1, 2, .patronAdmin, 100, some 3, none⟩

def callback (delivery : Uuid) (outcome : SignatureResult) : SignatureCommand :=
  .record ⟨⟨delivery, delivery, none⟩, 20, 10, "PROVIDER", String.ofList (List.replicate 64 'a'),
    String.ofList (List.replicate 64 'b'), outcome⟩ signer

/-- Two deliveries for signature 20 read it before either of them commits. -/
def overlappingCallbacks : List (SessionInput (Table SubmissionPackageRecord) SignatureCommand) :=
  [.alone (.singleton ⟨10, 1, 4, 1⟩), .start (.request ⟨⟨40, 40, none⟩, 20, 10, 1, 3, "PROVIDER"⟩ signer), .finish 0,
    .start (callback 41 .signed), .start (callback 42 .rejected), .read 0, .read 1, .finish 0, .finish 0]

-- without the trigger nothing locks the row between the check and the update
example : tally (interleaveSignatures false) (commitsCallback false 20) unsigned overlappingCallbacks = 2 := by
  decide +kernel

end Overlapping

end SmartAo.Submission
