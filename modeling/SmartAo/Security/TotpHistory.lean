import SmartAo.Security.Totp
import SmartAo.Foundation.Transition

namespace SmartAo.Security

open SmartAo.Foundation SmartAo.Platform

/-- An operation of the service, or what other services make of sessions and identities. -/
inductive TotpOperation where
  | begin (draws : EnrollmentDraws) (identityId : Uuid) (now : Timestamp)
  | confirm (identityId factorId : Uuid) (code : List Char) (now : Timestamp) (sessionId : Option Uuid)
  | verify (sessionId : Uuid) (code : List Char) (now : Timestamp)
  | disable (identityId : Uuid) (code : List Char) (now : Timestamp)
  | foreign (sessions : Table AuthSessionRecord) (identities : Table IdentityRecord)

def totpStep (service : TotpService) (store : SecurityStore) : TotpOperation → Except TotpError SecurityStore
  | .begin draws identityId now => (beginEnrollment service store draws identityId now).map Prod.fst
  | .confirm identityId factorId code now sessionId =>
    (confirmEnrollment service store identityId factorId code now sessionId).map Prod.fst
  | .verify sessionId code now => (verifyStepUp service (fun _ => store) store sessionId code now).map Prod.fst
  | .disable identityId code now => disable service (fun _ => store) store identityId code now
  | .foreign sessions identities => .ok { store with sessions, identities }

/-- The factor and the time step of the code an operation accepts. -/
def acceptedStep (service : TotpService) (store : SecurityStore) (operation : TotpOperation) : Option (Uuid × Int) :=
  if (totpStep service store operation).isOk = true then
    match operation with
    | .confirm identityId factorId code now _ =>
      (confirmChecks service store identityId factorId code now).toOption.map fun found => (found.1.id, found.2)
    | .verify sessionId code now =>
      (stepUpChecks service (fun _ => store) sessionId code now).toOption.bind fun found => found.2.counter?.map (found.1.id, ·)
    | .disable identityId code now =>
      (factorChecks service (fun _ => store) identityId code now).toOption.bind fun found =>
        found.2.counter?.map (found.1.id, ·)
    | _ => none
  else none

/-- The time steps a factor accepts along a run, in order. -/
def acceptedSteps (service : TotpService) (factorId : Uuid) : SecurityStore → List TotpOperation → List Int
  | _, [] => []
  | store, operation :: operations =>
    (((acceptedStep service store operation).filter fun accepted => accepted.1 = factorId).map Prod.snd).toList ++
      acceptedSteps service factorId (commit (totpStep service) store operation) operations

/-- No code is accepted whose time step is older than the last one of its factor. -/
def StepsForward (service : TotpService) (store : SecurityStore) (operation : TotpOperation) : Prop :=
  ∀ accepted ∈ acceptedStep service store operation, ∀ factor ∈ store.factors, factor.id = accepted.1 →
    ∀ last ∈ factor.lastUsedStep, last ≤ accepted.2

instance {service : TotpService} {store : SecurityStore} {operation : TotpOperation} :
    Decidable (StepsForward service store operation) :=
  inferInstanceAs (Decidable (∀ accepted ∈ acceptedStep service store operation, ∀ factor ∈ store.factors,
    factor.id = accepted.1 → ∀ last ∈ factor.lastUsedStep, last ≤ accepted.2))

variable {service : TotpService} {store next : SecurityStore} {factor : TotpFactorRecord} {identityId factorId : Uuid}
  {sessionId : Uuid} {code : List Char} {now : Timestamp} {counter : Int} {acceptance : Acceptance}

theorem activeFactor_some (found : store.activeFactor identityId = some factor) :
    factor ∈ store.factors ∧ factor.identityId = identityId ∧ factor.state = .active := by
  have matched := Table.find?_query found
  simp only [decide_eq_true_eq] at matched
  exact ⟨Table.find?_mem found, matched⟩

theorem confirmChecks_ok (checked : confirmChecks service store identityId factorId code now = .ok (factor, counter)) :
    factor ∈ store.factors ∧ factor.id = factorId ∧ factor.state = .pending := by
  simp only [confirmChecks, bind_ok, raiseIf_ok, exists_unit, orRaise_ok, pure_ok, Prod.mk.injEq, not_not] at checked
  obtain ⟨row, found, pending, _, _, _, _, _, _, _, rfl, _⟩ := checked
  have matched := Table.find?_query found
  simp only [decide_eq_true_eq] at matched
  exact ⟨Table.find?_mem found, matched.1, pending⟩

theorem confirmEnrollment_ok {session : Option Uuid} {at_ : Timestamp}
    (accepted : confirmEnrollment service store identityId factorId code now session = .ok (next, at_)) :
    ∃ factor counter, confirmChecks service store identityId factorId code now = .ok (factor, counter) ∧
      (next.factors = store.factors.update (fun row => row.id = factor.id) (confirmed now counter) fun _ => rfl) ∧
      next.recoveryCodes = store.recoveryCodes := by
  simp only [confirmEnrollment, bind_ok, raiseIf_ok, exists_unit, Prod.exists] at accepted
  obtain ⟨factor, counter, checked, _, written⟩ := accepted
  refine ⟨factor, counter, checked, ?_⟩
  cases session with
  | none =>
    simp only [pure_ok, Prod.mk.injEq] at written
    rw [← written.1]
    exact ⟨rfl, rfl⟩
  | some session =>
    simp only [bind_ok, orRaise_ok, pure_ok, Prod.mk.injEq] at written
    obtain ⟨_, _, same, _⟩ := written
    rw [← same]
    exact ⟨rfl, rfl⟩

theorem freshStep_some (fresh : freshStep service factor code now = .ok (some counter)) :
    factor.lastUsedStep ≠ some counter := by
  simp only [freshStep, bind_ok, pure_ok] at fresh
  obtain ⟨_, _, _, _, fresh⟩ := fresh
  simpa using (Option.filter_eq_some_iff.mp fresh).2

theorem acceptCode_ok {recovery : Option TotpRecoveryCodeRecord} :
    acceptCode service factor code now recovery = .ok acceptance ↔
      (∃ counter, freshStep service factor code now = .ok (some counter) ∧ acceptance = .step counter) ∨
        ∃ row, freshStep service factor code now = .ok none ∧ recovery = some row ∧ acceptance = .recovery row := by
  simp only [acceptCode, bind_ok]
  constructor
  · rintro ⟨fresh, matched, accepted⟩
    cases fresh with
    | some counter => exact .inl ⟨counter, matched, (pure_ok.mp accepted).symm⟩
    | none =>
      obtain ⟨row, found, accepted⟩ := bind_ok.mp accepted
      exact .inr ⟨row, matched, orRaise_ok.mp found, (pure_ok.mp accepted).symm⟩
  · rintro (⟨counter, matched, rfl⟩ | ⟨row, matched, rfl, rfl⟩)
    · exact ⟨_, matched, rfl⟩
    · exact ⟨_, matched, rfl⟩

theorem factorChecks_ok {view : Nat → SecurityStore} :
    factorChecks service view identityId code now = .ok (factor, acceptance) ↔
      (view 0).activeFactor identityId = some factor ∧
        acceptCode service factor code now (findRecoveryCode service (view 1) factor.id code) = .ok acceptance := by
  simp only [factorChecks, bind_ok, orRaise_ok, pure_ok, Prod.mk.injEq]
  constructor
  · rintro ⟨found, active, accepted, judged, rfl, rfl⟩
    exact ⟨active, judged⟩
  · rintro ⟨active, judged⟩
    exact ⟨factor, active, acceptance, judged, rfl, rfl⟩

theorem stepUpChecks_ok {view : Nat → SecurityStore} :
    stepUpChecks service view sessionId code now = .ok (factor, acceptance) ↔
      ∃ authSession, (view 0).stepUpSession sessionId = .ok authSession ∧
        factorChecks service (fun statement => view (statement + 1)) authSession.identityId code now =
          .ok (factor, acceptance) := by
  simp only [stepUpChecks, bind_ok]

/-- A step is accepted for an active factor that used another one last. -/
theorem factorChecks_step {view : Nat → SecurityStore}
    (checked : factorChecks service view identityId code now = .ok (factor, .step counter)) :
    factor ∈ (view 0).factors ∧ factor.state = .active ∧ factor.lastUsedStep ≠ some counter := by
  obtain ⟨active, judged⟩ := factorChecks_ok.mp checked
  obtain ⟨stored, _, state⟩ := activeFactor_some active
  rcases acceptCode_ok.mp judged with ⟨_, fresh, same⟩ | ⟨_, _, _, same⟩
  · cases same
    exact ⟨stored, state, freshStep_some fresh⟩
  · cases same

/-- What becomes of a factor: it is new, as it was, disabled, or active with the step of the accepted code. -/
def FactorMoves (store : SecurityStore) (accepted : Option (Uuid × Int)) (factor : TotpFactorRecord) : Prop :=
  (factor.state = .pending ∧ accepted = none ∧ ∀ old ∈ store.factors, old.id ≠ factor.id) ∨
    (factor ∈ store.factors ∧ ∀ counter, accepted ≠ some (factor.id, counter)) ∨
    ∃ old ∈ store.factors, old.id = factor.id ∧ (factor.state = .disabled ∨
      (factor.state = .active ∧ ∃ counter, accepted = some (factor.id, counter) ∧ factor.lastUsedStep = some counter))

theorem beginEnrollment_moves {draws : EnrollmentDraws} {result : TotpEnrollmentResult}
    (begun : beginEnrollment service store draws identityId now = .ok (next, result)) :
    ∀ factor ∈ next.factors, FactorMoves store none factor := by
  simp only [beginEnrollment, bind_ok, orRaise_ok, raiseIf_ok, exists_unit, pure_ok, Prod.mk.injEq] at begun
  obtain ⟨_, _, _, _, _, factors, inserted, _, _, _, _, rfl, _⟩ := begun
  intro factor member
  rcases (Table.mem_insert? inserted).mp member with kept | rfl
  · obtain ⟨old, stored, changed⟩ := Table.mem_update.mp kept
    split at changed
    · rw [← changed]
      exact .inr (.inr ⟨old, stored, rfl, .inl rfl⟩)
    · rw [← changed]
      exact .inr (.inl ⟨stored, fun _ same => by cases same⟩)
  · refine .inl ⟨rfl, rfl, fun old stored same => ?_⟩
    refine Table.insert?_absent inserted _ (Table.mem_update.mpr ⟨old, stored, rfl⟩) ?_
    show (if _ then disabledPending now old else old).id = draws.factorId
    split <;> exact same

theorem accepted_of_ok {operation : TotpOperation} (accepted : totpStep service store operation = .ok next) :
    (totpStep service store operation).isOk = true := by
  rw [accepted]
  rfl

/-- An update by key moves the factor it names and leaves the others. -/
theorem update_moves {named : TotpFactorRecord} {change : TotpFactorRecord → TotpFactorRecord}
    {keeps : ∀ row, Schema.columns (change row) = Schema.columns row} {accepted : Option (Uuid × Int)}
    (own : ∀ counter other, accepted = some (other, counter) → other = named.id)
    (moves : ∀ old ∈ store.factors, old.id = named.id → FactorMoves store accepted (change old)) :
    ∀ factor ∈ store.factors.update (fun row => row.id = named.id) change keeps, FactorMoves store accepted factor := by
  intro factor member
  rcases Table.mem_update_cases member with ⟨stored, other⟩ | ⟨old, stored, here, rfl⟩
  · refine .inr (.inl ⟨stored, fun counter same => ?_⟩)
    have different : factor.id ≠ named.id := by simpa using other
    exact different (own counter factor.id same)
  · exact moves old stored (by simpa using here)

/-- What an operation accepts is accepted by a factor that is pending, or active with another last step. -/
theorem totpStep_moves {operation : TotpOperation} (done : totpStep service store operation = .ok next) :
    (∀ factor ∈ next.factors, FactorMoves store (acceptedStep service store operation) factor) ∧
      (∀ factor ∈ store.factors, ∃ later ∈ next.factors, later.id = factor.id) ∧
      ∀ accepted, acceptedStep service store operation = some accepted → ∃ factor ∈ store.factors,
        factor.id = accepted.1 ∧ (factor.state = .pending ∨
          (factor.state = .active ∧ factor.lastUsedStep ≠ some accepted.2)) := by
  have ok := accepted_of_ok done
  have kept : ∀ {table : Table TotpFactorRecord} {query : TotpFactorRecord → Bool}
      {change : TotpFactorRecord → TotpFactorRecord} {keeps : ∀ row, Schema.columns (change row) = Schema.columns row},
      ∀ factor ∈ table, ∃ later ∈ table.update query change keeps, later.id = factor.id := by
    intro table query change keeps factor member
    refine ⟨_, Table.mem_update.mpr ⟨factor, member, rfl⟩, ?_⟩
    split
    · exact keeps factor
    · rfl
  cases operation with
  | begin draws identityId now =>
    obtain ⟨result, begun⟩ := map_fst_ok.mp done
    have none : acceptedStep service store (.begin draws identityId now) = none := by
      unfold acceptedStep
      exact ite_self none
    rw [none]
    refine ⟨beginEnrollment_moves begun, fun factor member => ?_, fun accepted same => by cases same⟩
    simp only [beginEnrollment, bind_ok, orRaise_ok, raiseIf_ok, exists_unit, pure_ok, Prod.mk.injEq] at begun
    obtain ⟨_, _, _, _, _, factors, inserted, _, _, _, _, rfl, _⟩ := begun
    obtain ⟨later, stored, same⟩ := kept factor member
    exact ⟨later, (Table.mem_insert? inserted).mpr (.inl stored), same⟩
  | confirm identityId factorId code now sessionId =>
    obtain ⟨at_, confirmation⟩ := map_fst_ok.mp done
    obtain ⟨named, counter, checked, factors, _⟩ := confirmEnrollment_ok confirmation
    obtain ⟨stored, _, pending⟩ := confirmChecks_ok checked
    have taken : acceptedStep service store (.confirm identityId factorId code now sessionId) =
        some (named.id, counter) := by
      unfold acceptedStep
      rw [if_pos ok]
      dsimp only
      rw [checked]
      rfl
    rw [taken, factors]
    refine ⟨update_moves (fun _ _ same => (Prod.mk.inj (Option.some.inj same)).1.symm) fun old member same => ?_,
      fun factor member => kept factor member, fun accepted same => ?_⟩
    · exact .inr (.inr ⟨old, member, rfl, .inr ⟨rfl, counter, by rw [← same]; rfl, rfl⟩⟩)
    · cases same
      exact ⟨named, stored, rfl, .inl pending⟩
  | verify sessionId code now =>
    obtain ⟨result, verified⟩ := map_fst_ok.mp done
    simp only [verifyStepUp, bind_ok, Prod.exists, pure_ok] at verified
    obtain ⟨named, acceptance, checked, written⟩ := verified
    obtain ⟨authSession, _, judged⟩ := stepUpChecks_ok.mp checked
    obtain ⟨stored, _, state⟩ := activeFactor_some (factorChecks_ok.mp judged).1
    have taken : acceptedStep service store (.verify sessionId code now) = acceptance.counter?.map (named.id, ·) := by
      unfold acceptedStep
      rw [if_pos ok]
      dsimp only
      rw [checked]
      rfl
    rw [taken]
    cases acceptance with
    | step counter =>
      have factors : next.factors = store.factors.update (fun row => row.id = named.id) (stepUsed counter)
          fun _ => rfl := congrArg (·.1.factors) written.symm
      rw [factors]
      refine ⟨update_moves (fun _ _ same => (Prod.mk.inj (Option.some.inj same)).1.symm) fun old member same => ?_,
        fun factor member => kept factor member, fun accepted same => ?_⟩
      · have activeOld : old.state = .active := by
          have equal : old = named := Table.eq_of_conflict member stored same
          rw [equal]
          exact state
        exact .inr (.inr ⟨old, member, rfl, .inr ⟨activeOld, counter, by rw [← same]; rfl, rfl⟩⟩)
      · cases same
        exact ⟨named, stored, rfl, .inr ⟨state, (factorChecks_step judged).2.2⟩⟩
    | recovery row =>
      obtain ⟨rfl, _⟩ := Prod.mk.inj written
      exact ⟨fun factor member => .inr (.inl ⟨member, fun _ same => by cases same⟩),
        fun factor member => ⟨factor, member, rfl⟩, fun accepted same => by cases same⟩
  | disable identityId code now =>
    simp only [totpStep, SmartAo.Security.disable, bind_ok, Prod.exists, pure_ok] at done
    obtain ⟨named, acceptance, checked, written⟩ := done
    obtain ⟨stored, _, state⟩ := activeFactor_some (factorChecks_ok.mp checked).1
    have taken : acceptedStep service store (.disable identityId code now) = acceptance.counter?.map (named.id, ·) := by
      unfold acceptedStep
      rw [if_pos ok]
      dsimp only
      rw [checked]
      rfl
    have factors : next.factors = store.factors.update (fun row => row.id = named.id) disabledFactor fun _ => rfl :=
      congrArg (·.factors) written.symm
    rw [taken, factors]
    refine ⟨update_moves (fun counter other same => ?_) fun old member same => ?_, fun factor member =>
      kept factor member, fun accepted same => ?_⟩
    · cases acceptance <;> cases same
      rfl
    · exact .inr (.inr ⟨old, member, rfl, .inl rfl⟩)
    · cases acceptance with
      | step counter =>
        cases same
        exact ⟨named, stored, rfl, .inr ⟨state, (factorChecks_step checked).2.2⟩⟩
      | recovery row => cases same
  | foreign sessions identities =>
    have none : acceptedStep service store (.foreign sessions identities) = none := by
      unfold acceptedStep
      exact ite_self none
    cases done
    rw [none]
    exact ⟨fun factor member => .inr (.inl ⟨member, fun _ same => by cases same⟩),
      fun factor member => ⟨factor, member, rfl⟩, fun accepted same => by cases same⟩

/-- The steps a factor accepted grow up to its last one. -/
structure StepsRecorded (factorId : Uuid) (accepted : List Int) (store : SecurityStore) : Prop where
  growing : accepted.Pairwise (· < ·)
  stored : accepted ≠ [] → ∃ factor ∈ store.factors, factor.id = factorId
  pending : ∀ factor ∈ store.factors, factor.id = factorId → factor.state = .pending → accepted = []
  active : ∀ factor ∈ store.factors, factor.id = factorId → factor.state = .active →
    ∀ counter ∈ accepted, ∃ last, factor.lastUsedStep = some last ∧ counter ≤ last

theorem StepsRecorded.nothing (factorId : Uuid) (store : SecurityStore) : StepsRecorded factorId [] store where
  growing := List.Pairwise.nil
  stored some := absurd rfl some
  pending _ _ _ _ := rfl
  active _ _ _ _ _ member := absurd member List.not_mem_nil

/-- The steps one operation adds to those a factor accepted. -/
def stepsOf (service : TotpService) (factorId : Uuid) (store : SecurityStore) (operation : TotpOperation) : List Int :=
  (((acceptedStep service store operation).filter fun accepted => accepted.1 = factorId).map Prod.snd).toList

theorem stepsOf_cases (service : TotpService) (factorId : Uuid) (store : SecurityStore) (operation : TotpOperation) :
    (stepsOf service factorId store operation = [] ∧
      ∀ counter, acceptedStep service store operation ≠ some (factorId, counter)) ∨
    ∃ counter, stepsOf service factorId store operation = [counter] ∧
      acceptedStep service store operation = some (factorId, counter) := by
  unfold stepsOf
  cases accepted : acceptedStep service store operation with
  | none => exact .inl ⟨rfl, fun _ same => by cases same⟩
  | some found =>
    obtain ⟨other, counter⟩ := found
    by_cases same : other = factorId
    · exact .inr ⟨counter, by simp [same], by rw [same]⟩
    · exact .inl ⟨by simp [same], fun _ equal => same (Prod.mk.inj (Option.some.inj equal)).1⟩

theorem StepsRecorded.step {accepted : List Int} {operation : TotpOperation}
    (recorded : StepsRecorded factorId accepted store) (forward : StepsForward service store operation)
    (done : totpStep service store operation = .ok next) :
    StepsRecorded factorId (accepted ++ stepsOf service factorId store operation) next := by
  obtain ⟨moves, kept, origin⟩ := totpStep_moves done
  rcases stepsOf_cases service factorId store operation with ⟨none, other⟩ | ⟨counter, one, taken⟩
  · rw [none, List.append_nil]
    refine ⟨recorded.growing, fun some => ?_, fun factor member named pending => ?_,
      fun factor member named active => ?_⟩
    · obtain ⟨factor, member, named⟩ := recorded.stored some
      obtain ⟨later, stays, same⟩ := kept factor member
      exact ⟨later, stays, same.trans named⟩
    · rcases moves factor member with ⟨_, _, fresh⟩ | ⟨old, _⟩ | ⟨_, _, _, disabled | ⟨active, _⟩⟩
      · by_contra some
        obtain ⟨old, stored, same⟩ := recorded.stored some
        exact fresh old stored (same.trans named.symm)
      · exact recorded.pending factor old named pending
      · rw [pending] at disabled
        cases disabled
      · rw [pending] at active
        cases active
    · rcases moves factor member with ⟨pending, _⟩ | ⟨old, _⟩ | ⟨_, _, _, disabled | ⟨_, counter, same, _⟩⟩
      · rw [active] at pending
        cases pending
      · exact recorded.active factor old named active
      · rw [active] at disabled
        cases disabled
      · rw [named] at same
        exact absurd same (other counter)
  · rw [one]
    obtain ⟨old, stored, named, source⟩ := origin _ taken
    have later : ∀ before ∈ accepted, before < counter := by
      intro before member
      rcases source with pending | ⟨active, different⟩
      · rw [recorded.pending old stored named pending] at member
        cases member
      · obtain ⟨last, used, below⟩ := recorded.active old stored named active before member
        have ordered : last ≤ counter := forward _ taken old stored named last used
        have strict : last ≠ counter := by
          intro same
          rw [used, same] at different
          exact different rfl
        omega
    have moved : ∀ factor ∈ next.factors, factor.id = factorId → factor.state = .disabled ∨
        (factor.state = .active ∧ factor.lastUsedStep = some counter) := by
      intro factor member own
      rcases moves factor member with ⟨_, none, _⟩ | ⟨_, untouched⟩ | ⟨_, _, _, disabled | ⟨active, other, same, used⟩⟩
      · rw [taken] at none
        cases none
      · exact absurd (by rw [own]; exact taken) (untouched counter)
      · exact .inl disabled
      · rw [taken, Option.some.injEq, Prod.mk.injEq] at same
        exact .inr ⟨active, by rw [used, same.2]⟩
    refine ⟨?_, fun _ => ?_, fun factor member own pending => ?_, fun factor member own active => ?_⟩
    · refine List.pairwise_append.mpr ⟨recorded.growing, List.pairwise_singleton _ _, fun before member last only => ?_⟩
      rw [List.mem_singleton.mp only]
      exact later before member
    · obtain ⟨factor, member, same⟩ := kept old stored
      exact ⟨factor, member, same.trans named⟩
    · rcases moved factor member own with disabled | ⟨active, _⟩
      · rw [pending] at disabled
        cases disabled
      · rw [pending] at active
        cases active
    · rcases moved factor member own with disabled | ⟨_, used⟩
      · rw [active] at disabled
        cases disabled
      · intro before member
        rcases List.mem_append.mp member with earlier | now
        · exact ⟨counter, used, le_of_lt (later before earlier)⟩
        · exact ⟨counter, used, le_of_eq (List.mem_singleton.mp now)⟩

theorem stepsOf_error {operation : TotpOperation} {error : TotpError}
    (refused : totpStep service store operation = .error error) : stepsOf service factorId store operation = [] := by
  unfold stepsOf acceptedStep
  rw [refused]
  rfl

theorem StepsRecorded.run {accepted : List Int} {operations : List TotpOperation}
    (recorded : StepsRecorded factorId accepted store)
    (along : Along (totpStep service) (StepsForward service) store operations) :
    (accepted ++ acceptedSteps service factorId store operations).Pairwise (· < ·) := by
  induction operations generalizing store accepted with
  | nil =>
    rw [acceptedSteps, List.append_nil]
    exact recorded.growing
  | cons operation operations ih =>
    show (accepted ++ (stepsOf service factorId store operation ++ acceptedSteps service factorId
      (commit (totpStep service) store operation) operations)).Pairwise (· < ·)
    rw [← List.append_assoc]
    refine ih ?_ along.2
    cases done : totpStep service store operation with
    | ok next =>
      rw [commit_ok done]
      exact recorded.step along.1 done
    | error error =>
      rw [commit_error done, stepsOf_error done, List.append_nil]
      exact recorded

/-- No time step is accepted twice along a run in which no factor goes back to an older step. -/
theorem totp_steps_not_repeated {operations : List TotpOperation}
    (forward : Along (totpStep service) (StepsForward service) store operations) (factorId : Uuid) :
    (acceptedSteps service factorId store operations).Nodup := by
  have growing := (StepsRecorded.nothing factorId store).run forward
  rw [List.nil_append] at growing
  exact growing.imp fun smaller => ne_of_lt smaller

def testSecret : List Char := "GEZDGNBVGY3TQOJQGEZDGNBVGY3TQOJQ".toList

/-- A service with HMAC-SHA1 and the ASCII tables, for a token that holds the test secret. -/
def testService : TotpService where
  encrypt _ := "encrypted"
  decrypt token := if token = "encrypted" then some testSecret else none
  hmac key := hmacSha1 key 8
  isDigit := Char.isDigit
  upper := List.map Char.toUpper

def signedIn : AuthSessionRecord where
  id := 2
  tenantId := 5
  membershipId := 6
  identityId := 1
  state := .active
  authStrength := .password
  tokenVersion := 1
  issuedAt := 0
  lastSeenAt := 0
  expiresAt := 28800000000
  absoluteExpiresAt := 43200000000
  mfaVerifiedAt := none
  revokedAt := none
  revokeReason := none

def enrolled : TotpFactorRecord where
  id := 3
  identityId := 1
  encryptedSecret := testService.encrypt testSecret
  state := .pending
  createdAt := 0
  expiresAt := enrollmentTtl
  confirmedAt := none
  lastUsedStep := none

def enrolledStore : SecurityStore :=
  { SecurityStore.empty with
    identities := .singleton ⟨1, "ab@c.fr", .active⟩
    sessions := .singleton signedIn
    factors := .singleton enrolled }

/-- The codes of the steps 1, 2 and 1 of the test secret, presented while the clock is in step 2. -/
def replayRun : List TotpOperation := [
  .confirm 1 3 "287082".toList 75000000 none,
  .verify 2 "359152".toList 75000000,
  .verify 2 "287082".toList 75000000]

theorem forward_steps_once : (acceptedSteps testService 3 enrolledStore (replayRun.take 2)).Nodup :=
  totp_steps_not_repeated (by decide +kernel) 3

theorem step_replayed : ¬ ∀ (service : TotpService) (store : SecurityStore) (operations : List TotpOperation)
    (factorId : Uuid), (acceptedSteps service factorId store operations).Nodup := by
  intro once
  have accepted : acceptedSteps testService 3 enrolledStore replayRun = [1, 2, 1] := by decide +kernel
  have distinct := once testService enrolledStore replayRun 3
  rw [accepted] at distinct
  exact absurd distinct (by decide)

end SmartAo.Security
