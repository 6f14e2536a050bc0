import SmartAo.Security.EnrollmentExpiry

namespace SmartAo.Security

open SmartAo.Foundation SmartAo.Platform

/-- A call that succeeds or raises the declared verification error. -/
def Declared {α : Type} (result : Except TotpError α) : Prop :=
  ∀ error, result = .error error → ∃ code, error = .verification code

/-- A text of six digits one of which is no ASCII digit. -/
def ForeignDigits (service : TotpService) (code : List Char) : Prop :=
  (stripChars code).length = 6 ∧ (stripChars code).all service.isDigit = true ∧ ¬ isAscii (stripChars code)

def Readable (service : TotpService) (factor : TotpFactorRecord) : Prop :=
  (service.decrypt factor.encryptedSecret).isSome = true

/-- The pending factor a confirmation compares a code for. -/
def AwaitsCode (service : TotpService) (store : SecurityStore) (identityId factorId : Uuid) (now : Timestamp) : Prop :=
  ∃ factor ∈ store.factors, factor.id = factorId ∧ factor.identityId = identityId ∧ factor.state = .pending ∧
    now < factor.expiresAt ∧ Readable service factor

/-- The active factor a code is compared for. -/
def ChecksCode (service : TotpService) (store : SecurityStore) (identityId : Uuid) : Prop :=
  ∃ factor, store.activeFactor identityId = some factor ∧ Readable service factor

instance {service : TotpService} {code : List Char} : Decidable (ForeignDigits service code) :=
  inferInstanceAs (Decidable (_ ∧ _ ∧ _))

instance {service : TotpService} {factor : TotpFactorRecord} : Decidable (Readable service factor) :=
  inferInstanceAs (Decidable (_ = true))

/-- An operation that gets to compare a code of foreign digits. -/
def ComparesForeign (service : TotpService) (store : SecurityStore) : TotpOperation → Prop
  | .confirm identityId factorId code now _ =>
    ForeignDigits service code ∧ AwaitsCode service store identityId factorId now
  | .verify sessionId code _ => ForeignDigits service code ∧
    ∃ authSession, store.stepUpSession sessionId = .ok authSession ∧ ChecksCode service store authSession.identityId
  | .disable identityId code _ => ForeignDigits service code ∧ ChecksCode service store identityId
  | _ => False

/-- The clock of an operation that a code is presented to, from the second time step on. -/
def Presents : TotpOperation → Prop
  | .confirm _ _ _ now _ | .verify _ _ now | .disable _ _ now =>
    1 ≤ timestampSeconds now / 30 ∧ timestampSeconds now / 30 + 1 < 2 ^ 64
  | _ => False

/-- An enrollment draws a secret that decodes, and the token of it decrypts to it. -/
def Enrolls (service : TotpService) (_ : SecurityStore) : TotpOperation → Prop
  | .begin draws _ _ => service.decrypt (service.encrypt draws.secret) = some draws.secret ∧
    (b32decode draws.secret).isSome = true
  | _ => True

/-- Every readable secret decodes, and an identity with a pending factor has no other one that is pending or active. -/
structure FactorsSound (service : TotpService) (factors : Table TotpFactorRecord) : Prop where
  decodes : ∀ factor ∈ factors, ∀ secret, service.decrypt factor.encryptedSecret = some secret →
    (b32decode secret).isSome = true
  alone : ∀ first ∈ factors, ∀ second ∈ factors, first.state = .pending →
    second.identityId = first.identityId → second.state = .disabled ∨ second = first

section Declaring

variable {α β : Type} {computation : Except TotpError α} {rest : α → Except TotpError β} {value : α} {text : String}

theorem declared_ok : Declared (.ok value : Except TotpError α) := nofun

theorem declared_verification : Declared (.error (.verification text) : Except TotpError α) := by
  intro error same
  cases same
  exact ⟨text, rfl⟩

theorem not_declared_failed : ¬ Declared (.error (.failed text) : Except TotpError α) := by
  intro declared
  obtain ⟨code, same⟩ := declared _ rfl
  cases same

theorem Declared.bind (first : Declared computation)
    (then_ : ∀ value, computation = .ok value → Declared (rest value)) : Declared (computation >>= rest) := by
  cases computed : computation with
  | ok value => exact then_ value computed
  | error error =>
    obtain ⟨code, rfl⟩ := first error computed
    exact declared_verification

theorem declared_orRaise {found : Option α} : Declared (orRaise found (.verification text)) := by
  cases found with
  | none => exact declared_verification
  | some value => exact declared_ok

theorem declared_raiseIf {condition : Prop} [Decidable condition] :
    Declared (raiseIf condition (.verification text)) := by
  unfold raiseIf
  split
  · exact declared_verification
  · exact declared_ok

theorem Declared.map (declared : Declared computation) (change : α → β) : Declared (computation.map change) := by
  cases computed : computation with
  | ok value => exact declared_ok
  | error error =>
    obtain ⟨code, rfl⟩ := declared error computed
    exact declared_verification

end Declaring

section Matching

variable {service : TotpService} {secret code : List Char} {now : Timestamp} {counter : Int} {candidates : List Int}

theorem totpCode_computes (decodes : (b32decode secret).isSome = true) (low : 0 ≤ counter) (high : counter < 2 ^ 64) :
    ∃ expected, totpCode service secret counter = .ok expected := by
  obtain ⟨key, found⟩ := Option.isSome_iff_exists.mp decodes
  refine ⟨truncated (service.hmac key counter.toNat), ?_⟩
  rw [totpCode, found, orRaise_some, bind_of_ok rfl, bind_of_ok (raiseIf_pass (by omega))]
  rfl

theorem firstMatching_computes (decodes : (b32decode secret).isSome = true)
    (inside : ∀ candidate ∈ candidates, 0 ≤ candidate ∧ candidate < 2 ^ 64) (ascii : isAscii code = true) :
    ∃ matched, firstMatching service secret code candidates = .ok matched := by
  induction candidates with
  | nil => exact ⟨none, rfl⟩
  | cons candidate candidates ih =>
    obtain ⟨first, rest⟩ := List.forall_mem_cons.mp inside
    obtain ⟨expected, computed⟩ := @totpCode_computes service _ _ decodes first.1 first.2
    rw [firstMatching, bind_of_ok computed, bind_of_ok (raiseIf_pass (not_not.mpr ascii))]
    split
    · exact ⟨some candidate, rfl⟩
    · exact ih rest

/-- A code is matched or refused, unless its digits are foreign. -/
theorem matchingCounter_computes (decodes : (b32decode secret).isSome = true)
    (clock : 1 ≤ timestampSeconds now / 30 ∧ timestampSeconds now / 30 + 1 < 2 ^ 64)
    (native : ¬ ForeignDigits service code) : ∃ matched, matchingCounter service secret code now = .ok matched := by
  unfold matchingCounter
  dsimp only
  by_cases malformed : (stripChars code).length ≠ 6 ∨ ¬ (stripChars code).all service.isDigit
  · rw [if_pos malformed]
    exact ⟨none, rfl⟩
  · rw [if_neg malformed]
    have shaped := not_or.mp malformed
    have ascii : isAscii (stripChars code) = true := by
      by_contra foreign
      exact native ⟨not_not.mp shaped.1, not_not.mp shaped.2, foreign⟩
    apply firstMatching_computes decodes ?_ ascii
    intro candidate member
    simp only [List.mem_cons, List.not_mem_nil, or_false] at member
    omega

theorem matchingCounter_foreign (decodes : (b32decode secret).isSome = true)
    (clock : 1 ≤ timestampSeconds now / 30 ∧ timestampSeconds now / 30 + 1 < 2 ^ 64)
    (foreign : ForeignDigits service code) : matchingCounter service secret code now =
      .error (.failed "comparing strings with non-ASCII characters is not supported") := by
  obtain ⟨length, digits, other⟩ := foreign
  obtain ⟨expected, computed⟩ := @totpCode_computes service secret (timestampSeconds now / 30 - 1) decodes (by omega)
    (by omega)
  unfold matchingCounter
  dsimp only
  rw [if_neg (not_or.mpr ⟨not_not.mpr length, not_not.mpr digits⟩), firstMatching, bind_of_ok computed,
    bind_of_error (raiseIf_fail other)]

end Matching

section Soundness

variable {service : TotpService} {store next : SecurityStore} {factors later : Table TotpFactorRecord}
  {operation : TotpOperation} {identityId : Uuid} {now : Timestamp}

theorem FactorsSound.empty : FactorsSound service .empty where
  decodes _ member := absurd member Table.not_mem_empty
  alone _ member := absurd member Table.not_mem_empty

/-- A change that at most disables factors keeps them sound. -/
theorem FactorsSound.update (sound : FactorsSound service factors) {query : TotpFactorRecord → Bool}
    {change : TotpFactorRecord → TotpFactorRecord} {keeps : ∀ row, Schema.columns (change row) = Schema.columns row}
    (owner : ∀ row, (change row).identityId = row.identityId)
    (secret : ∀ row, (change row).encryptedSecret = row.encryptedSecret)
    (state : ∀ row, (change row).state = row.state ∨ (change row).state = .disabled) :
    FactorsSound service (factors.update query change keeps) := by
  have origin : ∀ row ∈ factors.update query change keeps, ∃ old ∈ factors,
      (if query old then change old else old) = row ∧ row.identityId = old.identityId ∧
        row.encryptedSecret = old.encryptedSecret ∧ (row.state = old.state ∨ row.state = .disabled) := by
    intro row member
    obtain ⟨old, stored, same⟩ := Table.mem_update.mp member
    refine ⟨old, stored, same, ?_⟩
    rw [← same]
    split
    · exact ⟨owner old, secret old, state old⟩
    · exact ⟨rfl, rfl, .inl rfl⟩
  constructor
  · intro factor member text readable
    obtain ⟨old, stored, _, _, token, _⟩ := origin factor member
    rw [token] at readable
    exact sound.decodes old stored text readable
  · intro first one second two pending same
    obtain ⟨oldFirst, storedFirst, madeFirst, ownerFirst, _, stateFirst⟩ := origin first one
    obtain ⟨oldSecond, storedSecond, madeSecond, ownerSecond, _, stateSecond⟩ := origin second two
    have before : oldFirst.state = .pending := by
      rcases stateFirst with kept | disabled
      · rw [← kept]
        exact pending
      · rw [pending] at disabled
        cases disabled
    rw [ownerFirst, ownerSecond] at same
    rcases sound.alone oldFirst storedFirst oldSecond storedSecond before same with disabled | equal
    · left
      rcases stateSecond with kept | gone
      · rw [kept]
        exact disabled
      · exact gone
    · right
      rw [← madeFirst, ← madeSecond, equal]

theorem FactorsSound.begin {draws : EnrollmentDraws} {result : TotpEnrollmentResult}
    (sound : FactorsSound service store.factors) (enrolls : Enrolls service store (.begin draws identityId now))
    (begun : beginEnrollment service store draws identityId now = .ok (next, result)) :
    FactorsSound service next.factors := by
  simp only [beginEnrollment, bind_ok, orRaise_ok, raiseIf_ok, exists_unit, pure_ok, Prod.mk.injEq] at begun
  obtain ⟨_, _, _, inactive, _, table, inserted, _, _, _, _, rfl, _⟩ := begun
  have closed : ∀ row ∈ store.factors.update (fun row => row.identityId = identityId ∧ row.state = .pending)
      (disabledPending now) fun _ => rfl, row.identityId = identityId → row.state = .disabled := by
    intro row member owner
    rcases Table.mem_update_cases member with ⟨stored, other⟩ | ⟨old, _, _, rfl⟩
    · have notPending : row.state ≠ .pending := by
        intro pending
        simp [owner, pending] at other
      have notActive : row.state ≠ .active := by
        intro active
        have none : store.activeFactor identityId = none := by simpa using inactive
        have missed := Table.find?_none.mp none row stored
        simp [owner, active] at missed
      cases state : row.state with
      | pending => exact absurd state notPending
      | active => exact absurd state notActive
      | disabled => rfl
    · rfl
  have updated := @FactorsSound.update service store.factors sound (fun row => row.identityId = identityId ∧ row.state = .pending)
    (disabledPending now) (fun _ => rfl) (fun _ => rfl) (fun _ => rfl) fun _ => .inr rfl
  constructor
  · intro factor member text readable
    rcases (Table.mem_insert? inserted).mp member with stored | rfl
    · exact updated.decodes factor stored text readable
    · have same : text = draws.secret := Option.some.inj (readable.symm.trans enrolls.1)
      rw [same]
      exact enrolls.2
  · intro first one second two pending same
    rcases (Table.mem_insert? inserted).mp one with firstStored | rfl
    · rcases (Table.mem_insert? inserted).mp two with secondStored | rfl
      · exact updated.alone first firstStored second secondStored pending same
      · have disabled := closed first firstStored same.symm
        rw [pending] at disabled
        cases disabled
    · rcases (Table.mem_insert? inserted).mp two with secondStored | rfl
      · exact .inl (closed second secondStored same)
      · exact .inr rfl

theorem FactorsSound.confirm {factorId : Uuid} {code : List Char} {sessionId : Option Uuid} {at_ : Timestamp}
    (sound : FactorsSound service store.factors)
    (confirmation : confirmEnrollment service store identityId factorId code now sessionId = .ok (next, at_)) :
    FactorsSound service next.factors := by
  obtain ⟨named, counter, checked, written, _⟩ := confirmEnrollment_ok confirmation
  obtain ⟨stored, _, pending⟩ := confirmChecks_ok checked
  have key : ∀ {first second : TotpFactorRecord}, decide (first.id = named.id) = true →
      decide (second.id = named.id) = true → Schema.Conflict first second := by
    intro first second one two
    show first.id = second.id
    rw [of_decide_eq_true one, of_decide_eq_true two]
  have cases_ : ∀ row ∈ next.factors, row = confirmed now counter named ∨ (row ∈ store.factors ∧ row.id ≠ named.id) := by
    intro row member
    rw [written] at member
    rcases (Table.mem_update_key key stored (by simp)).mp member with same | ⟨old, other⟩
    · exact .inl same
    · exact .inr ⟨old, by simpa using other⟩
  constructor
  · intro factor member text readable
    rcases cases_ factor member with rfl | ⟨old, _⟩
    · exact sound.decodes named stored text readable
    · exact sound.decodes factor old text readable
  · intro first one second two waiting same
    rcases cases_ first one with rfl | ⟨firstOld, firstOther⟩
    · cases waiting
    · rcases cases_ second two with rfl | ⟨secondOld, _⟩
      · rcases sound.alone first firstOld named stored waiting same with disabled | equal
        · rw [pending] at disabled
          cases disabled
        · exact absurd (congrArg (·.id) equal).symm firstOther
      · exact sound.alone first firstOld second secondOld waiting same

theorem FactorsSound.step (sound : FactorsSound service store.factors) (enrolls : Enrolls service store operation)
    (done : totpStep service store operation = .ok next) : FactorsSound service next.factors := by
  cases operation with
  | begin draws identityId now =>
    obtain ⟨result, begun⟩ := map_fst_ok.mp done
    exact sound.begin enrolls begun
  | confirm identityId factorId code now sessionId =>
    obtain ⟨at_, confirmation⟩ := map_fst_ok.mp done
    exact sound.confirm confirmation
  | verify sessionId code now =>
    obtain ⟨result, verified⟩ := map_fst_ok.mp done
    simp only [verifyStepUp, bind_ok, Prod.exists, pure_ok] at verified
    obtain ⟨named, acceptance, _, written⟩ := verified
    cases acceptance with
    | step counter =>
      have factors : next.factors = store.factors.update (fun row => row.id = named.id) (stepUsed counter)
          fun _ => rfl := congrArg (·.1.factors) written.symm
      rw [factors]
      exact sound.update (fun _ => rfl) (fun _ => rfl) fun _ => .inl rfl
    | recovery row =>
      obtain ⟨rfl, _⟩ := Prod.mk.inj written
      exact sound
  | disable identityId code now =>
    simp only [totpStep, SmartAo.Security.disable, bind_ok, Prod.exists, pure_ok] at done
    obtain ⟨named, acceptance, _, written⟩ := done
    have factors : next.factors = store.factors.update (fun row => row.id = named.id) disabledFactor fun _ => rfl :=
      congrArg (·.factors) written.symm
    rw [factors]
    exact sound.update (fun _ => rfl) (fun _ => rfl) fun _ => .inr rfl
  | foreign sessions identities =>
    cases done
    exact sound

theorem factorsSound_run {operations : List TotpOperation} (sound : FactorsSound service store.factors)
    (along : Along (totpStep service) (Enrolls service) store operations) :
    FactorsSound service (run (totpStep service) store operations).factors := by
  have preserved : ∀ (store : SecurityStore) (operation : TotpOperation) (next : SecurityStore),
      FactorsSound service store.factors → Enrolls service store operation →
      totpStep service store operation = .ok next → FactorsSound service next.factors :=
    fun _ _ _ held enrolls done => held.step enrolls done
  show (fun store : SecurityStore => FactorsSound service store.factors) _
  exact run_invariant preserved sound along

end Soundness

section Entries

variable {service : TotpService} {store : SecurityStore} {factor : TotpFactorRecord} {identityId factorId : Uuid}
  {sessionId : Option Uuid} {code : List Char} {now : Timestamp} {operation : TotpOperation}

def foreignFailure : TotpError := .failed "comparing strings with non-ASCII characters is not supported"

theorem not_declared_foreign {α : Type} : ¬ Declared (.error foreignFailure : Except TotpError α) :=
  not_declared_failed

theorem decryptSecret_ok {secret : List Char} :
    decryptSecret service factor = .ok secret ↔ service.decrypt factor.encryptedSecret = some secret := orRaise_ok

theorem decryptSecret_declared : Declared (decryptSecret service factor) := declared_orRaise

theorem confirm_foreign (sound : FactorsSound service store.factors)
    (clock : 1 ≤ timestampSeconds now / 30 ∧ timestampSeconds now / 30 + 1 < 2 ^ 64)
    (foreign : ForeignDigits service code) (awaits : AwaitsCode service store identityId factorId now) :
    confirmEnrollment service store identityId factorId code now sessionId = .error foreignFailure := by
  obtain ⟨factor, member, rfl, rfl, pending, open_, readable⟩ := awaits
  obtain ⟨secret, decrypted⟩ := Option.isSome_iff_exists.mp readable
  have decodes := sound.decodes factor member secret decrypted
  have checked : confirmChecks service store factor.identityId factor.id code now = .error foreignFailure := by
    rw [confirmChecks, bind_of_ok (orRaise_ok.mpr (factor_found member)),
      bind_of_ok (raiseIf_pass (not_not.mpr pending)), bind_of_ok (raiseIf_pass (not_le.mpr open_)),
      bind_of_ok (decryptSecret_ok.mpr decrypted), bind_of_error (matchingCounter_foreign decodes clock foreign)]
    rfl
  rw [confirmEnrollment, bind_of_error checked]

theorem found_factor (found : (store.factors.find? fun row => row.id = factorId ∧ row.identityId = identityId) =
    some factor) : factor ∈ store.factors ∧ factor.id = factorId ∧ factor.identityId = identityId := by
  have matched := Table.find?_query found
  simp only [decide_eq_true_eq] at matched
  exact ⟨Table.find?_mem found, matched⟩

theorem confirmChecks_owner {counter : Int}
    (checked : confirmChecks service store identityId factorId code now = .ok (factor, counter)) :
    factor.identityId = identityId := by
  simp only [confirmChecks, bind_ok, raiseIf_ok, exists_unit, orRaise_ok, pure_ok, Prod.mk.injEq] at checked
  obtain ⟨row, found, _, _, _, _, _, _, _, _, rfl, _⟩ := checked
  exact (found_factor found).2.2

theorem confirmChecks_declared (sound : FactorsSound service store.factors)
    (clock : 1 ≤ timestampSeconds now / 30 ∧ timestampSeconds now / 30 + 1 < 2 ^ 64)
    (native : ¬ (ForeignDigits service code ∧ AwaitsCode service store identityId factorId now)) :
    Declared (confirmChecks service store identityId factorId code now) := by
  apply declared_orRaise.bind
  intro factor found
  obtain ⟨member, named, owner⟩ := found_factor (orRaise_ok.mp found)
  apply declared_raiseIf.bind
  intro _ pending
  apply declared_raiseIf.bind
  intro _ open_
  apply decryptSecret_declared.bind
  intro secret decrypted
  have read := decryptSecret_ok.mp decrypted
  have unforeign : ¬ ForeignDigits service code := by
    intro foreign
    refine native ⟨foreign, factor, member, named, owner, not_not.mp (raiseIf_ok.mp pending),
      not_le.mp (raiseIf_ok.mp open_), ?_⟩
    rw [Readable, read]
    rfl
  obtain ⟨matched, computed⟩ := matchingCounter_computes (sound.decodes factor member secret read) clock unforeign
  rw [bind_of_ok computed]
  apply declared_orRaise.bind
  intro counter _
  exact declared_ok

theorem confirm_declared (sound : FactorsSound service store.factors)
    (clock : 1 ≤ timestampSeconds now / 30 ∧ timestampSeconds now / 30 + 1 < 2 ^ 64)
    (native : ¬ (ForeignDigits service code ∧ AwaitsCode service store identityId factorId now)) :
    Declared (confirmEnrollment service store identityId factorId code now sessionId) := by
  apply (confirmChecks_declared sound clock native).bind
  rintro ⟨factor, counter⟩ checked
  dsimp only
  have single : ¬ ∃ other ∈ store.factors, other.identityId = identityId ∧ other.state = .active := by
    rintro ⟨other, member, same, active⟩
    obtain ⟨stored, _, pending⟩ := confirmChecks_ok checked
    rcases sound.alone factor stored other member pending (same.trans (confirmChecks_owner checked).symm) with
      disabled | equal
    · rw [active] at disabled
      cases disabled
    · rw [equal, pending] at active
      cases active
  rw [bind_of_ok (raiseIf_pass single)]
  cases sessionId with
  | none => exact declared_ok
  | some sessionId =>
    apply declared_orRaise.bind
    intro _ _
    exact declared_ok

theorem factorChecks_foreign (sound : FactorsSound service store.factors)
    (clock : 1 ≤ timestampSeconds now / 30 ∧ timestampSeconds now / 30 + 1 < 2 ^ 64)
    (foreign : ForeignDigits service code) (checks : ChecksCode service store identityId) :
    factorChecks service (fun _ => store) identityId code now = .error foreignFailure := by
  obtain ⟨factor, active, readable⟩ := checks
  obtain ⟨secret, decrypted⟩ := Option.isSome_iff_exists.mp readable
  have decodes := sound.decodes factor (activeFactor_some active).1 secret decrypted
  have judged : freshStep service factor code now = .error foreignFailure := by
    rw [freshStep, bind_of_ok (decryptSecret_ok.mpr decrypted), bind_of_error (matchingCounter_foreign decodes clock foreign)]
    rfl
  rw [factorChecks, bind_of_ok (orRaise_ok.mpr active), acceptCode, bind_of_error judged]
  rfl

theorem factorChecks_declared (sound : FactorsSound service store.factors)
    (clock : 1 ≤ timestampSeconds now / 30 ∧ timestampSeconds now / 30 + 1 < 2 ^ 64)
    (native : ¬ (ForeignDigits service code ∧ ChecksCode service store identityId)) :
    Declared (factorChecks service (fun _ => store) identityId code now) := by
  apply declared_orRaise.bind
  intro factor found
  have active := orRaise_ok.mp found
  have fresh : Declared (freshStep service factor code now) := by
    apply decryptSecret_declared.bind
    intro secret decrypted
    have read := decryptSecret_ok.mp decrypted
    have unforeign : ¬ ForeignDigits service code := by
      intro foreign
      refine native ⟨foreign, factor, active, ?_⟩
      rw [Readable, read]
      rfl
    obtain ⟨matched, computed⟩ := matchingCounter_computes
      (sound.decodes factor (activeFactor_some active).1 secret read) clock unforeign
    rw [bind_of_ok computed]
    exact declared_ok
  have accepted : Declared (acceptCode service factor code now (findRecoveryCode service store factor.id code)) := by
    apply fresh.bind
    intro step _
    cases step with
    | some counter => exact declared_ok
    | none =>
      apply declared_orRaise.bind
      intro row _
      exact declared_ok
  apply accepted.bind
  intro acceptance _
  exact declared_ok

theorem stepUpSession_declared {sessionId : Uuid} : Declared (store.stepUpSession sessionId) := by
  apply declared_orRaise.bind
  intro row _
  apply declared_raiseIf.bind
  intro _ _
  exact declared_ok

/-- A presented code is answered as declared exactly when no foreign digits are compared. -/
theorem declared_iff (sound : FactorsSound service store.factors) (presents : Presents operation) :
    Declared (totpStep service store operation) ↔ ¬ ComparesForeign service store operation := by
  cases operation with
  | begin => exact absurd presents id
  | foreign => exact absurd presents id
  | confirm identityId factorId code now sessionId =>
    constructor
    · rintro declared ⟨foreign, awaits⟩
      rw [totpStep, confirm_foreign sound presents foreign awaits] at declared
      exact not_declared_foreign declared
    · intro native
      exact (confirm_declared sound presents native).map Prod.fst
  | verify sessionId code now =>
    constructor
    · rintro declared ⟨foreign, authSession, found, checks⟩
      have checked : stepUpChecks service (fun _ => store) sessionId code now = .error foreignFailure := by
        rw [stepUpChecks, bind_of_ok found]
        exact factorChecks_foreign sound presents foreign checks
      rw [totpStep, verifyStepUp, bind_of_error checked] at declared
      exact not_declared_foreign declared
    · intro native
      have checked : Declared (stepUpChecks service (fun _ => store) sessionId code now) := by
        apply stepUpSession_declared.bind
        intro authSession found
        exact factorChecks_declared sound presents fun both => native ⟨both.1, authSession, found, both.2⟩
      apply Declared.map
      apply checked.bind
      intro accepted _
      exact declared_ok
  | disable identityId code now =>
    constructor
    · rintro declared ⟨foreign, checks⟩
      rw [totpStep, SmartAo.Security.disable, bind_of_error (factorChecks_foreign sound presents foreign checks)] at declared
      exact not_declared_foreign declared
    · intro native
      apply (factorChecks_declared sound presents native).bind
      intro accepted _
      exact declared_ok

/-- After every run of the service, a presented code is answered as declared exactly when no foreign digits are
    compared. -/
theorem declared_after_run (operations : List TotpOperation) (none : store.factors = .empty)
    (enrolls : Along (totpStep service) (Enrolls service) store operations) (presents : Presents operation) :
    Declared (totpStep service (run (totpStep service) store operations) operation) ↔
      ¬ ComparesForeign service (run (totpStep service) store operations) operation := by
  have empty : FactorsSound service store.factors := by
    rw [none]
    exact FactorsSound.empty
  exact declared_iff (factorsSound_run empty enrolls) presents

end Entries

/-- A token of the length the database asks for. -/
def testToken : String := String.ofList (List.replicate 80 'g')

/-- A service with the Arabic-Indic digits beside the ASCII ones. -/
def digitService : TotpService :=
  { testService with
    encrypt _ := testToken
    decrypt token := if token = testToken then some testSecret else none
    isDigit c := c.isDigit || (0x660 ≤ c.toNat && c.toNat ≤ 0x669) }

def unenrolledStore : SecurityStore :=
  { SecurityStore.empty with
    identities := .singleton ⟨1, "ab@c.fr", .active⟩
    sessions := .singleton signedIn }

def enrolling : List TotpOperation := [.begin ⟨3, testSecret, [], fun index => index⟩ 1 0]

def asciiConfirmation : TotpOperation := .confirm 1 3 "287082".toList 75000000 none

/-- The digits 2, 8, 7, 0, 8 and 2, the first of them an Arabic-Indic one. -/
def foreignConfirmation : TotpOperation := .confirm 1 3 "٢87082".toList 75000000 none

theorem enrolling_sound : Along (totpStep digitService) (Enrolls digitService) unenrolledStore enrolling :=
  ⟨⟨by decide +kernel, by decide +kernel⟩, True.intro⟩

theorem asciiConfirmation_declared :
    Declared (totpStep digitService (run (totpStep digitService) unenrolledStore enrolling) asciiConfirmation) ↔
      ¬ ComparesForeign digitService (run (totpStep digitService) unenrolledStore enrolling) asciiConfirmation :=
  declared_after_run enrolling rfl enrolling_sound ⟨by decide +kernel, by decide +kernel⟩

def awaitingFactor : TotpFactorRecord := ⟨3, 1, testToken, .pending, 0, enrollmentTtl, none, none⟩

theorem foreign_digits_undeclared : ¬ ∀ (service : TotpService) (store : SecurityStore)
    (operations : List TotpOperation) (operation : TotpOperation), store.factors = .empty →
    Along (totpStep service) (Enrolls service) store operations → Presents operation →
      Declared (totpStep service (run (totpStep service) store operations) operation) := by
  intro declared
  have answered := declared digitService unenrolledStore enrolling foreignConfirmation rfl enrolling_sound
    ⟨by decide +kernel, by decide +kernel⟩
  have stored : (run (totpStep digitService) unenrolledStore enrolling).factors.rows = [awaitingFactor] := by
    decide +kernel
  have sound := factorsSound_run (by exact FactorsSound.empty) enrolling_sound
  generalize run (totpStep digitService) unenrolledStore enrolling = store at answered stored sound
  have member : awaitingFactor ∈ store.factors := by
    show awaitingFactor ∈ store.factors.rows
    rw [stored]
    exact List.mem_singleton_self _
  have awaits : AwaitsCode digitService store 1 3 75000000 :=
    ⟨awaitingFactor, member, rfl, rfl, rfl, by decide, by decide +kernel⟩
  have foreign : ForeignDigits digitService "٢87082".toList := by decide +kernel
  have clock : 1 ≤ timestampSeconds 75000000 / 30 ∧ timestampSeconds 75000000 / 30 + 1 < 2 ^ 64 := by decide +kernel
  rw [foreignConfirmation, totpStep, confirm_foreign sound clock foreign awaits] at answered
  exact not_declared_foreign answered

end SmartAo.Security
