import SmartAo.Security.TotpHistory
import SmartAo.Foundation.LockScript

namespace SmartAo.Security

open SmartAo.Foundation SmartAo.Platform

/-- A row that a statement of the service selects for update. -/
inductive TotpRow where
  | session (id : Uuid)
  | factor (id : Uuid)
  | code (id : Uuid)
deriving DecidableEq

inductive TotpCommand where
  | verify (sessionId : Uuid) (code : List Char) (now : Timestamp)
  | disable (identityId : Uuid) (code : List Char) (now : Timestamp)

def TotpCommand.code : TotpCommand → List Char
  | .verify _ code _ => code
  | .disable _ code _ => code

def TotpCommand.now : TotpCommand → Timestamp
  | .verify _ _ now => now
  | .disable _ _ now => now

/-- An enrollment, or what other services make of sessions and identities. -/
inductive EnrollmentInput where
  | begin (draws : EnrollmentDraws) (identityId : Uuid) (now : Timestamp)
  | confirm (identityId factorId : Uuid) (code : List Char) (now : Timestamp) (sessionId : Option Uuid)
  | foreign (sessions : Table AuthSessionRecord) (identities : Table IdentityRecord)

def EnrollmentInput.operation : EnrollmentInput → TotpOperation
  | .begin draws identityId now => .begin draws identityId now
  | .confirm identityId factorId code now sessionId => .confirm identityId factorId code now sessionId
  | .foreign sessions identities => .foreign sessions identities

/-- The active factor is locked, then the recovery code when no fresh time step is presented. -/
def factorLocks (service : TotpService) (identityId : Uuid) (code : List Char) (now : Timestamp) :
    List (TotpRow × SecurityStore) → SecurityStore → Option TotpRow
  | [], store => (store.activeFactor identityId).map fun factor => .factor factor.id
  | [(_, seen)], store => (seen.activeFactor identityId).bind fun factor =>
    if (freshStep service factor code now).toOption = some none then
      (findRecoveryCode service store factor.id code).map fun row => .code row.id
    else none
  | _, _ => none

def TotpCommand.locks (service : TotpService) :
    TotpCommand → List (TotpRow × SecurityStore) → SecurityStore → Option TotpRow
  | .verify sessionId _ _, [], store =>
    (store.sessions.find? fun row => row.id = sessionId).map fun row => .session row.id
  | .verify sessionId code now, (_, seen) :: held, store => (seen.stepUpSession sessionId).toOption.bind
    fun authSession => factorLocks service authSession.identityId code now held store
  | .disable identityId code now, held, store => factorLocks service identityId code now held store

/-- `disable` ends with an update of the active sessions of the identity. -/
def TotpCommand.writes : TotpCommand → SecurityStore → List TotpRow
  | .verify .., _ => []
  | .disable identityId _ _, store =>
    (store.sessions.rows.filter fun row => row.identityId = identityId ∧ row.state = .active).map fun row =>
      .session row.id

def TotpCommand.finish (service : TotpService) :
    TotpCommand → (Nat → SecurityStore) → SecurityStore → Except TotpError SecurityStore
  | .verify sessionId code now, view, store => (verifyStepUp service view store sessionId code now).map Prod.fst
  | .disable identityId code now, view, store =>
    SmartAo.Security.disable service view store identityId code now

def recoveryScript (service : TotpService) : LockScript SecurityStore TotpCommand TotpRow TotpError where
  next := TotpCommand.locks service
  writes := TotpCommand.writes
  finish := TotpCommand.finish service

abbrev RecoveryState := Lockers SecurityStore TotpCommand TotpRow

/-- A phase of an interleaving of step-up verifications and disable operations. -/
abbrev RecoveryInput := HolderInput EnrollmentInput TotpCommand

def recoveryStep (service : TotpService) : RecoveryState → RecoveryInput → Except TotpError RecoveryState :=
  Lockers.step (recoveryScript service) (.failed "waiting for a row lock")
    fun store input => totpStep service store input.operation

/-- The recovery code a command accepts, from what its statements saw. -/
def TotpCommand.accepts (service : TotpService) (view : Nat → SecurityStore) :
    TotpCommand → Option TotpRecoveryCodeRecord
  | .verify sessionId code now => (stepUpChecks service view sessionId code now).toOption.bind fun found =>
    found.2.recovery?
  | .disable identityId code now => (factorChecks service view identityId code now).toOption.bind fun found =>
    found.2.recovery?

/-- The recovery code a phase accepts, beside the text presented for it. -/
def acceptedCode (service : TotpService) (state : RecoveryState) (input : RecoveryInput) :
    Option (TotpRecoveryCodeRecord × List Char) :=
  if (recoveryStep service state input).isOk = true then
    match input with
    | .finish index => state.active[index]?.bind fun locker =>
      (locker.command.accepts service (heldView locker.held state.store)).map (·, locker.command.code)
    | _ => none
  else none

/-- The recovery codes accepted along an interleaving, in order. -/
def acceptedCodes (service : TotpService) :
    RecoveryState → List RecoveryInput → List (TotpRecoveryCodeRecord × List Char)
  | _, [] => []
  | state, input :: inputs => (acceptedCode service state input).toList ++
    acceptedCodes service (commit (recoveryStep service) state input) inputs

/-- Two acceptances are of different codes, and for one factor of texts that no change of dashes, case or
    surrounding spaces makes equal. -/
def CodesApart (service : TotpService) (one other : TotpRecoveryCodeRecord × List Char) : Prop :=
  one.1.id ≠ other.1.id ∧
    (one.1.factorId = other.1.factorId → normalizedCode service one.2 ≠ normalizedCode service other.2)

/-- The code a phase accepts was unused and is used afterwards; every other code stays as it is. -/
structure UsesAccepted (service : TotpService) (state : RecoveryState) (input : RecoveryInput) : Prop where
  used : ∀ accepted, acceptedCode service state input = some accepted →
    accepted.1 ∈ state.store.recoveryCodes ∧ accepted.1.usedAt = none ∧
      hashRecoveryCode service accepted.2 = some accepted.1.codeHash ∧
      ∃ now, codeUsed now accepted.1 ∈ (commit (recoveryStep service) state input).store.recoveryCodes
  others : ∀ row ∈ state.store.recoveryCodes, (∀ code, acceptedCode service state input ≠ some (row, code)) →
    row ∈ (commit (recoveryStep service) state input).store.recoveryCodes

/-- A row locked as a recovery code is still there. -/
def CodeKept (locked : TotpRow) (before after : SecurityStore) : Prop :=
  ∀ row ∈ before.recoveryCodes, locked = .code row.id → row ∈ after.recoveryCodes

variable {service : TotpService} {store later : SecurityStore} {factor : TotpFactorRecord} {identityId : Uuid}
  {code : List Char} {now : Timestamp} {row : TotpRecoveryCodeRecord} {held : List (TotpRow × SecurityStore)}
  {command : TotpCommand} {state next : RecoveryState} {input : RecoveryInput}

theorem findRecoveryCode_some {factorId : Uuid} (found : findRecoveryCode service store factorId code = some row) :
    row ∈ store.recoveryCodes ∧ hashRecoveryCode service code = some row.codeHash ∧ row.usedAt = none := by
  obtain ⟨codeHash, hashed, selected⟩ := Option.bind_eq_some_iff.mp found
  have matched := Table.find?_query selected
  simp only [decide_eq_true_eq] at matched
  obtain ⟨_, same, unused⟩ := matched
  rw [← same] at hashed
  exact ⟨Table.find?_mem selected, hashed, unused⟩

theorem acceptCode_recovery {recovery : Option TotpRecoveryCodeRecord}
    (accepted : acceptCode service factor code now recovery = .ok (.recovery row)) :
    freshStep service factor code now = .ok none ∧ recovery = some row := by
  rcases acceptCode_ok.mp accepted with ⟨_, _, same⟩ | ⟨found, fresh, selected, same⟩
  · cases same
  · cases same
    exact ⟨fresh, selected⟩

/-- Two statements were locked as the script says when a recovery code is accepted, the second one its row. -/
theorem factorChecks_held
    (scripted : ∀ statement locked seen, held[statement]? = some (locked, seen) →
      factorLocks service identityId code now (held.take statement) seen = some locked)
    (ended : factorLocks service identityId code now held store = none)
    (checked : factorChecks service (heldView held store) identityId code now = .ok (factor, .recovery row)) :
    ∃ seen, (TotpRow.code row.id, seen) ∈ held ∧ findRecoveryCode service seen factor.id code = some row := by
  obtain ⟨active, accepted⟩ := factorChecks_ok.mp checked
  obtain ⟨fresh, found⟩ := acceptCode_recovery accepted
  cases held with
  | nil =>
    have absent : store.activeFactor identityId = none := Option.map_eq_none_iff.mp ended
    have present : store.activeFactor identityId = some factor := active
    rw [absent] at present
    cases present
  | cons first held =>
    obtain ⟨_, seen⟩ := first
    have present : seen.activeFactor identityId = some factor := active
    cases held with
    | nil =>
      have selected : findRecoveryCode service store factor.id code = some row := found
      simp [factorLocks, present, fresh, Except.toOption, selected] at ended
    | cons second held =>
      obtain ⟨locked, sees⟩ := second
      have selected : findRecoveryCode service sees factor.id code = some row := found
      have named := scripted 1 locked sees rfl
      simp [factorLocks, present, fresh, Except.toOption, selected] at named
      exact ⟨sees, by simp [named], selected⟩

theorem accepts_verify {view : Nat → SecurityStore} {sessionId : Uuid}
    (accepted : (TotpCommand.verify sessionId code now).accepts service view = some row) :
    ∃ factor, stepUpChecks service view sessionId code now = .ok (factor, .recovery row) := by
  obtain ⟨⟨factor, acceptance⟩, checked, recovered⟩ := Option.bind_eq_some_iff.mp accepted
  cases acceptance with
  | step counter => cases recovered
  | recovery found =>
    cases recovered
    exact ⟨factor, toOption_ok.mp checked⟩

theorem accepts_disable {view : Nat → SecurityStore}
    (accepted : (TotpCommand.disable identityId code now).accepts service view = some row) :
    ∃ factor, factorChecks service view identityId code now = .ok (factor, .recovery row) := by
  obtain ⟨⟨factor, acceptance⟩, checked, recovered⟩ := Option.bind_eq_some_iff.mp accepted
  cases acceptance with
  | step counter => cases recovered
  | recovery found =>
    cases recovered
    exact ⟨factor, toOption_ok.mp checked⟩

/-- A command that ends with a recovery code holds its row since it saw it unused. -/
theorem accepts_held
    (scripted : ∀ statement locked seen, held[statement]? = some (locked, seen) →
      command.locks service (held.take statement) seen = some locked)
    (ended : command.locks service held store = none)
    (accepted : command.accepts service (heldView held store) = some row) :
    ∃ seen factorId, (TotpRow.code row.id, seen) ∈ held ∧
      findRecoveryCode service seen factorId command.code = some row := by
  cases command with
  | disable identityId code now =>
    obtain ⟨factor, checked⟩ := accepts_disable accepted
    have script : ∀ statement locked seen, held[statement]? = some (locked, seen) →
        factorLocks service identityId code now (held.take statement) seen = some locked := by
      intro statement locked seen entry
      have named := scripted statement locked seen entry
      simpa only [TotpCommand.locks] using named
    have finished : factorLocks service identityId code now held store = none := by
      simpa only [TotpCommand.locks] using ended
    obtain ⟨seen, member, found⟩ := factorChecks_held script finished checked
    exact ⟨seen, factor.id, member, found⟩
  | verify sessionId code now =>
    obtain ⟨factor, checked⟩ := accepts_verify accepted
    obtain ⟨authSession, active, judged⟩ := stepUpChecks_ok.mp checked
    cases held with
    | nil =>
      have absent := Option.map_eq_none_iff.mp ended
      have opened : store.stepUpSession sessionId = .ok authSession := active
      simp [SecurityStore.stepUpSession, absent] at opened
    | cons first held =>
      obtain ⟨_, seen⟩ := first
      have opened : seen.stepUpSession sessionId = .ok authSession := active
      have script : ∀ statement locked sees, held[statement]? = some (locked, sees) →
          factorLocks service authSession.identityId code now (held.take statement) sees = some locked := by
        intro statement locked sees entry
        have named := scripted (statement + 1) locked sees entry
        simpa [TotpCommand.locks, opened, Except.toOption] using named
      have finished : factorLocks service authSession.identityId code now held store = none := by
        simpa [TotpCommand.locks, opened, Except.toOption] using ended
      obtain ⟨sees, member, found⟩ := factorChecks_held script finished judged
      exact ⟨sees, factor.id, List.mem_cons_of_mem _ member, found⟩

/-- A command that ends uses the recovery code it accepts and no other. -/
theorem finish_codes {view : Nat → SecurityStore} (finished : command.finish service view store = .ok later) :
    (command.accepts service view = none ∧ later.recoveryCodes = store.recoveryCodes) ∨
      ∃ row, command.accepts service view = some row ∧ later.recoveryCodes = store.useCode row command.now := by
  cases command with
  | verify sessionId code now =>
    obtain ⟨result, verification⟩ := map_fst_ok.mp finished
    simp only [verifyStepUp, bind_ok, Prod.exists, pure_ok] at verification
    obtain ⟨factor, acceptance, checked, written⟩ := verification
    have accepts : (TotpCommand.verify sessionId code now).accepts service view = acceptance.recovery? := by
      unfold TotpCommand.accepts
      dsimp only
      rw [checked]
      rfl
    rw [accepts]
    cases acceptance with
    | step counter => exact .inl ⟨rfl, congrArg (·.1.recoveryCodes) written.symm⟩
    | recovery row => exact .inr ⟨row, rfl, congrArg (·.1.recoveryCodes) written.symm⟩
  | disable identityId code now =>
    simp only [TotpCommand.finish, SmartAo.Security.disable, bind_ok, Prod.exists, pure_ok] at finished
    obtain ⟨factor, acceptance, checked, written⟩ := finished
    have accepts : (TotpCommand.disable identityId code now).accepts service view = acceptance.recovery? := by
      unfold TotpCommand.accepts
      dsimp only
      rw [checked]
      rfl
    rw [accepts]
    cases acceptance with
    | step counter => exact .inl ⟨rfl, congrArg (·.recoveryCodes) written.symm⟩
    | recovery row => exact .inr ⟨row, rfl, congrArg (·.recoveryCodes) written.symm⟩

/-- An enrollment adds recovery codes and keeps the others. -/
theorem enrollment_codes {input : EnrollmentInput} (done : totpStep service store input.operation = .ok later) :
    ∀ row ∈ store.recoveryCodes, row ∈ later.recoveryCodes := by
  intro row member
  cases input with
  | begin draws identityId now =>
    obtain ⟨result, begun⟩ := map_fst_ok.mp done
    simp only [beginEnrollment, bind_ok, orRaise_ok, raiseIf_ok, exists_unit, pure_ok, Prod.mk.injEq] at begun
    obtain ⟨_, _, _, _, _, _, _, _, _, _, inserted, rfl, _⟩ := begun
    exact (Table.mem_insertAll? inserted).mpr (.inl member)
  | confirm identityId factorId code now sessionId =>
    obtain ⟨at_, confirmation⟩ := map_fst_ok.mp done
    obtain ⟨_, _, _, _, codes⟩ := confirmEnrollment_ok confirmation
    rw [codes]
    exact member
  | foreign sessions identities =>
    cases done
    exact member

theorem useCode_cases {stored : TotpRecoveryCodeRecord} (member : stored ∈ store.recoveryCodes)
    (named : row ∈ store.recoveryCodes) : (stored ≠ row ∧ stored ∈ store.useCode row now) ∨
      (stored = row ∧ codeUsed now row ∈ store.useCode row now) := by
  by_cases same : stored.id = row.id
  · have equal : stored = row := Table.eq_of_conflict member named (.inl same)
    exact .inr ⟨equal, Table.mem_update_of named (by simp)⟩
  · exact .inl ⟨fun equal => same (by rw [equal]), Table.mem_update_of_not member (by simpa using same)⟩

abbrev RecoveryLocked (service : TotpService) (state : RecoveryState) : Prop :=
  state.Locked (recoveryScript service) CodeKept

/-- The code a transaction accepts when it ends is stored and unused, and the transaction holds it. -/
theorem RecoveryLocked.accepted (locked : RecoveryLocked service state) {locker : Locker SecurityStore TotpCommand TotpRow}
    (member : locker ∈ state.active) (ended : locker.command.locks service locker.held state.store = none)
    (accepted : locker.command.accepts service (heldView locker.held state.store) = some row) :
    locker.holds (.code row.id) = true ∧ row ∈ state.store.recoveryCodes ∧ row.usedAt = none ∧
      hashRecoveryCode service locker.command.code = some row.codeHash := by
  obtain ⟨seen, factorId, held, found⟩ := accepts_held (locked.scripted locker member) ended accepted
  obtain ⟨stored, hashed, unused⟩ := findRecoveryCode_some found
  have still : row ∈ state.store.recoveryCodes := locked.kept locker member _ held row stored rfl
  exact ⟨Locker.holds_iff.mpr ⟨seen, held⟩, still, unused, hashed⟩

theorem RecoveryLocked.step (locked : RecoveryLocked service state)
    (accepted : recoveryStep service state input = .ok next) : RecoveryLocked service next := by
  refine Lockers.step_locked (fun _ _ _ member _ => member)
    (fun before after row member named => after row (before row member named) named)
    (fun _ _ done _ row member _ => enrollment_codes done row member) ?_ locked accepted
  intro locker member later ended finished held free row stored named
  rcases finish_codes finished with ⟨_, same⟩ | ⟨found, accepts, used⟩
  · rw [same]
    exact stored
  · obtain ⟨holds, present, _⟩ := locked.accepted member ended accepts
    rw [used]
    rcases useCode_cases stored present with ⟨_, kept⟩ | ⟨same, _⟩
    · exact kept
    · rw [named, same, holds] at free
      cases free

theorem acceptedCode_finish {index : Nat} {locker : Locker SecurityStore TotpCommand TotpRow}
    (accepted : recoveryStep service state (.finish index) = .ok next) (found : state.active[index]? = some locker) :
    acceptedCode service state (.finish index) =
      (locker.command.accepts service (heldView locker.held state.store)).map (·, locker.command.code) := by
  unfold acceptedCode
  rw [accepted, if_pos (by rfl)]
  dsimp only
  rw [found]
  rfl

theorem acceptedCode_none (other : ∀ index, input ≠ .finish index) : acceptedCode service state input = none := by
  unfold acceptedCode
  cases input with
  | finish index => exact absurd rfl (other index)
  | _ => exact ite_self none

/-- A phase accepts no code and keeps every code, or uses a code that was unused. -/
theorem RecoveryLocked.moves (locked : RecoveryLocked service state)
    (done : recoveryStep service state input = .ok next) :
    (acceptedCode service state input = none ∧ ∀ row ∈ state.store.recoveryCodes, row ∈ next.store.recoveryCodes) ∨
      ∃ row code now, acceptedCode service state input = some (row, code) ∧ row ∈ state.store.recoveryCodes ∧
        row.usedAt = none ∧ hashRecoveryCode service code = some row.codeHash ∧
        next.store.recoveryCodes = state.store.useCode row now := by
  by_cases ending : ∃ index, input = .finish index
  · obtain ⟨index, rfl⟩ := ending
    obtain ⟨locker, store, found, ended, finished, rfl⟩ := Lockers.step_finish done
    rw [acceptedCode_finish done found]
    rcases finish_codes finished with ⟨accepts, same⟩ | ⟨row, accepts, used⟩
    · rw [accepts]
      refine .inl ⟨rfl, fun row member => ?_⟩
      rw [same]
      exact member
    · obtain ⟨_, stored, unused, hashed⟩ := locked.accepted (List.mem_of_getElem? found) ended accepts
      rw [accepts]
      exact .inr ⟨row, locker.command.code, locker.command.now, rfl, stored, unused, hashed, used⟩
  · have other : ∀ index, input ≠ .finish index := fun index same => ending ⟨index, same⟩
    refine .inl ⟨acceptedCode_none other, fun row member => ?_⟩
    rcases Lockers.step_store other done with same | ⟨single, moved⟩
    · rw [same]
      exact member
    · exact enrollment_codes moved row member

theorem acceptedCode_error {error : TotpError} (refused : recoveryStep service state input = .error error) :
    acceptedCode service state input = none := by
  unfold acceptedCode
  rw [refused]
  rfl

theorem RecoveryLocked.usesAccepted (locked : RecoveryLocked service state) (input : RecoveryInput) :
    UsesAccepted service state input := by
  cases done : recoveryStep service state input with
  | error error =>
    have none := acceptedCode_error done
    refine ⟨fun accepted same => ?_, fun row member _ => ?_⟩
    · rw [none] at same
      cases same
    · rw [commit_error done]
      exact member
  | ok next =>
    rcases locked.moves done with ⟨none, kept⟩ | ⟨row, code, now, some, stored, unused, hashed, used⟩
    · refine ⟨fun accepted same => ?_, fun row member _ => ?_⟩
      · rw [none] at same
        cases same
      · rw [commit_ok done]
        exact kept row member
    · refine ⟨fun accepted same => ?_, fun other member untouched => ?_⟩
      · rw [some, Option.some.injEq] at same
        rw [← same, commit_ok done, used]
        exact ⟨stored, unused, hashed, now, Table.mem_update_of stored (by simp)⟩
      · rw [commit_ok done, used]
        rcases useCode_cases member stored with ⟨_, kept⟩ | ⟨same, _⟩
        · exact kept
        · rw [same] at untouched
          exact absurd some (untouched code)

/-- Every accepted code is stored as used, under the hash of the text presented for it. -/
structure CodesRecorded (service : TotpService) (accepted : List (TotpRecoveryCodeRecord × List Char))
    (state : RecoveryState) : Prop where
  locked : RecoveryLocked service state
  apart : accepted.Pairwise (CodesApart service)
  stored : ∀ entry ∈ accepted, hashRecoveryCode service entry.2 = some entry.1.codeHash ∧
    ∃ now, codeUsed now entry.1 ∈ state.store.recoveryCodes

theorem hashRecoveryCode_congr {first second : List Char}
    (same : normalizedCode service first = normalizedCode service second) :
    hashRecoveryCode service first = hashRecoveryCode service second := by
  unfold hashRecoveryCode
  rw [same]

theorem CodesRecorded.step {accepted : List (TotpRecoveryCodeRecord × List Char)}
    (recorded : CodesRecorded service accepted state) (done : recoveryStep service state input = .ok next) :
    CodesRecorded service (accepted ++ (acceptedCode service state input).toList) next := by
  rcases recorded.locked.moves done with ⟨none, kept⟩ | ⟨row, code, now, some, stored, unused, hashed, used⟩
  · rw [none, Option.toList_none, List.append_nil]
    refine ⟨recorded.locked.step done, recorded.apart, fun entry member => ?_⟩
    obtain ⟨hashed, at_, used⟩ := recorded.stored entry member
    exact ⟨hashed, at_, kept _ used⟩
  · rw [some, Option.toList_some]
    refine ⟨recorded.locked.step done, ?_, fun entry member => ?_⟩
    · refine List.pairwise_append.mpr ⟨recorded.apart, List.pairwise_singleton _ _, fun entry member last only => ?_⟩
      obtain ⟨hashedBefore, at_, before⟩ := recorded.stored entry member
      have different : codeUsed at_ entry.1 ≠ row := by
        intro same
        rw [← same] at unused
        cases unused
      rw [List.mem_singleton.mp only]
      refine ⟨fun same => different (Table.eq_of_conflict before stored (.inl same)), fun factor same => ?_⟩
      have hash : entry.1.codeHash = row.codeHash := by
        rw [hashRecoveryCode_congr same, hashed, Option.some.injEq] at hashedBefore
        exact hashedBefore.symm
      exact different (Table.eq_of_conflict before stored (.inr (Prod.ext factor hash)))
    · rw [used]
      rcases List.mem_append.mp member with earlier | last
      · obtain ⟨hashedBefore, at_, before⟩ := recorded.stored entry earlier
        refine ⟨hashedBefore, ?_⟩
        rcases useCode_cases before stored with ⟨_, kept⟩ | ⟨same, _⟩
        · exact ⟨at_, kept⟩
        · rw [← same] at unused
          cases unused
      · rw [List.mem_singleton.mp last]
        exact ⟨hashed, now, Table.mem_update_of stored (by simp)⟩

theorem CodesRecorded.run {accepted : List (TotpRecoveryCodeRecord × List Char)} {inputs : List RecoveryInput}
    (recorded : CodesRecorded service accepted state) :
    (accepted ++ acceptedCodes service state inputs).Pairwise (CodesApart service) := by
  induction inputs generalizing state accepted with
  | nil =>
    rw [acceptedCodes, List.append_nil]
    exact recorded.apart
  | cons input inputs ih =>
    rw [acceptedCodes, ← List.append_assoc]
    apply ih
    cases done : recoveryStep service state input with
    | ok next =>
      rw [commit_ok done]
      exact recorded.step done
    | error error =>
      rw [commit_error done, acceptedCode_error done, Option.toList_none, List.append_nil]
      exact recorded

/-- Along every interleaving each recovery code is accepted at most once, the phase that accepts it marks it
    used, and every other phase leaves every code as it is. -/
theorem recovery_codes_single_use (service : TotpService) (store : SecurityStore) (inputs : List RecoveryInput) :
    (acceptedCodes service ⟨store, []⟩ inputs).Pairwise (CodesApart service) ∧
      Along (recoveryStep service) (UsesAccepted service) ⟨store, []⟩ inputs := by
  have free : RecoveryLocked service ⟨store, []⟩ := Lockers.locked_empty store
  constructor
  · have recorded : CodesRecorded service [] ⟨store, []⟩ :=
      ⟨free, List.Pairwise.nil, fun _ member => absurd member List.not_mem_nil⟩
    exact recorded.run
  · exact along_of_invariant (fun _ _ _ locked _ done => locked.step done)
      (fun _ input locked => locked.usesAccepted input) free (along_trivial _ inputs)

end SmartAo.Security
