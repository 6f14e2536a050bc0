import SmartAo.Security.TotpHistory
import SmartAo.Foundation.Mutation

namespace SmartAo.Security

open SmartAo.Foundation SmartAo.Platform

def SecurityStore.writeFactor (factorId : Uuid) (change : TotpFactorRecord → TotpFactorRecord)
    (kept : ∀ row, (change row).id = row.id) (store : SecurityStore) : SecurityStore :=
  { store with factors := store.factors.update (fun row => row.id = factorId) change kept }

theorem verified_columns (now : Timestamp) (row : AuthSessionRecord) :
    Schema.columns (verified now .mfa row) = Schema.columns row := rfl

def SecurityStore.writeSession (sessionId : Uuid) (now : Timestamp) (store : SecurityStore) : SecurityStore :=
  { store with
    sessions := store.sessions.update (fun row => row.id = sessionId) (verified now .mfa) (verified_columns now) }

/-- The body of `confirm_enrollment` between the two ends of its transaction, with what it assigns before it raises. -/
def confirmBlock (service : TotpService) (identityId factorId : Uuid) (code : List Char) (now : Timestamp)
    (sessionId : Option Uuid) : Mutation TotpError SecurityStore Timestamp := do
  let factor ← Mutation.test fun store =>
    orRaise (store.factors.find? fun row => row.id = factorId ∧ row.identityId = identityId)
      (.verification "TOTP_ENROLLMENT_NOT_PENDING")
  Mutation.test fun _ => raiseIf (factor.state ≠ .pending) (.verification "TOTP_ENROLLMENT_NOT_PENDING")
  if factor.expiresAt ≤ now then
    Mutation.assign (SecurityStore.writeFactor factor.id (disabledPending now) fun _ => rfl)
    Mutation.test fun _ => .error (.verification "TOTP_ENROLLMENT_EXPIRED")
  else
    let secret ← Mutation.test fun _ => decryptSecret service factor
    let counter ← Mutation.test fun _ => matchingCounter service secret code now
    let counter ← Mutation.test fun _ => orRaise counter (.verification "TOTP_CODE_INVALID")
    Mutation.test fun store =>
      raiseIf (∃ other ∈ store.factors, other.identityId = identityId ∧ other.state = .active) .integrity
    Mutation.assign (SecurityStore.writeFactor factor.id (confirmed now counter) fun _ => rfl)
    match sessionId with
    | none => return now
    | some sessionId =>
      let authSession ← Mutation.test fun store =>
        orRaise (store.sessions.find? fun row => row.id = sessionId ∧ row.identityId = identityId ∧
          row.state = .active) (.verification "SESSION_NOT_ACTIVE")
      Mutation.assign (SecurityStore.writeSession authSession.id now)
      return now

/-- A confirmation that fails and whose transaction leaves the factor disabled. -/
def ClosesExpired (service : TotpService) (store : SecurityStore) (factor : TotpFactorRecord) (code : List Char)
    (now : Timestamp) (sessionId : Option Uuid) : Prop :=
  let block := confirmBlock service factor.identityId factor.id code now sessionId
  (∃ error, block.transaction store = .error error) ∧
    ∃ row ∈ (block.committed store).factors, row.id = factor.id ∧ row.state = .disabled

variable {service : TotpService} {store : SecurityStore} {factor : TotpFactorRecord} {identityId factorId : Uuid}
  {code : List Char} {now : Timestamp} {sessionId : Option Uuid}

theorem factor_found (member : factor ∈ store.factors) :
    (store.factors.find? fun row => row.id = factor.id ∧ row.identityId = factor.identityId) = some factor := by
  apply (Table.find?_eq_some _).mpr
  · exact ⟨member, by simp⟩
  · intro first second one two
    simp only [decide_eq_true_eq] at one two
    show first.id = second.id
    rw [one.1, two.1]

/-- The block in its transaction is the confirmation whose errors leave nothing behind. -/
theorem confirmBlock_transaction :
    (confirmBlock service identityId factorId code now sessionId).transaction store =
      confirmEnrollment service store identityId factorId code now sessionId := by
  unfold confirmBlock confirmEnrollment confirmChecks
  simp only [Mutation.transaction_test, bind_assoc]
  congr 1
  funext factor
  congr 1
  funext _
  by_cases expired : factor.expiresAt ≤ now
  · rw [if_pos expired, raiseIf_fail expired]
    rfl
  · rw [if_neg expired, raiseIf_pass expired]
    simp only [Mutation.transaction_test, Mutation.transaction_assign]
    show _ = (decryptSecret service factor >>= _)
    congr 1
    funext secret
    congr 1
    funext counter
    congr 1
    funext counter
    show _ = (raiseIf _ _ >>= _)
    congr 1
    funext _
    cases sessionId with
    | none => rfl
    | some sessionId =>
      simp only [Mutation.transaction_test, Mutation.transaction_assign, Mutation.transaction_pure]
      rfl

theorem expired_refused (member : factor ∈ store.factors) (pending : factor.state = .pending)
    (expired : factor.expiresAt ≤ now) :
    (confirmBlock service factor.identityId factor.id code now sessionId).transaction store =
      .error (.verification "TOTP_ENROLLMENT_EXPIRED") := by
  have checked : confirmChecks service store factor.identityId factor.id code now =
      .error (.verification "TOTP_ENROLLMENT_EXPIRED") := by
    rw [confirmChecks, bind_of_ok (orRaise_ok.mpr (factor_found member)),
      bind_of_ok (raiseIf_pass (not_not.mpr pending)), bind_of_error (raiseIf_fail expired)]
  rw [confirmBlock_transaction, confirmEnrollment, bind_of_error checked]

/-- The factor of an expired enrollment stays pending: the change that closes it is rolled back with the error. -/
theorem expired_enrollment_open (member : factor ∈ store.factors) (pending : factor.state = .pending)
    (expired : factor.expiresAt ≤ now) (code : List Char) (sessionId : Option Uuid) :
    ¬ ClosesExpired service store factor code now sessionId := by
  rintro ⟨_, row, stored, same, disabled⟩
  rw [Mutation.committed_error (expired_refused member pending expired)] at stored
  have alone : row = factor := Table.eq_of_conflict stored member same
  rw [alone, pending] at disabled
  cases disabled

theorem expired_enrollment_open_example :
    ¬ ClosesExpired testService enrolledStore enrolled "287082".toList 600000000 none :=
  expired_enrollment_open List.mem_cons_self rfl (by decide) _ _

theorem expired_enrollment_not_closed : ¬ ∀ (service : TotpService) (store : SecurityStore)
    (factor : TotpFactorRecord) (code : List Char) (now : Timestamp) (sessionId : Option Uuid),
    factor ∈ store.factors → factor.state = .pending → factor.expiresAt ≤ now →
      ClosesExpired service store factor code now sessionId := by
  intro closes
  obtain ⟨_, row, stored, _, disabled⟩ := closes testService enrolledStore enrolled "287082".toList 600000000 none
    List.mem_cons_self rfl (by decide)
  have committed : (confirmBlock testService enrolled.identityId enrolled.id "287082".toList 600000000
      none).committed enrolledStore = enrolledStore :=
    Mutation.committed_error (expired_refused List.mem_cons_self rfl (by decide))
  rw [committed] at stored
  rw [List.mem_singleton.mp stored] at disabled
  cases disabled

end SmartAo.Security
