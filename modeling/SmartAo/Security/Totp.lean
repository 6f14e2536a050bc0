import SmartAo.Foundation.Digest
import SmartAo.Foundation.Guard
import SmartAo.Foundation.Instant
import SmartAo.Foundation.Text
import SmartAo.Security.Records

namespace SmartAo.Security

open SmartAo.Foundation SmartAo.Platform

/-- What a TOTP operation raises; every error rolls its transaction back. -/
inductive TotpError where
  | enrollment (code : String)
  | verification (code : String)
  | integrity
  | failed (detail : String)
deriving DecidableEq

/-- The service beside what it computes with: Fernet under its key, HMAC-SHA1 of an eight-byte message, and the
    character tables of `str.isdigit` and `str.upper`. -/
structure TotpService where
  encrypt : List Char → String
  decrypt : String → Option (List Char)
  hmac : List UInt8 → Nat → Nat
  isDigit : Char → Bool
  upper : List Char → List Char

def enrollmentTtl : Int := 600000000

def isAscii (text : List Char) : Bool := text.all fun c => c.toNat < 128

/-- The last nibble of the digest selects four of its bytes, read as a number of six decimal digits. -/
def truncated (digest : Nat) : List Char :=
  (padded 6 ((digest >>> (8 * (16 - digest % 16)) % 2 ^ 31 % 10 ^ 6 : Nat) : Int)).toList

def totpCode (service : TotpService) (secret : List Char) (counter : Int) : Except TotpError (List Char) := do
  let key ← orRaise (b32decode secret) (.failed "Incorrect padding")
  raiseIf (counter < 0 ∨ 2 ^ 64 ≤ counter) (.failed "int too large to convert")
  return truncated (service.hmac key counter.toNat)

/-- The first of the candidates whose code is presented. -/
def firstMatching (service : TotpService) (secret presented : List Char) : List Int → Except TotpError (Option Int)
  | [] => return none
  | candidate :: candidates => do
    let expected ← totpCode service secret candidate
    raiseIf (¬ isAscii presented) (.failed "comparing strings with non-ASCII characters is not supported")
    if expected = presented then return some candidate else firstMatching service secret presented candidates

def matchingCounter (service : TotpService) (secret code : List Char) (now : Timestamp) :
    Except TotpError (Option Int) :=
  let normalized := stripChars code
  if normalized.length ≠ 6 ∨ ¬ normalized.all service.isDigit then return none
  else
    let counter := timestampSeconds now / 30
    firstMatching service secret normalized [counter - 1, counter, counter + 1]

def normalizedCode (service : TotpService) (code : List Char) : List Char :=
  service.upper (stripChars (code.filter (· ≠ '-')))

/-- `_hash_recovery_code`: none when the text has no ASCII encoding. -/
def hashRecoveryCode (service : TotpService) (code : List Char) : Option String :=
  if isAscii (normalizedCode service code) then some (hexdigest (normalizedCode service code)) else none

def findRecoveryCode (service : TotpService) (store : SecurityStore) (factorId : Uuid) (code : List Char) :
    Option TotpRecoveryCodeRecord :=
  (hashRecoveryCode service code).bind fun codeHash =>
    store.recoveryCodes.find? fun row => row.factorId = factorId ∧ row.codeHash = codeHash ∧ row.usedAt = none

def decryptSecret (service : TotpService) (factor : TotpFactorRecord) : Except TotpError (List Char) :=
  orRaise (service.decrypt factor.encryptedSecret) (.verification "TOTP_SECRET_UNAVAILABLE")

def SecurityStore.activeFactor (store : SecurityStore) (identityId : Uuid) : Option TotpFactorRecord :=
  store.factors.find? fun row => row.identityId = identityId ∧ row.state = .active

/-- The random values an enrollment draws. -/
structure EnrollmentDraws where
  factorId : Uuid
  secret : List Char
  codes : List (List Char)
  codeId : Nat → Uuid

structure TotpEnrollmentResult where
  factorId : Uuid
  recoveryCodes : List (List Char)
  expiresAt : Timestamp

def disabledPending (now : Timestamp) (row : TotpFactorRecord) : TotpFactorRecord :=
  { row with state := .disabled, confirmedAt := some now }

def recoveryRecord (draws : EnrollmentDraws) (now : Timestamp) (entry : String × Nat) : TotpRecoveryCodeRecord where
  id := draws.codeId entry.2
  factorId := draws.factorId
  codeHash := entry.1
  createdAt := now
  usedAt := none

def beginEnrollment (service : TotpService) (store : SecurityStore) (draws : EnrollmentDraws) (identityId : Uuid)
    (now : Timestamp) : Except TotpError (SecurityStore × TotpEnrollmentResult) := do
  let identity ← orRaise (store.identities.find? fun row => row.id = identityId)
    (.enrollment "IDENTITY_NOT_ACTIVE")
  raiseIf (identity.lifecycle ≠ .active) (.enrollment "IDENTITY_NOT_ACTIVE")
  raiseIf ((store.activeFactor identityId).isSome = true) (.enrollment "TOTP_ALREADY_ENABLED")
  let pending := store.factors.update (fun row => row.identityId = identityId ∧ row.state = .pending)
    (disabledPending now) fun _ => rfl
  let encryptedSecret := service.encrypt draws.secret
  raiseIf (encryptedSecret.length < 80) .integrity
  let factors ← orRaise (pending.insert? {
    id := draws.factorId, identityId, encryptedSecret, state := .pending, createdAt := now,
    expiresAt := now + enrollmentTtl, confirmedAt := none, lastUsedStep := none }) .integrity
  let hashes ← orRaise (draws.codes.mapM (hashRecoveryCode service)) (.failed "UnicodeEncodeError")
  let recoveryCodes ← orRaise (store.recoveryCodes.insertAll? (hashes.zipIdx.map (recoveryRecord draws now)))
    .integrity
  return ({ store with factors, recoveryCodes },
    { factorId := draws.factorId, recoveryCodes := draws.codes, expiresAt := now + enrollmentTtl })

def confirmed (now : Timestamp) (counter : Int) (row : TotpFactorRecord) : TotpFactorRecord :=
  { row with state := .active, confirmedAt := some now, lastUsedStep := some counter }

def verified (now : Timestamp) (authStrength : AuthStrength) (row : AuthSessionRecord) : AuthSessionRecord :=
  { row with mfaVerifiedAt := some now, authStrength }

/-- The checks of `confirm_enrollment`, up to the match of the presented code. -/
def confirmChecks (service : TotpService) (store : SecurityStore) (identityId factorId : Uuid) (code : List Char)
    (now : Timestamp) : Except TotpError (TotpFactorRecord × Int) := do
  let factor ← orRaise (store.factors.find? fun row => row.id = factorId ∧ row.identityId = identityId)
    (.verification "TOTP_ENROLLMENT_NOT_PENDING")
  raiseIf (factor.state ≠ .pending) (.verification "TOTP_ENROLLMENT_NOT_PENDING")
  raiseIf (factor.expiresAt ≤ now) (.verification "TOTP_ENROLLMENT_EXPIRED")
  let secret ← decryptSecret service factor
  let counter ← matchingCounter service secret code now
  let counter ← orRaise counter (.verification "TOTP_CODE_INVALID")
  return (factor, counter)

/-- The unique index on the active factors of an identity refuses a second one. -/
def confirmEnrollment (service : TotpService) (store : SecurityStore) (identityId factorId : Uuid) (code : List Char)
    (now : Timestamp) (sessionId : Option Uuid) : Except TotpError (SecurityStore × Timestamp) := do
  let (factor, counter) ← confirmChecks service store identityId factorId code now
  raiseIf (∃ other ∈ store.factors, other.identityId = identityId ∧ other.state = .active) .integrity
  let factors := store.factors.update (fun row => row.id = factor.id) (confirmed now counter) fun _ => rfl
  match sessionId with
  | none => return ({ store with factors }, now)
  | some sessionId =>
    let authSession ← orRaise (store.sessions.find? fun row => row.id = sessionId ∧ row.identityId = identityId ∧
      row.state = .active) (.verification "SESSION_NOT_ACTIVE")
    let sessions := store.sessions.update (fun row => row.id = authSession.id) (verified now .mfa) fun _ => rfl
    return ({ store with factors, sessions }, now)

/-- How a presented code is accepted: as the code of a time step, or as a recovery code. -/
inductive Acceptance where
  | step (counter : Int)
  | recovery (row : TotpRecoveryCodeRecord)
deriving DecidableEq

def Acceptance.counter? : Acceptance → Option Int
  | .step counter => some counter
  | .recovery _ => none

def Acceptance.recovery? : Acceptance → Option TotpRecoveryCodeRecord
  | .step _ => none
  | .recovery row => some row

/-- The time step of a code, unless it is the last one the factor used. -/
def freshStep (service : TotpService) (factor : TotpFactorRecord) (code : List Char) (now : Timestamp) :
    Except TotpError (Option Int) := do
  let secret ← decryptSecret service factor
  let counter ← matchingCounter service secret code now
  return counter.filter fun counter => factor.lastUsedStep ≠ some counter

/-- A fresh time step is accepted, or else an unused recovery code. -/
def acceptCode (service : TotpService) (factor : TotpFactorRecord) (code : List Char) (now : Timestamp)
    (recovery : Option TotpRecoveryCodeRecord) : Except TotpError Acceptance := do
  match ← freshStep service factor code now with
  | some counter => return .step counter
  | none =>
    let row ← orRaise recovery (.verification "TOTP_CODE_INVALID")
    return .recovery row

/-- The acceptance of a code for an identity; the statements that lock the factor and the recovery code see what is
    committed when they run. -/
def factorChecks (service : TotpService) (view : Nat → SecurityStore) (identityId : Uuid) (code : List Char)
    (now : Timestamp) : Except TotpError (TotpFactorRecord × Acceptance) := do
  let factor ← orRaise ((view 0).activeFactor identityId) (.verification "TOTP_NOT_ENABLED")
  let acceptance ← acceptCode service factor code now (findRecoveryCode service (view 1) factor.id code)
  return (factor, acceptance)

structure TotpVerificationResult where
  sessionId : Uuid
  usedRecoveryCode : Bool
  verifiedAt : Timestamp

def stepUsed (counter : Int) (row : TotpFactorRecord) : TotpFactorRecord :=
  { row with lastUsedStep := some counter }

def codeUsed (now : Timestamp) (row : TotpRecoveryCodeRecord) : TotpRecoveryCodeRecord :=
  { row with usedAt := some now }

def SecurityStore.useCode (store : SecurityStore) (row : TotpRecoveryCodeRecord) (now : Timestamp) :
    Table TotpRecoveryCodeRecord :=
  store.recoveryCodes.update (fun other => other.id = row.id) (codeUsed now) fun _ => rfl

def SecurityStore.stepUpSession (store : SecurityStore) (sessionId : Uuid) : Except TotpError AuthSessionRecord := do
  let authSession ← orRaise (store.sessions.find? fun row => row.id = sessionId) (.verification "SESSION_NOT_ACTIVE")
  raiseIf (authSession.state ≠ .active) (.verification "SESSION_NOT_ACTIVE")
  return authSession

/-- What `verify_step_up` writes. -/
def stepUp (store : SecurityStore) (sessionId : Uuid) (factor : TotpFactorRecord) (now : Timestamp)
    (acceptance : Acceptance) : SecurityStore × TotpVerificationResult :=
  let sessions := store.sessions.update (fun row => row.id = sessionId) (verified now .mfaStepUp) fun _ => rfl
  match acceptance with
  | .step counter =>
    ({ store with
        sessions
        factors := store.factors.update (fun row => row.id = factor.id) (stepUsed counter) fun _ => rfl },
      ⟨sessionId, false, now⟩)
  | .recovery row => ({ store with sessions, recoveryCodes := store.useCode row now }, ⟨sessionId, true, now⟩)

/-- The checks of `verify_step_up`, up to the acceptance of the presented code. -/
def stepUpChecks (service : TotpService) (view : Nat → SecurityStore) (sessionId : Uuid) (code : List Char)
    (now : Timestamp) : Except TotpError (TotpFactorRecord × Acceptance) := do
  let authSession ← (view 0).stepUpSession sessionId
  factorChecks service (fun statement => view (statement + 1)) authSession.identityId code now

def verifyStepUp (service : TotpService) (view : Nat → SecurityStore) (store : SecurityStore) (sessionId : Uuid)
    (code : List Char) (now : Timestamp) : Except TotpError (SecurityStore × TotpVerificationResult) := do
  let (factor, acceptance) ← stepUpChecks service view sessionId code now
  return stepUp store sessionId factor now acceptance

def demoted (row : AuthSessionRecord) : AuthSessionRecord :=
  { row with authStrength := .password, mfaVerifiedAt := none }

def disabledFactor (row : TotpFactorRecord) : TotpFactorRecord := { row with state := .disabled }

/-- What `disable` writes. -/
def disabling (store : SecurityStore) (identityId : Uuid) (factor : TotpFactorRecord) (now : Timestamp)
    (acceptance : Acceptance) : SecurityStore :=
  { store with
    sessions := store.sessions.update (fun row => row.identityId = identityId ∧ row.state = .active) demoted
      fun _ => rfl
    factors := store.factors.update (fun row => row.id = factor.id) disabledFactor fun _ => rfl
    recoveryCodes := match acceptance with
      | .step _ => store.recoveryCodes
      | .recovery row => store.useCode row now }

def disable (service : TotpService) (view : Nat → SecurityStore) (store : SecurityStore) (identityId : Uuid)
    (code : List Char) (now : Timestamp) : Except TotpError SecurityStore := do
  let (factor, acceptance) ← factorChecks service view identityId code now
  return disabling store identityId factor now acceptance

end SmartAo.Security
