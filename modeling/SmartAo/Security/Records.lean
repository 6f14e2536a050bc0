import SmartAo.Assignment.Records

namespace SmartAo.Security

open SmartAo.Foundation SmartAo.Platform SmartAo.Assignment

inductive IdentityLifecycle where
  | pendingVerification
  | active
  | suspended
  | locked
  | archived
deriving DecidableEq

structure IdentityRecord where
  id : Uuid
  emailNormalized : String
  lifecycle : IdentityLifecycle
deriving DecidableEq

instance : Schema IdentityRecord := .keyed fun row => (row.id, row.emailNormalized)

/-- The columns of a tenant membership that authentication reads. -/
structure IdentityMembershipRecord where
  id : Uuid
  tenantId : Uuid
  identityId : Uuid
  role : ActorKind
  state : MembershipState
deriving DecidableEq

instance : Schema IdentityMembershipRecord := .keyed fun row => (row.id, (row.tenantId, row.identityId))

structure PasswordCredentialRecord where
  id : Uuid
  identityId : Uuid
  passwordHash : String
  algorithm : String
deriving DecidableEq

instance : Schema PasswordCredentialRecord := .keyed fun row => (row.id, row.identityId)

inductive SessionState where
  | active
  | expired
  | revoked
deriving DecidableEq

inductive AuthStrength where
  | password
  | mfa
  | mfaStepUp
deriving DecidableEq

/-- A revocable browser session bound to one tenant membership and identity. -/
structure AuthSessionRecord where
  id : Uuid
  tenantId : Uuid
  membershipId : Uuid
  identityId : Uuid
  state : SessionState
  authStrength : AuthStrength
  tokenVersion : Nat
  issuedAt : Timestamp
  lastSeenAt : Timestamp
  expiresAt : Timestamp
  absoluteExpiresAt : Timestamp
  mfaVerifiedAt : Option Timestamp
  revokedAt : Option Timestamp
  revokeReason : Option String
deriving DecidableEq

instance : Schema AuthSessionRecord := .primary fun row => row.id

/-- The check constraints of a session row. -/
def AuthSessionRecord.checks (row : AuthSessionRecord) : Bool :=
  1 ≤ row.tokenVersion && row.issuedAt < row.expiresAt && row.issuedAt < row.absoluteExpiresAt &&
    row.expiresAt ≤ row.absoluteExpiresAt && row.issuedAt ≤ row.lastSeenAt &&
    (row.authStrength == .password) == row.mfaVerifiedAt.isNone &&
    (row.state == .revoked) == row.revokedAt.isSome && (row.state == .revoked) == row.revokeReason.isSome

inductive FamilyState where
  | active
  | compromised
  | revoked
  | expired
deriving DecidableEq

/-- A single revocable refresh-token lineage for one browser session. -/
structure RefreshTokenFamilyRecord where
  id : Uuid
  tenantId : Uuid
  sessionId : Uuid
  state : FamilyState
  issuedAt : Timestamp
  expiresAt : Timestamp
  revokedAt : Option Timestamp
  revokeReason : Option String
deriving DecidableEq

instance : Schema RefreshTokenFamilyRecord := .keyed fun row => (row.id, (row.tenantId, row.sessionId))

def RefreshTokenFamilyRecord.revokes (row : RefreshTokenFamilyRecord) : Bool :=
  row.state == .compromised || row.state == .revoked

def RefreshTokenFamilyRecord.checks (row : RefreshTokenFamilyRecord) : Bool :=
  row.issuedAt < row.expiresAt && row.revokes == row.revokedAt.isSome && row.revokes == row.revokeReason.isSome

inductive RefreshTokenState where
  | active
  | rotated
  | revoked
  | expired
deriving DecidableEq

/-- One opaque refresh-token hash in a rotating refresh-token family. -/
structure RefreshTokenRecord where
  id : Uuid
  tenantId : Uuid
  familyId : Uuid
  parentTokenId : Option Uuid
  tokenHash : String
  state : RefreshTokenState
  issuedAt : Timestamp
  expiresAt : Timestamp
  consumedAt : Option Timestamp
  revokedAt : Option Timestamp
deriving DecidableEq

instance : Schema RefreshTokenRecord := .keyed fun row => (row.id, row.tokenHash)

def RefreshTokenRecord.checks (row : RefreshTokenRecord) : Bool :=
  row.issuedAt < row.expiresAt && match row.state with
    | .active | .expired => row.consumedAt.isNone && row.revokedAt.isNone
    | .rotated => row.consumedAt.isSome && row.revokedAt.isNone
    | .revoked => row.revokedAt.isSome

inductive FactorState where
  | pending
  | active
  | disabled
deriving DecidableEq

/-- Encrypted TOTP factor owned by one global identity. -/
structure TotpFactorRecord where
  id : Uuid
  identityId : Uuid
  encryptedSecret : String
  state : FactorState
  createdAt : Timestamp
  expiresAt : Timestamp
  confirmedAt : Option Timestamp
  lastUsedStep : Option Int
deriving DecidableEq

instance : Schema TotpFactorRecord := .primary fun row => row.id

/-- One-time hashed recovery code for a TOTP factor. -/
structure TotpRecoveryCodeRecord where
  id : Uuid
  factorId : Uuid
  codeHash : String
  createdAt : Timestamp
  usedAt : Option Timestamp
deriving DecidableEq

instance : Schema TotpRecoveryCodeRecord := .keyed fun row => (row.id, (row.factorId, row.codeHash))

structure SecurityStore where
  identities : Table IdentityRecord
  memberships : Table IdentityMembershipRecord
  credentials : Table PasswordCredentialRecord
  sessions : Table AuthSessionRecord
  families : Table RefreshTokenFamilyRecord
  refreshTokens : Table RefreshTokenRecord
  factors : Table TotpFactorRecord
  recoveryCodes : Table TotpRecoveryCodeRecord

def SecurityStore.empty : SecurityStore := ⟨.empty, .empty, .empty, .empty, .empty, .empty, .empty, .empty⟩

end SmartAo.Security
