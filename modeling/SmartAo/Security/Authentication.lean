import SmartAo.Security.Records
import SmartAo.Security.AccessToken
import SmartAo.Foundation.Text

namespace SmartAo.Security

open SmartAo.Foundation SmartAo.Platform SmartAo.Assignment

inductive AuthError where
  | invalidCredentials
  | refreshRejected
  | unauthenticated
  | integrity
deriving DecidableEq

/-- What the service computes with: `str.lower`, and the password verifier. -/
structure AuthenticationService where
  lower : String → String
  verify : String → String → Bool

def sessionIdleTimeout : Int := 28800000000

def absoluteTimeout (role : ActorKind) : Int :=
  if role = .patronAdmin ∨ role = .patronDelegate then 43200000000 else 86400000000

/-- The rows of sessions, families and tokens meet their check constraints. -/
def SecurityStore.valid (store : SecurityStore) : Bool :=
  store.sessions.rows.all (·.checks) && store.families.rows.all (·.checks) && store.refreshTokens.rows.all (·.checks)

def SecurityStore.committed (store : SecurityStore) : Except AuthError SecurityStore := do
  raiseIf (store.valid = false) .integrity
  return store

/-- The identifiers and the opaque token that an operation draws. -/
structure AuthDraws where
  sessionId : Uuid
  familyId : Uuid
  tokenId : Uuid
  token : List Char

structure LoginResult where
  identityId : Uuid
  membershipId : Uuid
  sessionId : Uuid
  tokenVersion : Nat
  refreshFamilyId : Uuid
  refreshTokenId : Uuid
  refreshToken : List Char
  sessionExpiresAt : Timestamp
  sessionAbsoluteExpiresAt : Timestamp

/-- The join of an active identity, its credential and its active membership in a tenant. -/
def SecurityStore.candidate (store : SecurityStore) (email : String) (tenantId : Uuid) :
    Option (IdentityRecord × PasswordCredentialRecord × IdentityMembershipRecord) := do
  let identity ← store.identities.find? fun row => row.emailNormalized = email ∧ row.lifecycle = .active
  let credential ← store.credentials.find? fun row => row.identityId = identity.id
  let membership ← store.memberships.find? fun row =>
    row.identityId = identity.id ∧ row.tenantId = tenantId ∧ row.state = .active
  return (identity, credential, membership)

def openedSession (draws : AuthDraws) (membership : IdentityMembershipRecord) (identityId : Uuid) (now : Timestamp) :
    AuthSessionRecord where
  id := draws.sessionId
  tenantId := membership.tenantId
  membershipId := membership.id
  identityId := identityId
  state := .active
  authStrength := .password
  tokenVersion := 1
  issuedAt := now
  lastSeenAt := now
  expiresAt := min (now + sessionIdleTimeout) (now + absoluteTimeout membership.role)
  absoluteExpiresAt := now + absoluteTimeout membership.role
  mfaVerifiedAt := none
  revokedAt := none
  revokeReason := none

def openedFamily (draws : AuthDraws) (authSession : AuthSessionRecord) (now : Timestamp) :
    RefreshTokenFamilyRecord where
  id := draws.familyId
  tenantId := authSession.tenantId
  sessionId := authSession.id
  state := .active
  issuedAt := now
  expiresAt := authSession.absoluteExpiresAt
  revokedAt := none
  revokeReason := none

/-- A token as it is issued, after its parent in the family. -/
def issuedToken (draws : AuthDraws) (family : RefreshTokenFamilyRecord) (parent : Option Uuid) (now : Timestamp) :
    RefreshTokenRecord where
  id := draws.tokenId
  tenantId := family.tenantId
  familyId := family.id
  parentTokenId := parent
  tokenHash := hexdigest draws.token
  state := .active
  issuedAt := now
  expiresAt := family.expiresAt
  consumedAt := none
  revokedAt := none

def login (service : AuthenticationService) (store : SecurityStore) (draws : AuthDraws) (email password : String)
    (tenantId : Uuid) (now : Timestamp) : Except AuthError (SecurityStore × LoginResult) := do
  let (identity, credential, membership) ← orRaise (store.candidate (service.lower (strip email)) tenantId)
    .invalidCredentials
  raiseIf (credential.algorithm ≠ "ARGON2ID" ∨ service.verify credential.passwordHash password = false)
    .invalidCredentials
  let authSession := openedSession draws membership identity.id now
  let refreshFamily := openedFamily draws authSession now
  let refreshToken := issuedToken draws refreshFamily none now
  let sessions ← orRaise (store.sessions.insert? authSession) .integrity
  let families ← orRaise (store.families.insert? refreshFamily) .integrity
  let refreshTokens ← orRaise (store.refreshTokens.insert? refreshToken) .integrity
  let next ← SecurityStore.committed { store with sessions, families, refreshTokens }
  return (next, {
    identityId := identity.id, membershipId := membership.id, sessionId := authSession.id,
    tokenVersion := authSession.tokenVersion, refreshFamilyId := refreshFamily.id, refreshTokenId := refreshToken.id,
    refreshToken := draws.token, sessionExpiresAt := authSession.expiresAt,
    sessionAbsoluteExpiresAt := authSession.absoluteExpiresAt })

def revokedSession (now : Timestamp) (reason : String) (row : AuthSessionRecord) : AuthSessionRecord :=
  { row with
    state := .revoked, revokedAt := some now, revokeReason := some reason, tokenVersion := row.tokenVersion + 1 }

def revokedFamily (now : Timestamp) (state : FamilyState) (reason : String) (row : RefreshTokenFamilyRecord) :
    RefreshTokenFamilyRecord :=
  { row with state, revokedAt := some now, revokeReason := some reason }

def revokedToken (now : Timestamp) (row : RefreshTokenRecord) : RefreshTokenRecord :=
  { row with state := .revoked, revokedAt := some now }

def SecurityStore.revokeSession (store : SecurityStore) (sessionId : Uuid) (now : Timestamp) (reason : String) :
    SecurityStore :=
  { store with
    sessions := store.sessions.update (fun row => row.id = sessionId) (revokedSession now reason) fun _ => rfl }

/-- `_revoke_family_and_active_tokens`. -/
def SecurityStore.revokeFamily (store : SecurityStore) (familyId : Uuid) (now : Timestamp) (state : FamilyState)
    (reason : String) : SecurityStore :=
  { store with
    families := store.families.update (fun row => row.id = familyId) (revokedFamily now state reason) fun _ => rfl
    refreshTokens := store.refreshTokens.update (fun row => row.familyId = familyId ∧ row.state = .active)
      (revokedToken now) fun _ => rfl }

def logout (store : SecurityStore) (sessionId : Uuid) (now : Timestamp) : Except AuthError (SecurityStore × Bool) :=
  match store.sessions.find? fun row => row.id = sessionId with
  | none => return (store, false)
  | some authSession =>
    if authSession.state ≠ .active then return (store, false)
    else do
      let revoked := store.revokeSession authSession.id now "LOGOUT"
      let next ← SecurityStore.committed <|
        match store.families.find? fun row => row.sessionId = authSession.id with
        | none => revoked
        | some refreshFamily => revoked.revokeFamily refreshFamily.id now .revoked "LOGOUT"
      return (next, true)

structure RefreshResult where
  identityId : Uuid
  sessionId : Uuid
  tokenVersion : Nat
  refreshFamilyId : Uuid
  refreshTokenId : Uuid
  refreshToken : List Char
  sessionExpiresAt : Timestamp
  sessionAbsoluteExpiresAt : Timestamp

def lineageIsRefreshable (authSession : AuthSessionRecord) (refreshFamily : RefreshTokenFamilyRecord)
    (currentToken : RefreshTokenRecord) (membership : Option IdentityMembershipRecord)
    (identity : Option IdentityRecord) (now : Timestamp) : Bool :=
  authSession.state = .active ∧ refreshFamily.state = .active ∧ membership.any (fun row => row.state = .active) ∧
    identity.any (fun row => row.lifecycle = .active) ∧ now < authSession.expiresAt ∧
    now < authSession.absoluteExpiresAt ∧ now < refreshFamily.expiresAt ∧ now < currentToken.expiresAt

def expiredSession (row : AuthSessionRecord) : AuthSessionRecord := { row with state := .expired }

def expiredFamily (row : RefreshTokenFamilyRecord) : RefreshTokenFamilyRecord := { row with state := .expired }

def expiredToken (row : RefreshTokenRecord) : RefreshTokenRecord := { row with state := .expired }

def SecurityStore.expireSession (store : SecurityStore) (sessionId : Uuid) : SecurityStore :=
  { store with sessions := store.sessions.update (fun row => row.id = sessionId) expiredSession fun _ => rfl }

def SecurityStore.expireFamily (store : SecurityStore) (familyId : Uuid) : SecurityStore :=
  { store with
    families := store.families.update (fun row => row.id = familyId) expiredFamily fun _ => rfl
    refreshTokens := store.refreshTokens.update (fun row => row.familyId = familyId ∧ row.state = .active)
      expiredToken fun _ => rfl }

/-- `_compromise_lineage`. -/
def SecurityStore.compromiseLineage (store : SecurityStore) (authSession : AuthSessionRecord)
    (refreshFamily : RefreshTokenFamilyRecord) (now : Timestamp) : SecurityStore :=
  (store.revokeSession authSession.id now "REFRESH_REPLAY").revokeFamily refreshFamily.id now .compromised
    "REFRESH_REPLAY"

/-- `_invalidate_lineage`. -/
def SecurityStore.invalidateLineage (store : SecurityStore) (authSession : AuthSessionRecord)
    (refreshFamily : RefreshTokenFamilyRecord) (now : Timestamp) : SecurityStore :=
  if authSession.absoluteExpiresAt ≤ now ∨ refreshFamily.expiresAt ≤ now then
    (store.expireSession authSession.id).expireFamily refreshFamily.id
  else (store.revokeSession authSession.id now "AUTH_CONTEXT_INVALID").revokeFamily refreshFamily.id now .revoked
    "AUTH_CONTEXT_INVALID"

def rotatedToken (now : Timestamp) (row : RefreshTokenRecord) : RefreshTokenRecord :=
  { row with state := .rotated, consumedAt := some now }

/-- The idle expiry starts again, within the absolute one. -/
def seenSession (now : Timestamp) (row : AuthSessionRecord) : AuthSessionRecord :=
  { row with lastSeenAt := now, expiresAt := min (now + sessionIdleTimeout) row.absoluteExpiresAt }

def SecurityStore.seeSession (store : SecurityStore) (sessionId : Uuid) (now : Timestamp) :
    Table AuthSessionRecord :=
  store.sessions.update (fun row => row.id = sessionId) (seenSession now) fun _ => rfl

/-- The token, the family and the session of a presented text. -/
def SecurityStore.presentedLineage (store : SecurityStore) (refreshToken : List Char) :
    Option (RefreshTokenRecord × RefreshTokenFamilyRecord × AuthSessionRecord) := do
  let currentToken ← store.refreshTokens.find? fun row => row.tokenHash = hexdigest refreshToken
  let refreshFamily ← store.families.find? fun row => row.id = currentToken.familyId
  let authSession ← store.sessions.find? fun row => row.id = refreshFamily.sessionId
  return (currentToken, refreshFamily, authSession)

/-- A refresh that ends without a result has committed what it found, and is rejected afterwards. -/
def refresh (store : SecurityStore) (draws : AuthDraws) (refreshToken : List Char) (now : Timestamp) :
    Except AuthError (SecurityStore × Option RefreshResult) := do
  let (currentToken, refreshFamily, authSession) ← orRaise (store.presentedLineage refreshToken) .refreshRejected
  if currentToken.state = .rotated ∧ refreshFamily.state = .active then
    let next ← (store.compromiseLineage authSession refreshFamily now).committed
    return (next, none)
  else
    raiseIf (currentToken.state ≠ .active) .refreshRejected
    let membership := store.memberships.find? fun row => row.id = authSession.membershipId
    let identity := store.identities.find? fun row => row.id = authSession.identityId
    if lineageIsRefreshable authSession refreshFamily currentToken membership identity now = false then
      let next ← (store.invalidateLineage authSession refreshFamily now).committed
      return (next, none)
    else
      let rotated := store.refreshTokens.update (fun row => row.id = currentToken.id) (rotatedToken now) fun _ => rfl
      let nextToken := issuedToken draws refreshFamily (some currentToken.id) now
      let refreshTokens ← orRaise (rotated.insert? { nextToken with tenantId := currentToken.tenantId }) .integrity
      let next ← SecurityStore.committed
        { store with sessions := store.seeSession authSession.id now, refreshTokens }
      let seen := seenSession now authSession
      return (next, some {
        identityId := authSession.identityId, sessionId := authSession.id, tokenVersion := authSession.tokenVersion,
        refreshFamilyId := refreshFamily.id, refreshTokenId := nextToken.id, refreshToken := draws.token,
        sessionExpiresAt := seen.expiresAt, sessionAbsoluteExpiresAt := seen.absoluteExpiresAt })

/-- The trusted facts of an actor, beside what its role and assignments allow. -/
structure ResolvedActor where
  identityId : Uuid
  tenantId : Uuid
  membershipId : Uuid
  actorKind : ActorKind
  sessionId : Uuid
  authenticatedAt : Timestamp
  mfaVerifiedAt : Option Timestamp

/-- The join of the session that claims name, its membership and its identity. -/
def SecurityStore.claimed (store : SecurityStore) (claims : AccessTokenClaims) :
    Option (AuthSessionRecord × IdentityMembershipRecord × IdentityRecord) := do
  let authSession ← store.sessions.find? fun row => row.id = claims.sessionId ∧ row.identityId = claims.subject ∧
    (row.tokenVersion : Int) = claims.tokenVersion
  let membership ← store.memberships.find? fun row => row.id = authSession.membershipId ∧
    row.tenantId = authSession.tenantId ∧ row.identityId = authSession.identityId
  let identity ← store.identities.find? fun row => row.id = authSession.identityId
  return (authSession, membership, identity)

/-- The resolution of decoded claims; one that ends without an actor is rejected after its commit. -/
def resolve (store : SecurityStore) (claims : Option AccessTokenClaims) (now : Timestamp) :
    Except AuthError (SecurityStore × Option ResolvedActor) := do
  let claims ← orRaise claims .unauthenticated
  match store.claimed claims with
  | none => return (store, none)
  | some (authSession, membership, identity) =>
    if authSession.state = .active ∧ membership.state = .active ∧ identity.lifecycle = .active ∧
        now < authSession.expiresAt ∧ now < authSession.absoluteExpiresAt then
      let next ← SecurityStore.committed { store with sessions := store.seeSession authSession.id now }
      return (next, some {
        identityId := identity.id, tenantId := membership.tenantId, membershipId := membership.id,
        actorKind := membership.role, sessionId := authSession.id, authenticatedAt := authSession.issuedAt,
        mfaVerifiedAt := authSession.mfaVerifiedAt })
    else if authSession.state = .active ∧ authSession.expiresAt ≤ now then
      let next ← (store.expireSession authSession.id).committed
      return (next, none)
    else return (store, none)

/-- An operation of the services, or what other services make of identities, memberships and credentials. -/
inductive AuthOperation where
  | login (draws : AuthDraws) (email password : String) (tenantId : Uuid) (now : Timestamp)
  | refresh (draws : AuthDraws) (refreshToken : List Char) (now : Timestamp)
  | logout (sessionId : Uuid) (now : Timestamp)
  | resolve (claims : Option AccessTokenClaims) (now : Timestamp)
  | foreign (identities : Table IdentityRecord) (memberships : Table IdentityMembershipRecord)
    (credentials : Table PasswordCredentialRecord)

def authStep (service : AuthenticationService) (store : SecurityStore) : AuthOperation → Except AuthError SecurityStore
  | .login draws email password tenantId now => (login service store draws email password tenantId now).map Prod.fst
  | .refresh draws refreshToken now => (SmartAo.Security.refresh store draws refreshToken now).map Prod.fst
  | .logout sessionId now => (SmartAo.Security.logout store sessionId now).map Prod.fst
  | .resolve claims now => (SmartAo.Security.resolve store claims now).map Prod.fst
  | .foreign identities memberships credentials => .ok { store with identities, memberships, credentials }

/-- The session of the lineage that an operation presents a token of. -/
def presentedSession (store : SecurityStore) : AuthOperation → Option Uuid
  | .refresh _ refreshToken _ => (store.presentedLineage refreshToken).map fun found => found.2.1.sessionId
  | .resolve claims _ => claims.map (·.sessionId)
  | _ => none

/-- A refresh that returns a new token, or a resolution that returns an actor. -/
def succeeds (store : SecurityStore) : AuthOperation → Bool
  | .refresh draws refreshToken now =>
    ((SmartAo.Security.refresh store draws refreshToken now).toOption.bind Prod.snd).isSome
  | .resolve claims now => ((SmartAo.Security.resolve store claims now).toOption.bind Prod.snd).isSome
  | _ => false

end SmartAo.Security
