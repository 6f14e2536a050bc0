import SmartAo.Foundation.Digest
import SmartAo.Foundation.RowSets
import SmartAo.Foundation.Simulation
import SmartAo.Foundation.Text
import SmartAo.Security.Records

namespace SmartAo.Security

open SmartAo.Foundation SmartAo.Platform SmartAo.Assignment

inductive TenantLifecycle where
  | active
  | suspended
  | archived
deriving DecidableEq

structure TenantRecord where
  id : Uuid
  slug : List Char
  lifecycle : TenantLifecycle
deriving DecidableEq

instance : Schema TenantRecord := .keyed fun row => (row.id, row.slug)

/-- The one-time bootstrap secret hash for the first tenant patron. -/
structure TenantBootstrapTokenRecord where
  id : Uuid
  tenantId : Uuid
  tokenHash : String
  issuedAt : Timestamp
  expiresAt : Timestamp
  consumedAt : Option Timestamp
deriving DecidableEq

/-- Unique by identifier, by tenant, and by hash. -/
instance : Schema TenantBootstrapTokenRecord where
  Columns := Uuid × Uuid × String
  columns row := (row.id, row.tenantId, row.tokenHash)
  Clash first second := first.1 = second.1 ∨ first.2.1 = second.2.1 ∨ first.2.2 = second.2.2
  decidableClash _ _ := inferInstance
  symm clash := clash.imp Eq.symm fun keys => keys.imp Eq.symm Eq.symm

structure BootstrapStore where
  tenants : Table TenantRecord
  tokens : Table TenantBootstrapTokenRecord
  identities : Table IdentityRecord
  credentials : Table PasswordCredentialRecord
  memberships : Table IdentityMembershipRecord

def BootstrapStore.empty : BootstrapStore := ⟨.empty, .empty, .empty, .empty, .empty⟩

inductive BootstrapError where
  | tenantProvisioningRejected
  | bootstrapTokenRejected
  | bootstrapCompletionRejected
  | waits
deriving DecidableEq

def bootstrapTokenTtl : Int := 3600 * 1000000

def isSlugChar (c : Char) : Bool := ('a' ≤ c ∧ c ≤ 'z') ∨ ('0' ≤ c ∧ c ≤ '9')

/-- `^[a-z0-9][a-z0-9-]{1,119}$`, of the whole text. -/
def slugPattern : List Char → Bool
  | [] => false
  | first :: rest => isSlugChar first && 1 ≤ rest.length && rest.length ≤ 119 && rest.all fun c => isSlugChar c || c == '-'

section Services

-- `lower` is `str.lower`.
variable (lower : List Char → List Char)

/-- `_normalize_slug` -/
def normalizeSlug (value : List Char) : Option (List Char) :=
  let normalized := lower (stripChars value)
  if slugPattern normalized then some normalized else none

/-- `_hash_secret` -/
def hashSecret (rawSecret : String) : String := hexdigest rawSecret.toList

/-- A call of `provision_tenant`, with what it draws. -/
structure TenantProvisioning where
  slug : List Char
  rawSecret : String
  tenantId : Uuid
  tokenId : Uuid
  now : Timestamp

def TenantProvisioning.token (call : TenantProvisioning) : TenantBootstrapTokenRecord where
  id := call.tokenId
  tenantId := call.tenantId
  tokenHash := hashSecret call.rawSecret
  issuedAt := call.now
  expiresAt := call.now + bootstrapTokenTtl
  consumedAt := none

def provisionTenant (call : TenantProvisioning) (store : BootstrapStore) : Except BootstrapError BootstrapStore := do
  let slug ← orRaise (normalizeSlug lower call.slug) .tenantProvisioningRejected
  raiseIf ((store.tenants.find? fun row => row.slug = slug).isSome = true) .tenantProvisioningRejected
  let tenants ← orRaise (store.tenants.insert? ⟨call.tenantId, slug, .active⟩) .tenantProvisioningRejected
  let tokens ← orRaise (store.tokens.insert? call.token) .tenantProvisioningRejected
  return { store with tenants, tokens }

/-- A call of `complete_first_patron`, with what it draws and what the hasher answers. -/
structure FirstPatronBootstrap where
  tenantId : Uuid
  bootstrapSecret : String
  email : List Char
  password : List Char
  passwordHash : String
  identityId : Uuid
  credentialId : Uuid
  membershipId : Uuid
  now : Timestamp

def FirstPatronBootstrap.emailNormalized (call : FirstPatronBootstrap) : List Char := lower (stripChars call.email)

def isActivePatron (tenantId : Uuid) (row : IdentityMembershipRecord) : Bool :=
  row.tenantId = tenantId ∧ row.role = .patronAdmin ∧ row.state = .active

def consume (now : Timestamp) (row : TenantBootstrapTokenRecord) : TenantBootstrapTokenRecord :=
  { row with consumedAt := some now }

/-- The token and the tenant are read as the call locked them; the inserts meet the constraints of the store as it is,
    among them one active patron a tenant. -/
def completeFirstPatron (call : FirstPatronBootstrap) (locked store : BootstrapStore) :
    Except BootstrapError BootstrapStore := do
  let email := call.emailNormalized lower
  raiseIf (email = [] ∨ 320 < email.length ∨ call.password.length < 14) .bootstrapCompletionRejected
  let token ← orRaise (locked.tokens.find? fun row =>
    row.tenantId = call.tenantId ∧ row.tokenHash = hashSecret call.bootstrapSecret) .bootstrapTokenRejected
  raiseIf ((locked.tenants.find? fun row => row.id = call.tenantId ∧ row.lifecycle = .active).isNone = true)
    .bootstrapTokenRejected
  raiseIf (token.consumedAt ≠ none ∨ token.expiresAt ≤ call.now) .bootstrapTokenRejected
  raiseIf (locked.memberships.rows.any (isActivePatron call.tenantId) = true) .bootstrapTokenRejected
  raiseIf ("$argon2id$".toList.isPrefixOf call.passwordHash.toList = false) .bootstrapCompletionRejected
  let identities ← orRaise (store.identities.insert? ⟨call.identityId, String.ofList email, .active⟩)
    .bootstrapCompletionRejected
  let credentials ← orRaise (store.credentials.insert?
    ⟨call.credentialId, call.identityId, call.passwordHash, "ARGON2ID"⟩) .bootstrapCompletionRejected
  raiseIf (store.memberships.rows.any (isActivePatron call.tenantId) = true) .bootstrapCompletionRejected
  let memberships ← orRaise (store.memberships.insert?
    ⟨call.membershipId, call.tenantId, call.identityId, .patronAdmin, .active⟩) .bootstrapCompletionRejected
  return { store with
    identities, credentials, memberships
    tokens := store.tokens.update (fun row => row.id = token.id) (consume call.now) fun _ => rfl }

/-- What runs in one transaction of its own; memberships change elsewhere too. -/
inductive BootstrapInput where
  | provision (call : TenantProvisioning)
  | memberships (memberships : Table IdentityMembershipRecord)

def bootstrapAlone (store : BootstrapStore) : BootstrapInput → Except BootstrapError BootstrapStore
  | .provision call => provisionTenant lower call store
  | .memberships memberships => .ok { store with memberships }

/-- The rows of a tenant that a completion locks. -/
def lockedTenants (call : FirstPatronBootstrap) : List Uuid := [call.tenantId]

def bootstrapStep (state : Holders BootstrapStore FirstPatronBootstrap)
    (input : HolderInput BootstrapInput FirstPatronBootstrap) :
    Except BootstrapError (Holders BootstrapStore FirstPatronBootstrap) :=
  state.step lockedTenants .waits (bootstrapAlone lower) (fun call _ locked store => completeFirstPatron lower call locked store)
    input

/-- What the installer is told: a secret issued to a tenant, and a tenant whose first patron is established. -/
inductive BootstrapEvent where
  | issued (tenantId : Uuid) (slug : List Char) (tokenHash : String) (expiresAt : Timestamp)
  | redeemed (call : FirstPatronBootstrap)

def observeBootstrap (state : Holders BootstrapStore FirstPatronBootstrap) :
    HolderInput BootstrapInput FirstPatronBootstrap → List BootstrapEvent
  | .alone (.provision call) => ((normalizeSlug lower call.slug).map fun slug =>
      .issued call.tenantId slug (hashSecret call.rawSecret) (call.now + bootstrapTokenTtl)).toList
  | .finish index => (state.active[index]?.map fun holder => .redeemed holder.command).toList
  | _ => []

end Services

end SmartAo.Security
