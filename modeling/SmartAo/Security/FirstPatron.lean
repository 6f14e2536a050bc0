import SmartAo.Security.Bootstrap

namespace SmartAo.Security

open SmartAo.Foundation SmartAo.Platform SmartAo.Assignment

/-- The ledger of issued and redeemed secrets: a secret is issued once to a tenant under a name of its own; it is
    redeemed for that tenant, before it expires, and no other is after it. -/
def Allowed (history : List BootstrapEvent) : BootstrapEvent → Prop
  | .issued tenantId slug tokenHash _ => slugPattern slug = true ∧
      ∀ otherTenant otherSlug otherHash expiresAt, .issued otherTenant otherSlug otherHash expiresAt ∈ history →
        otherTenant ≠ tenantId ∧ otherSlug ≠ slug ∧ otherHash ≠ tokenHash
  | .redeemed call => (∃ slug expiresAt,
        .issued call.tenantId slug (hashSecret call.bootstrapSecret) expiresAt ∈ history ∧ call.now < expiresAt) ∧
      ∀ other, .redeemed other ∈ history → other.tenantId ≠ call.tenantId

open Classical in
noncomputable def ledgerStep (history : List BootstrapEvent) (event : BootstrapEvent) :
    Except Unit (List BootstrapEvent) :=
  if Allowed history event then .ok (history ++ [event]) else .error ()

theorem ledgerStep_ok {history later : List BootstrapEvent} {event : BootstrapEvent} :
    ledgerStep history event = .ok later ↔ Allowed history event ∧ later = history ++ [event] := by
  unfold ledgerStep
  split
  · rename_i allowed
    rw [Except.ok.injEq]
    exact ⟨fun same => ⟨allowed, same.symm⟩, fun both => both.2.symm⟩
  · rename_i refused
    exact iff_of_false (fun same => by cases same) fun both => refused both.1

variable {lower : List Char → List Char} {store later locked : BootstrapStore} {call : FirstPatronBootstrap}
  {history : List BootstrapEvent}

/-- What a completion relies on of the rows it locked. -/
def TenantKept (tenantId : Uuid) (seen store : BootstrapStore) : Prop :=
  ∀ token ∈ seen.tokens, token.tenantId = tenantId → token ∈ store.tokens

theorem TenantKept.trans {tenantId : Uuid} {first second third : BootstrapStore} (one : TenantKept tenantId first second)
    (two : TenantKept tenantId second third) : TenantKept tenantId first third :=
  fun token stored its => two token (one token stored its) its

/-- The identity and the credential that a completion has made. -/
structure Established (lower : List Char → List Char) (store : BootstrapStore) (call : FirstPatronBootstrap) : Prop where
  identity : ⟨call.identityId, String.ofList (call.emailNormalized lower), .active⟩ ∈ store.identities
  credential : ⟨call.credentialId, call.identityId, call.passwordHash, "ARGON2ID"⟩ ∈ store.credentials
  hashed : "$argon2id$".toList.isPrefixOf call.passwordHash.toList = true
  long : 14 ≤ call.password.length

/-- The tables tell what the ledger tells. -/
structure Ledger (lower : List Char → List Char) (store : BootstrapStore) (history : List BootstrapEvent) : Prop where
  tokens : ∀ token ∈ store.tokens, (∃ slug, .issued token.tenantId slug token.tokenHash token.expiresAt ∈ history) ∧
    (token.consumedAt = none → ∀ call, .redeemed call ∈ history → call.tenantId ≠ token.tenantId)
  issued : ∀ tenantId slug tokenHash expiresAt, .issued tenantId slug tokenHash expiresAt ∈ history →
    (∃ token ∈ store.tokens, token.tenantId = tenantId ∧ token.tokenHash = tokenHash) ∧
      ∃ tenant ∈ store.tenants, tenant.slug = slug
  redeemed : ∀ call, .redeemed call ∈ history → Established lower store call ∧
    ∃ token ∈ store.tokens, token.tenantId = call.tenantId

theorem provisionTenant_ok {call : TenantProvisioning} (accepted : provisionTenant lower call store = .ok later) :
    ∃ slug tenants tokens, normalizeSlug lower call.slug = some slug ∧ (∀ tenant ∈ store.tenants, tenant.slug ≠ slug) ∧
      store.tenants.insert? ⟨call.tenantId, slug, .active⟩ = some tenants ∧ store.tokens.insert? call.token = some tokens ∧
      later = { store with tenants, tokens } := by
  simp only [provisionTenant, bind_ok, orRaise_ok, raiseIf_ok, exists_unit, pure_ok] at accepted
  obtain ⟨slug, normal, absent, tenants, first, tokens, second, rfl⟩ := accepted
  refine ⟨slug, tenants, tokens, normal, fun tenant stored same => absent ?_, first, second, rfl⟩
  rw [Option.isSome_iff_ne_none]
  intro none_
  have missing := Table.find?_none.mp none_ tenant stored
  rw [decide_eq_false_iff_not] at missing
  exact missing same

theorem normalizeSlug_pattern {value slug : List Char} (normal : normalizeSlug lower value = some slug) :
    slugPattern slug = true := by
  unfold normalizeSlug at normal
  dsimp only at normal
  split at normal
  · cases normal
    assumption
  · cases normal

theorem completeFirstPatron_ok (accepted : completeFirstPatron lower call locked store = .ok later) :
    ∃ token identities credentials memberships, token ∈ locked.tokens ∧ token.tenantId = call.tenantId ∧
      token.tokenHash = hashSecret call.bootstrapSecret ∧ token.consumedAt = none ∧ call.now < token.expiresAt ∧
      14 ≤ call.password.length ∧ "$argon2id$".toList.isPrefixOf call.passwordHash.toList = true ∧
      store.identities.insert? ⟨call.identityId, String.ofList (call.emailNormalized lower), .active⟩ = some identities ∧
      store.credentials.insert? ⟨call.credentialId, call.identityId, call.passwordHash, "ARGON2ID"⟩ = some credentials ∧
      later = { store with
        identities, credentials, memberships
        tokens := store.tokens.update (fun row => row.id = token.id) (consume call.now) fun _ => rfl } := by
  simp only [completeFirstPatron, bind_ok, orRaise_ok, raiseIf_ok, exists_unit, pure_ok] at accepted
  obtain ⟨bounds, token, found, _, open_, _, hashed, identities, first, credentials, second, _, memberships, _, rfl⟩ := accepted
  have named := Table.find?_query found
  rw [decide_eq_true_eq] at named
  push Not at open_ bounds
  refine ⟨token, identities, credentials, memberships, Table.find?_mem found, named.1, named.2, open_.1, open_.2,
    bounds.2.2, ?_, first, second, rfl⟩
  exact Bool.of_not_eq_false hashed

theorem Ledger.provision (ledger : Ledger lower store history) {call : TenantProvisioning} {slug : List Char}
    (normal : normalizeSlug lower call.slug = some slug) (accepted : provisionTenant lower call store = .ok later) :
    Allowed history (.issued call.tenantId slug (hashSecret call.rawSecret) (call.now + bootstrapTokenTtl)) ∧
      Ledger lower later
        (history ++ [.issued call.tenantId slug (hashSecret call.rawSecret) (call.now + bootstrapTokenTtl)]) := by
  obtain ⟨named, tenants, tokens, normalized, absent, first, second, rfl⟩ := provisionTenant_ok accepted
  rw [normal, Option.some.injEq] at normalized
  subst normalized
  have fresh : ∀ token ∈ store.tokens, token.tenantId ≠ call.tenantId ∧ token.tokenHash ≠ hashSecret call.rawSecret :=
    fun token stored => ⟨fun same => Table.insert?_absent second token stored (.inr (.inl same)),
      fun same => Table.insert?_absent second token stored (.inr (.inr same))⟩
  have kept : ∀ token ∈ store.tokens, token ∈ tokens := fun _ stored => (Table.mem_insert? second).mpr (.inl stored)
  refine ⟨⟨normalizeSlug_pattern normal, fun otherTenant otherSlug otherHash expiresAt listed => ?_⟩, ?_, ?_, ?_⟩
  · obtain ⟨⟨token, stored, tenant, hash⟩, row, present, same⟩ := ledger.issued _ _ _ _ listed
    rw [← tenant, ← hash, ← same]
    exact ⟨(fresh token stored).1, absent row present, (fresh token stored).2⟩
  · intro token stored
    rcases (Table.mem_insert? second).mp stored with old | rfl
    · obtain ⟨⟨slug, listed⟩, unused⟩ := ledger.tokens token old
      refine ⟨⟨slug, List.mem_append_left _ listed⟩, fun open_ other redeemed => unused open_ other ?_⟩
      rcases List.mem_append.mp redeemed with earlier | last
      · exact earlier
      · cases List.mem_singleton.mp last
    · refine ⟨⟨slug, List.mem_append_right _ (List.mem_singleton_self _)⟩, fun _ other redeemed same => ?_⟩
      rcases List.mem_append.mp redeemed with earlier | last
      · obtain ⟨_, token, stored, its⟩ := ledger.redeemed other earlier
        exact (fresh token stored).1 (its.trans same)
      · cases List.mem_singleton.mp last
  · intro tenantId other tokenHash expiresAt listed
    rcases List.mem_append.mp listed with earlier | last
    · obtain ⟨⟨token, stored, its⟩, tenant, present, same⟩ := ledger.issued _ _ _ _ earlier
      exact ⟨⟨token, kept token stored, its⟩, tenant, (Table.mem_insert? first).mpr (.inl present), same⟩
    · cases List.mem_singleton.mp last
      exact ⟨⟨call.token, (Table.mem_insert? second).mpr (.inr rfl), rfl, rfl⟩, _,
        (Table.mem_insert? first).mpr (.inr rfl), rfl⟩
  · intro other listed
    rcases List.mem_append.mp listed with earlier | last
    · obtain ⟨established, token, stored, its⟩ := ledger.redeemed other earlier
      exact ⟨⟨established.identity, established.credential, established.hashed, established.long⟩, token, kept token stored, its⟩
    · cases List.mem_singleton.mp last

/-- Tokens of a store, by tenant. -/
theorem token_eq {one two : TenantBootstrapTokenRecord} (first : one ∈ store.tokens) (second : two ∈ store.tokens)
    (same : one.tenantId = two.tenantId ∨ one.id = two.id) : one = two :=
  Table.eq_of_conflict first second (same.elim (fun tenant => .inr (.inl tenant)) .inl)

theorem Ledger.complete (ledger : Ledger lower store history) (kept : TenantKept call.tenantId locked store)
    (accepted : completeFirstPatron lower call locked store = .ok later) :
    Allowed history (.redeemed call) ∧ Ledger lower later (history ++ [.redeemed call]) := by
  obtain ⟨token, identities, credentials, memberships, seen, its, hash, open_, before, long, hashed, first, second, rfl⟩ :=
    completeFirstPatron_ok accepted
  have stored := kept token seen its
  obtain ⟨⟨slug, listed⟩, unused⟩ := ledger.tokens token stored
  have stays : ∀ other ∈ store.tokens, ∃ after ∈ store.tokens.update (fun row => row.id = token.id) (consume call.now) fun _ => rfl,
      after.tenantId = other.tenantId ∧ after.tokenHash = other.tokenHash := by
    intro other present
    refine ⟨_, Table.mem_update.mpr ⟨other, present, rfl⟩, ?_⟩
    split <;> exact ⟨rfl, rfl⟩
  refine ⟨⟨⟨slug, token.expiresAt, by rw [← its, ← hash]; exact listed, before⟩, fun other redeemed => ?_⟩, ?_, ?_, ?_⟩
  · rw [← its]
    exact unused open_ other redeemed
  · intro after written
    have moved : after ∈ store.tokens.update (fun row => row.id = token.id) (consume call.now) fun _ => rfl := written
    rcases Table.mem_update_cases moved with ⟨old, outside⟩ | ⟨old, present, same, rfl⟩
    · obtain ⟨⟨slug, listed⟩, unused⟩ := ledger.tokens after old
      refine ⟨⟨slug, List.mem_append_left _ listed⟩, fun none_ other redeemed => ?_⟩
      rcases List.mem_append.mp redeemed with earlier | last
      · exact unused none_ other earlier
      · cases List.mem_singleton.mp last
        intro tenant
        have equal := token_eq old stored (.inl (tenant.symm.trans its.symm))
        exact of_decide_eq_false outside (congrArg (·.id) equal)
    · obtain ⟨⟨slug, listed⟩, _⟩ := ledger.tokens old present
      exact ⟨⟨slug, List.mem_append_left _ listed⟩, fun none_ => by cases none_⟩
  · intro tenantId other tokenHash expiresAt redeemed
    rcases List.mem_append.mp redeemed with earlier | last
    · obtain ⟨⟨row, present, tenant, same⟩, name⟩ := ledger.issued _ _ _ _ earlier
      obtain ⟨after, written, moved⟩ := stays row present
      exact ⟨⟨after, written, moved.1.trans tenant, moved.2.trans same⟩, name⟩
    · cases List.mem_singleton.mp last
  · intro other redeemed
    rcases List.mem_append.mp redeemed with earlier | last
    · obtain ⟨established, row, present, tenant⟩ := ledger.redeemed other earlier
      obtain ⟨after, written, moved⟩ := stays row present
      exact ⟨⟨(Table.mem_insert? first).mpr (.inl established.identity),
        (Table.mem_insert? second).mpr (.inl established.credential), established.hashed, established.long⟩,
        after, written, moved.1.trans tenant⟩
    · cases List.mem_singleton.mp last
      obtain ⟨after, written, moved⟩ := stays token stored
      exact ⟨⟨(Table.mem_insert? first).mpr (.inr rfl), (Table.mem_insert? second).mpr (.inr rfl), hashed, long⟩,
        after, written, moved.1.trans its⟩

theorem bootstrapAlone_kept {input : BootstrapInput} (accepted : bootstrapAlone lower store input = .ok later)
    (tenantId : Uuid) : TenantKept tenantId store later := by
  intro token stored _
  cases input with
  | provision call =>
    obtain ⟨_, _, _, _, _, _, second, rfl⟩ := provisionTenant_ok accepted
    exact (Table.mem_insert? second).mpr (.inl stored)
  | memberships memberships =>
    cases accepted
    exact stored

/-- A completion touches the token of its own tenant alone. -/
theorem completeFirstPatron_kept (kept : TenantKept call.tenantId locked store)
    (accepted : completeFirstPatron lower call locked store = .ok later) {tenantId : Uuid}
    (other : tenantId ≠ call.tenantId) : TenantKept tenantId store later := by
  obtain ⟨token, _, _, _, seen, its, _, _, _, _, _, _, _, rfl⟩ := completeFirstPatron_ok accepted
  intro row present tenant
  show row ∈ store.tokens.update (fun row => row.id = token.id) (consume call.now) fun _ => rfl
  refine Table.mem_update_of_not present (decide_eq_false fun same => other ?_)
  rw [← tenant, ← its, token_eq present (kept token seen its) (.inr same)]

variable {state next : Holders BootstrapStore FirstPatronBootstrap}

theorem bootstrapStep_locked {input : HolderInput BootstrapInput FirstPatronBootstrap}
    (locked : state.Locked lockedTenants TenantKept) (accepted : bootstrapStep lower state input = .ok next) :
    next.Locked lockedTenants TenantKept := by
  refine Holders.step_locked (fun _ _ _ stored _ => stored) TenantKept.trans
    (fun _ _ _ moved row => bootstrapAlone_kept moved row) (fun call _ seen store later kept finished row other => ?_)
    locked accepted
  exact completeFirstPatron_kept (kept call.tenantId (List.mem_singleton_self _)) finished
    fun same => other (List.mem_singleton.mpr same)

/-- The transactions hold their rows, and the store tells what the ledger tells. -/
structure Agrees (lower : List Char → List Char) (state : Holders BootstrapStore FirstPatronBootstrap)
    (history : List BootstrapEvent) : Prop where
  locked : state.Locked lockedTenants TenantKept
  ledger : Ledger lower state.store history

theorem simulated_event {event : BootstrapEvent} (allowed : Allowed history event)
    (agrees : Agrees lower next (history ++ [event])) : Simulated ledgerStep (Agrees lower) next history [event] := by
  have taken : ledgerStep history event = .ok (history ++ [event]) := ledgerStep_ok.mpr ⟨allowed, rfl⟩
  have accepted : (ledgerStep history event).isOk = true := by
    rw [taken]
    rfl
  refine ⟨⟨accepted, True.intro⟩, ?_⟩
  rw [run_cons, commit_ok taken, run_nil]
  exact agrees

theorem bootstrapStep_simulated {input : HolderInput BootstrapInput FirstPatronBootstrap}
    (agrees : Agrees lower state history) (accepted : bootstrapStep lower state input = .ok next) :
    Simulated ledgerStep (Agrees lower) next history (observeBootstrap lower state input) := by
  have locks := bootstrapStep_locked agrees.locked accepted
  have quiet : next.store = state.store → Simulated ledgerStep (Agrees lower) next history [] :=
    fun same => ⟨True.intro, locks, by rw [same]; exact agrees.ledger⟩
  unfold bootstrapStep at accepted
  cases input with
  | alone input =>
    obtain ⟨store, moved, rfl⟩ := except_map_ok.mp accepted
    cases input with
    | provision call =>
      obtain ⟨slug, _, _, normal, _⟩ := provisionTenant_ok moved
      obtain ⟨allowed, ledger⟩ := agrees.ledger.provision normal moved
      have observed : observeBootstrap lower state (.alone (.provision call)) =
          [.issued call.tenantId slug (hashSecret call.rawSecret) (call.now + bootstrapTokenTtl)] := by
        show ((normalizeSlug lower call.slug).map _).toList = _
        rw [normal]
        rfl
      rw [observed]
      exact simulated_event allowed ⟨locks, ledger⟩
    | memberships memberships =>
      cases moved
      refine ⟨True.intro, locks, ⟨agrees.ledger.tokens, agrees.ledger.issued, fun call listed => ?_⟩⟩
      obtain ⟨established, token⟩ := agrees.ledger.redeemed call listed
      exact ⟨⟨established.identity, established.credential, established.hashed, established.long⟩, token⟩
  | start command =>
    cases accepted
    exact quiet rfl
  | lock index =>
    unfold Holders.step at accepted
    dsimp only at accepted
    split at accepted
    · cases accepted
    · split at accepted
      · cases accepted
      · cases accepted
        exact quiet rfl
  | finish index =>
    unfold Holders.step at accepted
    dsimp only at accepted
    split at accepted
    · cases accepted
    · rename_i holder found
      split at accepted
      · cases accepted
      · rename_i seen locked
        obtain ⟨store, written, rfl⟩ := except_map_ok.mp accepted
        have kept := agrees.locked.kept holder (List.mem_of_getElem? found) seen locked holder.command.tenantId
          (List.mem_singleton_self _)
        obtain ⟨allowed, ledger⟩ := agrees.ledger.complete kept written
        have observed : observeBootstrap lower state (.finish index) = [.redeemed holder.command] := by
          show (state.active[index]?.map _).toList = _
          rw [found]
          rfl
        rw [observed]
        exact simulated_event allowed ⟨locks, ledger⟩
  | rollback index =>
    cases accepted
    exact quiet rfl

/-- What the ledger has accepted is its state. -/
theorem run_ledgerStep {events : List BootstrapEvent}
    (accepted : Along ledgerStep (fun history event => (ledgerStep history event).isOk = true) history events) :
    run ledgerStep history events = history ++ events := by
  induction events generalizing history with
  | nil => rw [run_nil, List.append_nil]
  | cons event events ih =>
    obtain ⟨taken, rest⟩ := accepted
    obtain ⟨later, same⟩ : ∃ later, ledgerStep history event = .ok later := by
      cases outcome : ledgerStep history event with
      | ok later => exact ⟨later, rfl⟩
      | error _ =>
        rw [outcome] at taken
        cases taken
    rw [commit_ok same] at rest
    rw [run_cons, commit_ok same, ih rest, (ledgerStep_ok.mp same).2, List.append_assoc, List.singleton_append]

/-- What a run of provisionings and completions promises. -/
structure BootstrapKept (lower : List Char → List Char) (events : List BootstrapEvent) (final : BootstrapStore) : Prop where
  allowed : ∀ before event, before ++ [event] <+: events → Allowed before event
  established : ∀ call, .redeemed call ∈ events → Established lower final call

/-- Whatever provisionings, completions, lost transactions and changes of memberships interleave, the first patron of a
    tenant is established once, by who has its secret and before that expires, with a verified kind of credential. -/
theorem first_patron_once (lower : List Char → List Char)
    (inputs : List (HolderInput BootstrapInput FirstPatronBootstrap)) :
    BootstrapKept lower (trace (bootstrapStep lower) (observeBootstrap lower) ⟨.empty, []⟩ inputs)
      (run (bootstrapStep lower) ⟨.empty, []⟩ inputs).store := by
  have start : Agrees lower ⟨.empty, []⟩ [] :=
    ⟨Holders.locked_empty BootstrapStore.empty, ⟨fun _ stored => absurd stored Table.not_mem_empty,
      fun _ _ _ _ listed => absurd listed List.not_mem_nil, fun _ listed => absurd listed List.not_mem_nil⟩⟩
  have follows : Simulated ledgerStep (Agrees lower) (run (bootstrapStep lower) ⟨.empty, []⟩ inputs) []
      (trace (bootstrapStep lower) (observeBootstrap lower) ⟨.empty, []⟩ inputs) :=
    run_simulates (fun _ _ _ _ agrees _ accepted => bootstrapStep_simulated agrees accepted) start (along_trivial _ inputs)
  have whole := run_ledgerStep follows.accepted
  rw [List.nil_append] at whole
  constructor
  · intro before event initial
    have taken := along_iff_each.mp follows.accepted before event initial
    have reached : run ledgerStep [] before = before := by
      have first := Along.initial follows.accepted ((List.prefix_append before [event]).trans initial)
      have same := run_ledgerStep first
      rwa [List.nil_append] at same
    rw [reached] at taken
    cases outcome : ledgerStep before event with
    | ok later => exact (ledgerStep_ok.mp outcome).1
    | error _ =>
      rw [outcome] at taken
      cases taken
  · intro call listed
    rw [← whole] at listed
    exact (follows.related.ledger.redeemed call listed).1

def firstPatron (identityId membershipId : Uuid) : FirstPatronBootstrap where
  tenantId := 1
  bootstrapSecret := "secret"
  email := "owner@site.example".toList
  password := List.replicate 14 'p'
  passwordHash := "$argon2id$v=19"
  identityId := identityId
  credentialId := identityId
  membershipId := membershipId
  now := 3599999999

/-- Of two completions that start before either ends, one waits, and finds the secret redeemed. -/
example : (trace (bootstrapStep id) (observeBootstrap id) ⟨.empty, []⟩ [
    .alone (.provision ⟨" site-1 ".toList, "secret", 1, 2, 0⟩), .start (firstPatron 3 4), .start (firstPatron 5 6),
    .lock 0, .lock 1, .finish 0, .lock 0, .finish 0]).length = 2 := by decide +kernel

end SmartAo.Security
