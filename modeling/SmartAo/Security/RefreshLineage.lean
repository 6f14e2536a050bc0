import SmartAo.Foundation.Chain
import SmartAo.Foundation.Transition
import SmartAo.Security.Authentication

namespace SmartAo.Security

open SmartAo.Foundation SmartAo.Platform

/-- The tokens of a family, in the order they were issued. -/
def SecurityStore.tokensOf (store : SecurityStore) (familyId : Uuid) : List RefreshTokenRecord :=
  store.refreshTokens.rows.filter fun row => row.familyId = familyId

/-- The tokens of a family form one chain of parents, whose last one alone may be active; a token has its family,
    and a family its session. -/
structure Chains (store : SecurityStore) : Prop where
  linked : ∀ familyId, Linked (·.parentTokenId) (·.id) none (store.tokensOf familyId)
  last : ∀ token ∈ store.refreshTokens, token.state = .active →
    (store.tokensOf token.familyId).getLast? = some token
  owned : ∀ token ∈ store.refreshTokens, ∃ family ∈ store.families, family.id = token.familyId
  opened : ∀ family ∈ store.families, ∃ authSession ∈ store.sessions, authSession.id = family.sessionId

/-- A session that is revoked or expired. -/
def Ended (sessionId : Uuid) (store : SecurityStore) : Prop :=
  ∃ authSession ∈ store.sessions, authSession.id = sessionId ∧ authSession.state ≠ .active

/-- A change of sessions that ends some and opens none. -/
structure SessionsSettle (change : AuthSessionRecord → AuthSessionRecord) : Prop where
  named : ∀ row, (change row).id = row.id
  ended : ∀ row, (change row).state = .active → row.state = .active

structure FamiliesSettle (change : RefreshTokenFamilyRecord → RefreshTokenFamilyRecord) : Prop where
  named : ∀ row, (change row).id = row.id
  owner : ∀ row, (change row).sessionId = row.sessionId

/-- A change of tokens that leaves active ones as they are, or ends them. -/
structure TokensSettle (change : RefreshTokenRecord → RefreshTokenRecord) : Prop where
  named : ∀ row, (change row).id = row.id
  family : ∀ row, (change row).familyId = row.familyId
  parent : ∀ row, (change row).parentTokenId = row.parentTokenId
  active : ∀ row, (change row).state = .active → change row = row

/-- Every row is changed in its place. -/
structure Settles (store next : SecurityStore) : Prop where
  sessions : ∃ change, SessionsSettle change ∧ next.sessions.rows = store.sessions.rows.map change
  families : ∃ change, FamiliesSettle change ∧ next.families.rows = store.families.rows.map change
  tokens : ∃ change, TokensSettle change ∧ next.refreshTokens.rows = store.refreshTokens.rows.map change

/-- What a login writes. -/
structure OpensLineage (store next : SecurityStore) (authSession : AuthSessionRecord)
    (family : RefreshTokenFamilyRecord) (token : RefreshTokenRecord) : Prop where
  sessions : store.sessions.insert? authSession = some next.sessions
  families : store.families.insert? family = some next.families
  tokens : store.refreshTokens.insert? token = some next.refreshTokens
  session : family.sessionId = authSession.id
  family : token.familyId = family.id
  parent : token.parentTokenId = none

/-- What a rotation writes: no token of the family stays active, and a new one follows the current one. -/
structure RotatesLineage (store middle next : SecurityStore) (current token : RefreshTokenRecord) : Prop where
  settles : Settles store middle
  presented : current ∈ store.refreshTokens ∧ current.state = .active
  rotated : ∀ row ∈ middle.refreshTokens, row.id = current.id → row.state ≠ .active
  tokens : middle.refreshTokens.insert? token = some next.refreshTokens
  sessions : next.sessions = middle.sessions
  families : next.families = middle.families
  parent : token.parentTokenId = some current.id
  family : token.familyId = current.familyId

inductive AuthEffect (store next : SecurityStore) : Prop
  | settles (settles : Settles store next)
  | opens (authSession : AuthSessionRecord) (family : RefreshTokenFamilyRecord) (token : RefreshTokenRecord)
    (opens : OpensLineage store next authSession family token)
  | rotates (middle : SecurityStore) (current token : RefreshTokenRecord)
    (rotates : RotatesLineage store middle next current token)

variable {service : AuthenticationService} {store middle next : SecurityStore} {authSession : AuthSessionRecord}
  {family : RefreshTokenFamilyRecord} {token : RefreshTokenRecord} {sessionId familyId : Uuid} {now : Timestamp}
  {operation : AuthOperation}

theorem SessionsSettle.refl : SessionsSettle id := ⟨fun _ => rfl, fun _ active => active⟩

theorem FamiliesSettle.refl : FamiliesSettle id := ⟨fun _ => rfl, fun _ => rfl⟩

theorem TokensSettle.refl : TokensSettle id := ⟨fun _ => rfl, fun _ => rfl, fun _ => rfl, fun _ _ => rfl⟩

/-- A conditional change settles rows when the change does. -/
theorem SessionsSettle.ite {query : AuthSessionRecord → Bool} {change : AuthSessionRecord → AuthSessionRecord}
    (settles : SessionsSettle change) : SessionsSettle fun row => if query row then change row else row where
  named row := by
    split
    · exact settles.named row
    · rfl
  ended row := by
    split
    · exact settles.ended row
    · exact id

theorem FamiliesSettle.ite {query : RefreshTokenFamilyRecord → Bool}
    {change : RefreshTokenFamilyRecord → RefreshTokenFamilyRecord} (settles : FamiliesSettle change) :
    FamiliesSettle fun row => if query row then change row else row where
  named row := by
    split
    · exact settles.named row
    · rfl
  owner row := by
    split
    · exact settles.owner row
    · rfl

theorem TokensSettle.ite {query : RefreshTokenRecord → Bool} {change : RefreshTokenRecord → RefreshTokenRecord}
    (settles : TokensSettle change) : TokensSettle fun row => if query row then change row else row where
  named row := by
    split
    · exact settles.named row
    · rfl
  family row := by
    split
    · exact settles.family row
    · rfl
  parent row := by
    split
    · exact settles.parent row
    · rfl
  active row := by
    split
    · exact settles.active row
    · exact fun _ => rfl

theorem Settles.refl (store : SecurityStore) : Settles store store where
  sessions := ⟨id, SessionsSettle.refl, (List.map_id _).symm⟩
  families := ⟨id, FamiliesSettle.refl, (List.map_id _).symm⟩
  tokens := ⟨id, TokensSettle.refl, (List.map_id _).symm⟩

theorem revokedSession_settles (now : Timestamp) (reason : String) : SessionsSettle (revokedSession now reason) :=
  ⟨fun _ => rfl, fun _ active => by cases active⟩

theorem expiredSession_settles : SessionsSettle expiredSession := ⟨fun _ => rfl, fun _ active => by cases active⟩

theorem seenSession_settles (now : Timestamp) : SessionsSettle (seenSession now) :=
  ⟨fun _ => rfl, fun _ active => active⟩

theorem revokedFamily_settles (now : Timestamp) (state : FamilyState) (reason : String) :
    FamiliesSettle (revokedFamily now state reason) := ⟨fun _ => rfl, fun _ => rfl⟩

theorem expiredFamily_settles : FamiliesSettle expiredFamily := ⟨fun _ => rfl, fun _ => rfl⟩

theorem revokedToken_settles (now : Timestamp) : TokensSettle (revokedToken now) :=
  ⟨fun _ => rfl, fun _ => rfl, fun _ => rfl, fun _ active => by cases active⟩

theorem expiredToken_settles : TokensSettle expiredToken :=
  ⟨fun _ => rfl, fun _ => rfl, fun _ => rfl, fun _ active => by cases active⟩

theorem rotatedToken_settles (now : Timestamp) : TokensSettle (rotatedToken now) :=
  ⟨fun _ => rfl, fun _ => rfl, fun _ => rfl, fun _ active => by cases active⟩

theorem revokeSession_settles {reason : String} : Settles store (store.revokeSession sessionId now reason) :=
  ⟨⟨_, (revokedSession_settles now reason).ite, rfl⟩, (Settles.refl store).families, (Settles.refl store).tokens⟩

theorem revokeFamily_settles {state : FamilyState} {reason : String} :
    Settles store ((store.revokeSession sessionId now reason).revokeFamily familyId now state reason) :=
  ⟨⟨_, (revokedSession_settles now reason).ite, rfl⟩, ⟨_, (revokedFamily_settles now state reason).ite, rfl⟩,
    ⟨_, (revokedToken_settles now).ite, rfl⟩⟩

theorem expireSession_settles : Settles store (store.expireSession sessionId) :=
  ⟨⟨_, expiredSession_settles.ite, rfl⟩, (Settles.refl store).families, (Settles.refl store).tokens⟩

theorem expireFamily_settles : Settles store ((store.expireSession sessionId).expireFamily familyId) :=
  ⟨⟨_, expiredSession_settles.ite, rfl⟩, ⟨_, expiredFamily_settles.ite, rfl⟩, ⟨_, expiredToken_settles.ite, rfl⟩⟩

theorem invalidateLineage_settles : Settles store (store.invalidateLineage authSession family now) := by
  unfold SecurityStore.invalidateLineage
  split
  · exact expireFamily_settles
  · exact revokeFamily_settles

theorem seeSession_settles : Settles store { store with sessions := store.seeSession sessionId now } :=
  ⟨⟨_, (seenSession_settles now).ite, rfl⟩, (Settles.refl store).families, (Settles.refl store).tokens⟩

theorem committed_ok : store.committed = .ok next ↔ store.valid = true ∧ next = store := by
  simp only [SecurityStore.committed, bind_ok, raiseIf_ok, exists_unit, pure_ok, Bool.not_eq_false]
  exact and_congr_right fun _ => eq_comm

theorem login_effect {draws : AuthDraws} {email password : String} {tenantId : Uuid} {result : LoginResult}
    (accepted : login service store draws email password tenantId now = .ok (next, result)) :
    next.valid = true ∧ ∃ authSession family token, OpensLineage store next authSession family token := by
  simp only [login, bind_ok, Prod.exists, orRaise_ok, raiseIf_ok, exists_unit, committed_ok, pure_ok,
    Prod.mk.injEq] at accepted
  obtain ⟨_, _, _, _, _, _, opened, _, started, _, issued, _, ⟨valid, rfl⟩, rfl, _⟩ := accepted
  exact ⟨valid, _, _, _, opened, started, issued, rfl, rfl, rfl⟩

theorem logout_effect {done : Bool} (before : store.valid = true)
    (accepted : logout store sessionId now = .ok (next, done)) : next.valid = true ∧ Settles store next := by
  unfold logout at accepted
  split at accepted
  · simp only [pure_ok, Prod.mk.injEq] at accepted
    rw [← accepted.1]
    exact ⟨before, Settles.refl store⟩
  · split at accepted
    · simp only [pure_ok, Prod.mk.injEq] at accepted
      rw [← accepted.1]
      exact ⟨before, Settles.refl store⟩
    · simp only [bind_ok, committed_ok, pure_ok, Prod.mk.injEq] at accepted
      obtain ⟨_, ⟨valid, rfl⟩, rfl, _⟩ := accepted
      refine ⟨valid, ?_⟩
      split
      · exact revokeSession_settles
      · exact revokeFamily_settles

theorem resolve_effect {claims : Option AccessTokenClaims} {actor : Option ResolvedActor} (before : store.valid = true)
    (accepted : resolve store claims now = .ok (next, actor)) : next.valid = true ∧ Settles store next := by
  simp only [resolve, bind_ok, orRaise_ok] at accepted
  obtain ⟨claims, _, accepted⟩ := accepted
  split at accepted
  · simp only [pure_ok, Prod.mk.injEq] at accepted
    rw [← accepted.1]
    exact ⟨before, Settles.refl store⟩
  · split at accepted
    · simp only [bind_ok, committed_ok, pure_ok, Prod.mk.injEq] at accepted
      obtain ⟨_, ⟨valid, rfl⟩, rfl, _⟩ := accepted
      exact ⟨valid, seeSession_settles⟩
    · split at accepted
      · simp only [bind_ok, committed_ok, pure_ok, Prod.mk.injEq] at accepted
        obtain ⟨_, ⟨valid, rfl⟩, rfl, _⟩ := accepted
        exact ⟨valid, expireSession_settles⟩
      · simp only [pure_ok, Prod.mk.injEq] at accepted
        rw [← accepted.1]
        exact ⟨before, Settles.refl store⟩

theorem presentedLineage_some {refreshToken : List Char}
    (found : store.presentedLineage refreshToken = some (token, family, authSession)) :
    (token ∈ store.refreshTokens ∧ token.tokenHash = hexdigest refreshToken) ∧
      (family ∈ store.families ∧ family.id = token.familyId) ∧
      authSession ∈ store.sessions ∧ authSession.id = family.sessionId := by
  simp only [SecurityStore.presentedLineage, Option.bind_eq_bind, Option.bind_eq_some_iff, Option.pure_def,
    Option.some.injEq, Prod.mk.injEq] at found
  obtain ⟨_, one, _, two, _, three, rfl, rfl, rfl⟩ := found
  have first := Table.find?_query one
  have second := Table.find?_query two
  have third := Table.find?_query three
  simp only [decide_eq_true_eq] at first second third
  exact ⟨⟨Table.find?_mem one, first⟩, ⟨Table.find?_mem two, second⟩, Table.find?_mem three, third⟩

theorem rotatedToken_columns (now : Timestamp) (row : RefreshTokenRecord) :
    Schema.columns (rotatedToken now row) = Schema.columns row := rfl

/-- The store between the two flushes of a rotation. -/
def SecurityStore.rotated (store : SecurityStore) (tokenId sessionId : Uuid) (now : Timestamp) : SecurityStore :=
  { store with
    sessions := store.seeSession sessionId now
    refreshTokens := store.refreshTokens.update (fun row => row.id = tokenId) (rotatedToken now)
      (rotatedToken_columns now) }

theorem rotated_settles {tokenId : Uuid} : Settles store (store.rotated tokenId sessionId now) :=
  ⟨seeSession_settles.sessions, (Settles.refl store).families, ⟨_, (rotatedToken_settles now).ite, rfl⟩⟩

theorem rotated_not_active {tokenId : Uuid} (member : token ∈ (store.rotated tokenId sessionId now).refreshTokens)
    (same : token.id = tokenId) : token.state ≠ .active := by
  have updated : token ∈ store.refreshTokens.update (fun row => row.id = tokenId) (rotatedToken now) fun _ => rfl :=
    member
  rcases Table.mem_update_cases updated with ⟨_, other⟩ | ⟨old, _, _, rfl⟩
  · exact absurd same (by simpa using other)
  · exact fun again => by cases again

theorem refresh_effect {draws : AuthDraws} {refreshToken : List Char} {result : Option RefreshResult}
    (accepted : refresh store draws refreshToken now = .ok (next, result)) :
    next.valid = true ∧ AuthEffect store next := by
  simp only [refresh, bind_ok, Prod.exists, orRaise_ok] at accepted
  obtain ⟨current, family, authSession, found, accepted⟩ := accepted
  obtain ⟨⟨stored, _⟩, ⟨_, owner⟩, _⟩ := presentedLineage_some found
  split at accepted
  · simp only [bind_ok, committed_ok, pure_ok, Prod.mk.injEq] at accepted
    obtain ⟨_, ⟨valid, rfl⟩, rfl, _⟩ := accepted
    exact ⟨valid, .settles revokeFamily_settles⟩
  · simp only [bind_ok, raiseIf_ok, exists_unit, not_not] at accepted
    obtain ⟨active, accepted⟩ := accepted
    split at accepted
    · simp only [bind_ok, committed_ok, pure_ok, Prod.mk.injEq] at accepted
      obtain ⟨_, ⟨valid, rfl⟩, rfl, _⟩ := accepted
      exact ⟨valid, .settles invalidateLineage_settles⟩
    · simp only [bind_ok, orRaise_ok, committed_ok, pure_ok, Prod.mk.injEq] at accepted
      obtain ⟨refreshTokens, inserted, _, ⟨valid, rfl⟩, rfl, _⟩ := accepted
      refine ⟨valid, .rotates (store.rotated current.id authSession.id now) current
        { issuedToken draws family (some current.id) now with tenantId := current.tenantId } ?_⟩
      exact ⟨rotated_settles, ⟨stored, active⟩, fun row member same => rotated_not_active member same, inserted, rfl,
        rfl, rfl, owner⟩

theorem authStep_effect (before : store.valid = true) (accepted : authStep service store operation = .ok next) :
    next.valid = true ∧ AuthEffect store next := by
  cases operation with
  | login draws email password tenantId now =>
    obtain ⟨_, done⟩ := map_fst_ok.mp accepted
    obtain ⟨valid, _, _, _, opens⟩ := login_effect done
    exact ⟨valid, .opens _ _ _ opens⟩
  | refresh draws refreshToken now =>
    obtain ⟨_, done⟩ := map_fst_ok.mp accepted
    exact refresh_effect done
  | logout sessionId now =>
    obtain ⟨_, done⟩ := map_fst_ok.mp accepted
    exact (logout_effect before done).imp id .settles
  | resolve claims now =>
    obtain ⟨_, done⟩ := map_fst_ok.mp accepted
    exact (resolve_effect before done).imp id .settles
  | foreign identities memberships credentials =>
    cases accepted
    exact ⟨before, .settles ⟨(Settles.refl store).sessions, (Settles.refl store).families,
      (Settles.refl store).tokens⟩⟩

theorem Settles.tokensOf {change : RefreshTokenRecord → RefreshTokenRecord} (settles : TokensSettle change)
    (rows : next.refreshTokens.rows = store.refreshTokens.rows.map change) (familyId : Uuid) :
    next.tokensOf familyId = (store.tokensOf familyId).map change := by
  unfold SecurityStore.tokensOf
  rw [rows, List.filter_map]
  congr 2
  funext row
  simp [settles.family]

theorem linked_map {change : RefreshTokenRecord → RefreshTokenRecord} (settles : TokensSettle change)
    {parent : Option Uuid} {tokens : List RefreshTokenRecord} (linked : Linked (·.parentTokenId) (·.id) parent tokens) :
    Linked (·.parentTokenId) (·.id) parent (tokens.map change) := by
  induction tokens generalizing parent with
  | nil => exact True.intro
  | cons token tokens ih =>
    refine ⟨(settles.parent token).trans linked.1, ?_⟩
    show Linked (·.parentTokenId) (·.id) (some (change token).id) (tokens.map change)
    rw [settles.named token]
    exact ih linked.2

theorem Settles.chains (settles : Settles store next) (chains : Chains store) : Chains next := by
  obtain ⟨⟨changeSession, endsSessions, sessions⟩, ⟨changeFamily, keepsFamilies, families⟩,
    ⟨changeToken, endsTokens, tokens⟩⟩ := settles
  have oldToken : ∀ token ∈ next.refreshTokens, ∃ old ∈ store.refreshTokens, changeToken old = token := by
    intro token member
    rw [← Table.mem_rows, tokens] at member
    exact List.mem_map.mp member
  have newFamily : ∀ family ∈ store.families, changeFamily family ∈ next.families := by
    intro family member
    rw [← Table.mem_rows, families]
    exact List.mem_map_of_mem member
  refine ⟨fun familyId => ?_, fun token member active => ?_, fun token member => ?_, fun family member => ?_⟩
  · rw [Settles.tokensOf endsTokens tokens]
    exact linked_map endsTokens (chains.linked familyId)
  · obtain ⟨old, stored, rfl⟩ := oldToken token member
    have same : changeToken old = old := endsTokens.active old active
    rw [same] at active ⊢
    rw [Settles.tokensOf endsTokens tokens, List.getLast?_map, chains.last old stored active, Option.map_some, same]
  · obtain ⟨old, stored, rfl⟩ := oldToken token member
    obtain ⟨family, present, owner⟩ := chains.owned old stored
    refine ⟨changeFamily family, newFamily family present, ?_⟩
    rw [keepsFamilies.named, owner, endsTokens.family]
  · rw [← Table.mem_rows, families] at member
    obtain ⟨old, stored, rfl⟩ := List.mem_map.mp member
    obtain ⟨authSession, present, opened⟩ := chains.opened old stored
    refine ⟨changeSession authSession, ?_, ?_⟩
    · rw [← Table.mem_rows, sessions]
      exact List.mem_map_of_mem present
    · rw [endsSessions.named, opened, keepsFamilies.owner]

theorem tokensOf_insert? {table : Table RefreshTokenRecord} (inserted : store.refreshTokens.insert? token = some table)
    (same : table = next.refreshTokens) (familyId : Uuid) :
    next.tokensOf familyId = store.tokensOf familyId ++ if token.familyId = familyId then [token] else [] := by
  unfold SecurityStore.tokensOf
  rw [← same, Table.filter_insert? inserted]
  simp

theorem OpensLineage.chains (opens : OpensLineage store next authSession family token) (chains : Chains store) :
    Chains next := by
  have fresh : ∀ old ∈ store.refreshTokens, old.familyId ≠ family.id := by
    intro old member same
    obtain ⟨owner, stored, named⟩ := chains.owned old member
    exact Table.insert?_absent opens.families owner stored (.inl (named.trans same))
  have none : store.tokensOf family.id = [] := by
    refine List.filter_eq_nil_iff.mpr fun old member => ?_
    simpa using fresh old member
  have tokens := tokensOf_insert? opens.tokens rfl
  refine ⟨fun familyId => ?_, fun issued member active => ?_, fun issued member => ?_, fun opened member => ?_⟩
  · rw [tokens]
    by_cases own : token.familyId = familyId
    · rw [if_pos own, ← own, opens.family, none]
      exact ⟨opens.parent, True.intro⟩
    · rw [if_neg own, List.append_nil]
      exact chains.linked familyId
  · rw [tokens]
    rcases (Table.mem_insert? opens.tokens).mp member with old | rfl
    · have other : token.familyId ≠ issued.familyId := by
        rw [opens.family]
        exact (fresh issued old).symm
      rw [if_neg other, List.append_nil]
      exact chains.last issued old active
    · rw [if_pos rfl, List.getLast?_concat]
  · rcases (Table.mem_insert? opens.tokens).mp member with old | rfl
    · obtain ⟨owner, stored, named⟩ := chains.owned issued old
      exact ⟨owner, (Table.mem_insert? opens.families).mpr (.inl stored), named⟩
    · exact ⟨family, (Table.mem_insert? opens.families).mpr (.inr rfl), opens.family.symm⟩
  · rcases (Table.mem_insert? opens.families).mp member with old | rfl
    · obtain ⟨session, stored, named⟩ := chains.opened opened old
      exact ⟨session, (Table.mem_insert? opens.sessions).mpr (.inl stored), named⟩
    · exact ⟨authSession, (Table.mem_insert? opens.sessions).mpr (.inr rfl), opens.session.symm⟩

theorem Settles.mem_active (settles : Settles store next) (member : token ∈ next.refreshTokens)
    (active : token.state = .active) : token ∈ store.refreshTokens := by
  obtain ⟨change, ends, rows⟩ := settles.tokens
  rw [← Table.mem_rows, rows] at member
  obtain ⟨old, stored, rfl⟩ := List.mem_map.mp member
  rw [ends.active old active]
  exact stored

theorem linked_last {tokens : List RefreshTokenRecord} {last : RefreshTokenRecord} {parent : Option Uuid}
    (final : tokens.getLast? = some last) : replay (·.id) parent tokens = some last.id := by
  obtain ⟨before, rfl⟩ := List.getLast?_eq_some_iff.mp final
  exact replay_concat

theorem RotatesLineage.chains {current : RefreshTokenRecord}
    (rotates : RotatesLineage store middle next current token) (chains : Chains store) : Chains next := by
  have settled := rotates.settles.chains chains
  obtain ⟨stored, active⟩ := rotates.presented
  have final := chains.last current stored active
  have quiet : ∀ row ∈ middle.refreshTokens, row.state = .active → row.familyId ≠ current.familyId := by
    intro row member again same
    have old := rotates.settles.mem_active member again
    have last := chains.last row old again
    rw [same, final, Option.some.injEq] at last
    exact rotates.rotated row member (by rw [last]) again
  obtain ⟨change, ends, rows⟩ := rotates.settles.tokens
  have tokens := tokensOf_insert? rotates.tokens rfl
  refine ⟨fun familyId => ?_, fun issued member again => ?_, fun issued member => ?_, fun opened member => ?_⟩
  · rw [tokens]
    by_cases own : token.familyId = familyId
    · rw [if_pos own, linked_concat]
      refine ⟨settled.linked familyId, ?_⟩
      have last : (middle.tokensOf familyId).getLast? = some (change current) := by
        rw [Settles.tokensOf ends rows, List.getLast?_map, ← own, rotates.family, final, Option.map_some]
      rw [linked_last last, ends.named]
      exact rotates.parent
    · rw [if_neg own, List.append_nil]
      exact settled.linked familyId
  · rw [tokens]
    rcases (Table.mem_insert? rotates.tokens).mp member with old | rfl
    · have other : token.familyId ≠ issued.familyId := by
        rw [rotates.family]
        exact (quiet issued old again).symm
      rw [if_neg other, List.append_nil]
      exact settled.last issued old again
    · rw [if_pos rfl, List.getLast?_concat]
  · rw [rotates.families]
    rcases (Table.mem_insert? rotates.tokens).mp member with old | rfl
    · exact settled.owned issued old
    · obtain ⟨old, present, same⟩ : ∃ old ∈ middle.refreshTokens, old.familyId = current.familyId := by
        refine ⟨change current, ?_, ends.family current⟩
        rw [← Table.mem_rows, rows]
        exact List.mem_map_of_mem stored
      rw [rotates.family, ← same]
      exact settled.owned old present
  · rw [rotates.families] at member
    rw [rotates.sessions]
    exact settled.opened opened member

theorem AuthEffect.chains (effect : AuthEffect store next) (chains : Chains store) : Chains next := by
  cases effect with
  | settles settles => exact settles.chains chains
  | opens _ _ _ opens => exact opens.chains chains
  | rotates _ _ _ rotates => exact rotates.chains chains

theorem Ended.step (ended : Ended sessionId store) (effect : AuthEffect store next) : Ended sessionId next := by
  obtain ⟨authSession, member, named, inactive⟩ := ended
  have settled : ∀ {after : SecurityStore}, Settles store after → Ended sessionId after := by
    intro after settles
    obtain ⟨change, ends, rows⟩ := settles.sessions
    refine ⟨change authSession, ?_, by rw [ends.named, named], fun active => inactive (ends.ended _ active)⟩
    rw [← Table.mem_rows, rows]
    exact List.mem_map_of_mem member
  cases effect with
  | settles settles => exact settled settles
  | opens _ _ _ opens => exact ⟨authSession, (Table.mem_insert? opens.sessions).mpr (.inl member), named, inactive⟩
  | rotates middle current token rotates =>
    have after := settled rotates.settles
    unfold Ended
    rw [rotates.sessions]
    exact after

theorem valid_iff : store.valid = true ↔ (∀ row ∈ store.sessions, row.checks = true) ∧
    (∀ row ∈ store.families, row.checks = true) ∧ ∀ row ∈ store.refreshTokens, row.checks = true := by
  simp only [SecurityStore.valid, Bool.and_eq_true, List.all_eq_true, and_assoc]
  exact Iff.rfl

/-- An update that keeps a check keeps it on every row. -/
theorem update_checks {ρ : Type} [Schema ρ] {table : Table ρ} {query check : ρ → Bool} {change : ρ → ρ}
    (kept : ∀ row, check row = true → check (change row) = true)
    (keeps : ∀ row, Schema.columns (change row) = Schema.columns row) (checked : ∀ row ∈ table, check row = true) :
    ∀ row ∈ table.update query change keeps, check row = true := by
  intro row member
  rcases Table.mem_update_cases member with ⟨stored, _⟩ | ⟨old, stored, _, rfl⟩
  · exact checked row stored
  · exact kept old (checked old stored)

theorem revokedSession_checks (now : Timestamp) (reason : String) (row : AuthSessionRecord)
    (checked : row.checks = true) : (revokedSession now reason row).checks = true := by
  simp only [AuthSessionRecord.checks, Bool.and_eq_true, decide_eq_true_eq] at checked ⊢
  obtain ⟨⟨⟨⟨⟨⟨⟨_, idle⟩, absolute⟩, bound⟩, seen⟩, mfa⟩, _⟩, _⟩ := checked
  exact ⟨⟨⟨⟨⟨⟨⟨Nat.le_add_left 1 _, idle⟩, absolute⟩, bound⟩, seen⟩, mfa⟩, rfl⟩, rfl⟩

theorem revokedFamily_checks (now : Timestamp) (reason : String) (row : RefreshTokenFamilyRecord)
    (checked : row.checks = true) : (revokedFamily now .compromised reason row).checks = true := by
  simp only [RefreshTokenFamilyRecord.checks, Bool.and_eq_true] at checked ⊢
  exact ⟨⟨checked.1.1, rfl⟩, rfl⟩

theorem revokedToken_checks (now : Timestamp) (row : RefreshTokenRecord) (checked : row.checks = true) :
    (revokedToken now row).checks = true := by
  simp only [RefreshTokenRecord.checks, Bool.and_eq_true] at checked ⊢
  exact ⟨checked.1, rfl⟩

theorem compromiseLineage_valid (valid : store.valid = true) :
    (store.compromiseLineage authSession family now).valid = true := by
  obtain ⟨sessions, families, tokens⟩ := valid_iff.mp valid
  exact valid_iff.mpr ⟨update_checks (revokedSession_checks now "REFRESH_REPLAY") (fun _ => rfl) sessions,
    update_checks (revokedFamily_checks now "REFRESH_REPLAY") (fun _ => rfl) families,
    update_checks (revokedToken_checks now) (fun _ => rfl) tokens⟩

theorem presentedLineage_eq (chains : Chains store) {refreshToken : List Char} (stored : token ∈ store.refreshTokens)
    (hashed : token.tokenHash = hexdigest refreshToken) (owner : family ∈ store.families)
    (named : family.id = token.familyId) : ∃ authSession ∈ store.sessions, authSession.id = family.sessionId ∧
      store.presentedLineage refreshToken = some (token, family, authSession) := by
  obtain ⟨authSession, opened, session⟩ := chains.opened family owner
  refine ⟨authSession, opened, session, ?_⟩
  have one : (store.refreshTokens.find? fun row => row.tokenHash = hexdigest refreshToken) = some token := by
    refine (Table.find?_eq_some fun first second => ?_).mpr ⟨stored, by simpa using hashed⟩
    exact .inr ((of_decide_eq_true first).trans (of_decide_eq_true second).symm)
  have two : (store.families.find? fun row => row.id = token.familyId) = some family := by
    refine (Table.find?_eq_some fun first second => ?_).mpr ⟨owner, by simpa using named⟩
    exact .inl ((of_decide_eq_true first).trans (of_decide_eq_true second).symm)
  have three : (store.sessions.find? fun row => row.id = family.sessionId) = some authSession := by
    refine (Table.find?_eq_some fun first second => ?_).mpr ⟨opened, by simpa using session⟩
    exact (of_decide_eq_true first).trans (of_decide_eq_true second).symm
  simp only [SecurityStore.presentedLineage, one, two, three, Option.bind_eq_bind, Option.bind_some, Option.pure_def]

/-- A replayed token ends the tokens of its family and revokes the session, although it is rejected. -/
theorem replay_compromises (valid : store.valid = true) (chains : Chains store) {refreshToken : List Char}
    (stored : token ∈ store.refreshTokens) (hashed : token.tokenHash = hexdigest refreshToken)
    (replayed : token.state = .rotated) (owner : family ∈ store.families) (named : family.id = token.familyId)
    (active : family.state = .active) (draws : AuthDraws) (now : Timestamp) :
    ∃ next, refresh store draws refreshToken now = .ok (next, none) ∧
      (∀ row ∈ next.refreshTokens, row.familyId = family.id → row.state ≠ .active) ∧
      ∃ authSession ∈ next.sessions, authSession.id = family.sessionId ∧ authSession.state = .revoked := by
  obtain ⟨authSession, opened, session, found⟩ := presentedLineage_eq chains stored hashed owner named
  refine ⟨store.compromiseLineage authSession family now, ?_, fun row member own again => ?_, ?_⟩
  · unfold refresh
    rw [found, orRaise_some, bind_of_ok rfl]
    dsimp only
    rw [if_pos ⟨replayed, active⟩, bind_of_ok (committed_ok.mpr ⟨compromiseLineage_valid valid, rfl⟩)]
    rfl
  · have updated : row ∈ store.refreshTokens.update (fun row => row.familyId = family.id ∧ row.state = .active)
        (revokedToken now) fun _ => rfl := member
    rcases Table.mem_update_cases updated with ⟨_, outside⟩ | ⟨old, _, _, rfl⟩
    · have apart : row.familyId = family.id → row.state ≠ .active := by simpa using outside
      exact apart own again
    · cases again
  · have revoked : revokedSession now "REFRESH_REPLAY" authSession ∈ store.sessions.update
        (fun row => row.id = authSession.id) (revokedSession now "REFRESH_REPLAY") fun _ => rfl :=
      Table.mem_update_of opened (by simp)
    exact ⟨_, revoked, session, rfl⟩

theorem refresh_some {draws : AuthDraws} {refreshToken : List Char} {result : RefreshResult}
    (accepted : refresh store draws refreshToken now = .ok (next, some result)) :
    ∃ token family authSession, store.presentedLineage refreshToken = some (token, family, authSession) ∧
      authSession.state = .active := by
  simp only [refresh, bind_ok, Prod.exists, orRaise_ok] at accepted
  obtain ⟨current, family, authSession, found, accepted⟩ := accepted
  refine ⟨current, family, authSession, found, ?_⟩
  split at accepted
  · obtain ⟨_, _, written⟩ := bind_ok.mp accepted
    cases pure_ok.mp written
  · simp only [bind_ok, raiseIf_ok, exists_unit] at accepted
    obtain ⟨_, accepted⟩ := accepted
    split at accepted
    · simp only [bind_ok, pure_ok, Prod.mk.injEq] at accepted
      obtain ⟨_, _, _, written⟩ := accepted
      cases written
    · rename_i refreshable
      simp only [lineageIsRefreshable, Bool.not_eq_false, decide_eq_true_eq] at refreshable
      exact refreshable.1

theorem resolve_some {claims : Option AccessTokenClaims} {actor : ResolvedActor}
    (accepted : resolve store claims now = .ok (next, some actor)) :
    ∃ named authSession, claims = some named ∧ authSession ∈ store.sessions ∧ authSession.id = named.sessionId ∧
      authSession.state = .active := by
  simp only [resolve, bind_ok, orRaise_ok] at accepted
  obtain ⟨named, same, accepted⟩ := accepted
  refine ⟨named, ?_⟩
  split at accepted
  · simp at accepted
  · rename_i authSession membership identity found
    split at accepted
    · rename_i live
      simp only [SecurityStore.claimed, Option.bind_eq_bind, Option.bind_eq_some_iff, Option.pure_def,
        Option.some.injEq, Prod.mk.injEq] at found
      obtain ⟨_, one, _, _, _, _, rfl, _⟩ := found
      have matched := Table.find?_query one
      simp only [decide_eq_true_eq] at matched
      exact ⟨_, same, Table.find?_mem one, matched.1, live.1⟩
    · split at accepted
      · obtain ⟨_, _, written⟩ := bind_ok.mp accepted
        cases pure_ok.mp written
      · cases pure_ok.mp accepted

theorem succeeds_active (succeeded : succeeds store operation = true)
    (presented : presentedSession store operation = some sessionId) :
    ∃ authSession ∈ store.sessions, authSession.id = sessionId ∧ authSession.state = .active := by
  cases operation with
  | refresh draws refreshToken now =>
    obtain ⟨result, found⟩ := Option.isSome_iff_exists.mp succeeded
    obtain ⟨⟨next, _⟩, accepted, rfl⟩ := Option.bind_eq_some_iff.mp found
    obtain ⟨token, family, authSession, lineage, active⟩ := refresh_some (toOption_ok.mp accepted)
    obtain ⟨_, _, stored, named⟩ := presentedLineage_some lineage
    have session : (store.presentedLineage refreshToken).map (fun found => found.2.1.sessionId) = some sessionId :=
      presented
    rw [lineage, Option.map_some, Option.some.injEq] at session
    exact ⟨authSession, stored, named.trans session, active⟩
  | resolve claims now =>
    obtain ⟨actor, found⟩ := Option.isSome_iff_exists.mp succeeded
    obtain ⟨⟨next, _⟩, accepted, rfl⟩ := Option.bind_eq_some_iff.mp found
    obtain ⟨named, authSession, rfl, stored, same, active⟩ := resolve_some (toOption_ok.mp accepted)
    exact ⟨authSession, stored, same.trans (Option.some.inj presented), active⟩
  | _ => cases succeeded

/-- The family has no active token, and its session is revoked. -/
structure Compromised (store : SecurityStore) (family : RefreshTokenFamilyRecord) : Prop where
  tokens : ∀ row ∈ store.refreshTokens, row.familyId = family.id → row.state ≠ .active
  session : ∃ authSession ∈ store.sessions, authSession.id = family.sessionId ∧ authSession.state = .revoked

/-- A family has one active token at most and its tokens form one chain; a replayed token of an active family
    compromises its lineage; an ended session lets no token of its lineage succeed; idle expiry comes first. -/
structure LineageSafe (service : AuthenticationService) (store : SecurityStore) : Prop where
  single : ∀ first ∈ store.refreshTokens, ∀ second ∈ store.refreshTokens, first.familyId = second.familyId →
    first.state = .active → second.state = .active → first = second
  chain : ∀ familyId, Linked (·.parentTokenId) (·.id) none (store.tokensOf familyId)
  replayed : ∀ token ∈ store.refreshTokens, token.state = .rotated → ∀ family ∈ store.families,
    family.id = token.familyId → family.state = .active → ∀ draws refreshToken now,
      token.tokenHash = hexdigest refreshToken → succeeds store (.refresh draws refreshToken now) = false ∧
        Compromised (commit (authStep service) store (.refresh draws refreshToken now)) family
  ended : ∀ authSession ∈ store.sessions, authSession.state ≠ .active → ∀ operations,
    Along (authStep service) (fun store operation => presentedSession store operation = some authSession.id →
      succeeds store operation = false) store operations
  bounded : ∀ authSession ∈ store.sessions, authSession.expiresAt ≤ authSession.absoluteExpiresAt

theorem Ended.along (ended : Ended sessionId store) (valid : store.valid = true) (operations : List AuthOperation) :
    Along (authStep service) (fun store operation => presentedSession store operation = some sessionId →
      succeeds store operation = false) store operations := by
  have preserved : ∀ state operation next, state.valid = true ∧ Ended sessionId state → True →
      authStep service state operation = .ok next → next.valid = true ∧ Ended sessionId next := by
    intro state operation next held _ accepted
    obtain ⟨still, effect⟩ := authStep_effect held.1 accepted
    exact ⟨still, held.2.step effect⟩
  refine along_of_invariant preserved (fun state operation held presented => ?_) ⟨valid, ended⟩ (along_trivial _ _)
  obtain ⟨authSession, stored, named, inactive⟩ := held.2
  by_contra succeeded
  rw [Bool.not_eq_false] at succeeded
  obtain ⟨other, present, same, active⟩ := succeeds_active succeeded presented
  have equal : other = authSession := Table.eq_of_conflict present stored (same.trans named.symm)
  rw [equal] at active
  exact inactive active

theorem Chains.safe (chains : Chains store) (valid : store.valid = true) : LineageSafe service store where
  single first one second two same active again := by
    have last := chains.last first one active
    rw [same, chains.last second two again, Option.some.injEq] at last
    exact last.symm
  chain := chains.linked
  replayed token stored rotated family owner named active draws refreshToken now hashed := by
    obtain ⟨next, refreshed, tokens, session⟩ :=
      replay_compromises valid chains stored hashed rotated owner named active draws now
    have accepted : authStep service store (.refresh draws refreshToken now) = .ok next :=
      map_fst_ok.mpr ⟨none, refreshed⟩
    rw [commit_ok accepted]
    refine ⟨?_, tokens, session⟩
    unfold succeeds
    dsimp only
    rw [refreshed]
    rfl
  ended authSession stored inactive operations := Ended.along ⟨authSession, stored, rfl, inactive⟩ valid operations
  bounded authSession stored := by
    have checked := (valid_iff.mp valid).1 authSession stored
    simp only [AuthSessionRecord.checks, Bool.and_eq_true, decide_eq_true_eq] at checked
    exact checked.1.1.1.1.2

/-- A store on which nobody has signed in. -/
def SecurityStore.signedOut (store : SecurityStore) : SecurityStore :=
  { store with sessions := .empty, families := .empty, refreshTokens := .empty }

theorem signedOut_chains (store : SecurityStore) : Chains store.signedOut where
  linked _ := True.intro
  last _ member := absurd member Table.not_mem_empty
  owned _ member := absurd member Table.not_mem_empty
  opened _ member := absurd member Table.not_mem_empty

theorem refresh_lineage_safe (service : AuthenticationService) (store : SecurityStore)
    (operations : List AuthOperation) : LineageSafe service (run (authStep service) store.signedOut operations) := by
  have reached : Chains (run (authStep service) store.signedOut operations) ∧
      (run (authStep service) store.signedOut operations).valid = true := by
    have preserved : ∀ state operation next, Chains state ∧ state.valid = true →
        authStep service state operation = .ok next → Chains next ∧ next.valid = true := by
      intro state operation next held accepted
      obtain ⟨still, effect⟩ := authStep_effect held.2 accepted
      exact ⟨effect.chains held.1, still⟩
    exact run_invariant_always preserved operations ⟨signedOut_chains store, rfl⟩
  exact reached.1.safe reached.2

end SmartAo.Security
