import SmartAo.Foundation.Dict
import SmartAo.Foundation.Digest
import SmartAo.Foundation.Instant
import SmartAo.Platform.Uuid

namespace SmartAo.Security

open SmartAo.Foundation SmartAo.Platform

/-- The instants a `datetime` holds, from year 1 to year 9999. -/
def minInstant : Timestamp := -62135596800000000

def maxInstant : Timestamp := 253402300799999999

structure ClockReading where
  instant : Timestamp
  low : minInstant ≤ instant
  high : instant ≤ maxInstant

/-- `datetime.fromtimestamp` of whole seconds. -/
def fromTimestamp (seconds : Int) : Option Timestamp :=
  if minInstant ≤ seconds * 1000000 ∧ seconds * 1000000 ≤ maxInstant then some (seconds * 1000000) else none

/-- The claim set of an access token. -/
structure JwtPayload where
  iss : List Char
  aud : List Char
  sub : List Char
  sid : List Char
  jti : List Char
  iat : Int
  exp : Int
  ver : Int
deriving DecidableEq

/-- The library under HS256: a token names its key, and is decoded under every key that gives its signature, for
    the issuer and the audience it was issued with, an empty audience excepted. -/
structure JwtLibrary where
  Token : Type
  sign : List Char → JwtPayload → List Char → BitVec 256
  encode : JwtPayload → List Char → List Char → Token
  keyId : Token → Option (List Char)
  decode : Token → List Char → List Char → List Char → Option JwtPayload
  keyId_encode : ∀ payload key id, keyId (encode payload key id) = some id
  decode_encode : ∀ payload key id other audience issuer, decode (encode payload key id) other audience issuer =
    if sign other payload id = sign key payload id ∧ payload.aud = audience ∧ audience ≠ [] ∧ payload.iss = issuer
    then some payload else none

structure AccessTokenClaims where
  subject : Uuid
  sessionId : Uuid
  tokenVersion : Int
  issuedAt : Timestamp
  expiresAt : Timestamp
  tokenId : Uuid
deriving DecidableEq

/-- The configuration of a codec. -/
structure JwtAccessTokenCodec where
  signingKey : List Char
  signingKeyId : List Char
  verificationKeys : Dict (List Char) (List Char)
  issuer : List Char
  audience : List Char
  tokenTtl : Int

/-- The constructor; the table says which characters are alphanumeric. -/
def JwtAccessTokenCodec.create (isAlnum : Char → Bool) (signingKey issuer audience : List Char) (tokenTtl : Int)
    (signingKeyId : List Char) (verificationKeys : Dict (List Char) (List Char)) :
    Except String JwtAccessTokenCodec := do
  raiseIf (signingKey.length < 32) "JWT signing key must contain at least 32 characters"
  raiseIf (tokenTtl ≤ 0) "JWT access token TTL must be positive"
  raiseIf (signingKeyId = [] ∨ 64 < signingKeyId.length) "JWT signing key id must be 1-64 characters"
  raiseIf (¬ signingKeyId.all fun c => isAlnum c || c == '.' || c == '_' || c == '-')
    "JWT signing key id contains invalid characters"
  let keys := if (verificationKeys.get signingKeyId).isNone then verificationKeys.assign signingKeyId signingKey
    else verificationKeys
  raiseIf (∃ entry ∈ keys.entries, entry.2.length < 32) "JWT verification keys must contain at least 32 characters"
  return { signingKey, signingKeyId, verificationKeys := keys, issuer, audience, tokenTtl }

/-- What `issue` signs, beside the identifier it draws. -/
def JwtAccessTokenCodec.payload (codec : JwtAccessTokenCodec) (now : Timestamp)
    (tokenId identityId sessionId : Uuid) (tokenVersion : Int) : JwtPayload where
  iss := codec.issuer
  aud := codec.audience
  sub := identityId.chars
  sid := sessionId.chars
  jti := tokenId.chars
  iat := timestampSeconds now
  exp := timestampSeconds (now + codec.tokenTtl)
  ver := tokenVersion

def JwtAccessTokenCodec.issue (codec : JwtAccessTokenCodec) (jwt : JwtLibrary) (now : ClockReading)
    (tokenId identityId sessionId : Uuid) (tokenVersion : Int) : Except String jwt.Token := do
  raiseIf (maxInstant < now.instant + codec.tokenTtl) "date value out of range"
  return jwt.encode (codec.payload now.instant tokenId identityId sessionId tokenVersion) codec.signingKey
    codec.signingKeyId

/-- `none` is the neutral refusal. -/
def JwtAccessTokenCodec.decode (codec : JwtAccessTokenCodec) (jwt : JwtLibrary) (now : ClockReading)
    (token : jwt.Token) : Option AccessTokenClaims := do
  let keyId := (jwt.keyId token).getD codec.signingKeyId
  let verificationKey ← codec.verificationKeys.get keyId
  let payload ← jwt.decode token verificationKey codec.audience codec.issuer
  let subject ← Uuid.ofText? payload.sub
  let sessionId ← Uuid.ofText? payload.sid
  let issuedAt ← fromTimestamp payload.iat
  let expiresAt ← fromTimestamp payload.exp
  let tokenId ← Uuid.ofText? payload.jti
  guard (¬ (payload.ver < 1 ∨ now.instant < issuedAt ∨ expiresAt ≤ now.instant))
  return { subject, sessionId, tokenVersion := payload.ver, issuedAt, expiresAt, tokenId }

/-- The claims of a token as issued, its instants in whole seconds. -/
def JwtAccessTokenCodec.issuedClaims (codec : JwtAccessTokenCodec) (now : Timestamp)
    (tokenId identityId sessionId : Uuid) (tokenVersion : Int) : AccessTokenClaims where
  subject := identityId
  sessionId := sessionId
  tokenVersion := tokenVersion
  issuedAt := timestampSeconds now * 1000000
  expiresAt := timestampSeconds (now + codec.tokenTtl) * 1000000
  tokenId := tokenId

variable {isAlnum : Char → Bool} {signingKey issuer audience signingKeyId : List Char} {tokenTtl : Int}
  {verificationKeys : Dict (List Char) (List Char)} {codec : JwtAccessTokenCodec} {jwt : JwtLibrary}
  {now later : ClockReading} {tokenId identityId sessionId : Uuid} {tokenVersion : Int} {token : jwt.Token}

theorem timestampSeconds_low {instant : Int} (low : minInstant ≤ instant) :
    minInstant ≤ timestampSeconds instant * 1000000 := by
  have within : (-62135596800000000 : Int) ≤ instant := low
  show (-62135596800000000 : Int) ≤ timestampSeconds instant * 1000000
  by_cases before : instant < 0
  · have bound : (timestampSeconds instant).natAbs ≤ 62135596800 := timestampSeconds_natAbs_le (by omega)
    omega
  · have nonnegative : 0 ≤ timestampSeconds instant := by
      unfold timestampSeconds
      rw [if_neg before]
      exact Int.natCast_nonneg _
    omega

theorem fromTimestamp_eq_some {seconds : Int} {instant : Timestamp} : fromTimestamp seconds = some instant ↔
    minInstant ≤ instant ∧ instant ≤ maxInstant ∧ instant = seconds * 1000000 := by
  unfold fromTimestamp
  split
  · rename_i inside
    rw [Option.some.injEq]
    constructor
    · rintro rfl
      exact ⟨inside.1, inside.2, rfl⟩
    · exact fun same => same.2.2.symm
  · rename_i outside
    refine iff_of_false (by simp) ?_
    rintro ⟨low, high, rfl⟩
    exact outside ⟨low, high⟩

theorem create_ok (configured : JwtAccessTokenCodec.create isAlnum signingKey issuer audience tokenTtl signingKeyId
      verificationKeys = .ok codec) :
    0 < tokenTtl ∧ codec.signingKey = signingKey ∧ codec.signingKeyId = signingKeyId ∧ codec.issuer = issuer ∧
      codec.audience = audience ∧ codec.tokenTtl = tokenTtl ∧
      codec.verificationKeys.get signingKeyId = some ((verificationKeys.get signingKeyId).getD signingKey) := by
  simp only [JwtAccessTokenCodec.create, bind_ok, raiseIf_ok, exists_unit, pure_ok] at configured
  obtain ⟨_, positive, _, _, _, rfl⟩ := configured
  refine ⟨by omega, rfl, rfl, rfl, rfl, rfl, ?_⟩
  dsimp only
  cases stored : verificationKeys.get signingKeyId with
  | none => simp
  | some key => simp [stored]

theorem decode_eq_some {claims : AccessTokenClaims} : codec.decode jwt later token = some claims ↔
    ∃ key payload, codec.verificationKeys.get ((jwt.keyId token).getD codec.signingKeyId) = some key ∧
      jwt.decode token key codec.audience codec.issuer = some payload ∧
      (Uuid.ofText? payload.sub = some claims.subject ∧ Uuid.ofText? payload.sid = some claims.sessionId ∧
        Uuid.ofText? payload.jti = some claims.tokenId) ∧
      fromTimestamp payload.iat = some claims.issuedAt ∧ fromTimestamp payload.exp = some claims.expiresAt ∧
      payload.ver = claims.tokenVersion ∧ 1 ≤ payload.ver ∧ claims.issuedAt ≤ later.instant ∧
      later.instant < claims.expiresAt := by
  simp only [JwtAccessTokenCodec.decode, Option.bind_eq_bind, Option.bind_eq_some_iff, Option.pure_def,
    Option.some.injEq, Option.guard_eq_some', not_or, not_lt, not_le, exists_unit]
  constructor
  · rintro ⟨key, found, payload, verified, _, sub, _, sid, _, iat, _, exp, _, jti, ⟨version, began, runs⟩, rfl⟩
    exact ⟨key, payload, found, verified, ⟨sub, sid, jti⟩, iat, exp, rfl, version, began, runs⟩
  · rintro ⟨key, payload, found, verified, ⟨sub, sid, jti⟩, iat, exp, same, version, began, runs⟩
    exact ⟨key, found, payload, verified, _, sub, _, sid, _, iat, _, exp, _, jti, ⟨version, began, runs⟩, by rw [same]⟩

/-- An issued token is decoded to the issued claims exactly when the key under its name verifies it and the
    instant lies between the whole seconds it was issued and expires in. -/
theorem decode_issued_iff (configured : JwtAccessTokenCodec.create isAlnum signingKey issuer audience tokenTtl
      signingKeyId verificationKeys = .ok codec) (version : 1 ≤ tokenVersion)
    (issued : codec.issue jwt now tokenId identityId sessionId tokenVersion = .ok token) :
    codec.decode jwt later token =
        some (codec.issuedClaims now.instant tokenId identityId sessionId tokenVersion) ↔
      (∀ key, verificationKeys.get signingKeyId = some key →
        jwt.sign key (codec.payload now.instant tokenId identityId sessionId tokenVersion) signingKeyId =
          jwt.sign signingKey (codec.payload now.instant tokenId identityId sessionId tokenVersion) signingKeyId) ∧
      audience ≠ [] ∧ timestampSeconds now.instant * 1000000 ≤ later.instant ∧
      later.instant < timestampSeconds (now.instant + tokenTtl) * 1000000 ∧
      timestampSeconds (now.instant + tokenTtl) * 1000000 ≤ maxInstant := by
  obtain ⟨positive, key, keyId, iss, aud, ttl, verifying⟩ := create_ok configured
  simp only [JwtAccessTokenCodec.issue, bind_ok, raiseIf_ok, exists_unit, pure_ok] at issued
  obtain ⟨_, rfl⟩ := issued
  have expiry : minInstant ≤ timestampSeconds (now.instant + tokenTtl) * 1000000 :=
    timestampSeconds_low (now.low.trans (Int.le_add_of_nonneg_right (Int.le_of_lt positive)))
  have verifies : (∀ other, verificationKeys.get signingKeyId = some other →
        jwt.sign other (codec.payload now.instant tokenId identityId sessionId tokenVersion) signingKeyId =
          jwt.sign signingKey (codec.payload now.instant tokenId identityId sessionId tokenVersion) signingKeyId) ↔
      jwt.sign ((verificationKeys.get signingKeyId).getD signingKey)
        (codec.payload now.instant tokenId identityId sessionId tokenVersion) signingKeyId =
          jwt.sign signingKey (codec.payload now.instant tokenId identityId sessionId tokenVersion) signingKeyId := by
    cases verificationKeys.get signingKeyId <;> simp
  rw [verifies, decode_eq_some]
  simp only [jwt.keyId_encode, Option.getD_some, jwt.decode_encode, keyId, key]
  constructor
  · rintro ⟨found, payload, stored, decoded, _, _, exp, _, _, began, runs⟩
    rw [verifying, Option.some.injEq] at stored
    split at decoded
    · rename_i accepted
      rw [stored]
      cases decoded
      refine ⟨accepted.1, by rw [← aud]; exact accepted.2.2.1, began, ?_, ?_⟩
      · rw [← ttl]
        exact runs
      · rw [← ttl]
        exact (fromTimestamp_eq_some.mp exp).2.1
    · cases decoded
  · rintro ⟨signs, listens, began, runs, inside⟩
    refine ⟨_, _, verifying, if_pos ⟨signs, rfl, by rw [aud]; exact listens, rfl⟩, ?_⟩
    refine ⟨⟨Uuid.ofText?_chars _, Uuid.ofText?_chars _, Uuid.ofText?_chars _⟩, ?_, ?_, rfl, version, began, ?_⟩
    · exact fromTimestamp_eq_some.mpr ⟨timestampSeconds_low now.low, began.trans later.high, rfl⟩
    · refine fromTimestamp_eq_some.mpr ⟨?_, ?_, rfl⟩ <;> dsimp only [JwtAccessTokenCodec.issuedClaims] <;> rw [ttl]
      · exact expiry
      · exact inside
    · rw [← ttl] at runs
      exact runs

/-- A compact token, before its parts are written in base64 and joined by dots. -/
structure CompactToken where
  keyId : List Char
  payload : JwtPayload
  signature : BitVec 256

def headerJson (keyId : List Char) : Json :=
  .obj [("alg", .str "HS256"), ("kid", .str (String.ofList keyId)), ("typ", .str "JWT")]

def payloadJson (payload : JwtPayload) : Json := .obj [
  ("iss", .str (String.ofList payload.iss)),
  ("aud", .str (String.ofList payload.aud)),
  ("sub", .str (String.ofList payload.sub)),
  ("sid", .str (String.ofList payload.sid)),
  ("jti", .str (String.ofList payload.jti)),
  ("iat", .int payload.iat),
  ("exp", .int payload.exp),
  ("ver", .int payload.ver)]

/-- The signature of the encoded header and payload under a key. -/
def hs256 (key : List Char) (payload : JwtPayload) (keyId : List Char) : BitVec 256 :=
  let segment (json : Json) := base64Url (json.dumpsChars.flatMap String.utf8EncodeChar)
  let signed := segment (headerJson keyId) ++ '.' :: segment (payloadJson payload)
  hmacSha256 (key.flatMap String.utf8EncodeChar) (signed.flatMap String.utf8EncodeChar)

def testJwt : JwtLibrary where
  Token := CompactToken
  sign := hs256
  encode payload key keyId := ⟨keyId, payload, hs256 key payload keyId⟩
  keyId token := some token.keyId
  decode token key audience issuer :=
    if hs256 key token.payload token.keyId = token.signature ∧ token.payload.aud = audience ∧ audience ≠ [] ∧
      token.payload.iss = issuer then some token.payload else none
  keyId_encode _ _ _ := rfl
  decode_encode _ _ _ _ _ _ := rfl

def testKey : List Char := "an-hs256-signing-key-of-32-bytes".toList

def testCodec (tokenTtl : Int) : JwtAccessTokenCodec where
  signingKey := testKey
  signingKeyId := "active".toList
  verificationKeys := Dict.empty.assign "active".toList testKey
  issuer := "smart-ao".toList
  audience := "smart-ao-api".toList
  tokenTtl := tokenTtl

def epoch : ClockReading := ⟨0, by decide, by decide⟩

/-- A token of fifteen minutes, read after ten. -/
theorem default_token_read : (testCodec 900000000).decode testJwt ⟨600000000, by decide, by decide⟩
      (testJwt.encode ((testCodec 900000000).payload 0 9 7 8 1) testKey "active".toList) =
    some ((testCodec 900000000).issuedClaims 0 9 7 8 1) := by
  have configured : JwtAccessTokenCodec.create Char.isAlphanum testKey "smart-ao".toList "smart-ao-api".toList
    900000000 "active".toList Dict.empty = .ok (testCodec 900000000) := rfl
  have issued : (testCodec 900000000).issue testJwt epoch 9 7 8 1 =
    .ok (testJwt.encode ((testCodec 900000000).payload 0 9 7 8 1) testKey "active".toList) := rfl
  refine (decode_issued_iff configured (by decide) issued).mpr ⟨fun key found => ?_, by decide, ?_⟩
  · cases found
  · decide +kernel

/-- A token of half a second is refused at the instant it is issued. -/
theorem short_token_refused : ¬ ∀ (jwt : JwtLibrary) (isAlnum : Char → Bool) (signingKey issuer audience : List Char)
    (tokenTtl : Int) (signingKeyId : List Char) (verificationKeys : Dict (List Char) (List Char))
    (codec : JwtAccessTokenCodec) (now : ClockReading) (tokenId identityId sessionId : Uuid) (tokenVersion : Int)
    (token : jwt.Token), JwtAccessTokenCodec.create isAlnum signingKey issuer audience tokenTtl signingKeyId
      verificationKeys = .ok codec → 1 ≤ tokenVersion →
    codec.issue jwt now tokenId identityId sessionId tokenVersion = .ok token →
    codec.decode jwt now token = some (codec.issuedClaims now.instant tokenId identityId sessionId tokenVersion) := by
  intro reads
  have read := reads testJwt Char.isAlphanum testKey "smart-ao".toList "smart-ao-api".toList 500000 "active".toList
    Dict.empty (testCodec 500000) epoch 9 7 8 1 _ rfl (by decide) rfl
  obtain ⟨_, _, _, _, _, _, _, _, _, _, runs⟩ := decode_eq_some.mp read
  exact absurd runs (by decide +kernel)

end SmartAo.Security
