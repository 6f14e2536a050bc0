import SmartAo.Foundation.Hex

namespace SmartAo.Foundation.Sha256

def roundConstants : List Nat := [
  0x428a2f98, 0x71374491, 0xb5c0fbcf, 0xe9b5dba5, 0x3956c25b, 0x59f111f1, 0x923f82a4, 0xab1c5ed5,
  0xd807aa98, 0x12835b01, 0x243185be, 0x550c7dc3, 0x72be5d74, 0x80deb1fe, 0x9bdc06a7, 0xc19bf174,
  0xe49b69c1, 0xefbe4786, 0x0fc19dc6, 0x240ca1cc, 0x2de92c6f, 0x4a7484aa, 0x5cb0a9dc, 0x76f988da,
  0x983e5152, 0xa831c66d, 0xb00327c8, 0xbf597fc7, 0xc6e00bf3, 0xd5a79147, 0x06ca6351, 0x14292967,
  0x27b70a85, 0x2e1b2138, 0x4d2c6dfc, 0x53380d13, 0x650a7354, 0x766a0abb, 0x81c2c92e, 0x92722c85,
  0xa2bfe8a1, 0xa81a664b, 0xc24b8b70, 0xc76c51a3, 0xd192e819, 0xd6990624, 0xf40e3585, 0x106aa070,
  0x19a4c116, 0x1e376c08, 0x2748774c, 0x34b0bcb5, 0x391c0cb3, 0x4ed8aa4a, 0x5b9cca4f, 0x682e6ff3,
  0x748f82ee, 0x78a5636f, 0x84c87814, 0x8cc70208, 0x90befffa, 0xa4506ceb, 0xbef9a3f7, 0xc67178f2]

/-- Eight 32-bit words, the first one highest. -/
def initial : Nat := 0x6a09e667bb67ae853c6ef372a54ff53a510e527f9b05688c1f83d9ab5be0cd19

def wrap (word : Nat) : Nat := word % 2 ^ 32

def rotateRight (count word : Nat) : Nat := word >>> count ||| wrap (word <<< (32 - count))

/-- Evaluates the value before what follows it. -/
def strict {α : Type} (value : Nat) (next : Nat → α) : α :=
  match value with
  | 0 => next 0
  | predecessor + 1 => next (predecessor + 1)

/-- The message schedule, from a window of sixteen words. -/
def schedule : Nat → Nat → List Nat
  | 0, _ => []
  | count + 1, window =>
    let word (index : Nat) := wrap (window >>> (480 - 32 * index))
    let low := rotateRight 7 (word 1) ^^^ rotateRight 18 (word 1) ^^^ (word 1 >>> 3)
    let high := rotateRight 17 (word 14) ^^^ rotateRight 19 (word 14) ^^^ (word 14 >>> 10)
    strict ((window <<< 32 ||| wrap (word 0 + low + word 9 + high)) % 2 ^ 512) fun next =>
      word 0 :: schedule count next

def field (index state : Nat) : Nat := wrap (state >>> (224 - 32 * index))

def round (constant word state : Nat) : Nat :=
  let a := field 0 state
  let e := field 4 state
  let choice := (e &&& field 5 state) ^^^ ((2 ^ 32 - 1 - e) &&& field 6 state)
  let majority := (a &&& field 1 state) ^^^ (a &&& field 2 state) ^^^ (field 1 state &&& field 2 state)
  let first := field 7 state + (rotateRight 6 e ^^^ rotateRight 11 e ^^^ rotateRight 25 e) + choice +
    constant + word
  let second := (rotateRight 2 a ^^^ rotateRight 13 a ^^^ rotateRight 22 a) + majority
  (wrap (first + second) <<< 224) ||| ((state >>> 160) <<< 128) |||
    (wrap (field 3 state + first) <<< 96) ||| ((state >>> 32) % 2 ^ 96)

def rounds : List Nat → List Nat → Nat → Nat
  | constant :: constants, word :: words, state =>
    strict (round constant word state) (rounds constants words)
  | _, _, state => state

def compress (state block : Nat) : Nat :=
  strict (rounds roundConstants (schedule 64 block) state) fun final =>
    (List.range 8).foldl (fun sum index => sum <<< 32 ||| wrap (field index final + field index state)) 0

def blocks (message : Nat) : Nat → Nat → Nat
  | 0, state => state
  | count + 1, state =>
    strict ((message >>> (512 * count)) % 2 ^ 512) fun block =>
      strict (compress state block) (blocks message count)

end Sha256

/-- SHA-256 of a sequence of bytes. -/
def sha256Bytes (bytes : List UInt8) : BitVec 256 :=
  let count := (bytes.length + 72) / 64
  let message := bytes.foldl (fun value byte => value * 256 + byte.toNat) 0
  let padded := (message * 256 + 128) <<< (8 * (64 * count - bytes.length - 1)) ||| 8 * bytes.length
  .ofNat 256 (Sha256.blocks padded count Sha256.initial)

/-- SHA-256 of the UTF-8 encoding of a text, given as its characters. -/
def sha256 (text : List Char) : BitVec 256 := sha256Bytes (text.flatMap String.utf8EncodeChar)

example : sha256 ['a', 'b', 'c'] =
    0xba7816bf8f01cfea414140de5dae2223b00361a396177a9cb410ff61f20015ad := by decide +kernel

def hexdigest (text : List Char) : String := String.ofList (hexDigits 64 (sha256 text).toNat)

def hexdigestBytes (bytes : List UInt8) : String := String.ofList (hexDigits 64 (sha256Bytes bytes).toNat)

theorem hexdigest_injective {first second : List Char} (same : hexdigest first = hexdigest second) :
    sha256 first = sha256 second := by
  have digits : hexDigits 64 (sha256 first).toNat = hexDigits 64 (sha256 second).toNat :=
    String.ofList_injective same
  exact BitVec.eq_of_toNat_eq (hexDigits_injective 64 (sha256 first).isLt (sha256 second).isLt digits)

end SmartAo.Foundation

namespace SmartAo.Foundation.Sha1

open Sha256 (wrap strict)

/-- Five 32-bit words, the first one highest. -/
def initial : Nat := 0x67452301efcdab8998badcfe10325476c3d2e1f0

def rotateLeft (count word : Nat) : Nat := wrap (word <<< count) ||| word >>> (32 - count)

/-- The message schedule, from a window of sixteen words. -/
def schedule : Nat → Nat → List Nat
  | 0, _ => []
  | count + 1, window =>
    let word (index : Nat) := wrap (window >>> (480 - 32 * index))
    strict ((window <<< 32 ||| rotateLeft 1 (word 13 ^^^ word 8 ^^^ word 2 ^^^ word 0)) % 2 ^ 512) fun next =>
      word 0 :: schedule count next

def field (index state : Nat) : Nat := wrap (state >>> (128 - 32 * index))

def mix (index state : Nat) : Nat :=
  let b := field 1 state
  let c := field 2 state
  let d := field 3 state
  if index < 20 then ((b &&& c) ^^^ ((2 ^ 32 - 1 - b) &&& d)) + 0x5a827999
  else if index < 40 then (b ^^^ c ^^^ d) + 0x6ed9eba1
  else if index < 60 then ((b &&& c) ^^^ (b &&& d) ^^^ (c &&& d)) + 0x8f1bbcdc
  else (b ^^^ c ^^^ d) + 0xca62c1d6

def round (index word state : Nat) : Nat :=
  let first := rotateLeft 5 (field 0 state) + mix index state + field 4 state + word
  wrap first <<< 128 ||| field 0 state <<< 96 ||| rotateLeft 30 (field 1 state) <<< 64 |||
    field 2 state <<< 32 ||| field 3 state

def rounds : Nat → List Nat → Nat → Nat
  | index, word :: words, state => strict (round index word state) (rounds (index + 1) words)
  | _, [], state => state

def compress (state block : Nat) : Nat :=
  strict (rounds 0 (schedule 80 block) state) fun final =>
    (List.range 5).foldl (fun sum index => sum <<< 32 ||| wrap (field index final + field index state)) 0

def blocks (message : Nat) : Nat → Nat → Nat
  | 0, state => state
  | count + 1, state =>
    strict ((message >>> (512 * count)) % 2 ^ 512) fun block =>
      strict (compress state block) (blocks message count)

/-- SHA-1 of a message of the given number of bytes. -/
def digest (length message : Nat) : Nat :=
  let count := (length + 72) / 64
  blocks ((message * 256 + 128) <<< (8 * (64 * count - length - 1)) ||| 8 * length) count initial

end SmartAo.Foundation.Sha1

namespace SmartAo.Foundation

def bytesValue (bytes : List UInt8) : Nat := bytes.foldl (fun value byte => value * 256 + byte.toNat) 0

/-- HMAC-SHA1 of a message of the given number of bytes, under a key of at most a block. -/
def hmacSha1 (key : List UInt8) (length message : Nat) : Nat :=
  let block := bytesValue key <<< (8 * (64 - key.length))
  let inner := block ^^^ bytesValue (List.replicate 64 0x36)
  let outer := block ^^^ bytesValue (List.replicate 64 0x5c)
  Sha1.digest 84 (outer <<< 160 ||| Sha1.digest (64 + length) (inner <<< (8 * length) ||| message))

def base32Value (c : Char) : Option Nat :=
  if 'A' ≤ c.toUpper ∧ c.toUpper ≤ 'Z' then some (c.toUpper.toNat - 65)
  else if '2' ≤ c ∧ c ≤ '7' then some (c.toNat - 24)
  else none

/-- `base64.b32decode` of a text without its padding, in either case. -/
def b32decode (text : List Char) : Option (List UInt8) := do
  let digits ← text.mapM base32Value
  let spare := 5 * digits.length % 8
  let value := digits.foldl (fun value digit => value * 32 + digit) 0 >>> spare
  guard (spare < 5)
  return ((List.range (5 * digits.length / 8)).map fun index => UInt8.ofNat (value >>> (8 * index))).reverse

example : (b32decode "GEZDGNBVGY3TQOJQGEZDGNBVGY3TQOJQ".toList).map (hmacSha1 · 8 1) =
    some 0x75a48a19d4cbe100644e8ac1397eea747a2d33ab := by decide +kernel

def digestBytes (digest : BitVec 256) : List UInt8 :=
  (List.range 32).map fun index => UInt8.ofNat (digest.toNat >>> (8 * (31 - index)))

/-- HMAC-SHA256 of a message; a key beyond a block is replaced by its digest. -/
def hmacSha256 (key message : List UInt8) : BitVec 256 :=
  let short := if 64 < key.length then digestBytes (sha256Bytes key) else key
  let block := short ++ List.replicate (64 - short.length) 0
  sha256Bytes (block.map (· ^^^ 0x5c) ++ digestBytes (sha256Bytes (block.map (· ^^^ 0x36) ++ message)))

example : hmacSha256 ("key".toList.flatMap String.utf8EncodeChar)
    ("The quick brown fox jumps over the lazy dog".toList.flatMap String.utf8EncodeChar) =
      0xf7bc83f430538424b13298e6aa6fb143ef4d59a14946175997479dbc2d1a3cd8 := by decide +kernel

def base64Digit (value : Nat) : Char :=
  if value < 26 then Char.ofNat (65 + value)
  else if value < 52 then Char.ofNat (71 + value)
  else if value < 62 then Char.ofNat (value - 4)
  else if value = 62 then '-'
  else '_'

/-- `base64.urlsafe_b64encode` without its padding. -/
def base64Url : List UInt8 → List Char
  | [] => []
  | [a] => [base64Digit (a.toNat / 4), base64Digit (a.toNat % 4 * 16)]
  | [a, b] => [base64Digit (a.toNat / 4), base64Digit (a.toNat % 4 * 16 + b.toNat / 16),
    base64Digit (b.toNat % 16 * 4)]
  | a :: b :: c :: rest => base64Digit (a.toNat / 4) :: base64Digit (a.toNat % 4 * 16 + b.toNat / 16) ::
    base64Digit (b.toNat % 16 * 4 + c.toNat / 64) :: base64Digit (c.toNat % 64) :: base64Url rest

example : base64Url [0xfb, 0xff, 0x4d, 0x61] = "-_9NYQ".toList := by decide +kernel

end SmartAo.Foundation
