import SmartAo.Foundation.Digest

namespace SmartAo.Foundation

/-- The value of a base64 character, in either of its alphabets. -/
def base64Value (c : Char) : Option Nat :=
  if 'A' ≤ c ∧ c ≤ 'Z' then some (c.toNat - 65)
  else if 'a' ≤ c ∧ c ≤ 'z' then some (c.toNat - 71)
  else if '0' ≤ c ∧ c ≤ '9' then some (c.toNat + 4)
  else if c = '+' ∨ c = '-' then some 62
  else if c = '/' ∨ c = '_' then some 63
  else none

/-- `binascii.a2b_base64` outside strict mode: the position in the quad, the bits left of its last character, the
    padding seen since then. Other characters are skipped; a completed padding ends the text. -/
def readBase64 : Nat → Nat → Nat → List Char → Option (List UInt8)
  | quad, _, _, [] => if quad = 0 then some [] else none
  | quad, left, pads, c :: rest =>
    if c = '=' then
      if 2 ≤ quad then if 4 ≤ quad + (pads + 1) then some [] else readBase64 quad left (pads + 1) rest
      else readBase64 quad left pads rest
    else
      match base64Value c, quad with
      | none, _ => readBase64 quad left pads rest
      | some value, 0 => readBase64 1 value 0 rest
      | some value, 1 => (readBase64 2 (value % 16) 0 rest).map (UInt8.ofNat (left * 4 + value / 16) :: ·)
      | some value, 2 => (readBase64 3 (value % 4) 0 rest).map (UInt8.ofNat (left * 16 + value / 4) :: ·)
      | some value, _ => (readBase64 0 0 0 rest).map (UInt8.ofNat (left * 64 + value) :: ·)

/-- `base64.urlsafe_b64decode` of a text. -/
def urlsafeB64decode (text : List Char) : Option (List UInt8) :=
  if ∀ c ∈ text, c.toNat < 128 then readBase64 0 0 0 text else none

example : urlsafeB64decode "-_9N YQ==".toList = some [0xfb, 0xff, 0x4d, 0x61] ∧ urlsafeB64decode "YQ".toList = none ∧
    urlsafeB64decode "YWI=c".toList = some [0x61, 0x62] := by decide +kernel

/-- `text + "=" * (-len(text) % 4)`. -/
def padBase64 (text : List Char) : List Char := text ++ List.replicate ((4 - text.length % 4) % 4) '='

theorem base64Value_base64Digit {value : Nat} (bound : value < 64) :
    base64Value (base64Digit value) = some value ∧ base64Digit value ≠ '=' ∧ (base64Digit value).toNat < 128 := by
  have table : ∀ value : Fin 64, base64Value (base64Digit value) = some value.val ∧ base64Digit value ≠ '=' ∧
      (base64Digit value).toNat < 128 := by decide +kernel
  exact table ⟨value, bound⟩

section Digits

variable {value left pads : Nat} {rest : List Char}

theorem readBase64_first (bound : value < 64) :
    readBase64 0 left pads (base64Digit value :: rest) = readBase64 1 value 0 rest := by
  obtain ⟨known, plain, _⟩ := base64Value_base64Digit bound
  simp only [readBase64, if_neg plain, known]

theorem readBase64_second (bound : value < 64) : readBase64 1 left pads (base64Digit value :: rest) =
    (readBase64 2 (value % 16) 0 rest).map (UInt8.ofNat (left * 4 + value / 16) :: ·) := by
  obtain ⟨known, plain, _⟩ := base64Value_base64Digit bound
  simp only [readBase64, if_neg plain, known]

theorem readBase64_third (bound : value < 64) : readBase64 2 left pads (base64Digit value :: rest) =
    (readBase64 3 (value % 4) 0 rest).map (UInt8.ofNat (left * 16 + value / 4) :: ·) := by
  obtain ⟨known, plain, _⟩ := base64Value_base64Digit bound
  simp only [readBase64, if_neg plain, known]

theorem readBase64_fourth (bound : value < 64) : readBase64 3 left pads (base64Digit value :: rest) =
    (readBase64 0 0 0 rest).map (UInt8.ofNat (left * 64 + value) :: ·) := by
  obtain ⟨known, plain, _⟩ := base64Value_base64Digit bound
  simp only [readBase64, if_neg plain, known]

end Digits

theorem ofNat_of_eq (byte : UInt8) {number : Nat} (same : number = byte.toNat) : UInt8.ofNat number = byte := by
  rw [same, UInt8.ofNat_toNat]

/-- Reading what was written gives the bytes back. -/
theorem readBase64_base64Url (bytes : List UInt8) : readBase64 0 0 0 (padBase64 (base64Url bytes)) = some bytes := by
  induction bytes using base64Url.induct with
  | case1 => rfl
  | case2 a =>
    have size := a.toNat_lt
    have padded : padBase64 (base64Url [a]) =
        base64Digit (a.toNat / 4) :: base64Digit (a.toNat % 4 * 16) :: ['=', '='] := rfl
    rw [padded, readBase64_first (by omega), readBase64_second (by omega), ofNat_of_eq a (by omega)]
    rfl
  | case3 a b =>
    have first := a.toNat_lt
    have second := b.toNat_lt
    have padded : padBase64 (base64Url [a, b]) = base64Digit (a.toNat / 4) ::
        base64Digit (a.toNat % 4 * 16 + b.toNat / 16) :: base64Digit (b.toNat % 16 * 4) :: ['='] := rfl
    rw [padded, readBase64_first (by omega), readBase64_second (by omega), readBase64_third (by omega),
      ofNat_of_eq a (by omega), ofNat_of_eq b (by omega)]
    rfl
  | case4 a b c rest ih =>
    have first := a.toNat_lt
    have second := b.toNat_lt
    have third := c.toNat_lt
    have padded : padBase64 (base64Url (a :: b :: c :: rest)) = base64Digit (a.toNat / 4) ::
        base64Digit (a.toNat % 4 * 16 + b.toNat / 16) :: base64Digit (b.toNat % 16 * 4 + c.toNat / 64) ::
        base64Digit (c.toNat % 64) :: padBase64 (base64Url rest) := by
      rw [base64Url, padBase64, padBase64]
      simp only [List.length_cons, List.cons_append, Nat.add_assoc, Nat.reduceAdd, Nat.add_mod_right]
    rw [padded, readBase64_first (by omega), readBase64_second (by omega), readBase64_third (by omega),
      readBase64_fourth (by omega), ih, ofNat_of_eq a (by omega), ofNat_of_eq b (by omega),
      ofNat_of_eq c (by omega)]
    rfl

theorem base64Url_ascii (bytes : List UInt8) : ∀ c ∈ padBase64 (base64Url bytes), c.toNat < 128 := by
  have written : ∀ c ∈ base64Url bytes, c.toNat < 128 := by
    have digit {value : Nat} (bound : value < 64) : (base64Digit value).toNat < 128 :=
      (base64Value_base64Digit bound).2.2
    induction bytes using base64Url.induct with
    | case1 => exact fun _ member => absurd member List.not_mem_nil
    | case2 a =>
      have size := a.toNat_lt
      simp only [base64Url, List.forall_mem_cons]
      exact ⟨digit (by omega), digit (by omega), by simp⟩
    | case3 a b =>
      have first := a.toNat_lt
      have second := b.toNat_lt
      simp only [base64Url, List.forall_mem_cons]
      exact ⟨digit (by omega), digit (by omega), digit (by omega), by simp⟩
    | case4 a b c rest ih =>
      have first := a.toNat_lt
      have second := b.toNat_lt
      have third := c.toNat_lt
      simp only [base64Url, List.forall_mem_cons]
      exact ⟨digit (by omega), digit (by omega), digit (by omega), digit (by omega), ih⟩
  intro c member
  rcases List.mem_append.mp member with data | pad
  · exact written c data
  · rw [List.eq_of_mem_replicate pad]
    decide

theorem urlsafeB64decode_base64Url (bytes : List UInt8) :
    urlsafeB64decode (padBase64 (base64Url bytes)) = some bytes := by
  rw [urlsafeB64decode, if_pos (base64Url_ascii bytes), readBase64_base64Url]

end SmartAo.Foundation
