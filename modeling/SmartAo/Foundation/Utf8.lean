import Mathlib.Data.List.Basic
import Mathlib.Tactic.IntervalCases

namespace SmartAo.Foundation

section Encoding

/-- The UTF-8 encoding of a text. -/
def utf8Bytes (text : List Char) : List UInt8 := text.flatMap String.utf8EncodeChar

def decodeUtf8 (bytes : List UInt8) : Option (List Char) :=
  bytes.toByteArray.utf8Decode?.map Array.toList

@[simp] theorem utf8Bytes_append (first second : List Char) :
    utf8Bytes (first ++ second) = utf8Bytes first ++ utf8Bytes second := List.flatMap_append

theorem decodeUtf8_utf8Bytes (text : List Char) : decodeUtf8 (utf8Bytes text) = some text := by
  have encoded : (utf8Bytes text).toByteArray = text.utf8Encode := rfl
  rw [decodeUtf8, encoded, List.utf8Decode?_utf8Encode]
  rfl

theorem decodeUtf8_eq_some {bytes : List UInt8} {text : List Char} :
    decodeUtf8 bytes = some text ↔ bytes = utf8Bytes text := by
  constructor
  · intro decoded
    obtain ⟨chars, found, rfl⟩ := Option.map_eq_some_iff.mp decoded
    have valid : bytes.toByteArray.utf8Decode?.isSome = true := by
      rw [found]
      rfl
    have encoded := @ByteArray.utf8Encode_get_utf8Decode? bytes.toByteArray valid
    simp only [found, Option.get_some] at encoded
    have lists := congrArg (·.data.toList) encoded
    simp only [List.utf8Encode, List.toList_data_toByteArray] at lists
    exact lists.symm
  · rintro rfl
    exact decodeUtf8_utf8Bytes text

theorem length_le_utf8Bytes (text : List Char) : text.length ≤ (utf8Bytes text).length := by
  induction text with
  | nil => exact Nat.zero_le _
  | cons c rest ih =>
    have one : 1 ≤ (String.utf8EncodeChar c).length := by
      rw [String.length_utf8EncodeChar]
      exact c.utf8Size_pos
    rw [utf8Bytes, List.flatMap_cons, List.length_append, List.length_cons]
    rw [utf8Bytes] at ih
    omega

/-- The bytes between the ends of two heads of a text are those of the text between. -/
theorem utf8Bytes_slice {start stop : Nat} (ordered : start ≤ stop) (text : List Char) :
    ((utf8Bytes text).drop (utf8Bytes (text.take start)).length).take
      ((utf8Bytes (text.take stop)).length - (utf8Bytes (text.take start)).length) =
        utf8Bytes ((text.take stop).drop start) := by
  have head : text.take stop = text.take start ++ (text.take stop).drop start := by
    have front : (text.take stop).take start = text.take start := by
      rw [List.take_take, Nat.min_eq_left ordered]
    rw [← front, List.take_append_drop]
  have whole : text = text.take start ++ ((text.take stop).drop start ++ text.drop stop) := by
    rw [← List.append_assoc, ← head, List.take_append_drop]
  have lengths : (utf8Bytes (text.take stop)).length =
      (utf8Bytes (text.take start)).length + (utf8Bytes ((text.take stop).drop start)).length := by
    conv_lhs => rw [head]
    rw [utf8Bytes_append, List.length_append]
  have bytes : utf8Bytes text = utf8Bytes (text.take start) ++
      (utf8Bytes ((text.take stop).drop start) ++ utf8Bytes (text.drop stop)) := by
    conv_lhs => rw [whole]
    rw [utf8Bytes_append, utf8Bytes_append]
  rw [bytes, lengths, Nat.add_sub_cancel_left, List.drop_left, List.take_left]

theorem utf8Bytes_take_le (text : List Char) (count : Nat) :
    (utf8Bytes (text.take count)).length ≤ (utf8Bytes text).length := by
  have whole : utf8Bytes text = utf8Bytes (text.take count) ++ utf8Bytes (text.drop count) := by
    rw [← utf8Bytes_append, List.take_append_drop]
  rw [whole, List.length_append]
  exact Nat.le_add_right _ _

end Encoding

section Replacement

/-- A character some bytes of which are read: their value, the bytes it still takes, and the range of the next. -/
structure PendingChar where
  value : Nat
  owed : Nat
  low : Nat
  high : Nat

def replacement : Char := '\ufffd'

/-- What a first byte decodes to: a character, the start of one, or none at all. -/
def leadStep (byte : UInt8) : List Char × Option PendingChar :=
  let n := byte.toNat
  if n < 0x80 then ([Char.ofNat n], none)
  else if 0xc2 ≤ n ∧ n ≤ 0xdf then ([], some ⟨n - 0xc0, 1, 0x80, 0xbf⟩)
  else if n = 0xe0 then ([], some ⟨0, 2, 0xa0, 0xbf⟩)
  else if n = 0xed then ([], some ⟨0xd, 2, 0x80, 0x9f⟩)
  else if 0xe1 ≤ n ∧ n ≤ 0xef then ([], some ⟨n - 0xe0, 2, 0x80, 0xbf⟩)
  else if n = 0xf0 then ([], some ⟨0, 3, 0x90, 0xbf⟩)
  else if 0xf1 ≤ n ∧ n ≤ 0xf3 then ([], some ⟨n - 0xf0, 3, 0x80, 0xbf⟩)
  else if n = 0xf4 then ([], some ⟨4, 3, 0x80, 0x8f⟩)
  else ([replacement], none)

def decodeStep : Option PendingChar → UInt8 → List Char × Option PendingChar
  | none, byte => leadStep byte
  | some pending, byte =>
    if pending.low ≤ byte.toNat ∧ byte.toNat ≤ pending.high then
      let value := pending.value * 64 + (byte.toNat - 0x80)
      if pending.owed = 1 then ([Char.ofNat value], none)
      else ([], some ⟨value, pending.owed - 1, 0x80, 0xbf⟩)
    else (replacement :: (leadStep byte).1, (leadStep byte).2)

def decodeFrom : Option PendingChar → List UInt8 → List Char
  | none, [] => []
  | some _, [] => [replacement]
  | state, byte :: bytes => (decodeStep state byte).1 ++ decodeFrom (decodeStep state byte).2 bytes

/-- `bytes.decode("utf-8", errors="replace")`: one replacement for each maximal part no character goes on from. -/
def decodeReplace (bytes : List UInt8) : List Char := decodeFrom none bytes

example : decodeReplace [0x41, 0xe2, 0x82, 0x42, 0xed, 0xa0, 0xf0, 0x9f] =
    ['A', '\ufffd', 'B', '\ufffd', '\ufffd', '\ufffd'] := by decide

theorem decodeFrom_none_cons (byte : UInt8) (bytes : List UInt8) :
    decodeFrom none (byte :: bytes) = (leadStep byte).1 ++ decodeFrom (leadStep byte).2 bytes := rfl

theorem toNat_byte {n : Nat} (small : n < 256) : (UInt8.ofNat n).toNat = n := by
  rw [UInt8.toNat_ofNat']
  omega

/-- A byte in the range of the next one carries six bits of the character. -/
theorem decodeFrom_tail {value owed low high bits : Nat} (bytes : List UInt8) (small : bits < 64)
    (above : low ≤ bits + 0x80) (below : bits + 0x80 ≤ high) :
    decodeFrom (some ⟨value, owed, low, high⟩) (UInt8.ofNat (bits + 0x80) :: bytes) =
      if owed = 1 then Char.ofNat (value * 64 + bits) :: decodeFrom none bytes
      else decodeFrom (some ⟨value * 64 + bits, owed - 1, 0x80, 0xbf⟩) bytes := by
  have byte : (UInt8.ofNat (bits + 0x80)).toNat = bits + 0x80 := toNat_byte (by omega)
  show (decodeStep (some _) _).1 ++ decodeFrom (decodeStep (some _) _).2 bytes = _
  rw [decodeStep, byte, if_pos ⟨above, below⟩, Nat.add_sub_cancel]
  dsimp only
  split <;> rfl

theorem decodeFrom_lead {n : Nat} {state : Option PendingChar} (bytes : List UInt8)
    (leads : leadStep (UInt8.ofNat n) = ([], state)) :
    decodeFrom none (UInt8.ofNat n :: bytes) = decodeFrom state bytes := by
  rw [decodeFrom_none_cons, leads]
  rfl

/-- The state after the first byte of a character that takes two more. -/
def leadThree (bits : Nat) : PendingChar :=
  ⟨bits, 2, if bits = 0 then 0xa0 else 0x80, if bits = 0xd then 0x9f else 0xbf⟩

/-- The state after the first byte of a character that takes three more. -/
def leadFour (bits : Nat) : PendingChar :=
  ⟨bits, 3, if bits = 0 then 0x90 else 0x80, if bits = 4 then 0x8f else 0xbf⟩

theorem leadStep_three {bits : Nat} (small : bits < 16) :
    leadStep (UInt8.ofNat (bits + 0xe0)) = ([], some (leadThree bits)) := by
  interval_cases bits <;> rfl

theorem leadStep_four {bits : Nat} (small : bits < 5) :
    leadStep (UInt8.ofNat (bits + 0xf0)) = ([], some (leadFour bits)) := by
  interval_cases bits <;> rfl

theorem leadStep_two {bits : Nat} (above : 2 ≤ bits) (small : bits < 32) :
    leadStep (UInt8.ofNat (bits + 0xc0)) = ([], some ⟨bits, 1, 0x80, 0xbf⟩) := by
  interval_cases bits <;> rfl

theorem decodeFrom_encoded (c : Char) (bytes : List UInt8) :
    decodeFrom none (String.utf8EncodeChar c ++ bytes) = c :: decodeFrom none bytes := by
  have valid : c.toNat < 0xd800 ∨ (0xdfff < c.toNat ∧ c.toNat < 0x110000) := c.valid
  have back : Char.ofNat c.toNat = c := Char.ofNat_toNat c
  show decodeFrom none ((if c.toNat ≤ 0x7f then _ else if c.toNat ≤ 0x7ff then _ else if c.toNat ≤ 0xffff then _
    else _) ++ bytes) = _
  by_cases one : c.toNat ≤ 0x7f
  · rw [if_pos one]
    show decodeFrom none (UInt8.ofNat c.toNat :: bytes) = _
    have small : (UInt8.ofNat c.toNat).toNat = c.toNat := toNat_byte (by omega)
    rw [decodeFrom_none_cons, leadStep, small, if_pos (by omega), back]
    rfl
  by_cases two : c.toNat ≤ 0x7ff
  · rw [if_neg one, if_pos two]
    have whole : c.toNat / 64 % 0x20 * 64 + c.toNat % 0x40 = c.toNat := by omega
    show decodeFrom none (UInt8.ofNat (c.toNat / 64 % 0x20 + 0xc0) :: UInt8.ofNat (c.toNat % 0x40 + 0x80) :: bytes) = _
    rw [decodeFrom_lead _ (leadStep_two (by omega) (by omega)),
      decodeFrom_tail _ (by omega) (by omega) (by omega), if_pos rfl, whole, back]
  by_cases three : c.toNat ≤ 0xffff
  · rw [if_neg one, if_neg two, if_pos three]
    have whole : (c.toNat / 4096 % 0x10 * 64 + c.toNat / 64 % 0x40) * 64 + c.toNat % 0x40 = c.toNat := by omega
    show decodeFrom none (UInt8.ofNat (c.toNat / 4096 % 0x10 + 0xe0) :: UInt8.ofNat (c.toNat / 64 % 0x40 + 0x80) ::
      UInt8.ofNat (c.toNat % 0x40 + 0x80) :: bytes) = _
    rw [decodeFrom_lead _ (leadStep_three (by omega)), leadThree,
      decodeFrom_tail _ (by omega) (by split <;> omega) (by split <;> omega), if_neg (by decide),
      decodeFrom_tail _ (by omega) (by omega) (by omega), if_pos rfl, whole, back]
  · rw [if_neg one, if_neg two, if_neg three]
    have whole : ((c.toNat / 262144 % 0x08 * 64 + c.toNat / 4096 % 0x40) * 64 + c.toNat / 64 % 0x40) * 64 +
        c.toNat % 0x40 = c.toNat := by omega
    show decodeFrom none (UInt8.ofNat (c.toNat / 262144 % 0x08 + 0xf0) :: UInt8.ofNat (c.toNat / 4096 % 0x40 + 0x80) ::
      UInt8.ofNat (c.toNat / 64 % 0x40 + 0x80) :: UInt8.ofNat (c.toNat % 0x40 + 0x80) :: bytes) = _
    rw [decodeFrom_lead _ (leadStep_four (by omega)), leadFour,
      decodeFrom_tail _ (by omega) (by split <;> omega) (by split <;> omega), if_neg (by decide),
      decodeFrom_tail _ (by omega) (by omega) (by omega), if_neg (by decide),
      decodeFrom_tail _ (by omega) (by omega) (by omega), if_pos rfl, whole, back]

/-- The bytes of a text decode to it. -/
theorem decodeReplace_utf8Bytes (text : List Char) : decodeReplace (utf8Bytes text) = text := by
  unfold decodeReplace
  induction text with
  | nil => rfl
  | cons c rest ih =>
    rw [utf8Bytes, List.flatMap_cons, decodeFrom_encoded]
    rw [utf8Bytes] at ih
    rw [ih]

end Replacement

end SmartAo.Foundation
