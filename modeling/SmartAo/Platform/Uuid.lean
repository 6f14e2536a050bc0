import SmartAo.Foundation.Digest
import SmartAo.Foundation.Text
import SmartAo.Platform.Command

namespace SmartAo.Platform

open SmartAo.Foundation

/-- `uuid5`: the first 128 bits of the SHA-1 of a namespace and a name, with version and variant set. -/
def uuid5 (space : Uuid) (name : List Char) : Uuid :=
  let bytes := name.flatMap String.utf8EncodeChar
  let message := bytes.foldl (fun value byte => value * 256 + byte.toNat) space.toNat
  let hash : BitVec 128 := .ofNat 128 (Sha1.digest (16 + bytes.length) message >>> 32)
  hash &&& ~~~ 0xf000c000000000000000 ||| 0x50008000000000000000

example : uuid5 0x6ba7b8109dad11d180b400c04fd430c8 "python.org".toList =
    0x886313e13b8a53729b900c9aee199e5d := by decide +kernel

/-- `uuid5` has no collision among the spaces and names in play. -/
def Uuid5Injective (names : List (Uuid × List Char)) : Prop :=
  ∀ first ∈ names, ∀ second ∈ names, uuid5 first.1 first.2 = uuid5 second.1 second.2 → first = second

/-- `str.replace` of a text by nothing; the characters of an occurrence are skipped. -/
def removeFrom (pattern : List Char) : Nat → List Char → List Char
  | _, [] => []
  | skipped + 1, _ :: rest => removeFrom pattern skipped rest
  | 0, c :: rest =>
    if pattern.isPrefixOf (c :: rest) then removeFrom pattern (pattern.length - 1) rest
    else c :: removeFrom pattern 0 rest

def hexValue (c : Char) : Option Nat :=
  if '0' ≤ c ∧ c ≤ '9' then some (c.toNat - 48)
  else if 'a' ≤ c ∧ c ≤ 'f' then some (c.toNat - 87)
  else if 'A' ≤ c ∧ c ≤ 'F' then some (c.toNat - 55)
  else none

/-- Digits that single underscores may separate; the flag asks for a digit next. -/
def readHex : Nat → Bool → List Char → Option Nat
  | _, true, [] => none
  | value, false, [] => some value
  | value, true, c :: rest => (hexValue c).bind fun digit => readHex (value * 16 + digit) false rest
  | value, false, c :: rest =>
    if c = '_' then readHex value true rest
    else (hexValue c).bind fun digit => readHex (value * 16 + digit) false rest

/-- `int(text, 16)` of a text without a minus sign. -/
def intHex (text : List Char) : Option Nat :=
  let bare := stripChars text
  let unsigned := if bare.head? = some '+' then bare.tail else bare
  if unsigned.take 2 = ['0', 'x'] ∨ unsigned.take 2 = ['0', 'X'] then
    readHex 0 true (if (unsigned.drop 2).head? = some '_' then unsigned.drop 3 else unsigned.drop 2)
  else readHex 0 true unsigned

def isBrace (c : Char) : Bool := c == '\x7b' || c == '\x7d'

/-- `UUID(text)`. -/
def Uuid.ofText? (text : List Char) : Option Uuid :=
  let bare := removeFrom "uuid:".toList 0 (removeFrom "urn:".toList 0 text)
  let hex := (trimBy isBrace bare).filter (· ≠ '-')
  if hex.length ≠ 32 then none else (intHex hex).map (BitVec.ofNat 128)

example : Uuid.ofText? "urn:uuid:123E4567-e89b-12d3-a456-426614174000".toList =
    some 0x123e4567e89b12d3a456426614174000 := by decide +kernel

theorem removeFrom_eq_self {pattern text : List Char} {first : Char} (starts : pattern.head? = some first)
    (absent : first ∉ text) : removeFrom pattern 0 text = text := by
  induction text with
  | nil => rfl
  | cons c rest ih =>
    obtain ⟨other, later⟩ := not_or.mp (List.mem_cons.not.mp absent)
    cases pattern with
    | nil => cases starts
    | cons head tail =>
      have same : head = first := Option.some.inj starts
      have apart : (head :: tail).isPrefixOf (c :: rest) = false := by
        rw [same, List.isPrefixOf_cons_cons, beq_false_of_ne other, Bool.false_and]
      rw [removeFrom, apart, if_neg Bool.false_ne_true, ih later]

theorem readHex_append {xs ys : List Char} (digits : ∀ c ∈ xs, IsHexDigit c) (value : Nat) :
    readHex value false (xs ++ ys) = (readHex value false xs).bind fun value => readHex value false ys := by
  induction xs generalizing value with
  | nil => rfl
  | cons c xs ih =>
    obtain ⟨digit, others⟩ := List.forall_mem_cons.mp digits
    have plain : c ≠ '_' := by
      rintro rfl
      exact absurd digit (by decide)
    rw [List.cons_append, readHex, readHex, if_neg plain, if_neg plain]
    cases hexValue c with
    | none => rfl
    | some digit => exact ih others _

theorem hexValue_digitChar {digit : Nat} (bound : digit < 16) : hexValue (Nat.digitChar digit) = some digit := by
  have table : ∀ digit : Fin 16, hexValue (Nat.digitChar digit) = some digit.val := by decide
  exact table ⟨digit, bound⟩

theorem digitChar_ne_underscore {digit : Nat} (bound : digit < 16) : Nat.digitChar digit ≠ '_' := by
  have table : ∀ digit : Fin 16, Nat.digitChar digit ≠ '_' := by decide
  exact table ⟨digit, bound⟩

theorem readHex_hexDigits (width : Nat) {number : Nat} (bound : number < 16 ^ width) (value : Nat) :
    readHex value false (hexDigits width number) = some (value * 16 ^ width + number) := by
  induction width generalizing number with
  | zero =>
    simp only [pow_zero] at bound
    simp [hexDigits, readHex]
    omega
  | succ width ih =>
    rw [pow_succ] at bound
    have last : number % 16 < 16 := Nat.mod_lt _ (by omega)
    rw [hexDigits, readHex_append (hexDigits_isHexDigit width _), ih (Nat.div_lt_of_lt_mul (by omega)),
      Option.bind_some, readHex, if_neg (digitChar_ne_underscore last), hexValue_digitChar last, Option.bind_some,
      readHex, pow_succ]
    congr 1
    have split := Nat.div_add_mod number 16
    rw [Nat.add_mul, ← Nat.mul_assoc]
    omega

theorem intHex_hexDigits {number : Nat} (bound : number < 16 ^ 32) : intHex (hexDigits 32 number) = some number := by
  have digits := hexDigits_isHexDigit 32 number
  have bare : stripChars (hexDigits 32 number) = hexDigits 32 number := by
    have blank : ∀ c, IsHexDigit c → isSpace c = false := by
      have table : ∀ c ∈ "0123456789abcdef".toList, isSpace c = false := by decide
      exact table
    exact stripChars_of_ends (fun c first => blank c (digits c (List.mem_of_mem_head? first)))
      fun c last => blank c (digits c (List.mem_of_getLast? last))
  have long := hexDigits_length 32 number
  have read := readHex_hexDigits 32 bound 0
  unfold intHex
  rw [bare]
  cases shape : hexDigits 32 number with
  | nil => simp [shape] at long
  | cons first others =>
    cases others with
    | nil => simp [shape] at long
    | cons second rest =>
      rw [shape] at digits read
      obtain ⟨one, two, _⟩ := List.forall_mem_cons.mp digits |>.imp id List.forall_mem_cons.mp
      have unsigned : first ≠ '+' ∧ first ≠ '_' := by
        constructor <;> rintro rfl <;> exact absurd one (by decide)
      have decimal : second ≠ 'x' ∧ second ≠ 'X' := by
        constructor <;> rintro rfl <;> exact absurd two (by decide)
      rw [readHex, if_neg unsigned.2] at read
      simpa [unsigned.1, decimal.1, decimal.2, readHex] using read

theorem Uuid.ofText?_chars (id : Uuid) : Uuid.ofText? id.chars = some id := by
  have absent : ∀ c, ¬ IsHexDigit c → c ≠ '-' → c ∉ id.chars := by
    intro c letter dash member
    exact (Uuid.mem_chars member).elim letter dash
  have bare : removeFrom "uuid:".toList 0 (removeFrom "urn:".toList 0 id.chars) = id.chars := by
    have none := absent 'u' (by decide) (by decide)
    rw [removeFrom_eq_self (show "urn:".toList.head? = some 'u' from rfl) none,
      removeFrom_eq_self (show "uuid:".toList.head? = some 'u' from rfl) none]
  have open_ := absent '\x7b' (by decide) (by decide)
  have close := absent '\x7d' (by decide) (by decide)
  have unbraced : trimBy isBrace id.chars = id.chars := by
    have plain : ∀ c ∈ id.chars, isBrace c = false := by
      intro c member
      have different : c ≠ '\x7b' ∧ c ≠ '\x7d' :=
        ⟨fun same => open_ (same ▸ member), fun same => close (same ▸ member)⟩
      simp [isBrace, different.1, different.2]
    exact trimBy_eq_self_iff.mpr ⟨fun c first => plain c (List.mem_of_mem_head? first),
      fun c last => plain c (List.mem_of_getLast? last)⟩
  have digits : id.chars.filter (· ≠ '-') = hexDigits 32 id.toNat := by
    have kept : ∀ {part : List Char}, (∀ c ∈ part, IsHexDigit c) → part.filter (· ≠ '-') = part := by
      intro part hex
      refine List.filter_eq_self.mpr fun c member => ?_
      have different : c ≠ '-' := by
        rintro rfl
        exact absurd (hex _ member) (by decide)
      simpa using different
    have hex := hexDigits_isHexDigit 32 id.toNat
    have group (start count : Nat) : (((hexDigits 32 id.toNat).drop start).take count).filter (· ≠ '-') =
        ((hexDigits 32 id.toNat).drop start).take count :=
      kept fun c member => hex c (List.mem_of_mem_drop (List.mem_of_mem_take member))
    have joined (start : Nat) (count : Nat) : ((hexDigits 32 id.toNat).drop start).take count ++
        (hexDigits 32 id.toNat).drop (start + count) = (hexDigits 32 id.toNat).drop start := by
      rw [← List.drop_drop, List.take_append_drop]
    have one := group 0 8
    rw [List.drop_zero] at one
    have tail : ((hexDigits 32 id.toNat).drop 20).filter (· ≠ '-') = (hexDigits 32 id.toNat).drop 20 :=
      kept fun c member => hex c (List.mem_of_mem_drop member)
    have dash : ∀ rest : List Char, ('-' :: rest).filter (· ≠ '-') = rest.filter (· ≠ '-') := fun rest =>
      List.filter_cons_of_neg (by simp)
    rw [Uuid.chars]
    rw [List.filter_append, dash, List.filter_append, dash, List.filter_append, dash, List.filter_append, dash, one,
      group, group, group, tail, joined 16 4, joined 12 4, joined 8 4, List.take_append_drop]
  have bound : id.toNat < 16 ^ 32 := id.isLt
  unfold Uuid.ofText?
  dsimp only
  rw [bare, unbraced, digits, hexDigits_length, if_neg (by simp), intHex_hexDigits bound]
  simp

end SmartAo.Platform
