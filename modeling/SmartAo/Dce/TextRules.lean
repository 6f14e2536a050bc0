import SmartAo.Foundation.Regex
import SmartAo.Foundation.Text
import SmartAo.Foundation.Utf8

namespace SmartAo.Dce

open SmartAo.Foundation

/-- What one character of a rule accepts: one of some lowercase characters in either case, a space, or a
    decimal digit. -/
inductive Symbol where
  | oneOf (characters : List Char)
  | space
  | digit

/-- The letters of the rules, and the digits. -/
def wordCharacters : List Char := "abcdefghijklmnopqrstuvwxyz0123456789àèéô".toList

/-- The lowercase character a case-insensitive rule takes a character for. -/
def ignoreCase (c : Char) : Char :=
  if c.toNat = 0x130 ∨ c.toNat = 0x131 then 'i'
  else if c.toNat = 0x17f then 's'
  else if c.toNat = 0x212a then 'k'
  else if ('A' ≤ c ∧ c ≤ 'Z') ∨ (0xc0 ≤ c.toNat ∧ c.toNat ≤ 0xde ∧ c.toNat ≠ 0xd7) then Char.ofNat (c.toNat + 32)
  else c

/-- The Unicode properties the rules read; letters and decimal digits are characters of words. -/
structure Unicode where
  isWord : Char → Bool
  isDecimal : Char → Bool
  casefold : Char → List Char
  letter : ∀ c, ignoreCase c ∈ wordCharacters → isWord c = true
  decimal : ∀ c, isDecimal c = true → isWord c = true

/-- The properties of the letters of the rules, and of ASCII. -/
def Unicode.latin : Unicode where
  isWord c := c.isAlphanum || c = '_' || wordCharacters.contains (ignoreCase c)
  isDecimal := Char.isDigit
  casefold c := [ignoreCase c]
  letter c listed := by simp [listed]
  decimal c digit := by simp [Char.isAlphanum, digit]

def Unicode.alphabet (unicode : Unicode) : Alphabet Symbol Char where
  accepts symbol c := match symbol with
    | .oneOf characters => characters.contains (ignoreCase c)
    | .space => isSpace c
    | .digit => unicode.isDecimal c
  isWord := unicode.isWord

abbrev Pattern := Regex Symbol

def Symbol.ofWord : Symbol → Bool
  | .oneOf characters => characters.all wordCharacters.contains
  | .space => false
  | .digit => true

theorem Unicode.isWord_of_accepts (unicode : Unicode) {symbol : Symbol} {c : Char} (ofWord : symbol.ofWord = true)
    (accepted : unicode.alphabet.accepts symbol c = true) : unicode.isWord c = true := by
  cases symbol with
  | oneOf characters =>
    have listed : ignoreCase c ∈ characters := List.contains_iff_mem.mp accepted
    have letter := List.all_eq_true.mp ofWord _ listed
    exact unicode.letter c (List.contains_iff_mem.mp letter)
  | space => cases ofWord
  | digit => exact unicode.decimal c accepted

namespace Pattern

def literal (text : String) : Pattern := text.toList.foldr (fun c rest => .seq (.one (.oneOf [c])) rest) .empty

def apostrophe : Pattern := .one (.oneOf ['\'', '’'])

/-- Parts with whitespace between them. -/
def spaced (first : Pattern) (others : List Pattern) : Pattern :=
  others.foldl (fun before part => .seq before (.seq (.many .space) part)) first

def phrase (first : String) (others : List String) : Pattern := spaced (literal first) (others.map literal)

def anyOf (first : Pattern) (others : List Pattern) : Pattern := others.foldl .alt first

/-- `\b(?:…)\b` -/
def word (inner : Pattern) : Pattern := .seq .boundary (.seq inner .boundary)

end Pattern

/-- `text[start:stop]` -/
def slice (text : List Char) (start stop : Nat) : List Char := (text.take stop).drop start

def maxExcerptChars : Nat := 1000

/-- The loop of `_bounded_excerpt`: a window of more than 1000 bytes loses a character of its longer margin. -/
def shrinkWindow (text : List Char) (matchStart matchEnd : Nat) : Nat → Nat → Nat → Span
  | 0, start, stop => ⟨start, stop⟩
  | margins + 1, start, stop =>
    if (utf8Bytes (slice text start stop)).length ≤ maxExcerptChars then ⟨start, stop⟩
    else if matchStart - start ≤ stop - matchEnd ∧ matchEnd < stop then
      shrinkWindow text matchStart matchEnd margins start (stop - 1)
    else if start < matchStart then shrinkWindow text matchStart matchEnd margins (start + 1) stop
    else ⟨start, stop⟩

/-- The window around a match; every turn of the loop takes one character off its margins. -/
def boundedWindow (text : List Char) (found : Span) : Span :=
  let start := found.start - 300
  let stop := min text.length (found.stop + 700)
  shrinkWindow text found.start found.stop ((found.start - start) + (stop - found.stop)) start stop

structure Excerpt where
  startByteOffset : Nat
  endByteOffset : Nat
  excerpt : List Char
deriving DecidableEq

/-- `_bounded_excerpt` -/
def boundedExcerpt (text : List Char) (found : Span) : Excerpt :=
  let window := boundedWindow text found
  ⟨(utf8Bytes (text.take window.start)).length, (utf8Bytes (text.take window.stop)).length,
    slice text window.start window.stop⟩

section Window

variable {text : List Char} {found : Span}

/-- A window around a match: of at most 1000 bytes, or without margins. -/
structure IsWindow (text : List Char) (found window : Span) : Prop where
  start : window.start ≤ found.start
  stop : found.stop ≤ window.stop
  bounded : window.stop ≤ text.length
  fits : (utf8Bytes (slice text window.start window.stop)).length ≤ maxExcerptChars ∨ window = found

theorem isWindow_bare {start stop : Nat} (first : start ≤ found.start) (last : found.stop ≤ stop)
    (bounded : stop ≤ text.length) (sameStart : found.start ≤ start) (sameStop : stop ≤ found.stop) :
    IsWindow text found ⟨start, stop⟩ := by
  refine ⟨first, last, bounded, .inr ?_⟩
  have one : start = found.start := by omega
  have two : stop = found.stop := by omega
  rw [one, two]

theorem shrinkWindow_isWindow {margins start stop : Nat} (first : start ≤ found.start) (last : found.stop ≤ stop)
    (bounded : stop ≤ text.length) (enough : (found.start - start) + (stop - found.stop) ≤ margins) :
    IsWindow text found (shrinkWindow text found.start found.stop margins start stop) := by
  induction margins generalizing start stop with
  | zero => exact isWindow_bare first last bounded (by omega) (by omega)
  | succ margins ih =>
    rw [shrinkWindow]
    split
    · rename_i fits
      exact ⟨first, last, bounded, .inl fits⟩
    · split
      · exact ih first (by omega) (by omega) (by omega)
      · split
        · exact ih (by omega) last bounded (by omega)
        · exact isWindow_bare first last bounded (by omega) (by omega)

theorem boundedWindow_isWindow (bounded : found.stop ≤ text.length) :
    IsWindow text found (boundedWindow text found) :=
  shrinkWindow_isWindow (Nat.sub_le _ _) (Nat.le_min.mpr ⟨bounded, Nat.le_add_right _ _⟩) (Nat.min_le_left _ _)
    (Nat.le_refl _)

theorem boundedExcerpt_length (ordered : found.start ≤ found.stop) (bounded : found.stop ≤ text.length) :
    (boundedExcerpt text found).excerpt.length ≤ maxExcerptChars ↔ found.length ≤ maxExcerptChars := by
  have window := boundedWindow_isWindow bounded
  have length : (boundedExcerpt text found).excerpt.length =
      (boundedWindow text found).stop - (boundedWindow text found).start := by
    have inside := window.bounded
    rw [boundedExcerpt, slice, List.length_drop, List.length_take, Nat.min_eq_left inside]
  constructor
  · intro fits
    have first := window.start
    have last := window.stop
    rw [length] at fits
    unfold Span.length
    omega
  · intro short
    rcases window.fits with fits | same
    · exact Nat.le_trans (length_le_utf8Bytes _) fits
    · rw [length, same]
      exact short

/-- The excerpt is what the bytes between its offsets encode. -/
theorem boundedExcerpt_bytes (ordered : found.start ≤ found.stop) (bounded : found.stop ≤ text.length) :
    ((utf8Bytes text).drop (boundedExcerpt text found).startByteOffset).take
      ((boundedExcerpt text found).endByteOffset - (boundedExcerpt text found).startByteOffset) =
        utf8Bytes (boundedExcerpt text found).excerpt ∧
    (boundedExcerpt text found).endByteOffset ≤ (utf8Bytes text).length := by
  have window := boundedWindow_isWindow bounded
  have between : (boundedWindow text found).start ≤ (boundedWindow text found).stop :=
    Nat.le_trans window.start (Nat.le_trans ordered window.stop)
  exact ⟨utf8Bytes_slice between text, utf8Bytes_take_le text _⟩

theorem boundedExcerpt_nonempty (full : found.start < found.stop) (bounded : found.stop ≤ text.length) :
    (boundedExcerpt text found).excerpt ≠ [] ∧
      (boundedExcerpt text found).startByteOffset < (boundedExcerpt text found).endByteOffset := by
  have window := boundedWindow_isWindow bounded
  have nonempty : (boundedExcerpt text found).excerpt ≠ [] := by
    intro empty
    have short := List.drop_eq_nil_iff.mp empty
    have first := window.start
    have last := window.stop
    have inside := window.bounded
    rw [List.length_take] at short
    omega
  have bytes := congrArg List.length (boundedExcerpt_bytes (Nat.le_of_lt full) bounded).1
  have positive := Nat.le_trans (List.length_pos_iff.mpr nonempty) (length_le_utf8Bytes _)
  rw [List.length_take, List.length_drop] at bytes
  exact ⟨nonempty, by omega⟩

end Window

section Reproduction

variable {text : List Char} {first second third : Nat}

theorem slice_eq_take : slice text first second = (text.drop first).take (second - first) := List.drop_take

theorem slice_append_drop (ordered : first ≤ second) : slice text first second ++ text.drop second = text.drop first := by
  have later : text.drop second = (text.drop first).drop (second - first) := by
    rw [List.drop_drop, Nat.add_sub_cancel' ordered]
  rw [slice_eq_take, later, List.take_append_drop]

theorem slice_append (one : first ≤ second) (two : second ≤ third) :
    slice text first second ++ slice text second third = slice text first third := by
  have length : third - first = (second - first) + (third - second) := by omega
  have later : text.drop second = (text.drop first).drop (second - first) := by
    rw [List.drop_drop, Nat.add_sub_cancel' one]
  rw [slice_eq_take, slice_eq_take, slice_eq_take, later, length, List.take_add]

theorem take_append_slice (ordered : first ≤ second) : text.take first ++ slice text first second = text.take second := by
  have front : text.take first = (text.take second).take first := by rw [List.take_take, Nat.min_eq_left ordered]
  rw [front, slice, List.take_append_drop]

/-- The matches of a pattern are not empty, and begin and end with a character of a word. -/
structure WordBound (pattern : Pattern) : Prop where
  full : pattern.nullable = false
  leads : pattern.leads Symbol.ofWord = true
  trails : pattern.trails Symbol.ofWord = true

instance {pattern : Pattern} : Decidable (WordBound pattern) :=
  decidable_of_iff (pattern.nullable = false ∧ pattern.leads Symbol.ofWord = true ∧
      pattern.trails Symbol.ofWord = true)
    ⟨fun all => ⟨all.1, all.2.1, all.2.2⟩, fun bound => ⟨bound.1, bound.2, bound.3⟩⟩

variable {unicode : Unicode} {pattern : Pattern} {found : Span}

theorem WordBound.bounds (bound : WordBound pattern) (its : Regex.Found unicode.alphabet pattern text found) :
    found.start < found.stop ∧ found.stop ≤ text.length := ⟨its.lt bound.full, its.2.1⟩

theorem WordBound.words (bound : WordBound pattern) (its : Regex.Found unicode.alphabet pattern text found) :
    (slice text found.start found.stop).head?.any unicode.alphabet.isWord = true ∧
      (slice text found.start found.stop).getLast?.any unicode.alphabet.isWord = true := by
  have reads := its.reads Symbol.ofWord
  have full := reads.full bound.full
  constructor
  · have first := List.head?_eq_some_head full
    obtain ⟨symbol, good, accepted⟩ := reads.leads bound.leads _ first
    rw [slice, first]
    exact unicode.isWord_of_accepts good accepted
  · have last := List.getLast?_eq_some_getLast full
    obtain ⟨symbol, good, accepted⟩ := reads.trails bound.trails _ last
    rw [slice, last]
    exact unicode.isWord_of_accepts good accepted

/-- A pattern matches again inside the window around its match. -/
theorem WordBound.again (bound : WordBound pattern) (its : Regex.Found unicode.alphabet pattern text found) :
    (pattern.search unicode.alphabet (boundedExcerpt text found).excerpt).isSome = true := by
  have words := bound.words its
  obtain ⟨ordered, bounded, stop, member, rest⟩ := its
  have window := boundedWindow_isWindow bounded
  have tail : slice text found.stop (boundedWindow text found).stop ++ text.drop (boundedWindow text found).stop =
      text.drop found.stop := slice_append_drop window.stop
  have cursor : Cursor.at text found.start = ⟨(text.take (boundedWindow text found).start ++
      slice text (boundedWindow text found).start found.start).getLast?, slice text found.start found.stop ++
        (slice text found.stop (boundedWindow text found).stop ++ text.drop (boundedWindow text found).stop)⟩ := by
    rw [tail, slice_append_drop ordered, take_append_slice window.start]
    rfl
  have excerpt : (boundedExcerpt text found).excerpt = slice text (boundedWindow text found).start found.start ++
      (slice text found.start found.stop ++ slice text found.stop (boundedWindow text found).stop) := by
    rw [slice_append ordered window.stop, slice_append window.start (Nat.le_trans ordered window.stop)]
    rfl
  rw [cursor] at member
  rw [excerpt]
  exact Regex.search_window member (rest.trans tail.symm) words.1 words.2

end Reproduction

end SmartAo.Dce
