import Mathlib.Data.List.Basic
import Mathlib.Data.List.TakeWhile

namespace SmartAo.Foundation

/-- A property of the characters of a text is decided character by character, not over all characters. -/
instance decidableForallChars {chars : List Char} {predicate : Char → Prop} [DecidablePred predicate] :
    Decidable (∀ c ∈ chars, predicate c) := List.decidableBAll predicate chars

instance decidableForallChar {c? : Option Char} {predicate : Char → Prop} [DecidablePred predicate] :
    Decidable (∀ c ∈ c?, predicate c) := Option.decidableForallMem c?

theorem toNat_ofNat {n : Nat} (small : n < 0xd800) : (Char.ofNat n).toNat = n := by
  have valid : n.isValidChar := .inl small
  unfold Char.ofNat
  rw [dif_pos valid]
  rfl

/-- The characters `str.strip` removes. -/
def isSpace (c : Char) : Bool :=
  (9 ≤ c.toNat && c.toNat ≤ 13) || (28 ≤ c.toNat && c.toNat ≤ 32) || c.toNat == 0x85 ||
    c.toNat == 0xa0 || c.toNat == 0x1680 || (0x2000 ≤ c.toNat && c.toNat ≤ 0x200a) ||
    c.toNat == 0x2028 || c.toNat == 0x2029 || c.toNat == 0x202f || c.toNat == 0x205f ||
    c.toNat == 0x3000

def stripChars (chars : List Char) : List Char :=
  ((chars.dropWhile isSpace).reverse.dropWhile isSpace).reverse

def strip (text : String) : String := String.ofList (stripChars text.toList)

example : strip "\t a b\n " = "a b" := by decide +kernel

/-- `str.lower` on ASCII text. -/
def lower (text : String) : String := String.ofList (text.toList.map Char.toLower)

/-- Text without a space at either end is its own strip. -/
theorem stripChars_of_ends {chars : List Char} (first : ∀ c ∈ chars.head?, isSpace c = false)
    (last : ∀ c ∈ chars.getLast?, isSpace c = false) : stripChars chars = chars := by
  have front : chars.dropWhile isSpace = chars := by
    cases chars with
    | nil => rfl
    | cons c rest => simp [first c (by simp)]
  have back : chars.reverse.dropWhile isSpace = chars.reverse := by
    cases reversed : chars.reverse with
    | nil => rfl
    | cons c rest =>
      have final : chars.getLast? = some c := by
        rw [← List.head?_reverse, reversed]
        rfl
      simp [last c (by simp [final])]
  rw [stripChars, front, back, List.reverse_reverse]

theorem dropWhile_head {chars : List Char} {c : Char}
    (head : c ∈ (chars.dropWhile isSpace).head?) : isSpace c = false := by
  induction chars with
  | nil => simp at head
  | cons d rest ih =>
    cases space : isSpace d with
    | true => exact ih (by simpa [space] using head)
    | false =>
      have same : d = c := by simpa [space] using head
      rw [← same]
      exact space

theorem stripChars_getLast {chars : List Char} {c : Char} (last : c ∈ (stripChars chars).getLast?) :
    isSpace c = false := by
  rw [stripChars, List.getLast?_reverse] at last
  exact dropWhile_head last

section Trim

/-- A text without the characters of a class at its ends. -/
def trimBy (blank : Char → Bool) (chars : List Char) : List Char :=
  ((chars.dropWhile blank).reverse.dropWhile blank).reverse

theorem stripChars_eq_trimBy (chars : List Char) : stripChars chars = trimBy isSpace chars := rfl

variable {blank : Char → Bool} {chars : List Char}

/-- No character of a class stands at an end of a text. -/
def BareEnds (blank : Char → Bool) (chars : List Char) : Prop :=
  (∀ c ∈ chars.head?, blank c = false) ∧ ∀ c ∈ chars.getLast?, blank c = false

instance : Decidable (BareEnds blank chars) := by
  unfold BareEnds
  infer_instance

theorem dropWhile_eq_self_iff : chars.dropWhile blank = chars ↔ ∀ c ∈ chars.head?, blank c = false := by
  cases chars with
  | nil => simp
  | cons c rest =>
    simp only [List.head?_cons, Option.mem_def, Option.some.injEq, forall_eq']
    cases first : blank c with
    | false => simp [first]
    | true =>
      simp only [List.dropWhile_cons, first, if_true, Bool.true_eq_false, iff_false]
      intro same
      have shorter := List.Sublist.length_le (List.dropWhile_sublist blank (l := rest))
      have longer := congrArg List.length same
      simp only [List.length_cons] at longer
      omega

theorem trimBy_length_le : (trimBy blank chars).length ≤ chars.length := by
  have front := List.Sublist.length_le (List.dropWhile_sublist blank (l := chars))
  have back := List.Sublist.length_le (List.dropWhile_sublist blank (l := (chars.dropWhile blank).reverse))
  simp only [trimBy, List.length_reverse] at back ⊢
  omega

theorem dropWhile_of_length (same : chars.length ≤ (chars.dropWhile blank).length) :
    chars.dropWhile blank = chars :=
  (List.dropWhile_sublist blank).eq_of_length_le same

/-- Trimming leaves a text when it takes nothing off its length. -/
theorem trimBy_of_length (same : chars.length ≤ (trimBy blank chars).length) : trimBy blank chars = chars := by
  have front := List.Sublist.length_le (List.dropWhile_sublist blank (l := chars))
  have back := List.Sublist.length_le (List.dropWhile_sublist blank (l := (chars.dropWhile blank).reverse))
  simp only [trimBy, List.length_reverse] at same back
  have first : chars.dropWhile blank = chars := dropWhile_of_length (by omega)
  rw [first] at same
  have last : chars.reverse.dropWhile blank = chars.reverse :=
    dropWhile_of_length (by rw [List.length_reverse]; exact same)
  rw [trimBy, first, last, List.reverse_reverse]

/-- Trimming leaves a text exactly when its ends are bare. -/
theorem trimBy_eq_self_iff : trimBy blank chars = chars ↔ BareEnds blank chars := by
  rw [BareEnds, ← List.head?_reverse, ← dropWhile_eq_self_iff, ← dropWhile_eq_self_iff]
  constructor
  · intro same
    have front := List.Sublist.length_le (List.dropWhile_sublist blank (l := chars))
    have back := List.Sublist.length_le (List.dropWhile_sublist blank (l := (chars.dropWhile blank).reverse))
    have lengths := congrArg List.length same
    simp only [trimBy, List.length_reverse] at lengths back
    have first : chars.dropWhile blank = chars := dropWhile_of_length (by omega)
    rw [first] at lengths
    exact ⟨first, dropWhile_of_length (by rw [List.length_reverse]; omega)⟩
  · rintro ⟨first, last⟩
    rw [trimBy, first, last, List.reverse_reverse]

/-- Trimming keeps the characters outside the class. -/
theorem mem_trimBy {c : Char} (member : c ∈ chars) (clear : blank c = false) : c ∈ trimBy blank chars := by
  have kept {text : List Char} (inside : c ∈ text) : c ∈ text.dropWhile blank := by
    rw [← List.takeWhile_append_dropWhile (p := blank) (l := text), List.mem_append] at inside
    refine inside.resolve_left fun dropped => ?_
    rw [List.mem_takeWhile_imp dropped] at clear
    cases clear
  rw [trimBy, List.mem_reverse]
  exact kept (List.mem_reverse.mpr (kept member))

/-- Characters of the class around a text do not change its trim. -/
theorem trimBy_around {before after : List Char} (left : ∀ c ∈ before, blank c = true)
    (right : ∀ c ∈ after, blank c = true) :
    trimBy blank (before ++ (chars ++ after)) = trimBy blank chars := by
  have dropped {edge rest : List Char} (all : ∀ c ∈ edge, blank c = true) :
      (edge ++ rest).dropWhile blank = rest.dropWhile blank := List.dropWhile_append_of_pos all
  rw [trimBy, dropped left, List.dropWhile_append]
  split
  · rename_i empty
    have nothing : after.dropWhile blank = [] := List.dropWhile_eq_nil_iff.mpr right
    rw [trimBy, List.isEmpty_iff.mp empty, nothing]
  · rw [List.reverse_append, dropped fun c member => right c (List.mem_reverse.mp member), trimBy]

theorem trimBy_bareEnds (chars : List Char) : BareEnds blank (trimBy blank chars) := by
  have dropped : ∀ {text : List Char} {c : Char}, c ∈ (text.dropWhile blank).head? → blank c = false := by
    intro text c first
    induction text with
    | nil => cases first
    | cons d rest ih =>
      cases marked : blank d with
      | true => exact ih (by simpa [marked] using first)
      | false =>
        have same : d = c := by simpa [marked] using first
        exact same ▸ marked
  refine ⟨fun c first => ?_, fun c last => ?_⟩
  · have inner : (trimBy blank chars) <+: chars.dropWhile blank := by
      rw [trimBy, ← List.reverse_suffix, List.reverse_reverse]
      exact List.dropWhile_suffix blank
    obtain ⟨rest, whole⟩ := inner
    refine @dropped chars c ?_
    rw [← whole]
    cases trimmed : trimBy blank chars with
    | nil =>
      rw [trimmed] at first
      cases first
    | cons d tail =>
      rw [trimmed] at first
      exact first
  · rw [trimBy, List.getLast?_reverse] at last
    exact dropped last

/-- The characters with the White_Space property, which the string fields of the command models lose at
    their ends; `str.strip` also removes four control characters. -/
def isWhiteSpace (c : Char) : Bool := isSpace c && !(28 ≤ c.toNat && c.toNat ≤ 31)

theorem isSpace_of_isWhiteSpace {c : Char} (white : isWhiteSpace c = true) : isSpace c = true := by
  rw [isWhiteSpace, Bool.and_eq_true] at white
  exact white.1

theorem BareEnds.weaken {other : Char → Bool} (implied : ∀ c, other c = true → blank c = true)
    (bare : BareEnds blank chars) : BareEnds other chars := by
  have below : ∀ c, blank c = false → other c = false := by
    intro c clear
    by_contra marked
    rw [implied c (by simpa using marked)] at clear
    cases clear
  exact ⟨fun c first => below c (bare.1 c first), fun c last => below c (bare.2 c last)⟩

end Trim

end SmartAo.Foundation
