import SmartAo.Foundation.Text
import Mathlib.Data.List.Basic
import Mathlib.Data.Nat.Digits.Defs

namespace SmartAo.Foundation

section Digits

/-- The lowercase hexadecimal digits of a number, padded to a fixed width. -/
def hexDigits : Nat → Nat → List Char
  | 0, _ => []
  | width + 1, value => hexDigits width (value / 16) ++ [Nat.digitChar (value % 16)]

@[simp] theorem hexDigits_length (width value : Nat) : (hexDigits width value).length = width := by
  induction width generalizing value with
  | zero => rfl
  | succ width ih => simp [hexDigits, ih]

theorem digitChar_injective {first second : Nat} (hf : first < 16) (hs : second < 16)
    (same : Nat.digitChar first = Nat.digitChar second) : first = second := by
  have table : ∀ a : Fin 16, ∀ b : Fin 16, Nat.digitChar a = Nat.digitChar b → a = b := by decide
  exact congrArg Fin.val (table ⟨first, hf⟩ ⟨second, hs⟩ same)

theorem hexDigits_injective (width : Nat) {first second : Nat} (hf : first < 16 ^ width)
    (hs : second < 16 ^ width) (same : hexDigits width first = hexDigits width second) :
    first = second := by
  induction width generalizing first second with
  | zero => simp only [pow_zero] at hf hs; omega
  | succ width ih =>
    have halves := List.append_inj' same rfl
    rw [pow_succ] at hf hs
    have high := ih (Nat.div_lt_of_lt_mul (by omega)) (Nat.div_lt_of_lt_mul (by omega)) halves.1
    have low := digitChar_injective (Nat.mod_lt _ (by omega)) (Nat.mod_lt _ (by omega))
      (List.cons.inj halves.2).1
    omega

def IsHexDigit (c : Char) : Prop := c ∈ "0123456789abcdef".toList

instance : DecidablePred IsHexDigit := fun c =>
  inferInstanceAs (Decidable (c ∈ "0123456789abcdef".toList))

theorem hexDigits_isHexDigit (width value : Nat) : ∀ c ∈ hexDigits width value, IsHexDigit c := by
  induction width generalizing value with
  | zero => simp [hexDigits]
  | succ width ih =>
    intro c member
    rcases List.mem_append.mp member with high | low
    · exact ih _ c high
    · have table : ∀ digit : Fin 16, IsHexDigit (Nat.digitChar digit) := by decide
      rw [List.mem_singleton.mp low]
      exact table ⟨value % 16, Nat.mod_lt _ (by omega)⟩

end Digits

section Delimited

variable {α β : Type*}

/-- A separator that neither head contains splits a list in one way. -/
theorem split_unique {separator : α} {first second later last : List α} (hf : separator ∉ first)
    (hs : separator ∉ second) (same : first ++ separator :: later = second ++ separator :: last) :
    first = second ∧ later = last := by
  induction first generalizing second with
  | nil =>
    cases second with
    | nil => exact ⟨rfl, List.tail_eq_of_cons_eq same⟩
    | cons head tail =>
      have heads := List.head_eq_of_cons_eq same
      exact absurd (heads ▸ List.mem_cons_self) hs
  | cons head tail ih =>
    cases second with
    | nil =>
      have heads := List.head_eq_of_cons_eq same
      exact absurd (heads ▸ List.mem_cons_self) hf
    | cons other rest =>
      have heads := List.head_eq_of_cons_eq same
      have tails := ih (fun member => hf (List.mem_cons_of_mem _ member))
        (fun member => hs (List.mem_cons_of_mem _ member)) (List.tail_eq_of_cons_eq same)
      exact ⟨by rw [heads, tails.1], tails.2⟩

/-- An encoding whose words can be split off the front of a text. -/
def PrefixCode (encode : α → List β) : Prop :=
  ∀ {first second : α} {later last : List β},
    encode first ++ later = encode second ++ last → first = second ∧ later = last

theorem PrefixCode.injective {encode : α → List β} (code : PrefixCode encode) {first second : α}
    (same : encode first = encode second) : first = second := by
  have extended : encode first ++ [] = encode second ++ [] := by rw [same]
  exact (code extended).1

theorem prefixCode_of_length {encode : α → List β} (injective : ∀ {first second}, encode first =
      encode second → first = second) (width : Nat) (fixed : ∀ value, (encode value).length = width) :
    PrefixCode encode := by
  intro first second later last same
  obtain ⟨heads, tails⟩ := List.append_inj same ((fixed first).trans (fixed second).symm)
  exact ⟨injective heads, tails⟩

/-- Code words up to a terminator no word starts with. -/
theorem PrefixCode.flatMap {encode : α → List β} {terminator : β} (code : PrefixCode encode)
    (starts : ∀ value, ∃ head tail, encode value = head :: tail ∧ head ≠ terminator)
    {first second : List α} {later last : List β}
    (same : first.flatMap encode ++ terminator :: later = second.flatMap encode ++ terminator :: last) :
    first = second ∧ later = last := by
  induction first generalizing second with
  | nil =>
    cases second with
    | nil => exact ⟨rfl, List.tail_eq_of_cons_eq same⟩
    | cons value values =>
      obtain ⟨head, tail, word, different⟩ := starts value
      rw [List.flatMap_cons, word] at same
      exact absurd (List.head_eq_of_cons_eq same).symm different
  | cons value values ih =>
    cases second with
    | nil =>
      obtain ⟨head, tail, word, different⟩ := starts value
      rw [List.flatMap_cons, word] at same
      exact absurd (List.head_eq_of_cons_eq same) different
    | cons other others =>
      rw [List.flatMap_cons, List.flatMap_cons, List.append_assoc, List.append_assoc] at same
      obtain ⟨heads, rest⟩ := code same
      obtain ⟨tails, ends⟩ := ih rest
      exact ⟨by rw [heads, tails], ends⟩

theorem toDigits_injective {first second : Nat} (same : Nat.toDigits 10 first = Nat.toDigits 10 second) :
    first = second := by
  have decoded := congrArg (Nat.ofDigitChars 10 · 0) same
  simpa only [Nat.ofDigitChars_ten_toDigits] using decoded

theorem not_mem_toDigits {c : Char} (digit : c.isDigit = false) (n : Nat) : c ∉ Nat.toDigits 10 n := by
  intro member
  rw [Nat.isDigit_of_mem_toDigits (by decide) (by decide) member] at digit
  cases digit

end Delimited

end SmartAo.Foundation
