import Mathlib.Computability.StateTransition
import SmartAo.Dce.TextRules

namespace SmartAo.Dce

open SmartAo.Foundation

/-- One turn of the loop of `_bounded_excerpt` on its window; without one the loop is over. -/
def excerptTurn (maxChars : Nat) (text : List Char) (found window : Span) : Option Span :=
  if (utf8Bytes (slice text window.start window.stop)).length ≤ maxChars then none
  else if found.start - window.start ≤ window.stop - found.stop ∧ found.stop < window.stop then
    some ⟨window.start, window.stop - 1⟩
  else if window.start < found.start then some ⟨window.start + 1, window.stop⟩
  else none

def firstWindow (text : List Char) (found : Span) : Span := ⟨found.start - 300, min text.length (found.stop + 700)⟩

def excerptOf (text : List Char) (window : Span) : Excerpt :=
  ⟨(utf8Bytes (text.take window.start)).length, (utf8Bytes (text.take window.stop)).length,
    slice text window.start window.stop⟩

/-- What `_bounded_excerpt` returns; nothing when its loop runs forever. -/
def returnedExcerpt (maxChars : Nat) (text : List Char) (found : Span) : Part Excerpt :=
  (StateTransition.eval (excerptTurn maxChars text found) (firstWindow text found)).map (excerptOf text)

namespace Analysis

def maxExcerptChars : Nat := 1000

def boundedExcerpt (text : List Char) (found : Span) : Part Excerpt := returnedExcerpt maxExcerptChars text found

end Analysis

namespace Classification

def maxExcerptChars : Nat := 1000

def boundedExcerpt (text : List Char) (found : Span) : Part Excerpt := returnedExcerpt maxExcerptChars text found

end Classification

structure SoundExcerpt (text : List Char) (found : Span) (returned : Excerpt) : Prop where
  bytes : (utf8Bytes returned.excerpt).length ≤ 1000
  contains : slice text found.start found.stop <:+: returned.excerpt
  start : returned.startByteOffset ≤ (utf8Bytes (text.take found.start)).length
  stop : (utf8Bytes (text.take found.stop)).length ≤ returned.endByteOffset
  inside : returned.endByteOffset ≤ (utf8Bytes text).length
  decodes : decodeUtf8 (((utf8Bytes text).drop returned.startByteOffset).take
    (returned.endByteOffset - returned.startByteOffset)) = some returned.excerpt

variable {text : List Char} {found window : Span}

/-- A window that has no turn left is one the loop stops at. -/
theorem excerptTurn_bare {start stop : Nat} (first : found.start ≤ start) (last : stop ≤ found.stop) :
    excerptTurn maxExcerptChars text found ⟨start, stop⟩ = none := by
  have whole : ¬ (found.start - start ≤ stop - found.stop ∧ found.stop < stop) := by omega
  simp only [excerptTurn, if_neg whole, if_neg (Nat.not_lt.mpr first), ite_self]

/-- The margins bound the turns of the loop. -/
theorem shrinkWindow_mem_eval {margins start stop : Nat} (enough : (found.start - start) + (stop - found.stop) ≤ margins) :
    shrinkWindow text found.start found.stop margins start stop ∈
      StateTransition.eval (excerptTurn maxExcerptChars text found) ⟨start, stop⟩ := by
  induction margins generalizing start stop with
  | zero => exact StateTransition.mem_eval.mpr ⟨Relation.ReflTransGen.refl, excerptTurn_bare (by omega) (by omega)⟩
  | succ margins ih =>
    have turn {next : Span} (turned : excerptTurn maxExcerptChars text found ⟨start, stop⟩ = some next) :
        StateTransition.eval (excerptTurn maxExcerptChars text found) ⟨start, stop⟩ =
          StateTransition.eval (excerptTurn maxExcerptChars text found) next :=
      StateTransition.reaches_eval (Relation.ReflTransGen.single turned)
    rw [shrinkWindow]
    split
    · rename_i fits
      exact StateTransition.mem_eval.mpr ⟨Relation.ReflTransGen.refl, if_pos fits⟩
    · rename_i wide
      split
      · rename_i after
        rw [turn (show _ = some ⟨start, stop - 1⟩ by simp only [excerptTurn, if_neg wide, if_pos after])]
        exact ih (by omega)
      · rename_i before
        split
        · rename_i margin
          rw [turn (show _ = some ⟨start + 1, stop⟩ by
            simp only [excerptTurn, if_neg wide, if_neg before, if_pos margin])]
          exact ih (by omega)
        · rename_i bare
          exact StateTransition.mem_eval.mpr ⟨Relation.ReflTransGen.refl, excerptTurn_bare (by omega) (by omega)⟩

/-- The loop ends, and the function returns what the excerpt was computed to be. -/
theorem returnedExcerpt_eq (text : List Char) (found : Span) :
    returnedExcerpt maxExcerptChars text found = Part.some (boundedExcerpt text found) := by
  have ended : boundedWindow text found ∈
      StateTransition.eval (excerptTurn maxExcerptChars text found) (firstWindow text found) :=
    shrinkWindow_mem_eval (Nat.le_refl _)
  rw [returnedExcerpt, Part.eq_some_iff.mpr ended, Part.map_some]
  rfl

theorem utf8Bytes_take_mono {first last : Nat} (ordered : first ≤ last) (text : List Char) :
    (utf8Bytes (text.take first)).length ≤ (utf8Bytes (text.take last)).length := by
  have head : text.take first = (text.take last).take first := by rw [List.take_take, Nat.min_eq_left ordered]
  rw [head]
  exact utf8Bytes_take_le (text.take last) first

/-- A window around a match contains it. -/
theorem slice_infix (first : window.start ≤ found.start) (last : found.stop ≤ window.stop) :
    slice text found.start found.stop <:+: slice text window.start window.stop := by
  have front : slice text found.start found.stop <:+ slice text window.start found.stop := by
    have dropped : slice text found.start found.stop =
        (slice text window.start found.stop).drop (found.start - window.start) := by
      rw [slice, slice, List.drop_drop, Nat.add_sub_cancel' first]
    rw [dropped]
    exact List.drop_suffix _ _
  have back : slice text window.start found.stop <+: slice text window.start window.stop := by
    have taken : text.take found.stop = (text.take window.stop).take found.stop := by
      rw [List.take_take, Nat.min_eq_left last]
    rw [slice, slice, taken, List.drop_take]
    exact List.take_prefix _ _
  exact front.isInfix.trans back.isInfix

theorem boundedExcerpt_sound (ordered : found.start ≤ found.stop) (bounded : found.stop ≤ text.length)
    (fits : (utf8Bytes (slice text found.start found.stop)).length ≤ 1000) :
    SoundExcerpt text found (boundedExcerpt text found) := by
  have window := boundedWindow_isWindow bounded
  obtain ⟨sliced, inside⟩ := boundedExcerpt_bytes ordered bounded
  refine ⟨?_, slice_infix window.start window.stop, utf8Bytes_take_mono window.start text,
    utf8Bytes_take_mono window.stop text, inside, ?_⟩
  · rcases window.fits with short | same
    · exact short
    · simp only [boundedExcerpt, same]
      exact fits
  · rw [sliced]
    exact decodeUtf8_utf8Bytes _

/-- Both copies of the function end, with the same excerpt, on every match of at most 1000 bytes. -/
theorem bounded_excerpts (ordered : found.start ≤ found.stop) (bounded : found.stop ≤ text.length)
    (fits : (utf8Bytes (slice text found.start found.stop)).length ≤ 1000) :
    ∃ returned, Analysis.boundedExcerpt text found = Part.some returned ∧
      Classification.boundedExcerpt text found = Part.some returned ∧ SoundExcerpt text found returned :=
  ⟨boundedExcerpt text found, returnedExcerpt_eq text found, returnedExcerpt_eq text found,
    boundedExcerpt_sound ordered bounded fits⟩

theorem bounded_excerpts_title : ∃ returned, Analysis.boundedExcerpt "Le règlement".toList ⟨3, 12⟩ = Part.some returned ∧
    Classification.boundedExcerpt "Le règlement".toList ⟨3, 12⟩ = Part.some returned ∧
      SoundExcerpt "Le règlement".toList ⟨3, 12⟩ returned :=
  bounded_excerpts (by decide) (by decide) (by decide)

end SmartAo.Dce
