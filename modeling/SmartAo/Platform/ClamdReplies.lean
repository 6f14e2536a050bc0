import SmartAo.Foundation.Text
import SmartAo.Foundation.Utf8
import Mathlib.Data.List.DropRight

namespace SmartAo.Platform

open SmartAo.Foundation

/-- `str.upper` and `str.casefold`, character by character. -/
structure CaseMaps where
  upper : Char → List Char
  casefold : Char → List Char
  upper_ascii : ∀ c, c.toNat < 128 → upper c = [c.toUpper]
  casefold_ascii : ∀ c, c.toNat < 128 → casefold c = [c.toLower]

/-- What the import gate makes of a reply: `CLEAN`, `FOUND` or `ERROR`. -/
inductive ImportVerdict where
  | clean
  | found
  | error
deriving DecidableEq

/-- What the quarantine makes of a reply: `CLEAN`, `INFECTED` or `ERROR`. -/
inductive MalwareVerdict where
  | clean
  | infected
  | error
deriving DecidableEq

def ImportVerdict.asMalware : ImportVerdict → MalwareVerdict
  | clean => .clean
  | found => .infected
  | error => .error

def occursIn (part text : List Char) : Bool := text.tails.any fun rest => part.isPrefixOf rest

/-- The text of a reply, without the NULs at its end. -/
def replyText (response : List UInt8) : List Char := decodeReplace (response.rdropWhile (· = 0))

section Parsers

variable (tables : CaseMaps)

def upperText (response : List UInt8) : List Char := (replyText response).flatMap tables.upper

/-- `_clamd_verdict` of the pricing imports. -/
def importVerdict (response : List UInt8) : ImportVerdict :=
  let normalized := upperText tables response
  if "OK".toList.isSuffixOf normalized then .clean
  else if occursIn "FOUND".toList normalized then .found
  else .error

def foldedText (response : List UInt8) : List Char := stripChars ((replyText response).flatMap tables.casefold)

/-- What follows the first colon, without the spaces around it. -/
def verdictText (normalized : List Char) : List Char := stripChars ((normalized.dropWhile (· ≠ ':')).drop 1)

/-- `_clamd_verdict` of the DCE quarantine. -/
def quarantineVerdict (response : List UInt8) : MalwareVerdict :=
  let normalized := foldedText tables response
  if ¬ "stream:".toList.isPrefixOf normalized then .error
  else if verdictText normalized = "ok".toList then .clean
  else if " found".toList.isSuffixOf (verdictText normalized) then .infected
  else .error

end Parsers

def streamOk : List Char := "stream: OK".toList

/-- The answer for a clean stream, up to the NULs and newlines that end it. -/
def ExactAnswer (response : List UInt8) : Prop :=
  ∃ terminator : List UInt8, (∀ byte ∈ terminator, byte = 0 ∨ byte = 10) ∧
    response = utf8Bytes streamOk ++ terminator

/-- Neither parser takes another reply for clean, and they agree. -/
structure FailsClosed (tables : CaseMaps) (response : List UInt8) : Prop where
  imports : importVerdict tables response = .clean → ExactAnswer response
  quarantine : quarantineVerdict tables response = .clean → ExactAnswer response
  agree : quarantineVerdict tables response = (importVerdict tables response).asMalware

section Replies

variable (tables : CaseMaps) (response : List UInt8)

/-- The text ends with OK, in any case of the letters. -/
def EndsOk : Prop := "OK".toList.isSuffixOf (upperText tables response) = true

def MentionsFound : Prop := occursIn "FOUND".toList (upperText tables response) = true

/-- A stream line that says ok and nothing else. -/
def SaysOk : Prop :=
  "stream:".toList.isPrefixOf (foldedText tables response) = true ∧ verdictText (foldedText tables response) = "ok".toList

/-- A stream line that ends with found. -/
def SaysFound : Prop :=
  "stream:".toList.isPrefixOf (foldedText tables response) = true ∧
    " found".toList.isSuffixOf (verdictText (foldedText tables response)) = true

/-- The answer for a clean stream ended by NULs only, or a reply that says nothing of OK and whose mention of FOUND
    is a stream line. -/
def PlainReply : Prop :=
  (∃ count, response = utf8Bytes streamOk ++ List.replicate count 0) ∨
    (¬ EndsOk tables response ∧ ¬ SaysOk tables response ∧
      (MentionsFound tables response ↔ SaysFound tables response))

end Replies

section Verdicts

variable {tables : CaseMaps} {response : List UInt8}

theorem importVerdict_clean : importVerdict tables response = .clean ↔ EndsOk tables response := by
  unfold importVerdict EndsOk
  dsimp only
  split
  · simp_all
  · split <;> simp_all

theorem importVerdict_found : importVerdict tables response = .found ↔
    ¬ EndsOk tables response ∧ MentionsFound tables response := by
  unfold importVerdict EndsOk MentionsFound
  dsimp only
  split
  · simp_all
  · split <;> simp_all

theorem quarantineVerdict_clean : quarantineVerdict tables response = .clean ↔ SaysOk tables response := by
  unfold quarantineVerdict SaysOk
  dsimp only
  split
  · simp_all
  · split
    · simp_all
    · split <;> simp_all

theorem quarantineVerdict_infected : quarantineVerdict tables response = .infected ↔ SaysFound tables response := by
  unfold quarantineVerdict SaysFound
  dsimp only
  by_cases stream : "stream:".toList.isPrefixOf (foldedText tables response) = true
  · rw [if_neg (not_not.mpr stream), and_iff_right stream]
    by_cases ok : verdictText (foldedText tables response) = "ok".toList
    · rw [if_pos ok, ok]
      exact iff_of_false (by nofun) (by decide)
    · rw [if_neg ok]
      split <;> simp_all
  · rw [if_pos stream]
    exact iff_of_false (by nofun) fun found => stream found.1

end Verdicts

section Answers

variable {tables : CaseMaps} {response : List UInt8} {count : Nat}

theorem utf8Bytes_ascii {bytes : List UInt8} (ascii : ∀ byte ∈ bytes, byte.toNat < 128) :
    utf8Bytes (bytes.map fun byte => Char.ofNat byte.toNat) = bytes := by
  induction bytes with
  | nil => rfl
  | cons byte bytes ih =>
    obtain ⟨first, rest⟩ := List.forall_mem_cons.mp ascii
    have number : (Char.ofNat byte.toNat).toNat = byte.toNat := toNat_ofNat (Nat.lt_of_lt_of_le first (by decide))
    have encoded : String.utf8EncodeChar (Char.ofNat byte.toNat) = [byte] := by
      show (if (Char.ofNat byte.toNat).toNat ≤ 0x7f then [UInt8.ofNat (Char.ofNat byte.toNat).toNat] else _) = _
      rw [number, if_pos (by omega), UInt8.ofNat_toNat]
    rw [List.map_cons, utf8Bytes, List.flatMap_cons, encoded]
    rw [utf8Bytes] at ih
    rw [ih rest]
    rfl

theorem replyText_answer : replyText (utf8Bytes streamOk ++ List.replicate count 0) = streamOk := by
  have stripped : (utf8Bytes streamOk ++ List.replicate count 0).rdropWhile (· = 0) = utf8Bytes streamOk := by
    induction count with
    | zero => decide +kernel
    | succ count ih =>
      rw [List.replicate_succ', ← List.append_assoc, List.rdropWhile_concat_pos _ _ _ (by decide), ih]
  rw [replyText, stripped, decodeReplace_utf8Bytes]

theorem upper_ascii {text : List Char} (ascii : ∀ c ∈ text, c.toNat < 128) :
    text.flatMap tables.upper = text.map Char.toUpper := by
  rw [List.map_eq_flatMap]
  exact List.flatMap_congr fun c member => tables.upper_ascii c (ascii c member)

theorem casefold_ascii {text : List Char} (ascii : ∀ c ∈ text, c.toNat < 128) :
    text.flatMap tables.casefold = text.map Char.toLower := by
  rw [List.map_eq_flatMap]
  exact List.flatMap_congr fun c member => tables.casefold_ascii c (ascii c member)

theorem streamOk_ascii : ∀ c ∈ streamOk, c.toNat < 128 := by decide +kernel

theorem endsOk_answer : EndsOk tables (utf8Bytes streamOk ++ List.replicate count 0) := by
  unfold EndsOk upperText
  rw [replyText_answer, upper_ascii streamOk_ascii]
  decide +kernel

theorem saysOk_answer : SaysOk tables (utf8Bytes streamOk ++ List.replicate count 0) := by
  unfold SaysOk foldedText
  rw [replyText_answer, casefold_ascii streamOk_ascii]
  decide +kernel

theorem exact_answer (count : Nat) : ExactAnswer (utf8Bytes streamOk ++ List.replicate count 0) :=
  ⟨_, fun _ member => .inl (List.eq_of_mem_replicate member), rfl⟩

/-- A reply that ends with a newline does not end with OK. -/
theorem not_endsOk_newline {terminator : List UInt8} (ascii : ∀ byte ∈ terminator, byte.toNat < 128) :
    "OK".toList.isSuffixOf ((decodeReplace (utf8Bytes streamOk ++ (terminator ++ [10]))).flatMap tables.upper) =
      false := by
  have bytes : utf8Bytes streamOk ++ (terminator ++ [10]) =
      utf8Bytes (streamOk ++ (terminator.map (fun byte => Char.ofNat byte.toNat) ++ ['\n'])) := by
    rw [utf8Bytes_append, utf8Bytes_append, utf8Bytes_ascii ascii]
    rfl
  have newline : tables.upper '\n' = ['\n'] := tables.upper_ascii '\n' (by decide)
  rw [bytes, decodeReplace_utf8Bytes, ← List.append_assoc, List.flatMap_append, List.flatMap_singleton, newline,
    List.isSuffixOf, List.reverse_append]
  rfl

/-- An exact answer that ends with OK is ended by NULs only. -/
theorem ExactAnswer.nuls (exact_ : ExactAnswer response) (ends : EndsOk tables response) :
    ∃ count, response = utf8Bytes streamOk ++ List.replicate count 0 := by
  obtain ⟨terminator, members, rfl⟩ := exact_
  by_cases none : terminator.rdropWhile (· = 0) = []
  · have zeros : ∀ byte ∈ terminator, byte = 0 := by simpa using List.rdropWhile_eq_nil_iff.mp none
    exact ⟨terminator.length, by rw [← List.eq_replicate_of_mem zeros]⟩
  · have kept : (utf8Bytes streamOk ++ terminator).rdropWhile (· = 0) =
        utf8Bytes streamOk ++ terminator.rdropWhile (· = 0) := by
      have some_ : (terminator.reverse.dropWhile (· = 0)).isEmpty = false := by
        rw [List.isEmpty_eq_false_iff]
        intro empty
        exact none (List.reverse_eq_nil_iff.mpr empty)
      rw [List.rdropWhile, List.reverse_append, List.dropWhile_append, some_, if_neg (by decide), List.reverse_append,
        List.reverse_reverse]
      rfl
    have small : ∀ byte ∈ (terminator.rdropWhile (· = 0)).dropLast, byte.toNat < 128 := by
      intro byte member
      have stored : byte ∈ terminator := (List.rdropWhile_prefix _ _).subset ((List.dropLast_sublist _).subset member)
      rcases members byte stored with rfl | rfl <;> decide
    have last : (terminator.rdropWhile (· = 0)).getLast none = 10 := by
      have stored := (List.rdropWhile_prefix (· = 0) terminator).subset (List.getLast_mem none)
      have other := List.rdropWhile_last_not (· = 0) terminator none
      exact (members _ stored).resolve_left (by simpa using other)
    have newline := @not_endsOk_newline tables _ small
    rw [← last, List.dropLast_append_getLast none, ← kept] at newline
    have ended : "OK".toList.isSuffixOf (upperText tables (utf8Bytes streamOk ++ terminator)) = true := ends
    rw [upperText, replyText, newline] at ended
    cases ended

/-- Both parsers fail closed and agree on a reply exactly when it is the answer for a clean stream ended by NULs, or
    says nothing of OK and mentions FOUND in a stream line only. -/
theorem replies_fail_closed (tables : CaseMaps) (response : List UInt8) :
    FailsClosed tables response ↔ PlainReply tables response := by
  constructor
  · intro closed
    by_cases ends : EndsOk tables response
    · exact .inl ((closed.imports (importVerdict_clean.mpr ends)).nuls ends)
    · have agree := closed.agree
      refine .inr ⟨ends, ?_, ?_⟩
      · intro ok
        rw [quarantineVerdict_clean.mpr ok] at agree
        cases verdict : importVerdict tables response with
        | clean => exact ends (importVerdict_clean.mp verdict)
        | found => simp [verdict, ImportVerdict.asMalware] at agree
        | error => simp [verdict, ImportVerdict.asMalware] at agree
      · constructor
        · intro mentions
          rw [importVerdict_found.mpr ⟨ends, mentions⟩] at agree
          exact quarantineVerdict_infected.mp agree
        · intro found
          rw [quarantineVerdict_infected.mpr found] at agree
          cases verdict : importVerdict tables response with
          | clean => simp [verdict, ImportVerdict.asMalware] at agree
          | found => exact (importVerdict_found.mp verdict).2
          | error => simp [verdict, ImportVerdict.asMalware] at agree
  · rintro (⟨count, rfl⟩ | ⟨ends, ok, found⟩)
    · refine ⟨fun _ => exact_answer count, fun _ => exact_answer count, ?_⟩
      rw [importVerdict_clean.mpr endsOk_answer, quarantineVerdict_clean.mpr saysOk_answer]
      rfl
    · refine ⟨fun clean => absurd (importVerdict_clean.mp clean) ends,
        fun clean => absurd (quarantineVerdict_clean.mp clean) ok, ?_⟩
      cases verdict : importVerdict tables response with
      | clean => exact absurd (importVerdict_clean.mp verdict) ends
      | found => exact quarantineVerdict_infected.mpr (found.mp (importVerdict_found.mp verdict).2)
      | error =>
        cases other : quarantineVerdict tables response with
        | clean => exact absurd (quarantineVerdict_clean.mp other) ok
        | infected =>
          have mentions := found.mpr (quarantineVerdict_infected.mp other)
          rw [importVerdict_found.mpr ⟨ends, mentions⟩] at verdict
          cases verdict
        | error => rfl

end Answers

/-- The tables as they are on ASCII text. -/
def asciiCase : CaseMaps :=
  ⟨fun c => [c.toUpper], fun c => [c.toLower], fun _ _ => rfl, fun _ _ => rfl⟩

/-- A finding with a second line. -/
def secondLine : List UInt8 := utf8Bytes "stream: Eicar-Test-Signature FOUND\nstream: OK".toList ++ [0]

theorem second_line_taken_for_clean : ¬ ∀ (tables : CaseMaps) (response : List UInt8), FailsClosed tables response := by
  intro closed
  have clean : importVerdict asciiCase secondLine = .clean := by decide +kernel
  obtain ⟨terminator, _, answer⟩ := (closed asciiCase secondLine).imports clean
  have heads := congrArg (List.take 10) answer
  rw [List.take_left' (by decide +kernel)] at heads
  exact absurd heads (by decide +kernel)

end SmartAo.Platform
