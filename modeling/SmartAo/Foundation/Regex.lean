import Mathlib.Data.List.Forall2

namespace SmartAo.Foundation

/-- A regular expression over symbols; repetition and option are greedy. -/
inductive Regex (σ : Type) where
  | empty
  | one (symbol : σ)
  | many (symbol : σ)
  | boundary
  | optional (inner : Regex σ)
  | seq (first second : Regex σ)
  | alt (first second : Regex σ)

/-- The characters a symbol accepts, and the characters of words. -/
structure Alphabet (σ α : Type) where
  accepts : σ → α → Bool
  isWord : α → Bool

/-- A position in a text: the character before it, and what follows. -/
structure Cursor (α : Type) where
  before : Option α
  rest : List α

structure Span where
  start : Nat
  stop : Nat
deriving DecidableEq

def Span.length (span : Span) : Nat := span.stop - span.start

variable {σ α : Type}

def Cursor.at (text : List α) (index : Nat) : Cursor α := ⟨(text.take index).getLast?, text.drop index⟩

def Alphabet.atBoundary (alphabet : Alphabet σ α) (cursor : Cursor α) : Bool :=
  cursor.before.any alphabet.isWord != cursor.rest.head?.any alphabet.isWord

/-- The ends of a nonempty repetition, the longest first. -/
def runs (accepts : α → Bool) : List α → List (Cursor α)
  | [] => []
  | c :: rest => if accepts c then runs accepts rest ++ [⟨some c, rest⟩] else []

namespace Regex

/-- The ends of the matches at a position, in the order backtracking tries them. -/
def ends (alphabet : Alphabet σ α) : Regex σ → Cursor α → List (Cursor α)
  | empty, cursor => [cursor]
  | one symbol, cursor => match cursor.rest with
    | [] => []
    | c :: rest => if alphabet.accepts symbol c then [⟨some c, rest⟩] else []
  | many symbol, cursor => runs (alphabet.accepts symbol) cursor.rest
  | boundary, cursor => if alphabet.atBoundary cursor then [cursor] else []
  | optional inner, cursor => inner.ends alphabet cursor ++ [cursor]
  | seq first second, cursor => (first.ends alphabet cursor).flatMap (second.ends alphabet)
  | alt first second, cursor => first.ends alphabet cursor ++ second.ends alphabet cursor

/-- The matches from a position on; a match is left before the next one is looked for. -/
def scan (alphabet : Alphabet σ α) (regex : Regex σ) : Option α → List α → Nat → Nat → List Span
  | _, [], _, _ => []
  | _, c :: rest, index, skip + 1 => scan alphabet regex (some c) rest (index + 1) skip
  | before, c :: rest, index, 0 => match (regex.ends alphabet ⟨before, c :: rest⟩).head? with
    | some found =>
      let length := (c :: rest).length - found.rest.length
      ⟨index, index + length⟩ :: scan alphabet regex (some c) rest (index + 1) (length - 1)
    | none => scan alphabet regex (some c) rest (index + 1) 0

/-- The matches in a text, for an expression without an empty match. -/
def finditer (alphabet : Alphabet σ α) (regex : Regex σ) (text : List α) : List Span :=
  scan alphabet regex none text 0 0

def search (alphabet : Alphabet σ α) (regex : Regex σ) (text : List α) : Option Span :=
  (regex.finditer alphabet text).head?

/-- Whether an expression may match nothing. -/
def nullable : Regex σ → Bool
  | one _ | many _ => false
  | empty | boundary | optional _ => true
  | seq first second => first.nullable && second.nullable
  | alt first second => first.nullable || second.nullable

/-- Whether every match starts with a symbol of a class. -/
def leads (good : σ → Bool) : Regex σ → Bool
  | one symbol | many symbol => good symbol
  | empty | boundary => true
  | optional inner => inner.leads good
  | seq first second => first.leads good && (!first.nullable || second.leads good)
  | alt first second => first.leads good && second.leads good

/-- Whether every match ends with a symbol of a class. -/
def trails (good : σ → Bool) : Regex σ → Bool
  | one symbol | many symbol => good symbol
  | empty | boundary => true
  | optional inner => inner.trails good
  | seq first second => second.trails good && (!second.nullable || first.trails good)
  | alt first second => first.trails good && second.trails good

end Regex

/-- What a match consumes between two positions. -/
def Consumes (start stop : Cursor α) (consumed : List α) : Prop :=
  start.rest = consumed ++ stop.rest ∧ stop.before = consumed.getLast?.or start.before

/-- What the shape of an expression says of a match of it. -/
structure Regex.Reads (alphabet : Alphabet σ α) (good : σ → Bool) (regex : Regex σ) (consumed : List α) : Prop where
  full : regex.nullable = false → consumed ≠ []
  leads : regex.leads good = true → ∀ c ∈ consumed.head?, ∃ symbol, good symbol = true ∧
    alphabet.accepts symbol c = true
  trails : regex.trails good = true → ∀ c ∈ consumed.getLast?, ∃ symbol, good symbol = true ∧
    alphabet.accepts symbol c = true

section Consumption

variable {alphabet : Alphabet σ α} {start middle stop : Cursor α} {first second : List α}

theorem Consumes.nil (cursor : Cursor α) : Consumes cursor cursor [] := ⟨rfl, rfl⟩

theorem Consumes.append (one : Consumes start middle first) (two : Consumes middle stop second) :
    Consumes start stop (first ++ second) := by
  refine ⟨by rw [one.1, two.1, List.append_assoc], ?_⟩
  rw [two.2, one.2]
  cases second with
  | nil => simp
  | cons c rest =>
    rw [List.getLast?_append_of_ne_nil _ (List.cons_ne_nil c rest), List.getLast?_cons, Option.some_or, Option.some_or]

theorem mem_runs {accepts : α → Bool} {rest : List α} (member : stop ∈ runs accepts rest) (before : Option α) :
    ∃ consumed, Consumes ⟨before, rest⟩ stop consumed ∧ consumed ≠ [] ∧ ∀ c ∈ consumed, accepts c = true := by
  induction rest generalizing before with
  | nil => cases member
  | cons c rest ih =>
    rw [runs] at member
    split at member
    · rename_i accepted
      rcases List.mem_append.mp member with later | last
      · obtain ⟨consumed, ⟨whole, before'⟩, _, all⟩ := ih later (some c)
        refine ⟨c :: consumed, ⟨by rw [List.cons_append, ← whole], ?_⟩, List.cons_ne_nil _ _, ?_⟩
        · rw [before', List.getLast?_cons]
          cases consumed.getLast? <;> rfl
        · exact List.forall_mem_cons.mpr ⟨accepted, all⟩
      · rw [List.mem_singleton.mp last]
        exact ⟨[c], ⟨rfl, rfl⟩, List.cons_ne_nil _ _, List.forall_mem_singleton.mpr accepted⟩
    · cases member

theorem Regex.reads_nil {good : σ → Bool} {regex : Regex σ} (free : regex.nullable = true) :
    regex.Reads alphabet good ([] : List α) := by
  refine ⟨fun full => ?_, fun _ c head => absurd head (by simp), fun _ c last => absurd last (by simp)⟩
  rw [free] at full
  cases full

theorem Regex.reads_append {good : σ → Bool} {one two : Regex σ} (former : one.Reads alphabet good first)
    (latter : two.Reads alphabet good second) : (one.seq two).Reads alphabet good (first ++ second) := by
  refine ⟨fun full empty => ?_, fun leads c head => ?_, fun trails c last => ?_⟩
  · obtain ⟨noFirst, noSecond⟩ := List.append_eq_nil_iff.mp empty
    rw [nullable, Bool.and_eq_false_iff] at full
    rcases full with full | full
    · exact former.full full noFirst
    · exact latter.full full noSecond
  · rw [Regex.leads, Bool.and_eq_true, Bool.or_eq_true, Bool.not_eq_true'] at leads
    cases first with
    | nil =>
      rcases leads.2 with full | later
      · exact absurd rfl (former.full full)
      · exact latter.leads later c head
    | cons d rest => exact former.leads leads.1 c head
  · rw [Regex.trails, Bool.and_eq_true, Bool.or_eq_true, Bool.not_eq_true'] at trails
    cases second with
    | nil =>
      rw [List.append_nil] at last
      rcases trails.2 with full | earlier
      · exact absurd rfl (latter.full full)
      · exact former.trails earlier c last
    | cons d rest =>
      rw [List.getLast?_append_of_ne_nil _ (List.cons_ne_nil d rest)] at last
      exact latter.trails trails.1 c last

/-- A match consumes a part of the text, of the shape of its expression. -/
theorem Regex.mem_ends (good : σ → Bool) {regex : Regex σ} (member : stop ∈ regex.ends alphabet start) :
    ∃ consumed, Consumes start stop consumed ∧ regex.Reads alphabet good consumed := by
  induction regex generalizing start stop with
  | empty =>
    rw [List.mem_singleton.mp member]
    exact ⟨[], .nil _, reads_nil rfl⟩
  | one symbol =>
    rw [ends] at member
    split at member
    · cases member
    · rename_i c rest text
      split at member
      · rename_i accepted
        rw [List.mem_singleton.mp member]
        refine ⟨[c], ⟨by rw [text]; rfl, rfl⟩, fun _ => List.cons_ne_nil _ _, fun leads d first => ?_,
          fun trails d last => ?_⟩
        · cases first
          exact ⟨symbol, leads, accepted⟩
        · cases last
          exact ⟨symbol, trails, accepted⟩
      · cases member
  | many symbol =>
    have run : stop ∈ runs (alphabet.accepts symbol) start.rest := member
    obtain ⟨consumed, consumes, nonempty, all⟩ := mem_runs run start.before
    refine ⟨consumed, consumes, fun _ => nonempty, fun leads c first => ?_, fun trails c last => ?_⟩
    · exact ⟨symbol, leads, all c (List.mem_of_mem_head? first)⟩
    · exact ⟨symbol, trails, all c (List.mem_of_mem_getLast? last)⟩
  | boundary =>
    rw [ends] at member
    split at member
    · rw [List.mem_singleton.mp member]
      exact ⟨[], .nil _, reads_nil rfl⟩
    · cases member
  | optional inner ih =>
    rcases List.mem_append.mp member with inside | skipped
    · obtain ⟨consumed, consumes, reads⟩ := ih inside
      exact ⟨consumed, consumes, fun full => Bool.noConfusion full, reads.leads, reads.trails⟩
    · rw [List.mem_singleton.mp skipped]
      exact ⟨[], .nil _, reads_nil rfl⟩
  | seq one two ihOne ihTwo =>
    obtain ⟨middle, inOne, inTwo⟩ := List.mem_flatMap.mp member
    obtain ⟨first, consumesFirst, former⟩ := ihOne inOne
    obtain ⟨second, consumesSecond, latter⟩ := ihTwo inTwo
    exact ⟨first ++ second, consumesFirst.append consumesSecond, reads_append former latter⟩
  | alt one two ihOne ihTwo =>
    rcases List.mem_append.mp member with inOne | inTwo
    · obtain ⟨consumed, consumes, reads⟩ := ihOne inOne
      refine ⟨consumed, consumes, fun never => reads.full ?_, fun all => reads.leads ?_, fun all => reads.trails ?_⟩
      · exact (Bool.or_eq_false_iff.mp never).1
      · exact (Bool.and_eq_true_iff.mp all).1
      · exact (Bool.and_eq_true_iff.mp all).1
    · obtain ⟨consumed, consumes, reads⟩ := ihTwo inTwo
      refine ⟨consumed, consumes, fun never => reads.full ?_, fun all => reads.leads ?_, fun all => reads.trails ?_⟩
      · exact (Bool.or_eq_false_iff.mp never).2
      · exact (Bool.and_eq_true_iff.mp all).2
      · exact (Bool.and_eq_true_iff.mp all).2

end Consumption

section Words

variable {alphabet : Alphabet σ α} {start stop : Cursor α}

/-- The words of an expression without repetitions and boundaries, as sequences of symbols. -/
def Regex.words : Regex σ → List (List σ)
  | empty => [[]]
  | one symbol => [[symbol]]
  | many _ | boundary => []
  | optional inner => inner.words ++ [[]]
  | seq first second => first.words.flatMap fun word => second.words.map (word ++ ·)
  | alt first second => first.words ++ second.words

def Regex.bounded : Regex σ → Bool
  | empty | one _ => true
  | many _ | boundary => false
  | optional inner => inner.bounded
  | seq first second | alt first second => first.bounded && second.bounded

theorem forall₂_append {τ : Type} {related : σ → τ → Prop} {first second : List σ} {whole : List τ}
    (all : List.Forall₂ related (first ++ second) whole) : ∃ former latter, List.Forall₂ related first former ∧
      List.Forall₂ related second latter ∧ whole = former ++ latter := by
  induction first generalizing whole with
  | nil => exact ⟨[], whole, .nil, all, rfl⟩
  | cons symbol first ih =>
    cases all with
    | cons head others =>
      obtain ⟨former, latter, begun, rest, rfl⟩ := ih others
      exact ⟨_ :: former, latter, .cons head begun, rest, rfl⟩

/-- A match of such an expression spells one of its words. -/
theorem Regex.mem_ends_words {regex : Regex σ} (bounded : regex.bounded = true)
    (member : stop ∈ regex.ends alphabet start) : ∃ consumed, Consumes start stop consumed ∧
      ∃ word ∈ regex.words, List.Forall₂ (fun symbol c => alphabet.accepts symbol c = true) word consumed := by
  induction regex generalizing start stop with
  | empty =>
    rw [List.mem_singleton.mp member]
    exact ⟨[], .nil _, [], List.mem_cons_self, .nil⟩
  | one symbol =>
    rw [ends] at member
    split at member
    · cases member
    · rename_i c rest text
      split at member
      · rename_i accepted
        rw [List.mem_singleton.mp member]
        exact ⟨[c], ⟨text, rfl⟩, [symbol], List.mem_cons_self, .cons accepted .nil⟩
      · cases member
  | many symbol => cases bounded
  | boundary => cases bounded
  | optional inner ih =>
    rcases List.mem_append.mp member with inside | skipped
    · obtain ⟨consumed, consumes, word, listed, spelled⟩ := ih bounded inside
      exact ⟨consumed, consumes, word, List.mem_append_left _ listed, spelled⟩
    · rw [List.mem_singleton.mp skipped]
      exact ⟨[], .nil _, [], List.mem_append_right _ List.mem_cons_self, .nil⟩
  | seq one two ihOne ihTwo =>
    have both := Bool.and_eq_true_iff.mp bounded
    obtain ⟨middle, inOne, inTwo⟩ := List.mem_flatMap.mp member
    obtain ⟨first, consumesFirst, former, listedFirst, spelledFirst⟩ := ihOne both.1 inOne
    obtain ⟨second, consumesSecond, latter, listedSecond, spelledSecond⟩ := ihTwo both.2 inTwo
    refine ⟨first ++ second, consumesFirst.append consumesSecond, former ++ latter, ?_, ?_⟩
    · exact List.mem_flatMap.mpr ⟨former, listedFirst, List.mem_map_of_mem listedSecond⟩
    · exact List.rel_append spelledFirst spelledSecond
  | alt one two ihOne ihTwo =>
    have both := Bool.and_eq_true_iff.mp bounded
    rcases List.mem_append.mp member with inOne | inTwo
    · obtain ⟨consumed, consumes, word, listed, spelled⟩ := ihOne both.1 inOne
      exact ⟨consumed, consumes, word, List.mem_append_left _ listed, spelled⟩
    · obtain ⟨consumed, consumes, word, listed, spelled⟩ := ihTwo both.2 inTwo
      exact ⟨consumed, consumes, word, List.mem_append_right _ listed, spelled⟩

/-- Every spelling of a word of an expression is a match of it. -/
theorem Regex.mem_ends_of_word {regex : Regex σ} {word : List σ} {before : Option α} {consumed rest : List α}
    (listed : word ∈ regex.words)
    (spelled : List.Forall₂ (fun symbol c => alphabet.accepts symbol c = true) word consumed) :
    ⟨consumed.getLast?.or before, rest⟩ ∈ regex.ends alphabet ⟨before, consumed ++ rest⟩ := by
  induction regex generalizing word before consumed rest with
  | empty =>
    rw [List.mem_singleton.mp listed] at spelled
    cases spelled
    exact List.mem_cons_self
  | one symbol =>
    rw [List.mem_singleton.mp listed] at spelled
    cases spelled with
    | cons accepted others =>
      cases others
      rw [ends]
      simp [accepted]
  | many symbol => cases listed
  | boundary => cases listed
  | optional inner ih =>
    rcases List.mem_append.mp listed with inside | skipped
    · exact List.mem_append_left _ (ih inside spelled)
    · rw [List.mem_singleton.mp skipped] at spelled
      cases spelled
      exact List.mem_append_right _ List.mem_cons_self
  | seq one two ihOne ihTwo =>
    obtain ⟨former, listedFirst, rejoined⟩ := List.mem_flatMap.mp listed
    obtain ⟨latter, listedSecond, rfl⟩ := List.mem_map.mp rejoined
    obtain ⟨first, second, spelledFirst, spelledSecond, rfl⟩ := forall₂_append spelled
    refine List.mem_flatMap.mpr ⟨⟨first.getLast?.or before, second ++ rest⟩, ?_, ?_⟩
    · rw [List.append_assoc]
      exact ihOne listedFirst spelledFirst
    · rw [List.getLast?_append, Option.or_assoc]
      exact ihTwo listedSecond spelledSecond
  | alt one two ihOne ihTwo =>
    rcases List.mem_append.mp listed with inOne | inTwo
    · exact List.mem_append_left _ (ihOne inOne spelled)
    · exact List.mem_append_right _ (ihTwo inTwo spelled)

end Words

section Search

variable {alphabet : Alphabet σ α} {regex : Regex σ} {text : List α} {span : Span}

/-- A match of an expression in a text. -/
def Regex.Found (alphabet : Alphabet σ α) (regex : Regex σ) (text : List α) (span : Span) : Prop :=
  span.start ≤ span.stop ∧ span.stop ≤ text.length ∧
    ∃ stop ∈ regex.ends alphabet (.at text span.start), stop.rest = text.drop span.stop

theorem Cursor.at_append (before rest : List α) : Cursor.at (before ++ rest) before.length = ⟨before.getLast?, rest⟩ := by
  rw [Cursor.at, List.take_left, List.drop_left]

theorem Regex.found_of_mem_ends {before rest : List α} {stop : Cursor α}
    (member : stop ∈ regex.ends alphabet ⟨before.getLast?, rest⟩) :
    regex.Found alphabet (before ++ rest) ⟨before.length, before.length + (rest.length - stop.rest.length)⟩ := by
  obtain ⟨consumed, ⟨whole, _⟩, _⟩ := Regex.mem_ends (fun _ => true) member
  have whole : rest = consumed ++ stop.rest := whole
  subst whole
  have length : (consumed ++ stop.rest).length - stop.rest.length = consumed.length := by
    rw [List.length_append, Nat.add_sub_cancel]
  rw [length]
  refine ⟨Nat.le_add_right _ _, ?_, stop, ?_, ?_⟩
  · rw [List.length_append, List.length_append]
    exact Nat.add_le_add_left (Nat.le_add_right _ _) _
  · rw [Cursor.at_append]
    exact member
  · rw [← List.append_assoc, ← List.length_append, List.drop_left]

theorem Regex.found_of_mem_scan {before rest : List α} {skip : Nat}
    (member : span ∈ scan alphabet regex before.getLast? rest before.length skip) :
    regex.Found alphabet (before ++ rest) span := by
  induction rest generalizing before skip with
  | nil => cases member
  | cons c rest ih =>
    have next {skip : Nat} (later : span ∈ scan alphabet regex (some c) rest (before.length + 1) skip) :
        regex.Found alphabet (before ++ c :: rest) span := by
      have appended : before ++ c :: rest = (before ++ [c]) ++ rest := by simp
      rw [appended]
      refine @ih (before ++ [c]) skip ?_
      rw [List.getLast?_concat, List.length_append]
      exact later
    cases skip with
    | succ skip => exact next member
    | zero =>
      rw [scan] at member
      split at member
      · rename_i stop first
        rcases List.mem_cons.mp member with rfl | later
        · exact found_of_mem_ends (List.mem_of_mem_head? first)
        · exact next later
      · exact next member

theorem Regex.found_of_mem_finditer (member : span ∈ regex.finditer alphabet text) : regex.Found alphabet text span :=
  @found_of_mem_scan _ _ _ _ _ [] text 0 member

theorem Regex.found_of_search (found : regex.search alphabet text = some span) : regex.Found alphabet text span :=
  found_of_mem_finditer (List.mem_of_mem_head? found)

/-- What lies between the ends of a match was consumed by it. -/
theorem Regex.Found.reads (good : σ → Bool) (found : regex.Found alphabet text span) :
    regex.Reads alphabet good ((text.take span.stop).drop span.start) := by
  obtain ⟨ordered, bounded, stop, member, rest⟩ := found
  obtain ⟨consumed, ⟨whole, _⟩, reads⟩ := mem_ends good member
  have sliced : (text.take span.stop).drop span.start ++ text.drop span.stop = text.drop span.start := by
    rw [← List.drop_append_of_le_length (by rw [List.length_take]; omega), List.take_append_drop]
  have same : consumed = (text.take span.stop).drop span.start := by
    rw [Cursor.at, rest, ← sliced] at whole
    exact (List.append_cancel_right whole).symm
  rw [← same]
  exact reads

theorem Regex.Found.lt (full : regex.nullable = false) (found : regex.Found alphabet text span) :
    span.start < span.stop := by
  have consumed := (found.reads fun _ => true).full full
  by_contra empty
  refine consumed (List.drop_eq_nil_iff.mpr ?_)
  rw [List.length_take]
  omega

theorem Regex.scan_isSome {before rest : List α} {index : Nat} (split : ∃ front back, rest = front ++ back ∧ back ≠ [] ∧
      regex.ends alphabet ⟨(before ++ front).getLast?, back⟩ ≠ []) :
    (scan alphabet regex before.getLast? rest index 0).head?.isSome := by
  induction rest generalizing before index with
  | nil =>
    obtain ⟨front, back, whole, nonempty, _⟩ := split
    exact absurd (List.append_eq_nil_iff.mp whole.symm).2 nonempty
  | cons c rest ih =>
    rw [scan]
    split
    · rfl
    · rename_i none
      obtain ⟨front, back, whole, nonempty, ends⟩ := split
      cases front with
      | nil =>
        rw [List.nil_append] at whole
        rw [← whole, List.append_nil] at ends
        exact absurd (List.head?_eq_none_iff.mp none) ends
      | cons d front =>
        obtain ⟨rfl, rest'⟩ := List.cons.inj whole
        rw [← List.getLast?_concat (l := before)]
        refine ih ⟨front, back, rest', nonempty, ?_⟩
        rwa [List.append_assoc, List.singleton_append]

/-- A text in which an expression matches somewhere is searched with success. -/
theorem Regex.search_isSome {before rest : List α} (nonempty : rest ≠ [])
    (possible : regex.ends alphabet ⟨before.getLast?, rest⟩ ≠ []) :
    (regex.search alphabet (before ++ rest)).isSome :=
  @scan_isSome _ _ _ _ [] (before ++ rest) 0 ⟨before, rest, rfl, nonempty, possible⟩

end Search

section Window

variable {alphabet : Alphabet σ α} {regex : Regex σ} {start window middle stop : Cursor α} {after rest : List α}

/-- A position of a text and the same position of a window of it: what the window cuts off is not needed to
    tell that a word starts at its beginning or stops at its end. -/
structure Seen (alphabet : Alphabet σ α) (after : List α) (start window : Cursor α) : Prop where
  rest : start.rest = window.rest ++ after
  before : window.before = start.before ∨ window.before = none ∧ window.rest.head?.any alphabet.isWord = true
  edge : window.rest = [] → after = [] ∨ window.before.any alphabet.isWord = true

theorem Seen.atBoundary (seen : Seen alphabet after start window) (held : alphabet.atBoundary start = true) :
    alphabet.atBoundary window = true := by
  unfold Alphabet.atBoundary at held ⊢
  cases rest : window.rest with
  | nil =>
    rcases seen.edge rest with none | word
    · rcases seen.before with same | ⟨_, word⟩
      · rwa [seen.rest, rest, none, List.append_nil, ← same] at held
      · rw [rest] at word
        cases word
    · simp [word]
  | cons c tail =>
    rcases seen.before with same | ⟨none, word⟩
    · rwa [seen.rest, rest, ← same] at held
    · rw [rest] at word
      rw [none, word]
      rfl

theorem mem_runs_of {accepts : α → Bool} {consumed : List α} (nonempty : consumed ≠ [])
    (all : ∀ c ∈ consumed, accepts c = true) : ⟨consumed.getLast?, rest⟩ ∈ runs accepts (consumed ++ rest) := by
  induction consumed with
  | nil => exact absurd rfl nonempty
  | cons c tail ih =>
    obtain ⟨accepted, others⟩ := List.forall_mem_cons.mp all
    rw [List.cons_append, runs, if_pos accepted]
    cases tail with
    | nil => exact List.mem_append_right _ List.mem_cons_self
    | cons d tail =>
      refine List.mem_append_left _ ?_
      rw [List.getLast?_cons_cons]
      exact ih (List.cons_ne_nil d tail) others

/-- The end of a match, seen through the window. -/
theorem Seen.advance {consumed : List α} (seen : Seen alphabet after start window) (consumes : Consumes start stop consumed)
    (inside : stop.rest = rest ++ after) (edge : rest = [] → after = [] ∨ stop.before.any alphabet.isWord = true) :
    window.rest = consumed ++ rest ∧ Seen alphabet after stop ⟨consumed.getLast?.or window.before, rest⟩ := by
  obtain ⟨whole, before⟩ := consumes
  have split : window.rest = consumed ++ rest := by
    rw [seen.rest, inside, ← List.append_assoc] at whole
    exact List.append_cancel_right whole
  cases last : consumed.getLast? with
  | some c =>
    rw [last, Option.some_or] at before
    refine ⟨split, inside, .inl before.symm, fun empty => ?_⟩
    rw [Option.some_or, ← before]
    exact edge empty
  | none =>
    rw [last, Option.none_or] at before
    have nothing := List.getLast?_eq_none_iff.mp last
    rw [nothing, List.nil_append] at split
    rw [Option.none_or, nothing, List.nil_append]
    refine ⟨split, inside, ?_, fun empty => seen.edge (split.trans empty)⟩
    rw [← split, before]
    exact seen.before

theorem Regex.ends_window (seen : Seen alphabet after start window) (member : stop ∈ regex.ends alphabet start)
    (inside : stop.rest = rest ++ after) (edge : rest = [] → after = [] ∨ stop.before.any alphabet.isWord = true) :
    ∃ last ∈ regex.ends alphabet window, last.rest = rest ∧ Seen alphabet after stop last := by
  induction regex generalizing start window stop rest with
  | empty =>
    rw [List.mem_singleton.mp member] at inside edge ⊢
    obtain ⟨split, _⟩ := seen.advance (.nil _) inside edge
    exact ⟨window, List.mem_cons_self, split, seen⟩
  | one symbol =>
    rw [ends] at member
    split at member
    · cases member
    · rename_i c tail text
      split at member
      · rename_i accepted
        have same := List.mem_singleton.mp member
        have consumes : Consumes start stop [c] := by
          rw [same]
          exact ⟨text, rfl⟩
        obtain ⟨split, seen⟩ := seen.advance consumes inside edge
        refine ⟨_, ?_, rfl, seen⟩
        rw [ends, split, List.singleton_append]
        simp [accepted]
      · cases member
  | many symbol =>
    have run : stop ∈ runs (alphabet.accepts symbol) start.rest := member
    obtain ⟨consumed, consumes, nonempty, all⟩ := mem_runs run start.before
    obtain ⟨split, seen⟩ := seen.advance consumes inside edge
    refine ⟨_, ?_, rfl, seen⟩
    have last := List.getLast?_eq_some_getLast nonempty
    have member : (⟨consumed.getLast?, rest⟩ : Cursor _) ∈ runs _ (consumed ++ rest) := mem_runs_of nonempty all
    rw [ends, split, last, Option.some_or, ← last]
    exact member
  | boundary =>
    rw [ends] at member
    split at member
    · rename_i held
      rw [List.mem_singleton.mp member] at inside edge ⊢
      obtain ⟨split, _⟩ := seen.advance (.nil _) inside edge
      refine ⟨window, ?_, split, seen⟩
      rw [ends, if_pos (seen.atBoundary held)]
      exact List.mem_cons_self
    · cases member
  | optional inner ih =>
    rcases List.mem_append.mp member with within | skipped
    · obtain ⟨last, found, same, seen⟩ := ih seen within inside edge
      exact ⟨last, List.mem_append_left _ found, same, seen⟩
    · rw [List.mem_singleton.mp skipped] at inside edge ⊢
      obtain ⟨split, _⟩ := seen.advance (.nil _) inside edge
      exact ⟨window, List.mem_append_right _ List.mem_cons_self, split, seen⟩
  | seq one two ihOne ihTwo =>
    obtain ⟨middle, inOne, inTwo⟩ := List.mem_flatMap.mp member
    obtain ⟨second, ⟨whole, before⟩, _⟩ := mem_ends (fun _ => true) inTwo
    have between : middle.rest = (second ++ rest) ++ after := by rw [whole, inside, List.append_assoc]
    obtain ⟨centre, foundOne, sameOne, seenOne⟩ := ihOne seen inOne between fun empty => by
      obtain ⟨noSecond, noRest⟩ := List.append_eq_nil_iff.mp empty
      rw [noSecond] at before
      rw [← show stop.before = middle.before from before]
      exact edge noRest
    obtain ⟨last, foundTwo, sameTwo, seenTwo⟩ := ihTwo seenOne inTwo inside edge
    exact ⟨last, List.mem_flatMap.mpr ⟨centre, foundOne, foundTwo⟩, sameTwo, seenTwo⟩
  | alt one two ihOne ihTwo =>
    rcases List.mem_append.mp member with inOne | inTwo
    · obtain ⟨last, found, same, seen⟩ := ihOne seen inOne inside edge
      exact ⟨last, List.mem_append_left _ found, same, seen⟩
    · obtain ⟨last, found, same, seen⟩ := ihTwo seen inTwo inside edge
      exact ⟨last, List.mem_append_right _ found, same, seen⟩

/-- A match between words is found again in every window around it. -/
theorem Regex.search_window {outer front consumed back : List α}
    (member : stop ∈ regex.ends alphabet ⟨(outer ++ front).getLast?, consumed ++ (back ++ after)⟩)
    (rest : stop.rest = back ++ after) (first : consumed.head?.any alphabet.isWord = true)
    (last : consumed.getLast?.any alphabet.isWord = true) :
    (regex.search alphabet (front ++ (consumed ++ back))).isSome := by
  have nonempty : consumed ≠ [] := fun empty => by simp [empty] at first
  have seen : Seen alphabet after ⟨(outer ++ front).getLast?, consumed ++ (back ++ after)⟩
      ⟨front.getLast?, consumed ++ back⟩ := by
    refine ⟨(List.append_assoc _ _ _).symm, ?_, fun empty => absurd (List.append_eq_nil_iff.mp empty).1 nonempty⟩
    cases front with
    | nil =>
      refine .inr ⟨rfl, ?_⟩
      rw [List.head?_append_of_ne_nil _ nonempty]
      exact first
    | cons c tail => exact .inl (List.getLast?_append_of_ne_nil _ (List.cons_ne_nil c tail)).symm
  have before : stop.before = consumed.getLast? := by
    obtain ⟨read, ⟨whole, before⟩, _⟩ := mem_ends (fun _ => true) member
    have whole : consumed ++ (back ++ after) = read ++ stop.rest := whole
    rw [rest] at whole
    have same := List.append_cancel_right whole
    rw [before, ← same, List.getLast?_eq_some_getLast nonempty, Option.some_or]
  obtain ⟨target, found, _⟩ := ends_window seen member rest fun _ => .inr (before ▸ last)
  refine search_isSome (fun empty => nonempty (List.append_eq_nil_iff.mp empty).1) ?_
  exact List.ne_nil_of_mem found

end Window

end SmartAo.Foundation
