import SmartAo.Dce.TextRules
import SmartAo.Foundation.Regex
import SmartAo.Foundation.Text

namespace SmartAo.Decision.Contradictions

open SmartAo.Foundation
open SmartAo.Dce (ignoreCase)

/-- What the code takes from the Unicode tables, character by character: case folding, compatibility
    decomposition, combining marks, upper case, and the characters of words. -/
structure Characters where
  casefold : Char → List Char
  decompose : Char → List Char
  combining : Char → Bool
  upper : Char → List Char
  isWord : Char → Bool

/-- A character without its case and its accents. -/
def Characters.fold (characters : Characters) (c : Char) : List Char :=
  ((characters.casefold c).flatMap characters.decompose).filter fun d => !characters.combining d

/-- The characters outside ASCII that a unit may be written with; a dotless i has no lower case. -/
def foldings : List (Char × Char) :=
  [('é', 'e'), ('É', 'e'), ('²', '2'), ('³', '3'), ('İ', 'i'), ('ı', 'ı'), ('ſ', 's'), ('\u212a', 'k')]

structure UnitTables extends Characters where
  fold_ascii : ∀ c, c.toNat < 128 → toCharacters.fold c = [ignoreCase c]
  fold_listed : ∀ folding ∈ foldings, toCharacters.fold folding.1 = [folding.2]
  fold_space : ∀ c, isSpace c = true → ∀ d ∈ toCharacters.fold c, isSpace d = true
  upper_ascii : ∀ c, c.toNat < 128 → upper c = [c.toUpper]
  upper_dotless : upper 'ı' = ['I']

structure DocumentContradictionMatch where
  contradictionType : String
  comparisonBasis : String
deriving DecidableEq

def unitAliases : List (String × String) :=
  [("m2", "M2"), ("m²", "M2"), ("m3", "M3"), ("m³", "M3"), ("ml", "ML"), ("un", "UN"), ("u", "UN"), ("unite", "UN"),
    ("unites", "UN"), ("kg", "KG"), ("h", "H"), ("forfait", "FORFAIT"), ("ens", "ENS")]

/-- What one character of a pattern accepts; a letter is accepted in either case. -/
inductive Symbol where
  | letter (c : Char)
  | space
  | inSentence
deriving DecidableEq

abbrev Pattern := Regex Symbol

def literal (text : String) : Pattern := text.toList.foldr (fun c rest => .seq (.one (.letter c)) rest) .empty

def anyOf (first : Pattern) (others : List Pattern) : Pattern := others.foldl .alt first

/-- A word with an ending that may be left out. -/
def ending (stem suffix : Pattern) : Pattern := .seq stem (.optional suffix)

/-- `\b(?:…)\b` -/
def word (inner : Pattern) : Pattern := .seq .boundary (.seq inner .boundary)

/-- `[^.\n]{0,count}` -/
def upTo : Nat → Pattern
  | 0 => .empty
  | count + 1 => .optional (.seq (.one .inSentence) (upTo count))

/-- The alternatives of `_UNIT_PATTERN`. -/
def unitPattern : Pattern :=
  anyOf (literal "m2") [literal "m²", literal "m3", literal "m³", literal "ml",
    ending (ending (literal "unit") (literal "é")) (literal "s"), literal "u", literal "kg", literal "h",
    literal "forfait", literal "ens"]

def variantWord : Pattern := word (anyOf (ending (literal "variante") (literal "s"))
  [ending (literal "option") (literal "s")])

def prohibitionWord : Pattern := word (anyOf (ending (literal "interdit") (anyOf (literal "e") [literal "es"]))
  [ending (literal "exclu") (anyOf (literal "e") [literal "es"]),
    .seq (literal "non") (.seq (.many .space) (ending (ending (literal "admis") (literal "e")) (literal "s"))),
    ending (ending (literal "refusé") (literal "e")) (literal "s")])

def variantProhibitionPattern : Pattern :=
  .alt (.seq variantWord (.seq (upTo 80) prohibitionWord)) (.seq prohibitionWord (.seq (upTo 80) variantWord))

def variantRowPattern : Pattern := variantWord

/-- `[a-zà-ÿ]` -/
def inLetterClass (c : Char) : Bool := (0x61 ≤ c.toNat && c.toNat ≤ 0x7a) || (0xe0 ≤ c.toNat && c.toNat ≤ 0xff)

/-- `[a-zà-ÿ]` in either case: the lower case of U+0178 and of U+212B is in the class. -/
def isUnitLetter (c : Char) : Bool := inLetterClass (ignoreCase c) || c.toNat == 0x178 || c.toNat == 0x212b

section Detection

variable (tables : UnitTables)

def alphabet : Alphabet Symbol Char where
  accepts symbol c := match symbol with
    | .letter lower => ignoreCase c == lower
    | .space => isSpace c
    | .inSentence => c != '.' && c != '\n'
  isWord := tables.isWord

/-- The match of `_UNIT_PATTERN` at a position, which no letter may precede or follow. -/
def unitAt (before : Option Char) (rest : List Char) : Option (Cursor Char) :=
  if before.any isUnitLetter then none
  else ((unitPattern.ends (alphabet tables) ⟨before, rest⟩).filter fun stop => !stop.rest.head?.any isUnitLetter).head?

/-- `_UNIT_PATTERN.finditer` from a position on; a match is left before the next one is looked for. -/
def unitMatches : Option Char → List Char → Nat → List (List Char)
  | _, [], _ => []
  | _, c :: rest, skip + 1 => unitMatches (some c) rest skip
  | before, c :: rest, 0 => match unitAt tables before (c :: rest) with
    | some stop =>
      let length := (c :: rest).length - stop.rest.length
      (c :: rest).take length :: unitMatches (some c) rest (length - 1)
    | none => unitMatches (some c) rest 0

def unitMentions (cctpText : List Char) : List (List Char) := unitMatches tables none cctpText 0

/-- `_normalize_unit`. -/
def normalizeUnit (value : List Char) : String :=
  let normalized := stripChars (value.flatMap tables.fold)
  (unitAliases.lookup (String.ofList normalized)).getD (String.ofList (normalized.flatMap tables.upper))

/-- `" ".join` of the texts that are there. -/
def rowText (pricingCode pricingDesignation : Option (List Char)) : List Char :=
  List.intercalate [' '] (([pricingCode, pricingDesignation].filterMap id).filter (· ≠ []))

def variantConflict (cctpText : List Char) (pricingCode pricingDesignation : Option (List Char)) : Bool :=
  (variantProhibitionPattern.search (alphabet tables) cctpText).isSome &&
    (variantRowPattern.search (alphabet tables) (rowText pricingCode pricingDesignation)).isSome

def variantPricingScopeConflict : DocumentContradictionMatch where
  contradictionType := "VARIANT_PRICING_SCOPE_CONFLICT"
  comparisonBasis := "CCTP_VARIANT_PROHIBITION_V1"

def pricingUnitMismatch : DocumentContradictionMatch where
  contradictionType := "PRICING_UNIT_MISMATCH"
  comparisonBasis := "CCTP_EXPLICIT_UNIT_V1"

def detectCctpPricingContradiction (cctpText : List Char) (pricingCode pricingDesignation pricingUnit : Option (List Char)) :
    Option DocumentContradictionMatch :=
  if variantConflict tables cctpText pricingCode pricingDesignation then some variantPricingScopeConflict
  else match pricingUnit.filter (· ≠ []) with
    | none => none
    | some unit =>
      let cctpUnits := (unitMentions tables cctpText).map (normalizeUnit tables)
      let incompatibleUnits := cctpUnits.filter (· ≠ normalizeUnit tables unit)
      if incompatibleUnits ≠ [] then some pricingUnitMismatch else none

end Detection

/-- The words of `_UNIT_PATTERN` in lower case, with the unit each is a name of. -/
def unitWords : List (String × String) :=
  [("m2", "M2"), ("m²", "M2"), ("m3", "M3"), ("m³", "M3"), ("ml", "ML"), ("unités", "UN"), ("unité", "UN"),
    ("units", "UN"), ("unit", "UN"), ("u", "UN"), ("kg", "KG"), ("h", "H"), ("forfait", "FORFAIT"), ("ens", "ENS")]

/-- The unit a mention denotes, in either case. -/
def unitOf (mention : List Char) : Option String := unitWords.lookup (String.ofList (mention.map ignoreCase))

/-- A name of a unit in any letter case, with or without accents, between spaces. -/
def Spells (tables : UnitTables) (unit : String) (value : List Char) : Prop :=
  ∃ before name after, value = before ++ (name ++ after) ∧ (∀ c ∈ before, isSpace c = true) ∧
    (∀ c ∈ after, isSpace c = true) ∧ (String.ofList (name.flatMap tables.fold), unit) ∈ unitAliases

/-- What makes the comparison of the units of a text insensitive to their spelling. -/
structure UnitsAgree (tables : UnitTables) (cctpText : List Char) : Prop where
  canonical : ∀ mention ∈ unitMentions tables cctpText, unitOf mention = some (normalizeUnit tables mention)
  same : ∀ unit pricingCode pricingDesignation pricingUnit, Spells tables unit pricingUnit →
    (∀ mention ∈ unitMentions tables cctpText, unitOf mention = some unit) →
    detectCctpPricingContradiction tables cctpText pricingCode pricingDesignation (some pricingUnit) ≠
      some pricingUnitMismatch
  different : ∀ unit pricingCode pricingDesignation pricingUnit, Spells tables unit pricingUnit →
    (∃ mention ∈ unitMentions tables cctpText, unitOf mention ≠ some unit) →
    variantConflict tables cctpText pricingCode pricingDesignation = false →
    detectCctpPricingContradiction tables cctpText pricingCode pricingDesignation (some pricingUnit) =
      some pricingUnitMismatch

/-- A word of the pattern, in either case. -/
def IsWord (written : List Char) : Prop := String.ofList (written.map ignoreCase) ∈ unitWords.map Prod.fst

/-- A part of a text with no letter on either side. -/
def StandsAlone (cctpText written : List Char) : Prop :=
  ∃ before after, cctpText = before ++ (written ++ after) ∧ before.getLast?.any isUnitLetter = false ∧
    after.head?.any isUnitLetter = false

/-- The alternative `unité?s?`. -/
def unitForms : List String := ["unités", "unité", "units", "unit"]

/-- A form of `unité?s?` that is written with its accent and without a dotless i. -/
def Accented (written : List Char) : Prop := 'é' ∈ written.map ignoreCase ∧ 'ı' ∉ written

section Spelling

variable {tables : UnitTables} {c : Char} {mention : List Char}

/-- The letters of the words of the pattern. -/
def unitLetters : List Char := unitWords.flatMap fun pair => pair.1.toList

/-- A letter of a word without its accent or its exponent. -/
def bareLetter (c : Char) : Char :=
  if c = 'é' then 'e' else if c = '²' then '2' else if c = '³' then '3' else c

/-- What folding leaves of a character that the pattern reads as a letter. -/
def bare (c : Char) : Char := if c = 'ı' then 'ı' else bareLetter (ignoreCase c)

theorem bareLetter_ascii : ∀ c ∈ unitLetters, c.toNat < 128 → bareLetter c = c := by decide

theorem accented_letter : ∀ c ∈ unitLetters, 0xe0 ≤ c.toNat → c = 'é' := by decide

theorem folded_letter : ∀ c ∈ unitLetters, 128 ≤ c.toNat → (c, bareLetter c) ∈ foldings := by decide

theorem ignoreCase_ascii (ascii : c.toNat < 128) : (ignoreCase c).toNat < 128 := by
  unfold ignoreCase
  rw [if_neg (by omega), if_neg (by omega), if_neg (by omega)]
  split_ifs with upper
  · rcases upper with ⟨_, last⟩ | upper
    · rw [Char.le_def, UInt32.le_iff_toNat_le] at last
      have code : c.val.toNat = c.toNat := rfl
      have bound : 'Z'.val.toNat = 90 := rfl
      rw [toNat_ofNat (by omega)]
      omega
    · omega
  · exact ascii

theorem bare_ignoreCase (letter : ignoreCase c ∈ unitLetters) (dotless : c ≠ 'ı') (special : 128 ≤ c.toNat) :
    (c, bareLetter (ignoreCase c)) ∈ foldings := by
  unfold ignoreCase at letter ⊢
  split_ifs at letter ⊢ with i s k upper
  · have code := i.resolve_right fun same => dotless (Char.toNat_inj.mp same)
    have same : c = 'İ' := Char.toNat_inj.mp code
    rw [same]
    decide
  · have same : c = 'ſ' := Char.toNat_inj.mp s
    rw [same]
    decide
  · have same : c = '\u212a' := Char.toNat_inj.mp k
    rw [same]
    decide
  · rcases upper with ⟨_, last⟩ | ⟨first, last, _⟩
    · rw [Char.le_def, UInt32.le_iff_toNat_le] at last
      have code : c.val.toNat = c.toNat := rfl
      have bound : 'Z'.val.toNat = 90 := rfl
      omega
    · have code : (Char.ofNat (c.toNat + 32)).toNat = c.toNat + 32 := toNat_ofNat (by omega)
      have accented := accented_letter _ letter (by omega)
      have same : c = 'É' := by
        apply Char.toNat_inj.mp
        have number : 'é'.toNat = 'É'.toNat + 32 := rfl
        rw [accented] at code
        omega
      rw [same]
      decide
  · exact folded_letter c letter special

/-- A character that the pattern reads as a letter is folded to that letter, bare; a dotless i is left as it is. -/
theorem fold_letter (letter : ignoreCase c ∈ unitLetters) : tables.fold c = [bare c] := by
  by_cases dotless : c = 'ı'
  · rw [dotless]
    exact tables.fold_listed ('ı', 'ı') (by decide)
  rw [bare, if_neg dotless]
  by_cases ascii : c.toNat < 128
  · rw [tables.fold_ascii c ascii]
    rw [bareLetter_ascii _ letter (ignoreCase_ascii ascii)]
  · exact tables.fold_listed _ (bare_ignoreCase letter dotless (by omega))

theorem flatMap_fold (letters : ∀ c ∈ mention, ignoreCase c ∈ unitLetters) :
    mention.flatMap tables.fold = mention.map bare := by
  induction mention with
  | nil => rfl
  | cons c mention ih =>
    obtain ⟨letter, others⟩ := List.forall_mem_cons.mp letters
    rw [List.flatMap_cons, fold_letter letter, ih others]
    rfl

theorem IsWord.letters (word : IsWord mention) :
    ∀ c ∈ mention, ignoreCase c ∈ unitLetters := by
  intro c member
  obtain ⟨pair, among, same⟩ := List.mem_map.mp word
  refine List.mem_flatMap.mpr ⟨pair, among, ?_⟩
  rw [same, String.toList_ofList]
  exact List.mem_map_of_mem member

theorem map_bare (dotted : 'ı' ∉ mention) : mention.map bare = (mention.map ignoreCase).map bareLetter := by
  rw [List.map_map]
  apply List.map_congr_left
  intro c member
  apply if_neg
  rintro rfl
  exact dotted member

theorem bareLetter_not_space : ∀ c ∈ unitLetters, isSpace (bareLetter c) = false := by decide

theorem bare_not_space (letter : ignoreCase c ∈ unitLetters) : isSpace (bare c) = false := by
  unfold bare
  split_ifs
  · rfl
  · exact bareLetter_not_space _ letter

theorem stripChars_bare (letters : ∀ c ∈ mention, ignoreCase c ∈ unitLetters) :
    stripChars (mention.map bare) = mention.map bare := by
  have clear : ∀ c ∈ mention.map bare, isSpace c = false := by
    intro c member
    obtain ⟨d, among, rfl⟩ := List.mem_map.mp member
    exact bare_not_space (letters d among)
  exact stripChars_of_ends (fun c first => clear c (List.mem_of_mem_head? first))
    fun c last => clear c (List.mem_of_mem_getLast? last)

theorem normalizeUnit_word (letters : ∀ c ∈ mention, ignoreCase c ∈ unitLetters) :
    normalizeUnit tables mention = (unitAliases.lookup (String.ofList (mention.map bare))).getD
      (String.ofList ((mention.map bare).flatMap tables.upper)) := by
  rw [normalizeUnit, flatMap_fold letters, stripChars_bare letters]

theorem upper_bare : ∀ c ∈ unitLetters, (bareLetter c).toNat < 128 := by decide

/-- In upper case the dotless i is an I. -/
theorem flatMap_upper (letters : ∀ c ∈ mention, ignoreCase c ∈ unitLetters) :
    (mention.map bare).flatMap tables.upper = (mention.map ignoreCase).map fun c => (bareLetter c).toUpper := by
  induction mention with
  | nil => rfl
  | cons c mention ih =>
    obtain ⟨letter, others⟩ := List.forall_mem_cons.mp letters
    have first : tables.upper (bare c) = [(bareLetter (ignoreCase c)).toUpper] := by
      unfold bare
      split_ifs with dotless
      · rw [dotless]
        exact tables.upper_dotless
      · exact tables.upper_ascii _ (upper_bare _ letter)
    rw [List.map_cons, List.flatMap_cons, first, ih others]
    rfl

end Spelling

section Mentions

variable {tables : UnitTables} {before : Option Char} {text rest after mention consumed : List Char} {stop : Cursor Char}

def capitals (word : String) : String := String.ofList (word.toList.map fun c => (bareLetter c).toUpper)

/-- The unit a word is normalised to when none of its letters is a dotless i. -/
def plainUnit (word : String) : String :=
  (unitAliases.lookup (String.ofList (word.toList.map bareLetter))).getD (capitals word)

/-- What the tables of words and units are evaluated to: the words are those of the pattern, one goes on with a
    letter where a longer one does, and their units are the ones `plainUnit` and `capitals` give them. -/
theorem tables_evaluated :
    ((∀ word ∈ unitPattern.words, ∃ pair ∈ unitWords, word = pair.1.toList.map Symbol.letter) ∧
      (∀ form ∈ unitForms, form ∈ unitWords.map Prod.fst) ∧
        ∀ name ∈ unitAliases, unitAliases.lookup name.1 = some name.2 ∧ 'ı' ∉ name.1.toList ∧
          name.1.toList ≠ [] ∧ stripChars name.1.toList = name.1.toList) ∧
    (∀ short ∈ unitWords, ∀ long ∈ unitWords, short.1.toList <+: long.1.toList →
      short.1.toList.length = long.1.toList.length ∨
        (long.1.toList.drop short.1.toList.length).head?.any inLetterClass = true) ∧
    ∀ pair ∈ unitWords, (pair.1.toList.map Symbol.letter ∈ unitPattern.words ∧ pair.1.toList ≠ [] ∧
        ∀ c ∈ pair.1.toList.dropLast, inLetterClass c = true) ∧
      (pair.2 = plainUnit pair.1 ↔ (pair.1 ∈ unitForms → 'é' ∈ pair.1.toList)) ∧
        ('i' ∈ pair.1.toList → (pair.2 = capitals pair.1 ↔ pair.1 ∉ unitForms)) ∧
          unitWords.lookup pair.1 = some pair.2 := by decide +kernel

theorem words_unitPattern : ∀ word ∈ unitPattern.words, ∃ pair ∈ unitWords, word = pair.1.toList.map Symbol.letter :=
  tables_evaluated.1.1

theorem unitForms_words : ∀ form ∈ unitForms, form ∈ unitWords.map Prod.fst := tables_evaluated.1.2.1

theorem unitAliases_sound : ∀ name ∈ unitAliases, unitAliases.lookup name.1 = some name.2 ∧ 'ı' ∉ name.1.toList ∧
    name.1.toList ≠ [] ∧ stripChars name.1.toList = name.1.toList := tables_evaluated.1.2.2

theorem unitWords_prefix : ∀ short ∈ unitWords, ∀ long ∈ unitWords, short.1.toList <+: long.1.toList →
    short.1.toList.length = long.1.toList.length ∨
      (long.1.toList.drop short.1.toList.length).head?.any inLetterClass = true := tables_evaluated.2.1

theorem unitWords_words : ∀ pair ∈ unitWords, pair.1.toList.map Symbol.letter ∈ unitPattern.words :=
  fun pair listed => (tables_evaluated.2.2 pair listed).1.1

theorem unitWords_inner : ∀ pair ∈ unitWords, pair.1.toList ≠ [] ∧ ∀ c ∈ pair.1.toList.dropLast, inLetterClass c = true :=
  fun pair listed => (tables_evaluated.2.2 pair listed).1.2

theorem unitWords_normalized : ∀ pair ∈ unitWords,
    (pair.2 = plainUnit pair.1 ↔ (pair.1 ∈ unitForms → 'é' ∈ pair.1.toList)) ∧
      ('i' ∈ pair.1.toList → (pair.2 = capitals pair.1 ↔ pair.1 ∉ unitForms)) ∧
        unitWords.lookup pair.1 = some pair.2 :=
  fun pair listed => (tables_evaluated.2.2 pair listed).2

theorem isWord_iff : IsWord mention ↔ ∃ pair ∈ unitWords, mention.map ignoreCase = pair.1.toList := by
  rw [IsWord, List.mem_map]
  constructor
  · rintro ⟨pair, listed, same⟩
    exact ⟨pair, listed, by rw [same, String.toList_ofList]⟩
  · rintro ⟨pair, listed, same⟩
    exact ⟨pair, listed, by rw [same, String.ofList_toList]⟩

theorem isUnitLetter_of_class {c : Char} (letter : inLetterClass (ignoreCase c) = true) : isUnitLetter c = true := by
  simp [isUnitLetter, letter]

theorem spelled_letters {letters consumed : List Char} (spelled : List.Forall₂
      (fun symbol c => (alphabet tables).accepts symbol c = true) (letters.map Symbol.letter) consumed) :
    consumed.map ignoreCase = letters := by
  induction letters generalizing consumed with
  | nil =>
    cases spelled
    rfl
  | cons letter letters ih =>
    cases spelled with
    | cons accepted others => rw [List.map_cons, beq_iff_eq.mp accepted, ih others]

theorem letters_spelled (tables : UnitTables) (written : List Char) : List.Forall₂
    (fun symbol c => (alphabet tables).accepts symbol c = true) ((written.map ignoreCase).map Symbol.letter) written := by
  induction written with
  | nil => exact .nil
  | cons c written ih => exact .cons (beq_iff_eq.mpr rfl) ih

theorem unitAt_word (found : unitAt tables before rest = some stop) : before.any isUnitLetter = false ∧
    ∃ consumed, rest = consumed ++ stop.rest ∧ IsWord consumed ∧ stop.rest.head?.any isUnitLetter = false := by
  unfold unitAt at found
  split at found
  · cases found
  rename_i left
  obtain ⟨member, right⟩ := List.mem_filter.mp (List.mem_of_mem_head? found)
  obtain ⟨consumed, ⟨whole, _⟩, word, listed, spelled⟩ := Regex.mem_ends_words (by decide) member
  obtain ⟨pair, among, rfl⟩ := words_unitPattern word listed
  have read := spelled_letters spelled
  exact ⟨Bool.not_eq_true _ ▸ left, consumed, whole, isWord_iff.mpr ⟨pair, among, read⟩, by simpa using right⟩

theorem IsWord.ne_nil (word : IsWord mention) : mention ≠ [] := by
  obtain ⟨pair, listed, same⟩ := isWord_iff.mp word
  rintro rfl
  exact (unitWords_inner pair listed).1 same.symm

theorem IsWord.letter (word : IsWord mention) {c : Char} (inner : c ∈ mention.dropLast) : isUnitLetter c = true := by
  obtain ⟨pair, listed, same⟩ := isWord_iff.mp word
  apply isUnitLetter_of_class
  apply (unitWords_inner pair listed).2
  rw [← same, ← List.map_dropLast]
  exact List.mem_map_of_mem inner

theorem IsWord.extension {more : List Char} (word : IsWord mention) (longer : IsWord (mention ++ more))
    (right : more.head?.any isUnitLetter = false) : more = [] := by
  obtain ⟨short, shortListed, shortSame⟩ := isWord_iff.mp word
  obtain ⟨long, longListed, longSame⟩ := isWord_iff.mp longer
  rw [List.map_append, shortSame] at longSame
  have lengths := congrArg List.length longSame
  rw [List.length_append, List.length_map] at lengths
  rcases unitWords_prefix short shortListed long longListed ⟨_, longSame⟩ with same | letter
  · exact List.eq_nil_of_length_eq_zero (by omega)
  · rw [← longSame, List.drop_left, List.head?_map, Option.any_map] at letter
    cases more with
    | nil => rfl
    | cons c more =>
      rw [List.head?_cons, Option.any_some] at letter right
      rw [isUnitLetter_of_class letter] at right
      cases right

/-- Two words at one place, each before something that is no letter, are one. -/
theorem IsWord.unique (first : IsWord mention) (second : IsWord consumed) (same : mention ++ after = consumed ++ rest)
    (right : after.head?.any isUnitLetter = false) (other : rest.head?.any isUnitLetter = false) : mention = consumed := by
  rcases List.append_eq_append_iff.mp same with ⟨more, rfl, split⟩ | ⟨more, rfl, split⟩
  · have clear : more.head?.any isUnitLetter = false := by
      cases more with
      | nil => rfl
      | cons c more =>
        rw [split] at right
        exact right
    rw [first.extension second clear, List.append_nil]
  · have clear : more.head?.any isUnitLetter = false := by
      cases more with
      | nil => rfl
      | cons c more =>
        rw [split] at other
        exact other
    rw [second.extension first clear, List.append_nil]

theorem unitAt_of_word (word : IsWord mention) (left : before.any isUnitLetter = false)
    (right : after.head?.any isUnitLetter = false) :
    ∃ stop, unitAt tables before (mention ++ after) = some stop ∧ stop.rest = after := by
  obtain ⟨pair, listed, same⟩ := isWord_iff.mp word
  have spelled := letters_spelled tables mention
  rw [same] at spelled
  have member : (⟨mention.getLast?.or before, after⟩ : Cursor Char) ∈
      unitPattern.ends (alphabet tables) ⟨before, mention ++ after⟩ :=
    Regex.mem_ends_of_word (unitWords_words pair listed) spelled
  have kept : (⟨mention.getLast?.or before, after⟩ : Cursor Char) ∈
      (unitPattern.ends (alphabet tables) ⟨before, mention ++ after⟩).filter
        fun stop => !stop.rest.head?.any isUnitLetter := List.mem_filter.mpr ⟨member, by simp [right]⟩
  cases found : unitAt tables before (mention ++ after) with
  | none =>
    rw [unitAt, left, if_neg Bool.false_ne_true, List.head?_eq_none_iff] at found
    exact absurd found (List.ne_nil_of_mem kept)
  | some stop =>
    obtain ⟨_, consumed, whole, other, clear⟩ := unitAt_word found
    rw [word.unique other whole right clear] at whole
    exact ⟨stop, rfl, (List.append_cancel_left whole).symm⟩

/-- A match does not reach beyond a place that no letter precedes. -/
theorem IsWord.within {inner : List Char} (word : IsWord consumed) (whole : inner ++ after = consumed ++ rest)
    (nonempty : inner ≠ []) (left : inner.getLast?.any isUnitLetter = false) : consumed.length ≤ inner.length := by
  rcases List.append_eq_append_iff.mp whole with ⟨more, rfl, _⟩ | ⟨more, rfl, _⟩
  · cases more with
    | nil => rw [List.append_nil]
    | cons d more =>
      have last : inner.getLast nonempty ∈ (inner ++ d :: more).dropLast := by
        rw [List.dropLast_append_of_ne_nil (List.cons_ne_nil d more)]
        exact List.mem_append_left _ (List.getLast_mem nonempty)
      rw [List.getLast?_eq_some_getLast nonempty, Option.any_some, word.letter last] at left
      cases left
  · rw [List.length_append]
    exact Nat.le_add_right _ _

theorem unitMatches_alone {front : List Char} {skip : Nat}
    (member : mention ∈ unitMatches tables front.getLast? rest skip) :
    StandsAlone (front ++ rest) mention ∧ IsWord mention := by
  induction rest generalizing front skip with
  | nil => cases member
  | cons c rest ih =>
    have next {skip : Nat} (later : mention ∈ unitMatches tables (some c) rest skip) :
        StandsAlone (front ++ c :: rest) mention ∧ IsWord mention := by
      rw [← List.getLast?_concat (l := front)] at later
      have found := ih later
      rwa [List.append_assoc, List.singleton_append] at found
    cases skip with
    | succ skip => exact next member
    | zero =>
      rw [unitMatches] at member
      split at member
      · rename_i stop found
        rcases List.mem_cons.mp member with here | later
        · obtain ⟨left, consumed, whole, word, right⟩ := unitAt_word found
          have length : (c :: rest).length - stop.rest.length = consumed.length := by
            rw [whole, List.length_append, Nat.add_sub_cancel]
          rw [length, whole, List.take_left] at here
          rw [here]
          exact ⟨⟨front, stop.rest, by rw [whole], left, right⟩, word⟩
        · exact next later
      · exact next member

theorem mem_unitMatches {front inner : List Char} {skip : Nat} (word : IsWord mention)
    (left : (front ++ inner).getLast?.any isUnitLetter = false) (right : after.head?.any isUnitLetter = false)
    (skipped : skip ≤ inner.length) : mention ∈ unitMatches tables front.getLast? (inner ++ (mention ++ after)) skip := by
  induction inner generalizing front skip with
  | nil =>
    rw [List.append_nil] at left
    obtain ⟨stop, found, rfl⟩ := @unitAt_of_word tables _ _ _ word left right
    have none : skip = 0 := Nat.le_zero.mp skipped
    rw [none, List.nil_append]
    cases whole : mention ++ stop.rest with
    | nil => exact absurd (List.append_eq_nil_iff.mp whole).1 word.ne_nil
    | cons c rest =>
      rw [whole] at found
      have length : (c :: rest).length - stop.rest.length = mention.length := by
        rw [← whole, List.length_append, Nat.add_sub_cancel]
      rw [unitMatches, found]
      dsimp only
      rw [length, ← whole, List.take_left]
      exact List.mem_cons_self
  | cons c inner ih =>
    have next {skip : Nat} (inside : skip ≤ inner.length) :
        mention ∈ unitMatches tables (some c) (inner ++ (mention ++ after)) skip := by
      rw [← List.getLast?_concat (l := front)]
      apply ih _ inside
      rwa [List.append_assoc, List.singleton_append]
    cases skip with
    | succ skip => exact next (Nat.le_of_succ_le_succ skipped)
    | zero =>
      rw [List.cons_append, unitMatches]
      split
      · rename_i stop found
        apply List.mem_cons_of_mem
        apply next
        obtain ⟨_, consumed, whole, other, _⟩ := unitAt_word found
        have length : (c :: (inner ++ (mention ++ after))).length - stop.rest.length = consumed.length := by
          rw [whole, List.length_append, Nat.add_sub_cancel]
        rw [List.getLast?_append_of_ne_nil _ (List.cons_ne_nil c inner)] at left
        have bound := other.within whole (List.cons_ne_nil c inner) left
        rw [List.length_cons] at bound
        omega
      · exact next (Nat.zero_le _)

/-- The mentions of a text are the words of the pattern that stand alone in it. -/
theorem mem_unitMentions_iff : mention ∈ unitMentions tables text ↔ StandsAlone text mention ∧ IsWord mention := by
  constructor
  · intro member
    exact @unitMatches_alone tables text mention [] 0 member
  · rintro ⟨⟨before, after, rfl, left, right⟩, word⟩
    exact @mem_unitMatches tables after mention [] before 0 word left right (Nat.zero_le _)

end Mentions

section Normalization

variable {tables : UnitTables} {mention : List Char}

theorem aliases_dotted (name : String) (listed : name ∈ unitAliases.map Prod.fst) : 'ı' ∉ name.toList := by
  obtain ⟨pair, member, rfl⟩ := List.mem_map.mp listed
  exact (unitAliases_sound pair member).2.1

theorem lookup_dotless {letters : List Char} (dotless : 'ı' ∈ letters) : unitAliases.lookup (String.ofList letters) = none := by
  rw [List.lookup_eq_none_iff]
  intro pair listed
  rw [bne_iff_ne]
  intro same
  apply aliases_dotted pair.1 (List.mem_map_of_mem listed)
  rw [← same, String.toList_ofList]
  exact dotless

/-- The normalisation gives the unit of a mention unless the mention is a form of `unité?s?` without its accent or
    with a dotless i. -/
theorem normalizeUnit_iff (word : IsWord mention) : unitOf mention = some (normalizeUnit tables mention) ↔
    (String.ofList (mention.map ignoreCase) ∈ unitForms → Accented mention) := by
  have letters := word.letters
  obtain ⟨pair, listed, same⟩ := List.mem_map.mp word
  have read : mention.map ignoreCase = pair.1.toList := by rw [same, String.toList_ofList]
  have denoted : unitOf mention = some pair.2 := by rw [unitOf, ← same, (unitWords_normalized pair listed).2.2]
  rw [denoted, Option.some.injEq, normalizeUnit_word letters, flatMap_upper letters, Accented, ← same, read, ← capitals]
  by_cases dotless : 'ı' ∈ mention
  · have kept : 'ı' ∈ mention.map bare := List.mem_map.mpr ⟨'ı', dotless, rfl⟩
    have dotted : 'i' ∈ pair.1.toList := read ▸ List.mem_map.mpr ⟨'ı', dotless, by decide⟩
    rw [lookup_dotless kept, Option.getD_none, (unitWords_normalized pair listed).2.1 dotted]
    simp only [dotless, not_true, and_false, imp_false]
  · rw [map_bare dotless, read, ← plainUnit, (unitWords_normalized pair listed).1]
    simp only [dotless, not_false_eq_true, and_true]

end Normalization

section Latin

/-- The tables for the characters a unit may be written with. -/
def latin : Characters where
  casefold c := [(foldings.lookup c).getD (ignoreCase c)]
  decompose c := [c]
  combining _ := false
  upper c := [if c = 'ı' then 'I' else c.toUpper]
  isWord c := c.isAlphanum || isUnitLetter c

variable {c d : Char}

theorem fold_latin (other : ∀ folding ∈ foldings, c ≠ folding.1) : latin.fold c = [ignoreCase c] := by
  have lookup : foldings.lookup c = none := by
    rw [List.lookup_eq_none_iff]
    intro folding listed
    rw [bne_iff_ne]
    exact other folding listed
  have folded : latin.fold c = [(foldings.lookup c).getD (ignoreCase c)] := rfl
  rw [folded, lookup, Option.getD_none]

theorem fold_latin_ascii (ascii : c.toNat < 128) : latin.fold c = [ignoreCase c] := by
  have clear : ∀ folding ∈ foldings, ¬folding.1.toNat < 128 := by decide
  apply fold_latin
  intro folding listed same
  exact clear folding listed (same ▸ ascii)

theorem fold_latin_listed : ∀ folding ∈ foldings, latin.fold folding.1 = [folding.2] := by decide

theorem ignoreCase_of_isSpace (space : isSpace c = true) : ignoreCase c = c := by
  simp only [isSpace, Bool.or_eq_true, Bool.and_eq_true, decide_eq_true_eq, beq_iff_eq] at space
  have letter : ¬('A' ≤ c ∧ c ≤ 'Z') := by
    simp only [Char.le_def, UInt32.le_iff_toNat_le]
    have code : c.val.toNat = c.toNat := rfl
    have first : 'A'.val.toNat = 65 := rfl
    have last : 'Z'.val.toNat = 90 := rfl
    omega
  rw [ignoreCase, if_neg (by omega), if_neg (by omega), if_neg (by omega)]
  apply if_neg
  rintro (upper | upper)
  · exact letter upper
  · omega

theorem fold_latin_space (space : isSpace c = true) (member : d ∈ latin.fold c) : isSpace d = true := by
  have clear : ∀ folding ∈ foldings, ¬isSpace folding.1 = true := by decide
  have folded : latin.fold c = [ignoreCase c] :=
    fold_latin fun folding listed same => clear folding listed (same ▸ space)
  rw [folded, ignoreCase_of_isSpace space] at member
  rw [List.mem_singleton.mp member]
  exact space

theorem upper_latin_ascii (ascii : c.toNat < 128) : latin.upper c = [c.toUpper] := by
  have other : c ≠ 'ı' := by
    rintro rfl
    exact absurd ascii (by decide)
  exact congrArg (fun d => [d]) (if_neg other)

def UnitTables.latin : UnitTables where
  toCharacters := Contradictions.latin
  fold_ascii _ := fold_latin_ascii
  fold_listed := fold_latin_listed
  fold_space _ space _ := fold_latin_space space
  upper_ascii _ := upper_latin_ascii
  upper_dotless := rfl

end Latin

section Comparison

variable {tables : UnitTables} {cctpText : List Char} {pricingCode pricingDesignation : Option (List Char)}
  {unit : String} {value : List Char}

theorem flatMap_fold_space {spaces : List Char} (blank : ∀ c ∈ spaces, isSpace c = true) :
    ∀ c ∈ spaces.flatMap tables.fold, isSpace c = true := by
  intro c member
  obtain ⟨space, among, inside⟩ := List.mem_flatMap.mp member
  exact tables.fold_space space (blank space among) c inside

theorem Spells.ne_nil (spells : Spells tables unit value) : value ≠ [] := by
  obtain ⟨before, name, after, rfl, _, _, listed⟩ := spells
  intro empty
  have nothing : name = [] := (List.append_eq_nil_iff.mp (List.append_eq_nil_iff.mp empty).2).1
  have full := (unitAliases_sound _ listed).2.2.1
  rw [nothing] at full
  exact full rfl

/-- Every spelling of a unit is normalised to it. -/
theorem Spells.normalizeUnit (spells : Spells tables unit value) : normalizeUnit tables value = unit := by
  obtain ⟨before, name, after, rfl, left, right, listed⟩ := spells
  have known := (unitAliases_sound _ listed).1
  have bare := (unitAliases_sound _ listed).2.2.2
  rw [String.toList_ofList] at bare
  rw [Contradictions.normalizeUnit, List.flatMap_append, List.flatMap_append,
    stripChars_eq_trimBy, trimBy_around (flatMap_fold_space left) (flatMap_fold_space right), ← stripChars_eq_trimBy,
    bare, known, Option.getD_some]

theorem detect_spelled (spells : Spells tables unit value)
    (clear : variantConflict tables cctpText pricingCode pricingDesignation = false) :
    detectCctpPricingContradiction tables cctpText pricingCode pricingDesignation (some value) =
        some pricingUnitMismatch ↔ ∃ mention ∈ unitMentions tables cctpText, normalizeUnit tables mention ≠ unit := by
  have present : (some value).filter (fun text => decide (text ≠ [])) = some value := by
    simp [Option.filter, spells.ne_nil]
  rw [detectCctpPricingContradiction, clear, if_neg Bool.false_ne_true, present]
  simp only [spells.normalizeUnit, ne_eq, ite_eq_left_iff, reduceCtorEq, imp_false, not_not, List.filter_eq_nil_iff,
    List.forall_mem_map, decide_eq_true_eq, not_forall, exists_prop]

theorem variantPricingScopeConflict_ne : variantPricingScopeConflict ≠ pricingUnitMismatch := by decide

theorem canonical_iff : (∀ mention ∈ unitMentions tables cctpText, unitOf mention = some (normalizeUnit tables mention)) ↔
    ∀ written, StandsAlone cctpText written → String.ofList (written.map ignoreCase) ∈ unitForms → Accented written := by
  constructor
  · intro canonical written alone form
    have word : IsWord written := unitForms_words _ form
    exact (normalizeUnit_iff word).mp (canonical written (mem_unitMentions_iff.mpr ⟨alone, word⟩)) form
  · intro accented mention member
    obtain ⟨alone, word⟩ := mem_unitMentions_iff.mp member
    exact (normalizeUnit_iff word).mpr (accented mention alone)

/-- The comparison of units is insensitive to their spelling exactly for the texts where every form of `unité?s?`
    that stands alone has its accent and no dotless i. -/
theorem units_agree_iff (tables : UnitTables) (cctpText : List Char) : UnitsAgree tables cctpText ↔
    ∀ written, StandsAlone cctpText written → String.ofList (written.map ignoreCase) ∈ unitForms → Accented written := by
  rw [← @canonical_iff tables]
  refine ⟨UnitsAgree.canonical, fun canonical => ⟨canonical, ?_, ?_⟩⟩
  · intro unit code designation value spells same mismatch
    cases conflict : variantConflict tables cctpText code designation with
    | true =>
      rw [detectCctpPricingContradiction, conflict, if_pos rfl, Option.some.injEq] at mismatch
      exact variantPricingScopeConflict_ne mismatch
    | false =>
      obtain ⟨mention, member, other⟩ := (detect_spelled spells conflict).mp mismatch
      have denoted := same mention member
      rw [canonical mention member, Option.some.injEq] at denoted
      exact other denoted
  · rintro unit code designation value spells ⟨mention, member, other⟩ clear
    apply (detect_spelled spells clear).mpr
    refine ⟨mention, member, fun denoted => other ?_⟩
    rw [canonical mention member, denoted]

/-- A unit without its accent is not taken for the unit. -/
theorem unaccented_unit : Spells UnitTables.latin "UN" "u".toList ∧
    detectCctpPricingContradiction UnitTables.latin "12 unit".toList none none (some "u".toList) = some pricingUnitMismatch ∧
    ¬UnitsAgree UnitTables.latin "12 unit".toList := by
  have mentions : unitMentions UnitTables.latin "12 unit".toList = ["unit".toList] := by decide +kernel
  have spelled : Spells UnitTables.latin "UN" "u".toList :=
    ⟨[], "u".toList, [], rfl, fun _ member => (List.not_mem_nil member).elim,
      fun _ member => (List.not_mem_nil member).elim, by decide +kernel⟩
  have mismatch : detectCctpPricingContradiction UnitTables.latin "12 unit".toList none none (some "u".toList) =
      some pricingUnitMismatch := by decide +kernel
  refine ⟨spelled, mismatch, fun agree => agree.same "UN" none none "u".toList spelled ?_ mismatch⟩
  rw [mentions]
  decide +kernel

end Comparison

end SmartAo.Decision.Contradictions
