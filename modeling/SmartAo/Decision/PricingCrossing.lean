import SmartAo.Foundation.Text
import Mathlib.Data.List.Dedup
import Mathlib.Data.List.Infix

namespace SmartAo.Decision

open SmartAo.Foundation

/-- What the code takes from the Unicode tables: case folding, compatibility decomposition, combining marks. -/
structure CrossingTables where
  casefold : List Char → List Char
  decompose : List Char → List Char
  combining : Char → Bool

inductive MatchBasis where
  | codeExact
  | normalizedTokenOverlap
  | normalizedTokenOverlapAndUnit
deriving DecidableEq

def MatchBasis.value : MatchBasis → String
  | codeExact => "CODE_EXACT"
  | normalizedTokenOverlap => "NORMALIZED_TOKEN_OVERLAP"
  | normalizedTokenOverlapAndUnit => "NORMALIZED_TOKEN_OVERLAP_AND_UNIT"

/-- Pure, explainable match; it never represents an automatic decision. -/
structure PricingCrossingMatch where
  scoreBps : Nat
  matchBasis : MatchBasis
deriving DecidableEq

abbrev Token := List Char

def stopwords : List Token :=
  ["avec", "dans", "des", "du", "les", "pour", "sur", "une", "aux", "par", "et", "de", "la", "le", "un"].map
    String.toList

/-- `[a-z0-9]` -/
def isTokenChar (c : Char) : Bool := ('a' ≤ c && c ≤ 'z') || ('0' ≤ c && c ≤ '9')

/-- One blank for every run of characters outside the tokens; the flag says that the run has its blank already. -/
def blankRuns : Bool → List Char → List Char
  | _, [] => []
  | blanked, c :: rest =>
    if isTokenChar c then c :: blankRuns false rest
    else if blanked then blankRuns true rest
    else ' ' :: blankRuns true rest

/-- The maximal runs of letters and digits. -/
def wholeTokens (text : List Char) : List Token :=
  (text.splitOnP fun c => !isTokenChar c).filter (· ≠ [])

/-- The matches of `[a-z0-9]{2,}`, which takes a run whole. -/
def findTokens (text : List Char) : List Token := (wholeTokens text).filter (2 ≤ ·.length)

/-- The quotient rounded to the nearest integer, a half to the even one. -/
def roundHalfEven (numerator denominator : Nat) : Nat :=
  let quotient := numerator / denominator
  let twice := 2 * (numerator % denominator)
  if twice < denominator ∨ (twice = denominator ∧ quotient % 2 = 0) then quotient else quotient + 1

section Matching

variable (tables : CrossingTables)

def normalize (value : List Char) : List Char :=
  blankRuns false ((tables.decompose (tables.casefold value)).filter fun c => !tables.combining c)

/-- The set of the tokens of a text, less the stopwords. -/
def tokens (value : List Char) : List Token :=
  ((findTokens (normalize tables value)).filter (· ∉ stopwords)).dedup

def containsCode (text normalizedCode : List Char) : Bool :=
  findTokens normalizedCode ≠ [] && (findTokens normalizedCode).all fun token => token ∈ tokens tables text

def isEligible (shared designationTokens : List Token) : Bool :=
  match shared with
  | [] => false
  | [only] => designationTokens.length = 1 && 6 ≤ only.length
  | _ => true

/-- The score of the tokens a designation shares with a text. -/
def sharedScore (shared designationTokens : List Token) : Nat :=
  min 10000 (roundHalfEven (10000 * shared.length) designationTokens.length)

def matchDesignation (cctpTokens designationTokens unitTokens : List Token) : Option PricingCrossingMatch :=
  let shared := cctpTokens.filter (· ∈ designationTokens)
  if isEligible shared designationTokens = false then none
  else if unitTokens.any (· ∈ cctpTokens) then
    some ⟨min 10000 (sharedScore shared designationTokens + 500), .normalizedTokenOverlapAndUnit⟩
  else some ⟨sharedScore shared designationTokens, .normalizedTokenOverlap⟩

/-- Return a deterministic candidate match from CCTP text to one pricing row. -/
def matchCctpToPricingRow (cctpText : List Char) (code designation unit : Option (List Char)) :
    Option PricingCrossingMatch :=
  let cctpTokens := tokens tables cctpText
  let normalizedCode := normalize tables (code.getD [])
  let designationTokens := tokens tables (designation.getD [])
  if cctpTokens = [] then none
  else if normalizedCode ≠ [] ∧ containsCode tables cctpText normalizedCode = true then some ⟨10000, .codeExact⟩
  else if designationTokens = [] then none
  else matchDesignation cctpTokens designationTokens (tokens tables (unit.getD []))

/-- The match of a row is reported as the one of its code. -/
def ReportsExact (cctpText : List Char) (code designation unit : Option (List Char)) : Prop :=
  (matchCctpToPricingRow tables cctpText code designation unit).map (·.matchBasis) = some .codeExact

/-- The whole tokens of a normalised code occur in a row among those of the normalised text. -/
def CodeOccurs (cctpText : List Char) (code : Option (List Char)) : Prop :=
  normalize tables (code.getD []) ≠ [] ∧
    wholeTokens (normalize tables (code.getD [])) <:+: wholeTokens (normalize tables cctpText)

/-- The tokens of a code, those of two characters or more. -/
def codeTokens (code : Option (List Char)) : List Token := findTokens (normalize tables (code.getD []))

/-- A code has tokens, and each of them is a whole token of the text. -/
def CodeCovered (cctpText : List Char) (code : Option (List Char)) : Prop :=
  codeTokens tables code ≠ [] ∧
    ∀ token ∈ codeTokens tables code, token ∈ wholeTokens (normalize tables cctpText)

/-- No token of a code is a stopword. -/
def FreeOfStopwords (code : Option (List Char)) : Prop := ∀ token ∈ codeTokens tables code, token ∉ stopwords

end Matching

instance {tables : CrossingTables} {cctpText : List Char} {code designation unit : Option (List Char)} :
    Decidable (ReportsExact tables cctpText code designation unit) :=
  inferInstanceAs (Decidable (_ = some MatchBasis.codeExact))

instance {tables : CrossingTables} {code : Option (List Char)} : Decidable (FreeOfStopwords tables code) :=
  inferInstanceAs (Decidable (∀ token ∈ codeTokens tables code, token ∉ stopwords))

section Exactness

variable {tables : CrossingTables} {cctpText normalizedCode : List Char} {code designation unit : Option (List Char)}
  {token : Token}

theorem mem_findTokens {text : List Char} : token ∈ findTokens text ↔ token ∈ wholeTokens text ∧ 2 ≤ token.length := by
  simp [findTokens]

theorem mem_tokens : token ∈ tokens tables cctpText ↔
    (token ∈ wholeTokens (normalize tables cctpText) ∧ 2 ≤ token.length) ∧ token ∉ stopwords := by
  simp [tokens, mem_findTokens]

theorem containsCode_iff : containsCode tables cctpText normalizedCode = true ↔
    findTokens normalizedCode ≠ [] ∧ ∀ token ∈ findTokens normalizedCode, token ∈ tokens tables cctpText := by
  simp [containsCode]

/-- A text without tokens, like a code without any, contains no code. -/
theorem containsCode_nonempty (contains : containsCode tables cctpText normalizedCode = true) :
    tokens tables cctpText ≠ [] ∧ normalizedCode ≠ [] := by
  obtain ⟨some, all⟩ := containsCode_iff.mp contains
  obtain ⟨token, member⟩ := List.exists_mem_of_ne_nil _ some
  refine ⟨List.ne_nil_of_mem (all token member), ?_⟩
  rintro rfl
  exact some rfl

theorem matchDesignation_basis {cctpTokens designationTokens unitTokens : List Token} :
    (matchDesignation cctpTokens designationTokens unitTokens).map (·.matchBasis) ≠ some .codeExact := by
  simp only [matchDesignation]
  by_cases refused : isEligible (cctpTokens.filter (· ∈ designationTokens)) designationTokens = false
  · rw [if_pos refused]
    nofun
  · rw [if_neg refused]
    split <;> nofun

theorem reportsExact_iff : ReportsExact tables cctpText code designation unit ↔
    containsCode tables cctpText (normalize tables (code.getD [])) = true := by
  unfold ReportsExact matchCctpToPricingRow
  constructor
  · intro reported
    by_contra missing
    by_cases none : tokens tables cctpText = []
    · simp [none] at reported
    · simp only [if_neg none, missing, and_false, if_false] at reported
      split at reported
      · cases reported
      · exact matchDesignation_basis reported
  · intro contains
    have full := containsCode_nonempty contains
    simp only [if_neg full.1, if_pos (And.intro full.2 contains)]
    rfl

/-- A code that occurs and has a token is covered: the separators around it play no part. -/
theorem CodeOccurs.covered (occurs : CodeOccurs tables cctpText code) (tokened : codeTokens tables code ≠ []) :
    CodeCovered tables cctpText code :=
  ⟨tokened, fun _ member => occurs.2.subset (mem_findTokens.mp member).1⟩

end Exactness

/-- The tables as they are on ASCII text. -/
def asciiCrossing : CrossingTables := ⟨List.map Char.toLower, id, fun _ => false⟩

end SmartAo.Decision
