import SmartAo.Foundation.Hex

namespace SmartAo.Foundation

inductive Json where
  | null
  | bool (value : Bool)
  | int (value : Int)
  | str (text : String)
  | arr (items : List Json)
  | obj (fields : List (String × Json))

namespace Json

def unicodeEscape (unit : Nat) : List Char := ['\\', 'u'] ++ hexDigits 4 unit

/-- One character under `ensure_ascii`: printable ASCII stays, the rest is escaped, and a code point
    beyond the basic plane becomes a surrogate pair. -/
def escape (c : Char) : List Char :=
  if c = '"' then ['\\', '"']
  else if c = '\\' then ['\\', '\\']
  else if c = '\n' then ['\\', 'n']
  else if c = '\r' then ['\\', 'r']
  else if c = '\t' then ['\\', 't']
  else if c = '\x08' then ['\\', 'b']
  else if c = '\x0c' then ['\\', 'f']
  else if 0x20 ≤ c.toNat ∧ c.toNat ≤ 0x7e then [c]
  else if c.toNat < 0x10000 then unicodeEscape c.toNat
  else unicodeEscape (0xd800 + (c.toNat - 0x10000) / 0x400) ++
    unicodeEscape (0xdc00 + (c.toNat - 0x10000) % 0x400)

def quote (text : String) : List Char := '"' :: text.toList.flatMap escape ++ ['"']

mutual

/-- `json.dumps` with the separators `,` and `:`; the fields of an object come in sorted order. -/
def dumpsChars : Json → List Char
  | null => "null".toList
  | bool true => "true".toList
  | bool false => "false".toList
  | int value => value.repr.toList
  | str text => quote text
  | arr items => '[' :: dumpsItems items
  | obj fields => '{' :: dumpsFields fields

def dumpsItems : List Json → List Char
  | [] => [']']
  | [item] => dumpsChars item ++ [']']
  | item :: items => dumpsChars item ++ ',' :: dumpsItems items

def dumpsFields : List (String × Json) → List Char
  | [] => ['}']
  | [(key, value)] => quote key ++ ':' :: dumpsChars value ++ ['}']
  | (key, value) :: fields => quote key ++ ':' :: dumpsChars value ++ ',' :: dumpsFields fields

end

def dumps (json : Json) : String := String.ofList json.dumpsChars

example : dumps (obj [("a", arr [int (-1), null]), ("b", str "é\n")]) =
    "\x7b\"a\":[-1,null],\"b\":\"\\u00e9\\n\"\x7d" := by decide

/-- One character without `ensure_ascii`: beyond quotes and backslashes only control characters are escaped. -/
def escapeControl (c : Char) : List Char :=
  if c = '"' ∨ c = '\\' ∨ c.toNat < 0x20 then escape c else [c]

def quoteUnicode (text : String) : List Char := '"' :: text.toList.flatMap escapeControl ++ ['"']

mutual

/-- `json.dumps` with `ensure_ascii=False`, the separators `,` and `:`, and sorted keys. -/
def dumpsUnicode : Json → List Char
  | null => "null".toList
  | bool true => "true".toList
  | bool false => "false".toList
  | int value => value.repr.toList
  | str text => quoteUnicode text
  | arr items => '[' :: dumpsUnicodeItems items
  | obj fields => '\x7b' :: dumpsUnicodeFields fields

def dumpsUnicodeItems : List Json → List Char
  | [] => [']']
  | [item] => dumpsUnicode item ++ [']']
  | item :: items => dumpsUnicode item ++ ',' :: dumpsUnicodeItems items

def dumpsUnicodeFields : List (String × Json) → List Char
  | [] => ['\x7d']
  | [(key, value)] => quoteUnicode key ++ ':' :: dumpsUnicode value ++ ['\x7d']
  | (key, value) :: fields => quoteUnicode key ++ ':' :: dumpsUnicode value ++ ',' :: dumpsUnicodeFields fields

end

example : dumpsUnicode (obj [("a", arr [bool true]), ("b", str "é\n\x01")]) =
    "\x7b\"a\":[true],\"b\":\"é\\n\\u0001\"\x7d".toList := by decide

end Json

end SmartAo.Foundation

namespace SmartAo.Foundation.Json

theorem unicodeEscape_inj {first second : Nat} {later last : List Char} (hf : first < 0x10000)
    (hs : second < 0x10000) (same : unicodeEscape first ++ later = unicodeEscape second ++ last) :
    first = second ∧ later = last := by
  have tails := List.tail_eq_of_cons_eq (List.tail_eq_of_cons_eq same)
  obtain ⟨digits, rest⟩ := List.append_inj tails (by simp)
  exact ⟨hexDigits_injective 4 (by omega) (by omega) digits, rest⟩

/-- The character a short escape stands for. -/
def shortEscape (letter : Char) : Char :=
  if letter = 'n' then '\n' else if letter = 'r' then '\r' else if letter = 't' then '\t'
  else if letter = 'b' then '\x08' else if letter = 'f' then '\x0c' else letter

theorem scalar_bounds (c : Char) : c.toNat < 0xd800 ∨ (0xdfff < c.toNat ∧ c.toNat < 0x110000) :=
  c.valid

/-- The four forms of an escaped character. -/
inductive Escaped (c : Char) : List Char → Prop where
  | plain (notSlash : c ≠ '\\') (notQuote : c ≠ '"') : Escaped c [c]
  | short (letter : Char) (notUnicode : letter ≠ 'u') (stands : c = shortEscape letter) :
    Escaped c ['\\', letter]
  | basic (bound : c.toNat < 0x10000) : Escaped c (unicodeEscape c.toNat)
  | pair (beyond : 0x10000 ≤ c.toNat) : Escaped c (unicodeEscape (0xd800 + (c.toNat - 0x10000) / 0x400) ++
      unicodeEscape (0xdc00 + (c.toNat - 0x10000) % 0x400))

theorem escape_escaped (c : Char) : Escaped c (escape c) := by
  unfold escape
  split_ifs with quote slash newline carriage tab backspace feed printable basic
  · exact .short '"' (by decide) (by rw [quote]; decide)
  · exact .short '\\' (by decide) (by rw [slash]; decide)
  · exact .short 'n' (by decide) (by rw [newline]; decide)
  · exact .short 'r' (by decide) (by rw [carriage]; decide)
  · exact .short 't' (by decide) (by rw [tab]; decide)
  · exact .short 'b' (by decide) (by rw [backspace]; decide)
  · exact .short 'f' (by decide) (by rw [feed]; decide)
  · exact .plain slash quote
  · exact .basic basic
  · exact .pair (Nat.le_of_not_lt basic)

/-- Two escaped forms at the front of one text are those of one character. -/
theorem Escaped.unique {c d : Char} {first second later last : List Char} (hf : Escaped c first)
    (hs : Escaped d second) (same : first ++ later = second ++ last) : c = d ∧ later = last := by
  have boundC := scalar_bounds c
  have boundD := scalar_bounds d
  cases hf with
  | plain notSlash _ =>
    cases hs with
    | plain => exact List.cons.inj same
    | short => exact absurd (List.head_eq_of_cons_eq same) notSlash
    | basic => exact absurd (List.head_eq_of_cons_eq same) notSlash
    | pair => exact absurd (List.head_eq_of_cons_eq same) notSlash
  | short letter notUnicode stands =>
    cases hs with
    | plain notSlash => exact absurd (List.head_eq_of_cons_eq same).symm notSlash
    | short other _ standsOther =>
      obtain ⟨letters, rest⟩ := List.cons.inj (List.tail_eq_of_cons_eq same)
      exact ⟨by rw [stands, standsOther, letters], rest⟩
    | basic => exact absurd (List.head_eq_of_cons_eq (List.tail_eq_of_cons_eq same)) notUnicode
    | pair => exact absurd (List.head_eq_of_cons_eq (List.tail_eq_of_cons_eq same)) notUnicode
  | basic boundFirst =>
    cases hs with
    | plain notSlash => exact absurd (List.head_eq_of_cons_eq same).symm notSlash
    | short _ notUnicode =>
      exact absurd (List.head_eq_of_cons_eq (List.tail_eq_of_cons_eq same)).symm notUnicode
    | basic boundSecond =>
      obtain ⟨units, rest⟩ := unicodeEscape_inj boundFirst boundSecond same
      exact ⟨Char.toNat_inj.mp units, rest⟩
    | pair beyond =>
      rw [List.append_assoc] at same
      obtain ⟨units, _⟩ := unicodeEscape_inj boundFirst (by omega) same
      omega
  | pair beyondFirst =>
    rw [List.append_assoc] at same
    cases hs with
    | plain notSlash => exact absurd (List.head_eq_of_cons_eq same).symm notSlash
    | short _ notUnicode =>
      exact absurd (List.head_eq_of_cons_eq (List.tail_eq_of_cons_eq same)).symm notUnicode
    | basic boundSecond =>
      obtain ⟨units, _⟩ := unicodeEscape_inj (by omega) boundSecond same
      omega
    | pair beyondSecond =>
      rw [List.append_assoc] at same
      obtain ⟨high, rest⟩ := unicodeEscape_inj (by omega) (by omega) same
      obtain ⟨low, rest⟩ := unicodeEscape_inj (by omega) (by omega) rest
      exact ⟨Char.toNat_inj.mp (by omega), rest⟩

theorem escape_prefixCode : PrefixCode escape :=
  fun same => (escape_escaped _).unique (escape_escaped _) same

theorem Escaped.starts {c : Char} {text : List Char} (form : Escaped c text) :
    ∃ head tail, text = head :: tail ∧ head ≠ '"' := by
  cases form with
  | plain _ notQuote => exact ⟨c, [], rfl, notQuote⟩
  | short letter => exact ⟨'\\', [letter], rfl, by decide⟩
  | basic => exact ⟨'\\', _, rfl, by decide⟩
  | pair => exact ⟨'\\', _, rfl, by decide⟩

theorem quote_prefixCode : PrefixCode quote := by
  intro first second later last same
  have bodies : first.toList.flatMap escape ++ '"' :: later = second.toList.flatMap escape ++ '"' :: last := by
    simpa [quote] using same
  obtain ⟨texts, rest⟩ := escape_prefixCode.flatMap (fun c => (escape_escaped c).starts) bodies
  exact ⟨String.toList_injective texts, rest⟩

/-- A text that does not go on with a digit. -/
def EndsNumber (rest : List Char) : Prop := ∀ c ∈ rest.head?, c.isDigit = false

theorem takeWhile_toDigits {rest : List Char} (ends : EndsNumber rest) (n : Nat) :
    (Nat.toDigits 10 n ++ rest).takeWhile Char.isDigit = Nat.toDigits 10 n := by
  have digits : ∀ c ∈ Nat.toDigits 10 n, c.isDigit = true :=
    fun c member => Nat.isDigit_of_mem_toDigits (by decide) (by decide) member
  rw [List.takeWhile_append_of_pos digits]
  cases rest with
  | nil => simp
  | cons c rest => simp [ends c rfl]

theorem toDigits_split {first second : Nat} {later last : List Char} (hl : EndsNumber later)
    (hr : EndsNumber last) (same : Nat.toDigits 10 first ++ later = Nat.toDigits 10 second ++ last) :
    first = second ∧ later = last := by
  have digits := congrArg (List.takeWhile Char.isDigit) same
  rw [takeWhile_toDigits hl, takeWhile_toDigits hr] at digits
  rw [digits] at same
  exact ⟨toDigits_injective digits, List.append_cancel_left same⟩

theorem int_split {first second : Int} {later last : List Char} (hl : EndsNumber later)
    (hr : EndsNumber last) (same : first.repr.toList ++ later = second.repr.toList ++ last) :
    first = second ∧ later = last := by
  have minus_not_digit (n : Nat) (rest other : List Char) : '-' :: other ≠ Nat.toDigits 10 n ++ rest := by
    intro equal
    cases digits : Nat.toDigits 10 n with
    | nil => exact Nat.toDigits_ne_nil digits
    | cons c tail =>
      rw [digits] at equal
      have member : '-' ∈ Nat.toDigits 10 n := by
        rw [digits, List.head_eq_of_cons_eq equal]
        exact List.mem_cons_self
      exact not_mem_toDigits (by decide) n member
  cases first with
  | ofNat m =>
    cases second with
    | ofNat n =>
      simp only [Int.repr, Nat.toList_repr] at same
      obtain ⟨equal, rest⟩ := toDigits_split hl hr same
      exact ⟨by rw [equal], rest⟩
    | negSucc n =>
      simp only [Int.repr, Nat.toList_repr, String.toList_append] at same
      exact absurd same.symm (minus_not_digit m later _)
  | negSucc m =>
    cases second with
    | ofNat n =>
      simp only [Int.repr, Nat.toList_repr, String.toList_append] at same
      exact absurd same (minus_not_digit n last _)
    | negSucc n =>
      simp only [Int.repr, Nat.toList_repr, String.toList_append, List.append_assoc] at same
      obtain ⟨equal, rest⟩ := toDigits_split hl hr (List.append_cancel_left same)
      exact ⟨by rw [Nat.succ.inj equal], rest⟩

/-- The class of the first character of a document. -/
def lead : Json → Char
  | null => 'n'
  | bool true => 't'
  | bool false => 'f'
  | int _ => '0'
  | str _ => '"'
  | arr _ => '['
  | obj _ => '{'

def leadOf (c : Char) : Char := if c = '-' ∨ c.isDigit = true then '0' else c

theorem dumpsChars_lead (json : Json) : ∃ head tail, json.dumpsChars = head :: tail ∧ leadOf head = json.lead := by
  cases json with
  | null => exact ⟨'n', _, by rw [dumpsChars]; rfl, by decide⟩
  | bool value =>
    cases value with
    | true => exact ⟨'t', _, by rw [dumpsChars]; rfl, by decide⟩
    | false => exact ⟨'f', _, by rw [dumpsChars]; rfl, by decide⟩
  | int value =>
    rw [dumpsChars]
    cases value with
    | ofNat n =>
      rw [Int.repr, Nat.toList_repr]
      cases digits : Nat.toDigits 10 n with
      | nil => exact absurd digits Nat.toDigits_ne_nil
      | cons c tail =>
        have digit : c.isDigit = true :=
          Nat.isDigit_of_mem_toDigits (by decide) (by decide) (digits ▸ List.mem_cons_self)
        exact ⟨c, tail, rfl, if_pos (.inr digit)⟩
    | negSucc n => exact ⟨'-', _, by rw [Int.repr, String.toList_append]; rfl, (by decide : leadOf '-' = '0')⟩
  | str text => exact ⟨'"', _, by rw [dumpsChars, quote]; rfl, (by decide : leadOf '"' = '"')⟩
  | arr items => exact ⟨'[', _, by rw [dumpsChars], (by decide : leadOf '[' = '[')⟩
  | obj fields => exact ⟨'{', _, by rw [dumpsChars], (by decide : leadOf '{' = '{')⟩

theorem lead_eq {first second : Json} {later last : List Char}
    (same : first.dumpsChars ++ later = second.dumpsChars ++ last) : first.lead = second.lead := by
  obtain ⟨c, tail, wordFirst, leadFirst⟩ := dumpsChars_lead first
  obtain ⟨d, rest, wordSecond, leadSecond⟩ := dumpsChars_lead second
  rw [wordFirst, wordSecond] at same
  rw [← leadFirst, ← leadSecond, List.head_eq_of_cons_eq same]

/-- What follows the first item of an array. -/
def moreItems : List Json → List Char
  | [] => [']']
  | item :: items => ',' :: dumpsItems (item :: items)

def moreFields : List (String × Json) → List Char
  | [] => ['}']
  | field :: fields => ',' :: dumpsFields (field :: fields)

theorem dumpsItems_cons (item : Json) (items : List Json) :
    dumpsItems (item :: items) = dumpsChars item ++ moreItems items := by
  cases items <;> simp [dumpsItems, moreItems]

theorem dumpsFields_cons (key : String) (value : Json) (fields : List (String × Json)) :
    dumpsFields ((key, value) :: fields) = quote key ++ ':' :: (dumpsChars value ++ moreFields fields) := by
  cases fields <;> simp [dumpsFields, moreFields]

theorem moreItems_ends (items : List Json) (rest : List Char) : EndsNumber (moreItems items ++ rest) := by
  cases items <;> exact fun c head => by cases head; decide

theorem moreFields_ends (fields : List (String × Json)) (rest : List Char) :
    EndsNumber (moreFields fields ++ rest) := by
  cases fields <;> exact fun c head => by cases head; decide

mutual

/-- The text of a document, up to a character that ends a number, determines the document. -/
theorem dumpsChars_split : ∀ (first second : Json) {later last : List Char}, EndsNumber later →
    EndsNumber last → first.dumpsChars ++ later = second.dumpsChars ++ last → first = second ∧ later = last
  | null, second, later, last, hl, hr, same => by
    have leads := lead_eq same
    cases second with
    | null => exact ⟨rfl, List.append_cancel_left same⟩
    | bool value => cases value <;> exact absurd leads (by decide)
    | _ => exact absurd leads (by simp [lead])
  | bool value, second, later, last, hl, hr, same => by
    have leads := lead_eq same
    cases second with
    | bool other =>
      cases value <;> cases other
      · exact ⟨rfl, List.append_cancel_left same⟩
      · exact absurd leads (by decide)
      · exact absurd leads (by decide)
      · exact ⟨rfl, List.append_cancel_left same⟩
    | _ => cases value <;> exact absurd leads (by simp [lead])
  | int value, second, later, last, hl, hr, same => by
    have leads := lead_eq same
    cases second with
    | int other =>
      rw [dumpsChars, dumpsChars] at same
      obtain ⟨values, rest⟩ := int_split hl hr same
      exact ⟨by rw [values], rest⟩
    | bool value => cases value <;> exact absurd leads (by simp [lead])
    | _ => exact absurd leads (by simp [lead])
  | str text, second, later, last, hl, hr, same => by
    have leads := lead_eq same
    cases second with
    | str other =>
      rw [dumpsChars, dumpsChars] at same
      obtain ⟨texts, rest⟩ := quote_prefixCode same
      exact ⟨by rw [texts], rest⟩
    | bool value => cases value <;> exact absurd leads (by simp [lead])
    | _ => exact absurd leads (by simp [lead])
  | arr items, second, later, last, hl, hr, same => by
    have leads := lead_eq same
    cases second with
    | arr others =>
      rw [dumpsChars, dumpsChars] at same
      obtain ⟨equal, rest⟩ := dumpsItems_split items others (List.tail_eq_of_cons_eq same)
      exact ⟨by rw [equal], rest⟩
    | bool value => cases value <;> exact absurd leads (by simp [lead])
    | _ => exact absurd leads (by simp [lead])
  | obj fields, second, later, last, hl, hr, same => by
    have leads := lead_eq same
    cases second with
    | obj others =>
      rw [dumpsChars, dumpsChars] at same
      obtain ⟨equal, rest⟩ := dumpsFields_split fields others (List.tail_eq_of_cons_eq same)
      exact ⟨by rw [equal], rest⟩
    | bool value => cases value <;> exact absurd leads (by simp [lead])
    | _ => exact absurd leads (by simp [lead])

theorem dumpsItems_split : ∀ (first second : List Json) {later last : List Char},
    dumpsItems first ++ later = dumpsItems second ++ last → first = second ∧ later = last
  | [], [], later, last, same => ⟨rfl, List.append_cancel_left same⟩
  | [], item :: items, later, last, same => by
    obtain ⟨head, tail, word, leads⟩ := dumpsChars_lead item
    rw [dumpsItems_cons, word] at same
    rw [← (List.head_eq_of_cons_eq same : ']' = head)] at leads
    cases item with
    | bool value => cases value <;> exact absurd leads (by decide)
    | _ => exact absurd leads (by simp [leadOf, lead])
  | item :: items, [], later, last, same => by
    obtain ⟨head, tail, word, leads⟩ := dumpsChars_lead item
    rw [dumpsItems_cons, word] at same
    rw [(List.head_eq_of_cons_eq same : head = ']')] at leads
    cases item with
    | bool value => cases value <;> exact absurd leads (by decide)
    | _ => exact absurd leads (by simp [leadOf, lead])
  | item :: items, other :: others, later, last, same => by
    rw [dumpsItems_cons, dumpsItems_cons, List.append_assoc, List.append_assoc] at same
    obtain ⟨heads, rest⟩ := dumpsChars_split item other (moreItems_ends _ _) (moreItems_ends _ _) same
    cases items with
    | nil =>
      cases others with
      | nil => exact ⟨by rw [heads], List.append_cancel_left rest⟩
      | cons => exact absurd (List.head_eq_of_cons_eq rest) (by decide)
    | cons next items =>
      cases others with
      | nil => exact absurd (List.head_eq_of_cons_eq rest) (by decide)
      | cons another others =>
        obtain ⟨tails, ends⟩ := dumpsItems_split (next :: items) (another :: others)
          (List.tail_eq_of_cons_eq rest)
        exact ⟨by rw [heads, tails], ends⟩

theorem dumpsFields_split : ∀ (first second : List (String × Json)) {later last : List Char},
    dumpsFields first ++ later = dumpsFields second ++ last → first = second ∧ later = last
  | [], [], later, last, same => ⟨rfl, List.append_cancel_left same⟩
  | [], (key, value) :: fields, later, last, same => by
    rw [dumpsFields_cons] at same
    exact absurd (List.head_eq_of_cons_eq same : '}' = '"') (by decide)
  | (key, value) :: fields, [], later, last, same => by
    rw [dumpsFields_cons] at same
    exact absurd (List.head_eq_of_cons_eq same : '"' = '}') (by decide)
  | (key, value) :: fields, (other, document) :: others, later, last, same => by
    rw [dumpsFields_cons, dumpsFields_cons, List.append_assoc, List.append_assoc] at same
    obtain ⟨keys, values⟩ := quote_prefixCode same
    have tails : dumpsChars value ++ (moreFields fields ++ later) =
        dumpsChars document ++ (moreFields others ++ last) := by
      simpa using values
    obtain ⟨documents, rest⟩ := dumpsChars_split value document (moreFields_ends _ _) (moreFields_ends _ _) tails
    cases fields with
    | nil =>
      cases others with
      | nil => exact ⟨by rw [keys, documents], List.append_cancel_left rest⟩
      | cons => exact absurd (List.head_eq_of_cons_eq rest) (by decide)
    | cons next fields =>
      cases others with
      | nil => exact absurd (List.head_eq_of_cons_eq rest) (by decide)
      | cons another others =>
        obtain ⟨tails, ends⟩ := dumpsFields_split (next :: fields) (another :: others)
          (List.tail_eq_of_cons_eq rest)
        exact ⟨by rw [keys, documents, tails], ends⟩

end

/-- `json.dumps` writes different texts for different documents. -/
theorem dumpsChars_injective {first second : Json} (same : first.dumpsChars = second.dumpsChars) :
    first = second := by
  have ends : EndsNumber [] := fun c head => by cases head
  have extended : first.dumpsChars ++ [] = second.dumpsChars ++ [] := by rw [same]
  exact (dumpsChars_split first second ends ends extended).1

end SmartAo.Foundation.Json
