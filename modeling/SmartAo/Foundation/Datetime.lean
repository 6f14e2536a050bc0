import SmartAo.Foundation.Instant
import SmartAo.Foundation.Text
import Mathlib.Data.Nat.Digits.Defs
import Mathlib.Tactic.Ring
import Mathlib.Data.String.Basic

namespace SmartAo.Foundation

def isLeap (year : Int) : Bool := year % 4 = 0 ∧ (year % 100 ≠ 0 ∨ year % 400 = 0)

def daysInMonth (year month : Int) : Int :=
  if month = 2 then if isLeap year then 29 else 28
  else if month = 4 ∨ month = 6 ∨ month = 9 ∨ month = 11 then 30 else 31

/-- The day count from the epoch of a date, in the proleptic Gregorian calendar. -/
def daysFromCivil (year month day : Int) : Int :=
  let shifted := if month ≤ 2 then year - 1 else year
  let yearOfEra := shifted % 400
  let dayOfYear := (153 * (if 2 < month then month - 3 else month + 9) + 2) / 5 + day - 1
  146097 * (shifted / 400) + 365 * yearOfEra + yearOfEra / 4 - yearOfEra / 100 + dayOfYear - 719468

/-- A date of the years 1 to 9999. -/
def dateDays? (year month day : Int) : Option Int :=
  if (1 ≤ year ∧ year ≤ 9999) ∧ (1 ≤ month ∧ month ≤ 12) ∧ 1 ≤ day ∧ day ≤ daysInMonth year month then
    some (daysFromCivil year month day)
  else none

/-- The day of an ISO week; a year has a week 53 when it starts on a Thursday, or on a Wednesday and is a leap year. -/
def weekDays? (year week day : Int) : Option Int :=
  let first := daysFromCivil year 1 1
  let weekday := (first + 3) % 7
  if 1 ≤ week ∧ (week ≤ 52 ∨ (week = 53 ∧ (weekday = 3 ∨ (weekday = 2 ∧ isLeap year)))) ∧ 1 ≤ day ∧ day ≤ 7 then
    some (first - weekday + (if 3 < weekday then 7 else 0) + 7 * (week - 1) + day - 1)
  else none

/-- The year of a cycle of four years, from the day of the cycle. -/
def yearOfCycle (day : Int) : Int := if day = 1460 then 3 else day / 365

theorem yearOfCycle_bounds {day : Int} (range : 0 ≤ day ∧ day ≤ 1460) : 0 ≤ yearOfCycle day ∧ yearOfCycle day ≤ 3 ∧
    365 * yearOfCycle day ≤ day ∧ day ≤ 365 * yearOfCycle day + 365 ∧
    (day = 365 * yearOfCycle day + 365 → day = 1460 ∧ yearOfCycle day = 3) := by
  unfold yearOfCycle
  split <;> omega

theorem dayOfEra_century {dayOfEra century cycle day : Int} (cycles : 0 ≤ cycle ∧ cycle ≤ 24)
    (days : 0 ≤ day ∧ day ≤ 1460) (last : cycle = 24 → day = 1460 → century = 3)
    (centuries : 0 ≤ century ∧ century ≤ 3)
    (split : dayOfEra = 36524 * century + 1461 * cycle + day) :
    dayOfEra / 36524 - dayOfEra / 146096 = century := by
  have bound : 0 ≤ 1461 * cycle + day ∧ (1461 * cycle + day < 36524 ∨ dayOfEra = 146096) := by omega
  rcases bound with ⟨low, short | final⟩
  · have whole : dayOfEra / 36524 = century := by omega
    have none : dayOfEra / 146096 = 0 := by omega
    rw [whole, none, Int.sub_zero]
  · have third : century = 3 := by omega
    rw [final, third]
    decide

/-- The year of an era from its centuries, cycles of four years and years. -/
theorem yearOfEra_eq {dayOfEra century cycle day : Int} (centuries : 0 ≤ century ∧ century ≤ 3)
    (cycles : 0 ≤ cycle ∧ cycle ≤ 24) (days : 0 ≤ day ∧ day ≤ 1460)
    (last : cycle = 24 → day = 1460 → century = 3)
    (split : dayOfEra = 36524 * century + 1461 * cycle + day) :
    (dayOfEra - dayOfEra / 1460 + dayOfEra / 36524 - dayOfEra / 146096) / 365 =
      100 * century + 4 * cycle + yearOfCycle day := by
  have whole := dayOfEra_century cycles days last centuries split
  obtain ⟨low, high, below, above, ends⟩ := yearOfCycle_bounds days
  generalize yearOfCycle day = year at *
  generalize dayOfEra / 36524 = one at *
  generalize dayOfEra / 146096 = two at *
  by_cases late : 1460 ≤ 24 * century + cycle + day
  · have quarters : dayOfEra / 1460 = 25 * century + cycle + 1 := by omega
    rw [quarters]
    omega
  · have quarters : dayOfEra / 1460 = 25 * century + cycle := by omega
    rw [quarters]
    omega

theorem era_split {dayOfEra : Int} (inside : 0 ≤ dayOfEra ∧ dayOfEra < 146097) :
    ∃ century cycle day, (0 ≤ century ∧ century ≤ 3) ∧ (0 ≤ cycle ∧ cycle ≤ 24) ∧ (0 ≤ day ∧ day ≤ 1460) ∧
      (cycle = 24 → day = 1460 → century = 3) ∧ dayOfEra = 36524 * century + 1461 * cycle + day := by
  have centuries : ∃ century rest, (0 ≤ century ∧ century ≤ 3) ∧ dayOfEra = 36524 * century + rest ∧
      (0 ≤ rest ∧ rest ≤ 36524) ∧ (rest = 36524 → century = 3) := by
    by_cases final : dayOfEra = 146096
    · exact ⟨3, 36524, by omega⟩
    · exact ⟨dayOfEra / 36524, dayOfEra % 36524, by omega⟩
  obtain ⟨century, rest, range, split, bound, last⟩ := centuries
  exact ⟨century, rest / 1461, rest % 1461, range, by omega, by omega, by omega, by omega⟩

/-- The month and the day of a day of a year that starts in March. -/
def marchDate (dayOfYear : Int) : Int × Int :=
  let shiftedMonth := (5 * dayOfYear + 2) / 153
  (if shiftedMonth < 10 then shiftedMonth + 3 else shiftedMonth - 9, dayOfYear - (153 * shiftedMonth + 2) / 5 + 1)

theorem leap_of_ends {era century cycle : Int} (cycles : 0 ≤ cycle ∧ cycle ≤ 24)
    (last : cycle = 24 → century = 3) : isLeap (100 * century + 4 * cycle + 3 + era * 400 + 1) = true := by
  rw [isLeap, decide_eq_true_eq]
  have quarter : (100 * century + 4 * cycle + 3 + era * 400 + 1) % 4 = 0 := by omega
  refine ⟨quarter, ?_⟩
  by_cases final : cycle = 24
  · have third := last final
    right
    omega
  · left
    omega

theorem yearOfEra_counts {century cycle day : Int} (centuries : 0 ≤ century ∧ century ≤ 3)
    (cycles : 0 ≤ cycle ∧ cycle ≤ 24) (range : 0 ≤ day ∧ day ≤ 1460) :
    (0 ≤ 100 * century + 4 * cycle + yearOfCycle day ∧ 100 * century + 4 * cycle + yearOfCycle day < 400) ∧
      (100 * century + 4 * cycle + yearOfCycle day) / 4 = 25 * century + cycle ∧
      (100 * century + 4 * cycle + yearOfCycle day) / 100 = century := by
  obtain ⟨low, high, _⟩ := yearOfCycle_bounds range
  generalize yearOfCycle day = year at *
  exact ⟨by omega, by omega, by omega⟩

theorem civil_parts (days : Int) : ∃ era yearOfEra dayOfYear, (0 ≤ yearOfEra ∧ yearOfEra < 400) ∧
    (0 ≤ dayOfYear ∧ dayOfYear ≤ 365) ∧ (dayOfYear = 365 → isLeap (yearOfEra + era * 400 + 1) = true) ∧
    days + 719468 = 146097 * era + (365 * yearOfEra + yearOfEra / 4 - yearOfEra / 100) + dayOfYear ∧
    civilFromDays days = (yearOfEra + era * 400 + (if (marchDate dayOfYear).1 ≤ 2 then 1 else 0),
      (marchDate dayOfYear).1, (marchDate dayOfYear).2) := by
  have inside : 0 ≤ (days + 719468) % 146097 ∧ (days + 719468) % 146097 < 146097 := by omega
  obtain ⟨century, cycle, day, centuries, cycles, range, last, split⟩ := era_split inside
  obtain ⟨years, quarters, hundreds⟩ := yearOfEra_counts centuries cycles range
  obtain ⟨_, _, below, above, ends⟩ := yearOfCycle_bounds range
  have dayOfYear : (days + 719468) % 146097 - (365 * (100 * century + 4 * cycle + yearOfCycle day) +
      (25 * century + cycle) - century) = day - 365 * yearOfCycle day := by
    rw [split]
    ring
  refine ⟨(days + 719468) / 146097, 100 * century + 4 * cycle + yearOfCycle day, day - 365 * yearOfCycle day, years,
    ⟨by omega, by omega⟩, ?_, ?_, ?_⟩
  · intro leap
    have final := ends (by omega)
    rw [final.2]
    exact leap_of_ends cycles fun fourth => last fourth final.1
  · have whole := Int.mul_ediv_add_emod (days + 719468) 146097
    rw [quarters, hundreds]
    conv_lhs => rw [← whole, split]
    ring
  · unfold civilFromDays marchDate
    simp only [yearOfEra_eq centuries cycles range last split, quarters, hundreds, dayOfYear]

theorem marchDate_bounds {dayOfYear : Int} (inside : 0 ≤ dayOfYear ∧ dayOfYear ≤ 365) :
    (1 ≤ (marchDate dayOfYear).1 ∧ (marchDate dayOfYear).1 ≤ 12) ∧ 1 ≤ (marchDate dayOfYear).2 ∧
      (∀ year, (dayOfYear = 365 → isLeap year = true) →
        (marchDate dayOfYear).2 ≤ daysInMonth year (marchDate dayOfYear).1) ∧
      (153 * (if 2 < (marchDate dayOfYear).1 then (marchDate dayOfYear).1 - 3 else (marchDate dayOfYear).1 + 9) + 2) / 5 +
        (marchDate dayOfYear).2 - 1 = dayOfYear := by
  have table : ∀ day < 366, (1 ≤ (marchDate (day : Nat)).1 ∧ (marchDate (day : Nat)).1 ≤ 12) ∧
      1 ≤ (marchDate (day : Nat)).2 ∧
      (∀ leap : Bool, ((day : Int) = 365 → leap = true) → (marchDate (day : Nat)).2 ≤
        if (marchDate (day : Nat)).1 = 2 then if leap then 29 else 28
        else if (marchDate (day : Nat)).1 = 4 ∨ (marchDate (day : Nat)).1 = 6 ∨ (marchDate (day : Nat)).1 = 9 ∨
          (marchDate (day : Nat)).1 = 11 then 30 else 31) ∧
      (153 * (if 2 < (marchDate (day : Nat)).1 then (marchDate (day : Nat)).1 - 3 else (marchDate (day : Nat)).1 + 9) +
        2) / 5 + (marchDate (day : Nat)).2 - 1 = (day : Nat) := by decide +kernel
  obtain ⟨day, rfl⟩ := Int.eq_ofNat_of_zero_le inside.1
  obtain ⟨months, first, lengths, back⟩ := table day (by omega)
  exact ⟨months, first, fun year leap => lengths (isLeap year) leap, back⟩

/-- A day count and its date name each other. -/
theorem civilFromDays_valid (days : Int) : (1 ≤ (civilFromDays days).2.1 ∧ (civilFromDays days).2.1 ≤ 12) ∧
    1 ≤ (civilFromDays days).2.2 ∧
    (civilFromDays days).2.2 ≤ daysInMonth (civilFromDays days).1 (civilFromDays days).2.1 ∧
    daysFromCivil (civilFromDays days).1 (civilFromDays days).2.1 (civilFromDays days).2.2 = days := by
  obtain ⟨era, yearOfEra, dayOfYear, years, range, leap, count, date⟩ := civil_parts days
  obtain ⟨months, first, lengths, back⟩ := marchDate_bounds range
  rw [date]
  refine ⟨months, first, ?_, ?_⟩
  · apply lengths
    intro whole
    have february : (marchDate dayOfYear).1 ≤ 2 := by rw [whole]; decide
    rw [if_pos february]
    exact leap whole
  · generalize (marchDate dayOfYear).1 = month at months back
    generalize (marchDate dayOfYear).2 = day at back
    have shifted : (if month ≤ 2 then (yearOfEra + era * 400 + if month ≤ 2 then 1 else 0) - 1
        else yearOfEra + era * 400 + if month ≤ 2 then 1 else 0) = yearOfEra + era * 400 := by
      split <;> omega
    have within : (yearOfEra + era * 400) % 400 = yearOfEra := by omega
    have era' : (yearOfEra + era * 400) / 400 = era := by omega
    unfold daysFromCivil
    simp only [shifted, within, era']
    omega

theorem marchDate_early {dayOfYear : Int} (inside : 0 ≤ dayOfYear ∧ dayOfYear ≤ 365) :
    (marchDate dayOfYear).1 ≤ 2 ↔ 306 ≤ dayOfYear := by
  have table : ∀ day < 366, (marchDate (day : Nat)).1 ≤ 2 ↔ (306 : Int) ≤ (day : Nat) := by decide +kernel
  obtain ⟨day, rfl⟩ := Int.eq_ofNat_of_zero_le inside.1
  exact table day (by omega)

theorem civilFromDays_year {days : Int} (inside : -719162 ≤ days ∧ days < 2932897) :
    1 ≤ (civilFromDays days).1 ∧ (civilFromDays days).1 ≤ 9999 := by
  obtain ⟨era, yearOfEra, dayOfYear, years, range, leap, count, date⟩ := civil_parts days
  have month := marchDate_early range
  rw [date]
  dsimp only
  by_cases early : (marchDate dayOfYear).1 ≤ 2
  · rw [if_pos early]
    have late := month.mp early
    omega
  · rw [if_neg early]
    have late := month.not.mp early
    omega

/-- A moment on a clock in microseconds from the epoch, of the years 1 to 9999; an aware one has the offset of the
    clock from UTC, less than a day. -/
structure Datetime where
  clock : Int
  offset : Option Int
  representable : -62135596800000000 ≤ clock ∧ clock < 253402300800000000
  bounded : ∀ shift ∈ offset, -86400000000 < shift ∧ shift < 86400000000
deriving DecidableEq

namespace Datetime

def of? (clock : Int) (offset : Option Int) : Option Datetime :=
  if representable : -62135596800000000 ≤ clock ∧ clock < 253402300800000000 then
    if bounded : ∀ shift ∈ offset, -86400000000 < shift ∧ shift < 86400000000 then
      some ⟨clock, offset, representable, bounded⟩
    else none
  else none

/-- Hours and minutes, and the seconds and microseconds that are asked for or not zero. -/
def fieldChars (always : Bool) (micros : Nat) : List Char :=
  (padded 2 (micros / 3600000000 : Nat)).toList ++ ':' :: (padded 2 (micros / 60000000 % 60 : Nat)).toList ++
    if always = false ∧ micros % 60000000 = 0 then []
    else ':' :: (padded 2 (micros / 1000000 % 60 : Nat)).toList ++
      if micros % 1000000 = 0 then [] else '.' :: (padded 6 (micros % 1000000 : Nat)).toList

def dateChars (days : Int) : List Char :=
  let (year, month, day) := civilFromDays days
  (padded 4 year).toList ++ '-' :: (padded 2 month).toList ++ '-' :: (padded 2 day).toList

def offsetChars (shift : Int) : List Char := (if shift < 0 then '-' else '+') :: fieldChars false shift.natAbs

/-- `datetime.isoformat`. -/
def isoformat (moment : Datetime) : List Char :=
  dateChars (moment.clock / 86400000000) ++ 'T' :: fieldChars true (moment.clock % 86400000000).toNat ++
    moment.offset.elim [] offsetChars

/-- A number of that many digits, and the characters after it. -/
def takeDigits (count : Nat) (text : List Char) : Option (Nat × List Char) :=
  if (text.take count).length = count ∧ ∀ c ∈ text.take count, c.isDigit = true then
    some (Nat.ofDigitChars 10 (text.take count) 0, text.drop count)
  else none

/-- Where the date ends. A text that starts as a week date is read as one without a day when digits follow its
    hyphen, or when an odd number of digits follows its week. -/
def dateLength (text : List Char) : Nat :=
  if text.length = 7 then 7
  else if text[4]? = some '-' then
    if text[5]? = some 'W' then if text[8]? = some '-' ∧ ¬ text[10]?.any Char.isDigit then 10 else 8
    else 10
  else if text[4]? = some 'W' then
    let digits := ((text.drop 7).takeWhile Char.isDigit).length
    if digits < 2 then 7 + digits else if digits % 2 = 1 then 7 else 8
  else 8

/-- The text after a hyphen that has to stand there. -/
def afterHyphen (hyphen : Bool) (text : List Char) : Option (List Char) :=
  if hyphen then if text.head? = some '-' then some text.tail else none else some text

/-- The week and the day that end a week date; the day is Monday when there is none. -/
def parseWeek (year : Nat) (hyphen : Bool) (text : List Char) : Option Int := do
  let (week, rest) ← takeDigits 2 text
  if rest = [] then weekDays? year week 1
  else
    let rest ← afterHyphen hyphen rest
    let (day, rest) ← takeDigits 1 rest
    guard (rest = [])
    weekDays? year week day

/-- `YYYY-MM-DD`, `YYYYMMDD`, or a week date with or without hyphens, as a day count. -/
def parseDate (text : List Char) : Option Int := do
  let (year, rest) ← takeDigits 4 text
  let hyphen : Bool := rest.head? = some '-'
  let rest := if hyphen then rest.tail else rest
  if rest.head? = some 'W' then parseWeek year hyphen rest.tail
  else
    let (month, rest) ← takeDigits 2 rest
    let rest ← afterHyphen hyphen rest
    let (day, rest) ← takeDigits 2 rest
    guard (rest = [])
    dateDays? year month day

/-- A field of a time after its hour: absent at the end, after a colon where the time has colons. -/
def nextField (colon : Bool) (text : List Char) : Option (Nat × List Char) :=
  match colon, text with
  | _, [] => some (0, [])
  | true, ':' :: rest => takeDigits 2 rest
  | true, _ => none
  | false, rest => takeDigits 2 rest

/-- The microseconds of a fraction; digits after the sixth are dropped. -/
def parseFraction (text : List Char) : Option Nat :=
  match text with
  | [] => some 0
  | mark :: digits =>
    if (mark = '.' ∨ mark = ',') ∧ digits ≠ [] ∧ ∀ c ∈ digits, c.isDigit = true then
      some (Nat.ofDigitChars 10 (digits.take 6) 0 * 10 ^ (6 - (digits.take 6).length))
    else none

structure Fields where
  hour : Nat
  minute : Nat
  second : Nat
  microsecond : Nat

def Fields.micros (fields : Fields) : Nat :=
  3600000000 * fields.hour + 60000000 * fields.minute + 1000000 * fields.second + fields.microsecond

/-- `HH[:MM[:SS[.ffffff]]]`, or the same without colons. -/
def parseFields (text : List Char) : Option Fields := do
  let (hour, rest) ← takeDigits 2 text
  let colon : Bool := rest.head? = some ':'
  let (minute, rest) ← nextField colon rest
  let (second, rest) ← nextField colon rest
  let microsecond ← parseFraction rest
  return ⟨hour, minute, second, microsecond⟩

def startsZone (c : Char) : Bool := c == '+' || c == '-' || c == 'Z'

/-- The offset that ends a time, if there is one. -/
def parseZone (text : List Char) : Option (Option Int) :=
  match text with
  | [] => some none
  | ['Z'] => some (some 0)
  | '+' :: rest => (parseFields rest).map fun fields => some fields.micros
  | '-' :: rest => (parseFields rest).map fun fields => some (-fields.micros)
  | _ => none

/-- `datetime.fromisoformat`. -/
def fromisoformat (text : List Char) : Option Datetime := do
  guard (7 ≤ text.length)
  let days ← parseDate (text.take (dateLength text))
  match text.drop (dateLength text) with
  | [] => of? (86400000000 * days) none
  | _ :: time => do
    let fields ← parseFields (time.takeWhile fun c => !startsZone c)
    guard (fields.hour < 24 ∧ fields.minute < 60 ∧ fields.second < 60)
    let offset ← parseZone (time.dropWhile fun c => !startsZone c)
    of? (86400000000 * days + fields.micros) offset

example : (fromisoformat "2026-03-01T12:34:56.000250+00:00".toList).map Datetime.isoformat =
    some "2026-03-01T12:34:56.000250+00:00".toList := by decide +kernel

example : (fromisoformat "2026W097 1234-0100".toList).map Datetime.isoformat =
    some "2026-03-01T12:34:00-01:00".toList := by decide +kernel

section Parse

variable {width number : Nat} {rest : List Char}

theorem padded_toList : (padded width (number : Int)).toList =
    List.replicate (width - (Nat.toDigits 10 number).length) '0' ++ Nat.toDigits 10 number := by
  have digits : (toString (number : Int)).toList = Nat.toDigits 10 number := by
    have same : toString (number : Int) = number.repr := rfl
    rw [same, Nat.repr_eq_ofList_toDigits, String.toList_ofList]
  have length : (toString (number : Int)).length = (Nat.toDigits 10 number).length := by
    rw [← String.length_toList, digits]
  rw [padded]
  simp only [String.toList_append, String.toList_ofList, digits, length]

theorem padded_length (positive : 0 < width) (bound : number < 10 ^ width) :
    (padded width (number : Int)).toList.length = width := by
  have short := Nat.toDigits_length 10 number width positive bound
  rw [padded_toList, List.length_append, List.length_replicate]
  omega

theorem padded_digits : ∀ c ∈ (padded width (number : Int)).toList, c.isDigit = true := by
  intro c member
  rw [padded_toList] at member
  rcases List.mem_append.mp member with zero | digit
  · rw [List.eq_of_mem_replicate zero]
    rfl
  · exact Nat.isDigit_of_mem_toDigits (by decide) (by decide) digit

theorem padded_value : Nat.ofDigitChars 10 (padded width (number : Int)).toList 0 = number := by
  rw [padded_toList, Nat.ofDigitChars_append, Nat.ofDigitChars_replicate_zero, Nat.mul_zero,
    Nat.ofDigitChars_ten_toDigits]

theorem takeDigits_padded (positive : 0 < width) (bound : number < 10 ^ width) :
    takeDigits width ((padded width (number : Int)).toList ++ rest) = some (number, rest) := by
  have length := padded_length positive bound
  have front : ((padded width (number : Int)).toList ++ rest).take width = (padded width (number : Int)).toList :=
    List.take_left' length
  have back : ((padded width (number : Int)).toList ++ rest).drop width = rest := List.drop_left' length
  rw [takeDigits, front, back, if_pos ⟨length, padded_digits⟩, padded_value]

theorem takeDigits_padded_end (positive : 0 < width) (bound : number < 10 ^ width) :
    takeDigits width (padded width (number : Int)).toList = some (number, []) := by
  have read : takeDigits width ((padded width (number : Int)).toList ++ []) = some (number, []) :=
    takeDigits_padded positive bound
  rwa [List.append_nil] at read

/-- The fields of a printed time. -/
def fieldsOf (micros : Nat) : Fields :=
  ⟨micros / 3600000000, micros / 60000000 % 60, micros / 1000000 % 60, micros % 1000000⟩

theorem fieldsOf_micros (micros : Nat) : (fieldsOf micros).micros = micros := by
  unfold fieldsOf Fields.micros
  dsimp only
  omega

theorem parseFraction_padded (bound : number < 1000000) :
    parseFraction ('.' :: (padded 6 (number : Int)).toList) = some number := by
  have length : (padded 6 (number : Int)).toList.length = 6 := padded_length (by decide) bound
  have some : (padded 6 (number : Int)).toList ≠ [] := by
    intro none
    rw [none] at length
    cases length
  rw [parseFraction, if_pos ⟨.inl rfl, some, padded_digits⟩, List.take_of_length_le (le_of_eq length), padded_value,
    length]
  simp

theorem parseFields_fieldChars {always : Bool} {micros : Nat} (bound : micros < 360000000000) :
    parseFields (fieldChars always micros) = some (fieldsOf micros) := by
  have hours : micros / 3600000000 < 10 ^ 2 := by omega
  have minutes : micros / 60000000 % 60 < 10 ^ 2 := by omega
  have seconds : micros / 1000000 % 60 < 10 ^ 2 := by omega
  unfold parseFields fieldChars
  rw [List.append_assoc, takeDigits_padded (by decide) hours]
  simp only [Option.bind_eq_bind, Option.bind_some, List.cons_append, List.head?_cons, decide_true]
  by_cases short : always = false ∧ micros % 60000000 = 0
  · have whole : fieldsOf micros = ⟨micros / 3600000000, micros / 60000000 % 60, 0, 0⟩ := by
      have zero := short.2
      have second : micros / 1000000 % 60 = 0 := by omega
      have micro : micros % 1000000 = 0 := by omega
      rw [fieldsOf, second, micro]
    rw [if_pos short, List.append_nil, whole]
    simp only [nextField, takeDigits_padded_end (by decide) minutes, Option.bind_some, parseFraction]
    rfl
  · rw [if_neg short]
    by_cases exact : micros % 1000000 = 0
    · rw [if_pos exact, List.append_nil]
      simp only [nextField, takeDigits_padded (by decide) minutes, takeDigits_padded_end (by decide) seconds,
        Option.bind_some, parseFraction]
      rw [fieldsOf, exact]
      rfl
    · rw [if_neg exact]
      simp only [nextField, takeDigits_padded (by decide) minutes, takeDigits_padded (by decide) seconds,
        Option.bind_some, parseFraction_padded (Nat.mod_lt _ (by decide))]
      rfl

/-- A printed date has ten characters; its year, month and day are digits between hyphens. -/
theorem dateChars_form {days : Int} (inside : -719162 ≤ days ∧ days < 2932897) : ∃ year month day : Nat,
    dateDays? year month day = some days ∧ year < 10 ^ 4 ∧ month < 10 ^ 2 ∧ day < 10 ^ 2 ∧
      dateChars days = (padded 4 (year : Int)).toList ++
        '-' :: ((padded 2 (month : Int)).toList ++ '-' :: (padded 2 (day : Int)).toList) := by
  obtain ⟨months, first, last, back⟩ := civilFromDays_valid days
  have years := civilFromDays_year inside
  have short : (civilFromDays days).2.2 ≤ 31 := by
    have longest : daysInMonth (civilFromDays days).1 (civilFromDays days).2.1 ≤ 31 := by
      unfold daysInMonth
      split_ifs <;> omega
    omega
  unfold dateChars
  generalize civilFromDays days = date at *
  obtain ⟨year, month, day⟩ := date
  dsimp only at months first last back years short ⊢
  obtain ⟨year, rfl⟩ := Int.eq_ofNat_of_zero_le (by omega : 0 ≤ year)
  obtain ⟨month, rfl⟩ := Int.eq_ofNat_of_zero_le (by omega : 0 ≤ month)
  obtain ⟨day, rfl⟩ := Int.eq_ofNat_of_zero_le (by omega : 0 ≤ day)
  refine ⟨year, month, day, ?_, by omega, by omega, by omega, ?_⟩
  · rw [dateDays?, if_pos ⟨years, months, first, last⟩, back]
  · simp only [List.append_assoc, List.cons_append]

theorem parseDate_dateChars {days : Int} (inside : -719162 ≤ days ∧ days < 2932897) :
    parseDate (dateChars days) = some days := by
  obtain ⟨year, month, day, named, years, months, dates, form⟩ := dateChars_form inside
  have length := padded_length (by decide) months
  have week : ((padded 2 (month : Int)).toList ++ '-' :: (padded 2 (day : Int)).toList).head? ≠ some 'W' := by
    rw [List.head?_append_of_ne_nil _ (List.ne_nil_of_length_pos (by omega))]
    intro letter
    have digit := padded_digits 'W' (List.mem_of_mem_head? letter)
    cases digit
  have ends := takeDigits_padded_end (by decide) dates
  unfold parseDate
  rw [form, takeDigits_padded (by decide) years]
  simp only [Option.bind_eq_bind, Option.bind_some, List.head?_cons, decide_true, if_true, List.tail_cons, week, if_false]
  rw [takeDigits_padded (by decide) months]
  simp only [Option.bind_some, afterHyphen, if_true, List.head?_cons, List.tail_cons, ends]
  exact named

theorem dateLength_dateChars {days : Int} (inside : -719162 ≤ days ∧ days < 2932897) (rest : List Char) :
    (dateChars days).length = 10 ∧ dateLength (dateChars days ++ rest) = 10 := by
  obtain ⟨year, month, day, _, years, months, dates, form⟩ := dateChars_form inside
  have yearLength := padded_length (by decide) years
  have monthLength := padded_length (by decide) months
  have dayLength := padded_length (by decide) dates
  have digits : ∀ c ∈ (padded 2 (month : Int)).toList, c.isDigit = true := padded_digits
  obtain ⟨y1, y2, y3, y4, yearForm⟩ := List.length_eq_four.mp yearLength
  obtain ⟨m1, m2, monthForm⟩ := List.length_eq_two.mp monthLength
  have plain : m1 ≠ 'W' := by
    rintro rfl
    rw [monthForm] at digits
    cases digits 'W' List.mem_cons_self
  rw [form, yearForm, monthForm]
  constructor
  · simp [dayLength]
  · simp [dateLength, dayLength, plain]

theorem fieldChars_all {holds : Char → Prop} (digit : ∀ c, c.isDigit = true → holds c) (colon : holds ':')
    (point : holds '.') {always : Bool} {micros : Nat} : ∀ c ∈ fieldChars always micros, holds c := by
  have digits {width number : Nat} : ∀ c ∈ (padded width (number : Int)).toList, holds c :=
    fun c member => digit c (padded_digits c member)
  unfold fieldChars
  refine List.forall_mem_append.mpr ⟨List.forall_mem_append.mpr ⟨digits, List.forall_mem_cons.mpr ⟨colon, digits⟩⟩, ?_⟩
  split
  · exact fun _ member => absurd member List.not_mem_nil
  · refine List.forall_mem_cons.mpr ⟨colon, List.forall_mem_append.mpr ⟨digits, ?_⟩⟩
    split
    · exact fun _ member => absurd member List.not_mem_nil
    · exact List.forall_mem_cons.mpr ⟨point, digits⟩

theorem fieldChars_plain {always : Bool} {micros : Nat} :
    ∀ c ∈ fieldChars always micros, (!startsZone c) = true := by
  have digits : ∀ c, c.isDigit = true → (!startsZone c) = true := by
    intro c digit
    have other : c ≠ '+' ∧ c ≠ '-' ∧ c ≠ 'Z' := by
      refine ⟨?_, ?_, ?_⟩ <;> rintro rfl <;> cases digit
    simp [startsZone, other]
  exact fieldChars_all digits (by decide) (by decide)

/-- The characters of a printed moment are digits and marks. -/
theorem isoformat_all {holds : Char → Prop} (digit : ∀ c, c.isDigit = true → holds c)
    (marks : ∀ c ∈ ['-', 'T', ':', '.', '+'], holds c) (moment : Datetime) : ∀ c ∈ moment.isoformat, holds c := by
  have fields {always : Bool} {micros : Nat} : ∀ c ∈ fieldChars always micros, holds c :=
    fieldChars_all digit (marks ':' (by decide)) (marks '.' (by decide))
  have digits {width number : Nat} : ∀ c ∈ (padded width (number : Int)).toList, holds c :=
    fun c member => digit c (padded_digits c member)
  have hyphen := marks '-' (by decide)
  obtain ⟨clock, offset, representable, bounded⟩ := moment
  obtain ⟨year, month, day, _, _, _, _, form⟩ := dateChars_form
    (by omega : -719162 ≤ clock / 86400000000 ∧ clock / 86400000000 < 2932897)
  have date : ∀ c ∈ dateChars (clock / 86400000000), holds c := by
    rw [form]
    exact List.forall_mem_append.mpr ⟨digits, List.forall_mem_cons.mpr ⟨hyphen, List.forall_mem_append.mpr ⟨digits,
      List.forall_mem_cons.mpr ⟨hyphen, digits⟩⟩⟩⟩
  have zone : ∀ c ∈ offset.elim [] offsetChars, holds c := by
    cases offset with
    | none => exact fun _ member => absurd member List.not_mem_nil
    | some shift =>
      refine List.forall_mem_cons.mpr ⟨?_, fields⟩
      split
      · exact hyphen
      · exact marks '+' (by decide)
  exact List.forall_mem_append.mpr ⟨List.forall_mem_append.mpr ⟨date, List.forall_mem_cons.mpr ⟨marks 'T' (by decide),
    fields⟩⟩, zone⟩

theorem parseZone_offsetChars {shift : Int} (bound : -86400000000 < shift ∧ shift < 86400000000) :
    parseZone (offsetChars shift) = some (some shift) := by
  have read : parseFields (fieldChars false shift.natAbs) = some (fieldsOf shift.natAbs) :=
    parseFields_fieldChars (by omega)
  unfold offsetChars
  by_cases negative : shift < 0
  · have value : (-((fieldsOf shift.natAbs).micros : Int)) = shift := by
      rw [fieldsOf_micros]
      omega
    rw [if_pos negative]
    simp only [parseZone, read, Option.map_some, value]
  · have value : ((fieldsOf shift.natAbs).micros : Int) = shift := by
      rw [fieldsOf_micros]
      omega
    rw [if_neg negative]
    simp only [parseZone, read, Option.map_some, value]

theorem offset_span (offset : Option Int) :
    ((offset.elim [] offsetChars).takeWhile fun c => !startsZone c) = [] ∧
      ((offset.elim [] offsetChars).dropWhile fun c => !startsZone c) = offset.elim [] offsetChars := by
  cases offset with
  | none => exact ⟨rfl, rfl⟩
  | some shift =>
    by_cases negative : shift < 0 <;> simp [offsetChars, negative, startsZone]

/-- Reading the text of a moment gives the moment back. -/
theorem fromisoformat_isoformat (moment : Datetime) : fromisoformat moment.isoformat = some moment := by
  obtain ⟨clock, offset, representable, bounded⟩ := moment
  have inside : -719162 ≤ clock / 86400000000 ∧ clock / 86400000000 < 2932897 := by omega
  obtain ⟨length, split⟩ := dateLength_dateChars inside
    ('T' :: fieldChars true (clock % 86400000000).toNat ++ offset.elim [] offsetChars)
  have text : isoformat ⟨clock, offset, representable, bounded⟩ = dateChars (clock / 86400000000) ++
      ('T' :: fieldChars true (clock % 86400000000).toNat ++ offset.elim [] offsetChars) := by
    rw [isoformat, List.append_assoc]
  have fields : parseFields (fieldChars true (clock % 86400000000).toNat) =
      some (fieldsOf (clock % 86400000000).toNat) := parseFields_fieldChars (by omega)
  have proper : (fieldsOf (clock % 86400000000).toNat).hour < 24 ∧ (fieldsOf (clock % 86400000000).toNat).minute < 60 ∧
      (fieldsOf (clock % 86400000000).toNat).second < 60 := by
    unfold fieldsOf
    dsimp only
    omega
  have zone : parseZone (offset.elim [] offsetChars) = some offset := by
    cases offset with
    | none => rfl
    | some shift => exact parseZone_offsetChars (bounded shift rfl)
  have whole : 86400000000 * (clock / 86400000000) + ((fieldsOf (clock % 86400000000).toNat).micros : Int) = clock := by
    rw [fieldsOf_micros]
    omega
  obtain ⟨taken, dropped⟩ := offset_span offset
  unfold fromisoformat
  rw [text, split, List.take_left' length, List.drop_left' length, parseDate_dateChars inside]
  have long : 7 ≤ (dateChars (clock / 86400000000) ++
      ('T' :: fieldChars true (clock % 86400000000).toNat ++ offset.elim [] offsetChars)).length := by
    rw [List.length_append, length]
    omega
  simp only [guard, if_pos long, Option.pure_def, Option.bind_eq_bind, Option.bind_some]
  simp only [List.cons_append, List.takeWhile_append_of_pos fieldChars_plain, List.dropWhile_append_of_pos fieldChars_plain,
    taken, dropped, List.append_nil, fields, Option.bind_some, if_pos proper, zone, whole]
  rw [of?, dif_pos representable, dif_pos bounded]

end Parse

end Datetime

end SmartAo.Foundation
