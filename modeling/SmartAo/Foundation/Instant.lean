import Mathlib.Data.Int.Order.Basic
import Mathlib.Data.Nat.Log
import Mathlib.Data.Nat.Size
import Mathlib.Tactic.Linarith

namespace SmartAo.Foundation

/-- Year, month and day of a day count from the epoch, in the proleptic Gregorian calendar. -/
def civilFromDays (days : Int) : Int × Int × Int :=
  let shifted := days + 719468
  let era := shifted / 146097
  let dayOfEra := shifted % 146097
  let yearOfEra := (dayOfEra - dayOfEra / 1460 + dayOfEra / 36524 - dayOfEra / 146096) / 365
  let dayOfYear := dayOfEra - (365 * yearOfEra + yearOfEra / 4 - yearOfEra / 100)
  let shiftedMonth := (5 * dayOfYear + 2) / 153
  let day := dayOfYear - (153 * shiftedMonth + 2) / 5 + 1
  let month := if shiftedMonth < 10 then shiftedMonth + 3 else shiftedMonth - 9
  (yearOfEra + era * 400 + (if month ≤ 2 then 1 else 0), month, day)

def padded (width : Nat) (value : Int) : String :=
  let digits := toString value
  String.ofList (List.replicate (width - digits.length) '0') ++ digits

/-- `datetime.isoformat()` of a UTC instant given in microseconds from the epoch. -/
def isoformat (instant : Int) : String :=
  let microsecond := instant % 1000000
  let seconds := instant / 1000000
  let (year, month, day) := civilFromDays (seconds / 86400)
  let time := seconds % 86400
  padded 4 year ++ "-" ++ padded 2 month ++ "-" ++ padded 2 day ++ "T" ++ padded 2 (time / 3600) ++
    ":" ++ padded 2 (time / 60 % 60) ++ ":" ++ padded 2 (time % 60) ++
    (if microsecond = 0 then "" else "." ++ padded 6 microsecond) ++ "+00:00"

example : isoformat 1772368496000250 = "2026-03-01T12:34:56.000250+00:00" := by decide +kernel

/-- The quotient rounded to the nearest natural number, ties to the even one. -/
def roundHalfEven (numerator denominator : Nat) : Nat :=
  let quotient := numerator / denominator
  let remainder := numerator % denominator
  if 2 * remainder < denominator ∨ (2 * remainder = denominator ∧ quotient % 2 = 0) then quotient
  else quotient + 1

/-- `int(instant.timestamp())`: the seconds of an instant in microseconds, as a double of 53 bits, truncated. -/
def timestampSeconds (instant : Int) : Int :=
  let scale := 2 ^ (53 - Nat.size (instant.natAbs / 1000000))
  let whole := roundHalfEven (instant.natAbs * scale) 1000000 / scale
  if instant < 0 then -(whole : Int) else whole

example : timestampSeconds 1772368496999999 = 1772368496 := by decide +kernel

/-- In the twenty-sixth century a double holds no microsecond of an instant. -/
example : timestampSeconds 17179869184999999 = 17179869185 := by decide +kernel

theorem roundHalfEven_le {numerator denominator bound : Nat} (positive : 0 < denominator)
    (below : numerator ≤ bound * denominator) : roundHalfEven numerator denominator ≤ bound := by
  have divided := Nat.div_add_mod numerator denominator
  have small := Nat.mod_lt numerator positive
  have quotient : numerator / denominator ≤ bound := Nat.div_le_of_le_mul (by rw [Nat.mul_comm]; exact below)
  unfold roundHalfEven
  dsimp only
  split
  · exact quotient
  · rename_i up
    rcases Nat.lt_or_ge (numerator / denominator) bound with less | equal
    · exact less
    · have same : numerator / denominator = bound := Nat.le_antisymm quotient equal
      rw [same, Nat.mul_comm] at divided
      have nothing : numerator % denominator = 0 := by omega
      exact absurd (.inl (by omega)) up

/-- The whole seconds of an instant are no further from the epoch than a whole second beyond it. -/
theorem timestampSeconds_natAbs_le {instant : Int} {bound : Nat} (within : instant.natAbs ≤ bound * 1000000) :
    (timestampSeconds instant).natAbs ≤ bound := by
  have scaled : roundHalfEven (instant.natAbs * 2 ^ (53 - Nat.size (instant.natAbs / 1000000))) 1000000 ≤
      bound * 2 ^ (53 - Nat.size (instant.natAbs / 1000000)) := by
    refine roundHalfEven_le (by omega) ?_
    rw [Nat.mul_right_comm]
    exact Nat.mul_le_mul_right _ within
  rw [Nat.mul_comm bound] at scaled
  have whole := Nat.div_le_of_le_mul scaled
  unfold timestampSeconds
  dsimp only
  split
  · rw [Int.natAbs_neg, Int.natAbs_natCast]
    exact whole
  · rw [Int.natAbs_natCast]
    exact whole

end SmartAo.Foundation
