import SmartAo.Foundation.Text
import Mathlib.Algebra.Group.Nat.Defs
import Mathlib.Data.Nat.Basic

namespace SmartAo.Foundation

/-- A finite decimal number; zero keeps its sign. -/
structure Decimal where
  negative : Bool
  coefficient : Nat
  exponent : Int
deriving DecidableEq

/-- `digit` gives the value of a decimal digit. -/
def digitsValue (digit : Char → Option Nat) (chars : List Char) : Option Nat :=
  chars.foldlM (fun value c => (digit c).map (value * 10 + ·)) 0

def asciiDigit (c : Char) : Option Nat := if c.isDigit then some (c.toNat - 48) else none

def decimalLength (n : Nat) : Nat := (Nat.toDigits 10 n).length

/-- A quotient rounded to the nearest, ties away from zero. -/
def halfUp (n divisor : Nat) : Nat := if divisor ≤ 2 * (n % divisor) then n / divisor + 1 else n / divisor

/-- A quotient rounded to the nearest, ties to the even one. -/
def halfEven (n divisor : Nat) : Nat :=
  if divisor < 2 * (n % divisor) ∨ (divisor = 2 * (n % divisor) ∧ n / divisor % 2 = 1) then n / divisor + 1
  else n / divisor

def startsExponent (c : Char) : Bool := c = 'e' ∨ c = 'E'

/-- The exponent of a number, from its letter on. -/
def exponentValue (digit : Char → Option Nat) : List Char → Option Int
  | [] => some 0
  | _ :: '-' :: digits => if digits = [] then none else (digitsValue digit digits).map fun value => -(value : Int)
  | _ :: '+' :: digits => if digits = [] then none else (digitsValue digit digits).map fun value => (value : Int)
  | _ :: digits => if digits = [] then none else (digitsValue digit digits).map fun value => (value : Int)

namespace Decimal

/-- The exponent of the first digit. -/
def adjusted (number : Decimal) : Int := number.exponent + decimalLength number.coefficient - 1

/-- The numbers that can be built without rounding. -/
def representable (number : Decimal) : Bool :=
  -1999999999999999997 ≤ number.exponent ∧ number.adjusted ≤ 999999999999999999

/-- The finite number a text denotes. -/
def parse (digit : Char → Option Nat) (chars : List Char) : Option Decimal := do
  let text := (stripChars chars).filter (· ≠ '_')
  let negative : Bool := text.head? = some '-'
  let unsigned := if text.head? = some '-' ∨ text.head? = some '+' then text.tail else text
  let mantissa := unsigned.takeWhile fun c => !startsExponent c
  let whole := mantissa.takeWhile (· ≠ '.')
  let fraction := (mantissa.dropWhile (· ≠ '.')).tail
  guard (whole ++ fraction ≠ [])
  let coefficient ← digitsValue digit (whole ++ fraction)
  let exponent ← exponentValue digit (unsigned.dropWhile fun c => !startsExponent c)
  let number : Decimal := ⟨negative, coefficient, exponent - fraction.length⟩
  guard number.representable
  return number

/-- The digits of a number, without an exponent. -/
def unsigned (number : Decimal) : List Char :=
  match number.exponent with
  | .ofNat zeros => Nat.toDigits 10 (number.coefficient * 10 ^ zeros)
  | .negSucc places =>
    Nat.toDigits 10 (number.coefficient / 10 ^ (places + 1)) ++
      '.' :: (Nat.toDigits 10 (number.coefficient % 10 ^ (places + 1))).leftpad (places + 1) '0'

/-- `format(number, "f")`. -/
def plain (number : Decimal) : List Char :=
  if number.negative then '-' :: number.unsigned else number.unsigned

/-- Zero is not below zero, whatever its sign. -/
def belowZero (number : Decimal) : Bool := number.negative && number.coefficient != 0

def ofNat (n : Nat) : Decimal := ⟨false, n, 0⟩

/-- A number rounded to 28 digits, ties to even; an exponent above the context's overflows.
    A number below the context's smallest one stays as it is: its integer is 0 all the same. -/
def rounded (number : Decimal) : Option Decimal :=
  let excess := decimalLength number.coefficient - 28
  let number := { number with
    coefficient := halfEven number.coefficient (10 ^ excess), exponent := number.exponent + excess }
  if number.coefficient ≠ 0 ∧ 999999 < number.adjusted then none else some number

def multiply (first second : Decimal) : Option Decimal :=
  rounded ⟨first.negative != second.negative, first.coefficient * second.coefficient,
    first.exponent + second.exponent⟩

/-- The integer a number rounds to, without its sign. -/
def magnitude (number : Decimal) : Nat :=
  match number.exponent with
  | .ofNat zeros => number.coefficient * 10 ^ zeros
  | .negSucc places => halfUp number.coefficient (10 ^ (places + 1))

/-- `int(number.to_integral_value(rounding=ROUND_HALF_UP))`. -/
def integral (number : Decimal) : Int := if number.negative then -number.magnitude else number.magnitude

end Decimal

example : (Decimal.parse asciiDigit " +1_0.50e-1 ".toList).map (·.plain) = some "1.050".toList := by decide

example : (Decimal.parse asciiDigit "-0e5".toList).map (·.plain) = some "-0".toList := by decide

theorem toDigits_eq_append {n : Nat} (large : 10 ≤ n) :
    Nat.toDigits 10 n = Nat.toDigits 10 (n / 10) ++ [Nat.digitChar (n % 10)] :=
  Nat.toDigits_of_base_le (by decide) large

/-- A numeral starts with a zero only when it is the numeral of zero. -/
theorem toDigits_head (n : Nat) (positive : 0 < n) : (Nat.toDigits 10 n).head? ≠ some '0' := by
  induction n using Nat.strong_induction_on with
  | _ n ih =>
    by_cases small : n < 10
    · have digits : ∀ d < 10, 0 < d → [Nat.digitChar d].head? ≠ some '0' := by decide
      rw [Nat.toDigits_of_lt_base small]
      exact digits n small positive
    · rw [toDigits_eq_append (by omega), List.head?_append_of_ne_nil _ Nat.toDigits_ne_nil]
      exact ih (n / 10) (by omega) (by omega)

theorem toDigits_isDigit (n : Nat) : ∀ c ∈ Nat.toDigits 10 n, c.isDigit = true :=
  fun _ member => Nat.isDigit_of_mem_toDigits (by decide) (by decide) member

namespace Decimal

variable {number : Decimal}

/-- What follows the point of a number. -/
def Fraction (tail : List Char) : Prop :=
  tail = [] ∨ ∃ digits, tail = '.' :: digits ∧ digits ≠ [] ∧ ∀ c ∈ digits, c.isDigit = true

theorem fraction_leftpad (places n : Nat) : Fraction ('.' :: (Nat.toDigits 10 n).leftpad (places + 1) '0') := by
  refine .inr ⟨_, rfl, ?_, ?_⟩
  · intro empty
    have width := congrArg List.length empty
    rw [List.length_leftpad, List.length_nil] at width
    omega
  · intro c member
    rcases List.mem_append.mp member with zero | digit
    · rw [List.eq_of_mem_replicate zero]
      rfl
    · exact toDigits_isDigit _ c digit

/-- A number prints as a numeral and a fraction. -/
theorem unsigned_shape (number : Decimal) :
    ∃ whole tail, number.unsigned = Nat.toDigits 10 whole ++ tail ∧ Fraction tail := by
  unfold unsigned
  cases number.exponent with
  | ofNat zeros => exact ⟨_, [], (List.append_nil _).symm, .inl rfl⟩
  | negSucc places => exact ⟨_, _, rfl, fraction_leftpad places _⟩

theorem mem_unsigned {c : Char} (member : c ∈ number.unsigned) : c.isDigit = true ∨ c = '.' := by
  obtain ⟨whole, tail, shape, fraction⟩ := unsigned_shape number
  rw [shape, List.mem_append] at member
  rcases member with digit | later
  · exact .inl (toDigits_isDigit _ c digit)
  · rcases fraction with rfl | ⟨digits, rfl, _, all⟩
    · cases later
    · rcases List.mem_cons.mp later with point | digit
      · exact .inr point
      · exact .inl (all c digit)

theorem unsigned_ne_nil (number : Decimal) : number.unsigned ≠ [] := by
  obtain ⟨whole, tail, shape, _⟩ := unsigned_shape number
  rw [shape]
  exact List.append_ne_nil_of_left_ne_nil Nat.toDigits_ne_nil tail

theorem plain_ne_nil (number : Decimal) : number.plain ≠ [] := by
  rw [plain]
  split
  · exact List.cons_ne_nil _ _
  · exact unsigned_ne_nil number

theorem mem_plain {c : Char} (member : c ∈ number.plain) : c.isDigit = true ∨ c = '.' ∨ c = '-' := by
  rw [plain] at member
  split at member
  · rcases List.mem_cons.mp member with sign | later
    · exact .inr (.inr sign)
    · exact (mem_unsigned later).imp_right .inl
  · exact (mem_unsigned member).imp_right .inl

end Decimal

end SmartAo.Foundation
