import SmartAo.Foundation.Decimal
import Mathlib.Algebra.Order.Field.Power
import Mathlib.Data.List.TakeWhile
import Mathlib.Data.Rat.Floor
import Mathlib.Tactic.Ring
import Mathlib.Tactic.Linarith
import Mathlib.Tactic.FieldSimp
import Mathlib.Tactic.Positivity
import Mathlib.Tactic.NormNum

namespace SmartAo.Foundation

/-- The nearest integer, ties away from zero. -/
def roundHalfUp (x : ℚ) : ℤ := if 0 ≤ x then ⌊x + 1 / 2⌋ else -⌊-x + 1 / 2⌋

theorem roundHalfUp_intCast (n : ℤ) : roundHalfUp n = n := by
  unfold roundHalfUp
  split
  · rw [Int.floor_eq_iff]
    constructor <;> linarith
  · have whole : ⌊-(n : ℚ) + 1 / 2⌋ = -n := by
      rw [Int.floor_eq_iff]
      constructor <;> push_cast <;> linarith
    rw [whole, neg_neg]

theorem roundHalfUp_neg (x : ℚ) : roundHalfUp (-x) = -roundHalfUp x := by
  unfold roundHalfUp
  rcases lt_trichotomy x 0 with negative | rfl | positive
  · rw [if_pos (by linarith), if_neg (by linarith), neg_neg]
  · norm_num
  · rw [if_neg (by linarith), if_pos positive.le, neg_neg]

theorem roundHalfUp_nonneg {x : ℚ} (nonneg : 0 ≤ x) : 0 ≤ roundHalfUp x := by
  rw [roundHalfUp, if_pos nonneg, Int.floor_nonneg]
  linarith

/-- The quotient of two naturals rounded in integers and in rationals. -/
theorem halfUp_eq (n divisor : Nat) (positive : 0 < divisor) :
    (halfUp n divisor : ℤ) = roundHalfUp ((n : ℚ) / divisor) := by
  have below : (0 : ℚ) < divisor := by exact_mod_cast positive
  have nonneg : (0 : ℚ) ≤ (n : ℚ) / divisor := by positivity
  have parts : (n : ℚ) = divisor * (n / divisor : Nat) + (n % divisor : Nat) := by
    exact_mod_cast (Nat.div_add_mod n divisor).symm
  rw [roundHalfUp, if_pos nonneg, eq_comm, Int.floor_eq_iff, halfUp]
  generalize n / divisor = quotient at parts ⊢
  generalize remains : n % divisor = rest at parts ⊢
  have small : (rest : ℚ) < divisor := by exact_mod_cast remains ▸ Nat.mod_lt n positive
  have split : (n : ℚ) / divisor = quotient + rest / divisor := by
    rw [parts]
    field_simp
  have bound : (rest : ℚ) / divisor < 1 := by
    rw [div_lt_one below]
    exact small
  rw [split]
  by_cases up : divisor ≤ 2 * rest
  · have half : (1 : ℚ) / 2 ≤ rest / divisor := by
      have doubled : (divisor : ℚ) ≤ 2 * rest := by exact_mod_cast up
      rw [div_le_div_iff₀ (by norm_num) below]
      linarith
    rw [if_pos up]
    constructor <;> push_cast <;> linarith
  · have half : (rest : ℚ) / divisor < 1 / 2 := by
      have doubled : 2 * (rest : ℚ) < divisor := by exact_mod_cast not_le.mp up
      rw [div_lt_div_iff₀ below (by norm_num)]
      linarith
    have fraction : (0 : ℚ) ≤ rest / divisor := by positivity
    rw [if_neg up]
    constructor <;> push_cast <;> linarith

section Digits

variable {digit : Char → Option Nat}

/-- The digits of a numeral, read after a value. -/
def digitsFrom (digit : Char → Option Nat) (value : Nat) (chars : List Char) : Option Nat :=
  chars.foldlM (fun value c => (digit c).map (value * 10 + ·)) value

theorem digitsFrom_append (value : Nat) (first second : List Char) :
    digitsFrom digit value (first ++ second) =
      (digitsFrom digit value first).bind fun read => digitsFrom digit read second :=
  List.foldlM_append

theorem digitChar_value {d : Nat} (small : d < 10) : asciiDigit (Nat.digitChar d) = some d := by
  revert d
  decide

theorem asciiDigit_lt {c : Char} (its : c.isDigit = true) : c.toNat < 128 := by
  have bounds : 48 ≤ c.toNat ∧ c.toNat ≤ 57 := Char.isDigit_iff_toNat.mp its
  omega

/-- A numeral of `n` read after a value shifts the value by its length. -/
theorem digitsFrom_toDigits (ascii : ∀ c, c.toNat < 128 → digit c = asciiDigit c) (value n : Nat) :
    digitsFrom digit value (Nat.toDigits 10 n) = some (value * 10 ^ (Nat.toDigits 10 n).length + n) := by
  have single (read d : Nat) (small : d < 10) : digitsFrom digit read [Nat.digitChar d] = some (read * 10 + d) := by
    have known : digit (Nat.digitChar d) = some d := by
      have its : (Nat.digitChar d).isDigit = true := by
        revert d
        decide
      rw [ascii _ (asciiDigit_lt its), digitChar_value small]
    simp [digitsFrom, known]
  induction n using Nat.strong_induction_on generalizing value with
  | _ n ih =>
    by_cases small : n < 10
    · rw [Nat.toDigits_of_lt_base small, single value n small]
      simp
    · rw [toDigits_eq_append (by omega), digitsFrom_append, ih (n / 10) (by omega), Option.bind_some,
        single _ _ (Nat.mod_lt n (by decide)), List.length_append, List.length_singleton]
      congr 1
      have parts := Nat.div_add_mod n 10
      rw [pow_succ]
      calc (value * 10 ^ (Nat.toDigits 10 (n / 10)).length + n / 10) * 10 + n % 10
          = value * (10 ^ (Nat.toDigits 10 (n / 10)).length * 10) + (10 * (n / 10) + n % 10) := by ring
        _ = value * (10 ^ (Nat.toDigits 10 (n / 10)).length * 10) + n := by rw [parts]

theorem digitsFrom_zeros (ascii : ∀ c, c.toNat < 128 → digit c = asciiDigit c) (value count : Nat) :
    digitsFrom digit value (List.replicate count '0') = some (value * 10 ^ count) := by
  have zero : digit '0' = some 0 := by rw [ascii _ (by decide)]; rfl
  induction count generalizing value with
  | zero => simp [digitsFrom]
  | succ count ih =>
    have next : digitsFrom digit value (List.replicate (count + 1) '0') =
        digitsFrom digit (value * 10) (List.replicate count '0') := by
      simp [digitsFrom, List.replicate_succ, zero]
    rw [next, ih, pow_succ]
    congr 1
    ring

/-- A fraction of `places` digits. -/
theorem digitsFrom_leftpad (ascii : ∀ c, c.toNat < 128 → digit c = asciiDigit c) {places n : Nat} (value : Nat)
    (positive : 0 < places) (fits : n < 10 ^ places) :
    digitsFrom digit value ((Nat.toDigits 10 n).leftpad places '0') = some (value * 10 ^ places + n) := by
  have width : (Nat.toDigits 10 n).length ≤ places := (Nat.length_toDigits_le_iff (by decide) positive).mpr fits
  rw [List.leftpad, digitsFrom_append, digitsFrom_zeros ascii, Option.bind_some, digitsFrom_toDigits ascii,
    Nat.mul_assoc, ← pow_add, Nat.sub_add_cancel width]

end Digits

namespace Decimal

variable {number : Decimal} {digit : Char → Option Nat}

/-- The rational a decimal stands for. -/
def value (number : Decimal) : ℚ :=
  (if number.negative then -1 else 1) * (number.coefficient * (10 : ℚ) ^ number.exponent)

/-- The number that `format(number, "f")` reads back as. -/
def expanded (number : Decimal) : Decimal :=
  match number.exponent with
  | .ofNat zeros => ⟨number.negative, number.coefficient * 10 ^ zeros, 0⟩
  | .negSucc _ => number

/-- The exact product. -/
def product (first second : Decimal) : Decimal :=
  ⟨first.negative != second.negative, first.coefficient * second.coefficient, first.exponent + second.exponent⟩

theorem value_expanded (number : Decimal) : number.expanded.value = number.value := by
  obtain ⟨negative, coefficient, exponent⟩ := number
  cases exponent with
  | ofNat zeros => cases negative <;> simp [expanded, value]
  | negSucc places => rfl

theorem value_product (first second : Decimal) : (first.product second).value = first.value * second.value := by
  have powers : (10 : ℚ) ^ (first.exponent + second.exponent) = 10 ^ first.exponent * 10 ^ second.exponent :=
    zpow_add₀ (by norm_num) _ _
  cases one : first.negative <;> cases two : second.negative <;>
    simp only [value, product, one, two, powers, bne_self_eq_false, Bool.true_bne, Bool.false_bne,
      Bool.not_false] <;> push_cast <;> ring_nf

theorem value_ofNat (n : Nat) : (ofNat n).value = n := by
  simp [value, ofNat]

theorem magnitude_eq (number : Decimal) :
    (number.magnitude : ℤ) = roundHalfUp (number.coefficient * (10 : ℚ) ^ number.exponent) := by
  unfold magnitude
  cases number.exponent with
  | ofNat zeros =>
    have whole : (number.coefficient : ℚ) * (10 : ℚ) ^ (Int.ofNat zeros) = (number.coefficient * 10 ^ zeros : Nat) := by
      simp
    rw [whole]
    exact (roundHalfUp_intCast _).symm
  | negSucc places =>
    have quotient : (number.coefficient : ℚ) * (10 : ℚ) ^ (Int.negSucc places) =
        number.coefficient / ((10 ^ (places + 1) : Nat) : ℚ) := by
      rw [zpow_negSucc, div_eq_mul_inv]
      push_cast
      rfl
    rw [quotient, ← halfUp_eq number.coefficient (10 ^ (places + 1)) (by positivity)]

theorem integral_eq (number : Decimal) : number.integral = roundHalfUp number.value := by
  unfold integral value
  rw [magnitude_eq]
  cases number.negative with
  | true =>
    rw [if_pos rfl, if_pos rfl, neg_one_mul, roundHalfUp_neg]
  | false =>
    rw [if_neg Bool.false_ne_true, if_neg Bool.false_ne_true, one_mul]

theorem belowZero_iff (number : Decimal) : number.belowZero = true ↔ number.value < 0 := by
  have power : (0 : ℚ) < (10 : ℚ) ^ number.exponent := by positivity
  unfold belowZero value
  cases number.negative with
  | true =>
    have positive : (0 : ℚ) < number.coefficient * (10 : ℚ) ^ number.exponent ↔ number.coefficient ≠ 0 := by
      rw [mul_pos_iff_of_pos_right power, Nat.cast_pos, Nat.pos_iff_ne_zero]
    simp [positive]
  | false =>
    have nonneg : (0 : ℚ) ≤ number.coefficient * (10 : ℚ) ^ number.exponent := by positivity
    simpa using nonneg

theorem decimalLength_shift {n : Nat} (positive : 0 < n) (zeros : Nat) :
    decimalLength (n * 10 ^ zeros) = decimalLength n + zeros := by
  induction zeros with
  | zero => simp
  | succ zeros ih =>
    have large : 10 ≤ n * 10 ^ zeros * 10 := by
      have some : 0 < n * 10 ^ zeros := by positivity
      omega
    rw [pow_succ, ← Nat.mul_assoc, decimalLength, toDigits_eq_append large, List.length_append,
      Nat.mul_div_cancel _ (by decide), List.length_singleton]
    rw [decimalLength] at ih
    omega

theorem expanded_representable (fits : number.representable = true) : number.expanded.representable = true := by
  obtain ⟨negative, coefficient, exponent⟩ := number
  cases exponent with
  | ofNat zeros =>
    have bounds := of_decide_eq_true fits
    simp only [adjusted, Int.ofNat_eq_natCast] at bounds
    refine decide_eq_true ⟨by simp [expanded], ?_⟩
    simp only [adjusted, expanded]
    rcases Nat.eq_zero_or_pos coefficient with rfl | positive
    · rw [Nat.zero_mul]
      decide
    · rw [decimalLength_shift positive]
      push_cast
      omega
  | negSucc places => exact fits

theorem guard_holds {condition : Prop} [Decidable condition] {done : Unit}
    (passed : (guard condition : Option Unit) = some done) : condition := by
  by_contra fails
  rw [guard, if_neg fails] at passed
  cases passed

theorem parse_representable {chars : List Char} (parsed : parse digit chars = some number) :
    number.representable = true := by
  simp only [parse, Option.bind_eq_bind, Option.bind_eq_some_iff, Option.pure_def] at parsed
  obtain ⟨_, _, coefficient, _, exponent, _, done, fits, same⟩ := parsed
  cases same
  exact guard_holds fits

theorem isDigit_solid {c : Char} (its : c.isDigit = true) :
    isSpace c = false ∧ c ≠ '_' ∧ c ≠ '.' ∧ c ≠ '-' ∧ c ≠ '+' ∧ startsExponent c = false := by
  have bounds : 48 ≤ c.toNat ∧ c.toNat ≤ 57 := Char.isDigit_iff_toNat.mp its
  have other (d : Char) (outside : d.toNat < 48 ∨ 57 < d.toNat) : c ≠ d := by
    rintro rfl
    omega
  refine ⟨?_, other _ (by decide), other _ (by decide), other _ (by decide), other _ (by decide), ?_⟩
  · simp only [isSpace, Bool.or_eq_false_iff, Bool.and_eq_false_iff, decide_eq_false_iff_not, beq_eq_false_iff_ne]
    omega
  · simp [startsExponent, other 'e' (by decide), other 'E' (by decide)]

theorem plain_clear {c : Char} (member : c ∈ number.plain) :
    isSpace c = false ∧ c ≠ '_' ∧ startsExponent c = false := by
  rcases mem_plain member with its | rfl | rfl
  · have solid := isDigit_solid its
    exact ⟨solid.1, solid.2.1, solid.2.2.2.2.2⟩
  · decide
  · decide

theorem stripped_clear {chars : List Char} (clear : ∀ c ∈ chars, isSpace c = false ∧ c ≠ '_' ∧ startsExponent c = false) :
    (stripChars chars).filter (· ≠ '_') = chars := by
  rw [stripChars_of_ends (fun c first => (clear c (List.mem_of_mem_head? first)).1)
    fun c last => (clear c (List.mem_of_mem_getLast? last)).1, List.filter_eq_self]
  exact fun c member => by simpa using (clear c member).2.1

/-- The numeral of a text, at its point. -/
theorem mantissa_split {whole fraction : List Char} (digits : ∀ c ∈ whole, c.isDigit = true) (tail : Fraction fraction) :
    (whole ++ fraction).takeWhile (· ≠ '.') = whole ∧ (whole ++ fraction).dropWhile (· ≠ '.') = fraction := by
  have clear : ∀ c ∈ whole, decide (c ≠ '.') = true := fun c member => by
    simpa using (isDigit_solid (digits c member)).2.2.1
  rw [List.takeWhile_append_of_pos clear, List.dropWhile_append_of_pos clear]
  rcases tail with rfl | ⟨others, rfl, _, _⟩ <;> simp

theorem parse_unsigned (sign : Bool) {whole fraction chars : List Char} {coefficient : Nat}
    (digits : ∀ c ∈ whole, c.isDigit = true) (some_ : whole ≠ []) (tail : Fraction fraction)
    (signed : chars = if sign then '-' :: (whole ++ fraction) else whole ++ fraction)
    (read : digitsFrom digit 0 (whole ++ fraction.tail) = some coefficient)
    (fits : representable ⟨sign, coefficient, 0 - fraction.tail.length⟩ = true)
    (clear : ∀ c ∈ chars, isSpace c = false ∧ c ≠ '_' ∧ startsExponent c = false) :
    parse digit chars = some ⟨sign, coefficient, 0 - fraction.tail.length⟩ := by
  have first : ∃ d rest, whole = d :: rest ∧ d ≠ '-' ∧ d ≠ '+' := by
    obtain ⟨d, rest, rfl⟩ := List.exists_cons_of_ne_nil some_
    have solid := isDigit_solid (digits d (List.mem_cons_self ..))
    exact ⟨d, rest, rfl, solid.2.2.2.1, solid.2.2.2.2.1⟩
  have unsigned : (if chars.head? = some '-' ∨ chars.head? = some '+' then chars.tail else chars) = whole ++ fraction := by
    cases sign with
    | true => simp [signed]
    | false =>
      obtain ⟨d, rest, rfl, dash, plus⟩ := first
      simp [signed, dash, plus]
  have negative : decide (chars.head? = some '-') = sign := by
    cases sign with
    | true => simp [signed]
    | false =>
      obtain ⟨d, rest, rfl, dash, plus⟩ := first
      simp [signed, dash]
  have inner : ∀ c ∈ whole ++ fraction, (!startsExponent c) = true := by
    intro c member
    have its : c ∈ chars := by
      rw [signed]
      cases sign with
      | true => exact List.mem_cons_of_mem _ member
      | false => exact member
    rw [(clear c its).2.2]
    rfl
  have mantissa : (whole ++ fraction).takeWhile (fun c => !startsExponent c) = whole ++ fraction :=
    List.takeWhile_eq_self_iff.mpr inner
  have exponent : (whole ++ fraction).dropWhile (fun c => !startsExponent c) = [] :=
    List.dropWhile_eq_nil_iff.mpr inner
  obtain ⟨before, after⟩ := mantissa_split digits tail
  have value : digitsValue digit (whole ++ fraction.tail) = some coefficient := read
  have none : whole ++ fraction.tail ≠ [] := List.append_ne_nil_of_left_ne_nil some_ _
  unfold parse
  simp only [stripped_clear clear, unsigned, negative, mantissa, exponent, before, after, value, exponentValue, none,
    ne_eq, not_false_eq_true, guard_true, Option.pure_def, Option.bind_eq_bind, Option.bind_some, fits]

/-- The number shown in full reads back with its value. -/
theorem parse_plain (ascii : ∀ c, c.toNat < 128 → digit c = asciiDigit c) (fits : number.representable = true) :
    parse digit number.plain = some number.expanded := by
  have again := expanded_representable fits
  have clear : ∀ c ∈ number.plain, isSpace c = false ∧ c ≠ '_' ∧ startsExponent c = false := fun c => plain_clear
  obtain ⟨negative, coefficient, exponent⟩ := number
  cases exponent with
  | ofNat zeros =>
    have read : digitsFrom digit 0 (Nat.toDigits 10 (coefficient * 10 ^ zeros) ++ ([] : List Char).tail) =
        some (coefficient * 10 ^ zeros) := by
      rw [List.tail_nil, List.append_nil, digitsFrom_toDigits ascii, Nat.zero_mul, Nat.zero_add]
    have parsed := parse_unsigned negative (toDigits_isDigit _) Nat.toDigits_ne_nil (.inl rfl) rfl read again
      (by simpa [plain, unsigned] using clear)
    simpa [plain, unsigned, expanded] using parsed
  | negSucc places =>
    have width : ((Nat.toDigits 10 (coefficient % 10 ^ (places + 1))).leftpad (places + 1) '0').length = places + 1 := by
      have small := (Nat.length_toDigits_le_iff (by decide) (Nat.succ_pos places)).mpr
        (Nat.mod_lt coefficient (by positivity : 0 < 10 ^ (places + 1)))
      rw [List.length_leftpad, Nat.max_eq_left small]
    have read : digitsFrom digit 0 (Nat.toDigits 10 (coefficient / 10 ^ (places + 1)) ++
        ('.' :: (Nat.toDigits 10 (coefficient % 10 ^ (places + 1))).leftpad (places + 1) '0').tail) =
        some coefficient := by
      rw [List.tail_cons, digitsFrom_append, digitsFrom_toDigits ascii, Option.bind_some,
        digitsFrom_leftpad ascii _ (Nat.succ_pos places) (Nat.mod_lt _ (by positivity)), Nat.zero_mul, Nat.zero_add,
        Nat.div_add_mod']
    have places_eq : (0 : Int) - ((places + 1 : Nat) : Int) = Int.negSucc places := by omega
    have parsed := parse_unsigned negative (toDigits_isDigit _) Nat.toDigits_ne_nil
      (fraction_leftpad places _) rfl read
      (by rw [List.tail_cons, width, places_eq]; exact fits) (by simpa [plain, unsigned] using clear)
    rw [List.tail_cons, width, places_eq] at parsed
    exact parsed

end Decimal

end SmartAo.Foundation
