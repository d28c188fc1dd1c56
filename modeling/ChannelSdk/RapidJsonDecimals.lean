import Mathlib.Algebra.Order.Field.Basic
import Mathlib.Data.Rat.Cast.Order
import Mathlib.Tactic.Linarith
import Mathlib.Tactic.NormNum
import ChannelSdk.RapidJsonIntegers
import ChannelSdk.RapidJsonNumberSafety

/-!
# The decimals of the JSON reader

The fast path from a decimal to a `double`: a significand of at most `2 ^ 53`
is converted without rounding, a power of ten up to `10 ^ 22` is in the table
of `Pow10` without rounding, and one product or one quotient of the two is
rounded once.  So the reader has the nearest `double` of such a number, as far
as the arithmetic of the machine rounds correctly.

What the digit loops contribute is that the significand and the scale they
compute are those that the text spells: no digit is skipped, no counter wraps,
and the exponent is not cut at its limit.
-/

namespace ChannelSdk.RapidJson

open CheckedMemory JsonGrammar GuardedDigits

/-! ## The number that a text spells -/

/-- The digits of a number, without the point. -/
def significand (whole fraction : Bytes) : Nat :=
  wholeNumber (whole ++ fraction.drop 1)

/-- The number behind `e` or `E`. -/
def exponentNumber (exponent : Bytes) : Int :=
  let (sign, digits) := parseSign (exponent.drop 1)
  signed (sign = [ascii '-']) (wholeNumber digits)

/-- The power of ten of the last digit. -/
def scale (fraction exponent : Bytes) : Int :=
  exponentNumber exponent - (fraction.drop 1).length

/-! ## The arithmetic -/

section Arithmetic

variable {Double : Type} (float : FloatArithmetic Double) (round : Rat → Rat)

/-- The rounded result of an operation, which is no infinity. -/
structure IsRounded (d : Double) (exact : Rat) : Prop where
  value : float.value d = round exact
  finite : float.exceedsMax d = false

/-- The arithmetic of the machine on integers that a `double` has, and on
powers of ten that it has. -/
structure CorrectlyRounded : Prop where
  ofUInt64 : ∀ n : Nat, n ≤ 2 ^ 53 → float.value (float.ofUInt64 n) = n
  timesPow10 :
    ∀ (m n : Nat), m ≤ 2 ^ 53 → n ≤ 22 →
      IsRounded float round (float.timesPow10 (float.ofUInt64 m) n)
        (m * 10 ^ n)
  overPow10 :
    ∀ (m n : Nat), m ≤ 2 ^ 53 → n ≤ 22 →
      IsRounded float round (float.overPow10 (float.ofUInt64 m) n)
        (m / 10 ^ n)
  negate : ∀ d, float.value (float.negate d) = -float.value d

end Arithmetic

/-! ## The digits behind the point -/

section Digits

theorem fracSignificand_digits
    {digits : Bytes} (areDigits : AllDigits digitOf digits)
    {i64 : Nat} {expFrac : Int} (count : Nat)
    (exact : numberFrom digitOf i64 digits ≤ 2 ^ 53)
    (notPositive : expFrac ≤ 0)
    (fits : -2147483648 ≤ expFrac - digits.length) :
    ∃ taken,
      fracSignificand i64 expFrac count digits =
        .ok ((numberFrom digitOf i64 digits, expFrac - digits.length, taken),
          []) := by
  induction digits generalizing i64 expFrac count with
  | nil => exact ⟨count, by simp [fracSignificand]⟩
  | cons c others inductionHypothesis =>
      obtain ⟨⟨digit, isDigit⟩, othersDigits⟩ := areDigits.cons
      rw [numberFrom_cons isDigit] at exact ⊢
      have grown :=
        Nat.le_trans
          (@le_numberFrom _ digitOf (i64 * 10 + digit) others) exact
      have small : ¬ 0x1FFFFFFFFFFFFF < i64 := by omega
      have kept :
          (i64 * 10 + digit) % 18446744073709551616 = i64 * 10 + digit :=
        Nat.mod_eq_of_lt (by omega)
      rw [List.length_cons] at fits ⊢
      obtain ⟨taken, reads⟩ :=
        @inductionHypothesis othersDigits (i64 * 10 + digit) (expFrac - 1)
          (if i64 * 10 + digit ≠ 0 then count + 1 else count) exact
          (by omega) (by omega)
      refine ⟨taken, ?_⟩
      simp only [fracSignificand, isDigit, if_neg small, kept]
      rw [int_ok (by omega) (by omega), ok_bind, reads]
      have length :
          expFrac - 1 - (others.length : Int) =
            expFrac - (others.length + 1 : Nat) := by omega
      rw [length]

theorem Holds.integer
    {Double : Type} {minus : Bool} {value : Nat} {s : Significand Double}
    (holds : Holds minus value s) (exact : value ≤ 2 ^ 53) :
    s.useDouble = false ∧ (if s.use64bit then s.i64 else s.i) = value := by
  obtain ⟨-, noDouble, narrow, spelled⟩ | ⟨-, -, noDouble, wide, spelled⟩ |
    ⟨beyond, -⟩ := holds
  · rw [narrow]
    exact ⟨noDouble, spelled⟩
  · rw [wide]
    exact ⟨noDouble, spelled⟩
  · have limit : 2 ^ 53 ≤ limit64 minus := by cases minus <;> decide
    omega

/-- The digits behind the point are added to the integer, and the scale falls
with them. -/
theorem parseFracPart_fraction
    {Double : Type} (float : FloatArithmetic Double) {s : Significand Double}
    {fraction : Bytes} (isFraction : Fraction fraction) {value : Nat}
    (noDouble : s.useDouble = false)
    (integer : (if s.use64bit then s.i64 else s.i) = value)
    (exact : numberFrom digitOf value (fraction.drop 1) ≤ 2 ^ 53)
    (short : fraction.length ≤ 2147483648) :
    ∃ read,
      parseFracPart float s fraction =
          .ok ((read, -((fraction.drop 1).length : Int)), []) ∧
        read.toDouble float =
          float.ofUInt64 (numberFrom digitOf value (fraction.drop 1)) ∧
        (fraction ≠ [] → read.useDouble = true) := by
  rcases isFraction with rfl | ⟨digits, rfl, nonempty, areDigits⟩
  · refine ⟨s, rfl, ?_, fun present => absurd rfl present⟩
    rw [Significand.toDouble, noDouble, integer]
    rfl
  · rw [List.drop_succ_cons, List.drop_zero] at exact ⊢
    rw [List.length_cons] at short
    have present := head_isNone_of_digits ⟨nonempty, areDigits⟩
    obtain ⟨taken, reads⟩ :=
      @fracSignificand_digits digits (allDigits_of_isDigit areDigits) value 0
        s.significandDigit exact (Int.le_refl 0) (by omega)
    have loops :
        fracLoops float s digits =
          .ok ((float.ofUInt64 (numberFrom digitOf value digits),
            0 - (digits.length : Int)), []) := by
      rw [fracLoops, noDouble, integer, reads]
      rfl
    rw [parseFracPart_digits float s digits present, loops, Int.zero_sub]
    exact ⟨_, rfl, rfl, fun _ => rfl⟩

end Digits

/-! ## The exponent -/

section Exponent

theorem nextExp_natCast
    {exp digit : Nat} (fits : exp * 10 + digit ≤ 2147483647) :
    nextExp exp digit = .ok ((exp * 10 + digit : Nat) : Int) := by
  rw [nextExp_ok (by omega) (by omega)]
  push_cast
  rfl

variable {maxExp : Int} (fits : maxExp ≤ 2147483647)

include fits

theorem expMinusDigits_digits
    {digits : Bytes} (areDigits : AllDigits digitOf digits) {exp : Nat}
    (within : (numberFrom digitOf exp digits : Int) ≤ maxExp) :
    expMinusDigits maxExp exp digits =
      .ok ((numberFrom digitOf exp digits : Int), []) := by
  induction digits generalizing exp with
  | nil => rfl
  | cons c others inductionHypothesis =>
      obtain ⟨⟨digit, isDigit⟩, othersDigits⟩ := areDigits.cons
      rw [numberFrom_cons isDigit] at within ⊢
      have grown := @le_numberFrom _ digitOf (exp * 10 + digit) others
      simp only [expMinusDigits, isDigit]
      rw [nextExp_natCast (by omega), ok_bind, if_neg (by omega)]
      exact inductionHypothesis othersDigits within

theorem expPlusDigits_digits
    {digits : Bytes} (areDigits : AllDigits digitOf digits) {exp : Nat}
    (within : (numberFrom digitOf exp digits : Int) ≤ maxExp) :
    expPlusDigits maxExp exp digits =
      .ok ((numberFrom digitOf exp digits : Int), []) := by
  induction digits generalizing exp with
  | nil => rfl
  | cons c others inductionHypothesis =>
      obtain ⟨⟨digit, isDigit⟩, othersDigits⟩ := areDigits.cons
      rw [numberFrom_cons isDigit] at within ⊢
      have grown := @le_numberFrom _ digitOf (exp * 10 + digit) others
      simp only [expPlusDigits, isDigit]
      rw [nextExp_natCast (by omega), ok_bind, if_neg (by omega)]
      exact inductionHypothesis othersDigits within

end Exponent

/-- An exponent that leads to a small scale is read in full. -/
theorem parseExpDigits_digits
    {expMinus : Bool} {expFrac : Int} {digits : Bytes}
    (areDigits : Digits digits) (notPositive : expFrac ≤ 0)
    (low : -214748055 ≤ expFrac)
    (lowScale : -22 ≤ signed expMinus (wholeNumber digits) + expFrac)
    (highScale : signed expMinus (wholeNumber digits) + expFrac ≤ 22) :
    parseExpDigits expMinus expFrac digits =
      .ok (signed expMinus (wholeNumber digits), []) := by
  obtain ⟨nonempty, all⟩ := areDigits
  cases digits with
  | nil => exact absurd rfl nonempty
  | cons first others =>
      obtain ⟨⟨exp, isOne⟩, othersDigits⟩ := (allDigits_of_isDigit all).cons
      have spelled :
          wholeNumber (first :: others) = numberFrom digitOf exp others := by
        rw [wholeNumber, numberFrom_cons isOne, Nat.zero_mul, Nat.zero_add]
      rw [spelled] at lowScale highScale ⊢
      simp only [parseExpDigits, isOne]
      cases expMinus with
      | true =>
          rw [signed, if_pos rfl] at lowScale highScale ⊢
          obtain ⟨maxExp, divided, lower, upper⟩ :=
            maxExp_ok notPositive low
          rw [if_pos rfl, if_pos notPositive, int_ok (by omega) (by omega),
            ok_bind, divided]
          change (expMinusDigits maxExp exp others >>= _) = _
          rw [expMinusDigits_digits (by omega) othersDigits (by omega),
            ok_bind]
          dsimp only
          rw [int_ok (by omega) (by omega)]
          rfl
      | false =>
          rw [signed, if_neg Bool.false_ne_true] at lowScale highScale ⊢
          rw [if_neg Bool.false_ne_true, int_ok (by omega) (by omega),
            ok_bind]
          exact
            expPlusDigits_digits (by omega) othersDigits (by omega)

/-- With an exponent the significand becomes a `double`. -/
theorem parseExpPart_exponent
    {Double : Type} (float : FloatArithmetic Double) (s : Significand Double)
    {expFrac : Int} {exponent : Bytes} (isExponent : Exponent exponent)
    (notPositive : expFrac ≤ 0) (low : -214748055 ≤ expFrac)
    (lowScale : -22 ≤ exponentNumber exponent + expFrac)
    (highScale : exponentNumber exponent + expFrac ≤ 22) :
    ∃ read,
      parseExpPart float s expFrac exponent =
          .ok ((read, exponentNumber exponent), []) ∧
        read.toDouble float = s.toDouble float ∧
        (exponent ≠ [] ∨ s.useDouble = true → read.useDouble = true) := by
  rcases isExponent with
    rfl | ⟨mark, sign, digits, rfl, isMark, isSign, areDigits⟩
  · refine ⟨s, rfl, rfl, ?_⟩
    rintro (present | isDouble)
    · exact absurd rfl present
    · exact isDouble
  · have alone := parseSign_append isSign (starts_digits areDigits [])
    rw [List.append_nil] at alone
    rw [exponentNumber, List.drop_succ_cons, List.drop_zero, alone]
      at lowScale highScale ⊢
    simp only [parseExpPart, if_pos isMark, alone]
    rw [parseExpDigits_digits areDigits notPositive low lowScale highScale]
    exact ⟨_, rfl, rfl, fun _ => rfl⟩

/-! ## The number -/

section Number

variable {Double : Type} {float : FloatArithmetic Double}
variable {round : Rat → Rat} (arithmetic : CorrectlyRounded float round)

include arithmetic

/-- The fast path is one product or one quotient. -/
theorem strtodNormalPrecision_rounds
    {n : Nat} {p : Int} (exact : n ≤ 2 ^ 53) (low : -22 ≤ p)
    (high : p ≤ 22) :
    ∃ d,
      strtodNormalPrecision float (float.ofUInt64 n) p = .ok d ∧
        IsRounded float round d (n * 10 ^ p) := by
  rw [strtodNormalPrecision, if_neg (by omega), fastPath,
    if_neg (by omega)]
  obtain ⟨power, rfl | rfl⟩ := p.eq_nat_or_neg
  · refine ⟨float.timesPow10 (float.ofUInt64 n) power, ?_, ?_⟩
    · rw [if_pos (by omega), pow10, if_pos ⟨by omega, by omega⟩, ok_bind,
        Int.toNat_natCast]
    · rw [Rat.zpow_natCast]
      exact arithmetic.timesPow10 n power exact (by omega)
  · by_cases none : power = 0
    · subst none
      exact
        ⟨float.timesPow10 (float.ofUInt64 n) 0, rfl,
          arithmetic.timesPow10 n 0 exact (by omega)⟩
    · refine ⟨float.overPow10 (float.ofUInt64 n) power, ?_, ?_⟩
      · rw [if_neg (by omega), Int.neg_neg, int_ok (by omega) (by omega),
          ok_bind, pow10, if_pos ⟨by omega, by omega⟩, ok_bind,
          Int.toNat_natCast]
      · rw [Rat.zpow_neg, Rat.zpow_natCast, ← Rat.div_def]
        exact arithmetic.overPow10 n power exact (by omega)

theorem finishNumber_rounds
    (minus : Bool) {s : Significand Double} {n : Nat} {expFrac exp : Int}
    (isDouble : s.useDouble = true)
    (spelled : s.toDouble float = float.ofUInt64 n) (exact : n ≤ 2 ^ 53)
    (low : -22 ≤ exp + expFrac) (high : exp + expFrac ≤ 22) :
    ∃ d,
      finishNumber float minus s expFrac exp = .ok (.double d) ∧
        float.value d =
          if minus then -round (n * 10 ^ (exp + expFrac))
          else round (n * 10 ^ (exp + expFrac)) := by
  obtain ⟨d, converted, rounded⟩ :=
    strtodNormalPrecision_rounds arithmetic exact low high
  have same : s.d = float.ofUInt64 n := by
    rw [← spelled, Significand.toDouble, if_pos isDouble]
  refine ⟨if minus then float.negate d else d, ?_, ?_⟩
  · rw [finishNumber, if_pos isDouble, int_ok (by omega) (by omega), ok_bind,
      same, converted, ok_bind, rounded.finite]
    rfl
  · cases minus
    · exact rounded.value
    · exact (arithmetic.negate d).trans (congrArg _ rounded.value)

/-- A number with a fraction or an exponent becomes the `double` next to it,
if its digits spell at most `2 ^ 53` and its last digit stands at one of the
powers of ten that a `double` has. -/
theorem readNumber_rounds
    {minus whole fraction exponent rest : Bytes}
    (number : Number minus whole fraction exponent)
    (ends : Starts EndsNumber rest)
    (notInteger : fraction ≠ [] ∨ exponent ≠ [])
    (exact : significand whole fraction ≤ 2 ^ 53)
    (low : -22 ≤ scale fraction exponent)
    (high : scale fraction exponent ≤ 22)
    (short : fraction.length ≤ 214748055) :
    ∃ d,
      readNumber float
          (minus ++ (whole ++ (fraction ++ (exponent ++ rest)))) =
        .ok (.double d, rest) ∧
        float.value d =
          if minus = [ascii '-'] then
            -round
              (significand whole fraction * 10 ^ scale fraction exponent)
          else
            round
              (significand whole fraction *
                10 ^ scale fraction exponent) := by
  obtain ⟨s, left, reads, holds⟩ :=
    parseWhole_holds float (minus = [ascii '-']) number.whole
  have spelled :
      significand whole fraction =
        numberFrom digitOf (wholeNumber whole) (fraction.drop 1) :=
    numberFrom_append 0 whole (fraction.drop 1)
  rw [spelled] at exact ⊢
  have small : wholeNumber whole ≤ 2 ^ 53 :=
    Nat.le_trans (le_numberFrom _ _) exact
  obtain ⟨noDouble, integer⟩ := holds.integer small
  obtain ⟨withFraction, readsFraction, fractionSpelled, fractionDouble⟩ :=
    parseFracPart_fraction float number.fraction noDouble integer exact
      (by omega)
  have shorter : (fraction.drop 1).length ≤ fraction.length := by
    rw [List.length_drop]
    omega
  rw [scale] at low high ⊢
  obtain ⟨withExponent, readsExponent, exponentSpelled, exponentDouble⟩ :=
    @parseExpPart_exponent _ float withFraction
      (-((fraction.drop 1).length : Int)) exponent number.exponent
      (by omega) (by omega) (by omega) (by omega)
  have isDouble : withExponent.useDouble = true :=
    exponentDouble (notInteger.symm.imp_right fractionDouble)
  obtain ⟨d, finished, value⟩ :=
    @finishNumber_rounds _ _ _ arithmetic (minus = [ascii '-'])
      withExponent _ (-((fraction.drop 1).length : Int))
      (exponentNumber exponent) isDouble
      (exponentSpelled.trans fractionSpelled) exact (by omega) (by omega)
  have parts :
      valueOfParts float minus whole fraction exponent = .ok (.double d) := by
    rw [valueOfParts, reads, ok_bind]
    dsimp only
    rw [readsFraction, ok_bind]
    dsimp only
    rw [readsExponent, ok_bind]
    exact finished
  refine ⟨d, ?_, ?_⟩
  · rw [readNumber_append float number ends, parts]
    rfl
  · rw [value, Int.sub_eq_add_neg]
    simp only [decide_eq_true_eq]

end Number

/-! ## Without rounding -/

theorem exactArithmetic_finite
    {d : Rat} (small : d ≤ 2 ^ 53 * 10 ^ 22) :
    exactArithmetic.exceedsMax d = false := by
  have bounded : (2 : Rat) ^ 53 * 10 ^ 22 ≤ 2 ^ 130 := by norm_num
  have large : (2 : Rat) ^ 130 ≤ 2 ^ 971 :=
    pow_le_pow_right₀ (by norm_num) (by norm_num)
  have split : (2 : Rat) ^ 1024 = 2 ^ 971 * 2 ^ 53 := by rw [← pow_add]
  refine decide_eq_false (not_lt.mpr ?_)
  rw [split]
  generalize (2 : Rat) ^ 971 = ulp at large
  linarith

/-- The exact arithmetic is correctly rounded. -/
theorem exactArithmetic_rounds : CorrectlyRounded exactArithmetic id where
  ofUInt64 _ _ := rfl
  timesPow10 m n small inTable := by
    refine ⟨rfl, exactArithmetic_finite ?_⟩
    have bounded : m * 10 ^ n ≤ 2 ^ 53 * 10 ^ 22 :=
      Nat.mul_le_mul small (Nat.pow_le_pow_right (by decide) inTable)
    calc
      (m : Rat) * 10 ^ n = (m * 10 ^ n : Nat) := by
        rw [Nat.cast_mul, Nat.cast_pow]
        rfl
      _ ≤ (2 ^ 53 * 10 ^ 22 : Nat) := Nat.cast_le.mpr bounded
      _ = 2 ^ 53 * 10 ^ 22 := by norm_num
  overPow10 m n small inTable := by
    refine ⟨rfl, exactArithmetic_finite ?_⟩
    calc
      (m : Rat) / 10 ^ n ≤ m :=
        div_le_self (Nat.cast_nonneg m) (one_le_pow₀ (by norm_num))
      _ ≤ (2 ^ 53 : Nat) := Nat.cast_le.mpr small
      _ ≤ 2 ^ 53 * 10 ^ 22 := by norm_num
  negate _ := rfl

/-- Minus twelve and a half, tenfold. -/
theorem readNumber_rounds_scaled :
    ∃ d,
      readNumber exactArithmetic
          (['-', '1', '2', '.', '5', 'e', '1', ','].map ascii) =
        .ok (.double d, [ascii ',']) ∧
        d = -(125 * 10 ^ (0 : Int)) := by
  have number :
      Number [ascii '-'] (['1', '2'].map ascii) (['.', '5'].map ascii)
        (['e', '1'].map ascii) :=
    ⟨.inr rfl, whole_of_all rfl (by decide),
      .inr ⟨[ascii '5'], rfl, digits_of_all rfl (by decide)⟩,
      .inr ⟨ascii 'e', [], [ascii '1'], rfl, .inl rfl, .inl rfl,
        digits_of_all rfl (by decide)⟩⟩
  have comma : Starts EndsNumber [ascii ','] := starts_cons (by decide) []
  exact
    readNumber_rounds exactArithmetic_rounds number comma
      (.inr (by decide)) (by decide) (by decide) (by decide) (by decide)

end ChannelSdk.RapidJson
