import ChannelSdk.RapidJsonNumberScan

/-!
# The integers of the JSON reader

A number without fraction and exponent is read exactly as long as it fits into
64 bits, signed behind a minus and unsigned without one.  The reader finds the
place where it leaves 32 bits, and then 64, without ever computing a number
that does not fit; the handler it calls says how many bits it took, and the
flag that `GetInt` asserts says whether the value fits into `int`.  A larger
integer becomes a `double`.
-/

namespace ChannelSdk.RapidJson

open CheckedMemory JsonGrammar GuardedDigits

/-! ## Flags -/

/-- The high bits of a number. -/
theorem land_high_eq_zero_iff
    {low high value : Nat} (fits : value < 2 ^ high) :
    value &&& (2 ^ (high - low) - 1) * 2 ^ low = 0 ↔ value < 2 ^ low := by
  constructor
  · intro zero
    by_contra large
    obtain ⟨i, above, isSet⟩ :=
      Nat.exists_ge_and_testBit_of_ge_two_pow (Nat.not_lt.mp large)
    have below : i < high := by
      by_contra beyond
      have clear : value.testBit i = false :=
        Nat.testBit_lt_two_pow
          (Nat.lt_of_lt_of_le fits
            (Nat.pow_le_pow_right (by decide) (Nat.not_lt.mp beyond)))
      rw [clear] at isSet
      cases isSet
    have bit := congrArg (Nat.testBit · i) zero
    simp only [Nat.testBit_and, isSet, Nat.testBit_mul_two_pow,
      Nat.testBit_two_pow_sub_one, Nat.zero_testBit] at bit
    have inMask : i - low < high - low := by omega
    simp [inMask, above] at bit
  · intro small
    refine Nat.eq_of_testBit_eq fun i => ?_
    rw [Nat.testBit_and, Nat.zero_testBit, Nat.testBit_mul_two_pow]
    by_cases above : low ≤ i
    · have clear : value.testBit i = false :=
        Nat.testBit_lt_two_pow
          (Nat.lt_of_lt_of_le small (Nat.pow_le_pow_right (by decide) above))
      rw [clear, Bool.false_and]
    · simp [above]

/-! ## The integer part -/

/-- The number that the digits of a text spell. -/
def wholeNumber (whole : Bytes) : Nat :=
  numberFrom digitOf 0 whole

/-- The largest magnitude that is read in 32 bits. -/
def limit32 (minus : Bool) : Nat :=
  if minus then 2147483648 else 4294967295

/-- The largest magnitude that is read in 64 bits. -/
def limit64 (minus : Bool) : Nat :=
  if minus then 9223372036854775808 else 18446744073709551615

section Whole

variable {Double : Type} (float : FloatArithmetic Double)

/-- Where the reader keeps an integer. -/
def Holds (minus : Bool) (value : Nat) (s : Significand Double) : Prop :=
  (value ≤ limit32 minus ∧ s.useDouble = false ∧ s.use64bit = false ∧
      s.i = value) ∨
    (limit32 minus < value ∧ value ≤ limit64 minus ∧ s.useDouble = false ∧
      s.use64bit = true ∧ s.i64 = value) ∨
    (limit64 minus < value ∧ s.useDouble = true)

/-- A loop whose limit depends on the sign. -/
theorem signedDigits_cases
    {modulus lowThreshold lowLast highThreshold highLast limit : Nat}
    (lowDecimal : lowLast ≤ 9) (highDecimal : highLast ≤ 9)
    (lowHolds : lowThreshold * 10 + lowLast < modulus)
    (highHolds : highThreshold * 10 + highLast < modulus)
    (minus : Bool)
    (isLimit :
      limit =
        if minus then lowThreshold * 10 + lowLast
        else highThreshold * 10 + highLast)
    (count : Nat) {value : Nat} {digits : Bytes}
    (areDigits : AllDigits digitOf digits) (start : value ≤ limit) :
    ∃ run,
      (if minus then
          readDigits digitOf modulus lowThreshold lowLast value count digits
        else
          readDigits digitOf modulus highThreshold highLast value count
            digits) = run ∧
        ((numberFrom digitOf value digits ≤ limit ∧ run.stopped = false ∧
            run.value = numberFrom digitOf value digits ∧ run.rest = []) ∨
          (limit < numberFrom digitOf value digits ∧ run.stopped = true ∧
            run.value ≤ limit ∧ AllDigits digitOf run.rest ∧
            numberFrom digitOf run.value run.rest =
              numberFrom digitOf value digits)) := by
  refine ⟨_, rfl, ?_⟩
  cases minus with
  | false =>
      rw [if_neg Bool.false_ne_true] at isLimit ⊢
      subst isLimit
      rcases
        readDigits_cases digitOf_le_nine highDecimal highHolds count areDigits
          start with
        ⟨within, reads⟩ | ⟨beyond, read, taken, left, reads, bounded⟩
      · rw [reads]
        exact .inl ⟨within, rfl, rfl, rfl⟩
      · rw [reads]
        exact .inr ⟨beyond, rfl, bounded⟩
  | true =>
      rw [if_pos rfl] at isLimit ⊢
      subst isLimit
      rcases
        readDigits_cases digitOf_le_nine lowDecimal lowHolds count areDigits
          start with
        ⟨within, reads⟩ | ⟨beyond, read, taken, left, reads, bounded⟩
      · rw [reads]
        exact .inl ⟨within, rfl, rfl, rfl⟩
      · rw [reads]
        exact .inr ⟨beyond, rfl, bounded⟩

/-- The digits in 32 bits, with the limit of the sign. -/
theorem parseInt32_digits
    (minus : Bool) {first : UInt8} {start : Nat} {digits : Bytes}
    (notZero : first ≠ ascii '0') (isDigit : digitOf first = some start)
    (areDigits : AllDigits digitOf digits) :
    (numberFrom digitOf start digits ≤ limit32 minus ∧
        ∃ count,
          parseInt32 minus (first :: digits) =
            .ok (⟨numberFrom digitOf start digits, 0, false, count⟩, [])) ∨
      (limit32 minus < numberFrom digitOf start digits ∧
        ∃ read count left,
          parseInt32 minus (first :: digits) =
              .ok (⟨read, read, true, count⟩, left) ∧
            read ≤ limit32 minus ∧ AllDigits digitOf left ∧
            numberFrom digitOf read left =
              numberFrom digitOf start digits) := by
  have decimal := digitOf_le_nine first start isDigit
  have small : start ≤ limit32 minus := by
    cases minus
    · exact Nat.le_trans decimal (by decide)
    · exact Nat.le_trans decimal (by decide)
  obtain ⟨⟨read, count, stopped, left⟩, reads, cases⟩ :=
    @signedDigits_cases 4294967296 214748364 8 429496729 5 (limit32 minus)
      (by decide) (by decide) (by decide) (by decide) minus rfl 0 start
      digits areDigits small
  simp only [parseInt32, if_neg notZero, isDigit, reads]
  obtain ⟨within, rfl, rfl, rfl⟩ | ⟨beyond, rfl, bounded⟩ := cases
  · exact .inl ⟨within, count, rfl⟩
  · exact .inr ⟨beyond, read, count, left, rfl, bounded⟩

/-- The digits that have not fitted into 32 bits. -/
theorem parseInt64_holds
    (minus : Bool) {i read count : Nat} {left : Bytes}
    (areDigits : AllDigits digitOf left) (start : read ≤ limit32 minus)
    (beyond : limit32 minus < numberFrom digitOf read left) :
    Holds minus (numberFrom digitOf read left)
      (parseInt64 float minus ⟨i, read, true, count⟩ left).1 := by
  have wider : limit32 minus < limit64 minus := by
    cases minus <;> decide
  obtain ⟨⟨last, taken, stopped, behind⟩, reads, cases⟩ :=
    @signedDigits_cases 18446744073709551616 0x0CCCCCCCCCCCCCCC 8
      0x1999999999999999 5 (limit64 minus) (by decide) (by decide)
      (by decide) (by decide) minus rfl count read left areDigits (by omega)
  simp only [parseInt64, if_true, reads]
  obtain ⟨within, rfl, spelled, -⟩ | ⟨beyond64, rfl, -⟩ := cases
  · exact .inr (.inl ⟨beyond, within, rfl, rfl, spelled⟩)
  · exact .inr (.inr ⟨beyond64, rfl⟩)

theorem parseWhole_of_int32
    {minus : Bool} {text rest : Bytes} {part : IntPart}
    (reads : parseInt32 minus text = .ok (part, rest)) :
    parseWhole float minus text = .ok (parseInt64 float minus part rest) := by
  rw [parseWhole, reads]
  rfl

/-- The integer part of a number is kept where it fits. -/
theorem parseWhole_holds
    (minus : Bool) {whole : Bytes} (isWhole : Whole whole) :
    ∃ s rest,
      parseWhole float minus whole = .ok (s, rest) ∧
        Holds minus (wholeNumber whole) s := by
  rcases isWhole with rfl | ⟨first, digits, rfl, notZero, digit, areDigits⟩
  · refine ⟨⟨⟨0, 0, false, 0⟩, false, float.zero⟩, [], rfl, .inl ?_⟩
    exact ⟨Nat.zero_le _, rfl, rfl, rfl⟩
  · have isDigit := digitOf_of_isDigit digit
    have spelled :
        wholeNumber (first :: digits) =
          numberFrom digitOf (first.toNat - 48) digits := by
      rw [wholeNumber, numberFrom_cons isDigit, Nat.zero_mul, Nat.zero_add]
    rcases
      parseInt32_digits minus notZero isDigit
        (allDigits_of_isDigit areDigits) with
      ⟨within, count, reads⟩ |
        ⟨beyond, read, count, left, reads, start, leftDigits, same⟩
    · refine ⟨_, _, parseWhole_of_int32 float reads, .inl ?_⟩
      rw [spelled]
      exact ⟨within, rfl, rfl, rfl⟩
    · refine ⟨_, _, parseWhole_of_int32 float reads, ?_⟩
      rw [spelled, ← same]
      rw [← same] at beyond
      exact parseInt64_holds float minus leftDigits start beyond

/-! ## The integer -/

/-- The integer of a sign and a magnitude. -/
def signed (minus : Bool) (value : Nat) : Int :=
  if minus then -value else value

/-- The integers that `ParseNumber` keeps. -/
def FitsWord64 (value : Int) : Prop :=
  -9223372036854775808 ≤ value ∧ value ≤ 18446744073709551615

instance (value : Int) : Decidable (FitsWord64 value) :=
  inferInstanceAs
    (Decidable
      (-9223372036854775808 ≤ value ∧ value ≤ 18446744073709551615))

theorem fitsWord64_signed (minus : Bool) (value : Nat) :
    FitsWord64 (signed minus value) ↔ value ≤ limit64 minus := by
  cases minus with
  | false =>
      change -9223372036854775808 ≤ (value : Int) ∧
        (value : Int) ≤ 18446744073709551615 ↔ value ≤ 18446744073709551615
      omega
  | true =>
      change -9223372036854775808 ≤ -(value : Int) ∧
        -(value : Int) ≤ 18446744073709551615 ↔ value ≤ 9223372036854775808
      omega

/-- An event that keeps an integer, with the flag that `GetInt` asserts. -/
structure Keeps (value : Int) (event : NumberEvent Double) : Prop where
  document : event.document float = .integer value
  isInt : event.isInt = true ↔ FitsInt32 value

theorem uint_keeps {u : Nat} (fits : u ≤ 4294967295) :
    Keeps float u (.uint u) where
  document := rfl
  isInt := by
    have flag := @land_high_eq_zero_iff 31 32 u (by omega)
    rw [NumberEvent.isInt, decide_eq_true_iff, FitsInt32]
    refine flag.trans ?_
    omega

theorem int_keeps {i : Nat} (fits : i ≤ 2147483648) :
    Keeps float (-i) (.int (toInt32 ((4294967295 - i) + 1))) := by
  have same : toInt32 ((4294967295 - i) + 1) = -i := by
    rw [toInt32]
    omega
  rw [same]
  refine ⟨rfl, iff_of_true rfl ?_⟩
  rw [FitsInt32]
  omega

theorem uint64_keeps
    {u64 : Nat} (fits : u64 ≤ 18446744073709551615) :
    Keeps float u64 (.uint64 u64) where
  document := rfl
  isInt := by
    have flag := @land_high_eq_zero_iff 31 64 u64 (by omega)
    rw [NumberEvent.isInt, decide_eq_true_iff, FitsInt32]
    refine flag.trans ?_
    omega

theorem int64_keeps
    {i64 : Nat} (large : 2147483648 < i64)
    (fits : i64 ≤ 9223372036854775808) :
    Keeps float (-i64)
      (.int64
        (Int.bmod ((18446744073709551615 - i64) + 1)
          18446744073709551616)) := by
  have same :
      Int.bmod ((18446744073709551615 - i64) + 1) 18446744073709551616 =
        -i64 := by
    rw [Int.bmod_def]
    omega
  rw [same]
  refine ⟨rfl, ?_⟩
  rw [NumberEvent.isInt, if_neg (by omega), decide_eq_true_iff, FitsInt32]
  omega

/-- An integer is kept if it fits into 64 bits.  Without an exponent, a larger
one can only be too big for a `double`. -/
theorem finishNumber_holds
    {minus : Bool} {value : Nat} {s : Significand Double}
    (holds : Holds minus value s) :
    (value ≤ limit64 minus →
        ∃ event,
          finishNumber float minus s 0 0 = .ok event ∧
            Keeps float (signed minus value) event) ∧
      (limit64 minus < value →
        finishNumber float minus s 0 0 = .error .numberTooBig ∨
          ∃ d, finishNumber float minus s 0 0 = .ok (.double d)) := by
  have wider : limit32 minus < limit64 minus := by
    cases minus <;> decide
  obtain ⟨within, noDouble, narrow, rfl⟩ |
    ⟨large, within, noDouble, wide, rfl⟩ | ⟨beyond, isDouble⟩ := holds
  · refine ⟨fun _ => ?_, fun beyond => absurd within (by omega)⟩
    cases minus with
    | false =>
        refine ⟨_, ?_, uint_keeps float within⟩
        simp only [finishNumber, noDouble, narrow, Bool.false_eq_true,
          if_false]
    | true =>
        refine ⟨_, ?_, int_keeps float within⟩
        simp only [finishNumber, noDouble, narrow, Bool.false_eq_true,
          if_false, if_true]
  · refine ⟨fun _ => ?_, fun beyond => absurd within (by omega)⟩
    cases minus with
    | false =>
        refine ⟨_, ?_, uint64_keeps float within⟩
        simp only [finishNumber, noDouble, wide, Bool.false_eq_true,
          if_false, if_true]
    | true =>
        refine ⟨_, ?_, int64_keeps float large within⟩
        simp only [finishNumber, noDouble, wide, Bool.false_eq_true,
          if_false, if_true]
  · refine ⟨fun within => absurd within (by omega), fun _ => ?_⟩
    have converted :
        strtodNormalPrecision float s.d 0 = .ok (float.timesPow10 s.d 0) :=
      rfl
    have sum : int (0 + 0) = .ok 0 := rfl
    simp only [finishNumber, isDouble, if_true, sum, ok_bind, converted]
    split
    · exact .inl rfl
    · exact .inr ⟨_, rfl⟩

/-- A number without fraction and exponent, whatever follows it, is read
exactly if it fits into 64 bits, and `GetInt` accepts it if it fits into 32.
Otherwise it becomes a `double`, or it is reported as too big. -/
theorem readNumber_integer
    {minus whole rest : Bytes} (number : Number minus whole [] [])
    (ends : Starts EndsNumber rest) :
    (FitsWord64 (signed (minus = [ascii '-']) (wholeNumber whole)) →
        ∃ event,
          readNumber float (minus ++ (whole ++ rest)) = .ok (event, rest) ∧
            Keeps float
              (signed (minus = [ascii '-']) (wholeNumber whole)) event) ∧
      (¬ FitsWord64 (signed (minus = [ascii '-']) (wholeNumber whole)) →
        readNumber float (minus ++ (whole ++ rest)) =
            .error .numberTooBig ∨
          ∃ d,
            readNumber float (minus ++ (whole ++ rest)) =
              .ok (.double d, rest)) := by
  have scanned :
      readNumber float (minus ++ (whole ++ rest)) =
        (valueOfParts float minus whole [] []).map
          fun event => (event, rest) :=
    readNumber_append float number ends
  obtain ⟨s, left, reads, holds⟩ :=
    parseWhole_holds float (minus = [ascii '-']) number.whole
  have value :
      valueOfParts float minus whole [] [] =
        finishNumber float (minus = [ascii '-']) s 0 0 := by
    rw [valueOfParts, reads]
    rfl
  obtain ⟨within, beyond⟩ := finishNumber_holds float holds
  rw [fitsWord64_signed, Nat.not_le, scanned, value]
  constructor
  · intro fits
    obtain ⟨event, finished, keeps⟩ := within fits
    exact ⟨event, by rw [finished]; rfl, keeps⟩
  · intro large
    rcases beyond large with tooBig | ⟨d, finished⟩
    · exact .inl (by rw [tooBig]; rfl)
    · exact .inr ⟨d, by rw [finished]; rfl⟩

end Whole

theorem digits_of_all
    {digits : Bytes} (all : digits.all isDigit = true)
    (nonempty : digits ≠ []) : Digits digits :=
  ⟨nonempty, List.all_eq_true.mp all⟩

theorem whole_of_all
    {first : UInt8} {others : Bytes}
    (all : (first :: others).all isDigit = true)
    (notZero : first ≠ ascii '0') : Whole (first :: others) := by
  obtain ⟨digit, othersDigits⟩ :=
    List.forall_mem_cons.mp (List.all_eq_true.mp all)
  exact .inr ⟨first, others, rfl, notZero, digit, othersDigits⟩

/-- The smallest `int` in front of a comma, and twenty nines. -/
theorem readNumber_integer_limits :
    (∃ event,
        readNumber exactArithmetic
            (['-'].map ascii ++
              (['2', '1', '4', '7', '4', '8', '3', '6', '4', '8'].map ascii ++
                [ascii ','])) =
          .ok (event, [ascii ',']) ∧
          Keeps exactArithmetic (-2147483648) event) ∧
      (readNumber exactArithmetic (List.replicate 20 (ascii '9')) =
          .error .numberTooBig ∨
        ∃ d,
          readNumber exactArithmetic (List.replicate 20 (ascii '9')) =
            .ok (.double d, [])) := by
  have lowest :
      Number (['-'].map ascii)
        (['2', '1', '4', '7', '4', '8', '3', '6', '4', '8'].map ascii)
        [] [] :=
    ⟨.inr rfl, whole_of_all rfl (by decide), .inl rfl, .inl rfl⟩
  have nines : Number [] (List.replicate 20 (ascii '9')) [] [] :=
    ⟨.inl rfl, whole_of_all rfl (by decide), .inl rfl, .inl rfl⟩
  have comma : Starts EndsNumber [ascii ','] := starts_cons (by decide) []
  constructor
  · exact (readNumber_integer exactArithmetic lowest comma).1 (by decide)
  · have read :=
      (readNumber_integer exactArithmetic nines (starts_nil _)).2 (by decide)
    rw [List.nil_append, List.append_nil] at read
    exact read

end ChannelSdk.RapidJson
