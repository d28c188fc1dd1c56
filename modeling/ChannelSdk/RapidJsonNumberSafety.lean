import ChannelSdk.Lib.CheckedOutcome
import ChannelSdk.RapidJsonNumberScan

/-!
# The numbers of the reader without undefined behaviour

The counters of `ParseNumber` are signed.  `expFrac` falls with the digits
behind the point, and the limits of the exponent are computed from it, so that
`exp + expFrac` stays in the range of `int` and never asks `Pow10` for more
than `10 ^ 308`.  The comments of the source argue for the sum; the limits
themselves, and the exponent one digit past them, stay in range as long as
`expFrac` is not below `-214748055`.  A text of less than 200 megabytes does
not bring it there.
-/

namespace ChannelSdk.RapidJson

open CheckedMemory JsonGrammar GuardedDigits CheckedOutcome

/-- An error that the reader reports to its caller. -/
def NumberError.IsReported : NumberError → Prop
  | .valueInvalid | .numberMissFraction | .numberMissExponent
  | .numberTooBig => True
  | .assertion | .fault _ => False

theorem int_ok
    {value : Int} (lower : -2147483648 ≤ value)
    (upper : value ≤ 2147483647) : int value = .ok value := by
  rw [int, int32_ok lower upper]
  rfl

/-! ## The fraction -/

section Fraction

variable {Double : Type} (float : FloatArithmetic Double)

/-- Each digit behind the point takes one off `expFrac`. -/
theorem fracSignificand_meets
    (text : Bytes) (i64 : Nat) (expFrac : Int) (significandDigit : Nat)
    (notPositive : expFrac ≤ 0)
    (enough : -214748055 ≤ expFrac - text.length) :
    Meets NumberError.IsReported
      (fun read =>
        read.1.2.1 ≤ 0 ∧
          expFrac - text.length ≤ read.1.2.1 - read.2.length)
      (fracSignificand i64 expFrac significandDigit text) := by
  induction text generalizing i64 expFrac significandDigit with
  | nil => exact meets_ok ⟨notPositive, Int.le_refl _⟩
  | cons c rest inductionHypothesis =>
      rw [List.length_cons] at enough ⊢
      rw [fracSignificand]
      split
      · exact meets_ok ⟨notPositive, by simp⟩
      · split
        · exact meets_ok ⟨notPositive, by simp⟩
        · rw [int_ok (by omega) (by omega)]
          refine
            (inductionHypothesis _ (expFrac - 1) _ (by omega)
              (by omega)).mono fun read has => ⟨has.1, ?_⟩
          have counted := has.2
          omega

theorem fracDouble_meets
    (text : Bytes) (d : Double) (expFrac : Int) (significandDigit : Nat)
    (notPositive : expFrac ≤ 0)
    (enough : -214748055 ≤ expFrac - text.length) :
    Meets NumberError.IsReported
      (fun read => read.1.2 ≤ 0 ∧ -214748055 ≤ read.1.2)
      (fracDouble float d expFrac significandDigit text) := by
  induction text generalizing d expFrac significandDigit with
  | nil => exact meets_ok ⟨notPositive, by simpa using enough⟩
  | cons c rest inductionHypothesis =>
      rw [List.length_cons] at enough
      rw [fracDouble]
      split
      · have low : -214748055 ≤ expFrac := by omega
        exact meets_ok ⟨notPositive, low⟩
      · split
        · rw [int_ok (by omega) (by omega)]
          exact inductionHypothesis _ (expFrac - 1) _ (by omega) (by omega)
        · exact inductionHypothesis _ expFrac _ notPositive (by omega)

theorem fracLoops_meets
    (s : Significand Double) {text : Bytes}
    (short : text.length ≤ 214748055) :
    Meets NumberError.IsReported
      (fun read => read.1.2 ≤ 0 ∧ -214748055 ≤ read.1.2)
      (fracLoops float s text) := by
  unfold fracLoops
  split
  · exact fracDouble_meets float text s.d 0 _ (Int.le_refl 0) (by omega)
  · have first :=
      fracSignificand_meets text (if s.use64bit then s.i64 else s.i) 0
        s.significandDigit (Int.le_refl 0) (by omega)
    have converted :
        Meets NumberError.IsReported
          (fun read : (Double × Int × Nat) × Bytes =>
            read.1.2.1 ≤ 0 ∧ 0 - text.length ≤ read.1.2.1 - read.2.length)
          (fracSignificand (if s.use64bit then s.i64 else s.i) 0
              s.significandDigit text >>=
            fun read =>
              .ok ((float.ofUInt64 read.1.1, read.1.2.1, read.1.2.2),
                read.2)) :=
      first.bind fun read has => meets_ok has
    refine converted.bind fun read has => ?_
    exact
      fracDouble_meets float read.2 read.1.1 read.1.2.1 _ has.1 (by omega)

/-- The counter of the fraction. -/
theorem parseFracPart_meets
    (s : Significand Double) {text : Bytes}
    (short : text.length ≤ 214748055) :
    Meets NumberError.IsReported
      (fun read => read.1.2 ≤ 0 ∧ -214748055 ≤ read.1.2)
      (parseFracPart float s text) := by
  cases consumed : consume (ascii '.') text with
  | none =>
      rw [parseFracPart, consumed]
      exact meets_ok ⟨Int.le_refl 0, by dsimp only; omega⟩
  | some rest =>
      have divided := consume_eq_some consumed
      subst divided
      cases missing : (rest.head?.bind digitOf).isNone with
      | true =>
          simp only [parseFracPart, consumed, missing, if_true]
          exact meets_error trivial
      | false =>
          rw [parseFracPart_digits float s rest missing]
          rw [List.length_cons] at short
          exact (fracLoops_meets float s (by omega)).map fun read has => has

end Fraction

/-! ## The exponent -/

theorem nextExp_ok
    {exp : Int} {digit : Nat} (notNegative : 0 ≤ exp)
    (fits : exp * 10 + digit ≤ 2147483647) :
    nextExp exp digit = .ok (exp * 10 + digit) := by
  rw [nextExp, int_ok (by omega) (by omega), ok_bind,
    int_ok (by omega) fits]

section Exponent

variable {maxExp : Int} (small : maxExp ≤ 214748363)

include small

/-- An exponent behind a minus exceeds its limit by one digit at most. -/
theorem expMinusDigits_meets
    (text : Bytes) (exp : Int) (notNegative : 0 ≤ exp)
    (within : exp ≤ maxExp) :
    Meets NumberError.IsReported
      (fun read => 0 ≤ read.1 ∧ read.1 ≤ maxExp * 10 + 9)
      (expMinusDigits maxExp exp text) := by
  induction text generalizing exp with
  | nil => exact meets_ok ⟨notNegative, by dsimp only; omega⟩
  | cons c rest inductionHypothesis =>
      rw [expMinusDigits]
      split
      · exact meets_ok ⟨notNegative, by dsimp only; omega⟩
      · next digit isOne =>
          have decimal := digitOf_le_nine c digit isOne
          rw [nextExp_ok notNegative (by omega), ok_bind]
          split
          · exact meets_ok ⟨by dsimp only; omega, by dsimp only; omega⟩
          · next within => exact inductionHypothesis _ (by omega) (by omega)

theorem expPlusDigits_meets
    (text : Bytes) (exp : Int) (notNegative : 0 ≤ exp)
    (within : exp ≤ maxExp) :
    Meets NumberError.IsReported
      (fun read => 0 ≤ read.1 ∧ read.1 ≤ maxExp)
      (expPlusDigits maxExp exp text) := by
  induction text generalizing exp with
  | nil => exact meets_ok ⟨notNegative, within⟩
  | cons c rest inductionHypothesis =>
      rw [expPlusDigits]
      split
      · exact meets_ok ⟨notNegative, within⟩
      · next digit isOne =>
          have decimal := digitOf_le_nine c digit isOne
          rw [nextExp_ok notNegative (by omega), ok_bind]
          split
          · exact meets_error trivial
          · next within => exact inductionHypothesis _ (by omega) (by omega)

end Exponent

/-- The limit of an exponent behind a minus. -/
theorem maxExp_ok
    {expFrac : Int} (notPositive : expFrac ≤ 0)
    (low : -214748055 ≤ expFrac) :
    ∃ maxExp,
      divInt32 (expFrac + 2147483639) 10 = .ok maxExp ∧
        193273558 ≤ maxExp ∧ maxExp * 10 ≤ expFrac + 2147483639 := by
  refine ⟨(expFrac + 2147483639) / 10, ?_, by omega, by omega⟩
  rw [divInt32, if_neg (by decide),
    Int.tdiv_eq_ediv_of_nonneg (by omega)]
  exact int32_ok (by omega) (by omega)

/-- The exponent that the significand gets is one of the table or small enough
for zero. -/
theorem parseExpDigits_meets
    (expMinus : Bool) {expFrac : Int} (text : Bytes)
    (notPositive : expFrac ≤ 0) (low : -214748055 ≤ expFrac) :
    Meets NumberError.IsReported
      (fun read =>
        -2147483648 ≤ read.1 + expFrac ∧ read.1 + expFrac ≤ 308)
      (parseExpDigits expMinus expFrac text) := by
  cases text with
  | nil => exact meets_error trivial
  | cons first rest =>
      rw [parseExpDigits]
      split
      · exact meets_error trivial
      · next exp isOne =>
          have decimal := digitOf_le_nine first exp isOne
          split
          · rw [int_ok (by omega) (by omega), ok_bind]
            obtain ⟨maxExp, divided, lower, upper⟩ :=
              maxExp_ok notPositive low
            rw [divided]
            change Meets _ _ (expMinusDigits maxExp exp rest >>= _)
            refine
              (expMinusDigits_meets (by omega) rest exp (by omega)
                (by omega)).bind fun read has => ?_
            obtain ⟨notNegative, within⟩ := has
            dsimp only
            rw [int_ok (by omega) (by omega), ok_bind]
            exact meets_ok ⟨by dsimp only; omega, by dsimp only; omega⟩
          · rw [int_ok (by omega) (by omega), ok_bind]
            refine
              (expPlusDigits_meets (by omega) rest exp (by omega)
                (by omega)).mono fun read has => ?_
            omega

/-! ## The number -/

section Number

variable {Double : Type} (float : FloatArithmetic Double)

theorem parseExpPart_meets
    (s : Significand Double) {expFrac : Int} (text : Bytes)
    (notPositive : expFrac ≤ 0) (low : -214748055 ≤ expFrac) :
    Meets NumberError.IsReported
      (fun read =>
        -2147483648 ≤ read.1.2 + expFrac ∧ read.1.2 + expFrac ≤ 308)
      (parseExpPart float s expFrac text) := by
  cases text with
  | nil => exact meets_ok ⟨by dsimp only; omega, by dsimp only; omega⟩
  | cons mark rest =>
      rw [parseExpPart]
      split
      · exact
          (parseExpDigits_meets _ _ notPositive low).bind fun read has =>
            meets_ok has
      · exact meets_ok ⟨by dsimp only; omega, by dsimp only; omega⟩

/-- `FastPath` asks for a power in the table. -/
theorem fastPath_ok
    (significand : Double) {exp : Int} (low : -2147483648 ≤ exp)
    (high : exp ≤ 308) : Completes (fastPath float significand exp) := by
  rw [fastPath]
  split
  · exact completes_ok _
  · split
    · rw [pow10, if_pos ⟨by omega, by omega⟩]
      exact completes_ok _
    · rw [int_ok (by omega) (by omega), ok_bind, pow10,
        if_pos ⟨by omega, by omega⟩]
      exact completes_ok _

theorem strtodNormalPrecision_ok
    (d : Double) {p : Int} (low : -2147483648 ≤ p) (high : p ≤ 308) :
    Completes (strtodNormalPrecision float d p) := by
  rw [strtodNormalPrecision]
  split
  · refine
      completes_bind (fastPath_ok float d (by decide) (by decide))
        fun shrunk => ?_
    rw [int_ok (by omega) (by omega), ok_bind]
    exact fastPath_ok float shrunk (by omega) (by omega)
  · exact fastPath_ok float d low high

theorem finishNumber_meets
    (minus : Bool) (s : Significand Double) {expFrac exp : Int}
    (low : -2147483648 ≤ exp + expFrac) (high : exp + expFrac ≤ 308) :
    Raises NumberError.IsReported
      (finishNumber float minus s expFrac exp) := by
  rw [finishNumber]
  split
  · obtain ⟨d, converted⟩ := strtodNormalPrecision_ok float s.d low high
    rw [int_ok low (by omega), ok_bind, converted, ok_bind]
    split
    · exact raises_error_iff.mpr trivial
    · exact raises_ok _
  · split
    · split <;> exact raises_ok _
    · split <;> exact raises_ok _

theorem parseInt32_reports (minus : Bool) (text : Bytes) :
    Raises NumberError.IsReported (parseInt32 minus text) := by
  cases text with
  | nil => exact raises_error_iff.mpr trivial
  | cons first rest =>
      rw [parseInt32]
      split
      · exact raises_ok _
      · split
        · exact raises_error_iff.mpr trivial
        · exact raises_ok _

/-- The integer part makes the text no longer. -/
theorem parseWhole_meets (minus : Bool) (text : Bytes) :
    Meets NumberError.IsReported
      (fun read => read.2.length ≤ text.length)
      (parseWhole float minus text) := by
  refine
    ⟨raises_bind (parseInt32_reports minus text) fun _ => raises_ok _, ?_⟩
  intro read returned
  have follows := parseWhole_follows float minus
  cases scanned : parseInt text with
  | none =>
      obtain ⟨raised, failed⟩ := follows.rejects scanned
      rw [failed] at returned
      cases returned
  | some found =>
      obtain ⟨whole, rest⟩ := found
      have divided := (parseInt_sound scanned).1
      rw [follows.reads_of_scan divided scanned] at returned
      cases alone : parseWhole float minus whole with
      | error raised =>
          rw [alone] at returned
          cases returned
      | ok value =>
          rw [alone] at returned
          cases returned
          rw [divided, List.length_append]
          exact Nat.le_add_left _ _

/-- Whatever stands in a text of this length, its number is read without
undefined behaviour and without a failed assertion. -/
theorem readNumber_defined
    {text : Bytes} (short : text.length ≤ 214748055) :
    Raises NumberError.IsReported (readNumber float text) := by
  have behindMinus := parseMinus_length_le text
  rw [readNumber]
  have whole :=
    parseWhole_meets float ((parseMinus text).1 = [ascii '-'])
      (parseMinus text).2
  have number :
      Meets NumberError.IsReported (fun _ => True)
        (readNumber float text) := by
    refine whole.bind fun read shorter => ?_
    refine
      (parseFracPart_meets float read.1 (by omega)).bind fun read counted => ?_
    refine
      (parseExpPart_meets float read.1.1 read.2 counted.1 counted.2).bind
        fun last bounds => ?_
    refine Meets.bind ⟨finishNumber_meets float _ _ bounds.1 bounds.2,
      fun _ _ => trivial⟩ fun event _ => meets_ok trivial
  exact number.1

end Number

theorem readNumber_defined_point_three :
    Raises NumberError.IsReported
      (readNumber exactArithmetic
        (['-', '0', '.', '3', 'e', '+', '1'].map ascii)) :=
  readNumber_defined exactArithmetic (by decide)

end ChannelSdk.RapidJson
