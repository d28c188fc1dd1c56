import Mathlib.Algebra.Field.Rat
import ChannelSdk.Lib.GuardedDigits
import ChannelSdk.RapidJsonReader

/-!
# The numbers of the JSON reader

`ParseNumber` of `third_party/rapidjson/include/rapidjson/reader.h` in full, on
a machine of 64 bits and with the default flags.  The code adds up the digits
while it scans them: in 32 bits as long as they fit, then in 64, then in a
`double`, with two counters of type `int` for the exponent.  The floating-point
operations are parameters; everything that decides which of them are called,
and on which integers, is here.

Arithmetic on `int` that overflows is undefined, and `Pow10` asserts that its
table has the power it is asked for; both are errors of the computation.
`significandDigit` never exceeds the digits of the largest significand by more
than one and is kept as a number.
-/

namespace ChannelSdk.RapidJson

open CheckedMemory JsonGrammar GuardedDigits

/-- The operations on `double` that `ParseNumber` calls. -/
structure FloatArithmetic (Double : Type) where
  /-- the literal `0.0` -/
  zero : Double
  /-- the conversion of an unsigned integer of 64 bits -/
  ofUInt64 : Nat → Double
  /-- `d * 10 + digit` -/
  timesTenPlus : Double → Nat → Double
  /-- `d > 0.0` -/
  isPositive : Double → Bool
  /-- `significand * e[n]` for the table of `Pow10` -/
  timesPow10 : Double → Nat → Double
  /-- `significand / e[n]` -/
  overPow10 : Double → Nat → Double
  /-- `d > std::numeric_limits<double>::max()` -/
  exceedsMax : Double → Bool
  negate : Double → Double
  /-- the number that a finite `double` is -/
  value : Double → Rat

/-- The parse errors of `ParseNumber`, and how it can fail otherwise. -/
inductive NumberError where
  | valueInvalid
  | numberMissFraction
  | numberMissExponent
  | numberTooBig
  | assertion
  | fault (fault : Fault)
  deriving DecidableEq, Repr

/-- The call of the handler at the end of a number. -/
inductive NumberEvent (Double : Type) where
  | int (i : Int)
  | uint (u : Nat)
  | int64 (i64 : Int)
  | uint64 (u64 : Nat)
  | double (d : Double)
  deriving DecidableEq

/-- The value of a digit. -/
def digitOf (c : UInt8) : Option Nat :=
  if isDigit c then some (c.toNat - 48) else none

/-- Arithmetic on `int`. -/
def int (value : Int) : Except NumberError Int :=
  (int32 value).mapError .fault

/-! ## The integer part -/

/-- The significand while it is an integer. -/
structure IntPart where
  i : Nat
  i64 : Nat
  use64bit : Bool
  significandDigit : Nat
  deriving DecidableEq, Repr

/-- `zero / ( digit1-9 *DIGIT )` in 32 bits.  The limit is `2 ^ 31` behind a
minus, and `2 ^ 32 - 1` without one. -/
def parseInt32 (minus : Bool) :
    Bytes → Except NumberError (IntPart × Bytes)
  | [] => .error .valueInvalid
  | first :: rest =>
      if first = ascii '0' then .ok (⟨0, 0, false, 0⟩, rest)
      else
        match digitOf first with
        | none => .error .valueInvalid
        | some i =>
            let run :=
              if minus then
                readDigits digitOf 4294967296 214748364 8 i 0 rest
              else readDigits digitOf 4294967296 429496729 5 i 0 rest
            .ok
              (⟨run.value, if run.stopped then run.value else 0,
                run.stopped, run.count⟩, run.rest)

/-- The significand when its digits have been read. -/
structure Significand (Double : Type) extends IntPart where
  useDouble : Bool
  d : Double
  deriving DecidableEq

section Reader

variable {Double : Type} (float : FloatArithmetic Double)

/-- The loop that forces a big integer into a `double`. -/
def forceDouble (d : Double) : Bytes → Double × Bytes
  | [] => (d, [])
  | c :: rest =>
      match digitOf c with
      | none => (d, c :: rest)
      | some digit => forceDouble (float.timesTenPlus d digit) rest

/-- The digits that did not fit into 32 bits.  The limit is `2 ^ 63` behind a
minus, and `2 ^ 64 - 1` without one. -/
def parseInt64 (minus : Bool) (part : IntPart) (text : Bytes) :
    Significand Double × Bytes :=
  if part.use64bit then
    let run :=
      if minus then
        readDigits digitOf 18446744073709551616 0x0CCCCCCCCCCCCCCC 8
          part.i64 part.significandDigit text
      else
        readDigits digitOf 18446744073709551616 0x1999999999999999 5
          part.i64 part.significandDigit text
    let part :=
      { part with
        i64 := run.value
        significandDigit := run.count }
    if run.stopped then
      let (d, rest) :=
        forceDouble float (float.ofUInt64 run.value) run.rest
      ({ part with useDouble := true, d }, rest)
    else ({ part with useDouble := false, d := float.zero }, run.rest)
  else ({ part with useDouble := false, d := float.zero }, text)

/-- The integer part of a number. -/
def parseWhole (minus : Bool) (text : Bytes) :
    Except NumberError (Significand Double × Bytes) := do
  let (part, text) ← parseInt32 minus text
  .ok (parseInt64 float minus part text)

/-- The significand as a `double`, when it was an integer up to here. -/
def Significand.toDouble (s : Significand Double) : Double :=
  if s.useDouble then s.d
  else float.ofUInt64 (if s.use64bit then s.i64 else s.i)

/-! ## The fraction -/

/-- The digits behind the point that fit into the significand: `i64`,
`expFrac` and `significandDigit`. -/
def fracSignificand (i64 : Nat) (expFrac : Int) (significandDigit : Nat) :
    Bytes → Except NumberError ((Nat × Int × Nat) × Bytes)
  | [] => .ok ((i64, expFrac, significandDigit), [])
  | c :: rest =>
      match digitOf c with
      | none => .ok ((i64, expFrac, significandDigit), c :: rest)
      | some digit =>
          if 0x1FFFFFFFFFFFFF < i64 then
            .ok ((i64, expFrac, significandDigit), c :: rest)
          else do
            let i64 := (i64 * 10 + digit) % 18446744073709551616
            let expFrac ← int (expFrac - 1)
            fracSignificand i64 expFrac
              (if i64 ≠ 0 then significandDigit + 1 else significandDigit)
              rest

/-- The other digits behind the point: 17 digits count. -/
def fracDouble (d : Double) (expFrac : Int) (significandDigit : Nat) :
    Bytes → Except NumberError ((Double × Int) × Bytes)
  | [] => .ok ((d, expFrac), [])
  | c :: rest =>
      match digitOf c with
      | none => .ok ((d, expFrac), c :: rest)
      | some digit =>
          if significandDigit < 17 then do
            let d := float.timesTenPlus d digit
            let expFrac ← int (expFrac - 1)
            fracDouble d expFrac
              (if float.isPositive d then significandDigit + 1
                else significandDigit)
              rest
          else fracDouble d expFrac significandDigit rest

/-- `decimal-point 1*DIGIT`, with `expFrac`. -/
def parseFracPart (s : Significand Double) (text : Bytes) :
    Except NumberError ((Significand Double × Int) × Bytes) :=
  match consume (ascii '.') text with
  | none => .ok ((s, 0), text)
  | some text =>
      if (text.head?.bind digitOf).isNone then .error .numberMissFraction
      else do
        let ((d, expFrac, significandDigit), text) ←
          if s.useDouble then .ok ((s.d, 0, s.significandDigit), text)
          else do
            let ((i64, expFrac, significandDigit), text) ←
              fracSignificand (if s.use64bit then s.i64 else s.i) 0
                s.significandDigit text
            .ok ((float.ofUInt64 i64, expFrac, significandDigit), text)
        let ((d, expFrac), text) ←
          fracDouble float d expFrac significandDigit text
        .ok (({ s with useDouble := true, d }, expFrac), text)

end Reader

/-! ## The exponent -/

/-- `exp * 10 + digit`. -/
def nextExp (exp : Int) (digit : Nat) : Except NumberError Int := do
  let scaled ← int (exp * 10)
  int (scaled + digit)

/-- The digits of an exponent behind a minus.  The first number above `maxExp`
is kept and the digits behind it are skipped. -/
def expMinusDigits (maxExp exp : Int) :
    Bytes → Except NumberError (Int × Bytes)
  | [] => .ok (exp, [])
  | c :: rest =>
      match digitOf c with
      | none => .ok (exp, c :: rest)
      | some digit => do
          let exp ← nextExp exp digit
          if maxExp < exp then .ok (exp, rest.dropWhile isDigit)
          else expMinusDigits maxExp exp rest

/-- The digits of an exponent without a minus. -/
def expPlusDigits (maxExp exp : Int) :
    Bytes → Except NumberError (Int × Bytes)
  | [] => .ok (exp, [])
  | c :: rest =>
      match digitOf c with
      | none => .ok (exp, c :: rest)
      | some digit => do
          let exp ← nextExp exp digit
          if maxExp < exp then .error .numberTooBig
          else expPlusDigits maxExp exp rest

/-- The digits of an exponent, with its sign. -/
def parseExpDigits (expMinus : Bool) (expFrac : Int) :
    Bytes → Except NumberError (Int × Bytes)
  | [] => .error .numberMissExponent
  | first :: rest =>
      match digitOf first with
      | none => .error .numberMissExponent
      | some exp =>
          if expMinus then
            if expFrac ≤ 0 then do
              let dividend ← int (expFrac + 2147483639)
              let maxExp ← (divInt32 dividend 10).mapError .fault
              let (exp, rest) ← expMinusDigits maxExp exp rest
              let exp ← int (-exp)
              .ok (exp, rest)
            else .error .assertion
          else do
            let maxExp ← int (308 - expFrac)
            expPlusDigits maxExp exp rest

section Reader

variable {Double : Type} (float : FloatArithmetic Double)

/-- `e [ minus / plus ] 1*DIGIT`, with `exp`. -/
def parseExpPart (s : Significand Double) (expFrac : Int) :
    Bytes → Except NumberError ((Significand Double × Int) × Bytes)
  | [] => .ok ((s, 0), [])
  | mark :: rest =>
      if mark = ascii 'e' ∨ mark = ascii 'E' then do
        let (sign, rest) := parseSign rest
        let (exp, rest) ← parseExpDigits (sign = [ascii '-']) expFrac rest
        .ok (({ s with useDouble := true, d := s.toDouble float }, exp), rest)
      else .ok ((s, 0), mark :: rest)

/-! ## The number -/

/-- The index of `Pow10`. -/
def pow10 (n : Int) : Except NumberError Nat :=
  if 0 ≤ n ∧ n ≤ 308 then .ok n.toNat else .error .assertion

/-- `internal::FastPath`. -/
def fastPath (significand : Double) (exp : Int) :
    Except NumberError Double :=
  if exp < -308 then .ok float.zero
  else if 0 ≤ exp then do
    let n ← pow10 exp
    .ok (float.timesPow10 significand n)
  else do
    let negated ← int (-exp)
    let n ← pow10 negated
    .ok (float.overPow10 significand n)

/-- `internal::StrtodNormalPrecision`. -/
def strtodNormalPrecision (d : Double) (p : Int) :
    Except NumberError Double :=
  if p < -308 then do
    let d ← fastPath float d (-308)
    let shifted ← int (p + 308)
    fastPath float d shifted
  else fastPath float d p

/-- The end of `ParseNumber`.  `~i + 1` is the negative of `i` modulo the size
of its word. -/
def finishNumber (minus : Bool) (s : Significand Double)
    (expFrac exp : Int) : Except NumberError (NumberEvent Double) :=
  if s.useDouble then do
    let p ← int (exp + expFrac)
    let d ← strtodNormalPrecision float s.d p
    if float.exceedsMax d then .error .numberTooBig
    else .ok (.double (if minus then float.negate d else d))
  else if s.use64bit then
    if minus then
      .ok (.int64
        (Int.bmod ((18446744073709551615 - s.i64) + 1) 18446744073709551616))
    else .ok (.uint64 s.i64)
  else if minus then .ok (.int (toInt32 ((4294967295 - s.i) + 1)))
  else .ok (.uint s.i)

/-- `ParseNumber`. -/
def readNumber (text : Bytes) :
    Except NumberError (NumberEvent Double × Bytes) := do
  let (sign, text) := parseMinus text
  let minus : Bool := sign = [ascii '-']
  let (s, text) ← parseWhole float minus text
  let ((s, expFrac), text) ← parseFracPart float s text
  let ((s, exp), text) ← parseExpPart float s expFrac text
  let event ← finishNumber float minus s expFrac exp
  .ok (event, text)

/-! ## The value in the document -/

/-- The value that the handler makes. -/
def NumberEvent.document : NumberEvent Double → Json
  | .int i => .integer i
  | .uint u => .integer u
  | .int64 i64 => .integer i64
  | .uint64 u64 => .integer u64
  | .double d => .decimal (float.value d)

/-- `kIntFlag`, as the constructors of `GenericValue` set it. -/
def NumberEvent.isInt : NumberEvent Double → Bool
  | .int _ => true
  | .uint u => u &&& 0x80000000 = 0
  | .int64 i64 =>
      if 0 ≤ i64 then i64.toNat &&& 0xFFFFFFFF80000000 = 0
      else -2147483648 ≤ i64
  | .uint64 u64 => u64 &&& 0xFFFFFFFF80000000 = 0
  | .double _ => false

/-- The number that the reader has for the text of a number. -/
def numberOf (token : Bytes) : Option Json :=
  (readNumber float token).toOption.map fun read => read.1.document float

end Reader

/-- The operations without rounding, and with the greatest `double`. -/
def exactArithmetic : FloatArithmetic Rat where
  zero := 0
  ofUInt64 n := n
  timesTenPlus d digit := d * 10 + digit
  isPositive d := 0 < d
  timesPow10 d n := d * 10 ^ n
  overPow10 d n := d / 10 ^ n
  exceedsMax d := 2 ^ 1024 - 2 ^ 971 < d
  negate d := -d
  value d := d

end ChannelSdk.RapidJson
