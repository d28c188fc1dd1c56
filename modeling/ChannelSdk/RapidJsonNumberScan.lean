import ChannelSdk.RapidJsonNumbers
import ChannelSdk.RapidJsonSoundness

/-!
# The numbers of the reader against their scan

`ParseNumber` adds up the digits while it scans them, and stops adding in
different places of a number.  What it takes from a text is still what the
scan of the grammar takes, and the value depends on the taken bytes only: the
number that the code reads is the scanned token, converted.

Each of its loops reads digits and never looks behind the first byte that is
no digit.  This is proved once for a loop and carried through sequences of
loops.
-/

namespace ChannelSdk.RapidJson

open CheckedMemory JsonGrammar GuardedDigits

/-! ## Digits -/

theorem digitOf_eq_none {c : UInt8} :
    digitOf c = none ↔ isDigit c = false := by
  simp [digitOf]

theorem digitOf_of_isDigit {c : UInt8} (digit : isDigit c = true) :
    digitOf c = some (c.toNat - 48) :=
  if_pos digit

theorem digitOf_le_nine
    (c : UInt8) (digit : Nat) (isOne : digitOf c = some digit) :
    digit ≤ 9 := by
  rw [digitOf] at isOne
  split at isOne
  · next inRange =>
      simp only [isDigit, Bool.and_eq_true, decide_eq_true_eq,
        UInt8.le_iff_toNat_le] at inRange
      have upper : c.toNat ≤ 57 := inRange.2
      cases isOne
      omega
  · cases isOne

theorem allDigits_of_isDigit
    {digits : Bytes} (areDigits : ∀ c ∈ digits, isDigit c = true) :
    AllDigits digitOf digits := by
  intro c member
  rw [digitOf_of_isDigit (areDigits c member)]
  rfl

theorem head_isNone_of_digits
    {digits : Bytes} (areDigits : Digits digits) :
    (digits.head?.bind digitOf).isNone = false := by
  cases digits with
  | nil => exact absurd rfl areDigits.1
  | cons first others =>
      have isOne :=
        digitOf_of_isDigit (areDigits.2 first List.mem_cons_self)
      rw [List.head?_cons, Option.bind_some, isOne]
      rfl

theorem noDigit_dropWhile (text : Bytes) :
    NoDigit digitOf (text.dropWhile isDigit) := by
  intro c member
  have stopped := List.head?_dropWhile_not isDigit text
  rw [Option.mem_def.mp member] at stopped
  exact digitOf_eq_none.mpr stopped

/-! ## Loops over digits -/

section Loops

variable {Value Result Double : Type}

/-- What a loop over digits does in front of a byte that is no digit: the byte
does not matter, and what the loop leaves are digits. -/
structure DigitLoop
    (loop : Bytes → Except NumberError (Value × Bytes)) : Prop where
  append :
    ∀ {digits rest : Bytes}, AllDigits digitOf digits →
      NoDigit digitOf rest →
      loop (digits ++ rest) =
        (loop digits).map fun read => (read.1, read.2 ++ rest)
  leaves :
    ∀ {digits left : Bytes} {value : Value}, AllDigits digitOf digits →
      loop digits = .ok (value, left) → AllDigits digitOf left

/-- The loop reads all digits. -/
def Exhausts (loop : Bytes → Except NumberError (Value × Bytes)) : Prop :=
  ∀ {digits left : Bytes} {value : Value}, AllDigits digitOf digits →
    loop digits = .ok (value, left) → left = []

theorem map_behind
    {failure : Type} (computation : Except failure (Value × Bytes))
    (rest : Bytes)
    (exhausts : ∀ value left, computation = .ok (value, left) → left = []) :
    (computation.map fun read => (read.1, read.2 ++ rest)) =
      computation.map fun read => (read.1, rest) := by
  cases computation with
  | error raised => rfl
  | ok read =>
      obtain ⟨value, left⟩ := read
      rw [exhausts value left rfl]
      rfl

/-- A loop that reads all digits leaves what stands behind them. -/
theorem DigitLoop.reads
    {loop : Bytes → Except NumberError (Value × Bytes)}
    (digitLoop : DigitLoop loop) (exhausts : Exhausts loop)
    {digits rest : Bytes} (areDigits : AllDigits digitOf digits)
    (noDigit : NoDigit digitOf rest) :
    loop (digits ++ rest) =
      (loop digits).map fun read => (read.1, rest) := by
  rw [digitLoop.append areDigits noDigit]
  exact map_behind _ _ fun value left ran => exhausts areDigits ran

section Sequence

variable {first : Bytes → Except NumberError (Value × Bytes)}
variable {second : Value → Bytes → Except NumberError (Result × Bytes)}

theorem DigitLoop.bind
    (firstLoop : DigitLoop first)
    (secondLoop : ∀ value, DigitLoop (second value)) :
    DigitLoop fun text => first text >>= fun read => second read.1 read.2 where
  append := by
    intro digits rest areDigits noDigit
    simp only [firstLoop.append areDigits noDigit]
    cases ran : first digits with
    | error raised => rfl
    | ok read =>
        exact (secondLoop read.1).append (firstLoop.leaves areDigits ran)
          noDigit
  leaves := by
    intro digits left value areDigits ran
    obtain ⟨read, firstRan, secondRan⟩ := bind_eq_ok ran
    exact (secondLoop read.1).leaves (firstLoop.leaves areDigits firstRan)
      secondRan

theorem Exhausts.bind
    (firstLoop : DigitLoop first)
    (exhausts : ∀ value, Exhausts (second value)) :
    Exhausts fun text => first text >>= fun read => second read.1 read.2 := by
  intro digits left value areDigits ran
  obtain ⟨read, firstRan, secondRan⟩ := bind_eq_ok ran
  exact exhausts read.1 (firstLoop.leaves areDigits firstRan) secondRan

end Sequence

/-- A computation that reads nothing. -/
theorem digitLoop_pure (value : Value) :
    DigitLoop fun text => .ok (value, text) where
  append := fun _ _ => rfl
  leaves := by
    intro digits left other areDigits ran
    cases ran
    exact areDigits

/-- What a loop with a state does at a digit. -/
inductive Pass
    {State : Type} (canStop : Prop)
    (loop : State → Bytes → Except NumberError (Value × Bytes))
    (valueOf : State → Value) (state : State) (c : UInt8) : Prop
  | stops :
      canStop →
      (∀ rest, loop state (c :: rest) = .ok (valueOf state, c :: rest)) →
      Pass canStop loop valueOf state c
  | raises (raised : NumberError) :
      (∀ rest, loop state (c :: rest) = .error raised) →
      Pass canStop loop valueOf state c
  | skips (value : Value) :
      (∀ rest,
        loop state (c :: rest) = .ok (value, rest.dropWhile isDigit)) →
      Pass canStop loop valueOf state c
  | goesOn (next : State) :
      (∀ rest, loop state (c :: rest) = loop next rest) →
      Pass canStop loop valueOf state c

theorem noDigit_nil : NoDigit digitOf [] :=
  fun _ member => nomatch member

theorem dropWhile_digits
    {digits rest : Bytes} (areDigits : AllDigits digitOf digits)
    (noDigit : NoDigit digitOf rest) :
    (digits ++ rest).dropWhile isDigit = rest := by
  have areOnes : ∀ c ∈ digits, isDigit c = true := by
    intro c member
    by_contra notDigit
    rw [Bool.not_eq_true, ← digitOf_eq_none] at notDigit
    have isSome := areDigits c member
    rw [notDigit] at isSome
    cases isSome
  rw [List.dropWhile_append_of_pos areOnes]
  cases rest with
  | nil => rfl
  | cons c others =>
      have noOne : isDigit c = false := digitOf_eq_none.mp (noDigit c rfl)
      exact List.dropWhile_cons_of_neg (by simp [noOne])

section Passes

variable {State : Type} {canStop : Prop}
variable {loop : State → Bytes → Except NumberError (Value × Bytes)}
variable {valueOf : State → Value}
variable
  (ends :
    ∀ state rest, NoDigit digitOf rest →
      loop state rest = .ok (valueOf state, rest))

include ends

theorem digitLoop_of_passes
    (pass :
      ∀ state c digit, digitOf c = some digit →
        Pass canStop loop valueOf state c)
    (state : State) : DigitLoop (loop state) where
  append := by
    intro digits rest areDigits noDigit
    induction digits generalizing state with
    | nil =>
        rw [List.nil_append, ends state rest noDigit,
          ends state [] noDigit_nil]
        rfl
    | cons c others inductionHypothesis =>
        obtain ⟨⟨digit, isOne⟩, othersDigits⟩ := areDigits.cons
        rw [List.cons_append]
        cases pass state c digit isOne with
        | stops _ here =>
            rw [here, here]
            rfl
        | raises raised here =>
            rw [here, here]
            rfl
        | skips value here =>
            have skipped := dropWhile_digits othersDigits noDigit_nil
            rw [List.append_nil] at skipped
            rw [here, here, dropWhile_digits othersDigits noDigit, skipped]
            rfl
        | goesOn next here =>
            rw [here, here]
            exact inductionHypothesis next othersDigits
  leaves := by
    intro digits left value areDigits ran
    induction digits generalizing state with
    | nil =>
        rw [ends state [] noDigit_nil] at ran
        cases ran
        exact areDigits
    | cons c others inductionHypothesis =>
        obtain ⟨⟨digit, isOne⟩, othersDigits⟩ := areDigits.cons
        cases pass state c digit isOne with
        | stops _ here =>
            rw [here] at ran
            cases ran
            exact areDigits
        | raises raised here =>
            rw [here] at ran
            cases ran
        | skips found here =>
            rw [here] at ran
            cases ran
            exact fun byte member =>
              othersDigits byte
                ((List.dropWhile_suffix isDigit).subset member)
        | goesOn next here =>
            rw [here] at ran
            exact inductionHypothesis next othersDigits ran

theorem exhausts_of_passes
    (pass :
      ∀ state c digit, digitOf c = some digit →
        Pass False loop valueOf state c)
    (state : State) : Exhausts (loop state) := by
  intro digits left value areDigits ran
  induction digits generalizing state with
  | nil =>
      rw [ends state [] noDigit_nil] at ran
      cases ran
      rfl
  | cons c others inductionHypothesis =>
      obtain ⟨⟨digit, isOne⟩, othersDigits⟩ := areDigits.cons
      cases pass state c digit isOne with
      | stops never => exact never.elim
      | raises raised here =>
          rw [here] at ran
          cases ran
      | skips found here =>
          have skipped := dropWhile_digits othersDigits noDigit_nil
          rw [List.append_nil] at skipped
          rw [here, skipped] at ran
          cases ran
          rfl
      | goesOn next here =>
          rw [here] at ran
          exact inductionHypothesis next othersDigits ran

end Passes

end Loops

/-! ## The loops of the reader -/

section Reader

variable {Double : Type} (float : FloatArithmetic Double)

theorem forceDouble_append
    (d : Double) {digits rest : Bytes} (areDigits : AllDigits digitOf digits)
    (noDigit : NoDigit digitOf rest) :
    forceDouble float d (digits ++ rest) =
      ((forceDouble float d digits).1, rest) := by
  induction digits generalizing d with
  | nil =>
      cases rest with
      | nil => rfl
      | cons c others =>
          have notDigit : digitOf c = none := noDigit c rfl
          simp only [List.nil_append, forceDouble, notDigit]
  | cons c others inductionHypothesis =>
      obtain ⟨⟨digit, isOne⟩, othersDigits⟩ := areDigits.cons
      simp only [List.cons_append, forceDouble, isOne]
      exact inductionHypothesis _ othersDigits

/-- What the loops do where there is no digit. -/
theorem fracSignificand_noDigit
    (state : Nat × Int × Nat) (rest : Bytes)
    (noDigit : NoDigit digitOf rest) :
    fracSignificand state.1 state.2.1 state.2.2 rest =
      .ok (state, rest) := by
  cases rest with
  | nil => rfl
  | cons c others =>
      have notDigit : digitOf c = none := noDigit c rfl
      simp only [fracSignificand, notDigit]

/-- The significand takes digits until it has 53 bits. -/
theorem fracSignificand_pass
    (state : Nat × Int × Nat) (c : UInt8) (digit : Nat)
    (isOne : digitOf c = some digit) :
    Pass True
      (fun state => fracSignificand state.1 state.2.1 state.2.2) id
      state c := by
  by_cases full : 0x1FFFFFFFFFFFFF < state.1
  · refine .stops trivial fun rest => ?_
    simp only [fracSignificand, isOne, if_pos full, id]
  · cases counted : int (state.2.1 - 1) with
    | error raised =>
        refine .raises raised fun rest => ?_
        simp only [fracSignificand, isOne, if_neg full, counted]
        rfl
    | ok expFrac =>
        refine
          .goesOn
            ((state.1 * 10 + digit) % 18446744073709551616, expFrac,
              if (state.1 * 10 + digit) % 18446744073709551616 ≠ 0 then
                state.2.2 + 1
              else state.2.2)
            fun rest => ?_
        simp only [fracSignificand, isOne, if_neg full, counted]
        rfl

theorem fracSignificand_loop
    (i64 : Nat) (expFrac : Int) (significandDigit : Nat) :
    DigitLoop (fracSignificand i64 expFrac significandDigit) :=
  digitLoop_of_passes fracSignificand_noDigit fracSignificand_pass
    (i64, expFrac, significandDigit)

theorem fracDouble_noDigit
    (state : Double × Int × Nat) (rest : Bytes)
    (noDigit : NoDigit digitOf rest) :
    fracDouble float state.1 state.2.1 state.2.2 rest =
      .ok ((state.1, state.2.1), rest) := by
  cases rest with
  | nil => rfl
  | cons c others =>
      have notDigit : digitOf c = none := noDigit c rfl
      simp only [fracDouble, notDigit]

/-- It goes on to the last digit, also when the digits no longer count. -/
theorem fracDouble_pass
    (state : Double × Int × Nat) (c : UInt8) (digit : Nat)
    (isOne : digitOf c = some digit) :
    Pass False
      (fun state => fracDouble float state.1 state.2.1 state.2.2)
      (fun state => (state.1, state.2.1)) state c := by
  by_cases counts : state.2.2 < 17
  · cases counted : int (state.2.1 - 1) with
    | error raised =>
        refine .raises raised fun rest => ?_
        simp only [fracDouble, isOne, if_pos counts, counted]
        rfl
    | ok expFrac =>
        refine
          .goesOn
            (float.timesTenPlus state.1 digit, expFrac,
              if float.isPositive (float.timesTenPlus state.1 digit) then
                state.2.2 + 1
              else state.2.2)
            fun rest => ?_
        simp only [fracDouble, isOne, if_pos counts, counted]
        rfl
  · refine .goesOn state fun rest => ?_
    simp only [fracDouble, isOne, if_neg counts]

theorem fracDouble_loop
    (d : Double) (expFrac : Int) (significandDigit : Nat) :
    DigitLoop (fracDouble float d expFrac significandDigit) :=
  digitLoop_of_passes (fracDouble_noDigit float) (fracDouble_pass float)
    (d, expFrac, significandDigit)

theorem fracDouble_exhausts
    (d : Double) (expFrac : Int) (significandDigit : Nat) :
    Exhausts (fracDouble float d expFrac significandDigit) :=
  exhausts_of_passes (fracDouble_noDigit float) (fracDouble_pass float)
    (d, expFrac, significandDigit)

end Reader

section Exponent

variable (maxExp : Int)

theorem expMinusDigits_noDigit
    (exp : Int) (rest : Bytes) (noDigit : NoDigit digitOf rest) :
    expMinusDigits maxExp exp rest = .ok (exp, rest) := by
  cases rest with
  | nil => rfl
  | cons c others =>
      have notDigit : digitOf c = none := noDigit c rfl
      simp only [expMinusDigits, notDigit]

theorem expMinusDigits_pass
    (exp : Int) (c : UInt8) (digit : Nat)
    (isOne : digitOf c = some digit) :
    Pass False (expMinusDigits maxExp) id exp c := by
  cases counted : nextExp exp digit with
  | error raised =>
      refine .raises raised fun rest => ?_
      simp only [expMinusDigits, isOne, counted]
      rfl
  | ok next =>
      by_cases beyond : maxExp < next
      · refine .skips next fun rest => ?_
        simp only [expMinusDigits, isOne, counted, ok_bind, if_pos beyond]
      · refine .goesOn next fun rest => ?_
        simp only [expMinusDigits, isOne, counted, ok_bind, if_neg beyond]

theorem expPlusDigits_noDigit
    (exp : Int) (rest : Bytes) (noDigit : NoDigit digitOf rest) :
    expPlusDigits maxExp exp rest = .ok (exp, rest) := by
  cases rest with
  | nil => rfl
  | cons c others =>
      have notDigit : digitOf c = none := noDigit c rfl
      simp only [expPlusDigits, notDigit]

theorem expPlusDigits_pass
    (exp : Int) (c : UInt8) (digit : Nat)
    (isOne : digitOf c = some digit) :
    Pass False (expPlusDigits maxExp) id exp c := by
  cases counted : nextExp exp digit with
  | error raised =>
      refine .raises raised fun rest => ?_
      simp only [expPlusDigits, isOne, counted]
      rfl
  | ok next =>
      by_cases beyond : maxExp < next
      · refine .raises .numberTooBig fun rest => ?_
        simp only [expPlusDigits, isOne, counted, ok_bind, if_pos beyond]
      · refine .goesOn next fun rest => ?_
        simp only [expPlusDigits, isOne, counted, ok_bind, if_neg beyond]

/-- The digits of an exponent are all read, whatever its sign. -/
theorem parseExpDigits_append
    (expMinus : Bool) (expFrac : Int) {digits rest : Bytes}
    (areDigits : AllDigits digitOf digits) (nonempty : digits ≠ [])
    (noDigit : NoDigit digitOf rest) :
    parseExpDigits expMinus expFrac (digits ++ rest) =
      (parseExpDigits expMinus expFrac digits).map
        fun read => (read.1, rest) := by
  obtain ⟨c, others, rfl⟩ := List.exists_cons_of_ne_nil nonempty
  obtain ⟨⟨exp, isOne⟩, othersDigits⟩ := areDigits.cons
  simp only [List.cons_append, parseExpDigits, isOne]
  split
  · split
    · cases int (expFrac + 2147483639) with
      | error raised => rfl
      | ok dividend =>
          cases bounded : (divInt32 dividend 10).mapError NumberError.fault with
          | error raised => simp only [ok_bind, bounded]; rfl
          | ok maxExp =>
              simp only [ok_bind, bounded]
              rw [(digitLoop_of_passes (expMinusDigits_noDigit maxExp)
                  (expMinusDigits_pass maxExp) exp).reads
                (exhausts_of_passes (expMinusDigits_noDigit maxExp)
                  (expMinusDigits_pass maxExp) exp)
                othersDigits noDigit]
              cases expMinusDigits maxExp exp others with
              | error raised => rfl
              | ok read =>
                  simp only [Except.map, ok_bind]
                  cases int (-read.1) <;> rfl
    · rfl
  · cases int (308 - expFrac) with
    | error raised => rfl
    | ok maxExp =>
        simp only [ok_bind]
        exact
          (digitLoop_of_passes (expPlusDigits_noDigit maxExp)
            (expPlusDigits_pass maxExp) exp).reads
            (exhausts_of_passes (expPlusDigits_noDigit maxExp)
              (expPlusDigits_pass maxExp) exp)
            othersDigits noDigit

end Exponent

/-! ## The parts of a number -/

section Parts

variable {Double : Type} (float : FloatArithmetic Double)

/-- A part of a number is read as it is scanned: what stands behind it does
not matter, and what is no part for the scan is an error. -/
structure Follows {Value : Type} (scan : Reader Bytes)
    (read : Bytes → Except NumberError (Value × Bytes)) : Prop where
  reads :
    ∀ {part rest : Bytes}, scan (part ++ rest) = some (part, rest) →
      read (part ++ rest) = (read part).map fun found => (found.1, rest)
  rejects :
    ∀ {text : Bytes}, scan text = none →
      ∃ raised, read text = .error raised

theorem parseInt64_append
    (minus : Bool) (part : IntPart) {digits rest : Bytes}
    (areDigits : AllDigits digitOf digits) (noDigit : NoDigit digitOf rest)
    (nothing : part.use64bit = false → digits = []) :
    parseInt64 float minus part (digits ++ rest) =
      ((parseInt64 float minus part digits).1, rest) := by
  unfold parseInt64
  split
  · obtain ⟨threshold, last, same⟩ :
        ∃ threshold last, ∀ text,
          (if minus then
              readDigits digitOf 18446744073709551616 0x0CCCCCCCCCCCCCCC 8
                part.i64 part.significandDigit text
            else
              readDigits digitOf 18446744073709551616 0x1999999999999999 5
                part.i64 part.significandDigit text) =
            readDigits digitOf 18446744073709551616 threshold last
              part.i64 part.significandDigit text := by
      cases minus
      · exact ⟨_, _, fun _ => rfl⟩
      · exact ⟨_, _, fun _ => rfl⟩
    obtain ⟨appended, leaves, exhausted⟩ :=
      readDigits_append 18446744073709551616 threshold last part.i64
        part.significandDigit areDigits noDigit
    simp only [same, appended]
    split
    · rw [forceDouble_append float _ leaves noDigit]
    · next running =>
        rw [exhausted (by simpa using running), List.nil_append]
  · next narrow =>
      rw [nothing (by simpa using narrow), List.nil_append]

/-- The digits that are left for 64 bits. -/
theorem parseInt32_append
    (minus : Bool) {first : UInt8} {digits rest : Bytes} {i : Nat}
    (notZero : first ≠ ascii '0') (isOne : digitOf first = some i)
    (areDigits : AllDigits digitOf digits) (noDigit : NoDigit digitOf rest) :
    ∃ part left,
      parseInt32 minus (first :: digits) = .ok (part, left) ∧
        parseInt32 minus (first :: (digits ++ rest)) =
          .ok (part, left ++ rest) ∧
        AllDigits digitOf left ∧ (part.use64bit = false → left = []) := by
  obtain ⟨threshold, last, same⟩ :
      ∃ threshold last, ∀ text,
        (if minus then readDigits digitOf 4294967296 214748364 8 i 0 text
          else readDigits digitOf 4294967296 429496729 5 i 0 text) =
          readDigits digitOf 4294967296 threshold last i 0 text := by
    cases minus
    · exact ⟨_, _, fun _ => rfl⟩
    · exact ⟨_, _, fun _ => rfl⟩
  obtain ⟨appended, leaves, exhausted⟩ :=
    readDigits_append 4294967296 threshold last i 0 areDigits noDigit
  let run := readDigits digitOf 4294967296 threshold last i 0 digits
  refine
    ⟨⟨run.value, if run.stopped then run.value else 0, run.stopped,
      run.count⟩, run.rest, ?_, ?_, leaves, exhausted⟩
  · simp only [parseInt32, if_neg notZero, isOne, same]
    rfl
  · simp only [parseInt32, if_neg notZero, isOne, same, appended, run]

theorem parseDigits_noDigit
    {text digits rest : Bytes}
    (scanned : parseDigits text = some (digits, rest)) :
    NoDigit digitOf rest := by
  rw [parseDigits, takeDigits] at scanned
  dsimp only at scanned
  split at scanned
  · cases scanned
  · cases scanned
    exact noDigit_dropWhile text

theorem head_of_parseDigits
    (text : Bytes) :
    (text.head?.bind digitOf).isNone = (parseDigits text).isNone := by
  cases text with
  | nil => rfl
  | cons c others =>
      cases digit : isDigit c with
      | true =>
          simp [parseDigits, takeDigits, digitOf_of_isDigit digit, digit]
      | false =>
          have none_taken : (c :: others).takeWhile isDigit = [] :=
            List.takeWhile_cons_of_neg (by simp [digit])
          simp [parseDigits, takeDigits, none_taken,
            digitOf_eq_none.mpr digit]

theorem parseWhole_follows (minus : Bool) :
    Follows parseInt (parseWhole float minus) where
  reads := by
    intro part rest scanned
    obtain ⟨-, isWhole⟩ := parseInt_sound scanned
    obtain rfl | ⟨first, digits, rfl, notZero, digit, areDigits⟩ := isWhole
    · rfl
    · have isOne := digitOf_of_isDigit digit
      have noDigit : NoDigit digitOf rest := by
        rw [List.cons_append, parseInt, if_neg notZero, if_pos digit,
          takeDigits] at scanned
        simp only [Option.some.injEq, Prod.mk.injEq] at scanned
        rw [← scanned.2]
        exact noDigit_dropWhile _
      obtain ⟨whole, left, alone, appended, leftDigits, nothing⟩ :=
        parseInt32_append minus notZero isOne
          (allDigits_of_isDigit areDigits) noDigit
      simp only [List.cons_append, parseWhole, alone, appended, ok_bind]
      rw [parseInt64_append float minus whole leftDigits noDigit nothing]
      rfl
  rejects := by
    intro text failed
    cases text with
    | nil => exact ⟨_, rfl⟩
    | cons first rest =>
        rw [parseInt] at failed
        split at failed
        · cases failed
        · next notZero =>
            split at failed
            · cases failed
            · next notDigit =>
                have noOne : digitOf first = none :=
                  digitOf_eq_none.mpr (by simpa using notDigit)
                refine ⟨.valueInvalid, ?_⟩
                simp only [parseWhole, parseInt32, if_neg notZero, noOne]
                rfl

/-- The loops behind the point, from the significand so far. -/
def fracLoops (s : Significand Double) (text : Bytes) :
    Except NumberError ((Double × Int) × Bytes) :=
  (if s.useDouble then .ok ((s.d, 0, s.significandDigit), text)
    else do
      let ((i64, expFrac, significandDigit), text) ←
        fracSignificand (if s.use64bit then s.i64 else s.i) 0
          s.significandDigit text
      .ok ((float.ofUInt64 i64, expFrac, significandDigit), text)) >>=
    fun read => fracDouble float read.1.1 read.1.2.1 read.1.2.2 read.2

theorem parseFracPart_digits
    (s : Significand Double) (text : Bytes)
    (present : (text.head?.bind digitOf).isNone = false) :
    parseFracPart float s (ascii '.' :: text) =
      (fracLoops float s text).map fun read =>
        (({ s with useDouble := true, d := read.1.1 }, read.1.2),
          read.2) := by
  have isPresent : ¬ (text.head?.bind digitOf).isNone = true := by
    rw [present]
    exact Bool.false_ne_true
  simp only [parseFracPart, consume_self, if_neg isPresent, fracLoops]
  split
  · simp only [ok_bind]
    cases fracDouble float s.d 0 s.significandDigit text <;> rfl
  · cases
      fracSignificand (if s.use64bit then s.i64 else s.i) 0
        s.significandDigit text with
    | error raised => rfl
    | ok read =>
        simp only [ok_bind]
        cases
          fracDouble float (float.ofUInt64 read.1.1) read.1.2.1 read.1.2.2
            read.2 <;> rfl

theorem fracLoops_reads
    (s : Significand Double) {digits rest : Bytes}
    (areDigits : AllDigits digitOf digits)
    (noDigit : NoDigit digitOf rest) :
    fracLoops float s (digits ++ rest) =
      (fracLoops float s digits).map fun read => (read.1, rest) := by
  have firstLoop :
      DigitLoop fun text =>
        (if s.useDouble then .ok ((s.d, 0, s.significandDigit), text)
          else do
            let ((i64, expFrac, significandDigit), text) ←
              fracSignificand (if s.use64bit then s.i64 else s.i) 0
                s.significandDigit text
            .ok ((float.ofUInt64 i64, expFrac, significandDigit), text) :
          Except NumberError ((Double × Int × Nat) × Bytes)) := by
    split
    · exact digitLoop_pure _
    · exact
        (fracSignificand_loop _ _ _).bind fun value =>
          digitLoop_pure
            (float.ofUInt64 value.1, value.2.1, value.2.2)
  have secondLoop : ∀ value : Double × Int × Nat,
      DigitLoop (fracDouble float value.1 value.2.1 value.2.2) :=
    fun value => fracDouble_loop float value.1 value.2.1 value.2.2
  exact
    (firstLoop.bind secondLoop).reads
      (Exhausts.bind firstLoop fun value =>
        fracDouble_exhausts float value.1 value.2.1 value.2.2)
      areDigits noDigit

theorem parseFracPart_follows (s : Significand Double) :
    Follows parseFrac (parseFracPart float s) where
  reads := by
    intro part rest scanned
    obtain ⟨-, isFraction⟩ := parseFrac_sound scanned
    obtain rfl | ⟨digits, rfl, nonempty, areDigits⟩ := isFraction
    · rw [List.nil_append, parseFrac] at scanned
      split at scanned
      · obtain ⟨found, -, same⟩ := Option.bind_eq_some_iff.mp scanned
        cases same
      · next noPoint =>
          rw [List.nil_append, parseFracPart, noPoint]
          rfl
    · rw [List.cons_append, parseFrac, consume_self] at scanned
      obtain ⟨⟨found, behind⟩, readDigits, same⟩ :=
        Option.bind_eq_some_iff.mp scanned
      cases same
      have noDigit := parseDigits_noDigit readDigits
      have digitsAll := allDigits_of_isDigit areDigits
      have present : ((digits ++ rest).head?.bind digitOf).isNone = false := by
        rw [head_of_parseDigits, readDigits]
        rfl
      have alone : (digits.head?.bind digitOf).isNone = false := by
        rw [← present, List.head?_append_of_ne_nil _ nonempty]
      rw [List.cons_append, parseFracPart_digits float s _ present,
        parseFracPart_digits float s _ alone,
        fracLoops_reads float s digitsAll noDigit]
      cases fracLoops float s digits <;> rfl
  rejects := by
    intro text failed
    rw [parseFrac] at failed
    split at failed
    · next rest consumed =>
        have noDigits : parseDigits rest = none := by
          cases scanned : parseDigits rest with
          | none => rfl
          | some found =>
              rw [scanned] at failed
              cases failed
        have missing : (rest.head?.bind digitOf).isNone = true := by
          rw [head_of_parseDigits, noDigits]
          rfl
        refine ⟨.numberMissFraction, ?_⟩
        simp only [parseFracPart, consumed, if_pos missing]
    · cases failed

theorem parseExpDigits_missing
    (expMinus : Bool) (expFrac : Int) {text : Bytes}
    (noDigits : parseDigits text = none) :
    parseExpDigits expMinus expFrac text = .error .numberMissExponent := by
  have missing := head_of_parseDigits text
  rw [noDigits] at missing
  cases text with
  | nil => rfl
  | cons c others =>
      have notDigit : digitOf c = none := by simpa using missing
      simp only [parseExpDigits, notDigit]

theorem parseExpPart_follows (s : Significand Double) (expFrac : Int) :
    Follows parseExp (parseExpPart float s expFrac) where
  reads := by
    intro part rest scanned
    obtain ⟨-, isExponent⟩ := parseExp_sound scanned
    obtain rfl | ⟨mark, sign, digits, rfl, isMark, isSign, areDigits⟩ :=
      isExponent
    · rw [List.nil_append] at scanned ⊢
      cases rest with
      | nil => rfl
      | cons mark others =>
          rw [parseExp] at scanned
          split at scanned
          · obtain ⟨found, -, same⟩ := Option.bind_eq_some_iff.mp scanned
            cases same
          · next noMark =>
              have nothing :
                  parseExpPart float s expFrac (mark :: others) =
                    .ok ((s, 0), mark :: others) := if_neg noMark
              rw [nothing]
              rfl
    · have digitsAll := allDigits_of_isDigit areDigits.2
      have signed := parseSign_append isSign (starts_digits areDigits rest)
      have alone := parseSign_append isSign (starts_digits areDigits [])
      rw [List.append_nil] at alone
      rw [List.cons_append, List.append_assoc] at scanned ⊢
      rw [parseExp, if_pos isMark, signed] at scanned
      obtain ⟨⟨found, behind⟩, readDigits, same⟩ :=
        Option.bind_eq_some_iff.mp scanned
      simp only [Option.some.injEq, Prod.mk.injEq, List.cons.injEq,
        List.append_cancel_left_eq] at same
      obtain ⟨⟨-, rfl⟩, rfl⟩ := same
      have noDigit := parseDigits_noDigit readDigits
      simp only [parseExpPart, if_pos isMark, signed, alone]
      rw [parseExpDigits_append _ expFrac digitsAll areDigits.1 noDigit]
      cases parseExpDigits (decide (sign = [ascii '-'])) expFrac found with
      | error raised => rfl
      | ok read => rfl
  rejects := by
    intro text failed
    cases text with
    | nil => cases failed
    | cons mark rest =>
        rw [parseExp] at failed
        split at failed
        · next isMark =>
            obtain ⟨⟨sign, behind⟩, signed⟩ : ∃ found, parseSign rest = found :=
              ⟨_, rfl⟩
            rw [signed] at failed
            have noDigits : parseDigits behind = none := by
              cases scanned : parseDigits behind with
              | none => rfl
              | some found =>
                  simp only [scanned] at failed
                  cases failed
            refine ⟨.numberMissExponent, ?_⟩
            simp only [parseExpPart, if_pos isMark, signed]
            rw [parseExpDigits_missing _ _ noDigits]
            rfl
        · cases failed

/-! ## The scanned token -/

/-- The value of a number, from its parts. -/
def valueOfParts (sign whole fraction exponent : Bytes) :
    Except NumberError (NumberEvent Double) := do
  let (s, _) ← parseWhole float (sign = [ascii '-']) whole
  let ((s, expFrac), _) ← parseFracPart float s fraction
  let ((s, exp), _) ← parseExpPart float s expFrac exponent
  finishNumber float (sign = [ascii '-']) s expFrac exp

theorem Follows.reads_of_scan
    {Value : Type} {scan : Reader Bytes}
    {read : Bytes → Except NumberError (Value × Bytes)}
    (follows : Follows scan read) {text part rest : Bytes}
    (divided : text = part ++ rest) (scanned : scan text = some (part, rest)) :
    read text = (read part).map fun found => (found.1, rest) := by
  subst divided
  exact follows.reads scanned

/-- The code reads the parts that the scan finds. -/
theorem readNumber_of_scan
    {text afterMinus afterWhole afterFraction rest : Bytes}
    {sign whole fraction exponent : Bytes}
    (isMinus : parseMinus text = (sign, afterMinus))
    (isWhole : parseInt afterMinus = some (whole, afterWhole))
    (isFraction : parseFrac afterWhole = some (fraction, afterFraction))
    (isExponent : parseExp afterFraction = some (exponent, rest)) :
    readNumber float text =
      (valueOfParts float sign whole fraction exponent).map
        fun event => (event, rest) := by
  have wholeRead :=
    (parseWhole_follows float (sign = [ascii '-'])).reads_of_scan
      (parseInt_sound isWhole).1 isWhole
  simp only [readNumber, isMinus, wholeRead, valueOfParts]
  cases parseWhole float (sign = [ascii '-']) whole with
  | error raised => rfl
  | ok found =>
      obtain ⟨s, left⟩ := found
      have fractionRead :=
        (parseFracPart_follows float s).reads_of_scan
          (parseFrac_sound isFraction).1 isFraction
      simp only [Except.map, ok_bind, fractionRead]
      cases parseFracPart float s fraction with
      | error raised => rfl
      | ok found =>
          obtain ⟨⟨s, expFrac⟩, left⟩ := found
          have exponentRead :=
            (parseExpPart_follows float s expFrac).reads_of_scan
              (parseExp_sound isExponent).1 isExponent
          simp only [ok_bind, exponentRead]
          cases parseExpPart float s expFrac exponent with
          | error raised => rfl
          | ok found =>
              obtain ⟨⟨s, exp⟩, left⟩ := found
              simp only [Except.map, ok_bind]
              cases
                finishNumber float (sign = [ascii '-']) s expFrac exp <;> rfl

/-- A number of the grammar is read from its parts, whatever ends it. -/
theorem readNumber_append
    {minus whole fraction exponent rest : Bytes}
    (number : Number minus whole fraction exponent)
    (ends : Starts EndsNumber rest) :
    readNumber float
        (minus ++ (whole ++ (fraction ++ (exponent ++ rest)))) =
      (valueOfParts float minus whole fraction exponent).map
        fun event => (event, rest) := by
  have atExponent := starts_exponent number.exponent ends
  have noDigit : Starts (isDigit · = false) (exponent ++ rest) :=
    atExponent.imp fun byte holds => holds.1
  have noPoint : Starts (· ≠ ascii '.') (exponent ++ rest) :=
    atExponent.imp fun byte holds => holds.2
  have atFraction := starts_fraction number.fraction noDigit
  have atWhole :=
    starts_whole number.whole (fraction ++ (exponent ++ rest))
  exact
    readNumber_of_scan float (parseMinus_append number.minus atWhole)
      (parseInt_append number.whole atFraction)
      (parseFrac_append number.fraction noDigit noPoint)
      (parseExp_append number.exponent ends)

/-- A number of the grammar, read on its own. -/
theorem readNumber_token
    {minus whole fraction exponent : Bytes}
    (number : Number minus whole fraction exponent) :
    readNumber float (minus ++ (whole ++ (fraction ++ exponent))) =
      (valueOfParts float minus whole fraction exponent).map
        fun event => (event, []) := by
  have read := readNumber_append float number (starts_nil EndsNumber)
  rwa [List.append_nil] at read

/-- Where the scan fails, the code reports an error. -/
theorem readNumber_rejects
    {text : Bytes} (failed : parseNumber (fun _ => some .null) text = none) :
    ∃ raised, readNumber float text = .error raised := by
  obtain ⟨⟨sign, afterMinus⟩, isMinus⟩ :
      ∃ found, parseMinus text = found := ⟨_, rfl⟩
  simp only [parseNumber, isMinus, Option.bind_eq_bind] at failed
  simp only [readNumber, isMinus]
  cases isWhole : parseInt afterMinus with
  | none =>
      obtain ⟨raised, rejected⟩ :=
        (parseWhole_follows float (sign = [ascii '-'])).rejects isWhole
      exact ⟨raised, by rw [rejected]; rfl⟩
  | some found =>
      obtain ⟨whole, afterWhole⟩ := found
      rw [(parseWhole_follows float (sign = [ascii '-'])).reads_of_scan
        (parseInt_sound isWhole).1 isWhole]
      simp only [isWhole, Option.bind_some] at failed
      cases parseWhole float (sign = [ascii '-']) whole with
      | error raised => exact ⟨raised, rfl⟩
      | ok read =>
          obtain ⟨s, left⟩ := read
          simp only [Except.map, ok_bind]
          cases isFraction : parseFrac afterWhole with
          | none =>
              obtain ⟨raised, rejected⟩ :=
                (parseFracPart_follows float s).rejects isFraction
              exact ⟨raised, by rw [rejected]; rfl⟩
          | some found =>
              obtain ⟨fraction, afterFraction⟩ := found
              rw [(parseFracPart_follows float s).reads_of_scan
                (parseFrac_sound isFraction).1 isFraction]
              simp only [isFraction, Option.bind_some] at failed
              cases parseFracPart float s fraction with
              | error raised => exact ⟨raised, rfl⟩
              | ok read =>
                  obtain ⟨⟨s, expFrac⟩, left⟩ := read
                  simp only [Except.map, ok_bind]
                  cases isExponent : parseExp afterFraction with
                  | none =>
                      obtain ⟨raised, rejected⟩ :=
                        (parseExpPart_follows float s expFrac).rejects
                          isExponent
                      exact ⟨raised, by rw [rejected]; rfl⟩
                  | some found =>
                      simp only [isExponent, Option.bind_some] at failed
                      cases failed

/-- The number that the code reads is the scanned token, converted. -/
theorem parseNumber_numberOf (text : Bytes) :
    parseNumber (numberOf float) text =
      (readNumber float text).toOption.map fun read =>
        (read.1.document float, read.2) := by
  cases scanned : parseNumber (fun _ => some .null) text with
  | none =>
      obtain ⟨raised, rejected⟩ := readNumber_rejects float scanned
      rw [rejected]
      change parseNumber (numberOf float) text = none
      simp only [parseNumber, Option.bind_eq_bind,
        Option.bind_eq_none_iff] at scanned ⊢
      intro whole isWhole fraction isFraction exponent isExponent
      have impossible :=
        scanned whole isWhole fraction isFraction exponent isExponent .null
          rfl
      cases impossible
  | some found =>
      simp only [parseNumber, Option.bind_eq_bind,
        Option.bind_eq_some_iff] at scanned
      obtain ⟨⟨whole, afterWhole⟩, isWhole, ⟨fraction, afterFraction⟩,
        isFraction, ⟨exponent, rest⟩, isExponent, -⟩ := scanned
      have number :
          Number (parseMinus text).1 whole fraction exponent :=
        ⟨(parseMinus_sound text).2, (parseInt_sound isWhole).2,
          (parseFrac_sound isFraction).2, (parseExp_sound isExponent).2⟩
      have isMinus :
          parseMinus text = ((parseMinus text).1, (parseMinus text).2) := rfl
      have read := readNumber_of_scan float isMinus isWhole isFraction
        isExponent
      rw [read]
      simp only [parseNumber, isWhole, isFraction, isExponent,
        Option.bind_eq_bind, Option.bind_some, numberOf,
        readNumber_token float number]
      cases valueOfParts float (parseMinus text).1 whole fraction exponent
        <;> rfl

end Parts

end ChannelSdk.RapidJson
