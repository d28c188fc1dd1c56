import Mathlib.Data.List.Basic

/-!
# Decimal digits in a machine word

A loop that reads digits into an unsigned word, and that stops in front of the
digit which would take the number past a limit.  The limit is
`threshold * 10 + last`, and the loop tests for it without computing the
number that is too large: at the threshold the next digit must not exceed
`last`, and above it there must not be another digit.

If the word can hold the limit, the multiplication modulo its size is never
seen: the loop computes the number that the digits spell, or it stops at the
first digit with which they spell a number above the limit.
-/

namespace GuardedDigits

variable {Symbol : Type}

/-- A digit would take the number past the limit. -/
def exceeds (threshold last value digit : Nat) : Bool :=
  threshold ≤ value && (value ≠ threshold || last < digit)

theorem exceeds_iff
    {threshold last value digit : Nat} (lastDecimal : last ≤ 9)
    (decimal : digit ≤ 9) :
    exceeds threshold last value digit = true ↔
      threshold * 10 + last < value * 10 + digit := by
  simp only [exceeds, Bool.and_eq_true, Bool.or_eq_true, decide_eq_true_eq]
  omega

/-- How a loop over digits ends: with the number, the count of the digits, the
mark that it has stopped at a digit, and the symbols that are left. -/
structure DigitRun (Symbol : Type) where
  value : Nat
  count : Nat
  stopped : Bool
  rest : List Symbol

section Digits

variable (digitOf : Symbol → Option Nat)

/-- The loop. -/
def readDigits (modulus threshold last : Nat) :
    Nat → Nat → List Symbol → DigitRun Symbol
  | value, count, [] => ⟨value, count, false, []⟩
  | value, count, symbol :: rest =>
      match digitOf symbol with
      | none => ⟨value, count, false, symbol :: rest⟩
      | some digit =>
          if exceeds threshold last value digit then
            ⟨value, count, true, symbol :: rest⟩
          else
            readDigits modulus threshold last
              ((value * 10 + digit) % modulus) (count + 1) rest

/-- The number that symbols spell behind a number. -/
def numberFrom (value : Nat) (symbols : List Symbol) : Nat :=
  symbols.foldl
    (fun value symbol => value * 10 + (digitOf symbol).getD 0) value

/-- All symbols are digits. -/
def AllDigits (symbols : List Symbol) : Prop :=
  ∀ symbol ∈ symbols, (digitOf symbol).isSome

/-- The first symbol, if there is one, is no digit. -/
def NoDigit (symbols : List Symbol) : Prop :=
  ∀ symbol ∈ symbols.head?, digitOf symbol = none

end Digits

variable {digitOf : Symbol → Option Nat}

@[simp]
theorem numberFrom_nil (value : Nat) : numberFrom digitOf value [] = value :=
  rfl

theorem numberFrom_cons
    {symbol : Symbol} {digit : Nat} (isDigit : digitOf symbol = some digit)
    (value : Nat) (symbols : List Symbol) :
    numberFrom digitOf value (symbol :: symbols) =
      numberFrom digitOf (value * 10 + digit) symbols := by
  simp [numberFrom, isDigit]

theorem numberFrom_append (value : Nat) (symbols others : List Symbol) :
    numberFrom digitOf value (symbols ++ others) =
      numberFrom digitOf (numberFrom digitOf value symbols) others :=
  List.foldl_append

/-- More digits make no smaller number. -/
theorem le_numberFrom (value : Nat) (symbols : List Symbol) :
    value ≤ numberFrom digitOf value symbols := by
  induction symbols generalizing value with
  | nil => exact Nat.le_refl value
  | cons symbol others inductionHypothesis =>
      have grown := inductionHypothesis (value * 10 + (digitOf symbol).getD 0)
      exact Nat.le_trans (by omega) grown

theorem AllDigits.cons
    {symbol : Symbol} {symbols : List Symbol}
    (all : AllDigits digitOf (symbol :: symbols)) :
    (∃ digit, digitOf symbol = some digit) ∧ AllDigits digitOf symbols := by
  obtain ⟨here, later⟩ := List.forall_mem_cons.mp all
  exact ⟨Option.isSome_iff_exists.mp here, later⟩

theorem readDigits_noDigit
    {modulus threshold last value count : Nat} {rest : List Symbol}
    (noDigit : NoDigit digitOf rest) :
    readDigits digitOf modulus threshold last value count rest =
      ⟨value, count, false, rest⟩ := by
  cases rest with
  | nil => rfl
  | cons symbol others =>
      have notDigit : digitOf symbol = none := noDigit symbol rfl
      simp only [readDigits, notDigit]

/-- The loop leaves digits behind, and what is no digit does not matter to
it. -/
theorem readDigits_append
    (modulus threshold last value count : Nat) {digits rest : List Symbol}
    (areDigits : AllDigits digitOf digits) (noDigit : NoDigit digitOf rest) :
    readDigits digitOf modulus threshold last value count (digits ++ rest) =
        { readDigits digitOf modulus threshold last value count digits with
          rest :=
            (readDigits digitOf modulus threshold last value count
              digits).rest ++ rest } ∧
      AllDigits digitOf
        (readDigits digitOf modulus threshold last value count digits).rest ∧
      ((readDigits digitOf modulus threshold last value count
          digits).stopped = false →
        (readDigits digitOf modulus threshold last value count
          digits).rest = []) := by
  induction digits generalizing value count with
  | nil =>
      exact ⟨readDigits_noDigit noDigit, List.forall_mem_nil _, fun _ => rfl⟩
  | cons symbol others inductionHypothesis =>
      obtain ⟨⟨digit, isDigit⟩, othersDigits⟩ := areDigits.cons
      by_cases exceeding : exceeds threshold last value digit = true
      · simp only [List.cons_append, readDigits, isDigit, if_pos exceeding]
        exact ⟨trivial, areDigits, fun running => nomatch running⟩
      · simp only [List.cons_append, readDigits, isDigit, if_neg exceeding]
        exact inductionHypothesis _ _ othersDigits

section Loop

variable {modulus threshold last : Nat}
variable (decimal : ∀ symbol digit, digitOf symbol = some digit → digit ≤ 9)
variable (lastDecimal : last ≤ 9) (holds : threshold * 10 + last < modulus)

include decimal lastDecimal holds

/-- Digits that spell a number within the limit are all read. -/
theorem readDigits_of_le
    {value count : Nat} {digits rest : List Symbol}
    (areDigits : AllDigits digitOf digits) (noDigit : NoDigit digitOf rest)
    (within : numberFrom digitOf value digits ≤ threshold * 10 + last) :
    readDigits digitOf modulus threshold last value count (digits ++ rest) =
      ⟨numberFrom digitOf value digits, count + digits.length, false,
        rest⟩ := by
  induction digits generalizing value count with
  | nil => exact readDigits_noDigit noDigit
  | cons symbol others inductionHypothesis =>
      obtain ⟨⟨digit, isDigit⟩, othersDigits⟩ := areDigits.cons
      rw [numberFrom_cons isDigit] at within ⊢
      have reached : value * 10 + digit ≤ threshold * 10 + last :=
        Nat.le_trans (le_numberFrom _ others) within
      have goesOn : ¬ exceeds threshold last value digit = true := by
        rw [exceeds_iff lastDecimal (decimal symbol digit isDigit)]
        omega
      have kept : (value * 10 + digit) % modulus = value * 10 + digit :=
        Nat.mod_eq_of_lt (by omega)
      rw [List.cons_append, readDigits]
      simp only [isDigit, if_neg goesOn, kept]
      rw [inductionHypothesis othersDigits within, List.length_cons,
        Nat.add_right_comm, Nat.add_assoc]

/-- Digits that spell a larger number are read up to the last prefix within
the limit. -/
theorem readDigits_of_lt
    {value count : Nat} {digits : List Symbol} (rest : List Symbol)
    (areDigits : AllDigits digitOf digits)
    (start : value ≤ threshold * 10 + last)
    (beyond : threshold * 10 + last < numberFrom digitOf value digits) :
    ∃ front symbol back,
      digits = front ++ symbol :: back ∧
        numberFrom digitOf value front ≤ threshold * 10 + last ∧
        readDigits digitOf modulus threshold last value count
            (digits ++ rest) =
          ⟨numberFrom digitOf value front, count + front.length, true,
            symbol :: back ++ rest⟩ := by
  induction digits generalizing value count with
  | nil => exact absurd beyond (Nat.not_lt.mpr start)
  | cons symbol others inductionHypothesis =>
      obtain ⟨⟨digit, isDigit⟩, othersDigits⟩ := areDigits.cons
      have decides :
          exceeds threshold last value digit = true ↔
            threshold * 10 + last < value * 10 + digit :=
        exceeds_iff lastDecimal (decimal symbol digit isDigit)
      by_cases exceeding : exceeds threshold last value digit = true
      · refine ⟨[], symbol, others, rfl, start, ?_⟩
        rw [List.cons_append, readDigits]
        simp only [isDigit, if_pos exceeding]
        rfl
      · have reached : value * 10 + digit ≤ threshold * 10 + last :=
          Nat.not_lt.mp (mt decides.mpr exceeding)
        rw [numberFrom_cons isDigit] at beyond
        obtain ⟨front, next, back, divided, within, reads⟩ :=
          @inductionHypothesis (value * 10 + digit) (count + 1) othersDigits
            reached beyond
        have kept : (value * 10 + digit) % modulus = value * 10 + digit :=
          Nat.mod_eq_of_lt (by omega)
        refine ⟨symbol :: front, next, back, ?_, ?_, ?_⟩
        · rw [divided]
          rfl
        · rw [numberFrom_cons isDigit]
          exact within
        · rw [List.cons_append, readDigits]
          simp only [isDigit, if_neg exceeding, kept]
          rw [reads, numberFrom_cons isDigit, List.length_cons,
            Nat.add_right_comm, Nat.add_assoc]

/-- The loop ends behind digits that spell a number within the limit, and
otherwise it leaves digits that lead from its number past the limit. -/
theorem readDigits_cases
    (count : Nat) {value : Nat} {digits : List Symbol}
    (areDigits : AllDigits digitOf digits)
    (start : value ≤ threshold * 10 + last) :
    (numberFrom digitOf value digits ≤ threshold * 10 + last ∧
        readDigits digitOf modulus threshold last value count digits =
          ⟨numberFrom digitOf value digits, count + digits.length, false,
            []⟩) ∨
      (threshold * 10 + last < numberFrom digitOf value digits ∧
        ∃ read taken left,
          readDigits digitOf modulus threshold last value count digits =
              ⟨read, taken, true, left⟩ ∧
            read ≤ threshold * 10 + last ∧ AllDigits digitOf left ∧
            numberFrom digitOf read left =
              numberFrom digitOf value digits) := by
  by_cases within :
      numberFrom digitOf value digits ≤ threshold * 10 + last
  · have reads :=
      @readDigits_of_le _ _ modulus threshold last decimal lastDecimal holds
        value count digits [] areDigits (fun _ member => nomatch member)
        within
    rw [List.append_nil] at reads
    exact .inl ⟨within, reads⟩
  · have beyond := Nat.not_le.mp within
    obtain ⟨front, symbol, back, rfl, small, reads⟩ :=
      @readDigits_of_lt _ _ modulus threshold last decimal lastDecimal holds
        value count digits [] areDigits start beyond
    rw [List.append_nil, List.append_nil] at reads
    refine .inr ⟨beyond, _, _, _, reads, small, ?_, ?_⟩
    · exact fun other member =>
        areDigits other (List.mem_append_right front member)
    · exact (numberFrom_append value front (symbol :: back)).symm

end Loop

end GuardedDigits
