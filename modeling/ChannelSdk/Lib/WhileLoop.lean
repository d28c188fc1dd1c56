import Mathlib.Logic.Basic

/-!
# While loops

A loop is a guard and a body on a state.  `run` allows a number of passes and
gives the state in which the guard fails, or nothing when the passes run out;
more passes never change a result, so a loop has at most one.

There are three rules.  What the body keeps while the guard holds is true of
the result.  A variant that every pass lowers bounds the number of passes.  A
loop never ends from a state with a law that the body keeps and under which
the guard cannot fail.
-/

universe u

/-- A guard and the body that runs while it holds. -/
structure WhileLoop (State : Type u) where
  guard : State → Bool
  body : State → State

namespace WhileLoop

variable {State : Type u} (loop : WhileLoop State)

/-- Run the loop for at most so many passes. -/
def run : Nat → State → Option State
  | 0, state => if loop.guard state then none else some state
  | passes + 1, state =>
      if loop.guard state then run passes (loop.body state) else some state

/-- The loop ends in the state after finitely many passes. -/
def EndsIn (start result : State) : Prop :=
  ∃ passes, loop.run passes start = some result

/-- The loop ends after finitely many passes. -/
def Terminates (start : State) : Prop :=
  ∃ result, loop.EndsIn start result

variable {loop}

theorem run_of_guard_false
    {state : State} (finished : loop.guard state = false) (passes : Nat) :
    loop.run passes state = some state := by
  cases passes with
  | zero => rw [run, finished]; rfl
  | succ passes => rw [run, finished]; rfl

theorem run_succ_of_guard_true
    {state : State} (more : loop.guard state = true) (passes : Nat) :
    loop.run (passes + 1) state = loop.run passes (loop.body state) := by
  rw [run, if_pos more]

theorem run_mono
    {passes more : Nat} {start result : State}
    (ended : loop.run passes start = some result)
    (enough : passes ≤ more) : loop.run more start = some result := by
  induction passes generalizing start more with
  | zero =>
      cases guarded : loop.guard start with
      | true =>
          rw [run, if_pos guarded] at ended
          cases ended
      | false =>
          rw [run_of_guard_false guarded] at ended ⊢
          exact ended
  | succ passes inductionHypothesis =>
      cases guarded : loop.guard start with
      | true =>
          cases more with
          | zero => cases enough
          | succ more =>
              rw [run_succ_of_guard_true guarded] at ended ⊢
              exact inductionHypothesis ended (Nat.le_of_succ_le_succ enough)
      | false =>
          rw [run_of_guard_false guarded] at ended ⊢
          exact ended

/-- A loop has at most one result. -/
theorem EndsIn.unique
    {start first second : State}
    (endsFirst : loop.EndsIn start first)
    (endsSecond : loop.EndsIn start second) : first = second := by
  obtain ⟨passes, ranFirst⟩ := endsFirst
  obtain ⟨others, ranSecond⟩ := endsSecond
  have longFirst := run_mono ranFirst (Nat.le_max_left passes others)
  have longSecond := run_mono ranSecond (Nat.le_max_right passes others)
  exact Option.some.inj (longFirst.symm.trans longSecond)

/-- What the body keeps while the guard holds is true of the result, where the
guard fails. -/
theorem invariant_of_run
    {law : State → Prop}
    (keeps : ∀ state, law state → loop.guard state = true →
      law (loop.body state))
    {passes : Nat} {start result : State} (holds : law start)
    (ended : loop.run passes start = some result) :
    law result ∧ loop.guard result = false := by
  induction passes generalizing start with
  | zero =>
      cases guarded : loop.guard start with
      | true =>
          rw [run, if_pos guarded] at ended
          cases ended
      | false =>
          rw [run_of_guard_false guarded] at ended
          cases ended
          exact ⟨holds, guarded⟩
  | succ passes inductionHypothesis =>
      cases guarded : loop.guard start with
      | true =>
          rw [run_succ_of_guard_true guarded] at ended
          exact inductionHypothesis (keeps start holds guarded) ended
      | false =>
          rw [run_of_guard_false guarded] at ended
          cases ended
          exact ⟨holds, guarded⟩

/-- A loop whose passes lower a variant, under a law that the body keeps, ends
within as many passes as the variant says. -/
theorem run_isSome_of_variant
    {law : State → Prop} (variant : State → Nat)
    (keeps : ∀ state, law state → loop.guard state = true →
      law (loop.body state))
    (lowers : ∀ state, law state → loop.guard state = true →
      variant (loop.body state) < variant state)
    {start : State} (holds : law start) {passes : Nat}
    (enough : variant start ≤ passes) :
    ∃ result, loop.run passes start = some result := by
  induction passes generalizing start with
  | zero =>
      cases guarded : loop.guard start with
      | true =>
          have lower := lowers start holds guarded
          omega
      | false => exact ⟨start, run_of_guard_false guarded 0⟩
  | succ passes inductionHypothesis =>
      cases guarded : loop.guard start with
      | true =>
          have lower := lowers start holds guarded
          rw [run_succ_of_guard_true guarded]
          exact inductionHypothesis (keeps start holds guarded) (by omega)
      | false => exact ⟨start, run_of_guard_false guarded _⟩

/-- A loop that starts under a law which the body keeps and under which the
guard holds never ends. -/
theorem run_eq_none_of_recurrent
    {law : State → Prop}
    (recurrent : ∀ state, law state →
      loop.guard state = true ∧ law (loop.body state))
    {start : State} (holds : law start) (passes : Nat) :
    loop.run passes start = none := by
  induction passes generalizing start with
  | zero =>
      obtain ⟨guarded, -⟩ := recurrent start holds
      rw [run, if_pos guarded]
  | succ passes inductionHypothesis =>
      obtain ⟨guarded, again⟩ := recurrent start holds
      rw [run_succ_of_guard_true guarded]
      exact inductionHypothesis again

theorem not_terminates_of_recurrent
    {law : State → Prop}
    (recurrent : ∀ state, law state →
      loop.guard state = true ∧ law (loop.body state))
    {start : State} (holds : law start) : ¬ loop.Terminates start := by
  rintro ⟨result, passes, ended⟩
  rw [run_eq_none_of_recurrent recurrent holds passes] at ended
  cases ended

end WhileLoop
