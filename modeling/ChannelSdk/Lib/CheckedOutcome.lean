import ChannelSdk.Lib.CheckedMemory

/-!
# How a checked computation ends

A checked computation completes with a value or raises an error.  This module
has the rules by which both are read off the parts of a computation: what a
sequence and a pass over a list need to complete, and which errors they can
raise.  When the later part does not depend on the value of the earlier one,
the condition of a sequence is the conjunction of the conditions of its parts.
-/

namespace CheckedOutcome

open CheckedMemory

variable {error value result element : Type}

/-- The computation returns a value. -/
def Completes (computation : Except error value) : Prop :=
  ∃ returned, computation = .ok returned

/-- An error of the computation is one of the allowed ones. -/
def Raises (allowed : error → Prop) (computation : Except error value) :
    Prop :=
  ∀ raised, computation = .error raised → allowed raised

variable {allowed : error → Prop} {computation : Except error value}
variable {next : value → Except error result}

@[simp]
theorem completes_ok (returned : value) :
    Completes (.ok returned : Except error value) :=
  ⟨returned, rfl⟩

@[simp]
theorem completes_pure (returned : value) :
    Completes (pure returned : Except error value) :=
  ⟨returned, rfl⟩

@[simp]
theorem not_completes_error (raised : error) :
    ¬ Completes (.error raised : Except error value) := by
  intro completes
  rcases completes with ⟨returned, impossible⟩
  cases impossible

@[simp]
theorem raises_ok (returned : value) :
    Raises allowed (.ok returned : Except error value) := by
  intro raised impossible
  cases impossible

@[simp]
theorem raises_pure (returned : value) :
    Raises allowed (pure returned : Except error value) :=
  raises_ok returned

@[simp]
theorem raises_error_iff {raised : error} :
    Raises allowed (.error raised : Except error value) ↔ allowed raised := by
  constructor
  · intro raises
    exact raises raised rfl
  · intro isAllowed other same
    cases same
    exact isAllowed

theorem Raises.mono
    {wider : error → Prop} (raises : Raises allowed computation)
    (included : ∀ raised, allowed raised → wider raised) :
    Raises wider computation :=
  fun raised failed => included raised (raises raised failed)

/-- A computation ends one way or the other. -/
theorem completes_or_raised (computation : Except error value) :
    Completes computation ∨ ∃ raised, computation = .error raised := by
  cases computation with
  | ok returned => exact .inl ⟨returned, rfl⟩
  | error raised => exact .inr ⟨raised, rfl⟩

/-- A computation that has no allowed error must complete to avoid the
others. -/
theorem raises_iff_completes
    (never : Raises (fun raised => ¬ allowed raised) computation) :
    Raises allowed computation ↔ Completes computation := by
  cases computation with
  | ok returned => simp
  | error raised => simpa using never raised rfl

theorem completes_bind_iff :
    Completes (computation >>= next) ↔
      ∃ returned, computation = .ok returned ∧ Completes (next returned) := by
  cases computation with
  | ok returned => simp [ok_bind]
  | error raised =>
      apply iff_of_false (not_completes_error raised)
      intro completes
      rcases completes with ⟨returned, impossible, -⟩
      cases impossible

theorem completes_bind
    (first : Completes computation)
    (later : ∀ returned, Completes (next returned)) :
    Completes (computation >>= next) := by
  rcases first with ⟨returned, isReturned⟩
  exact completes_bind_iff.mpr ⟨returned, isReturned, later returned⟩

theorem raises_bind_iff :
    Raises allowed (computation >>= next) ↔
      Raises allowed computation ∧
        ∀ returned, computation = .ok returned →
          Raises allowed (next returned) := by
  cases computation with
  | ok returned => simp [ok_bind]
  | error raised =>
      have failed : Except.error raised >>= next = .error raised := rfl
      simp [failed]

theorem raises_bind
    (first : Raises allowed computation)
    (later : ∀ returned, Raises allowed (next returned)) :
    Raises allowed (computation >>= next) :=
  raises_bind_iff.mpr ⟨first, fun returned _ => later returned⟩

/-- The later part completes under a condition that does not depend on the
value of the first part. -/
theorem completes_bind_of_forall
    {condition : Prop}
    (later :
      ∀ returned, computation = .ok returned →
        (Completes (next returned) ↔ condition)) :
    Completes (computation >>= next) ↔
      Completes computation ∧ condition := by
  rw [completes_bind_iff]
  constructor
  · intro completes
    rcases completes with ⟨returned, isReturned, completes⟩
    exact ⟨⟨returned, isReturned⟩, (later returned isReturned).mp completes⟩
  · intro completes
    rcases completes with ⟨⟨returned, isReturned⟩, holds⟩
    exact ⟨returned, isReturned, (later returned isReturned).mpr holds⟩

/-- The errors of a sequence, from the conditions under which its first part
raises only allowed errors and then completes. -/
theorem raises_bind_of_conditions
    {clean returns condition : Prop}
    (first : Raises allowed computation ↔ clean)
    (completes : clean → (Completes computation ↔ returns))
    (later :
      ∀ returned, computation = .ok returned →
        (Raises allowed (next returned) ↔ condition)) :
    Raises allowed (computation >>= next) ↔
      clean ∧ (returns → condition) := by
  rw [raises_bind_iff, first]
  apply and_congr_right
  intro isClean
  rw [← completes isClean]
  constructor
  · intro raises returned
    rcases returned with ⟨returned, isReturned⟩
    exact (later returned isReturned).mp (raises returned isReturned)
  · intro holds returned isReturned
    exact (later returned isReturned).mpr (holds ⟨returned, isReturned⟩)

/-- Only the first part can fail. -/
theorem completes_bind_pure_iff {update : value → result} :
    Completes (computation >>= fun returned => pure (update returned)) ↔
      Completes computation := by
  rw [completes_bind_iff]
  simp only [completes_pure, and_true]
  rfl

/-- The computation returns a value with a property, or raises an allowed
error. -/
def Meets (allowed : error → Prop) (holds : value → Prop)
    (computation : Except error value) : Prop :=
  Raises allowed computation ∧
    ∀ returned, computation = .ok returned → holds returned

theorem meets_ok
    {holds : value → Prop} {returned : value} (has : holds returned) :
    Meets allowed holds (.ok returned) := by
  refine ⟨raises_ok returned, ?_⟩
  intro other same
  cases same
  exact has

theorem meets_error
    {holds : value → Prop} {raised : error} (isAllowed : allowed raised) :
    Meets allowed holds (.error raised) := by
  refine ⟨raises_error_iff.mpr isAllowed, ?_⟩
  intro returned impossible
  cases impossible

theorem Meets.mono
    {holds wider : value → Prop} (meets : Meets allowed holds computation)
    (included : ∀ returned, holds returned → wider returned) :
    Meets allowed wider computation :=
  ⟨meets.1, fun returned same => included returned (meets.2 returned same)⟩

/-- What the first part returns is all that the later part needs. -/
theorem Meets.bind
    {holds : value → Prop} {after : result → Prop}
    (first : Meets allowed holds computation)
    (later : ∀ returned, holds returned → Meets allowed after (next returned)) :
    Meets allowed after (computation >>= next) := by
  cases computation with
  | ok returned => exact later returned (first.2 returned rfl)
  | error raised => exact meets_error (first.1 raised rfl)

theorem Meets.map
    {holds : value → Prop} {after : result → Prop}
    {update : value → result} (meets : Meets allowed holds computation)
    (later : ∀ returned, holds returned → after (update returned)) :
    Meets allowed after (computation.map update) := by
  cases computation with
  | ok returned => exact meets_ok (later returned (meets.2 returned rfl))
  | error raised => exact meets_error (meets.1 raised rfl)

section Passes

variable {read : element → Except error value}

theorem completes_mapM_iff
    {elements : List element} :
    Completes (elements.mapM read) ↔
      ∀ visited ∈ elements, Completes (read visited) := by
  induction elements with
  | nil => simp
  | cons first rest inductionHypothesis =>
      rw [List.mapM_cons, List.forall_mem_cons, ← inductionHypothesis]
      apply completes_bind_of_forall
      intro returned _
      exact completes_bind_pure_iff

theorem raises_mapM
    {elements : List element}
    (each : ∀ visited ∈ elements, Raises allowed (read visited)) :
    Raises allowed (elements.mapM read) := by
  induction elements with
  | nil => simp
  | cons first rest inductionHypothesis =>
      rw [List.mapM_cons]
      rcases List.forall_mem_cons.mp each with ⟨here, later⟩
      apply raises_bind here
      intro returned
      exact raises_bind (inductionHypothesis later) fun _ => raises_pure _

end Passes

end CheckedOutcome
