import Mathlib.Data.List.Basic

/-!
# Queries that do not disturb each other

A query answers from a state and may leave another one behind.  Two states are
related when no query can tell them apart.  A query is stable when it leaves a
related state and related states give it the same answer; stable queries are
closed under sequencing, with or without an early exit, and in any run of them
every answer is the one that the first state would have given.
-/

namespace StableQuery

universe u v w

variable {State : Type u} {Failure Value Result : Type v}

/-- The query leaves a related state, and related states answer alike. -/
structure Stable (related : State → State → Prop)
    {Answer : Type w} (query : State → Answer × State) : Prop where
  leaves : ∀ state, related state (query state).2
  answers :
    ∀ first second, related first second →
      (query first).1 = (query second).1

/-- A query that goes on with the next one unless it fails. -/
def andThen (query : State → Except Failure Value × State)
    (next : Value → State → Except Failure Result × State) (state : State) :
    Except Failure Result × State :=
  match query state with
  | (.ok value, after) => next value after
  | (.error failure, after) => (.error failure, after)

/-- Ask the queries in order and collect their answers. -/
def answersOf {Answer : Type w} (state : State) :
    List (State → Answer × State) → List Answer
  | [] => []
  | query :: rest => (query state).1 :: answersOf (query state).2 rest

section Rules

variable {related : State → State → Prop}

/-- What is computed from related states alike, without changing them. -/
theorem Stable.read {Answer : Type w}
    (equivalence : Equivalence related) {answer : State → Answer}
    (alike : ∀ first second, related first second →
      answer first = answer second) :
    Stable related fun state => (answer state, state) :=
  ⟨equivalence.refl, alike⟩

theorem Stable.congr {Answer : Type w}
    {query other : State → Answer × State}
    (stable : Stable related query)
    (same : ∀ state, other state = query state) : Stable related other := by
  rw [show other = query from funext same]
  exact stable

theorem Stable.andThen
    (equivalence : Equivalence related)
    {query : State → Except Failure Value × State}
    {next : Value → State → Except Failure Result × State}
    (stable : Stable related query)
    (nextStable : ∀ value, Stable related (next value)) :
    Stable related (andThen query next) := by
  constructor
  · intro state
    have left := stable.leaves state
    unfold StableQuery.andThen
    split
    next value after answered =>
      rw [answered] at left
      exact equivalence.trans left ((nextStable value).leaves after)
    next failure after answered =>
      rw [answered] at left
      exact left
  · intro first second same
    have sameAnswer := stable.answers first second same
    have leftFirst := stable.leaves first
    have leftSecond := stable.leaves second
    unfold StableQuery.andThen
    rcases answeredFirst : query first with ⟨answer, afterFirst⟩
    rcases answeredSecond : query second with ⟨other, afterSecond⟩
    rw [answeredFirst] at sameAnswer leftFirst
    rw [answeredSecond] at sameAnswer leftSecond
    dsimp only at sameAnswer leftFirst leftSecond
    subst sameAnswer
    cases answer with
    | error failure => rfl
    | ok value =>
        have after : related afterFirst afterSecond :=
          equivalence.trans (equivalence.symm leftFirst)
            (equivalence.trans same leftSecond)
        exact (nextStable value).answers afterFirst afterSecond after

/-- A query on any state that is related to a given one answers as it would
there. -/
theorem answersOf_eq_map {Answer : Type w}
    (equivalence : Equivalence related)
    {queries : List (State → Answer × State)}
    (stable : ∀ query ∈ queries, Stable related query)
    {state start : State} (same : related start state) :
    answersOf state queries = queries.map fun query => (query start).1 := by
  induction queries generalizing state with
  | nil => rfl
  | cons query rest inductionHypothesis =>
      have queryStable := stable query List.mem_cons_self
      have onward :=
        equivalence.trans same (queryStable.leaves state)
      have restStable : ∀ other ∈ rest, Stable related other :=
        fun other member => stable other (List.mem_cons_of_mem _ member)
      rw [answersOf, List.map_cons,
        ← queryStable.answers start state same,
        inductionHypothesis restStable onward]

end Rules

end StableQuery
