import ChannelSdk.Lib.CheckedFold
import Mathlib.Data.List.Perm.Basic

/-!
# Checked computations on reordered inputs

Two computations have the same outcome when they return the same value or both
fail; the errors may differ, since a pass over a reordered list can meet
another failing element first.  The module gives the rules for sequences and
for passes over lists whose elements are related one by one or are permuted.
A permuted pass returns the permuted values, which a following fold may then
forget.
-/

namespace CheckedOrder

open CheckedMemory CheckedFold

variable {error value result element other : Type}

/-- Both computations return the same value or both fail. -/
def SameOutcome (first second : Except error value) : Prop :=
  ∀ returned, first = .ok returned ↔ second = .ok returned

/-- Both computations return the same values up to their order, or both
fail. -/
def PermutedOutcome (first second : Except error (List value)) : Prop :=
  (∀ values, first = .ok values →
      ∃ others, second = .ok others ∧ values.Perm others) ∧
    ∀ others, second = .ok others →
      ∃ values, first = .ok values ∧ values.Perm others

theorem SameOutcome.refl (computation : Except error value) :
    SameOutcome computation computation :=
  fun _ => Iff.rfl

theorem SameOutcome.of_eq
    {first second : Except error value} (same : first = second) :
    SameOutcome first second := by
  rw [same]
  exact .refl second

theorem SameOutcome.bind
    {first second : Except error value}
    {next later : value → Except error result}
    (same : SameOutcome first second)
    (sameNext :
      ∀ returned, first = .ok returned →
        SameOutcome (next returned) (later returned)) :
    SameOutcome (first >>= next) (second >>= later) := by
  intro final
  constructor
  · intro computed
    rcases bind_eq_ok computed with ⟨returned, isReturned, computed⟩
    rw [(same returned).mp isReturned, ok_bind]
    exact (sameNext returned isReturned final).mp computed
  · intro computed
    rcases bind_eq_ok computed with ⟨returned, isReturned, computed⟩
    have isFirst := (same returned).mpr isReturned
    rw [isFirst, ok_bind]
    exact (sameNext returned isFirst final).mpr computed

/-- What follows a permuted pass may not depend on the order. -/
theorem PermutedOutcome.bind
    {first second : Except error (List value)}
    {next later : List value → Except error result}
    (same : PermutedOutcome first second)
    (sameNext :
      ∀ values others, first = .ok values → values.Perm others →
        SameOutcome (next values) (later others)) :
    SameOutcome (first >>= next) (second >>= later) := by
  intro final
  constructor
  · intro computed
    rcases bind_eq_ok computed with ⟨values, isReturned, computed⟩
    rcases same.1 values isReturned with ⟨others, isSecond, permuted⟩
    rw [isSecond, ok_bind]
    exact (sameNext values others isReturned permuted final).mp computed
  · intro computed
    rcases bind_eq_ok computed with ⟨others, isReturned, computed⟩
    rcases same.2 others isReturned with ⟨values, isFirst, permuted⟩
    rw [isFirst, ok_bind]
    exact (sameNext values others isFirst permuted final).mpr computed

section Passes

variable {read : element → Except error value}
variable {readOther : other → Except error value}

/-- Related elements are read with the same outcome. -/
theorem sameOutcome_mapM
    {related : element → other → Prop}
    {elements : List element} {others : List other}
    (pairs : List.Forall₂ related elements others)
    (each :
      ∀ first ∈ elements, ∀ second, related first second →
        SameOutcome (read first) (readOther second)) :
    SameOutcome (elements.mapM read) (others.mapM readOther) := by
  induction pairs with
  | nil => exact .refl _
  | cons pair _ inductionHypothesis =>
      rw [List.mapM_cons, List.mapM_cons]
      apply (each _ List.mem_cons_self _ pair).bind
      intro returned _
      refine (inductionHypothesis ?_).bind fun _ _ => .refl _
      intro first member
      exact each first (List.mem_cons_of_mem _ member)

/-- A pass over permuted elements returns the permuted values. -/
theorem mapM_perm
    {elements permuted : List element} {values : List value}
    (order : elements.Perm permuted)
    (computed : elements.mapM read = .ok values) :
    ∃ others, permuted.mapM read = .ok others ∧ values.Perm others := by
  rcases List.perm_comp_forall₂ order.symm (mapM_eq_ok_iff.mp computed) with
    ⟨others, related, valuesOrder⟩
  exact ⟨others, mapM_eq_ok_iff.mpr related, valuesOrder.symm⟩

/-- A pass over elements that are permuted and then related one by one. -/
theorem permutedOutcome_mapM
    {related : element → other → Prop}
    {elements permuted : List element} {others : List other}
    (order : elements.Perm permuted)
    (pairs : List.Forall₂ related permuted others)
    (each :
      ∀ first ∈ elements, ∀ second, related first second →
        SameOutcome (read first) (readOther second)) :
    PermutedOutcome (elements.mapM read) (others.mapM readOther) := by
  have same :
      SameOutcome (permuted.mapM read) (others.mapM readOther) := by
    apply sameOutcome_mapM pairs
    intro first member
    exact each first (order.mem_iff.mpr member)
  constructor
  · intro values computed
    rcases mapM_perm order computed with ⟨reordered, passed, valuesOrder⟩
    exact ⟨reordered, (same reordered).mp passed, valuesOrder⟩
  · intro values computed
    rcases mapM_perm order.symm ((same values).mpr computed) with
      ⟨original, passed, valuesOrder⟩
    exact ⟨original, passed, valuesOrder.symm⟩

end Passes

end CheckedOrder
