import ChannelSdk.Lib.TransitionMachine
import Mathlib.Algebra.BigOperators.Group.Finset.Piecewise
import Mathlib.Logic.Function.Basic

/-!
# Families of machines

A family has a state for some keys.  A step of the family is a step at one key
and leaves the others alone, so a run of the family is at each key a run of the
machine there, and the laws of the single machines hold at all keys at once.
-/

universe u v w

namespace MachineFamily

variable {Key : Type u} {State : Type v} {Label : Type w} [DecidableEq Key]

/-- A step at one key. -/
def stepAt (next : State → Label → Option State)
    (family : Key → Option State) (key : Key) (label : Label) :
    Option (Key → Option State) :=
  (family key).bind fun source =>
    (next source label).map fun target =>
      Function.update family key (some target)

theorem stepAt_eq_some
    {next : State → Label → Option State} {family after : Key → Option State}
    {key : Key} {label : Label}
    (stepped : stepAt next family key label = some after) :
    ∃ source target,
      family key = some source ∧ next source label = some target ∧
        after = Function.update family key (some target) := by
  obtain ⟨source, found, moved⟩ := Option.bind_eq_some_iff.mp stepped
  obtain ⟨target, advanced, rfl⟩ := Option.map_eq_some_iff.mp moved
  exact ⟨source, target, found, advanced, rfl⟩

theorem stepAt_of_next
    {next : State → Label → Option State} {family : Key → Option State}
    {key : Key} {label : Label} {source target : State}
    (found : family key = some source)
    (advanced : next source label = some target) :
    stepAt next family key label =
      some (Function.update family key (some target)) := by
  rw [stepAt, found, Option.bind_some, advanced, Option.map_some]

omit [DecidableEq Key] in
/-- Every state of the family is one of a run of the machine at its key. -/
def Components (machines : Key → TransitionMachine State Label)
    (family : Key → Option State) : Prop :=
  ∀ key state, family key = some state → (machines key).Reachable state

/-- A step at one key keeps the others where they are. -/
theorem Components.update
    {machines : Key → TransitionMachine State Label}
    {family : Key → Option State} (components : Components machines family)
    {key : Key} {label : Label} {source target : State}
    (found : family key = some source)
    (advanced : (machines key).next source label = some target) :
    Components machines (Function.update family key (some target)) := by
  intro other state present
  by_cases same : other = key
  · subst same
    rw [Function.update_self] at present
    cases present
    exact (components other source found).step label advanced
  · rw [Function.update_of_ne same] at present
    exact components other state present

/-- A weight of the states, summed over some keys, changes with a step by the
weight at its key. -/
theorem sum_update
    {family : Key → Option State} {key : Key} {source : State}
    (found : family key = some source) (weight : Option State → Nat)
    {keys : Finset Key} (among : key ∈ keys) (target : State) :
    ∑ other ∈ keys, weight (Function.update family key (some target) other) +
        weight (some source) =
      ∑ other ∈ keys, weight (family other) + weight (some target) := by
  have updated :
      ∀ other,
        weight (Function.update family key (some target) other) =
          Function.update (fun other => weight (family other)) key
            (weight (some target)) other := by
    intro other
    by_cases same : other = key
    · subst same
      simp
    · simp [same]
  have others :=
    Finset.sum_erase_add keys (fun other => weight (family other)) among
  rw [found] at others
  simp only [updated, Finset.sum_update_of_mem among,
    Finset.sdiff_singleton_eq_erase]
  omega

end MachineFamily
