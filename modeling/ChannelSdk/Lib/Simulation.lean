import ChannelSdk.Lib.TransitionMachine

/-!
# Forward simulation of machines

A concrete machine simulates an abstract one along a relation of states when
every concrete step from related states is matched by one abstract step or by
none.  Every reachable concrete state is then related to a reachable abstract
one, whose laws it inherits.

Both states of a step may be assumed reachable, so that a match can use the
invariants of either machine.
-/

universe u v w x

namespace TransitionMachine

variable {Concrete : Type u} {Label : Type v}
variable {Abstract : Type w} {AbstractLabel : Type x}

/-- Every concrete step is an abstract step or a stutter, along `related`. -/
structure Simulates
    (concrete : TransitionMachine Concrete Label)
    (abstract : TransitionMachine Abstract AbstractLabel)
    (related : Concrete → Abstract → Prop) : Prop where
  start :
    ∀ state, concrete.initial state →
      ∃ image, abstract.initial image ∧ related state image
  step :
    ∀ state label target image,
      concrete.Reachable state → abstract.Reachable image →
        related state image → concrete.next state label = some target →
          ∃ next,
            (next = image ∨ ∃ other, abstract.next image other = some next) ∧
              related target next

/-- A reachable concrete state is related to a reachable abstract one. -/
theorem Simulates.reachable
    {concrete : TransitionMachine Concrete Label}
    {abstract : TransitionMachine Abstract AbstractLabel}
    {related : Concrete → Abstract → Prop}
    (simulates : concrete.Simulates abstract related)
    {state : Concrete} (reached : concrete.Reachable state) :
    ∃ image, abstract.Reachable image ∧ related state image := by
  induction reached with
  | initial isInitial =>
      obtain ⟨image, imageInitial, matched⟩ :=
        simulates.start _ isInitial
      exact ⟨image, .initial imageInitial, matched⟩
  | step label before _ stepped inductionHypothesis =>
      obtain ⟨image, imageReached, matched⟩ := inductionHypothesis
      obtain ⟨next, same | ⟨other, moved⟩, nextMatched⟩ :=
        simulates.step _ label _ image before imageReached matched stepped
      · exact ⟨next, same ▸ imageReached, nextMatched⟩
      · exact ⟨next, imageReached.step other moved, nextMatched⟩

end TransitionMachine
