import Mathlib.Logic.Basic

/-!
# Machines with a partial step function

A machine has initial states and, for every label, a partial step: `none`
means that the labelled step is not enabled.  Interleavings of several
parties are runs of one machine whose labels say which party moves.

The module gives the induction over runs once: an invariant holds in every
reachable state when the initial states have it and every step keeps it.  The
second form admits only the steps that meet a given condition, for laws that
hold in the runs of a well-behaved environment.  A law that a bad step breaks
for good holds at the end of exactly the runs without a bad step.
-/

universe u v

/-- Initial states and the partial step of each label. -/
structure TransitionMachine (State : Type u) (Label : Type v) where
  initial : State → Prop
  next : State → Label → Option State

namespace TransitionMachine

variable {State : Type u} {Label : Type v}

/-- Execute the labelled steps in order. -/
def run (machine : TransitionMachine State Label) :
    State → List Label → Option State
  | state, [] => some state
  | state, label :: rest =>
      match machine.next state label with
      | some target => machine.run target rest
      | none => none

/-- Every step of the run meets the condition. -/
def RunMeets (machine : TransitionMachine State Label)
    (allowed : State → Label → Prop) : State → List Label → Prop
  | _, [] => True
  | state, label :: rest =>
      allowed state label ∧
        ∀ target, machine.next state label = some target →
          machine.RunMeets allowed target rest

instance decidableRunMeets
    (machine : TransitionMachine State Label)
    (allowed : State → Label → Prop)
    [∀ state label, Decidable (allowed state label)] :
    (state : State) → (labels : List Label) →
      Decidable (machine.RunMeets allowed state labels)
  | _, [] => inferInstanceAs (Decidable True)
  | state, label :: rest =>
      have : Decidable
          (∀ target, machine.next state label = some target →
            machine.RunMeets allowed target rest) :=
        match machine.next state label with
        | none => .isTrue fun _ stepped => nomatch stepped
        | some target =>
            have := decidableRunMeets machine allowed target rest
            decidable_of_iff (machine.RunMeets allowed target rest)
              ⟨fun meets _ stepped => Option.some.inj stepped ▸ meets,
                fun meets => meets target rfl⟩
      inferInstanceAs (Decidable (allowed state label ∧ _))

/-- The states of the runs whose steps all meet the condition. -/
inductive ReachableUnder
    (machine : TransitionMachine State Label)
    (allowed : State → Label → Prop) : State → Prop
  | initial {state : State} :
      machine.initial state → ReachableUnder machine allowed state
  | step {source target : State} (label : Label) :
      ReachableUnder machine allowed source →
      allowed source label →
      machine.next source label = some target →
      ReachableUnder machine allowed target

/-- The states of all runs. -/
def Reachable (machine : TransitionMachine State Label) : State → Prop :=
  machine.ReachableUnder fun _ _ => True

theorem ReachableUnder.invariant
    {machine : TransitionMachine State Label}
    {allowed : State → Label → Prop} {holds : State → Prop}
    (base : ∀ state, machine.initial state → holds state)
    (preserved :
      ∀ source label target, holds source → allowed source label →
        machine.next source label = some target → holds target)
    {state : State} (reachable : machine.ReachableUnder allowed state) :
    holds state := by
  induction reachable with
  | initial isInitial =>
      exact base _ isInitial
  | step label _ isAllowed stepped inductionHypothesis =>
      exact preserved _ label _ inductionHypothesis isAllowed stepped

/-- An invariant may be kept with the help of laws that are known to hold in
every state of the runs. -/
theorem ReachableUnder.relative_invariant
    {machine : TransitionMachine State Label}
    {allowed : State → Label → Prop} {holds : State → Prop}
    (base : ∀ state, machine.initial state → holds state)
    (preserved :
      ∀ source label target, machine.ReachableUnder allowed source →
        holds source → allowed source label →
          machine.next source label = some target → holds target)
    {state : State} (reachable : machine.ReachableUnder allowed state) :
    holds state := by
  induction reachable with
  | initial isInitial =>
      exact base _ isInitial
  | step label before isAllowed stepped inductionHypothesis =>
      exact preserved _ label _ before inductionHypothesis isAllowed stepped

/-- A run whose steps meet a condition is a run. -/
theorem ReachableUnder.reachable
    {machine : TransitionMachine State Label}
    {allowed : State → Label → Prop} {state : State}
    (reachable : machine.ReachableUnder allowed state) :
    machine.Reachable state := by
  induction reachable with
  | initial isInitial =>
      exact .initial isInitial
  | step label _ _ stepped inductionHypothesis =>
      exact .step label inductionHypothesis trivial stepped

/-- A weaker condition admits at least the same states. -/
theorem ReachableUnder.mono
    {machine : TransitionMachine State Label}
    {first second : State → Label → Prop}
    (weaker : ∀ state label, first state label → second state label)
    {state : State} (reachable : machine.ReachableUnder first state) :
    machine.ReachableUnder second state := by
  induction reachable with
  | initial isInitial =>
      exact .initial isInitial
  | step label _ isAllowed stepped inductionHypothesis =>
      exact .step label inductionHypothesis (weaker _ _ isAllowed) stepped

theorem Reachable.invariant
    {machine : TransitionMachine State Label} {holds : State → Prop}
    (base : ∀ state, machine.initial state → holds state)
    (preserved :
      ∀ source label target, holds source →
        machine.next source label = some target → holds target)
    {state : State} (reachable : machine.Reachable state) :
    holds state :=
  ReachableUnder.invariant base
    (fun source label target invariant _ stepped =>
      preserved source label target invariant stepped)
    reachable

theorem Reachable.step
    {machine : TransitionMachine State Label} {source target : State}
    (reachable : machine.Reachable source) (label : Label)
    (stepped : machine.next source label = some target) :
    machine.Reachable target :=
  ReachableUnder.step label reachable trivial stepped

/-- What every usable step keeps, a run of usable steps keeps. -/
theorem holds_of_run
    {machine : TransitionMachine State Label} (usable : Label → Prop)
    {holds : State → Prop}
    (preserved :
      ∀ source label target, usable label → holds source →
        machine.next source label = some target → holds target)
    {labels : List Label} :
    ∀ {source target : State}, (∀ label ∈ labels, usable label) →
      holds source → machine.run source labels = some target →
        holds target := by
  induction labels with
  | nil =>
      intro source target _ begun executed
      cases executed
      exact begun
  | cons label rest inductionHypothesis =>
      intro source target allUsable begun executed
      have isUsable := allUsable label List.mem_cons_self
      have restUsable : ∀ other ∈ rest, usable other :=
        fun other member => allUsable other (List.mem_cons_of_mem _ member)
      rw [TransitionMachine.run] at executed
      split at executed
      next middle stepped =>
        have onward := preserved source label middle isUsable begun stepped
        exact inductionHypothesis restUsable onward executed
      next =>
        cases executed

theorem Reachable.run
    {machine : TransitionMachine State Label} {labels : List Label}
    {source target : State} (reachable : machine.Reachable source)
    (executed : machine.run source labels = some target) :
    machine.Reachable target :=
  holds_of_run (fun _ => True)
    (fun _ label _ _ reached stepped => reached.step label stepped)
    (fun _ _ => trivial) reachable executed

/-- A run whose steps meet the condition leads from one admitted state to
another. -/
theorem ReachableUnder.run
    {machine : TransitionMachine State Label}
    {allowed : State → Label → Prop} {labels : List Label} :
    ∀ {source target : State}, machine.ReachableUnder allowed source →
      machine.RunMeets allowed source labels →
        machine.run source labels = some target →
          machine.ReachableUnder allowed target := by
  induction labels with
  | nil =>
      intro source target reachable _ executed
      cases executed
      exact reachable
  | cons label rest inductionHypothesis =>
      intro source target reachable meets executed
      rw [TransitionMachine.run] at executed
      split at executed
      next middle stepped =>
        exact inductionHypothesis
          (reachable.step label meets.1 stepped)
          (meets.2 middle stepped) executed
      next =>
        cases executed

/-- Two conditions that agree on the steps a run can take are met by the same
runs. -/
theorem runMeets_congr
    {machine : TransitionMachine State Label}
    {first second : State → Label → Prop} {usable : Label → Prop}
    (agree :
      ∀ source label, machine.Reachable source → usable label →
        (first source label ↔ second source label))
    {labels : List Label} :
    ∀ {source : State}, machine.Reachable source →
      (∀ label ∈ labels, usable label) →
        (machine.RunMeets first source labels ↔
          machine.RunMeets second source labels) := by
  induction labels with
  | nil =>
      intro source _ _
      exact Iff.rfl
  | cons label rest inductionHypothesis =>
      intro source reachable allUsable
      have here :=
        agree source label reachable (allUsable label List.mem_cons_self)
      have later :
          ∀ target, machine.next source label = some target →
            (machine.RunMeets first target rest ↔
              machine.RunMeets second target rest) := by
        intro target stepped
        exact inductionHypothesis (reachable.step label stepped)
          fun other member => allUsable other (List.mem_cons_of_mem _ member)
      exact and_congr here
        (forall_congr' fun target => forall_congr' fun stepped =>
          later target stepped)

/-- The same for conditions that agree on all labels. -/
theorem runMeets_congr_of_reachable
    {machine : TransitionMachine State Label}
    {first second : State → Label → Prop}
    (agree :
      ∀ source label, machine.Reachable source →
        (first source label ↔ second source label))
    {source : State} (reachable : machine.Reachable source)
    (labels : List Label) :
    machine.RunMeets first source labels ↔
      machine.RunMeets second source labels :=
  runMeets_congr
    (fun other label reached (_ : True) => agree other label reached)
    reachable (fun _ _ => trivial)

section BrokenForGood

variable {machine : TransitionMachine State Label}
variable {allowed : State → Label → Prop} {holds : State → Prop}

/-- What no step repairs stays broken along every run. -/
theorem not_holds_of_run
    (unrepaired :
      ∀ source label target, machine.Reachable source → ¬ holds source →
        machine.next source label = some target → ¬ holds target)
    {labels : List Label} {source target : State}
    (reachable : machine.Reachable source) (broken : ¬ holds source)
    (executed : machine.run source labels = some target) :
    ¬ holds target := by
  have preserved :
      ∀ source label target, True →
        machine.Reachable source ∧ ¬ holds source →
          machine.next source label = some target →
            machine.Reachable target ∧ ¬ holds target := by
    intro source label target _ before stepped
    exact
      ⟨before.1.step label stepped,
        unrepaired source label target before.1 before.2 stepped⟩
  exact
    (holds_of_run (fun _ => True) preserved (fun _ _ => trivial)
      ⟨reachable, broken⟩ executed).2

/-- A law that a step keeps exactly when it meets the condition, and that no
step repairs, holds at the end of a run exactly when all its steps meet the
condition. -/
theorem holds_iff_runMeets
    (kept :
      ∀ source label target, machine.Reachable source → holds source →
        machine.next source label = some target →
          (holds target ↔ allowed source label))
    (unrepaired :
      ∀ source label target, machine.Reachable source → ¬ holds source →
        machine.next source label = some target → ¬ holds target)
    {labels : List Label} :
    ∀ {source target : State}, machine.Reachable source → holds source →
      machine.run source labels = some target →
        (holds target ↔ machine.RunMeets allowed source labels) := by
  induction labels with
  | nil =>
      intro source target _ begun executed
      cases executed
      exact iff_of_true begun trivial
  | cons label rest inductionHypothesis =>
      intro source target reachable begun executed
      rw [TransitionMachine.run] at executed
      split at executed
      next middle stepped =>
        have onward := reachable.step label stepped
        have keeps := kept source label middle reachable begun stepped
        by_cases isAllowed : allowed source label
        · rw [inductionHypothesis onward (keeps.mpr isAllowed) executed]
          constructor
          · intro restMeets
            refine ⟨isAllowed, ?_⟩
            intro other otherStepped
            rw [stepped] at otherStepped
            cases otherStepped
            exact restMeets
          · intro meets
            exact meets.2 middle stepped
        · have broken : ¬ holds middle := mt keeps.mp isAllowed
          exact iff_of_false
            (not_holds_of_run unrepaired onward broken executed)
            (fun meets => isAllowed meets.1)
      next =>
        cases executed

end BrokenForGood

/-- When every state that is not final has a step that lowers a measure, every
reachable state has a run to a final one. -/
theorem Reachable.completes
    {machine : TransitionMachine State Label} {final : State → Prop}
    (measure : State → Nat)
    (progress :
      ∀ state, machine.Reachable state → ¬ final state →
        ∃ label target, machine.next state label = some target ∧
          measure target < measure state)
    {state : State} (reachable : machine.Reachable state) :
    ∃ labels target,
      machine.run state labels = some target ∧ final target := by
  induction bound : measure state using Nat.strongRecOn
      generalizing state with
  | _ bound inductionHypothesis =>
      by_cases finished : final state
      · exact ⟨[], state, rfl, finished⟩
      · rcases progress state reachable finished with
          ⟨label, middle, stepped, lower⟩
        rcases inductionHypothesis (measure middle) (by omega)
            (reachable.step label stepped) rfl with
          ⟨labels, target, executed, completed⟩
        refine ⟨label :: labels, target, ?_, completed⟩
        rw [TransitionMachine.run, stepped]
        exact executed

/-- Progress that only needs some of the labels completes a run with these. -/
theorem ReachableUnder.completes_using
    {machine : TransitionMachine State Label}
    {allowed : State → Label → Prop} {final : State → Prop}
    (usable : Label → Prop) (measure : State → Nat)
    (progress :
      ∀ state, machine.ReachableUnder allowed state → ¬ final state →
        ∃ label target, usable label ∧ allowed state label ∧
          machine.next state label = some target ∧
            measure target < measure state)
    {state : State} (reachable : machine.ReachableUnder allowed state) :
    ∃ labels target, (∀ label ∈ labels, usable label) ∧
      machine.run state labels = some target ∧ final target := by
  induction bound : measure state using Nat.strongRecOn
      generalizing state with
  | _ bound inductionHypothesis =>
      by_cases finished : final state
      · exact ⟨[], state, by simp, rfl, finished⟩
      · obtain ⟨label, middle, isUsable, isAllowed, stepped, lower⟩ :=
          progress state reachable finished
        obtain ⟨labels, target, allUsable, executed, completed⟩ :=
          inductionHypothesis (measure middle) (by omega)
            (reachable.step label isAllowed stepped) rfl
        refine ⟨label :: labels, target, ?_, ?_, completed⟩
        · intro other member
          obtain same | later := List.mem_cons.mp member
          · exact same ▸ isUsable
          · exact allUsable other later
        · rw [TransitionMachine.run, stepped]
          exact executed

theorem Reachable.completes_using
    {machine : TransitionMachine State Label} {final : State → Prop}
    (usable : Label → Prop) (measure : State → Nat)
    (progress :
      ∀ state, machine.Reachable state → ¬ final state →
        ∃ label target, usable label ∧
          machine.next state label = some target ∧
            measure target < measure state)
    {state : State} (reachable : machine.Reachable state) :
    ∃ labels target, (∀ label ∈ labels, usable label) ∧
      machine.run state labels = some target ∧ final target := by
  refine ReachableUnder.completes_using usable measure ?_ reachable
  intro state reachable unfinished
  obtain ⟨label, target, isUsable, stepped, lower⟩ :=
    progress state reachable unfinished
  exact ⟨label, target, isUsable, trivial, stepped, lower⟩

end TransitionMachine
