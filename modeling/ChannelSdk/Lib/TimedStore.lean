import ChannelSdk.Lib.SharedStore

/-!
# Waits with a deadline

The threads of a shared store read a clock.  A take notes when it was called;
a pass that finds nothing reads the clock and, still under the lock, waits for
a time that depends on how long the call is under way.  A wait that is left
before its deadline goes back to the loop, one that is left at or after it
times out, whatever has woken the thread.

Time passes at any step, also between the reading of the clock and the wait.
-/

universe u v w

namespace SharedStore

variable {Store : Type u} {Item Request Result Fault : Type v}

/-- When a call began, read the clock in its last pass and began its last
wait, the deadline of this wait, and whether it was left in time. -/
structure Times where
  began : Nat
  read : Nat
  waited : Nat
  deadline : Int
  resumed : Bool

/-- A store and its threads with a clock.  The holder has the lock between its
pass and its wait. -/
structure TimedState (Store : Type u) (Thread : Type w)
    (Item Request Result : Type v) where
  base : State Store Thread Item Request Result
  clock : Nat
  holder : Option Thread
  times : Thread → Times

inductive TimedLabel (Thread : Type w) (Item Request : Type v) where
  | tick (elapsed : Nat)
  | put (item : Item)
  | call (thread : Thread) (request : Request)
  | pass (thread : Thread)
  | wait (thread : Thread)
  | wake (thread : Thread)
  | resume (thread : Thread)
  | timeout (thread : Thread)

namespace Place

def isReady : Place Request Result → Bool
  | .ready _ => true
  | .idle | .blocked _ | .woken _ | .done _ => false

def isBlocked : Place Request Result → Bool
  | .blocked _ => true
  | .idle | .ready _ | .woken _ | .done _ => false

def isWoken : Place Request Result → Bool
  | .woken _ => true
  | .idle | .ready _ | .blocked _ | .done _ => false

/-- Between the call of a take and its return. -/
def inCall : Place Request Result → Bool
  | .ready _ | .blocked _ | .woken _ => true
  | .idle | .done _ => false

/-- Inside a wait, or about to begin or leave one. -/
def sleeps (place : Place Request Result) : Bool :=
  place.isBlocked || place.isWoken

end Place

section Machine

variable {Thread : Type w} [DecidableEq Thread]
variable (shared : SharedStore Store Item Request Result Fault)
variable (remaining : Nat → Int)

namespace TimedState

def setTimes (state : TimedState Store Thread Item Request Result)
    (thread : Thread) (times : Times) :
    TimedState Store Thread Item Request Result :=
  { state with times := Function.update state.times thread times }

/-- The times of a call that begins now. -/
def beginning (state : TimedState Store Thread Item Request Result) :
    Times where
  began := state.clock
  read := state.clock
  waited := state.clock
  deadline := state.clock
  resumed := false

/-- The times of a thread that begins to wait now. -/
def waiting (state : TimedState Store Thread Item Request Result)
    (thread : Thread) : Times :=
  { state.times thread with
    waited := state.clock
    deadline :=
      state.clock +
        remaining ((state.times thread).read - (state.times thread).began)
    resumed := false }

end TimedState

/-- A step with its time. -/
def timedNext (state : TimedState Store Thread Item Request Result) :
    TimedLabel Thread Item Request →
      Option (TimedState Store Thread Item Request Result)
  | .tick elapsed => some { state with clock := state.clock + elapsed }
  | .put item =>
      if state.holder = none then
        (shared.next state.base (.put item)).map fun base =>
          { state with base := base }
      else none
  | .call thread request =>
      (shared.next state.base (.call thread request)).map fun base =>
        { state.setTimes thread state.beginning with base := base }
  | .pass thread =>
      if state.holder = none ∧
          ((state.base.threads thread).isReady ||
            (state.times thread).resumed) then
        (shared.next state.base (.pass thread)).map fun base =>
          { state.setTimes thread
              { state.times thread with read := state.clock } with
            base := base
            holder :=
              if (base.threads thread).isBlocked then some thread else none }
      else none
  | .wait thread =>
      if state.holder = some thread then
        some { state.setTimes thread (state.waiting remaining thread) with
          holder := none }
      else none
  | .wake thread =>
      if state.holder = some thread then none
      else
        (shared.next state.base (.wake thread)).map fun base =>
          { state with base := base }
  | .resume thread =>
      if state.holder = none ∧ (state.base.threads thread).isWoken ∧
          (state.times thread).resumed = false ∧
          state.clock < (state.times thread).deadline then
        some (state.setTimes thread
          { state.times thread with resumed := true })
      else none
  | .timeout thread =>
      if state.holder = none ∧ (state.times thread).resumed = false ∧
          (state.times thread).deadline ≤ state.clock then
        (shared.next state.base (.timeout thread)).map fun base =>
          { state with base := base }
      else none

/-- A timed store that its threads find in a given state. -/
def timedMachine (begun : Store) :
    TransitionMachine (TimedState Store Thread Item Request Result)
      (TimedLabel Thread Item Request) where
  initial := fun state =>
    (shared.machine begun).initial state.base ∧ state.holder = none
  next := shared.timedNext remaining

end Machine

/-! ## The store without its clock -/

/-- The step without time, if there is one. -/
def TimedLabel.untimed {Thread : Type w} :
    TimedLabel Thread Item Request → Option (Label Thread Item Request)
  | .tick _ | .wait _ | .resume _ => none
  | .put item => some (.put item)
  | .call thread request => some (.call thread request)
  | .pass thread => some (.pass thread)
  | .wake thread => some (.wake thread)
  | .timeout thread => some (.timeout thread)

section Untimed

variable {Thread : Type w} [DecidableEq Thread]
variable {shared : SharedStore Store Item Request Result Fault}
variable {remaining : Nat → Int}
variable {state target : TimedState Store Thread Item Request Result}

/-- A step of the timed store is a step of the store or leaves it alone. -/
theorem untimed_of_timedNext
    {label : TimedLabel Thread Item Request}
    (stepped : shared.timedNext remaining state label = some target) :
    (label.untimed = none ∧ target.base = state.base) ∨
      ∃ other, label.untimed = some other ∧
        shared.next state.base other = some target.base := by
  cases label with
  | tick elapsed =>
      cases stepped
      exact .inl ⟨rfl, rfl⟩
  | wait thread | resume thread =>
      simp only [timedNext] at stepped
      split at stepped <;> cases stepped
      exact .inl ⟨rfl, rfl⟩
  | call thread request =>
      obtain ⟨base, moved, rfl⟩ := Option.map_eq_some_iff.mp stepped
      exact .inr ⟨_, rfl, moved⟩
  | put _ | pass _ | timeout _ =>
      simp only [timedNext] at stepped
      split at stepped
      case isTrue =>
        obtain ⟨base, moved, rfl⟩ := Option.map_eq_some_iff.mp stepped
        exact .inr ⟨_, rfl, moved⟩
      case isFalse => cases stepped
  | wake thread =>
      simp only [timedNext] at stepped
      split at stepped
      case isTrue => cases stepped
      case isFalse =>
        obtain ⟨base, moved, rfl⟩ := Option.map_eq_some_iff.mp stepped
        exact .inr ⟨_, rfl, moved⟩

omit [DecidableEq Thread] in
/-- A condition on the steps of the store, for those with time. -/
def TimedState.Allowed
    (allowed :
      State Store Thread Item Request Result →
        Label Thread Item Request → Prop)
    (state : TimedState Store Thread Item Request Result)
    (label : TimedLabel Thread Item Request) : Prop :=
  ∀ other, label.untimed = some other → allowed state.base other

/-- A run of the timed store is one of the store, under the same condition. -/
theorem reachableUnder_base
    {begun : Store}
    {allowed :
      State Store Thread Item Request Result →
        Label Thread Item Request → Prop}
    (reachable :
      (shared.timedMachine remaining begun).ReachableUnder
        (TimedState.Allowed allowed) state) :
    (shared.machine begun).ReachableUnder allowed state.base := by
  induction reachable with
  | initial isInitial => exact .initial isInitial.1
  | step label _ isAllowed stepped inductionHypothesis =>
      obtain ⟨-, same⟩ | ⟨other, isOther, moved⟩ :=
        untimed_of_timedNext stepped
      · rw [same]
        exact inductionHypothesis
      · exact .step other inductionHypothesis (isAllowed other isOther) moved

end Untimed

/-! ## How a thread moves -/

section Moves

variable {Thread : Type w} [DecidableEq Thread]
variable {shared : SharedStore Store Item Request Result Fault}
variable {state target : State Store Thread Item Request Result}
variable {thread : Thread}

theorem threads_of_put {item : Item}
    (stepped : shared.next state (.put item) = some target) (other : Thread) :
    target.threads other = (state.threads other).notified := by
  simp only [next] at stepped
  split at stepped <;> cases stepped
  rfl

theorem threads_of_call {request : Request}
    (stepped : shared.next state (.call thread request) = some target) :
    (state.threads thread).inCall = false ∧
      target.threads =
        Function.update state.threads thread (.ready request) := by
  simp only [next] at stepped
  split at stepped <;> cases stepped
  · next resting =>
      rw [resting]
      exact ⟨rfl, rfl⟩
  · next resting =>
      rw [resting]
      exact ⟨rfl, rfl⟩

/-- A pass ends the call or leads to the wait. -/
theorem threads_of_pass
    (stepped : shared.next state (.pass thread) = some target) :
    (state.threads thread).inCall ∧
      ∃ place,
        target.threads = Function.update state.threads thread place ∧
          (place.isBlocked ∨ place.inCall = false) := by
  simp only [next] at stepped
  split at stepped
  case h_2 => cases stepped
  case h_1 request passing =>
    refine ⟨?_, ?_⟩
    · cases current : state.threads thread with
      | ready _ | woken _ => rfl
      | idle | blocked _ | done _ =>
          rw [current] at passing
          cases passing
    · split at stepped <;> cases stepped
      · exact ⟨_, rfl, .inr rfl⟩
      · exact ⟨_, rfl, .inl rfl⟩

theorem threads_of_wake
    (stepped : shared.next state (.wake thread) = some target) :
    (state.threads thread).isBlocked ∧
      ∃ request,
        target.threads =
          Function.update state.threads thread (.woken request) := by
  simp only [next] at stepped
  split at stepped <;> cases stepped
  next request sleeping =>
    rw [sleeping]
    exact ⟨rfl, request, rfl⟩

theorem threads_of_timeout
    (stepped : shared.next state (.timeout thread) = some target) :
    (state.threads thread).sleeps ∧
      target.threads =
        Function.update state.threads thread (.done shared.expired) := by
  simp only [next] at stepped
  split at stepped <;> cases stepped
  all_goals
    next request sleeping =>
      rw [sleeping]
      exact ⟨rfl, rfl⟩

end Moves

/-! ## The times of waiting threads -/

namespace Place

theorem sleeps_notified (place : Place Request Result) :
    place.notified.sleeps = place.sleeps := by
  cases place <;> rfl

theorem inCall_notified (place : Place Request Result) :
    place.notified.inCall = place.inCall := by
  cases place <;> rfl

theorem isBlocked_of_outside {place : Place Request Result}
    (outside : place.inCall = false) : place.isBlocked = false := by
  cases place with
  | idle | done _ => rfl
  | ready _ | blocked _ | woken _ => cases outside

theorem sleeps_of_isBlocked {place : Place Request Result}
    (blocked : place.isBlocked) : place.sleeps := by
  rw [sleeps, blocked, Bool.true_or]

theorem inCall_of_isBlocked {place : Place Request Result}
    (blocked : place.isBlocked) : place.inCall := by
  cases place with
  | blocked _ => rfl
  | idle | ready _ | woken _ | done _ => cases blocked

theorem not_isBlocked_notified (place : Place Request Result) :
    place.notified.isBlocked = false := by
  cases place <;> rfl

end Place

/-- The times of one thread at its place; `held` says that it has the lock
between its pass and its wait. -/
structure TimelyAt (remaining : Nat → Int) (clock : Nat)
    (place : Place Request Result) (held : Prop) (times : Times) : Prop where
  holds : held → place.isBlocked
  begun : place.inCall → times.began ≤ clock
  read : place.sleeps → times.began ≤ times.read ∧ times.read ≤ clock
  waits : place.sleeps → ¬ held →
    times.read ≤ times.waited ∧ times.waited ≤ clock ∧
      times.deadline = times.waited + remaining (times.read - times.began)
  asleep : place.isBlocked → ¬ held → times.resumed = false

namespace TimelyAt

variable {remaining : Nat → Int} {clock : Nat} {held : Prop} {times : Times}
variable {place : Place Request Result}

theorem tick
    (timely : TimelyAt remaining clock place held times) (elapsed : Nat) :
    TimelyAt remaining (clock + elapsed) place held times where
  holds := timely.holds
  begun := fun inCall => Nat.le_add_right_of_le (timely.begun inCall)
  read := by
    intro sleeps
    obtain ⟨began, read⟩ := timely.read sleeps
    exact ⟨began, Nat.le_add_right_of_le read⟩
  waits := by
    intro sleeps free
    obtain ⟨read, waited, deadline⟩ := timely.waits sleeps free
    exact ⟨read, Nat.le_add_right_of_le waited, deadline⟩
  asleep := timely.asleep

theorem notified
    (timely : TimelyAt remaining clock place held times) (free : ¬ held) :
    TimelyAt remaining clock place.notified held times where
  holds := fun holding => absurd holding free
  begun := fun inCall => timely.begun (place.inCall_notified ▸ inCall)
  read := fun sleeps => timely.read (place.sleeps_notified ▸ sleeps)
  waits := fun sleeps _ =>
    timely.waits (place.sleeps_notified ▸ sleeps) free
  asleep := fun blocked _ => by
    rw [place.not_isBlocked_notified] at blocked
    cases blocked

/-- A thread that is not in a call has no times to keep. -/
theorem outside
    (outside : place.inCall = false) (free : ¬ held) :
    TimelyAt remaining clock place held times := by
  cases place with
  | idle | done _ =>
      constructor
      · exact fun holding => absurd holding free
      all_goals
        intro inside
        cases inside
  | ready _ | blocked _ | woken _ => cases outside

theorem ready {request : Request}
    (begun : times.began ≤ clock) (free : ¬ held) :
    TimelyAt remaining clock (.ready request : Place Request Result) held
      times where
  holds := fun holding => absurd holding free
  begun := fun _ => begun
  read := fun sleeps => nomatch sleeps
  waits := fun sleeps _ => nomatch sleeps
  asleep := fun blocked _ => nomatch blocked

/-- A thread has found nothing, reads the clock and keeps the lock. -/
theorem holding
    (blocked : place.isBlocked) (isHeld : held)
    (begun : times.began ≤ clock) :
    TimelyAt remaining clock place held { times with read := clock } where
  holds := fun _ => blocked
  begun := fun _ => begun
  read := fun _ => ⟨begun, Nat.le_refl clock⟩
  waits := fun _ free => absurd isHeld free
  asleep := fun _ free => absurd isHeld free

/-- The holder begins to wait. -/
theorem wait
    (timely : TimelyAt remaining clock place held times)
    {free : Prop} (released : ¬ free) :
    TimelyAt remaining clock place free
      { times with
        waited := clock
        deadline := clock + remaining (times.read - times.began)
        resumed := false } where
  holds := fun holding => absurd holding released
  begun := timely.begun
  read := timely.read
  waits := fun sleeps _ =>
    ⟨(timely.read sleeps).2, Nat.le_refl clock, rfl⟩
  asleep := fun _ _ => rfl

theorem woken
    (timely : TimelyAt remaining clock place held times)
    (blocked : place.isBlocked) (free : ¬ held) {request : Request} :
    TimelyAt remaining clock (.woken request : Place Request Result) held
      times where
  holds := fun holding => absurd holding free
  begun := fun _ => timely.begun (Place.inCall_of_isBlocked blocked)
  read := fun _ => timely.read (Place.sleeps_of_isBlocked blocked)
  waits := fun _ => timely.waits (Place.sleeps_of_isBlocked blocked)
  asleep := fun other _ => nomatch other

theorem resume
    (timely : TimelyAt remaining clock place held times)
    (woken : place.isWoken) :
    TimelyAt remaining clock place held { times with resumed := true } where
  holds := timely.holds
  begun := timely.begun
  read := timely.read
  waits := timely.waits
  asleep := by
    intro blocked
    cases place with
    | woken _ => cases blocked
    | idle | ready _ | blocked _ | done _ => cases woken

end TimelyAt

section Timely

variable {Thread : Type w} [DecidableEq Thread]
variable {shared : SharedStore Store Item Request Result Fault}
variable {remaining : Nat → Int}
variable {state target : TimedState Store Thread Item Request Result}

omit [DecidableEq Thread] in
/-- The times of all threads. -/
def Timely (remaining : Nat → Int)
    (state : TimedState Store Thread Item Request Result) : Prop :=
  ∀ thread,
    TimelyAt remaining state.clock (state.base.threads thread)
      (state.holder = some thread) (state.times thread)

/-- One thread moves. -/
theorem Timely.move
    (timely : Timely remaining state) {thread : Thread}
    {place : Place Request Result} {times : Times}
    (sameClock : target.clock = state.clock)
    (moved :
      target.base.threads =
        Function.update state.base.threads thread place)
    (timed : target.times = Function.update state.times thread times)
    (others :
      ∀ other, other ≠ thread →
        (target.holder = some other ↔ state.holder = some other))
    (here :
      TimelyAt remaining state.clock place (target.holder = some thread)
        times) :
    Timely remaining target := by
  intro other
  rw [sameClock, moved, timed]
  by_cases same : other = thread
  · subst same
    rw [Function.update_self, Function.update_self]
    exact here
  · rw [Function.update_of_ne same, Function.update_of_ne same, others other same]
    exact timely other

omit [DecidableEq Thread] in
theorem Timely.free_outside
    (timely : Timely remaining state) {thread : Thread}
    (outside : (state.base.threads thread).inCall = false) :
    state.holder ≠ some thread := by
  intro holding
  have blocked := (timely thread).holds holding
  cases current : state.base.threads thread with
  | idle | ready _ | woken _ | done _ =>
      rw [current] at blocked
      cases blocked
  | blocked _ =>
      rw [current] at outside
      cases outside

theorem Timely.next
    (timely : Timely remaining state)
    {label : TimedLabel Thread Item Request}
    (stepped : shared.timedNext remaining state label = some target) :
    Timely remaining target := by
  cases label with
  | tick elapsed =>
      cases stepped
      intro thread
      exact (timely thread).tick elapsed
  | put item =>
      simp only [timedNext] at stepped
      split at stepped
      case isFalse => cases stepped
      case isTrue free =>
        obtain ⟨base, moved, rfl⟩ := Option.map_eq_some_iff.mp stepped
        intro thread
        dsimp only
        rw [threads_of_put moved]
        exact (timely thread).notified (by simp [free])
  | call thread request =>
      obtain ⟨base, moved, rfl⟩ := Option.map_eq_some_iff.mp stepped
      obtain ⟨outside, threads⟩ := threads_of_call moved
      refine timely.move rfl threads rfl (fun _ _ => .rfl) ?_
      exact .ready (Nat.le_refl state.clock) (timely.free_outside outside)
  | pass thread =>
      simp only [timedNext] at stepped
      split at stepped
      case isFalse => cases stepped
      case isTrue ready =>
        obtain ⟨base, moved, rfl⟩ := Option.map_eq_some_iff.mp stepped
        obtain ⟨inCall, place, threads, next⟩ := threads_of_pass moved
        have there : base.threads thread = place := by
          rw [threads, Function.update_self]
        refine timely.move rfl threads rfl ?_ ?_
        · intro other different
          dsimp only
          rw [ready.1]
          split <;> simp [Ne.symm different]
        · dsimp only
          rw [there]
          obtain blocked | outside := next
          · rw [if_pos blocked]
            exact .holding blocked rfl ((timely thread).begun inCall)
          · rw [Place.isBlocked_of_outside outside]
            exact .outside outside (by simp)
  | wait thread =>
      simp only [timedNext] at stepped
      split at stepped
      case isFalse => cases stepped
      case isTrue holding =>
        cases stepped
        refine
          timely.move rfl (Function.update_eq_self thread _).symm rfl ?_ ?_
        · intro other different
          rw [holding]
          simp [Ne.symm different]
        · exact (timely thread).wait (by simp)
  | wake thread =>
      simp only [timedNext] at stepped
      split at stepped
      case isTrue => cases stepped
      case isFalse free =>
        obtain ⟨base, moved, rfl⟩ := Option.map_eq_some_iff.mp stepped
        obtain ⟨blocked, request, threads⟩ := threads_of_wake moved
        refine
          timely.move rfl threads (Function.update_eq_self thread _).symm
            (fun _ _ => .rfl) ?_
        exact (timely thread).woken blocked free
  | resume thread =>
      simp only [timedNext] at stepped
      split at stepped
      case isFalse => cases stepped
      case isTrue enabled =>
        cases stepped
        refine
          timely.move rfl (Function.update_eq_self thread _).symm rfl
            (fun _ _ => .rfl) ?_
        exact (timely thread).resume enabled.2.1
  | timeout thread =>
      simp only [timedNext] at stepped
      split at stepped
      case isFalse => cases stepped
      case isTrue enabled =>
        obtain ⟨base, moved, rfl⟩ := Option.map_eq_some_iff.mp stepped
        refine
          timely.move rfl (threads_of_timeout moved).2
            (Function.update_eq_self thread _).symm (fun _ _ => .rfl) ?_
        exact .outside rfl (by simp [enabled.1])

/-- The times are kept in every run. -/
theorem timely_of_reachable {begun : Store}
    (reachable : (shared.timedMachine remaining begun).Reachable state) :
    Timely remaining state := by
  refine reachable.invariant ?_ ?_
  · intro start isInitial thread
    obtain ⟨⟨-, idle, -⟩, free⟩ := isInitial
    rw [idle]
    exact .outside rfl (by simp [free])
  · intro source label target timely stepped
    exact timely.next stepped

/-! ## Every call returns -/

/-- The steps of a thread that returns by itself: time passes, the lock is
given up, and the thread goes on. -/
def TimedLabel.serves (thread : Thread) :
    TimedLabel Thread Item Request → Prop
  | .tick _ | .wait _ => True
  | .pass other | .timeout other => other = thread
  | .put _ | .call _ _ | .wake _ | .resume _ => False

/-- How far a thread is from its return without the lock. -/
def Place.away (resumed due : Bool) : Place Request Result → Nat
  | .idle | .done _ => 0
  | .ready _ => 10
  | .blocked _ => if due then 2 else 3
  | .woken _ => if resumed then 10 else if due then 2 else 3

/-- How far a call is from its return. -/
def TimedState.away (state : TimedState Store Thread Item Request Result)
    (thread : Thread) : Nat :=
  (state.base.threads thread).away (state.times thread).resumed
      (decide ((state.times thread).deadline ≤ state.clock)) +
    if state.holder.isSome then 2 else 0

theorem Place.away_of_isBlocked
    {place : Place Request Result} (blocked : place.isBlocked)
    (resumed due : Bool) :
    2 ≤ place.away resumed due ∧ place.away resumed due ≤ 3 := by
  cases place with
  | blocked _ =>
      rw [Place.away]
      split <;> omega
  | idle | ready _ | woken _ | done _ => cases blocked

theorem Place.away_of_sleeps
    {place : Place Request Result} (sleeps : place.sleeps) (due : Bool) :
    place.away false due = if due then 2 else 3 := by
  cases place with
  | blocked _ | woken _ => rfl
  | idle | ready _ | done _ => cases sleeps

theorem Place.away_of_outside
    {place : Place Request Result} (outside : place.inCall = false)
    (resumed due : Bool) : place.away resumed due = 0 := by
  cases place with
  | idle | done _ => rfl
  | ready _ | blocked _ | woken _ => cases outside

theorem Place.away_of_request?
    {place : Place Request Result} {resumed due : Bool} {request : Request}
    (ready : place.isReady || resumed)
    (passing : place.request? = some request) :
    place.away resumed due = 10 := by
  cases place with
  | ready _ => rfl
  | woken _ =>
      obtain rfl : resumed = true := ready
      rfl
  | idle | blocked _ | done _ => cases passing

variable (shared) in
/-- The holder begins its wait, whoever it is. -/
theorem exists_wait
    (timely : Timely remaining state) {holder : Thread}
    (holding : state.holder = some holder) (thread : Thread) :
    ∃ target,
      shared.timedNext remaining state (.wait holder) = some target ∧
        target.away thread < state.away thread := by
  refine ⟨_, if_pos holding, ?_⟩
  by_cases same : thread = holder
  · subst same
    have blocked := (timely thread).holds holding
    have away := Place.away_of_isBlocked blocked
    simp only [TimedState.away, TimedState.setTimes, holding,
      Option.isSome_some, Option.isSome_none, if_true, Bool.false_eq_true,
      if_false]
    exact Nat.lt_of_le_of_lt (away _ _).2
      (Nat.lt_of_lt_of_le (by decide) (Nat.add_le_add_right (away _ _).1 2))
  · simp only [TimedState.away, TimedState.setTimes, holding,
      Function.update_of_ne same]
    simp

variable (remaining) in
/-- A thread passes its loop when it has the lock for itself. -/
theorem exists_pass
    {request : Request} {outcome : Option (Result × Store)} {thread : Thread}
    (free : state.holder = none)
    (ready :
      (state.base.threads thread).isReady || (state.times thread).resumed)
    (passing : (state.base.threads thread).request? = some request)
    (taken : shared.take state.base.store request = .ok outcome) :
    ∃ target,
      shared.timedNext remaining state (.pass thread) = some target ∧
        target.away thread < state.away thread := by
  obtain ⟨base, moved⟩ :
      ∃ base, shared.next state.base (.pass thread) = some base := by
    simp only [SharedStore.next, passing, taken]
    cases outcome with
    | none => exact ⟨_, rfl⟩
    | some taken => exact ⟨_, rfl⟩
  obtain ⟨-, place, threads, next⟩ := threads_of_pass moved
  have there : base.threads thread = place := by
    rw [threads, Function.update_self]
  refine
    ⟨_, (if_pos ⟨free, ready⟩).trans (congrArg (Option.map _) moved), ?_⟩
  refine Nat.lt_of_lt_of_le ?_ (Nat.le_add_right _ _)
  rw [Place.away_of_request? ready passing]
  simp only [TimedState.away, TimedState.setTimes, there]
  obtain blocked | outside := next
  · rw [if_pos blocked]
    have away := Place.away_of_isBlocked blocked
    exact
      Nat.lt_of_le_of_lt (Nat.add_le_add_right (away _ _).2 2) (by decide)
  · simp [Place.away_of_outside outside, Place.isBlocked_of_outside outside]

variable (shared) in
variable (remaining) in
/-- A thread that sleeps with nobody at the lock waits for its deadline. -/
theorem exists_expiry
    {thread : Thread} (free : state.holder = none)
    (sleeps : (state.base.threads thread).sleeps)
    (waiting : (state.times thread).resumed = false) :
    ∃ label target,
      TimedLabel.serves thread label ∧
        shared.timedNext remaining state label = some target ∧
        target.away thread < state.away thread := by
  have away : state.away thread =
      (if (state.times thread).deadline ≤ state.clock then 2 else 3) + 0 := by
    simp only [TimedState.away, waiting, free, Place.away_of_sleeps sleeps,
      decide_eq_true_eq, Option.isSome_none, Bool.false_eq_true, if_false]
  by_cases due : (state.times thread).deadline ≤ state.clock
  · obtain ⟨base, moved⟩ :
        ∃ base, shared.next state.base (.timeout thread) = some base := by
      simp only [SharedStore.next]
      cases place : state.base.threads thread with
      | blocked _ | woken _ => exact ⟨_, rfl⟩
      | idle | ready _ | done _ =>
          rw [place] at sleeps
          cases sleeps
    refine ⟨.timeout thread, { state with base := base }, rfl, ?_, ?_⟩
    · simp only [timedNext]
      rw [if_pos ⟨free, waiting, due⟩, moved]
      rfl
    · rw [away, if_pos due, TimedState.away, (threads_of_timeout moved).2,
        Function.update_self, free]
      exact Nat.zero_lt_two
  · have reached :
        (state.times thread).deadline ≤
          (state.clock +
            ((state.times thread).deadline - state.clock).toNat : Nat) := by
      omega
    refine ⟨.tick ((state.times thread).deadline - state.clock).toNat, _,
      trivial, rfl, ?_⟩
    rw [away, if_neg due]
    simp only [TimedState.away, waiting, free, Place.away_of_sleeps sleeps,
      decide_eq_true reached, Option.isSome_none, Bool.false_eq_true, if_true,
      if_false]
    decide

/-- A thread in a call has a step of its own, or waits for the lock or for its
deadline. -/
theorem exists_serving
    (timely : Timely remaining state) {thread : Thread}
    (takes :
      ∀ request, (state.base.threads thread).request? = some request →
        ∃ outcome, shared.take state.base.store request = .ok outcome)
    (inCall : (state.base.threads thread).inCall) :
    ∃ label target,
      TimedLabel.serves thread label ∧
        shared.timedNext remaining state label = some target ∧
        target.away thread < state.away thread := by
  cases holding : state.holder with
  | some holder =>
      obtain ⟨target, stepped, nearer⟩ :=
        exists_wait shared timely holding thread
      exact ⟨.wait holder, target, trivial, stepped, nearer⟩
  | none =>
      cases place : state.base.threads thread with
      | idle | done _ =>
          rw [place] at inCall
          cases inCall
      | ready request =>
          have passing :
              (state.base.threads thread).request? = some request := by
            rw [place]
            rfl
          obtain ⟨outcome, taken⟩ := takes request passing
          obtain ⟨target, stepped, nearer⟩ :=
            exists_pass remaining holding (by rw [place]; rfl) passing taken
          exact ⟨.pass thread, target, rfl, stepped, nearer⟩
      | blocked request =>
          refine exists_expiry shared remaining holding (by rw [place]; rfl) ?_
          refine (timely thread).asleep (by rw [place]; rfl) ?_
          simp [holding]
      | woken request =>
          cases left : (state.times thread).resumed with
          | false =>
              exact
                exists_expiry shared remaining holding (by rw [place]; rfl)
                  left
          | true =>
              have passing :
                  (state.base.threads thread).request? = some request := by
                rw [place]
                rfl
              obtain ⟨outcome, taken⟩ := takes request passing
              obtain ⟨target, stepped, nearer⟩ :=
                exists_pass remaining holding (by rw [left, Bool.or_true])
                  passing taken
              exact ⟨.pass thread, target, rfl, stepped, nearer⟩

/-- From every state a call returns by the passing of time and by its own
steps, whether anything is put or not. -/
theorem returns {begun : Store} {thread : Thread}
    {allowed :
      State Store Thread Item Request Result →
        Label Thread Item Request → Prop}
    (own :
      ∀ state, allowed state (.pass thread) ∧ allowed state (.timeout thread))
    (takes :
      ∀ state request,
        (shared.machine begun).ReachableUnder allowed state →
          (state.threads thread).request? = some request →
            ∃ outcome, shared.take state.store request = .ok outcome)
    (reachable :
      (shared.timedMachine remaining begun).ReachableUnder
        (TimedState.Allowed allowed) state) :
    ∃ labels target,
      (∀ label ∈ labels, TimedLabel.serves thread label) ∧
        (shared.timedMachine remaining begun).run state labels =
          some target ∧
        (target.base.threads thread).inCall = false := by
  refine
    reachable.completes_using (TimedLabel.serves thread)
      (fun state => state.away thread) ?_
  intro state reachable inCall
  obtain ⟨label, target, serves, stepped, nearer⟩ :=
    exists_serving (timely_of_reachable reachable.reachable)
      (fun request => takes state.base request (reachableUnder_base reachable))
      (eq_true_of_ne_false inCall)
  refine ⟨label, target, serves, ?_, stepped, nearer⟩
  intro other isOther
  cases label with
  | tick _ | wait _ => cases isOther
  | put _ | call _ _ | wake _ | resume _ => cases serves
  | pass other =>
      cases isOther
      obtain rfl : other = thread := serves
      exact (own state.base).1
  | timeout other =>
      cases isOther
      obtain rfl : other = thread := serves
      exact (own state.base).2

end Timely

end SharedStore
