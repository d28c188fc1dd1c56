import ChannelSdk.SharedReceive
import ChannelSdk.Lib.TimedStore

/-!
# How long a receive waits

`recv` of `core/src/client_connection.cc` notes the time at which it is called.
A pass that finds nothing computes the time that is left of the receive
timeout, in whole milliseconds, and waits for that long; the clock counts
nanoseconds.  The argument `timeout` of `recv` is not used.

A receive is woken for messages of other ids and without a reason.  Its
deadline stays where it is, up to a millisecond and the time that the pass
itself takes.
-/

namespace ChannelSdk

open CheckedMemory

universe u v w

/-- The conversion of any integer to a signed 64-bit one, modulo `2 ^ 64`. -/
def toInt64 (value : Int) : Int :=
  (value + 9223372036854775808) % 18446744073709551616 - 9223372036854775808

/-- `remain_time` in milliseconds, when the call is under way for so many
nanoseconds. -/
def remainTime (recvTimeout elapsed : Nat) : Int :=
  toInt64 (recvTimeout - (elapsed / 1000000 : Nat))

/-- The wait for `remain_time` in nanoseconds. -/
def remainingWait (recvTimeout elapsed : Nat) : Int :=
  remainTime recvTimeout elapsed * 1000000

theorem remainTime_eq
    {recvTimeout elapsed : Nat} (fits : recvTimeout < 9223372036854775808)
    (early : elapsed < 9223372036854775808) :
    remainTime recvTimeout elapsed =
      recvTimeout - (elapsed / 1000000 : Nat) := by
  simp only [remainTime, toInt64]
  omega

/-- The wait ends when the timeout is over, less than a millisecond later. -/
theorem remainingWait_bounds
    {recvTimeout elapsed : Nat} (fits : recvTimeout < 9223372036854775808)
    (early : elapsed < 9223372036854775808) :
    (recvTimeout * 1000000 : Int) ≤
        elapsed + remainingWait recvTimeout elapsed ∧
      elapsed + remainingWait recvTimeout elapsed <
        (recvTimeout + 1) * 1000000 := by
  rw [remainingWait, remainTime_eq fits early]
  omega

section Receives

variable {Store : Type u} {Item Request Result Fault : Type v}
variable {Thread : Type w} [DecidableEq Thread]
variable {shared : SharedStore Store Item Request Result Fault}
variable {recvTimeout : Nat} {begun : Store}
variable {state :
  SharedStore.TimedState Store Thread Item Request Result}

/-- The deadline of a waiting receive, seen from its call. -/
theorem deadline_bounds
    (reachable :
      (shared.timedMachine (remainingWait recvTimeout) begun).Reachable state)
    (fits : recvTimeout * 1000000 + state.clock < 9223372036854775808)
    {thread : Thread} (sleeps : (state.base.threads thread).sleeps)
    (free : state.holder ≠ some thread) :
    ((state.times thread).began + recvTimeout * 1000000 : Int) ≤
        (state.times thread).deadline ∧
      (state.times thread).deadline <
        (state.times thread).began + (recvTimeout + 1) * 1000000 +
          ((state.times thread).waited - (state.times thread).read : Nat) := by
  have timely := SharedStore.timely_of_reachable reachable thread
  obtain ⟨began, read⟩ := timely.read sleeps
  obtain ⟨waited, -, deadline⟩ := timely.waits sleeps free
  have small : recvTimeout < 9223372036854775808 := by omega
  have early :
      (state.times thread).read - (state.times thread).began <
        9223372036854775808 := by
    omega
  have bounds := remainingWait_bounds small early
  omega

/-- A receive that times out has been under way for the timeout. -/
theorem elapsed_of_timeout
    (reachable :
      (shared.timedMachine (remainingWait recvTimeout) begun).Reachable state)
    (fits : recvTimeout * 1000000 + state.clock < 9223372036854775808)
    {thread : Thread}
    {target : SharedStore.TimedState Store Thread Item Request Result}
    (expired :
      shared.timedNext (remainingWait recvTimeout) state (.timeout thread) =
        some target) :
    recvTimeout * 1000000 ≤ state.clock - (state.times thread).began := by
  simp only [SharedStore.timedNext] at expired
  split at expired
  case isFalse => cases expired
  case isTrue enabled =>
    obtain ⟨free, -, due⟩ := enabled
    obtain ⟨base, moved, -⟩ := Option.map_eq_some_iff.mp expired
    have bounds :=
      deadline_bounds reachable fits
        (SharedStore.threads_of_timeout moved).1 (by simp [free])
    omega

/-- How long the call of a thread takes.  While it waits, its deadline is at
the receive timeout after the call, or less than a millisecond and the time of
the last pass later.  When it times out, it has been under way for the timeout.
It returns by the passing of time and by its own steps. -/
structure ReceiveTimes
    (shared : SharedStore Store Item Request Result Fault)
    (recvTimeout : Nat) (begun : Store)
    (state : SharedStore.TimedState Store Thread Item Request Result)
    (thread : Thread) : Prop where
  deadline :
    (state.base.threads thread).sleeps → state.holder ≠ some thread →
      ((state.times thread).began + recvTimeout * 1000000 : Int) ≤
          (state.times thread).deadline ∧
        (state.times thread).deadline <
          (state.times thread).began + (recvTimeout + 1) * 1000000 +
            ((state.times thread).waited - (state.times thread).read : Nat)
  expires :
    ∀ target,
      shared.timedNext (remainingWait recvTimeout) state (.timeout thread) =
          some target →
        recvTimeout * 1000000 ≤ state.clock - (state.times thread).began
  returns :
    ∃ labels target,
      (∀ label ∈ labels, SharedStore.TimedLabel.serves thread label) ∧
        (shared.timedMachine (remainingWait recvTimeout) begun).run state
            labels = some target ∧
        (target.base.threads thread).inCall = false

end Receives

namespace ClientConnection

/-- How long a receive of the queue build waits, in every run of writers,
receivers, notifications and spurious wake-ups, with any time between any two
steps.  Without its clock the run is one of the connection, and the times of
every receive are kept, however often it is woken. -/
theorem receive_times
    {Thread : Type u} [DecidableEq Thread] (nodeid : String)
    (recvTimeout : Nat)
    {state :
      SharedStore.TimedState ClientConnection Thread (String × Bytes)
        (String × Nat) Received}
    (reachable :
      (shared.timedMachine (remainingWait recvTimeout)
        (create nodeid)).Reachable state)
    (fits : recvTimeout * 1000000 + state.clock < 9223372036854775808) :
    (shared.machine (create nodeid)).Reachable state.base ∧
      ∀ thread,
        ReceiveTimes shared recvTimeout (create nodeid) state thread := by
  have anyStep :
      (shared.timedMachine (remainingWait recvTimeout)
        (create nodeid)).ReachableUnder
          (SharedStore.TimedState.Allowed fun _ _ => True) state :=
    reachable.mono fun _ _ _ _ _ => trivial
  refine ⟨SharedStore.reachableUnder_base anyStep, ?_⟩
  intro thread
  constructor
  · intro sleeps free
    exact deadline_bounds reachable fits sleeps free
  · intro target expired
    exact elapsed_of_timeout reachable fits expired
  · exact
      SharedStore.returns (fun _ => ⟨trivial, trivial⟩)
        (fun _ _ _ _ => ⟨_, rfl⟩) anyStep

/-- A receive with a timeout of five milliseconds is woken for another message
id after one and a half, and times out after six and a half. -/
theorem receive_times_woken :
    ∃ state target :
        SharedStore.TimedState ClientConnection Unit (String × Bytes)
          (String × Nat) Received,
      (shared.timedMachine (remainingWait 5) (create "A")).Reachable state ∧
        shared.timedNext (remainingWait 5) state (.timeout ()) =
          some target ∧
        5 * 1000000 ≤ state.clock - (state.times ()).began := by
  have begun :
      (shared.timedMachine (remainingWait 5) (create "A")).Reachable
        (⟨⟨create "A", fun _ => .idle, [], []⟩, 0, none,
            fun _ => ⟨0, 0, 0, 0, false⟩⟩ :
          SharedStore.TimedState ClientConnection Unit (String × Bytes)
            (String × Nat) Received) :=
    .initial ⟨⟨rfl, fun _ => rfl, rfl, rfl⟩, rfl⟩
  have slept :=
    (((begun.step (.call () ("m", 1)) rfl).step (.tick 1500000) rfl).step
      (.pass ()) rfl).step (.wait ()) rfl
  have woken :=
    ((slept.step (.put ("other", [7])) rfl).step (.tick 1000000) rfl).step
      (.resume ()) rfl
  have reachable :=
    ((woken.step (.pass ()) rfl).step (.wait ()) rfl).step (.tick 4000000) rfl
  have times := (receive_times "A" 5 reachable (by decide)).2 ()
  exact ⟨_, _, reachable, rfl, times.expires _ rfl⟩

end ClientConnection

namespace BufferedConnection

/-- The same in the `USE_BUFFER` build, as long as the lengths fit 32 bits and
the rings can grow. -/
theorem buffered_receive_times
    {Thread : Type u} [DecidableEq Thread] (nodeid : String)
    {bufferSize : Int} (fitsInt : FitsInt32 bufferSize) (recvTimeout : Nat)
    {state :
      SharedStore.TimedState BufferedConnection Thread (String × Bytes)
        (String × Bytes) Received}
    (reachable :
      (shared.timedMachine (remainingWait recvTimeout)
        (create nodeid bufferSize)).ReachableUnder
          (SharedStore.TimedState.Allowed description.Allowed) state)
    (fits : recvTimeout * 1000000 + state.clock < 9223372036854775808) :
    (shared.machine (create nodeid bufferSize)).ReachableUnder
        description.Allowed state.base ∧
      ∀ thread,
        ReceiveTimes shared recvTimeout (create nodeid bufferSize) state
          thread := by
  refine ⟨SharedStore.reachableUnder_base reachable, ?_⟩
  intro thread
  constructor
  · intro sleeps free
    exact deadline_bounds reachable.reachable fits sleeps free
  · intro target expired
    exact elapsed_of_timeout reachable.reachable fits expired
  · refine SharedStore.returns (fun _ => ⟨trivial, trivial⟩) ?_ reachable
    intro base request reached passing
    have kept :=
      SharedStore.Description.kept_of_reachable
        (Reachable.create nodeid bufferSize fitsInt) (fun _ => rfl) reached
    exact kept.exists_take passing

end BufferedConnection

end ChannelSdk
