import ChannelSdk.WorkQueueRuns
import Mathlib.Data.List.Nodup
import Mathlib.Data.List.Perm.Subperm

/-!
# The callbacks of a work queue

Every call of `add` is given a callback that answers the request.  A live
queue answers with `ice_response(0)` before it stores the message, a destroyed
one with an exception.  The loop that ends `run` raises an exception for every
entry that is left in `_callbacks`; since `destroy` clears the list and nothing
enters it afterwards, the loop never finds one.  So the completions are those
of the calls, in lock order.

The same clearing loses what was acknowledged and not yet written.
-/

namespace ChannelSdk

open CheckedMemory

universe u

namespace Completion

variable {Callback : Type u}

/-- The callback that is completed. -/
def cb : Completion Callback → Callback
  | iceResponse cb _ => cb
  | sendDataException cb => cb

/-- The completion is `ice_response(0)`. -/
def isAcknowledgement : Completion Callback → Bool
  | iceResponse _ value => value = 0
  | sendDataException _ => false

end Completion

namespace WorkQueue

variable {Callback : Type u}

/-- The call of `add` that holds the monitor and has not executed yet. -/
def Holder.waiting : Holder Callback → List (CallbackEntry Callback)
  | .adding entry => [entry]
  | _ => []

/-- The messages of the calls that were completed with `ice_response(0)`. -/
def acknowledgedIn (calls : List (CallbackEntry Callback))
    (completions : List (Completion Callback)) : List (String × Bytes) :=
  ((calls.zip completions).filter fun call =>
    call.2.isAcknowledgement).map fun call => call.1.message

/-- A call that has no completion yet is not acknowledged. -/
theorem acknowledgedIn_append_left
    {calls : List (CallbackEntry Callback)}
    {completions : List (Completion Callback)}
    (sameLength : calls.length = completions.length)
    (entry : CallbackEntry Callback) :
    acknowledgedIn (calls ++ [entry]) completions =
      acknowledgedIn calls completions := by
  have paired :
      (calls ++ [entry]).zip (completions ++ []) =
        calls.zip completions ++ [entry].zip [] :=
    List.zip_append sameLength
  rw [List.append_nil, List.zip_nil_right, List.append_nil] at paired
  rw [acknowledgedIn, paired, acknowledgedIn]

theorem acknowledgedIn_append
    {calls : List (CallbackEntry Callback)}
    {completions : List (Completion Callback)}
    (sameLength : calls.length = completions.length)
    (entry : CallbackEntry Callback) (completion : Completion Callback) :
    acknowledgedIn (calls ++ [entry]) (completions ++ [completion]) =
      acknowledgedIn calls completions ++
        if completion.isAcknowledgement then [entry.message] else [] := by
  rw [acknowledgedIn, List.zip_append sameLength, List.filter_append,
    List.map_append, acknowledgedIn]
  rcases answers : completion.isAcknowledgement with _ | _ <;>
    simp [answers]

/-- The messages whose callback was completed with `ice_response(0)`.  The
completions stand in the order of the calls that they answer. -/
def Run.acknowledged (state : Run Callback) : List (String × Bytes) :=
  acknowledgedIn state.submitted state.completions

/-- Every acknowledged message was written to `ptr_client_conn_` or waits in
`_callbacks`, as many times as it was acknowledged, on top of what the
connection held at first. -/
def Run.NotLost (connection : ClientConnection) (state : Run Callback) :
    Prop :=
  ∀ msgid,
    (connection.queue msgid ++ messagesAt state.acknowledged msgid).Subperm
      (state.given msgid ++ messagesAt state.pending msgid)

/-- The completions answer the calls of `add` that have executed, and a
destroyed queue is empty. -/
structure Answered (state : Run Callback) : Prop where
  exclusive :
    state.thread = .loopTest ∨ state.thread = .secondHalf →
      state.holder = .runThread
  cleared : state.workQueue.done = true → state.workQueue.callbacks = []
  calls :
    ∃ executed, state.submitted = executed ++ state.holder.waiting ∧
      state.completions.map Completion.cb =
        executed.map CallbackEntry.cb
  acknowledged : state.acknowledged = state.accepted

namespace Answered

theorem start (nodeid : String) (connection : ClientConnection) :
    Answered (start nodeid connection : Run Callback) where
  exclusive := by simp [WorkQueue.start]
  cleared := by
    intro done
    cases done
  calls := ⟨[], rfl, rfl⟩
  acknowledged := rfl

/-- While another party holds the monitor, the run thread is neither at the
head of its loop nor in its second half. -/
theorem outside
    {state : Run Callback} (answered : Answered state)
    (elsewhere : state.holder ≠ .runThread) :
    ¬ (state.thread = .loopTest ∨ state.thread = .secondHalf) := by
  intro inside
  exact elsewhere (answered.exclusive inside)

/-- A step that neither begins nor executes a call keeps the answers. -/
theorem of_same_calls
    {source target : Run Callback} (answered : Answered source)
    (sameSubmitted : target.submitted = source.submitted)
    (sameCompletions : target.completions = source.completions)
    (sameAccepted : target.accepted = source.accepted)
    (sameWaiting : target.holder.waiting = source.holder.waiting)
    (exclusive :
      target.thread = .loopTest ∨ target.thread = .secondHalf →
        target.holder = .runThread)
    (cleared :
      target.workQueue.done = true → target.workQueue.callbacks = []) :
    Answered target where
  exclusive := exclusive
  cleared := cleared
  calls := by
    rw [sameSubmitted, sameCompletions, sameWaiting]
    exact answered.calls
  acknowledged := by
    rw [Run.acknowledged, sameSubmitted, sameCompletions, sameAccepted]
    exact answered.acknowledged

/-- The run thread holds the monitor at the head of its loop, and finds no
outstanding request when it leaves. -/
theorem test
    {state : Run Callback} (answered : Answered state)
    (atTest : state.thread = .loopTest) :
    Answered state.test := by
  have held := answered.exclusive (.inl atTest)
  unfold Run.test
  split
  · next done =>
      have nothing : state.workQueue.outstanding = [] := by
        rw [outstanding, answered.cleared done]
        rfl
      exact answered.of_same_calls rfl (by simp [nothing]) rfl
        (by simp [Holder.waiting, held]) (by simp) answered.cleared
  · split
    · exact answered.of_same_calls rfl rfl rfl
        (by simp [Holder.waiting, held]) (by simp) answered.cleared
    · exact answered.of_same_calls rfl rfl rfl rfl
        (fun _ => held) answered.cleared

theorem secondHalf
    {state : Run Callback} (answered : Answered state)
    (atSecondHalf : state.thread = .secondHalf) :
    Answered { state with
      workQueue := state.workQueue.deliver
      thread := .loopTest
      written :=
        state.written ++
          state.workQueue.nextEntry.toList.map CallbackEntry.message } := by
  have held := answered.exclusive (.inr atSecondHalf)
  refine answered.of_same_calls rfl rfl rfl rfl (fun _ => held) ?_
  intro done
  rw [deliver_done] at done
  rw [deliver, nextEntry_of_done done]
  exact answered.cleared done

theorem addLock
    {state : Run Callback} (answered : Answered state)
    (free : state.holder = .free) (entry : CallbackEntry Callback) :
    Answered { state with
      workQueue := state.workQueue.lock
      holder := .adding entry
      submitted := state.submitted ++ [entry] } := by
  rcases answered.calls with ⟨executed, submitted, completed⟩
  rw [free] at submitted
  have allExecuted : state.submitted = executed := by
    simpa [Holder.waiting] using submitted
  have sameLength : state.submitted.length = state.completions.length := by
    rw [allExecuted, ← List.length_map (f := CallbackEntry.cb), ← completed,
      List.length_map]
  refine ⟨?_, answered.cleared, ⟨executed, ?_, completed⟩, ?_⟩
  · intro inside
    exact absurd inside (answered.outside (by simp [free]))
  · rw [allExecuted]
    rfl
  · rw [Run.acknowledged, acknowledgedIn_append_left sameLength]
    exact answered.acknowledged

/-- The body of `add` completes its callback once, and acknowledges exactly
what it accepts. -/
theorem addEntry
    {state : Run Callback} (answered : Answered state)
    {entry : CallbackEntry Callback} (held : state.holder = .adding entry) :
    Answered (state.addEntry entry) := by
  rcases answered.calls with ⟨executed, submitted, completed⟩
  rw [held] at submitted
  change state.submitted = executed ++ [entry] at submitted
  have sameLength : executed.length = state.completions.length := by
    rw [← List.length_map (f := CallbackEntry.cb), ← completed,
      List.length_map]
  have outside := answered.outside (by simp [held])
  have before :
      state.acknowledged = acknowledgedIn executed state.completions := by
    rw [Run.acknowledged, submitted, acknowledgedIn_append_left sameLength]
  have after :
      (state.addEntry entry).acknowledged =
        state.acknowledged ++
          if (state.workQueue.add entry).2.isAcknowledgement then
            [entry.message] else [] := by
    rw [before, ← acknowledgedIn_append sameLength, ← submitted]
    rfl
  refine ⟨fun inside => absurd inside outside, ?_, ⟨state.submitted, ?_, ?_⟩, ?_⟩
  · intro done
    rcases alive : state.workQueue.done with _ | _
    · have stillLive := (add_of_live alive entry).2.1
      rw [Run.addEntry] at done
      rw [stillLive] at done
      cases done
    · have unchanged := add_of_done alive entry
      rw [Run.addEntry, unchanged]
      exact answered.cleared alive
  · simp [Run.addEntry, Holder.waiting]
  · rw [submitted, List.map_append, ← completed]
    rcases alive : state.workQueue.done with _ | _
    · simp [Run.addEntry, (add_of_live alive entry).2.2, Completion.cb]
    · simp [Run.addEntry, add_of_done alive entry, Completion.cb]
  · rw [after, answered.acknowledged]
    rcases alive : state.workQueue.done with _ | _
    · simp [Run.addEntry, alive, (add_of_live alive entry).2.2,
        Completion.isAcknowledgement]
    · simp [Run.addEntry, alive, add_of_done alive entry,
        Completion.isAcknowledgement]

theorem unlock
    {state : Run Callback} (answered : Answered state)
    (held : state.holder = .leaving) :
    Answered state.unlock := by
  have outside := answered.outside (by simp [held])
  refine answered.of_same_calls rfl rfl rfl
    (by simp [Run.unlock, Holder.waiting, held]) ?_ answered.cleared
  intro inside
  apply absurd _ outside
  by_cases signalled :
      0 < state.workQueue.nnotify ∧ state.thread = .blocked
  · simp [Run.unlock, signalled] at inside
  · simpa [Run.unlock, signalled] using inside

theorem next
    {source target : Run Callback} {label : Label Callback}
    (answered : Answered source)
    (stepped : source.next label = some target) :
    Answered target := by
  cases Run.step_of_next stepped with
  | runLock _ free | runRelock _ free =>
      exact answered.of_same_calls rfl rfl rfl
        (by simp [Holder.waiting, free]) (fun _ => rfl) answered.cleared
  | runTest atTest => exact answered.test atTest
  | runSecondHalf atSecondHalf => exact answered.secondHalf atSecondHalf
  | spuriousWakeup =>
      exact answered.of_same_calls rfl rfl rfl rfl (by simp) answered.cleared
  | addLock entry free => exact answered.addLock free entry
  | addBody entry held => exact answered.addEntry held
  | destroyLock free =>
      refine answered.of_same_calls rfl rfl rfl
        (by simp [Holder.waiting, free]) ?_ answered.cleared
      intro inside
      exact absurd inside (answered.outside (by simp [free]))
  | destroyBody held =>
      refine answered.of_same_calls rfl rfl rfl
        (by simp [Holder.waiting, held]) ?_ (fun _ => rfl)
      intro inside
      exact absurd inside (answered.outside (by simp [held]))
  | unlock held => exact answered.unlock held
  | recv =>
      exact answered.of_same_calls rfl rfl rfl rfl answered.exclusive
        answered.cleared

theorem of_reachable
    {nodeid : String} {connection : ClientConnection} {state : Run Callback}
    (reachable : (machine nodeid connection).Reachable state) :
    Answered state := by
  refine reachable.invariant ?_ (fun _ _ _ => Answered.next)
  intro initial isStart
  subst isStart
  exact Answered.start nodeid connection

end Answered

/-- Every callback is completed exactly once.  In every reachable state in
which no call of `add` is inside the monitor, before and after the run thread
has ended, a callback has as many completions as it was passed to `add`; if no
two calls share a callback, every callback that was passed has one. -/
theorem callbacks_completed_once
    [DecidableEq Callback] (nodeid : String) (connection : ClientConnection)
    {state : Run Callback}
    (reachable : (machine nodeid connection).Reachable state)
    (outside : state.holder.waiting = []) :
    (∀ cb,
      (state.completions.map Completion.cb).count cb =
        (state.submitted.map CallbackEntry.cb).count cb) ∧
    ((state.submitted.map CallbackEntry.cb).Nodup →
      ∀ entry ∈ state.submitted,
        (state.completions.map Completion.cb).count entry.cb = 1) := by
  rcases (Answered.of_reachable reachable).calls with
    ⟨executed, submitted, completed⟩
  rw [outside, List.append_nil] at submitted
  have sameCallbacks :
      state.completions.map Completion.cb =
        state.submitted.map CallbackEntry.cb := by
    rw [completed, submitted]
  constructor
  · intro cb
    rw [sameCallbacks]
  · intro distinct entry member
    rw [sameCallbacks]
    exact List.count_eq_one_of_mem distinct (List.mem_map_of_mem member)

/-- The queue is destroyed with a message pending, and another call comes
later. -/
def destroyedRun : List (Label Nat) :=
  [.addLock ⟨0, "a", [1]⟩, .addBody, .unlock, .destroyLock, .destroyBody,
    .unlock, .runLock, .runTest, .addLock ⟨1, "b", [2]⟩, .addBody, .unlock]

theorem callbacks_completed_once_destroyed :
    ∃ state : Run Nat,
      (machine "p1" (.create "p1")).Reachable state ∧
        state.thread = .finished ∧
        state.submitted.map CallbackEntry.cb = [0, 1] ∧
        ∀ entry ∈ state.submitted,
          (state.completions.map Completion.cb).count entry.cb = 1 := by
  rcases Option.map_eq_some_iff.mp
      (show ((machine "p1" (.create "p1")).run (start "p1" (.create "p1"))
          destroyedRun).map (fun state =>
            (state.thread, state.holder,
              state.submitted.map CallbackEntry.cb)) =
          some (.finished, .free, [0, 1]) by decide) with
    ⟨state, executed, observed⟩
  rcases Prod.mk.inj observed with ⟨finished, observed⟩
  rcases Prod.mk.inj observed with ⟨free, callbacks⟩
  have begun :
      (machine "p1" (.create "p1")).Reachable
        (start "p1" (.create "p1") : Run Nat) := .initial rfl
  have reachable := begun.run executed
  refine ⟨state, reachable, finished, callbacks, ?_⟩
  exact (callbacks_completed_once "p1" _ reachable (by rw [free]; rfl)).2
    (by rw [callbacks]; decide)

/-- What was accepted was written or is pending. -/
def Run.Kept (state : Run Callback) : Prop :=
  state.accepted = state.written ++ state.pending

/-- What the connection has not been given is missing at its message id. -/
theorem notLost_iff_kept
    {connection : ClientConnection} {state : Run Callback}
    (ordered : Ordered state) (answered : Answered state)
    (stored : Stored connection state) :
    state.NotLost connection ↔ state.Kept := by
  simp only [Run.NotLost, answered.acknowledged, Run.Kept, stored _]
  constructor
  · intro kept
    rcases alive : state.workQueue.done with _ | _
    · exact ordered.split alive
    · have nothing : state.pending = [] := by
        rw [Run.pending, answered.cleared alive]
        rfl
      obtain ⟨unwritten, accepted⟩ := ordered.writtenFirst
      have allWritten : unwritten = [] := by
        refine eq_nil_of_messagesAt fun msgid => ?_
        have fits := (kept msgid).length_le
        rw [nothing, ← accepted, messagesAt_append] at fits
        have none : (messagesAt [] msgid).length = 0 := rfl
        simp only [List.length_append, none] at fits
        apply List.length_eq_zero_iff.mp
        omega
      rw [← accepted, allWritten, nothing]
  · intro kept msgid
    rw [kept, messagesAt_append, List.append_assoc]

/-- Only `destroy` ends a queue. -/
theorem done_next
    {source target : Run Callback} {label : Label Callback}
    (other : label ≠ .destroyBody)
    (stepped : source.next label = some target) :
    target.workQueue.done = source.workQueue.done := by
  cases Run.step_of_next stepped with
  | runTest =>
      unfold Run.test
      split
      · rfl
      · split <;> rfl
  | runSecondHalf => exact deliver_done _
  | addBody entry =>
      rcases alive : source.workQueue.done with _ | _
      · exact (add_of_live alive entry).2.1
      · rw [Run.addEntry, add_of_done alive entry]
        exact alive
  | destroyBody => exact absurd rfl other
  | runLock | runRelock | spuriousWakeup | addLock | destroyLock | unlock
  | recv => rfl

/-- Nothing is accepted or written any more once the queue is destroyed. -/
theorem logs_next_of_done
    {source target : Run Callback} {label : Label Callback}
    (done : source.workQueue.done = true)
    (stepped : source.next label = some target) :
    target.accepted = source.accepted ∧ target.written = source.written ∧
      target.workQueue.done = true := by
  cases Run.step_of_next stepped with
  | runTest =>
      rw [Run.test, if_pos done]
      exact ⟨rfl, rfl, done⟩
  | runSecondHalf =>
      exact ⟨rfl, by simp [nextEntry_of_done done], by simpa using done⟩
  | addBody entry =>
      rw [Run.addEntry, add_of_done done entry]
      exact ⟨by simp [done], rfl, done⟩
  | destroyBody => exact ⟨rfl, rfl, rfl⟩
  | runLock | runRelock | spuriousWakeup | addLock | destroyLock | unlock
  | recv => exact ⟨rfl, rfl, done⟩

/-- The body of `destroy` finds no entry that waits to be written. -/
def DestroysEmpty (state : Run Callback) (label : Label Callback) : Prop :=
  label = .destroyBody → state.workQueue.callbacks = []

instance (state : Run Callback) (label : Label Callback) :
    Decidable (DestroysEmpty state label) :=
  match label with
  | .destroyBody =>
      decidable_of_iff (state.workQueue.callbacks.isEmpty = true)
        (by simp [DestroysEmpty])
  | .runLock | .runTest | .runSecondHalf | .spuriousWakeup | .runRelock
  | .addLock _ | .addBody | .destroyLock | .unlock | .recv _ => .isTrue nofun

/-- After the queue is destroyed, what is kept stays kept and what is lost
stays lost. -/
theorem kept_next_of_done
    {source target : Run Callback} {label : Label Callback}
    (answered : Answered source) (done : source.workQueue.done = true)
    (stepped : source.next label = some target) :
    target.Kept ↔ source.Kept := by
  rcases logs_next_of_done done stepped with
    ⟨sameAccepted, sameWritten, stillDone⟩
  have noneBefore := answered.cleared done
  have noneAfter := (answered.next stepped).cleared stillDone
  rw [Run.Kept, Run.Kept, sameAccepted, sameWritten, Run.pending,
    Run.pending, noneBefore, noneAfter]

theorem kept_next_iff
    {source target : Run Callback} {label : Label Callback}
    (ordered : Ordered source) (answered : Answered source)
    (kept : source.Kept) (stepped : source.next label = some target) :
    target.Kept ↔ DestroysEmpty source label := by
  rcases alive : source.workQueue.done with _ | _
  · by_cases destroys : label = .destroyBody
    · subst destroys
      cases Run.step_of_next stepped
      have lostAll :
          source.accepted = source.written ↔ source.pending = [] := by
        rw [show source.accepted = source.written ++ source.pending from kept]
        simp
      simpa [Run.Kept, DestroysEmpty, Run.pending, destroy, notify] using
        lostAll
    · have live := (done_next destroys stepped).trans alive
      exact iff_of_true ((ordered.next stepped).split live)
        (fun same => absurd same destroys)
  · exact iff_of_true ((kept_next_of_done answered alive stepped).mpr kept)
      (fun _ => answered.cleared alive)

/-- When an acknowledged message is lost.  At the end of every run of a work
queue, all acknowledged messages were written to its connection or are in
`_callbacks` exactly when no `destroy` of the run found an entry in
`_callbacks`. -/
theorem acknowledged_not_lost_iff
    (nodeid : String) (connection : ClientConnection)
    {labels : List (Label Callback)} {state : Run Callback}
    (executed :
      (machine nodeid connection).run (start nodeid connection) labels =
        some state) :
    state.NotLost connection ↔
      (machine nodeid connection).RunMeets DestroysEmpty
        (start nodeid connection) labels := by
  have begun :
      (machine nodeid connection).Reachable
        (start nodeid connection : Run Callback) := .initial rfl
  have ordered :
      ∀ {current : Run Callback},
        (machine nodeid connection).Reachable current → Ordered current :=
    fun reachable => Ordered.of_reachable reachable
  have reachable := begun.run executed
  rw [notLost_iff_kept (ordered reachable) (.of_reachable reachable)
    (.of_reachable reachable)]
  refine TransitionMachine.holds_iff_runMeets ?_ ?_ begun rfl executed
  · intro source label target reached kept stepped
    exact kept_next_iff (ordered reached) (.of_reachable reached) kept stepped
  · intro source label target reached lost stepped
    have done : source.workQueue.done = true := by
      by_contra live
      exact lost ((ordered reached).split (by simpa using live))
    rw [kept_next_of_done (.of_reachable reached) done stepped]
    exact lost

/-- A message is acknowledged and the queue destroyed before the run thread
has started. -/
theorem acknowledged_message_lost :
    ∃ state : Run Nat,
      (machine "p1" (.create "p1")).run (start "p1" (.create "p1"))
          (destroyedRun.take 6) = some state ∧
        .iceResponse 0 0 ∈ state.completions ∧
        state.submitted = [⟨0, "a", [1]⟩] ∧
        state.given "a" = [] ∧ state.pending = [] ∧
        ¬ state.NotLost (.create "p1") := by
  rcases Option.map_eq_some_iff.mp
      (show ((machine "p1" (.create "p1")).run (start "p1" (.create "p1"))
          (destroyedRun.take 6)).map (fun state =>
            (state.completions, state.submitted, state.given "a",
              state.pending, state.acknowledged)) =
          some ([.iceResponse 0 0], [⟨0, "a", [1]⟩], [], [], [("a", [1])]) by
        rfl) with ⟨state, executed, observed⟩
  simp only [Prod.mk.injEq] at observed
  rcases observed with ⟨completions, submitted, given, pending, acknowledged⟩
  refine ⟨state, executed, ?_, submitted, given, pending, ?_⟩
  · rw [completions]
    exact List.mem_cons_self ..
  · intro notLost
    have here := notLost "a"
    rw [acknowledged, given, pending] at here
    have tooLong := here.length_le
    exact absurd tooLong (by decide)

/-- A message is written before the queue is destroyed. -/
def drainedRun : List (Label Nat) :=
  [.addLock ⟨0, "a", [1]⟩, .addBody, .unlock, .runLock, .runTest,
    .runSecondHalf, .runTest, .destroyLock, .destroyBody, .unlock]

theorem acknowledged_not_lost_iff_drained :
    ∃ state : Run Nat,
      (machine "p1" (.create "p1")).run (start "p1" (.create "p1"))
          drainedRun = some state ∧
        state.acknowledged = [("a", [1])] ∧ state.workQueue.done = true ∧
        (machine "p1" (.create "p1")).RunMeets DestroysEmpty
            (start "p1" (.create "p1")) drainedRun ∧
        state.NotLost (.create "p1") := by
  rcases Option.map_eq_some_iff.mp
      (show ((machine "p1" (.create "p1")).run (start "p1" (.create "p1"))
          drainedRun).map (fun state =>
            (state.acknowledged, state.workQueue.done)) =
          some ([("a", [1])], true) by decide) with
    ⟨state, executed, observed⟩
  rcases Prod.mk.inj observed with ⟨acknowledged, done⟩
  have drained :
      (machine "p1" (.create "p1")).RunMeets DestroysEmpty
        (start "p1" (.create "p1")) drainedRun := by
    decide
  exact ⟨state, executed, acknowledged, done, drained,
    (acknowledged_not_lost_iff "p1" _ executed).mpr drained⟩

end WorkQueue

end ChannelSdk
