import ChannelSdk.WorkQueue
import ChannelSdk.Lib.KeyedLog
import ChannelSdk.Lib.TransitionMachine

/-!
# The interleavings of `add`, `run` and `destroy`

Any number of calls of `add` and `destroy` compete with the run thread for
the monitor of one work queue, while other threads receive from its
connection.  A caller locks the monitor, executes its critical section and
unlocks.  The run thread gives the lock up only inside `wait`, from which it
returns after a signal or spuriously and once the lock is free again; the
first half of the next iteration is then over, so it goes on with the second.

The state carries logs in lock order: the entries passed to `add`, the
messages accepted by it, the messages written by `run`, the messages that
receivers have taken, and the completions of the callbacks.  A written message
is one that `ptr_client_conn_` has been given: for every message id the queue
of the connection holds what was written and not yet taken.
-/

namespace ChannelSdk.WorkQueue

open CheckedMemory

universe u

/-- Who holds the monitor, and how far a caller is. -/
inductive Holder (Callback : Type u) where
  | free
  | runThread
  | adding (entry : CallbackEntry Callback)
  | destroying
  | leaving
  deriving DecidableEq

/-- Where the run thread is.  At `loopTest` and `secondHalf` it holds the
monitor; `blocked` is a wait without a pending notification. -/
inductive RunThread where
  | starting
  | loopTest
  | secondHalf
  | blocked
  | woken
  | finished
  deriving DecidableEq

structure Run (Callback : Type u) where
  workQueue : WorkQueue Callback
  holder : Holder Callback
  thread : RunThread
  submitted : List (CallbackEntry Callback)
  accepted : List (String × Bytes)
  written : List (String × Bytes)
  received : List (String × Bytes)
  completions : List (Completion Callback)
  destroyCalls : Nat

inductive Label (Callback : Type u) where
  | runLock
  | runTest
  | runSecondHalf
  | spuriousWakeup
  | runRelock
  | addLock (entry : CallbackEntry Callback)
  | addBody
  | destroyLock
  | destroyBody
  | unlock
  | recv (msgid : String)

namespace Run

variable {Callback : Type u}

/-- The head of the loop of `run`: leave it once `_done` is set, wait when
there is no entry. -/
def test (state : Run Callback) : Run Callback :=
  if state.workQueue.done = true then
    { state with
      holder := .free
      thread := .finished
      completions := state.completions ++ state.workQueue.outstanding }
  else if state.workQueue.callbacks.length = 0 then
    { state with holder := .free, thread := .blocked }
  else
    { state with thread := .secondHalf }

/-- The critical section of `add`. -/
def addEntry (state : Run Callback) (entry : CallbackEntry Callback) :
    Run Callback :=
  let added := state.workQueue.add entry
  { state with
    workQueue := added.1
    holder := .leaving
    accepted :=
      if state.workQueue.done = false then
        state.accepted ++ [entry.message]
      else state.accepted
    completions := state.completions ++ [added.2] }

/-- `Monitor::unlock`: perform the requested notifications, then release.
The run thread is the only waiter. -/
def unlock (state : Run Callback) : Run Callback :=
  { state with
    holder := .free
    thread :=
      if 0 < state.workQueue.nnotify ∧ state.thread = .blocked then .woken
      else state.thread }

def next (state : Run Callback) : Label Callback → Option (Run Callback)
  | .runLock =>
      match state.thread, state.holder with
      | .starting, .free =>
          some { state with
            workQueue := state.workQueue.lock
            holder := .runThread
            thread := .loopTest }
      | _, _ => none
  | .runTest =>
      if state.thread = .loopTest then some state.test else none
  | .runSecondHalf =>
      if state.thread = .secondHalf then
        some { state with
          workQueue := state.workQueue.deliver
          thread := .loopTest
          written :=
            state.written ++
              state.workQueue.nextEntry.toList.map CallbackEntry.message }
      else none
  | .spuriousWakeup =>
      if state.thread = .blocked then some { state with thread := .woken }
      else none
  | .runRelock =>
      match state.thread, state.holder with
      | .woken, .free =>
          some { state with
            workQueue := state.workQueue.lock
            holder := .runThread
            thread := .secondHalf }
      | _, _ => none
  | .addLock entry =>
      match state.holder with
      | .free =>
          some { state with
            workQueue := state.workQueue.lock
            holder := .adding entry
            submitted := state.submitted ++ [entry] }
      | _ => none
  | .addBody =>
      match state.holder with
      | .adding entry => some (state.addEntry entry)
      | _ => none
  | .destroyLock =>
      match state.holder with
      | .free =>
          some { state with
            workQueue := state.workQueue.lock
            holder := .destroying
            destroyCalls := state.destroyCalls + 1 }
      | _ => none
  | .destroyBody =>
      match state.holder with
      | .destroying =>
          some { state with
            workQueue := state.workQueue.destroy
            holder := .leaving }
      | _ => none
  | .unlock =>
      match state.holder with
      | .leaving => some state.unlock
      | _ => none
  | .recv msgid =>
      match state.workQueue.ptrClientConn.recvPass msgid with
      | some (taken, connection) =>
          some { state with
            workQueue :=
              { state.workQueue with ptrClientConn := connection }
            received := state.received ++ [(msgid, taken.stored)] }
      | none => none

/-- What a step needs and what it does. -/
inductive Step (source : Run Callback) : Label Callback → Run Callback → Prop
  | runLock (starting : source.thread = .starting)
      (free : source.holder = .free) :
      Step source .runLock { source with
        workQueue := source.workQueue.lock
        holder := .runThread
        thread := .loopTest }
  | runTest (atTest : source.thread = .loopTest) :
      Step source .runTest source.test
  | runSecondHalf (atSecondHalf : source.thread = .secondHalf) :
      Step source .runSecondHalf { source with
        workQueue := source.workQueue.deliver
        thread := .loopTest
        written :=
          source.written ++
            source.workQueue.nextEntry.toList.map CallbackEntry.message }
  | spuriousWakeup (blocked : source.thread = .blocked) :
      Step source .spuriousWakeup { source with thread := .woken }
  | runRelock (woken : source.thread = .woken)
      (free : source.holder = .free) :
      Step source .runRelock { source with
        workQueue := source.workQueue.lock
        holder := .runThread
        thread := .secondHalf }
  | addLock (entry : CallbackEntry Callback) (free : source.holder = .free) :
      Step source (.addLock entry) { source with
        workQueue := source.workQueue.lock
        holder := .adding entry
        submitted := source.submitted ++ [entry] }
  | addBody (entry : CallbackEntry Callback)
      (held : source.holder = .adding entry) :
      Step source .addBody (source.addEntry entry)
  | destroyLock (free : source.holder = .free) :
      Step source .destroyLock { source with
        workQueue := source.workQueue.lock
        holder := .destroying
        destroyCalls := source.destroyCalls + 1 }
  | destroyBody (held : source.holder = .destroying) :
      Step source .destroyBody { source with
        workQueue := source.workQueue.destroy
        holder := .leaving }
  | unlock (held : source.holder = .leaving) :
      Step source .unlock source.unlock
  | recv (msgid : String) {taken : Received} {connection : ClientConnection}
      (received :
        source.workQueue.ptrClientConn.recvPass msgid =
          some (taken, connection)) :
      Step source (.recv msgid) { source with
        workQueue :=
          { source.workQueue with ptrClientConn := connection }
        received := source.received ++ [(msgid, taken.stored)] }

theorem step_of_next
    {source target : Run Callback} {label : Label Callback}
    (stepped : source.next label = some target) :
    Step source label target := by
  cases label with
  | runLock =>
      simp only [next] at stepped
      split at stepped <;> cases stepped
      next starting free => exact .runLock starting free
  | runTest =>
      simp only [next] at stepped
      split at stepped <;> cases stepped
      next atTest => exact .runTest atTest
  | runSecondHalf =>
      simp only [next] at stepped
      split at stepped <;> cases stepped
      next atSecondHalf => exact .runSecondHalf atSecondHalf
  | spuriousWakeup =>
      simp only [next] at stepped
      split at stepped <;> cases stepped
      next blocked => exact .spuriousWakeup blocked
  | runRelock =>
      simp only [next] at stepped
      split at stepped <;> cases stepped
      next woken free => exact .runRelock woken free
  | addLock entry =>
      simp only [next] at stepped
      split at stepped <;> cases stepped
      next free => exact .addLock entry free
  | addBody =>
      simp only [next] at stepped
      split at stepped <;> cases stepped
      next entry held => exact .addBody entry held
  | destroyLock =>
      simp only [next] at stepped
      split at stepped <;> cases stepped
      next free => exact .destroyLock free
  | destroyBody =>
      simp only [next] at stepped
      split at stepped <;> cases stepped
      next held => exact .destroyBody held
  | unlock =>
      simp only [next] at stepped
      split at stepped <;> cases stepped
      next held => exact .unlock held
  | recv msgid =>
      simp only [next] at stepped
      split at stepped <;> cases stepped
      next received => exact .recv msgid received

/-- The messages that wait in `_callbacks`. -/
def pending (state : Run Callback) : List (String × Bytes) :=
  state.workQueue.callbacks.map CallbackEntry.message

end Run

/-- The messages of a log for one message id. -/
def messagesAt (log : List (String × Bytes)) (msgid : String) : List Bytes :=
  KeyedLog.valuesAt Prod.fst Prod.snd log msgid

theorem messagesAt_append
    (first second : List (String × Bytes)) (msgid : String) :
    messagesAt (first ++ second) msgid =
      messagesAt first msgid ++ messagesAt second msgid :=
  KeyedLog.valuesAt_append Prod.fst Prod.snd first second msgid

theorem messagesAt_singleton
    (msgid tested : String) (data : Bytes) :
    messagesAt [(msgid, data)] tested =
      if tested = msgid then [data] else [] := by
  by_cases same : tested = msgid
  · simp [messagesAt, KeyedLog.valuesAt, same]
  · simp [messagesAt, KeyedLog.valuesAt, same, Ne.symm same]

/-- A log with a message has it at its own id. -/
theorem eq_nil_of_messagesAt
    {log : List (String × Bytes)}
    (none : ∀ msgid, messagesAt log msgid = []) : log = [] := by
  cases log with
  | nil => rfl
  | cons message others =>
      have here := none message.1
      simp [messagesAt, KeyedLog.valuesAt] at here

/-- The messages of an id that `ptr_client_conn_` has been given: those that
receivers have taken, followed by those in its queue. -/
def Run.given (state : Run Callback) (msgid : String) : List Bytes :=
  messagesAt state.received msgid ++
    state.workQueue.ptrClientConn.queue msgid

section Machine

variable {Callback : Type u}

/-- A new work queue whose thread is not started yet. -/
def start (nodeid : String) (connection : ClientConnection) :
    Run Callback where
  workQueue := create nodeid connection
  holder := .free
  thread := .starting
  submitted := []
  accepted := []
  written := []
  received := []
  completions := []
  destroyCalls := 0

/-- One work queue of the asynchronous server. -/
def machine (nodeid : String) (connection : ClientConnection) :
    TransitionMachine (Run Callback) (Label Callback) where
  initial := fun state => state = start nodeid connection
  next := Run.next

/-- The accepted messages are the written ones followed by the pending ones,
until the queue is destroyed; from then on nothing is written. -/
structure Ordered (state : Run Callback) : Prop where
  writtenFirst : state.written <+: state.accepted
  split :
    state.workQueue.done = false →
      state.accepted = state.written ++ state.pending
  notDestroyed :
    state.destroyCalls = 0 →
      state.workQueue.done = false ∧ state.holder ≠ .destroying

namespace Ordered

/-- A step that touches neither the list nor the logs keeps the order. -/
private theorem of_same_logs
    {source target : Run Callback} (ordered : Ordered source)
    (sameAccepted : target.accepted = source.accepted)
    (sameWritten : target.written = source.written)
    (sameCallbacks : target.workQueue.callbacks = source.workQueue.callbacks)
    (sameDone : target.workQueue.done = source.workQueue.done)
    (undestroyed :
      target.destroyCalls = 0 →
        source.destroyCalls = 0 ∧
          (source.holder ≠ .destroying → target.holder ≠ .destroying)) :
    Ordered target where
  writtenFirst := by
    rw [sameAccepted, sameWritten]
    exact ordered.writtenFirst
  split := by
    intro live
    rw [sameDone] at live
    rw [sameAccepted, sameWritten, Run.pending, sameCallbacks]
    exact ordered.split live
  notDestroyed := by
    intro none
    rcases undestroyed none with ⟨sourceNone, holderKept⟩
    rcases ordered.notDestroyed sourceNone with ⟨live, notDestroying⟩
    exact ⟨sameDone.trans live, holderKept notDestroying⟩

theorem test
    {state : Run Callback} (ordered : Ordered state) :
    Ordered state.test := by
  unfold Run.test
  split
  · exact ordered.of_same_logs rfl rfl rfl rfl
      (fun none => ⟨none, fun _ => by simp⟩)
  · split
    · exact ordered.of_same_logs rfl rfl rfl rfl
        (fun none => ⟨none, fun _ => by simp⟩)
    · exact ordered.of_same_logs rfl rfl rfl rfl
        (fun none => ⟨none, fun kept => kept⟩)

theorem secondHalf
    {state : Run Callback} (ordered : Ordered state) :
    Ordered { state with
      workQueue := state.workQueue.deliver
      thread := .loopTest
      written :=
        state.written ++
          state.workQueue.nextEntry.toList.map CallbackEntry.message } := by
  rcases alive : state.workQueue.done with _ | _
  · have moved :
        state.accepted =
          (state.written ++
            state.workQueue.nextEntry.toList.map CallbackEntry.message) ++
            state.workQueue.deliver.callbacks.map CallbackEntry.message := by
      rw [List.append_assoc, ← List.map_append,
        nextEntry_deliver alive]
      exact ordered.split alive
    exact ⟨⟨_, moved.symm⟩, fun _ => moved, fun none => by
      simpa using ordered.notDestroyed none⟩
  · have nothing := nextEntry_of_done alive
    refine ⟨by simpa [nothing] using ordered.writtenFirst, ?_, fun none => ?_⟩
    · intro live
      simp [alive] at live
    · simpa using ordered.notDestroyed none

theorem addEntry
    {state : Run Callback} (ordered : Ordered state)
    (entry : CallbackEntry Callback) :
    Ordered (state.addEntry entry) := by
  rcases alive : state.workQueue.done with _ | _
  · rcases add_of_live alive entry with ⟨extended, stillLive, -⟩
    have appended :
        state.accepted ++ [entry.message] =
          state.written ++
            (state.workQueue.add entry).1.callbacks.map
              CallbackEntry.message := by
      rw [extended, List.map_append, ← List.append_assoc,
        ordered.split alive]
      rfl
    refine ⟨?_, ?_, ?_⟩
    · simp only [Run.addEntry, alive, if_true, appended]
      exact List.prefix_append _ _
    · intro _
      simp only [Run.addEntry, Run.pending, alive, if_true]
      exact appended
    · intro _
      exact ⟨stillLive, by simp [Run.addEntry]⟩
  · exact ordered.of_same_logs
      (by simp [Run.addEntry, alive]) rfl
      (by simp [Run.addEntry, add_of_done alive])
      (by simp [Run.addEntry, add_of_done alive])
      (fun none => ⟨none, fun _ => by simp [Run.addEntry]⟩)

theorem destroy
    {state : Run Callback} (ordered : Ordered state)
    (held : state.holder = .destroying) :
    Ordered { state with
      workQueue := state.workQueue.destroy, holder := .leaving } where
  writtenFirst := ordered.writtenFirst
  split := by
    intro live
    cases live
  notDestroyed := by
    intro none
    exact absurd held (ordered.notDestroyed none).2

theorem next
    {source target : Run Callback} {label : Label Callback}
    (ordered : Ordered source)
    (stepped : source.next label = some target) :
    Ordered target := by
  cases Run.step_of_next stepped with
  | runLock | runRelock | addLock =>
      exact ordered.of_same_logs rfl rfl rfl rfl
        (fun none => ⟨none, fun _ => by simp⟩)
  | runTest => exact ordered.test
  | runSecondHalf => exact ordered.secondHalf
  | spuriousWakeup | recv =>
      exact ordered.of_same_logs rfl rfl rfl rfl
        (fun none => ⟨none, fun kept => kept⟩)
  | addBody entry => exact ordered.addEntry entry
  | destroyLock =>
      exact ordered.of_same_logs rfl rfl rfl rfl
        (fun none => absurd none (Nat.succ_ne_zero _))
  | destroyBody held => exact ordered.destroy held
  | unlock =>
      exact ordered.of_same_logs rfl rfl rfl rfl
        (fun none => ⟨none, fun _ => by simp [Run.unlock]⟩)

theorem of_reachable
    {nodeid : String} {connection : ClientConnection} {state : Run Callback}
    (reachable : (machine nodeid connection).Reachable state) :
    Ordered state := by
  refine reachable.invariant ?_ (fun _ _ _ => Ordered.next)
  intro initial isStart
  subst isStart
  exact ⟨List.prefix_refl _, fun _ => rfl, fun _ => ⟨rfl, by simp [start]⟩⟩

end Ordered

/-- The connection has been given what it held at first and what was written
since. -/
def Stored (connection : ClientConnection) (state : Run Callback) : Prop :=
  ∀ msgid,
    state.given msgid =
      connection.queue msgid ++ messagesAt state.written msgid

namespace Stored

/-- A step that leaves the connection and its logs alone. -/
private theorem of_same_connection
    {connection : ClientConnection} {source target : Run Callback}
    (stored : Stored connection source)
    (sameConnection :
      target.workQueue.ptrClientConn = source.workQueue.ptrClientConn)
    (sameReceived : target.received = source.received)
    (sameWritten : target.written = source.written) :
    Stored connection target := by
  intro msgid
  rw [Run.given, sameConnection, sameReceived, sameWritten]
  exact stored msgid

/-- A delivery writes the front entry to the connection and to the log. -/
theorem secondHalf
    {connection : ClientConnection} {state : Run Callback}
    (stored : Stored connection state) :
    Stored connection { state with
      workQueue := state.workQueue.deliver
      thread := .loopTest
      written :=
        state.written ++
          state.workQueue.nextEntry.toList.map CallbackEntry.message } := by
  intro msgid
  have before := stored msgid
  simp only [Run.given, messagesAt_append] at before ⊢
  rw [← List.append_assoc, ← before, List.append_assoc, deliver]
  cases front : state.workQueue.nextEntry with
  | none => simp [messagesAt, KeyedLog.valuesAt]
  | some entry =>
      have written :
          messagesAt [entry.message] msgid =
            if msgid = entry.msgid then [entry.data] else [] :=
        messagesAt_singleton entry.msgid msgid entry.data
      simp only [Option.toList_some, List.map_cons, List.map_nil, written,
        ClientConnection.queue_write]
      by_cases same : msgid = entry.msgid
      · simp [same]
      · simp [same]

/-- A receiver takes the front message of its queue. -/
theorem recv
    {connection : ClientConnection} {state : Run Callback}
    (stored : Stored connection state) {msgid : String} {taken : Received}
    {left : ClientConnection}
    (received :
      state.workQueue.ptrClientConn.recvPass msgid = some (taken, left)) :
    Stored connection { state with
      workQueue := { state.workQueue with ptrClientConn := left }
      received := state.received ++ [(msgid, taken.stored)] } := by
  obtain ⟨front, rest, queued, rfl, leftQueue, others⟩ :=
    ClientConnection.recvPass_eq_some received
  intro tested
  have before := stored tested
  simp only [Run.given, messagesAt_append, messagesAt_singleton] at before ⊢
  rw [← before]
  by_cases same : tested = msgid
  · subst same
    rw [if_pos rfl, leftQueue, queued, List.append_assoc]
    rfl
  · rw [if_neg same, others tested same, List.append_nil]

theorem next
    {connection : ClientConnection} {source target : Run Callback}
    {label : Label Callback} (stored : Stored connection source)
    (stepped : source.next label = some target) :
    Stored connection target := by
  cases Run.step_of_next stepped with
  | runSecondHalf => exact stored.secondHalf
  | recv msgid received => exact stored.recv received
  | runTest =>
      unfold Run.test
      split
      · exact stored.of_same_connection rfl rfl rfl
      · split <;> exact stored.of_same_connection rfl rfl rfl
  | addBody entry =>
      refine stored.of_same_connection ?_ rfl rfl
      simp only [Run.addEntry, add]
      split
      · split <;> rfl
      · rfl
  | runLock | runRelock | spuriousWakeup | addLock | destroyLock | destroyBody
  | unlock => exact stored.of_same_connection rfl rfl rfl

theorem of_reachable
    {nodeid : String} {connection : ClientConnection} {state : Run Callback}
    (reachable : (machine nodeid connection).Reachable state) :
    Stored connection state := by
  refine reachable.invariant ?_ (fun _ _ _ => Stored.next)
  intro initial isStart
  subst isStart
  intro msgid
  simp [Run.given, start, create, messagesAt]

end Stored

/-- The run thread writes the accepted messages to the connection in lock
order, each at most once.  In every reachable state the written messages are a
prefix of the accepted ones, the connection has been given exactly these, and
as long as `destroy` has not been called the pending messages are all that is
missing. -/
theorem run_delivers_in_order
    (nodeid : String) (connection : ClientConnection)
    {state : Run Callback}
    (reachable : (machine nodeid connection).Reachable state) :
    state.written <+: state.accepted ∧
      (∀ msgid,
        messagesAt state.received msgid ++
            state.workQueue.ptrClientConn.queue msgid =
          connection.queue msgid ++ messagesAt state.written msgid) ∧
      (state.destroyCalls = 0 →
        state.accepted = state.written ++ state.pending) := by
  have ordered := Ordered.of_reachable reachable
  exact ⟨ordered.writtenFirst, Stored.of_reachable reachable,
    fun none => ordered.split (ordered.notDestroyed none).1⟩

/-- A blocked run thread has nothing to do, or a caller that leaves the
monitor is about to signal it. -/
def Attended (state : Run Callback) : Prop :=
  state.thread = .blocked →
    (state.workQueue.callbacks = [] ∧ state.workQueue.done = false) ∨
      (0 < state.workQueue.nnotify ∧ state.holder = .leaving)

namespace Attended

theorem of_not_blocked
    {state : Run Callback} (awake : state.thread ≠ .blocked) :
    Attended state :=
  fun blocked => absurd blocked awake

/-- Only a caller that leaves the monitor has requested notifications. -/
theorem idle
    {state : Run Callback} (attended : Attended state)
    (blocked : state.thread = .blocked)
    (inside : state.holder ≠ .leaving) :
    state.workQueue.callbacks = [] ∧ state.workQueue.done = false := by
  rcases attended blocked with idle | ⟨-, leaving⟩
  · exact idle
  · exact absurd leaving inside

theorem test (state : Run Callback) : Attended state.test := by
  unfold Run.test
  split
  · exact of_not_blocked (by simp)
  · next live =>
      split
      · next empty =>
          exact fun _ => .inl ⟨List.length_eq_zero_iff.mp empty, by simpa using live⟩
      · exact of_not_blocked (by simp)

theorem addEntry
    {state : Run Callback} (attended : Attended state)
    {entry : CallbackEntry Callback} (held : state.holder = .adding entry) :
    Attended (state.addEntry entry) := by
  intro blocked
  rcases attended.idle blocked (by simp [held]) with ⟨empty, live⟩
  exact .inr ⟨nnotify_add_of_empty live empty entry, rfl⟩

theorem unlock
    {state : Run Callback} (attended : Attended state) :
    Attended state.unlock := by
  by_cases signalled :
      0 < state.workQueue.nnotify ∧ state.thread = .blocked
  · exact of_not_blocked (by simp [Run.unlock, signalled])
  · intro blocked
    have wasBlocked : state.thread = .blocked := by
      simpa [Run.unlock, signalled] using blocked
    rcases attended wasBlocked with idle | ⟨requested, -⟩
    · exact .inl idle
    · exact absurd ⟨requested, wasBlocked⟩ signalled

theorem next
    {source target : Run Callback} {label : Label Callback}
    (attended : Attended source)
    (stepped : source.next label = some target) :
    Attended target := by
  cases Run.step_of_next stepped with
  | runLock | runRelock | runSecondHalf | spuriousWakeup =>
      exact of_not_blocked (by simp)
  | runTest => exact test source
  | addLock _ free | destroyLock free =>
      exact fun blocked => .inl (attended.idle blocked (by simp [free]))
  | addBody entry held => exact attended.addEntry held
  | destroyBody => exact fun _ => .inr ⟨nnotify_destroy_pos _, rfl⟩
  | unlock => exact attended.unlock
  | recv => exact attended

end Attended

/-- No wake-up is lost.  Whenever the monitor is free and the run thread is
blocked in its wait with no notification pending, there is no entry to deliver
and the queue is not destroyed. -/
theorem run_has_no_lost_wakeup
    (nodeid : String) (connection : ClientConnection)
    {state : Run Callback}
    (reachable : (machine nodeid connection).Reachable state)
    (free : state.holder = .free)
    (blocked : state.thread = .blocked) :
    state.workQueue.callbacks = [] ∧ state.workQueue.done = false := by
  have attended : Attended state := by
    refine reachable.invariant ?_ (fun _ _ _ => Attended.next)
    intro initial isStart
    subst isStart
    exact Attended.of_not_blocked (by simp [start])
  exact attended.idle blocked (by simp [free])

end Machine

/-- The run thread waits, is signalled by a first message, and a second one
arrives before it holds the monitor again; it delivers both and waits. -/
def burstRun : List (Label Nat) :=
  [.runLock, .runTest, .addLock ⟨0, "a", [1]⟩, .addBody, .unlock,
    .addLock ⟨1, "b", [2, 3]⟩, .addBody, .unlock, .runRelock,
    .runSecondHalf, .runTest, .runSecondHalf, .runTest]

private theorem burstRun_reaches
    {Value : Type} (observe : Run Nat → Value) (value : Value) (steps : Nat)
    (observed :
      ((machine "p1" (.create "p1")).run (start "p1" (.create "p1"))
        (burstRun.take steps)).map observe = some value) :
    ∃ state : Run Nat,
      (machine "p1" (.create "p1")).Reachable state ∧
        observe state = value := by
  rcases Option.map_eq_some_iff.mp observed with ⟨state, executed, seen⟩
  have begun :
      (machine "p1" (.create "p1")).Reachable
        (start "p1" (.create "p1") : Run Nat) := .initial rfl
  exact ⟨state, begun.run executed, seen⟩

theorem run_delivers_in_order_burst :
    ∃ state : Run Nat,
      (machine "p1" (.create "p1")).Reachable state ∧
        state.written = [("a", [1])] ∧ state.received = [] ∧
        state.workQueue.ptrClientConn.queue "a" = [[1]] ∧
        state.accepted = state.written ++ state.pending := by
  rcases burstRun_reaches
      (fun state => (state.destroyCalls, state.written, state.received))
      (0, [("a", [1])], []) 10 (by decide) with ⟨state, reachable, observed⟩
  simp only [Prod.mk.injEq] at observed
  rcases observed with ⟨noDestroy, written, received⟩
  rcases run_delivers_in_order "p1" _ reachable with ⟨-, stored, split⟩
  have queued := stored "a"
  rw [written, received] at queued
  exact ⟨state, reachable, written, received, queued, split noDestroy⟩

theorem run_has_no_lost_wakeup_burst :
    ∃ state : Run Nat,
      (machine "p1" (.create "p1")).Reachable state ∧
        state.holder = .free ∧ state.thread = .blocked ∧
        state.written = [("a", [1]), ("b", [2, 3])] ∧
        state.workQueue.callbacks = [] ∧ state.workQueue.done = false := by
  rcases burstRun_reaches
      (fun state => (state.holder, state.thread, state.written))
      (.free, .blocked, [("a", [1]), ("b", [2, 3])]) 13
      (by decide) with ⟨state, reachable, observed⟩
  rcases Prod.mk.inj observed with ⟨free, observed⟩
  rcases Prod.mk.inj observed with ⟨blocked, written⟩
  exact ⟨state, reachable, free, blocked, written,
    run_has_no_lost_wakeup "p1" _ reachable free blocked⟩

end ChannelSdk.WorkQueue
