import ChannelSdk.ServantVariants
import Mathlib.Algebra.BigOperators.Group.Finset.Piecewise

/-!
# The servants agree on registered senders

The two synchronous servants write a message when they dispatch its request.
The asynchronous server has written the same messages once its work queues are
empty, and it can always get there: a servant inside `add` goes on, a thread
inside its monitor leaves it, and a thread whose queue is not empty is not
blocked, since no wake-up is lost.

The variants differ for a sender that is not registered.  The synchronous
servants answer the request, the asynchronous one returns without completing
the callback.
-/

namespace ChannelSdk

open CheckedMemory

universe u

variable {Callback : Type u}

/-- The messages of the requests of one sender. -/
def messagesFor (nodeid : String) (requests : List (SendRequest Callback)) :
    List (String × Bytes) :=
  (AsyncServer.entriesFor nodeid requests).map CallbackEntry.message

theorem messagesFor_cons_self
    (request : SendRequest Callback) (rest : List (SendRequest Callback)) :
    messagesFor request.nodeid (request :: rest) =
      (request.msgid, request.data) :: messagesFor request.nodeid rest := by
  simp [messagesFor, AsyncServer.entriesFor, SendRequest.entry,
    CallbackEntry.message]

theorem messagesFor_cons_of_ne
    {nodeid : String} {request : SendRequest Callback}
    (different : nodeid ≠ request.nodeid)
    (rest : List (SendRequest Callback)) :
    messagesFor nodeid (request :: rest) = messagesFor nodeid rest := by
  simp [messagesFor, AsyncServer.entriesFor, different.symm]

theorem sendAsync_apply
    (clientConnMap : MapClientConn) (request : SendRequest Callback)
    (nodeid : String) :
    (sendAsync clientConnMap request).1 nodeid =
      (clientConnMap nodeid).map fun connection =>
        connection.writeAll (messagesFor nodeid [request]) := by
  rw [sendAsync]
  by_cases same : nodeid = request.nodeid
  · subst same
    rw [messagesFor_cons_self]
    rcases found : clientConnMap request.nodeid with _ | connection
    · exact found
    · simp [ClientConnection.writeAll, messagesFor, AsyncServer.entriesFor]
  · rw [messagesFor_cons_of_ne same]
    rcases found : clientConnMap request.nodeid with _ | connection
    · simp [ClientConnection.writeAll, messagesFor, AsyncServer.entriesFor]
    · simp [ClientConnection.writeAll, messagesFor, AsyncServer.entriesFor,
        Function.update_of_ne same]

/-- The synchronous servant has written the messages of every registered
sender, in their order. -/
theorem dispatchStatic_apply
    {requests : List (SendRequest Callback)} :
    ∀ (clientConnMap : MapClientConn) (nodeid : String),
      (dispatchStatic clientConnMap requests).1 nodeid =
        (clientConnMap nodeid).map fun connection =>
          connection.writeAll (messagesFor nodeid requests) := by
  induction requests with
  | nil =>
      intro clientConnMap nodeid
      simp [dispatchStatic, messagesFor, AsyncServer.entriesFor,
        ClientConnection.writeAll]
  | cons request rest inductionHypothesis =>
      intro clientConnMap nodeid
      have split :
          messagesFor nodeid (request :: rest) =
            messagesFor nodeid [request] ++ messagesFor nodeid rest := by
        rw [← List.singleton_append, messagesFor,
          AsyncServer.entriesFor_append, List.map_append, messagesFor,
          messagesFor]
      rw [dispatchStatic, inductionHypothesis, sendAsync_apply,
        Option.map_map, split]
      simp only [Function.comp_def, ClientConnection.writeAll_append]

theorem dispatchStatic_completions
    {requests : List (SendRequest Callback)} :
    ∀ clientConnMap : MapClientConn,
      (dispatchStatic clientConnMap requests).2 =
        requests.map SendRequest.success := by
  induction requests with
  | nil =>
      intro clientConnMap
      rfl
  | cons request rest inductionHypothesis =>
      intro clientConnMap
      rw [dispatchStatic, inductionHypothesis]
      rfl

/-- A dynamic call does what the static one does. -/
theorem iceInvoke_eq_sendAsync
    (clientConnMap : MapClientConn) (request : SendRequest Callback) :
    iceInvoke clientConnMap "send" (some request.dataStruct) =
      .ok (true, (sendAsync clientConnMap request).1) := by
  rcases found : clientConnMap request.nodeid with _ | connection
  · simp [iceInvoke, sendAsync, SendRequest.dataStruct, found]
  · simp [iceInvoke, sendAsync, SendRequest.dataStruct, found]

theorem dispatchDynamic_eq
    {requests : List (SendRequest Callback)} :
    ∀ clientConnMap : MapClientConn,
      dispatchDynamic clientConnMap requests =
        ((dispatchStatic clientConnMap requests).1,
          requests.map fun _ => .ok true) := by
  induction requests with
  | nil =>
      intro clientConnMap
      rfl
  | cons request rest inductionHypothesis =>
      intro clientConnMap
      rw [dispatchDynamic, iceInvoke_eq_sendAsync]
      simp only [inductionHypothesis]
      rfl

namespace AsyncServer

variable {clientConnMap : MapClientConn}
variable {requests : List (SendRequest Callback)}

/-- Once the work queues are empty, they have written the messages of all
requests, and the requests of registered senders are answered. -/
theorem Serves.drained
    {state : AsyncServer Callback}
    (serves : Serves clientConnMap requests state)
    (drained : Drained state) :
    state.connections = (dispatchStatic clientConnMap requests).1 ∧
      state.completions =
        (requests.filter fun request =>
          (clientConnMap request.nodeid).isSome).map SendRequest.success := by
  have allDispatched : requests = state.dispatched := by
    have split := serves.split
    rw [drained.isIdle, drained.allDispatched] at split
    simpa [Dispatch.begun] using split
  constructor
  · funext nodeid
    rw [dispatchStatic_apply, connections]
    rcases registered : clientConnMap nodeid with _ | connection
    · rw [serves.absent nodeid registered]
      rfl
    · rcases serves.queues nodeid connection registered with
        ⟨run, found, queue⟩
      have empty := drained.allWritten nodeid run found
      have resting : run.holder.Resting := by
        have fits := queue.holder
        rw [drained.isIdle] at fits
        exact fits
      have noneWaiting : run.holder.waiting = [] := by
        rcases resting with free | inThread
        · rw [free]
          rfl
        · rw [inThread]
          rfl
      rcases queue.serving.calls with ⟨executed, submitted, -, accepted⟩
      rw [noneWaiting, List.append_nil] at submitted
      have written : run.written = messagesFor nodeid requests := by
        have split := queue.serving.ordered.split queue.serving.live
        rw [WorkQueue.Run.pending, empty, List.map_nil,
          List.append_nil] at split
        have given := queue.submitted
        rw [drained.isIdle, submitted] at given
        rw [← split, accepted, given, messagesFor, allDispatched]
        simp [Dispatch.begun]
      rw [found, Option.map_some, Option.map_some, queue.serving.stored,
        written]
  · have completions := serves.completions
    rw [drained.isIdle] at completions
    simpa [Dispatch.answered, allDispatched] using completions

section Progress

/-- What the thread of a queue still has to do. -/
def threadWork (run : WorkQueue.Run Callback) : Nat :=
  3 * run.workQueue.callbacks.length +
    match run.thread with
    | .starting | .woken => 4
    | .secondHalf => if run.workQueue.callbacks.length = 0 then 3 else 1
    | .loopTest => 2
    | .blocked | .finished => 0

def queueWork : Option (WorkQueue.Run Callback) → Nat
  | some run => threadWork run
  | none => 0

def dispatchWork : Dispatch Callback → Nat
  | .idle => 0
  | .adding _ => 15
  | .leaving _ => 7

/-- What the server still has to do, with the queues of the given senders. -/
def work (senders : Finset String) (state : AsyncServer Callback) : Nat :=
  20 * state.remaining.length + dispatchWork state.current +
    ∑ nodeid ∈ senders, queueWork (state.workQueues nodeid)

/-- A thread inside the monitor, or one whose queue is not empty while nobody
is inside, has a step that leaves it less to do. -/
theorem exists_runStep
    {connection : ClientConnection} {run : WorkQueue.Run Callback}
    (serving : WorkQueue.Serving connection run)
    (resting : run.holder.Resting)
    (busy :
      run.holder = .runThread ∨ run.workQueue.callbacks ≠ []) :
    ∃ (step : RunStep) (target : WorkQueue.Run Callback),
      run.next step.label = some target ∧
        threadWork target < threadWork run := by
  have live := serving.live
  have free :
      run.thread ≠ .loopTest → run.thread ≠ .secondHalf →
        run.holder = .free := by
    intro notTest notSecondHalf
    rcases resting with free | inThread
    · exact free
    · rcases serving.holding inThread with atTest | atSecondHalf
      · exact absurd atTest notTest
      · exact absurd atSecondHalf notSecondHalf
  cases thread : run.thread with
  | starting =>
      have isFree := free (by simp [thread]) (by simp [thread])
      have advanced :
          run.next .runLock =
            some { run with
              workQueue := run.workQueue.lock
              holder := .runThread
              thread := .loopTest } := by
        simp only [WorkQueue.Run.next, thread, isFree]
      refine ⟨.lock, _, advanced, ?_⟩
      simp [threadWork, thread]
  | loopTest =>
      refine ⟨.test, run.test, by
        simp [RunStep.label, WorkQueue.Run.next, thread], ?_⟩
      by_cases empty : run.workQueue.callbacks.length = 0
      · simp [WorkQueue.Run.test, live, empty, threadWork, thread]
      · simp [WorkQueue.Run.test, live, empty, threadWork, thread]
  | secondHalf =>
      have advanced :
          run.next .runSecondHalf =
            some { run with
              workQueue := run.workQueue.deliver
              thread := .loopTest
              written :=
                run.written ++
                  run.workQueue.nextEntry.toList.map
                    CallbackEntry.message } := by
        simp only [WorkQueue.Run.next, thread, if_true]
      refine ⟨.secondHalf, _, advanced, ?_⟩
      cases pending : run.workQueue.callbacks with
      | nil =>
          simp [threadWork, thread, pending, WorkQueue.deliver,
            WorkQueue.nextEntry, live]
      | cons entry rest =>
          simp [threadWork, thread, pending, WorkQueue.deliver,
            WorkQueue.nextEntry, live]
          omega
  | blocked =>
      have isFree := free (by simp [thread]) (by simp [thread])
      have idle := serving.attended.idle thread (by simp [isFree])
      rcases busy with inThread | nonempty
      · rw [isFree] at inThread
        cases inThread
      · exact absurd idle.1 nonempty
  | woken =>
      have isFree := free (by simp [thread]) (by simp [thread])
      have advanced :
          run.next .runRelock =
            some { run with
              workQueue := run.workQueue.lock
              holder := .runThread
              thread := .secondHalf } := by
        simp only [WorkQueue.Run.next, thread, isFree]
      refine ⟨.relock, _, advanced, ?_⟩
      by_cases empty : run.workQueue.callbacks.length = 0
      · simp [threadWork, thread, empty]
      · simp [threadWork, thread, empty]
  | finished => exact absurd thread serving.unfinished

theorem threadWork_addEntry
    {run : WorkQueue.Run Callback} (live : run.workQueue.done = false)
    (entry : CallbackEntry Callback) :
    threadWork (run.addEntry entry) ≤ threadWork run + 3 := by
  have extended := (WorkQueue.add_of_live live entry).1
  have longer :
      (run.addEntry entry).workQueue.callbacks.length =
        run.workQueue.callbacks.length + 1 := by
    simp [WorkQueue.Run.addEntry, extended]
  have sameThread : (run.addEntry entry).thread = run.thread := rfl
  rw [threadWork, threadWork, longer, sameThread]
  cases run.thread with
  | secondHalf =>
      simp only [Nat.add_eq_zero_iff, one_ne_zero, and_false, if_false]
      split <;> omega
  | starting | loopTest | blocked | woken | finished =>
      simp only
      omega

theorem threadWork_unlock (run : WorkQueue.Run Callback) :
    threadWork run.unlock ≤ threadWork run + 4 := by
  by_cases signalled :
      0 < run.workQueue.nnotify ∧ run.thread = .blocked
  · simp [threadWork, WorkQueue.Run.unlock, signalled]
  · simp [threadWork, WorkQueue.Run.unlock, signalled]

/-- The work of the other queues does not change with one queue. -/
theorem sum_queueWork_update
    {senders : Finset String} {nodeid : String}
    (isSender : nodeid ∈ senders)
    {queues : String → Option (WorkQueue.Run Callback)}
    {source : WorkQueue.Run Callback} (found : queues nodeid = some source)
    (target : WorkQueue.Run Callback) :
    ∑ other ∈ senders,
        queueWork (Function.update queues nodeid (some target) other) +
        threadWork source =
      ∑ other ∈ senders, queueWork (queues other) + threadWork target := by
  have updated :
      ∀ other,
        queueWork (Function.update queues nodeid (some target) other) =
          Function.update (fun other => queueWork (queues other)) nodeid
            (threadWork target) other := by
    intro other
    by_cases same : other = nodeid
    · subst same
      simp [queueWork]
    · simp [same]
  have others :=
    Finset.sum_erase_add senders (fun other => queueWork (queues other))
      isSender
  have sourceWork : queueWork (queues nodeid) = threadWork source := by
    rw [found]
    rfl
  simp only [updated, Finset.sum_update_of_mem isSender,
    Finset.sdiff_singleton_eq_erase]
  omega

/-- The senders of the requests. -/
def senders (requests : List (SendRequest Callback)) : Finset String :=
  (requests.map SendRequest.nodeid).toFinset

theorem nodeid_mem_senders
    {request : SendRequest Callback} (isRequest : request ∈ requests) :
    request.nodeid ∈ senders requests :=
  List.mem_toFinset.mpr (List.mem_map_of_mem isRequest)

/-- A step of a queue takes the place of its thread's work in the work of
the server. -/
theorem work_stepQueue
    {state : AsyncServer Callback} {nodeid : String}
    {label : WorkQueue.Label Callback}
    {source target : WorkQueue.Run Callback} {among : Finset String}
    (isSender : nodeid ∈ among)
    (found : state.workQueues nodeid = some source)
    (advanced : source.next label = some target) :
    ∃ next, state.stepQueue nodeid label = some next ∧
      work among next + threadWork source =
        work among state + threadWork target := by
  have stepped :
      state.stepQueue nodeid label =
        some { state with
          workQueues := Function.update state.workQueues nodeid (some target)
          completions :=
            state.completions ++
              target.completions.drop source.completions.length } := by
    rw [stepQueue, found]
    simp only [advanced]
  refine ⟨_, stepped, ?_⟩
  have exchanged := sum_queueWork_update isSender found target
  simp only [work]
  omega

/-- The queue of a begun request. -/
theorem Serves.begun_queue
    {state : AsyncServer Callback}
    (serves : Serves clientConnMap requests state)
    {request : SendRequest Callback}
    (member : request ∈ state.current.begun) :
    request.nodeid ∈ senders requests ∧
      ∃ run connection, state.workQueues request.nodeid = some run ∧
        QueueServes state request.nodeid connection run := by
  constructor
  · have isRequest : request ∈ requests := by
      rw [serves.split]
      exact List.mem_append_left _ (List.mem_append_right _ member)
    exact nodeid_mem_senders isRequest
  · rcases Option.isSome_iff_exists.mp (serves.registered request member) with
      ⟨connection, registered⟩
    rcases serves.queues request.nodeid connection registered with
      ⟨run, found, queue⟩
    exact ⟨run, connection, found, queue⟩

/-- Only a queue that was given a request has something to write. -/
theorem Serves.isSender_of_callbacks
    {state : AsyncServer Callback}
    (serves : Serves clientConnMap requests state) {nodeid : String}
    {run : WorkQueue.Run Callback}
    (found : state.workQueues nodeid = some run)
    (nonempty : run.workQueue.callbacks ≠ []) :
    nodeid ∈ senders requests := by
  rcases serves.queue_of_found found with ⟨connection, -, queue⟩
  have given : run.submitted ≠ [] := by
    intro noneGiven
    rcases queue.serving.calls with ⟨executed, submitted, -, accepted⟩
    rw [noneGiven] at submitted
    have noneExecuted := (List.append_eq_nil_iff.mp submitted.symm).1
    have split := queue.serving.ordered.split queue.serving.live
    rw [accepted, noneExecuted] at split
    have nonePending := (List.append_eq_nil_iff.mp split.symm).2
    exact nonempty (List.map_eq_nil_iff.mp nonePending)
  rw [queue.submitted] at given
  rcases List.exists_mem_of_ne_nil _ given with ⟨entry, member⟩
  rcases List.mem_map.mp member with ⟨request, filtered, -⟩
  rcases List.mem_filter.mp filtered with ⟨begun, ofSender⟩
  have isRequest : request ∈ requests := by
    rw [serves.split]
    exact List.mem_append_left _ begun
  have sameSender : request.nodeid = nodeid := by
    simpa using ofSender
  rw [← sameSender]
  exact nodeid_mem_senders isRequest

theorem Serves.adding_moves
    {state : AsyncServer Callback} {request : SendRequest Callback}
    (serves : Serves clientConnMap requests state)
    (current : state.current = .adding request) :
    ∃ target, state.next .addBody = some target ∧
      work (senders requests) target < work (senders requests) state := by
  have isBegun : request ∈ state.current.begun := by
    simp [current, Dispatch.begun]
  rcases serves.begun_queue isBegun with
    ⟨member, run, connection, found, queue⟩
  have held : run.holder = .adding request.entry := by
    have fits := queue.holder
    rw [current] at fits
    simpa [Dispatch.HolderFits] using fits
  have advanced :
      run.next .addBody = some (run.addEntry request.entry) := by
    simp only [WorkQueue.Run.next, held]
  have bounded := threadWork_addEntry queue.serving.live request.entry
  let begun := { state with current := .leaving request }
  have foundBegun : begun.workQueues request.nodeid = some run := found
  rcases work_stepQueue member foundBegun advanced with
    ⟨target, stepped, exchanged⟩
  refine ⟨target, ?_, ?_⟩
  · simp only [AsyncServer.next, current]
    exact stepped
  · simp only [work, begun, current, dispatchWork] at exchanged ⊢
    omega

theorem Serves.leaving_moves
    {state : AsyncServer Callback} {request : SendRequest Callback}
    (serves : Serves clientConnMap requests state)
    (current : state.current = .leaving request) :
    ∃ target, state.next .unlock = some target ∧
      work (senders requests) target < work (senders requests) state := by
  have isBegun : request ∈ state.current.begun := by
    simp [current, Dispatch.begun]
  rcases serves.begun_queue isBegun with
    ⟨member, run, connection, found, queue⟩
  have held : run.holder = .leaving := by
    have fits := queue.holder
    rw [current] at fits
    simpa [Dispatch.HolderFits] using fits
  have advanced : run.next .unlock = some run.unlock := by
    simp only [WorkQueue.Run.next, held]
  have bounded := threadWork_unlock run
  let begun :=
    { state with
      current := .idle
      dispatched := state.dispatched ++ [request] }
  have foundBegun : begun.workQueues request.nodeid = some run := found
  rcases work_stepQueue member foundBegun advanced with
    ⟨target, stepped, exchanged⟩
  refine ⟨target, ?_, ?_⟩
  · simp only [AsyncServer.next, current]
    exact stepped
  · simp only [work, begun, current, dispatchWork] at exchanged ⊢
    omega

theorem Serves.thread_moves
    {state : AsyncServer Callback}
    (serves : Serves clientConnMap requests state)
    (isIdle : state.current = .idle) {nodeid : String}
    {run : WorkQueue.Run Callback}
    (found : state.workQueues nodeid = some run)
    (isSender : nodeid ∈ senders requests)
    (busy :
      run.holder = .runThread ∨ run.workQueue.callbacks ≠ []) :
    ∃ label target, state.next label = some target ∧
      work (senders requests) target < work (senders requests) state := by
  rcases serves.queue_of_found found with ⟨connection, -, queue⟩
  have resting : run.holder.Resting := by
    have fits := queue.holder
    rw [isIdle] at fits
    exact fits
  rcases exists_runStep queue.serving resting busy with
    ⟨step, moved, advanced, lighter⟩
  rcases work_stepQueue isSender found advanced with
    ⟨target, stepped, exchanged⟩
  exact ⟨.runThread nodeid step, target, stepped, by omega⟩

/-- The servant begins its next request, unless the thread of the queue is
inside the monitor; then the thread goes on. -/
theorem Serves.begins
    {state : AsyncServer Callback} {request : SendRequest Callback}
    {rest : List (SendRequest Callback)}
    (serves : Serves clientConnMap requests state)
    (isIdle : state.current = .idle)
    (pending : state.remaining = request :: rest) :
    ∃ label target, state.next label = some target ∧
      work (senders requests) target < work (senders requests) state := by
  have isRequest : request ∈ requests := by
    rw [serves.split, pending]
    exact List.mem_append_right _ List.mem_cons_self
  have isSender := nodeid_mem_senders isRequest
  rcases found : state.workQueues request.nodeid with _ | run
  · refine ⟨.sendAsync,
      { state with
        remaining := rest
        dispatched := state.dispatched ++ [request] }, ?_, ?_⟩
    · simp only [AsyncServer.next, isIdle, pending, found]
    · simp only [work, pending, List.length_cons]
      omega
  · by_cases inThread : run.holder = .runThread
    · exact serves.thread_moves isIdle found isSender (.inl inThread)
    · rcases serves.queue_of_found found with ⟨connection, -, queue⟩
      have free : run.holder = .free := by
        have fits := queue.holder
        rw [isIdle] at fits
        exact fits.resolve_right inThread
      let entered :=
        { run with
          workQueue := run.workQueue.lock
          holder := .adding request.entry
          submitted := run.submitted ++ [request.entry] }
      have advanced :
          run.next (.addLock request.entry) = some entered := by
        simp only [WorkQueue.Run.next, free, entered]
      have sameWork : threadWork entered = threadWork run := rfl
      let begun :=
        { state with
          remaining := rest
          current := .adding request }
      have foundBegun : begun.workQueues request.nodeid = some run := found
      rcases work_stepQueue isSender foundBegun advanced with
        ⟨target, stepped, exchanged⟩
      refine ⟨.sendAsync, target, ?_, ?_⟩
      · simp only [AsyncServer.next, isIdle, pending, found]
        exact stepped
      · simp only [work, begun, isIdle, pending, dispatchWork, sameWork,
          List.length_cons] at exchanged ⊢
        omega

/-- A server that is not drained has a step that leaves it less to do. -/
theorem Serves.moves
    {state : AsyncServer Callback}
    (serves : Serves clientConnMap requests state)
    (undrained : ¬ Drained state) :
    ∃ label target, state.next label = some target ∧
      work (senders requests) target < work (senders requests) state := by
  cases current : state.current with
  | adding request =>
      rcases serves.adding_moves current with ⟨target, stepped, lower⟩
      exact ⟨.addBody, target, stepped, lower⟩
  | leaving request =>
      rcases serves.leaving_moves current with ⟨target, stepped, lower⟩
      exact ⟨.unlock, target, stepped, lower⟩
  | idle =>
      rcases pending : state.remaining with _ | ⟨request, rest⟩
      · have unwritten :
            ∃ nodeid run, state.workQueues nodeid = some run ∧
              run.workQueue.callbacks ≠ [] := by
          by_contra allWritten
          push Not at allWritten
          exact undrained ⟨pending, current, allWritten⟩
        rcases unwritten with ⟨nodeid, run, found, nonempty⟩
        exact serves.thread_moves current found
          (serves.isSender_of_callbacks found nonempty) (.inr nonempty)
      · exact serves.begins current pending

/-- The asynchronous server can always go on until it is drained. -/
theorem exists_drained
    {state : AsyncServer Callback}
    (reachable : (machine clientConnMap requests).Reachable state) :
    ∃ labels final,
      (machine clientConnMap requests).run state labels = some final ∧
        Drained final := by
  apply reachable.completes (work (senders requests))
  intro current reached undrained
  exact (Serves.of_reachable reached).moves undrained

end Progress

end AsyncServer

section Agreement

/-- Each variant answers every request once with success, and a drained
asynchronous server leaves the connections that the synchronous ones leave. -/
structure VariantsAgree (clientConnMap : MapClientConn)
    (requests : List (SendRequest Callback)) : Prop where
  dynamicAnswers :
    (dispatchDynamic clientConnMap requests).2 =
      requests.map fun _ => .ok true
  staticAnswers :
    (dispatchStatic clientConnMap requests).2 =
      requests.map SendRequest.success
  asyncAnswers :
    ∀ state,
      (AsyncServer.machine clientConnMap requests).Reachable state →
        AsyncServer.Drained state →
          state.completions = requests.map SendRequest.success
  dynamicConnections :
    (dispatchDynamic clientConnMap requests).1 =
      (dispatchStatic clientConnMap requests).1
  asyncConnections :
    ∀ state,
      (AsyncServer.machine clientConnMap requests).Reachable state →
        AsyncServer.Drained state →
          state.connections = (dispatchStatic clientConnMap requests).1

/-- The variants agree exactly when every sender is registered.  In any case
every run of the asynchronous server can be continued until it is drained. -/
theorem servants_agree_iff
    (clientConnMap : MapClientConn)
    (requests : List (SendRequest Callback)) :
    (VariantsAgree clientConnMap requests ↔
      ∀ request ∈ requests, (clientConnMap request.nodeid).isSome) ∧
    (∀ state,
      (AsyncServer.machine clientConnMap requests).Reachable state →
        ∃ labels final,
          (AsyncServer.machine clientConnMap requests).run state labels =
              some final ∧
            AsyncServer.Drained final) := by
  refine ⟨⟨?_, ?_⟩, fun state => AsyncServer.exists_drained⟩
  · intro agree
    have initially :
        (AsyncServer.machine clientConnMap requests).Reachable
          (AsyncServer.start clientConnMap requests) := .initial rfl
    rcases AsyncServer.exists_drained initially with
      ⟨labels, final, executed, drained⟩
    have reached := initially.run executed
    have answered := agree.asyncAnswers final reached drained
    rw [((AsyncServer.Serves.of_reachable reached).drained drained).2]
      at answered
    have sameLength := congrArg List.length answered
    rw [List.length_map, List.length_map] at sameLength
    exact List.length_filter_eq_length_iff.mp sameLength
  · intro registered
    have allKept :
        (requests.filter fun request =>
          (clientConnMap request.nodeid).isSome) = requests :=
      List.filter_eq_self.mpr registered
    refine ⟨?_, dispatchStatic_completions clientConnMap, ?_, ?_, ?_⟩
    · rw [dispatchDynamic_eq]
    · intro state reached drained
      rw [((AsyncServer.Serves.of_reachable reached).drained drained).2,
        allKept]
    · rw [dispatchDynamic_eq]
    · intro state reached drained
      exact ((AsyncServer.Serves.of_reachable reached).drained drained).1

/-- The only registered client is `p1`. -/
def onlyP1 : MapClientConn :=
  fun nodeid => if nodeid = "p1" then some (.create nodeid) else none

def strangerRequest : SendRequest Nat :=
  ⟨0, "p0", "a", [1]⟩

/-- The callback of an unregistered sender is never completed by the
asynchronous servant, while the synchronous ones answer its request. -/
theorem unregistered_sender_not_answered :
    ¬ VariantsAgree onlyP1 [strangerRequest] := by
  intro agree
  let final : AsyncServer Nat :=
    { AsyncServer.start onlyP1 [strangerRequest] with
      remaining := []
      dispatched := [strangerRequest] }
  have initially :
      (AsyncServer.machine onlyP1 [strangerRequest]).Reachable
        (AsyncServer.start onlyP1 [strangerRequest]) := .initial rfl
  have executed :
      (AsyncServer.machine onlyP1 [strangerRequest]).run
        (AsyncServer.start onlyP1 [strangerRequest]) [.sendAsync] =
          some final := rfl
  have drained : AsyncServer.Drained final := by
    refine ⟨rfl, rfl, ?_⟩
    intro nodeid run found
    rcases Option.map_eq_some_iff.mp found with ⟨connection, -, rfl⟩
    rfl
  have answered :=
    agree.asyncAnswers final (initially.run executed) drained
  cases answered

end Agreement

end ChannelSdk
