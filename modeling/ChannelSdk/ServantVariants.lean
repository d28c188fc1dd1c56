import ChannelSdk.AsyncServant

/-!
# The asynchronous server at work

A work queue that is neither destroyed nor received from acknowledges every
call and writes the messages of its calls in their order.  The server begins
its requests in order, so each of its work queues has been given the requests
of its sender, and the completions are those of the begun requests whose
sender is registered.
-/

namespace ChannelSdk

open CheckedMemory

universe u

variable {Callback : Type u}

/-- Write messages to a connection one after the other. -/
def ClientConnection.writeAll (connection : ClientConnection)
    (messages : List (String × Bytes)) : ClientConnection :=
  messages.foldl
    (fun current message => (current.write message.1 message.2).2) connection

theorem ClientConnection.writeAll_append
    (connection : ClientConnection) (first second : List (String × Bytes)) :
    connection.writeAll (first ++ second) =
      (connection.writeAll first).writeAll second :=
  List.foldl_append

namespace WorkQueue

/-- No caller is inside the monitor. -/
def Holder.Resting (holder : Holder Callback) : Prop :=
  holder = .free ∨ holder = .runThread

/-- A queue that only adds and delivers: it is not destroyed, its calls were
all acknowledged and accepted, and its connection holds what was written. -/
structure Serving (connection : ClientConnection) (run : Run Callback) :
    Prop where
  ordered : Ordered run
  answered : Answered run
  attended : Attended run
  undestroyed : run.destroyCalls = 0
  unfinished : run.thread ≠ .finished
  holding :
    run.holder = .runThread →
      run.thread = .loopTest ∨ run.thread = .secondHalf
  calls :
    ∃ executed, run.submitted = executed ++ run.holder.waiting ∧
      run.completions = executed.map (fun entry => .iceResponse entry.cb 0) ∧
      run.accepted = executed.map CallbackEntry.message
  stored :
    run.workQueue.ptrClientConn = connection.writeAll run.written

namespace Serving

variable {connection : ClientConnection}

theorem start (nodeid : String) (connection : ClientConnection) :
    Serving connection (start nodeid connection : Run Callback) where
  ordered := .of_reachable (.initial rfl)
  answered := .start nodeid connection
  attended := Attended.of_not_blocked (by simp [WorkQueue.start])
  undestroyed := rfl
  unfinished := by simp [WorkQueue.start]
  holding := by simp [WorkQueue.start]
  calls := ⟨[], rfl, rfl, rfl⟩
  stored := rfl

theorem live
    {run : Run Callback} (serving : Serving connection run) :
    run.workQueue.done = false :=
  (serving.ordered.notDestroyed serving.undestroyed).1

/-- What the steps change besides the state of the thread. -/
structure SameStore (source target : Run Callback) : Prop where
  submitted : target.submitted = source.submitted
  completions : target.completions = source.completions
  accepted : target.accepted = source.accepted
  waiting : target.holder.waiting = source.holder.waiting
  written : target.written = source.written
  connection :
    target.workQueue.ptrClientConn = source.workQueue.ptrClientConn
  destroyCalls : target.destroyCalls = source.destroyCalls

theorem of_same_store
    {source target : Run Callback} {label : Label Callback}
    (serving : Serving connection source)
    (stepped : source.next label = some target)
    (same : SameStore source target)
    (unfinished : target.thread ≠ .finished)
    (holding :
      target.holder = .runThread →
        target.thread = .loopTest ∨ target.thread = .secondHalf) :
    Serving connection target where
  ordered := serving.ordered.next stepped
  answered := serving.answered.next stepped
  attended := serving.attended.next stepped
  undestroyed := same.destroyCalls.trans serving.undestroyed
  unfinished := unfinished
  holding := holding
  calls := by
    rw [same.submitted, same.waiting, same.completions, same.accepted]
    exact serving.calls
  stored := by
    rw [same.connection, same.written]
    exact serving.stored

theorem runTest
    {source target : Run Callback} (serving : Serving connection source)
    (stepped : source.next .runTest = some target) :
    Serving connection target ∧ target.completions = source.completions := by
  cases Run.step_of_next stepped with
  | runTest atTest =>
      have held := serving.answered.exclusive (.inl atTest)
      rw [Run.test, if_neg (by simp [serving.live])] at stepped ⊢
      split at stepped
      · next empty =>
          rw [if_pos empty]
          refine ⟨serving.of_same_store stepped
            ⟨rfl, rfl, rfl, ?_, rfl, rfl, rfl⟩ (by simp) (by simp), rfl⟩
          simp [Holder.waiting, held]
      · next nonempty =>
          rw [if_neg nonempty]
          exact ⟨serving.of_same_store stepped
            ⟨rfl, rfl, rfl, rfl, rfl, rfl, rfl⟩ (by simp) (by simp), rfl⟩

/-- A delivery writes the front entry to the connection and to the log. -/
theorem runSecondHalf
    {source target : Run Callback} (serving : Serving connection source)
    (stepped : source.next .runSecondHalf = some target) :
    Serving connection target ∧ target.completions = source.completions := by
  cases Run.step_of_next stepped
  refine ⟨⟨serving.ordered.next stepped, serving.answered.next stepped,
    serving.attended.next stepped, serving.undestroyed, by simp,
    fun _ => .inl rfl, serving.calls, ?_⟩, rfl⟩
  rw [ClientConnection.writeAll_append, ← serving.stored]
  rcases found : source.workQueue.nextEntry with _ | entry
  · simp [deliver, found, ClientConnection.writeAll]
  · simp [deliver, found, ClientConnection.writeAll, CallbackEntry.message]

theorem addLock
    {source target : Run Callback} {entry : CallbackEntry Callback}
    (serving : Serving connection source)
    (stepped : source.next (.addLock entry) = some target) :
    Serving connection target ∧ target.completions = source.completions ∧
      target.submitted = source.submitted ++ [entry] ∧
      target.holder = .adding entry := by
  cases Run.step_of_next stepped with
  | addLock _ free =>
      rcases serving.calls with ⟨executed, submitted, completed, accepted⟩
      rw [free] at submitted
      have allExecuted : source.submitted = executed := by
        simpa [Holder.waiting] using submitted
      refine ⟨⟨serving.ordered.next stepped, serving.answered.next stepped,
        serving.attended.next stepped, serving.undestroyed,
        serving.unfinished, by simp, ⟨executed, ?_, completed, accepted⟩,
        serving.stored⟩, rfl, rfl, rfl⟩
      rw [allExecuted]
      rfl

/-- The body of `add` acknowledges its call and accepts its message. -/
theorem addBody
    {source target : Run Callback} {entry : CallbackEntry Callback}
    (serving : Serving connection source)
    (held : source.holder = .adding entry)
    (stepped : source.next .addBody = some target) :
    Serving connection target ∧
      target.completions =
        source.completions ++ [.iceResponse entry.cb 0] ∧
      target.submitted = source.submitted ∧ target.holder = .leaving := by
  have advanced := stepped
  simp only [Run.next, held] at stepped
  cases stepped
  rcases add_of_live serving.live entry with ⟨-, -, acknowledged⟩
  rcases serving.calls with ⟨executed, submitted, completed, accepted⟩
  rw [held] at submitted
  have sameConnection :
      (source.workQueue.add entry).1.ptrClientConn =
        source.workQueue.ptrClientConn := by
    by_cases empty : source.workQueue.callbacks.length = 0 <;>
      simp [add, serving.live, empty, notify]
  have completions :
      (source.addEntry entry).completions =
        source.completions ++ [.iceResponse entry.cb 0] := by
    simp [Run.addEntry, acknowledged]
  refine ⟨⟨serving.ordered.next advanced, serving.answered.next advanced,
    serving.attended.next advanced, serving.undestroyed,
    serving.unfinished, by simp [Run.addEntry],
    ⟨executed ++ [entry], ?_, ?_, ?_⟩, ?_⟩, completions, rfl, rfl⟩
  · simpa [Run.addEntry, Holder.waiting] using submitted
  · rw [completions, completed, List.map_append]
    rfl
  · simp [Run.addEntry, serving.live, accepted]
  · exact sameConnection.trans serving.stored

theorem unlock
    {source target : Run Callback}
    (serving : Serving connection source)
    (stepped : source.next .unlock = some target) :
    Serving connection target ∧ target.completions = source.completions ∧
      target.submitted = source.submitted ∧ target.holder = .free := by
  cases Run.step_of_next stepped with
  | unlock held =>
      refine ⟨serving.of_same_store stepped
        ⟨rfl, rfl, rfl, ?_, rfl, rfl, rfl⟩ ?_ (by simp [Run.unlock]),
        rfl, rfl, rfl⟩
      · simp [Run.unlock, Holder.waiting, held]
      · by_cases signalled :
            0 < source.workQueue.nnotify ∧ source.thread = .blocked
        · simp [Run.unlock, signalled]
        · simpa [Run.unlock, signalled] using serving.unfinished

/-- The steps of the thread complete no callback and leave the callers
alone. -/
theorem runStep
    {source target : Run Callback} {step : AsyncServer.RunStep}
    (serving : Serving connection source)
    (stepped : source.next step.label = some target) :
    Serving connection target ∧ target.completions = source.completions ∧
      target.submitted = source.submitted ∧
      (target.holder = source.holder ∨
        source.holder.Resting ∧ target.holder.Resting) := by
  cases step with
  | lock | relock =>
      cases Run.step_of_next stepped
      next free =>
        refine ⟨serving.of_same_store stepped
          ⟨rfl, rfl, rfl, ?_, rfl, rfl, rfl⟩ (by simp) (by simp), rfl, rfl,
          .inr ⟨.inl free, .inr rfl⟩⟩
        simp [Holder.waiting, free]
  | test =>
      rcases serving.runTest stepped with ⟨later, completions⟩
      cases Run.step_of_next stepped with
      | runTest atTest =>
          have held := serving.answered.exclusive (.inl atTest)
          refine ⟨later, completions, ?_, ?_⟩
          · rw [Run.test, if_neg (by simp [serving.live])]
            split <;> rfl
          · rw [Run.test, if_neg (by simp [serving.live])]
            split
            · exact .inr ⟨.inr held, .inl rfl⟩
            · exact .inl rfl
  | secondHalf =>
      rcases serving.runSecondHalf stepped with ⟨later, completions⟩
      cases Run.step_of_next stepped
      exact ⟨later, completions, rfl, .inl rfl⟩
  | spuriousWakeup =>
      cases Run.step_of_next stepped with
      | spuriousWakeup blocked =>
          refine ⟨serving.of_same_store stepped
            ⟨rfl, rfl, rfl, rfl, rfl, rfl, rfl⟩ (by simp) ?_, rfl, rfl,
            .inl rfl⟩
          intro held
          rcases serving.holding held with atTest | atSecondHalf
          · rw [blocked] at atTest
            cases atTest
          · rw [blocked] at atSecondHalf
            cases atSecondHalf

end Serving

end WorkQueue

namespace Dispatch

/-- The request that the servant has begun and not finished. -/
def begun : Dispatch Callback → List (SendRequest Callback)
  | .idle => []
  | .adding request | .leaving request => [request]

/-- The begun request, once it is answered. -/
def answered : Dispatch Callback → List (SendRequest Callback)
  | .leaving request => [request]
  | _ => []

/-- Who may hold the monitor of a queue. -/
def HolderFits (current : Dispatch Callback) (nodeid : String)
    (holder : WorkQueue.Holder Callback) : Prop :=
  match current with
  | .idle => holder.Resting
  | .adding request =>
      if request.nodeid = nodeid then holder = .adding request.entry
      else holder.Resting
  | .leaving request =>
      if request.nodeid = nodeid then holder = .leaving else holder.Resting

end Dispatch

namespace AsyncServer

/-- The entries of the requests of one sender. -/
def entriesFor (nodeid : String) (requests : List (SendRequest Callback)) :
    List (CallbackEntry Callback) :=
  (requests.filter fun request => request.nodeid = nodeid).map
    SendRequest.entry

theorem entriesFor_append
    (nodeid : String) (first second : List (SendRequest Callback)) :
    entriesFor nodeid (first ++ second) =
      entriesFor nodeid first ++ entriesFor nodeid second := by
  rw [entriesFor, List.filter_append, List.map_append, entriesFor, entriesFor]

theorem entriesFor_self (request : SendRequest Callback) :
    entriesFor request.nodeid [request] = [request.entry] := by
  simp [entriesFor]

theorem entriesFor_of_ne
    {request : SendRequest Callback} {nodeid : String}
    (different : nodeid ≠ request.nodeid) :
    entriesFor nodeid [request] = [] := by
  simp [entriesFor, different.symm]

theorem stepQueue_eq_some
    {state target : AsyncServer Callback} {nodeid : String}
    {label : WorkQueue.Label Callback}
    (stepped : state.stepQueue nodeid label = some target) :
    ∃ source run, state.workQueues nodeid = some source ∧
      source.next label = some run ∧
      target =
        { state with
          workQueues := Function.update state.workQueues nodeid (some run)
          completions :=
            state.completions ++
              run.completions.drop source.completions.length } := by
  rw [stepQueue] at stepped
  split at stepped
  · next source found =>
      split at stepped
      · next run advanced =>
          cases stepped
          exact ⟨source, run, found, advanced, rfl⟩
      · cases stepped
  · cases stepped

/-- What holds of the queue of a registered sender: it serves, it has the
begun requests of its sender, and its monitor is held by nobody else. -/
structure QueueServes (state : AsyncServer Callback) (nodeid : String)
    (connection : ClientConnection) (run : WorkQueue.Run Callback) :
    Prop where
  serving : WorkQueue.Serving connection run
  submitted :
    run.submitted =
      entriesFor nodeid (state.dispatched ++ state.current.begun)
  holder : state.current.HolderFits nodeid run.holder

/-- The server has begun its requests in order, its queues serve them, and
the begun requests of registered senders are answered. -/
structure Serves (clientConnMap : MapClientConn)
    (requests : List (SendRequest Callback)) (state : AsyncServer Callback) :
    Prop where
  split :
    requests =
      state.dispatched ++ state.current.begun ++ state.remaining
  queues :
    ∀ nodeid connection, clientConnMap nodeid = some connection →
      ∃ run, state.workQueues nodeid = some run ∧
        QueueServes state nodeid connection run
  absent :
    ∀ nodeid, clientConnMap nodeid = none → state.workQueues nodeid = none
  registered :
    ∀ request ∈ state.current.begun, (clientConnMap request.nodeid).isSome
  completions :
    state.completions =
      ((state.dispatched ++ state.current.answered).filter fun request =>
        (clientConnMap request.nodeid).isSome).map SendRequest.success

namespace Serves

variable {clientConnMap : MapClientConn}
variable {requests : List (SendRequest Callback)}

theorem start :
    Serves clientConnMap requests (start clientConnMap requests) where
  split := rfl
  queues := by
    intro nodeid connection registered
    refine ⟨WorkQueue.start nodeid connection, ?_,
      .start nodeid connection, rfl, .inl rfl⟩
    simp [AsyncServer.start, registered]
  absent := by
    intro nodeid unregistered
    simp [AsyncServer.start, unregistered]
  registered := by
    intro request member
    cases member
  completions := rfl

/-- The queue of a sender that has one. -/
theorem queue_of_found
    {state : AsyncServer Callback}
    (serves : Serves clientConnMap requests state) {nodeid : String}
    {run : WorkQueue.Run Callback}
    (found : state.workQueues nodeid = some run) :
    ∃ connection, clientConnMap nodeid = some connection ∧
      QueueServes state nodeid connection run := by
  rcases registered : clientConnMap nodeid with _ | connection
  · rw [serves.absent nodeid registered] at found
    cases found
  · rcases serves.queues nodeid connection registered with
      ⟨same, foundSame, queue⟩
    rw [found] at foundSame
    cases foundSame
    exact ⟨connection, rfl, queue⟩

/-- A step of one queue: the others are untouched, so only what the servant
itself changes matters to them. -/
theorem update
    {state target : AsyncServer Callback} {nodeid : String}
    {run : WorkQueue.Run Callback} {connection : ClientConnection}
    (serves : Serves clientConnMap requests state)
    (registered : clientConnMap nodeid = some connection)
    (updated :
      target.workQueues =
        Function.update state.workQueues nodeid (some run))
    (split :
      requests =
        target.dispatched ++ target.current.begun ++ target.remaining)
    (here : QueueServes target nodeid connection run)
    (elsewhere :
      ∀ other otherConnection otherRun, other ≠ nodeid →
        QueueServes state other otherConnection otherRun →
          QueueServes target other otherConnection otherRun)
    (begunRegistered :
      ∀ request ∈ target.current.begun,
        (clientConnMap request.nodeid).isSome)
    (completions :
      target.completions =
        ((target.dispatched ++ target.current.answered).filter
          fun request => (clientConnMap request.nodeid).isSome).map
            SendRequest.success) :
    Serves clientConnMap requests target where
  split := split
  queues := by
    intro other otherConnection otherRegistered
    by_cases same : other = nodeid
    · subst same
      rw [registered] at otherRegistered
      cases otherRegistered
      exact ⟨run, by rw [updated, Function.update_self], here⟩
    · rcases serves.queues other otherConnection otherRegistered with
        ⟨otherRun, found, queue⟩
      refine ⟨otherRun, ?_, elsewhere other otherConnection otherRun same queue⟩
      rw [updated, Function.update_of_ne same, found]
  absent := by
    intro other unregistered
    have different : other ≠ nodeid := by
      intro same
      rw [same, registered] at unregistered
      cases unregistered
    rw [updated, Function.update_of_ne different]
    exact serves.absent other unregistered
  registered := begunRegistered
  completions := completions

/-- A queue is not concerned by the request of another sender. -/
theorem queueServes_of_ne
    {state target : AsyncServer Callback} {request : SendRequest Callback}
    {other : String} {connection : ClientConnection}
    {run : WorkQueue.Run Callback} (different : other ≠ request.nodeid)
    (queue : QueueServes state other connection run)
    (before :
      state.current = .idle ∧
          target.dispatched ++ target.current.begun =
            state.dispatched ++ [request] ∨
        state.current.begun = [request] ∧
          target.dispatched ++ target.current.begun =
            state.dispatched ++ state.current.begun)
    (after :
      target.current = .idle ∨ target.current.begun = [request]) :
    QueueServes target other connection run := by
  have entries :
      entriesFor other (target.dispatched ++ target.current.begun) =
        entriesFor other (state.dispatched ++ state.current.begun) := by
    rcases before with ⟨idle, begins⟩ | ⟨-, continues⟩
    · rw [begins, idle, entriesFor_append, entriesFor_of_ne different]
      simp [Dispatch.begun]
    · rw [continues]
  have resting : run.holder.Resting := by
    have fits := queue.holder
    rcases before with ⟨idle, -⟩ | ⟨begun, -⟩
    · rw [idle] at fits
      exact fits
    · cases current : state.current with
      | idle =>
          rw [current] at begun
          cases begun
      | adding begunRequest | leaving begunRequest =>
          rw [current] at begun fits
          cases begun
          simpa [Dispatch.HolderFits, different.symm] using fits
  refine ⟨queue.serving, queue.submitted.trans entries.symm, ?_⟩
  rcases after with idle | begun
  · rw [idle]
    exact resting
  · cases current : target.current with
    | idle =>
        rw [current] at begun
        cases begun
    | adding begunRequest | leaving begunRequest =>
        rw [current] at begun
        cases begun
        simpa [Dispatch.HolderFits, different.symm] using resting

/-- The servant returns from the request of a sender without a queue. -/
theorem skip
    {state : AsyncServer Callback} {request : SendRequest Callback}
    {rest : List (SendRequest Callback)}
    (serves : Serves clientConnMap requests state)
    (isIdle : state.current = .idle)
    (pending : state.remaining = request :: rest)
    (absent : state.workQueues request.nodeid = none) :
    Serves clientConnMap requests
      { state with
        remaining := rest
        dispatched := state.dispatched ++ [request] } := by
  have unregistered : clientConnMap request.nodeid = none := by
    by_contra someConnection
    rcases Option.ne_none_iff_exists'.mp someConnection with
      ⟨connection, registered⟩
    rcases serves.queues _ _ registered with ⟨run, found, -⟩
    rw [absent] at found
    cases found
  refine ⟨?_, ?_, serves.absent, serves.registered, ?_⟩
  · rw [serves.split, isIdle, pending]
    simp [Dispatch.begun]
  · intro nodeid connection registered
    have different : nodeid ≠ request.nodeid := by
      intro same
      rw [same, unregistered] at registered
      cases registered
    rcases serves.queues nodeid connection registered with
      ⟨run, found, queue⟩
    refine ⟨run, found, queueServes_of_ne different queue
      (.inl ⟨isIdle, ?_⟩) (.inl isIdle)⟩
    simp [isIdle, Dispatch.begun]
  · have older := serves.completions
    rw [isIdle] at older
    simpa [Dispatch.answered, isIdle, unregistered] using older

/-- The servant begins a request. -/
theorem sendAsync
    {state target : AsyncServer Callback}
    (serves : Serves clientConnMap requests state)
    (stepped : state.next .sendAsync = some target) :
    Serves clientConnMap requests target := by
  simp only [AsyncServer.next] at stepped
  split at stepped
  · next request rest isIdle pending =>
      split at stepped
      · rcases stepQueue_eq_some stepped with
          ⟨source, run, found, advanced, rfl⟩
        rcases serves.queue_of_found found with
          ⟨connection, registered, queue⟩
        rcases queue.serving.addLock advanced with
          ⟨serving, sameCompletions, submitted, held⟩
        refine serves.update registered rfl ?_ ?_ ?_ ?_ ?_
        · rw [serves.split, isIdle, pending]
          simp [Dispatch.begun]
        · refine ⟨serving, ?_, ?_⟩
          · rw [submitted, queue.submitted, isIdle]
            simp [Dispatch.begun, entriesFor_append, entriesFor_self]
          · simp [Dispatch.HolderFits, held]
        · intro other otherConnection otherRun different otherQueue
          exact queueServes_of_ne different otherQueue
            (.inl ⟨isIdle, rfl⟩) (.inr rfl)
        · intro begun member
          rw [List.mem_singleton.mp member, registered]
          rfl
        · have older := serves.completions
          rw [isIdle] at older
          simpa [Dispatch.answered, sameCompletions] using older
      · next absent =>
          cases stepped
          exact serves.skip isIdle pending absent
  · cases stepped

/-- The body of `add` answers the request. -/
theorem addBody
    {state target : AsyncServer Callback}
    (serves : Serves clientConnMap requests state)
    (stepped : state.next .addBody = some target) :
    Serves clientConnMap requests target := by
  simp only [AsyncServer.next] at stepped
  split at stepped
  · next request isAdding =>
      have split := serves.split
      rw [isAdding] at split
      rcases stepQueue_eq_some stepped with
        ⟨source, run, found, advanced, rfl⟩
      rcases serves.queue_of_found found with
        ⟨connection, registered, queue⟩
      have held : source.holder = .adding request.entry := by
        have fits := queue.holder
        rw [isAdding] at fits
        simpa [Dispatch.HolderFits] using fits
      rcases queue.serving.addBody held advanced with
        ⟨serving, completions, submitted, leaving⟩
      refine serves.update registered rfl ?_ ?_ ?_ ?_ ?_
      · exact split
      · refine ⟨serving, ?_, ?_⟩
        · rw [submitted, queue.submitted, isAdding]
          rfl
        · simp [Dispatch.HolderFits, leaving]
      · intro other otherConnection otherRun different otherQueue
        refine queueServes_of_ne different otherQueue
          (.inr ⟨?_, ?_⟩) (.inr rfl)
        · rw [isAdding]
          rfl
        · rw [isAdding]
          rfl
      · intro begun member
        rw [List.mem_singleton.mp member, registered]
        rfl
      · have older := serves.completions
        rw [isAdding] at older
        simp only [completions, older, Dispatch.answered, List.append_nil,
          List.drop_left, List.filter_append, List.map_append]
        simp [registered, SendRequest.success, SendRequest.entry]
  · cases stepped

theorem unlock
    {state target : AsyncServer Callback}
    (serves : Serves clientConnMap requests state)
    (stepped : state.next .unlock = some target) :
    Serves clientConnMap requests target := by
  simp only [AsyncServer.next] at stepped
  split at stepped
  · next request isLeaving =>
      have split := serves.split
      rw [isLeaving] at split
      rcases stepQueue_eq_some stepped with
        ⟨source, run, found, advanced, rfl⟩
      rcases serves.queue_of_found found with
        ⟨connection, registered, queue⟩
      rcases queue.serving.unlock advanced with
        ⟨serving, completions, submitted, free⟩
      refine serves.update registered rfl ?_ ?_ ?_ ?_ ?_
      · rw [split]
        simp [Dispatch.begun]
      · refine ⟨serving, ?_, .inl free⟩
        rw [submitted, queue.submitted, isLeaving]
        simp [Dispatch.begun]
      · intro other otherConnection otherRun different otherQueue
        refine queueServes_of_ne different otherQueue
          (.inr ⟨?_, ?_⟩) (.inl rfl)
        · rw [isLeaving]
          rfl
        · rw [isLeaving]
          simp [Dispatch.begun]
      · intro begun member
        cases member
      · have older := serves.completions
        rw [isLeaving] at older
        simpa [Dispatch.answered, completions] using older
  · cases stepped

theorem runThread
    {state target : AsyncServer Callback} {nodeid : String} {step : RunStep}
    (serves : Serves clientConnMap requests state)
    (stepped : state.next (.runThread nodeid step) = some target) :
    Serves clientConnMap requests target := by
  rcases stepQueue_eq_some stepped with ⟨source, run, found, advanced, rfl⟩
  rcases serves.queue_of_found found with ⟨connection, registered, queue⟩
  rcases queue.serving.runStep advanced with
    ⟨serving, completions, submitted, holder⟩
  refine serves.update registered rfl serves.split ?_ ?_ serves.registered ?_
  · refine ⟨serving, submitted.trans queue.submitted, ?_⟩
    have fits := queue.holder
    rcases holder with same | ⟨rested, rests⟩
    · rw [same]
      exact fits
    · cases current : state.current with
      | idle => exact rests
      | adding request | leaving request =>
          rw [current] at fits
          by_cases own : request.nodeid = nodeid
          · simp only [Dispatch.HolderFits, own, if_true] at fits
            rw [fits] at rested
            rcases rested with free | inThread
            · cases free
            · cases inThread
          · simpa [Dispatch.HolderFits, own] using rests
  · intro other otherConnection otherRun _ otherQueue
    exact ⟨otherQueue.serving, otherQueue.submitted, otherQueue.holder⟩
  · simpa [completions] using serves.completions

theorem of_reachable
    {state : AsyncServer Callback}
    (reachable : (machine clientConnMap requests).Reachable state) :
    Serves clientConnMap requests state := by
  refine reachable.invariant ?_ ?_
  · intro initial isStart
    subst isStart
    exact Serves.start
  · intro source label target serves stepped
    cases label with
    | sendAsync => exact serves.sendAsync stepped
    | addBody => exact serves.addBody stepped
    | unlock => exact serves.unlock stepped
    | runThread nodeid step => exact serves.runThread stepped

end Serves

end AsyncServer

end ChannelSdk
