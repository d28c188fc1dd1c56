import ChannelSdk.ServerLife

/-!
# Requests and answers of the asynchronous server

No request is forgotten once the communicator has dispatched it.  A work queue
answers each of its calls once; a call of a sender without a work queue is
never answered.  Closing waits for the answers, so a closed server has given
one to every call.
-/

namespace ChannelSdk

open CheckedMemory WorkQueue

universe u

namespace ServerLife

variable {Callback : Type u}
variable {clientConnMap : MapClientConn} {nodeids : List String}
variable {state target : ServerLife Callback}

/-- What the communicator has dispatched. -/
def requests (state : ServerLife Callback) : List (SendRequest Callback) :=
  state.arriving ++ state.dispatched

/-- A step that leaves the requests where they are, and closes no server that
is not drained. -/
structure Still (state target : ServerLife Callback) : Prop where
  arriving : target.arriving = state.arriving
  dispatched : target.dispatched = state.dispatched
  closes :
    target.destructor = .closed →
      state.destructor = .closed ∨ state.Drained

/-- A step of one queue. -/
theorem Still.of_stepQueue
    {nodeid : String} {label : WorkQueue.Label Callback}
    (stepped : state.stepQueue nodeid label = some target) :
    Still state target := by
  obtain ⟨source, run, found, advanced, rfl⟩ := exists_of_stepQueue stepped
  exact ⟨rfl, rfl, .inl⟩

/-- The destructor moves and is not at its end. -/
theorem Still.of_destructor
    (later : Destructor) (notClosed : later ≠ .closed) :
    Still state { state with destructor := later } where
  arriving := rfl
  dispatched := rfl
  closes := fun closed => absurd closed notClosed

/-- The destructor moves with a step of a queue. -/
theorem Still.of_both
    {later : Destructor} (notClosed : later ≠ .closed) {nodeid : String}
    {label : WorkQueue.Label Callback}
    (stepped :
      { state with destructor := later }.stepQueue nodeid label =
        some target) :
    Still state target := by
  obtain ⟨source, run, found, advanced, rfl⟩ := exists_of_stepQueue stepped
  exact ⟨rfl, rfl, fun closed => absurd closed notClosed⟩

/-- What a step does to the requests: it takes one in, passes one on, or leaves
them where they are. -/
theorem requests_of_next
    {label : Label Callback} (stepped : state.next nodeids label = some target) :
    Still state target ∨
    (∃ request, label = .arrive request ∧ state.destructor ≠ .closed ∧
      target = { state with arriving := state.arriving ++ [request] }) ∨
    ∃ index request, state.arriving[index]? = some request ∧
      target.arriving = state.arriving.eraseIdx index ∧
      target.dispatched = state.dispatched ++ [request] ∧
      target.destructor = state.destructor := by
  cases label with
  | arrive request =>
      simp only [ServerLife.next] at stepped
      split at stepped
      · next serving =>
          cases stepped
          refine .inr (.inl ⟨request, rfl, ?_, rfl⟩)
          intro closed
          rw [closed] at serving
          exact serving
      · cases stepped
  | sendAsync index =>
      simp only [ServerLife.next] at stepped
      split at stepped
      · next request isAt =>
          refine .inr (.inr ⟨index, request, isAt, ?_⟩)
          split at stepped
          · obtain ⟨source, run, found, advanced, rfl⟩ :=
              exists_of_stepQueue stepped
            exact ⟨rfl, rfl, rfl⟩
          · cases stepped
            exact ⟨rfl, rfl, rfl⟩
      · cases stepped
  | addBody _ | recv _ _ | runThread _ _ => exact .inl (.of_stepQueue stepped)
  | unlock key =>
      simp only [ServerLife.next] at stepped
      split at stepped
      · split at stepped
        · cases stepped
        · exact .inl (.of_stepQueue stepped)
      all_goals exact .inl (.of_stepQueue stepped)
  | destructor | close =>
      simp only [ServerLife.next] at stepped
      split at stepped <;> cases stepped
      exact .inl (.of_destructor _ (by simp))
  | destroyBody =>
      simp only [ServerLife.next] at stepped
      split at stepped
      · exact .inl (.of_stepQueue stepped)
      all_goals cases stepped
  | destroyLock | destroyUnlock =>
      simp only [ServerLife.next] at stepped
      split at stepped
      · exact .inl (.of_both (by simp) stepped)
      all_goals cases stepped
  | closeReturn =>
      simp only [ServerLife.next] at stepped
      split at stepped
      · split at stepped
        · next drained =>
            cases stepped
            exact .inl ⟨rfl, rfl, fun _ => .inr drained⟩
        · cases stepped
      all_goals cases stepped

/-- A thread that passes its request on is taken off the arriving ones. -/
theorem requests_perm
    {index : Nat} {request : SendRequest Callback}
    (isAt : state.arriving[index]? = some request)
    (sameArriving : target.arriving = state.arriving.eraseIdx index)
    (sameDispatched : target.dispatched = state.dispatched ++ [request]) :
    target.requests.Perm state.requests := by
  obtain ⟨inside, rfl⟩ := List.getElem?_eq_some_iff.mp isAt
  have taken := List.getElem_cons_eraseIdx_perm inside
  have moved :
      (state.arriving.eraseIdx index ++
          (state.dispatched ++ [state.arriving[index]])).Perm
        (state.arriving[index] :: state.arriving.eraseIdx index ++
          state.dispatched) := by
    rw [← List.append_assoc]
    exact List.perm_append_singleton ..
  rw [requests, requests, sameArriving, sameDispatched]
  exact moved.trans (taken.append_right _)

/-- The steps of the destructor, and of threads that have arrived, are inside a
monitor or end. -/
def Label.tearsDown : Label Callback → Prop
  | .arrive _ | .recv _ _ | .runThread _ .spuriousWakeup => False
  | .sendAsync _ | .addBody _ | .unlock _ | .runThread _ .lock
  | .runThread _ .test | .runThread _ .secondHalf | .runThread _ .relock
  | .destructor | .destroyLock | .destroyBody | .destroyUnlock | .close
  | .closeReturn => True

theorem requests_subset_of_next
    {label : Label Callback} (stepped : state.next nodeids label = some target)
    {request : SendRequest Callback} (among : request ∈ state.requests) :
    request ∈ target.requests := by
  obtain still | ⟨other, -, -, rfl⟩ |
      ⟨index, other, isAt, sameArriving, sameDispatched, -⟩ :=
    requests_of_next stepped
  · rw [requests, still.arriving, still.dispatched]
    exact among
  · rw [requests, List.mem_append] at among ⊢
    exact among.imp_left fun arrived => List.mem_append_left _ arrived
  · exact (requests_perm isAt sameArriving sameDispatched).mem_iff.mpr among

/-- No request is ever forgotten. -/
theorem requests_subset_of_run
    {labels : List (Label Callback)}
    (executed :
      (machine clientConnMap nodeids).run state labels = some target)
    {request : SendRequest Callback} (among : request ∈ state.requests) :
    request ∈ target.requests := by
  have preserved :
      ∀ (source : ServerLife Callback) (label : Label Callback)
        (after : ServerLife Callback), True → request ∈ source.requests →
          (machine clientConnMap nodeids).next source label = some after →
            request ∈ after.requests :=
    fun _ _ _ _ before stepped => requests_subset_of_next stepped before
  exact
    TransitionMachine.holds_of_run (fun _ => True) preserved
      (fun _ _ => trivial) among executed

/-- Tearing down takes no request in. -/
theorem requests_perm_of_run
    {labels : List (Label Callback)}
    (allTear : ∀ label ∈ labels, Label.tearsDown label)
    (executed :
      (machine clientConnMap nodeids).run state labels = some target) :
    target.requests.Perm state.requests := by
  have preserved :
      ∀ (source : ServerLife Callback) (label : Label Callback)
        (after : ServerLife Callback), Label.tearsDown label →
          source.requests.Perm state.requests →
            (machine clientConnMap nodeids).next source label = some after →
              after.requests.Perm state.requests := by
    intro source label after tears before stepped
    refine List.Perm.trans ?_ before
    obtain still | ⟨other, rfl, -⟩ |
        ⟨index, other, isAt, sameArriving, sameDispatched, -⟩ :=
      requests_of_next stepped
    · rw [requests, requests, still.arriving, still.dispatched]
    · exact tears.elim
    · exact requests_perm isAt sameArriving sameDispatched
  exact TransitionMachine.holds_of_run _ preserved allTear .rfl executed

/-- A queue has answered all its calls when none is inside its monitor. -/
theorem answered_iff
    {run : WorkQueue.Run Callback} {nodeid : String}
    (alive : Alive clientConnMap nodeids state)
    (found : state.workQueues nodeid = some run) :
    (state.answers nodeid).length = (state.calls nodeid).length ↔
      run.holder.waiting = [] := by
  obtain ⟨accepted, refused, divided⟩ :=
    exists_divided (alive.components nodeid run found)
  rw [answers, found, calls, ← alive.submitted nodeid run found]
  dsimp only
  rw [divided.completions, divided.submitted]
  simp

/-- Every call has its own answer. -/
theorem answers_of_waiting
    {run : WorkQueue.Run Callback} {nodeid : String}
    (alive : Alive clientConnMap nodeids state)
    (found : state.workQueues nodeid = some run)
    (outside : run.holder.waiting = []) :
    (state.answers nodeid).map Completion.cb =
      (state.calls nodeid).map CallbackEntry.cb := by
  obtain ⟨accepted, refused, divided⟩ :=
    exists_divided (alive.components nodeid run found)
  rw [answers, found, calls, ← alive.submitted nodeid run found]
  dsimp only
  rw [divided.completions, divided.submitted, outside]
  simp [Completion.cb, Function.comp_def]

/-- A sender without a work queue has no answers. -/
theorem answers_of_unregistered
    {nodeid : String} (alive : Alive clientConnMap nodeids state)
    (absent : clientConnMap nodeid = none) :
    state.answers nodeid = [] := by
  have noQueue : state.workQueues nodeid = none := by
    have same := alive.registered nodeid
    rw [absent] at same
    simpa using same
  rw [answers, noQueue]

theorem calls_ne_nil
    {request : SendRequest Callback} (among : request ∈ state.dispatched) :
    state.calls request.nodeid ≠ [] := by
  have called : request.entry ∈ state.calls request.nodeid :=
    List.mem_map_of_mem (List.mem_filter.mpr ⟨among, by simp⟩)
  exact List.ne_nil_of_mem called

/-- A closed server has nothing to answer. -/
structure Closed (state : ServerLife Callback) : Prop where
  noneArriving : state.arriving = []
  answered :
    ∀ nodeid,
      (state.answers nodeid).length = (state.calls nodeid).length

theorem Closed.of_drained
    (alive : Alive clientConnMap nodeids state) (drained : state.Drained) :
    Closed state where
  noneArriving := drained.1
  answered := by
    intro nodeid
    by_cases called : ∃ request ∈ state.dispatched, request.nodeid = nodeid
    · obtain ⟨request, among, rfl⟩ := called
      exact (drained.2 request among).2
    · have none : state.calls nodeid = [] := by
        rw [calls, AsyncServer.entriesFor, List.map_eq_nil_iff,
          List.filter_eq_nil_iff]
        intro request among
        simpa using fun same => called ⟨request, among, same⟩
      cases found : state.workQueues nodeid with
      | none => rw [answers, found, none]; rfl
      | some run =>
          rw [answered_iff alive found]
          obtain ⟨accepted, refused, divided⟩ :=
            exists_divided (alive.components nodeid run found)
          have submitted := divided.submitted
          rw [alive.submitted nodeid run found, ← calls, none] at submitted
          exact (List.append_eq_nil_iff.mp submitted.symm).2

/-- A step that takes no call in keeps the answers complete. -/
theorem Closed.next
    (closed : Closed state) (alive : Alive clientConnMap nodeids state)
    (laterAlive : Alive clientConnMap nodeids target)
    {label : Label Callback} (stepped : state.next nodeids label = some target)
    (still : Still state target) :
    Closed target where
  noneArriving := still.arriving.trans closed.noneArriving
  answered := by
    intro nodeid
    have before := closed.answered nodeid
    have sameCalls : target.calls nodeid = state.calls nodeid := by
      rw [calls, still.dispatched, calls]
    cases found : state.workQueues nodeid with
    | none =>
        have absent : clientConnMap nodeid = none := by
          have same := alive.registered nodeid
          rw [found] at same
          simpa using same.symm
        rw [sameCalls, ← before, answers_of_unregistered alive absent,
          answers_of_unregistered laterAlive absent]
    | some run =>
        have outside := (answered_iff alive found).mp before
        obtain same | ⟨other, later, advanced, there⟩ :=
          queue_of_next stepped found
        · exact (answered_iff laterAlive same).mpr outside
        · refine (answered_iff laterAlive there).mpr ?_
          refine waiting_next ?_ outside advanced
          rw [laterAlive.submitted nodeid later there,
            alive.submitted nodeid run found, still.dispatched]

theorem Closed.of_reachable
    (keys : Keys clientConnMap nodeids)
    (reachable : (machine clientConnMap nodeids).Reachable state)
    (isClosed : state.destructor = .closed) : Closed state := by
  induction reachable with
  | initial isStart =>
      subst isStart
      cases isClosed
  | @step source _ label before _ stepped inductionHypothesis =>
      have alive := Alive.of_reachable keys before
      have laterAlive := alive.next stepped
      obtain still | ⟨other, -, notClosed, rfl⟩ |
          ⟨index, other, isAt, -, -, sameDestructor⟩ :=
        requests_of_next stepped
      · have closed : Closed source := by
          obtain wasClosed | drained := still.closes isClosed
          · exact inductionHypothesis wasClosed
          · exact .of_drained alive drained
        exact closed.next alive laterAlive stepped still
      · exact absurd isClosed notClosed
      · rw [sameDestructor] at isClosed
        rw [(inductionHypothesis isClosed).noneArriving] at isAt
        cases isAt

end ServerLife

end ChannelSdk
