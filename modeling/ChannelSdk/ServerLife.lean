import ChannelSdk.ServantAgreement
import ChannelSdk.WorkQueueCalls
import ChannelSdk.Lib.MachineFamily

/-!
# The asynchronous server with all its threads, until it is gone

`core/src/async_server.cc` and `IoChannelI::send_async` of
`core/src/IoChannelI.cc`.  Any number of dispatch threads call `add` of the
work queues, the thread of each queue runs, other threads receive from the
connections, and the destructor `~AsyncServer` destroys the queues one after
the other, in the order of its map, before it closes the communicator.  Closing
it dispatches nothing more and waits for every call that is not answered yet.

Each work queue sees a run of its own machine.  Messages are written in the
order in which their calls entered the monitor, every call of a registered
sender is answered once, and the queues that the destructor has not reached
lose nothing.
-/

namespace ChannelSdk

open CheckedMemory WorkQueue

universe u

/-- How far `~AsyncServer` is: with the queues that are left, inside one, or
in `close()`. -/
inductive Destructor where
  | notCalled
  | walking (rest : List String)
  | destroying (nodeid : String) (rest : List String)
  | closing
  | closed
  deriving DecidableEq

/-- The communicator still takes requests. -/
def Destructor.Serving : Destructor → Prop
  | .notCalled | .walking _ | .destroying _ _ => True
  | .closing | .closed => False

instance (destructor : Destructor) : Decidable destructor.Serving :=
  match destructor with
  | .notCalled | .walking _ | .destroying _ _ => .isTrue trivial
  | .closing | .closed => .isFalse id

/-- The work queues with their threads, the requests that a dispatch thread is
about to pass to `send_async`, and those it has passed, in the order in which
they entered the monitors. -/
structure ServerLife (Callback : Type u) where
  workQueues : String → Option (WorkQueue.Run Callback)
  arriving : List (SendRequest Callback)
  dispatched : List (SendRequest Callback)
  destructor : Destructor

instance {Callback : Type u} (holder : WorkQueue.Holder Callback) :
    Decidable holder.Resting :=
  match holder with
  | .free => .isTrue (.inl rfl)
  | .runThread => .isTrue (.inr rfl)
  | .adding _ | .destroying | .leaving => .isFalse (by simp [Holder.Resting])

namespace ServerLife

variable {Callback : Type u}

inductive Label (Callback : Type u) where
  | arrive (request : SendRequest Callback)
  | sendAsync (index : Nat)
  | addBody (nodeid : String)
  | unlock (nodeid : String)
  | recv (nodeid msgid : String)
  | runThread (nodeid : String) (step : AsyncServer.RunStep)
  | destructor
  | destroyLock
  | destroyBody
  | destroyUnlock
  | close
  | closeReturn

/-- A step of one work queue. -/
def stepQueue (state : ServerLife Callback) (nodeid : String)
    (label : WorkQueue.Label Callback) : Option (ServerLife Callback) :=
  (MachineFamily.stepAt WorkQueue.Run.next state.workQueues nodeid label).map
    fun workQueues => { state with workQueues := workQueues }

/-- The calls of a sender that a dispatch thread has passed to `send_async`. -/
def calls (state : ServerLife Callback) (nodeid : String) :
    List (CallbackEntry Callback) :=
  AsyncServer.entriesFor nodeid state.dispatched

/-- The answers to the calls of a sender, all from its work queue. -/
def answers (state : ServerLife Callback) (nodeid : String) :
    List (Completion Callback) :=
  match state.workQueues nodeid with
  | some run => run.completions
  | none => []

/-- The dispatch threads of a sender are outside of its work queue. -/
def Outside (state : ServerLife Callback) (nodeid : String) : Prop :=
  match state.workQueues nodeid with
  | some run => run.holder.Resting
  | none => True

instance (state : ServerLife Callback) (nodeid : String) :
    Decidable (state.Outside nodeid) :=
  match found : state.workQueues nodeid with
  | some run =>
      decidable_of_iff run.holder.Resting (by rw [Outside, found])
  | none => .isTrue (by rw [Outside, found]; trivial)

/-- What `Communicator::destroy` waits for: no dispatch thread is on its way
or inside a work queue, and as many calls are answered as were dispatched. -/
def Drained (state : ServerLife Callback) : Prop :=
  state.arriving = [] ∧
    ∀ request ∈ state.dispatched,
      state.Outside request.nodeid ∧
        (state.answers request.nodeid).length =
          (state.calls request.nodeid).length

instance (state : ServerLife Callback) : Decidable state.Drained :=
  decidable_of_iff
    (state.arriving.isEmpty = true ∧
      ∀ request ∈ state.dispatched,
        state.Outside request.nodeid ∧
          (state.answers request.nodeid).length =
            (state.calls request.nodeid).length)
    (by rw [Drained, List.isEmpty_iff])

/-- A request arrives as long as the communicator is not destroyed.
`send_async` of a sender without a work queue returns at once and without an
answer.  The destructor takes the monitors like any other thread. -/
def next (nodeids : List String) (state : ServerLife Callback) :
    Label Callback → Option (ServerLife Callback)
  | .arrive request =>
      if state.destructor.Serving then
        some { state with arriving := state.arriving ++ [request] }
      else none
  | .sendAsync index =>
      match state.arriving[index]? with
      | some request =>
          let state :=
            { state with
              arriving := state.arriving.eraseIdx index
              dispatched := state.dispatched ++ [request] }
          match state.workQueues request.nodeid with
          | some _ => state.stepQueue request.nodeid (.addLock request.entry)
          | none => some state
      | none => none
  | .addBody nodeid => state.stepQueue nodeid .addBody
  | .unlock nodeid =>
      match state.destructor with
      | .destroying current _ =>
          if nodeid = current then none else state.stepQueue nodeid .unlock
      | .notCalled | .walking _ | .closing | .closed =>
          state.stepQueue nodeid .unlock
  | .recv nodeid msgid => state.stepQueue nodeid (.recv msgid)
  | .runThread nodeid step => state.stepQueue nodeid step.label
  | .destructor =>
      match state.destructor with
      | .notCalled => some { state with destructor := .walking nodeids }
      | .walking _ | .destroying _ _ | .closing | .closed => none
  | .destroyLock =>
      match state.destructor with
      | .walking (nodeid :: rest) =>
          { state with destructor := .destroying nodeid rest }.stepQueue nodeid
            .destroyLock
      | .walking [] | .notCalled | .destroying _ _ | .closing | .closed => none
  | .destroyBody =>
      match state.destructor with
      | .destroying nodeid _ => state.stepQueue nodeid .destroyBody
      | .notCalled | .walking _ | .closing | .closed => none
  | .destroyUnlock =>
      match state.destructor with
      | .destroying nodeid rest =>
          { state with destructor := .walking rest }.stepQueue nodeid .unlock
      | .notCalled | .walking _ | .closing | .closed => none
  | .close =>
      match state.destructor with
      | .walking [] => some { state with destructor := .closing }
      | .walking (_ :: _) | .notCalled | .destroying _ _ | .closing
      | .closed => none
  | .closeReturn =>
      match state.destructor with
      | .closing =>
          if state.Drained then some { state with destructor := .closed }
          else none
      | .notCalled | .walking _ | .destroying _ _ | .closed => none

/-- The server after its construction. -/
def start (clientConnMap : MapClientConn) : ServerLife Callback where
  workQueues := fun nodeid =>
    (clientConnMap nodeid).map (WorkQueue.start nodeid)
  arriving := []
  dispatched := []
  destructor := .notCalled

/-- The server of a map of connections, with the order in which the
destructor's loop finds their node ids. -/
def machine (clientConnMap : MapClientConn) (nodeids : List String) :
    TransitionMachine (ServerLife Callback) (Label Callback) where
  initial := fun state => state = start clientConnMap
  next := next nodeids

/-- The map has these keys, each once. -/
structure Keys (clientConnMap : MapClientConn) (nodeids : List String) :
    Prop where
  nodup : nodeids.Nodup
  registered : ∀ nodeid, nodeid ∈ nodeids ↔ (clientConnMap nodeid).isSome

/-! ## The destructor and the queues -/

/-- The queues that the destructor has not reached. -/
def ahead (nodeids : List String) : Destructor → List String
  | .notCalled => nodeids
  | .walking rest | .destroying _ rest => rest
  | .closing | .closed => []

/-- The queue that the destructor is inside. -/
def inside : Destructor → Option String
  | .destroying nodeid _ => some nodeid
  | .notCalled | .walking _ | .closing | .closed => none

/-- What the destructor has done to a queue. -/
structure QueueFate (nodeids : List String) (destructor : Destructor)
    (nodeid : String) (run : WorkQueue.Run Callback) : Prop where
  untouched : nodeid ∈ ahead nodeids destructor → run.destroyCalls = 0
  entered :
    inside destructor = some nodeid →
      run.holder = .destroying ∨
        run.holder = .leaving ∧ run.workQueue.done = true
  passed :
    nodeid ∉ ahead nodeids destructor → inside destructor ≠ some nodeid →
      run.workQueue.done = true
  elsewhere :
    inside destructor ≠ some nodeid → run.holder ≠ .destroying

/-- The destructor finds every key of the map once. -/
structure Orderly (nodeids : List String) (destructor : Destructor) :
    Prop where
  nodup :
    ((inside destructor).toList ++ ahead nodeids destructor).Nodup
  keys :
    ∀ nodeid ∈ (inside destructor).toList ++ ahead nodeids destructor,
      nodeid ∈ nodeids

/-- The machine of the work queue of a node. -/
def queueMachine (clientConnMap : MapClientConn) (nodeid : String) :
    TransitionMachine (WorkQueue.Run Callback) (WorkQueue.Label Callback) :=
  WorkQueue.machine nodeid ((clientConnMap nodeid).getD (.create nodeid))

/-- The queues are those of the map, each in a run of its own machine with the
calls of its sender. -/
structure Alive (clientConnMap : MapClientConn) (nodeids : List String)
    (state : ServerLife Callback) : Prop where
  registered :
    ∀ nodeid, (state.workQueues nodeid).isSome = (clientConnMap nodeid).isSome
  components :
    MachineFamily.Components (queueMachine clientConnMap) state.workQueues
  submitted :
    ∀ nodeid run, state.workQueues nodeid = some run →
      run.submitted = AsyncServer.entriesFor nodeid state.dispatched
  fates :
    ∀ nodeid run, state.workQueues nodeid = some run →
      QueueFate nodeids state.destructor nodeid run
  orderly : Orderly nodeids state.destructor

/-! ## Every step keeps the server alive -/

section Fates

variable {source target : WorkQueue.Run Callback}
variable {label : WorkQueue.Label Callback}

/-- The destructor moves at another queue. -/
theorem QueueFate.of_destructor
    {nodeids : List String} {destructor later : Destructor} {nodeid : String}
    (fate : QueueFate nodeids destructor nodeid source)
    (sameAhead :
      nodeid ∈ ahead nodeids later ↔ nodeid ∈ ahead nodeids destructor)
    (sameInside :
      inside later = some nodeid ↔ inside destructor = some nodeid) :
    QueueFate nodeids later nodeid source where
  untouched := fun isAhead => fate.untouched (sameAhead.mp isAhead)
  entered := fun isInside => fate.entered (sameInside.mp isInside)
  passed := fun isPassed outside =>
    fate.passed (mt sameAhead.mpr isPassed) (mt sameInside.mpr outside)
  elsewhere := fun outside => fate.elsewhere (mt sameInside.mpr outside)

/-- A thread other than the destructor keeps the fate of its queue. -/
theorem QueueFate.next
    {nodeids : List String} {destructor : Destructor} {nodeid : String}
    (fate : QueueFate nodeids destructor nodeid source)
    (answered : Answered source) (notLock : label ≠ .destroyLock)
    (notBody : label ≠ .destroyBody)
    (notInside : label = .unlock → inside destructor ≠ some nodeid)
    (stepped : source.next label = some target) :
    QueueFate nodeids destructor nodeid target where
  untouched := fun isAhead =>
    (destroyCalls_next notLock stepped).trans (fate.untouched isAhead)
  entered := by
    intro isInside
    have notUnlock : label ≠ .unlock := fun same => notInside same isInside
    obtain same | ⟨⟨notDestroying, notLeaving⟩, -⟩ :=
      holder_next answered notLock notBody notUnlock stepped
    · rw [same, done_next notBody stepped]
      exact fate.entered isInside
    · obtain destroying | ⟨leaving, -⟩ := fate.entered isInside
      · exact absurd destroying notDestroying
      · exact absurd leaving notLeaving
  passed := by
    intro isPassed outside
    rw [done_next notBody stepped]
    exact fate.passed isPassed outside
  elsewhere := by
    intro outside
    by_cases isUnlock : label = .unlock
    · subst isUnlock
      cases Run.step_of_next stepped
      simp [Run.unlock]
    · obtain same | ⟨-, notDestroying⟩ :=
        holder_next answered notLock notBody isUnlock stepped
      · rw [same]
        exact fate.elsewhere outside
      · exact notDestroying

end Fates

section Alive

variable {clientConnMap : MapClientConn} {nodeids : List String}
variable {state target : ServerLife Callback}

theorem Alive.start
    (keys : Keys clientConnMap nodeids) :
    Alive clientConnMap nodeids (start clientConnMap : ServerLife Callback) where
  registered := by
    intro nodeid
    simp [ServerLife.start]
  components := by
    intro nodeid run found
    obtain ⟨connection, registered, rfl⟩ := Option.map_eq_some_iff.mp found
    refine .initial ?_
    rw [queueMachine, registered]
    rfl
  submitted := by
    intro nodeid run found
    obtain ⟨connection, -, rfl⟩ := Option.map_eq_some_iff.mp found
    rfl
  fates := by
    intro nodeid run found
    obtain ⟨connection, registered, rfl⟩ := Option.map_eq_some_iff.mp found
    have isKey : nodeid ∈ nodeids := by
      rw [keys.registered, registered]
      rfl
    constructor
    · exact fun _ => rfl
    · exact fun isInside => nomatch isInside
    · exact fun isPassed _ => absurd isKey isPassed
    · exact fun _ destroying => nomatch destroying
  orderly := ⟨keys.nodup, fun _ member => member⟩

/-- A step of one queue, with what the server itself changes. -/
theorem Alive.update
    (alive : Alive clientConnMap nodeids state) {nodeid : String}
    {label : WorkQueue.Label Callback} {source run : WorkQueue.Run Callback}
    (found : state.workQueues nodeid = some source)
    (advanced : source.next label = some run)
    (queues :
      target.workQueues =
        Function.update state.workQueues nodeid (some run))
    (submitted :
      run.submitted = AsyncServer.entriesFor nodeid target.dispatched)
    (otherSubmitted :
      ∀ other, other ≠ nodeid →
        AsyncServer.entriesFor other target.dispatched =
          AsyncServer.entriesFor other state.dispatched)
    (fate : QueueFate nodeids target.destructor nodeid run)
    (others :
      ∀ other, other ≠ nodeid →
        (other ∈ ahead nodeids target.destructor ↔
            other ∈ ahead nodeids state.destructor) ∧
          (inside target.destructor = some other ↔
            inside state.destructor = some other))
    (orderly : Orderly nodeids target.destructor) :
    Alive clientConnMap nodeids target where
  registered := by
    intro other
    rw [queues, ← alive.registered]
    by_cases same : other = nodeid
    · rw [same, Function.update_self, found]
      rfl
    · rw [Function.update_of_ne same]
  components := by
    rw [queues]
    exact alive.components.update found advanced
  submitted := by
    intro other present there
    rw [queues] at there
    by_cases same : other = nodeid
    · subst same
      rw [Function.update_self] at there
      cases there
      exact submitted
    · rw [Function.update_of_ne same] at there
      rw [otherSubmitted other same]
      exact alive.submitted other present there
  fates := by
    intro other present there
    rw [queues] at there
    by_cases same : other = nodeid
    · subst same
      rw [Function.update_self] at there
      cases there
      exact fate
    · rw [Function.update_of_ne same] at there
      obtain ⟨sameAhead, sameInside⟩ := others other same
      exact
        (alive.fates other present there).of_destructor sameAhead sameInside
  orderly := orderly

theorem exists_of_stepQueue
    {nodeid : String} {label : WorkQueue.Label Callback}
    (stepped : state.stepQueue nodeid label = some target) :
    ∃ source run, state.workQueues nodeid = some source ∧
      source.next label = some run ∧
      target =
        { state with
          workQueues := Function.update state.workQueues nodeid (some run) } := by
  obtain ⟨queues, moved, rfl⟩ := Option.map_eq_some_iff.mp stepped
  obtain ⟨source, run, found, advanced, rfl⟩ :=
    MachineFamily.stepAt_eq_some moved
  exact ⟨source, run, found, advanced, rfl⟩

/-- A queue goes on without a new call and without the destructor. -/
theorem Alive.stepQueue
    (alive : Alive clientConnMap nodeids state) {nodeid : String}
    {label : WorkQueue.Label Callback}
    (noCall : ∀ entry, label ≠ .addLock entry)
    (notLock : label ≠ .destroyLock) (notBody : label ≠ .destroyBody)
    (notInside : label = .unlock → inside state.destructor ≠ some nodeid)
    (stepped : state.stepQueue nodeid label = some target) :
    Alive clientConnMap nodeids target := by
  obtain ⟨source, run, found, advanced, rfl⟩ := exists_of_stepQueue stepped
  have reachable := alive.components nodeid source found
  refine
    alive.update found advanced rfl ?_ (fun _ _ => rfl) ?_
      (fun _ _ => ⟨.rfl, .rfl⟩) alive.orderly
  · rw [submitted_next noCall advanced]
    exact alive.submitted nodeid source found
  · exact
      (alive.fates nodeid source found).next
        (Answered.of_reachable reachable) notLock notBody notInside advanced

/-- A request enters the monitor of its sender's queue. -/
theorem Alive.sendAsync
    (alive : Alive clientConnMap nodeids state)
    {request : SendRequest Callback} {arriving : List (SendRequest Callback)}
    (stepped :
      { state with
        arriving := arriving
        dispatched := state.dispatched ++ [request] }.stepQueue request.nodeid
          (.addLock request.entry) = some target) :
    Alive clientConnMap nodeids target := by
  obtain ⟨source, run, found, advanced, rfl⟩ := exists_of_stepQueue stepped
  have reachable := alive.components request.nodeid source found
  refine
    alive.update found advanced rfl ?_ ?_ ?_ (fun _ _ => ⟨.rfl, .rfl⟩)
      alive.orderly
  · cases Run.step_of_next advanced
    rw [AsyncServer.entriesFor_append, AsyncServer.entriesFor_self]
    exact
      congrArg (· ++ [request.entry])
        (alive.submitted request.nodeid source found)
  · intro other different
    rw [AsyncServer.entriesFor_append, AsyncServer.entriesFor_of_ne different,
      List.append_nil]
  · exact
      (alive.fates request.nodeid source found).next
        (Answered.of_reachable reachable) (by simp) (by simp) (by simp)
        advanced

/-- A request without a work queue. -/
theorem Alive.unregistered
    (alive : Alive clientConnMap nodeids state)
    {request : SendRequest Callback} (arriving : List (SendRequest Callback))
    (absent : state.workQueues request.nodeid = none) :
    Alive clientConnMap nodeids
      { state with
        arriving := arriving
        dispatched := state.dispatched ++ [request] } where
  registered := alive.registered
  components := alive.components
  submitted := by
    intro nodeid run found
    have different : nodeid ≠ request.nodeid := by
      rintro rfl
      rw [absent] at found
      cases found
    rw [AsyncServer.entriesFor_append, AsyncServer.entriesFor_of_ne different,
      List.append_nil]
    exact alive.submitted nodeid run found
  fates := alive.fates
  orderly := alive.orderly

/-- A request arrives. -/
theorem Alive.arriving
    (alive : Alive clientConnMap nodeids state)
    (arriving : List (SendRequest Callback)) :
    Alive clientConnMap nodeids { state with arriving := arriving } where
  registered := alive.registered
  components := alive.components
  submitted := alive.submitted
  fates := alive.fates
  orderly := alive.orderly

/-- The destructor moves between the queues. -/
theorem Alive.destructor
    (alive : Alive clientConnMap nodeids state) {later : Destructor}
    (sameAhead : ahead nodeids later = ahead nodeids state.destructor)
    (sameInside : inside later = inside state.destructor) :
    Alive clientConnMap nodeids { state with destructor := later } where
  registered := alive.registered
  components := alive.components
  submitted := alive.submitted
  fates := by
    intro nodeid run found
    exact
      (alive.fates nodeid run found).of_destructor
        (by dsimp only; rw [sameAhead]) (by dsimp only; rw [sameInside])
  orderly := by
    have orderly := alive.orderly
    exact
      ⟨by rw [sameAhead, sameInside]; exact orderly.nodup,
        by rw [sameAhead, sameInside]; exact orderly.keys⟩

/-- The destructor enters the monitor of the next queue. -/
theorem Alive.destroyLock
    (alive : Alive clientConnMap nodeids state) {nodeid : String}
    {rest : List String}
    (walking : state.destructor = .walking (nodeid :: rest))
    (stepped :
      { state with destructor := .destroying nodeid rest }.stepQueue nodeid
          .destroyLock = some target) :
    Alive clientConnMap nodeids target := by
  obtain ⟨source, run, found, advanced, rfl⟩ := exists_of_stepQueue stepped
  have orderly := alive.orderly
  rw [walking] at orderly
  have notAhead : nodeid ∉ rest := (List.nodup_cons.mp orderly.nodup).1
  refine
    alive.update found advanced rfl ?_ (fun _ _ => rfl) ?_ ?_
      ⟨orderly.nodup, orderly.keys⟩
  · rw [submitted_next (by simp) advanced]
    exact alive.submitted nodeid source found
  · cases Run.step_of_next advanced
    constructor
    · exact fun isAhead => absurd isAhead notAhead
    · exact fun _ => .inl rfl
    · exact fun _ outside => absurd rfl outside
    · exact fun outside => absurd rfl outside
  · intro other different
    rw [walking]
    simp [ahead, inside, different, Ne.symm different]

theorem Alive.destroyBody
    (alive : Alive clientConnMap nodeids state) {nodeid : String}
    (stepped : state.stepQueue nodeid .destroyBody = some target) :
    Alive clientConnMap nodeids target := by
  obtain ⟨source, run, found, advanced, rfl⟩ := exists_of_stepQueue stepped
  refine
    alive.update found advanced rfl ?_ (fun _ _ => rfl) ?_
      (fun _ _ => ⟨.rfl, .rfl⟩) alive.orderly
  · rw [submitted_next (by simp) advanced]
    exact alive.submitted nodeid source found
  · have fate := alive.fates nodeid source found
    cases Run.step_of_next advanced
    constructor
    · exact fate.untouched
    · exact fun _ => .inr ⟨rfl, rfl⟩
    · exact fun _ _ => rfl
    · exact fun _ => by simp

theorem Alive.destroyUnlock
    (alive : Alive clientConnMap nodeids state) {nodeid : String}
    {rest : List String}
    (destroying : state.destructor = .destroying nodeid rest)
    (stepped :
      { state with destructor := .walking rest }.stepQueue nodeid .unlock =
        some target) :
    Alive clientConnMap nodeids target := by
  obtain ⟨source, run, found, advanced, rfl⟩ := exists_of_stepQueue stepped
  have orderly := alive.orderly
  rw [destroying] at orderly
  have notAhead : nodeid ∉ rest := (List.nodup_cons.mp orderly.nodup).1
  refine
    alive.update found advanced rfl ?_ (fun _ _ => rfl) ?_ ?_
      ⟨(List.nodup_cons.mp orderly.nodup).2,
        fun other member => orderly.keys other (List.mem_cons_of_mem _ member)⟩
  · rw [submitted_next (by simp) advanced]
    exact alive.submitted nodeid source found
  · have fate := alive.fates nodeid source found
    rw [destroying] at fate
    cases Run.step_of_next advanced with
    | unlock leaving =>
        have done : source.workQueue.done = true := by
          obtain destroying | ⟨-, done⟩ := fate.entered rfl
          · rw [leaving] at destroying
            cases destroying
          · exact done
        constructor
        · exact fun isAhead => absurd isAhead notAhead
        · exact fun isInside => nomatch isInside
        · exact fun _ _ => done
        · exact fun _ => by simp [Run.unlock]
  · intro other different
    rw [destroying]
    simp [ahead, inside, Ne.symm different]

theorem Alive.next
    (alive : Alive clientConnMap nodeids state) {label : Label Callback}
    (stepped : state.next nodeids label = some target) :
    Alive clientConnMap nodeids target := by
  cases label with
  | arrive request =>
      simp only [ServerLife.next] at stepped
      split at stepped
      · cases stepped
        exact alive.arriving _
      · cases stepped
  | sendAsync index =>
      simp only [ServerLife.next] at stepped
      split at stepped
      · split at stepped
        · exact alive.sendAsync stepped
        · next absent =>
            cases stepped
            exact alive.unregistered _ absent
      · cases stepped
  | addBody nodeid =>
      exact
        alive.stepQueue (by simp) (by simp) (by simp) (by simp) stepped
  | recv nodeid msgid =>
      exact
        alive.stepQueue (by simp) (by simp) (by simp) (by simp) stepped
  | runThread nodeid step =>
      cases step <;>
        exact
          alive.stepQueue (by simp [AsyncServer.RunStep.label])
            (by simp [AsyncServer.RunStep.label])
            (by simp [AsyncServer.RunStep.label])
            (by simp [AsyncServer.RunStep.label]) stepped
  | unlock nodeid =>
      simp only [ServerLife.next] at stepped
      have outside : inside state.destructor ≠ some nodeid := by
        intro isInside
        cases current : state.destructor with
        | destroying other rest =>
            rw [current] at stepped isInside
            cases isInside
            simp at stepped
        | notCalled | walking _ | closing | closed =>
            rw [current] at isInside
            cases isInside
      have moved : state.stepQueue nodeid .unlock = some target := by
        split at stepped
        · split at stepped
          · cases stepped
          · exact stepped
        all_goals exact stepped
      exact
        alive.stepQueue (by simp) (by simp) (by simp) (fun _ => outside) moved
  | destructor =>
      simp only [ServerLife.next] at stepped
      split at stepped
      · next notCalled =>
          cases stepped
          exact alive.destructor (by rw [notCalled]; rfl) (by rw [notCalled]; rfl)
      all_goals cases stepped
  | destroyLock =>
      simp only [ServerLife.next] at stepped
      split at stepped
      · next walking => exact alive.destroyLock walking stepped
      all_goals cases stepped
  | destroyBody =>
      simp only [ServerLife.next] at stepped
      split at stepped
      · exact alive.destroyBody stepped
      all_goals cases stepped
  | destroyUnlock =>
      simp only [ServerLife.next] at stepped
      split at stepped
      · next destroying => exact alive.destroyUnlock destroying stepped
      all_goals cases stepped
  | close =>
      simp only [ServerLife.next] at stepped
      split at stepped
      · next walked =>
          cases stepped
          exact alive.destructor (by rw [walked]; rfl) (by rw [walked]; rfl)
      all_goals cases stepped
  | closeReturn =>
      simp only [ServerLife.next] at stepped
      split at stepped
      · next closing =>
          split at stepped
          · cases stepped
            exact
              alive.destructor (by rw [closing]; rfl) (by rw [closing]; rfl)
          · cases stepped
      all_goals cases stepped

theorem Alive.of_reachable
    (keys : Keys clientConnMap nodeids)
    (reachable : (machine clientConnMap nodeids).Reachable state) :
    Alive clientConnMap nodeids state := by
  refine
    reachable.invariant ?_ (fun _ _ _ alive stepped => alive.next stepped)
  intro initial isStart
  subst isStart
  exact .start keys

/-- What a step of the server is for one queue. -/
theorem queue_of_next
    {label : Label Callback} (stepped : state.next nodeids label = some target)
    {nodeid : String} {run : WorkQueue.Run Callback}
    (found : state.workQueues nodeid = some run) :
    target.workQueues nodeid = some run ∨
      ∃ other later, run.next other = some later ∧
        target.workQueues nodeid = some later := by
  have moves {begun : ServerLife Callback} {key : String}
      {other : WorkQueue.Label Callback}
      (moved : begun.stepQueue key other = some target)
      (same : begun.workQueues = state.workQueues) :
      target.workQueues nodeid = some run ∨
        ∃ other later, run.next other = some later ∧
          target.workQueues nodeid = some later := by
    obtain ⟨source, later, there, advanced, rfl⟩ := exists_of_stepQueue moved
    rw [same] at there
    dsimp only
    rw [same]
    by_cases here : nodeid = key
    · subst here
      rw [found] at there
      cases there
      exact .inr ⟨other, later, advanced, Function.update_self ..⟩
    · rw [Function.update_of_ne here]
      exact .inl found
  cases label with
  | arrive request =>
      simp only [ServerLife.next] at stepped
      split at stepped <;> cases stepped
      exact .inl found
  | sendAsync index =>
      simp only [ServerLife.next] at stepped
      split at stepped
      · split at stepped
        · exact moves stepped rfl
        · cases stepped
          exact .inl found
      · cases stepped
  | addBody _ | recv _ _ | runThread _ _ => exact moves stepped rfl
  | unlock key =>
      simp only [ServerLife.next] at stepped
      split at stepped
      · split at stepped
        · cases stepped
        · exact moves stepped rfl
      all_goals exact moves stepped rfl
  | destructor | close =>
      simp only [ServerLife.next] at stepped
      split at stepped <;> cases stepped
      exact .inl found
  | destroyLock | destroyBody | destroyUnlock =>
      simp only [ServerLife.next] at stepped
      split at stepped
      · exact moves stepped rfl
      all_goals cases stepped
  | closeReturn =>
      simp only [ServerLife.next] at stepped
      split at stepped
      · split at stepped <;> cases stepped
        exact .inl found
      all_goals cases stepped

/-- A destroyed queue writes nothing in any run that follows. -/
theorem written_of_run
    {labels : List (Label Callback)} {nodeid : String}
    {run : WorkQueue.Run Callback}
    (found : state.workQueues nodeid = some run)
    (done : run.workQueue.done = true)
    (executed :
      (machine clientConnMap nodeids).run state labels = some target) :
    ∃ later, target.workQueues nodeid = some later ∧
      later.workQueue.done = true ∧ later.written = run.written := by
  have preserved :
      ∀ (source : ServerLife Callback) (label : Label Callback)
        (after : ServerLife Callback), True →
          (∃ later, source.workQueues nodeid = some later ∧
            later.workQueue.done = true ∧ later.written = run.written) →
          (machine clientConnMap nodeids).next source label = some after →
            ∃ later, after.workQueues nodeid = some later ∧
              later.workQueue.done = true ∧ later.written = run.written := by
    intro source label after _ before stepped
    obtain ⟨current, here, isDone, written⟩ := before
    obtain same | ⟨other, later, advanced, there⟩ :=
      queue_of_next stepped here
    · exact ⟨current, same, isDone, written⟩
    · obtain ⟨-, sameWritten, stillDone⟩ := logs_next_of_done isDone advanced
      exact ⟨later, there, stillDone, sameWritten.trans written⟩
  exact
    TransitionMachine.holds_of_run (fun _ => True) preserved
      (fun _ _ => trivial) ⟨run, found, done, rfl⟩ executed

/-- The asynchronous server in every interleaving of its dispatch threads, its
work queues, receivers and its destructor.  The requests of a registered sender
are split, in the order in which they entered the monitor: the first ones are
acknowledged and are written in this order, the later ones are answered with an
exception.  The connection has been given what was written, behind what it held
at first.  A queue that the destructor has not reached has refused nothing and
has lost nothing; one that it has passed gives its connection nothing any more.
A thread sleeps only over an empty queue that is not destroyed. -/
theorem server_life
    (keys : Keys clientConnMap nodeids)
    (reachable : (machine clientConnMap nodeids).Reachable state)
    {nodeid : String} {run : WorkQueue.Run Callback}
    (found : state.workQueues nodeid = some run) :
    (∃ accepted refused,
      AsyncServer.entriesFor nodeid state.dispatched =
          accepted ++ refused ++ run.holder.waiting ∧
        run.completions =
          accepted.map (fun entry => .iceResponse entry.cb 0) ++
            refused.map (fun entry => .sendDataException entry.cb) ∧
        run.written <+: accepted.map CallbackEntry.message ∧
        (nodeid ∈ ahead nodeids state.destructor →
          refused = [] ∧
            accepted.map CallbackEntry.message =
              run.written ++ run.pending)) ∧
    (∀ msgid,
      run.given msgid =
        ((clientConnMap nodeid).getD (.create nodeid)).queue msgid ++
          messagesAt run.written msgid) ∧
    (nodeid ∉ ahead nodeids state.destructor →
      inside state.destructor ≠ some nodeid →
        ∀ labels target,
          (machine clientConnMap nodeids).run state labels = some target →
            ∃ later, target.workQueues nodeid = some later ∧
              later.written = run.written ∧
              ∀ msgid, later.given msgid = run.given msgid) ∧
    (run.holder = .free → run.thread = .blocked →
      run.pending = [] ∧ run.workQueue.done = false) := by
  have alive := Alive.of_reachable keys reachable
  have ran := alive.components nodeid run found
  have fate := alive.fates nodeid run found
  have ordered := Ordered.of_reachable ran
  obtain ⟨accepted, refused, divided⟩ := exists_divided ran
  have stored := Stored.of_reachable ran
  refine
    ⟨⟨accepted, refused, ?_, divided.completions, ?_, ?_⟩, stored, ?_, ?_⟩
  · rw [← alive.submitted nodeid run found]
    exact divided.submitted
  · rw [← divided.accepted]
    exact ordered.writtenFirst
  · intro isAhead
    have live := (ordered.notDestroyed (fate.untouched isAhead)).1
    refine ⟨divided.refused live, ?_⟩
    rw [← divided.accepted]
    exact ordered.split live
  · intro isPassed outside labels target executed
    obtain ⟨later, there, -, sameWritten⟩ :=
      written_of_run found (fate.passed isPassed outside) executed
    have laterAlive := Alive.of_reachable keys (reachable.run executed)
    have laterStored :=
      Stored.of_reachable (laterAlive.components nodeid later there)
    refine ⟨later, there, sameWritten, fun msgid => ?_⟩
    rw [laterStored msgid, stored msgid, sameWritten]
  · intro free blocked
    obtain ⟨empty, live⟩ :=
      (attended_of_reachable ran).idle blocked (by simp [free])
    exact ⟨by rw [Run.pending, empty]; rfl, live⟩

end Alive

theorem keys_onlyP1 : Keys onlyP1 ["p1"] where
  nodup := by simp
  registered := by
    intro nodeid
    by_cases same : nodeid = "p1" <;> simp [onlyP1, same]

/-- A call before the destruction of its queue, whose thread has not started
yet, and one after it. -/
def lateCallRun : List (Label Nat) :=
  [.arrive ⟨0, "p1", "a", [1]⟩, .sendAsync 0, .addBody "p1", .unlock "p1",
    .arrive ⟨1, "p1", "b", [2]⟩, .destructor, .destroyLock, .destroyBody,
    .destroyUnlock, .sendAsync 0, .addBody "p1", .unlock "p1"]

theorem exists_lateCall :
    ∃ (state : ServerLife Nat) (run : WorkQueue.Run Nat),
      (machine onlyP1 ["p1"]).run (start onlyP1) lateCallRun = some state ∧
        state.workQueues "p1" = some run ∧
        state.destructor = .walking [] ∧
        run.completions = [.iceResponse 0 0, .sendDataException 1] ∧
        run.given "a" = [] :=
  ⟨_, _, rfl, rfl, rfl, rfl, rfl⟩

/-- The acknowledged message of the first call is lost. -/
theorem server_life_late :
    ∃ (state : ServerLife Nat) (run : WorkQueue.Run Nat),
      (machine onlyP1 ["p1"]).Reachable state ∧
        state.workQueues "p1" = some run ∧
        run.completions = [.iceResponse 0 0, .sendDataException 1] ∧
        ∀ labels target,
          (machine onlyP1 ["p1"]).run state labels = some target →
            ∃ later, target.workQueues "p1" = some later ∧
              later.given "a" = [] := by
  obtain ⟨state, run, executed, found, walked, completions, nothing⟩ :=
    exists_lateCall
  have begun :
      (machine onlyP1 ["p1"]).Reachable (start onlyP1 : ServerLife Nat) :=
    .initial rfl
  have reachable := begun.run executed
  have passed := (server_life keys_onlyP1 reachable found).2.2.1
  rw [walked] at passed
  refine ⟨state, run, reachable, found, completions, ?_⟩
  intro labels target executed
  obtain ⟨later, there, -, sameGiven⟩ :=
    passed (by simp [ahead]) (by simp [inside]) labels target executed
  exact ⟨later, there, (sameGiven "a").trans nothing⟩

end ServerLife

end ChannelSdk
