import ChannelSdk.ServerRequests

/-!
# When the destructor of the asynchronous server comes to its end

`~AsyncServer` takes the monitor of every work queue.  A call inside a monitor
leaves it, a thread inside its loop waits or ends, and the thread of a
destroyed queue is not left asleep; so the destructor gets every monitor, and
every thread ends.

`close()` then waits in `Communicator::destroy` for the answers.  Those of the
registered senders are all given.  `send_async` gives none to another sender,
so that one call of such a sender keeps the destructor waiting for good.
-/

namespace ChannelSdk

open CheckedMemory WorkQueue

universe u

namespace ServerLife

variable {Callback : Type u}

section Work

variable {run target : WorkQueue.Run Callback}

/-- What the holder of a monitor still has to do, and the thread it wakes. -/
def holderWork : WorkQueue.Holder Callback → Nat
  | .free | .runThread => 0
  | .adding _ => 15
  | .destroying => 8
  | .leaving => 7

def runWork (run : WorkQueue.Run Callback) : Nat :=
  AsyncServer.threadWork run + holderWork run.holder

theorem runWork_addBody
    {entry : CallbackEntry Callback} (held : run.holder = .adding entry) :
    runWork (run.addEntry entry) < runWork run := by
  have bounded :
      AsyncServer.threadWork (run.addEntry entry) ≤
        AsyncServer.threadWork run + 3 := by
    cases alive : run.workQueue.done with
    | false => exact AsyncServer.threadWork_addEntry alive entry
    | true =>
        have same :
            AsyncServer.threadWork (run.addEntry entry) =
              AsyncServer.threadWork run := by
          simp only [AsyncServer.threadWork, Run.addEntry,
            add_of_done alive entry]
        omega
  have after : (run.addEntry entry).holder = .leaving := rfl
  simp only [runWork, held, after, holderWork]
  omega

theorem runWork_unlock
    (held : run.holder = .leaving) : runWork run.unlock < runWork run := by
  have bounded := AsyncServer.threadWork_unlock run
  have after : run.unlock.holder = .free := rfl
  simp only [runWork, held, after, holderWork]
  omega

theorem runWork_destroyLock
    (free : run.holder = .free) :
    runWork { run with
      workQueue := run.workQueue.lock
      holder := .destroying
      destroyCalls := run.destroyCalls + 1 } = runWork run + 8 := by
  simp only [runWork, AsyncServer.threadWork, lock_callbacks, free, holderWork]
  rfl

theorem runWork_destroyBody
    (held : run.holder = .destroying) :
    runWork { run with
      workQueue := run.workQueue.destroy, holder := .leaving } <
        runWork run := by
  simp only [runWork, held, holderWork, AsyncServer.threadWork, destroy,
    notify, List.length_nil]
  cases run.thread with
  | secondHalf =>
      dsimp only
      by_cases empty : run.workQueue.callbacks.length = 0
      · rw [if_pos trivial, if_pos empty]
        omega
      · rw [if_pos trivial, if_neg empty]
        omega
  | starting | loopTest | blocked | woken | finished =>
      dsimp only
      omega

/-- The second half of an iteration takes an entry off, if there is one. -/
theorem threadWork_deliver (answered : Answered run) :
    3 * run.workQueue.deliver.callbacks.length + 2 <
      3 * run.workQueue.callbacks.length +
        if run.workQueue.callbacks.length = 0 then 3 else 1 := by
  cases pending : run.workQueue.callbacks with
  | nil =>
      have nothing : run.workQueue.nextEntry = none := by
        rw [nextEntry, pending]
        split <;> rfl
      simp [deliver, nothing, pending]
  | cons entry rest =>
      have live : run.workQueue.done = false := by
        cases alive : run.workQueue.done with
        | false => rfl
        | true =>
            rw [answered.cleared alive] at pending
            cases pending
      have first : run.workQueue.nextEntry = some entry := by
        rw [nextEntry, if_pos live, pending]
        rfl
      rw [deliver, first]
      dsimp only
      rw [pending, List.tail_cons, List.length_cons,
        if_neg (Nat.succ_ne_zero _)]
      omega

/-- The thread of a queue goes on when it has the monitor, or to its end when
the queue is destroyed and nobody is inside. -/
theorem thread_moves
    (answered : Answered run) (attended : Attended run)
    (holding :
      run.holder = .runThread →
        run.thread = .loopTest ∨ run.thread = .secondHalf)
    (resting : run.holder.Resting) (unfinished : run.thread ≠ .finished)
    (busy : run.holder = .runThread ∨ run.workQueue.done = true) :
    ∃ (step : AsyncServer.RunStep) (target : WorkQueue.Run Callback),
      step ≠ .spuriousWakeup ∧ run.next step.label = some target ∧
        runWork target < runWork run := by
  have free :
      run.thread ≠ .loopTest → run.thread ≠ .secondHalf →
        run.holder = .free := by
    intro notTest notSecondHalf
    obtain free | inThread := resting
    · exact free
    · obtain atTest | atSecondHalf := holding inThread
      · exact absurd atTest notTest
      · exact absurd atSecondHalf notSecondHalf
  cases place : run.thread with
  | starting =>
      have isFree := free (by simp [place]) (by simp [place])
      have advanced :
          run.next .runLock =
            some { run with
              workQueue := run.workQueue.lock
              holder := .runThread
              thread := .loopTest } := by
        simp only [Run.next, place, isFree]
      refine ⟨.lock, _, by simp, advanced, ?_⟩
      simp [runWork, AsyncServer.threadWork, place, isFree, holderWork]
  | woken =>
      have isFree := free (by simp [place]) (by simp [place])
      have advanced :
          run.next .runRelock =
            some { run with
              workQueue := run.workQueue.lock
              holder := .runThread
              thread := .secondHalf } := by
        simp only [Run.next, place, isFree]
      refine ⟨.relock, _, by simp, advanced, ?_⟩
      by_cases empty : run.workQueue.callbacks.length = 0
      · simp [runWork, AsyncServer.threadWork, place, isFree, holderWork,
          empty]
      · simp [runWork, AsyncServer.threadWork, place, isFree, holderWork,
          empty]
  | loopTest =>
      have held := answered.exclusive (.inl place)
      have advanced : run.next .runTest = some run.test := if_pos place
      refine ⟨.test, run.test, by simp, advanced, ?_⟩
      unfold Run.test
      split
      · simp [runWork, AsyncServer.threadWork, place, held, holderWork]
      · split
        · simp [runWork, AsyncServer.threadWork, place, held, holderWork]
        · next nonempty =>
            simp [runWork, AsyncServer.threadWork, place, nonempty]
  | secondHalf =>
      refine ⟨.secondHalf, _, by simp, if_pos place, ?_⟩
      simp only [runWork, AsyncServer.threadWork, place]
      have fewer := threadWork_deliver answered
      omega
  | blocked =>
      have isFree := free (by simp [place]) (by simp [place])
      have idle := attended.idle place (by simp [isFree])
      obtain inThread | done := busy
      · rw [isFree] at inThread
        cases inThread
      · rw [idle.2] at done
        cases done
  | finished => exact absurd place unfinished

end Work

section Ends

variable {clientConnMap : MapClientConn} {nodeids : List String}
variable {state : ServerLife Callback}

def queueWork : Option (WorkQueue.Run Callback) → Nat
  | some run => runWork run
  | none => 0

/-- What the destructor still has to do itself. -/
def destructorWork (nodeids : List String) : Destructor → Nat
  | .notCalled => 10 * nodeids.length + 3
  | .walking rest | .destroying _ rest => 10 * rest.length + 2
  | .closing => 1
  | .closed => 0

def work (nodeids : List String) (state : ServerLife Callback) : Nat :=
  16 * state.arriving.length + destructorWork nodeids state.destructor +
    ∑ nodeid ∈ nodeids.toFinset, queueWork (state.workQueues nodeid)

/-- Every thread has ended, and the server is closed or waits for the answer
to a call that nobody answers. -/
structure Ended (clientConnMap : MapClientConn) (nodeids : List String)
    (state : ServerLife Callback) : Prop where
  noneArriving : state.arriving = []
  threads :
    ∀ nodeid ∈ nodeids, ∀ run, state.workQueues nodeid = some run →
      run.holder = .free ∧ run.thread = .finished
  closes :
    state.destructor = .closed ∨
      state.destructor = .closing ∧
        ∃ request ∈ state.dispatched, clientConnMap request.nodeid = none

/-- A step of a queue takes the place of its work in that of the server. -/
theorem exists_stepQueue
    {nodeid : String} (isKey : nodeid ∈ nodeids)
    {label : WorkQueue.Label Callback} {source run : WorkQueue.Run Callback}
    (found : state.workQueues nodeid = some source)
    (advanced : source.next label = some run) :
    ∃ target, state.stepQueue nodeid label = some target ∧
      work nodeids target + runWork source =
        work nodeids state + runWork run := by
  have moved :
      MachineFamily.stepAt WorkQueue.Run.next state.workQueues nodeid label =
        some (Function.update state.workQueues nodeid (some run)) :=
    MachineFamily.stepAt_of_next found advanced
  refine ⟨_, congrArg (Option.map _) moved, ?_⟩
  have exchanged :=
    MachineFamily.sum_update found queueWork (List.mem_toFinset.mpr isKey) run
  simp only [work, queueWork] at exchanged ⊢
  omega

theorem inside_eq_some {destructor : Destructor} {nodeid : String} :
    inside destructor = some nodeid ↔
      ∃ rest, destructor = .destroying nodeid rest := by
  cases destructor <;> simp [inside]

/-- A thread inside a monitor goes on. -/
theorem Alive.holder_moves
    (alive : Alive clientConnMap nodeids state) {nodeid : String}
    (isKey : nodeid ∈ nodeids) {run : WorkQueue.Run Callback}
    (found : state.workQueues nodeid = some run)
    (inside : ¬ run.holder.Resting) :
    ∃ label target, Label.tearsDown label ∧
      state.next nodeids label = some target ∧
        work nodeids target < work nodeids state := by
  have fate := alive.fates nodeid run found
  cases held : run.holder with
  | free => exact absurd (.inl held) inside
  | runThread => exact absurd (.inr held) inside
  | adding entry =>
      have advanced : run.next .addBody = some (run.addEntry entry) := by
        simp only [Run.next, held]
      obtain ⟨target, stepped, exchanged⟩ :=
        exists_stepQueue isKey found advanced
      have lighter := runWork_addBody held
      exact ⟨.addBody nodeid, target, trivial, stepped, by omega⟩
  | destroying =>
      have isInside : ServerLife.inside state.destructor = some nodeid := by
        by_contra outside
        exact fate.elsewhere outside held
      obtain ⟨rest, current⟩ := inside_eq_some.mp isInside
      have advanced :
          run.next .destroyBody =
            some { run with
              workQueue := run.workQueue.destroy, holder := .leaving } := by
        simp only [Run.next, held]
      obtain ⟨target, stepped, exchanged⟩ :=
        exists_stepQueue isKey found advanced
      have lighter := runWork_destroyBody held
      refine ⟨.destroyBody, target, trivial, ?_, by omega⟩
      simp only [ServerLife.next, current]
      exact stepped
  | leaving =>
      have advanced : run.next .unlock = some run.unlock := by
        simp only [Run.next, held]
      have lighter := runWork_unlock held
      by_cases isInside : ServerLife.inside state.destructor = some nodeid
      · obtain ⟨rest, current⟩ := inside_eq_some.mp isInside
        let left := { state with destructor := Destructor.walking rest }
        have leftFound : left.workQueues nodeid = some run := found
        obtain ⟨target, stepped, exchanged⟩ :=
          exists_stepQueue isKey leftFound advanced
        refine ⟨.destroyUnlock, target, trivial, ?_, ?_⟩
        · simp only [ServerLife.next, current]
          exact stepped
        · simp only [work, left, current, destructorWork] at exchanged ⊢
          omega
      · obtain ⟨target, stepped, exchanged⟩ :=
          exists_stepQueue isKey found advanced
        refine ⟨.unlock nodeid, target, trivial, ?_, by omega⟩
        simp only [ServerLife.next]
        split
        · next current rest destroying =>
            have different : nodeid ≠ current := by
              rintro rfl
              exact isInside (inside_eq_some.mpr ⟨rest, destroying⟩)
            rw [if_neg different]
            exact stepped
        all_goals exact stepped

/-- The thread of a queue goes on. -/
theorem Alive.thread_moves
    (alive : Alive clientConnMap nodeids state) {nodeid : String}
    (isKey : nodeid ∈ nodeids) {run : WorkQueue.Run Callback}
    (found : state.workQueues nodeid = some run)
    (resting : run.holder.Resting) (unfinished : run.thread ≠ .finished)
    (busy : run.holder = .runThread ∨ run.workQueue.done = true) :
    ∃ label target, Label.tearsDown label ∧
      state.next nodeids label = some target ∧
        work nodeids target < work nodeids state := by
  have reachable := alive.components nodeid run found
  obtain ⟨step, later, notSpurious, advanced, lighter⟩ :=
    ServerLife.thread_moves (Answered.of_reachable reachable)
      (attended_of_reachable reachable) (holding_of_reachable reachable)
      resting unfinished busy
  obtain ⟨target, stepped, exchanged⟩ := exists_stepQueue isKey found advanced
  refine ⟨.runThread nodeid step, target, ?_, stepped, by omega⟩
  cases step with
  | spuriousWakeup => exact absurd rfl notSpurious
  | lock | test | secondHalf | relock => trivial

/-- The destructor goes on between the queues, when nobody is inside one. -/
theorem Alive.destructor_moves
    (alive : Alive clientConnMap nodeids state)
    (keys : Keys clientConnMap nodeids)
    (free :
      ∀ nodeid ∈ nodeids, ∀ run, state.workQueues nodeid = some run →
        run.holder = .free)
    (serving : state.destructor.Serving) :
    ∃ label target, Label.tearsDown label ∧
      state.next nodeids label = some target ∧
        work nodeids target < work nodeids state := by
  have queue {nodeid : String} (isKey : nodeid ∈ nodeids) :
      ∃ run, state.workQueues nodeid = some run ∧ run.holder = .free := by
    have present : (state.workQueues nodeid).isSome := by
      rw [alive.registered]
      exact (keys.registered nodeid).mp isKey
    obtain ⟨run, found⟩ := Option.isSome_iff_exists.mp present
    exact ⟨run, found, free nodeid isKey run found⟩
  have orderly := alive.orderly
  cases current : state.destructor with
  | notCalled =>
      refine ⟨.destructor, _, trivial, by rw [ServerLife.next, current], ?_⟩
      simp only [work, current, destructorWork]
      omega
  | closing | closed =>
      rw [current] at serving
      exact serving.elim
  | destroying nodeid rest =>
      rw [current] at orderly
      obtain ⟨run, found, isFree⟩ := queue (orderly.keys nodeid (by simp [inside]))
      have fate := alive.fates nodeid run found
      rw [current] at fate
      obtain destroying | ⟨leaving, -⟩ := fate.entered rfl
      · rw [isFree] at destroying
        cases destroying
      · rw [isFree] at leaving
        cases leaving
  | walking rest =>
      cases rest with
      | nil =>
          refine ⟨.close, _, trivial, by rw [ServerLife.next, current], ?_⟩
          simp only [work, current, destructorWork]
          omega
      | cons nodeid rest =>
          rw [current] at orderly
          have isKey := orderly.keys nodeid (by simp [inside, ahead])
          obtain ⟨run, found, isFree⟩ := queue isKey
          have advanced :
              run.next .destroyLock =
                some { run with
                  workQueue := run.workQueue.lock
                  holder := .destroying
                  destroyCalls := run.destroyCalls + 1 } := by
            simp only [Run.next, isFree]
          let entered :=
            { state with destructor := Destructor.destroying nodeid rest }
          have enteredFound : entered.workQueues nodeid = some run := found
          obtain ⟨target, stepped, exchanged⟩ :=
            exists_stepQueue isKey enteredFound advanced
          refine ⟨.destroyLock, target, trivial, ?_, ?_⟩
          · simp only [ServerLife.next, current]
            exact stepped
          · have heavier := runWork_destroyLock isFree
            simp only [work, entered, current, destructorWork,
              List.length_cons] at exchanged ⊢
            omega

theorem runWork_addLock
    {run : WorkQueue.Run Callback} (free : run.holder = .free)
    (entry : CallbackEntry Callback) :
    runWork { run with
      workQueue := run.workQueue.lock
      holder := .adding entry
      submitted := run.submitted ++ [entry] } = runWork run + 15 := by
  simp only [runWork, AsyncServer.threadWork, lock_callbacks, free, holderWork]
  rfl

/-- A dispatch thread passes its request on, when nobody is inside a queue. -/
theorem arriving_moves
    (free :
      ∀ nodeid run, state.workQueues nodeid = some run → run.holder = .free)
    (isKey :
      ∀ nodeid, (state.workQueues nodeid).isSome → nodeid ∈ nodeids)
    (arrived : state.arriving ≠ []) :
    ∃ label target, Label.tearsDown label ∧
      state.next nodeids label = some target ∧
        work nodeids target < work nodeids state := by
  obtain ⟨request, rest, arriving⟩ := List.exists_cons_of_ne_nil arrived
  have isAt : state.arriving[0]? = some request := by rw [arriving]; rfl
  have left : (state.arriving.eraseIdx 0).length + 1 = state.arriving.length := by
    rw [arriving]
    rfl
  let begun :=
    { state with
      arriving := state.arriving.eraseIdx 0
      dispatched := state.dispatched ++ [request] }
  cases found : state.workQueues request.nodeid with
  | none =>
      refine ⟨.sendAsync 0, begun, trivial, ?_, ?_⟩
      · simp only [ServerLife.next, isAt, found, begun]
      · simp only [work, begun]
        omega
  | some run =>
      have isFree := free request.nodeid run found
      have advanced :
          run.next (.addLock request.entry) =
            some { run with
              workQueue := run.workQueue.lock
              holder := .adding request.entry
              submitted := run.submitted ++ [request.entry] } := by
        simp only [Run.next, isFree]
      have begunFound : begun.workQueues request.nodeid = some run := found
      obtain ⟨target, stepped, exchanged⟩ :=
        exists_stepQueue (isKey _ (by rw [found]; rfl)) begunFound advanced
      refine ⟨.sendAsync 0, target, trivial, ?_, ?_⟩
      · simp only [ServerLife.next, isAt, found]
        exact stepped
      · have heavier := runWork_addLock isFree request.entry
        simp only [work, begun] at exchanged ⊢
        omega

/-- With every queue at rest and every sender registered, all calls are
answered. -/
theorem Alive.drained
    (alive : Alive clientConnMap nodeids state)
    (noneArriving : state.arriving = [])
    (free :
      ∀ nodeid run, state.workQueues nodeid = some run → run.holder = .free)
    (registered :
      ∀ request ∈ state.dispatched, clientConnMap request.nodeid ≠ none) :
    state.Drained := by
  refine ⟨noneArriving, fun request among => ?_⟩
  have present : (state.workQueues request.nodeid).isSome := by
    rw [alive.registered]
    exact Option.isSome_iff_ne_none.mpr (registered request among)
  obtain ⟨run, found⟩ := Option.isSome_iff_exists.mp present
  have isFree := free request.nodeid run found
  constructor
  · rw [Outside, found]
    exact .inl isFree
  · rw [answered_iff alive found, isFree]
    rfl

/-- In `close()` the destructor has passed every queue. -/
theorem nothing_ahead
    (nodeids : List String) {destructor : Destructor}
    (notServing : ¬ destructor.Serving) :
    ahead nodeids destructor = [] ∧ inside destructor = none := by
  cases destructor with
  | closing | closed => exact ⟨rfl, rfl⟩
  | notCalled | walking _ | destroying _ _ => exact absurd trivial notServing

/-- As long as the server has not ended, somebody goes on. -/
theorem Alive.exists_step
    (alive : Alive clientConnMap nodeids state)
    (keys : Keys clientConnMap nodeids)
    (notEnded : ¬ Ended clientConnMap nodeids state) :
    ∃ label target, Label.tearsDown label ∧
      state.next nodeids label = some target ∧
        work nodeids target < work nodeids state := by
  have isKey :
      ∀ nodeid, (state.workQueues nodeid).isSome → nodeid ∈ nodeids := by
    intro nodeid present
    rw [alive.registered] at present
    exact (keys.registered nodeid).mpr present
  by_cases entered :
      ∃ nodeid ∈ nodeids, ∃ run, state.workQueues nodeid = some run ∧
        ¬ run.holder.Resting
  · obtain ⟨nodeid, isKey, run, found, inside⟩ := entered
    exact alive.holder_moves isKey found inside
  by_cases running :
      ∃ nodeid ∈ nodeids, ∃ run, state.workQueues nodeid = some run ∧
        run.holder = .runThread
  · obtain ⟨nodeid, isKey, run, found, held⟩ := running
    have reachable := alive.components nodeid run found
    refine
      alive.thread_moves isKey found (.inr held) ?_ (.inl held)
    intro finished
    obtain atTest | atSecondHalf := holding_of_reachable reachable held
    · rw [finished] at atTest
      cases atTest
    · rw [finished] at atSecondHalf
      cases atSecondHalf
  have free :
      ∀ nodeid run, state.workQueues nodeid = some run →
        run.holder = .free := by
    intro nodeid run found
    have among := isKey nodeid (by rw [found]; rfl)
    by_contra notFree
    apply entered
    refine ⟨nodeid, among, run, found, ?_⟩
    rintro (isFree | held)
    · exact notFree isFree
    · exact running ⟨nodeid, among, run, found, held⟩
  by_cases arrived : state.arriving = []
  swap
  · exact arriving_moves free isKey arrived
  by_cases serving : state.destructor.Serving
  · exact
      alive.destructor_moves keys (fun nodeid _ => free nodeid) serving
  by_cases unfinished :
      ∃ nodeid ∈ nodeids, ∃ run, state.workQueues nodeid = some run ∧
        run.thread ≠ .finished
  · obtain ⟨nodeid, isKey, run, found, notFinished⟩ := unfinished
    obtain ⟨noneAhead, noneInside⟩ := nothing_ahead nodeids serving
    have done : run.workQueue.done = true := by
      apply (alive.fates nodeid run found).passed
      · rw [noneAhead]
        exact List.not_mem_nil
      · rw [noneInside]
        exact nofun
    exact
      alive.thread_moves isKey found (.inl (free nodeid run found))
        notFinished (.inr done)
  -- Only the answers can be missing now.
  have threads :
      ∀ nodeid ∈ nodeids, ∀ run, state.workQueues nodeid = some run →
        run.holder = .free ∧ run.thread = .finished := by
    push Not at unfinished
    intro nodeid among run found
    exact ⟨free nodeid run found, unfinished nodeid among run found⟩
  cases current : state.destructor with
  | notCalled | walking _ | destroying _ _ =>
      rw [current] at serving
      exact absurd trivial serving
  | closed => exact absurd ⟨arrived, threads, .inl current⟩ notEnded
  | closing =>
      have registered :
          ∀ request ∈ state.dispatched, clientConnMap request.nodeid ≠ none := by
        intro request among absent
        exact
          notEnded
            ⟨arrived, threads, .inr ⟨current, request, among, absent⟩⟩
      have drained := alive.drained arrived free registered
      refine ⟨.closeReturn, { state with destructor := .closed }, trivial, ?_, ?_⟩
      · simp only [ServerLife.next, current]
        exact if_pos drained
      · simp only [work, current, destructorWork]
        omega

/-- Exactly the calls of senders without a work queue keep `~AsyncServer` from
its end.  From every state, without any further request, the steps of the
destructor and of the threads that are there end the thread of every work queue
and answer every call of a registered sender once; if all senders are
registered they close the server.  No run closes it before every call has its
answer, and none ever does so once a call of an unregistered sender was
dispatched. -/
theorem teardown_ends
    (keys : Keys clientConnMap nodeids)
    (reachable : (machine clientConnMap nodeids).Reachable state) :
    (∃ labels target, (∀ label ∈ labels, Label.tearsDown label) ∧
      (machine clientConnMap nodeids).run state labels = some target ∧
      target.dispatched.Perm state.requests ∧
      (∀ nodeid run, target.workQueues nodeid = some run →
        run.thread = .finished ∧
          run.completions.map Completion.cb =
            (target.calls nodeid).map CallbackEntry.cb) ∧
      ((∀ request ∈ state.requests, clientConnMap request.nodeid ≠ none) →
        target.destructor = .closed)) ∧
    ∀ labels target,
      (machine clientConnMap nodeids).run state labels = some target →
        target.destructor = .closed →
          (∀ nodeid,
            (target.answers nodeid).map Completion.cb =
              (target.calls nodeid).map CallbackEntry.cb) ∧
          ∀ request ∈ state.requests, clientConnMap request.nodeid ≠ none := by
  constructor
  · obtain ⟨labels, target, allTear, executed, ended⟩ :=
      reachable.completes_using Label.tearsDown (work nodeids)
        fun state reachable notEnded =>
          (Alive.of_reachable keys reachable).exists_step keys notEnded
    have alive := Alive.of_reachable keys (reachable.run executed)
    have sameRequests := requests_perm_of_run allTear executed
    rw [requests, ended.noneArriving, List.nil_append] at sameRequests
    refine ⟨labels, target, allTear, executed, sameRequests, ?_, ?_⟩
    · intro nodeid run found
      have isKey : nodeid ∈ nodeids := by
        rw [keys.registered, ← alive.registered, found]
        rfl
      obtain ⟨isFree, finished⟩ := ended.threads nodeid isKey run found
      have answered :=
        answers_of_waiting alive found (by rw [isFree]; rfl)
      rw [answers, found] at answered
      exact ⟨finished, answered⟩
    · intro registered
      obtain closed | ⟨-, request, among, absent⟩ := ended.closes
      · exact closed
      · exact absurd absent (registered request (sameRequests.mem_iff.mp among))
  · intro labels target executed isClosed
    have laterReachable := reachable.run executed
    have alive := Alive.of_reachable keys laterReachable
    have closed := Closed.of_reachable keys laterReachable isClosed
    constructor
    · intro nodeid
      cases found : target.workQueues nodeid with
      | some run =>
          exact
            answers_of_waiting alive found
              ((answered_iff alive found).mp (closed.answered nodeid))
      | none =>
          have complete := closed.answered nodeid
          rw [answers, found] at complete ⊢
          rw [List.eq_nil_of_length_eq_zero complete.symm]
          rfl
    · intro request among absent
      have called :=
        requests_subset_of_run executed among
      rw [requests, closed.noneArriving, List.nil_append] at called
      have complete := closed.answered request.nodeid
      rw [answers_of_unregistered alive absent] at complete
      exact
        calls_ne_nil called (List.eq_nil_of_length_eq_zero complete.symm)

end Ends

/-- A call of a node that the server does not know. -/
def strangerRun : List (Label Nat) := [.arrive ⟨0, "p2", "a", [1]⟩, .sendAsync 0]

/-- After `lateCallRun` the server can be closed; after `strangerRun` it can
never be. -/
theorem teardown_ends_late :
    (∃ (state target : ServerLife Nat) (labels : List (Label Nat)),
      (machine onlyP1 ["p1"]).run (start onlyP1) lateCallRun = some state ∧
        (∀ label ∈ labels, Label.tearsDown label) ∧
        (machine onlyP1 ["p1"]).run state labels = some target ∧
        target.destructor = .closed) ∧
    ∃ state : ServerLife Nat,
      (machine onlyP1 ["p1"]).run (start onlyP1) strangerRun = some state ∧
        ∀ labels target,
          (machine onlyP1 ["p1"]).run state labels = some target →
            target.destructor ≠ .closed := by
  have begun :
      (machine onlyP1 ["p1"]).Reachable (start onlyP1 : ServerLife Nat) :=
    .initial rfl
  constructor
  · rcases Option.map_eq_some_iff.mp
        (show ((machine onlyP1 ["p1"]).run (start onlyP1) lateCallRun).map
            requests =
          some [⟨0, "p1", "a", [1]⟩, ⟨1, "p1", "b", [2]⟩] by rfl) with
      ⟨state, executed, requested⟩
    obtain ⟨labels, target, allTear, ended, -, -, closes⟩ :=
      (teardown_ends keys_onlyP1 (begun.run executed)).1
    refine ⟨state, target, labels, executed, allTear, ended, closes ?_⟩
    rw [requested]
    simp [onlyP1]
  · rcases Option.map_eq_some_iff.mp
        (show ((machine onlyP1 ["p1"]).run (start onlyP1) strangerRun).map
            requests = some [⟨0, "p2", "a", [1]⟩] by rfl) with
      ⟨state, executed, requested⟩
    refine ⟨state, executed, ?_⟩
    intro labels target later closed
    have registered :=
      ((teardown_ends keys_onlyP1 (begun.run executed)).2 labels target later
        closed).2 ⟨0, "p2", "a", [1]⟩
    exact
      registered (by rw [requested]; exact List.mem_cons_self) (by simp [onlyP1])

end ServerLife

end ChannelSdk
