import ChannelSdk.WorkQueueCompletions

/-!
# The calls of a work queue, before and after its destruction

Which steps touch the holder of the monitor, and how the destruction divides
the calls: those before it are accepted and acknowledged, those after it are
answered with an exception, and both stand in the order in which they entered
the monitor.
-/

namespace ChannelSdk.WorkQueue

open CheckedMemory

universe u

variable {Callback : Type u} {source target state : Run Callback}
variable {label : Label Callback}

theorem destroyCalls_next
    (notLock : label ≠ .destroyLock)
    (stepped : source.next label = some target) :
    target.destroyCalls = source.destroyCalls := by
  cases Run.step_of_next stepped with
  | runTest =>
      unfold Run.test
      split
      · rfl
      · split <;> rfl
  | destroyLock => exact absurd rfl notLock
  | runLock | runSecondHalf | spuriousWakeup | runRelock | addLock | addBody
  | destroyBody | unlock | recv => rfl

theorem submitted_next
    (notLock : ∀ entry, label ≠ .addLock entry)
    (stepped : source.next label = some target) :
    target.submitted = source.submitted := by
  cases Run.step_of_next stepped with
  | runTest =>
      unfold Run.test
      split
      · rfl
      · split <;> rfl
  | addLock entry => exact absurd rfl (notLock entry)
  | runLock | runSecondHalf | spuriousWakeup | runRelock | destroyLock
  | addBody | destroyBody | unlock | recv => rfl

/-- A step without a new call leaves no call inside that was not there. -/
theorem waiting_next
    (sameSubmitted : target.submitted = source.submitted)
    (outside : source.holder.waiting = [])
    (stepped : source.next label = some target) :
    target.holder.waiting = [] := by
  cases Run.step_of_next stepped with
  | runTest =>
      unfold Run.test
      split
      · rfl
      · split
        · rfl
        · exact outside
  | addLock entry =>
      have longer := congrArg List.length sameSubmitted
      simp at longer
  | runLock | runRelock | addBody | destroyLock | destroyBody | unlock => rfl
  | runSecondHalf | spuriousWakeup | recv => exact outside

/-- Only the destructor's own steps begin or end a destruction, and only an
unlocking thread leaves. -/
theorem holder_next
    (answered : Answered source) (notLock : label ≠ .destroyLock)
    (notBody : label ≠ .destroyBody) (notUnlock : label ≠ .unlock)
    (stepped : source.next label = some target) :
    target.holder = source.holder ∨
      (source.holder ≠ .destroying ∧ source.holder ≠ .leaving) ∧
        target.holder ≠ .destroying := by
  cases Run.step_of_next stepped with
  | runLock _ free | runRelock _ free | addLock _ free =>
      rw [free]
      simp
  | runTest atTest =>
      have held := answered.exclusive (.inl atTest)
      rw [held]
      unfold Run.test
      split
      · simp
      · split <;> simp [held]
  | addBody entry held =>
      rw [held]
      simp [Run.addEntry]
  | destroyLock => exact absurd rfl notLock
  | destroyBody => exact absurd rfl notBody
  | unlock => exact absurd rfl notUnlock
  | runSecondHalf | spuriousWakeup | recv => exact .inl rfl

/-- Only the thread inside its loop has the monitor. -/
theorem holding_of_reachable
    {nodeid : String} {connection : ClientConnection}
    (reachable : (machine nodeid connection).Reachable state)
    (held : state.holder = .runThread) :
    state.thread = .loopTest ∨ state.thread = .secondHalf := by
  induction reachable with
  | initial isStart =>
      subst isStart
      cases held
  | step label before _ stepped inductionHypothesis =>
      cases Run.step_of_next stepped with
      | runLock | runSecondHalf => exact .inl rfl
      | runRelock => exact .inr rfl
      | runTest =>
          unfold Run.test at held ⊢
          split at held
          · cases held
          · next live =>
              rw [if_neg live]
              split at held
              · cases held
              · next busy =>
                  rw [if_neg busy]
                  exact .inr rfl
      | spuriousWakeup blocked =>
          obtain atTest | atSecondHalf := inductionHypothesis held
          · rw [blocked] at atTest
            cases atTest
          · rw [blocked] at atSecondHalf
            cases atSecondHalf
      | addLock | addBody | destroyLock | destroyBody | unlock => cases held
      | recv => exact inductionHypothesis held

/-- The calls that a queue has executed: first those that it accepted and
acknowledged, then those that came after its destruction and were answered
with an exception. -/
structure Divided (state : Run Callback)
    (accepted refused : List (CallbackEntry Callback)) : Prop where
  submitted : state.submitted = accepted ++ refused ++ state.holder.waiting
  completions :
    state.completions =
      accepted.map (fun entry => .iceResponse entry.cb 0) ++
        refused.map (fun entry => .sendDataException entry.cb)
  accepted : state.accepted = accepted.map CallbackEntry.message
  refused : state.workQueue.done = false → refused = []

variable {accepted refused : List (CallbackEntry Callback)}

/-- A step without a call keeps the division. -/
theorem Divided.of_same
    (divided : Divided source accepted refused)
    (sameSubmitted : target.submitted = source.submitted)
    (sameWaiting : target.holder.waiting = source.holder.waiting)
    (sameCompletions : target.completions = source.completions)
    (sameAccepted : target.accepted = source.accepted)
    (sameDone :
      target.workQueue.done = false → source.workQueue.done = false) :
    Divided target accepted refused where
  submitted := by
    rw [sameSubmitted, sameWaiting]
    exact divided.submitted
  completions := sameCompletions.trans divided.completions
  accepted := sameAccepted.trans divided.accepted
  refused := fun live => divided.refused (sameDone live)

theorem Divided.test
    (divided : Divided state accepted refused) (answered : Answered state)
    (atTest : state.thread = .loopTest) :
    Divided state.test accepted refused := by
  have held := answered.exclusive (.inl atTest)
  have noneWaiting : state.holder.waiting = [] := by
    rw [held]
    rfl
  unfold Run.test
  split
  · next done =>
      have nothing : state.workQueue.outstanding = [] := by
        rw [outstanding, answered.cleared done]
        rfl
      exact
        divided.of_same rfl noneWaiting.symm (by simp [nothing]) rfl id
  · split
    · exact divided.of_same rfl noneWaiting.symm rfl rfl id
    · exact divided.of_same rfl rfl rfl rfl id

theorem Divided.addLock
    (divided : Divided state accepted refused) (free : state.holder = .free)
    (entry : CallbackEntry Callback) :
    Divided { state with
      workQueue := state.workQueue.lock
      holder := .adding entry
      submitted := state.submitted ++ [entry] } accepted refused where
  submitted := by
    have before := divided.submitted
    rw [free] at before
    change state.submitted = accepted ++ refused ++ [] at before
    rw [List.append_nil] at before
    exact congrArg (· ++ [entry]) before
  completions := divided.completions
  accepted := divided.accepted
  refused := divided.refused

/-- The body of `add` puts its call on the one side or on the other. -/
theorem Divided.addEntry
    (divided : Divided state accepted refused)
    {entry : CallbackEntry Callback} (held : state.holder = .adding entry) :
    ∃ accepted refused, Divided (state.addEntry entry) accepted refused := by
  have before := divided.submitted
  rw [held] at before
  change state.submitted = accepted ++ refused ++ [entry] at before
  cases alive : state.workQueue.done with
  | false =>
      obtain rfl := divided.refused alive
      obtain ⟨-, stillLive, acknowledged⟩ := add_of_live alive entry
      refine ⟨accepted ++ [entry], [], ?_, ?_, ?_, fun _ => rfl⟩
      · simpa [Run.addEntry, Holder.waiting] using before
      · simp [Run.addEntry, acknowledged, divided.completions]
      · simp [Run.addEntry, alive, divided.accepted]
  | true =>
      refine ⟨accepted, refused ++ [entry], ?_, ?_, ?_, ?_⟩
      · simpa [Run.addEntry, Holder.waiting] using before
      · simp [Run.addEntry, add_of_done alive, divided.completions]
      · simp [Run.addEntry, alive, divided.accepted]
      · intro live
        rw [Run.addEntry, add_of_done alive] at live
        rw [alive] at live
        cases live

theorem Divided.next
    (divided : Divided source accepted refused) (answered : Answered source)
    (stepped : source.next label = some target) :
    ∃ accepted refused, Divided target accepted refused := by
  cases Run.step_of_next stepped with
  | addBody entry held => exact divided.addEntry held
  | addLock entry free => exact ⟨_, _, divided.addLock free entry⟩
  | runTest atTest => exact ⟨_, _, divided.test answered atTest⟩
  | runLock _ free | runRelock _ free | destroyLock free =>
      exact ⟨_, _, divided.of_same rfl (by rw [free]; rfl) rfl rfl id⟩
  | runSecondHalf =>
      exact ⟨_, _, divided.of_same rfl rfl rfl rfl (by simp)⟩
  | spuriousWakeup | recv =>
      exact ⟨_, _, divided.of_same rfl rfl rfl rfl id⟩
  | destroyBody held =>
      exact
        ⟨_, _,
          divided.of_same rfl (by rw [held]; rfl) rfl rfl
            (fun live => nomatch live)⟩
  | unlock held =>
      exact ⟨_, _, divided.of_same rfl (by rw [held]; rfl) rfl rfl id⟩

theorem attended_of_reachable
    {nodeid : String} {connection : ClientConnection}
    (reachable : (machine nodeid connection).Reachable state) :
    Attended state := by
  refine reachable.invariant ?_ (fun _ _ _ => Attended.next)
  intro initial isStart
  subst isStart
  exact Attended.of_not_blocked (by simp [start])

theorem exists_divided
    {nodeid : String} {connection : ClientConnection}
    (reachable : (machine nodeid connection).Reachable state) :
    ∃ accepted refused, Divided state accepted refused := by
  induction reachable with
  | initial isStart =>
      subst isStart
      exact ⟨[], [], rfl, rfl, rfl, fun _ => rfl⟩
  | step label before _ stepped inductionHypothesis =>
      obtain ⟨accepted, refused, divided⟩ := inductionHypothesis
      exact divided.next (Answered.of_reachable before) stepped

end ChannelSdk.WorkQueue
