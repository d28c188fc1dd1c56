import ChannelSdk.ClientConnectionRuns

/-!
# When a receive that returns zero tells the truth

A caller takes a result of zero for the news that no message was there.  Two
steps of a receive return zero: the timeout of its wait, which does not look
at the queue again, and the pass that takes an empty message.  A step is
truthful when a message is only ever consumed by a call that returns its
positive size in that step, and when a call that returns zero leaves no
message for its id behind.

In every interleaving of writers and receivers, the steps are truthful
exactly when every timeout falls on an empty queue and no pass finds an empty
message in front.
-/

namespace ChannelSdk.ClientConnection

open CheckedMemory

universe u

variable {Thread : Type u}

/-- The receiver whose call a step goes on with. -/
def SharedLabel.receiver : SharedLabel Thread → Option Thread
  | .pass thread | .wake thread | .timeout thread => some thread
  | .write _ _ | .call _ _ _ => none

/-- The queue that a pass finds does not start with an empty message, and the
queue that a timeout finds is empty. -/
def Shared.NothingMissed (state : Shared Thread) :
    SharedLabel Thread → Prop
  | .pass thread =>
      match state.threads thread with
      | .ready msgid _ => (state.connection.queue msgid).head? ≠ some []
      | .idle | .waiting _ _ | .returned _ _ => True
  | .timeout thread =>
      match state.threads thread with
      | .waiting msgid _ => state.connection.queue msgid = []
      | .idle | .ready _ _ | .returned _ _ => True
  | .write _ _ | .call _ _ _ | .wake _ => True

instance (state : Shared Thread) (label : SharedLabel Thread) :
    Decidable (state.NothingMissed label) :=
  match label with
  | .pass thread =>
      match place : state.threads thread with
      | .ready msgid _ =>
          decidable_of_iff
            ((state.connection.queue msgid).head? ≠ some [])
            (by rw [Shared.NothingMissed, place])
      | .idle | .waiting _ _ | .returned _ _ =>
          .isTrue (by rw [Shared.NothingMissed, place]; trivial)
  | .timeout thread =>
      match place : state.threads thread with
      | .waiting msgid _ =>
          decidable_of_iff (state.connection.queue msgid = [])
            (by rw [Shared.NothingMissed, place])
      | .idle | .ready _ _ | .returned _ _ =>
          .isTrue (by rw [Shared.NothingMissed, place]; trivial)
  | .write _ _ | .call _ _ _ | .wake _ => .isTrue trivial

variable [DecidableEq Thread]

/-- A consumed message is reported with a size other than zero by a call that
returns in the same step, and a call that returns zero does so over an empty
queue. -/
def Shared.ZeroIsTruthful (source : Shared Thread)
    (label : SharedLabel Thread) : Prop :=
  ∀ target, source.next label = some target →
    (target.popped ≠ source.popped →
      ∃ thread msgid received, label.receiver = some thread ∧
        target.threads thread = .returned msgid received ∧
        received.value ≠ 0) ∧
    ∀ thread msgid received, label.receiver = some thread →
      target.threads thread = .returned msgid received →
      received.value = 0 → target.connection.queue msgid = []

/-- Where nothing is taken and nobody returns, there is nothing to tell. -/
theorem zeroIsTruthful_of_silent
    {source : Shared Thread} {label : SharedLabel Thread}
    (sameLog : ∀ target, source.next label = some target →
      target.popped = source.popped)
    (nobody : ∀ target, source.next label = some target →
      ∀ thread msgid received, label.receiver = some thread →
        target.threads thread ≠ .returned msgid received) :
    source.ZeroIsTruthful label := by
  intro target stepped
  constructor
  · intro taken
    exact absurd (sameLog target stepped) taken
  · intro thread msgid received isReceiver isReturned
    exact absurd isReturned
      (nobody target stepped thread msgid received isReceiver)

/-- A pass over an empty queue goes to the wait. -/
theorem zeroIsTruthful_pass_of_empty
    {source : Shared Thread} {thread : Thread} {msgid : String}
    {length : Nat} (isReady : source.threads thread = .ready msgid length)
    (nothing : source.connection.queue msgid = []) :
    source.ZeroIsTruthful (.pass thread) := by
  have passed : source.next (.pass thread) =
      some (source.setThread thread (.waiting msgid length)) := by
    simp only [Shared.next, isReady, Shared.pass,
      (recvPass_eq_none_iff source.connection msgid).mpr nothing]
  apply zeroIsTruthful_of_silent
  · intro target stepped
    rw [passed] at stepped
    cases stepped
    rfl
  · intro target stepped receiver testedId received isReceiver isReturned
    rw [passed] at stepped
    cases stepped
    cases isReceiver
    simp [Shared.setThread] at isReturned

/-- A pass that takes a message is truthful exactly when the message is not
empty. -/
theorem zeroIsTruthful_pass_of_front
    {source : Shared Thread} {thread : Thread} {msgid : String}
    {length : Nat} (isReady : source.threads thread = .ready msgid length)
    {front : Bytes} {rest : List Bytes}
    (queued : source.connection.queue msgid = front :: rest) :
    source.ZeroIsTruthful (.pass thread) ↔ front ≠ [] := by
  rcases recvPass_of_queue queued with ⟨connection, passed⟩
  have stepped : source.next (.pass thread) =
      some
        { connection := connection
          threads := Function.update source.threads thread
            (.returned msgid ⟨front.length, front⟩)
          written := source.written
          popped := source.popped ++
            [⟨thread, msgid, front, ⟨front.length, front⟩⟩] } := by
    simp only [Shared.next, isReady, Shared.pass, passed, queued,
      List.headD_cons]
  constructor
  · intro truthful isEmpty
    rcases (truthful _ stepped).1 (by simp) with
      ⟨receiver, testedId, received, isReceiver, isReturned, nonzero⟩
    cases isReceiver
    simp only [Function.update_self] at isReturned
    cases isReturned
    rw [isEmpty] at nonzero
    exact nonzero rfl
  · intro notEmpty target reached
    rw [stepped] at reached
    cases reached
    have positive : (front.length : Int) ≠ 0 := by
      have := List.length_pos_iff.mpr notEmpty
      omega
    constructor
    · intro _
      exact ⟨thread, msgid, _, rfl, Function.update_self .., positive⟩
    · intro receiver testedId received isReceiver isReturned isZero
      cases isReceiver
      simp only [Function.update_self] at isReturned
      cases isReturned
      exact absurd isZero positive

/-- A timeout returns zero whatever it finds. -/
theorem zeroIsTruthful_timeout
    {source : Shared Thread} {thread : Thread} {msgid : String}
    {length : Nat}
    (isWaiting : source.threads thread = .waiting msgid length) :
    source.ZeroIsTruthful (.timeout thread) ↔
      source.connection.queue msgid = [] := by
  have stepped : source.next (.timeout thread) =
      some (source.setThread thread (.returned msgid ⟨0, []⟩)) := by
    simp only [Shared.next, isWaiting]
  constructor
  · intro truthful
    exact (truthful _ stepped).2 thread msgid ⟨0, []⟩ rfl
      (Function.update_self ..) rfl
  · intro nothing target reached
    rw [stepped] at reached
    cases reached
    refine ⟨fun taken => absurd rfl taken, ?_⟩
    intro receiver testedId received isReceiver isReturned _
    cases isReceiver
    simp only [Shared.setThread, Function.update_self] at isReturned
    cases isReturned
    exact nothing

theorem zeroIsTruthful_of_disabled
    {source : Shared Thread} {label : SharedLabel Thread}
    (disabled : source.next label = none) :
    source.ZeroIsTruthful label := by
  intro target stepped
  rw [disabled] at stepped
  cases stepped

/-- One step, by its label and the place of its receiver. -/
theorem zeroIsTruthful_iff
    (source : Shared Thread) (label : SharedLabel Thread) :
    source.ZeroIsTruthful label ↔ source.NothingMissed label := by
  cases label with
  | write msgid data =>
      refine iff_of_true (zeroIsTruthful_of_silent ?_ ?_) trivial
      · intro target stepped
        cases stepped
        rfl
      · intro _ _ _ _ _ isReceiver
        cases isReceiver
  | call thread msgid length =>
      refine iff_of_true (zeroIsTruthful_of_silent ?_ ?_) trivial
      · intro target stepped
        rw [Shared.next] at stepped
        split at stepped <;> cases stepped <;> rfl
      · intro _ _ _ _ _ isReceiver
        cases isReceiver
  | wake thread =>
      refine iff_of_true (zeroIsTruthful_of_silent ?_ ?_) trivial
      · intro target stepped
        rw [Shared.next] at stepped
        split at stepped <;> cases stepped
        rfl
      · intro target stepped receiver msgid received isReceiver isReturned
        rw [Shared.next] at stepped
        cases isReceiver
        split at stepped <;> cases stepped
        simp [Shared.setThread] at isReturned
  | pass thread =>
      cases place : source.threads thread with
      | ready msgid length =>
          rw [Shared.NothingMissed, place]
          dsimp only
          cases queued : source.connection.queue msgid with
          | nil =>
              have noFront : ([] : List Bytes).head? ≠ some [] := by
                simp
              exact iff_of_true
                (zeroIsTruthful_pass_of_empty place queued) noFront
          | cons front rest =>
              rw [zeroIsTruthful_pass_of_front place queued,
                List.head?_cons, ne_eq, ne_eq, Option.some.injEq]
      | _ =>
          have disabled : source.next (.pass thread) = none := by
            simp only [Shared.next, place]
          simp only [Shared.NothingMissed, place, iff_true]
          exact zeroIsTruthful_of_disabled disabled
  | timeout thread =>
      cases place : source.threads thread with
      | waiting msgid length =>
          rw [Shared.NothingMissed, place]
          exact zeroIsTruthful_timeout place
      | _ =>
          have disabled : source.next (.timeout thread) = none := by
            simp only [Shared.next, place]
          simp only [Shared.NothingMissed, place, iff_true]
          exact zeroIsTruthful_of_disabled disabled

/-- In every interleaving of writers and receivers on one connection, every
step is truthful exactly when every timeout falls on an empty queue and no
pass finds an empty message in front. -/
theorem receive_zero_is_truthful_iff
    {nodeid : String} {start : Shared Thread}
    (isInitial : (sharedMachine nodeid).initial start)
    (labels : List (SharedLabel Thread)) :
    (sharedMachine nodeid).RunMeets Shared.ZeroIsTruthful start labels ↔
      (sharedMachine nodeid).RunMeets Shared.NothingMissed start labels :=
  TransitionMachine.runMeets_congr_of_reachable
    (fun source label _ => zeroIsTruthful_iff source label)
    (.initial isInitial) labels

/-- Two idle threads on a new connection. -/
def idlePair : Shared Bool := ⟨create "p0", fun _ => .idle, [], []⟩

/-- The deadline of a wait passes, a writer runs before the lock is taken
again, and the call returns zero over the message that has come. -/
def lateWriteRun : List (SharedLabel Bool) :=
  [.call true "m" 1, .pass true, .write "m" [7], .timeout true]

theorem receive_zero_over_message :
    (sharedMachine "p0").initial idlePair ∧
      ¬ (sharedMachine "p0").RunMeets Shared.ZeroIsTruthful idlePair
        lateWriteRun := by
  refine ⟨⟨rfl, fun _ => rfl, rfl, rfl⟩, ?_⟩
  intro meets
  have atTimeout := (((meets.2 _ rfl).2 _ rfl).2 _ rfl).1
  have missed := (zeroIsTruthful_iff _ _).mp atTimeout
  exact absurd missed (by decide)

/-- The same calls in an order in which the wait is notified, with a second
receiver that times out over an empty queue. -/
theorem receive_zero_is_truthful_notified :
    (sharedMachine "p0").RunMeets Shared.ZeroIsTruthful idlePair
      [.call true "m" 1, .pass true, .call false "m" 1, .pass false,
        .write "m" [7], .wake true, .pass true, .timeout false] :=
  (receive_zero_is_truthful_iff ⟨rfl, fun _ => rfl, rfl, rfl⟩ _).mpr
    (by decide)

end ChannelSdk.ClientConnection
