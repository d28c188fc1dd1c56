import ChannelSdk.ClientConnection
import ChannelSdk.Lib.TransitionMachine

/-!
# Concurrent writers and receivers of one `ClientConnection`

Any number of threads share one connection of the queue build.  A write is
one critical section.  A receive is called, passes its loop under the mutex,
and waits when it finds no message; a wait ends by a notification, a spurious
wake-up or a timeout.  The condition variable is notified for every message
id, so a receiver may be woken for a message that is not its own, or that
another receiver takes first.

The state carries two logs in lock order: the messages passed to `write` and
the messages taken by `recv`.
-/

namespace ChannelSdk.ClientConnection

open CheckedMemory

universe u

/-- Where a thread is in its current or last call of `recv`. -/
inductive RecvThread where
  | idle
  | ready (msgid : String) (length : Nat)
  | waiting (msgid : String) (length : Nat)
  | returned (msgid : String) (received : Received)
  deriving DecidableEq, Repr

/-- A message taken out of its queue, and what the taking call observed. -/
structure Pop (Thread : Type u) where
  thread : Thread
  msgid : String
  message : Bytes
  received : Received

structure Shared (Thread : Type u) where
  connection : ClientConnection
  threads : Thread → RecvThread
  written : List (String × Bytes)
  popped : List (Pop Thread)

inductive SharedLabel (Thread : Type u) where
  | write (msgid : String) (data : Bytes)
  | call (thread : Thread) (msgid : String) (length : Nat)
  | pass (thread : Thread)
  | wake (thread : Thread)
  | timeout (thread : Thread)

section Machine

variable {Thread : Type u} [DecidableEq Thread]

namespace Shared

def setThread (state : Shared Thread) (thread : Thread)
    (place : RecvThread) : Shared Thread :=
  { state with threads := Function.update state.threads thread place }

/-- The pass of a ready receiver: take the front message and return, or go
to the wait. -/
def pass (state : Shared Thread) (thread : Thread)
    (msgid : String) (length : Nat) : Shared Thread :=
  match state.connection.recvPass msgid with
  | some (received, connection) =>
      { connection := connection
        threads :=
          Function.update state.threads thread (.returned msgid received)
        written := state.written
        popped := state.popped ++
          [⟨thread, msgid, (state.connection.queue msgid).headD [],
            received⟩] }
  | none => state.setThread thread (.waiting msgid length)

def next (state : Shared Thread) :
    SharedLabel Thread → Option (Shared Thread)
  | .write msgid data =>
      some { state with
        connection := (state.connection.write msgid data).2
        written := state.written ++ [(msgid, data)] }
  | .call thread msgid length =>
      match state.threads thread with
      | .idle | .returned _ _ =>
          some (state.setThread thread (.ready msgid length))
      | .ready _ _ | .waiting _ _ => none
  | .pass thread =>
      match state.threads thread with
      | .ready msgid length => some (state.pass thread msgid length)
      | .idle | .waiting _ _ | .returned _ _ => none
  | .wake thread =>
      match state.threads thread with
      | .waiting msgid length =>
          some (state.setThread thread (.ready msgid length))
      | .idle | .ready _ _ | .returned _ _ => none
  | .timeout thread =>
      match state.threads thread with
      | .waiting msgid _ =>
          some (state.setThread thread (.returned msgid ⟨0, []⟩))
      | .idle | .ready _ _ | .returned _ _ => none

/-- The messages passed to `write` for one message id, in lock order. -/
def writtenFor (state : Shared Thread) (msgid : String) : List Bytes :=
  (state.written.filter fun entry => entry.1 = msgid).map Prod.snd

/-- The messages taken by `recv` for one message id, in lock order. -/
def poppedFor (state : Shared Thread) (msgid : String) : List Bytes :=
  (state.popped.filter fun pop => pop.msgid = msgid).map Pop.message

/-- The message id of the call that a labelled step belongs to. -/
def labelMsgid (state : Shared Thread) :
    SharedLabel Thread → Option String
  | .write msgid _ | .call _ msgid _ => some msgid
  | .pass thread | .wake thread | .timeout thread =>
      match state.threads thread with
      | .ready msgid _ | .waiting msgid _ => some msgid
      | .idle | .returned _ _ => none

end Shared

/-- One connection of a node, shared by all its threads. -/
def sharedMachine (nodeid : String) :
    TransitionMachine (Shared Thread) (SharedLabel Thread) where
  initial := fun state =>
    state.connection = create nodeid ∧ (∀ thread, state.threads thread = .idle) ∧
      state.written = [] ∧ state.popped = []
  next := Shared.next

/-- The messages of every id are split between the taken and the queued ones,
and every finished receive either took a whole message or nothing. -/
structure Accounted (state : Shared Thread) : Prop where
  split :
    ∀ msgid,
      state.poppedFor msgid ++ state.connection.queue msgid =
        state.writtenFor msgid
  whole :
    ∀ pop ∈ state.popped,
      pop.received = ⟨pop.message.length, pop.message⟩
  reported :
    ∀ thread msgid received,
      state.threads thread = .returned msgid received →
        received = ⟨0, []⟩ ∨
          ∃ pop ∈ state.popped,
            pop.thread = thread ∧ pop.msgid = msgid ∧
              pop.received = received

theorem accounted_initial
    {nodeid : String} {state : Shared Thread}
    (isInitial : (sharedMachine nodeid).initial state) :
    Accounted state := by
  obtain ⟨fresh, idle, noWritten, noPopped⟩ := isInitial
  constructor
  · intro msgid
    simp [Shared.poppedFor, Shared.writtenFor, fresh, noWritten, noPopped]
  · intro pop member
    rw [noPopped] at member
    cases member
  · intro thread msgid received isReturned
    rw [idle thread] at isReturned
    cases isReturned

/-- A step that only moves a thread, not to a return with a message, keeps
the accounts. -/
theorem Accounted.setThread
    {state : Shared Thread} (accounted : Accounted state)
    (thread : Thread) {place : RecvThread}
    (empty :
      ∀ msgid received, place = .returned msgid received →
        received = ⟨0, []⟩) :
    Accounted (state.setThread thread place) := by
  constructor
  · exact accounted.split
  · exact accounted.whole
  · intro tested msgid received isReturned
    by_cases same : tested = thread
    · subst tested
      simp only [Shared.setThread, Function.update_self] at isReturned
      exact Or.inl (empty msgid received isReturned)
    · simp only [Shared.setThread, Function.update_of_ne same] at isReturned
      exact accounted.reported tested msgid received isReturned

omit [DecidableEq Thread] in
theorem Accounted.write
    {state : Shared Thread} (accounted : Accounted state)
    (msgid : String) (data : Bytes) :
    Accounted { state with
      connection := (state.connection.write msgid data).2
      written := state.written ++ [(msgid, data)] } := by
  constructor
  · intro tested
    have before := accounted.split tested
    by_cases same : tested = msgid
    · subst tested
      simp only [Shared.poppedFor, Shared.writtenFor] at before ⊢
      rw [queue_write_self, ← List.append_assoc, before]
      simp
    · simp only [Shared.poppedFor, Shared.writtenFor] at before ⊢
      rw [queue_write_of_ne _ _ same, before]
      simp [Ne.symm same]
  · exact accounted.whole
  · exact accounted.reported

theorem Accounted.pass
    {state : Shared Thread} (accounted : Accounted state)
    (thread : Thread) (msgid : String) (length : Nat) :
    Accounted (state.pass thread msgid length) := by
  unfold Shared.pass
  split
  · next received connection passed =>
      obtain ⟨front, rest, queued, rfl, queueRest, queueOther⟩ :=
        recvPass_eq_some passed
      rw [queued, List.headD_cons]
      constructor
      · intro tested
        have before := accounted.split tested
        by_cases same : tested = msgid
        · subst tested
          simp only [Shared.poppedFor, Shared.writtenFor] at before ⊢
          rw [queueRest, ← before, queued]
          simp
        · simp only [Shared.poppedFor, Shared.writtenFor] at before ⊢
          rw [queueOther tested same, ← before]
          simp [Ne.symm same]
      · intro pop member
        rcases List.mem_append.mp member with older | newest
        · exact accounted.whole pop older
        · cases List.mem_singleton.mp newest
          rfl
      · intro tested testedId received isReturned
        by_cases same : tested = thread
        · subst tested
          simp only [Function.update_self] at isReturned
          cases isReturned
          exact Or.inr ⟨_, List.mem_append_right _ (List.mem_singleton_self _),
            rfl, rfl, rfl⟩
        · simp only [Function.update_of_ne same] at isReturned
          rcases accounted.reported tested testedId received isReturned with
            nothing | ⟨pop, member, popOf⟩
          · exact Or.inl nothing
          · exact Or.inr ⟨pop, List.mem_append_left _ member, popOf⟩
  · exact accounted.setThread thread (by
      intro _ _ isReturned
      cases isReturned)

/-- Every step keeps the accounts. -/
theorem accounted_next
    {source target : Shared Thread} {label : SharedLabel Thread}
    (accounted : Accounted source)
    (stepped : source.next label = some target) :
    Accounted target := by
  cases label with
  | write msgid data =>
      cases stepped
      exact accounted.write msgid data
  | call thread msgid length =>
      rw [Shared.next] at stepped
      split at stepped <;> cases stepped
      all_goals
        exact accounted.setThread thread (by
          intro _ _ isReturned
          cases isReturned)
  | pass thread =>
      rw [Shared.next] at stepped
      split at stepped <;> cases stepped
      exact accounted.pass thread _ _
  | wake thread =>
      rw [Shared.next] at stepped
      split at stepped <;> cases stepped
      exact accounted.setThread thread (by
        intro _ _ isReturned
        cases isReturned)
  | timeout thread =>
      rw [Shared.next] at stepped
      split at stepped <;> cases stepped
      exact accounted.setThread thread (by
        intro _ _ isReturned
        cases isReturned
        rfl)

/-- A step of a call on one message id leaves every other queue alone. -/
theorem queue_next_of_ne
    {source target : Shared Thread} {label : SharedLabel Thread}
    (stepped : source.next label = some target)
    {other : String} (different : source.labelMsgid label ≠ some other) :
    target.connection.queue other = source.connection.queue other := by
  cases label with
  | write msgid data =>
      cases stepped
      exact queue_write_of_ne _ data (by
        intro same
        exact different (by rw [Shared.labelMsgid, same]))
  | call thread msgid length =>
      rw [Shared.next] at stepped
      split at stepped <;> cases stepped <;> rfl
  | pass thread =>
      rw [Shared.next] at stepped
      split at stepped <;> cases stepped
      next msgid length isReady =>
        have apart : other ≠ msgid := by
          intro same
          exact different (by simp only [Shared.labelMsgid, isReady, same])
        unfold Shared.pass
        split
        · next received connection passed =>
            obtain ⟨_, _, _, _, _, queueOther⟩ := recvPass_eq_some passed
            exact queueOther other apart
        · rfl
  | wake thread | timeout thread =>
      rw [Shared.next] at stepped
      split at stepped <;> cases stepped
      rfl

/-- Nothing is lost, duplicated, reordered or mixed.  In every reachable
state and for every message id, the messages taken so far followed by the
queued ones are the written ones, in lock order; every taken message was
reported with its whole size and copied as a whole, and a receive that
returned took one of them or nothing; a pass over a queue with messages takes
the front one; and no step of a call on one message id changes the queue of
another. -/
theorem shared_delivery
    (nodeid : String) {state : Shared Thread}
    (reachable : (sharedMachine nodeid).Reachable state) :
    (∀ msgid,
      state.poppedFor msgid ++ state.connection.queue msgid =
        state.writtenFor msgid) ∧
    (∀ pop ∈ state.popped,
      pop.received.value = pop.message.length ∧
        pop.received.stored = pop.message) ∧
    (∀ thread msgid received,
      state.threads thread = .returned msgid received →
        received = ⟨0, []⟩ ∨
          ∃ pop ∈ state.popped,
            pop.thread = thread ∧ pop.msgid = msgid ∧
              pop.received = received) ∧
    (∀ thread msgid length,
      state.threads thread = .ready msgid length →
        ∀ front rest, state.connection.queue msgid = front :: rest →
          ∃ target,
            (sharedMachine nodeid).next state (.pass thread) = some target ∧
              target.threads thread =
                .returned msgid ⟨front.length, front⟩ ∧
              target.connection.queue msgid = rest) ∧
    (∀ label target,
      (sharedMachine nodeid).next state label = some target →
        ∀ other, state.labelMsgid label ≠ some other →
          target.connection.queue other =
            state.connection.queue other) := by
  have accounted : Accounted state :=
    reachable.invariant (fun _ => accounted_initial)
      (fun _ _ _ => accounted_next)
  refine ⟨accounted.split, ?_, accounted.reported, ?_, ?_⟩
  · intro pop member
    rw [accounted.whole pop member]
    exact ⟨rfl, rfl⟩
  · intro thread msgid length ready front rest queued
    cases passed : state.connection.recvPass msgid with
    | none =>
        rw [(recvPass_eq_none_iff _ _).mp passed] at queued
        cases queued
    | some taken =>
        obtain ⟨received, connection⟩ := taken
        obtain ⟨first, others, sameQueue, rfl, leftQueue, -⟩ :=
          recvPass_eq_some passed
        rw [queued] at sameQueue
        cases sameQueue
        refine ⟨state.pass thread msgid length, ?_, ?_, ?_⟩
        · simp only [sharedMachine, Shared.next, ready]
        · simp only [Shared.pass, passed, Function.update_self]
        · simp only [Shared.pass, passed]
          exact leftQueue
  · intro label target stepped other different
    exact queue_next_of_ne stepped different

end Machine

/-- Two receivers of one message id, the second of which is woken after the
first has taken the only message. -/
def contestedRun : List (SharedLabel Bool) :=
  [.call true "a" 4, .pass true, .call false "a" 4, .pass false,
    .write "b" [9], .write "a" [1, 2], .wake false, .pass false,
    .wake true, .pass true, .timeout true]

theorem shared_delivery_contested :
    ∃ state : Shared Bool,
      (sharedMachine "p0").run
          ⟨create "p0", fun _ => .idle, [], []⟩ contestedRun =
        some state ∧
      state.poppedFor "a" ++ state.connection.queue "a" =
        state.writtenFor "a" := by
  have start :
      (sharedMachine "p0").Reachable
        (⟨create "p0", fun _ => .idle, [], []⟩ : Shared Bool) :=
    .initial ⟨rfl, fun _ => rfl, rfl, rfl⟩
  obtain ⟨state, executed⟩ :=
    Option.isSome_iff_exists.mp
      (show ((sharedMachine "p0").run
        ⟨create "p0", fun _ => .idle, [], []⟩ contestedRun).isSome by decide)
  exact ⟨state, executed,
    (shared_delivery "p0" (start.run executed)).1 "a"⟩

end ChannelSdk.ClientConnection
