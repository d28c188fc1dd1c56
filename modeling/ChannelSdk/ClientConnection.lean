import ChannelSdk.Lib.CheckedMemory
import Mathlib.Logic.Function.Basic

/-!
# The receive store `ClientConnection`, queue build

`core/include/client_connection.h` and `core/src/client_connection.cc` without
`USE_BUFFER`: one queue of whole messages for every message id, created when
the first message for it arrives.  The hash map is the partial function from
message ids to queues.

A call of `recv` passes its loop until it takes a message or its wait times
out.  One pass under the mutex is `recvPass`; what happens between two passes
is up to the other threads, so a whole call is given the wake-ups it meets.
-/

namespace ChannelSdk

open CheckedMemory

/-- What a caller of `recv` observes: the returned value and the bytes that
were stored through `data`, from its first byte on. -/
structure Received where
  value : Int
  stored : Bytes
  deriving DecidableEq, Repr

/-- How a wait of `recv` ends, with the connection found when the mutex is
held again. -/
inductive Wakeup (Connection : Type) where
  | notified (connection : Connection)
  | timeout (connection : Connection)

structure ClientConnection where
  nodeid : String
  mapbuffer : String → Option (List Bytes)

namespace ClientConnection

/-- The constructor `ClientConnection(const string& nodeid)`. -/
def create (nodeid : String) : ClientConnection where
  nodeid := nodeid
  mapbuffer := fun _ => none

/-- The queued messages for a message id, oldest first. -/
def queue (self : ClientConnection) (msgid : String) : List Bytes :=
  (self.mapbuffer msgid).getD []

/-- The lookup-or-create at the head of `write`. -/
def ensureQueue (self : ClientConnection) (msgid : String) :
    ClientConnection :=
  match self.mapbuffer msgid with
  | some _ => self
  | none =>
      { self with mapbuffer := Function.update self.mapbuffer msgid (some []) }

/-- `write`: append a message to its queue and wake all receivers. -/
def write (self : ClientConnection) (msgid : String) (data : Bytes) :
    Bool × ClientConnection :=
  let ensured := self.ensureQueue msgid
  (true,
    { ensured with
      mapbuffer :=
        Function.update ensured.mapbuffer msgid
          (some (ensured.queue msgid ++ [data])) })

/-- One pass of the loop of `recv` up to its wait.  The front message is
copied to `data` as a whole; the requested length is not consulted. -/
def recvPass (self : ClientConnection) (msgid : String) :
    Option (Received × ClientConnection) :=
  match self.mapbuffer msgid with
  | some (bytesData :: rest) =>
      some (⟨bytesData.length, bytesData⟩,
        { self with
          mapbuffer := Function.update self.mapbuffer msgid (some rest) })
  | some [] | none => none

/-- A whole call of `recv` that meets the given wake-ups; `none` while it is
still waiting. -/
def recv (self : ClientConnection) (msgid : String) :
    List (Wakeup ClientConnection) → Option (Received × ClientConnection)
  | [] => self.recvPass msgid
  | .timeout connection :: _ =>
      some ((self.recvPass msgid).getD (⟨0, []⟩, connection))
  | .notified connection :: later =>
      match self.recvPass msgid with
      | some taken => some taken
      | none => connection.recv msgid later

@[simp]
theorem queue_create (nodeid msgid : String) :
    (create nodeid).queue msgid = [] := rfl

@[simp]
theorem queue_ensureQueue
    (self : ClientConnection) (msgid tested : String) :
    (self.ensureQueue msgid).queue tested = self.queue tested := by
  unfold ensureQueue
  split
  · rfl
  · next absent =>
      by_cases same : tested = msgid
      · subst tested
        simp [queue, absent]
      · simp [queue, Function.update_of_ne same]

/-- A write appends its message to its own queue and to no other. -/
theorem queue_write
    (self : ClientConnection) (msgid tested : String) (data : Bytes) :
    (self.write msgid data).2.queue tested =
      if tested = msgid then self.queue msgid ++ [data]
      else self.queue tested := by
  by_cases same : tested = msgid
  · subst tested
    rw [if_pos rfl, ← queue_ensureQueue self msgid msgid]
    simp [write, queue]
  · rw [if_neg same, ← queue_ensureQueue self msgid tested]
    simp [write, queue, Function.update_of_ne same]

theorem queue_write_self
    (self : ClientConnection) (msgid : String) (data : Bytes) :
    (self.write msgid data).2.queue msgid = self.queue msgid ++ [data] := by
  rw [queue_write, if_pos rfl]

theorem queue_write_of_ne
    (self : ClientConnection) {msgid tested : String} (data : Bytes)
    (different : tested ≠ msgid) :
    (self.write msgid data).2.queue tested = self.queue tested := by
  rw [queue_write, if_neg different]

theorem recvPass_eq_none_iff
    (self : ClientConnection) (msgid : String) :
    self.recvPass msgid = none ↔ self.queue msgid = [] := by
  unfold recvPass queue
  rcases self.mapbuffer msgid with _ | _ | ⟨front, rest⟩ <;> simp

/-- A pass that takes a message takes the front one, reports its size, copies
its bytes and leaves the other queues alone. -/
theorem recvPass_eq_some
    {self : ClientConnection} {msgid : String}
    {received : Received} {next : ClientConnection}
    (passed : self.recvPass msgid = some (received, next)) :
    ∃ front rest,
      self.queue msgid = front :: rest ∧
      received = ⟨front.length, front⟩ ∧
      next.queue msgid = rest ∧
      ∀ tested, tested ≠ msgid → next.queue tested = self.queue tested := by
  unfold recvPass at passed
  split at passed
  · next front rest present =>
      obtain ⟨rfl, rfl⟩ := Prod.mk.inj (Option.some.inj passed)
      refine ⟨front, rest, by simp [queue, present], rfl,
        by simp [queue], ?_⟩
      intro tested different
      simp [queue, Function.update_of_ne different]
  · cases passed
  · cases passed

theorem recvPass_of_queue
    {self : ClientConnection} {msgid : String}
    {front : Bytes} {rest : List Bytes}
    (queued : self.queue msgid = front :: rest) :
    ∃ next, self.recvPass msgid = some (⟨front.length, front⟩, next) := by
  rcases passed : self.recvPass msgid with _ | ⟨received, next⟩
  · rw [(recvPass_eq_none_iff self msgid).mp passed] at queued
    cases queued
  · obtain ⟨_, _, found, rfl, -, -⟩ := recvPass_eq_some passed
    rw [queued] at found
    cases found
    exact ⟨next, rfl⟩

end ClientConnection

end ChannelSdk
