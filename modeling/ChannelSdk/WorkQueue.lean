import ChannelSdk.ClientConnection

/-!
# The work queue of the asynchronous server

`core/include/WorkQueue.h` and `core/src/WorkQueue.cc`.  The servant hands
every message to the queue of its sender with `add`; one thread executes `run`
and moves the entries to the sender's connection; `destroy` ends it.

The definitions here are the critical sections, each executed with `_monitor`
held.  The monitor is `third_party/ice/include/IceUtil/Monitor.h`: locking
resets the count of requested notifications, `notify` only counts, and the
waiters are signalled when the monitor is unlocked.
-/

namespace ChannelSdk

open CheckedMemory

universe u

/-- `WorkQueue::CallbackEntry`. -/
structure CallbackEntry (Callback : Type u) where
  cb : Callback
  msgid : String
  data : Bytes
  deriving DecidableEq

/-- The message of an entry, without the callback that answers it. -/
def CallbackEntry.message {Callback : Type u}
    (entry : CallbackEntry Callback) : String × Bytes :=
  (entry.msgid, entry.data)

/-- A completion of an asynchronous dispatch. -/
inductive Completion (Callback : Type u) where
  | iceResponse (cb : Callback) (value : Int)
  | sendDataException (cb : Callback)
  deriving DecidableEq

/-- The members of a work queue; `nnotify` is the notification count of
`_monitor`. -/
structure WorkQueue (Callback : Type u) where
  nodeid : String
  ptrClientConn : ClientConnection
  callbacks : List (CallbackEntry Callback)
  done : Bool
  nnotify : Nat

namespace WorkQueue

variable {Callback : Type u}

/-- The constructor `WorkQueue(nodeid, ptr_client_conn)`. -/
def create (nodeid : String) (ptrClientConn : ClientConnection) :
    WorkQueue Callback where
  nodeid := nodeid
  ptrClientConn := ptrClientConn
  callbacks := []
  done := false
  nnotify := 0

/-- `Monitor::lock`, once the mutex is held. -/
def lock (self : WorkQueue Callback) : WorkQueue Callback :=
  { self with nnotify := 0 }

/-- `Monitor::notify`. -/
def notify (self : WorkQueue Callback) : WorkQueue Callback :=
  { self with nnotify := self.nnotify + 1 }

/-- `add` under the lock, with the completion it gives the callback. -/
def add (self : WorkQueue Callback) (entry : CallbackEntry Callback) :
    WorkQueue Callback × Completion Callback :=
  if self.done = false then
    let notified :=
      if self.callbacks.length = 0 then self.notify else self
    ({ notified with callbacks := notified.callbacks ++ [entry] },
      .iceResponse entry.cb 0)
  else
    (self, .sendDataException entry.cb)

/-- `destroy` under the lock. -/
def destroy (self : WorkQueue Callback) : WorkQueue Callback :=
  { self with done := true, callbacks := [] }.notify

/-- The entry that the second half of an iteration of `run` works on.  The
inner test of `_done` repeats the outer one under the same lock. -/
def nextEntry (self : WorkQueue Callback) : Option (CallbackEntry Callback) :=
  if self.done = false then self.callbacks.head? else none

/-- The second half of an iteration of `run`: write the front entry to the
connection, then pop it. -/
def deliver (self : WorkQueue Callback) : WorkQueue Callback :=
  match self.nextEntry with
  | some entry =>
      { self with
        ptrClientConn := (self.ptrClientConn.write entry.msgid entry.data).2
        callbacks := self.callbacks.tail }
  | none => self

/-- The completions of the loop over outstanding requests that ends `run`. -/
def outstanding (self : WorkQueue Callback) : List (Completion Callback) :=
  self.callbacks.map fun entry => .sendDataException entry.cb

@[simp]
theorem lock_callbacks (self : WorkQueue Callback) :
    self.lock.callbacks = self.callbacks := rfl

@[simp]
theorem lock_done (self : WorkQueue Callback) :
    self.lock.done = self.done := rfl

theorem add_of_live
    {self : WorkQueue Callback} (live : self.done = false)
    (entry : CallbackEntry Callback) :
    (self.add entry).1.callbacks = self.callbacks ++ [entry] ∧
      (self.add entry).1.done = false ∧
      (self.add entry).2 = .iceResponse entry.cb 0 := by
  by_cases empty : self.callbacks = [] <;>
    simp [add, live, empty, notify]

theorem add_of_done
    {self : WorkQueue Callback} (destroyed : self.done = true)
    (entry : CallbackEntry Callback) :
    self.add entry = (self, .sendDataException entry.cb) := by
  simp [add, destroyed]

/-- An entry that finds the list empty is announced to the run thread. -/
theorem nnotify_add_of_empty
    {self : WorkQueue Callback} (live : self.done = false)
    (empty : self.callbacks = []) (entry : CallbackEntry Callback) :
    0 < (self.add entry).1.nnotify := by
  simp [add, live, empty, notify]

theorem nnotify_destroy_pos (self : WorkQueue Callback) :
    0 < self.destroy.nnotify :=
  Nat.succ_pos self.nnotify

@[simp]
theorem deliver_done (self : WorkQueue Callback) :
    self.deliver.done = self.done := by
  unfold deliver
  split <;> rfl

theorem nextEntry_of_done
    {self : WorkQueue Callback} (destroyed : self.done = true) :
    self.nextEntry = none := by
  simp [nextEntry, destroyed]

/-- An iteration moves at most the front entry out of the list. -/
theorem nextEntry_deliver
    {self : WorkQueue Callback} (live : self.done = false) :
    self.nextEntry.toList ++ self.deliver.callbacks = self.callbacks := by
  rcases pending : self.callbacks with _ | ⟨entry, rest⟩ <;>
    simp [nextEntry, deliver, live, pending]

end WorkQueue

end ChannelSdk
