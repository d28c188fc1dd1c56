import ChannelSdk.ClientConnection
import ChannelSdk.NarrowedLengths
import ChannelSdk.Lib.SharedStore

/-!
# Receivers that share a `ClientConnection`, in both builds

`write` and the passes of `recv` of `core/src/client_connection.cc` run under
the mutex of the connection, and `write` notifies all waiting receivers,
whatever message id they wait for.  Both builds are stores behind a lock: the
queue build holds messages, the `USE_BUFFER` build holds bytes, of which a
receive takes as many as it asks for.
-/

namespace ChannelSdk

open CheckedMemory CircularWindow

universe u

namespace ClientConnection

/-- The queue build.  An item is a message with its id, a request is a message
id and a length. -/
def shared :
    SharedStore ClientConnection (String × Bytes) (String × Nat) Received
      Fault where
  put := fun connection item => .ok (connection.write item.1 item.2).2
  take := fun connection request => .ok (connection.recvPass request.1)
  expired := ⟨0, []⟩

/-- The messages of every id; a receive finds something if there is one. -/
def description : shared.Description String Bytes where
  valid := fun _ => True
  fits := fun _ _ => True
  asks := fun _ => True
  itemKey := Prod.fst
  itemValues := fun item => [item.2]
  requestKey := Prod.fst
  resultValues := fun received => [received.stored]
  contents := queue
  available := fun _ messages => messages ≠ []
  answers := fun _ received => received.value = received.stored.length
  put_spec := by
    intro connection item _ _
    refine ⟨_, rfl, trivial, ?_⟩
    intro msgid
    rw [queue_write]
    by_cases same : msgid = item.1
    · rw [if_pos same, if_pos same, same]
    · rw [if_neg same, if_neg same]
  take_spec := by
    intro connection request _ _
    cases passed : connection.recvPass request.1 with
    | none =>
        have empty := (recvPass_eq_none_iff _ _).mp passed
        refine .inl ⟨?_, fun found => found empty⟩
        simp only [shared, passed]
    | some taken =>
        obtain ⟨received, next⟩ := taken
        obtain ⟨front, rest, queued, rfl, left, others⟩ :=
          recvPass_eq_some passed
        refine .inr
          ⟨⟨front.length, front⟩, next, ?_, trivial, rfl, ?_, others⟩
        · simp only [shared, passed]
        · rw [left, queued]
          rfl
  available_of_suffix := by
    intro _ removed rest found empty
    exact found (List.append_eq_nil_iff.mp empty).2

/-- No receiver of the queue build sleeps while there is a message for it.
After any interleaving of writers, receivers, spurious wake-ups and timeouts,
a receiver that waits and has not been notified has an empty queue, although
one condition variable serves all message ids and another receiver may have
taken what a notification was for. -/
theorem receivers_awake
    {Thread : Type u} [DecidableEq Thread] (nodeid : String)
    {state :
      SharedStore.State ClientConnection Thread (String × Bytes)
        (String × Nat) Received}
    (reachable : (shared.machine (create nodeid)).Reachable state)
    (thread : Thread) (msgid : String) (length : Nat)
    (sleeping : state.threads thread = .blocked (msgid, length)) :
    state.store.queue msgid = [] := by
  have allowed :
      (shared.machine (create nodeid)).ReachableUnder description.Allowed
        state := by
    refine reachable.mono ?_
    intro _ label _
    cases label with
    | put _ | call _ _ | pass _ | wake _ | timeout _ => trivial
  have kept :=
    SharedStore.Description.kept_of_reachable trivial
      (fun msgid => queue_create nodeid msgid) allowed
  by_contra queued
  exact kept.awake thread (msgid, length) sleeping queued

/-- Two receivers of one message id are woken for a message of another. -/
theorem receivers_awake_elsewhere :
    ∃ state :
        SharedStore.State ClientConnection Bool (String × Bytes)
          (String × Nat) Received,
      (shared.machine (create "A")).Reachable state ∧
        state.threads true = .woken ("m", 1) ∧
        state.threads false = .blocked ("m", 1) ∧
        state.store.queue "m" = [] := by
  have begun :
      (shared.machine (create "A")).Reachable
        (⟨create "A", fun _ => .idle, [], []⟩ :
          SharedStore.State ClientConnection Bool (String × Bytes)
            (String × Nat) Received) :=
    .initial ⟨rfl, fun _ => rfl, rfl, rfl⟩
  have slept :=
    (begun.step (.call true ("m", 1)) rfl).step (.pass true) rfl
  have bothSlept :=
    (slept.step (.call false ("m", 1)) rfl).step (.pass false) rfl
  have reachable :=
    (bothSlept.step (.put ("other", [7])) rfl).step (.pass false) rfl
  exact ⟨_, reachable, rfl, rfl,
    receivers_awake "A" reachable false "m" 1 rfl⟩

end ClientConnection

namespace BufferedConnection

/-- The `USE_BUFFER` build.  A request brings a block of the length it asks
for. -/
def shared :
    SharedStore BufferedConnection (String × Bytes) (String × Bytes)
      Received Fault where
  put := fun connection item => do
    let (_, next) ← connection.write item.1 item.2
    return next
  take := fun connection request =>
    connection.recvPass request.1 request.2 request.2.length
  expired := ⟨0, []⟩

/-- The bytes of every id.  A receive finds something if there are as many
bytes as it asks for, and one at least; it then returns exactly these. -/
def description : shared.Description String UInt8 where
  valid := Reachable
  fits := fun connection item => connection.SizeConverts item.1 item.2
  asks := fun request => request.2.length < 2147483648
  itemKey := Prod.fst
  itemValues := Prod.snd
  requestKey := Prod.fst
  resultValues := Received.stored
  contents := contents
  available := fun request stored =>
    stored ≠ [] ∧ request.2.length ≤ stored.length
  answers := fun request received =>
    received.value = request.2.length ∧
      received.stored.length = request.2.length
  put_spec := by
    intro connection item reachable converts
    obtain ⟨next, written, stored⟩ :=
      writeAppends_of_sizeConverts reachable.valid converts
    refine ⟨next, ?_, .write reachable written, ?_⟩
    · simp only [shared, written, ok_bind]
      rfl
    · intro msgid
      rw [stored]
      by_cases same : msgid = item.1
      · rw [if_pos same, if_pos same, same]
      · rw [if_neg same, if_neg same]
  take_spec := by
    intro connection request reachable small
    have converted := toInt32_of_small small
    by_cases reads : Reads request.1 request.2.length connection
    · obtain ⟨next, passed, left⟩ :=
        recvPass_of_reads reachable.valid reads (by omega)
      have enough := reads.2
      rw [converted, Int.toNat_natCast] at passed left
      rw [converted] at enough
      refine .inr ⟨_, next, passed, .recv reachable passed,
        ⟨rfl, ?_⟩, ?_, ?_⟩
      · rw [List.length_take]
        omega
      · rw [left, if_pos rfl, List.take_append_drop]
      · intro msgid different
        rw [left, if_neg different]
    · refine .inl ⟨recvPass_of_not_reads reachable.valid reads, ?_⟩
      intro available
      refine reads ⟨available.1, ?_⟩
      have enough := available.2
      rw [converted]
      omega
  available_of_suffix := by
    intro request removed rest found
    refine ⟨?_, ?_⟩
    · intro empty
      exact found.1 (List.append_eq_nil_iff.mp empty).2
    · have enough := found.2
      rw [List.length_append]
      omega

/-- The `USE_BUFFER` build keeps a byte stream for every message id under any
interleaving of its threads, as long as the lengths fit 32 bits and the rings
can grow.  The bytes taken by receives, in the order of the mutex, followed by
the stored ones are the bytes written; every receive that takes something
returns exactly what it asked for; no pass faults; and no receiver sleeps
while there are as many bytes as it asks for. -/
theorem shared_byte_streams
    {Thread : Type u} [DecidableEq Thread] (nodeid : String)
    {bufferSize : Int} (fits : FitsInt32 bufferSize)
    {state :
      SharedStore.State BufferedConnection Thread (String × Bytes)
        (String × Bytes) Received}
    (reachable :
      (shared.machine (create nodeid bufferSize)).ReachableUnder
        description.Allowed state) :
    (∀ msgid,
      description.valuesTaken state msgid ++ state.store.contents msgid =
        description.valuesPut state msgid) ∧
    (∀ entry ∈ state.takes,
      entry.2.value = entry.1.2.length ∧
        entry.2.stored.length = entry.1.2.length) ∧
    (∀ thread request,
      (state.threads thread).request? = some request →
        ∃ outcome,
          state.store.recvPass request.1 request.2 request.2.length =
            .ok outcome) ∧
    (∀ thread msgid data,
      state.threads thread = .blocked (msgid, data) →
        state.store.contents msgid = [] ∨
          (state.store.contents msgid).length < data.length) := by
  have kept :=
    SharedStore.Description.kept_of_reachable
      (Reachable.create nodeid bufferSize fits) (fun _ => rfl) reachable
  refine ⟨kept.conserved, kept.answered, ?_, ?_⟩
  · intro thread request passing
    exact kept.exists_take passing
  · intro thread msgid data sleeping
    have unavailable := kept.awake thread (msgid, data) sleeping
    by_contra available
    push Not at available
    exact unavailable available

/-- A store of one receiver. -/
def oneReceiver (connection : BufferedConnection)
    (place : SharedStore.Place (String × Bytes) Received)
    (puts : List (String × Bytes))
    (takes : List ((String × Bytes) × Received)) :
    SharedStore.State BufferedConnection Unit (String × Bytes)
      (String × Bytes) Received :=
  ⟨connection, fun _ => place, puts, takes⟩

/-- A receiver of two bytes sleeps over one and takes two of three. -/
theorem shared_byte_streams_split :
    ∃ state :
        SharedStore.State BufferedConnection Unit (String × Bytes)
          (String × Bytes) Received,
      (shared.machine (create "A" 8)).ReachableUnder description.Allowed
          state ∧
        state.takes = [(("m", [0, 0]), ⟨2, [1, 2]⟩)] ∧
        description.valuesTaken state "m" ++ state.store.contents "m" =
          description.valuesPut state "m" := by
  let empty := create "A" 8
  let one :=
    empty.setBuffer "m" ⟨0, 1, 8, 7, [1, 0, 0, 0, 0, 0, 0, 0]⟩
  let three := one.setBuffer "m" ⟨0, 3, 8, 5, [1, 2, 3, 0, 0, 0, 0, 0]⟩
  let left := three.setBuffer "m" ⟨2, 3, 8, 7, [1, 2, 3, 0, 0, 0, 0, 0]⟩
  have begun :
      (shared.machine empty).ReachableUnder description.Allowed
        (oneReceiver empty .idle [] []) :=
    .initial ⟨rfl, fun _ => rfl, rfl, rfl⟩
  have first :
      (shared.machine empty).ReachableUnder description.Allowed
        (oneReceiver one .idle [("m", [1])] []) :=
    .step (.put ("m", [1])) begun ⟨by decide, _, rfl, by decide⟩ rfl
  have asked :
      (shared.machine empty).ReachableUnder description.Allowed
        (oneReceiver one (.ready ("m", [0, 0])) [("m", [1])] []) :=
    .step (.call () ("m", [0, 0])) first
      (show ([0, 0] : Bytes).length < 2147483648 by decide) rfl
  have slept :
      (shared.machine empty).ReachableUnder description.Allowed
        (oneReceiver one (.blocked ("m", [0, 0])) [("m", [1])] []) :=
    .step (.pass ()) asked trivial rfl
  have second :
      (shared.machine empty).ReachableUnder description.Allowed
        (oneReceiver three (.woken ("m", [0, 0]))
          [("m", [1]), ("m", [2, 3])] []) :=
    .step (.put ("m", [2, 3])) slept ⟨by decide, _, rfl, by decide⟩ rfl
  have reachable :
      (shared.machine empty).ReachableUnder description.Allowed
        (oneReceiver left (.done ⟨2, [1, 2]⟩)
          [("m", [1]), ("m", [2, 3])] [(("m", [0, 0]), ⟨2, [1, 2]⟩)]) :=
    .step (.pass ()) second trivial rfl
  exact ⟨_, reachable, rfl,
    (shared_byte_streams "A" (by decide) reachable).1 "m"⟩

end BufferedConnection

end ChannelSdk
