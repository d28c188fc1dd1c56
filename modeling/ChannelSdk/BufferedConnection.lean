import ChannelSdk.ClientConnection
import ChannelSdk.CycleBufferFifo

/-!
# The receive store `ClientConnection`, `USE_BUFFER` build

The same class with one growing ring buffer for every message id, which
forgets where its messages end.  The 64-bit sizes of the interface are
converted to the `int32_t` of `cycle_buffer` at its calls.

The ring's own wait in `read` is only entered behind a successful `can_read`,
under the connection's mutex.
-/

namespace ChannelSdk

open CheckedMemory CircularWindow

structure BufferedConnection where
  nodeid : String
  bufferSize : Int
  mapbuffer : String → Option CycleBuffer

namespace BufferedConnection

/-- The constructor, followed by `SetBufferSize`. -/
def create (nodeid : String) (bufferSize : Int) : BufferedConnection where
  nodeid := nodeid
  bufferSize := bufferSize
  mapbuffer := fun _ => none

/-- The ring of a message id, a new one if there is none. -/
def ensureBuffer (self : BufferedConnection) (msgid : String) :
    Except Fault CycleBuffer :=
  match self.mapbuffer msgid with
  | some ring => .ok ring
  | none => CycleBuffer.create self.bufferSize

def setBuffer (self : BufferedConnection) (msgid : String)
    (ring : CycleBuffer) : BufferedConnection :=
  { self with mapbuffer := Function.update self.mapbuffer msgid (some ring) }

/-- `write`: append the bytes of a message to the ring of its id. -/
def write (self : BufferedConnection) (msgid : String) (data : Bytes) :
    Except Fault (Bool × BufferedConnection) := do
  let ring ← self.ensureBuffer msgid
  let (_, ring) ← ring.write data (toInt32 data.length)
  return (true, self.setBuffer msgid ring)

/-- One pass of the loop of `recv` up to its wait, into the caller's block
`data`. -/
def recvPass (self : BufferedConnection) (msgid : String)
    (data : Bytes) (length : Nat) :
    Except Fault (Option (Received × BufferedConnection)) :=
  match self.mapbuffer msgid with
  | none => .ok none
  | some ring =>
      if ring.empty then .ok none
      else do
        let readable ← ring.canRead (toInt32 length)
        if readable then
          let (returned, data, ring) ← ring.read data (toInt32 length)
          return some (⟨returned, data.take returned.toNat⟩,
            self.setBuffer msgid ring)
        else
          return none

/-- A whole call of `recv` that meets the given wake-ups. -/
def recv (self : BufferedConnection) (msgid : String)
    (data : Bytes) (length : Nat) :
    List (Wakeup BufferedConnection) →
      Except Fault (Option (Received × BufferedConnection))
  | [] => self.recvPass msgid data length
  | .timeout connection :: _ => do
      let taken ← self.recvPass msgid data length
      return some (taken.getD (⟨0, []⟩, connection))
  | .notified connection :: later => do
      let taken ← self.recvPass msgid data length
      match taken with
      | some taken => return some taken
      | none => connection.recv msgid data length later

/-- The stored bytes of a message id, oldest first. -/
def contents (self : BufferedConnection) (msgid : String) : Bytes :=
  match self.mapbuffer msgid with
  | some ring => ring.contents
  | none => []

/-- The connections that a node can hold: any buffer size, any successful
writes and receives. -/
inductive Reachable : BufferedConnection → Prop
  | create (nodeid : String) (bufferSize : Int) :
      FitsInt32 bufferSize → Reachable (create nodeid bufferSize)
  | write {self next : BufferedConnection} {msgid : String}
      {data : Bytes} {written : Bool} :
      Reachable self → self.write msgid data = .ok (written, next) →
      Reachable next
  | recv {self next : BufferedConnection} {msgid : String}
      {data : Bytes} {length : Nat} {received : Received} :
      Reachable self →
      self.recvPass msgid data length = .ok (some (received, next)) →
      Reachable next

/-- Every ring of the connection satisfies its invariant. -/
structure Valid (connection : BufferedConnection) : Prop where
  bufferSize_fits : FitsInt32 connection.bufferSize
  ring_valid :
    ∀ msgid ring, connection.mapbuffer msgid = some ring → ring.Valid

theorem Valid.setBuffer
    {self : BufferedConnection} (valid : self.Valid) (msgid : String)
    {ring : CycleBuffer} (ringValid : ring.Valid) :
    (self.setBuffer msgid ring).Valid := by
  constructor
  · exact valid.bufferSize_fits
  · intro tested found present
    by_cases same : tested = msgid
    · subst tested
      simp only [BufferedConnection.setBuffer, Function.update_self,
        Option.some.injEq] at present
      exact present ▸ ringValid
    · simp only [BufferedConnection.setBuffer,
        Function.update_of_ne same] at present
      exact valid.ring_valid tested found present

theorem Valid.ensureBuffer
    {self : BufferedConnection} (valid : self.Valid) {msgid : String}
    {ring : CycleBuffer} (found : self.ensureBuffer msgid = .ok ring) :
    ring.Valid := by
  unfold BufferedConnection.ensureBuffer at found
  split at found
  · next present =>
      cases found
      exact valid.ring_valid msgid ring present
  · exact CycleBuffer.Valid.create valid.bufferSize_fits found

theorem recvPass_eq_some
    {self next : BufferedConnection} {msgid : String}
    {data : Bytes} {length : Nat} {received : Received}
    (passed :
      self.recvPass msgid data length = .ok (some (received, next))) :
    ∃ ring returned shown read,
      self.mapbuffer msgid = some ring ∧
      ring.read data (toInt32 length) = .ok (returned, shown, read) ∧
      received = ⟨returned, shown.take returned.toNat⟩ ∧
      next = self.setBuffer msgid read := by
  unfold recvPass at passed
  split at passed
  · cases passed
  · next ring present =>
      split at passed
      · cases passed
      · obtain ⟨readable, -, passed⟩ := bind_eq_ok passed
        split at passed
        · obtain ⟨⟨returned, shown, read⟩, readEq, passed⟩ :=
            bind_eq_ok passed
          cases passed
          exact ⟨ring, returned, shown, read, present, readEq, rfl, rfl⟩
        · cases passed

/-- Every connection that a node can hold is valid. -/
theorem Reachable.valid
    {self : BufferedConnection} (reachable : self.Reachable) :
    self.Valid := by
  induction reachable with
  | create nodeid bufferSize fits =>
      exact ⟨fits, fun _ _ present => by cases present⟩
  | write _ written valid =>
      obtain ⟨ring, ensured, written⟩ := bind_eq_ok written
      obtain ⟨⟨_, appended⟩, ringWritten, written⟩ := bind_eq_ok written
      cases written
      exact valid.setBuffer _ ((valid.ensureBuffer ensured).write ringWritten)
  | recv _ passed valid =>
      obtain ⟨ring, _, _, _, present, readEq, -, rfl⟩ :=
        recvPass_eq_some passed
      exact valid.setBuffer _ ((valid.ring_valid _ ring present).read readEq)

/-- Without stored bytes a pass goes to the wait. -/
theorem recvPass_of_empty
    {self : BufferedConnection} (valid : self.Valid) {msgid : String}
    (nothing : self.contents msgid = []) (data : Bytes) (length : Nat) :
    self.recvPass msgid data length = .ok none := by
  unfold recvPass
  unfold contents at nothing
  split at nothing
  · next ring present =>
      rw [present]
      exact if_pos
        ((CycleBuffer.empty_iff (valid.ring_valid _ ring present)).mpr
          nothing)
  · next absent =>
      rw [absent]

/-- With stored bytes a pass asks the ring for the converted length. -/
theorem recvPass_of_contents
    {self : BufferedConnection} (valid : self.Valid) {msgid : String}
    (something : self.contents msgid ≠ []) (data : Bytes) (length : Nat) :
    ∃ ring, self.mapbuffer msgid = some ring ∧ ring.Valid ∧
      ring.contents = self.contents msgid ∧
      self.recvPass msgid data length =
        if toInt32 length ≤ ring.contents.length then do
          let (returned, data, ring) ← ring.read data (toInt32 length)
          return some (⟨returned, data.take returned.toNat⟩,
            self.setBuffer msgid ring)
        else .ok none := by
  unfold contents at something ⊢
  split at something
  · next ring present =>
      have ringValid := valid.ring_valid _ ring present
      have notEmpty : ¬ ring.empty = true := fun isEmpty =>
        something ((CycleBuffer.empty_iff ringValid).mp isEmpty)
      refine ⟨ring, present, ringValid, rfl, ?_⟩
      unfold recvPass
      rw [present]
      dsimp only
      rw [if_neg notEmpty, CycleBuffer.canRead_eq ringValid, ok_bind]
      by_cases readable : toInt32 length ≤ ring.contents.length
      · rw [decide_eq_true readable, if_pos rfl, if_pos readable]
      · rw [decide_eq_false readable, if_neg Bool.false_ne_true,
          if_neg readable]
        rfl
  · exact absurd rfl something

end BufferedConnection

end ChannelSdk
