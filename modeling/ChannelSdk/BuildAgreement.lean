import ChannelSdk.BufferedConnection

/-!
# The two receive stores agree on matched traffic

The queue build keeps whole messages, the `USE_BUFFER` build keeps their
bytes.  As long as every receive asks for the size of the oldest message, the
two cannot be told apart: the stored bytes of a message id are the
concatenation of its queued messages.  An empty message is a queue entry in
one build and nothing at all in the other, and is received as zero bytes in
both.

Operations are taken as atomic steps; a receive that finds nothing times out
at once.
-/

namespace ChannelSdk

open CheckedMemory CircularWindow

/-- One operation on a receive store; a receive brings a block of the length
it asks for. -/
inductive StoreOp where
  | write (msgid : String) (data : Bytes)
  | recv (msgid : String) (data : Bytes)
  deriving DecidableEq, Repr

namespace ClientConnection

/-- What a receive observes (nothing for a write), and the next store. -/
def execOp (self : ClientConnection) :
    StoreOp → Option Received × ClientConnection
  | .write msgid data => (none, (self.write msgid data).2)
  | .recv msgid _ =>
      match self.recv msgid [.timeout self] with
      | some (received, next) => (some received, next)
      | none => (none, self)

def runOps (self : ClientConnection) :
    List StoreOp → List (Option Received) × ClientConnection
  | [] => ([], self)
  | op :: rest =>
      let (observed, next) := self.execOp op
      let (later, final) := next.runOps rest
      (observed :: later, final)

end ClientConnection

namespace BufferedConnection

def execOp (self : BufferedConnection) :
    StoreOp → Except Fault (Option Received × BufferedConnection)
  | .write msgid data => do
      let (_, next) ← self.write msgid data
      return (none, next)
  | .recv msgid data => do
      match ← self.recv msgid data data.length [.timeout self] with
      | some (received, next) => return (some received, next)
      | none => return (none, self)

def runOps (self : BufferedConnection) :
    List StoreOp →
      Except Fault (List (Option Received) × BufferedConnection)
  | [] => .ok ([], self)
  | op :: rest => do
      let (observed, next) ← self.execOp op
      let (later, final) ← next.runOps rest
      return (observed :: later, final)

end BufferedConnection

/-- A receive asks for the size of the oldest message, if there is one; a
written size and the growth it causes fit their 32-bit type. -/
def MatchedOp (queued : ClientConnection) (buffered : BufferedConnection) :
    StoreOp → Prop
  | .write msgid data =>
      FitsInt32 data.length ∧
        match buffered.ensureBuffer msgid with
        | .ok ring => ring.GrowthFits data.length
        | .error _ => True
  | .recv msgid data =>
      match queued.queue msgid with
      | front :: _ => data.length = front.length
      | [] => True

instance (queued : ClientConnection) (buffered : BufferedConnection)
    (op : StoreOp) : Decidable (MatchedOp queued buffered op) :=
  match op with
  | .write msgid data =>
      have : Decidable
          (match buffered.ensureBuffer msgid with
            | .ok ring => ring.GrowthFits data.length
            | .error _ => True) :=
        match buffered.ensureBuffer msgid with
        | .ok ring => inferInstanceAs (Decidable (ring.GrowthFits _))
        | .error _ => inferInstanceAs (Decidable True)
      inferInstanceAs (Decidable (FitsInt32 data.length ∧ _))
  | .recv msgid data =>
      match oldest : queued.queue msgid with
      | front :: _ =>
          decidable_of_iff (data.length = front.length) (by
            rw [MatchedOp, oldest])
      | [] => .isTrue (by rw [MatchedOp, oldest]; trivial)

/-- Every operation of the run is matched in the states it is applied to. -/
def MatchedRun (queued : ClientConnection) (buffered : BufferedConnection) :
    List StoreOp → Prop
  | [] => True
  | op :: rest =>
      MatchedOp queued buffered op ∧
        match buffered.execOp op with
        | .ok (_, next) => MatchedRun (queued.execOp op).2 next rest
        | .error _ => True

instance decidableMatchedRun :
    (queued : ClientConnection) → (buffered : BufferedConnection) →
      (ops : List StoreOp) → Decidable (MatchedRun queued buffered ops)
  | _, _, [] => inferInstanceAs (Decidable True)
  | queued, buffered, op :: rest =>
      have : Decidable
          (match buffered.execOp op with
            | .ok (_, next) => MatchedRun (queued.execOp op).2 next rest
            | .error _ => True) :=
        match buffered.execOp op with
        | .ok (_, next) =>
            decidableMatchedRun (queued.execOp op).2 next rest
        | .error _ => inferInstanceAs (Decidable True)
      inferInstanceAs (Decidable (MatchedOp queued buffered op ∧ _))

/-- The simulation relation of the two builds. -/
structure StoresAgree (queued : ClientConnection)
    (buffered : BufferedConnection) : Prop where
  valid : buffered.Valid
  bufferSize_pos : 1 ≤ buffered.bufferSize
  ring_pos :
    ∀ msgid ring, buffered.mapbuffer msgid = some ring → 1 ≤ ring.n
  contents_eq :
    ∀ msgid, buffered.contents msgid = (queued.queue msgid).flatten

namespace BufferedConnection

theorem contents_setBuffer
    (self : BufferedConnection) (msgid tested : String)
    (ring : CycleBuffer) :
    (self.setBuffer msgid ring).contents tested =
      if tested = msgid then ring.contents else self.contents tested := by
  by_cases same : tested = msgid
  · subst tested
    simp [contents, setBuffer]
  · simp [contents, setBuffer, same]

end BufferedConnection

theorem StoresAgree.setBuffer
    {queued next : ClientConnection} {buffered : BufferedConnection}
    (agree : StoresAgree queued buffered) {msgid : String}
    {ring : CycleBuffer} (ringValid : ring.Valid) (ringPos : 1 ≤ ring.n)
    (same : ring.contents = (next.queue msgid).flatten)
    (others :
      ∀ tested, tested ≠ msgid →
        next.queue tested = queued.queue tested) :
    StoresAgree next (buffered.setBuffer msgid ring) := by
  constructor
  · exact agree.valid.setBuffer msgid ringValid
  · exact agree.bufferSize_pos
  · intro tested found present
    by_cases isSame : tested = msgid
    · subst tested
      simp only [BufferedConnection.setBuffer, Function.update_self,
        Option.some.injEq] at present
      exact present ▸ ringPos
    · simp only [BufferedConnection.setBuffer,
        Function.update_of_ne isSame] at present
      exact agree.ring_pos tested found present
  · intro tested
    rw [BufferedConnection.contents_setBuffer]
    by_cases isSame : tested = msgid
    · rw [if_pos isSame, isSame]
      exact same
    · rw [if_neg isSame, others tested isSame]
      exact agree.contents_eq tested

/-- The ring that a write finds or makes. -/
theorem StoresAgree.ensureBuffer
    {queued : ClientConnection} {buffered : BufferedConnection}
    (agree : StoresAgree queued buffered) (msgid : String) :
    ∃ ring, buffered.ensureBuffer msgid = .ok ring ∧ ring.Valid ∧
      1 ≤ ring.n ∧ ring.contents = (queued.queue msgid).flatten := by
  have contents := agree.contents_eq msgid
  unfold BufferedConnection.contents at contents
  unfold BufferedConnection.ensureBuffer
  split at contents
  · next ring present =>
      exact ⟨ring, rfl, agree.valid.ring_valid msgid ring present,
        agree.ring_pos msgid ring present, contents⟩
  · next absent =>
      have positive := agree.bufferSize_pos
      obtain ⟨ring, created, ringValid, sizeEq, ringEmpty⟩ :=
        CycleBuffer.create_spec (show 0 ≤ buffered.bufferSize by omega)
          agree.valid.bufferSize_fits.2
      exact ⟨ring, created, ringValid, by omega, ringEmpty.trans contents⟩

theorem StoresAgree.write
    {queued : ClientConnection} {buffered : BufferedConnection}
    (agree : StoresAgree queued buffered) {msgid : String} {data : Bytes}
    (matched : MatchedOp queued buffered (.write msgid data)) :
    ∃ next,
      buffered.execOp (.write msgid data) = .ok (none, next) ∧
      StoresAgree (queued.write msgid data).2 next := by
  obtain ⟨sizeFits, growthFits⟩ := matched
  obtain ⟨ring, ensured, ringValid, ringPos, ringContents⟩ :=
    agree.ensureBuffer msgid
  rw [ensured] at growthFits
  obtain ⟨written, writeEq, writtenValid, grown, writtenContents⟩ :=
    CycleBuffer.write_spec ringValid (Int.natCast_nonneg data.length)
      (fun _ => ringPos) growthFits (Int.le_refl _)
  rw [Int.toNat_natCast, List.take_length, ringContents] at writtenContents
  refine ⟨buffered.setBuffer msgid written, ?_, ?_⟩
  · rw [BufferedConnection.execOp, BufferedConnection.write, ensured,
      ok_bind, toInt32_of_fits sizeFits, writeEq, ok_bind]
    rfl
  · apply agree.setBuffer writtenValid (by omega)
    · rw [writtenContents, ClientConnection.queue_write_self,
        List.flatten_append, List.flatten_singleton]
    · intro tested different
      exact ClientConnection.queue_write_of_ne queued data different

/-- A receive without an oldest message observes nothing in both builds. -/
theorem StoresAgree.recv_nothing
    {queued : ClientConnection} {buffered : BufferedConnection}
    (agree : StoresAgree queued buffered) {msgid : String}
    (nothing : queued.queue msgid = []) (data : Bytes) :
    queued.execOp (.recv msgid data) = (some ⟨0, []⟩, queued) ∧
      buffered.execOp (.recv msgid data) =
        .ok (some ⟨0, []⟩, buffered) := by
  have noContents : buffered.contents msgid = [] := by
    rw [agree.contents_eq, nothing, List.flatten_nil]
  constructor
  · rw [ClientConnection.execOp, ClientConnection.recv,
      (ClientConnection.recvPass_eq_none_iff queued msgid).mpr nothing]
    rfl
  · rw [BufferedConnection.execOp, BufferedConnection.recv,
      BufferedConnection.recvPass_of_empty agree.valid noContents]
    rfl

/-- The oldest message is what both builds hand out when asked for its
size. -/
theorem StoresAgree.recv_front
    {queued : ClientConnection} {buffered : BufferedConnection}
    (agree : StoresAgree queued buffered) {msgid : String}
    {front data : Bytes} {rest : List Bytes}
    (oldest : queued.queue msgid = front :: rest)
    (matched : data.length = front.length) :
    ∃ queuedNext bufferedNext,
      queued.execOp (.recv msgid data) =
        (some ⟨front.length, front⟩, queuedNext) ∧
      buffered.execOp (.recv msgid data) =
        .ok (some ⟨front.length, front⟩, bufferedNext) ∧
      StoresAgree queuedNext bufferedNext := by
  obtain ⟨queuedNext, passed⟩ := ClientConnection.recvPass_of_queue oldest
  obtain ⟨_, _, popped, -, queueRest, queueOther⟩ :=
    ClientConnection.recvPass_eq_some passed
  rw [oldest] at popped
  cases popped
  have queuedExec :
      queued.execOp (.recv msgid data) =
        (some ⟨front.length, front⟩, queuedNext) := by
    rw [ClientConnection.execOp, ClientConnection.recv, passed]
    rfl
  have contents : buffered.contents msgid = front ++ rest.flatten := by
    rw [agree.contents_eq, oldest, List.flatten_cons]
  by_cases nothing : buffered.contents msgid = []
  · -- Only empty messages are queued: the ring has nothing to hand out.
    obtain ⟨frontEmpty, restEmpty⟩ :=
      List.append_eq_nil_iff.mp (contents.symm.trans nothing)
    refine ⟨queuedNext, buffered, queuedExec, ?_, ?_⟩
    · rw [BufferedConnection.execOp, BufferedConnection.recv,
        BufferedConnection.recvPass_of_empty agree.valid nothing, frontEmpty]
      rfl
    · refine ⟨agree.valid, agree.bufferSize_pos, agree.ring_pos, ?_⟩
      intro tested
      by_cases same : tested = msgid
      · rw [same, nothing, queueRest, restEmpty]
      · rw [queueOther tested same]
        exact agree.contents_eq tested
  · obtain ⟨ring, present, ringValid, ringContents, ringPassed⟩ :=
      BufferedConnection.recvPass_of_contents agree.valid nothing
        data data.length
    have stored : ring.contents = front ++ rest.flatten :=
      ringContents.trans contents
    have available : (data.length : Int) ≤ ring.contents.length := by
      rw [stored, List.length_append]
      omega
    have sizeFits : FitsInt32 data.length := by
      have capacity := ringValid.capacity_fits
      have remaining := ringValid.remain_nonneg
      have length := CycleBuffer.length_contents ringValid
      unfold FitsInt32
      omega
    obtain ⟨read, readEq, readValid, sameCapacity, readContents⟩ :=
      CycleBuffer.read_spec ringValid (Int.natCast_nonneg data.length)
        available (Int.le_refl _)
    have handedOut :
        ring.contents.take (data.length : Int).toNat = front := by
      rw [Int.toNat_natCast, stored, matched, List.take_left]
    have left :
        ring.contents.drop (data.length : Int).toNat = rest.flatten := by
      rw [Int.toNat_natCast, stored, matched, List.drop_left]
    rw [handedOut] at readEq
    have bufferedPassed :
        buffered.recvPass msgid data data.length =
          .ok (some (⟨front.length, front⟩,
            buffered.setBuffer msgid read)) := by
      rw [ringPassed, toInt32_of_fits sizeFits, if_pos available, readEq,
        ok_bind]
      dsimp only
      rw [Int.toNat_natCast, matched, take_overwrite_zero]
      rfl
    refine ⟨queuedNext, buffered.setBuffer msgid read, queuedExec, ?_, ?_⟩
    · rw [BufferedConnection.execOp, BufferedConnection.recv, bufferedPassed]
      rfl
    · have ringPos := agree.ring_pos msgid ring present
      apply agree.setBuffer readValid (by omega)
      · rw [readContents, left, queueRest]
      · exact queueOther

/-- One matched operation observes the same in both builds and keeps them in
agreement. -/
theorem StoresAgree.execOp
    {queued : ClientConnection} {buffered : BufferedConnection}
    (agree : StoresAgree queued buffered) {op : StoreOp}
    (matched : MatchedOp queued buffered op) :
    ∃ next,
      buffered.execOp op = .ok ((queued.execOp op).1, next) ∧
      StoresAgree (queued.execOp op).2 next := by
  cases op with
  | write msgid data =>
      exact agree.write matched
  | recv msgid data =>
      rcases oldest : queued.queue msgid with _ | ⟨front, rest⟩
      · obtain ⟨queuedExec, bufferedExec⟩ := agree.recv_nothing oldest data
        rw [queuedExec]
        exact ⟨buffered, bufferedExec, agree⟩
      · have sameLength : data.length = front.length := by
          rwa [MatchedOp, oldest] at matched
        obtain ⟨queuedNext, bufferedNext, queuedExec, bufferedExec,
          nextAgree⟩ := agree.recv_front oldest sameLength
        rw [queuedExec]
        exact ⟨bufferedNext, bufferedExec, nextAgree⟩

theorem StoresAgree.runOps
    {queued : ClientConnection} {buffered : BufferedConnection}
    (agree : StoresAgree queued buffered) {ops : List StoreOp}
    (matched : MatchedRun queued buffered ops) :
    ∃ final, buffered.runOps ops = .ok ((queued.runOps ops).1, final) := by
  induction ops generalizing queued buffered with
  | nil =>
      exact ⟨buffered, rfl⟩
  | cons op rest inductionHypothesis =>
      obtain ⟨opMatched, restMatched⟩ := matched
      obtain ⟨next, executed, nextAgree⟩ := agree.execOp opMatched
      rw [executed] at restMatched
      obtain ⟨final, later⟩ := inductionHypothesis nextAgree restMatched
      refine ⟨final, ?_⟩
      rw [BufferedConnection.runOps, executed, ok_bind]
      simp only [later, ok_bind]
      rfl

/-- On every finite sequence of matched operations, over any message ids and
message sizes whose arithmetic fits and with any positive buffer size, the two
builds return the same values and store the same bytes at every receive. -/
theorem builds_agree
    (nodeid : String) (bufferSize : Int)
    (positive : 1 ≤ bufferSize) (fits : FitsInt32 bufferSize)
    (ops : List StoreOp)
    (matched :
      MatchedRun (.create nodeid) (.create nodeid bufferSize) ops) :
    ∃ final,
      (BufferedConnection.create nodeid bufferSize).runOps ops =
        .ok (((ClientConnection.create nodeid).runOps ops).1, final) := by
  have agree :
      StoresAgree (.create nodeid) (.create nodeid bufferSize) := by
    constructor
    · exact (BufferedConnection.Reachable.create nodeid bufferSize
        fits).valid
    · exact positive
    · intro msgid ring present
      cases present
    · intro msgid
      rfl
  exact agree.runOps matched

/-- Empty messages, an unknown id and a ring that grows from one byte. -/
def matchedOps : List StoreOp :=
  [.write "a" [], .write "a" [1, 2], .recv "b" [0], .write "a" [3],
    .recv "a" [], .recv "a" [0, 0], .recv "a" [0], .recv "a" [0, 0]]

theorem builds_agree_empty_message :
    ∃ final,
      (BufferedConnection.create "p0" 1).runOps matchedOps =
        .ok ([none, none, some ⟨0, []⟩, none, some ⟨0, []⟩,
          some ⟨2, [1, 2]⟩, some ⟨1, [3]⟩, some ⟨0, []⟩], final) :=
  builds_agree "p0" 1 (by decide) (by decide) matchedOps (by decide)

end ChannelSdk
