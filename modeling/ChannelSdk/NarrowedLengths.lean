import ChannelSdk.GrowthSafety
import ChannelSdk.ReceiveBounds

/-!
# When lengths survive the conversion to 32 bits

The interface of the `USE_BUFFER` build takes message sizes and requested
lengths of 64 bits, the ring takes an `int32_t`.  A write is complete when
every byte of the message is appended.  A receive is faithful when it returns
zero over an unchanged store that it found too short, or hands out exactly
the bytes that it was asked for.

A size is lost from `2 ^ 31` bytes on.  A requested length that is lost does
no harm as long as the call never gets to read: no store that it looks at
holds bytes enough for the converted length.
-/

namespace ChannelSdk

open CheckedMemory CircularWindow

/-- The points at which a call can return: the connection of its last look
and the one it leaves, which differ only when its wait times out. -/
def Wakeup.returnPoints {Connection : Type} (first : Connection) :
    List (Wakeup Connection) → List (Connection × Connection)
  | [] => [(first, first)]
  | .timeout connection :: _ => [(first, first), (first, connection)]
  | .notified connection :: later =>
      (first, first) :: returnPoints connection later

theorem Wakeup.first_mem_returnPoints
    {Connection : Type} (first : Connection)
    (wakeups : List (Wakeup Connection)) :
    (first, first) ∈ Wakeup.returnPoints first wakeups := by
  rcases wakeups with _ | ⟨_ | _, _⟩ <;> simp [returnPoints]

namespace BufferedConnection

/-! ## Writes -/

/-- Every byte of the message is stored behind the bytes of its id, and no
other id is touched. -/
def WriteAppends (self : BufferedConnection) (msgid : String)
    (data : Bytes) : Prop :=
  ∃ next, self.write msgid data = .ok (true, next) ∧
    ∀ tested, next.contents tested =
      if tested = msgid then self.contents msgid ++ data
      else self.contents tested

/-- The message has fewer than `2 ^ 31` bytes, and its id has or gets a ring
with room for it or with a capacity that can grow. -/
def SizeConverts (self : BufferedConnection) (msgid : String)
    (data : Bytes) : Prop :=
  data.length < 2147483648 ∧
    ∃ ring, self.ensureBuffer msgid = .ok ring ∧
      ring.Growable data.length

theorem ensureBuffer_contents
    {self : BufferedConnection} (valid : self.Valid) {msgid : String}
    {ring : CycleBuffer} (found : self.ensureBuffer msgid = .ok ring) :
    ring.contents = self.contents msgid := by
  unfold ensureBuffer at found
  unfold contents
  split at found
  · cases found
    rfl
  · have nonneg : 0 ≤ self.bufferSize := by
      by_contra negative
      rw [CycleBuffer.create, newBlock, if_pos (by omega)] at found
      cases found
    rcases CycleBuffer.create_spec nonneg valid.bufferSize_fits.2 with
      ⟨created, createEq, -, -, nothing⟩
    rw [found] at createEq
    cases createEq
    exact nothing

theorem length_contents_le
    {self : BufferedConnection} (valid : self.Valid) (msgid : String) :
    (self.contents msgid).length ≤ 2147483647 := by
  unfold contents
  split
  · next ring present =>
      have ringValid := valid.ring_valid msgid ring present
      have length := CycleBuffer.length_contents ringValid
      have capacity := ringValid.capacity_fits
      have remain := ringValid.remain_nonneg
      omega
  · exact Nat.zero_le _

theorem writeAppends_of_sizeConverts
    {self : BufferedConnection} (valid : self.Valid) {msgid : String}
    {data : Bytes} (converts : self.SizeConverts msgid data) :
    self.WriteAppends msgid data := by
  rcases converts with ⟨small, ring, found, growable⟩
  have ringValid := valid.ensureBuffer found
  rcases (CycleBuffer.growable_iff ringValid (by omega)).mp growable with
    ⟨positive, fits⟩
  rcases CycleBuffer.write_spec ringValid (Int.natCast_nonneg data.length)
      positive fits (Int.le_refl _) with
    ⟨appended, writeEq, -, -, appendedContents⟩
  rw [Int.toNat_natCast, List.take_length,
    ensureBuffer_contents valid found] at appendedContents
  refine ⟨self.setBuffer msgid appended, ?_, ?_⟩
  · rw [write, found, ok_bind, toInt32_of_small small, writeEq]
    rfl
  · intro tested
    rw [contents_setBuffer, appendedContents]

theorem sizeConverts_of_writeAppends
    {self : BufferedConnection} (reachable : self.Reachable)
    {msgid : String} {data : Bytes}
    (appends : self.WriteAppends msgid data) :
    self.SizeConverts msgid data := by
  rcases appends with ⟨next, written, stored⟩
  have valid := reachable.valid
  have nextValid := (Reachable.write reachable written).valid
  have small : data.length < 2147483648 := by
    have bounded := length_contents_le nextValid msgid
    rw [stored msgid, if_pos rfl, List.length_append] at bounded
    omega
  rcases bind_eq_ok written with ⟨ring, found, written⟩
  rcases bind_eq_ok written with ⟨result, writeEq, -⟩
  rw [toInt32_of_small small] at writeEq
  have ringValid := valid.ensureBuffer found
  rcases CycleBuffer.write_eq_ok ringValid writeEq with
    ⟨nonneg, -, positive, fits⟩
  exact ⟨small, ring, found,
    (CycleBuffer.growable_iff ringValid nonneg).mpr ⟨positive, fits⟩⟩

/-! ## Receives -/

/-- The call was asked for `length` bytes, got exactly these and removed
exactly these. -/
def HandsOut (self next : BufferedConnection) (msgid : String)
    (length : Nat) (received : Received) : Prop :=
  received.value = length ∧
    received.stored = (self.contents msgid).take length ∧
    length ≤ (self.contents msgid).length ∧
    ∀ tested, next.contents tested =
      if tested = msgid then (self.contents msgid).drop length
      else self.contents tested

/-- The call returns zero, leaves the store as it is, and had looked at a
store with fewer than `length` bytes. -/
def ReportsNothing (looked left next : BufferedConnection) (msgid : String)
    (length : Nat) (received : Received) : Prop :=
  received.value = 0 ∧ received.stored = [] ∧
    (looked.contents msgid).length < length ∧
    ∀ tested, next.contents tested = left.contents tested

/-- The call does not fault, and whenever it returns, it does one of the two
at one of the points at which it can return. -/
def RecvFaithful (self : BufferedConnection) (msgid : String)
    (data : Bytes) (wakeups : List (Wakeup BufferedConnection)) : Prop :=
  ∃ taken, self.recv msgid data data.length wakeups = .ok taken ∧
    ∀ received next, taken = some (received, next) →
      ∃ looked left, (looked, left) ∈ Wakeup.returnPoints self wakeups ∧
        (ReportsNothing looked left next msgid data.length received ∨
          HandsOut left next msgid data.length received)

/-- A pass over this connection reads. -/
def Reads (msgid : String) (length : Nat)
    (connection : BufferedConnection) : Prop :=
  connection.contents msgid ≠ [] ∧
    toInt32 length ≤ (connection.contents msgid).length

/-- The requested length is below `2 ^ 31` or a multiple of `2 ^ 32`, or no
connection that the call looks at is read. -/
def RequestConverts (msgid : String) (length : Nat)
    (connections : List BufferedConnection) : Prop :=
  length < 2147483648 ∨ toInt32 length = 0 ∨
    ∀ connection ∈ connections, ¬ Reads msgid length connection

theorem recvPass_of_not_reads
    {self : BufferedConnection} (valid : self.Valid) {msgid : String}
    {data : Bytes} {length : Nat} (idle : ¬ Reads msgid length self) :
    self.recvPass msgid data length = .ok none := by
  by_cases nothing : self.contents msgid = []
  · exact recvPass_of_empty valid nothing data length
  · rcases recvPass_of_contents valid nothing data length with
      ⟨ring, -, -, same, passed⟩
    rw [passed, if_neg]
    rw [same]
    exact fun enough => idle ⟨nothing, enough⟩

theorem recvPass_of_reads
    {self : BufferedConnection} (valid : self.Valid) {msgid : String}
    {data : Bytes} (reads : Reads msgid data.length self)
    (nonneg : 0 ≤ toInt32 data.length) :
    ∃ next,
      self.recvPass msgid data data.length =
        .ok (some (⟨toInt32 data.length,
          (self.contents msgid).take (toInt32 data.length).toNat⟩, next)) ∧
      ∀ tested, next.contents tested =
        if tested = msgid then
          (self.contents msgid).drop (toInt32 data.length).toNat
        else self.contents tested := by
  rcases reads with ⟨something, enough⟩
  rcases recvPass_of_contents valid something data data.length with
    ⟨ring, -, ringValid, same, passed⟩
  rw [← same] at enough
  rcases CycleBuffer.read_spec ringValid nonneg enough
      (toInt32_le data.length) with ⟨read, readEq, -, -, readContents⟩
  have front :
      (overwrite data 0
          (ring.contents.take (toInt32 data.length).toNat)).take
            (toInt32 data.length).toNat =
        ring.contents.take (toInt32 data.length).toNat := by
    have whole := take_overwrite_zero data
      (ring.contents.take (toInt32 data.length).toNat)
    rwa [List.length_take, Nat.min_eq_left (by omega)] at whole
  refine ⟨self.setBuffer msgid read, ?_, ?_⟩
  · rw [passed, if_pos enough, readEq, ok_bind]
    dsimp only
    rw [front, same]
    rfl
  · intro tested
    rw [contents_setBuffer, readContents, same]

theorem recv_of_recvPass_some
    {self : BufferedConnection} {msgid : String}
    {data : Bytes} {length : Nat} {result : Received × BufferedConnection}
    (passed : self.recvPass msgid data length = .ok (some result))
    (wakeups : List (Wakeup BufferedConnection)) :
    self.recv msgid data length wakeups = .ok (some result) := by
  rcases wakeups with _ | ⟨_ | _, _⟩ <;> rw [recv, passed] <;> rfl

/-- A length that converts, or converts to zero, is read faithfully. -/
theorem recvPass_faithful
    {self : BufferedConnection} (valid : self.Valid) {msgid : String}
    {data : Bytes} (reads : Reads msgid data.length self)
    (converts : data.length < 2147483648 ∨ toInt32 data.length = 0) :
    ∃ received next,
      self.recvPass msgid data data.length = .ok (some (received, next)) ∧
      (ReportsNothing self self next msgid data.length received ∨
        HandsOut self next msgid data.length received) := by
  by_cases small : data.length < 2147483648
  · have converted := toInt32_of_small small
    rcases recvPass_of_reads valid reads (by omega) with
      ⟨next, passed, nextContents⟩
    rw [converted, Int.toNat_natCast] at passed nextContents
    have enough := reads.2
    exact ⟨_, next, passed, .inr ⟨rfl, rfl, by omega, nextContents⟩⟩
  · have converted : toInt32 data.length = 0 := by
      rcases converts with isSmall | isZero
      · exact absurd isSmall small
      · exact isZero
    rcases recvPass_of_reads valid reads (by omega) with
      ⟨next, passed, nextContents⟩
    rw [converted, Int.toNat_zero, List.take_zero] at passed
    rw [converted, Int.toNat_zero, List.drop_zero] at nextContents
    have bounded := length_contents_le valid msgid
    refine ⟨_, next, passed, .inl ⟨rfl, rfl, by omega, ?_⟩⟩
    intro tested
    rw [nextContents]
    split
    next same => rw [same]
    next => rfl

/-- A wait that times out over a store that was not read reports nothing. -/
theorem timeout_faithful
    {looked : BufferedConnection} {msgid : String} {length : Nat}
    (idle : ¬ Reads msgid length looked) (left : BufferedConnection) :
    ReportsNothing looked left left msgid length ⟨0, []⟩ ∨
      HandsOut left left msgid length ⟨0, []⟩ := by
  by_cases short : (looked.contents msgid).length < length
  · exact .inl ⟨rfl, rfl, short, fun _ => rfl⟩
  · have converted := toInt32_le length
    have nothing : looked.contents msgid = [] := by
      by_contra something
      exact idle ⟨something, by omega⟩
    have isZero : length = 0 := by
      rw [nothing] at short
      exact Nat.eq_zero_of_not_pos short
    subst isZero
    refine .inr ⟨rfl, rfl, Nat.zero_le _, ?_⟩
    intro tested
    rw [List.drop_zero]
    split
    next same => rw [same]
    next => rfl

theorem narrow_of_requestConverts
    {self : BufferedConnection} {msgid : String} {length : Nat}
    {connections : List BufferedConnection}
    (converts : RequestConverts msgid length connections)
    (member : self ∈ connections) (reads : Reads msgid length self) :
    length < 2147483648 ∨ toInt32 length = 0 := by
  rcases converts with small | isZero | idle
  · exact .inl small
  · exact .inr isZero
  · exact absurd reads (idle self member)

theorem recvFaithful_of_reads
    {self : BufferedConnection} (valid : self.Valid) {msgid : String}
    {data : Bytes} (reads : Reads msgid data.length self)
    (converts : data.length < 2147483648 ∨ toInt32 data.length = 0)
    (wakeups : List (Wakeup BufferedConnection)) :
    self.RecvFaithful msgid data wakeups := by
  rcases recvPass_faithful valid reads converts with
    ⟨received, next, passed, faithful⟩
  refine ⟨some (received, next), recv_of_recvPass_some passed wakeups, ?_⟩
  intro _ _ returned
  cases returned
  exact ⟨self, self, Wakeup.first_mem_returnPoints _ _, faithful⟩

theorem recvFaithful_of_requestConverts
    {self : BufferedConnection}
    {wakeups : List (Wakeup BufferedConnection)}
    (valid : ∀ connection ∈ Wakeup.seen self wakeups, connection.Valid)
    {msgid : String} {data : Bytes}
    (converts :
      RequestConverts msgid data.length (Wakeup.seen self wakeups)) :
    self.RecvFaithful msgid data wakeups := by
  induction wakeups generalizing self with
  | nil =>
      have first := Wakeup.first_mem_seen self []
      by_cases reads : Reads msgid data.length self
      · exact recvFaithful_of_reads (valid self first) reads
          (narrow_of_requestConverts converts first reads) []
      · exact ⟨none, recvPass_of_not_reads (valid self first) reads,
          fun _ _ returned => nomatch returned⟩
  | cons wakeup later inductionHypothesis =>
      have first := Wakeup.first_mem_seen self (wakeup :: later)
      by_cases reads : Reads msgid data.length self
      · exact recvFaithful_of_reads (valid self first) reads
          (narrow_of_requestConverts converts first reads) _
      · have passed :
            self.recvPass msgid data data.length = .ok none :=
          recvPass_of_not_reads (valid self first) reads
        cases wakeup with
        | timeout connection =>
            refine ⟨some (⟨0, []⟩, connection), ?_, ?_⟩
            · rw [recv, passed]
              rfl
            · intro _ _ returned
              cases returned
              exact ⟨self, connection, by simp [Wakeup.returnPoints],
                timeout_faithful reads connection⟩
        | notified connection =>
            have laterValid :
                ∀ found ∈ Wakeup.seen connection later, found.Valid :=
              fun found member => valid found (List.mem_cons_of_mem _ member)
            have laterConverts :
                RequestConverts msgid data.length
                  (Wakeup.seen connection later) := by
              rcases converts with small | isZero | idle
              · exact .inl small
              · exact .inr (.inl isZero)
              · exact .inr (.inr fun found member =>
                  idle found (List.mem_cons_of_mem _ member))
            rcases inductionHypothesis laterValid laterConverts with
              ⟨taken, received, faithful⟩
            refine ⟨taken, by rw [recv, passed]; exact received, ?_⟩
            intro value next returned
            rcases faithful value next returned with
              ⟨looked, left, point, outcome⟩
            exact ⟨looked, left, List.mem_cons_of_mem _ point, outcome⟩

/-- The call does not fault and reports nothing else than zero or the length
that it was asked for. -/
def ReportsLength (self : BufferedConnection) (msgid : String)
    (data : Bytes) (wakeups : List (Wakeup BufferedConnection)) : Prop :=
  ∃ taken, self.recv msgid data data.length wakeups = .ok taken ∧
    ∀ received next, taken = some (received, next) →
      received.value = 0 ∨ received.value = data.length

theorem reportsLength_of_recvFaithful
    {self : BufferedConnection} {msgid : String} {data : Bytes}
    {wakeups : List (Wakeup BufferedConnection)}
    (faithful : self.RecvFaithful msgid data wakeups) :
    self.ReportsLength msgid data wakeups := by
  rcases faithful with ⟨taken, received, faithful⟩
  refine ⟨taken, received, ?_⟩
  intro value next returned
  rcases faithful value next returned with ⟨_, _, -, reports | hands⟩
  · exact .inl reports.1
  · exact .inr hands.1

/-- A read with a lost length faults or reports the converted length. -/
theorem not_reads_of_reportsLength
    {self : BufferedConnection} (valid : self.Valid) {msgid : String}
    {data : Bytes} {wakeups : List (Wakeup BufferedConnection)}
    (large : ¬ data.length < 2147483648)
    (nonzero : toInt32 data.length ≠ 0)
    (reports : self.ReportsLength msgid data wakeups) :
    ¬ Reads msgid data.length self := by
  intro reads
  rcases reports with ⟨taken, received, reports⟩
  by_cases nonneg : 0 ≤ toInt32 data.length
  · rcases recvPass_of_reads valid reads nonneg with ⟨next, passed, -⟩
    rw [recv_of_recvPass_some passed] at received
    have bounded := length_contents_le valid msgid
    have enough := reads.2
    rcases reports _ next (Except.ok.inj received).symm with isZero | whole
    · exact nonzero isZero
    · dsimp only at whole
      omega
  · rcases recvPass_faults valid nonneg reads.1 with ⟨fault, faulted⟩
    rw [recv_of_recvPass_error faulted] at received
    cases received

theorem not_reads_of_seen
    {self : BufferedConnection}
    {wakeups : List (Wakeup BufferedConnection)}
    (valid : ∀ connection ∈ Wakeup.seen self wakeups, connection.Valid)
    {msgid : String} {data : Bytes}
    (large : ¬ data.length < 2147483648)
    (nonzero : toInt32 data.length ≠ 0)
    (reports : self.ReportsLength msgid data wakeups) :
    ∀ connection ∈ Wakeup.seen self wakeups,
      ¬ Reads msgid data.length connection := by
  induction wakeups generalizing self with
  | nil =>
      have firstValid := valid self (Wakeup.first_mem_seen _ _)
      intro connection member
      cases List.mem_singleton.mp member
      exact not_reads_of_reportsLength firstValid large nonzero reports
  | cons wakeup later inductionHypothesis =>
      have firstValid := valid self (Wakeup.first_mem_seen _ _)
      have idle :=
        not_reads_of_reportsLength firstValid large nonzero reports
      cases wakeup with
      | timeout connection =>
          intro connection member
          cases List.mem_singleton.mp member
          exact idle
      | notified connection =>
          have passed :
              self.recvPass msgid data data.length = .ok none :=
            recvPass_of_not_reads firstValid idle
          rcases reports with ⟨taken, received, reports⟩
          rw [recv, passed, ok_bind] at received
          intro tested member
          rcases List.mem_cons.mp member with isFirst | isLater
          · rw [isFirst]
            exact idle
          · exact inductionHypothesis
              (fun found member =>
                valid found (List.mem_cons_of_mem _ member))
              ⟨taken, received, reports⟩ tested isLater

theorem recvFaithful_iff
    {self : BufferedConnection}
    {wakeups : List (Wakeup BufferedConnection)}
    (valid : ∀ connection ∈ Wakeup.seen self wakeups, connection.Valid)
    (msgid : String) (data : Bytes) :
    self.RecvFaithful msgid data wakeups ↔
      RequestConverts msgid data.length (Wakeup.seen self wakeups) := by
  constructor
  · intro faithful
    by_cases small : data.length < 2147483648
    · exact .inl small
    · by_cases isZero : toInt32 data.length = 0
      · exact .inr (.inl isZero)
      · exact .inr (.inr (not_reads_of_seen valid small isZero
          (reportsLength_of_recvFaithful faithful)))
  · exact recvFaithful_of_requestConverts valid

end BufferedConnection

/-- A write appends its whole message exactly when the message has fewer than
`2 ^ 31` bytes and meets a ring with room or with a capacity that can grow.  A
receive is faithful exactly when its length is below `2 ^ 31` or a multiple of
`2 ^ 32`, or when no store that it looks at has bytes enough for the converted
length. -/
theorem lengths_survive_narrowing_iff (msgid : String) (data : Bytes) :
    (∀ self : BufferedConnection, self.Reachable →
      (self.WriteAppends msgid data ↔ self.SizeConverts msgid data)) ∧
    (∀ (self : BufferedConnection)
        (wakeups : List (Wakeup BufferedConnection)),
      (∀ connection ∈ Wakeup.seen self wakeups, connection.Reachable) →
        (self.RecvFaithful msgid data wakeups ↔
          BufferedConnection.RequestConverts msgid data.length
            (Wakeup.seen self wakeups))) := by
  constructor
  · intro self reachable
    exact ⟨BufferedConnection.sizeConverts_of_writeAppends reachable,
      BufferedConnection.writeAppends_of_sizeConverts reachable.valid⟩
  · intro self wakeups reachable
    exact BufferedConnection.recvFaithful_iff
      (fun connection member => (reachable connection member).valid)
      msgid data

/-- A store of capacity 8 that holds one byte for `m`. -/
def oneByteStore : BufferedConnection :=
  (BufferedConnection.create "p0" 8).setBuffer "m"
    ⟨0, 1, 8, 7, [7, 0, 0, 0, 0, 0, 0, 0]⟩

theorem oneByteStore_reachable : oneByteStore.Reachable := by
  have written :
      (BufferedConnection.create "p0" 8).write "m" [7] =
        .ok (true, oneByteStore) := rfl
  exact .write (.create "p0" 8 (by decide)) written

/-- Asked for `2 ^ 32 + 1` bytes, the call takes the one byte that is stored
and returns 1. -/
theorem recv_returns_converted_length :
    oneByteStore.Reachable ∧ oneByteStore.contents "m" = [7] ∧
      ¬ oneByteStore.RecvFaithful "m" (List.replicate 4294967297 0) [] := by
  have stored : oneByteStore.contents "m" = [7] := by decide
  have asked : (List.replicate 4294967297 (0 : UInt8)).length = 4294967297 :=
    List.length_replicate
  refine ⟨oneByteStore_reachable, stored, ?_⟩
  intro faithful
  apply BufferedConnection.not_reads_of_reportsLength
    oneByteStore_reachable.valid ?_ ?_
    (BufferedConnection.reportsLength_of_recvFaithful faithful)
  · refine ⟨by rw [stored]; decide, ?_⟩
    rw [asked, stored]
    decide
  · rw [asked]
    decide
  · rw [asked]
    decide

/-- The same store with a message that makes its ring grow, and asked for as
many bytes as it holds. -/
theorem lengths_survive_narrowing_small :
    oneByteStore.WriteAppends "m" [1, 2, 3, 4, 5, 6, 7, 8] ∧
      oneByteStore.RecvFaithful "m" [0] [.timeout oneByteStore] := by
  constructor
  · apply ((lengths_survive_narrowing_iff "m" _).1 _
      oneByteStore_reachable).mpr
    exact ⟨by decide, _, rfl, by decide⟩
  · apply ((lengths_survive_narrowing_iff "m" _).2 _ _ ?_).mpr
    · exact .inl (by decide)
    · intro connection member
      cases List.mem_singleton.mp member
      exact oneByteStore_reachable

end ChannelSdk
