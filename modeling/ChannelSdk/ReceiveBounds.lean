import ChannelSdk.BufferedConnection

/-!
# When a receive stays inside the caller's buffer

The caller of `ClientConnection::recv` brings a buffer of `length` bytes, the
remote sender chooses the size of the message.  The queue build copies the
front message whatever `length` is, so it stays inside the buffer exactly when
that message fits.  The `USE_BUFFER` build copies as many bytes as it is asked
for, but asks with the 32-bit conversion of `length`: a converted length below
zero passes `can_read` and reaches `memcpy` as a huge size.

A call sees the connection at every pass of its loop, so the conditions are
about the connections that the call meets before its wait times out.
-/

namespace ChannelSdk

open CheckedMemory CircularWindow

/-- At most `length` bytes are stored and at most `length` is reported. -/
def Received.Within (length : Nat) (received : Received) : Prop :=
  received.stored.length ≤ length ∧ received.value ≤ length

/-- The connections that a call meets at its passes: the first one, and one
for each notification before a timeout. -/
def Wakeup.seen {Connection : Type} (first : Connection) :
    List (Wakeup Connection) → List Connection
  | [] | .timeout _ :: _ => [first]
  | .notified connection :: later => first :: seen connection later

theorem Wakeup.first_mem_seen
    {Connection : Type} (first : Connection)
    (wakeups : List (Wakeup Connection)) :
    first ∈ Wakeup.seen first wakeups := by
  rcases wakeups with _ | ⟨_ | _, _⟩ <;> simp [seen]

namespace ClientConnection

/-- Whatever the call returns, it stayed inside a buffer of `length` bytes. -/
def RecvWithin (self : ClientConnection) (msgid : String) (length : Nat)
    (wakeups : List (Wakeup ClientConnection)) : Prop :=
  ∀ received next, self.recv msgid wakeups = some (received, next) →
    received.Within length

/-- In the first connection met with a message for `msgid`, the front message
has at most `length` bytes. -/
def FirstFrontFits (msgid : String) (length : Nat)
    (connections : List ClientConnection) : Prop :=
  ∀ front,
    connections.findSome? (fun connection =>
      (connection.queue msgid).head?) = some front →
    front.length ≤ length

theorem recvPass_within_iff
    {self : ClientConnection} {msgid : String} {front : Bytes}
    (length : Nat) (queued : (self.queue msgid).head? = some front) :
    ∃ next, self.recvPass msgid = some (⟨front.length, front⟩, next) ∧
      ((⟨front.length, front⟩ : Received).Within length ↔
        front.length ≤ length) := by
  obtain ⟨rest, queueEq⟩ := List.head?_eq_some_iff.mp queued
  obtain ⟨next, passed⟩ := recvPass_of_queue queueEq
  refine ⟨next, passed, ?_⟩
  simp only [Received.Within, Int.ofNat_le, and_self]

theorem recvPass_of_head?_none
    {self : ClientConnection} {msgid : String}
    (nothing : (self.queue msgid).head? = none) :
    self.recvPass msgid = none :=
  (recvPass_eq_none_iff self msgid).mpr (List.head?_eq_none_iff.mp nothing)

theorem recvWithin_iff
    (self : ClientConnection) (msgid : String) (length : Nat)
    (wakeups : List (Wakeup ClientConnection)) :
    self.RecvWithin msgid length wakeups ↔
      FirstFrontFits msgid length (Wakeup.seen self wakeups) := by
  induction wakeups generalizing self with
  | nil =>
      rcases front : (self.queue msgid).head? with _ | front
      · simp [RecvWithin, recv, recvPass_of_head?_none front,
          FirstFrontFits, Wakeup.seen, front]
      · obtain ⟨next, passed, within⟩ := recvPass_within_iff length front
        simp [RecvWithin, recv, passed, FirstFrontFits, Wakeup.seen, front,
          within]
  | cons wakeup later inductionHypothesis =>
      rcases front : (self.queue msgid).head? with _ | front
      · have passed := recvPass_of_head?_none front
        cases wakeup with
        | timeout connection =>
            simp [RecvWithin, recv, passed, FirstFrontFits, Wakeup.seen,
              front, Received.Within]
        | notified connection =>
            have next := inductionHypothesis connection
            simpa [RecvWithin, recv, passed, FirstFrontFits, Wakeup.seen,
              front] using next
      · obtain ⟨next, passed, within⟩ := recvPass_within_iff length front
        cases wakeup <;>
          simp [RecvWithin, recv, passed, FirstFrontFits, Wakeup.seen,
            front, within]

end ClientConnection

namespace BufferedConnection

/-- The call does not fault, and whatever it returns, it stayed inside a
buffer of `length` bytes. -/
def RecvWithin (self : BufferedConnection) (msgid : String)
    (data : Bytes) (length : Nat)
    (wakeups : List (Wakeup BufferedConnection)) : Prop :=
  ∃ taken, self.recv msgid data length wakeups = .ok taken ∧
    ∀ received next, taken = some (received, next) →
      received.Within length

/-- The converted length is not negative, or no connection met has stored
bytes for `msgid`. -/
def LengthConverts (msgid : String) (length : Nat)
    (connections : List BufferedConnection) : Prop :=
  0 ≤ toInt32 length ∨
    ∀ connection ∈ connections, connection.contents msgid = []

theorem toInt32_le (length : Nat) : toInt32 length ≤ length := by
  unfold toInt32
  omega

/-- With a converted length in range, a pass stays inside the block. -/
theorem recvPass_within
    {self : BufferedConnection} (valid : self.Valid) (msgid : String)
    (data : Bytes) (nonneg : 0 ≤ toInt32 data.length) :
    ∃ taken, self.recvPass msgid data data.length = .ok taken ∧
      ∀ received next, taken = some (received, next) →
        received.Within data.length := by
  have converted := toInt32_le data.length
  by_cases nothing : self.contents msgid = []
  · exact ⟨none, recvPass_of_empty valid nothing data data.length,
      fun _ _ taken => by cases taken⟩
  · obtain ⟨ring, -, ringValid, -, passed⟩ :=
      recvPass_of_contents valid nothing data data.length
    by_cases readable : toInt32 data.length ≤ ring.contents.length
    · obtain ⟨next, readEq, -⟩ :=
        CycleBuffer.read_spec ringValid nonneg readable converted
      rw [passed, if_pos readable, readEq, ok_bind]
      refine ⟨_, rfl, ?_⟩
      intro received next taken
      obtain ⟨rfl, -⟩ := Prod.mk.inj (Option.some.inj taken)
      refine ⟨?_, converted⟩
      rw [List.length_take]
      omega
    · rw [passed, if_neg readable]
      exact ⟨none, rfl, fun _ _ taken => by cases taken⟩

/-- With a negative converted length, a pass that finds bytes faults. -/
theorem recvPass_faults
    {self : BufferedConnection} (valid : self.Valid) {msgid : String}
    {data : Bytes} (negative : ¬ 0 ≤ toInt32 data.length)
    (something : self.contents msgid ≠ []) :
    ∃ fault, self.recvPass msgid data data.length = .error fault := by
  obtain ⟨ring, -, ringValid, -, passed⟩ :=
    recvPass_of_contents valid something data data.length
  rw [passed, if_pos (by omega)]
  rcases readEq : ring.read data (toInt32 data.length) with fault | result
  · exact ⟨fault, rfl⟩
  · exact absurd (CycleBuffer.read_eq_ok ringValid readEq).1 negative

/-- A call whose converted length is in range never faults. -/
theorem recvWithin_of_nonneg
    {self : BufferedConnection}
    {wakeups : List (Wakeup BufferedConnection)}
    (valid : ∀ connection ∈ Wakeup.seen self wakeups, connection.Valid)
    (msgid : String) {data : Bytes} (nonneg : 0 ≤ toInt32 data.length) :
    self.RecvWithin msgid data data.length wakeups := by
  induction wakeups generalizing self with
  | nil =>
      exact recvPass_within (valid self (Wakeup.first_mem_seen _ _))
        msgid data nonneg
  | cons wakeup later inductionHypothesis =>
      obtain ⟨taken, passed, within⟩ :=
        recvPass_within (valid self (Wakeup.first_mem_seen _ _))
          msgid data nonneg
      cases wakeup with
      | timeout connection =>
          refine ⟨_, by rw [recv, passed, ok_bind]; rfl, ?_⟩
          intro received next returned
          cases taken with
          | none =>
              obtain ⟨rfl, -⟩ := Prod.mk.inj (Option.some.inj returned)
              exact ⟨Nat.zero_le _, Int.natCast_nonneg _⟩
          | some taken =>
              exact within received next returned
      | notified connection =>
          cases taken with
          | none =>
              obtain ⟨taken, later, laterWithin⟩ :=
                inductionHypothesis (fun found member =>
                  valid found (List.mem_cons_of_mem _ member))
              exact ⟨taken, by rw [recv, passed, ok_bind]; exact later,
                laterWithin⟩
          | some taken =>
              exact ⟨some taken, by rw [recv, passed, ok_bind]; rfl, within⟩

/-- A call that never finds stored bytes waits or times out. -/
theorem recvWithin_of_empty
    {self : BufferedConnection}
    {wakeups : List (Wakeup BufferedConnection)}
    (valid : ∀ connection ∈ Wakeup.seen self wakeups, connection.Valid)
    {msgid : String}
    (nothing :
      ∀ connection ∈ Wakeup.seen self wakeups,
        connection.contents msgid = [])
    (data : Bytes) (length : Nat) :
    self.RecvWithin msgid data length wakeups := by
  induction wakeups generalizing self with
  | nil =>
      have first := Wakeup.first_mem_seen self []
      exact ⟨none, recvPass_of_empty (valid self first)
        (nothing self first) data length, fun _ _ taken => by cases taken⟩
  | cons wakeup later inductionHypothesis =>
      have first := Wakeup.first_mem_seen self (wakeup :: later)
      have passed := recvPass_of_empty (valid self first)
        (nothing self first) data length
      cases wakeup with
      | timeout connection =>
          refine ⟨_, by rw [recv, passed, ok_bind]; rfl, ?_⟩
          intro received next returned
          obtain ⟨rfl, -⟩ := Prod.mk.inj (Option.some.inj returned)
          exact ⟨Nat.zero_le _, Int.natCast_nonneg _⟩
      | notified connection =>
          obtain ⟨taken, later, laterWithin⟩ :=
            inductionHypothesis
              (fun found member =>
                valid found (List.mem_cons_of_mem _ member))
              (fun found member =>
                nothing found (List.mem_cons_of_mem _ member))
          exact ⟨taken, by rw [recv, passed, ok_bind]; exact later,
            laterWithin⟩

theorem recv_of_recvPass_error
    {self : BufferedConnection} {msgid : String}
    {data : Bytes} {length : Nat} {fault : Fault}
    (faulted : self.recvPass msgid data length = .error fault)
    (wakeups : List (Wakeup BufferedConnection)) :
    self.recv msgid data length wakeups = .error fault := by
  rcases wakeups with _ | ⟨_ | _, _⟩ <;> simp [recv, faulted]

theorem first_empty_of_recvWithin
    {self : BufferedConnection}
    {wakeups : List (Wakeup BufferedConnection)}
    (valid : ∀ connection ∈ Wakeup.seen self wakeups, connection.Valid)
    {msgid : String} {data : Bytes}
    (negative : ¬ 0 ≤ toInt32 data.length)
    (within : self.RecvWithin msgid data data.length wakeups) :
    self.contents msgid = [] := by
  by_contra something
  obtain ⟨fault, faulted⟩ :=
    recvPass_faults (valid self (Wakeup.first_mem_seen _ _))
      negative something
  obtain ⟨taken, received, -⟩ := within
  rw [recv_of_recvPass_error faulted] at received
  cases received

/-- A call with a negative converted length that does not fault never found
stored bytes. -/
theorem empty_of_recvWithin
    {self : BufferedConnection}
    {wakeups : List (Wakeup BufferedConnection)}
    (valid : ∀ connection ∈ Wakeup.seen self wakeups, connection.Valid)
    {msgid : String} {data : Bytes}
    (negative : ¬ 0 ≤ toInt32 data.length)
    (within : self.RecvWithin msgid data data.length wakeups) :
    ∀ connection ∈ Wakeup.seen self wakeups,
      connection.contents msgid = [] := by
  induction wakeups generalizing self with
  | nil =>
      intro connection member
      cases List.mem_singleton.mp member
      exact first_empty_of_recvWithin valid negative within
  | cons wakeup later inductionHypothesis =>
      have firstEmpty := first_empty_of_recvWithin valid negative within
      cases wakeup with
      | timeout connection =>
          intro connection member
          cases List.mem_singleton.mp member
          exact firstEmpty
      | notified connection =>
          have passed :=
            recvPass_of_empty (valid self (Wakeup.first_mem_seen _ _))
              firstEmpty data data.length
          obtain ⟨taken, received, bounds⟩ := within
          rw [recv, passed, ok_bind] at received
          intro tested member
          rcases List.mem_cons.mp member with isFirst | isLater
          · rw [isFirst]
            exact firstEmpty
          · exact inductionHypothesis
              (fun found member =>
                valid found (List.mem_cons_of_mem _ member))
              ⟨taken, received, bounds⟩ tested isLater

theorem bufferedRecvWithin_iff
    {self : BufferedConnection}
    {wakeups : List (Wakeup BufferedConnection)}
    (reachable :
      ∀ connection ∈ Wakeup.seen self wakeups, connection.Reachable)
    (msgid : String) (data : Bytes) :
    self.RecvWithin msgid data data.length wakeups ↔
      LengthConverts msgid data.length (Wakeup.seen self wakeups) := by
  have valid :
      ∀ connection ∈ Wakeup.seen self wakeups, connection.Valid :=
    fun connection member => (reachable connection member).valid
  constructor
  · intro within
    by_cases nonneg : 0 ≤ toInt32 data.length
    · exact Or.inl nonneg
    · exact Or.inr (empty_of_recvWithin valid nonneg within)
  · intro condition
    rcases condition with nonneg | nothing
    · exact recvWithin_of_nonneg valid msgid nonneg
    · exact recvWithin_of_empty valid nothing data data.length

end BufferedConnection

/-- A receive stays inside the caller's buffer exactly when, in the queue
build, the front message of the first non-empty queue that it meets fits the
buffer, and, in the `USE_BUFFER` build, the length converts to a non-negative
32-bit integer or no stored byte is ever met. -/
theorem recv_within_buffer_iff
    (msgid : String) :
    (∀ (self : ClientConnection) (length : Nat)
        (wakeups : List (Wakeup ClientConnection)),
      self.RecvWithin msgid length wakeups ↔
        ClientConnection.FirstFrontFits msgid length
          (Wakeup.seen self wakeups)) ∧
    (∀ (self : BufferedConnection) (data : Bytes)
        (wakeups : List (Wakeup BufferedConnection)),
      (∀ connection ∈ Wakeup.seen self wakeups, connection.Reachable) →
        (self.RecvWithin msgid data data.length wakeups ↔
          BufferedConnection.LengthConverts msgid data.length
            (Wakeup.seen self wakeups))) :=
  ⟨fun self length wakeups => self.recvWithin_iff msgid length wakeups,
    fun _ data _ reachable =>
      BufferedConnection.bufferedRecvWithin_iff reachable msgid data⟩

/-- The bytes of an ASCII text. -/
def asciiBytes (text : String) : Bytes :=
  text.toList.map fun character => UInt8.ofNat character.toNat

/-- What the one-to-one test pair does: its client sends 23 bytes and its
server asks for 22, so 23 bytes are stored through a 22-byte buffer. -/
theorem recv_overruns_buffer :
    ¬ ((ClientConnection.create "p0").write ""
        (asciiBytes "this is test p0 client.")).2.RecvWithin "" 22 [] := by
  intro within
  have bounds :=
    within ⟨23, asciiBytes "this is test p0 client."⟩ _ rfl
  exact absurd bounds.1 (by decide)

/-- The same call with a buffer of 23 bytes, in both builds. -/
theorem recv_within_buffer_iff_matching :
    ((ClientConnection.create "p0").write ""
        (asciiBytes "this is test p0 client.")).2.RecvWithin "" 23 [] ∧
      (BufferedConnection.create "p0" 8).RecvWithin ""
        (List.replicate 23 0) (List.replicate 23 (0 : UInt8)).length [] := by
  constructor
  · apply ((recv_within_buffer_iff "").1 _ 23 []).mpr
    intro front found
    cases found
    decide
  · apply ((recv_within_buffer_iff "").2 _ (List.replicate 23 0) [] ?_).mpr
    · exact Or.inl (by decide)
    · intro connection member
      cases List.mem_singleton.mp member
      exact .create "p0" 8 (by decide)

end ChannelSdk
