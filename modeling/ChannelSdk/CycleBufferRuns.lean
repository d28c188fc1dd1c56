import ChannelSdk.CycleBufferFifo

/-!
# Runs of a `cycle_buffer`

A run is a finite sequence of calls on one buffer.  Every read and every peek
is preceded by a successful `can_read`, as `ClientConnection::recv` does, and
the capacity products of the run fit their type.  Such a run never faults and
the buffer behaves as a byte queue throughout.
-/

namespace ChannelSdk.CycleBuffer

open CheckedMemory CircularWindow

/-- One call with the caller's block and the requested length. -/
inductive Call where
  | write (data : Bytes) (length : Int)
  | read (data : Bytes) (length : Int)
  | peek (data : Bytes) (length : Int)
  deriving DecidableEq, Repr

namespace Call

/-- The returned value, the caller's block and the buffer after a call. -/
def exec (self : CycleBuffer) :
    Call → Except Fault (Int × Bytes × CycleBuffer)
  | .write data length => do
      let (returned, next) ← self.write data length
      return (returned, data, next)
  | .read data length => self.read data length
  | .peek data length => do
      let (returned, data) ← self.peek data length
      return (returned, data, self)

/-- What the caller owes: a block of at least `length` bytes, a read or peek
that `can_read` allows, and a capacity product in range. -/
def Permitted (self : CycleBuffer) : Call → Prop
  | .write data length =>
      0 ≤ length ∧ length ≤ data.length ∧ self.GrowthFits length
  | .read data length | .peek data length =>
      0 ≤ length ∧ length ≤ data.length ∧
        self.canRead length = .ok true

instance (self : CycleBuffer) (call : Call) :
    Decidable (call.Permitted self) :=
  match call with
  | .write data length =>
      inferInstanceAs (Decidable (0 ≤ length ∧ length ≤ data.length ∧
        self.GrowthFits length))
  | .read data length | .peek data length =>
      inferInstanceAs (Decidable (0 ≤ length ∧ length ≤ data.length ∧
        self.canRead length = .ok true))

/-- The bytes that a call passes to the buffer. -/
def written : Call → Bytes
  | .write data length => data.take length.toNat
  | .read _ _ | .peek _ _ => []

/-- The bytes that a call takes out of the buffer, as its caller finds them
in its block. -/
def taken : Call → Bytes → Bytes
  | .read _ length, data => data.take length.toNat
  | .write _ _, _ | .peek _ _, _ => []

end Call

/-- Execute the calls in order and collect their results. -/
def runCalls (self : CycleBuffer) :
    List Call → Except Fault (List (Int × Bytes) × CycleBuffer)
  | [] => .ok ([], self)
  | call :: rest => do
      let (returned, data, next) ← call.exec self
      let (results, final) ← runCalls next rest
      return ((returned, data) :: results, final)

/-- Every call of the run is permitted in the state in which it is made. -/
def PermittedRun (self : CycleBuffer) : List Call → Prop
  | [] => True
  | call :: rest =>
      call.Permitted self ∧
        match call.exec self with
        | .ok (_, _, next) => PermittedRun next rest
        | .error _ => True

instance decidablePermittedRun :
    (self : CycleBuffer) → (calls : List Call) →
      Decidable (self.PermittedRun calls)
  | _, [] => inferInstanceAs (Decidable True)
  | self, call :: rest =>
      have : Decidable
          (match call.exec self with
            | .ok (_, _, next) => PermittedRun next rest
            | .error _ => True) :=
        match call.exec self with
        | .ok (_, _, next) => decidablePermittedRun next rest
        | .error _ => inferInstanceAs (Decidable True)
      inferInstanceAs (Decidable (call.Permitted self ∧ _))

/-- The concatenation of all bytes that a run writes. -/
def writtenBytes (calls : List Call) : Bytes :=
  calls.flatMap Call.written

/-- The concatenation of all bytes that the reads of a run hand out. -/
def takenBytes (calls : List Call) (results : List (Int × Bytes)) : Bytes :=
  (calls.zip results).flatMap fun (call, _, data) => call.taken data

theorem canRead_true_iff
    {self : CycleBuffer} (valid : self.Valid) (length : Int) :
    self.canRead length = .ok true ↔ length ≤ self.contents.length := by
  rw [canRead_eq valid, Except.ok.injEq, decide_eq_true_iff]

private theorem take_handedOut
    {data stored : Bytes} {length : Int}
    (available : length ≤ stored.length) :
    (overwrite data 0 (stored.take length.toNat)).take length.toNat =
      stored.take length.toNat := by
  have front :=
    take_overwrite_zero data (stored.take length.toNat)
  rwa [List.length_take, Nat.min_eq_left (by omega)] at front

/-- One permitted call succeeds, keeps the invariant and acts on the stored
bytes as on a queue. -/
theorem exec_spec
    {self : CycleBuffer} (valid : self.Valid) (positive : 1 ≤ self.n)
    {call : Call} (permitted : call.Permitted self) :
    ∃ returned data next,
      call.exec self = .ok (returned, data, next) ∧
      next.Valid ∧ 1 ≤ next.n ∧
      call.taken data ++ next.contents = self.contents ++ call.written := by
  cases call with
  | write data length =>
      obtain ⟨nonneg, given, fits⟩ := permitted
      obtain ⟨next, writeEq, nextValid, grownLe, nextContents⟩ :=
        write_spec valid nonneg (fun _ => positive) fits given
      refine ⟨length, data, next, ?_, nextValid, by omega, ?_⟩
      · rw [Call.exec, writeEq]
        rfl
      · simpa [Call.taken, Call.written] using nextContents
  | read data length =>
      obtain ⟨nonneg, room, readable⟩ := permitted
      have available := (canRead_true_iff valid length).mp readable
      obtain ⟨next, readEq, nextValid, sameCapacity, nextContents⟩ :=
        read_spec valid nonneg available room
      refine ⟨length, _, next, readEq, nextValid, by omega, ?_⟩
      rw [Call.taken, Call.written, take_handedOut available, nextContents,
        List.take_append_drop, List.append_nil]
  | peek data length =>
      obtain ⟨nonneg, room, readable⟩ := permitted
      have available := (canRead_true_iff valid length).mp readable
      refine ⟨length, overwrite data 0 (self.contents.take length.toNat),
        self, ?_, valid, positive, ?_⟩
      · rw [Call.exec, peek_spec valid nonneg available room]
        rfl
      · simp [Call.taken, Call.written]

/-- A permitted run succeeds from every valid state; what its reads hand out,
followed by what is left, is what was there followed by what it wrote. -/
theorem runCalls_spec
    {self : CycleBuffer} (valid : self.Valid) (positive : 1 ≤ self.n)
    {calls : List Call} (permitted : self.PermittedRun calls) :
    ∃ results final,
      self.runCalls calls = .ok (results, final) ∧
      final.Valid ∧ 1 ≤ final.n ∧
      takenBytes calls results ++ final.contents =
        self.contents ++ writtenBytes calls := by
  induction calls generalizing self with
  | nil =>
      exact ⟨[], self, rfl, valid, positive, by simp [takenBytes, writtenBytes]⟩
  | cons call rest inductionHypothesis =>
      obtain ⟨callPermitted, restPermitted⟩ := permitted
      obtain ⟨returned, data, next, execEq, nextValid, nextPositive,
        queued⟩ := exec_spec valid positive callPermitted
      rw [execEq] at restPermitted
      obtain ⟨results, final, runEq, finalValid, finalPositive,
        restQueued⟩ :=
        inductionHypothesis nextValid nextPositive restPermitted
      refine ⟨(returned, data) :: results, final, ?_, finalValid,
        finalPositive, ?_⟩
      · rw [runCalls, execEq, ok_bind]
        simp only [runEq, ok_bind]
        rfl
      · have taken :
            takenBytes (call :: rest) ((returned, data) :: results) =
              call.taken data ++ takenBytes rest results := rfl
        have written :
            writtenBytes (call :: rest) =
              call.written ++ writtenBytes rest := rfl
        rw [taken, written, List.append_assoc, restQueued,
          ← List.append_assoc, queued, List.append_assoc]

/-- Every permitted run of a new buffer is the run of a byte queue: it never
faults or waits, loses and reorders nothing, and ends with both positions in
range and `remain_space_` counting the free bytes.  In the state it reaches, a
`peek` shows the oldest bytes, the next `read` of that length takes exactly
those, and `realloc` leaves the room that `write` waits for. -/
theorem runCalls_fifo
    (n : Int) (positive : 1 ≤ n) (fits : FitsInt32 n)
    (calls : List Call)
    (permitted : ∀ start, create n = .ok start → start.PermittedRun calls) :
    ∃ start results final,
      create n = .ok start ∧
      start.runCalls calls = .ok (results, final) ∧
      takenBytes calls results ++ final.contents = writtenBytes calls ∧
      final.n - final.remainSpace = final.contents.length ∧
      (0 ≤ final.rPos ∧ final.rPos ≤ final.n) ∧
      (0 ≤ final.wPos ∧ final.wPos ≤ final.n) ∧
      (∀ data length, (Call.peek data length).Permitted final →
        ∃ shown next,
          final.peek data length = .ok (length, shown) ∧
          shown.take length.toNat = final.contents.take length.toNat ∧
          (Call.peek data length).exec final = .ok (length, shown, final) ∧
          final.read data length = .ok (length, shown, next) ∧
          next.contents = final.contents.drop length.toNat) ∧
      (∀ length, 0 ≤ length → final.GrowthFits length →
        ∃ grown, final.realloc length = .ok grown ∧
          length ≤ grown.remainSpace ∧ grown.contents = final.contents) := by
  obtain ⟨start, createEq, startValid, startSize, startContents⟩ :=
    create_spec (by omega) fits.2
  obtain ⟨results, final, runEq, valid, finalPositive, queued⟩ :=
    runCalls_spec startValid (by omega) (permitted start createEq)
  rw [startContents, List.nil_append] at queued
  refine ⟨start, results, final, createEq, runEq, queued,
    (length_contents valid).symm, ⟨valid.rPos_nonneg, valid.rPos_le⟩,
    ⟨valid.wPos_nonneg, valid.wPos_le⟩, ?_, ?_⟩
  · intro data length request
    rcases request with ⟨nonneg, room, readable⟩
    have available := (canRead_true_iff valid length).mp readable
    have peekEq := peek_spec valid nonneg available room
    obtain ⟨next, readEq, _, _, nextContents⟩ :=
      read_spec valid nonneg available room
    refine ⟨_, next, peekEq, take_handedOut available, ?_, readEq,
      nextContents⟩
    rw [Call.exec, peekEq]
    rfl
  · intro length nonneg growthFits
    obtain ⟨grown, reallocEq, _, _, sameContents, enough⟩ :=
      realloc_spec valid nonneg (fun _ => finalPositive) growthFits
    exact ⟨grown, reallocEq, enough, sameContents⟩

/-- A run that wraps, grows and drains. -/
def wrappingRun : List Call :=
  [.write [1, 2] 2, .read [0] 1, .write [3, 4] 2, .peek [0, 0, 0] 3,
    .write [5, 6, 7, 8] 4, .read [0, 0, 0, 0, 0, 0, 0] 7]

theorem runCalls_fifo_wrapping :
    ∃ start results final,
      create 3 = .ok start ∧
      start.runCalls wrappingRun = .ok (results, final) ∧
      takenBytes wrappingRun results ++ final.contents =
        [1, 2, 3, 4, 5, 6, 7, 8] := by
  have permitted :
      ∀ start, create 3 = .ok start → start.PermittedRun wrappingRun := by
    intro start createEq
    obtain rfl : (⟨0, 0, 3, 3, [0, 0, 0]⟩ : CycleBuffer) = start :=
      Except.ok.inj createEq
    decide
  obtain ⟨start, results, final, createEq, runEq, queued, -⟩ :=
    runCalls_fifo 3 (by decide) (by decide) wrappingRun permitted
  exact ⟨start, results, final, createEq, runEq, queued⟩

end ChannelSdk.CycleBuffer
