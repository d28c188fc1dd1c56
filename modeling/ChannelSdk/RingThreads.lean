import ChannelSdk.CycleBufferFifo
import ChannelSdk.Lib.TransitionMachine

/-!
# One writer and one reader of a `cycle_buffer`

`write`, `peek` and `read` of `core/src/cycle_buffer.cc` run in several
critical sections of the buffer's own mutex.  A write grows the buffer, waits
for room, and stores; a peek or a read waits for enough bytes, and copies.
The mutex is free between these sections, so that one thread that writes and
one that reads can meet anywhere, also when the writer has just replaced the
block that the reader is about to copy from.

Neither second section looks at the condition of the wait again: what keeps it
true is that the other thread only makes it truer.
-/

namespace ChannelSdk

open CheckedMemory CircularWindow

namespace CycleBuffer

/-- The second critical section of `peek`. -/
def peekOut (self : CycleBuffer) (data : Bytes) (length : Int) :
    Except Fault (Int × Bytes) := do
  if self.rPos ≥ self.wPos then
    let lastStart ← int32 (self.n - length)
    if self.rPos ≤ lastStart then
      let data ← memcpy data 0 self.buffer self.rPos length
      return (length, data)
    else
      let firstN ← int32 (self.n - self.rPos)
      let data ← memcpy data 0 self.buffer self.rPos firstN
      let rest ← int32 (length - firstN)
      let data ← memcpy data firstN self.buffer 0 rest
      return (length, data)
  else
    let data ← memcpy data 0 self.buffer self.rPos length
    return (length, data)

/-- The second critical section of `read`. -/
def readOut (self : CycleBuffer) (data : Bytes) (length : Int) :
    Except Fault (Int × Bytes × CycleBuffer) := do
  if self.rPos ≥ self.wPos then
    let lastStart ← int32 (self.n - length)
    if self.rPos ≤ lastStart then
      let data ← memcpy data 0 self.buffer self.rPos length
      let rPos ← int32 (self.rPos + length)
      let remainSpace ← int32 (self.remainSpace + length)
      return (length, data,
        { self with rPos := rPos, remainSpace := remainSpace })
    else
      let firstN ← int32 (self.n - self.rPos)
      let data ← memcpy data 0 self.buffer self.rPos firstN
      let rest ← int32 (length - firstN)
      let data ← memcpy data firstN self.buffer 0 rest
      let remainSpace ← int32 (self.remainSpace + length)
      return (length, data,
        { self with rPos := rest, remainSpace := remainSpace })
  else
    let data ← memcpy data 0 self.buffer self.rPos length
    let rPos ← int32 (self.rPos + length)
    let remainSpace ← int32 (self.remainSpace + length)
    return (length, data,
      { self with rPos := rPos, remainSpace := remainSpace })

/-- A call that is not interrupted checks and copies. -/
theorem peek_eq_peekOut
    (self : CycleBuffer) (data : Bytes) (length : Int) :
    self.peek data length =
      (do
        let stored ← int32 (self.n - self.remainSpace)
        if stored ≥ length then self.peekOut data length
        else throw .blocked) := rfl

theorem read_eq_readOut
    (self : CycleBuffer) (data : Bytes) (length : Int) :
    self.read data length =
      (do
        let stored ← int32 (self.n - self.remainSpace)
        if stored ≥ length then self.readOut data length
        else throw .blocked) := rfl

section Sections

variable {self : CycleBuffer} {data : Bytes} {length : Int}

theorem int32_stored (valid : self.Valid) :
    int32 (self.n - self.remainSpace) = .ok self.contents.length :=
  size_eq valid

theorem peekOut_spec
    (valid : self.Valid) (nonneg : 0 ≤ length)
    (stored : length ≤ self.contents.length)
    (room : length ≤ data.length) :
    self.peekOut data length =
      .ok (length,
        overwrite data 0 (self.contents.take length.toNat)) := by
  have whole := peek_spec valid nonneg stored room
  rwa [peek_eq_peekOut, int32_stored valid, ok_bind, if_pos stored] at whole

theorem readOut_spec
    (valid : self.Valid) (nonneg : 0 ≤ length)
    (stored : length ≤ self.contents.length)
    (room : length ≤ data.length) :
    ∃ next : CycleBuffer,
      self.readOut data length =
        .ok (length,
          overwrite data 0 (self.contents.take length.toNat), next) ∧
      next.Valid ∧ next.n = self.n ∧
      next.contents = self.contents.drop length.toNat := by
  have whole := read_spec valid nonneg stored room
  rwa [read_eq_readOut, int32_stored valid, ok_bind, if_pos stored] at whole

end Sections

end CycleBuffer

namespace RingThreads

/-- Where the writer is in its `write`. -/
inductive WriterPlace where
  | idle
  | growing (data : Bytes)
  | waiting (data : Bytes)
  | storing (data : Bytes)
  deriving DecidableEq

inductive Reading where
  | peek
  | read
  deriving DecidableEq

/-- Where the reader is in its `peek` or `read`, and what it was shown
last. -/
inductive ReaderPlace where
  | idle
  | waiting (reading : Reading) (block : Bytes)
  | copying (reading : Reading) (block : Bytes)
  | done (reading : Reading) (shown : Bytes)
  deriving DecidableEq

/-- The buffer with its two threads, the bytes written and the bytes read so
far, and a fault if a section has met one. -/
structure State where
  ring : CycleBuffer
  writer : WriterPlace
  reader : ReaderPlace
  written : Bytes
  taken : Bytes
  fault : Option Fault

inductive Label where
  | write (data : Bytes)
  | grow
  | awaitRoom
  | store
  | call (reading : Reading) (block : Bytes)
  | awaitBytes
  | copy

namespace State

/-- The sections of `write`. -/
def grow (state : State) (data : Bytes) : State :=
  match state.ring.realloc data.length with
  | .ok ring => { state with ring := ring, writer := .waiting data }
  | .error fault => { state with fault := some fault }

/-- The wait that the source marks "never enter here". -/
def awaitRoom (state : State) (data : Bytes) : State :=
  if state.ring.remainSpace ≥ data.length then
    { state with writer := .storing data }
  else state

def store (state : State) (data : Bytes) : State :=
  match state.ring.store data data.length with
  | .ok (_, ring) =>
      { state with
        ring := ring
        writer := .idle
        written := state.written ++ data }
  | .error fault => { state with fault := some fault }

/-- The sections of `peek` and `read`. -/
def awaitBytes (state : State) (reading : Reading) (block : Bytes) : State :=
  match state.ring.canRead block.length with
  | .ok true => { state with reader := .copying reading block }
  | .ok false => state
  | .error fault => { state with fault := some fault }

def copy (state : State) (block : Bytes) : Reading → State
  | .peek =>
      match state.ring.peekOut block block.length with
      | .ok (_, shown) => { state with reader := .done .peek shown }
      | .error fault => { state with fault := some fault }
  | .read =>
      match state.ring.readOut block block.length with
      | .ok (_, shown, ring) =>
          { state with
            ring := ring
            reader := .done .read shown
            taken := state.taken ++ shown }
      | .error fault => { state with fault := some fault }

def next (state : State) (label : Label) : Option State :=
  match label with
  | .write data =>
      match state.writer with
      | .idle => some { state with writer := .growing data }
      | .growing _ | .waiting _ | .storing _ => none
  | .grow =>
      match state.writer with
      | .growing data => some (state.grow data)
      | .idle | .waiting _ | .storing _ => none
  | .awaitRoom =>
      match state.writer with
      | .waiting data => some (state.awaitRoom data)
      | .idle | .growing _ | .storing _ => none
  | .store =>
      match state.writer with
      | .storing data => some (state.store data)
      | .idle | .growing _ | .waiting _ => none
  | .call reading block =>
      match state.reader with
      | .idle | .done _ _ =>
          some { state with reader := .waiting reading block }
      | .waiting _ _ | .copying _ _ => none
  | .awaitBytes =>
      match state.reader with
      | .waiting reading block => some (state.awaitBytes reading block)
      | .idle | .copying _ _ | .done _ _ => none
  | .copy =>
      match state.reader with
      | .copying reading block => some (state.copy block reading)
      | .idle | .waiting _ _ | .done _ _ => none

end State

/-- A buffer of some capacity, before its threads have done anything. -/
def machine (capacity : Int) : TransitionMachine State Label where
  initial := fun state =>
    CycleBuffer.create capacity = .ok state.ring ∧ state.writer = .idle ∧
      state.reader = .idle ∧ state.written = [] ∧ state.taken = [] ∧
      state.fault = none
  next := State.next

/-- The capacity product of a growing buffer fits its type. -/
def Allowed (state : State) : Label → Prop
  | .grow =>
      match state.writer with
      | .growing data => state.ring.GrowthFits data.length
      | .idle | .waiting _ | .storing _ => True
  | .write _ | .awaitRoom | .store | .call _ _ | .awaitBytes | .copy => True

instance (state : State) (label : Label) :
    Decidable (Allowed state label) :=
  match label with
  | .grow =>
      match writing : state.writer with
      | .growing data =>
          decidable_of_iff (state.ring.GrowthFits data.length) (by
            rw [Allowed, writing])
      | .idle | .waiting _ | .storing _ =>
          .isTrue (by rw [Allowed, writing]; trivial)
  | .write _ | .awaitRoom | .store | .call _ _ | .awaitBytes | .copy =>
      .isTrue trivial

/-- The laws between the sections. -/
structure Kept (state : State) : Prop where
  valid : state.ring.Valid
  positive : 1 ≤ state.ring.n
  fifo : state.taken ++ state.ring.contents = state.written
  faultless : state.fault = none
  roomy :
    ∀ data, state.writer = .waiting data ∨ state.writer = .storing data →
      (data.length : Int) ≤ state.ring.remainSpace
  readable :
    ∀ reading block, state.reader = .copying reading block →
      block.length ≤ state.ring.contents.length
  shown :
    ∀ bytes, state.reader = .done .peek bytes →
      bytes.IsPrefix state.ring.contents

variable {state target : State}

namespace Kept

/-- The reader's laws when the writer's section keeps the stored bytes at the
front. -/
theorem of_writer
    (kept : Kept state) {ring : CycleBuffer} {writer : WriterPlace}
    {data : Bytes} (valid : ring.Valid) (positive : 1 ≤ ring.n)
    (contents : ring.contents = state.ring.contents ++ data)
    (roomy :
      ∀ data, writer = .waiting data ∨ writer = .storing data →
        (data.length : Int) ≤ ring.remainSpace) :
    Kept
      { state with
        ring := ring
        writer := writer
        written := state.written ++ data } where
  valid := valid
  positive := positive
  fifo := by
    simp only [contents, ← List.append_assoc, kept.fifo]
  faultless := kept.faultless
  roomy := roomy
  readable := by
    intro reading block copying
    have enough := kept.readable reading block copying
    rw [contents, List.length_append]
    omega
  shown := by
    intro bytes isDone
    rw [contents]
    exact (kept.shown bytes isDone).trans (List.prefix_append _ _)

theorem grow
    (kept : Kept state) {data : Bytes}
    (fits : state.ring.GrowthFits data.length) :
    Kept (state.grow data) := by
  obtain ⟨ring, reallocated, valid, larger, contents, room⟩ :=
    CycleBuffer.realloc_spec kept.valid (Int.natCast_nonneg data.length)
      (fun _ => kept.positive) fits
  have positive := kept.positive
  rw [State.grow, reallocated]
  have moved : Kept
      { state with
        ring := ring
        writer := .waiting data
        written := state.written ++ [] } := by
    refine kept.of_writer valid (by omega) ?_ ?_
    · rw [contents, List.append_nil]
    · intro given there
      obtain same | other := there
      · cases same
        exact room
      · cases other
  rwa [List.append_nil] at moved

theorem store
    (kept : Kept state) {data : Bytes}
    (storing : state.writer = .storing data) :
    Kept (state.store data) := by
  have room := kept.roomy data (.inr storing)
  obtain ⟨ring, stored, valid, sameCapacity, contents⟩ :=
    CycleBuffer.store_spec kept.valid (Int.natCast_nonneg data.length)
      room (Int.le_refl _)
  rw [Int.toNat_natCast, List.take_length] at contents
  rw [State.store, stored]
  refine kept.of_writer valid (sameCapacity ▸ kept.positive) contents ?_
  intro given there
  obtain other | other := there <;> cases other

/-- The reader moves and leaves the buffer alone. -/
theorem setReader
    (kept : Kept state) {reader : ReaderPlace}
    (readable :
      ∀ reading block, reader = .copying reading block →
        block.length ≤ state.ring.contents.length)
    (shown :
      ∀ bytes, reader = .done .peek bytes →
        bytes.IsPrefix state.ring.contents) :
    Kept { state with reader := reader } :=
  ⟨kept.valid, kept.positive, kept.fifo, kept.faultless, kept.roomy,
    readable, shown⟩

theorem awaitBytes
    (kept : Kept state) {reading : Reading} {block : Bytes} :
    Kept (state.awaitBytes reading block) := by
  rw [State.awaitBytes, CycleBuffer.canRead_eq kept.valid]
  by_cases enough : (block.length : Int) ≤ state.ring.contents.length
  · rw [decide_eq_true enough]
    refine kept.setReader ?_ ?_
    · intro _ copied there
      cases there
      omega
    · intro _ there
      cases there
  · rw [decide_eq_false enough]
    exact kept

theorem overwrite_whole
    {block stored : Bytes} (enough : block.length ≤ stored.length) :
    overwrite block 0 (stored.take block.length) =
      stored.take block.length := by
  have whole := take_overwrite_zero block (stored.take block.length)
  have size :
      (overwrite block 0 (stored.take block.length)).length =
        block.length :=
    length_overwrite (by rw [List.length_take]; omega)
  rw [List.length_take, Nat.min_eq_left enough] at whole
  rwa [List.take_of_length_le (Nat.le_of_eq size)] at whole

theorem copy
    (kept : Kept state) {reading : Reading} {block : Bytes}
    (copying : state.reader = .copying reading block) :
    Kept (state.copy block reading) := by
  have enough := kept.readable reading block copying
  have stored : (block.length : Int) ≤ state.ring.contents.length := by
    omega
  cases reading with
  | peek =>
      rw [State.copy,
        CycleBuffer.peekOut_spec kept.valid
          (Int.natCast_nonneg block.length) stored (Int.le_refl _)]
      refine kept.setReader ?_ ?_
      · intro _ _ there
        cases there
      · intro bytes there
        cases there
        rw [Int.toNat_natCast, overwrite_whole enough]
        exact List.take_prefix _ _
  | read =>
      obtain ⟨ring, copied, valid, sameCapacity, contents⟩ :=
        CycleBuffer.readOut_spec kept.valid
          (Int.natCast_nonneg block.length) stored (Int.le_refl block.length)
      rw [Int.toNat_natCast, overwrite_whole enough] at copied
      rw [Int.toNat_natCast] at contents
      have lengths := CycleBuffer.length_contents kept.valid
      have lengthsLeft := CycleBuffer.length_contents valid
      rw [State.copy, copied]
      refine ⟨valid, sameCapacity ▸ kept.positive, ?_, kept.faultless, ?_,
        ?_, ?_⟩
      · rw [contents, List.append_assoc, List.take_append_drop]
        exact kept.fifo
      · intro data there
        have room := kept.roomy data there
        rw [contents, List.length_drop] at lengthsLeft
        simp only at *
        omega
      · intro _ _ there
        cases there
      · intro _ there
        cases there

theorem next
    (kept : Kept state) {label : Label} (allowed : Allowed state label)
    (stepped : state.next label = some target) : Kept target := by
  cases label with
  | write data =>
      simp only [State.next] at stepped
      split at stepped <;> cases stepped
      refine ⟨kept.valid, kept.positive, kept.fifo, kept.faultless, ?_,
        kept.readable, kept.shown⟩
      intro given there
      obtain other | other := there <;> cases other
  | grow =>
      simp only [State.next] at stepped
      split at stepped <;> cases stepped
      next growing =>
        simp only [Allowed, growing] at allowed
        exact kept.grow allowed
  | awaitRoom =>
      simp only [State.next] at stepped
      split at stepped <;> cases stepped
      next waiting =>
        have room := kept.roomy _ (.inl waiting)
        rw [State.awaitRoom, if_pos room]
        refine ⟨kept.valid, kept.positive, kept.fifo, kept.faultless, ?_,
          kept.readable, kept.shown⟩
        intro given there
        obtain other | same := there
        · cases other
        · cases same
          exact room
  | store =>
      simp only [State.next] at stepped
      split at stepped <;> cases stepped
      next storing => exact kept.store storing
  | call reading block =>
      have called : Kept { state with reader := .waiting reading block } := by
        refine kept.setReader ?_ ?_
        · intro _ _ there
          cases there
        · intro _ there
          cases there
      simp only [State.next] at stepped
      split at stepped <;> cases stepped
      · exact called
      · exact called
  | awaitBytes =>
      simp only [State.next] at stepped
      split at stepped <;> cases stepped
      exact kept.awaitBytes
  | copy =>
      simp only [State.next] at stepped
      split at stepped <;> cases stepped
      next copying => exact kept.copy copying

theorem of_reachable
    {capacity : Int} (positive : 1 ≤ capacity)
    (fits : capacity ≤ 2147483647)
    (reachable : (machine capacity).ReachableUnder Allowed state) :
    Kept state := by
  refine reachable.invariant ?_ ?_
  · intro start isInitial
    obtain ⟨created, writer, reader, written, taken, faultless⟩ := isInitial
    obtain ⟨ring, createEq, valid, sameCapacity, nothing⟩ :=
      CycleBuffer.create_spec (by omega) fits
    rw [createEq] at created
    cases created
    constructor
    · exact valid
    · omega
    · rw [written, taken, nothing]
      rfl
    · exact faultless
    · intro data there
      rw [writer] at there
      obtain other | other := there <;> cases other
    · intro _ _ there
      rw [reader] at there
      cases there
    · intro _ there
      rw [reader] at there
      cases there
  · intro source label target kept allowed stepped
    exact kept.next allowed stepped

end Kept

/-- One writing and one reading thread may share a `cycle_buffer` under its
own mutex, however their critical sections interleave and however often the
writer replaces the block.  No section faults; the bytes read are the bytes
written, in order, and the rest is still stored; the writer never stays in the
wait that the source marks "never enter here"; a copy shows the oldest bytes
as many as were asked for, although it does not check again that they are
there; and what a peek has shown stays at the front until the next call. -/
theorem ring_threads_fifo
    {capacity : Int} (positive : 1 ≤ capacity)
    (fits : capacity ≤ 2147483647)
    (reachable : (machine capacity).ReachableUnder Allowed state) :
    state.fault = none ∧
    state.taken ++ state.ring.contents = state.written ∧
    (∀ data, state.writer = .waiting data →
      state.next .awaitRoom = some { state with writer := .storing data }) ∧
    (∀ reading block, state.reader = .copying reading block →
      block.length ≤ state.ring.contents.length ∧
        ∃ target,
          state.next .copy = some target ∧
            target.reader =
              .done reading (state.ring.contents.take block.length)) ∧
    (∀ bytes, state.reader = .done .peek bytes →
      bytes.IsPrefix state.ring.contents) := by
  have kept := Kept.of_reachable positive fits reachable
  refine ⟨kept.faultless, kept.fifo, ?_, ?_, kept.shown⟩
  · intro data waiting
    have room := kept.roomy data (.inl waiting)
    simp [State.next, waiting, State.awaitRoom, room]
  · intro reading block copying
    have enough := kept.readable reading block copying
    have stored : (block.length : Int) ≤ state.ring.contents.length := by
      omega
    refine ⟨enough, _, by simp only [State.next, copying]; rfl, ?_⟩
    cases reading with
    | peek =>
        rw [State.copy,
          CycleBuffer.peekOut_spec kept.valid
            (Int.natCast_nonneg block.length) stored (Int.le_refl _),
          Int.toNat_natCast, Kept.overwrite_whole enough]
    | read =>
        obtain ⟨ring, copied, -, -, -⟩ :=
          CycleBuffer.readOut_spec kept.valid
            (Int.natCast_nonneg block.length) stored
            (Int.le_refl block.length)
        rw [Int.toNat_natCast, Kept.overwrite_whole enough] at copied
        rw [State.copy, copied]

/-- The writer replaces the block between the wait and the copy of a read. -/
def replacedRun : List Label :=
  [.write [1, 2], .grow, .awaitRoom, .store, .call .read [0, 0],
    .awaitBytes, .write [3, 4, 5], .grow, .awaitRoom, .copy, .store]

theorem ring_threads_fifo_replaced :
    ∃ state,
      (machine 2).ReachableUnder Allowed state ∧ state.ring.n = 6 ∧
        state.taken = [1, 2] ∧ state.ring.contents = [3, 4, 5] ∧
        state.taken ++ state.ring.contents = state.written := by
  have begun :
      (machine 2).ReachableUnder Allowed
        ⟨⟨0, 0, 2, 2, [0, 0]⟩, .idle, .idle, [], [], none⟩ :=
    .initial ⟨rfl, rfl, rfl, rfl, rfl, rfl⟩
  have ends :
      ((machine 2).run
          ⟨⟨0, 0, 2, 2, [0, 0]⟩, .idle, .idle, [], [], none⟩
          replacedRun).map
          (fun state =>
            (state.ring.n, state.taken, state.ring.contents)) =
        some (6, [1, 2], [3, 4, 5]) := by
    decide +kernel
  obtain ⟨state, executed, observed⟩ := Option.map_eq_some_iff.mp ends
  have reachable := begun.run (by decide +kernel) executed
  simp only [Prod.mk.injEq] at observed
  exact ⟨state, reachable, observed.1, observed.2.1, observed.2.2,
    (ring_threads_fifo (by decide) (by decide) reachable).2.1⟩

end RingThreads

end ChannelSdk
