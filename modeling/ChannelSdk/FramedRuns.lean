import ChannelSdk.FramedReads

/-!
# Framed messages through a `cycle_buffer`

A frame is a length field, an id field, an id and data.  The concatenation of
a list of frames is written to a ring in chunks that are cut anywhere, and
`can_read()` and `read(string& id, string& data)` are called in between.  What
is stored is then always a piece of the concatenation that begins with a frame
that has not been read, so the length field that the calls load, once it is
there, is the one of that frame.

The only step that can go wrong is the sum `r_pos_ + len`, which is formed
before its remainder and does not fit its type when a long message lies far
back in a ring of more than `2 ^ 30` bytes.
-/

namespace ChannelSdk.CycleBuffer

open CheckedMemory CircularWindow

/-- An id and data that fit the fields of a message. -/
structure Frame where
  id : Bytes
  data : Bytes
  id_short : id.length ≤ 254
  nonempty : 1 ≤ id.length + data.length
  total_fits : 4 + 1 + id.length + data.length ≤ 2147483647

namespace Frame

def total (self : Frame) : Nat :=
  4 + 1 + self.id.length + self.data.length

/-- The bytes of a frame. -/
def encode (self : Frame) : Bytes :=
  lowBytes 4 self.total ++
    (1 + self.id.length).toUInt8 :: (self.id ++ self.data)

def content (self : Frame) : Bytes × Bytes :=
  (self.id, self.data)

@[simp]
theorem length_encode (self : Frame) : self.encode.length = self.total := by
  simp [encode, total]
  omega

theorem six_le_total (self : Frame) : 6 ≤ self.total := by
  have nonempty := self.nonempty
  unfold total
  omega

theorem total_le (self : Frame) : self.total ≤ 2147483647 :=
  self.total_fits

section Front

variable {frame : Frame} {bytes later rest : Bytes}

/-- Bytes that are cut off a text which begins with a frame agree with the
frame as far as both go. -/
theorem take_of_cut
    (cut : bytes ++ later = frame.encode ++ rest) {count : Nat}
    (stored : count ≤ bytes.length) (within : count ≤ frame.total) :
    bytes.take count = frame.encode.take count := by
  have fronts := congrArg (List.take count) cut
  rwa [List.take_append_of_le_length stored,
    List.take_append_of_le_length (by rwa [length_encode])] at fronts

theorem signedOf_front
    (cut : bytes ++ later = frame.encode ++ rest)
    (stored : 4 ≤ bytes.length) :
    signedOf (bytes.take 4) = frame.total := by
  have small := frame.total_le
  have long := frame.six_le_total
  rw [take_of_cut cut stored (by omega), encode,
    List.take_left' (length_lowBytes 4 frame.total)]
  exact signedOf_lowBytes (by omega)

theorem getD_encode (frame : Frame) :
    (frame.encode.getD 4 0).toNat = 1 + frame.id.length := by
  have short := frame.id_short
  have field :
      frame.encode.getD 4 0 = (1 + frame.id.length).toUInt8 := by
    rw [encode, List.getD_eq_getElem?_getD, List.getElem?_append_right
      (Nat.le_of_eq (length_lowBytes 4 _)), length_lowBytes]
    rfl
  rw [field]
  exact Nat.mod_eq_of_lt (by omega)

theorem drop_encode (frame : Frame) :
    frame.encode.drop 5 = frame.id ++ frame.data := by
  rw [encode, show 5 = (lowBytes 4 frame.total).length + 1 by simp,
    List.drop_append]
  rfl

/-- The frame is the front of bytes that are long enough. -/
theorem encode_prefix
    (cut : bytes ++ later = frame.encode ++ rest)
    (stored : frame.total ≤ bytes.length) : frame.encode <+: bytes := by
  have framePrefix : frame.encode <+: bytes ++ later := by
    rw [cut]
    exact List.prefix_append frame.encode rest
  apply List.prefix_of_prefix_length_le framePrefix
  · exact List.prefix_append bytes later
  · rwa [length_encode]

end Front

end Frame

section Reads

variable {ring : CycleBuffer} {frame : Frame}

theorem messageLength_of_cut
    {later rest : Bytes}
    (cut : ring.contents ++ later = frame.encode ++ rest)
    (stored : 4 ≤ ring.contents.length) :
    ring.messageLength = frame.total :=
  Frame.signedOf_front cut stored

/-- A whole frame at the front is what `can_read()` looks for. -/
theorem front_is_stored
    (front : frame.encode <+: ring.contents) :
    5 < ring.contents.length ∧ ring.messageLength = frame.total ∧
      ring.messageLength ≤ ring.contents.length := by
  have long := frame.six_le_total
  have stored := front.length_le
  rw [Frame.length_encode] at stored
  rcases front with ⟨rest, whole⟩
  have cut : ring.contents ++ [] = frame.encode ++ rest := by
    rw [List.append_nil, whole]
  have field := messageLength_of_cut cut (by omega)
  exact ⟨by omega, field, by omega⟩

/-- A whole frame is handed out and removed. -/
theorem readIdData_of_frame
    (valid : ring.Valid) (id data : Bytes)
    (front : frame.encode <+: ring.contents)
    (fits : ring.rPos + frame.total ≤ 2147483647) :
    ∃ next : CycleBuffer,
      ring.readIdData id data =
        .ok (frame.total, frame.id, frame.data, next) ∧
      next.Valid ∧ next.n = ring.n ∧
      next.rPos = (ring.rPos + frame.total) % ring.n ∧
      next.contents = ring.contents.drop frame.total := by
  have long := frame.six_le_total
  have short := frame.id_short
  have nonempty := frame.nonempty
  rcases front_is_stored front with ⟨stored, field, available⟩
  rcases front with ⟨rest, whole⟩
  have cut : ring.contents ++ [] = frame.encode ++ rest := by
    rw [List.append_nil, whole]
  have idField : ring.idField = 1 + frame.id.length := by
    have same : ring.contents.take 5 = frame.encode.take 5 :=
      Frame.take_of_cut cut (by omega) (by omega)
    have fields := congrArg (fun bytes => bytes.getD 4 0) same
    simp only [List.getD_eq_getElem?_getD,
      List.getElem?_take_of_lt (show 4 < 5 by omega)] at fields
    have encoded := frame.getD_encode
    rw [CycleBuffer.idField, List.getD_eq_getElem?_getD, fields,
      ← List.getD_eq_getElem?_getD, encoded]
    rfl
  have total :
      (frame.total : Int) = 5 + frame.id.length + frame.data.length := by
    unfold Frame.total
    omega
  rcases readIdData_of_message valid id data available (by omega) (by omega)
      (by omega) (by omega) with
    ⟨next, readEq, nextValid, sameCapacity, position, removed⟩
  have message :
      ring.contents.take ring.messageLength.toNat = frame.encode := by
    rw [field, Int.toNat_natCast,
      Frame.take_of_cut cut (by omega) (Nat.le_refl _)]
    exact List.take_of_length_le (Nat.le_of_eq frame.length_encode)
  have idOut :
      (frame.encode.drop 5).take (ring.idField.toNat - 1) = frame.id := by
    rw [frame.drop_encode]
    exact List.take_left' (by omega)
  have dataOut :
      frame.encode.drop (4 + ring.idField.toNat) = frame.data := by
    rw [show 4 + ring.idField.toNat = 5 + frame.id.length by omega,
      ← List.drop_drop, frame.drop_encode]
    exact List.drop_left' rfl
  rw [message, idOut, dataOut, field] at readEq
  rw [field] at position
  rw [field, Int.toNat_natCast] at removed
  exact ⟨next, readEq, nextValid, sameCapacity, position, removed⟩

/-- When the stored bytes are cut off a list of frames, a message counts as
stored exactly when the first frame is there. -/
theorem stored_iff_frame
    {later : Bytes} {frames : List Frame}
    (cut : ring.contents ++ later = frames.flatMap Frame.encode) :
    (5 < ring.contents.length ∧
        ring.messageLength ≤ ring.contents.length) ↔
      ∃ frame : Frame, frame.encode <+: ring.contents := by
  constructor
  · intro isStored
    cases frames with
    | nil =>
        have empty := List.append_eq_nil_iff.mp cut
        rw [empty.1] at isStored
        exact absurd isStored.1 (by decide)
    | cons first others =>
        rw [List.flatMap_cons] at cut
        have field := messageLength_of_cut cut (by omega)
        exact ⟨first, Frame.encode_prefix cut (by omega)⟩
  · intro whole
    rcases whole with ⟨frame, front⟩
    have isStored := front_is_stored front
    exact ⟨isStored.1, isStored.2.2⟩

end Reads

/-! ## Runs -/

/-- A ring, the framed bytes that have not been written to it yet, and the
pairs that reads have handed out. -/
structure FramedState where
  ring : CycleBuffer
  pending : Bytes
  taken : List (Bytes × Bytes)

/-- Write the next `size` bytes, or ask for a message. -/
inductive FramedCall where
  | write (size : Nat)
  | canRead
  | read (id data : Bytes)
  deriving DecidableEq, Repr

namespace FramedState

/-- The bytes that the next `write` passes on. -/
def chunk (self : FramedState) (size : Nat) : Bytes :=
  self.pending.take size

/-- The state after a call; there is none after an undefined operation. -/
def exec (self : FramedState) : FramedCall → Option FramedState
  | .write size =>
      match self.ring.write (self.chunk size) (self.chunk size).length with
      | .ok (_, next) =>
          some { self with ring := next, pending := self.pending.drop size }
      | .error _ => none
  | .canRead =>
      match self.ring.canReadIdData with
      | .ok _ => some self
      | .error _ => none
  | .read id data =>
      match self.ring.readIdData id data with
      | .ok (returned, readId, readData, next) =>
          some { self with
            ring := next
            taken :=
              if returned = 0 then self.taken
              else self.taken ++ [(readId, readData)] }
      | .error _ => none

/-- What the calls promise while frames pass through the ring: a write whose
capacity arithmetic fits appends its chunk, `can_read()` tells whether a whole
frame is at the front, and a read takes out that frame or nothing. -/
def UndoesFraming (self : FramedState) : FramedCall → Prop
  | .write size =>
      self.ring.GrowthFits (self.chunk size).length →
        ∃ next,
          self.ring.write (self.chunk size) (self.chunk size).length =
            .ok (((self.chunk size).length : Int), next) ∧
          next.contents = self.ring.contents ++ self.chunk size
  | .canRead =>
      ∃ answer, self.ring.canReadIdData = .ok answer ∧
        (answer = true ↔
          ∃ frame : Frame, frame.encode <+: self.ring.contents)
  | .read id data =>
      (∀ frame : Frame, frame.encode <+: self.ring.contents →
        ∃ next,
          self.ring.readIdData id data =
            .ok ((frame.total : Int), frame.id, frame.data, next) ∧
          next.contents = self.ring.contents.drop frame.total) ∧
        ((¬ ∃ frame : Frame, frame.encode <+: self.ring.contents) →
          self.ring.readIdData id data = .ok (0, id, data, self.ring))

/-- A read that finds a whole message can add its length to the read
position. -/
def AdvanceFits (self : FramedState) : FramedCall → Prop
  | .write _ | .canRead => True
  | .read _ _ =>
      5 < self.ring.contents.length ∧
          self.ring.messageLength ≤ self.ring.contents.length →
        self.ring.rPos + self.ring.messageLength ≤ 2147483647

instance (self : FramedState) (call : FramedCall) :
    Decidable (self.AdvanceFits call) :=
  match call with
  | .write _ | .canRead => .isTrue trivial
  | .read _ _ => inferInstanceAs (Decidable (_ → _))

/-- The frames go through the ring in order: some have been read, and the
rest is stored or still to be written. -/
structure Aligned (frames : List Frame) (state : FramedState) : Prop where
  valid : state.ring.Valid
  positive : 1 ≤ state.ring.n
  split :
    ∃ done rest, frames = done ++ rest ∧
      state.taken = done.map Frame.content ∧
      state.ring.contents ++ state.pending = rest.flatMap Frame.encode

end FramedState

/-- Runs of a new ring to which the given frames are written. -/
def framedMachine (frames : List Frame) :
    TransitionMachine FramedState FramedCall where
  initial := fun state =>
    state.pending = frames.flatMap Frame.encode ∧ state.taken = [] ∧
      ∃ n, 1 ≤ n ∧ FitsInt32 n ∧ create n = .ok state.ring
  next := FramedState.exec

namespace FramedState

variable {frames : List Frame} {self next : FramedState}

theorem aligned_of_initial
    (begun : (framedMachine frames).initial self) :
    self.Aligned frames := by
  rcases begun with ⟨pending, taken, n, positive, fits, created⟩
  rcases create_spec (n := n) (by omega) fits.2 with
    ⟨ring, createEq, valid, capacity, empty⟩
  rw [created] at createEq
  have same := Except.ok.inj createEq
  rw [← same] at valid capacity empty
  refine ⟨valid, by omega, [], frames, rfl, taken, ?_⟩
  rw [empty, pending, List.nil_append]

theorem Aligned.write
    (aligned : self.Aligned frames) {size : Nat}
    {returned : Int} {ring : CycleBuffer}
    (wrote :
      self.ring.write (self.chunk size) (self.chunk size).length =
        .ok (returned, ring)) :
    { self with ring := ring, pending := self.pending.drop size :
      FramedState }.Aligned frames := by
  rcases aligned.split with ⟨done, rest, listed, taken, cut⟩
  rcases write_eq_ok aligned.valid wrote with
    ⟨nonneg, given, positive, fits⟩
  rcases write_spec aligned.valid nonneg positive fits given with
    ⟨after, writeEq, afterValid, grownLe, appended⟩
  rw [wrote] at writeEq
  cases writeEq
  have capacity := aligned.positive
  refine ⟨afterValid, by dsimp only; omega, done, rest, listed, taken, ?_⟩
  rw [Int.toNat_natCast, List.take_length] at appended
  rw [appended, List.append_assoc, chunk, List.take_append_drop, cut]

/-- A read keeps the frames aligned: what it takes out is the first frame. -/
theorem Aligned.read
    (aligned : self.Aligned frames)
    {id data readId readData : Bytes} {returned : Int} {ring : CycleBuffer}
    (took :
      self.ring.readIdData id data =
        .ok (returned, readId, readData, ring)) :
    { self with
      ring := ring
      taken :=
        if returned = 0 then self.taken
        else self.taken ++ [(readId, readData)] :
      FramedState }.Aligned frames := by
  have valid := aligned.valid
  rcases aligned.split with ⟨done, rest, listed, taken, cut⟩
  by_cases isStored :
      5 < self.ring.contents.length ∧
        self.ring.messageLength ≤ self.ring.contents.length
  · rcases readIdData_eq_ok valid isStored.1 isStored.2 took with
      ⟨nothing, same⟩ | ⟨-, -, -, fits⟩
    · rw [nothing, same, if_pos rfl]
      exact aligned
    · cases rest with
      | nil =>
          have empty := List.append_eq_nil_iff.mp cut
          rw [empty.1] at isStored
          exact absurd isStored.1 (by decide)
      | cons frame others =>
          rw [List.flatMap_cons] at cut
          have field := messageLength_of_cut cut (by omega)
          have front := Frame.encode_prefix cut (by omega)
          rcases readIdData_of_frame valid id data front (by omega) with
            ⟨after, readEq, afterValid, sameCapacity, -, removed⟩
          rw [took] at readEq
          have long := frame.six_le_total
          have capacity := aligned.positive
          have same := Except.ok.inj readEq
          simp only [Prod.mk.injEq] at same
          rcases same with ⟨rfl, rfl, rfl, rfl⟩
          rw [if_neg (by omega)]
          refine ⟨afterValid, by dsimp only; omega, done ++ [frame], others,
            by rw [listed, List.append_assoc]; rfl,
            by rw [taken, List.map_append]; rfl, ?_⟩
          have behind := congrArg (List.drop frame.total) cut
          rw [List.drop_append_of_le_length (by omega),
            List.drop_left' frame.length_encode] at behind
          rw [removed]
          exact behind
  · have none :=
      readIdData_of_none valid (fun stored => by omega) id data
    rw [took] at none
    cases none
    rw [if_pos rfl]
    exact aligned

theorem Aligned.exec
    (aligned : self.Aligned frames) {call : FramedCall}
    (executed : self.exec call = some next) : next.Aligned frames := by
  cases call with
  | write size =>
      rw [FramedState.exec] at executed
      split at executed
      next returned ring wrote =>
        cases executed
        exact aligned.write wrote
      next => cases executed
  | canRead =>
      rw [FramedState.exec] at executed
      split at executed
      next =>
        cases executed
        exact aligned
      next => cases executed
  | read id data =>
      rw [FramedState.exec] at executed
      split at executed
      next returned readId readData ring took =>
        cases executed
        exact aligned.read took
      next => cases executed

theorem aligned_of_reachable
    (reached : (framedMachine frames).Reachable self) :
    self.Aligned frames := by
  apply TransitionMachine.Reachable.invariant ?_ ?_ reached
  · intro state begun
    exact aligned_of_initial begun
  · intro source call target aligned stepped
    exact aligned.exec stepped

/-- In a state of a run the calls keep their promise exactly when the sum of
a read fits. -/
theorem Aligned.undoesFraming_iff
    (aligned : self.Aligned frames) (call : FramedCall) :
    self.UndoesFraming call ↔ self.AdvanceFits call := by
  have valid := aligned.valid
  rcases aligned.split with ⟨done, rest, listed, taken, cut⟩
  have isStored := stored_iff_frame cut
  cases call with
  | write size =>
      refine iff_of_true ?_ trivial
      intro fits
      have capacity := aligned.positive
      rcases write_spec valid (by omega) (fun _ => capacity) fits
          (Int.le_refl _) with ⟨next, writeEq, -, -, appended⟩
      rw [Int.toNat_natCast, List.take_length] at appended
      exact ⟨next, writeEq, appended⟩
  | canRead =>
      refine iff_of_true ?_ trivial
      refine ⟨_, canReadIdData_eq valid, ?_⟩
      rw [decide_eq_true_iff]
      exact isStored
  | read id data =>
      constructor
      · intro undoes stored
        rcases isStored.mp stored with ⟨frame, front⟩
        rcases undoes.1 frame front with ⟨next, readEq, -⟩
        have long := frame.six_le_total
        rcases readIdData_eq_ok valid stored.1 stored.2 readEq with
          ⟨nothing, -⟩ | ⟨-, -, -, fits⟩
        · omega
        · exact fits
      · intro fits
        constructor
        · intro frame front
          have stored := front_is_stored front
          have bound := fits ⟨stored.1, stored.2.2⟩
          rcases readIdData_of_frame valid id data front (by omega) with
            ⟨next, readEq, -, -, -, removed⟩
          exact ⟨next, readEq, removed⟩
        · intro noFrame
          have notStored := mt isStored.mp noFrame
          exact readIdData_of_none valid (fun stored => by omega) id data

end FramedState

/-! ## A frame that lies too far back -/

theorem store_keeps
    {self next : CycleBuffer} {data : Bytes} {length returned : Int}
    (stored : self.store data length = .ok (returned, next)) :
    next.rPos = self.rPos ∧ next.n = self.n := by
  unfold store at stored
  split at stored
  · rcases bind_eq_ok stored with ⟨_, -, stored⟩
    split at stored
    · rcases bind_eq_ok stored with ⟨_, -, stored⟩
      rcases bind_eq_ok stored with ⟨_, -, stored⟩
      rcases bind_eq_ok stored with ⟨_, -, stored⟩
      cases stored
      exact ⟨rfl, rfl⟩
    · rcases bind_eq_ok stored with ⟨_, -, stored⟩
      rcases bind_eq_ok stored with ⟨_, -, stored⟩
      rcases bind_eq_ok stored with ⟨_, -, stored⟩
      rcases bind_eq_ok stored with ⟨_, -, stored⟩
      rcases bind_eq_ok stored with ⟨_, -, stored⟩
      cases stored
      exact ⟨rfl, rfl⟩
  · rcases bind_eq_ok stored with ⟨_, -, stored⟩
    rcases bind_eq_ok stored with ⟨_, -, stored⟩
    rcases bind_eq_ok stored with ⟨_, -, stored⟩
    cases stored
    exact ⟨rfl, rfl⟩

/-- A frame is written to an empty ring with room for it. -/
theorem exec_write_frame
    {frames : List Frame} {self : FramedState} {frame : Frame}
    {behind : Bytes}
    (aligned : self.Aligned frames)
    (empty : self.ring.contents = [])
    (nextFrame : self.pending = frame.encode ++ behind)
    (fits : (frame.total : Int) ≤ self.ring.n) :
    ∃ ring : CycleBuffer,
      self.exec (.write frame.total) =
        some { self with ring := ring, pending := behind } ∧
      ring.rPos = self.ring.rPos ∧ ring.n = self.ring.n ∧
      ring.contents = frame.encode := by
  have stored := length_contents aligned.valid
  rw [empty, List.length_nil] at stored
  have room : self.ring.remainSpace ≥ (frame.total : Int) := by omega
  have chunk : self.chunk frame.total = frame.encode := by
    rw [FramedState.chunk, nextFrame]
    exact List.take_left' frame.length_encode
  have left : self.pending.drop frame.total = behind := by
    rw [nextFrame]
    exact List.drop_left' frame.length_encode
  have encoded := frame.length_encode
  have given : (frame.total : Int) ≤ frame.encode.length := by omega
  rcases store_spec aligned.valid (by omega) room given with
    ⟨ring, storeEq, -, -, appended⟩
  have writeEq :
      self.ring.write frame.encode frame.encode.length =
        .ok ((frame.total : Int), ring) := by
    rw [frame.length_encode, CycleBuffer.write, CycleBuffer.realloc,
      if_pos room]
    change (if self.ring.remainSpace ≥ (frame.total : Int) then
      self.ring.store frame.encode frame.total else throw .blocked) = _
    rw [if_pos room, storeEq]
  have kept := store_keeps storeEq
  refine ⟨ring, ?_, kept.1, kept.2, ?_⟩
  · rw [FramedState.exec, chunk, writeEq, left]
  · rw [appended, empty, List.nil_append, Int.toNat_natCast]
    exact List.take_of_length_le (Nat.le_of_eq frame.length_encode)

/-- A frame that is all there is stored is read. -/
theorem exec_read_frame
    {frames : List Frame} {self : FramedState} {frame : Frame}
    (aligned : self.Aligned frames)
    (stored : self.ring.contents = frame.encode)
    (fits : self.ring.rPos + frame.total ≤ 2147483647) :
    ∃ ring : CycleBuffer,
      self.exec (.read [] []) =
        some { self with
          ring := ring, taken := self.taken ++ [frame.content] } ∧
      ring.rPos = (self.ring.rPos + frame.total) % self.ring.n ∧
      ring.n = self.ring.n ∧ ring.contents = [] := by
  have long := frame.six_le_total
  have front : frame.encode <+: self.ring.contents :=
    ⟨[], by rw [List.append_nil, stored]⟩
  rcases readIdData_of_frame aligned.valid [] [] front fits with
    ⟨ring, readEq, -, sameCapacity, position, removed⟩
  refine ⟨ring, ?_, position, sameCapacity, ?_⟩
  · rw [FramedState.exec, readEq]
    simp only [Frame.content]
    rw [if_neg (by omega)]
  · rw [removed, stored]
    exact List.drop_of_length_le (Nat.le_of_eq frame.length_encode)

/-- In a ring that holds more than the first frame, a second frame whose
length the read position cannot be moved by is not read. -/
theorem far_frame_breaks
    {n : Int} {first second : Frame} (capacity : FitsInt32 n)
    (firstFits : (first.total : Int) < n)
    (secondFits : (second.total : Int) ≤ n)
    (overflows : 2147483647 < (first.total : Int) + second.total) :
    ∃ start, (framedMachine [first, second]).initial start ∧
      ¬ (framedMachine [first, second]).RunMeets FramedState.UndoesFraming
        start
        [.write first.total, .read [] [], .write second.total,
          .read [] []] := by
  rcases create_spec (n := n) (by omega) capacity.2 with
    ⟨ring, created, -, sameCapacity, empty⟩
  have position : ring.rPos = 0 := by
    rw [create, newBlock_ok (by omega)] at created
    cases created
    rfl
  have begun :
      (framedMachine [first, second]).initial
        ⟨ring, first.encode ++ (second.encode ++ []), []⟩ :=
    ⟨rfl, rfl, n, by omega, capacity, created⟩
  have aligned := FramedState.aligned_of_initial begun
  have firstBound := first.total_le
  refine ⟨_, begun, ?_⟩
  intro meets
  rcases exec_write_frame aligned empty rfl (by dsimp only; omega) with
    ⟨holding, wrote, holdingPosition, holdingCapacity, holdingContents⟩
  have holdingAligned := aligned.exec wrote
  rcases exec_read_frame holdingAligned holdingContents
      (by dsimp only at holdingPosition ⊢; omega) with
    ⟨drained, took, drainedPosition, drainedCapacity, drainedContents⟩
  have drainedAligned := holdingAligned.exec took
  rcases exec_write_frame drainedAligned drainedContents rfl
      (by dsimp only at holdingCapacity drainedCapacity ⊢; omega) with
    ⟨refilled, wroteAgain, refilledPosition, -, refilledContents⟩
  have refilledAligned := drainedAligned.exec wroteAgain
  have undoes :=
    (((meets.2 _ wrote).2 _ took).2 _ wroteAgain).1
  have front : second.encode <+: refilled.contents :=
    ⟨[], by rw [List.append_nil, refilledContents]⟩
  have stored := front_is_stored front
  have bound :=
    (refilledAligned.undoesFraming_iff _).mp undoes ⟨stored.1, stored.2.2⟩
  dsimp only at holdingPosition holdingCapacity drainedPosition
  dsimp only at refilledPosition bound
  rw [refilledPosition, drainedPosition, holdingPosition, position,
    holdingCapacity, sameCapacity, Int.zero_add,
    Int.emod_eq_of_lt (by omega) firstFits, stored.2.1] at bound
  exact absurd bound (Int.not_le.mpr overflows)

/-- For every list of frames and every run in which their concatenation is
written to a ring in chunks, with calls of `can_read()` and
`read(string& id, string& data)` in between: the calls undo the framing
exactly when every read of a whole message can add its length to the read
position, and the pairs that have been read are the first frames. -/
theorem framed_reads_undo_framing_iff
    {frames : List Frame} {start : FramedState}
    (begun : (framedMachine frames).initial start)
    (calls : List FramedCall) :
    ((framedMachine frames).RunMeets FramedState.UndoesFraming start calls ↔
        (framedMachine frames).RunMeets FramedState.AdvanceFits
          start calls) ∧
      ∀ final, (framedMachine frames).run start calls = some final →
        final.taken <+: frames.map Frame.content := by
  have reachable : (framedMachine frames).Reachable start := .initial begun
  constructor
  · apply TransitionMachine.runMeets_congr_of_reachable _ reachable
    intro source call reached
    exact (FramedState.aligned_of_reachable reached).undoesFraming_iff call
  · intro final executed
    rcases (FramedState.aligned_of_reachable
      (reachable.run executed)).split with ⟨done, rest, listed, taken, -⟩
    rw [taken, listed, List.map_append]
    exact List.prefix_append _ _

/-- Chunks that end inside a length field and across a frame, and a growth in
between. -/
theorem framed_reads_undo_framing_chunked :
    ∃ frames start,
      (framedMachine frames).initial start ∧
      (framedMachine frames).RunMeets FramedState.UndoesFraming start
        [.write 3, .canRead, .write 9, .read [] [], .write 2, .canRead,
          .read [] [], .read [] []] := by
  let frames : List Frame :=
    [⟨[65], [66, 67], by decide, by decide, by decide⟩,
      ⟨[], [68], by decide, by decide, by decide⟩]
  have begun :
      (framedMachine frames).initial
        ⟨⟨0, 0, 8, 8, List.replicate 8 0⟩,
          frames.flatMap Frame.encode, []⟩ :=
    ⟨rfl, rfl, 8, by decide, by decide, rfl⟩
  exact ⟨frames, _, begun,
    (framed_reads_undo_framing_iff begun _).1.mpr (by decide +kernel)⟩

/-- A frame of zeros with an empty id. -/
def zeroFrame (size : Nat) (large : 1 ≤ size) (fits : size ≤ 2147483642) :
    Frame where
  id := []
  data := List.replicate size 0
  id_short := Nat.zero_le _
  nonempty := by
    rw [List.length_nil, List.length_replicate]
    omega
  total_fits := by
    rw [List.length_nil, List.length_replicate]
    omega

theorem total_zeroFrame
    {size : Nat} (large : 1 ≤ size) (fits : size ≤ 2147483642) :
    (zeroFrame size large fits).total = size + 5 := by
  simp only [Frame.total, zeroFrame, List.length_nil, List.length_replicate]
  omega

/-- Two frames of `2 ^ 30` and `2 ^ 30 + 1` bytes. -/
def longFrames : List Frame :=
  [zeroFrame 1073741819 (by omega) (by omega),
    zeroFrame 1073741820 (by omega) (by omega)]

/-- In a ring of `2 ^ 30 + 1` bytes the second `read` adds the length of its
frame to `2 ^ 30`. -/
theorem long_frames_overflow :
    ∃ start,
      (framedMachine longFrames).initial start ∧
        ¬ (framedMachine longFrames).RunMeets FramedState.UndoesFraming
          start
          [.write 1073741824, .read [] [], .write 1073741825,
            .read [] []] := by
  have firstSize : 1 ≤ 1073741819 ∧ 1073741819 ≤ 2147483642 := by omega
  have secondSize : 1 ≤ 1073741820 ∧ 1073741820 ≤ 2147483642 := by omega
  have firstTotal :
      (zeroFrame 1073741819 firstSize.1 firstSize.2).total = 1073741824 :=
    total_zeroFrame firstSize.1 firstSize.2
  have secondTotal :
      (zeroFrame 1073741820 secondSize.1 secondSize.2).total =
        1073741825 :=
    total_zeroFrame secondSize.1 secondSize.2
  have capacity : FitsInt32 1073741825 := ⟨by omega, by omega⟩
  have firstFits :
      ((zeroFrame 1073741819 firstSize.1 firstSize.2).total : Int) <
        1073741825 := by
    omega
  have secondFits :
      ((zeroFrame 1073741820 secondSize.1 secondSize.2).total : Int) ≤
        1073741825 := by
    omega
  have breaks :=
    far_frame_breaks capacity firstFits secondFits (by omega)
  rw [firstTotal, secondTotal] at breaks
  exact breaks

end ChannelSdk.CycleBuffer
