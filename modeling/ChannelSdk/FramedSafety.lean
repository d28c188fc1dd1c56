import ChannelSdk.FramedReads

/-!
# Reads of whole messages from arbitrary bytes

A peer chooses the bytes that a ring stores, so both fields of a message can
hold anything.  A call of `read(string& id, string& data)` is safe in a state
when none of its sizes wraps around, none of its copies leaves its block, and
a `can_read()` that is true is followed by a read that takes something out.

A run is any sequence of calls on one ring.  An exception leaves the ring as
it was; after an undefined operation there is no next state.
-/

namespace ChannelSdk.CycleBuffer

open CheckedMemory CircularWindow

/-- A call that may change the ring. -/
inductive RingOp where
  | write (data : Bytes) (length : Int)
  | realloc (length : Int)
  | read (data : Bytes) (length : Int)
  | readIdData (id data : Bytes)
  | reset
  deriving DecidableEq, Repr

/-- The ring after a call. -/
def execOp (self : CycleBuffer) : RingOp → Except Fault CycleBuffer
  | .write data length => do
      let (_, next) ← self.write data length
      return next
  | .realloc length => self.realloc length
  | .read data length => do
      let (_, _, next) ← self.read data length
      return next
  | .readIdData id data => do
      let (_, _, _, next) ← self.readIdData id data
      return next
  | .reset => return self.reset

def ringMachine : TransitionMachine CycleBuffer RingOp where
  initial := fun ring => ∃ n, FitsInt32 n ∧ create n = .ok ring
  next := fun self op =>
    match self.execOp op with
    | .ok next => some next
    | .error .badAlloc => some self
    | .error _ => none

/-- A read of the next message is safe, and one that `can_read()` announces
takes as many bytes out as it returns, at least one. -/
structure FramedReadSafe (ring : CycleBuffer) : Prop where
  sizes : ∀ id data, ring.readIdData id data ≠ .error .badAlloc
  copies : ∀ id data, ring.readIdData id data ≠ .error .outOfBounds
  progress :
    ring.canReadIdData = .ok true → ∀ id data,
      ∃ returned readId readData next,
        ring.readIdData id data = .ok (returned, readId, readData, next) ∧
          0 < returned ∧ returned ≤ ring.contents.length ∧
          next.contents = ring.contents.drop returned.toNat

/-- A message that counts as stored has more than the five bytes of its
fields, an id field that counts itself and points into it, and a length that
can be added to the read position. -/
def ConsistentFront (self : CycleBuffer) : Prop :=
  5 < self.contents.length →
    self.messageLength ≤ self.contents.length →
      6 ≤ self.messageLength ∧ 1 ≤ self.idField ∧
        self.idField + 4 ≤ self.messageLength ∧
        self.rPos + self.messageLength ≤ 2147483647

instance (self : CycleBuffer) : Decidable self.ConsistentFront :=
  inferInstanceAs (Decidable (_ → _ → _))

section Steps

variable {self next : CycleBuffer}

theorem Valid.reset (valid : self.Valid) : self.reset.Valid := by
  rcases valid with ⟨_, _, _, _, _, _, _, _, _, _⟩
  constructor <;> simp only [CycleBuffer.reset] <;> omega

theorem Valid.realloc
    (valid : self.Valid) {length : Int}
    (computed : self.realloc length = .ok next) : next.Valid := by
  by_cases room : self.remainSpace ≥ length
  · rw [CycleBuffer.realloc, if_pos room] at computed
    cases computed
    exact valid
  · have remain := valid.remain_nonneg
    have capacityNonneg := valid.capacity_nonneg
    have grows : self.n ≠ 0 ∧ FitsInt32 (self.growth length) := by
      rw [CycleBuffer.realloc, if_neg room] at computed
      rcases bind_eq_ok computed with ⟨_, capacity, _⟩
      exact grownCapacity_eq_ok capacity
    have nonneg : 0 ≤ length := by omega
    rcases realloc_spec valid nonneg (fun _ => by omega)
        (fun _ => grows.2) with
      ⟨grown, reallocated, grownValid, -⟩
    rw [reallocated] at computed
    cases computed
    exact grownValid

theorem Valid.readIdData
    (valid : self.Valid) {id data readId readData : Bytes} {returned : Int}
    (computed :
      self.readIdData id data = .ok (returned, readId, readData, next)) :
    next.Valid := by
  by_cases isStored :
      5 < self.contents.length ∧
        self.messageLength ≤ self.contents.length
  · rcases readIdData_eq_ok valid isStored.1 isStored.2 computed with
      ⟨-, same⟩ | ⟨large, lower, upper, fits⟩
    · rw [same]
      exact valid
    · rcases readIdData_of_message valid id data isStored.2 large lower upper
          fits with ⟨after, readEq, afterValid, -⟩
      have same := Except.ok.inj (computed.symm.trans readEq)
      simp only [Prod.mk.injEq] at same
      rw [same.2.2.2]
      exact afterValid
  · have none :=
      readIdData_of_none valid (fun stored => by omega) id data
    rw [computed] at none
    cases none
    exact valid

theorem Valid.execOp
    (valid : self.Valid) {op : RingOp}
    (computed : self.execOp op = .ok next) : next.Valid := by
  cases op with
  | write data length =>
      rcases bind_eq_ok computed with ⟨⟨returned, after⟩, wrote, same⟩
      cases same
      exact valid.write wrote
  | realloc length => exact valid.realloc computed
  | read data length =>
      rcases bind_eq_ok computed with ⟨⟨returned, shown, after⟩, took, same⟩
      cases same
      exact valid.read took
  | readIdData id data =>
      rcases bind_eq_ok computed with
        ⟨⟨returned, readId, readData, after⟩, took, same⟩
      cases same
      exact valid.readIdData took
  | reset =>
      cases computed
      exact valid.reset

theorem valid_of_reachable (reached : ringMachine.Reachable self) :
    self.Valid := by
  apply TransitionMachine.Reachable.invariant ?_ ?_ reached
  · intro ring isInitial
    rcases isInitial with ⟨n, fits, created⟩
    exact Valid.create fits created
  · intro source op target sourceValid stepped
    simp only [ringMachine] at stepped
    split at stepped
    next after executed =>
      cases stepped
      exact sourceValid.execOp executed
    next =>
      cases stepped
      exact sourceValid
    next => cases stepped

theorem framedReadSafe_iff (valid : self.Valid) :
    self.FramedReadSafe ↔ self.ConsistentFront := by
  constructor
  · intro safe stored available
    have readable : self.canReadIdData = .ok true := by
      rw [canReadIdData_eq valid]
      simp [stored, available]
    rcases safe.progress readable [] [] with
      ⟨returned, readId, readData, after, readEq, positive, -⟩
    rcases readIdData_eq_ok valid stored available readEq with
      ⟨nothing, -⟩ | fields
    · omega
    · exact fields
  · intro consistent
    by_cases isStored :
        5 < self.contents.length ∧
          self.messageLength ≤ self.contents.length
    · rcases consistent isStored.1 isStored.2 with
        ⟨large, lower, upper, fits⟩
      have reads := fun id data =>
        readIdData_of_message valid id data isStored.2 large lower upper fits
      refine ⟨?_, ?_, ?_⟩
      · intro id data failed
        rcases reads id data with ⟨after, readEq, -⟩
        rw [failed] at readEq
        cases readEq
      · intro id data failed
        rcases reads id data with ⟨after, readEq, -⟩
        rw [failed] at readEq
        cases readEq
      · intro _ id data
        rcases reads id data with ⟨after, readEq, -, -, -, removed⟩
        exact ⟨_, _, _, after, readEq, by omega, isStored.2, removed⟩
    · have reads := fun id data =>
        readIdData_of_none valid (fun stored => by omega) id data
      refine ⟨?_, ?_, ?_⟩
      · intro id data failed
        rw [reads id data] at failed
        cases failed
      · intro id data failed
        rw [reads id data] at failed
        cases failed
      · intro readable
        rw [canReadIdData_eq valid, Except.ok.injEq, decide_eq_true_iff]
          at readable
        exact absurd readable isStored

end Steps

/-- In every run of calls on a ring, whatever bytes are written: the reads of
messages are safe in all states that the run passes through exactly when the
message at the front is consistent in all of them, and so in the state that
the run ends with. -/
theorem framed_reads_safe_iff
    {n : Int} (fits : FitsInt32 n) {start : CycleBuffer}
    (created : create n = .ok start) (ops : List RingOp) :
    (ringMachine.RunMeets (fun ring _ => ring.FramedReadSafe) start ops ↔
        ringMachine.RunMeets (fun ring _ => ring.ConsistentFront)
          start ops) ∧
      ∀ final, ringMachine.run start ops = some final →
        (final.FramedReadSafe ↔ final.ConsistentFront) := by
  have begun : ringMachine.Reachable start :=
    .initial ⟨n, fits, created⟩
  constructor
  · apply TransitionMachine.runMeets_congr_of_reachable _ begun
    intro source op reached
    exact framedReadSafe_iff (valid_of_reachable reached)
  · intro final executed
    exact framedReadSafe_iff (valid_of_reachable (begun.run executed))

/-- Two messages, one of which lies across the end of the ring. -/
theorem framed_reads_safe_wrapping :
    ∃ start, create 8 = .ok start ∧
      ringMachine.RunMeets (fun ring _ => ring.FramedReadSafe) start
        [.write [6, 0, 0, 0, 1, 65] 6, .readIdData [] [],
          .write [7, 0, 0, 0, 2, 66, 67] 7, .readIdData [] []] := by
  refine ⟨⟨0, 0, 8, 8, List.replicate 8 0⟩, rfl, ?_⟩
  exact (framed_reads_safe_iff (n := 8) (by decide) rfl _).1.mpr (by decide)

/-- A length field of five: `can_read()` announces a message for ever, and no
read takes it out. -/
theorem short_message_is_never_read :
    ∃ start final,
      create 8 = .ok start ∧
        ringMachine.run start
          [.write [5, 0, 0, 0, 1, 65] 6] = some final ∧
        ¬ final.FramedReadSafe := by
  refine ⟨⟨0, 0, 8, 8, List.replicate 8 0⟩,
    ⟨0, 6, 8, 2, [5, 0, 0, 0, 1, 65, 0, 0]⟩, rfl, rfl, ?_⟩
  intro safe
  rcases safe.progress (by decide) [] [] with
    ⟨returned, readId, readData, next, readEq, positive, -⟩
  have nothing :
      readIdData ⟨0, 6, 8, 2, [5, 0, 0, 0, 1, 65, 0, 0]⟩ [] [] =
        .ok (0, [], [], ⟨0, 6, 8, 2, [5, 0, 0, 0, 1, 65, 0, 0]⟩) := by
    decide
  rw [nothing] at readEq
  cases readEq
  omega

end ChannelSdk.CycleBuffer
