import ChannelSdk.BuildAgreement
import ChannelSdk.LoadedConfig
import ChannelSdk.Lib.TransitionMachine

/-!
# When the growth of a ring stays in range

`realloc` multiplies the capacity by a quotient of the message size, and the
first capacity of a ring is the `BUFFER_SIZE` of the configuration, which
`parse` takes as it is.  A `realloc` is safe when it divides by no zero, its
product fits its type, and it ends with room for the message and a size
between zero and the capacity.

A run is any sequence of writes and receives on one connection.  An exception
leaves the connection as it was; after an undefined operation there is no
next state.  The capacity product fits exactly when the message is shorter
than the multiples of the capacity leave room for, so the safe runs are those
in which every growing write meets such a ring.
-/

namespace ChannelSdk

open CheckedMemory CircularWindow

namespace CycleBuffer

/-- A `realloc` completes, and ends with a size in range and with room. -/
def ReallocSafe (self : CycleBuffer) (length : Int) : Prop :=
  ∃ next size, self.realloc length = .ok next ∧ next.size = .ok size ∧
    0 ≤ size ∧ size ≤ next.n ∧ length ≤ next.remainSpace

/-- If the ring has no room for `length` bytes, they are fewer than the
largest 32-bit multiple of its capacity less one capacity. -/
def Growable (self : CycleBuffer) (length : Int) : Prop :=
  self.remainSpace < length → length < (2147483647 / self.n - 1) * self.n

instance (self : CycleBuffer) (length : Int) :
    Decidable (self.Growable length) :=
  inferInstanceAs (Decidable (self.remainSpace < length → _))

/-- The capacity product fits exactly when the message is short enough. -/
theorem fits_growth_iff
    {self : CycleBuffer} (positive : 1 ≤ self.n)
    {length : Int} (nonneg : 0 ≤ length) :
    FitsInt32 (self.growth length) ↔
      length < (2147483647 / self.n - 1) * self.n := by
  have bounds := growth_bounds positive nonneg
  have quotient : length.tdiv self.n = length / self.n :=
    Int.tdiv_eq_ediv_of_nonneg nonneg
  have product :
      self.growth length = (length / self.n + 2) * self.n := by
    rw [growth, quotient, Int.mul_comm]
  have bounded :
      length / self.n + 2 ≤ 2147483647 / self.n ↔
        (length / self.n + 2) * self.n ≤ 2147483647 :=
    Int.le_ediv_iff_mul_le (by omega)
  have divided :
      length / self.n < 2147483647 / self.n - 1 ↔
        length < (2147483647 / self.n - 1) * self.n :=
    Int.ediv_lt_iff_lt_mul (by omega)
  rw [← divided, FitsInt32, product]
  rw [product] at bounds
  omega

/-- A ring without capacity cannot grow: the bound is zero. -/
theorem growable_iff
    {self : CycleBuffer} (valid : self.Valid)
    {length : Int} (nonneg : 0 ≤ length) :
    self.Growable length ↔
      (self.remainSpace < length → 1 ≤ self.n) ∧
        self.GrowthFits length := by
  have capacity := valid.capacity_nonneg
  unfold Growable GrowthFits
  rw [← forall_and]
  apply forall_congr'
  intro short
  by_cases positive : 1 ≤ self.n
  · rw [fits_growth_iff positive nonneg]
    exact ⟨fun bound => ⟨positive, bound⟩, fun bound => bound.2⟩
  · have noCapacity : self.n = 0 := by omega
    rw [noCapacity]
    omega

theorem reallocSafe_iff
    {self : CycleBuffer} (valid : self.Valid)
    {length : Int} (nonneg : 0 ≤ length) :
    self.ReallocSafe length ↔ self.Growable length := by
  rw [growable_iff valid nonneg]
  constructor
  · intro safe
    rcases safe with ⟨next, size, reallocated, -, -, -, -⟩
    have grows :
        self.remainSpace < length →
          self.n ≠ 0 ∧ FitsInt32 (self.growth length) := by
      intro short
      rw [realloc, if_neg (by omega)] at reallocated
      rcases bind_eq_ok reallocated with ⟨_, capacity, _⟩
      exact grownCapacity_eq_ok capacity
    have nonnegative := valid.capacity_nonneg
    refine ⟨?_, fun short => (grows short).2⟩
    intro short
    have nonzero := (grows short).1
    omega
  · intro condition
    rcases condition with ⟨positive, fits⟩
    rcases realloc_spec valid nonneg positive fits with
      ⟨next, reallocated, nextValid, -, -, room⟩
    have stored := length_contents nextValid
    have remain := nextValid.remain_nonneg
    exact ⟨next, next.contents.length, reallocated, size_eq nextValid,
      by omega, by omega, room⟩

end CycleBuffer

namespace BufferedConnection

/-- Writes and receives on one connection.  The exception of an allocation
leaves the connection unchanged, and an undefined operation has no next
state. -/
def storeMachine : TransitionMachine BufferedConnection StoreOp where
  initial := fun connection =>
    ∃ nodeid bufferSize, FitsInt32 bufferSize ∧
      connection = create nodeid bufferSize
  next := fun self op =>
    match self.execOp op with
    | .ok (_, next) => some next
    | .error .badAlloc => some self
    | .error _ => none

theorem execOp_reachable
    {self next : BufferedConnection} {op : StoreOp}
    {observed : Option Received} (reachable : self.Reachable)
    (executed : self.execOp op = .ok (observed, next)) :
    next.Reachable := by
  cases op with
  | write msgid data =>
      rcases bind_eq_ok executed with ⟨⟨written, appended⟩, wrote, executed⟩
      cases executed
      exact reachable.write wrote
  | recv msgid data =>
      rcases bind_eq_ok executed with ⟨taken, received, executed⟩
      rcases bind_eq_ok received with ⟨passed, pass, received⟩
      cases received
      cases passed with
      | none =>
          cases executed
          exact reachable
      | some result =>
          rcases result with ⟨value, after⟩
          cases executed
          exact reachable.recv pass

theorem storeMachine_reachable
    {self : BufferedConnection} (reached : storeMachine.Reachable self) :
    self.Reachable := by
  apply TransitionMachine.Reachable.invariant ?_ ?_ reached
  · intro state isInitial
    rcases isInitial with ⟨nodeid, bufferSize, fits, rfl⟩
    exact .create nodeid bufferSize fits
  · intro source op target sourceReachable stepped
    simp only [storeMachine] at stepped
    split at stepped
    next observed next executed =>
      cases stepped
      exact execOp_reachable sourceReachable executed
    next =>
      cases stepped
      exact sourceReachable
    next => cases stepped

/-- The `realloc` that an operation performs is safe. -/
def ReallocSafeAt (self : BufferedConnection) : StoreOp → Prop
  | .write msgid data =>
      ∀ ring, self.ensureBuffer msgid = .ok ring →
        ring.ReallocSafe (toInt32 data.length)
  | .recv _ _ => True

/-- A message meets a ring (a new one of `BUFFER_SIZE` bytes if its id has
none) that has room for it or can grow. -/
def GrowableAt (self : BufferedConnection) : StoreOp → Prop
  | .write msgid data =>
      ∀ ring, self.ensureBuffer msgid = .ok ring →
        ring.Growable data.length
  | .recv _ _ => True

/-- The message sizes of the operation are below `2 ^ 31`. -/
def SmallOp : StoreOp → Prop
  | .write _ data => data.length < 2147483648
  | .recv _ _ => True

instance (self : BufferedConnection) (op : StoreOp) :
    Decidable (self.GrowableAt op) :=
  match op with
  | .write msgid data =>
      match found : self.ensureBuffer msgid with
      | .ok ring =>
          decidable_of_iff (ring.Growable data.length)
            ⟨fun growable _ other =>
                Except.ok.inj (found.symm.trans other) ▸ growable,
              fun growable => growable ring found⟩
      | .error _ =>
          .isTrue fun _ other => nomatch found.symm.trans other
  | .recv _ _ => .isTrue trivial

instance (op : StoreOp) : Decidable (SmallOp op) :=
  match op with
  | .write _ data => inferInstanceAs (Decidable (data.length < 2147483648))
  | .recv _ _ => .isTrue trivial

theorem toInt32_of_small {size : Nat} (small : size < 2147483648) :
    toInt32 size = size :=
  toInt32_of_fits ⟨by omega, by omega⟩

theorem reallocSafeAt_iff
    {self : BufferedConnection} (valid : self.Valid)
    {op : StoreOp} (small : SmallOp op) :
    self.ReallocSafeAt op ↔ self.GrowableAt op := by
  cases op with
  | write msgid data =>
      simp only [ReallocSafeAt, GrowableAt, toInt32_of_small small]
      apply forall_congr'
      intro ring
      apply forall_congr'
      intro found
      exact CycleBuffer.reallocSafe_iff (valid.ensureBuffer found) (by omega)
  | recv msgid data =>
      exact Iff.rfl

end BufferedConnection

namespace ChannelConfig

theorem getInt_fits
    {doc : Json} {key : String} {defaultValue value : Int}
    (fits : FitsInt32 defaultValue)
    (read : getInt doc key defaultValue false = .ok value) :
    FitsInt32 value := by
  rcases bind_eq_ok read with ⟨present, -, read⟩
  split at read
  · rcases bind_eq_ok read with ⟨found, -, read⟩
    cases found with
    | integer number =>
        by_cases numberFits : FitsInt32 number
        · rw [Json.getInt, if_pos numberFits] at read
          cases read
          exact numberFits
        · rw [Json.getInt, if_neg numberFits] at read
          cases read
    | _ => cases read
  · cases read
    exact fits

theorem bufferSize_of_parseSettings
    {self result : ChannelConfig} {doc : Json}
    (parsed : self.parseSettings doc = .ok result) :
    FitsInt32 result.bufferSize := by
  rcases bind_eq_ok parsed with ⟨_, -, parsed⟩
  rcases bind_eq_ok parsed with ⟨_, -, parsed⟩
  rcases bind_eq_ok parsed with ⟨_, -, parsed⟩
  rcases bind_eq_ok parsed with ⟨bufferSize, readSize, parsed⟩
  rcases bind_eq_ok parsed with ⟨_, -, parsed⟩
  rcases bind_eq_ok parsed with ⟨_, -, parsed⟩
  rcases bind_eq_ok parsed with ⟨_, -, parsed⟩
  rcases bind_eq_ok parsed with ⟨_, -, parsed⟩
  cases parsed
  exact getInt_fits (by decide) readSize

/-- `parse` accepts a buffer size of 32 bits, whatever its value. -/
theorem bufferSize_of_parse
    {config : ChannelConfig} {doc : Json}
    (parsed : parse {} doc = .ok config) :
    FitsInt32 config.bufferSize := by
  rcases bind_eq_ok parsed with ⟨withSettings, settings, parsed⟩
  rcases bind_eq_ok parsed with ⟨withNodeInfo, nodeInfo, parsed⟩
  rcases bind_eq_ok parsed with ⟨withData, data, parsed⟩
  rcases bind_eq_ok parsed with ⟨withCompute, compute, parsed⟩
  rcases bind_eq_ok parsed with ⟨withResult, results, policy⟩
  have fits := bufferSize_of_parseSettings settings
  rcases parseSettings_eq_ok settings with
    ⟨_, _, _, _, _, _, _, _, rfl, _⟩
  rcases parseNodeInfo_eq_ok nodeInfo with ⟨_, _, _, _, rfl, _⟩
  rcases parseData_eq_ok rfl rfl data with ⟨_, rfl, _⟩
  rcases parseCompute_eq_ok rfl rfl compute with ⟨_, _, rfl, _, _⟩
  rcases parseResult_eq_ok rfl rfl results with ⟨_, rfl, _⟩
  rcases parsePolicy_eq_ok policy with ⟨_, _, rfl⟩
  exact fits

end ChannelConfig

/-- For every accepted buffer size and every sequence of writes and receives
with messages below `2 ^ 31` bytes: each `realloc` of the run is safe exactly
when each message of the run meets a ring that has room or can grow. -/
theorem reallocs_safe_iff
    {doc : Json} {config : ChannelConfig}
    (loaded : ChannelConfig.parse {} doc = .ok config)
    (nodeid : String) (ops : List StoreOp)
    (small : ∀ op ∈ ops, BufferedConnection.SmallOp op) :
    BufferedConnection.storeMachine.RunMeets
        BufferedConnection.ReallocSafeAt
        (BufferedConnection.create nodeid config.bufferSize) ops ↔
      BufferedConnection.storeMachine.RunMeets
        BufferedConnection.GrowableAt
        (BufferedConnection.create nodeid config.bufferSize) ops := by
  have begun :
      BufferedConnection.storeMachine.Reachable
        (BufferedConnection.create nodeid config.bufferSize) :=
    .initial ⟨nodeid, config.bufferSize,
      ChannelConfig.bufferSize_of_parse loaded, rfl⟩
  refine TransitionMachine.runMeets_congr ?_ begun small
  intro source op reached opSmall
  have valid :=
    (BufferedConnection.storeMachine_reachable reached).valid
  exact BufferedConnection.reallocSafeAt_iff valid opSmall

/-- A document with nothing but a buffer size. -/
def bufferSizeDocument (bufferSize : Int) : Json :=
  .object [("BUFFER_SIZE", .integer bufferSize)]

/-- With a `BUFFER_SIZE` of zero, which `parse` accepts, the first byte
written makes `realloc` divide by zero. -/
theorem zero_buffer_size_is_unsafe :
    ∃ config,
      ChannelConfig.parse {} (bufferSizeDocument 0) = .ok config ∧
      (∀ op ∈ [StoreOp.write "m" [7]], BufferedConnection.SmallOp op) ∧
      ¬ BufferedConnection.storeMachine.RunMeets
        BufferedConnection.ReallocSafeAt
        (BufferedConnection.create "p0" config.bufferSize)
        [.write "m" [7]] := by
  refine ⟨_, rfl, by decide, ?_⟩
  intro meets
  rcases meets.1 ⟨0, 0, 0, 0, []⟩ rfl with ⟨next, size, reallocated, -⟩
  exact nomatch reallocated

/-- A ring of two bytes that is filled, grows and is read. -/
theorem reallocs_safe_growing :
    ∃ config,
      ChannelConfig.parse {} (bufferSizeDocument 2) = .ok config ∧
      BufferedConnection.storeMachine.RunMeets
        BufferedConnection.ReallocSafeAt
        (BufferedConnection.create "p0" config.bufferSize)
        [.write "m" [1, 2], .write "m" [3, 4, 5], .recv "m" [0, 0]] := by
  refine ⟨{ bufferSize := 2, logLevel := 2 }, rfl, ?_⟩
  have loaded :
      ChannelConfig.parse {} (bufferSizeDocument 2) =
        .ok { bufferSize := 2, logLevel := 2 } := rfl
  exact (reallocs_safe_iff loaded "p0" _ (by decide)).mpr (by decide)

end ChannelSdk
