import ChannelSdk.Lib.CircularWindow

/-!
# Checked machine arithmetic and byte blocks

Signed 32-bit arithmetic, array allocation and `memcpy`, with every operation
that the machine leaves undefined turned into a `Fault`.  A computation that
returns a value has therefore stayed inside the range of its integers and
inside the blocks it copies between.

A block is the list of its bytes.  A freshly allocated block is filled with
zeros, which stand for its indeterminate contents.
-/

namespace CheckedMemory

open CircularWindow

abbrev Bytes := List UInt8

/-- The ways in which a checked computation can fail to go on. -/
inductive Fault where
  /-- a signed result does not fit its 32-bit type -/
  | overflow
  /-- an integer division by zero -/
  | divisionByZero
  /-- an array allocation with a negative size -/
  | badAlloc
  /-- a copy that leaves its source or its destination block -/
  | outOfBounds
  /-- a wait whose condition nobody is left to establish -/
  | blocked
  deriving DecidableEq, Repr

/-- The values of a signed 32-bit integer. -/
def FitsInt32 (value : Int) : Prop :=
  -2147483648 ≤ value ∧ value ≤ 2147483647

instance (value : Int) : Decidable (FitsInt32 value) :=
  inferInstanceAs
    (Decidable (-2147483648 ≤ value ∧ value ≤ 2147483647))

/-- The result of a signed 32-bit operation whose exact result is `value`. -/
def int32 (value : Int) : Except Fault Int :=
  if FitsInt32 value then .ok value else .error .overflow

/-- The conversion of any integer to a signed 32-bit one, modulo `2 ^ 32`. -/
def toInt32 (value : Int) : Int :=
  (value + 2147483648) % 4294967296 - 2147483648

/-- The conversion of any integer to an unsigned 64-bit one, modulo
`2 ^ 64`. -/
def toUInt64 (value : Int) : Int :=
  value % 18446744073709551616

/-- Signed 32-bit division, which rounds towards zero. -/
def divInt32 (dividend divisor : Int) : Except Fault Int :=
  if divisor = 0 then .error .divisionByZero
  else int32 (dividend.tdiv divisor)

/-- The remainder of a signed 32-bit division, defined when the quotient
is. -/
def remInt32 (dividend divisor : Int) : Except Fault Int := do
  let _ ← divInt32 dividend divisor
  int32 (dividend.tmod divisor)

/-- A new block of `size` bytes. -/
def newBlock (size : Int) : Except Fault Bytes :=
  if size < 0 then .error .badAlloc
  else .ok (List.replicate size.toNat 0)

/-- Copy `length` bytes from `source + sourceOffset` to
`target + targetOffset`. -/
def memcpy
    (target : Bytes) (targetOffset : Int)
    (source : Bytes) (sourceOffset length : Int) :
    Except Fault Bytes :=
  if 0 ≤ length ∧ 0 ≤ targetOffset ∧ 0 ≤ sourceOffset ∧
      targetOffset + length ≤ target.length ∧
      sourceOffset + length ≤ source.length then
    .ok (overwrite target targetOffset.toNat
      ((source.drop sourceOffset.toNat).take length.toNat))
  else
    .error .outOfBounds

/-- `resize` of a string of bytes.  The size is unsigned, so a negative one
stands for the size that it wraps around to, which no string can have. -/
def resize (text : Bytes) (size : Int) : Except Fault Bytes :=
  if size < 0 then .error .badAlloc
  else .ok (text.take size.toNat ++
    List.replicate (size.toNat - text.length) 0)

/-- The number whose bytes are given, the lowest first. -/
def unsignedOf (bytes : Bytes) : Nat :=
  bytes.foldr (fun byte value => byte.toNat + 256 * value) 0

/-- The signed 32-bit integer whose bytes are given, the lowest first. -/
def signedOf (bytes : Bytes) : Int :=
  toInt32 (unsignedOf bytes)

/-- Load a signed 32-bit integer from `source + offset`. -/
def loadInt32 (source : Bytes) (offset : Int) : Except Fault Int :=
  if 0 ≤ offset ∧ offset + 4 ≤ source.length then
    .ok (signedOf ((source.drop offset.toNat).take 4))
  else
    .error .outOfBounds

/-- The lowest `count` bytes of a number, the lowest first. -/
def lowBytes : Nat → Nat → Bytes
  | 0, _ => []
  | count + 1, value => value.toUInt8 :: lowBytes count (value / 256)

@[simp]
theorem ok_bind
    {error alpha beta : Type} (value : alpha)
    (next : alpha → Except error beta) :
    (Except.ok value >>= next) = next value := rfl

@[simp]
theorem error_bind
    {error alpha beta : Type} (failure : error)
    (next : alpha → Except error beta) :
    (Except.error failure >>= next) = .error failure := rfl

theorem int32_ok
    {value : Int} (lower : -2147483648 ≤ value)
    (upper : value ≤ 2147483647) :
    int32 value = .ok value :=
  if_pos ⟨lower, upper⟩

theorem int32_eq_ok {value result : Int}
    (computed : int32 value = .ok result) :
    FitsInt32 value ∧ result = value := by
  by_cases fits : FitsInt32 value
  · rw [int32, if_pos fits, Except.ok.injEq] at computed
    exact ⟨fits, computed.symm⟩
  · rw [int32, if_neg fits] at computed
    cases computed

/-- Peel the first computation off a successful sequence. -/
theorem bind_eq_ok
    {error alpha beta : Type} {first : Except error alpha}
    {next : alpha → Except error beta} {result : beta}
    (computed : (first >>= next) = .ok result) :
    ∃ value, first = .ok value ∧ next value = .ok result := by
  cases first with
  | error failure =>
      cases computed
  | ok value =>
      exact ⟨value, rfl, computed⟩

theorem eq_ok_of_toOption
    {error value : Type} {computed : Except error value} {result : value}
    (completed : computed.toOption = some result) : computed = .ok result := by
  cases computed with
  | error failure => cases completed
  | ok found =>
      cases completed
      rfl

theorem mapError_eq_ok
    {error other value : Type} {computed : Except error value}
    {raise : error → other} {result : value}
    (completed : computed.mapError raise = .ok result) :
    computed = .ok result := by
  cases computed with
  | error failure => cases completed
  | ok found =>
      cases completed
      rfl

theorem toInt32_of_fits {value : Int} (fits : FitsInt32 value) :
    toInt32 value = value := by
  unfold FitsInt32 at fits
  unfold toInt32
  omega

theorem toUInt64_of_nonneg
    {value : Int} (nonneg : 0 ≤ value) (small : value ≤ 2147483647) :
    toUInt64 value = value :=
  Int.emod_eq_of_lt nonneg (by omega)

theorem remInt32_ok
    {dividend divisor : Int} (nonneg : 0 ≤ dividend)
    (positive : 0 < divisor) (fits : dividend ≤ 2147483647) :
    remInt32 dividend divisor = .ok (dividend % divisor) := by
  have quotientNonneg : 0 ≤ dividend / divisor :=
    Int.ediv_nonneg nonneg (by omega)
  have quotientLe : dividend / divisor ≤ dividend :=
    Int.ediv_le_self divisor nonneg
  have remainderNonneg : 0 ≤ dividend % divisor :=
    Int.emod_nonneg dividend (by omega)
  have division := Int.mul_ediv_add_emod dividend divisor
  have productNonneg : 0 ≤ divisor * (dividend / divisor) :=
    Int.mul_nonneg (by omega) quotientNonneg
  rw [remInt32, divInt32, if_neg (by omega),
    Int.tdiv_eq_ediv_of_nonneg nonneg, int32_ok (by omega) (by omega),
    ok_bind, Int.tmod_eq_emod_of_nonneg nonneg]
  exact int32_ok (by omega) (by omega)

theorem resize_ok {text : Bytes} {size : Int} (nonneg : 0 ≤ size) :
    resize text size =
      .ok (text.take size.toNat ++
        List.replicate (size.toNat - text.length) 0) :=
  if_neg (by omega)

theorem length_resized (text : Bytes) (size : Nat) :
    (text.take size ++
      List.replicate (size - text.length) 0 : Bytes).length = size := by
  rw [List.length_append, List.length_take, List.length_replicate]
  omega

theorem loadInt32_ok
    {source : Bytes} {offset : Int} (nonneg : 0 ≤ offset)
    (fits : offset + 4 ≤ source.length) :
    loadInt32 source offset =
      .ok (signedOf ((source.drop offset.toNat).take 4)) :=
  if_pos ⟨nonneg, fits⟩

@[simp]
theorem length_lowBytes (count value : Nat) :
    (lowBytes count value).length = count := by
  induction count generalizing value with
  | zero => rfl
  | succ count inductionHypothesis =>
      rw [lowBytes, List.length_cons, inductionHypothesis]

theorem unsignedOf_lowBytes_succ (count value : Nat) :
    unsignedOf (lowBytes (count + 1) value) =
      value % 256 + 256 * unsignedOf (lowBytes count (value / 256)) := rfl

/-- A length below `2 ^ 31` is read back from its four bytes. -/
theorem signedOf_lowBytes {value : Nat} (small : value < 2147483648) :
    signedOf (lowBytes 4 value) = value := by
  have none (rest : Nat) : unsignedOf (lowBytes 0 rest) = 0 := rfl
  have whole : unsignedOf (lowBytes 4 value) = value := by
    rw [unsignedOf_lowBytes_succ, unsignedOf_lowBytes_succ,
      unsignedOf_lowBytes_succ, unsignedOf_lowBytes_succ, none]
    omega
  rw [signedOf, whole]
  exact toInt32_of_fits ⟨by omega, by omega⟩

theorem newBlock_ok {size : Int} (nonneg : 0 ≤ size) :
    newBlock size = .ok (List.replicate size.toNat 0) :=
  if_neg (by omega)

theorem memcpy_ok
    {target source : Bytes} {targetOffset sourceOffset length : Int}
    (lengthNonneg : 0 ≤ length)
    (targetNonneg : 0 ≤ targetOffset)
    (sourceNonneg : 0 ≤ sourceOffset)
    (targetFits : targetOffset + length ≤ target.length)
    (sourceFits : sourceOffset + length ≤ source.length) :
    memcpy target targetOffset source sourceOffset length =
      .ok (overwrite target targetOffset.toNat
        ((source.drop sourceOffset.toNat).take length.toNat)) :=
  if_pos ⟨lengthNonneg, targetNonneg, sourceNonneg,
    targetFits, sourceFits⟩

/-- A copy that succeeds stays inside both blocks; in particular its size is
not negative, which would be a huge unsigned one. -/
theorem memcpy_eq_ok
    {target source result : Bytes}
    {targetOffset sourceOffset length : Int}
    (computed :
      memcpy target targetOffset source sourceOffset length = .ok result) :
    0 ≤ length ∧ targetOffset + length ≤ target.length ∧
      sourceOffset + length ≤ source.length ∧
      result.length = target.length := by
  unfold memcpy at computed
  split at computed
  · next bounds =>
      obtain ⟨nonneg, _, _, targetFits, sourceFits⟩ := bounds
      cases computed
      refine ⟨nonneg, targetFits, sourceFits, length_overwrite ?_⟩
      rw [List.length_take, List.length_drop]
      omega
  · cases computed

theorem resize_eq_ok {text result : Bytes} {size : Int}
    (computed : resize text size = .ok result) :
    0 ≤ size ∧ (result.length : Int) = size := by
  unfold resize at computed
  split at computed
  · cases computed
  · cases computed
    rw [length_resized]
    omega

/-- A block that is filled from a source holds just that piece of it. -/
theorem memcpy_whole
    {target source : Bytes} {offset : Int} (nonneg : 0 ≤ offset)
    (fits : offset + target.length ≤ source.length) :
    memcpy target 0 source offset target.length =
      .ok ((source.drop offset.toNat).take target.length) := by
  have pieceLength :
      ((source.drop offset.toNat).take target.length).length =
        target.length := by
    rw [List.length_take, List.length_drop]
    omega
  rw [memcpy_ok (by omega) (by omega) nonneg (by omega) fits,
    Int.toNat_natCast]
  exact congrArg Except.ok (overwrite_whole pieceLength)

/-! ## Copying windows out of a ring and data into it -/

/-- One copy hands out a window that does not pass the end of the ring. -/
theorem memcpy_window
    {target ring : Bytes} {start length : Int}
    (lengthNonneg : 0 ≤ length) (startNonneg : 0 ≤ start)
    (targetFits : length ≤ target.length)
    (contiguous : start + length ≤ ring.length) :
    memcpy target 0 ring start length =
      .ok (overwrite target 0
        (window ring start.toNat length.toNat)) := by
  rw [memcpy_ok lengthNonneg (by omega) startNonneg (by omega) contiguous,
    window_contiguous (by omega)]
  rfl

/-- Two copies hand out a window that passes the end of the ring. -/
theorem memcpy_window_wrapped
    (target ring : Bytes) (start first rest : Int)
    (restNonneg : 0 ≤ rest) (startNonneg : 0 ≤ start)
    (firstNonneg : 0 ≤ first)
    (targetFits : first + rest ≤ target.length)
    (toEnd : start + first = ring.length)
    (restFits : rest ≤ ring.length) :
    ∃ middle,
      memcpy target 0 ring start first = .ok middle ∧
      memcpy middle first ring 0 rest =
        .ok (overwrite target 0
          (window ring start.toNat (first + rest).toNat)) := by
  have firstPiece :
      (ring.drop start.toNat).take first.toNat =
        ring.drop start.toNat := by
    apply List.take_of_length_le
    rw [List.length_drop]
    omega
  have firstLength : (ring.drop start.toNat).length = first.toNat := by
    rw [List.length_drop]
    omega
  have restLength : (ring.take rest.toNat).length = rest.toNat := by
    rw [List.length_take]
    omega
  have middleLength :
      (overwrite target (0 : Int).toNat
        (ring.drop start.toNat)).length = target.length :=
    length_overwrite (by simp only [firstLength]; omega)
  refine ⟨overwrite target (0 : Int).toNat (ring.drop start.toNat), ?_, ?_⟩
  · rw [memcpy_ok firstNonneg (by omega) startNonneg (by omega) (by omega),
      firstPiece]
  · rw [memcpy_ok restNonneg firstNonneg (by omega)
      (by rw [middleLength]; exact targetFits) (by omega),
      window_wrapped (by omega) (by omega), Int.toNat_zero, List.drop_zero,
      show start.toNat + (first + rest).toNat - ring.length =
        rest.toNat by omega]
    have fits :
        0 + (ring.drop start.toNat ++ ring.take rest.toNat).length ≤
          target.length := by
      rw [List.length_append]
      omega
    have joined :=
      overwrite_append target (ring.drop start.toNat)
        (ring.take rest.toNat) fits
    rw [Nat.zero_add, firstLength] at joined
    rw [joined]

/-- One copy puts the front of the data into the ring. -/
theorem memcpy_front
    {ring data : Bytes} {position length : Int}
    (lengthNonneg : 0 ≤ length) (positionNonneg : 0 ≤ position)
    (ringFits : position + length ≤ ring.length)
    (dataFits : length ≤ data.length) :
    memcpy ring position data 0 length =
      .ok (overwrite ring position.toNat (data.take length.toNat)) := by
  rw [memcpy_ok lengthNonneg positionNonneg (by omega) ringFits (by omega)]
  rfl

/-- Two copies put the data into the ring across its end. -/
theorem memcpy_front_wrapped
    (ring data : Bytes) (position first rest : Int)
    (restNonneg : 0 ≤ rest) (positionNonneg : 0 ≤ position)
    (firstNonneg : 0 ≤ first)
    (dataFits : first + rest ≤ data.length)
    (toEnd : position + first = ring.length)
    (restFits : rest ≤ ring.length) :
    ∃ middle,
      memcpy ring position data 0 first = .ok middle ∧
      memcpy middle 0 data first rest =
        .ok (overwrite
          (overwrite ring position.toNat (data.take first.toNat)) 0
          ((data.drop first.toNat).take rest.toNat)) := by
  have firstLength : (data.take first.toNat).length = first.toNat := by
    rw [List.length_take]
    omega
  have middleLength :
      (overwrite ring position.toNat (data.take first.toNat)).length =
        ring.length :=
    length_overwrite (by rw [firstLength]; omega)
  refine ⟨_, memcpy_front firstNonneg positionNonneg (by omega) (by omega),
    ?_⟩
  rw [memcpy_ok restNonneg (by omega) firstNonneg
    (by rw [middleLength]; omega) dataFits]
  rfl

end CheckedMemory
