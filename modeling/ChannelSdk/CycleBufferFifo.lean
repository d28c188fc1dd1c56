import ChannelSdk.CycleBuffer

/-!
# `cycle_buffer` is a byte queue

The stored bytes are the window of `size()` bytes behind the read position.
The positions may rest on `n_` as well as on zero, so they determine the
number of stored bytes only up to a whole turn of the ring; the invariant
therefore ties the two positions to `remain_space_`.

Each operation is specified once, against the queue of its stored bytes.
-/

namespace ChannelSdk.CycleBuffer

open CheckedMemory CircularWindow

/-- The stored bytes, oldest first. -/
def contents (self : CycleBuffer) : Bytes :=
  window self.buffer self.rPos.toNat (self.n - self.remainSpace).toNat

/-- What every operation keeps: the block has the advertised size, both
positions lie in it (or on its end), and the write position is the read
position moved on by the stored bytes, up to one turn. -/
structure Valid (ring : CycleBuffer) : Prop where
  capacity_nonneg : 0 ≤ ring.n
  capacity_fits : ring.n ≤ 2147483647
  block_length : (ring.buffer.length : Int) = ring.n
  rPos_nonneg : 0 ≤ ring.rPos
  rPos_le : ring.rPos ≤ ring.n
  wPos_nonneg : 0 ≤ ring.wPos
  wPos_le : ring.wPos ≤ ring.n
  remain_nonneg : 0 ≤ ring.remainSpace
  remain_le : ring.remainSpace ≤ ring.n
  positions :
    ring.wPos = ring.rPos + (ring.n - ring.remainSpace) ∨
      ring.wPos + ring.n = ring.rPos + (ring.n - ring.remainSpace) ∨
      ring.wPos = ring.rPos + (ring.n - ring.remainSpace) + ring.n

theorem length_contents {self : CycleBuffer} (valid : self.Valid) :
    (self.contents.length : Int) = self.n - self.remainSpace := by
  obtain ⟨_, _, block, _, _, _, _, _, _, _⟩ := valid
  unfold contents
  rw [length_window (by omega) (by omega)]
  omega

theorem create_spec {n : Int} (nonneg : 0 ≤ n) (fits : n ≤ 2147483647) :
    ∃ self, create n = .ok self ∧
      self.Valid ∧ self.n = n ∧ self.contents = [] := by
  refine ⟨⟨0, 0, n, n, List.replicate n.toNat 0⟩, ?_, ?_, rfl, ?_⟩
  · rw [create, newBlock_ok (by omega)]
    rfl
  · constructor <;> simp <;> omega
  · simp [contents, window]

theorem size_eq {self : CycleBuffer} (valid : self.Valid) :
    self.size = .ok self.contents.length := by
  rw [length_contents valid]
  obtain ⟨_, _, _, _, _, _, _, _, _, _⟩ := valid
  exact int32_ok (by omega) (by omega)

theorem empty_iff {self : CycleBuffer} (valid : self.Valid) :
    self.empty = true ↔ self.contents = [] := by
  have length := length_contents valid
  rw [← List.length_eq_zero_iff, empty, decide_eq_true_iff]
  omega

theorem canRead_eq
    {self : CycleBuffer} (valid : self.Valid) (length : Int) :
    self.canRead length =
      .ok (decide (length ≤ self.contents.length)) := by
  have size := size_eq valid
  unfold CycleBuffer.size at size
  rw [canRead, size, ok_bind]
  rfl

theorem take_contents
    {self : CycleBuffer} (valid : self.Valid) {length : Int}
    (stored : length ≤ self.contents.length) :
    self.contents.take length.toNat =
      window self.buffer self.rPos.toNat length.toNat := by
  have lengthContents := length_contents valid
  obtain ⟨_, _, block, _, _, _, _, _, _, _⟩ := valid
  exact take_window (by omega) (by omega) (by omega)

/-- A `peek` hands out the oldest bytes, whichever copy shape it takes. -/
theorem peek_spec
    {self : CycleBuffer} (valid : self.Valid)
    {data : Bytes} {length : Int}
    (nonneg : 0 ≤ length)
    (stored : length ≤ self.contents.length)
    (room : length ≤ data.length) :
    self.peek data length =
      .ok (length, overwrite data 0 (self.contents.take length.toNat)) := by
  have lengthContents := length_contents valid
  rw [take_contents valid stored]
  obtain ⟨_, _, block, _, _, _, _, _, _, positions⟩ := valid
  unfold peek
  rw [int32_ok (by omega) (by omega), ok_bind, if_pos (by omega)]
  by_cases wrapped : self.rPos ≥ self.wPos
  · rw [if_pos wrapped, int32_ok (by omega) (by omega), ok_bind]
    by_cases contiguous : self.rPos ≤ self.n - length
    · rw [if_pos contiguous,
        memcpy_window nonneg (by omega) room (by omega)]
      rfl
    · obtain ⟨middle, copyFirst, copyRest⟩ :=
        memcpy_window_wrapped data self.buffer self.rPos
          (self.n - self.rPos) (length - (self.n - self.rPos))
          (by omega) (by omega) (by omega) (by omega) (by omega) (by omega)
      rw [if_neg contiguous, int32_ok (by omega) (by omega), ok_bind,
        copyFirst, ok_bind, int32_ok (by omega) (by omega), ok_bind,
        copyRest, ok_bind, show self.n - self.rPos +
          (length - (self.n - self.rPos)) = length by omega]
      rfl
  · rw [if_neg wrapped, memcpy_window nonneg (by omega) room (by omega)]
    rfl

/-- Every branch of `read` leaves the block alone and moves the read position
by `length`, up to one turn. -/
theorem advanced_spec
    {self : CycleBuffer} (valid : self.Valid) {length : Int}
    (nonneg : 0 ≤ length) (stored : length ≤ self.contents.length)
    (rPos : Int) (rNonneg : 0 ≤ rPos) (rLe : rPos ≤ self.n)
    (turned :
      rPos = self.rPos + length ∨ rPos + self.n = self.rPos + length) :
    let next : CycleBuffer :=
      { self with rPos := rPos, remainSpace := self.remainSpace + length }
    next.Valid ∧ next.n = self.n ∧
      next.contents = self.contents.drop length.toNat := by
  have lengthContents := length_contents valid
  obtain ⟨_, _, block, _, _, _, _, _, _, positions⟩ := valid
  refine ⟨by constructor <;> simp only <;> omega, rfl, ?_⟩
  unfold contents
  rw [drop_window (by omega) (by omega) (by omega)
    (show rPos.toNat ≤ self.buffer.length by omega) (by omega)]
  dsimp only
  congr 1
  omega

/-- A `read` hands out what `peek` would and removes it. -/
theorem read_spec
    {self : CycleBuffer} (valid : self.Valid)
    {data : Bytes} {length : Int}
    (nonneg : 0 ≤ length)
    (stored : length ≤ self.contents.length)
    (room : length ≤ data.length) :
    ∃ next : CycleBuffer,
      self.read data length =
        .ok (length,
          overwrite data 0 (self.contents.take length.toNat), next) ∧
      next.Valid ∧ next.n = self.n ∧
      next.contents = self.contents.drop length.toNat := by
  have lengthContents := length_contents valid
  have moved := advanced_spec valid nonneg stored
  rw [take_contents valid stored]
  obtain ⟨_, _, block, _, _, _, _, _, _, positions⟩ := valid
  unfold read
  rw [int32_ok (by omega) (by omega), ok_bind, if_pos (by omega)]
  by_cases wrapped : self.rPos ≥ self.wPos
  · rw [if_pos wrapped, int32_ok (by omega) (by omega), ok_bind]
    by_cases contiguous : self.rPos ≤ self.n - length
    · rw [if_pos contiguous,
        memcpy_window nonneg (by omega) room (by omega), ok_bind,
        int32_ok (by omega) (by omega), ok_bind,
        int32_ok (by omega) (by omega), ok_bind]
      exact ⟨_, rfl, moved _ (by omega) (by omega) (by omega)⟩
    · obtain ⟨middle, copyFirst, copyRest⟩ :=
        memcpy_window_wrapped data self.buffer self.rPos
          (self.n - self.rPos) (length - (self.n - self.rPos))
          (by omega) (by omega) (by omega) (by omega) (by omega) (by omega)
      rw [if_neg contiguous, int32_ok (by omega) (by omega), ok_bind,
        copyFirst, ok_bind, int32_ok (by omega) (by omega), ok_bind,
        copyRest, ok_bind, int32_ok (by omega) (by omega), ok_bind,
        show self.n - self.rPos +
          (length - (self.n - self.rPos)) = length by omega]
      exact ⟨_, rfl, moved _ (by omega) (by omega) (by omega)⟩
  · rw [if_neg wrapped, memcpy_window nonneg (by omega) room (by omega),
      ok_bind, int32_ok (by omega) (by omega), ok_bind,
      int32_ok (by omega) (by omega), ok_bind]
    exact ⟨_, rfl, moved _ (by omega) (by omega) (by omega)⟩

/-- The capacity product that a growing `realloc` computes. -/
def growth (self : CycleBuffer) (length : Int) : Int :=
  self.n * (length.tdiv self.n + 2)

/-- The capacity product of `realloc` fits its type, if it is computed. -/
def GrowthFits (self : CycleBuffer) (length : Int) : Prop :=
  self.remainSpace < length → FitsInt32 (self.growth length)

instance (self : CycleBuffer) (length : Int) :
    Decidable (self.GrowthFits length) :=
  inferInstanceAs (Decidable (self.remainSpace < length → _))

theorem growth_bounds
    {self : CycleBuffer} (positive : 1 ≤ self.n)
    {length : Int} (nonneg : 0 ≤ length) :
    length + self.n < self.growth length ∧
      length.tdiv self.n + 2 ≤ self.growth length ∧
      0 ≤ length.tdiv self.n := by
  have quotient : length.tdiv self.n = length / self.n :=
    Int.tdiv_eq_ediv_of_nonneg nonneg
  have quotientNonneg : 0 ≤ length / self.n :=
    Int.ediv_nonneg nonneg (by omega)
  have division := Int.mul_ediv_add_emod length self.n
  have remainder : length % self.n < self.n :=
    Int.emod_lt_of_pos length (by omega)
  have expanded :
      self.growth length =
        self.n * (length / self.n) + self.n * 2 := by
    rw [growth, quotient, Int.mul_add]
  have scaled :
      1 * (length / self.n + 2) ≤ self.n * (length / self.n + 2) :=
    Int.mul_le_mul_of_nonneg_right positive (by omega)
  refine ⟨by omega, ?_, by omega⟩
  rw [growth, quotient]
  omega

theorem grownCapacity_ok
    {self : CycleBuffer} (positive : 1 ≤ self.n)
    {length : Int} (nonneg : 0 ≤ length)
    (fits : FitsInt32 (self.growth length)) :
    self.grownCapacity length = .ok (self.growth length) := by
  obtain ⟨_, factorLe, quotientNonneg⟩ := growth_bounds positive nonneg
  have upper := fits.2
  unfold grownCapacity divInt32
  rw [if_neg (by omega), int32_ok (by omega) (by omega), ok_bind,
    int32_ok (by omega) (by omega), ok_bind]
  exact int32_ok fits.1 fits.2

/-- The buffer that `realloc` installs: the stored bytes at the start of a
larger block. -/
def relinearised (self : CycleBuffer) (newN : Int) (block : Bytes) :
    CycleBuffer :=
  { rPos := 0, wPos := self.contents.length, n := newN,
    remainSpace := newN - self.contents.length, buffer := block }

theorem relinearised_spec
    {self : CycleBuffer} (valid : self.Valid)
    {length newN : Int} (block : Bytes)
    (nonneg : 0 ≤ length)
    (grown : length + self.n < newN) (fits : newN ≤ 2147483647)
    (blockLength : (block.length : Int) = newN)
    (front : block.take self.contents.length = self.contents) :
    (self.relinearised newN block).Valid ∧
      self.n ≤ (self.relinearised newN block).n ∧
      (self.relinearised newN block).contents = self.contents ∧
      length ≤ (self.relinearised newN block).remainSpace := by
  have lengthContents := length_contents valid
  obtain ⟨_, _, _, _, _, _, _, _, _, _⟩ := valid
  refine ⟨by constructor <;> simp only [relinearised] <;> omega,
    by simp only [relinearised]; omega, ?_, ?_⟩
  · rw [contents, window_contiguous (by simp only [relinearised]; omega)]
    simp only [relinearised, Int.toNat_zero, List.drop_zero]
    rw [show (newN - (newN - (self.contents.length : Int))).toNat =
      self.contents.length by omega]
    exact front
  · simp only [relinearised]
    omega

/-- `realloc` keeps the stored bytes and leaves room for `length` more. -/
theorem realloc_spec
    {self : CycleBuffer} (valid : self.Valid) {length : Int}
    (nonneg : 0 ≤ length)
    (positive : self.remainSpace < length → 1 ≤ self.n)
    (fits : self.GrowthFits length) :
    ∃ next : CycleBuffer,
      self.realloc length = .ok next ∧ next.Valid ∧ self.n ≤ next.n ∧
      next.contents = self.contents ∧ length ≤ next.remainSpace := by
  by_cases room : self.remainSpace ≥ length
  · exact ⟨self, if_pos room, valid, Int.le_refl _, rfl, room⟩
  · have positive := positive (by omega)
    have growthFits := fits (by omega)
    have upper := growthFits.2
    obtain ⟨grown, -, -⟩ := growth_bounds positive nonneg
    have installed :=
      fun block => relinearised_spec valid block nonneg grown upper
    have lengthContents := length_contents valid
    have size := size_eq valid
    have stored :
        self.contents =
          window self.buffer self.rPos.toNat
            (self.contents.length : Int).toNat := by
      rw [← take_contents valid (Int.le_refl _), Int.toNat_natCast,
        List.take_length]
    obtain ⟨_, _, block, _, _, _, _, _, _, positions⟩ := valid
    have newLength :
        ((List.replicate (self.growth length).toNat
          (0 : UInt8)).length : Int) = self.growth length := by
      rw [List.length_replicate]
      omega
    unfold realloc
    rw [if_neg room, grownCapacity_ok (by omega) nonneg growthFits, ok_bind,
      newBlock_ok (by omega), ok_bind, size, ok_bind]
    by_cases ahead : self.wPos > self.rPos
    · rw [if_pos ahead, memcpy_window (by omega) (by omega) (by omega)
        (by omega), ok_bind, int32_ok (by omega) (by omega), ok_bind,
        ← stored]
      exact ⟨_, rfl, installed _
        (by rw [length_overwrite (by omega)]; exact newLength)
        (take_overwrite_zero _ _)⟩
    · rw [if_neg ahead, int32_ok (by omega) (by omega), ok_bind]
      by_cases more :
          (self.contents.length : Int) - (self.n - self.rPos) > 0
      · obtain ⟨middle, copyFirst, copyRest⟩ :=
          memcpy_window_wrapped
            (List.replicate (self.growth length).toNat 0)
            self.buffer self.rPos (self.n - self.rPos)
            (self.contents.length - (self.n - self.rPos))
            (by omega) (by omega) (by omega) (by omega) (by omega)
            (by omega)
        rw [show self.n - self.rPos + ((self.contents.length : Int) -
          (self.n - self.rPos)) = self.contents.length by omega,
          ← stored] at copyRest
        rw [copyFirst, ok_bind, int32_ok (by omega) (by omega),
          ok_bind, if_pos more, copyRest]
        simp only [ok_bind]
        rw [int32_ok (by omega) (by omega), ok_bind]
        exact ⟨_, rfl, installed _
          (by rw [length_overwrite (by omega)]; exact newLength)
          (take_overwrite_zero _ _)⟩
      · -- The stored bytes end with the block, or there are none and the
        -- copied bytes are not read again.
        rw [memcpy_window (by omega) (by omega) (by omega) (by omega),
          ok_bind, int32_ok (by omega) (by omega), ok_bind,
          if_neg more]
        simp only [pure_bind]
        rw [int32_ok (by omega) (by omega), ok_bind]
        have tailLength :
            (window self.buffer self.rPos.toNat
              (self.n - self.rPos).toNat).length =
              (self.n - self.rPos).toNat :=
          length_window (by omega) (by omega)
        refine ⟨_, rfl, installed _
          (by rw [length_overwrite (by omega)]; exact newLength) ?_⟩
        by_cases none : self.contents.length = 0
        · rw [none, List.take_zero, List.length_eq_zero_iff.mp none]
        · have same :
              window self.buffer self.rPos.toNat
                (self.n - self.rPos).toNat = self.contents := by
            rw [show self.n - self.rPos = self.contents.length by omega]
            exact stored.symm
          rw [same]
          exact take_overwrite_zero _ _

/-- Every branch of `store` extends the stored bytes and moves the write
position behind them, up to one turn. -/
theorem appended_spec
    {self : CycleBuffer} (valid : self.Valid)
    {data : Bytes} {length : Int}
    (nonneg : 0 ≤ length) (room : length ≤ self.remainSpace)
    (given : length ≤ data.length)
    (wPos : Int) (buffer : Bytes) (wNonneg : 0 ≤ wPos) (wLe : wPos ≤ self.n)
    (turned :
      wPos = self.rPos + self.contents.length + length ∨
        wPos + self.n = self.rPos + self.contents.length + length ∨
        wPos = self.rPos + self.contents.length + length + self.n)
    (sameLength : buffer.length = self.buffer.length)
    (windowEq :
      window buffer self.rPos.toNat
          ((self.n - self.remainSpace).toNat +
            (data.take length.toNat).length) =
        self.contents ++ data.take length.toNat) :
    let next : CycleBuffer :=
      { self with
        wPos := wPos
        remainSpace := self.remainSpace - length
        buffer := buffer }
    next.Valid ∧ next.n = self.n ∧
      next.contents = self.contents ++ data.take length.toNat := by
  have lengthContents := length_contents valid
  obtain ⟨_, _, block, _, _, _, _, _, _, positions⟩ := valid
  have dataLength : (data.take length.toNat).length = length.toNat := by
    rw [List.length_take]
    omega
  refine ⟨by constructor <;> simp only <;> omega, rfl, ?_⟩
  rw [← windowEq, contents]
  dsimp only
  congr 1
  omega

/-- With room for it, the data goes behind the stored bytes. -/
theorem store_spec
    {self : CycleBuffer} (valid : self.Valid)
    {data : Bytes} {length : Int}
    (nonneg : 0 ≤ length) (room : length ≤ self.remainSpace)
    (given : length ≤ data.length) :
    ∃ next : CycleBuffer,
      self.store data length = .ok (length, next) ∧
      next.Valid ∧ next.n = self.n ∧
      next.contents = self.contents ++ data.take length.toNat := by
  have lengthContents := length_contents valid
  have appended := appended_spec valid nonneg room given
  obtain ⟨_, _, block, _, _, _, _, _, _, positions⟩ := valid
  have dataLength : (data.take length.toNat).length = length.toNat := by
    rw [List.length_take]
    omega
  unfold store
  by_cases ahead : self.wPos ≥ self.rPos
  · rw [if_pos ahead, int32_ok (by omega) (by omega), ok_bind]
    by_cases contiguous : self.wPos ≤ self.n - length
    · rw [if_pos contiguous,
        memcpy_front nonneg (by omega) (by omega) given, ok_bind,
        int32_ok (by omega) (by omega), ok_bind,
        int32_ok (by omega) (by omega), ok_bind]
      exact ⟨_, rfl, appended _ _ (by omega) (by omega) (by omega)
        (length_overwrite (by omega))
        (window_overwrite (by omega) (by omega) (by omega) (by omega))⟩
    · obtain ⟨middle, copyFirst, copyRest⟩ :=
        memcpy_front_wrapped self.buffer data self.wPos
          (self.n - self.wPos) (length - (self.n - self.wPos))
          (by omega) (by omega) (by omega) (by omega) (by omega) (by omega)
      have pieces :
          data.take (self.n - self.wPos).toNat ++
              (data.drop (self.n - self.wPos).toNat).take
                (length - (self.n - self.wPos)).toNat =
            data.take length.toNat := by
        rw [show length.toNat = (self.n - self.wPos).toNat +
          (length - (self.n - self.wPos)).toNat by omega, List.take_add]
      rw [if_neg contiguous, int32_ok (by omega) (by omega), ok_bind,
        copyFirst, ok_bind, int32_ok (by omega) (by omega), ok_bind,
        copyRest, ok_bind, int32_ok (by omega) (by omega), ok_bind]
      have firstLength :
          (data.take (self.n - self.wPos).toNat).length =
            (self.n - self.wPos).toNat := by
        rw [List.length_take]
        omega
      have restLength :
          ((data.drop (self.n - self.wPos).toNat).take
            (length - (self.n - self.wPos)).toNat).length =
            (length - (self.n - self.wPos)).toNat := by
        rw [List.length_take, List.length_drop]
        omega
      have middleLength :
          (overwrite self.buffer self.wPos.toNat
            (data.take (self.n - self.wPos).toNat)).length =
            self.buffer.length :=
        length_overwrite (by omega)
      refine ⟨_, rfl, appended _ _ (by omega) (by omega) (by omega)
        ((length_overwrite (by omega)).trans middleLength) ?_⟩
      rw [← pieces]
      exact window_overwrite_wrapped (by omega)
        (by rw [pieces]; omega) (by omega) (by omega)
  · rw [if_neg ahead, memcpy_front nonneg (by omega) (by omega) given,
      ok_bind, int32_ok (by omega) (by omega), ok_bind,
      int32_ok (by omega) (by omega), ok_bind]
    exact ⟨_, rfl, appended _ _ (by omega) (by omega) (by omega)
      (length_overwrite (by omega))
      (window_overwrite (by omega) (by omega) (by omega) (by omega))⟩

/-- A `write` never waits and appends the first `length` bytes of `data`. -/
theorem write_spec
    {self : CycleBuffer} (valid : self.Valid)
    {data : Bytes} {length : Int} (nonneg : 0 ≤ length)
    (positive : self.remainSpace < length → 1 ≤ self.n)
    (fits : self.GrowthFits length)
    (given : length ≤ data.length) :
    ∃ next : CycleBuffer,
      self.write data length = .ok (length, next) ∧
      next.Valid ∧ self.n ≤ next.n ∧
      next.contents = self.contents ++ data.take length.toNat := by
  obtain ⟨grown, reallocEq, grownValid, grownLe, sameContents, room⟩ :=
    realloc_spec valid nonneg positive fits
  obtain ⟨next, storeEq, nextValid, sameCapacity, nextContents⟩ :=
    store_spec grownValid nonneg room given
  refine ⟨next, ?_, nextValid, by omega, by rw [nextContents, sameContents]⟩
  rw [write, reallocEq, ok_bind, if_pos room, storeEq]

/-! ## What a successful operation tells about its arguments -/

theorem read_eq_ok
    {self : CycleBuffer} (valid : self.Valid)
    {data : Bytes} {length : Int} {result : Int × Bytes × CycleBuffer}
    (computed : self.read data length = .ok result) :
    0 ≤ length ∧ length ≤ self.contents.length ∧
      length ≤ data.length := by
  have lengthContents := length_contents valid
  obtain ⟨_, _, _, _, _, _, _, _, _, _⟩ := valid
  unfold read at computed
  rw [int32_ok (by omega) (by omega), ok_bind] at computed
  split at computed
  · split at computed
    · obtain ⟨lastStart, _, computed⟩ := bind_eq_ok computed
      split at computed
      · obtain ⟨_, copied, _⟩ := bind_eq_ok computed
        obtain ⟨nonneg, fits, -, -⟩ := memcpy_eq_ok copied
        omega
      · rw [int32_ok (by omega) (by omega), ok_bind] at computed
        obtain ⟨_, copiedFirst, computed⟩ := bind_eq_ok computed
        obtain ⟨firstNonneg, -, -, middleLength⟩ := memcpy_eq_ok copiedFirst
        obtain ⟨rest, subtracted, computed⟩ := bind_eq_ok computed
        obtain ⟨-, rfl⟩ := int32_eq_ok subtracted
        obtain ⟨_, copiedRest, _⟩ := bind_eq_ok computed
        obtain ⟨restNonneg, fits, -, -⟩ := memcpy_eq_ok copiedRest
        omega
    · obtain ⟨_, copied, _⟩ := bind_eq_ok computed
      obtain ⟨nonneg, fits, -, -⟩ := memcpy_eq_ok copied
      omega
  · cases computed

theorem store_eq_ok
    {self : CycleBuffer} {data : Bytes} {length : Int}
    {result : Int × CycleBuffer}
    (computed : self.store data length = .ok result) :
    0 ≤ length ∧ length ≤ data.length := by
  unfold store at computed
  split at computed
  · obtain ⟨lastStart, _, computed⟩ := bind_eq_ok computed
    split at computed
    · obtain ⟨_, copied, _⟩ := bind_eq_ok computed
      obtain ⟨nonneg, -, fits, -⟩ := memcpy_eq_ok copied
      omega
    · obtain ⟨firstN, _, computed⟩ := bind_eq_ok computed
      obtain ⟨_, copiedFirst, computed⟩ := bind_eq_ok computed
      obtain ⟨firstNonneg, -, -, -⟩ := memcpy_eq_ok copiedFirst
      obtain ⟨rest, subtracted, computed⟩ := bind_eq_ok computed
      obtain ⟨-, rfl⟩ := int32_eq_ok subtracted
      obtain ⟨_, copiedRest, _⟩ := bind_eq_ok computed
      obtain ⟨restNonneg, -, fits, -⟩ := memcpy_eq_ok copiedRest
      omega
  · obtain ⟨_, copied, _⟩ := bind_eq_ok computed
    obtain ⟨nonneg, -, fits, -⟩ := memcpy_eq_ok copied
    omega

theorem grownCapacity_eq_ok
    {self : CycleBuffer} {length capacity : Int}
    (computed : self.grownCapacity length = .ok capacity) :
    self.n ≠ 0 ∧ FitsInt32 (self.growth length) := by
  unfold grownCapacity divInt32 at computed
  split at computed
  · cases computed
  · next nonzero =>
      obtain ⟨_, divided, computed⟩ := bind_eq_ok computed
      obtain ⟨-, rfl⟩ := int32_eq_ok divided
      obtain ⟨_, added, computed⟩ := bind_eq_ok computed
      obtain ⟨-, rfl⟩ := int32_eq_ok added
      exact ⟨nonzero, (int32_eq_ok computed).1⟩

/-- A write that succeeds had arguments in range and a growth that fits. -/
theorem write_eq_ok
    {self : CycleBuffer} (valid : self.Valid)
    {data : Bytes} {length : Int} {result : Int × CycleBuffer}
    (computed : self.write data length = .ok result) :
    0 ≤ length ∧ length ≤ data.length ∧
      (self.remainSpace < length → 1 ≤ self.n) ∧
      self.GrowthFits length := by
  obtain ⟨grown, reallocated, computed⟩ := bind_eq_ok computed
  split at computed
  · obtain ⟨nonneg, given⟩ := store_eq_ok computed
    have grows :
        self.remainSpace < length →
          self.n ≠ 0 ∧ FitsInt32 (self.growth length) := by
      intro short
      rw [realloc, if_neg (by omega)] at reallocated
      obtain ⟨_, capacity, _⟩ := bind_eq_ok reallocated
      exact grownCapacity_eq_ok capacity
    have nonnegative := valid.capacity_nonneg
    refine ⟨nonneg, given, ?_, fun short => (grows short).2⟩
    intro short
    have nonzero := (grows short).1
    omega
  · cases computed

/-- Every successful operation keeps the invariant. -/
theorem Valid.write
    {self : CycleBuffer} (valid : self.Valid)
    {data : Bytes} {length returned : Int} {next : CycleBuffer}
    (computed : self.write data length = .ok (returned, next)) :
    next.Valid := by
  obtain ⟨nonneg, given, positive, fits⟩ := write_eq_ok valid computed
  obtain ⟨_, writeEq, nextValid, -⟩ :=
    write_spec valid nonneg positive fits given
  rw [computed] at writeEq
  cases writeEq
  exact nextValid

theorem Valid.read
    {self : CycleBuffer} (valid : self.Valid)
    {data shown : Bytes} {length returned : Int} {next : CycleBuffer}
    (computed : self.read data length = .ok (returned, shown, next)) :
    next.Valid := by
  obtain ⟨nonneg, stored, room⟩ := read_eq_ok valid computed
  obtain ⟨_, readEq, nextValid, -⟩ := read_spec valid nonneg stored room
  rw [computed] at readEq
  cases readEq
  exact nextValid

theorem Valid.create {n : Int} {self : CycleBuffer}
    (fits : FitsInt32 n)
    (computed : CycleBuffer.create n = .ok self) : self.Valid := by
  by_cases negative : n < 0
  · rw [CycleBuffer.create, newBlock, if_pos negative] at computed
    cases computed
  · obtain ⟨_, createEq, valid, -⟩ :=
      create_spec (n := n) (by omega) fits.2
    rw [computed] at createEq
    cases createEq
    exact valid

end ChannelSdk.CycleBuffer
