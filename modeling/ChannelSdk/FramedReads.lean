import ChannelSdk.CycleBufferFifo
import ChannelSdk.Lib.TransitionMachine

/-!
# Reads of whole messages from a `cycle_buffer`

`can_read()` and `read(string& id, string& data)` take the length of the next
message from the stored bytes themselves, and the length of its id from the
fifth of them.  What they do depends on these two fields only: the length
field decides whether a message is there, and neither call compares it with
the five bytes that a message has at least, or with the length of the id.

So the calls are safe on arbitrary bytes exactly when the two fields of a
message that counts as stored are consistent, and its length can be added to
the read position.
-/

namespace ChannelSdk.CycleBuffer

open CheckedMemory CircularWindow

/-- The length field at the front of the stored bytes. -/
def messageLength (self : CycleBuffer) : Int :=
  signedOf (self.contents.take 4)

/-- The byte behind it, which counts itself and the id. -/
def idField (self : CycleBuffer) : Int :=
  (self.contents.getD 4 0).toNat

section Specifications

variable {self : CycleBuffer}

/-- The number of stored bytes, as both calls compute and compare it. -/
theorem stored_eq (valid : self.Valid) :
    int32 (self.n - self.remainSpace) = .ok (self.contents.length : Int) ∧
      toUInt64 (self.contents.length : Int) = self.contents.length := by
  have lengthContents := length_contents valid
  have remain := valid.remain_nonneg
  have fits := valid.capacity_fits
  exact ⟨size_eq valid, toUInt64_of_nonneg (by omega) (by omega)⟩

private theorem take_four
    (valid : self.Valid) (stored : 5 < self.contents.length) :
    self.contents.take 4 = window self.buffer self.rPos.toNat 4 := by
  have four : (4 : Int) ≤ self.contents.length := by omega
  exact take_contents valid four

private theorem getD_take_four
    (bytes : Bytes) {size : Nat} (large : 4 < size) :
    (bytes.take size).getD 4 0 = bytes.getD 4 0 := by
  rw [List.getD_eq_getElem?_getD, List.getD_eq_getElem?_getD,
    List.getElem?_take_of_lt large]

/-- The length field is loaded whole, also across the end of the ring. -/
theorem frontLength_eq
    (valid : self.Valid) (stored : 5 < self.contents.length) :
    self.frontLength = .ok self.messageLength := by
  have lengthContents := length_contents valid
  have front := take_four valid stored
  rcases valid with ⟨_, _, block, _, _, _, _, _, _, positions⟩
  rw [messageLength, front]
  unfold frontLength
  by_cases ahead : self.rPos < self.wPos
  · rw [if_pos ahead, loadInt32_ok (by omega) (by omega),
      window_contiguous (by omega)]
  · have fourZeros :
        ((List.replicate 4 0 : Bytes).length : Int) = 4 := rfl
    have windowLength :
        (window self.buffer self.rPos.toNat 4).length = 4 :=
      length_window (by omega) (by omega)
    have whole :
        overwrite (List.replicate 4 0) 0
            (window self.buffer self.rPos.toNat 4) =
          window self.buffer self.rPos.toNat 4 :=
      overwrite_whole (by rw [windowLength, List.length_replicate])
    have loaded :
        loadInt32 (window self.buffer self.rPos.toNat 4) 0 =
          .ok (signedOf (window self.buffer self.rPos.toNat 4)) := by
      rw [loadInt32_ok (by omega) (by omega), Int.toNat_zero, List.drop_zero,
        List.take_of_length_le (by omega)]
    rw [if_neg ahead, toUInt64_of_nonneg (by omega) (by omega),
      toUInt64_of_nonneg (by omega) (by omega)]
    by_cases contiguous : self.rPos ≤ self.n - 4
    · rw [if_pos contiguous,
        memcpy_window (by omega) (by omega) (by omega) (by omega), ok_bind]
      change loadInt32 (overwrite (List.replicate 4 0) 0
        (window self.buffer self.rPos.toNat 4)) 0 = _
      rw [whole, loaded]
    · rcases memcpy_window_wrapped (List.replicate 4 0) self.buffer
          self.rPos (self.n - self.rPos) (4 - (self.n - self.rPos))
          (by omega) (by omega) (by omega) (by omega) (by omega)
          (by omega) with ⟨middle, copyFirst, copyRest⟩
      rw [if_neg contiguous, int32_ok (by omega) (by omega), ok_bind,
        copyFirst, ok_bind, copyRest, ok_bind,
        show self.n - self.rPos + (4 - (self.n - self.rPos)) = 4 by omega]
      change loadInt32 (overwrite (List.replicate 4 0) 0
        (window self.buffer self.rPos.toNat 4)) 0 = _
      rw [whole, loaded]

/-- The message is copied out whole, whichever copy shape it takes. -/
theorem copyFront_eq
    (valid : self.Valid) (stored : 5 < self.contents.length)
    {len : Int} (nonneg : 0 ≤ len) (available : len ≤ self.contents.length) :
    self.copyFront len = .ok (self.contents.take len.toNat) := by
  have lengthContents := length_contents valid
  rw [take_contents valid available]
  rcases valid with ⟨_, _, block, _, _, _, _, _, _, positions⟩
  have windowLength :
      (window self.buffer self.rPos.toNat len.toNat).length = len.toNat :=
    length_window (by omega) (by omega)
  have resized :
      resize [] len = .ok (List.replicate len.toNat 0) := by
    rw [resize_ok nonneg, List.take_nil, List.nil_append, List.length_nil,
      Nat.sub_zero]
  have tmpLength :
      ((List.replicate len.toNat 0 : Bytes).length : Int) = len := by
    rw [List.length_replicate]
    omega
  have whole :
      overwrite (List.replicate len.toNat 0) 0
          (window self.buffer self.rPos.toNat len.toNat) =
        window self.buffer self.rPos.toNat len.toNat :=
    overwrite_whole (by rw [windowLength, List.length_replicate])
  unfold copyFront
  rw [resized, ok_bind]
  by_cases ahead : self.rPos < self.wPos
  · rw [if_pos ahead,
      memcpy_window nonneg (by omega) (by omega) (by omega), whole]
  · rw [if_neg ahead, int32_ok (by omega) (by omega), ok_bind]
    by_cases contiguous : self.n - self.rPos ≥ len
    · rw [if_pos contiguous,
        memcpy_window nonneg (by omega) (by omega) (by omega), whole]
    · rcases memcpy_window_wrapped (List.replicate len.toNat 0) self.buffer
          self.rPos (self.n - self.rPos) (len - (self.n - self.rPos))
          (by omega) (by omega) (by omega) (by omega) (by omega)
          (by omega) with ⟨middle, copyFirst, copyRest⟩
      rw [if_neg contiguous, copyFirst, ok_bind,
        int32_ok (by omega) (by omega), ok_bind, copyRest,
        show self.n - self.rPos + (len - (self.n - self.rPos)) = len by
          omega, whole]

/-- A message unpacks when its id field counts itself and points into it. -/
theorem unpack_eq
    {tmp : Bytes} {len : Int} (sized : (tmp.length : Int) = len)
    (id data : Bytes)
    (lower : 1 ≤ ((tmp.getD 4 0).toNat : Int))
    (upper : ((tmp.getD 4 0).toNat : Int) + 4 ≤ len) :
    unpack tmp len id data =
      .ok ((tmp.drop 5).take ((tmp.getD 4 0).toNat - 1),
        tmp.drop (4 + (tmp.getD 4 0).toNat)) := by
  unfold unpack
  generalize (tmp.getD 4 0).toNat = len2 at lower upper ⊢
  have idLength := length_resized id ((len2 : Int) - 1).toNat
  have dataLength := length_resized data (len - 4 - (len2 : Int)).toNat
  have behind :
      (tmp.drop (4 + len2)).take (len - 4 - (len2 : Int)).toNat =
        tmp.drop (4 + len2) := by
    apply List.take_of_length_le
    rw [List.length_drop]
    omega
  dsimp only
  rw [resize_ok (by omega), ok_bind, memcpy_whole (by omega) (by omega),
    ok_bind, resize_ok (by omega), ok_bind,
    memcpy_whole (by omega) (by omega), ok_bind, idLength, dataLength,
    show (4 + (len2 : Int)).toNat = 4 + len2 by omega, behind,
    show ((len2 : Int) - 1).toNat = len2 - 1 by omega]
  rfl

theorem unpack_eq_ok
    {tmp id data : Bytes} {len : Int} {result : Bytes × Bytes}
    (unpacked : unpack tmp len id data = .ok result) :
    1 ≤ ((tmp.getD 4 0).toNat : Int) ∧
      ((tmp.getD 4 0).toNat : Int) + 4 ≤ len := by
  rcases bind_eq_ok unpacked with ⟨_, idResized, unpacked⟩
  rcases bind_eq_ok unpacked with ⟨_, -, unpacked⟩
  rcases bind_eq_ok unpacked with ⟨_, dataResized, -⟩
  have idNonneg := (resize_eq_ok idResized).1
  have dataNonneg := (resize_eq_ok dataResized).1
  omega

/-- The position `(r_pos_ + len) % n_` is the one that the bytes behind the
message start from. -/
theorem advanced_mod_spec
    (valid : self.Valid) {length : Int} (positive : 1 ≤ length)
    (stored : length ≤ self.contents.length) :
    let next : CycleBuffer :=
      { self with
        rPos := (self.rPos + length) % self.n
        remainSpace := self.remainSpace + length }
    next.Valid ∧ next.n = self.n ∧
      next.contents = self.contents.drop length.toNat := by
  have lengthContents := length_contents valid
  have advanced := advanced_spec valid (by omega) stored
    ((self.rPos + length) % self.n)
  have capacity : 1 ≤ self.n := by
    have remain := valid.remain_nonneg
    omega
  have lower := Int.emod_nonneg (self.rPos + length) (b := self.n) (by omega)
  have upper := Int.emod_lt_of_pos (self.rPos + length) (b := self.n)
    (by omega)
  have division := Int.mul_ediv_add_emod (self.rPos + length) self.n
  have position := valid.rPos_nonneg
  have bounded : self.rPos + length ≤ self.n * 2 := by
    have read := valid.rPos_le
    have remain := valid.remain_nonneg
    omega
  have turns : (self.rPos + length) / self.n ≤ 2 :=
    Int.ediv_le_of_le_mul (by omega) (by omega)
  have turnsNonneg : 0 ≤ (self.rPos + length) / self.n :=
    Int.ediv_nonneg (by omega) (by omega)
  by_cases twice : (self.rPos + length) / self.n = 2
  · -- A full ring is read from its end and is empty at its start.
    rw [twice] at division
    have remain := valid.remain_nonneg
    have read := valid.rPos_le
    have whole : self.contents.length ≤ length.toNat := by omega
    rcases valid with ⟨_, _, block, _, _, _, _, _, _, positions⟩
    refine ⟨by constructor <;> simp only <;> omega, rfl, ?_⟩
    rw [List.drop_of_length_le whole, ← List.length_eq_zero_iff, contents,
      length_window (by dsimp only; omega) (by dsimp only; omega)]
    dsimp only
    omega
  · have once : (self.rPos + length) / self.n = 0 ∨
        (self.rPos + length) / self.n = 1 := by omega
    apply advanced lower (by omega)
    rcases once with none | one
    · rw [none] at division
      omega
    · rw [one] at division
      omega

theorem canReadIdData_eq (valid : self.Valid) :
    self.canReadIdData =
      .ok (decide (5 < self.contents.length ∧
        self.messageLength ≤ self.contents.length)) := by
  have counted := stored_eq valid
  unfold canReadIdData
  rw [counted.1, ok_bind, counted.2]
  by_cases stored : 5 < self.contents.length
  · rw [if_pos (by omega), frontLength_eq valid stored, ok_bind]
    simp only [stored, true_and]
    rfl
  · rw [if_neg (by omega)]
    simp only [stored, false_and]
    rfl

/-- While no message counts as stored, a read leaves everything alone. -/
theorem readIdData_of_none
    (valid : self.Valid)
    (none : 5 < self.contents.length →
      (self.contents.length : Int) < self.messageLength)
    (id data : Bytes) :
    self.readIdData id data = .ok (0, id, data, self) := by
  have counted := stored_eq valid
  unfold readIdData
  rw [counted.1, ok_bind, counted.2]
  by_cases stored : 5 < self.contents.length
  · have short := none stored
    rw [if_pos (by omega), frontLength_eq valid stored, ok_bind,
      if_neg (by omega)]
    rfl
  · rw [if_neg (by omega)]
    rfl

/-- A stored message with consistent fields is handed out and removed. -/
theorem readIdData_of_message
    (valid : self.Valid) (id data : Bytes)
    (stored : self.messageLength ≤ self.contents.length)
    (large : 6 ≤ self.messageLength)
    (lower : 1 ≤ self.idField)
    (upper : self.idField + 4 ≤ self.messageLength)
    (fits : self.rPos + self.messageLength ≤ 2147483647) :
    ∃ next : CycleBuffer,
      self.readIdData id data =
        .ok (self.messageLength,
          ((self.contents.take self.messageLength.toNat).drop 5).take
            (self.idField.toNat - 1),
          (self.contents.take self.messageLength.toNat).drop
            (4 + self.idField.toNat), next) ∧
      next.Valid ∧ next.n = self.n ∧
      next.rPos = (self.rPos + self.messageLength) % self.n ∧
      next.contents = self.contents.drop self.messageLength.toNat := by
  have lengthContents := length_contents valid
  have counted := stored_eq valid
  have moved := advanced_mod_spec valid (by omega) stored
  have position := valid.rPos_nonneg
  have remain := valid.remain_nonneg
  have capacityFits := valid.capacity_fits
  have tmpLength :
      ((self.contents.take self.messageLength.toNat).length : Int) =
        self.messageLength := by
    rw [List.length_take]
    omega
  have field := getD_take_four self.contents
    (show 4 < self.messageLength.toNat by omega)
  have unpacked :=
    unpack_eq tmpLength id data
      (by rw [field]; exact lower) (by rw [field]; exact upper)
  rw [field] at unpacked
  unfold readIdData
  rw [counted.1, ok_bind, counted.2, if_pos (by omega),
    frontLength_eq valid (by omega), ok_bind,
    if_pos (by omega), copyFront_eq valid (by omega) (by omega) stored,
    ok_bind]
  dsimp only
  rw [if_pos (by omega), unpacked, ok_bind]
  dsimp only
  rw [int32_ok (by omega) fits, ok_bind,
    remInt32_ok (by omega) (by omega) fits, ok_bind,
    int32_ok (by omega) (by omega), ok_bind, tmpLength]
  exact ⟨_, rfl, moved.1, moved.2.1, rfl, moved.2.2⟩

/-- A read that returns has met a consistent message or changes nothing. -/
theorem readIdData_eq_ok
    (valid : self.Valid) (stored : 5 < self.contents.length)
    (available : self.messageLength ≤ self.contents.length)
    {id data readId readData : Bytes} {returned : Int} {next : CycleBuffer}
    (computed :
      self.readIdData id data = .ok (returned, readId, readData, next)) :
    returned = 0 ∧ next = self ∨
      6 ≤ self.messageLength ∧ 1 ≤ self.idField ∧
        self.idField + 4 ≤ self.messageLength ∧
        self.rPos + self.messageLength ≤ 2147483647 := by
  have lengthContents := length_contents valid
  have counted := stored_eq valid
  rw [readIdData, counted.1, ok_bind, counted.2, if_pos (by omega),
    frontLength_eq valid stored, ok_bind, if_pos available] at computed
  rcases bind_eq_ok computed with ⟨tmp, copied, computed⟩
  have nonneg : 0 ≤ self.messageLength := by
    rcases bind_eq_ok copied with ⟨_, resized, -⟩
    exact (resize_eq_ok resized).1
  rw [copyFront_eq valid stored nonneg available] at copied
  have isFront := Except.ok.inj copied
  subst isFront
  have tmpLength :
      ((self.contents.take self.messageLength.toNat).length : Int) =
        self.messageLength := by
    rw [List.length_take]
    omega
  dsimp only at computed
  by_cases large :
      (self.contents.take self.messageLength.toNat).length > 5
  · rw [if_pos large] at computed
    have field := getD_take_four self.contents
      (show 4 < self.messageLength.toNat by omega)
    rcases bind_eq_ok computed with ⟨_, unpacked, computed⟩
    have fields := unpack_eq_ok unpacked
    rw [field] at fields
    rcases bind_eq_ok computed with ⟨_, added, -⟩
    have fits := (int32_eq_ok added).1
    exact .inr ⟨by omega, fields.1, fields.2, fits.2⟩
  · rw [if_neg large] at computed
    cases computed
    exact .inl ⟨rfl, rfl⟩

end Specifications

end ChannelSdk.CycleBuffer
