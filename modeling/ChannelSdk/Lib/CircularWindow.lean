import Mathlib.Data.List.Basic

/-!
# Windows of a circular block

A block of cells is read circularly: the window of `count` cells that starts
at `start` runs to the end of the block and goes on from its first cell.  The
start may rest on the block's length as well as on zero, and a window covers
every cell at most once.

The module relates windows to plain copies into the block.  A copy that puts
new data right behind a window, without touching the cells of the window,
extends the window by exactly that data.
-/

namespace CircularWindow

universe u

variable {alpha : Type u}

/-- The cell that lies `offset` places behind `start`, for one turn at most. -/
def place (length start offset : Nat) : Nat :=
  if start + offset < length then start + offset
  else start + offset - length

/-- The `count` cells from `start` on, continuing at the first cell. -/
def window (cells : List alpha) (start count : Nat) : List alpha :=
  if start + count ≤ cells.length then
    (cells.drop start).take count
  else
    cells.drop start ++ cells.take (start + count - cells.length)

/-- Replace the cells from `position` on by `data`. -/
def overwrite
    (cells : List alpha) (position : Nat) (data : List alpha) :
    List alpha :=
  cells.take position ++ data ++ cells.drop (position + data.length)

theorem length_overwrite
    {cells data : List alpha} {position : Nat}
    (fits : position + data.length ≤ cells.length) :
    (overwrite cells position data).length = cells.length := by
  simp only [overwrite, List.length_append, List.length_take,
    List.length_drop]
  omega

theorem getElem?_overwrite
    {cells data : List alpha} {position : Nat}
    (fits : position + data.length ≤ cells.length) (index : Nat) :
    (overwrite cells position data)[index]? =
      if index < position then cells[index]?
      else if index < position + data.length then
        data[index - position]?
      else cells[index]? := by
  have takeLength : (cells.take position).length = position := by
    rw [List.length_take]
    omega
  unfold overwrite
  by_cases before : index < position
  · rw [if_pos before, List.append_assoc,
      List.getElem?_append_left (by omega), List.getElem?_take_of_lt before]
  · rw [if_neg before]
    by_cases inside : index < position + data.length
    · rw [if_pos inside, List.append_assoc,
        List.getElem?_append_right (by omega),
        List.getElem?_append_left (by omega), takeLength]
    · rw [if_neg inside, List.getElem?_append_right (by
        rw [List.length_append]
        omega), List.length_append, takeLength, List.getElem?_drop]
      congr 1
      omega

/-- Two copies that follow each other are one copy of both pieces. -/
theorem overwrite_append
    (cells first second : List alpha) {position : Nat}
    (fits : position + (first ++ second).length ≤ cells.length) :
    overwrite (overwrite cells position first)
        (position + first.length) second =
      overwrite cells position (first ++ second) := by
  have lengths :
      (first ++ second).length = first.length + second.length :=
    List.length_append
  have innerFits : position + first.length ≤ cells.length := by
    omega
  have outerFits :
      position + first.length + second.length ≤
        (overwrite cells position first).length := by
    rw [length_overwrite innerFits]
    omega
  apply List.ext_getElem?
  intro index
  rw [getElem?_overwrite outerFits, getElem?_overwrite innerFits,
    getElem?_overwrite fits]
  by_cases before : index < position
  · rw [if_pos (by omega), if_pos before, if_pos before]
  · rw [if_neg before]
    by_cases inFirst : index < position + first.length
    · rw [if_pos inFirst, if_neg before, if_pos inFirst,
        if_pos (by omega), List.getElem?_append_left (by omega)]
    · rw [if_neg inFirst, if_neg before, if_neg inFirst]
      by_cases inSecond : index < position + first.length + second.length
      · rw [if_pos inSecond, if_pos (by omega),
          List.getElem?_append_right (by omega)]
        congr 1
        omega
      · rw [if_neg inSecond, if_neg (by omega)]

theorem take_overwrite_zero
    (cells data : List alpha) :
    (overwrite cells 0 data).take data.length = data := by
  simp [overwrite]

/-- Data as long as the block replaces all of it. -/
theorem overwrite_whole
    {cells data : List alpha} (sameLength : data.length = cells.length) :
    overwrite cells 0 data = data := by
  rw [overwrite, List.take_zero, List.nil_append, Nat.zero_add, sameLength,
    List.drop_length, List.append_nil]

theorem length_window
    {cells : List alpha} {start count : Nat}
    (startLe : start ≤ cells.length) (countLe : count ≤ cells.length) :
    (window cells start count).length = count := by
  unfold window
  split
  · simp only [List.length_take, List.length_drop]
    omega
  · simp only [List.length_append, List.length_take, List.length_drop]
    omega

theorem window_contiguous
    {cells : List alpha} {start count : Nat}
    (contiguous : start + count ≤ cells.length) :
    window cells start count = (cells.drop start).take count :=
  if_pos contiguous

/-- A window that reaches the end of the block is its tail and a front. -/
theorem window_wrapped
    {cells : List alpha} {start count : Nat}
    (startLe : start ≤ cells.length)
    (wrapped : cells.length ≤ start + count) :
    window cells start count =
      cells.drop start ++ cells.take (start + count - cells.length) := by
  unfold window
  split
  · rw [List.take_of_length_le (by
        rw [List.length_drop]
        omega),
      show start + count - cells.length = 0 by omega,
      List.take_zero, List.append_nil]
  · rfl

theorem getElem?_window
    {cells : List alpha} {start count offset : Nat}
    (startLe : start ≤ cells.length) (offsetLt : offset < count) :
    (window cells start count)[offset]? =
      cells[place cells.length start offset]? := by
  unfold window place
  by_cases contiguous : start + count ≤ cells.length
  · rw [if_pos contiguous, if_pos (by omega),
      List.getElem?_take_of_lt offsetLt, List.getElem?_drop]
  · rw [if_neg contiguous]
    by_cases tail : start + offset < cells.length
    · rw [if_pos tail, List.getElem?_append_left (by
        rw [List.length_drop]
        omega), List.getElem?_drop]
    · rw [if_neg tail, List.getElem?_append_right (by
        rw [List.length_drop]
        omega), List.length_drop, List.getElem?_take_of_lt (by omega)]
      congr 1
      omega

/-- The front of a window is the shorter window from the same start. -/
theorem take_window
    {cells : List alpha} {start count front : Nat}
    (startLe : start ≤ cells.length) (countLe : count ≤ cells.length)
    (frontLe : front ≤ count) :
    (window cells start count).take front = window cells start front := by
  apply List.ext_getElem?
  intro index
  by_cases inside : index < front
  · rw [List.getElem?_take_of_lt inside,
      getElem?_window startLe (by omega),
      getElem?_window startLe inside]
  · rw [List.getElem?_eq_none (by
        rw [List.length_take]
        omega),
      List.getElem?_eq_none (by
        rw [length_window startLe (by omega)]
        omega)]

/-- Dropping the front of a window moves its start, to any place that names
the same cell. -/
theorem drop_window
    {cells : List alpha} {start count front next : Nat}
    (startLe : start ≤ cells.length) (countLe : count ≤ cells.length)
    (frontLe : front ≤ count) (nextLe : next ≤ cells.length)
    (moved :
      next = start + front ∨ next + cells.length = start + front ∨
        next = start + front + cells.length) :
    (window cells start count).drop front =
      window cells next (count - front) := by
  apply List.ext_getElem?
  intro index
  rw [List.getElem?_drop]
  by_cases inside : front + index < count
  · rw [getElem?_window startLe inside,
      getElem?_window nextLe (by omega)]
    congr 1
    unfold place
    split <;> split <;> omega
  · rw [List.getElem?_eq_none (by
        rw [length_window startLe countLe]
        omega),
      List.getElem?_eq_none (by
        rw [length_window nextLe (by omega)]
        omega)]

/-- A block that keeps the cells of a window and holds `data` right behind
them has the window extended by `data`. -/
theorem window_extend
    {cells updated data : List alpha} {start count : Nat}
    (sameLength : updated.length = cells.length)
    (startLe : start ≤ cells.length)
    (room : count + data.length ≤ cells.length)
    (kept :
      ∀ offset, offset < count →
        updated[place cells.length start offset]? =
          cells[place cells.length start offset]?)
    (stored :
      ∀ offset, offset < data.length →
        updated[place cells.length start (count + offset)]? =
          data[offset]?) :
    window updated start (count + data.length) =
      window cells start count ++ data := by
  have windowLength :
      (window cells start count).length = count :=
    length_window startLe (by omega)
  apply List.ext_getElem?
  intro index
  by_cases old : index < count
  · rw [getElem?_window (by omega) (by omega),
      List.getElem?_append_left (by omega),
      getElem?_window startLe old, sameLength]
    exact kept index old
  · rw [List.getElem?_append_right (by omega), windowLength]
    by_cases fresh : index < count + data.length
    · rw [getElem?_window (by omega) fresh, sameLength]
      have atOffset := stored (index - count) (by omega)
      rwa [show count + (index - count) = index by omega] at atOffset
    · rw [List.getElem?_eq_none (by
          rw [length_window (by omega) (by omega)]
          omega),
        List.getElem?_eq_none (by omega)]

/-- Data copied in one piece right behind a window extends the window. -/
theorem window_overwrite
    {cells data : List alpha} {start count position : Nat}
    (startLe : start ≤ cells.length)
    (room : count + data.length ≤ cells.length)
    (fits : position + data.length ≤ cells.length)
    (behind :
      position = start + count ∨ position + cells.length = start + count ∨
        position = start + count + cells.length) :
    window (overwrite cells position data) start (count + data.length) =
      window cells start count ++ data := by
  apply window_extend (length_overwrite fits) startLe room
  · intro offset offsetLt
    rw [getElem?_overwrite fits]
    unfold place
    split <;> split <;> (try split) <;> first | rfl | omega
  · intro offset offsetLt
    rw [getElem?_overwrite fits]
    unfold place
    split <;> rw [if_neg (by omega), if_pos (by omega)] <;>
      congr 1 <;> omega

/-- Data copied in two pieces, the first up to the end of the block and the
second from its first cell on, extends the window as well. -/
theorem window_overwrite_wrapped
    {cells first second : List alpha} {start count position : Nat}
    (startLe : start ≤ cells.length)
    (room : count + (first ++ second).length ≤ cells.length)
    (toEnd : position + first.length = cells.length)
    (behind :
      position = start + count ∨ position = start + count + cells.length) :
    window (overwrite (overwrite cells position first) 0 second)
        start (count + (first ++ second).length) =
      window cells start count ++ (first ++ second) := by
  have lengths :
      (first ++ second).length = first.length + second.length :=
    List.length_append
  have innerLength :
      (overwrite cells position first).length = cells.length :=
    length_overwrite (by omega)
  have outerFits :
      0 + second.length ≤ (overwrite cells position first).length := by
    omega
  have innerFits : position + first.length ≤ cells.length := by
    omega
  apply window_extend
    ((length_overwrite outerFits).trans innerLength) startLe room
  · intro offset offsetLt
    rw [getElem?_overwrite outerFits, getElem?_overwrite innerFits]
    unfold place
    split <;>
      rw [if_neg (by omega), if_neg (by omega), if_pos (by omega)]
  · intro offset offsetLt
    rw [getElem?_overwrite outerFits, getElem?_overwrite innerFits]
    -- The first piece ends where the block ends, so the turn of the window
    -- falls exactly between the two pieces.
    by_cases inFirst : offset < first.length
    · rw [List.getElem?_append_left inFirst]
      unfold place
      split
      · rw [if_neg (by omega), if_neg (by omega), if_neg (by omega),
          if_pos (by omega)]
        congr 1
        omega
      · omega
    · rw [List.getElem?_append_right (by omega)]
      unfold place
      split <;>
        rw [if_neg (by omega), if_pos (by omega)] <;>
        congr 1 <;>
        omega

end CircularWindow
