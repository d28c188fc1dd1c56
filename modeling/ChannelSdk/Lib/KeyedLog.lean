import Mathlib.Data.List.Basic

/-!
# Logs of entries with keys

A log records entries in the order of the steps that made them.  Its
restriction to a key lists the values of the entries with that key, in the
same order, so that laws about many independent queues can be stated over one
log.
-/

universe u v w

namespace KeyedLog

variable {Entry : Type u} {Key : Type v} {Value : Type w}
variable [DecidableEq Key]

/-- The values of the entries with a key, in the order of the log. -/
def valuesAt (key : Entry → Key) (value : Entry → Value)
    (log : List Entry) (tested : Key) : List Value :=
  (log.filter fun entry => key entry = tested).map value

variable (key : Entry → Key) (value : Entry → Value)

@[simp]
theorem valuesAt_nil (tested : Key) :
    valuesAt key value [] tested = [] := rfl

theorem valuesAt_append (first second : List Entry) (tested : Key) :
    valuesAt key value (first ++ second) tested =
      valuesAt key value first tested ++ valuesAt key value second tested := by
  rw [valuesAt, List.filter_append, List.map_append]
  rfl

/-- A new entry is listed at the end of its key and nowhere else. -/
theorem valuesAt_concat (log : List Entry) (entry : Entry) (tested : Key) :
    valuesAt key value (log ++ [entry]) tested =
      if key entry = tested then
        valuesAt key value log tested ++ [value entry]
      else valuesAt key value log tested := by
  rw [valuesAt_append]
  by_cases same : key entry = tested
  · simp [valuesAt, same]
  · simp [valuesAt, same]

/-- A key whose entries cannot be in the log has no values. -/
theorem valuesAt_eq_nil
    {log : List Entry} {tested : Key}
    (absent : ∀ entry ∈ log, key entry ≠ tested) :
    valuesAt key value log tested = [] := by
  rw [valuesAt, List.filter_eq_nil_iff.mpr, List.map_nil]
  intro entry member
  simpa using absent entry member

end KeyedLog
