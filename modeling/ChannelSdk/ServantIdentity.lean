import ChannelSdk.Endpoints
import Mathlib.Data.List.TakeWhile

/-!
# The names of servants

The servant and adapter ids are concatenations of a prefix, the task id and
the node id with underscores between them, in which illegal characters have
become underscores too.  Two pairs of ids have the same name when their parts
are equal after the replacement, or when the separating underscore of one name
stands inside a part of the other.  There is no other case.
-/

namespace ChannelSdk

section Separator

universe u

variable {Symbol : Type u} {separator : Symbol}

/-- The separator of the second concatenation stands inside the last part of
the first one. -/
def Straddles (separator : Symbol)
    (first last otherFirst otherLast : List Symbol) : Prop :=
  ∃ middle, otherFirst = first ++ separator :: middle ∧
    last = middle ++ separator :: otherLast

/-- When two concatenations with a separator are equal. -/
theorem append_separator_eq_iff
    {first last otherFirst otherLast : List Symbol} :
    first ++ separator :: last = otherFirst ++ separator :: otherLast ↔
      (first = otherFirst ∧ last = otherLast) ∨
        Straddles separator first last otherFirst otherLast ∨
        Straddles separator otherFirst otherLast first last := by
  constructor
  · intro same
    rcases List.append_eq_append_iff.mp same with
      ⟨between, longer, rest⟩ | ⟨between, longer, rest⟩
    · cases between with
      | nil =>
          rw [List.nil_append] at rest
          rw [List.append_nil] at longer
          exact .inl ⟨longer.symm, (List.cons.inj rest).2⟩
      | cons symbol middle =>
          rw [List.cons_append] at rest
          rcases List.cons.inj rest with ⟨rfl, remaining⟩
          exact .inr (.inl ⟨middle, longer, remaining⟩)
    · cases between with
      | nil =>
          rw [List.nil_append] at rest
          rw [List.append_nil] at longer
          exact .inl ⟨longer, (List.cons.inj rest).2.symm⟩
      | cons symbol middle =>
          rw [List.cons_append] at rest
          rcases List.cons.inj rest with ⟨rfl, remaining⟩
          exact .inr (.inr ⟨middle, longer, remaining⟩)
  · intro cases
    rcases cases with
      ⟨rfl, rfl⟩ | ⟨middle, rfl, rfl⟩ | ⟨middle, rfl, rfl⟩
    · rfl
    · rw [List.append_assoc, List.cons_append]
    · rw [List.append_assoc, List.cons_append]

end Separator

/-- The characters of a text after the replacement of the illegal ones. -/
def legalized (text : String) : List Char :=
  text.toList.map fun character =>
    if character = ':' ∨ character = '@' ∨ character = '/' then '_'
    else character

theorem legalized_append (first second : String) :
    legalized (first ++ second) = legalized first ++ legalized second := by
  rw [legalized, String.toList_append, List.map_append]
  rfl

theorem nulFree_append {first second : String} :
    NulFree (first ++ second) ↔ NulFree first ∧ NulFree second := by
  simp [NulFree]

/-- The filter replaces characters and keeps a text without NUL otherwise. -/
theorem toList_filterIllChar
    {source : String} (nulFree : NulFree source) :
    (filterIllChar source).toList = legalized source := by
  rw [filterIllChar, cString, String.toList_ofList, String.toList_ofList,
    ← legalized, List.takeWhile_eq_self_iff]
  intro character member
  rcases List.mem_map.mp member with ⟨original, isOriginal, rfl⟩
  have notNul : original ≠ '\x00' := by
    intro isNul
    rw [isNul] at isOriginal
    exact nulFree isOriginal
  split
  · decide
  · exact decide_eq_true notNul

/-- Two pairs of ids have the same parts after the replacement, or the
separator of one name stands inside a part of the other. -/
def IdsClash (taskId nodeId otherTaskId otherNodeId : String) : Prop :=
  (legalized taskId = legalized otherTaskId ∧
      legalized nodeId = legalized otherNodeId) ∨
    Straddles '_' (legalized taskId) (legalized nodeId)
      (legalized otherTaskId) (legalized otherNodeId) ∨
    Straddles '_' (legalized otherTaskId) (legalized otherNodeId)
      (legalized taskId) (legalized nodeId)

/-- When two names with a common beginning are equal. -/
theorem filterIllChar_eq_iff
    {kind taskId nodeId otherTaskId otherNodeId : String}
    (kindNulFree : NulFree kind) (taskNulFree : NulFree taskId)
    (nodeNulFree : NulFree nodeId) (otherTaskNulFree : NulFree otherTaskId)
    (otherNodeNulFree : NulFree otherNodeId) :
    filterIllChar (kind ++ taskId ++ "_" ++ nodeId) =
        filterIllChar (kind ++ otherTaskId ++ "_" ++ otherNodeId) ↔
      IdsClash taskId nodeId otherTaskId otherNodeId := by
  have separated :
      ∀ task node, NulFree task → NulFree node →
        (filterIllChar (kind ++ task ++ "_" ++ node)).toList =
          legalized kind ++ (legalized task ++ '_' :: legalized node) := by
    intro task node taskFree nodeFree
    have nameFree : NulFree (kind ++ task ++ "_" ++ node) := by
      simp only [nulFree_append]
      exact ⟨⟨⟨kindNulFree, taskFree⟩, by decide⟩, nodeFree⟩
    have underscore : legalized "_" = ['_'] := by
      decide
    rw [toList_filterIllChar nameFree]
    simp only [legalized_append, underscore, List.append_assoc,
      List.singleton_append]
  rw [← String.toList_inj, separated _ _ taskNulFree nodeNulFree,
    separated _ _ otherTaskNulFree otherNodeNulFree,
    List.append_cancel_left_eq, append_separator_eq_iff]
  rfl

/-- Different pairs of ids have different servant and adapter ids exactly when
they do not clash. -/
theorem servant_ids_separate_iff
    (taskId nodeId otherTaskId otherNodeId : String)
    (taskNulFree : NulFree taskId) (nodeNulFree : NulFree nodeId)
    (otherTaskNulFree : NulFree otherTaskId)
    (otherNodeNulFree : NulFree otherNodeId) :
    ((taskId, nodeId) ≠ (otherTaskId, otherNodeId) →
      servantId taskId nodeId ≠ servantId otherTaskId otherNodeId ∧
        servantAdapterId taskId nodeId ≠
          servantAdapterId otherTaskId otherNodeId) ↔
    ((taskId, nodeId) ≠ (otherTaskId, otherNodeId) →
      ¬ IdsClash taskId nodeId otherTaskId otherNodeId) := by
  have sameServant :
      servantId taskId nodeId = servantId otherTaskId otherNodeId ↔
        IdsClash taskId nodeId otherTaskId otherNodeId :=
    filterIllChar_eq_iff (by decide) taskNulFree nodeNulFree
      otherTaskNulFree otherNodeNulFree
  have sameAdapter :
      servantAdapterId taskId nodeId =
          servantAdapterId otherTaskId otherNodeId ↔
        IdsClash taskId nodeId otherTaskId otherNodeId :=
    filterIllChar_eq_iff (by decide) taskNulFree nodeNulFree
      otherTaskNulFree otherNodeNulFree
  rw [ne_eq (servantId _ _), ne_eq (servantAdapterId _ _), sameServant,
    sameAdapter, and_self]

theorem servant_ids_separate_iff_nodes :
    (("task-1", "p0") ≠ ("task-1", "p1") →
      servantId "task-1" "p0" ≠ servantId "task-1" "p1" ∧
        servantAdapterId "task-1" "p0" ≠ servantAdapterId "task-1" "p1") ↔
    (("task-1", "p0") ≠ ("task-1", "p1") →
      ¬ IdsClash "task-1" "p0" "task-1" "p1") :=
  servant_ids_separate_iff "task-1" "p0" "task-1" "p1" (by decide)
    (by decide) (by decide) (by decide)

/-- Two tasks of two nodes share their names. -/
theorem servant_ids_collide :
    NulFree "t_1" ∧ NulFree "p0" ∧ NulFree "t" ∧ NulFree "1_p0" ∧
      ("t_1", "p0") ≠ ("t", "1_p0") ∧
      servantId "t_1" "p0" = servantId "t" "1_p0" ∧
      servantAdapterId "t_1" "p0" = servantAdapterId "t" "1_p0" := by
  decide +kernel

end ChannelSdk
