import ChannelSdk.Lib.CheckedMemory
import Mathlib.Data.List.Forall2

/-!
# Loops of checked computations

A loop whose body may fail is a monadic fold over the elements it visits.
Many loops read something off every element and then update their state, and
what they read does not depend on the updates.  Such a loop is a pass that
reads all elements followed by an update that cannot fail.  What the pass has
read is related to the elements one by one.
-/

namespace CheckedFold

open CheckedMemory

/-- Reading all elements succeeds when reading each of them does. -/
theorem mapM_eq_ok_iff
    {error element value : Type} {read : element → Except error value} :
    ∀ {elements : List element} {values : List value},
      elements.mapM read = .ok values ↔
        List.Forall₂ (fun element value => read element = .ok value)
          elements values := by
  intro elements
  induction elements with
  | nil =>
      intro values
      rw [List.forall₂_nil_left_iff, List.mapM_nil]
      constructor
      · intro computed
        cases computed
        rfl
      · intro empty
        rw [empty]
        rfl
  | cons element rest inductionHypothesis =>
      intro values
      rw [List.forall₂_cons_left_iff, List.mapM_cons]
      constructor
      · intro computed
        rcases bind_eq_ok computed with ⟨value, readFirst, computed⟩
        rcases bind_eq_ok computed with ⟨others, readRest, computed⟩
        cases computed
        exact ⟨value, others, readFirst, inductionHypothesis.mp readRest, rfl⟩
      · intro related
        rcases related with ⟨value, others, readFirst, readRest, rfl⟩
        rw [readFirst, inductionHypothesis.mpr readRest]
        rfl

/-- Every value was read off an element. -/
theorem exists_read_of_mem
    {error element value : Type} {read : element → Except error value}
    {elements : List element} {values : List value}
    (computed : elements.mapM read = .ok values)
    {result : value} (member : result ∈ values) :
    ∃ source ∈ elements, read source = .ok result := by
  have related := mapM_eq_ok_iff.mp computed
  clear computed
  induction related with
  | nil => cases member
  | cons readFirst _ inductionHypothesis =>
      rcases List.mem_cons.mp member with rfl | later
      · exact ⟨_, List.mem_cons_self, readFirst⟩
      · rcases inductionHypothesis later with ⟨source, isElement, readSource⟩
        exact ⟨source, List.mem_cons_of_mem _ isElement, readSource⟩

/-- A function of the values that is a function of their elements. -/
theorem map_eq_map_of_mapM
    {error element value image : Type}
    {read : element → Except error value} {elements : List element}
    {values : List value} {ofValue : value → image}
    {ofElement : element → image}
    (computed : elements.mapM read = .ok values)
    (agree :
      ∀ source result, read source = .ok result →
        ofValue result = ofElement source) :
    values.map ofValue = elements.map ofElement := by
  have related := mapM_eq_ok_iff.mp computed
  clear computed
  induction related with
  | nil => rfl
  | cons readFirst _ inductionHypothesis =>
      rw [List.map_cons, List.map_cons, inductionHypothesis,
        agree _ _ readFirst]

/-- A loop that stores what it reads, where no read depends on what is stored
already. -/
theorem foldlM_eq_mapM
    {error state element value : Type} {read : element → Except error value}
    (store : List value → state)
    {body : state → element → Except error state}
    (passes :
      ∀ before visited,
        body (store before) visited =
          read visited >>= fun value => pure (store (before ++ [value])))
    (elements : List element) :
    elements.foldlM body (store []) =
      elements.mapM read >>= fun values => pure (store values) := by
  have continued :
      ∀ before,
        elements.foldlM body (store before) =
          elements.mapM read >>= fun values =>
            pure (store (before ++ values)) := by
    induction elements with
    | nil =>
        intro before
        rw [List.foldlM_nil, List.mapM_nil, pure_bind, List.append_nil]
    | cons visited rest inductionHypothesis =>
        intro before
        rw [List.foldlM_cons, List.mapM_cons, passes]
        simp only [bind_assoc, pure_bind, inductionHypothesis,
          List.append_assoc, List.singleton_append]
  exact continued []

end CheckedFold
