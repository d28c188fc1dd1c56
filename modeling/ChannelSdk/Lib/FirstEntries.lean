import Mathlib.Data.List.Nodup
import Mathlib.Data.List.Perm.Basic
import Std.Data.ExtTreeMap
import Std.Data.ExtTreeSet

/-!
# Maps that keep the first entry of a key

A list of entries may repeat a key.  A lookup finds the first entry of its
key, and a map that is filled by insertions of absent keys only keeps the same
one.  The order of the entries matters for repeated keys only.
-/

namespace FirstEntries

open Std (ExtTreeMap ExtTreeSet TransCmp LawfulEqCmp)

universe u v

variable {Key : Type u} {Value : Type v} [DecidableEq Key]

/-- The value of the first entry of a key. -/
def firstValue (entries : List (Key × Value)) (key : Key) : Option Value :=
  (entries.find? fun entry => entry.1 = key).map Prod.snd

@[simp]
theorem firstValue_nil (key : Key) :
    firstValue ([] : List (Key × Value)) key = none := rfl

theorem firstValue_cons
    (entry : Key × Value) (rest : List (Key × Value)) (key : Key) :
    firstValue (entry :: rest) key =
      if entry.1 = key then some entry.2 else firstValue rest key := by
  by_cases same : entry.1 = key
  · simp [firstValue, same]
  · simp [firstValue, same]

theorem mem_of_firstValue_eq_some
    {entries : List (Key × Value)} {key : Key} {value : Value}
    (found : firstValue entries key = some value) :
    (key, value) ∈ entries := by
  rcases Option.map_eq_some_iff.mp found with ⟨entry, first, rfl⟩
  have same : entry.1 = key := by
    simpa using List.find?_some first
  rw [← same]
  exact List.mem_of_find?_eq_some first

theorem isSome_firstValue_iff
    {entries : List (Key × Value)} {key : Key} :
    (firstValue entries key).isSome ↔ key ∈ entries.map Prod.fst := by
  rw [firstValue, Option.isSome_map, List.find?_isSome]
  simp

/-- Without repeated keys a lookup finds every entry. -/
theorem firstValue_eq_some_iff
    {entries : List (Key × Value)}
    (distinct : (entries.map Prod.fst).Nodup) {key : Key} {value : Value} :
    firstValue entries key = some value ↔ (key, value) ∈ entries := by
  constructor
  · exact mem_of_firstValue_eq_some
  · intro member
    have present : (firstValue entries key).isSome :=
      isSome_firstValue_iff.mpr (List.mem_map_of_mem member)
    rcases Option.isSome_iff_exists.mp present with ⟨other, found⟩
    have sameEntry :=
      List.inj_on_of_nodup_map distinct member
        (mem_of_firstValue_eq_some found) rfl
    rw [found, (Prod.mk.inj sameEntry).2]

theorem firstValue_perm
    {entries others : List (Key × Value)}
    (distinct : (entries.map Prod.fst).Nodup)
    (permuted : entries.Perm others) (key : Key) :
    firstValue entries key = firstValue others key := by
  have othersDistinct : (others.map Prod.fst).Nodup :=
    (permuted.map Prod.fst).nodup_iff.mp distinct
  apply Option.ext
  intro value
  rw [firstValue_eq_some_iff distinct, firstValue_eq_some_iff othersDistinct,
    permuted.mem_iff]

section Insertion

variable {cmp : Key → Key → Ordering} [TransCmp cmp] [LawfulEqCmp cmp]

/-- Insert the entries whose keys are absent, one after the other. -/
def insertAll (map : ExtTreeMap Key Value cmp)
    (entries : List (Key × Value)) : ExtTreeMap Key Value cmp :=
  entries.foldl (fun filled entry => filled.insertIfNew entry.1 entry.2) map

omit [DecidableEq Key] [LawfulEqCmp cmp] in
theorem insertAll_append
    (map : ExtTreeMap Key Value cmp) (entries others : List (Key × Value)) :
    insertAll map (entries ++ others) =
      insertAll (insertAll map entries) others :=
  List.foldl_append

theorem getElem?_insertAll
    {entries : List (Key × Value)} :
    ∀ (map : ExtTreeMap Key Value cmp) (key : Key),
      (insertAll map entries)[key]? =
        (map[key]?).or (firstValue entries key) := by
  induction entries with
  | nil =>
      intro map key
      simp [insertAll]
  | cons entry rest inductionHypothesis =>
      intro map key
      have inserted := inductionHypothesis (map.insertIfNew entry.1 entry.2) key
      rw [insertAll, List.foldl_cons]
      rw [insertAll] at inserted
      rw [inserted, firstValue_cons, ExtTreeMap.getElem?_insertIfNew]
      simp only [LawfulEqCmp.compare_eq_iff_eq]
      by_cases same : entry.1 = key
      · subst same
        by_cases present : entry.1 ∈ map
        · simp [present]
        · simp [present]
      · simp [same]

theorem mem_insertAll_iff
    {map : ExtTreeMap Key Value cmp} {entries : List (Key × Value)}
    {key : Key} :
    key ∈ insertAll map entries ↔ key ∈ map ∨ key ∈ entries.map Prod.fst := by
  rw [ExtTreeMap.mem_iff_isSome_getElem?, getElem?_insertAll,
    Option.isSome_or, Bool.or_eq_true, isSome_firstValue_iff,
    ← ExtTreeMap.mem_iff_isSome_getElem?]

/-- The order in which distinct keys are inserted does not matter. -/
theorem insertAll_perm
    {entries others : List (Key × Value)}
    (distinct : (entries.map Prod.fst).Nodup)
    (permuted : entries.Perm others) (map : ExtTreeMap Key Value cmp) :
    insertAll map entries = insertAll map others := by
  apply ExtTreeMap.ext_getElem?
  intro key
  rw [getElem?_insertAll, getElem?_insertAll,
    firstValue_perm distinct permuted]

end Insertion

/-- Two ascending lists with the same elements are equal. -/
theorem eq_of_ascending
    {Element : Type u} {below : Element → Element → Prop}
    (asymmetric : ∀ first second, below first second → ¬ below second first)
    {elements others : List Element} (ascending : elements.Pairwise below)
    (othersAscending : others.Pairwise below)
    (sameElements : ∀ element, element ∈ elements ↔ element ∈ others) :
    elements = others := by
  have distinct :
      ∀ {list : List Element}, list.Pairwise below → list.Nodup := by
    intro list ordered
    apply ordered.imp
    intro first second isBelow same
    subst same
    exact asymmetric first first isBelow isBelow
  have permuted : elements.Perm others :=
    (List.perm_ext_iff_of_nodup (distinct ascending)
      (distinct othersAscending)).mpr sameElements
  refine permuted.eq_of_pairwise ?_ ascending othersAscending
  intro first second _ _ isBelow isAbove
  exact absurd isAbove (asymmetric first second isBelow)

end FirstEntries
