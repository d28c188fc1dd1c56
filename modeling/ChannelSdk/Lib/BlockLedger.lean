import Mathlib.Data.List.Nodup
import Mathlib.Data.List.Perm.Basic

/-!
# Blocks with owners

An allocator hands out addresses that are not in use, and a release of an
address that is not in use is a fault.  A ledger lists the owners of the blocks
in use under distinct keys.  It is balanced when the blocks in use are those of
the entries, each once: releasing an entry block by block is then no fault, and
an empty ledger leaves no block behind.
-/

namespace BlockLedger

variable {Address : Type}

/-- An allocator, as it is at the time of a call: it chooses an address that is
not in use. -/
structure Allocator (Address : Type) where
  choose : List Address → Address
  fresh : ∀ live, choose live ∉ live

/-- A new block, and the addresses in use with it. -/
def Allocator.new (allocator : Allocator Address) (live : List Address) :
    Address × List Address :=
  (allocator.choose live, allocator.choose live :: live)

/-- Release a block. -/
def free [DecidableEq Address] (address : Address) (live : List Address) :
    Option (List Address) :=
  if address ∈ live then some (live.erase address) else none

/-- Release blocks in a row. -/
def freeAll [DecidableEq Address] :
    List Address → List Address → Option (List Address)
  | [], live => some live
  | address :: others, live => (free address live).bind (freeAll others)

/-! ## Taking and releasing -/

/-- The addresses in use grow by new ones. -/
structure Grows (live owned grown : List Address) : Prop where
  accounted : grown.Perm (owned ++ live)
  nodup : live.Nodup → grown.Nodup

theorem Grows.refl (live : List Address) : Grows live [] live where
  accounted := .refl _
  nodup := id

theorem Grows.trans
    {live owned grown others last : List Address}
    (first : Grows live owned grown) (second : Grows grown others last) :
    Grows live (owned ++ others) last where
  accounted := by
    have swapped : (others ++ owned).Perm (owned ++ others) :=
      List.perm_append_comm
    calc
      last.Perm (others ++ grown) := second.accounted
      (others ++ grown).Perm (others ++ (owned ++ live)) :=
        first.accounted.append_left others
      (others ++ (owned ++ live)).Perm ((owned ++ others) ++ live) := by
        rw [← List.append_assoc]
        exact swapped.append_right live
  nodup := fun distinct => second.nodup (first.nodup distinct)

theorem Grows.new (allocator : Allocator Address) (live : List Address) :
    Grows live [(allocator.new live).1] (allocator.new live).2 where
  accounted := .refl _
  nodup := fun distinct => distinct.cons (allocator.fresh live)

section Free

variable [DecidableEq Address]

/-- Blocks that are in use are released, each once. -/
theorem freeAll_of_perm
    {owned live rest : List Address} (accounted : live.Perm (owned ++ rest)) :
    ∃ kept, freeAll owned live = some kept ∧ kept.Perm rest ∧
      (live.Nodup → kept.Nodup) := by
  induction owned generalizing live with
  | nil => exact ⟨live, rfl, accounted, id⟩
  | cons address others inductionHypothesis =>
      have inUse : address ∈ live :=
        accounted.mem_iff.mpr (List.mem_append_left _ List.mem_cons_self)
      have erased : (live.erase address).Perm (others ++ rest) := by
        have removed := accounted.erase address
        rw [List.cons_append, List.erase_cons_head] at removed
        exact removed
      obtain ⟨kept, freed, keeps, nodup⟩ := inductionHypothesis erased
      refine ⟨kept, ?_, keeps, fun distinct => nodup (distinct.erase address)⟩
      rw [freeAll, free, if_pos inUse]
      exact freed

end Free

/-! ## Ledgers -/

/-- The addresses in use, and who has them. -/
structure Ledger (Key Owned Address : Type) where
  live : List Address
  held : List (Key × Owned)

namespace Ledger

variable {Key Owned : Type}

def empty : Ledger Key Owned Address where
  live := []
  held := []

/-- Owners whose blocks are known, and an order in which to release them. -/
structure Disposal (Owned Address : Type) where
  blocks : Owned → List Address
  order : Owned → List Address

/-- The blocks in use are those of the entries. -/
structure Balanced (disposal : Disposal Owned Address)
    (ledger : Ledger Key Owned Address) : Prop where
  nodup : ledger.live.Nodup
  accounted :
    ledger.live.Perm
      (ledger.held.flatMap fun entry => disposal.blocks entry.2)
  keys : (ledger.held.map Prod.fst).Nodup
  matched : ∀ entry ∈ ledger.held,
    (disposal.order entry.2).Perm (disposal.blocks entry.2)

section Operations

variable [DecidableEq Key] [DecidableEq Address]

/-- The entry of a key. -/
def lookup (ledger : Ledger Key Owned Address) (key : Key) :
    Option (Key × Owned) :=
  ledger.held.find? fun entry => decide (entry.1 = key)

/-- Enter an owner with the blocks it has taken. -/
def enter (ledger : Ledger Key Owned Address) (key : Key)
    (taken : Owned × List Address) : Ledger Key Owned Address where
  live := taken.2
  held := (key, taken.1) :: ledger.held

/-- Release the entry of a key, if there is one. -/
def release (disposal : Disposal Owned Address)
    (ledger : Ledger Key Owned Address) (key : Key) :
    Option (Ledger Key Owned Address) :=
  match ledger.lookup key with
  | none => some ledger
  | some entry =>
      (freeAll (disposal.order entry.2) ledger.live).map fun live =>
        { live := live
          held := ledger.held.filter fun other => decide (other.1 ≠ key) }

omit [DecidableEq Address] in
theorem lookup_eq_none
    {ledger : Ledger Key Owned Address} {key : Key} :
    ledger.lookup key = none ↔ ∀ entry ∈ ledger.held, entry.1 ≠ key := by
  rw [lookup, List.find?_eq_none]
  simp

omit [DecidableEq Address] in
theorem lookup_eq_some
    {ledger : Ledger Key Owned Address} {key : Key} {entry : Key × Owned}
    (found : ledger.lookup key = some entry) :
    entry ∈ ledger.held ∧ entry.1 = key := by
  refine ⟨List.mem_of_find?_eq_some found, ?_⟩
  simpa using List.find?_some found

end Operations

section Rules

variable [DecidableEq Key] [DecidableEq Address]
variable {disposal : Disposal Owned Address}
variable {ledger : Ledger Key Owned Address} {key : Key}

omit [DecidableEq Key] [DecidableEq Address] in
theorem balanced_empty (disposal : Disposal Owned Address) :
    (empty : Ledger Key Owned Address).Balanced disposal where
  nodup := .nil
  accounted := .refl _
  keys := .nil
  matched := fun _ member => nomatch member

omit [DecidableEq Address] in
theorem Balanced.enter
    (balanced : ledger.Balanced disposal) (absent : ledger.lookup key = none)
    {taken : Owned × List Address}
    (grows : Grows ledger.live (disposal.blocks taken.1) taken.2)
    (matched : (disposal.order taken.1).Perm (disposal.blocks taken.1)) :
    (ledger.enter key taken).Balanced disposal where
  nodup := grows.nodup balanced.nodup
  accounted := by
    rw [Ledger.enter, List.flatMap_cons]
    exact grows.accounted.trans (balanced.accounted.append_left _)
  keys := by
    refine balanced.keys.cons ?_
    intro member
    obtain ⟨entry, isHeld, same⟩ := List.mem_map.mp member
    exact lookup_eq_none.mp absent entry isHeld same
  matched := by
    intro entry member
    obtain rfl | isHeld := List.mem_cons.mp member
    · exact matched
    · exact balanced.matched entry isHeld

omit [DecidableEq Address] in
/-- The entries but one, when the keys are distinct. -/
theorem held_perm_cons
    (keys : (ledger.held.map Prod.fst).Nodup) {entry : Key × Owned}
    (isHeld : entry ∈ ledger.held) (isKey : entry.1 = key) :
    ledger.held.Perm
      (entry :: ledger.held.filter fun other => decide (other.1 ≠ key)) := by
  obtain ⟨front, back, divided⟩ := List.append_of_mem isHeld
  rw [divided, List.map_append, List.map_cons] at keys
  obtain ⟨-, behind, apart⟩ := List.nodup_append.mp keys
  have kept (part : List (Key × Owned))
      (others : ∀ other ∈ part, other.1 ≠ key) :
      part.filter (fun other => decide (other.1 ≠ key)) = part :=
    List.filter_eq_self.mpr fun other member =>
      decide_eq_true (others other member)
  have frontOthers : ∀ other ∈ front, other.1 ≠ key := by
    intro other member same
    exact
      apart other.1 (List.mem_map_of_mem member) entry.1 List.mem_cons_self
        (same.trans isKey.symm)
  have backOthers : ∀ other ∈ back, other.1 ≠ key := by
    intro other member same
    refine (List.nodup_cons.mp behind).1 ?_
    rw [isKey, ← same]
    exact List.mem_map_of_mem member
  rw [divided, List.filter_append, List.filter_cons_of_neg (by simp [isKey]),
    kept front frontOthers, kept back backOthers]
  exact List.perm_middle

/-- An entry of a balanced ledger is released without a fault, and no other
entry is touched. -/
theorem Balanced.release
    (balanced : ledger.Balanced disposal) (key : Key) :
    ∃ released,
      ledger.release disposal key = some released ∧
        released.Balanced disposal ∧
        released.held =
          ledger.held.filter fun other => decide (other.1 ≠ key) := by
  rw [Ledger.release]
  cases found : ledger.lookup key with
  | none =>
      refine ⟨ledger, rfl, balanced, (List.filter_eq_self.mpr ?_).symm⟩
      intro entry isHeld
      exact decide_eq_true (lookup_eq_none.mp found entry isHeld)
  | some entry =>
      obtain ⟨isHeld, isKey⟩ := lookup_eq_some found
      have perm := held_perm_cons balanced.keys isHeld isKey
      have matched := balanced.matched entry isHeld
      have accounted :
          ledger.live.Perm
            (disposal.order entry.2 ++
              (ledger.held.filter fun other =>
                decide (other.1 ≠ key)).flatMap
                  fun other => disposal.blocks other.2) := by
        refine balanced.accounted.trans ((perm.flatMap_right _).trans ?_)
        rw [List.flatMap_cons]
        exact matched.symm.append_right _
      obtain ⟨kept, freed, keeps, nodup⟩ := freeAll_of_perm accounted
      refine
        ⟨⟨kept, ledger.held.filter fun other => decide (other.1 ≠ key)⟩, ?_,
          ⟨nodup balanced.nodup, keeps, ?_, ?_⟩, rfl⟩
      · simp only [freed, Option.map_some]
      · exact
          (List.filter_sublist.map Prod.fst).nodup balanced.keys
      · intro other member
        exact balanced.matched other (List.mem_filter.mp member).1

end Rules

end Ledger

end BlockLedger
