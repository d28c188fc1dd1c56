import ChannelSdk.Lib.CheckedOutcome
import Mathlib.Logic.Basic

/-!
# Caches that are keyed by the identity of an object

A cache keeps a view of an object under the object's key and computes it when
it is first asked for.  Objects come and go, and a key may be used again for
another object.  The cache is fresh when every view in it is that of the
object that lives under its key now: it then has no keys of its own, and a
lookup cannot be told from computing the view anew.

A fresh cache stays fresh when a looked-up view is kept, when an object comes
under a free key, and when an object goes together with its entry.
-/

namespace ObjectCache

open CheckedOutcome

abbrev Table (Key Value : Type) := Key → Option Value

section Operations

variable {Key Value : Type} [DecidableEq Key]

def insert (table : Table Key Value) (key : Key) (value : Value) :
    Table Key Value :=
  fun other => if other = key then some value else table other

def erase (table : Table Key Value) (key : Key) : Table Key Value :=
  fun other => if other = key then none else table other

@[simp]
theorem insert_self (table : Table Key Value) (key : Key) (value : Value) :
    insert table key value key = some value :=
  if_pos rfl

@[simp]
theorem erase_self (table : Table Key Value) (key : Key) :
    erase table key key = none :=
  if_pos rfl

theorem insert_of_ne
    {key other : Key} (different : other ≠ key) (table : Table Key Value)
    (value : Value) : insert table key value other = table other :=
  if_neg different

theorem erase_of_ne
    {key other : Key} (different : other ≠ key)
    (table : Table Key Value) : erase table key other = table other :=
  if_neg different

end Operations

section Cache

variable {Key Object View Failure : Type}

/-- The view of an object, from the cache or computed and kept. -/
def find [DecidableEq Key] (view : Object → Except Failure View) (cache : Table Key View)
    (key : Key) (object : Object) :
    Except Failure (View × Table Key View) :=
  match cache key with
  | some shown => .ok (shown, cache)
  | none => (view object).map fun shown => (shown, insert cache key shown)

/-- Every view in the cache is that of the object that lives under its
key. -/
def Fresh (view : Object → Except Failure View) (live : Table Key Object)
    (cache : Table Key View) : Prop :=
  ∀ key shown, cache key = some shown →
    ∃ object, live key = some object ∧ view object = .ok shown

variable {view : Object → Except Failure View}
variable {live : Table Key Object} {cache : Table Key View}

theorem fresh_empty (live : Table Key Object) :
    Fresh view live fun _ : Key => none := by
  intro key shown cached
  cases cached

theorem Fresh.isSome_live
    (fresh : Fresh view live cache) {key : Key}
    (cached : (cache key).isSome) : (live key).isSome := by
  rcases Option.isSome_iff_exists.mp cached with ⟨shown, found⟩
  rcases fresh key shown found with ⟨object, isLive, -⟩
  exact Option.isSome_iff_exists.mpr ⟨object, isLive⟩

variable [DecidableEq Key]

/-- A lookup in a fresh cache is a computation of the view. -/
theorem Fresh.find_eq
    (fresh : Fresh view live cache) {key : Key} {object : Object}
    (isLive : live key = some object) :
    find view cache key object =
      (view object).map fun shown => (shown, insert cache key shown) := by
  rw [find]
  cases cached : cache key with
  | none => rfl
  | some shown =>
      rcases fresh key shown cached with ⟨owner, ownerLive, viewed⟩
      rw [isLive] at ownerLive
      cases ownerLive
      have kept : ObjectCache.insert cache key shown = cache := by
        funext other
        by_cases same : other = key
        · rw [same, insert_self, cached]
        · rw [insert_of_ne same]
      rw [viewed]
      change _ = Except.ok (shown, ObjectCache.insert cache key shown)
      rw [kept]

theorem Fresh.insert
    (fresh : Fresh view live cache) {key : Key} {object : Object}
    {shown : View} (isLive : live key = some object)
    (viewed : view object = .ok shown) :
    Fresh view live (ObjectCache.insert cache key shown) := by
  intro other found cached
  by_cases same : other = key
  · rw [same, insert_self] at cached
    cases cached
    rw [same]
    exact ⟨object, isLive, viewed⟩
  · rw [insert_of_ne same] at cached
    exact fresh other found cached

theorem Fresh.find_eq_ok
    (fresh : Fresh view live cache) {key : Key} {object : Object}
    {shown : View} {next : Table Key View} (isLive : live key = some object)
    (found : find view cache key object = .ok (shown, next)) :
    view object = .ok shown ∧ Fresh view live next := by
  rw [fresh.find_eq isLive] at found
  cases viewed : view object with
  | error failure =>
      rw [viewed] at found
      cases found
  | ok own =>
      rw [viewed] at found
      cases found
      exact ⟨rfl, fresh.insert isLive viewed⟩

/-- A lookup leaves its key in the cache and removes none. -/
theorem isSome_find
    {key : Key} {object : Object} {shown : View} {next : Table Key View}
    (found : find view cache key object = .ok (shown, next)) (other : Key) :
    (next other).isSome ↔ (cache other).isSome ∨ other = key := by
  rw [find] at found
  cases cached : cache key with
  | some kept =>
      rw [cached] at found
      cases found
      refine ⟨.inl, ?_⟩
      rintro (isCached | rfl)
      · exact isCached
      · rw [cached]
        rfl
  | none =>
      rw [cached] at found
      cases viewed : view object with
      | error failure =>
          rw [viewed] at found
          cases found
      | ok own =>
          rw [viewed] at found
          cases found
          by_cases same : other = key
          · rw [same, insert_self]
            exact ⟨fun _ => .inr rfl, fun _ => rfl⟩
          · rw [insert_of_ne same]
            exact ⟨.inl, fun isCached => isCached.resolve_right same⟩

/-- A lookup completes when computing the view does. -/
theorem Fresh.completes_find_iff
    (fresh : Fresh view live cache) {key : Key} {object : Object}
    (isLive : live key = some object) :
    Completes (find view cache key object) ↔ Completes (view object) := by
  constructor
  · intro completes
    rcases completes with ⟨⟨shown, next⟩, found⟩
    exact ⟨shown, (fresh.find_eq_ok isLive found).1⟩
  · intro completes
    rcases completes with ⟨shown, viewed⟩
    rw [fresh.find_eq isLive, viewed]
    exact ⟨_, rfl⟩

/-- An object that comes under a free key finds no view there. -/
theorem Fresh.create
    (fresh : Fresh view live cache) {key : Key} (free : live key = none)
    (object : Object) :
    Fresh view (ObjectCache.insert live key object) cache := by
  intro other found cached
  rcases fresh other found cached with ⟨owner, ownerLive, viewed⟩
  have different : other ≠ key := by
    intro same
    rw [same, free] at ownerLive
    cases ownerLive
  exact ⟨owner, by rw [insert_of_ne different]; exact ownerLive, viewed⟩

/-- An object that goes with its view leaves the other ones fresh. -/
theorem Fresh.destroy
    (fresh : Fresh view live cache) (key : Key) :
    Fresh view (erase live key) (erase cache key) := by
  intro other found cached
  have different : other ≠ key := by
    intro same
    rw [same, erase_self] at cached
    cases cached
  rw [erase_of_ne different] at cached ⊢
  exact fresh other found cached

end Cache

end ObjectCache
