import ChannelSdk.Lib.KeyedLog
import ChannelSdk.Lib.TransitionMachine
import Mathlib.Logic.Function.Basic

/-!
# Stores behind a lock and a condition variable

Any number of threads put items into a store and take results out of it.  All
operations run under one lock.  A put wakes every waiting thread; a thread that
finds nothing for its request waits, and its wait ends by a put, without a
reason, or by a timeout, which may be reported after a put has woken it.

The store is described by what it holds for each key, a list in the order of
arrival.  A put appends to the list of its key and a take removes a front part
of the list of its request.  Then nothing is lost, duplicated, reordered or
mixed between keys, and no thread sleeps while there is something for it.
-/

universe u v w x y

/-- The operations of a store under its lock, and the result of a take whose
wait has timed out. -/
structure SharedStore (Store : Type u) (Item : Type v) (Request : Type v)
    (Result : Type v) (Fault : Type v) where
  put : Store → Item → Except Fault Store
  take : Store → Request → Except Fault (Option (Result × Store))
  expired : Result

namespace SharedStore

variable {Store : Type u} {Item Request Result Fault : Type v}

/-- Where a thread is in its current or last take. -/
inductive Place (Request Result : Type v) where
  | idle
  | ready (request : Request)
  | blocked (request : Request)
  | woken (request : Request)
  | done (result : Result)

/-- The request of the loop that a thread is about to pass. -/
def Place.request? : Place Request Result → Option Request
  | .ready request | .woken request => some request
  | .idle | .blocked _ | .done _ => none

/-- The effect of a notification of all waiting threads. -/
def Place.notified : Place Request Result → Place Request Result
  | .blocked request => .woken request
  | place => place

/-- The store, its threads, and the items put and the results taken in the
order of the lock. -/
structure State (Store : Type u) (Thread : Type w)
    (Item Request Result : Type v) where
  store : Store
  threads : Thread → Place Request Result
  puts : List Item
  takes : List (Request × Result)

inductive Label (Thread : Type w) (Item Request : Type v) where
  | put (item : Item)
  | call (thread : Thread) (request : Request)
  | pass (thread : Thread)
  | wake (thread : Thread)
  | timeout (thread : Thread)

section Machine

variable {Thread : Type w} [DecidableEq Thread]
variable (shared : SharedStore Store Item Request Result Fault)

def State.setThread (state : State Store Thread Item Request Result)
    (thread : Thread) (place : Place Request Result) :
    State Store Thread Item Request Result :=
  { state with threads := Function.update state.threads thread place }

/-- A step; a fault of the store is no step. -/
def next (state : State Store Thread Item Request Result) :
    Label Thread Item Request →
      Option (State Store Thread Item Request Result)
  | .put item =>
      match shared.put state.store item with
      | .ok store =>
          some { state with
            store := store
            threads := fun thread => (state.threads thread).notified
            puts := state.puts ++ [item] }
      | .error _ => none
  | .call thread request =>
      match state.threads thread with
      | .idle | .done _ => some (state.setThread thread (.ready request))
      | .ready _ | .blocked _ | .woken _ => none
  | .pass thread =>
      match (state.threads thread).request? with
      | some request =>
          match shared.take state.store request with
          | .ok (some (result, store)) =>
              some { state.setThread thread (.done result) with
                store := store
                takes := state.takes ++ [(request, result)] }
          | .ok none => some (state.setThread thread (.blocked request))
          | .error _ => none
      | none => none
  | .wake thread =>
      match state.threads thread with
      | .blocked request => some (state.setThread thread (.woken request))
      | .idle | .ready _ | .woken _ | .done _ => none
  | .timeout thread =>
      match state.threads thread with
      | .blocked _ | .woken _ =>
          some (state.setThread thread (.done shared.expired))
      | .idle | .ready _ | .done _ => none

/-- A store that its threads find in a given state. -/
def machine (begun : Store) :
    TransitionMachine (State Store Thread Item Request Result)
      (Label Thread Item Request) where
  initial := fun state =>
    state.store = begun ∧ (∀ thread, state.threads thread = .idle) ∧
      state.puts = [] ∧ state.takes = []
  next := shared.next

end Machine

/-- What a store holds for each key, and the laws of its operations.  `fits`
and `asks` say which items and requests the laws are about, `available` when a
request finds something, and `answers` what a result is. -/
structure Description (shared : SharedStore Store Item Request Result Fault)
    (Key : Type x) (Value : Type y) [DecidableEq Key] where
  valid : Store → Prop
  fits : Store → Item → Prop
  asks : Request → Prop
  itemKey : Item → Key
  itemValues : Item → List Value
  requestKey : Request → Key
  resultValues : Result → List Value
  contents : Store → Key → List Value
  available : Request → List Value → Prop
  answers : Request → Result → Prop
  put_spec :
    ∀ {store item}, valid store → fits store item →
      ∃ next, shared.put store item = .ok next ∧ valid next ∧
        ∀ key,
          contents next key =
            if key = itemKey item then contents store key ++ itemValues item
            else contents store key
  take_spec :
    ∀ {store request}, valid store → asks request →
      (shared.take store request = .ok none ∧
          ¬ available request (contents store (requestKey request))) ∨
        ∃ result next,
          shared.take store request = .ok (some (result, next)) ∧
            valid next ∧ answers request result ∧
            resultValues result ++ contents next (requestKey request) =
              contents store (requestKey request) ∧
            ∀ key, key ≠ requestKey request →
              contents next key = contents store key
  available_of_suffix :
    ∀ {request removed rest}, available request rest →
      available request (removed ++ rest)

namespace Description

variable {Key : Type x} {Value : Type y} [DecidableEq Key]
variable {shared : SharedStore Store Item Request Result Fault}
variable (description : shared.Description Key Value)
variable {Thread : Type w}

/-- The values put under a key, in the order of the lock. -/
def valuesPut (state : State Store Thread Item Request Result) (key : Key) :
    List Value :=
  (KeyedLog.valuesAt description.itemKey description.itemValues state.puts
    key).flatten

/-- The values taken from a key, in the order of the lock. -/
def valuesTaken (state : State Store Thread Item Request Result) (key : Key) :
    List Value :=
  (KeyedLog.valuesAt (fun entry => description.requestKey entry.1)
    (fun entry => description.resultValues entry.2) state.takes
    key).flatten

/-- The steps that the laws are about. -/
def Allowed (state : State Store Thread Item Request Result) :
    Label Thread Item Request → Prop
  | .put item => description.fits state.store item
  | .call _ request => description.asks request
  | .pass _ | .wake _ | .timeout _ => True

/-- Nothing is lost or mixed, and no thread sleeps over something for it. -/
structure Kept (state : State Store Thread Item Request Result) : Prop where
  valid : description.valid state.store
  asked :
    ∀ thread request,
      state.threads thread = .ready request ∨
          state.threads thread = .blocked request ∨
            state.threads thread = .woken request →
        description.asks request
  conserved :
    ∀ key,
      description.valuesTaken state key ++
          description.contents state.store key =
        description.valuesPut state key
  answered :
    ∀ entry ∈ state.takes, description.answers entry.1 entry.2
  awake :
    ∀ thread request, state.threads thread = .blocked request →
      ¬ description.available request
        (description.contents state.store (description.requestKey request))

variable {description}
variable {state target : State Store Thread Item Request Result}

theorem asks_of_request?
    (kept : description.Kept state) {thread : Thread} {request : Request}
    (passing : (state.threads thread).request? = some request) :
    description.asks request := by
  cases current : state.threads thread with
  | ready asked =>
      rw [current] at passing
      cases passing
      exact kept.asked thread request (.inl current)
  | woken asked =>
      rw [current] at passing
      cases passing
      exact kept.asked thread request (.inr (.inr current))
  | idle | blocked asked | done result =>
      rw [current] at passing
      cases passing

/-- A thread can always pass its loop: the store does not fault. -/
theorem Kept.exists_take
    (kept : description.Kept state) {thread : Thread} {request : Request}
    (passing : (state.threads thread).request? = some request) :
    ∃ outcome, shared.take state.store request = .ok outcome := by
  obtain ⟨nothing, -⟩ | ⟨result, store, takeEq, -⟩ :=
    description.take_spec kept.valid (asks_of_request? kept passing)
  · exact ⟨none, nothing⟩
  · exact ⟨some (result, store), takeEq⟩

variable [DecidableEq Thread]

/-- One thread changes its place; it may sleep only without anything for it. -/
theorem Kept.setThread
    (kept : description.Kept state) {thread : Thread}
    {place : Place Request Result}
    (asked :
      ∀ request,
        place = .ready request ∨ place = .blocked request ∨
            place = .woken request →
          description.asks request)
    (awake :
      ∀ request, place = .blocked request →
        ¬ description.available request
          (description.contents state.store
            (description.requestKey request))) :
    description.Kept (state.setThread thread place) where
  valid := kept.valid
  asked := by
    intro other request there
    by_cases same : other = thread
    · subst same
      simp only [State.setThread, Function.update_self] at there
      exact asked request there
    · simp only [State.setThread, Function.update_of_ne same] at there
      exact kept.asked other request there
  conserved := kept.conserved
  answered := kept.answered
  awake := by
    intro other request sleeping
    by_cases same : other = thread
    · subst same
      simp only [State.setThread, Function.update_self] at sleeping
      exact awake request sleeping
    · simp only [State.setThread, Function.update_of_ne same] at sleeping
      exact kept.awake other request sleeping

/-- A put wakes every thread, so that none sleeps behind it. -/
theorem Kept.put
    (kept : description.Kept state) {item : Item}
    (fits : description.fits state.store item)
    (stepped : shared.next state (.put item) = some target) :
    description.Kept target := by
  obtain ⟨store, putEq, valid, contents⟩ :=
    description.put_spec kept.valid fits
  simp only [SharedStore.next, putEq] at stepped
  cases stepped
  constructor
  · exact valid
  · intro thread request there
    cases current : state.threads thread with
    | ready asked | blocked asked | woken asked =>
        simp only [current, Place.notified] at there
        apply kept.asked thread request
        simpa [current] using there
    | idle | done _ => simp [current, Place.notified] at there
  · intro key
    have conserved := kept.conserved key
    simp only [valuesTaken, valuesPut] at conserved ⊢
    rw [KeyedLog.valuesAt_concat, contents]
    by_cases same : key = description.itemKey item
    · subst same
      simp only [if_true, List.flatten_append, List.flatten_cons,
        List.flatten_nil, List.append_nil, ← List.append_assoc]
      rw [conserved]
    · rw [if_neg same, if_neg (Ne.symm same)]
      exact conserved
  · exact kept.answered
  · intro thread request sleeping
    cases current : state.threads thread with
    | idle | ready _ | blocked _ | woken _ | done _ =>
        simp [current, Place.notified] at sleeping

/-- A take removes a front part of one list: a thread that found nothing
before finds nothing now. -/
theorem Kept.taken
    (kept : description.Kept state) {thread : Thread} {request : Request}
    {result : Result} {store : Store} (valid : description.valid store)
    (answers : description.answers request result)
    (front :
      description.resultValues result ++
          description.contents store (description.requestKey request) =
        description.contents state.store (description.requestKey request))
    (others :
      ∀ key, key ≠ description.requestKey request →
        description.contents store key =
          description.contents state.store key) :
    description.Kept
      { state.setThread thread (.done result) with
        store := store
        takes := state.takes ++ [(request, result)] } := by
  have moved : description.Kept (state.setThread thread (.done result)) := by
    apply kept.setThread
    · intro _ there
      simp at there
    · intro _ there
      cases there
  refine ⟨valid, moved.asked, ?_, ?_, ?_⟩
  · intro key
    have conserved := kept.conserved key
    simp only [valuesTaken, valuesPut, State.setThread] at conserved ⊢
    rw [KeyedLog.valuesAt_concat]
    by_cases same : description.requestKey request = key
    · subst same
      rw [if_pos rfl, ← conserved, ← front]
      simp
    · rw [if_neg same, others key (Ne.symm same)]
      exact conserved
  · intro entry member
    obtain before | new := List.mem_append.mp member
    · exact kept.answered entry before
    · obtain rfl := List.mem_singleton.mp new
      exact answers
  · intro other asked sleeping available
    refine moved.awake other asked sleeping ?_
    simp only [State.setThread]
    by_cases same : description.requestKey asked =
        description.requestKey request
    · rw [same, ← front, ← same]
      exact description.available_of_suffix available
    · rwa [others _ same] at available

theorem Kept.next
    (kept : description.Kept state) {label : Label Thread Item Request}
    (allowed : description.Allowed state label)
    (stepped : shared.next state label = some target) :
    description.Kept target := by
  cases label with
  | put item => exact kept.put allowed stepped
  | call thread request =>
      have called : description.Kept
          (state.setThread thread (.ready request)) := by
        apply kept.setThread
        · intro asked there
          simp only [Place.ready.injEq, reduceCtorEq, or_false] at there
          exact there ▸ allowed
        · intro _ there
          cases there
      simp only [SharedStore.next] at stepped
      split at stepped <;> cases stepped
      · exact called
      · exact called
  | pass thread =>
      simp only [SharedStore.next] at stepped
      split at stepped
      case h_2 => cases stepped
      case h_1 request passing =>
        have asks := asks_of_request? kept passing
        obtain ⟨nothing, unavailable⟩ |
          ⟨result, store, takeEq, valid, answers, front, others⟩ :=
          description.take_spec kept.valid asks
        · rw [nothing] at stepped
          cases stepped
          apply kept.setThread
          · intro asked there
            simp only [Place.blocked.injEq, reduceCtorEq, false_or,
              or_false] at there
            exact there ▸ asks
          · intro asked there
            cases there
            exact unavailable
        · rw [takeEq] at stepped
          cases stepped
          exact kept.taken valid answers front others
  | wake thread =>
      simp only [SharedStore.next] at stepped
      split at stepped <;> cases stepped
      next request sleeping =>
        apply kept.setThread
        · intro asked there
          simp only [Place.woken.injEq, reduceCtorEq, false_or] at there
          exact there ▸ kept.asked thread request (.inr (.inl sleeping))
        · intro _ there
          cases there
  | timeout thread =>
      have ended : description.Kept
          (state.setThread thread (.done shared.expired)) := by
        apply kept.setThread
        · intro _ there
          simp at there
        · intro _ there
          cases there
      simp only [SharedStore.next] at stepped
      split at stepped <;> cases stepped
      · exact ended
      · exact ended

/-- The laws hold in every run whose items and requests they are about. -/
theorem kept_of_reachable
    {begun : Store} (valid : description.valid begun)
    (empty : ∀ key, description.contents begun key = [])
    (reachable :
      (shared.machine begun).ReachableUnder description.Allowed state) :
    description.Kept state := by
  refine reachable.invariant ?_ ?_
  · intro start isInitial
    obtain ⟨store, idle, noPuts, noTakes⟩ := isInitial
    constructor
    · exact store ▸ valid
    · intro thread request there
      simp [idle thread] at there
    · intro key
      simp only [valuesTaken, valuesPut, noPuts, noTakes, store, empty]
      rfl
    · intro entry member
      rw [noTakes] at member
      cases member
    · intro thread request sleeping
      rw [idle thread] at sleeping
      cases sleeping
  · intro source label target kept allowed stepped
    exact kept.next allowed stepped

end Description

end SharedStore
