import ChannelSdk.SyncClient

/-!
# Whose timeout a send observes

The calls of `send` on one client object share its timer, and every call
restarts it.  A failed attempt is therefore measured against the call that
began last, not against its own.

The timer always shows the latest start, and the clock never goes back.  So a
failed attempt is judged by its own call's time exactly when that call is
still within the timeout or no call on the object has begun within the
timeout.
-/

namespace ChannelSdk.SyncClient

universe u

variable {Call : Type u}

namespace Exchange

/-- The nanoseconds since a call began. -/
def age (state : Exchange Call) (call : Call) : Nat :=
  state.clock - (state.calls call).began

/-- The call began at least `send_timeout_` milliseconds ago. -/
def Overdue (state : Exchange Call) (call : Call) : Prop :=
  state.client.sendTimeout * 1000000 ≤ state.age call

instance (state : Exchange Call) (call : Call) :
    Decidable (state.Overdue call) :=
  inferInstanceAs
    (Decidable (state.client.sendTimeout * 1000000 ≤ state.age call))

/-- A failed attempt of an overdue call finds every call on the object
overdue: none has begun within the timeout. -/
def NoneBegunSince (state : Exchange Call) : Label Call → Prop
  | .handleException call =>
      (state.calls call).phase = .caught → state.Overdue call →
        ∀ other, (state.calls other).phase ≠ .idle → state.Overdue other
  | _ => True

/-- Every call that has begun did so no later than the timer, which runs and
shows the start of one of them. -/
structure Timed (state : Exchange Call) : Prop where
  started :
    ∀ call, (state.calls call).phase ≠ .idle →
      state.client.timer.stoped = false ∧
        (state.calls call).began ≤ state.client.timer.beginTime ∧
        state.client.timer.beginTime ≤ state.clock
  latest :
    ∀ call, (state.calls call).phase ≠ .idle →
      ∃ last, (state.calls last).phase ≠ .idle ∧
        (state.calls last).began = state.client.timer.beginTime

/-- A step that leaves the timer alone and moves only calls that have begun
keeps the invariant. -/
theorem Timed.of_same
    {state target : Exchange Call} (timed : state.Timed)
    (sameClient : target.client = state.client)
    (onward : state.clock ≤ target.clock)
    (sameCalls :
      ∀ call,
        ((target.calls call).phase = .idle ↔
          (state.calls call).phase = .idle) ∧
          (target.calls call).began = (state.calls call).began) :
    target.Timed := by
  constructor
  · intro call begun
    rw [ne_eq, (sameCalls call).1] at begun
    have started := timed.started call begun
    rw [sameClient, (sameCalls call).2]
    exact ⟨started.1, started.2.1, by omega⟩
  · intro call begun
    rw [ne_eq, (sameCalls call).1] at begun
    rcases timed.latest call begun with ⟨last, lastBegun, shown⟩
    refine ⟨last, ?_, ?_⟩
    · rw [ne_eq, (sameCalls last).1]
      exact lastBegun
    · rw [sameClient, (sameCalls last).2]
      exact shown

/-- The timer passes the timeout exactly when every call on the object is
overdue. -/
theorem timer_late_iff
    {state : Exchange Call} (timed : state.Timed) {call : Call}
    (begun : (state.calls call).phase ≠ .idle) :
    state.client.sendTimeout ≤ state.client.timer.msElapse state.clock ↔
      ∀ other, (state.calls other).phase ≠ .idle → state.Overdue other := by
  have running := (timed.started call begun).1
  have elapsed :
      state.client.timer.msElapse state.clock =
        (state.clock - state.client.timer.beginTime) / 1000000 := by
    rw [SimpleTimer.msElapse, running]
    rfl
  rw [elapsed, Nat.le_div_iff_mul_le (by decide)]
  constructor
  · intro late other otherBegun
    have started := timed.started other otherBegun
    rw [Overdue, age]
    omega
  · intro allOverdue
    rcases timed.latest call begun with ⟨last, lastBegun, shown⟩
    have lastOverdue := allOverdue last lastBegun
    rwa [Overdue, age, shown] at lastOverdue

variable [DecidableEq Call]

/-- At a failed attempt, the call raises the timeout if and only if it is
overdue itself. -/
def TimeoutIsOwn (selfNodeid : String) (state : Exchange Call) :
    Label Call → Prop
  | .handleException call =>
      ∀ target,
        state.next selfNodeid (.handleException call) = some target →
          ((target.calls call).phase = .sendDataTimeout ↔
            state.Overdue call)
  | _ => True

/-- A call that has begun makes progress without beginning anew. -/
theorem Timed.setCall
    {state : Exchange Call} (timed : state.Timed) {call : Call}
    (begun : (state.calls call).phase ≠ .idle)
    {target : Exchange Call} {progress : SendCall}
    (moved : target.calls = Function.update state.calls call progress)
    (sameClient : target.client = state.client)
    (sameClock : target.clock = state.clock)
    (sameStart : progress.began = (state.calls call).began)
    (notIdle : progress.phase ≠ .idle) : target.Timed := by
  refine timed.of_same sameClient (by omega) ?_
  intro tested
  rw [moved]
  by_cases same : tested = call
  · subst same
    rw [Function.update_self]
    exact ⟨iff_of_false notIdle begun, sameStart⟩
  · rw [Function.update_of_ne same]
    exact ⟨Iff.rfl, rfl⟩

/-- The newest call is the one that the timer shows. -/
theorem Timed.call
    {state : Exchange Call} (timed : state.Timed) {call : Call}
    (msgid : String) (data : CheckedMemory.Bytes)
    (isIdle : (state.calls call).phase = .idle) :
    Timed { state.setCall call ⟨msgid, data, state.clock, 0, .ready⟩ with
      client := { state.client with timer := .start state.clock } } := by
  constructor
  · intro tested begun
    by_cases same : tested = call
    · subst same
      simp [Exchange.setCall, SimpleTimer.start]
    · simp only [Exchange.setCall, Function.update_of_ne same] at begun ⊢
      have started := timed.started tested begun
      exact ⟨rfl, Nat.le_trans started.2.1 started.2.2, Nat.le_refl _⟩
  · intro _ _
    exact ⟨call, by simp [Exchange.setCall],
      by simp [Exchange.setCall, SimpleTimer.start]⟩

theorem timed_initial
    {selfNodeid : String} {state : Exchange Call}
    (isInitial : (machine selfNodeid).initial state) : state.Timed := by
  rcases isInitial with ⟨allIdle, -⟩
  constructor
  · intro call begun
    exact absurd (allIdle call) begun
  · intro call begun
    exact absurd (allIdle call) begun

/-- Every step keeps the invariant. -/
theorem timed_step
    {selfNodeid : String} {state target : Exchange Call} {label : Label Call}
    (timed : state.Timed) (stepped : Step selfNodeid state label target) :
    target.Timed := by
  cases stepped with
  | tick elapsed =>
      exact timed.of_same rfl (Nat.le_add_right _ _) fun _ => ⟨Iff.rfl, rfl⟩
  | call call msgid data isIdle =>
      exact timed.call msgid data isIdle
  | invoke call isReady =>
      exact timed.setCall (by rw [isReady]; nofun) rfl rfl rfl rfl nofun
  | loseRequest position =>
      exact timed.of_same rfl (Nat.le_refl _) fun _ => ⟨Iff.rfl, rfl⟩
  | dispatch position underWay =>
      exact timed.of_same rfl (Nat.le_refl _) fun _ => ⟨Iff.rfl, rfl⟩
  | loseReply position =>
      exact timed.of_same rfl (Nat.le_refl _) fun _ => ⟨Iff.rfl, rfl⟩
  | reply call position underWay sameCall sameAttempt isInvoking =>
      exact timed.setCall (by rw [isInvoking]; nofun) rfl rfl rfl rfl nofun
  | throwException call isInvoking =>
      exact timed.setCall (by rw [isInvoking]; nofun) rfl rfl rfl rfl nofun
  | raise call isCaught late =>
      exact timed.setCall (by rw [isCaught]; nofun) rfl rfl rfl rfl nofun
  | retry call isCaught inTime =>
      exact timed.setCall (by rw [isCaught]; nofun) rfl rfl rfl rfl nofun
  | recv msgid found passed =>
      exact timed.of_same rfl (Nat.le_refl _) fun _ => ⟨Iff.rfl, rfl⟩

/-- One failed attempt. -/
theorem timeoutIsOwn_iff
    {selfNodeid : String} {state : Exchange Call} (timed : state.Timed)
    (label : Label Call) :
    state.TimeoutIsOwn selfNodeid label ↔ state.NoneBegunSince label := by
  cases label with
  | handleException call =>
      by_cases isCaught : (state.calls call).phase = .caught
      · have begun : (state.calls call).phase ≠ .idle := by
          rw [isCaught]
          nofun
        have late := timer_late_iff timed begun
        by_cases isLate :
            state.client.sendTimeout ≤
              state.client.timer.msElapse state.clock
        · have allOverdue := late.mp isLate
          have raised :
              state.next selfNodeid (.handleException call) =
                some (state.setPhase call .sendDataTimeout) := by
            simp only [next, isCaught, isLate, if_true]
          refine iff_of_true ?_ fun _ _ => allOverdue
          intro target stepped
          rw [raised] at stepped
          cases stepped
          exact iff_of_true (by simp [setPhase, setCall])
            (allOverdue call begun)
        · have retried :
              state.next selfNodeid (.handleException call) =
                some (state.setCall call
                  { state.calls call with
                    attempt := (state.calls call).attempt + 1
                    phase := .ready }) := by
            simp only [next, isCaught, isLate, if_true, if_false]
          constructor
          · intro own _ overdue
            have raised := (own _ retried).mpr overdue
            simp [setCall] at raised
          · intro noneSince target stepped
            rw [retried] at stepped
            cases stepped
            refine iff_of_false (by simp [setCall]) ?_
            intro overdue
            exact isLate (late.mpr (noneSince isCaught overdue))
      · have disabled :
            state.next selfNodeid (.handleException call) = none := by
          simp only [next, isCaught, if_false]
        refine iff_of_true ?_ fun caught => absurd caught isCaught
        intro target stepped
        rw [disabled] at stepped
        cases stepped
  | _ => exact Iff.rfl

end Exchange

variable [DecidableEq Call]

/-- Two threads with one client object, whose timeout is five seconds. -/
def twoSenders : Exchange Bool where
  client := ⟨5000, .start 0⟩
  clock := 0
  calls := fun _ => ⟨"", [], 0, 0, .idle⟩
  requests := []
  replies := []
  server := Function.update (fun _ => none) "p0" (some (.create "p0"))
  appended := []
  taken := []

theorem twoSenders_initial : (machine "p0").initial twoSenders :=
  ⟨fun _ => rfl, rfl, rfl, rfl, rfl, rfl⟩

/-- The second call begins four seconds after the first, whose attempt fails
two seconds later. -/
def overtakenRun : List (Label Bool) :=
  [.call true "m" [1], .invoke true, .tick 4000000000, .call false "m" [2],
    .tick 2000000000, .throwException true, .handleException true]

end ChannelSdk.SyncClient
