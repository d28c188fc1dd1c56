import ChannelSdk.SyncClient
import Mathlib.Data.List.Perm.Basic

/-!
# How many copies a send delivers

The request of an attempt is dispatched at most once, and an attempt that
returns was dispatched.  So the copies that a returned call leaves behind are
its last request and those requests of failed attempts that reached the
server all the same: the servant cannot tell a repeated request from a new
one.
-/

namespace ChannelSdk.SyncClient

open CheckedMemory

universe u

variable {Call : Type u}

/-- The requests that were sent and neither lost nor ignored. -/
def Exchange.sent (state : Exchange Call) : List (Request Call) :=
  state.requests ++ state.appended

/-- The attempt that a request belongs to. -/
def Request.key (request : Request Call) : Call × Nat :=
  (request.call, request.attempt)

/-- The progress of a call accounts for one of its requests: it carries the
message of the call, and its attempt has been made. -/
structure SendCall.Accounts
    (selfNodeid : String) (progress : SendCall)
    (request : Request Call) : Prop where
  carries : request.sendData = ⟨progress.msgid, selfNodeid, progress.data⟩
  begun : progress.phase ≠ .idle
  made :
    request.attempt < progress.attempt ∨
      request.attempt = progress.attempt ∧ progress.phase ≠ .ready

structure Consistent
    (selfNodeid : String) (state : Exchange Call) : Prop where
  distinct : (state.sent.map Request.key).Nodup
  accounted :
    ∀ request ∈ state.sent,
      (state.calls request.call).Accounts selfNodeid request
  answered : ∀ reply ∈ state.replies, reply ∈ state.appended
  returned :
    ∀ call value, (state.calls call).phase = .returned value →
      value = (state.calls call).data.length ∧
        ∃ request ∈ state.appended,
          request.call = call ∧
            request.attempt = (state.calls call).attempt
  registered : (state.server selfNodeid).isSome
  delivered :
    ∀ msgid,
      state.takenFor msgid ++ state.server.queued selfNodeid msgid =
        state.appendedFor msgid

namespace Consistent

variable {selfNodeid : String} {state : Exchange Call}

/-- A change of phase keeps a call's requests accounted for, once its current
attempt is under way. -/
theorem accounts_setPhase
    (consistent : Consistent selfNodeid state) {call : Call} {phase : Phase}
    (notIdle : phase ≠ .idle) (notReady : phase ≠ .ready)
    {request : Request Call} (member : request ∈ state.sent)
    (belongs : request.call = call) :
    SendCall.Accounts selfNodeid { state.calls call with phase := phase }
      request := by
  subst belongs
  have accounts := consistent.accounted request member
  refine ⟨accounts.carries, notIdle, ?_⟩
  rcases accounts.made with earlier | ⟨current, -⟩
  · exact .inl earlier
  · exact .inr ⟨current, notReady⟩

/-- Fewer requests and replies may be under way. -/
theorem lose
    (consistent : Consistent selfNodeid state)
    {requests replies : List (Request Call)}
    (fewerRequests : requests.Sublist state.requests)
    (fewerReplies : replies.Sublist state.replies) :
    Consistent selfNodeid
      { state with requests := requests, replies := replies } where
  distinct :=
    consistent.distinct.sublist
      ((fewerRequests.append_right state.appended).map Request.key)
  accounted := fun request member =>
    consistent.accounted request
      ((fewerRequests.append_right state.appended).subset member)
  answered := fun reply member =>
    consistent.answered reply (fewerReplies.subset member)
  returned := consistent.returned
  registered := consistent.registered
  delivered := consistent.delivered

/-- The clock and the timer are of no consequence for the requests. -/
theorem setClock
    (consistent : Consistent selfNodeid state)
    (client : SyncClient) (clock : Nat) :
    Consistent selfNodeid
      { state with client := client, clock := clock } :=
  ⟨consistent.distinct, consistent.accounted, consistent.answered,
    consistent.returned, consistent.registered, consistent.delivered⟩

/-- The server dispatches a request that is under way. -/
theorem dispatchRequest
    (consistent : Consistent selfNodeid state) {position : Nat}
    {request : Request Call}
    (underWay : state.requests[position]? = some request) :
    Consistent selfNodeid (state.dispatchRequest position request) := by
  have inBounds := List.getElem?_eq_some_iff.mp underWay
  rcases inBounds with ⟨bound, rfl⟩
  generalize found : state.requests[position] = request at *
  have isSent : request ∈ state.sent :=
    List.mem_append_left _ (List.mem_of_getElem? underWay)
  have carries := (consistent.accounted request isSent).carries
  have fromSelf : request.sendData.nodeid = selfNodeid := by rw [carries]
  have logged :
      (state.dispatchRequest position request).appended =
        state.appended ++ [request] := by
    simp [Exchange.dispatchRequest, fromSelf, consistent.registered]
  have reordered :
      (state.dispatchRequest position request).sent.Perm state.sent := by
    rw [Exchange.sent, logged]
    calc
      state.requests.eraseIdx position ++ (state.appended ++ [request])
          = (state.requests.eraseIdx position ++ state.appended) ++
              [request] := (List.append_assoc _ _ _).symm
      List.Perm _ (request ::
          (state.requests.eraseIdx position ++ state.appended)) :=
        List.perm_append_singleton _ _
      List.Perm _ state.sent := by
        rw [← List.cons_append, ← found]
        exact (List.getElem_cons_eraseIdx_perm bound).append_right _
  exact
    { distinct := (reordered.map Request.key).nodup_iff.mpr consistent.distinct
      accounted := fun other member =>
        consistent.accounted other (reordered.mem_iff.mp member)
      answered := by
        intro reply member
        rw [logged]
        rcases List.mem_append.mp member with older | new
        · exact List.mem_append_left _ (consistent.answered reply older)
        · exact List.mem_append_right _ new
      returned := by
        intro call value hasReturned
        rcases consistent.returned call value hasReturned with
          ⟨size, origin, member, belongs⟩
        refine ⟨size, origin, ?_, belongs⟩
        rw [logged]
        exact List.mem_append_left _ member
      registered := by
        simpa [Exchange.dispatchRequest, isSome_afterSend] using
          consistent.registered
      delivered := by
        intro msgid
        rw [Exchange.appendedFor, logged, List.filter_append,
          List.map_append]
        have queuedNow :=
          queued_afterSend state.server request.sendData selfNodeid msgid
        by_cases same : request.sendData.msgid = msgid
        · rw [if_pos ⟨consistent.registered, fromSelf, same⟩] at queuedNow
          have framed :=
            congrArg (· ++ [request.sendData.data])
              (consistent.delivered msgid)
          simpa [Exchange.dispatchRequest, Exchange.takenFor,
            Exchange.appendedFor, queuedNow, same] using framed
        · rw [if_neg fun matching => same matching.2.2] at queuedNow
          simpa [Exchange.dispatchRequest, Exchange.takenFor,
            Exchange.appendedFor, queuedNow, same] using
            consistent.delivered msgid }

/-- The receiving node takes a message of the sender. -/
theorem recv
    (consistent : Consistent selfNodeid state) {msgid : String}
    {connection remaining : ClientConnection} {received : Received}
    (found : state.server selfNodeid = some connection)
    (passed : connection.recvPass msgid = some (received, remaining)) :
    Consistent selfNodeid
      { state with
        server := Function.update state.server selfNodeid (some remaining)
        taken := state.taken ++ [(msgid, received.stored)] } where
  distinct := consistent.distinct
  accounted := consistent.accounted
  answered := consistent.answered
  returned := consistent.returned
  registered := by simp
  delivered := by
    intro tested
    have earlier := consistent.delivered tested
    rw [MapClientConn.queued_of_known found] at earlier
    rw [MapClientConn.queued_of_known (Function.update_self ..)]
    rcases ClientConnection.recvPass_eq_some passed with
      ⟨front, rest, queued, rfl, remains, others⟩
    by_cases same : tested = msgid
    · subst tested
      rw [queued] at earlier
      simpa [Exchange.takenFor, Exchange.appendedFor, remains] using earlier
    · rw [← others tested same] at earlier
      simpa [Exchange.takenFor, Exchange.appendedFor, Ne.symm same]
        using earlier

variable [DecidableEq Call]

/-- A call may move on while its requests stay accounted for. -/
theorem setCall
    (consistent : Consistent selfNodeid state) (call : Call)
    (progress : SendCall)
    (accounted :
      ∀ request ∈ state.sent, request.call = call →
        progress.Accounts selfNodeid request)
    (returned :
      ∀ value, progress.phase = .returned value →
        value = progress.data.length ∧
          ∃ request ∈ state.appended,
            request.call = call ∧ request.attempt = progress.attempt) :
    Consistent selfNodeid (state.setCall call progress) where
  distinct := consistent.distinct
  accounted := by
    intro request member
    by_cases same : request.call = call
    · simpa [Exchange.setCall, same] using accounted request member same
    · simpa [Exchange.setCall, same] using
        consistent.accounted request member
  answered := consistent.answered
  returned := by
    intro other value
    by_cases same : other = call
    · subst other
      simpa [Exchange.setCall] using returned value
    · simpa [Exchange.setCall, same] using consistent.returned other value
  registered := consistent.registered
  delivered := consistent.delivered

theorem setPhase
    (consistent : Consistent selfNodeid state) (call : Call) (phase : Phase)
    (notIdle : phase ≠ .idle) (notReady : phase ≠ .ready)
    (returned :
      ∀ value, phase = .returned value →
        value = (state.calls call).data.length ∧
          ∃ request ∈ state.appended,
            request.call = call ∧
              request.attempt = (state.calls call).attempt) :
    Consistent selfNodeid (state.setPhase call phase) :=
  consistent.setCall call _
    (fun _ member belongs =>
      consistent.accounts_setPhase notIdle notReady member belongs)
    returned

/-- A call that is ready sends the request of a new attempt. -/
theorem invoke
    (consistent : Consistent selfNodeid state) {call : Call}
    (isReady : (state.calls call).phase = .ready) :
    Consistent selfNodeid
      { state.setPhase call .invoking with
        requests := state.requests ++ [state.request selfNodeid call] } := by
  have waiting :=
    consistent.setPhase call .invoking (by simp) (by simp) (by simp)
  have unused :
      ∀ request ∈ state.sent,
        request.key ≠ (state.request selfNodeid call).key := by
    intro request member sameKey
    rcases Prod.mk.inj sameKey with ⟨sameCall, sameAttempt⟩
    have accounts := consistent.accounted request member
    rw [sameCall] at accounts
    rcases accounts.made with earlier | ⟨-, notReady⟩
    · exact Nat.ne_of_lt earlier sameAttempt
    · exact notReady isReady
  have reordered :
      (state.requests ++ [state.request selfNodeid call] ++
        state.appended).Perm
        (state.request selfNodeid call :: state.sent) := by
    rw [List.append_assoc]
    exact List.perm_middle
  exact
    { distinct := by
        apply (reordered.map Request.key).nodup_iff.mpr
        refine List.nodup_cons.mpr ⟨?_, consistent.distinct⟩
        intro member
        rcases List.mem_map.mp member with ⟨request, isSent, sameKey⟩
        exact unused request isSent sameKey
      accounted := by
        intro request member
        rcases List.mem_cons.mp (reordered.mem_iff.mp member) with
          rfl | isSent
        · refine ⟨?_, ?_, .inr ⟨?_, ?_⟩⟩ <;>
            simp [Exchange.setPhase, Exchange.setCall, Exchange.request]
        · exact waiting.accounted request isSent
      answered := consistent.answered
      returned := waiting.returned
      registered := consistent.registered
      delivered := consistent.delivered }

theorem next
    {target : Exchange Call} {label : Label Call}
    (consistent : Consistent selfNodeid state)
    (stepped : state.next selfNodeid label = some target) :
    Consistent selfNodeid target := by
  cases Exchange.step_of_next stepped with
  | tick => exact consistent.setClock _ _
  | call call msgid data isIdle =>
      refine (consistent.setCall call _ ?_ (by simp)).setClock _ _
      intro request member belongs
      subst belongs
      exact absurd isIdle (consistent.accounted request member).begun
  | invoke call isReady => exact consistent.invoke isReady
  | loseRequest =>
      exact consistent.lose (List.eraseIdx_sublist ..) (List.Sublist.refl _)
  | dispatch position underWay => exact consistent.dispatchRequest underWay
  | loseReply =>
      exact consistent.lose (List.Sublist.refl _) (List.eraseIdx_sublist ..)
  | @reply call position reply underWay sameCall sameAttempt _ =>
      have answered :=
        consistent.answered reply (List.mem_of_getElem? underWay)
      refine (consistent.setPhase call _ (by simp) (by simp) ?_).lose
        (List.Sublist.refl _) (List.eraseIdx_sublist ..)
      intro value hasReturned
      cases hasReturned
      exact ⟨rfl, reply, answered, sameCall, sameAttempt⟩
  | throwException call | raise call =>
      exact consistent.setPhase call _ (by simp) (by simp) (by simp)
  | retry call =>
      refine consistent.setCall call _ ?_ (by simp)
      intro request member belongs
      subst belongs
      have accounts := consistent.accounted request member
      refine ⟨accounts.carries, by simp, .inl ?_⟩
      rcases accounts.made with earlier | ⟨current, -⟩
      · exact Nat.lt_succ_of_lt earlier
      · exact Nat.lt_succ_of_le (Nat.le_of_eq current)
  | recv msgid found passed => exact consistent.recv found passed

theorem of_reachable
    (reachable : (machine selfNodeid).Reachable state) :
    Consistent selfNodeid state := by
  refine reachable.invariant ?_ (fun _ _ _ => Consistent.next)
  intro initial isInitial
  rcases isInitial with
    ⟨idle, noRequests, noReplies, found, nothing, noneTaken⟩
  have nothingSent : initial.sent = [] := by
    rw [Exchange.sent, noRequests, nothing]
    rfl
  refine ⟨?_, ?_, ?_, ?_, ?_, ?_⟩
  · simp [nothingSent]
  · simp [nothingSent]
  · simp [noReplies]
  · intro call value hasReturned
    rw [idle call] at hasReturned
    cases hasReturned
  · simp [found]
  · intro msgid
    simp [Exchange.takenFor, Exchange.appendedFor, noneTaken, nothing,
      MapClientConn.queued_of_known found]

/-- A returned call has appended one copy exactly when no request of a failed
attempt was dispatched. -/
theorem copies_eq_one_iff
    (consistent : Consistent selfNodeid state) {call : Call} {value : Nat}
    (hasReturned : (state.calls call).phase = .returned value) :
    state.copies call = 1 ↔
      ∀ request ∈ state.appended, request.call = call →
        ¬ state.Failed call request.attempt := by
  rcases consistent.returned call value hasReturned with
    ⟨-, last, lastAppended, lastCall, lastAttempt⟩
  have lastMember :
      last ∈ state.appended.filter fun request => request.call = call := by
    simpa using ⟨lastAppended, lastCall⟩
  have failedIff :
      ∀ request ∈ state.appended, request.call = call →
        (¬ state.Failed call request.attempt ↔
          request.key = last.key) := by
    intro request member belongs
    have accounts :=
      consistent.accounted request (List.mem_append_right _ member)
    rw [belongs] at accounts
    have made := accounts.made
    simp only [Exchange.Failed, Request.key, Prod.mk.injEq, hasReturned]
    grind
  constructor
  · intro single request member belongs
    rcases List.length_eq_one_iff.mp single with ⟨only, isOnly⟩
    have isLast : request = last := by
      have requestMember :
          request ∈ state.appended.filter fun other => other.call = call := by
        simpa using ⟨member, belongs⟩
      rw [isOnly, List.mem_singleton] at requestMember lastMember
      rw [requestMember, lastMember]
    exact (failedIff request member belongs).mpr (by rw [isLast])
  · intro noneFailed
    have distinctKeys :
        ((state.appended.filter fun request =>
          request.call = call).map Request.key).Nodup :=
      consistent.distinct.sublist
        ((List.filter_sublist.trans (List.sublist_append_right _ _)).map _)
    have sameKeys :
        ∀ key ∈ (state.appended.filter fun request =>
          request.call = call).map Request.key, key = last.key := by
      intro key member
      rcases List.mem_map.mp member with ⟨request, filtered, rfl⟩
      have parts : request ∈ state.appended ∧ request.call = call := by
        simpa using filtered
      exact (failedIff request parts.1 parts.2).mp
        (noneFailed request parts.1 parts.2)
    have replicated := List.eq_replicate_of_mem sameKeys
    rw [replicated] at distinctKeys
    have atMostOne := List.nodup_replicate.mp distinctKeys
    have atLeastOne := List.length_pos_of_mem lastMember
    rw [List.length_map] at atMostOne
    exact Nat.le_antisymm atMostOne atLeastOne

end Consistent

/-- A step that tears no request from its attempt: an invocation throws only
while its request has not been dispatched, and no request is dispatched once
its invocation has thrown. -/
def Punctual (state : Exchange Call) : Label Call → Prop
  | .throwException call =>
      ∀ request ∈ state.appended, request.call = call →
        request.attempt ≠ (state.calls call).attempt
  | .dispatch position =>
      ∀ request, state.requests[position]? = some request →
        ¬ state.Failed request.call request.attempt
  | _ => True

/-- No dispatched request belongs to a failed attempt. -/
def Unrepeated (state : Exchange Call) : Prop :=
  ∀ request ∈ state.appended, ¬ state.Failed request.call request.attempt

namespace Unrepeated

variable {selfNodeid : String} {state : Exchange Call}

/-- In the handler of an exception none of the call's requests has been
dispatched. -/
theorem none_of_caught
    (unrepeated : Unrepeated state)
    (consistent : Consistent selfNodeid state) {call : Call}
    (isCaught : (state.calls call).phase = .caught)
    {request : Request Call} (member : request ∈ state.appended) :
    request.call ≠ call := by
  intro same
  subst same
  apply unrepeated request member
  rcases (consistent.accounted request
      (List.mem_append_right _ member)).made with earlier | ⟨current, -⟩
  · exact .inl earlier
  · exact .inr ⟨current, .inl isCaught⟩

variable [DecidableEq Call]

theorem setCall
    (unrepeated : Unrepeated state) (call : Call) (progress : SendCall)
    (passed :
      ∀ request ∈ state.appended, request.call = call →
        ¬ (state.setCall call progress).Failed call request.attempt) :
    Unrepeated (state.setCall call progress) := by
  intro request member
  by_cases same : request.call = call
  · subst same
    exact passed request member rfl
  · simpa [Exchange.Failed, Exchange.setCall, same] using
      unrepeated request member

/-- A call that leaves its attempt as it is, other than into the handler of
its exception, fails no attempt. -/
theorem setPhase
    (unrepeated : Unrepeated state) (call : Call) {phase : Phase}
    (notCaught : phase ≠ .caught) (notRaised : phase ≠ .sendDataTimeout) :
    Unrepeated (state.setPhase call phase) := by
  apply unrepeated.setCall call
  intro request member same failed
  subst same
  rcases failed with earlier | ⟨-, caught | raised⟩
  · exact unrepeated request member
      (.inl (by simpa [Exchange.setCall] using earlier))
  · exact notCaught (by simpa [Exchange.setCall] using caught)
  · exact notRaised (by simpa [Exchange.setCall] using raised)

theorem next
    {target : Exchange Call} {label : Label Call}
    (unrepeated : Unrepeated state)
    (consistent : Consistent selfNodeid state)
    (punctual : Punctual state label)
    (stepped : state.next selfNodeid label = some target) :
    Unrepeated target := by
  cases Exchange.step_of_next stepped with
  | tick | loseRequest | loseReply | recv => exact unrepeated
  | call call msgid data isIdle =>
      apply unrepeated.setCall call ⟨msgid, data, state.clock, 0, .ready⟩
      intro request member same
      subst same
      exact absurd isIdle
        (consistent.accounted request
          (List.mem_append_right _ member)).begun
  | invoke call | reply call =>
      exact unrepeated.setPhase call (by simp) (by simp)
  | @dispatch position request underWay =>
      intro other member
      have origin : other ∈ state.appended ∨ other = request := by
        simp only [Exchange.dispatchRequest] at member
        split at member
        · simpa using member
        · exact .inl member
      rcases origin with older | rfl
      · exact unrepeated other older
      · exact punctual other underWay
  | throwException call =>
      apply unrepeated.setCall call
      intro request member same failed
      subst same
      rcases failed with earlier | ⟨current, -⟩
      · exact unrepeated request member
          (.inl (by simpa [Exchange.setCall] using earlier))
      · exact punctual request member rfl
          (by simpa [Exchange.setCall] using current)
  | raise call isCaught | retry call isCaught =>
      apply unrepeated.setCall call
      intro request member belongs
      exact absurd belongs
        (unrepeated.none_of_caught consistent isCaught member)

theorem of_reachable
    (reachable : (machine selfNodeid).ReachableUnder Punctual state) :
    Unrepeated state := by
  refine reachable.relative_invariant ?_ ?_
  · intro initial isInitial
    rcases isInitial with ⟨-, -, -, -, nothing, -⟩
    simp [Unrepeated, nothing]
  · intro source label target before unrepeated punctual stepped
    exact unrepeated.next (Consistent.of_reachable before.reachable)
      punctual stepped

end Unrepeated

section Delivery

variable [DecidableEq Call]

/-- When a send is delivered exactly once.  The appended messages are what
the receiver's queues got.  In a run whose steps are all punctual, every call
that returned has appended exactly one copy of its message; and in any run,
a call that returned has appended exactly one copy if and only if none of its
failed attempts was dispatched.  What a call has appended is its own message. -/
theorem send_exactly_once_iff (selfNodeid : String) :
    (∀ state : Exchange Call, (machine selfNodeid).Reachable state →
      ∀ msgid,
        state.takenFor msgid ++ state.server.queued selfNodeid msgid =
          state.appendedFor msgid) ∧
    (∀ state : Exchange Call,
      (machine selfNodeid).ReachableUnder Punctual state →
        ∀ call value, (state.calls call).phase = .returned value →
          value = (state.calls call).data.length ∧
            state.copies call = 1) ∧
    (∀ state : Exchange Call, (machine selfNodeid).Reachable state →
      ∀ call value, (state.calls call).phase = .returned value →
        (state.copies call = 1 ↔
          ∀ request ∈ state.appended, request.call = call →
            ¬ state.Failed call request.attempt)) ∧
    (∀ state : Exchange Call, (machine selfNodeid).Reachable state →
      ∀ request ∈ state.appended,
        request.sendData =
          ⟨(state.calls request.call).msgid, selfNodeid,
            (state.calls request.call).data⟩) := by
  refine ⟨?_, ?_, ?_, ?_⟩
  · intro state reachable
    exact (Consistent.of_reachable reachable).delivered
  · intro state punctual call value hasReturned
    have consistent : Consistent selfNodeid state :=
      .of_reachable punctual.reachable
    refine ⟨(consistent.returned call value hasReturned).1,
      (consistent.copies_eq_one_iff hasReturned).mpr ?_⟩
    intro request member same
    subst same
    exact Unrepeated.of_reachable punctual request member
  · intro state reachable call value hasReturned
    exact (Consistent.of_reachable reachable).copies_eq_one_iff hasReturned
  · intro state reachable request member
    have isSent : request ∈ state.sent := List.mem_append_right _ member
    have consistent := Consistent.of_reachable reachable
    exact (consistent.accounted request isSent).carries

end Delivery

/-- A client of `p0` with a send timeout of one second and no call yet, and a
server that has `p0` registered. -/
def freshExchange : Exchange Unit where
  client := ⟨1000, .start 0⟩
  clock := 0
  calls := fun _ => ⟨"", [], 0, 0, .idle⟩
  requests := []
  replies := []
  server := fun nodeid =>
    if nodeid = "p0" then some (.create "p0") else none
  appended := []
  taken := []

private theorem freshExchange_reachable :
    (machine "p0").Reachable freshExchange :=
  .initial ⟨fun _ => rfl, rfl, rfl, rfl, rfl, rfl⟩

/-- The first request is dispatched, its reply is lost with the connection,
and the repeated request is dispatched and answered. -/
def lostReplyRun : List (Label Unit) :=
  [.call () "m" [7], .invoke (), .dispatch 0, .loseReply 0,
    .throwException (), .handleException (), .invoke (), .dispatch 0,
    .reply () 0]

theorem send_delivers_twice :
    ∃ state : Exchange Unit,
      (machine "p0").Reachable state ∧
        (state.calls ()).phase = .returned 1 ∧
        state.copies () = 2 ∧
        state.server.queued "p0" "m" = [[7], [7]] := by
  rcases Option.map_eq_some_iff.mp
      (show ((machine "p0").run freshExchange lostReplyRun).map
          (fun state => ((state.calls ()).phase, state.copies (),
            state.server.queued "p0" "m")) =
        some (.returned 1, 2, [[7], [7]]) by decide) with
    ⟨state, executed, observed⟩
  rcases Prod.mk.inj observed with ⟨hasReturned, observed⟩
  rcases Prod.mk.inj observed with ⟨twice, queued⟩
  exact ⟨state, freshExchange_reachable.run executed, hasReturned, twice, queued⟩

/-- The first request is lost before the server sees it. -/
def lostRequestRun : List (Label Unit) :=
  [.call () "m" [7], .invoke (), .loseRequest 0, .throwException (),
    .handleException (), .invoke (), .dispatch 0, .reply () 0]

theorem send_exactly_once_iff_lost_request :
    ∃ state : Exchange Unit,
      (machine "p0").Reachable state ∧
        (state.calls ()).phase = .returned 1 ∧
        (state.copies () = 1 ↔
          ∀ request ∈ state.appended, request.call = () →
            ¬ state.Failed () request.attempt) ∧
        state.copies () = 1 := by
  rcases Option.map_eq_some_iff.mp
      (show ((machine "p0").run freshExchange lostRequestRun).map
          (fun state => ((state.calls ()).phase, state.copies ())) =
        some (.returned 1, 1) by decide) with
    ⟨state, executed, observed⟩
  rcases Prod.mk.inj observed with ⟨hasReturned, once⟩
  have reachable := freshExchange_reachable.run executed
  exact ⟨state, reachable, hasReturned,
    (send_exactly_once_iff "p0").2.2.1 state reachable () 1 hasReturned, once⟩

end ChannelSdk.SyncClient
