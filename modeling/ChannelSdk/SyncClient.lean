import ChannelSdk.IoChannelServant
import ChannelSdk.Lib.TransitionMachine

/-!
# Sending with `SyncClient`

`core/src/sync_client.cc`, `core/include/base_client.h` and
`core/src/simple_timer.cc`, in the build with dynamic calls.  `send` starts
the timer of the client object, then invokes the servant until an invocation
returns; an invocation that throws is repeated after a pause unless the timer
has passed the send timeout.

One client object is shared by any number of concurrent calls, which all
restart the same timer.  Of Ice only this is assumed: an invocation that
returns was dispatched by the server, and an invocation may throw at any time,
whether its request was lost, is still under way or was dispatched already.
-/

namespace ChannelSdk

open CheckedMemory

universe u

/-- `SimpleTimer`, with time points in nanoseconds. -/
structure SimpleTimer where
  beginTime : Nat
  endTime : Nat
  stoped : Bool

namespace SimpleTimer

/-- `start` at a clock value. -/
def start (now : Nat) : SimpleTimer where
  beginTime := now
  endTime := now
  stoped := false

/-- `ms_elapse` at a clock value. -/
def msElapse (timer : SimpleTimer) (now : Nat) : Nat :=
  ((if timer.stoped then timer.endTime else now) - timer.beginTime) / 1000000

end SimpleTimer

/-- The members of `BaseClient` that `send` uses. -/
structure SyncClient where
  sendTimeout : Nat
  timer : SimpleTimer

namespace SyncClient

/-- Where a call of `send` is: about to invoke, inside the invocation, in the
handler of its exception, or over. -/
inductive Phase where
  | idle
  | ready
  | invoking
  | caught
  | returned (value : Nat)
  | sendDataTimeout
  deriving DecidableEq, Repr

/-- A call of `send`: its arguments, the time it began, and its progress. -/
structure SendCall where
  msgid : String
  data : Bytes
  began : Nat
  attempt : Nat
  phase : Phase

/-- The request of one attempt of a call. -/
structure Request (Call : Type u) where
  call : Call
  attempt : Nat
  sendData : DataStruct

/-- One client object, the requests and replies under way, and the server.
The logs are the requests that appended a message, in dispatch order, and the
messages that the server's node has received since. -/
structure Exchange (Call : Type u) where
  client : SyncClient
  clock : Nat
  calls : Call → SendCall
  requests : List (Request Call)
  replies : List (Request Call)
  server : MapClientConn
  appended : List (Request Call)
  taken : List (String × Bytes)

inductive Label (Call : Type u) where
  | tick (elapsed : Nat)
  | call (call : Call) (msgid : String) (data : Bytes)
  | invoke (call : Call)
  | loseRequest (position : Nat)
  | dispatch (position : Nat)
  | loseReply (position : Nat)
  | reply (call : Call) (position : Nat)
  | throwException (call : Call)
  | handleException (call : Call)
  | recv (msgid : String)

namespace Exchange

variable {Call : Type u} [DecidableEq Call]

def setCall (state : Exchange Call) (call : Call) (progress : SendCall) :
    Exchange Call :=
  { state with calls := Function.update state.calls call progress }

def setPhase (state : Exchange Call) (call : Call) (phase : Phase) :
    Exchange Call :=
  state.setCall call { state.calls call with phase := phase }

/-- The request that a call sends in its current attempt. -/
def request (state : Exchange Call) (selfNodeid : String) (call : Call) :
    Request Call where
  call := call
  attempt := (state.calls call).attempt
  sendData :=
    { msgid := (state.calls call).msgid
      nodeid := selfNodeid
      data := (state.calls call).data }

/-- The server dispatches a request, logs it if it appends a message, and
answers. -/
def dispatchRequest (state : Exchange Call) (position : Nat)
    (request : Request Call) : Exchange Call :=
  { state with
    requests := state.requests.eraseIdx position
    replies := state.replies ++ [request]
    server := afterSend state.server request.sendData
    appended :=
      if (state.server request.sendData.nodeid).isSome then
        state.appended ++ [request]
      else state.appended }

def next (selfNodeid : String) (state : Exchange Call) :
    Label Call → Option (Exchange Call)
  | .tick elapsed => some { state with clock := state.clock + elapsed }
  | .call call msgid data =>
      if (state.calls call).phase = .idle then
        some { state.setCall call ⟨msgid, data, state.clock, 0, .ready⟩ with
          client := { state.client with timer := .start state.clock } }
      else none
  | .invoke call =>
      if (state.calls call).phase = .ready then
        some { state.setPhase call .invoking with
          requests := state.requests ++ [state.request selfNodeid call] }
      else none
  | .loseRequest position =>
      some { state with requests := state.requests.eraseIdx position }
  | .dispatch position =>
      match state.requests[position]? with
      | some request => some (state.dispatchRequest position request)
      | none => none
  | .loseReply position =>
      some { state with replies := state.replies.eraseIdx position }
  | .reply call position =>
      match state.replies[position]? with
      | some reply =>
          if reply.call = call ∧
              reply.attempt = (state.calls call).attempt ∧
              (state.calls call).phase = .invoking then
            some { state.setPhase call
                (.returned (state.calls call).data.length) with
              replies := state.replies.eraseIdx position }
          else none
      | none => none
  | .throwException call =>
      if (state.calls call).phase = .invoking then
        some (state.setPhase call .caught)
      else none
  | .handleException call =>
      if (state.calls call).phase = .caught then
        if state.client.sendTimeout ≤
            state.client.timer.msElapse state.clock then
          some (state.setPhase call .sendDataTimeout)
        else
          some (state.setCall call
            { state.calls call with
              attempt := (state.calls call).attempt + 1
              phase := .ready })
      else none
  | .recv msgid =>
      match state.server selfNodeid with
      | some connection =>
          match connection.recvPass msgid with
          | some (received, remaining) =>
              some { state with
                server :=
                  Function.update state.server selfNodeid (some remaining)
                taken := state.taken ++ [(msgid, received.stored)] }
          | none => none
      | none => none

/-- What a step needs and what it does.  The handler of an exception raises
the timeout or starts another attempt. -/
inductive Step (selfNodeid : String) (state : Exchange Call) :
    Label Call → Exchange Call → Prop
  | tick (elapsed : Nat) :
      Step selfNodeid state (.tick elapsed)
        { state with clock := state.clock + elapsed }
  | call (call : Call) (msgid : String) (data : Bytes)
      (isIdle : (state.calls call).phase = .idle) :
      Step selfNodeid state (.call call msgid data)
        { state.setCall call ⟨msgid, data, state.clock, 0, .ready⟩ with
          client := { state.client with timer := .start state.clock } }
  | invoke (call : Call) (isReady : (state.calls call).phase = .ready) :
      Step selfNodeid state (.invoke call)
        { state.setPhase call .invoking with
          requests := state.requests ++ [state.request selfNodeid call] }
  | loseRequest (position : Nat) :
      Step selfNodeid state (.loseRequest position)
        { state with requests := state.requests.eraseIdx position }
  | dispatch (position : Nat) {request : Request Call}
      (underWay : state.requests[position]? = some request) :
      Step selfNodeid state (.dispatch position)
        (state.dispatchRequest position request)
  | loseReply (position : Nat) :
      Step selfNodeid state (.loseReply position)
        { state with replies := state.replies.eraseIdx position }
  | reply (call : Call) (position : Nat) {reply : Request Call}
      (underWay : state.replies[position]? = some reply)
      (sameCall : reply.call = call)
      (sameAttempt : reply.attempt = (state.calls call).attempt)
      (isInvoking : (state.calls call).phase = .invoking) :
      Step selfNodeid state (.reply call position)
        { state.setPhase call
            (.returned (state.calls call).data.length) with
          replies := state.replies.eraseIdx position }
  | throwException (call : Call)
      (isInvoking : (state.calls call).phase = .invoking) :
      Step selfNodeid state (.throwException call)
        (state.setPhase call .caught)
  | raise (call : Call) (isCaught : (state.calls call).phase = .caught)
      (late :
        state.client.sendTimeout ≤
          state.client.timer.msElapse state.clock) :
      Step selfNodeid state (.handleException call)
        (state.setPhase call .sendDataTimeout)
  | retry (call : Call) (isCaught : (state.calls call).phase = .caught)
      (inTime :
        ¬ state.client.sendTimeout ≤
          state.client.timer.msElapse state.clock) :
      Step selfNodeid state (.handleException call)
        (state.setCall call
          { state.calls call with
            attempt := (state.calls call).attempt + 1
            phase := .ready })
  | recv (msgid : String) {connection remaining : ClientConnection}
      {received : Received}
      (found : state.server selfNodeid = some connection)
      (passed :
        connection.recvPass msgid = some (received, remaining)) :
      Step selfNodeid state (.recv msgid)
        { state with
          server := Function.update state.server selfNodeid (some remaining)
          taken := state.taken ++ [(msgid, received.stored)] }

theorem step_of_next
    {selfNodeid : String} {state target : Exchange Call} {label : Label Call}
    (stepped : state.next selfNodeid label = some target) :
    Step selfNodeid state label target := by
  cases label with
  | tick elapsed =>
      cases stepped
      exact .tick elapsed
  | call call msgid data =>
      simp only [next] at stepped
      split at stepped <;> cases stepped
      next isIdle => exact .call call msgid data isIdle
  | invoke call =>
      simp only [next] at stepped
      split at stepped <;> cases stepped
      next isReady => exact .invoke call isReady
  | loseRequest position =>
      cases stepped
      exact .loseRequest position
  | dispatch position =>
      simp only [next] at stepped
      split at stepped <;> cases stepped
      next underWay => exact .dispatch position underWay
  | loseReply position =>
      cases stepped
      exact .loseReply position
  | reply call position =>
      simp only [next] at stepped
      split at stepped
      · next underWay =>
          split at stepped <;> cases stepped
          next matching =>
            rcases matching with ⟨sameCall, sameAttempt, isInvoking⟩
            exact .reply call position underWay sameCall sameAttempt isInvoking
      · cases stepped
  | throwException call =>
      simp only [next] at stepped
      split at stepped <;> cases stepped
      next isInvoking => exact .throwException call isInvoking
  | handleException call =>
      simp only [next] at stepped
      split at stepped
      · next isCaught =>
          split at stepped <;> cases stepped
          · next late => exact .raise call isCaught late
          · next inTime => exact .retry call isCaught inTime
      · cases stepped
  | recv msgid =>
      simp only [next] at stepped
      split at stepped
      · next found =>
          split at stepped <;> cases stepped
          next passed => exact .recv msgid found passed
      · cases stepped

/-- How many copies of its message a call has appended. -/
def copies (state : Exchange Call) (call : Call) : Nat :=
  (state.appended.filter fun request => request.call = call).length

/-- An attempt of a call whose invocation threw. -/
def Failed (state : Exchange Call) (call : Call) (attempt : Nat) : Prop :=
  attempt < (state.calls call).attempt ∨
    attempt = (state.calls call).attempt ∧
      ((state.calls call).phase = .caught ∨
        (state.calls call).phase = .sendDataTimeout)

/-- The messages appended for a message id, in dispatch order. -/
def appendedFor (state : Exchange Call) (msgid : String) : List Bytes :=
  (state.appended.filter fun request =>
    request.sendData.msgid = msgid).map fun request => request.sendData.data

/-- The messages taken from the queue of a message id. -/
def takenFor (state : Exchange Call) (msgid : String) : List Bytes :=
  (state.taken.filter fun entry => entry.1 = msgid).map Prod.snd

end Exchange

/-- A client object of `selfNodeid` and a server that has it registered. -/
def machine {Call : Type u} [DecidableEq Call] (selfNodeid : String) :
    TransitionMachine (Exchange Call) (Label Call) where
  initial := fun state =>
    (∀ call, (state.calls call).phase = .idle) ∧
      state.requests = [] ∧ state.replies = [] ∧
      state.server selfNodeid = some (ClientConnection.create selfNodeid) ∧
      state.appended = [] ∧ state.taken = []
  next := Exchange.next selfNodeid

end SyncClient

end ChannelSdk
