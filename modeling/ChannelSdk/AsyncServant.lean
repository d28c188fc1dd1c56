import ChannelSdk.IoChannelServant
import ChannelSdk.WorkQueueCompletions

/-!
# The servants of static calls

`IoChannelI::send_async` of `core/src/IoChannelI.cc`.  With the synchronous
server it writes the message to the connection of the sender and answers the
call.  With the asynchronous server it passes the call to the work queue of
the sender, which answers it; `core/src/async_server.cc` makes a work queue
for every registered client and starts its thread.

The asynchronous server is a machine that dispatches a given list of requests
one at a time, while the threads of the work queues run in any order.  It is
not destroyed and nobody receives from its connections.
-/

namespace ChannelSdk

open CheckedMemory

universe u

/-- A static call of `send`, with the callback that answers it. -/
structure SendRequest (Callback : Type u) where
  cb : Callback
  nodeid : String
  msgid : String
  data : Bytes
  deriving DecidableEq

namespace SendRequest

variable {Callback : Type u}

/-- The parameters of the dynamic call. -/
def dataStruct (request : SendRequest Callback) : DataStruct :=
  ⟨request.msgid, request.nodeid, request.data⟩

/-- The entry that the work queue stores. -/
def entry (request : SendRequest Callback) : CallbackEntry Callback :=
  ⟨request.cb, request.msgid, request.data⟩

/-- The answer with `RET_SUCCEED_CODE`. -/
def success (request : SendRequest Callback) : Completion Callback :=
  .iceResponse request.cb 0

end SendRequest

section SynchronousServants

variable {Callback : Type u}

/-- `IoChannelI::send_async` of the synchronous server. -/
def sendAsync (clientConnMap : MapClientConn)
    (request : SendRequest Callback) :
    MapClientConn × Completion Callback :=
  let written :=
    match clientConnMap request.nodeid with
    | some connection =>
        Function.update clientConnMap request.nodeid
          (some (connection.write request.msgid request.data).2)
    | none => clientConnMap
  (written, .iceResponse request.cb 0)

/-- The static calls of a list, dispatched one after the other. -/
def dispatchStatic (clientConnMap : MapClientConn) :
    List (SendRequest Callback) →
      MapClientConn × List (Completion Callback)
  | [] => (clientConnMap, [])
  | request :: rest =>
      let sent := sendAsync clientConnMap request
      let later := dispatchStatic sent.1 rest
      (later.1, sent.2 :: later.2)

/-- The same calls as dynamic ones. -/
def dispatchDynamic (clientConnMap : MapClientConn) :
    List (SendRequest Callback) →
      MapClientConn × List (Except DispatchError Bool)
  | [] => (clientConnMap, [])
  | request :: rest =>
      match iceInvoke clientConnMap "send" (some request.dataStruct) with
      | .ok (answer, updated) =>
          let later := dispatchDynamic updated rest
          (later.1, .ok answer :: later.2)
      | .error raised =>
          let later := dispatchDynamic clientConnMap rest
          (later.1, .error raised :: later.2)

end SynchronousServants

/-- How far the servant is with its current request: inside `add` before and
after the body. -/
inductive Dispatch (Callback : Type u) where
  | idle
  | adding (request : SendRequest Callback)
  | leaving (request : SendRequest Callback)

/-- The work queues of the asynchronous server with their threads, the
requests and the completions of all callbacks. -/
structure AsyncServer (Callback : Type u) where
  workQueues : String → Option (WorkQueue.Run Callback)
  remaining : List (SendRequest Callback)
  current : Dispatch Callback
  dispatched : List (SendRequest Callback)
  completions : List (Completion Callback)

namespace AsyncServer

variable {Callback : Type u}

/-- The steps of the thread of a work queue. -/
inductive RunStep where
  | lock
  | test
  | secondHalf
  | spuriousWakeup
  | relock
  deriving DecidableEq

def RunStep.label : RunStep → WorkQueue.Label Callback
  | .lock => .runLock
  | .test => .runTest
  | .secondHalf => .runSecondHalf
  | .spuriousWakeup => .spuriousWakeup
  | .relock => .runRelock

inductive Label where
  | sendAsync
  | addBody
  | unlock
  | runThread (nodeid : String) (step : RunStep)
  deriving DecidableEq

/-- A step of one work queue.  The log takes over the new completions. -/
def stepQueue (state : AsyncServer Callback) (nodeid : String)
    (label : WorkQueue.Label Callback) : Option (AsyncServer Callback) :=
  match state.workQueues nodeid with
  | some source =>
      match source.next label with
      | some target =>
          some { state with
            workQueues :=
              Function.update state.workQueues nodeid (some target)
            completions :=
              state.completions ++
                target.completions.drop source.completions.length }
      | none => none
  | none => none

/-- `send_async` looks the work queue of the sender up and calls `add`.  When
there is none it returns without completing the callback. -/
def next (state : AsyncServer Callback) : Label → Option (AsyncServer Callback)
  | .sendAsync =>
      match state.current, state.remaining with
      | .idle, request :: rest =>
          match state.workQueues request.nodeid with
          | some _ =>
              { state with
                remaining := rest
                current := .adding request }.stepQueue request.nodeid
                  (.addLock request.entry)
          | none =>
              some { state with
                remaining := rest
                dispatched := state.dispatched ++ [request] }
      | _, _ => none
  | .addBody =>
      match state.current with
      | .adding request =>
          { state with current := .leaving request }.stepQueue request.nodeid
            .addBody
      | _ => none
  | .unlock =>
      match state.current with
      | .leaving request =>
          { state with
            current := .idle
            dispatched := state.dispatched ++ [request] }.stepQueue
              request.nodeid .unlock
      | _ => none
  | .runThread nodeid step => state.stepQueue nodeid step.label

/-- The server after its construction. -/
def start (clientConnMap : MapClientConn)
    (requests : List (SendRequest Callback)) : AsyncServer Callback where
  workQueues := fun nodeid =>
    (clientConnMap nodeid).map (WorkQueue.start nodeid)
  remaining := requests
  current := .idle
  dispatched := []
  completions := []

def machine (clientConnMap : MapClientConn)
    (requests : List (SendRequest Callback)) :
    TransitionMachine (AsyncServer Callback) Label where
  initial := fun state => state = start clientConnMap requests
  next := next

/-- All requests have been dispatched and all work queues are empty. -/
structure Drained (state : AsyncServer Callback) : Prop where
  allDispatched : state.remaining = []
  isIdle : state.current = .idle
  allWritten :
    ∀ nodeid run, state.workQueues nodeid = some run →
      run.workQueue.callbacks = []

/-- The connections that the work queues write to. -/
def connections (state : AsyncServer Callback) : MapClientConn :=
  fun nodeid =>
    (state.workQueues nodeid).map fun run => run.workQueue.ptrClientConn

end AsyncServer

end ChannelSdk
