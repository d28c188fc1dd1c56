import ChannelSdk.InitPing
import ChannelSdk.Event
import ChannelSdk.Lib.KeyedLog

/-!
# Sessions of a deployment

The nodes of a placement run `ViaNetIO::init` of `core/src/net_io.cc`, in
either way, and use their channels as soon as their own `init` has returned:
any number of threads of each node call `ViaNetIO::send` and `ViaNetIO::recv`
while other nodes may still be initialising.

The network is that of the initialisation: a request to a started server is
dispatched once and answered, an attempt to reach any other node throws, and
`SyncClient::send` then either repeats it or raises its timeout.  A receive
passes its loop under the mutex of the connection, waits when it finds no
message, and ends its wait by a notification, a spurious wake-up or a timeout.

Three logs record, in the order of the steps, the calls of `send` that found
their client object, the requests that a server dispatched, and the messages
that a receive has taken.
-/

namespace ChannelSdk.NodeSession

open CheckedMemory
open InitBarrier (State Placement initMachine)

universe u

/-- What a queue is selected by: the sending and the receiving node, and the
message id. -/
structure Channel where
  sender : String
  receiver : String
  msgid : String
  deriving DecidableEq, Repr

/-- The messages of a channel in the connections of the nodes. -/
def Channel.queueIn (channel : Channel) (clientConnMap : String → MapClientConn) :
    List Bytes :=
  (clientConnMap channel.receiver).queued channel.sender channel.msgid

/-- A message of a thread. -/
structure Entry (Thread : Type u) where
  thread : Thread
  channel : Channel
  data : Bytes

/-- Where a thread is in its current or last call. -/
inductive Place where
  | idle
  | sending (remote msgid : String) (data : Bytes)
  | answered (length : Nat)
  | sent (length : Nat)
  | receiving (remote msgid : String) (waiting : Bool)
  | received (received : Received)
  | failed (event : Event)
  deriving DecidableEq

/-- The thread is in no call. -/
def Place.Free : Place → Prop
  | .idle | .sent _ | .received _ | .failed _ => True
  | .sending _ _ _ | .answered _ | .receiving _ _ _ => False

/-- The message that a sending thread of a node still has to deliver. -/
def Place.pending (place : Place) (home : String) (channel : Channel) :
    List Bytes :=
  match place with
  | .sending remote msgid data =>
      if channel = ⟨home, remote, msgid⟩ then [data] else []
  | _ => []

instance (place : Place) : Decidable place.Free :=
  match place with
  | .idle | .sent _ | .received _ | .failed _ => .isTrue trivial
  | .sending _ _ _ | .answered _ | .receiving _ _ _ => .isFalse id

structure Session (Thread : Type u) where
  network : State
  threads : Thread → Place
  called : List (Entry Thread)
  dispatched : List (Entry Thread)
  taken : List (Entry Thread)

inductive Label (Thread : Type u) where
  | init (label : InitBarrier.Label)
  | send (thread : Thread) (remote msgid : String) (data : Bytes)
  | attempt (thread : Thread)
  | giveUp (thread : Thread)
  | reply (thread : Thread)
  | recv (thread : Thread) (remote msgid : String)
  | recvPass (thread : Thread)
  | wake (thread : Thread)
  | timeout (thread : Thread)

section Machine

variable {Thread : Type u} [DecidableEq Thread]

namespace Session

def setPlace (session : Session Thread) (thread : Thread) (place : Place) :
    Session Thread :=
  { session with threads := Function.update session.threads thread place }

/-- A call of `ViaNetIO::send`. -/
def callSend (session : Session Thread) (thread : Thread)
    (home remote msgid : String) (data : Bytes) : Session Thread :=
  if remote ∈ session.network.clientObjects home then
    { session.setPlace thread (.sending remote msgid data) with
      called := session.called ++ [⟨thread, ⟨home, remote, msgid⟩, data⟩] }
  else
    session.setPlace thread (.failed (.noFindNid remote))

/-- A started server dispatches a request and answers it. -/
def dispatch (session : Session Thread) (thread : Thread)
    (home remote msgid : String) (data : Bytes) : Session Thread :=
  { session.setPlace thread (.answered data.length) with
    network :=
      { session.network with
        clientConnMap :=
          Function.update session.network.clientConnMap remote
            (afterSend (session.network.clientConnMap remote)
              ⟨msgid, home, data⟩) }
    dispatched :=
      session.dispatched ++ [⟨thread, ⟨home, remote, msgid⟩, data⟩] }

/-- A call of `ViaNetIO::recv`. -/
def callRecv (session : Session Thread) (thread : Thread)
    (home remote msgid : String) : Session Thread :=
  if (session.network.clientConnMap home remote).isSome then
    session.setPlace thread (.receiving remote msgid false)
  else
    session.setPlace thread (.failed (.noFindNid remote))

/-- A pass of the loop of a receive. -/
def pass (session : Session Thread) (thread : Thread)
    (home remote msgid : String) (connection : ClientConnection) :
    Session Thread :=
  match connection.recvPass msgid with
  | some (received, remaining) =>
      { session.setPlace thread (.received received) with
        network :=
          { session.network with
            clientConnMap :=
              Function.update session.network.clientConnMap home
                (Function.update (session.network.clientConnMap home) remote
                  (some remaining)) }
        taken :=
          session.taken ++
            [⟨thread, ⟨remote, home, msgid⟩, received.stored⟩] }
  | none => session.setPlace thread (.receiving remote msgid true)

/-- The messages queued at the receiver of a channel. -/
def queued (session : Session Thread) (channel : Channel) : List Bytes :=
  channel.queueIn session.network.clientConnMap

/-- The messages of a channel in a log. -/
def dataOn (log : List (Entry Thread)) (channel : Channel) : List Bytes :=
  KeyedLog.valuesAt Entry.channel Entry.data log channel

/-- The messages of one thread on a channel in a log. -/
def dataBy (log : List (Entry Thread)) (thread : Thread)
    (channel : Channel) : List Bytes :=
  KeyedLog.valuesAt (fun entry => (entry.thread, entry.channel)) Entry.data
    log (thread, channel)

/-- The message that a thread has called `send` with and that no server has
dispatched yet. -/
def pending (session : Session Thread) (home : Thread → String)
    (thread : Thread) (channel : Channel) : List Bytes :=
  (session.threads thread).pending (home thread) channel

end Session

/-- A placement in use.  `home` is the node of a thread, `sendTimeout` the
timeout of a node's client objects in milliseconds. -/
def machine (placement : Placement) (home : Thread → String)
    (sendTimeout : String → Nat) :
    TransitionMachine (Session Thread) (Label Thread) where
  initial := fun session =>
    (initMachine placement.connSync placement.nodes
        placement.topology).initial session.network ∧
      (∀ thread, session.threads thread = .idle) ∧
      session.called = [] ∧ session.dispatched = [] ∧ session.taken = []
  next := fun session label =>
    match label with
    | .init label =>
        match (initMachine placement.connSync placement.nodes
            placement.topology).next session.network label with
        | some network => some { session with network := network }
        | none => none
    | .send thread remote msgid data =>
        if (session.threads thread).Free ∧
            session.network.phase (home thread) = .returned then
          some (session.callSend thread (home thread) remote msgid data)
        else none
    | .attempt thread =>
        match session.threads thread with
        | .sending remote msgid data =>
            if session.network.serverStarted remote then
              some (session.dispatch thread (home thread) remote msgid data)
            else some session
        | _ => none
    | .giveUp thread =>
        match session.threads thread with
        | .sending remote _ _ =>
            if session.network.serverStarted remote then none
            else
              some (session.setPlace thread
                (.failed (.sendDataTimeout (home thread) remote
                  (sendTimeout (home thread)))))
        | _ => none
    | .reply thread =>
        match session.threads thread with
        | .answered length => some (session.setPlace thread (.sent length))
        | _ => none
    | .recv thread remote msgid =>
        if (session.threads thread).Free ∧
            session.network.phase (home thread) = .returned then
          some (session.callRecv thread (home thread) remote msgid)
        else none
    | .recvPass thread =>
        match session.threads thread with
        | .receiving remote msgid false =>
            match session.network.clientConnMap (home thread) remote with
            | some connection =>
                some (session.pass thread (home thread) remote msgid
                  connection)
            | none => none
        | _ => none
    | .wake thread =>
        match session.threads thread with
        | .receiving remote msgid true =>
            some (session.setPlace thread (.receiving remote msgid false))
        | _ => none
    | .timeout thread =>
        match session.threads thread with
        | .receiving _ _ true =>
            some (session.setPlace thread (.received ⟨0, []⟩))
        | _ => none

/-- What a step needs and what it does. -/
inductive Step (placement : Placement) (home : Thread → String)
    (sendTimeout : String → Nat) (session : Session Thread) :
    Label Thread → Session Thread → Prop
  | init {label : InitBarrier.Label} {network : State}
      (moved :
        (initMachine placement.connSync placement.nodes
          placement.topology).next session.network label = some network) :
      Step placement home sendTimeout session (.init label)
        { session with network := network }
  | send (thread : Thread) (remote msgid : String) (data : Bytes)
      (free : (session.threads thread).Free)
      (ready : session.network.phase (home thread) = .returned) :
      Step placement home sendTimeout session
        (.send thread remote msgid data)
        (session.callSend thread (home thread) remote msgid data)
  | dispatch (thread : Thread) {remote msgid : String} {data : Bytes}
      (isSending : session.threads thread = .sending remote msgid data)
      (isStarted : session.network.serverStarted remote = true) :
      Step placement home sendTimeout session (.attempt thread)
        (session.dispatch thread (home thread) remote msgid data)
  | repeated (thread : Thread) :
      Step placement home sendTimeout session (.attempt thread) session
  | giveUp (thread : Thread) {remote msgid : String} {data : Bytes}
      (isSending : session.threads thread = .sending remote msgid data)
      (notStarted : session.network.serverStarted remote ≠ true) :
      Step placement home sendTimeout session (.giveUp thread)
        (session.setPlace thread
          (.failed (.sendDataTimeout (home thread) remote
            (sendTimeout (home thread)))))
  | reply (thread : Thread) {length : Nat}
      (isAnswered : session.threads thread = .answered length) :
      Step placement home sendTimeout session (.reply thread)
        (session.setPlace thread (.sent length))
  | recv (thread : Thread) (remote msgid : String)
      (free : (session.threads thread).Free)
      (ready : session.network.phase (home thread) = .returned) :
      Step placement home sendTimeout session (.recv thread remote msgid)
        (session.callRecv thread (home thread) remote msgid)
  | recvPass (thread : Thread) {remote msgid : String}
      {connection : ClientConnection}
      (isReceiving :
        session.threads thread = .receiving remote msgid false)
      (found :
        session.network.clientConnMap (home thread) remote =
          some connection) :
      Step placement home sendTimeout session (.recvPass thread)
        (session.pass thread (home thread) remote msgid connection)
  | wake (thread : Thread) {remote msgid : String}
      (isWaiting : session.threads thread = .receiving remote msgid true) :
      Step placement home sendTimeout session (.wake thread)
        (session.setPlace thread (.receiving remote msgid false))
  | timeout (thread : Thread) {remote msgid : String}
      (isWaiting : session.threads thread = .receiving remote msgid true) :
      Step placement home sendTimeout session (.timeout thread)
        (session.setPlace thread (.received ⟨0, []⟩))

theorem step_of_next
    {placement : Placement} {home : Thread → String}
    {sendTimeout : String → Nat} {session target : Session Thread}
    {label : Label Thread}
    (stepped :
      (machine placement home sendTimeout).next session label =
        some target) :
    Step placement home sendTimeout session label target := by
  cases label with
  | init label =>
      simp only [machine] at stepped
      split at stepped <;> cases stepped
      next moved => exact .init moved
  | send thread remote msgid data =>
      simp only [machine] at stepped
      split at stepped <;> cases stepped
      next calls => exact .send thread remote msgid data calls.1 calls.2
  | attempt thread =>
      simp only [machine] at stepped
      split at stepped
      · next isSending =>
          split at stepped <;> cases stepped
          · next isStarted => exact .dispatch thread isSending isStarted
          · exact .repeated thread
      · cases stepped
  | giveUp thread =>
      simp only [machine] at stepped
      split at stepped
      · next isSending =>
          split at stepped <;> cases stepped
          next notStarted => exact .giveUp thread isSending notStarted
      · cases stepped
  | reply thread =>
      simp only [machine] at stepped
      split at stepped <;> cases stepped
      next isAnswered => exact .reply thread isAnswered
  | recv thread remote msgid =>
      simp only [machine] at stepped
      split at stepped <;> cases stepped
      next calls => exact .recv thread remote msgid calls.1 calls.2
  | recvPass thread =>
      simp only [machine] at stepped
      split at stepped
      · next isReceiving =>
          split at stepped <;> cases stepped
          next found => exact .recvPass thread isReceiving found
      · cases stepped
  | wake thread =>
      simp only [machine] at stepped
      split at stepped <;> cases stepped
      next isWaiting => exact .wake thread isWaiting
  | timeout thread =>
      simp only [machine] at stepped
      split at stepped <;> cases stepped
      next isWaiting => exact .timeout thread isWaiting

end Machine

end ChannelSdk.NodeSession
