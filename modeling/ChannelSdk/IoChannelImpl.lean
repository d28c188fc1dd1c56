import ChannelSdk.ReceiveBounds
import ChannelSdk.ViaNetIo

/-!
# Strings that are received through `IoChannelImpl`

`IoChannelImpl::Recv` and `Send` of `core/src/io_channel_impl.cc`, which are
what the Python interface calls, over `TcpChannel` and `ViaNetIO`.  `Recv`
makes a string of the requested length, hands its bytes down to the connection
to be written, and returns it whole: the number of received bytes, which every
layer returns, is dropped on the last one.

So a payload comes back with zeros behind it up to the requested length, and a
call that times out returns zeros only, as does a payload of zeros.
-/

namespace ChannelSdk

open CheckedMemory CircularWindow

/-- `TcpChannel`. -/
structure TcpChannel where
  netIo : Option ViaNetIo
  channelConfig : ChannelConfig
  selfNodeInfo : NodeInfo
  connectedNodes : List String

namespace TcpChannel

/-- `TcpChannel::Recv` into a block that is not null. -/
def recv (self : TcpChannel) (remoteNodeId msgId : String)
    (wakeups : List (Wakeup ClientConnection)) :
    Except Event (Option (Received × TcpChannel)) :=
  match self.netIo with
  | none => .ok (some (⟨0, []⟩, self))
  | some netIo =>
      (netIo.recv remoteNodeId msgId wakeups).map fun taken =>
        taken.map fun (received, next) =>
          (received, { self with netIo := some next })

/-- `TcpChannel::Send` to a node, with the connections that it is left
with. -/
def send (self : TcpChannel) (receiver : ViaNetIo)
    (remoteNodeId msgId : String) (data : Bytes) :
    Except Event (Nat × MapClientConn) :=
  match self.netIo with
  | none => .ok (0, receiver.clientConnMap)
  | some netIo => netIo.send receiver remoteNodeId msgId data

end TcpChannel

/-- What ends a `Recv` without a string. -/
inductive RecvFailure where
  | event (event : Event)
  | fault (fault : Fault)
  deriving DecidableEq, Repr

structure IoChannelImpl where
  ioChannel : Option TcpChannel

namespace IoChannelImpl

/-- `IoChannelImpl::Recv`, by a call that meets the given wake-ups; `none`
while it is still waiting. -/
def recv (self : IoChannelImpl) (remoteNodeId : String) (recvLen : Nat)
    (wakeups : List (Wakeup ClientConnection)) :
    Except RecvFailure (Option (Bytes × IoChannelImpl)) := do
  let str := List.replicate recvLen 0
  match self.ioChannel with
  | none => return some ([], self)
  | some channel =>
      let taken ←
        (channel.recv (cString remoteNodeId) "" wakeups).mapError .event
      match taken with
      | none => return none
      | some (received, next) =>
          let str ←
            (memcpy str 0 received.stored 0
              received.stored.length).mapError .fault
          return some (str, ⟨some next⟩)

/-- `IoChannelImpl::Send`. -/
def send (self : IoChannelImpl) (receiver : ViaNetIo)
    (remoteNodeId : String) (data : Bytes) :
    Except Event (Nat × MapClientConn) :=
  match self.ioChannel with
  | none => .ok (0, receiver.clientConnMap)
  | some channel => channel.send receiver (cString remoteNodeId) "" data

/-- The network IO behind the channel. -/
def netIo (self : IoChannelImpl) : Option ViaNetIo :=
  self.ioChannel.bind TcpChannel.netIo

/-- The connection of a remote node. -/
def connection (self : IoChannelImpl) (remoteNodeId : String) :
    Option ClientConnection :=
  self.netIo.bind fun netIo => netIo.clientConnMap (cString remoteNodeId)

/-- A connected `Recv` is a receive of the connection, copied to the front of
a string of zeros. -/
theorem recv_of_connection
    {self : IoChannelImpl} {remoteNodeId : String}
    {first remaining : ClientConnection}
    (connected : self.connection remoteNodeId = some first)
    {wakeups : List (Wakeup ClientConnection)} {received : Received}
    (took : first.recv "" wakeups = some (received, remaining))
    {recvLen : Nat} (fits : received.stored.length ≤ recvLen) :
    ∃ next,
      self.recv remoteNodeId recvLen wakeups =
        .ok (some
          (received.stored ++
            List.replicate (recvLen - received.stored.length) 0, next)) := by
  rcases self with ⟨_ | channel⟩
  · cases connected
  · rcases channel with ⟨_ | netIo, channelConfig, selfNodeInfo, connected⟩
    · cases connected
    · simp only [connection, IoChannelImpl.netIo, Option.bind_some]
        at connected
      have copied :
          memcpy (List.replicate recvLen 0) 0 received.stored 0
              received.stored.length =
            .ok (received.stored ++
              List.replicate (recvLen - received.stored.length) 0) := by
        rw [memcpy_ok (by omega) (by omega) (by omega)
          (by rw [List.length_replicate]; omega) (by omega)]
        simp [overwrite]
      simp only [recv, TcpChannel.recv, ViaNetIo.recv, connected, took,
        Option.map_some, Except.map, Except.mapError, ok_bind, copied]
      exact ⟨_, rfl⟩

end IoChannelImpl

/-- The wait of the call times out, after any number of notifications. -/
def Wakeup.timesOut {Connection : Type} :
    List (Wakeup Connection) → Bool
  | [] => false
  | .timeout _ :: _ => true
  | .notified _ :: later => timesOut later

namespace ClientConnection

/-- A message for the id is queued. -/
def hasMessage (msgid : String) (connection : ClientConnection) : Bool :=
  !(connection.queue msgid).isEmpty

theorem not_hasMessage_iff
    {msgid : String} {connection : ClientConnection} :
    ¬ connection.hasMessage msgid = true ↔ connection.queue msgid = [] := by
  simp [hasMessage]

theorem recv_of_hasMessage
    {self : ClientConnection} {msgid : String}
    (message : self.hasMessage msgid = true)
    (wakeups : List (Wakeup ClientConnection)) :
    self.recv msgid wakeups = self.recvPass msgid := by
  rcases passed : self.recvPass msgid with _ | result
  · have nothing := (recvPass_eq_none_iff self msgid).mp passed
    exact absurd message (not_hasMessage_iff.mpr nothing)
  · rcases wakeups with _ | ⟨_ | _, _⟩ <;> simp [recv, passed]

/-- A call takes its message from the first connection that it finds one
in. -/
theorem recv_of_find?
    {first arrived : ClientConnection} {msgid : String}
    {wakeups : List (Wakeup ClientConnection)}
    (met :
      (Wakeup.seen first wakeups).find? (hasMessage msgid) =
        some arrived) :
    first.recv msgid wakeups = arrived.recvPass msgid := by
  induction wakeups generalizing first with
  | nil =>
      have message := List.find?_some met
      have isFirst := List.mem_singleton.mp (List.mem_of_find?_eq_some met)
      rw [isFirst] at message ⊢
      exact recv_of_hasMessage message []
  | cons wakeup later inductionHypothesis =>
      by_cases message : first.hasMessage msgid = true
      · have isFirst : first = arrived := by
          cases wakeup <;>
            simpa [Wakeup.seen, List.find?_cons, message] using met
        rw [recv_of_hasMessage message, isFirst]
      · have passed : first.recvPass msgid = none :=
          (recvPass_eq_none_iff first msgid).mpr
            (not_hasMessage_iff.mp message)
        cases wakeup with
        | timeout connection =>
            simp [Wakeup.seen, message] at met
        | notified connection =>
            rw [recv, passed]
            apply inductionHypothesis
            simpa [Wakeup.seen, List.find?_cons, message] using met

/-- A call that finds no message until its wait times out reports nothing. -/
theorem recv_of_timesOut
    {first : ClientConnection} {msgid : String}
    {wakeups : List (Wakeup ClientConnection)}
    (expired : Wakeup.timesOut wakeups = true)
    (nothing :
      ∀ connection ∈ Wakeup.seen first wakeups,
        connection.queue msgid = []) :
    ∃ remaining, first.recv msgid wakeups = some (⟨0, []⟩, remaining) := by
  induction wakeups generalizing first with
  | nil => cases expired
  | cons wakeup later inductionHypothesis =>
      have passed : first.recvPass msgid = none :=
        (recvPass_eq_none_iff first msgid).mpr
          (nothing first (Wakeup.first_mem_seen _ _))
      cases wakeup with
      | timeout connection =>
          exact ⟨connection, by rw [recv, passed]; rfl⟩
      | notified connection =>
          rcases inductionHypothesis expired (fun found member =>
              nothing found (List.mem_cons_of_mem _ member)) with
            ⟨remaining, received⟩
          exact ⟨remaining, by rw [recv, passed]; exact received⟩

end ClientConnection

namespace IoChannelImpl

/-- The peer `sender` has sent the payload with `Send` to a receiver that had
no payload of it left, and the `Recv` finds its first message in the
connection that this left behind. -/
def TakesSent (sender : IoChannelImpl) (payload : Bytes)
    (receiving : IoChannelImpl) (remoteNodeId : String)
    (wakeups : List (Wakeup ClientConnection)) : Prop :=
  ∃ senderIo receiver receiverId length delivered arrived first,
    sender.netIo = some senderIo ∧
    senderIo.nodeInfo.id = cString remoteNodeId ∧
    receiver.clientConnMap.queued (cString remoteNodeId) "" = [] ∧
    sender.send receiver receiverId payload = .ok (length, delivered) ∧
    delivered (cString remoteNodeId) = some arrived ∧
    receiving.connection remoteNodeId = some first ∧
    (Wakeup.seen first wakeups).find?
      (ClientConnection.hasMessage "") = some arrived

/-- The string is returned by a `Recv` of that length which found no message
until its wait timed out. -/
def TimedOutString (recvLen : Nat) (str : Bytes) : Prop :=
  ∃ (self : IoChannelImpl) (remoteNodeId : String)
      (first : ClientConnection)
      (wakeups : List (Wakeup ClientConnection)) (next : IoChannelImpl),
    self.connection remoteNodeId = some first ∧
    Wakeup.timesOut wakeups = true ∧
    (∀ connection ∈ Wakeup.seen first wakeups,
      connection.queue "" = []) ∧
    self.recv remoteNodeId recvLen wakeups = .ok (some (str, next))

/-- A sent payload is the only message of the connection it arrives in. -/
theorem queue_of_send
    {sender : IoChannelImpl} {senderIo receiver : ViaNetIo}
    {receiverId nodeid : String} {payload : Bytes} {length : Nat}
    {delivered : MapClientConn} {arrived : ClientConnection}
    (online : sender.netIo = some senderIo)
    (signs : senderIo.nodeInfo.id = nodeid)
    (drained : receiver.clientConnMap.queued nodeid "" = [])
    (sent : sender.send receiver receiverId payload = .ok (length, delivered))
    (known : delivered nodeid = some arrived) :
    arrived.queue "" = [payload] := by
  rcases sender with ⟨_ | channel⟩
  · cases online
  · rcases channel with ⟨_ | io, _, _, _⟩
    · cases online
    · cases online
      simp only [send, TcpChannel.send, ViaNetIo.send] at sent
      split at sent
      · cases sent
      · split at sent
        · cases sent
          have registered :
              (receiver.clientConnMap nodeid).isSome := by
            rw [← isSome_afterSend, known]
            rfl
          rw [← MapClientConn.queued_of_known known, queued_afterSend,
            if_pos ⟨registered, signs, rfl⟩, drained]
          rfl
        · cases sent

/-- The payload comes back with zeros behind it. -/
theorem recv_of_takesSent
    {sender self : IoChannelImpl} {payload : Bytes} {remoteNodeId : String}
    {wakeups : List (Wakeup ClientConnection)}
    (takes : TakesSent sender payload self remoteNodeId wakeups)
    {recvLen : Nat} (fits : payload.length ≤ recvLen) :
    ∃ next,
      self.recv remoteNodeId recvLen wakeups =
        .ok (some
          (payload ++ List.replicate (recvLen - payload.length) 0, next)) := by
  rcases takes with
    ⟨senderIo, receiver, receiverId, length, delivered, arrived, first,
      online, signs, drained, sent, known, connected, met⟩
  have queued := queue_of_send online signs drained sent known
  rcases ClientConnection.recvPass_of_queue queued with ⟨remaining, passed⟩
  have took := (ClientConnection.recv_of_find? met).trans passed
  exact recv_of_connection connected took fits

/-- The network IO of a node in a task of two. -/
def pairedIo (nodeId remoteId : String) : ViaNetIo where
  nodeInfo :=
    { id := nodeId, address := "127.0.0.1:10001", publicIp := ""
      viaAddress := "", glacier2Info := {}, iceGridInfo := {}
      caCertPath := "", certDir := "", serverKeyPath := ""
      serverCertPath := "", clientKeyPath := "", clientCertPath := ""
      password := "" }
  sendTimeout := 5000
  clientObjMap := Function.update (fun _ => none) remoteId
    (some ⟨servantId "" remoteId, .direct "tcp" "127.0.0.1" "20001"⟩)
  clientConnMap := Function.update (fun _ => none) remoteId
    (some (.create remoteId))
  server := some ⟨servantId "" nodeId, .direct "tcp" "127.0.0.1" "10001"⟩

/-- The channel over a network IO. -/
def channelOver (io : ViaNetIo) : IoChannelImpl :=
  ⟨some ⟨some io, {}, io.nodeInfo, []⟩⟩

/-- The strings of calls that time out are the strings of zeros. -/
theorem timedOutString_iff (recvLen : Nat) (str : Bytes) :
    TimedOutString recvLen str ↔ str = List.replicate recvLen 0 := by
  constructor
  · intro timedOut
    rcases timedOut with
      ⟨self, remoteNodeId, first, wakeups, next, connected, expired,
        nothing, returned⟩
    rcases ClientConnection.recv_of_timesOut expired nothing with
      ⟨remaining, received⟩
    rcases recv_of_connection connected received (Nat.zero_le recvLen) with
      ⟨_, zeros⟩
    rw [returned] at zeros
    cases zeros
    rfl
  · intro zeros
    have connected :
        (channelOver (pairedIo "p1" "p0")).connection "p0" =
          some (.create "p0") := rfl
    have nothing :
        ∀ connection ∈ Wakeup.seen (ClientConnection.create "p0")
          [.timeout (.create "p0")], connection.queue "" = [] := by
      intro connection member
      cases List.mem_singleton.mp member
      rfl
    rcases ClientConnection.recv_of_timesOut rfl nothing with
      ⟨remaining, received⟩
    rcases recv_of_connection connected received (Nat.zero_le recvLen) with
      ⟨next, returned⟩
    refine ⟨channelOver (pairedIo "p1" "p0"), "p0", _, _, next, connected, rfl,
      nothing, ?_⟩
    rw [returned, zeros]
    rfl

/-- For a payload that the peer has sent and a `Recv` that takes it with a
length that is large enough: the returned string is the payload exactly when
the payload has that length, and it differs from what a timed-out `Recv`
returns exactly when the payload has a byte other than zero. -/
theorem recv_faithful_iff
    {sender receiving : IoChannelImpl} {payload : Bytes}
    {remoteNodeId : String} {wakeups : List (Wakeup ClientConnection)}
    (takes : TakesSent sender payload receiving remoteNodeId wakeups)
    {recvLen : Nat} (fits : payload.length ≤ recvLen) :
    ∃ str next,
      receiving.recv remoteNodeId recvLen wakeups = .ok (some (str, next)) ∧
      (str = payload ↔ payload.length = recvLen) ∧
      (¬ TimedOutString recvLen str ↔ ∃ byte ∈ payload, byte ≠ 0) := by
  rcases recv_of_takesSent takes fits with ⟨next, returned⟩
  refine ⟨_, next, returned, ?_, ?_⟩
  · rw [List.append_right_eq_self, List.replicate_eq_nil_iff]
    omega
  · have lengths :
        (payload ++ List.replicate (recvLen - payload.length) 0).length =
          recvLen := by
      rw [List.length_append, List.length_replicate]
      omega
    have zeros :
        payload ++ List.replicate (recvLen - payload.length) 0 =
            List.replicate recvLen 0 ↔
          ∀ byte ∈ payload, byte = 0 := by
      rw [List.eq_replicate_iff]
      simp only [lengths, List.mem_append, List.mem_replicate, true_and]
      constructor
      · intro all byte member
        exact all byte (.inl member)
      · intro all byte member
        rcases member with inPayload | ⟨-, isZero⟩
        · exact all byte inPayload
        · exact isZero
    rw [timedOutString_iff, zeros]
    simp only [not_forall, exists_prop]

/-- The connections of `p1` after `p0` has sent it a payload. -/
def deliveredTo (payload : Bytes) : MapClientConn :=
  afterSend (pairedIo "p1" "p0").clientConnMap ⟨"", "p0", payload⟩

/-- The node `p1` with these connections. -/
def deliveredNode (payload : Bytes) : IoChannelImpl :=
  channelOver { pairedIo "p1" "p0" with clientConnMap := deliveredTo payload }

theorem takesSent_paired (payload : Bytes) :
    TakesSent (channelOver (pairedIo "p0" "p1")) payload (deliveredNode payload)
      "p0" [] :=
  ⟨pairedIo "p0" "p1", pairedIo "p1" "p0", "p1", payload.length,
    deliveredTo payload, ((ClientConnection.create "p0").write "" payload).2,
    ((ClientConnection.create "p0").write "" payload).2, rfl, rfl, rfl, rfl,
    rfl, rfl, rfl⟩

/-- Asked for three bytes, the peer's two come back with a zero behind them;
and a payload of one zero comes back as a timeout does. -/
theorem recv_pads_payload :
    (TakesSent (channelOver (pairedIo "p0" "p1")) [104, 105]
        (deliveredNode [104, 105]) "p0" [] ∧
      ∃ next,
        (deliveredNode [104, 105]).recv "p0" 3 [] =
            .ok (some ([104, 105, 0], next)) ∧
          ([104, 105, 0] : Bytes) ≠ [104, 105]) ∧
    TakesSent (channelOver (pairedIo "p0" "p1")) [0] (deliveredNode [0]) "p0" [] ∧
      ∃ next,
        (deliveredNode [0]).recv "p0" 1 [] = .ok (some ([0], next)) ∧
          TimedOutString 1 [0] :=
  ⟨⟨takesSent_paired _, _, rfl, by decide⟩,
    takesSent_paired _, _, rfl, (timedOutString_iff 1 [0]).mpr rfl⟩

theorem recv_faithful_of_matching_length :
    ∃ next,
      (deliveredNode [104, 105]).recv "p0" 2 [] =
          .ok (some ([104, 105], next)) ∧
        ¬ TimedOutString 2 [104, 105] := by
  rcases recv_faithful_iff (takesSent_paired [104, 105])
      (show [104, 105].length ≤ 2 by decide) with
    ⟨str, next, returned, faithful, recognisable⟩
  have same : str = [104, 105] := faithful.mpr rfl
  subst same
  exact ⟨next, returned, recognisable.mpr ⟨104, by decide, by decide⟩⟩

end IoChannelImpl

end ChannelSdk
