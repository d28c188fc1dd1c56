import ChannelSdk.Endpoints
import ChannelSdk.IoChannelServant
import ChannelSdk.TopologyDuality
import Mathlib.Data.Rat.Floor

/-!
# The network IO of a node

`ViaNetIO` of `core/src/net_io.cc` and its creation by
`IoChannelImpl::CreateIoChannel`, in the build with dynamic calls and the
synchronous server.  `init` registers a connection for every client, starts
the server if there is a client, and makes a client object for every server;
the flags or pings that it then exchanges reach a node as any other request
does.

A network without failures dispatches every request to a started server once
and answers it.  A request to a node without a server fails at every attempt,
until the sender's timeout.
-/

namespace ChannelSdk

open CheckedMemory
open Std (ExtTreeMap ExtTreeSet)

/-- The members of `BasicIO` after `init`. -/
structure ViaNetIo where
  nodeInfo : NodeInfo
  sendTimeout : Nat
  clientObjMap : String → Option ClientProxy
  clientConnMap : MapClientConn
  server : Option ServerEndpoint

namespace ViaNetIo

/-! ## Timeouts

`send_timeout_` is a `float` of seconds, and its product with 1000, a `float`
again, becomes the `uint64_t` of milliseconds.
-/

/-- The nearest integer, and the even one of two. -/
def roundTiesToEven (value : Rat) : Int :=
  let below := value.floor
  if value - below < 1 / 2 then below
  else if 1 / 2 < value - below then below + 1
  else below + below % 2

/-- The power of two that a number reaches. -/
def binade (value : Rat) : Int :=
  let estimate : Int := Nat.log2 value.num.natAbs - Nat.log2 value.den
  if 2 ^ estimate ≤ abs value then estimate else estimate - 1

/-- A number as a `float`, with 24 bits or down to the least subnormal. -/
def toFloat (value : Rat) : Rat :=
  if value = 0 then 0
  else
    let unit : Rat := 2 ^ max (binade value - 23) (-149)
    roundTiesToEven (value / unit) * unit

/-- A `float` as a `uint64_t`: without its fraction, and wrapped around where
the standard leaves the conversion open. -/
def toUint64 (value : Rat) : Nat :=
  let whole := if 0 ≤ value then value.floor else value.ceil
  (whole % 18446744073709551616).toNat

/-- `send_timeout_*1000` as the argument of `SetSendTimeOut`. -/
def milliseconds (seconds : Rat) : Nat :=
  toUint64 (toFloat (toFloat seconds * 1000))

example : milliseconds 5 = 5000 ∧ milliseconds (251 / 1000) = 250 := by
  decide +kernel

/-! ## Initialisation and use -/

/-- The loop of `init` over the remote servers. -/
def createClients (taskId : String) :
    List ViaInfo → (String → Option ClientProxy) →
      Except Event (String → Option ClientProxy)
  | [], clientObjMap => .ok clientObjMap
  | info :: rest, clientObjMap =>
      match createClient info taskId with
      | .ok proxy =>
          createClients taskId rest
            (Function.update clientObjMap info.id (some proxy))
      | .error event => .error event

/-- The server that `init` starts if the node has a client. -/
def startServer (config : ChannelConfig) (nodeInfo : NodeInfo)
    (clientNodeids : ExtTreeSet String) :
    Except Event (Option ServerEndpoint) :=
  if clientNodeids.size > 0 then
    (createServer nodeInfo config.taskId).map some
  else .ok none

/-- `init` up to the exchange of flags or pings. -/
def init (config : ChannelConfig) (nodeInfo : NodeInfo)
    (remoteServerInfos : ViaInfoSet) (clientNodeids : ExtTreeSet String) :
    Except Event ViaNetIo := do
  let server ← startServer config nodeInfo clientNodeids
  let clientObjMap ←
    createClients config.taskId remoteServerInfos.toList fun _ => none
  return {
    nodeInfo, clientObjMap, server
    sendTimeout := milliseconds config.sendTimeout
    clientConnMap := fun nodeid =>
      if nodeid ∈ clientNodeids then some (.create nodeid) else none }

/-- `IoChannelImpl::CreateIoChannel`, up to the created network IO. -/
def createIoChannel (selfNodeId : String) (doc : Json) :
    Except LoadError ViaNetIo := do
  let config ← ChannelConfig.create selfNodeId doc
  let node ← (config.getNode selfNodeId).mapError .event
  let (nodeInfo, copied) := config.copyNodeInfo node
  let topology ← (copied.getNodeInfos {} selfNodeId).1.mapError .event
  (init copied nodeInfo topology.serverInfos
    topology.clientNodeIds).mapError .event

/-- `ViaNetIO::send` to a node, over a network without failures: the returned
length and the connections that the receiver is left with. -/
def send (self receiver : ViaNetIo) (remoteNodeid msgid : String)
    (data : Bytes) : Except Event (Nat × MapClientConn) :=
  match self.clientObjMap remoteNodeid with
  | none => .error (.noFindNid remoteNodeid)
  | some _ =>
      if receiver.server.isSome then
        .ok (data.length,
          afterSend receiver.clientConnMap ⟨msgid, self.nodeInfo.id, data⟩)
      else
        .error
          (.sendDataTimeout self.nodeInfo.id remoteNodeid self.sendTimeout)

/-- `ViaNetIO::recv` from a node, by a call that meets the given wake-ups. -/
def recv (self : ViaNetIo) (remoteNodeid msgid : String)
    (wakeups : List (Wakeup ClientConnection)) :
    Except Event (Option (Received × ViaNetIo)) :=
  match self.clientConnMap remoteNodeid with
  | none => .error (.noFindNid remoteNodeid)
  | some connection =>
      .ok ((connection.recv msgid wakeups).map fun (received, remaining) =>
        (received,
          { self with
            clientConnMap :=
              Function.update self.clientConnMap remoteNodeid
                (some remaining) }))

/-- The states of a node that was initialised from a document: requests are
dispatched to it, and its messages are received. -/
inductive Joined (doc : Json) (nodeId : String) : ViaNetIo → Prop
  | init {io : ViaNetIo} :
      createIoChannel nodeId doc = .ok io → Joined doc nodeId io
  | dispatch {io : ViaNetIo} (recvData : DataStruct) :
      Joined doc nodeId io →
      Joined doc nodeId
        { io with clientConnMap := afterSend io.clientConnMap recvData }
  | recv {io : ViaNetIo} (remoteNodeid msgid : String)
      {connection remaining : ClientConnection} {received : Received} :
      Joined doc nodeId io →
      io.clientConnMap remoteNodeid = some connection →
      connection.recvPass msgid = some (received, remaining) →
      Joined doc nodeId
        { io with
          clientConnMap :=
            Function.update io.clientConnMap remoteNodeid (some remaining) }

theorem isSome_createClients
    {taskId : String} {infos : List ViaInfo} :
    ∀ {start created : String → Option ClientProxy},
      createClients taskId infos start = .ok created →
      ∀ id, (created id).isSome ↔
        (start id).isSome ∨ id ∈ infos.map ViaInfo.id := by
  induction infos with
  | nil =>
      intro start created completed id
      cases completed
      simp
  | cons info rest inductionHypothesis =>
      intro start created completed id
      rw [createClients] at completed
      split at completed
      · rw [inductionHypothesis completed id]
        by_cases same : id = info.id
        · simp [same]
        · simp [same]
      · cases completed

/-- What the state of a node owes to its topology. -/
structure Follows (io : ViaNetIo) (topology : Topology) : Prop where
  registered :
    ∀ id, (io.clientConnMap id).isSome ↔ id ∈ topology.clientNodeIds
  connected :
    ∀ id, (io.clientObjMap id).isSome ↔ id ∈ topology.serverInfos.ids
  serving :
    io.server.isSome ↔ ∃ id, id ∈ topology.clientNodeIds

theorem isSome_startServer
    {config : ChannelConfig} {nodeInfo : NodeInfo}
    {clientNodeids : ExtTreeSet String} {server : Option ServerEndpoint}
    (started : startServer config nodeInfo clientNodeids = .ok server) :
    server.isSome ↔ ∃ id, id ∈ clientNodeids := by
  have noClient :
      clientNodeids.size = 0 ↔ ¬ ∃ id, id ∈ clientNodeids := by
    rw [← ExtTreeSet.eq_empty_iff_size_eq_zero,
      ExtTreeSet.eq_empty_iff_forall_not_mem, not_exists]
  rw [startServer] at started
  split at started
  · next someClient =>
      have present : ∃ id, id ∈ clientNodeids := by
        by_contra absent
        exact Nat.ne_of_gt someClient (noClient.mpr absent)
      rcases created : createServer nodeInfo config.taskId with event | endpoint
      · rw [created] at started
        cases started
      · rw [created] at started
        cases started
        exact iff_of_true rfl present
  · next none =>
      cases started
      have absent := noClient.mp (Nat.eq_zero_of_not_pos none)
      exact iff_of_false Bool.false_ne_true absent

theorem follows_init
    {config : ChannelConfig} {nodeInfo : NodeInfo} {topology : Topology}
    {io : ViaNetIo}
    (initialised :
      init config nodeInfo topology.serverInfos topology.clientNodeIds =
        .ok io) :
    io.nodeInfo = nodeInfo ∧ Follows io topology := by
  rcases bind_eq_ok initialised with ⟨server, started, initialised⟩
  rcases bind_eq_ok initialised with ⟨clientObjMap, created, initialised⟩
  cases initialised
  refine ⟨rfl, ?_, ?_, isSome_startServer started⟩
  · intro id
    by_cases isClient : id ∈ topology.clientNodeIds <;> simp [isClient]
  · intro id
    have clients := isSome_createClients created id
    rw [Option.isSome_none, Bool.false_eq_true, false_or] at clients
    exact clients

/-- An initialised node is a node of the task, follows the topology that its
configuration gives it, and signs its messages with its id. -/
theorem createIoChannel_eq_ok
    {nodeId : String} {doc : Json} {io : ViaNetIo}
    (created : createIoChannel nodeId doc = .ok io) :
    ∃ config topology,
      ChannelConfig.create nodeId doc = .ok config ∧
        nodeId ∈ config.taskNodes ∧
        (∀ id, id ∈ topology.clientNodeIds ↔
          id ≠ nodeId ∧ config.Link id nodeId) ∧
        (∀ id, id ∈ topology.serverInfos.ids ↔ config.Link nodeId id) ∧
        io.nodeInfo.id = nodeId ∧ Follows io topology := by
  rcases bind_eq_ok created with ⟨config, loaded, created⟩
  rcases bind_eq_ok created with ⟨node, looked, created⟩
  rcases bind_eq_ok created with ⟨topology, queried, created⟩
  have coherent := ChannelConfig.coherent_of_create loaded
  have same := ChannelConfig.sameTables_copyNodeInfo config node
  rcases ChannelConfig.getNode_eq_ok coherent (mapError_eq_ok looked) with
    ⟨sameId, isTask⟩
  rcases ChannelConfig.getNodeInfos_eq_ok
      (ChannelConfig.coherent_copyNodeInfo coherent node) (fun _ => isTask)
      (mapError_eq_ok queried) with ⟨clients, servers⟩
  simp only [same.link_iff] at clients servers
  rcases follows_init (mapError_eq_ok created) with ⟨sameInfo, follows⟩
  refine ⟨config, topology, loaded, isTask, clients, servers, ?_, follows⟩
  rw [sameInfo]
  exact sameId

/-- The state of a node that was initialised from a document, in terms of the
links of the document. -/
structure Linked (config : ChannelConfig) (nodeId : String) (io : ViaNetIo) :
    Prop where
  signs : io.nodeInfo.id = nodeId
  registered :
    ∀ id, (io.clientConnMap id).isSome ↔
      id ≠ nodeId ∧ config.Link id nodeId
  connected :
    ∀ id, (io.clientObjMap id).isSome ↔ config.Link nodeId id
  serving :
    io.server.isSome ↔ ∃ id, id ≠ nodeId ∧ config.Link id nodeId

theorem Joined.linked
    {doc : Json} {nodeId process : String} {io : ViaNetIo}
    {config : ChannelConfig}
    (loaded : ChannelConfig.create process doc = .ok config)
    (joined : Joined doc nodeId io) :
    Linked config nodeId io := by
  induction joined with
  | init created =>
      rcases createIoChannel_eq_ok created with
        ⟨own, topology, ownLoaded, -, clients, servers, signs, follows⟩
      have same := ChannelConfig.sameTables_of_create loaded ownLoaded
      simp only [same.link_iff] at clients servers
      refine ⟨signs, ?_, ?_, ?_⟩
      · intro id
        rw [follows.registered, clients]
      · intro id
        rw [follows.connected, servers]
      · simp only [follows.serving, clients]
  | dispatch recvData _ inductionHypothesis =>
      refine ⟨inductionHypothesis.signs, ?_, inductionHypothesis.connected,
        inductionHypothesis.serving⟩
      intro id
      rw [isSome_afterSend]
      exact inductionHypothesis.registered id
  | recv remoteNodeid msgid _ found _ inductionHypothesis =>
      refine ⟨inductionHypothesis.signs, ?_, inductionHypothesis.connected,
        inductionHypothesis.serving⟩
      intro id
      rw [← inductionHypothesis.registered id]
      by_cases same : id = remoteNodeid
      · simp [same, found]
      · simp [Function.update_of_ne same]

/-- A send that returns the length is no silent loss: the receiver has the
sender registered and the payload is at the end of the sender's queue. -/
def NotDropped (self receiver : ViaNetIo) (sender remoteNodeid msgid : String)
    (data : Bytes) : Prop :=
  ∀ updated,
    self.send receiver remoteNodeid msgid data = .ok (data.length, updated) →
      (receiver.clientConnMap sender).isSome ∧
        updated.queued sender msgid =
          receiver.clientConnMap.queued sender msgid ++ [data]

/-- A send returns the length exactly over a link to a node with a server. -/
theorem send_eq_ok_iff
    {config : ChannelConfig} {nodeA nodeB : String} {ioA ioB : ViaNetIo}
    (linkedA : Linked config nodeA ioA) (linkedB : Linked config nodeB ioB)
    (msgid : String) (data : Bytes) (updated : MapClientConn) :
    ioA.send ioB nodeB msgid data = .ok (data.length, updated) ↔
      config.Link nodeA nodeB ∧
        (∃ client, client ≠ nodeB ∧ config.Link client nodeB) ∧
        updated = afterSend ioB.clientConnMap ⟨msgid, nodeA, data⟩ := by
  rw [← linkedA.connected, ← linkedB.serving, send, linkedA.signs]
  rcases ioA.clientObjMap nodeB with _ | proxy
  · simp
  · rcases ioB.server with _ | endpoint
    · simp
    · simp [eq_comm]

/-- When no message is dropped silently.  For any two nodes that were
initialised from one document, equal or distinct, and in any states they have
reached since, a send that returns the length has been appended to the
sender's queue at the receiver, unless a node that the policy lists under its
own key, and that another key lists too, sends to itself. -/
theorem send_not_dropped_iff
    {doc : Json} {process nodeA nodeB : String} {config : ChannelConfig}
    {ioA ioB : ViaNetIo}
    (loaded : ChannelConfig.create process doc = .ok config)
    (joinedA : Joined doc nodeA ioA) (joinedB : Joined doc nodeB ioB)
    (msgid : String) (data : Bytes) :
    NotDropped ioA ioB nodeA nodeB msgid data ↔
      ¬ (nodeA = nodeB ∧ config.PolicyEdge nodeA nodeA ∧
        ∃ client, client ≠ nodeA ∧ config.PolicyEdge client nodeA) := by
  have linkedA := joinedA.linked loaded
  have linkedB := joinedB.linked loaded
  have registered := linkedB.registered nodeA
  constructor
  · intro notDropped selfLoop
    rcases selfLoop with ⟨rfl, own, client, different, edge⟩
    have returned :=
      (send_eq_ok_iff linkedA linkedB msgid data
        (afterSend ioB.clientConnMap ⟨msgid, nodeA, data⟩)).mpr
        ⟨.inl own, ⟨client, different, .inl edge⟩, rfl⟩
    exact (registered.mp (notDropped _ returned).1).1 rfl
  · intro noSelfLoop updated returned
    rcases (send_eq_ok_iff linkedA linkedB msgid data updated).mp returned with
      ⟨link, ⟨client, differentClient, clientLink⟩, rfl⟩
    have different : nodeA ≠ nodeB := by
      intro same
      subst same
      rcases link with own | ⟨-, -, -, distinct⟩
      · refine noSelfLoop ⟨rfl, own, client, differentClient, ?_⟩
        rcases clientLink with edge | ⟨absent, -⟩
        · exact edge
        · exact absurd own (ChannelConfig.not_policyEdge_of_no_policy absent)
      · exact distinct rfl
    have known := registered.mpr ⟨different, link⟩
    refine ⟨known, ?_⟩
    rw [queued_afterSend, if_pos ⟨known, rfl, rfl⟩]

/-- A node that is listed under its own key and under another. -/
def selfLoopDocument : Json :=
  .object
    [("NODE_INFO", .array
      [.object [("NODE_ID", .string "A"), ("ADDRESS", .string "hostA:1")],
        .object [("NODE_ID", .string "B"), ("ADDRESS", .string "hostB:1")]]),
    ("DATA_NODES", .array [.string "A", .string "B"]),
    ("POLICY", .object
      [("A", .array [.string "A"]), ("B", .array [.string "A"])])]

/-- What a send from one node to another returns and leaves in the receiver's
queue, right after both were initialised. -/
def sendOnce (doc : Json) (nodeA nodeB msgid : String) (data : Bytes) :
    Option (Nat × List Bytes) :=
  match createIoChannel nodeA doc, createIoChannel nodeB doc with
  | .ok ioA, .ok ioB =>
      match ioA.send ioB nodeB msgid data with
      | .ok (length, updated) => some (length, updated.queued nodeA msgid)
      | .error _ => none
  | _, _ => none

theorem sendOnce_eq_some
    {doc : Json} {nodeA nodeB msgid : String} {data : Bytes} {length : Nat}
    {queued : List Bytes}
    (sent : sendOnce doc nodeA nodeB msgid data = some (length, queued)) :
    ∃ ioA ioB updated,
      createIoChannel nodeA doc = .ok ioA ∧
        createIoChannel nodeB doc = .ok ioB ∧
        ioA.send ioB nodeB msgid data = .ok (length, updated) ∧
        updated.queued nodeA msgid = queued := by
  rw [sendOnce] at sent
  split at sent
  · next ioA ioB createdA createdB =>
      split at sent
      · next length updated returned =>
          cases sent
          exact ⟨ioA, ioB, updated, createdA, createdB, returned, rfl⟩
      · cases sent
  · cases sent

theorem send_to_itself_is_dropped :
    ∃ io, Joined selfLoopDocument "A" io ∧
      ¬ NotDropped io io "A" "A" "m" [7] := by
  rcases sendOnce_eq_some
      (show sendOnce selfLoopDocument "A" "A" "m" [7] = some (1, []) by
        decide +kernel) with
    ⟨io, sameIo, updated, created, createdAgain, returned, lost⟩
  have same : sameIo = io := by
    rw [created] at createdAgain
    exact (Except.ok.inj createdAgain).symm
  subst same
  refine ⟨sameIo, .init created, ?_⟩
  intro notDropped
  have appended := (notDropped updated returned).2
  rw [lost] at appended
  simp at appended

theorem send_not_dropped_iff_pair :
    ∃ config ioA ioB,
      ChannelConfig.create "A" ChannelConfig.pairDocument = .ok config ∧
        Joined ChannelConfig.pairDocument "A" ioA ∧
        Joined ChannelConfig.pairDocument "B" ioB ∧
        (NotDropped ioA ioB "A" "B" "m" [7] ↔
          ¬ ("A" = "B" ∧ config.PolicyEdge "A" "A" ∧
            ∃ client, client ≠ "A" ∧ config.PolicyEdge client "A")) := by
  rcases sendOnce_eq_some
      (show sendOnce ChannelConfig.pairDocument "A" "B" "m" [7] =
          some (1, [[7]]) by decide +kernel) with
    ⟨ioA, ioB, updated, createdA, createdB, -⟩
  rcases Option.isSome_iff_exists.mp
      (show (ChannelConfig.queryLoaded "A" ChannelConfig.pairDocument
        "A").isSome by decide +kernel) with ⟨⟨config, topology⟩, queried⟩
  have loaded := (ChannelConfig.queryLoaded_eq_some queried).1
  exact ⟨config, ioA, ioB, loaded, .init createdA, .init createdB,
    send_not_dropped_iff loaded (.init createdA) (.init createdB) "m" [7]⟩

end ViaNetIo

end ChannelSdk
