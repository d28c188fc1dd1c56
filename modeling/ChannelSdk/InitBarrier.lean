import ChannelSdk.IoChannelServant
import ChannelSdk.NodeLookup
import ChannelSdk.TopologyDuality
import ChannelSdk.Lib.TransitionMachine
import Mathlib.Algebra.Order.BigOperators.Group.Finset

/-!
# Initialisation with synchronised connections

`ViaNetIO::init` of `core/src/net_io.cc` with `CONNECT_SYNC`, run by the nodes
of a deployment at the same time.  A node registers a connection for each of
its clients and starts its server if it has one, makes a client object for
each of its servers, sends a flag to every server and receives one from every
client.  The client objects and the connections are kept in hash maps, so the
order of the two loops over them is arbitrary.

The network has no failures: an attempt to reach a node without a started
server fails and is repeated, and a request to a started server is dispatched
once and answered.  A receive that finds no flag waits until it is woken, with
or without a reason; no timeout fires.
-/

namespace ChannelSdk.InitBarrier

open CheckedMemory

/-- Where a node is in `init`.  The lists hold the nodes that a loop still has
to visit; the first of them is its current node. -/
inductive Phase where
  | registering
  | building (remaining : List String)
  | sending (remaining : List String) (answered : Bool)
  | receiving (remaining : List String) (waiting : Bool)
  | returned
  deriving DecidableEq, Repr

/-- The nodes' progress and members.  The log holds the flags that were
written to a queue, as sender and receiver. -/
structure State where
  phase : String → Phase
  clientConnMap : String → MapClientConn
  serverStarted : String → Bool
  clientObjects : String → List String
  flags : List (String × String)

inductive Action where
  | register
  | buildClient
  | beginSend (order : List String)
  | attempt
  | reply
  | beginRecv (order : List String)
  | recvPass
  | wake
  | finish

structure Label where
  node : String
  action : Action

/-- The message id of the flags. -/
def syncMsgid : String := "sync_conn"

/-- The flag `"1"`. -/
def syncFlag : Bytes := [49]

namespace State

def setPhase (state : State) (node : String) (phase : Phase) : State :=
  { state with phase := Function.update state.phase node phase }

/-- Registration of the clients and start of the server. -/
def register (state : State) (node : String) (topology : Topology) : State :=
  { state.setPhase node (.building topology.serverInfos.ids) with
    clientConnMap :=
      Function.update state.clientConnMap node fun id =>
        if id ∈ topology.clientNodeIds then some (.create id) else none
    serverStarted :=
      Function.update state.serverStarted node
        (decide (topology.clientNodeIds.size > 0)) }

/-- A started server dispatches the flag of a node. -/
def dispatchFlag (state : State) (node remote : String)
    (rest : List String) : State :=
  { state.setPhase node (.sending (remote :: rest) true) with
    clientConnMap :=
      Function.update state.clientConnMap remote
        (afterSend (state.clientConnMap remote)
          ⟨syncMsgid, node, syncFlag⟩)
    flags :=
      if (state.clientConnMap remote node).isSome then
        state.flags ++ [(node, remote)]
      else state.flags }

/-- A pass of the receive of a flag. -/
def recvFlag (state : State) (node remote : String) (rest : List String)
    (connection : ClientConnection) : State :=
  match connection.recvPass syncMsgid with
  | some (_, remaining) =>
      { state.setPhase node (.receiving rest false) with
        clientConnMap :=
          Function.update state.clientConnMap node
            (Function.update (state.clientConnMap node) remote
              (some remaining)) }
  | none => state.setPhase node (.receiving (remote :: rest) true)

/-- The actions of one node. -/
def act (topology : Topology) (state : State) (node : String) :
    Action → Option State
  | .register =>
      match state.phase node with
      | .registering => some (state.register node topology)
      | _ => none
  | .buildClient =>
      match state.phase node with
      | .building (remote :: rest) =>
          some { state.setPhase node (.building rest) with
            clientObjects :=
              Function.update state.clientObjects node
                (state.clientObjects node ++ [remote]) }
      | _ => none
  | .beginSend order =>
      match state.phase node with
      | .building [] =>
          if order.Perm (state.clientObjects node) then
            some (state.setPhase node (.sending order false))
          else none
      | _ => none
  | .attempt =>
      match state.phase node with
      | .sending (remote :: rest) false =>
          if state.serverStarted remote then
            some (state.dispatchFlag node remote rest)
          else some state
      | _ => none
  | .reply =>
      match state.phase node with
      | .sending (_ :: rest) true =>
          some (state.setPhase node (.sending rest false))
      | _ => none
  | .beginRecv order =>
      match state.phase node with
      | .sending [] false =>
          if order.Perm topology.clientNodeIds.toList then
            some (state.setPhase node (.receiving order false))
          else none
      | _ => none
  | .recvPass =>
      match state.phase node with
      | .receiving (remote :: rest) false =>
          match state.clientConnMap node remote with
          | some connection =>
              some (state.recvFlag node remote rest connection)
          | none => none
      | _ => none
  | .wake =>
      match state.phase node with
      | .receiving remaining true =>
          some (state.setPhase node (.receiving remaining false))
      | _ => none
  | .finish =>
      match state.phase node with
      | .receiving [] false => some (state.setPhase node .returned)
      | _ => none

end State

/-- A finite set of nodes that run `init`, with the topologies they were
given. -/
def machine (nodes : Finset String) (topology : String → Topology) :
    TransitionMachine State Label where
  initial := fun state =>
    (∀ node, state.phase node = .registering) ∧
      (∀ node, state.clientConnMap node = fun _ => none) ∧
      (∀ node, state.serverStarted node = false) ∧
      (∀ node, state.clientObjects node = []) ∧
      state.flags = []
  next := fun state label =>
    if label.node ∈ nodes then
      state.act (topology label.node) label.node label.action
    else none

/-- Nodes that load one document, find themselves in it and query their
topology, whichever way it asks them to connect.  The document has no
self-loop and the nodes are closed under its links. -/
structure Placement where
  doc : Json
  nodes : Finset String
  connSync : Bool
  config : String → ChannelConfig
  topology : String → Topology
  loaded :
    ∀ node ∈ nodes, ChannelConfig.create node doc = .ok (config node)
  agreed : ∀ node ∈ nodes, (config node).connSync = connSync
  found :
    ∀ node ∈ nodes, ∃ description,
      (config node).getNode node = .ok description
  queried :
    ∀ node ∈ nodes,
      ((config node).getNodeInfos {} node).1 = .ok (topology node)
  loopFree :
    ∀ node ∈ nodes, ∀ id, ¬ (config node).PolicyEdge id id
  closed :
    ∀ node ∈ nodes, ∀ id,
      id ∈ (topology node).clientNodeIds ∨
        id ∈ (topology node).serverInfos.ids → id ∈ nodes

/-- The client and server sets of a closed set of nodes, dual to each
other. -/
structure Matched (nodes : Finset String) (topology : String → Topology) :
    Prop where
  closed :
    ∀ node ∈ nodes, ∀ id,
      id ∈ (topology node).clientNodeIds ∨
        id ∈ (topology node).serverInfos.ids → id ∈ nodes
  dual :
    ∀ client ∈ nodes, ∀ server ∈ nodes,
      (server ∈ (topology client).serverInfos.ids ↔
        client ∈ (topology server).clientNodeIds)

namespace Placement

/-- The sets of a node are the links of the document, as any node has loaded
it. -/
theorem views
    (placement : Placement) {observer node : String}
    (isObserver : observer ∈ placement.nodes)
    (isNode : node ∈ placement.nodes) :
    (∀ id, id ∈ (placement.topology node).clientNodeIds ↔
      id ≠ node ∧ (placement.config observer).Link id node) ∧
    (∀ id, id ∈ (placement.topology node).serverInfos.ids ↔
      (placement.config observer).Link node id) := by
  have coherent :=
    ChannelConfig.coherent_of_create (placement.loaded node isNode)
  have same :=
    ChannelConfig.sameTables_of_create
      (placement.loaded observer isObserver) (placement.loaded node isNode)
  obtain ⟨description, found⟩ := placement.found node isNode
  have isTask := (ChannelConfig.getNode_eq_ok coherent found).2
  have views :=
    ChannelConfig.getNodeInfos_eq_ok coherent (fun _ => isTask)
      (placement.queried node isNode)
  simpa only [same.link_iff] using views

/-- The sets of the nodes are dual to each other. -/
theorem matched (placement : Placement) :
    Matched placement.nodes placement.topology where
  closed := placement.closed
  dual := by
    intro client isClient server isServer
    rw [(placement.views isClient isClient).2,
      (placement.views isClient isServer).1]
    constructor
    · intro link
      refine ⟨?_, link⟩
      intro same
      subst same
      obtain edge | ⟨-, -, -, distinct⟩ := link
      · exact placement.loopFree client isClient client edge
      · exact distinct rfl
    · exact And.right

/-- What a node has loaded and queried. -/
def answer (doc : Json) (node : String) : ChannelConfig × Topology :=
  (ChannelConfig.queryLoaded node doc node).getD ({}, {})

/-- The conditions of a placement, as a test of a document and the ids of all
its nodes. -/
def check (doc : Json) (connSync : Bool) (ids : List String) : Bool :=
  ids.all fun node =>
    match ChannelConfig.queryLoaded node doc node with
    | some (config, topology) =>
        (config.connSync == connSync) &&
          (config.getNode node).toOption.isSome &&
          config.mapPolicy.toList.all
            (fun entry => !entry.2.contains entry.1) &&
          (topology.clientNodeIds.toList ++ topology.serverInfos.ids).all
            fun id => decide (id ∈ ids)
    | none => false

/-- What the test says about a node. -/
structure Checked (doc : Json) (connSync : Bool) (ids : List String)
    (node : String) (config : ChannelConfig) (topology : Topology) :
    Prop where
  queried : ChannelConfig.queryLoaded node doc node = some (config, topology)
  agreed : config.connSync = connSync
  found : ∃ description, config.getNode node = .ok description
  loopFree : ∀ id, ¬ config.PolicyEdge id id
  closed :
    ∀ id, id ∈ topology.clientNodeIds ∨ id ∈ topology.serverInfos.ids →
      id ∈ ids

theorem checked_of_check
    {doc : Json} {connSync : Bool} {ids : List String}
    (passed : check doc connSync ids = true) {node : String}
    (isNode : node ∈ ids) :
    Checked doc connSync ids node (answer doc node).1
      (answer doc node).2 := by
  have nodePassed := List.all_eq_true.mp passed node isNode
  split at nodePassed
  case h_2 => cases nodePassed
  case h_1 config topology queried =>
    have answered : answer doc node = (config, topology) := by
      rw [answer, queried]
      rfl
    simp only [Bool.and_eq_true, beq_iff_eq, List.all_eq_true,
      decide_eq_true_eq, List.mem_append, Std.ExtTreeSet.mem_toList]
      at nodePassed
    obtain ⟨⟨⟨agreed, isFound⟩, apart⟩, inside⟩ := nodePassed
    rw [answered]
    refine ⟨queried, agreed, ?_, ?_, inside⟩
    · cases looked : config.getNode node with
      | ok description => exact ⟨description, rfl⟩
      | error event =>
          rw [looked] at isFound
          cases isFound
    · intro id edge
      obtain ⟨serverIds, member, isServer⟩ :=
        ChannelConfig.policyEdge_iff_mem_toList.mp edge
      have different := apart (id, serverIds) member
      rw [Std.ExtTreeSet.contains_iff_mem.mpr isServer] at different
      cases different

/-- A document that passes the test is a placement of its nodes. -/
def ofCheck (doc : Json) (connSync : Bool) (ids : List String)
    (passed : check doc connSync ids = true) : Placement where
  doc := doc
  nodes := ids.toFinset
  connSync := connSync
  config := fun node => (answer doc node).1
  topology := fun node => (answer doc node).2
  loaded := fun _ isNode =>
    (ChannelConfig.queryLoaded_eq_some
      (checked_of_check passed (List.mem_toFinset.mp isNode)).queried).1
  agreed := fun _ isNode =>
    (checked_of_check passed (List.mem_toFinset.mp isNode)).agreed
  found := fun _ isNode =>
    (checked_of_check passed (List.mem_toFinset.mp isNode)).found
  queried := fun _ isNode =>
    (ChannelConfig.queryLoaded_eq_some
      (checked_of_check passed (List.mem_toFinset.mp isNode)).queried).2
  loopFree := fun _ isNode =>
    (checked_of_check passed (List.mem_toFinset.mp isNode)).loopFree
  closed := fun _ isNode id related =>
    List.mem_toFinset.mpr
      ((checked_of_check passed (List.mem_toFinset.mp isNode)).closed id
        related)

end Placement

/-- A placement whose document has the nodes connect synchronously. -/
structure Deployment extends Placement where
  synchronised : connSync = true

end ChannelSdk.InitBarrier
