import ChannelSdk.NodeTopology

/-!
# Looking up a node of the task

`GetNodeType`, `GetNode` and `CopyNodeInfo` of `core/src/config.cc`.  A node
is looked up in the data, computation and result lists, in this order; what is
copied from it is completed from the via, Glacier2 and IceGrid tables.
-/

namespace ChannelSdk

open Std (ExtTreeMap ExtTreeSet)

/-- `NodeInfo`. -/
structure NodeInfo where
  id : String
  address : String
  publicIp : String
  viaAddress : String
  glacier2Info : IcePlugCfg
  iceGridInfo : IcePlugCfg
  caCertPath : String
  certDir : String
  serverKeyPath : String
  serverCertPath : String
  clientKeyPath : String
  clientCertPath : String
  password : String
  deriving DecidableEq, Repr

/-- `NODE_TYPE`. -/
inductive NodeType where
  | invalid
  | data
  | compute
  | result
  deriving DecidableEq, Repr

namespace ChannelConfig

/-- The types that one list of nodes contributes to `GetNodeType`. -/
def typesIn (nodes : List Node) (nodeType : NodeType) (nodeId : String) :
    List NodeType :=
  (nodes.filter fun node => nodeId = node.nodeId).map fun _ => nodeType

/-- `GetNodeType`. -/
def getNodeType (self : ChannelConfig) (nodeId : String) : List NodeType :=
  typesIn self.dataConfig .data nodeId ++
    typesIn self.computeConfig .compute nodeId ++
      typesIn self.resultConfig .result nodeId

/-- `GetNode`. -/
def getNode (self : ChannelConfig) (nodeId : String) : Except Event Node :=
  match self.listedNodes.find? fun node => nodeId = node.nodeId with
  | some node => .ok node
  | none => .error (.noFindNid nodeId)

/-- `CopyNodeInfo`. -/
def copyNodeInfo (self : ChannelConfig) (node : Node) :
    NodeInfo × ChannelConfig :=
  let (viaName, nodeidToVia) := mapSubscript self.nodeidToVia node.nodeId ""
  let (viaAddress, viaToAddress) := mapSubscript self.viaToAddress viaName ""
  let (glacier2Name, nodeidToGlacier2) :=
    mapSubscript self.nodeidToGlacier2 node.nodeId ""
  let (glacier2Info, glacier2ToInfo) :=
    mapSubscript self.glacier2ToInfo glacier2Name {}
  let (iceGridName, nodeidToIcegrid) :=
    mapSubscript self.nodeidToIcegrid node.nodeId ""
  let (iceGridInfo, icegridToInfo) :=
    mapSubscript self.icegridToInfo iceGridName {}
  ({ id := node.nodeId
     address := node.address
     publicIp := node.publicIp
     viaAddress, glacier2Info, iceGridInfo
     caCertPath := self.rootCert
     certDir := node.certDir
     serverKeyPath := node.serverKeyPath
     serverCertPath := node.serverCertPath
     clientKeyPath := node.clientKeyPath
     clientCertPath := node.clientCertPath
     password := node.password },
    { self with
      nodeidToVia, viaToAddress, nodeidToGlacier2, glacier2ToInfo
      nodeidToIcegrid, icegridToInfo })

theorem typesIn_eq_nil_iff
    {nodes : List Node} {nodeType : NodeType} {nodeId : String} :
    typesIn nodes nodeType nodeId = [] ↔
      ∀ node ∈ nodes, node.nodeId ≠ nodeId := by
  rw [typesIn, List.map_eq_nil_iff, List.filter_eq_nil_iff]
  simp only [decide_eq_true_eq, ne_eq, @eq_comm _ nodeId]

/-- A node has a type exactly when one of the lists has it. -/
theorem getNodeType_ne_nil_iff
    {config : ChannelConfig} {nodeId : String} :
    config.getNodeType nodeId ≠ [] ↔
      ∃ node ∈ config.listedNodes, node.nodeId = nodeId := by
  rw [getNodeType, ne_eq, List.append_eq_nil_iff, List.append_eq_nil_iff,
    typesIn_eq_nil_iff, typesIn_eq_nil_iff, typesIn_eq_nil_iff, listedNodes]
  simp only [List.mem_append]
  grind

theorem listed_of_getNode
    {config : ChannelConfig} {nodeId : String} {node : Node}
    (found : config.getNode nodeId = .ok node) :
    node ∈ config.listedNodes ∧ node.nodeId = nodeId := by
  rw [getNode] at found
  split at found
  · next listed =>
      cases found
      have same : nodeId = node.nodeId := by
        simpa using List.find?_some listed
      exact ⟨List.mem_of_find?_eq_some listed, same.symm⟩
  · cases found

/-- The lookup succeeds exactly when one of the lists has the node. -/
theorem exists_getNode_iff
    {config : ChannelConfig} {nodeId : String} :
    (∃ node, config.getNode nodeId = .ok node) ↔
      ∃ node ∈ config.listedNodes, node.nodeId = nodeId := by
  constructor
  · intro found
    rcases found with ⟨node, found⟩
    exact ⟨node, listed_of_getNode found⟩
  · intro listed
    rcases listed with ⟨node, member, same⟩
    rw [getNode]
    split
    · next found _ => exact ⟨found, rfl⟩
    · next missing =>
        have differs := List.find?_eq_none.mp missing node member
        exact absurd (by simp [same]) differs

/-- Only nodes of the task are found, under their own id. -/
theorem getNode_eq_ok
    {config : ChannelConfig} {nodeId : String} {node : Node}
    (coherent : Coherent config)
    (found : config.getNode nodeId = .ok node) :
    node.nodeId = nodeId ∧ nodeId ∈ config.taskNodes := by
  rcases listed_of_getNode found with ⟨listed, same⟩
  refine ⟨same, ?_⟩
  rw [← same]
  exact coherent.listed node listed

theorem sameTables_copyNodeInfo (config : ChannelConfig) (node : Node) :
    SameTables config (config.copyNodeInfo node).2 :=
  ⟨rfl, rfl, rfl⟩

theorem coherent_copyNodeInfo
    {config : ChannelConfig} (coherent : Coherent config) (node : Node) :
    Coherent (config.copyNodeInfo node).2 :=
  coherent.of_same rfl rfl fun _ member => member

end ChannelConfig

end ChannelSdk
