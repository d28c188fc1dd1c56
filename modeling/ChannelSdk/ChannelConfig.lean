import ChannelSdk.JsonDocument
import Std.Data.ExtTreeMap
import Std.Data.ExtTreeSet

/-!
# Loading a channel configuration

`core/include/config.h` and the parsing half of `core/src/config.cc`, for the
builds other than `SSL_TYPE == 2`.  A `std::map` or `std::set` of strings is
an extensional tree map or set: it is walked in ascending order and an
insertion of a present key changes nothing.

A parser function returns the configuration it leaves behind.  None of them
returns `false`: what they cannot read is skipped, asserted or reported by an
event, so the result is `Except` without a truth value.
-/

namespace ChannelSdk

open Std (ExtTreeMap ExtTreeSet)

/-- `Node`. -/
structure Node where
  desc : String := ""
  nodeId : String := ""
  name : String := ""
  address : String := ""
  publicIp : String := ""
  via : String := ""
  gricer2 : String := ""
  icegrid : String := ""
  certDir : String := ""
  caCertPath : String := ""
  serverKeyPath : String := ""
  serverCertPath : String := ""
  clientKeyPath : String := ""
  clientCertPath : String := ""
  password : String := ""
  deriving DecidableEq, Repr

/-- `Node::copy_from`. -/
def Node.copyFrom (self node : Node) : Node :=
  { self with
    desc := node.desc
    nodeId := node.nodeId
    name := node.name
    address := node.address
    publicIp := node.publicIp
    via := node.via
    gricer2 := node.gricer2
    icegrid := node.icegrid
    certDir := node.certDir
    caCertPath := node.caCertPath
    serverKeyPath := node.serverKeyPath
    serverCertPath := node.serverCertPath
    clientKeyPath := node.clientKeyPath
    clientCertPath := node.clientCertPath
    password := node.password }

/-- The copy has every member of its source. -/
@[simp]
theorem Node.copyFrom_eq (self node : Node) : self.copyFrom node = node := rfl

/-- `IcePlugCfg`. -/
structure IcePlugCfg where
  appName : String := ""
  ip : String := ""
  port : String := ""
  deriving DecidableEq, Repr

/-- `ChannelConfig`.  `NodeInfoConfig` and the three node lists are replaced
by the nodes they hold. -/
structure ChannelConfig where
  nodeId : String := ""
  taskId : String := ""
  rootCert : String := ""
  logLevel : Nat := 0
  pingTime : Rat := 1
  sendTimeout : Rat := 5
  connTimeout : Rat := 5
  connSync : Bool := false
  bufferSize : Int := 1024 * 8
  nodeInfoConfig : ExtTreeMap String Node := ∅
  nodeidToVia : ExtTreeMap String String := ∅
  viaToAddress : ExtTreeMap String String := ∅
  nodeidToGlacier2 : ExtTreeMap String String := ∅
  nodeidToIcegrid : ExtTreeMap String String := ∅
  glacier2ToInfo : ExtTreeMap String IcePlugCfg := ∅
  icegridToInfo : ExtTreeMap String IcePlugCfg := ∅
  dataNodes : List String := []
  computeNodes : ExtTreeMap String Int := ∅
  resultNodes : List String := []
  taskNodes : ExtTreeSet String := ∅
  dataConfig : List Node := []
  computeConfig : List Node := []
  resultConfig : List Node := []
  policyType : String := ""
  mapPolicy : ExtTreeMap String (ExtTreeSet String) := ∅

namespace ChannelConfig

/-- One entry of `NODE_INFO`. -/
def readNode (entry : Json) (caCert : String) : Except LoadError Node := do
  let nodeId ← getString entry "NODE_ID" "" false
  let address ← getString entry "ADDRESS" "" false
  let publicIp ← getString entry "PUBLIC_IP" "127.0.0.1" false
  let via ← getString entry "VIA" "" false
  let gricer2 ← getString entry "GRICER2" "" false
  let icegrid ← getString entry "ICEGRID" "" false
  let certDir ← getString entry "CERT_DIR" "" false
  let serverKeyPath ← getString entry "SERVER_KEY" "" false
  let serverCertPath ← getString entry "SERVER_CERT" "" false
  let clientKeyPath ← getString entry "CLIENT_KEY" "" false
  let clientCertPath ← getString entry "CLIENT_CERT" "" false
  let password ← getString entry "PASSWORD" "" false
  return {
    nodeId, address, publicIp, via, gricer2, icegrid, certDir
    caCertPath := caCert
    serverKeyPath, serverCertPath, clientKeyPath, clientCertPath, password }

/-- The pass of `parse_node_info` over one entry of `NODE_INFO`. -/
def addNode (self : ChannelConfig) (caCert : String) (entry : Json) :
    Except LoadError ChannelConfig := do
  let node ← readNode entry caCert
  return { self with
    nodeInfoConfig := self.nodeInfoConfig.insertIfNew node.nodeId node
    nodeidToVia := self.nodeidToVia.insertIfNew node.nodeId node.via
    nodeidToGlacier2 :=
      self.nodeidToGlacier2.insertIfNew node.nodeId node.gricer2
    nodeidToIcegrid :=
      self.nodeidToIcegrid.insertIfNew node.nodeId node.icegrid }

/-- The loop over `VIA_INFO`. -/
def readVias (vias : Json) (viaToAddress : ExtTreeMap String String) :
    Except LoadError (ExtTreeMap String String) :=
  vias.members.foldlM (fun addresses entry => do
    let value ← entry.2.getString
    return addresses.insertIfNew (cString entry.1) value) viaToAddress

/-- The loop over the fields of one Glacier2 or IceGrid entry. -/
def readPlugin (info : Json) : Except LoadError IcePlugCfg :=
  info.members.foldlM (fun plugin entry => do
    let name := cString entry.1
    let value ← entry.2.getString
    return if name = "APPNAME" then { plugin with appName := value }
      else if name = "IP" then { plugin with ip := value }
      else if name = "PORT" then { plugin with port := value }
      else plugin) {}

/-- The loop over `GRICER2_INFO` or `ICE_GRID_INFO`.  Each entry is looked up
again by its name. -/
def readPlugins (list : Json) (plugins : ExtTreeMap String IcePlugCfg) :
    Except LoadError (ExtTreeMap String IcePlugCfg) :=
  list.members.foldlM (fun known entry => do
    let name := cString entry.1
    let info ← list.subscript name
    if info.isObject then
      let plugin ← readPlugin info
      return known.insertIfNew name plugin
    else
      return known) plugins

/-- `parse_node_info`. -/
def parseNodeInfo (self : ChannelConfig) (doc : Json) :
    Except LoadError ChannelConfig :=
  Json.readIf Json.isArray doc "NODE_INFO" self fun nodes => do
    let caCert ← getString doc "ROOT_CERT" self.rootCert false
    let withNodes ←
      nodes.elements.foldlM (fun config => config.addNode caCert) self
    let viaToAddress ←
      Json.readIf Json.isObject doc "VIA_INFO" withNodes.viaToAddress
        fun vias => readVias vias withNodes.viaToAddress
    let glacier2ToInfo ←
      Json.readIf Json.isObject doc "GRICER2_INFO" withNodes.glacier2ToInfo
        fun list => readPlugins list withNodes.glacier2ToInfo
    let icegridToInfo ←
      Json.readIf Json.isObject doc "ICE_GRID_INFO" withNodes.icegridToInfo
        fun list => readPlugins list withNodes.icegridToInfo
    return { withNodes with viaToAddress, glacier2ToInfo, icegridToInfo }

/-- The lookup of a task node in `NODE_INFO`, common to the three loops over
data, computation and result nodes.  They copy the node found to a new one. -/
def findNode (self : ChannelConfig) (nodeId : String) :
    Except LoadError Node :=
  match self.nodeInfoConfig[nodeId]? with
  | some node => .ok (({} : Node).copyFrom node)
  | none => .error (.event (.noFindNid nodeId))

/-- The pass of `parse_data` over one data node. -/
def addDataNode (self : ChannelConfig) (entry : Json) :
    Except LoadError ChannelConfig := do
  let nodeId ← entry.getString
  let node ← self.findNode nodeId
  return { self with
    dataNodes := self.dataNodes ++ [nodeId]
    dataConfig := self.dataConfig ++ [node]
    taskNodes := self.taskNodes.insert nodeId }

/-- `parse_data`. -/
def parseData (self : ChannelConfig) (doc : Json) :
    Except LoadError ChannelConfig :=
  Json.readIf Json.isArray doc "DATA_NODES" self fun nodes =>
    nodes.elements.foldlM addDataNode
      { self with dataNodes := [], dataConfig := [] }

/-- The party number of a computation node. -/
def partyOf (value : String) : Int :=
  if value = "P0" then 0
  else if value = "P1" then 1
  else if value = "P2" then 2
  else -1

/-- The loop over the members of `COMPUTATION_NODES`. -/
def readComputeNodes (nodes : Json) (computeNodes : ExtTreeMap String Int) :
    Except LoadError (ExtTreeMap String Int) :=
  nodes.members.foldlM (fun known entry => do
    let value ← entry.2.getString
    return known.insertIfNew (cString entry.1) (partyOf value)) computeNodes

/-- The pass of `parse_compute` over one computation node. -/
def addComputeNode (self : ChannelConfig) (nodeId : String) :
    Except LoadError ChannelConfig := do
  let node ← self.findNode nodeId
  return { self with
    computeConfig := self.computeConfig ++ [node]
    taskNodes := self.taskNodes.insert nodeId }

/-- `parse_compute`. -/
def parseCompute (self : ChannelConfig) (doc : Json) :
    Except LoadError ChannelConfig :=
  Json.readIf Json.isObject doc "COMPUTATION_NODES" self fun nodes => do
    let computeNodes ← readComputeNodes nodes self.computeNodes
    computeNodes.keys.foldlM addComputeNode
      { self with computeNodes := computeNodes, computeConfig := [] }

/-- The pass of `parse_result` over one result node. -/
def addResultNode (self : ChannelConfig) (entry : Json) :
    Except LoadError ChannelConfig := do
  let nodeId ← entry.getString
  let node ← self.findNode nodeId
  return { self with
    resultNodes := self.resultNodes ++ [nodeId]
    resultConfig := self.resultConfig ++ [node]
    taskNodes := self.taskNodes.insert nodeId }

/-- `parse_result`. -/
def parseResult (self : ChannelConfig) (doc : Json) :
    Except LoadError ChannelConfig :=
  Json.readIf Json.isArray doc "RESULT_NODES" self fun nodes =>
    nodes.elements.foldlM addResultNode
      { self with resultNodes := [], resultConfig := [] }

/-- The server ids of one member of a `POLICY` object, looked up again by the
member's name. -/
def readServerNodes (policy : Json) (nodeid : String) :
    Except LoadError (ExtTreeSet String) := do
  let serverNodes ← policy.subscript nodeid
  if serverNodes.isArray then
    serverNodes.elements.foldlM (fun nodeids entry => do
      let nodeid ← entry.getString
      return nodeids.insert nodeid) ∅
  else
    return ∅

/-- The pass of `parse_policy` over one member of a `POLICY` object. -/
def addPolicy (policy : Json) (self : ChannelConfig)
    (entry : String × Json) : Except LoadError ChannelConfig := do
  let nodeid := cString entry.1
  let nodeids ← readServerNodes policy nodeid
  return { self with
    mapPolicy := self.mapPolicy.insertIfNew nodeid nodeids }

/-- `parse_policy`. -/
def parsePolicy (self : ChannelConfig) (doc : Json) :
    Except LoadError ChannelConfig := do
  if ← doc.hasMember "POLICY" then
    let policy ← doc.subscript "POLICY"
    if policy.isString then
      let policyType ← getString doc "POLICY" "all" false
      return { self with policyType }
    else if policy.isObject then
      policy.members.foldlM (addPolicy policy) self
    else
      return self
  else
    return self

/-- The scalar settings that `parse` reads before the nodes.  The log level
is stored in eight bits and then limited to 2. -/
def parseSettings (self : ChannelConfig) (doc : Json) :
    Except LoadError ChannelConfig := do
  let taskId ← getString doc "TASK_ID" "" false
  let rootCert ← getString doc "ROOT_CERT" "" false
  let logLevel ← getInt doc "LOG_LEVEL" 2 false
  let bufferSize ← getInt doc "BUFFER_SIZE" (8 * 1024) false
  let pingTime ← getFloat doc "PING_TIME" 1 false
  let sendTimeout ← getFloat doc "SEND_TIMEOUT" 5 false
  let connTimeout ← getFloat doc "CONNECT_TIMEOUT" 5 false
  let connSync ← getBool doc "CONNECT_SYNC" false false
  return { self with
    taskId, rootCert, bufferSize, pingTime, sendTimeout, connTimeout, connSync
    logLevel := min (logLevel % 256).toNat 2 }

/-- `parse`. -/
def parse (self : ChannelConfig) (doc : Json) :
    Except LoadError ChannelConfig := do
  let withSettings ← self.parseSettings doc
  let withNodeInfo ← withSettings.parseNodeInfo doc
  let withData ← withNodeInfo.parseData doc
  let withCompute ← withData.parseCompute doc
  let withResult ← withCompute.parseResult doc
  withResult.parsePolicy doc

/-- The constructor `ChannelConfig(node_id, config_json)` on a text that
parses to the document.  `load` stores the node id too, before the parser
runs; the parser neither reads nor changes it. -/
def create (nodeId : String) (doc : Json) :
    Except LoadError ChannelConfig := do
  let parsed ← parse {} doc
  return { parsed with nodeId }

end ChannelConfig

end ChannelSdk
