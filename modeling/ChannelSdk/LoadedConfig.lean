import ChannelSdk.ParserLoops

/-!
# What a loaded configuration guarantees

Each stage of the parser is described by what it stores.  A load that
completes leaves a coherent configuration: every task node is described in
`NODE_INFO`, every description stands under its own id, and the data,
computation and result lists hold descriptions of task nodes, since the three
loops over task nodes look an id up before they add it.
-/

namespace ChannelSdk.ChannelConfig

open CheckedMemory CheckedFold FirstEntries
open Std (ExtTreeMap ExtTreeSet)

/-- A member that is absent is read as the default, so what was read may be
the default of a second reading. -/
theorem getString_of_default
    {doc : Json} {key value : String}
    (read : getString doc key "" false = .ok value) :
    getString doc key value false = .ok value := by
  rw [getString, getMember] at read ⊢
  rcases bind_eq_ok read with ⟨present, asked, read⟩
  rw [asked, ok_bind]
  cases present with
  | true => exact read
  | false => rfl

section Stages

variable {self result : ChannelConfig} {doc : Json}

/-- The settings do not touch the nodes; the root certificate is read with an
empty default. -/
theorem parseSettings_eq_ok
    (parsed : self.parseSettings doc = .ok result) :
    ∃ taskId rootCert logLevel bufferSize pingTime sendTimeout connTimeout
        connSync,
      result =
          { self with
            taskId, rootCert, logLevel, bufferSize, pingTime, sendTimeout
            connTimeout, connSync } ∧
        getString doc "ROOT_CERT" "" false = .ok rootCert := by
  rcases bind_eq_ok parsed with ⟨_, -, parsed⟩
  rcases bind_eq_ok parsed with ⟨rootCert, readCert, parsed⟩
  rcases bind_eq_ok parsed with ⟨_, -, parsed⟩
  rcases bind_eq_ok parsed with ⟨_, -, parsed⟩
  rcases bind_eq_ok parsed with ⟨_, -, parsed⟩
  rcases bind_eq_ok parsed with ⟨_, -, parsed⟩
  rcases bind_eq_ok parsed with ⟨_, -, parsed⟩
  rcases bind_eq_ok parsed with ⟨_, -, parsed⟩
  cases parsed
  exact ⟨_, rootCert, _, _, _, _, _, _, rfl, readCert⟩

theorem caCertPath_of_readNode
    {entry : Json} {caCert : String} {node : Node}
    (read : readNode entry caCert = .ok node) :
    node.caCertPath = caCert := by
  iterate 12
    rcases bind_eq_ok read with ⟨_, -, read⟩
  cases read
  rfl

/-- The nodes of `NODE_INFO` are stored; all have the root certificate. -/
theorem parseNodeInfo_eq_ok
    (parsed : self.parseNodeInfo doc = .ok result) :
    ∃ nodes viaToAddress glacier2ToInfo icegridToInfo,
      result =
          { self.insertNodes nodes with
            viaToAddress, glacier2ToInfo, icegridToInfo } ∧
        ∀ node ∈ nodes,
          getString doc "ROOT_CERT" self.rootCert false =
            .ok node.caCertPath := by
  rw [parseNodeInfo_eq] at parsed
  rcases Json.readIf_eq_ok parsed with rfl | ⟨entries, parsed⟩
  · refine ⟨[], _, _, _, rfl, ?_⟩
    intro node member
    cases member
  · rcases bind_eq_ok parsed with ⟨caCert, readCert, parsed⟩
    rcases bind_eq_ok parsed with ⟨nodes, readNodes, parsed⟩
    rcases bind_eq_ok parsed with ⟨_, -, parsed⟩
    rcases bind_eq_ok parsed with ⟨_, -, parsed⟩
    rcases bind_eq_ok parsed with ⟨_, -, parsed⟩
    cases parsed
    refine ⟨nodes, _, _, _, rfl, ?_⟩
    intro node member
    rcases exists_read_of_mem readNodes member with ⟨entry, -, read⟩
    rw [readCert, caCertPath_of_readNode read]

/-- The listed nodes stand in the table under their ids. -/
def Describes (table : ExtTreeMap String Node)
    (listed : List (String × Node)) : Prop :=
  ∀ member ∈ listed, table[member.1]? = some member.2

theorem describes_of_describe
    {table : ExtTreeMap String Node} {nodeIds : List String}
    {listed : List (String × Node)}
    (described : nodeIds.mapM (describe table) = .ok listed) :
    Describes table listed ∧ listed.map Prod.fst = nodeIds := by
  constructor
  · intro member isListed
    rcases exists_read_of_mem described isListed with ⟨nodeId, -, found⟩
    rcases describe_eq_ok_iff.mp found with ⟨rfl, present⟩
    exact present
  · rw [map_eq_map_of_mapM described fun _ _ found =>
      (describe_eq_ok_iff.mp found).1, List.map_id']

theorem describes_of_readTaskNode
    {table : ExtTreeMap String Node} {entries : List Json}
    {listed : List (String × Node)}
    (read : entries.mapM (readTaskNode table) = .ok listed) :
    Describes table listed := by
  intro member isListed
  rcases exists_read_of_mem read isListed with ⟨entry, -, readEntry⟩
  rcases bind_eq_ok readEntry with ⟨nodeId, -, found⟩
  rcases describe_eq_ok_iff.mp found with ⟨rfl, present⟩
  exact present

theorem readTaskNodes_eq_ok
    {key : String} {store : List (String × Node) → ChannelConfig}
    (read : self.readTaskNodes doc key store = .ok result) :
    result = self ∨
      ∃ listed, result = store listed ∧
        Describes self.nodeInfoConfig listed := by
  rcases Json.readIf_eq_ok read with rfl | ⟨nodes, read⟩
  · exact .inl rfl
  · rcases bind_eq_ok read with ⟨listed, readNodes, read⟩
    cases read
    exact .inr ⟨listed, rfl, describes_of_readTaskNode readNodes⟩

theorem parseData_eq_ok
    (noIds : self.dataNodes = []) (noNodes : self.dataConfig = [])
    (parsed : self.parseData doc = .ok result) :
    ∃ listed, result = self.withData listed ∧
      Describes self.nodeInfoConfig listed := by
  rw [parseData_eq] at parsed
  rcases readTaskNodes_eq_ok parsed with rfl | stored
  · refine ⟨[], ?_, by simp [Describes]⟩
    simp [withData, addTasks, ← noIds, ← noNodes]
  · exact stored

theorem parseCompute_eq_ok
    (noIds : self.computeNodes = ∅) (noNodes : self.computeConfig = [])
    (parsed : self.parseCompute doc = .ok result) :
    ∃ computeNodes listed, result = self.withCompute computeNodes listed ∧
      listed.map Prod.fst = computeNodes.keys ∧
      Describes self.nodeInfoConfig listed := by
  rw [parseCompute_eq] at parsed
  rcases Json.readIf_eq_ok parsed with rfl | ⟨nodes, parsed⟩
  · refine ⟨∅, [], ?_, by simp, by simp [Describes]⟩
    simp [withCompute, addTasks, ← noIds, ← noNodes]
  · rcases bind_eq_ok parsed with ⟨computeNodes, -, parsed⟩
    rcases bind_eq_ok parsed with ⟨listed, described, parsed⟩
    cases parsed
    rcases describes_of_describe described with ⟨describes, ids⟩
    exact ⟨computeNodes, listed, rfl, ids, describes⟩

theorem parseResult_eq_ok
    (noIds : self.resultNodes = []) (noNodes : self.resultConfig = [])
    (parsed : self.parseResult doc = .ok result) :
    ∃ listed, result = self.withResult listed ∧
      Describes self.nodeInfoConfig listed := by
  rw [parseResult_eq] at parsed
  rcases readTaskNodes_eq_ok parsed with rfl | stored
  · refine ⟨[], ?_, by simp [Describes]⟩
    simp [withResult, addTasks, ← noIds, ← noNodes]
  · exact stored

theorem parsePolicy_eq_ok
    (parsed : self.parsePolicy doc = .ok result) :
    ∃ policyType mapPolicy,
      result = { self with policyType, mapPolicy } := by
  rcases bind_eq_ok parsed with ⟨present, -, parsed⟩
  split at parsed
  · rcases bind_eq_ok parsed with ⟨policy, -, parsed⟩
    split at parsed
    · rcases bind_eq_ok parsed with ⟨policyType, -, parsed⟩
      cases parsed
      exact ⟨policyType, _, rfl⟩
    · split at parsed
      · rw [foldlM_addPolicy] at parsed
        rcases bind_eq_ok parsed with ⟨policies, -, parsed⟩
        cases parsed
        exact ⟨_, _, rfl⟩
      · cases parsed
        exact ⟨_, _, rfl⟩
  · cases parsed
    exact ⟨_, _, rfl⟩

end Stages

/-- What the stages of a load have stored: the nodes of `NODE_INFO` and the
members of the three roles with their descriptions. -/
structure Stored (config : ChannelConfig) (nodes : List Node)
    (dataMembers computeMembers resultMembers : List (String × Node)) :
    Prop where
  table :
    config.nodeInfoConfig =
      insertAll ∅ (nodes.map fun node => (node.nodeId, node))
  vias :
    config.nodeidToVia =
      insertAll ∅ (nodes.map fun node => (node.nodeId, node.via))
  glacier2s :
    config.nodeidToGlacier2 =
      insertAll ∅ (nodes.map fun node => (node.nodeId, node.gricer2))
  icegrids :
    config.nodeidToIcegrid =
      insertAll ∅ (nodes.map fun node => (node.nodeId, node.icegrid))
  certified : ∀ node ∈ nodes, node.caCertPath = config.rootCert
  dataIds : config.dataNodes = dataMembers.map Prod.fst
  dataNodes : config.dataConfig = dataMembers.map Prod.snd
  computeIds : config.computeNodes.keys = computeMembers.map Prod.fst
  computeNodes : config.computeConfig = computeMembers.map Prod.snd
  resultIds : config.resultNodes = resultMembers.map Prod.fst
  resultNodes : config.resultConfig = resultMembers.map Prod.snd
  tasks :
    config.taskNodes =
      addTasks (addTasks (addTasks ∅ dataMembers) computeMembers)
        resultMembers
  described :
    Describes config.nodeInfoConfig
      (dataMembers ++ computeMembers ++ resultMembers)

theorem exists_stored_of_parse
    {config : ChannelConfig} {doc : Json}
    (parsed : parse {} doc = .ok config) :
    ∃ nodes dataMembers computeMembers resultMembers,
      Stored config nodes dataMembers computeMembers resultMembers := by
  rcases bind_eq_ok parsed with ⟨withSettings, settings, parsed⟩
  rcases bind_eq_ok parsed with ⟨withNodeInfo, nodeInfo, parsed⟩
  rcases bind_eq_ok parsed with ⟨withData, data, parsed⟩
  rcases bind_eq_ok parsed with ⟨withCompute, compute, parsed⟩
  rcases bind_eq_ok parsed with ⟨withResult, results, policy⟩
  rcases parseSettings_eq_ok settings with
    ⟨_, rootCert, _, _, _, _, _, _, rfl, readCert⟩
  rcases parseNodeInfo_eq_ok nodeInfo with ⟨nodes, _, _, _, rfl, certified⟩
  rcases parseData_eq_ok rfl rfl data with ⟨dataMembers, rfl, dataDescribed⟩
  rcases parseCompute_eq_ok rfl rfl compute with
    ⟨computeNodes, computeMembers, rfl, computeIds, computeDescribed⟩
  rcases parseResult_eq_ok rfl rfl results with
    ⟨resultMembers, rfl, resultDescribed⟩
  rcases parsePolicy_eq_ok policy with ⟨_, _, rfl⟩
  refine ⟨nodes, dataMembers, computeMembers, resultMembers, rfl, rfl, rfl,
    rfl, ?_, rfl, rfl, computeIds.symm, rfl, rfl, rfl, rfl, ?_⟩
  · intro node member
    have reread := getString_of_default readCert
    rw [certified node member] at reread
    cases reread
    rfl
  · intro member isListed
    rcases List.mem_append.mp isListed with earlier | inResult
    · rcases List.mem_append.mp earlier with inData | inCompute
      · exact dataDescribed member inData
      · exact computeDescribed member inCompute
    · exact resultDescribed member inResult

/-- The nodes in the order in which `GetNode` looks them up. -/
def listedNodes (config : ChannelConfig) : List Node :=
  config.dataConfig ++ config.computeConfig ++ config.resultConfig

section Loaded

variable {config : ChannelConfig} {nodes : List Node}
variable {dataMembers computeMembers resultMembers : List (String × Node)}
variable
    (stored :
      Stored config nodes dataMembers computeMembers resultMembers)

include stored

/-- Every description stands under its own id. -/
theorem Stored.mem_nodes
    {nodeId : String} {node : Node}
    (found : config.nodeInfoConfig[nodeId]? = some node) :
    node ∈ nodes ∧ node.nodeId = nodeId := by
  rw [stored.table, getElem?_insertAll, ExtTreeMap.getElem?_empty,
    Option.none_or] at found
  have entry := mem_of_firstValue_eq_some found
  rcases List.mem_map.mp entry with ⟨described, isNode, same⟩
  cases same
  exact ⟨isNode, rfl⟩

theorem Stored.ownId :
    ∀ member ∈ dataMembers ++ computeMembers ++ resultMembers,
      member.2.nodeId = member.1 := by
  intro member isListed
  exact (stored.mem_nodes (stored.described member isListed)).2

theorem Stored.listedNodes_eq :
    config.listedNodes =
      (dataMembers ++ computeMembers ++ resultMembers).map Prod.snd := by
  simp only [listedNodes, stored.dataNodes, stored.computeNodes,
    stored.resultNodes, List.map_append]

theorem Stored.mem_taskNodes_iff (nodeId : String) :
    nodeId ∈ config.taskNodes ↔
      nodeId ∈
        (dataMembers ++ computeMembers ++ resultMembers).map Prod.fst := by
  simp only [stored.tasks, mem_addTasks, ExtTreeSet.not_mem_empty, false_or,
    List.map_append, List.mem_append]

end Loaded

structure Coherent (config : ChannelConfig) : Prop where
  described : ∀ nodeId ∈ config.taskNodes, nodeId ∈ config.nodeInfoConfig
  keyed :
    ∀ (nodeId : String) (node : Node),
      config.nodeInfoConfig[nodeId]? = some node → node.nodeId = nodeId
  listed : ∀ node ∈ config.listedNodes, node.nodeId ∈ config.taskNodes

theorem coherent_of_parse
    {config : ChannelConfig} {doc : Json}
    (parsed : parse {} doc = .ok config) : Coherent config := by
  rcases exists_stored_of_parse parsed with
    ⟨nodes, dataMembers, computeMembers, resultMembers, stored⟩
  refine ⟨?_, ?_, ?_⟩
  · intro nodeId isTask
    rw [stored.mem_taskNodes_iff] at isTask
    rcases List.mem_map.mp isTask with ⟨member, isListed, rfl⟩
    rw [ExtTreeMap.mem_iff_isSome_getElem?, stored.described member isListed]
    rfl
  · intro nodeId node found
    exact (stored.mem_nodes found).2
  · intro node isListed
    rw [stored.listedNodes_eq] at isListed
    rcases List.mem_map.mp isListed with ⟨member, isMember, rfl⟩
    rw [stored.mem_taskNodes_iff, stored.ownId member isMember]
    exact List.mem_map_of_mem isMember

/-- Only the node table, the set of task nodes and the lists matter. -/
theorem Coherent.of_same
    {config next : ChannelConfig} (coherent : Coherent config)
    (sameTable : next.nodeInfoConfig = config.nodeInfoConfig)
    (sameTasks : next.taskNodes = config.taskNodes)
    (fewer : ∀ node ∈ next.listedNodes, node ∈ config.listedNodes) :
    Coherent next where
  described := by
    rw [sameTable, sameTasks]
    exact coherent.described
  keyed := by
    rw [sameTable]
    exact coherent.keyed
  listed := by
    intro node member
    rw [sameTasks]
    exact coherent.listed node (fewer node member)

/-- The processes that load one document differ in their node id only. -/
theorem create_eq_ok
    {nodeId : String} {doc : Json} {config : ChannelConfig}
    (loaded : create nodeId doc = .ok config) :
    ∃ parsed, ChannelConfig.parse {} doc = .ok parsed ∧
      config = { parsed with nodeId := nodeId } := by
  rcases bind_eq_ok loaded with ⟨parsed, completed, loaded⟩
  cases loaded
  exact ⟨parsed, completed, rfl⟩

theorem coherent_of_create
    {nodeId : String} {doc : Json} {config : ChannelConfig}
    (loaded : create nodeId doc = .ok config) :
    Coherent config := by
  rcases create_eq_ok loaded with ⟨parsed, completed, rfl⟩
  exact (coherent_of_parse completed).of_same rfl rfl fun _ member => member

end ChannelSdk.ChannelConfig
