import ChannelSdk.Lib.StableQuery
import ChannelSdk.ServerRecords

/-!
# Queries of a configuration do not disturb each other

`GetNode`, `GetNodeType`, `CopyNodeInfo` and `GetNodeInfos` are asked in any
order.  The last two look maps up with `operator[]` and leave default entries
behind, also when they throw half-way.  Two configurations are the same to
every query when the tables that are searched are equal and the maps that are
subscripted give the same values with the defaults; every query keeps a
configuration within its class and answers alike within a class.
-/

namespace ChannelSdk.ChannelConfig

open StableQuery
open Std (ExtTreeMap ExtTreeSet)

/-- Everything that one of the queries reads. -/
structure SameAnswers (config next : ChannelConfig) : Prop where
  lookups : SameLookups config next
  dataConfig : next.dataConfig = config.dataConfig
  computeConfig : next.computeConfig = config.computeConfig
  resultConfig : next.resultConfig = config.resultConfig
  rootCert : next.rootCert = config.rootCert
  viaAddress :
    ∀ name, next.viaToAddress.getD name "" =
      config.viaToAddress.getD name ""
  icegrid :
    ∀ nodeId, next.nodeidToIcegrid.getD nodeId "" =
      config.nodeidToIcegrid.getD nodeId ""
  icegridInfo :
    ∀ name, next.icegridToInfo.getD name {} =
      config.icegridToInfo.getD name {}

namespace SameAnswers

variable {config middle next : ChannelConfig}

theorem refl (config : ChannelConfig) : SameAnswers config config :=
  ⟨.refl config, rfl, rfl, rfl, rfl, fun _ => rfl, fun _ => rfl,
    fun _ => rfl⟩

theorem symm (same : SameAnswers config next) : SameAnswers next config where
  lookups :=
    { tables :=
        { nodeInfoConfig := same.lookups.tables.nodeInfoConfig.symm
          taskNodes := same.lookups.tables.taskNodes.symm
          mapPolicy := same.lookups.tables.mapPolicy.symm }
      via := fun nodeId => (same.lookups.via nodeId).symm
      glacier2 := fun nodeId => (same.lookups.glacier2 nodeId).symm
      glacier2Info := fun name => (same.lookups.glacier2Info name).symm }
  dataConfig := same.dataConfig.symm
  computeConfig := same.computeConfig.symm
  resultConfig := same.resultConfig.symm
  rootCert := same.rootCert.symm
  viaAddress := fun name => (same.viaAddress name).symm
  icegrid := fun nodeId => (same.icegrid nodeId).symm
  icegridInfo := fun name => (same.icegridInfo name).symm

theorem trans
    (first : SameAnswers config middle) (second : SameAnswers middle next) :
    SameAnswers config next where
  lookups := first.lookups.trans second.lookups
  dataConfig := second.dataConfig.trans first.dataConfig
  computeConfig := second.computeConfig.trans first.computeConfig
  resultConfig := second.resultConfig.trans first.resultConfig
  rootCert := second.rootCert.trans first.rootCert
  viaAddress := fun name =>
    (second.viaAddress name).trans (first.viaAddress name)
  icegrid := fun nodeId => (second.icegrid nodeId).trans (first.icegrid nodeId)
  icegridInfo := fun name =>
    (second.icegridInfo name).trans (first.icegridInfo name)

theorem equivalence : Equivalence SameAnswers :=
  ⟨refl, symm, trans⟩

theorem taskNodes (same : SameAnswers config next) :
    next.taskNodes = config.taskNodes :=
  same.lookups.tables.taskNodes

theorem mapPolicy (same : SameAnswers config next) :
    next.mapPolicy = config.mapPolicy :=
  same.lookups.tables.mapPolicy

end SameAnswers

/-! ## The queries one by one -/

theorem stable_getInfoByNodeId (topology : Topology) (nodeId : String) :
    Stable SameAnswers fun config =>
      config.getInfoByNodeId topology nodeId := by
  constructor
  · intro config
    unfold getInfoByNodeId
    split
    · exact .refl config
    · refine ⟨⟨⟨rfl, rfl, rfl⟩, ?_, ?_, ?_⟩, rfl, rfl, rfl, rfl,
        fun _ => rfl, fun _ => rfl, fun _ => rfl⟩
      · exact fun _ => getD_insertIfNew_default _ _ _ _
      · exact fun _ => getD_insertIfNew_default _ _ _ _
      · exact fun _ => getD_insertIfNew_default _ _ _ _
  · intro config next same
    have lookups := same.lookups
    unfold getInfoByNodeId
    rw [lookups.tables.nodeInfoConfig]
    split
    · rfl
    · simp only [mapSubscript, lookups.via, lookups.glacier2,
        lookups.glacier2Info]

theorem stable_getInfoByNodeIds (nodeIds : List String) :
    ∀ topology : Topology,
      Stable SameAnswers fun config =>
        config.getInfoByNodeIds topology nodeIds := by
  induction nodeIds with
  | nil =>
      intro topology
      exact Stable.read SameAnswers.equivalence fun _ _ _ => rfl
  | cons nodeId rest inductionHypothesis =>
      intro topology
      have sequenced :=
        Stable.andThen SameAnswers.equivalence
          (stable_getInfoByNodeId topology nodeId) inductionHypothesis
      apply sequenced.congr
      intro config
      rw [getInfoByNodeIds, andThen]
      rcases config.getInfoByNodeId topology nodeId with ⟨_ | _, _⟩ <;> rfl

theorem stable_getAllNodeInfos (topology : Topology) (nodeId : String) :
    Stable SameAnswers fun config =>
      config.getAllNodeInfos topology nodeId := by
  constructor
  · intro config
    exact (stable_getInfoByNodeIds _ topology).leaves config
  · intro config next same
    unfold getAllNodeInfos
    rw [same.taskNodes]
    exact (stable_getInfoByNodeIds _ topology).answers config next same

theorem stable_getServers
    (topology : Topology) (serverIds : ExtTreeSet String) :
    Stable SameAnswers fun config =>
      config.getServers topology serverIds := by
  have kept :
      ∀ found : Topology,
        Stable SameAnswers fun config =>
          ((.ok { topology with serverInfos := found.serverInfos }, config) :
            Except Event Topology × ChannelConfig) :=
    fun _ => Stable.read SameAnswers.equivalence fun _ _ _ => rfl
  have sequenced :=
    Stable.andThen SameAnswers.equivalence
      (stable_getInfoByNodeIds serverIds.toList
        { topology with clientNodeIds := ∅ }) kept
  apply sequenced.congr
  intro config
  rw [getServers, andThen]
  rcases config.getInfoByNodeIds { topology with clientNodeIds := ∅ }
    serverIds.toList with ⟨_ | _, _⟩ <;> rfl

theorem stable_scanPolicy
    (nodeId : String) (entries : List (String × ExtTreeSet String)) :
    ∀ topology : Topology,
      Stable SameAnswers fun config =>
        config.scanPolicy topology nodeId entries := by
  induction entries with
  | nil =>
      intro topology
      exact Stable.read SameAnswers.equivalence fun _ _ _ => rfl
  | cons entry rest inductionHypothesis =>
      rcases entry with ⟨key, serverIds⟩
      intro topology
      have pass :
          Stable SameAnswers fun config : ChannelConfig =>
            if key = nodeId then config.getServers topology serverIds
            else (.ok topology, config) := by
        by_cases own : key = nodeId
        · simp only [if_pos own]
          exact stable_getServers topology serverIds
        · simp only [if_neg own]
          exact Stable.read SameAnswers.equivalence fun _ _ _ => rfl
      have sequenced :=
        Stable.andThen SameAnswers.equivalence pass fun found =>
          inductionHypothesis (addClient found nodeId key serverIds)
      apply sequenced.congr
      intro config
      rw [scanPolicy, andThen]
      rcases (if key = nodeId then config.getServers topology serverIds
        else (.ok topology, config)) with ⟨_ | _, _⟩ <;> rfl

/-- The query of a node with a policy. -/
theorem stable_scanWhole
    (topology : Topology) (nodeId : String)
    (entries : List (String × ExtTreeSet String)) :
    Stable SameAnswers fun config =>
      (match config.scanPolicy topology nodeId entries with
      | (.ok found, next) =>
          if found.clientNodeIds.isEmpty ∧
              found.serverInfos.toList.isEmpty then
            (.error (.neitherClientServer nodeId), next)
          else (.ok found, next)
      | (.error event, next) => (.error event, next) :
        Except Event Topology × ChannelConfig) := by
  have concluded :
      ∀ found : Topology,
        Stable SameAnswers fun config =>
          (if found.clientNodeIds.isEmpty ∧
              found.serverInfos.toList.isEmpty then
            (.error (.neitherClientServer nodeId), config)
          else (.ok found, config) :
            Except Event Topology × ChannelConfig) := by
    intro found
    by_cases isAlone :
        found.clientNodeIds.isEmpty ∧ found.serverInfos.toList.isEmpty
    · simp only [if_pos isAlone]
      exact Stable.read SameAnswers.equivalence fun _ _ _ => rfl
    · simp only [if_neg isAlone]
      exact Stable.read SameAnswers.equivalence fun _ _ _ => rfl
  have scanned :=
    Stable.andThen SameAnswers.equivalence
      (stable_scanPolicy nodeId entries topology) concluded
  apply scanned.congr
  intro config
  rw [andThen]
  rcases config.scanPolicy topology nodeId entries with ⟨_ | _, _⟩ <;> rfl

theorem stable_getNodeInfos (topology : Topology) (nodeId : String) :
    Stable SameAnswers fun config =>
      config.getNodeInfos topology nodeId := by
  constructor
  · intro config
    unfold getNodeInfos
    split
    · exact (stable_getAllNodeInfos topology nodeId).leaves config
    · exact (stable_scanWhole topology nodeId _).leaves config
  · intro config next same
    unfold getNodeInfos
    rw [same.mapPolicy]
    split
    · exact (stable_getAllNodeInfos topology nodeId).answers config next same
    · exact (stable_scanWhole topology nodeId _).answers config next same

theorem stable_copyNodeInfo (node : Node) :
    Stable SameAnswers fun config => config.copyNodeInfo node := by
  constructor
  · intro config
    refine ⟨sameLookups_copyNodeInfo config node, rfl, rfl, rfl, rfl, ?_, ?_,
      ?_⟩
    · exact fun _ => getD_insertIfNew_default _ _ _ _
    · exact fun _ => getD_insertIfNew_default _ _ _ _
    · exact fun _ => getD_insertIfNew_default _ _ _ _
  · intro config next same
    have lookups := same.lookups
    simp only [copyNodeInfo, mapSubscript, lookups.via, lookups.glacier2,
      lookups.glacier2Info, same.viaAddress, same.icegrid, same.icegridInfo,
      same.rootCert]

theorem SameAnswers.listedNodes_eq
    {config next : ChannelConfig} (same : SameAnswers config next) :
    next.listedNodes = config.listedNodes := by
  unfold listedNodes
  rw [same.dataConfig, same.computeConfig, same.resultConfig]

/-! ## Sequences of queries -/

/-- A query with its arguments.  A `GetNodeInfos` brings fresh output sets. -/
inductive Query where
  | getNode (nodeId : String)
  | getNodeType (nodeId : String)
  | copyNodeInfo (node : Node)
  | getNodeInfos (nodeId : String)

/-- What a query returns or throws. -/
inductive Answer where
  | node (found : Except Event Node)
  | nodeTypes (types : List NodeType)
  | nodeInfo (copied : NodeInfo)
  | topology (found : Except Event Topology)

/-- The answer of a query and the configuration that it leaves behind. -/
def Query.ask : Query → ChannelConfig → Answer × ChannelConfig
  | .getNode nodeId, config => (.node (config.getNode nodeId), config)
  | .getNodeType nodeId, config =>
      (.nodeTypes (config.getNodeType nodeId), config)
  | .copyNodeInfo node, config =>
      let (copied, next) := config.copyNodeInfo node
      (.nodeInfo copied, next)
  | .getNodeInfos nodeId, config =>
      let (found, next) := config.getNodeInfos {} nodeId
      (.topology found, next)

theorem stable_ask (query : Query) : Stable SameAnswers query.ask := by
  cases query with
  | getNode nodeId =>
      apply Stable.read SameAnswers.equivalence
      intro config next same
      rw [getNode, getNode, same.listedNodes_eq]
  | getNodeType nodeId =>
      apply Stable.read SameAnswers.equivalence
      intro config next same
      rw [getNodeType, getNodeType, same.dataConfig, same.computeConfig,
        same.resultConfig]
  | copyNodeInfo node =>
      have stable := stable_copyNodeInfo node
      exact ⟨stable.leaves, fun config next same =>
        congrArg Answer.nodeInfo (stable.answers config next same)⟩
  | getNodeInfos nodeId =>
      have stable := stable_getNodeInfos {} nodeId
      exact ⟨stable.leaves, fun config next same =>
        congrArg Answer.topology (stable.answers config next same)⟩

/-- In every sequence of queries of a configuration, loaded from whatever
document, each query answers as it would have answered first. -/
theorem queries_do_not_disturb
    (config : ChannelConfig) (queries : List Query) :
    answersOf config (queries.map Query.ask) =
      queries.map fun query => (query.ask config).1 := by
  have stable :
      ∀ ask ∈ queries.map Query.ask, Stable SameAnswers ask := by
    intro ask member
    rcases List.mem_map.mp member with ⟨query, -, rfl⟩
    exact stable_ask query
  rw [answersOf_eq_map SameAnswers.equivalence stable
    (SameAnswers.refl config), List.map_map]
  rfl

end ChannelSdk.ChannelConfig
