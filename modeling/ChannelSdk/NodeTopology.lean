import ChannelSdk.LoadedConfig

/-!
# Clients and servers of a node

The querying half of `core/src/config.cc`: `GetNodeInfos` with its helpers.
With a policy the servers of a node stand under its own key and its clients
are the other keys whose sets contain it; without one every other node of the
task is both.

The queries look maps up with `operator[]`, which inserts a default entry for
an absent key, so they return the configuration they leave behind, also when
they throw.
-/

namespace ChannelSdk

open Std (ExtTreeMap ExtTreeSet)

/-- `ViaInfo`. -/
structure ViaInfo where
  id : String
  viaAddress : String
  via : String
  glacier2Info : IcePlugCfg
  serverCertPath : String := ""
  caCertPath : String := ""
  certDir : String := ""
  clientKeyPath : String := ""
  clientCertPath : String := ""
  password : String := ""
  deriving DecidableEq, Repr

/-- `GetCertInfosFromNode`. -/
def getCertInfosFromNode (viaTmp : ViaInfo) (node : Node) : ViaInfo :=
  { viaTmp with
    certDir := node.certDir
    caCertPath := node.caCertPath
    serverCertPath := node.serverCertPath
    clientKeyPath := node.clientKeyPath
    clientCertPath := node.clientCertPath
    password := node.password }

/-- `set<ViaInfo>`, whose order compares the ids: the record of every id. -/
structure ViaInfoSet where
  records : ExtTreeMap String ViaInfo
  keyed :
    ∀ (id : String) (info : ViaInfo), records[id]? = some info → info.id = id

namespace ViaInfoSet

def empty : ViaInfoSet where
  records := ∅
  keyed := by simp

/-- `emplace`: a record whose id is present is not inserted. -/
def emplace (self : ViaInfoSet) (info : ViaInfo) : ViaInfoSet where
  records := self.records.insertIfNew info.id info
  keyed := by
    intro id found
    rw [ExtTreeMap.getElem?_insertIfNew]
    split
    · next inserted =>
        intro same
        cases same
        exact Std.LawfulEqCmp.eq_of_compare inserted.1
    · exact self.keyed id found

/-- The records in ascending order of their ids. -/
def toList (self : ViaInfoSet) : List ViaInfo :=
  self.records.toList.map Prod.snd

/-- The ids of the records, in ascending order. -/
def ids (self : ViaInfoSet) : List String :=
  self.toList.map ViaInfo.id

theorem ids_eq_keys (self : ViaInfoSet) : self.ids = self.records.keys := by
  rw [ids, toList, List.map_map, ← ExtTreeMap.map_fst_toList_eq_keys]
  apply List.map_congr_left
  intro entry member
  rcases entry with ⟨id, info⟩
  exact self.keyed id info
    (ExtTreeMap.mem_toList_iff_getElem?_eq_some.mp member)

theorem isSome_record_iff
    {self : ViaInfoSet} {id : String} :
    (self.records[id]?).isSome ↔ id ∈ self.ids := by
  rw [self.ids_eq_keys, ExtTreeMap.mem_keys,
    ExtTreeMap.mem_iff_isSome_getElem?]

theorem nodup_ids (self : ViaInfoSet) : self.ids.Nodup := by
  rw [ids_eq_keys]
  exact ExtTreeMap.nodup_keys

@[simp]
theorem ids_empty : empty.ids = [] := by
  simp [ids_eq_keys, empty]

@[simp]
theorem mem_ids_emplace
    {self : ViaInfoSet} {info : ViaInfo} {id : String} :
    id ∈ (self.emplace info).ids ↔ id ∈ self.ids ∨ id = info.id := by
  simp only [ids_eq_keys, ExtTreeMap.mem_keys, emplace,
    ExtTreeMap.mem_insertIfNew, Std.LawfulEqCmp.compare_eq_iff_eq]
  rw [or_comm, eq_comm]

end ViaInfoSet

/-- The output sets of `GetNodeInfos`. -/
structure Topology where
  clientNodeIds : ExtTreeSet String := ∅
  serverInfos : ViaInfoSet := .empty

/-- `operator[]` of `std::map`: the value of a key, which is inserted with the
default value when it is absent. -/
def mapSubscript {Value : Type} (map : ExtTreeMap String Value)
    (key : String) (defaultValue : Value) :
    Value × ExtTreeMap String Value :=
  (map.getD key defaultValue, map.insertIfNew key defaultValue)

namespace ChannelConfig

/-- `GetInfoByNodeId`. -/
def getInfoByNodeId (self : ChannelConfig) (topology : Topology)
    (nodeId : String) : Except Event Topology × ChannelConfig :=
  match self.nodeInfoConfig[nodeId]? with
  | none => (.error (.noFindNid nodeId), self)
  | some node =>
      let (via, nodeidToVia) := mapSubscript self.nodeidToVia nodeId ""
      let (glacier2, nodeidToGlacier2) :=
        mapSubscript self.nodeidToGlacier2 nodeId ""
      let (glacier2Info, glacier2ToInfo) :=
        mapSubscript self.glacier2ToInfo glacier2 {}
      let viaTmp : ViaInfo :=
        { id := nodeId, via, glacier2Info, viaAddress := node.address }
      (.ok
        { clientNodeIds := topology.clientNodeIds.insert nodeId
          serverInfos :=
            topology.serverInfos.emplace (getCertInfosFromNode viaTmp node) },
        { self with nodeidToVia, nodeidToGlacier2, glacier2ToInfo })

/-- A loop of calls of `GetInfoByNodeId`. -/
def getInfoByNodeIds (self : ChannelConfig) (topology : Topology) :
    List String → Except Event Topology × ChannelConfig
  | [] => (.ok topology, self)
  | nodeId :: rest =>
      match self.getInfoByNodeId topology nodeId with
      | (.ok found, next) => next.getInfoByNodeIds found rest
      | (.error event, next) => (.error event, next)

/-- `GetAllNodeInfos`. -/
def getAllNodeInfos (self : ChannelConfig) (topology : Topology)
    (nodeId : String) : Except Event Topology × ChannelConfig :=
  self.getInfoByNodeIds topology
    (self.taskNodes.toList.filter fun nid => nodeId ≠ nid)

/-- The servers under the node's own policy key.  The ids are collected as
clients too, in a set that is dropped. -/
def getServers (self : ChannelConfig) (topology : Topology)
    (serverIds : ExtTreeSet String) :
    Except Event Topology × ChannelConfig :=
  match self.getInfoByNodeIds { topology with clientNodeIds := ∅ }
      serverIds.toList with
  | (.ok found, next) =>
      (.ok { topology with serverInfos := found.serverInfos }, next)
  | (.error event, next) => (.error event, next)

/-- The clients that one policy key contributes. -/
def addClient (topology : Topology) (nodeId key : String)
    (serverIds : ExtTreeSet String) : Topology :=
  if key ≠ nodeId ∧ nodeId ∈ serverIds then
    { topology with clientNodeIds := topology.clientNodeIds.insert key }
  else topology

/-- The loop of `GetNodeInfos` over the policy. -/
def scanPolicy (self : ChannelConfig) (topology : Topology)
    (nodeId : String) :
    List (String × ExtTreeSet String) →
      Except Event Topology × ChannelConfig
  | [] => (.ok topology, self)
  | (key, serverIds) :: rest =>
      match
        if key = nodeId then self.getServers topology serverIds
        else (.ok topology, self) with
      | (.ok found, next) =>
          next.scanPolicy (addClient found nodeId key serverIds) nodeId rest
      | (.error event, next) => (.error event, next)

/-- `GetNodeInfos`. -/
def getNodeInfos (self : ChannelConfig) (topology : Topology)
    (nodeId : String) : Except Event Topology × ChannelConfig :=
  if self.mapPolicy.size = 0 then
    self.getAllNodeInfos topology nodeId
  else
    match self.scanPolicy topology nodeId self.mapPolicy.toList with
    | (.ok found, next) =>
        if found.clientNodeIds.isEmpty ∧ found.serverInfos.toList.isEmpty then
          (.error (.neitherClientServer nodeId), next)
        else (.ok found, next)
    | (.error event, next) => (.error event, next)

/-- The tables that no query changes. -/
structure SameTables (config next : ChannelConfig) : Prop where
  nodeInfoConfig : next.nodeInfoConfig = config.nodeInfoConfig
  taskNodes : next.taskNodes = config.taskNodes
  mapPolicy : next.mapPolicy = config.mapPolicy

namespace SameTables

theorem refl (config : ChannelConfig) : SameTables config config :=
  ⟨rfl, rfl, rfl⟩

theorem trans
    {config middle next : ChannelConfig}
    (first : SameTables config middle) (second : SameTables middle next) :
    SameTables config next :=
  ⟨second.nodeInfoConfig.trans first.nodeInfoConfig,
    second.taskNodes.trans first.taskNodes,
    second.mapPolicy.trans first.mapPolicy⟩

end SameTables

theorem getInfoByNodeId_of_known
    {self : ChannelConfig} {nodeId : String}
    (known : nodeId ∈ self.nodeInfoConfig) (topology : Topology) :
    ∃ found next,
      self.getInfoByNodeId topology nodeId = (.ok found, next) ∧
        SameTables self next ∧
        (∀ id, id ∈ found.clientNodeIds ↔
          id ∈ topology.clientNodeIds ∨ id = nodeId) ∧
        (∀ id, id ∈ found.serverInfos.ids ↔
          id ∈ topology.serverInfos.ids ∨ id = nodeId) := by
  rcases Option.isSome_iff_exists.mp
      (ExtTreeMap.mem_iff_isSome_getElem?.mp known) with ⟨node, present⟩
  rw [getInfoByNodeId, present]
  refine ⟨_, _, rfl, ⟨rfl, rfl, rfl⟩, ?_, ?_⟩
  · intro id
    rw [ExtTreeSet.mem_insert, Std.LawfulEqCmp.compare_eq_iff_eq, or_comm,
      eq_comm]
  · intro id
    exact ViaInfoSet.mem_ids_emplace

theorem getInfoByNodeId_of_unknown
    {self : ChannelConfig} {nodeId : String}
    (unknown : nodeId ∉ self.nodeInfoConfig) (topology : Topology) :
    self.getInfoByNodeId topology nodeId =
      (.error (.noFindNid nodeId), self) := by
  rw [getInfoByNodeId, ExtTreeMap.getElem?_eq_none unknown]

theorem getInfoByNodeIds_of_known
    {nodeIds : List String} :
    ∀ {self : ChannelConfig} (topology : Topology),
      (∀ id ∈ nodeIds, id ∈ self.nodeInfoConfig) →
      ∃ found next,
        self.getInfoByNodeIds topology nodeIds = (.ok found, next) ∧
          SameTables self next ∧
          (∀ id, id ∈ found.clientNodeIds ↔
            id ∈ topology.clientNodeIds ∨ id ∈ nodeIds) ∧
          (∀ id, id ∈ found.serverInfos.ids ↔
            id ∈ topology.serverInfos.ids ∨ id ∈ nodeIds) := by
  induction nodeIds with
  | nil =>
      intro self topology _
      exact ⟨topology, self, rfl, .refl self, by simp, by simp⟩
  | cons nodeId rest inductionHypothesis =>
      intro self topology known
      rcases getInfoByNodeId_of_known
          (known nodeId (List.mem_cons_self ..)) topology with
        ⟨middle, between, first, sameFirst, clientsFirst, serversFirst⟩
      have knownRest : ∀ id ∈ rest, id ∈ between.nodeInfoConfig := by
        intro id member
        rw [sameFirst.nodeInfoConfig]
        exact known id (List.mem_cons_of_mem _ member)
      rcases inductionHypothesis middle knownRest with
        ⟨found, next, later, sameLater, clientsLater, serversLater⟩
      refine ⟨found, next, ?_, sameFirst.trans sameLater, ?_, ?_⟩
      · rw [getInfoByNodeIds, first]
        exact later
      · intro id
        rw [clientsLater, clientsFirst, List.mem_cons, or_assoc]
      · intro id
        rw [serversLater, serversFirst, List.mem_cons, or_assoc]

theorem getInfoByNodeIds_of_unknown
    {nodeIds : List String} :
    ∀ {self : ChannelConfig} (topology : Topology),
      (∃ id ∈ nodeIds, id ∉ self.nodeInfoConfig) →
      ∃ event next,
        self.getInfoByNodeIds topology nodeIds = (.error event, next) := by
  induction nodeIds with
  | nil =>
      intro self topology missing
      rcases missing with ⟨id, member, -⟩
      cases member
  | cons nodeId rest inductionHypothesis =>
      intro self topology missing
      rcases missing with ⟨id, member, unknown⟩
      by_cases known : nodeId ∈ self.nodeInfoConfig
      · rcases getInfoByNodeId_of_known known topology with
          ⟨middle, between, first, sameFirst, -, -⟩
        have later : id ∈ rest := by
          rcases List.mem_cons.mp member with rfl | later
          · exact absurd known unknown
          · exact later
        rw [getInfoByNodeIds, first]
        refine inductionHypothesis middle ⟨id, later, ?_⟩
        rw [sameFirst.nodeInfoConfig]
        exact unknown
      · rw [getInfoByNodeIds, getInfoByNodeId_of_unknown known]
        exact ⟨_, _, rfl⟩

theorem getServers_of_known
    {self : ChannelConfig} {serverIds : ExtTreeSet String}
    (topology : Topology)
    (known : ∀ id ∈ serverIds, id ∈ self.nodeInfoConfig) :
    ∃ found next,
      self.getServers topology serverIds = (.ok found, next) ∧
        SameTables self next ∧
        found.clientNodeIds = topology.clientNodeIds ∧
        (∀ id, id ∈ found.serverInfos.ids ↔
          id ∈ topology.serverInfos.ids ∨ id ∈ serverIds) := by
  rcases getInfoByNodeIds_of_known { topology with clientNodeIds := ∅ }
      (fun id member => known id (ExtTreeSet.mem_toList.mp member)) with
    ⟨found, next, collected, same, -, servers⟩
  refine ⟨{ topology with serverInfos := found.serverInfos }, next, ?_, same,
    rfl, ?_⟩
  · rw [getServers, collected]
  · intro id
    rw [servers, ExtTreeSet.mem_toList]

theorem getServers_of_unknown
    {self : ChannelConfig} {serverIds : ExtTreeSet String}
    (topology : Topology)
    (unknown : ∃ id ∈ serverIds, id ∉ self.nodeInfoConfig) :
    ∃ event next,
      self.getServers topology serverIds = (.error event, next) := by
  rcases unknown with ⟨id, member, unknown⟩
  rcases getInfoByNodeIds_of_unknown { topology with clientNodeIds := ∅ }
      ⟨id, ExtTreeSet.mem_toList.mpr member, unknown⟩ with
    ⟨event, next, failed⟩
  refine ⟨event, next, ?_⟩
  rw [getServers, failed]

@[simp]
theorem serverInfos_addClient
    (topology : Topology) (nodeId key : String)
    (serverIds : ExtTreeSet String) :
    (addClient topology nodeId key serverIds).serverInfos =
      topology.serverInfos := by
  rw [addClient]
  split <;> rfl

theorem mem_clientNodeIds_addClient
    {topology : Topology} {nodeId key id : String}
    {serverIds : ExtTreeSet String} :
    id ∈ (addClient topology nodeId key serverIds).clientNodeIds ↔
      id ∈ topology.clientNodeIds ∨
        (id = key ∧ id ≠ nodeId ∧ nodeId ∈ serverIds) := by
  rw [addClient]
  split
  · next isClient =>
      rw [ExtTreeSet.mem_insert, Std.LawfulEqCmp.compare_eq_iff_eq]
      constructor
      · intro isMember
        rcases isMember with rfl | older
        · exact .inr ⟨rfl, isClient⟩
        · exact .inl older
      · intro isMember
        rcases isMember with older | ⟨rfl, -⟩
        · exact .inr older
        · exact .inl rfl
  · next isNoClient =>
      constructor
      · exact .inl
      · intro isMember
        rcases isMember with older | ⟨rfl, isClient⟩
        · exact older
        · exact absurd isClient isNoClient

/-- One pass of the loop over the policy. -/
theorem getServers_pass_of_known
    {self : ChannelConfig} {nodeId key : String}
    {serverIds : ExtTreeSet String} (topology : Topology)
    (known :
      key = nodeId → ∀ id ∈ serverIds, id ∈ self.nodeInfoConfig) :
    ∃ found next,
      (if key = nodeId then self.getServers topology serverIds
        else (.ok topology, self)) = (.ok found, next) ∧
        SameTables self next ∧
        found.clientNodeIds = topology.clientNodeIds ∧
        (∀ id, id ∈ found.serverInfos.ids ↔
          id ∈ topology.serverInfos.ids ∨
            (key = nodeId ∧ id ∈ serverIds)) := by
  by_cases own : key = nodeId
  · rcases getServers_of_known topology (known own) with
      ⟨found, next, collected, same, clients, servers⟩
    refine ⟨found, next, ?_, same, clients, ?_⟩
    · rw [if_pos own]
      exact collected
    · intro id
      simp [servers, own]
  · exact ⟨topology, self, if_neg own, .refl self, rfl, by simp [own]⟩

theorem scanPolicy_of_known
    {nodeId : String} {entries : List (String × ExtTreeSet String)} :
    ∀ {self : ChannelConfig} (topology : Topology),
      (∀ serverIds, (nodeId, serverIds) ∈ entries →
        ∀ id ∈ serverIds, id ∈ self.nodeInfoConfig) →
      ∃ found next,
        self.scanPolicy topology nodeId entries = (.ok found, next) ∧
          (∀ id, id ∈ found.clientNodeIds ↔
            id ∈ topology.clientNodeIds ∨
              ∃ serverIds, (id, serverIds) ∈ entries ∧
                id ≠ nodeId ∧ nodeId ∈ serverIds) ∧
          (∀ id, id ∈ found.serverInfos.ids ↔
            id ∈ topology.serverInfos.ids ∨
              ∃ serverIds, (nodeId, serverIds) ∈ entries ∧
                id ∈ serverIds) := by
  induction entries with
  | nil =>
      intro self topology _
      exact ⟨topology, self, rfl, by simp, by simp⟩
  | cons entry rest inductionHypothesis =>
      rcases entry with ⟨key, serverIds⟩
      intro self topology known
      have knownHere :
          key = nodeId → ∀ id ∈ serverIds, id ∈ self.nodeInfoConfig := by
        intro same
        subst same
        exact known serverIds (List.mem_cons_self ..)
      rcases getServers_pass_of_known topology knownHere with
        ⟨middle, between, passed, same, clientsHere, serversHere⟩
      have knownRest :
          ∀ others, (nodeId, others) ∈ rest →
            ∀ id ∈ others, id ∈ between.nodeInfoConfig := by
        intro others member
        rw [same.nodeInfoConfig]
        exact known others (List.mem_cons_of_mem _ member)
      rcases inductionHypothesis (addClient middle nodeId key serverIds)
          knownRest with ⟨found, next, scanned, clients, servers⟩
      refine ⟨found, next, ?_, ?_, ?_⟩
      · rw [scanPolicy, passed]
        exact scanned
      · intro id
        rw [clients, mem_clientNodeIds_addClient, clientsHere, or_assoc]
        simp only [List.mem_cons, Prod.mk.injEq]
        grind
      · intro id
        rw [servers, serverInfos_addClient, serversHere, or_assoc]
        simp only [List.mem_cons, Prod.mk.injEq]
        grind

theorem scanPolicy_of_unknown
    {nodeId : String} {entries : List (String × ExtTreeSet String)} :
    ∀ {self : ChannelConfig} (topology : Topology),
      (∃ serverIds, (nodeId, serverIds) ∈ entries ∧
        ∃ id ∈ serverIds, id ∉ self.nodeInfoConfig) →
      ∃ event next,
        self.scanPolicy topology nodeId entries = (.error event, next) := by
  induction entries with
  | nil =>
      intro self topology missing
      rcases missing with ⟨serverIds, member, -⟩
      cases member
  | cons entry rest inductionHypothesis =>
      rcases entry with ⟨key, serverIds⟩
      intro self topology missingServer
      rcases missingServer with ⟨others, member, id, isServer, unknown⟩
      by_cases missing :
          key = nodeId ∧ ∃ other ∈ serverIds, other ∉ self.nodeInfoConfig
      · rcases getServers_of_unknown topology missing.2 with
          ⟨event, next, failed⟩
        refine ⟨event, next, ?_⟩
        rw [scanPolicy, if_pos missing.1, failed]
      · have knownHere :
            key = nodeId → ∀ id ∈ serverIds, id ∈ self.nodeInfoConfig := by
          intro own other isMember
          by_contra absent
          exact missing ⟨own, other, isMember, absent⟩
        rcases getServers_pass_of_known topology knownHere with
          ⟨middle, between, passed, same, -, -⟩
        rw [scanPolicy, passed]
        refine inductionHypothesis _ ⟨others, ?_, id, isServer, ?_⟩
        · rcases List.mem_cons.mp member with here | later
          · cases here
            exact absurd (knownHere rfl id isServer) unknown
          · exact later
        · rw [same.nodeInfoConfig]
          exact unknown

end ChannelConfig

end ChannelSdk
