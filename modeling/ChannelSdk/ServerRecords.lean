import ChannelSdk.LoadedRoles
import ChannelSdk.TopologyDuality

/-!
# The records of the servers of a node

`GetNodeInfos` returns a record for every server, composed of the node's
description and of what the VIA and Glacier2 tables say about it.  The queries
insert default entries into these tables, but a lookup that falls back to the
same default does not notice.  The records are therefore those of the
configuration before the query.
-/

namespace ChannelSdk.ChannelConfig

open CheckedMemory
open Std (ExtTreeMap ExtTreeSet)

/-- An entry with the default value changes no lookup with that default. -/
theorem getD_insertIfNew_default
    {Value : Type} (map : ExtTreeMap String Value) (inserted key : String)
    (defaultValue : Value) :
    (map.insertIfNew inserted defaultValue).getD key defaultValue =
      map.getD key defaultValue := by
  rw [ExtTreeMap.getD_insertIfNew]
  split
  · next absent =>
      have same := Std.LawfulEqCmp.eq_of_compare absent.1
      rw [← same, ExtTreeMap.getD_eq_fallback absent.2]
  · rfl

/-- Everything that a query reads. -/
structure SameLookups (config next : ChannelConfig) : Prop where
  tables : SameTables config next
  via :
    ∀ nodeId, next.nodeidToVia.getD nodeId "" =
      config.nodeidToVia.getD nodeId ""
  glacier2 :
    ∀ nodeId, next.nodeidToGlacier2.getD nodeId "" =
      config.nodeidToGlacier2.getD nodeId ""
  glacier2Info :
    ∀ name, next.glacier2ToInfo.getD name {} =
      config.glacier2ToInfo.getD name {}

theorem SameLookups.refl (config : ChannelConfig) :
    SameLookups config config :=
  ⟨.refl config, fun _ => rfl, fun _ => rfl, fun _ => rfl⟩

theorem SameLookups.trans
    {config middle next : ChannelConfig}
    (first : SameLookups config middle) (second : SameLookups middle next) :
    SameLookups config next :=
  ⟨first.tables.trans second.tables,
    fun nodeId => (second.via nodeId).trans (first.via nodeId),
    fun nodeId => (second.glacier2 nodeId).trans (first.glacier2 nodeId),
    fun name => (second.glacier2Info name).trans (first.glacier2Info name)⟩

theorem sameLookups_copyNodeInfo (config : ChannelConfig) (node : Node) :
    SameLookups config (config.copyNodeInfo node).2 :=
  ⟨sameTables_copyNodeInfo config node,
    fun _ => getD_insertIfNew_default _ _ _ _,
    fun _ => getD_insertIfNew_default _ _ _ _,
    fun _ => getD_insertIfNew_default _ _ _ _⟩

/-- The record of a described node. -/
def serverRecord (config : ChannelConfig) (nodeId : String) (node : Node) :
    ViaInfo :=
  getCertInfosFromNode
    { id := nodeId
      via := config.nodeidToVia.getD nodeId ""
      glacier2Info :=
        config.glacier2ToInfo.getD
          (config.nodeidToGlacier2.getD nodeId "") {}
      viaAddress := node.address } node

theorem SameLookups.serverRecord_eq
    {config next : ChannelConfig} (same : SameLookups config next)
    (nodeId : String) (node : Node) :
    next.serverRecord nodeId node = config.serverRecord nodeId node := by
  rw [serverRecord, serverRecord, same.via, same.glacier2, same.glacier2Info]

/-- Every record of the set is that of its node. -/
def Recorded (config : ChannelConfig) (infos : ViaInfoSet) : Prop :=
  ∀ (nodeId : String) (info : ViaInfo), infos.records[nodeId]? = some info →
    ∃ node, config.nodeInfoConfig[nodeId]? = some node ∧
      info = config.serverRecord nodeId node

theorem recorded_empty (config : ChannelConfig) :
    Recorded config .empty := by
  intro nodeId info found
  simp [ViaInfoSet.empty] at found

theorem getInfoByNodeId_recorded
    {config self next : ChannelConfig} {topology found : Topology}
    {nodeId : String} (same : SameLookups config self)
    (recorded : Recorded config topology.serverInfos)
    (queried : self.getInfoByNodeId topology nodeId = (.ok found, next)) :
    Recorded config found.serverInfos ∧ SameLookups config next := by
  rw [getInfoByNodeId] at queried
  split at queried
  · cases queried
  · next node present =>
      cases queried
      constructor
      · intro id info stored
        rw [ViaInfoSet.emplace, ExtTreeMap.getElem?_insertIfNew] at stored
        split at stored
        · next inserted =>
            have sameId : nodeId = id :=
              Std.LawfulEqCmp.eq_of_compare inserted.1
            subst sameId
            cases stored
            refine ⟨node, ?_, same.serverRecord_eq nodeId node⟩
            rw [← same.tables.nodeInfoConfig]
            exact present
        · exact recorded id info stored
      · refine same.trans ⟨⟨rfl, rfl, rfl⟩, ?_, ?_, ?_⟩
        · exact fun _ => getD_insertIfNew_default _ _ _ _
        · exact fun _ => getD_insertIfNew_default _ _ _ _
        · exact fun _ => getD_insertIfNew_default _ _ _ _

theorem getInfoByNodeIds_recorded
    {config : ChannelConfig} {nodeIds : List String} :
    ∀ {self next : ChannelConfig} {topology found : Topology},
      SameLookups config self → Recorded config topology.serverInfos →
      self.getInfoByNodeIds topology nodeIds = (.ok found, next) →
        Recorded config found.serverInfos ∧ SameLookups config next := by
  induction nodeIds with
  | nil =>
      intro self next topology found same recorded queried
      cases queried
      exact ⟨recorded, same⟩
  | cons nodeId rest inductionHypothesis =>
      intro self next topology found same recorded queried
      rw [getInfoByNodeIds] at queried
      split at queried
      · next middle between first =>
          rcases getInfoByNodeId_recorded same recorded first with
            ⟨recordedFirst, sameFirst⟩
          exact inductionHypothesis sameFirst recordedFirst queried
      · cases queried

theorem getServers_recorded
    {config self next : ChannelConfig} {topology found : Topology}
    {serverIds : ExtTreeSet String} (same : SameLookups config self)
    (recorded : Recorded config topology.serverInfos)
    (queried : self.getServers topology serverIds = (.ok found, next)) :
    Recorded config found.serverInfos ∧ SameLookups config next := by
  rw [getServers] at queried
  split at queried
  · next collected between gathered =>
      cases queried
      have begun :
          Recorded config
            { topology with clientNodeIds := ∅ }.serverInfos := recorded
      rcases getInfoByNodeIds_recorded same begun gathered with
        ⟨recordedServers, sameNext⟩
      exact ⟨recordedServers, sameNext⟩
  · cases queried

theorem scanPolicy_recorded
    {config : ChannelConfig} {nodeId : String}
    {entries : List (String × ExtTreeSet String)} :
    ∀ {self next : ChannelConfig} {topology found : Topology},
      SameLookups config self → Recorded config topology.serverInfos →
      self.scanPolicy topology nodeId entries = (.ok found, next) →
        Recorded config found.serverInfos ∧ SameLookups config next := by
  induction entries with
  | nil =>
      intro self next topology found same recorded queried
      cases queried
      exact ⟨recorded, same⟩
  | cons entry rest inductionHypothesis =>
      rcases entry with ⟨key, serverIds⟩
      intro self next topology found same recorded queried
      rw [scanPolicy] at queried
      split at queried
      · next middle between passed =>
          have pass :
              Recorded config middle.serverInfos ∧
                SameLookups config between := by
            split at passed
            · exact getServers_recorded same recorded passed
            · cases passed
              exact ⟨recorded, same⟩
          refine inductionHypothesis pass.2 ?_ queried
          rw [serverInfos_addClient]
          exact pass.1
      · cases queried

/-- The records that a successful query returns. -/
theorem getNodeInfos_recorded
    {config self next : ChannelConfig} {topology : Topology}
    {nodeId : String} (same : SameLookups config self)
    (queried : self.getNodeInfos {} nodeId = (.ok topology, next)) :
    Recorded config topology.serverInfos ∧ SameLookups config next := by
  rw [getNodeInfos] at queried
  split at queried
  · exact getInfoByNodeIds_recorded same (recorded_empty config) queried
  · split at queried
    · next scanned =>
        split at queried
        · cases queried
        · cases queried
          exact scanPolicy_recorded same (recorded_empty config) scanned
    · cases queried

/-- A record of the set, as the loops over the servers meet it. -/
theorem Recorded.of_mem
    {config : ChannelConfig} {infos : ViaInfoSet} {info : ViaInfo}
    (recorded : Recorded config infos) (member : info ∈ infos.toList) :
    ∃ node, config.nodeInfoConfig[info.id]? = some node ∧
      info = config.serverRecord info.id node := by
  rcases List.mem_map.mp member with ⟨entry, isEntry, rfl⟩
  have stored :=
    ExtTreeMap.mem_toList_iff_getElem?_eq_some.mp isEntry
  rw [infos.keyed entry.1 entry.2 stored]
  exact recorded entry.1 entry.2 stored

/-- Two sets of records of one configuration are equal when they have the same
ids. -/
theorem Recorded.ext
    {config : ChannelConfig} {infos others : ViaInfoSet}
    (recorded : Recorded config infos)
    (othersRecorded : Recorded config others)
    (sameIds : ∀ nodeId, nodeId ∈ infos.ids ↔ nodeId ∈ others.ids) :
    infos = others := by
  have sameRecords : infos.records = others.records := by
    apply ExtTreeMap.ext_getElem?
    intro nodeId
    have present := sameIds nodeId
    rw [← ViaInfoSet.isSome_record_iff, ← ViaInfoSet.isSome_record_iff]
      at present
    rcases found : infos.records[nodeId]? with _ | info
    · rw [found] at present
      simpa using present
    · rw [found] at present
      rcases Option.isSome_iff_exists.mp (present.mp rfl) with
        ⟨other, otherFound⟩
      rcases recorded nodeId info found with ⟨node, described, rfl⟩
      rcases othersRecorded nodeId other otherFound with
        ⟨sameNode, sameDescribed, rfl⟩
      rw [described] at sameDescribed
      cases sameDescribed
      exact otherFound.symm
  cases infos
  cases others
  cases sameRecords
  rfl

end ChannelSdk.ChannelConfig
