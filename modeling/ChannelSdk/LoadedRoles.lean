import ChannelSdk.NodeLookup

/-!
# The tables and the roles of a loaded configuration

The parser keeps the same facts several times: the description of a node in
`node_info_config_`, its VIA, Glacier2 and IceGrid names in three maps, copies
of it in the lists of its roles, and its id in the set of task nodes.  A load
leaves the copies in agreement.
-/

namespace ChannelSdk.ChannelConfig

open CheckedMemory CheckedFold FirstEntries
open Std (ExtTreeMap ExtTreeSet)

/-- The copies of the facts about nodes agree. -/
structure Consistent (config : ChannelConfig) : Prop where
  tasks :
    ∀ nodeId, nodeId ∈ config.taskNodes ↔
      nodeId ∈ config.dataNodes ∨ nodeId ∈ config.computeNodes ∨
        nodeId ∈ config.resultNodes
  listed :
    ∀ nodeId, nodeId ∈ config.taskNodes ↔
      ∃ node ∈ config.listedNodes, node.nodeId = nodeId
  copied :
    ∀ node ∈ config.listedNodes,
      config.nodeInfoConfig[node.nodeId]? = some node
  via :
    ∀ nodeId : String, config.nodeidToVia[nodeId]? =
      (config.nodeInfoConfig[nodeId]?).map Node.via
  glacier2 :
    ∀ nodeId : String, config.nodeidToGlacier2[nodeId]? =
      (config.nodeInfoConfig[nodeId]?).map Node.gricer2
  icegrid :
    ∀ nodeId : String, config.nodeidToIcegrid[nodeId]? =
      (config.nodeInfoConfig[nodeId]?).map Node.icegrid
  certified :
    ∀ (nodeId : String) (node : Node),
      config.nodeInfoConfig[nodeId]? = some node →
      node.caCertPath = config.rootCert

/-- A map filled with a field of the nodes is that field of the node map. -/
theorem getElem?_insertAll_field
    {Field : Type} (field : Node → Field) (nodes : List Node)
    (nodeId : String) :
    (insertAll (∅ : ExtTreeMap String Field)
        (nodes.map fun node => (node.nodeId, field node)))[nodeId]? =
      ((insertAll (∅ : ExtTreeMap String Node)
        (nodes.map fun node => (node.nodeId, node)))[nodeId]?).map field := by
  rw [getElem?_insertAll, getElem?_insertAll]
  simp only [ExtTreeMap.getElem?_empty, Option.none_or]
  induction nodes with
  | nil => rfl
  | cons node rest inductionHypothesis =>
      simp only [List.map_cons, firstValue_cons]
      by_cases same : node.nodeId = nodeId
      · simp [same]
      · simp [same, inductionHypothesis]

theorem consistent_of_parse
    {config : ChannelConfig} {doc : Json}
    (parsed : parse {} doc = .ok config) : Consistent config := by
  rcases exists_stored_of_parse parsed with
    ⟨nodes, dataMembers, computeMembers, resultMembers, stored⟩
  refine ⟨?_, ?_, ?_, ?_, ?_, ?_, ?_⟩
  · intro nodeId
    rw [stored.mem_taskNodes_iff, stored.dataIds, stored.resultIds, ← ExtTreeMap.mem_keys,
      stored.computeIds]
    simp only [List.map_append, List.mem_append, or_assoc]
  · intro nodeId
    rw [stored.mem_taskNodes_iff, stored.listedNodes_eq]
    simp only [List.mem_map]
    constructor
    · intro isTask
      rcases isTask with ⟨member, isListed, rfl⟩
      exact ⟨member.2, ⟨member, isListed, rfl⟩, stored.ownId member isListed⟩
    · intro listed
      rcases listed with ⟨node, ⟨member, isListed, rfl⟩, same⟩
      exact ⟨member, isListed, (stored.ownId member isListed).symm.trans same⟩
  · intro node isListed
    rw [stored.listedNodes_eq] at isListed
    rcases List.mem_map.mp isListed with ⟨member, isMember, rfl⟩
    rw [stored.ownId member isMember]
    exact stored.described member isMember
  · intro nodeId
    rw [stored.vias, stored.table, getElem?_insertAll_field Node.via]
  · intro nodeId
    rw [stored.glacier2s, stored.table, getElem?_insertAll_field Node.gricer2]
  · intro nodeId
    rw [stored.icegrids, stored.table, getElem?_insertAll_field Node.icegrid]
  · intro nodeId node found
    exact stored.certified node (stored.mem_nodes found).1

theorem consistent_of_create
    {process : String} {doc : Json} {config : ChannelConfig}
    (loaded : create process doc = .ok config) : Consistent config := by
  rcases create_eq_ok loaded with ⟨parsed, completed, rfl⟩
  have consistent := consistent_of_parse completed
  exact ⟨consistent.tasks, consistent.listed, consistent.copied,
    consistent.via, consistent.glacier2, consistent.icegrid,
    consistent.certified⟩

end ChannelSdk.ChannelConfig
