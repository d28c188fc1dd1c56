import ChannelSdk.Lib.FirstEntries
import ChannelSdk.ServerRecords

/-!
# The full connection and its policy

A configuration without a policy connects every task node with every other
one.  `IoChannelImpl::GetPolicy` of `core/src/io_channel_impl.cc` prints the
connections of a configuration as a policy, in this case the full mesh.  With
the full mesh as its policy the configuration gives every task node the same
clients and the same server records, unless it is the only one: then there is
nothing to connect, which the default accepts and the policy does not.
-/

namespace ChannelSdk.ChannelConfig

open CheckedMemory FirstEntries
open Std (ExtTreeMap ExtTreeSet)

/-- The policy that lists for every task node the other ones. -/
def meshPolicy (taskNodes : ExtTreeSet String) :
    ExtTreeMap String (ExtTreeSet String) :=
  insertAll ∅ (taskNodes.toList.map fun nodeId =>
    (nodeId, taskNodes.erase nodeId))

/-- The configuration that differs in its policy only. -/
def withMesh (config : ChannelConfig) : ChannelConfig :=
  { config with mapPolicy := meshPolicy config.taskNodes }

theorem nodup_toList (taskNodes : ExtTreeSet String) :
    taskNodes.toList.Nodup :=
  ExtTreeSet.distinct_toList.imp Std.ReflCmp.ne_of_cmp_ne_eq

theorem meshPolicy_eq_some_iff
    {taskNodes servers : ExtTreeSet String} {nodeId : String} :
    (meshPolicy taskNodes)[nodeId]? = some servers ↔
      nodeId ∈ taskNodes ∧ servers = taskNodes.erase nodeId := by
  have distinct :
      ((taskNodes.toList.map fun nodeId =>
        (nodeId, taskNodes.erase nodeId)).map Prod.fst).Nodup := by
    rw [List.map_map]
    simpa [Function.comp_def] using nodup_toList taskNodes
  rw [meshPolicy, getElem?_insertAll, ExtTreeMap.getElem?_empty,
    Option.none_or, firstValue_eq_some_iff distinct, List.mem_map]
  constructor
  · intro listed
    rcases listed with ⟨task, isTask, same⟩
    cases same
    exact ⟨ExtTreeSet.mem_toList.mp isTask, rfl⟩
  · intro isTask
    exact ⟨nodeId, ExtTreeSet.mem_toList.mpr isTask.1, by rw [isTask.2]⟩

theorem mem_erase_iff
    {taskNodes : ExtTreeSet String} {nodeId other : String} :
    other ∈ taskNodes.erase nodeId ↔ other ∈ taskNodes ∧ other ≠ nodeId := by
  rw [ExtTreeSet.mem_erase, ne_eq, Std.LawfulEqCmp.compare_eq_iff_eq,
    and_comm, eq_comm]

/-- In the mesh every task node is connected with every other one. -/
theorem policyEdge_withMesh_iff
    {config : ChannelConfig} {client server : String} :
    config.withMesh.PolicyEdge client server ↔
      client ∈ config.taskNodes ∧ server ∈ config.taskNodes ∧
        server ≠ client := by
  simp only [PolicyEdge, withMesh, meshPolicy_eq_some_iff]
  constructor
  · intro edge
    rcases edge with ⟨servers, ⟨isTask, rfl⟩, isServer⟩
    exact ⟨isTask, mem_erase_iff.mp isServer⟩
  · intro tasks
    exact ⟨_, ⟨tasks.1, rfl⟩, mem_erase_iff.mpr tasks.2⟩

theorem mesh_present
    {config : ChannelConfig} {nodeId : String}
    (isTask : nodeId ∈ config.taskNodes) :
    config.withMesh.mapPolicy ≠ ∅ := by
  intro empty
  have listed : config.withMesh.mapPolicy[nodeId]? = _ :=
    meshPolicy_eq_some_iff.mpr ⟨isTask, rfl⟩
  rw [empty] at listed
  simp at listed

/-- A task node that is not alone is connected by the mesh. -/
theorem connected_withMesh_iff
    {config : ChannelConfig} {nodeId : String}
    (isTask : nodeId ∈ config.taskNodes) :
    config.withMesh.Connected nodeId ↔
      ∃ other ∈ config.taskNodes, other ≠ nodeId := by
  simp only [Connected, policyEdge_withMesh_iff]
  constructor
  · intro connected
    rcases connected with
      ⟨server, -, isServer, different⟩ | ⟨client, different, isClient, -⟩
    · exact ⟨server, isServer, different⟩
    · exact ⟨client, isClient, different⟩
  · intro accompanied
    rcases accompanied with ⟨other, isOther, different⟩
    exact .inl ⟨other, isTask, isOther, different⟩

theorem serversDescribed_withMesh
    {config : ChannelConfig} (coherent : Coherent config)
    (nodeId : String) : config.withMesh.ServersDescribed nodeId := by
  intro server edge
  exact coherent.described server (policyEdge_withMesh_iff.mp edge).2.1

/-- With the mesh as its policy a configuration gives a task node what it
gives it without one. -/
theorem getNodeInfos_withMesh
    {config : ChannelConfig} {nodeId : String} (coherent : Coherent config)
    (absent : config.mapPolicy = ∅) (isTask : nodeId ∈ config.taskNodes)
    (accompanied : ∃ other ∈ config.taskNodes, other ≠ nodeId) :
    (config.getNodeInfos {} nodeId).1 =
      (config.withMesh.getNodeInfos {} nodeId).1 := by
  rcases getNodeInfos_of_no_policy nodeId absent coherent.described with
    ⟨default, next, queried, clients, servers⟩
  rcases getNodeInfos_of_policy (mesh_present isTask)
      (serversDescribed_withMesh coherent nodeId)
      ((connected_withMesh_iff isTask).mpr accompanied) with
    ⟨meshed, meshNext, meshQueried, meshClients, meshServers⟩
  have recorded := (getNodeInfos_recorded (.refl config) queried).1
  have meshRecorded : Recorded config meshed.serverInfos :=
    (getNodeInfos_recorded (.refl config.withMesh) meshQueried).1
  have sameClients : default.clientNodeIds = meshed.clientNodeIds := by
    apply ExtTreeSet.ext_mem
    intro id
    rw [clients, meshClients, policyEdge_withMesh_iff]
    constructor
    · intro other
      exact ⟨other.2, other.1, isTask, other.2.symm⟩
    · intro edge
      exact ⟨edge.2.1, edge.1⟩
  have sameServers : default.serverInfos = meshed.serverInfos := by
    apply recorded.ext meshRecorded
    intro id
    rw [servers, meshServers, policyEdge_withMesh_iff]
    exact (and_iff_right isTask).symm
  rw [queried, meshQueried]
  cases default
  cases meshed
  cases sameClients
  cases sameServers
  rfl

theorem getNodeInfos_withMesh_iff
    {config : ChannelConfig} {nodeId : String} (coherent : Coherent config)
    (absent : config.mapPolicy = ∅) (isTask : nodeId ∈ config.taskNodes) :
    (config.getNodeInfos {} nodeId).1 =
        (config.withMesh.getNodeInfos {} nodeId).1 ↔
      ∃ other ∈ config.taskNodes, other ≠ nodeId := by
  refine ⟨?_, getNodeInfos_withMesh coherent absent isTask⟩
  intro same
  by_contra alone
  have failing :
      ¬ (config.withMesh.ServersDescribed nodeId ∧
        config.withMesh.Connected nodeId) := by
    intro succeeds
    exact alone ((connected_withMesh_iff isTask).mp succeeds.2)
  rcases getNodeInfos_of_policy_error (mesh_present isTask) failing with
    ⟨event, meshNext, failed⟩
  rcases getNodeInfos_of_no_policy nodeId absent coherent.described with
    ⟨topology, next, queried, -, -⟩
  rw [queried, failed] at same
  cases same

section GetPolicy

/-- Append an entry after a comma, unless it is the first. -/
def appendEntry (text entry : String) : String :=
  if text = "" then entry else text ++ "," ++ entry

/-- The server ids of one node. -/
def printServers (serverIds : List String) : String :=
  "[" ++
    serverIds.foldl (fun text id => appendEntry text ("\"" ++ id ++ "\"")) "" ++
    "]"

/-- One node of the printed policy. -/
def printNode (nodeId : String) (serverIds : List String) : String :=
  "\"" ++ nodeId ++ "\":" ++ printServers serverIds

/-- The loop of `GetPolicy` over the task nodes. -/
def printNodes (self : ChannelConfig) (text : String) :
    List String → Except Event String × ChannelConfig
  | [] => (.ok text, self)
  | nodeId :: rest =>
      match self.getNodeInfos {} nodeId with
      | (.ok topology, next) =>
          next.printNodes
            (appendEntry text (printNode nodeId topology.serverInfos.ids))
            rest
      | (.error event, next) => (.error event, next)

/-- `IoChannelImpl::GetPolicy` on a loaded configuration. -/
def getPolicy (self : ChannelConfig) : Except Event String × ChannelConfig :=
  match self.printNodes "" self.taskNodes.toList with
  | (.ok text, next) => (.ok ("\x7b" ++ text ++ "\x7d"), next)
  | (.error event, next) => (.error event, next)

/-- The text of a policy. -/
def printPolicy (policy : ExtTreeMap String (ExtTreeSet String)) : String :=
  "\x7b" ++
    policy.toList.foldl
      (fun text entry => appendEntry text (printNode entry.1 entry.2.toList))
      "" ++
    "\x7d"

theorem compare_lt_asymmetric (first second : String)
    (isBelow : compare first second = .lt) : compare second first ≠ .lt :=
  Std.OrientedCmp.not_lt_of_lt isBelow

theorem toList_meshPolicy (taskNodes : ExtTreeSet String) :
    (meshPolicy taskNodes).toList =
      taskNodes.toList.map fun nodeId =>
        (nodeId, taskNodes.erase nodeId) := by
  let below := fun first second : String × ExtTreeSet String =>
    compare first.1 second.1 = .lt
  have asymmetric :
      ∀ first second, below first second → ¬ below second first :=
    fun first second => compare_lt_asymmetric first.1 second.1
  refine eq_of_ascending asymmetric ExtTreeMap.ordered_keys_toList ?_ ?_
  · have ordered :
        taskNodes.toList.Pairwise
          (fun first second => compare first second = .lt) :=
      ExtTreeSet.ordered_toList
    rw [List.pairwise_map]
    exact ordered
  · intro entry
    rw [ExtTreeMap.mem_toList_iff_getElem?_eq_some, meshPolicy_eq_some_iff,
      List.mem_map]
    constructor
    · intro listed
      exact ⟨entry.1, ExtTreeSet.mem_toList.mpr listed.1,
        by rw [← listed.2]⟩
    · intro listed
      rcases listed with ⟨nodeId, isTask, rfl⟩
      exact ⟨ExtTreeSet.mem_toList.mp isTask, rfl⟩

/-- The ids of the servers of a node, in the order in which they are
printed. -/
theorem ids_eq_toList
    {infos : ViaInfoSet} {servers : ExtTreeSet String}
    (same : ∀ id, id ∈ infos.ids ↔ id ∈ servers) :
    infos.ids = servers.toList := by
  refine eq_of_ascending compare_lt_asymmetric ?_
    ExtTreeSet.ordered_toList ?_
  · rw [infos.ids_eq_keys]
    exact ExtTreeMap.ordered_keys
  · intro id
    rw [same, ExtTreeSet.mem_toList]

theorem printNodes_of_no_policy
    {config : ChannelConfig} (absent : config.mapPolicy = ∅)
    (described : ∀ id ∈ config.taskNodes, id ∈ config.nodeInfoConfig)
    {nodeIds : List String} :
    ∀ (self : ChannelConfig) (text : String), SameLookups config self →
      (self.printNodes text nodeIds).1 =
        .ok (nodeIds.foldl
          (fun printed nodeId =>
            appendEntry printed
              (printNode nodeId (config.taskNodes.erase nodeId).toList))
          text) := by
  induction nodeIds with
  | nil =>
      intro self text _
      rfl
  | cons nodeId rest inductionHypothesis =>
      intro self text same
      have selfAbsent : self.mapPolicy = ∅ :=
        same.tables.mapPolicy.trans absent
      have selfDescribed :
          ∀ id ∈ self.taskNodes, id ∈ self.nodeInfoConfig := by
        rw [same.tables.taskNodes, same.tables.nodeInfoConfig]
        exact described
      rcases getNodeInfos_of_no_policy nodeId selfAbsent selfDescribed with
        ⟨topology, next, queried, -, servers⟩
      have ids :
          topology.serverInfos.ids =
            (config.taskNodes.erase nodeId).toList := by
        apply ids_eq_toList
        intro id
        rw [servers, same.tables.taskNodes, mem_erase_iff]
      have onward := (getNodeInfos_recorded same queried).2
      rw [printNodes, queried]
      simp only [ids]
      exact inductionHypothesis next _ onward

/-- Without a policy `GetPolicy` prints the mesh. -/
theorem getPolicy_of_no_policy
    {config : ChannelConfig} (coherent : Coherent config)
    (absent : config.mapPolicy = ∅) :
    config.getPolicy.1 = .ok (printPolicy (meshPolicy config.taskNodes)) := by
  have printed :
      (config.printNodes "" config.taskNodes.toList).1 = _ :=
    printNodes_of_no_policy absent coherent.described config "" (.refl config)
  rw [getPolicy]
  rcases outcome : config.printNodes "" config.taskNodes.toList with
    ⟨result, next⟩
  rw [outcome] at printed
  cases printed
  rw [printPolicy, toList_meshPolicy, List.foldl_map]

end GetPolicy

/-- For a loaded configuration without a policy: the full connection and the
mesh that `GetPolicy` prints for it have the same outcome for a task node
exactly when the task has another node. -/
theorem full_connection_agrees_iff
    {process : String} {doc : Json} {config : ChannelConfig}
    (loaded : create process doc = .ok config)
    (absent : config.mapPolicy = ∅) :
    config.getPolicy.1 = .ok (printPolicy (meshPolicy config.taskNodes)) ∧
      ∀ nodeId ∈ config.taskNodes,
        ((config.getNodeInfos {} nodeId).1 =
            (config.withMesh.getNodeInfos {} nodeId).1 ↔
          ∃ other ∈ config.taskNodes, other ≠ nodeId) := by
  have coherent := coherent_of_create loaded
  refine ⟨getPolicy_of_no_policy coherent absent, ?_⟩
  intro nodeId isTask
  exact getNodeInfos_withMesh_iff coherent absent isTask

/-- Data nodes without a policy. -/
def dataDocument (nodeIds : List String) : Json :=
  .object
    [("NODE_INFO", .array
      (nodeIds.map fun nodeId => .object [("NODE_ID", .string nodeId)])),
    ("DATA_NODES", .array (nodeIds.map Json.string))]

/-- What a load leaves of the task nodes and the policy. -/
theorem create_of_observed
    {process : String} {doc : Json} (tasks : List String)
    (observed :
      (create process doc).toOption.map (fun config =>
        (config.taskNodes.toList, config.mapPolicy.size)) = some (tasks, 0)) :
    ∃ config, create process doc = .ok config ∧ config.mapPolicy = ∅ ∧
      config.taskNodes.toList = tasks := by
  rcases Option.map_eq_some_iff.mp observed with ⟨config, loaded, fields⟩
  rcases Prod.mk.inj fields with ⟨sameTasks, empty⟩
  exact ⟨config, eq_ok_of_toOption loaded,
    ExtTreeMap.eq_empty_iff_size_eq_zero.mpr empty, sameTasks⟩

theorem full_connection_agrees_iff_two :
    ∃ config, create "A" (dataDocument ["A", "B"]) = .ok config ∧
      ((config.getNodeInfos {} "A").1 =
          (config.withMesh.getNodeInfos {} "A").1 ↔
        ∃ other ∈ config.taskNodes, other ≠ "A") := by
  rcases create_of_observed ["A", "B"]
      (show (create "A" (dataDocument ["A", "B"])).toOption.map
          (fun config =>
            (config.taskNodes.toList, config.mapPolicy.size)) = _ by
        decide +kernel) with ⟨config, loaded, absent, tasks⟩
  have isTask : "A" ∈ config.taskNodes := by
    rw [← ExtTreeSet.mem_toList, tasks]
    decide
  exact ⟨config, loaded,
    (full_connection_agrees_iff loaded absent).2 "A" isTask⟩

/-- The only node of a task has no peer, which the policy does not accept. -/
theorem single_node_disagrees :
    ∃ config, create "A" (dataDocument ["A"]) = .ok config ∧
      config.mapPolicy = ∅ ∧ "A" ∈ config.taskNodes ∧
      (config.getNodeInfos {} "A").1 ≠
        (config.withMesh.getNodeInfos {} "A").1 := by
  rcases create_of_observed ["A"]
      (show (create "A" (dataDocument ["A"])).toOption.map
          (fun config =>
            (config.taskNodes.toList, config.mapPolicy.size)) = _ by
        decide +kernel) with ⟨config, loaded, absent, tasks⟩
  have isTask : "A" ∈ config.taskNodes := by
    rw [← ExtTreeSet.mem_toList, tasks]
    decide
  refine ⟨config, loaded, absent, isTask, ?_⟩
  intro same
  rcases (getNodeInfos_withMesh_iff (coherent_of_create loaded) absent
    isTask).mp same with ⟨other, isOther, different⟩
  rw [← ExtTreeSet.mem_toList, tasks, List.mem_singleton] at isOther
  exact different isOther

end ChannelSdk.ChannelConfig
