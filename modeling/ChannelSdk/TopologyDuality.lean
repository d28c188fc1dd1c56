import ChannelSdk.NodeTopology

/-!
# The client and server views of a topology

A policy is a relation between node ids: a node connects to the servers under
its key.  `GetNodeInfos` computes the image of a node under this relation for
its servers and, by scanning the other keys, its preimage for its clients.
Without a policy the relation is the full mesh of the task.
-/

namespace ChannelSdk.ChannelConfig

open Std (ExtTreeMap ExtTreeSet)

/-- The policy lists a server under the key of a client. -/
def PolicyEdge (config : ChannelConfig) (client server : String) : Prop :=
  ∃ serverIds, config.mapPolicy[client]? = some serverIds ∧
    server ∈ serverIds

theorem policyEdge_iff_mem_toList
    {config : ChannelConfig} {client server : String} :
    config.PolicyEdge client server ↔
      ∃ serverIds, (client, serverIds) ∈ config.mapPolicy.toList ∧
        server ∈ serverIds := by
  simp only [PolicyEdge, ExtTreeMap.mem_toList_iff_getElem?_eq_some]

/-- Every server that the policy lists for a node is in `NODE_INFO`. -/
def ServersDescribed (config : ChannelConfig) (nodeId : String) : Prop :=
  ∀ server, config.PolicyEdge nodeId server → server ∈ config.nodeInfoConfig

/-- The policy gives a node a server or another node as its client. -/
def Connected (config : ChannelConfig) (nodeId : String) : Prop :=
  (∃ server, config.PolicyEdge nodeId server) ∨
    ∃ client, client ≠ nodeId ∧ config.PolicyEdge client nodeId

theorem scanPolicy_of_described
    {config : ChannelConfig} {nodeId : String}
    (described : config.ServersDescribed nodeId) :
    ∃ topology next,
      config.scanPolicy {} nodeId config.mapPolicy.toList =
          (.ok topology, next) ∧
        (∀ id, id ∈ topology.clientNodeIds ↔
          id ≠ nodeId ∧ config.PolicyEdge id nodeId) ∧
        (∀ id, id ∈ topology.serverInfos.ids ↔
          config.PolicyEdge nodeId id) := by
  have known :
      ∀ serverIds, (nodeId, serverIds) ∈ config.mapPolicy.toList →
        ∀ id ∈ serverIds, id ∈ config.nodeInfoConfig := by
    intro serverIds member id isServer
    exact described id
      (policyEdge_iff_mem_toList.mpr ⟨serverIds, member, isServer⟩)
  rcases scanPolicy_of_known {} known with
    ⟨topology, next, scanned, clients, servers⟩
  refine ⟨topology, next, scanned, ?_, ?_⟩
  · intro id
    rw [clients, policyEdge_iff_mem_toList]
    constructor
    · intro isClient
      rcases isClient with initial | ⟨serverIds, member, different, isServer⟩
      · exact absurd initial ExtTreeSet.not_mem_empty
      · exact ⟨different, serverIds, member, isServer⟩
    · intro listed
      rcases listed with ⟨different, serverIds, member, isServer⟩
      exact .inr ⟨serverIds, member, different, isServer⟩
  · intro id
    rw [servers, policyEdge_iff_mem_toList]
    simp

/-- The test at the end of `GetNodeInfos` looks for a connected node. -/
theorem noneFound_iff_not_connected
    {config : ChannelConfig} {nodeId : String} {topology : Topology}
    (clients :
      ∀ id, id ∈ topology.clientNodeIds ↔
        id ≠ nodeId ∧ config.PolicyEdge id nodeId)
    (servers :
      ∀ id, id ∈ topology.serverInfos.ids ↔ config.PolicyEdge nodeId id) :
    (topology.clientNodeIds.isEmpty ∧
        topology.serverInfos.toList.isEmpty) ↔
      ¬ config.Connected nodeId := by
  have noClient :
      topology.clientNodeIds.isEmpty ↔
        ¬ ∃ client, client ≠ nodeId ∧ config.PolicyEdge client nodeId := by
    rw [ExtTreeSet.isEmpty_iff, ExtTreeSet.eq_empty_iff_forall_not_mem]
    simp [clients]
  have noServer :
      topology.serverInfos.toList.isEmpty ↔
        ¬ ∃ server, config.PolicyEdge nodeId server := by
    rw [List.isEmpty_iff, ← List.map_eq_nil_iff (f := ViaInfo.id),
      List.eq_nil_iff_forall_not_mem]
    simpa [ViaInfoSet.ids] using forall_congr' fun id => not_congr (servers id)
  rw [noClient, noServer, Connected, not_or, and_comm]

/-- With a policy, a connected node whose servers are described gets the
servers under its key and the other keys that list it. -/
theorem getNodeInfos_of_policy
    {config : ChannelConfig} {nodeId : String}
    (present : config.mapPolicy ≠ ∅)
    (described : config.ServersDescribed nodeId)
    (connected : config.Connected nodeId) :
    ∃ topology next,
      config.getNodeInfos {} nodeId = (.ok topology, next) ∧
        (∀ id, id ∈ topology.clientNodeIds ↔
          id ≠ nodeId ∧ config.PolicyEdge id nodeId) ∧
        (∀ id, id ∈ topology.serverInfos.ids ↔
          config.PolicyEdge nodeId id) := by
  rcases scanPolicy_of_described described with
    ⟨topology, next, scanned, clients, servers⟩
  refine ⟨topology, next, ?_, clients, servers⟩
  rw [getNodeInfos, if_neg (mt ExtTreeMap.eq_empty_iff_size_eq_zero.mpr present),
    scanned]
  exact if_neg fun none =>
    (noneFound_iff_not_connected clients servers).mp none connected

/-- With a policy, `GetNodeInfos` throws for every other node. -/
theorem getNodeInfos_of_policy_error
    {config : ChannelConfig} {nodeId : String}
    (present : config.mapPolicy ≠ ∅)
    (failing :
      ¬ (config.ServersDescribed nodeId ∧ config.Connected nodeId)) :
    ∃ event next, config.getNodeInfos {} nodeId = (.error event, next) := by
  rw [getNodeInfos,
    if_neg (mt ExtTreeMap.eq_empty_iff_size_eq_zero.mpr present)]
  by_cases described : config.ServersDescribed nodeId
  · rcases scanPolicy_of_described described with
      ⟨topology, next, scanned, clients, servers⟩
    rw [scanned]
    exact ⟨_, next, if_pos
      ((noneFound_iff_not_connected clients servers).mpr
        fun connected => failing ⟨described, connected⟩)⟩
  · have missing :
        ∃ serverIds, (nodeId, serverIds) ∈ config.mapPolicy.toList ∧
          ∃ id ∈ serverIds, id ∉ config.nodeInfoConfig := by
      rw [ServersDescribed] at described
      push Not at described
      rcases described with ⟨id, edge, unknown⟩
      rcases policyEdge_iff_mem_toList.mp edge with
        ⟨serverIds, member, isServer⟩
      exact ⟨serverIds, member, id, isServer, unknown⟩
    rcases scanPolicy_of_unknown {} missing with ⟨event, next, failed⟩
    exact ⟨event, next, by rw [failed]⟩

/-- Without a policy, every other node of the task is a client and a
server. -/
theorem getNodeInfos_of_no_policy
    {config : ChannelConfig} (nodeId : String)
    (absent : config.mapPolicy = ∅)
    (described : ∀ id ∈ config.taskNodes, id ∈ config.nodeInfoConfig) :
    ∃ topology next,
      config.getNodeInfos {} nodeId = (.ok topology, next) ∧
        (∀ id, id ∈ topology.clientNodeIds ↔
          id ∈ config.taskNodes ∧ id ≠ nodeId) ∧
        (∀ id, id ∈ topology.serverInfos.ids ↔
          id ∈ config.taskNodes ∧ id ≠ nodeId) := by
  have visited :
      ∀ id,
        id ∈ (config.taskNodes.toList.filter fun nid => nodeId ≠ nid) ↔
          id ∈ config.taskNodes ∧ id ≠ nodeId := by
    intro id
    rw [List.mem_filter, ExtTreeSet.mem_toList, decide_eq_true_iff, ne_comm]
  rcases getInfoByNodeIds_of_known {}
      (fun id member => described id ((visited id).mp member).1) with
    ⟨topology, next, collected, -, clients, servers⟩
  refine ⟨topology, next, ?_, ?_, ?_⟩
  · rw [getNodeInfos,
      if_pos (ExtTreeMap.eq_empty_iff_size_eq_zero.mp absent)]
    exact collected
  · intro id
    rw [clients, visited]
    simp
  · intro id
    rw [servers, visited]
    simp

/-- What a successful query with a policy returns. -/
theorem getNodeInfos_eq_ok_of_policy
    {config : ChannelConfig} {nodeId : String} {topology : Topology}
    (present : config.mapPolicy ≠ ∅)
    (queried : (config.getNodeInfos {} nodeId).1 = .ok topology) :
    (∀ id, id ∈ topology.clientNodeIds ↔
        id ≠ nodeId ∧ config.PolicyEdge id nodeId) ∧
      (∀ id, id ∈ topology.serverInfos.ids ↔
        config.PolicyEdge nodeId id) := by
  by_cases succeeds :
      config.ServersDescribed nodeId ∧ config.Connected nodeId
  · rcases getNodeInfos_of_policy present succeeds.1 succeeds.2 with
      ⟨_, next, found, clients, servers⟩
    rw [found] at queried
    cases queried
    exact ⟨clients, servers⟩
  · rcases getNodeInfos_of_policy_error present succeeds with
      ⟨event, next, failed⟩
    rw [failed] at queried
    cases queried

/-- What a successful query without a policy returns. -/
theorem getNodeInfos_eq_ok_of_no_policy
    {config : ChannelConfig} {nodeId : String} {topology : Topology}
    (absent : config.mapPolicy = ∅) (coherent : Coherent config)
    (queried : (config.getNodeInfos {} nodeId).1 = .ok topology) :
    (∀ id, id ∈ topology.clientNodeIds ↔
        id ∈ config.taskNodes ∧ id ≠ nodeId) ∧
      (∀ id, id ∈ topology.serverInfos.ids ↔
        id ∈ config.taskNodes ∧ id ≠ nodeId) := by
  rcases getNodeInfos_of_no_policy nodeId absent coherent.described with
    ⟨_, next, found, clients, servers⟩
  rw [found] at queried
  cases queried
  exact ⟨clients, servers⟩

/-- A client connects to a server: by the policy, or as two nodes of the task
when there is none. -/
def Link (config : ChannelConfig) (client server : String) : Prop :=
  config.PolicyEdge client server ∨
    (config.mapPolicy = ∅ ∧ client ∈ config.taskNodes ∧
      server ∈ config.taskNodes ∧ client ≠ server)

theorem not_policyEdge_of_no_policy
    {config : ChannelConfig} (absent : config.mapPolicy = ∅)
    {client server : String} :
    ¬ config.PolicyEdge client server := by
  intro edge
  rcases edge with ⟨serverIds, listed, -⟩
  rw [absent] at listed
  simp at listed

/-- What a successful query returns is the links of the node. -/
theorem getNodeInfos_eq_ok
    {config : ChannelConfig} {nodeId : String} {topology : Topology}
    (coherent : Coherent config)
    (isTask : config.mapPolicy = ∅ → nodeId ∈ config.taskNodes)
    (queried : (config.getNodeInfos {} nodeId).1 = .ok topology) :
    (∀ id, id ∈ topology.clientNodeIds ↔
        id ≠ nodeId ∧ config.Link id nodeId) ∧
      (∀ id, id ∈ topology.serverInfos.ids ↔ config.Link nodeId id) := by
  by_cases absent : config.mapPolicy = ∅
  · rcases getNodeInfos_eq_ok_of_no_policy absent coherent queried with
      ⟨clients, servers⟩
    have task := isTask absent
    have noEdge := @not_policyEdge_of_no_policy config absent
    constructor
    · intro id
      simp [clients, Link, noEdge, absent, task, and_comm]
    · intro id
      simp [servers, Link, noEdge, absent, task, eq_comm]
  · rcases getNodeInfos_eq_ok_of_policy absent queried with
      ⟨clients, servers⟩
    constructor
    · intro id
      simp [clients, Link, absent]
    · intro id
      simp [servers, Link, absent]

/-- `GetNodeInfos` throws exactly for the nodes of a policy that has a server
of theirs missing from `NODE_INFO` or leaves them unconnected. -/
theorem getNodeInfos_throws_iff
    {config : ChannelConfig} (coherent : Coherent config)
    (nodeId : String) :
    (∃ event, (config.getNodeInfos {} nodeId).1 = .error event) ↔
      config.mapPolicy ≠ ∅ ∧
        (¬ config.ServersDescribed nodeId ∨ ¬ config.Connected nodeId) := by
  by_cases absent : config.mapPolicy = ∅
  · rcases getNodeInfos_of_no_policy nodeId absent coherent.described with
      ⟨topology, next, found, -, -⟩
    simp [found, absent]
  · by_cases succeeds :
        config.ServersDescribed nodeId ∧ config.Connected nodeId
    · rcases getNodeInfos_of_policy absent succeeds.1 succeeds.2 with
        ⟨topology, next, found, -, -⟩
      simp [found, succeeds]
    · rcases getNodeInfos_of_policy_error absent succeeds with
        ⟨event, next, failed⟩
      simp only [failed, Except.error.injEq, exists_eq', true_iff]
      exact ⟨absent, not_and_or.mp succeeds⟩

/-- The processes that load one document agree on the tables. -/
theorem sameTables_of_create
    {doc : Json} {firstProcess secondProcess : String}
    {first second : ChannelConfig}
    (firstLoaded : create firstProcess doc = .ok first)
    (secondLoaded : create secondProcess doc = .ok second) :
    SameTables first second := by
  rcases create_eq_ok firstLoaded with ⟨parsed, completed, rfl⟩
  rcases create_eq_ok secondLoaded with ⟨reparsed, recompleted, rfl⟩
  rw [completed] at recompleted
  cases recompleted
  exact ⟨rfl, rfl, rfl⟩

theorem SameTables.policyEdge_iff
    {config next : ChannelConfig} (same : SameTables config next)
    {client server : String} :
    next.PolicyEdge client server ↔ config.PolicyEdge client server := by
  rw [PolicyEdge, PolicyEdge, same.mapPolicy]

theorem SameTables.link_iff
    {config next : ChannelConfig} (same : SameTables config next)
    {client server : String} :
    next.Link client server ↔ config.Link client server := by
  rw [Link, Link, same.policyEdge_iff, same.mapPolicy, same.taskNodes]

/-- The two views are dual.  Two processes have loaded one document.  For
distinct nodes, of the task when there is no policy, whose queries succeed,
the second is a server of the first exactly when the first is a client of the
second.  Every server id occurs once.  A query throws exactly when there is a
policy and it names an undescribed server of the node or leaves the node
without a server and without a client, and never for a task node when there
is no policy. -/
theorem topology_dual
    {doc : Json} {firstProcess secondProcess : String}
    {first second : ChannelConfig}
    (firstLoaded : create firstProcess doc = .ok first)
    (secondLoaded : create secondProcess doc = .ok second) :
    (∀ nodeA nodeB topologyA topologyB,
      nodeA ≠ nodeB →
      (first.mapPolicy = ∅ →
        nodeA ∈ first.taskNodes ∧ nodeB ∈ first.taskNodes) →
      (first.getNodeInfos {} nodeA).1 = .ok topologyA →
      (second.getNodeInfos {} nodeB).1 = .ok topologyB →
        (nodeB ∈ topologyA.serverInfos.ids ↔
          nodeA ∈ topologyB.clientNodeIds)) ∧
    (∀ node topology,
      (first.getNodeInfos {} node).1 = .ok topology →
        topology.serverInfos.ids.Nodup) ∧
    (∀ node,
      (∃ event, (first.getNodeInfos {} node).1 = .error event) ↔
        first.mapPolicy ≠ ∅ ∧
          ((∃ server, first.PolicyEdge node server ∧
              server ∉ first.nodeInfoConfig) ∨
            (¬ (∃ server, first.PolicyEdge node server) ∧
              ¬ ∃ client, client ≠ node ∧
                first.PolicyEdge client node))) ∧
    (first.mapPolicy = ∅ →
      ∀ node ∈ first.taskNodes,
        ∃ topology, (first.getNodeInfos {} node).1 = .ok topology) := by
  have same := sameTables_of_create firstLoaded secondLoaded
  have firstCoherent := coherent_of_create firstLoaded
  have secondCoherent := coherent_of_create secondLoaded
  refine ⟨?_, ?_, ?_, ?_⟩
  · intro nodeA nodeB topologyA topologyB different tasks foundA foundB
    by_cases absent : first.mapPolicy = ∅
    · have viewA :=
        getNodeInfos_eq_ok_of_no_policy absent firstCoherent foundA
      have viewB :=
        getNodeInfos_eq_ok_of_no_policy (same.mapPolicy.trans absent)
          secondCoherent foundB
      rw [viewA.2, viewB.1, same.taskNodes]
      rcases tasks absent with ⟨taskA, taskB⟩
      exact iff_of_true ⟨taskB, different.symm⟩ ⟨taskA, different⟩
    · have viewA := getNodeInfos_eq_ok_of_policy absent foundA
      have viewB :=
        getNodeInfos_eq_ok_of_policy
          (fun none => absent (same.mapPolicy.symm.trans none)) foundB
      rw [viewA.2, viewB.1, same.policyEdge_iff]
      exact ⟨fun edge => ⟨different, edge⟩, And.right⟩
  · intro node topology _
    exact topology.serverInfos.nodup_ids
  · intro node
    rw [getNodeInfos_throws_iff firstCoherent]
    simp [ServersDescribed, Connected]
  · intro absent node _
    rcases getNodeInfos_of_no_policy node absent firstCoherent.described with
      ⟨topology, next, found, -, -⟩
    exact ⟨topology, by rw [found]⟩

/-- Load a document in one process and query one node. -/
def queryLoaded (process : String) (doc : Json) (nodeId : String) :
    Option (ChannelConfig × Topology) :=
  match create process doc with
  | .ok config =>
      match (config.getNodeInfos {} nodeId).1 with
      | .ok topology => some (config, topology)
      | .error _ => none
  | .error _ => none

theorem queryLoaded_eq_some
    {process nodeId : String} {doc : Json}
    {config : ChannelConfig} {topology : Topology}
    (queried : queryLoaded process doc nodeId = some (config, topology)) :
    create process doc = .ok config ∧
      (config.getNodeInfos {} nodeId).1 = .ok topology := by
  rw [queryLoaded] at queried
  split at queried
  · next loaded =>
      split at queried
      · next found =>
          cases queried
          exact ⟨loaded, found⟩
      · cases queried
  · cases queried

/-- Two data nodes, the first of which connects to the second. -/
def pairDocument : Json :=
  .object
    [("NODE_INFO", .array
      [.object [("NODE_ID", .string "A"), ("ADDRESS", .string "hostA:1")],
        .object [("NODE_ID", .string "B"), ("ADDRESS", .string "hostB:1")]]),
    ("DATA_NODES", .array [.string "A", .string "B"]),
    ("POLICY", .object [("A", .array [.string "B"])])]

theorem topology_dual_pair :
    ∃ first second topologyA topologyB,
      queryLoaded "A" pairDocument "A" = some (first, topologyA) ∧
        queryLoaded "B" pairDocument "B" = some (second, topologyB) ∧
        topologyA.serverInfos.ids = ["B"] ∧
        ("B" ∈ topologyA.serverInfos.ids ↔
          "A" ∈ topologyB.clientNodeIds) := by
  rcases Option.map_eq_some_iff.mp
      (show (queryLoaded "A" pairDocument "A").map
          (fun loaded =>
            (loaded.1.taskNodes.toList, loaded.2.serverInfos.ids)) =
          some (["A", "B"], ["B"]) by
        decide +kernel) with ⟨⟨first, topologyA⟩, queriedA, observed⟩
  rcases Option.isSome_iff_exists.mp
      (show (queryLoaded "B" pairDocument "B").isSome by decide +kernel) with
    ⟨⟨second, topologyB⟩, queriedB⟩
  rcases queryLoaded_eq_some queriedA with ⟨firstLoaded, foundA⟩
  rcases queryLoaded_eq_some queriedB with ⟨secondLoaded, foundB⟩
  rcases Prod.mk.inj observed with ⟨taskIds, serverIds⟩
  have tasks : "A" ∈ first.taskNodes ∧ "B" ∈ first.taskNodes := by
    simp only [← ExtTreeSet.mem_toList, taskIds]
    decide
  exact ⟨first, second, topologyA, topologyB, queriedA, queriedB, serverIds,
    (topology_dual firstLoaded secondLoaded).1 "A" "B" topologyA topologyB
      (by decide) (fun _ => tasks) foundA foundB⟩

end ChannelSdk.ChannelConfig
