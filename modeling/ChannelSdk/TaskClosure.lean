import ChannelSdk.TopologyDuality

/-!
# Peers outside the task

Without a policy the clients and servers of a task node are task nodes.  With
a policy they are whatever the policy names: a server only has to be described
in `NODE_INFO`, and a client is a key of the policy.  A peer that is not a task
node cannot start, since `GetNode` does not find it.
-/

namespace ChannelSdk.ChannelConfig

open Std (ExtTreeMap ExtTreeSet)

/-- The peers of every task node are task nodes. -/
def ClosedOverTask (config : ChannelConfig) : Prop :=
  ∀ nodeId ∈ config.taskNodes, ∀ topology,
    (config.getNodeInfos {} nodeId).1 = .ok topology →
      (∀ client ∈ topology.clientNodeIds, client ∈ config.taskNodes) ∧
        ∀ server ∈ topology.serverInfos.ids, server ∈ config.taskNodes

/-- An entry of the policy that a task node uses connects two task nodes.  A
task node uses its entries when all its servers are described. -/
def PolicyWithinTask (config : ChannelConfig) : Prop :=
  ∀ client server, config.PolicyEdge client server →
    (client ∈ config.taskNodes → config.ServersDescribed client →
      server ∈ config.taskNodes) ∧
    (server ∈ config.taskNodes → config.ServersDescribed server →
      client ∈ config.taskNodes)

theorem closedOverTask_of_no_policy
    {config : ChannelConfig} (absent : config.mapPolicy = ∅)
    (coherent : Coherent config) : ClosedOverTask config := by
  intro nodeId _ topology queried
  rcases getNodeInfos_eq_ok_of_no_policy absent coherent queried with
    ⟨clients, servers⟩
  constructor
  · intro client isClient
    exact ((clients client).mp isClient).1
  · intro server isServer
    exact ((servers server).mp isServer).1

theorem closedOverTask_iff_of_policy
    {config : ChannelConfig} (present : config.mapPolicy ≠ ∅) :
    ClosedOverTask config ↔ PolicyWithinTask config := by
  constructor
  · intro closed client server edge
    constructor
    · intro isTask described
      have connected : config.Connected client := .inl ⟨server, edge⟩
      rcases getNodeInfos_of_policy present described connected with
        ⟨topology, next, queried, -, servers⟩
      have peers := closed client isTask topology (by rw [queried])
      exact peers.2 server ((servers server).mpr edge)
    · intro isTask described
      by_cases own : client = server
      · rw [own]
        exact isTask
      · have connected : config.Connected server :=
          .inr ⟨client, own, edge⟩
        rcases getNodeInfos_of_policy present described connected with
          ⟨topology, next, queried, clients, -⟩
        have peers := closed server isTask topology (by rw [queried])
        exact peers.1 client ((clients client).mpr ⟨own, edge⟩)
  · intro within nodeId isTask topology queried
    have described : config.ServersDescribed nodeId := by
      by_contra undescribed
      rcases getNodeInfos_of_policy_error present
          (fun succeeds => undescribed succeeds.1) with ⟨event, next, failed⟩
      rw [failed] at queried
      cases queried
    rcases getNodeInfos_eq_ok_of_policy present queried with
      ⟨clients, servers⟩
    constructor
    · intro client isClient
      have edge := ((clients client).mp isClient).2
      exact (within client nodeId edge).2 isTask described
    · intro server isServer
      have edge := (servers server).mp isServer
      exact (within nodeId server edge).1 isTask described

/-- The peers of the task nodes are task nodes exactly when the policy stays
within the task. -/
theorem topology_closed_iff
    {process : String} {doc : Json} {config : ChannelConfig}
    (loaded : create process doc = .ok config) :
    ClosedOverTask config ↔ PolicyWithinTask config := by
  by_cases absent : config.mapPolicy = ∅
  · apply iff_of_true
      (closedOverTask_of_no_policy absent (coherent_of_create loaded))
    intro client server edge
    exact absurd edge (not_policyEdge_of_no_policy absent)
  · exact closedOverTask_iff_of_policy absent

theorem topology_closed_iff_pair :
    ∃ config, create "A" pairDocument = .ok config ∧
      (ClosedOverTask config ↔ PolicyWithinTask config) := by
  rcases Option.isSome_iff_exists.mp
      (show (queryLoaded "A" pairDocument "A").isSome by decide +kernel) with
    ⟨⟨config, topology⟩, queried⟩
  have loaded := (queryLoaded_eq_some queried).1
  exact ⟨config, loaded, topology_closed_iff loaded⟩

/-- The node `C` is described and a server of `A`, but not a task node. -/
def strangerDocument : Json :=
  .object
    [("NODE_INFO", .array
      [.object [("NODE_ID", .string "A")], .object [("NODE_ID", .string "B")],
        .object [("NODE_ID", .string "C")]]),
    ("DATA_NODES", .array [.string "A", .string "B"]),
    ("POLICY", .object [("A", .array [.string "C"])])]

theorem server_outside_task :
    ∃ config, create "A" strangerDocument = .ok config ∧
      ¬ ClosedOverTask config := by
  rcases Option.map_eq_some_iff.mp
      (show (queryLoaded "A" strangerDocument "A").map
          (fun loaded =>
            (loaded.1.taskNodes.toList, loaded.2.serverInfos.ids)) =
          some (["A", "B"], ["C"]) by
        decide +kernel) with ⟨⟨config, topology⟩, queried, observed⟩
  rcases queryLoaded_eq_some queried with ⟨loaded, found⟩
  rcases Prod.mk.inj observed with ⟨taskIds, serverIds⟩
  refine ⟨config, loaded, ?_⟩
  intro closed
  have isTask : "A" ∈ config.taskNodes := by
    rw [← ExtTreeSet.mem_toList, taskIds]
    decide
  have isServer : "C" ∈ topology.serverInfos.ids := by
    rw [serverIds]
    decide
  have outside := (closed "A" isTask topology found).2 "C" isServer
  rw [← ExtTreeSet.mem_toList, taskIds] at outside
  revert outside
  decide

end ChannelSdk.ChannelConfig
