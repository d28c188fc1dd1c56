import ChannelSdk.Endpoints
import ChannelSdk.LoadedInvariant
import ChannelSdk.ServerRecords

/-!
# Clients and servers agree on their addresses

A client derives its proxy from the record that its configuration has of the
server; the server derives its endpoint from the copy of its own description.
Both sides go back to the first entry of `NODE_INFO` with the server's id, and
the certificate of the root, which selects the protocol, is the same for all
nodes of a document.
-/

namespace ChannelSdk

open CheckedMemory
open Std (ExtTreeMap ExtTreeSet)

namespace ChannelConfig

/-- The servers that `CreateIoChannel` finds for a node. -/
def remoteServers (self : ChannelConfig) (nodeId : String) :
    Except Event ViaInfoSet := do
  let node ← self.getNode nodeId
  let topology ← ((self.copyNodeInfo node).2.getNodeInfos {} nodeId).1
  return topology.serverInfos

/-- The server that a node starts. -/
def ownServer (self : ChannelConfig) (nodeId : String) :
    Except Event ServerEndpoint := do
  let node ← self.getNode nodeId
  createServer (self.copyNodeInfo node).1 self.taskId

/-- The processes that load one document hold the same nodes. -/
theorem sameNodes_of_create
    {doc : Json} {firstProcess secondProcess : String}
    {first second : ChannelConfig}
    (firstLoaded : create firstProcess doc = .ok first)
    (secondLoaded : create secondProcess doc = .ok second) :
    second = { first with nodeId := secondProcess } := by
  rcases create_eq_ok firstLoaded with ⟨parsed, completed, rfl⟩
  rcases create_eq_ok secondLoaded with ⟨reparsed, recompleted, rfl⟩
  rw [completed] at recompleted
  cases recompleted
  rfl

/-- The record of a server has the address and the root certificate of the
server's description. -/
theorem remoteServers_record
    {config : ChannelConfig} {nodeId : String} {servers : ViaInfoSet}
    {viaInfo : ViaInfo} (found : config.remoteServers nodeId = .ok servers)
    (isServer : viaInfo ∈ servers.toList) :
    ∃ node, config.nodeInfoConfig[viaInfo.id]? = some node ∧
      viaInfo.viaAddress = node.address ∧
      viaInfo.caCertPath = node.caCertPath := by
  rcases bind_eq_ok found with ⟨own, -, found⟩
  rcases bind_eq_ok found with ⟨topology, queried, found⟩
  cases found
  have recorded : Recorded config topology.serverInfos := by
    rcases outcome :
        (config.copyNodeInfo own).2.getNodeInfos {} nodeId with
      ⟨result, next⟩
    rw [outcome] at queried
    cases queried
    exact (getNodeInfos_recorded (sameLookups_copyNodeInfo config own)
      outcome).1
  rcases recorded.of_mem isServer with ⟨node, described, record⟩
  rw [record]
  exact ⟨node, described, rfl, rfl⟩

end ChannelConfig

/-- A proxy leads to an endpoint: the identities are equal, and both sides use
the same direct address or the same adapter. -/
def ClientProxy.Reaches (proxy : ClientProxy) (endpoint : ServerEndpoint) :
    Prop :=
  proxy.identity = endpoint.identity ∧
    match proxy.route, endpoint.route with
    | .direct protocol ip port, .direct ownProtocol ownIp ownPort =>
        protocol = ownProtocol ∧ ip = ownIp ∧ port = ownPort
    | .glacier2 _ _ adapterId, .iceGrid _ _ _ ownAdapterId =>
        adapterId = ownAdapterId
    | _, _ => False

/-- What a client that passes its checks derives from its record. -/
theorem createClient_eq_ok
    {viaInfo : ViaInfo} {taskId : String} {proxy : ClientProxy}
    (created : createClient viaInfo taskId = .ok proxy) :
    proxy.identity = servantId taskId viaInfo.id ∧
      proxy.route =
        match splitAddress viaInfo.viaAddress with
        | some (ip, port) =>
            .direct (protocolFor viaInfo.caCertPath) ip port
        | none =>
            .glacier2 (protocolFor viaInfo.caCertPath) viaInfo.glacier2Info
              (servantAdapterId taskId viaInfo.id) := by
  rw [createClient] at created
  rcases address : splitAddress viaInfo.viaAddress with _ | ⟨ip, port⟩
  · simp only [address] at created
    split at created
    · exact nomatch created
    · split at created
      · exact nomatch created
      · rw [← Except.ok.inj created]
        exact ⟨rfl, rfl⟩
  · simp only [address] at created
    split at created
    · exact nomatch created
    · rw [← Except.ok.inj created]
      exact ⟨rfl, rfl⟩

/-- What a server that passes its checks derives from its description. -/
theorem createServer_eq_ok
    {serverInfo : NodeInfo} {taskId : String} {endpoint : ServerEndpoint}
    (created : createServer serverInfo taskId = .ok endpoint) :
    endpoint.identity = servantId taskId serverInfo.id ∧
      endpoint.route =
        match splitAddress serverInfo.address with
        | some (ip, port) =>
            .direct (protocolFor serverInfo.caCertPath) ip port
        | none =>
            .iceGrid (protocolFor serverInfo.caCertPath) serverInfo.publicIp
              serverInfo.iceGridInfo
              (servantAdapterId taskId serverInfo.id) := by
  rw [createServer] at created
  rcases address : splitAddress serverInfo.address with _ | ⟨ip, port⟩
  · simp only [address] at created
    split at created
    · exact nomatch created
    · split at created
      · exact nomatch created
      · rw [← Except.ok.inj created]
        exact ⟨rfl, rfl⟩
  · simp only [address] at created
    rw [← Except.ok.inj created]
    exact ⟨rfl, rfl⟩

/-- A client and a server that are made from the same id, address and root
certificate meet. -/
theorem reaches_of_same
    {viaInfo : ViaInfo} {serverInfo : NodeInfo} {taskId : String}
    {proxy : ClientProxy} {endpoint : ServerEndpoint}
    (sameId : viaInfo.id = serverInfo.id)
    (sameAddress : viaInfo.viaAddress = serverInfo.address)
    (sameCert : viaInfo.caCertPath = serverInfo.caCertPath)
    (client : createClient viaInfo taskId = .ok proxy)
    (server : createServer serverInfo taskId = .ok endpoint) :
    proxy.Reaches endpoint := by
  rcases createClient_eq_ok client with ⟨proxyIdentity, proxyRoute⟩
  rcases createServer_eq_ok server with ⟨ownIdentity, ownRoute⟩
  rw [sameId, sameAddress, sameCert] at proxyRoute
  refine ⟨?_, ?_⟩
  · rw [proxyIdentity, ownIdentity, sameId]
  · rw [proxyRoute, ownRoute]
    rcases splitAddress serverInfo.address with _ | ⟨ip, port⟩
    · rfl
    · exact ⟨rfl, rfl, rfl⟩

/-- Two nodes have loaded one document.  The proxy that the first makes for a
server leads to the endpoint that this server makes for itself. -/
theorem client_reaches_server
    {doc : Json} {processA processB : String}
    {configA configB : ChannelConfig}
    (loadedA : ChannelConfig.create processA doc = .ok configA)
    (loadedB : ChannelConfig.create processB doc = .ok configB)
    {nodeA nodeB : String} {servers : ViaInfoSet} {viaInfo : ViaInfo}
    (found : configA.remoteServers nodeA = .ok servers)
    (isServer : viaInfo ∈ servers.toList) (named : viaInfo.id = nodeB)
    {proxy : ClientProxy} {endpoint : ServerEndpoint}
    (client : createClient viaInfo configA.taskId = .ok proxy)
    (server : configB.ownServer nodeB = .ok endpoint) :
    proxy.Reaches endpoint := by
  have same := ChannelConfig.sameNodes_of_create loadedA loadedB
  subst same
  have consistent := ChannelConfig.consistent_of_create loadedA
  rcases bind_eq_ok server with ⟨own, looked, server⟩
  have ownDescribed : configA.nodeInfoConfig[nodeB]? = some own :=
    consistent.getNode_eq_ok looked
  have ownId : own.nodeId = nodeB :=
    (ChannelConfig.coherent_of_create loadedA).keyed nodeB own ownDescribed
  rcases ChannelConfig.remoteServers_record found isServer with
    ⟨node, described, address, cert⟩
  rw [named, ownDescribed] at described
  cases described
  refine reaches_of_same (named.trans ownId.symm) address ?_ client server
  rw [cert]
  exact consistent.certified nodeB own ownDescribed

/-- The proxy that one node makes for another and the endpoint of the other,
both from their own copies of a document. -/
def meet (doc : Json) (nodeA nodeB : String) :
    Except LoadError (Option ClientProxy × ServerEndpoint) := do
  let configA ← ChannelConfig.create nodeA doc
  let configB ← ChannelConfig.create nodeB doc
  let servers ← (configA.remoteServers nodeA).mapError .event
  let endpoint ← (configB.ownServer nodeB).mapError .event
  match servers.toList.find? fun viaInfo => viaInfo.id = nodeB with
  | some viaInfo =>
      let proxy ← (createClient viaInfo configA.taskId).mapError .event
      return (some proxy, endpoint)
  | none => return (none, endpoint)

theorem client_reaches_server_pair :
    ∃ proxy endpoint,
      meet ChannelConfig.pairDocument "A" "B" = .ok (some proxy, endpoint) ∧
        proxy = ⟨"IoChannel__B", .direct "tcp" "hostB" "1"⟩ ∧
        proxy.Reaches endpoint := by
  have observed :
      meet ChannelConfig.pairDocument "A" "B" =
        .ok (some ⟨"IoChannel__B", .direct "tcp" "hostB" "1"⟩,
          ⟨"IoChannel__B", .direct "tcp" "hostB" "1"⟩) := by
    decide +kernel
  refine ⟨_, _, observed, rfl, ?_⟩
  rcases bind_eq_ok observed with ⟨configA, loadedA, observed⟩
  rcases bind_eq_ok observed with ⟨configB, loadedB, observed⟩
  rcases bind_eq_ok observed with ⟨servers, found, observed⟩
  rcases bind_eq_ok observed with ⟨endpoint, server, observed⟩
  split at observed
  · next viaInfo first =>
      rcases bind_eq_ok observed with ⟨proxy, client, observed⟩
      cases observed
      have named : viaInfo.id = "B" := by
        simpa using List.find?_some first
      exact client_reaches_server loadedA loadedB
        (mapError_eq_ok found) (List.mem_of_find?_eq_some first) named
        (mapError_eq_ok client) (mapError_eq_ok server)
  · cases observed

end ChannelSdk
