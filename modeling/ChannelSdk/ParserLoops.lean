import ChannelSdk.ChannelConfig
import ChannelSdk.Lib.CheckedFold
import ChannelSdk.Lib.FirstEntries
import Mathlib.Data.List.ReduceOption

/-!
# The loops of the parser in two passes

Every loop of `core/src/config.cc` reads something off the element it visits
and then updates a map, a list or a set.  What it reads does not depend on
what the loop has updated, so the loop reads all its elements first and then
performs updates that cannot fail.  The maps are filled by insertions that
keep the first entry of a key.
-/

namespace ChannelSdk.ChannelConfig

open CheckedFold FirstEntries
open Std (ExtTreeMap ExtTreeSet)

section NodeInfo

/-- What `parse_node_info` stores for the nodes it has read. -/
def insertNodes (self : ChannelConfig) (nodes : List Node) : ChannelConfig :=
  { self with
    nodeInfoConfig :=
      insertAll self.nodeInfoConfig
        (nodes.map fun node => (node.nodeId, node))
    nodeidToVia :=
      insertAll self.nodeidToVia
        (nodes.map fun node => (node.nodeId, node.via))
    nodeidToGlacier2 :=
      insertAll self.nodeidToGlacier2
        (nodes.map fun node => (node.nodeId, node.gricer2))
    nodeidToIcegrid :=
      insertAll self.nodeidToIcegrid
        (nodes.map fun node => (node.nodeId, node.icegrid)) }

theorem insertNodes_append
    (self : ChannelConfig) (nodes others : List Node) :
    self.insertNodes (nodes ++ others) =
      (self.insertNodes nodes).insertNodes others := by
  simp only [insertNodes, List.map_append, insertAll_append]

theorem foldlM_addNode
    (self : ChannelConfig) (caCert : String) (entries : List Json) :
    entries.foldlM (fun config => config.addNode caCert) self =
      entries.mapM (fun entry => readNode entry caCert) >>= fun nodes =>
        pure (self.insertNodes nodes) := by
  apply foldlM_eq_mapM self.insertNodes
  intro before entry
  simp only [insertNodes_append]
  rfl

/-- The name and the text of a member. -/
def readText (entry : String × Json) : Except LoadError (String × String) := do
  let value ← entry.2.getString
  return (cString entry.1, value)

theorem readVias_eq
    (vias : Json) (viaToAddress : ExtTreeMap String String) :
    readVias vias viaToAddress =
      vias.members.mapM readText >>= fun addresses =>
        pure (insertAll viaToAddress addresses) := by
  apply foldlM_eq_mapM (insertAll viaToAddress)
  intro before entry
  simp only [readText, bind_assoc, pure_bind, insertAll_append]
  rfl

/-- The field of a plug-in that a member of its object sets. -/
def assignField (plugin : IcePlugCfg) (field : String × String) :
    IcePlugCfg :=
  if field.1 = "APPNAME" then { plugin with appName := field.2 }
  else if field.1 = "IP" then { plugin with ip := field.2 }
  else if field.1 = "PORT" then { plugin with port := field.2 }
  else plugin

theorem readPlugin_eq (info : Json) :
    readPlugin info =
      info.members.mapM readText >>= fun fields =>
        pure (fields.foldl assignField {}) := by
  apply foldlM_eq_mapM fun fields => fields.foldl assignField {}
  intro before entry
  simp only [readText, bind_assoc, pure_bind, List.foldl_append]
  rfl

/-- One member of `GRICER2_INFO` or `ICE_GRID_INFO`, if it is an object. -/
def readPluginEntry (list : Json) (entry : String × Json) :
    Except LoadError (Option (String × IcePlugCfg)) := do
  let name := cString entry.1
  let info ← list.subscript name
  if info.isObject then
    let plugin ← readPlugin info
    return some (name, plugin)
  else
    return none

theorem readPlugins_eq
    (list : Json) (plugins : ExtTreeMap String IcePlugCfg) :
    readPlugins list plugins =
      list.members.mapM (readPluginEntry list) >>= fun entries =>
        pure (insertAll plugins entries.reduceOption) := by
  apply foldlM_eq_mapM fun entries => insertAll plugins entries.reduceOption
  intro before entry
  simp only [readPluginEntry, bind_assoc, List.reduceOption_append,
    insertAll_append]
  apply bind_congr
  intro info
  split
  · simp only [bind_assoc, pure_bind]
    rfl
  · rfl

/-- `parse_node_info` with its loops in two passes. -/
theorem parseNodeInfo_eq (self : ChannelConfig) (doc : Json) :
    self.parseNodeInfo doc =
      Json.readIf Json.isArray doc "NODE_INFO" self fun nodes => do
        let caCert ← getString doc "ROOT_CERT" self.rootCert false
        let described ←
          nodes.elements.mapM fun entry => readNode entry caCert
        let viaToAddress ←
          Json.readIf Json.isObject doc "VIA_INFO" self.viaToAddress
            fun vias => readVias vias self.viaToAddress
        let glacier2ToInfo ←
          Json.readIf Json.isObject doc "GRICER2_INFO" self.glacier2ToInfo
            fun list => readPlugins list self.glacier2ToInfo
        let icegridToInfo ←
          Json.readIf Json.isObject doc "ICE_GRID_INFO" self.icegridToInfo
            fun list => readPlugins list self.icegridToInfo
        return { self.insertNodes described with
          viaToAddress, glacier2ToInfo, icegridToInfo } := by
  simp only [parseNodeInfo, foldlM_addNode, bind_assoc, pure_bind]
  rfl

end NodeInfo

section TaskNodes

/-- The id of a task node with its description. -/
def describe (table : ExtTreeMap String Node) (nodeId : String) :
    Except LoadError (String × Node) :=
  match table[nodeId]? with
  | some node => .ok (nodeId, node)
  | none => .error (.event (.noFindNid nodeId))

theorem describe_eq_findNode (self : ChannelConfig) (nodeId : String) :
    describe self.nodeInfoConfig nodeId =
      self.findNode nodeId >>= fun node => pure (nodeId, node) := by
  rw [findNode, describe]
  rcases self.nodeInfoConfig[nodeId]? with _ | node <;> rfl

/-- The task node that an element of an array names. -/
def readTaskNode (table : ExtTreeMap String Node) (entry : Json) :
    Except LoadError (String × Node) :=
  entry.getString >>= describe table

theorem describe_eq_ok_iff
    {table : ExtTreeMap String Node} {nodeId : String}
    {listed : String × Node} :
    describe table nodeId = .ok listed ↔
      listed.1 = nodeId ∧ table[nodeId]? = some listed.2 := by
  rcases listed with ⟨id, node⟩
  rw [describe]
  split
  · next found =>
      simp [found, eq_comm]
  · next missing =>
      simp [missing]

/-- The set of task nodes after the listed ones have joined. -/
def addTasks (taskNodes : ExtTreeSet String)
    (listed : List (String × Node)) : ExtTreeSet String :=
  listed.foldl (fun tasks member => tasks.insert member.1) taskNodes

theorem mem_addTasks
    {listed : List (String × Node)} :
    ∀ {taskNodes : ExtTreeSet String} {nodeId : String},
      nodeId ∈ addTasks taskNodes listed ↔
        nodeId ∈ taskNodes ∨ nodeId ∈ listed.map Prod.fst := by
  induction listed with
  | nil =>
      intro taskNodes nodeId
      simp [addTasks]
  | cons member rest inductionHypothesis =>
      intro taskNodes nodeId
      have joined :
          nodeId ∈ addTasks taskNodes (member :: rest) ↔
            nodeId ∈ taskNodes.insert member.1 ∨
              nodeId ∈ rest.map Prod.fst :=
        inductionHypothesis
      rw [joined, ExtTreeSet.mem_insert, Std.LawfulEqCmp.compare_eq_iff_eq,
        List.map_cons, List.mem_cons, @eq_comm _ member.1, or_assoc,
        or_left_comm]

/-- What `parse_data` stores. -/
def withData (self : ChannelConfig) (listed : List (String × Node)) :
    ChannelConfig :=
  { self with
    dataNodes := listed.map Prod.fst
    dataConfig := listed.map Prod.snd
    taskNodes := addTasks self.taskNodes listed }

/-- What `parse_compute` stores. -/
def withCompute (self : ChannelConfig)
    (computeNodes : ExtTreeMap String Int)
    (listed : List (String × Node)) : ChannelConfig :=
  { self with
    computeNodes := computeNodes
    computeConfig := listed.map Prod.snd
    taskNodes := addTasks self.taskNodes listed }

/-- What `parse_result` stores. -/
def withResult (self : ChannelConfig) (listed : List (String × Node)) :
    ChannelConfig :=
  { self with
    resultNodes := listed.map Prod.fst
    resultConfig := listed.map Prod.snd
    taskNodes := addTasks self.taskNodes listed }

/-- The loop over an array of task nodes, in two passes. -/
def readTaskNodes (self : ChannelConfig) (doc : Json) (key : String)
    (store : List (String × Node) → ChannelConfig) :
    Except LoadError ChannelConfig :=
  Json.readIf Json.isArray doc key self fun nodes => do
    let listed ← nodes.elements.mapM (readTaskNode self.nodeInfoConfig)
    return store listed

theorem parseData_eq (self : ChannelConfig) (doc : Json) :
    self.parseData doc =
      self.readTaskNodes doc "DATA_NODES" self.withData := by
  have passes :
      ∀ before entry,
        (self.withData before).addDataNode entry =
          readTaskNode self.nodeInfoConfig entry >>= fun member =>
            pure (self.withData (before ++ [member])) := by
    intro before entry
    have described :
        ∀ nodeId, describe self.nodeInfoConfig nodeId = _ :=
      describe_eq_findNode (self.withData before)
    simp only [addDataNode, readTaskNode, described, bind_assoc, pure_bind]
    simp [withData, addTasks]
  have loop :
      ∀ nodes : Json,
        nodes.elements.foldlM addDataNode (self.withData []) =
          nodes.elements.mapM (readTaskNode self.nodeInfoConfig) >>=
            fun listed => pure (self.withData listed) := by
    intro nodes
    exact foldlM_eq_mapM self.withData passes nodes.elements
  rw [readTaskNodes, ← funext loop]
  rfl

theorem parseResult_eq (self : ChannelConfig) (doc : Json) :
    self.parseResult doc =
      self.readTaskNodes doc "RESULT_NODES" self.withResult := by
  have passes :
      ∀ before entry,
        (self.withResult before).addResultNode entry =
          readTaskNode self.nodeInfoConfig entry >>= fun member =>
            pure (self.withResult (before ++ [member])) := by
    intro before entry
    have described :
        ∀ nodeId, describe self.nodeInfoConfig nodeId = _ :=
      describe_eq_findNode (self.withResult before)
    simp only [addResultNode, readTaskNode, described, bind_assoc, pure_bind]
    simp [withResult, addTasks]
  have loop :
      ∀ nodes : Json,
        nodes.elements.foldlM addResultNode (self.withResult []) =
          nodes.elements.mapM (readTaskNode self.nodeInfoConfig) >>=
            fun listed => pure (self.withResult listed) := by
    intro nodes
    exact foldlM_eq_mapM self.withResult passes nodes.elements
  rw [readTaskNodes, ← funext loop]
  rfl

/-- One member of `COMPUTATION_NODES`. -/
def readParty (entry : String × Json) : Except LoadError (String × Int) := do
  let value ← entry.2.getString
  return (cString entry.1, partyOf value)

theorem readComputeNodes_eq
    (nodes : Json) (computeNodes : ExtTreeMap String Int) :
    readComputeNodes nodes computeNodes =
      nodes.members.mapM readParty >>= fun parties =>
        pure (insertAll computeNodes parties) := by
  apply foldlM_eq_mapM (insertAll computeNodes)
  intro before entry
  simp only [readParty, bind_assoc, pure_bind, insertAll_append]
  rfl

/-- `parse_compute` with its loops in two passes. -/
theorem parseCompute_eq (self : ChannelConfig) (doc : Json) :
    self.parseCompute doc =
      Json.readIf Json.isObject doc "COMPUTATION_NODES" self fun nodes => do
        let computeNodes ← readComputeNodes nodes self.computeNodes
        let listed ←
          computeNodes.keys.mapM (describe self.nodeInfoConfig)
        return self.withCompute computeNodes listed := by
  have passes :
      ∀ computeNodes before nodeId,
        (self.withCompute computeNodes before).addComputeNode nodeId =
          describe self.nodeInfoConfig nodeId >>= fun member =>
            pure (self.withCompute computeNodes (before ++ [member])) := by
    intro computeNodes before nodeId
    have described : describe self.nodeInfoConfig nodeId = _ :=
      describe_eq_findNode (self.withCompute computeNodes before) nodeId
    simp only [addComputeNode, described, bind_assoc, pure_bind]
    simp [withCompute, addTasks]
  have loop :
      ∀ computeNodes : ExtTreeMap String Int,
        computeNodes.keys.foldlM addComputeNode
            (self.withCompute computeNodes []) =
          computeNodes.keys.mapM (describe self.nodeInfoConfig) >>=
            fun listed => pure (self.withCompute computeNodes listed) := by
    intro computeNodes
    exact foldlM_eq_mapM (self.withCompute computeNodes)
      (passes computeNodes) computeNodes.keys
  simp only [← loop]
  rfl

end TaskNodes

section Policy

/-- The server ids that have been read. -/
def serverSet (ids : List String) : ExtTreeSet String :=
  ids.foldl (fun nodeids nodeid => nodeids.insert nodeid) ∅

/-- A value that is no array has no elements. -/
theorem readServerNodes_eq (policy : Json) (nodeid : String) :
    readServerNodes policy nodeid =
      policy.subscript nodeid >>= fun serverNodes =>
        serverNodes.elements.mapM Json.getString >>= fun ids =>
          pure (serverSet ids) := by
  rw [readServerNodes]
  apply bind_congr
  intro serverNodes
  cases serverNodes with
  | array entries =>
      rw [Json.isArray, if_pos rfl]
      apply foldlM_eq_mapM serverSet
      intro before entry
      simp only [serverSet, List.foldl_append]
      rfl
  | _ => rfl

/-- One member of a `POLICY` object. -/
def readPolicy (policy : Json) (entry : String × Json) :
    Except LoadError (String × ExtTreeSet String) := do
  let nodeids ← readServerNodes policy (cString entry.1)
  return (cString entry.1, nodeids)

theorem foldlM_addPolicy (self : ChannelConfig) (policy : Json) :
    policy.members.foldlM (addPolicy policy) self =
      policy.members.mapM (readPolicy policy) >>= fun policies =>
        pure { self with mapPolicy := insertAll self.mapPolicy policies } := by
  let store := fun policies : List (String × ExtTreeSet String) =>
    { self with mapPolicy := insertAll self.mapPolicy policies }
  apply foldlM_eq_mapM store
  intro before entry
  simp only [addPolicy, readPolicy, bind_assoc, pure_bind, store,
    insertAll_append]
  rfl

end Policy

end ChannelSdk.ChannelConfig
