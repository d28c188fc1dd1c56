import ChannelSdk.LoadOutcome

/-!
# The invariant of a loaded configuration

A load that completes leaves `task_nodes_`, the lists of the roles, the record
map and its projections in agreement, and the lookups of `GetNode` and
`GetNodeType` succeed on the task nodes only.  A load of a well-typed document
that does not complete throws because a task node is not described.
-/

namespace ChannelSdk.ChannelConfig

open CheckedMemory CheckedFold CheckedOutcome
open Std (ExtTreeMap ExtTreeSet)

section Lookups

variable {config : ChannelConfig}

/-- `GetNode` returns the record of the node. -/
theorem Consistent.getNode_eq_ok
    (consistent : Consistent config) {nodeId : String} {node : Node}
    (found : config.getNode nodeId = .ok node) :
    config.nodeInfoConfig[nodeId]? = some node := by
  rcases listed_of_getNode found with ⟨listed, same⟩
  rw [← same]
  exact consistent.copied node listed

theorem Consistent.exists_getNode_iff
    (consistent : Consistent config) (nodeId : String) :
    (∃ node, config.getNode nodeId = .ok node) ↔
      nodeId ∈ config.taskNodes := by
  rw [ChannelConfig.exists_getNode_iff, consistent.listed]

theorem Consistent.getNodeType_ne_nil_iff
    (consistent : Consistent config) (nodeId : String) :
    config.getNodeType nodeId ≠ [] ↔ nodeId ∈ config.taskNodes := by
  rw [ChannelConfig.getNodeType_ne_nil_iff, consistent.listed]

end Lookups

section Thrown

/-- A failed assertion, or an id that has no description. -/
def AssertsOrNotFound (raised : LoadError) : Prop :=
  raised.isAssertion ∨ ∃ nodeId, raised = .event (.noFindNid nodeId)

variable {self : ChannelConfig} {doc : Json}

theorem raises_readTaskNodes
    (key : String) (store : List (String × Node) → ChannelConfig) :
    Raises AssertsOrNotFound (self.readTaskNodes doc key store) := by
  refine Json.raises_readIf (fun _ => .inl) fun nodes => ?_
  refine raises_bind (raises_mapM fun entry _ => ?_) fun _ => raises_pure _
  refine raises_bind ((Json.raises_getString entry).mono fun _ => .inl) ?_
  intro nodeId
  exact (raises_describe _ nodeId).mono fun _ => .inr

theorem raises_parseCompute :
    Raises AssertsOrNotFound (self.parseCompute doc) := by
  rw [parseCompute_eq]
  refine Json.raises_readIf (fun _ => .inl) fun nodes => ?_
  refine raises_bind
    ((raises_readComputeNodes nodes _).mono fun _ => .inl) fun _ => ?_
  refine raises_bind (raises_mapM fun nodeId _ => ?_) fun _ => raises_pure _
  exact (raises_describe _ nodeId).mono fun _ => .inr

/-- The load throws nothing but the event of an id without description. -/
theorem raises_create (process : String) (doc : Json) :
    Raises AssertsOrNotFound (create process doc) := by
  refine raises_bind ?_ fun _ => raises_pure _
  refine raises_bind ((raises_parseSettings _ doc).mono fun _ => .inl)
    fun _ => ?_
  refine raises_bind ((raises_parseNodeInfo _ doc).mono fun _ => .inl)
    fun _ => ?_
  refine raises_bind ?_ fun _ => ?_
  · rw [parseData_eq]
    exact raises_readTaskNodes _ _
  apply raises_bind raises_parseCompute
  intro _
  refine raises_bind ?_ fun _ => ?_
  · rw [parseResult_eq]
    exact raises_readTaskNodes _ _
  · exact (raises_parsePolicy _ doc).mono fun _ => .inl

/-- A load of a well-typed document fails no assertion. -/
theorem WellTyped.readable (typed : WellTyped doc) : Readable doc :=
  ⟨typed.settings, typed.nodeInfo, textsUntilUnknown_of_isString typed.data,
    fun _ => typed.compute,
    fun _ => textsUntilUnknown_of_isString typed.result,
    fun _ => typed.policy⟩

theorem throws_noFindNid_iff
    (process : String) (typed : WellTyped doc) :
    (∃ nodeId, create process doc = .error (.event (.noFindNid nodeId))) ↔
      ∃ nodeId ∈ dataIds doc ++ computeIds doc ++ resultIds doc,
        nodeId ∉ describedIds doc := by
  have known :
      Completes (create process doc) ↔
        ∀ nodeId ∈ dataIds doc ++ computeIds doc ++ resultIds doc,
          nodeId ∈ describedIds doc := by
    rw [completes_create_iff]
    exact and_iff_right typed
  constructor
  · intro thrown
    rcases thrown with ⟨nodeId, failed⟩
    by_contra allKnown
    push Not at allKnown
    rw [failed] at known
    exact not_completes_error _ (known.mpr allKnown)
  · intro unknown
    rcases unknown with ⟨nodeId, isTask, undescribed⟩
    rcases completes_or_raised (create process doc) with
      completes | ⟨raised, failed⟩
    · exact absurd (known.mp completes nodeId isTask) undescribed
    · have clean :=
        (load_ends_cleanly_iff process doc).mpr typed.readable raised failed
      rcases raises_create process doc raised failed with
        asserted | ⟨missing, rfl⟩
      · rw [clean] at asserted
        cases asserted
      · exact ⟨missing, failed⟩

end Thrown

section Roles

variable {self result config : ChannelConfig} {doc : Json}

/-- The loop over an array of task nodes stores the ids of its strings. -/
theorem ids_of_readTaskNodes
    {key : String} {store : List (String × Node) → ChannelConfig}
    (isObject : doc.isObject)
    (read : self.readTaskNodes doc key store = .ok result) :
    result = self ∧ doc.elementsOf key = [] ∨
      ∃ listed, result = store listed ∧
        listed.map Prod.fst = (doc.elementsOf key).map Json.text := by
  rw [readTaskNodes, Json.readIf_of_isObject isObject] at read
  rw [Json.elementsOf]
  cases present : doc.member key with
  | none =>
      rw [present] at read
      cases read
      exact .inl ⟨rfl, rfl⟩
  | some nodes =>
      rw [present] at read
      dsimp only at read
      split at read
      · obtain ⟨listed, readNodes, stored⟩ := bind_eq_ok read
        cases stored
        refine .inr ⟨listed, rfl, ?_⟩
        apply map_eq_map_of_mapM readNodes
        intro entry member readEntry
        obtain ⟨nodeId, named, found⟩ := bind_eq_ok readEntry
        have typed : entry.isString :=
          Json.completes_getString_iff.mp ⟨nodeId, named⟩
        rw [Json.getString_of_isString typed] at named
        cases named
        exact (describe_eq_ok_iff.mp found).1
      · next notArray =>
          cases read
          refine .inl ⟨rfl, ?_⟩
          cases nodes with
          | array entries => exact absurd rfl notArray
          | _ => rfl

theorem ids_of_parseCompute
    (isObject : doc.isObject) (fresh : self.computeNodes = ∅)
    (parsed : self.parseCompute doc = .ok result) :
    (∀ nodeId, nodeId ∈ result.computeNodes ↔ nodeId ∈ computeIds doc) ∧
      result.dataNodes = self.dataNodes ∧
      result.resultNodes = self.resultNodes := by
  rw [parseCompute_eq, Json.readIf_of_isObject isObject] at parsed
  rw [computeIds, Json.membersOf]
  cases present : doc.member "COMPUTATION_NODES" with
  | none =>
      rw [present] at parsed
      cases parsed
      simp [fresh]
  | some nodes =>
      rw [present] at parsed
      dsimp only at parsed
      split at parsed
      · obtain ⟨computeNodes, read, parsed⟩ := bind_eq_ok parsed
        obtain ⟨listed, -, parsed⟩ := bind_eq_ok parsed
        cases parsed
        rw [fresh] at read
        refine ⟨fun nodeId => ?_, rfl, rfl⟩
        rw [← ExtTreeMap.mem_keys]
        exact mem_readComputeNodes_iff read nodeId
      · next notObject =>
          cases parsed
          cases nodes with
          | object entries => exact absurd rfl notObject
          | _ => simp [fresh, Json.members]

/-- The roles of a loaded configuration are those of its document. -/
theorem roles_of_create
    {process : String} (typed : WellTyped doc)
    (loaded : create process doc = .ok config) :
    config.dataNodes = dataIds doc ∧
      (∀ nodeId, nodeId ∈ config.computeNodes ↔ nodeId ∈ computeIds doc) ∧
      config.resultNodes = resultIds doc := by
  have isObject := typed.settings.isObject
  obtain ⟨parsed, completed, rfl⟩ := create_eq_ok loaded
  obtain ⟨withSettings, settings, completed⟩ := bind_eq_ok completed
  obtain ⟨withNodeInfo, nodeInfo, completed⟩ := bind_eq_ok completed
  obtain ⟨withData, data, completed⟩ := bind_eq_ok completed
  obtain ⟨withCompute, compute, completed⟩ := bind_eq_ok completed
  obtain ⟨withResult, results, policy⟩ := bind_eq_ok completed
  obtain ⟨_, _, _, _, _, _, _, _, rfl, -⟩ := parseSettings_eq_ok settings
  obtain ⟨_, _, _, _, rfl, -⟩ := parseNodeInfo_eq_ok nodeInfo
  obtain ⟨_, _, rfl⟩ := parsePolicy_eq_ok policy
  rw [parseData_eq] at data
  rw [parseResult_eq] at results
  have dataStage :
      withData.dataNodes = dataIds doc ∧ withData.computeNodes = ∅ ∧
        withData.resultNodes = [] := by
    obtain ⟨rfl, nothing⟩ | ⟨listed, rfl, ids⟩ :=
      ids_of_readTaskNodes isObject data
    · exact ⟨by rw [dataIds, nothing]; rfl, rfl, rfl⟩
    · exact ⟨ids, rfl, rfl⟩
  obtain ⟨computeIds, sameData, sameResult⟩ :=
    ids_of_parseCompute isObject dataStage.2.1 compute
  obtain ⟨rfl, nothing⟩ | ⟨listed, rfl, ids⟩ :=
    ids_of_readTaskNodes isObject results
  · refine ⟨sameData.trans dataStage.1, computeIds, ?_⟩
    rw [resultIds, nothing]
    exact sameResult.trans dataStage.2.2
  · exact ⟨sameData.trans dataStage.1, computeIds, ids⟩

end Roles

/-- What holds of a configuration that a load has left, and when a load of a
well-typed document throws.  The task nodes are those of the roles, and the
roles those that the document lists. -/
theorem loaded_config_invariant
    (process : String) (doc : Json) (typed : WellTyped doc) :
    (∀ config, create process doc = .ok config →
      (∀ nodeId, nodeId ∈ config.taskNodes ↔
        nodeId ∈ config.dataNodes ∨ nodeId ∈ config.computeNodes ∨
          nodeId ∈ config.resultNodes) ∧
      (config.dataNodes = dataIds doc ∧
        (∀ nodeId, nodeId ∈ config.computeNodes ↔ nodeId ∈ computeIds doc) ∧
        config.resultNodes = resultIds doc) ∧
      (∀ nodeId, (∃ node, config.getNode nodeId = .ok node) ↔
        nodeId ∈ config.taskNodes) ∧
      (∀ nodeId, config.getNodeType nodeId ≠ [] ↔
        nodeId ∈ config.taskNodes) ∧
      (∀ nodeId node, config.getNode nodeId = .ok node →
        config.nodeInfoConfig[nodeId]? = some node) ∧
      (∀ nodeId ∈ config.taskNodes, nodeId ∈ config.nodeInfoConfig) ∧
      (∀ (nodeId : String) (node : Node),
        config.nodeInfoConfig[nodeId]? = some node →
          config.nodeidToVia[nodeId]? = some node.via ∧
            config.nodeidToGlacier2[nodeId]? = some node.gricer2 ∧
            config.nodeidToIcegrid[nodeId]? = some node.icegrid)) ∧
    ((∃ nodeId, create process doc = .error (.event (.noFindNid nodeId))) ↔
      ∃ nodeId ∈ dataIds doc ++ computeIds doc ++ resultIds doc,
        nodeId ∉ describedIds doc) := by
  refine ⟨?_, throws_noFindNid_iff process typed⟩
  intro config loaded
  have consistent := consistent_of_create loaded
  have coherent := coherent_of_create loaded
  refine ⟨consistent.tasks, roles_of_create typed loaded,
    consistent.exists_getNode_iff,
    consistent.getNodeType_ne_nil_iff, ?_, coherent.described, ?_⟩
  · intro nodeId node found
    exact consistent.getNode_eq_ok found
  · intro nodeId node found
    rw [consistent.via, consistent.glacier2, consistent.icegrid, found]
    exact ⟨rfl, rfl, rfl⟩

/-- Two entries of `NODE_INFO` describe the node `A`. -/
def repeatedNodeDocument : Json :=
  .object
    [("NODE_INFO", .array
      [.object [("NODE_ID", .string "A"), ("VIA", .string "first")],
        .object [("NODE_ID", .string "A"), ("VIA", .string "second")],
        .object [("NODE_ID", .string "B")],
        .object [("NODE_ID", .string "C")]]),
    ("DATA_NODES", .array [.string "A"]),
    ("COMPUTATION_NODES", .object [("B", .string "P0")]),
    ("RESULT_NODES", .array [.string "C"])]

theorem loaded_config_invariant_repeated :
    ∃ config, create "A" repeatedNodeDocument = .ok config ∧
      config.taskNodes.toList = ["A", "B", "C"] ∧
      config.nodeidToVia["A"]? = some "first" ∧
      config.resultNodes = ["C"] ∧
      (∀ nodeId, (∃ node, config.getNode nodeId = .ok node) ↔
        nodeId ∈ config.taskNodes) := by
  have observed :
      (create "A" repeatedNodeDocument).toOption.map (fun config =>
        (config.taskNodes.toList, config.nodeidToVia["A"]?)) =
          some (["A", "B", "C"], some "first") := by
    decide +kernel
  rcases Option.map_eq_some_iff.mp observed with ⟨config, loaded, fields⟩
  rcases Prod.mk.inj fields with ⟨tasks, via⟩
  have completed : create "A" repeatedNodeDocument = .ok config :=
    eq_ok_of_toOption loaded
  have typed : WellTyped repeatedNodeDocument :=
    (completes_create_iff.mp ⟨config, completed⟩).1
  have invariant :=
    (loaded_config_invariant "A" repeatedNodeDocument typed).1 config
      completed
  exact
    ⟨config, completed, tasks, via, invariant.2.1.2.2, invariant.2.2.1⟩

end ChannelSdk.ChannelConfig
