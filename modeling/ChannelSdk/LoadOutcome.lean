import ChannelSdk.DocumentTypes
import ChannelSdk.LoadedRoles

/-!
# How a load ends

A load completes on the documents that have the expected types and describe
every node of their task.  It throws at the first id that is not described and
then reads nothing further, so a value of another type is harmless behind such
an id.  Every other mismatch is a failed assertion of RapidJSON.
-/

namespace ChannelSdk.ChannelConfig

open CheckedMemory CheckedFold CheckedOutcome FirstEntries
open Std (ExtTreeMap ExtTreeSet)

section TaskNodes

/-- The elements are strings up to the first one that names no known id. -/
def TextsUntilUnknown (known : String → Prop) : List Json → Prop
  | [] => True
  | element :: rest =>
      element.isString ∧ (known element.text → TextsUntilUnknown known rest)

/-- Texts are read whether their ids are known or not. -/
theorem textsUntilUnknown_of_isString
    {known : String → Prop} {entries : List Json}
    (texts : ∀ entry ∈ entries, entry.isString) :
    TextsUntilUnknown known entries := by
  induction entries with
  | nil => exact trivial
  | cons entry rest inductionHypothesis =>
      rcases List.forall_mem_cons.mp texts with ⟨isText, restTexts⟩
      exact ⟨isText, fun _ => inductionHypothesis restTexts⟩

theorem completes_describe_iff
    {table : ExtTreeMap String Node} {nodeId : String} :
    Completes (describe table nodeId) ↔ nodeId ∈ table := by
  rw [describe, ExtTreeMap.mem_iff_isSome_getElem?]
  rcases table[nodeId]? with _ | node <;> simp

/-- The only error is an id without a description. -/
theorem raises_describe (table : ExtTreeMap String Node) (nodeId : String) :
    Raises (fun raised => ∃ id, raised = .event (.noFindNid id))
      (describe table nodeId) := by
  rw [describe]
  rcases table[nodeId]? with _ | node
  · exact raises_error_iff.mpr ⟨nodeId, rfl⟩
  · exact raises_ok _

theorem readTaskNode_of_isString
    {table : ExtTreeMap String Node} {entry : Json}
    (typed : entry.isString) :
    readTaskNode table entry = describe table entry.text := by
  rw [readTaskNode, Json.getString_of_isString typed, ok_bind]

/-- When all ids are known, all elements are read. -/
theorem isString_of_textsUntilUnknown
    {known : String → Prop} {entries : List Json}
    (texts : TextsUntilUnknown known entries)
    (allKnown : ∀ nodeId ∈ entries.map Json.text, known nodeId) :
    ∀ entry ∈ entries, entry.isString := by
  induction entries with
  | nil =>
      intro entry member
      cases member
  | cons entry rest inductionHypothesis =>
      rw [List.map_cons, List.forall_mem_cons] at allKnown
      rw [List.forall_mem_cons]
      exact ⟨texts.1, inductionHypothesis (texts.2 allKnown.1) allKnown.2⟩

theorem completes_readTaskNode_iff
    {table : ExtTreeMap String Node} {entry : Json} :
    Completes (readTaskNode table entry) ↔
      entry.isString ∧ entry.text ∈ table := by
  by_cases typed : entry.isString
  · rw [readTaskNode_of_isString typed, completes_describe_iff]
    simp [typed]
  · have failed : ¬ Completes (readTaskNode table entry) := by
      intro completes
      rcases completes_bind_iff.mp completes with ⟨nodeId, read, -⟩
      exact typed (Json.completes_getString_iff.mp ⟨nodeId, read⟩)
    simp [failed, typed]

theorem endsCleanly_describe
    (table : ExtTreeMap String Node) (nodeId : String) :
    EndsCleanly (describe table nodeId) := by
  refine (raises_describe table nodeId).mono ?_
  intro raised notFound
  rcases notFound with ⟨id, rfl⟩
  rfl

theorem endsCleanly_readTaskNode_iff
    {table : ExtTreeMap String Node} {entry : Json} :
    EndsCleanly (readTaskNode table entry) ↔ entry.isString := by
  constructor
  · intro clean
    have readCleanly : EndsCleanly entry.getString :=
      (raises_bind_iff.mp clean).1
    exact Json.completes_getString_iff.mp
      ((endsCleanly_iff_completes (Json.raises_getString entry)).mp
        readCleanly)
  · intro typed
    rw [readTaskNode_of_isString typed]
    exact endsCleanly_describe table entry.text

/-- The loop over an array of task nodes asserts the type of the elements up
to the first one that is not described. -/
theorem endsCleanly_mapM_readTaskNode_iff
    {table : ExtTreeMap String Node} {entries : List Json} :
    EndsCleanly (entries.mapM (readTaskNode table)) ↔
      TextsUntilUnknown (fun nodeId => nodeId ∈ table) entries := by
  induction entries with
  | nil => exact iff_of_true (raises_pure _) trivial
  | cons entry rest inductionHypothesis =>
      have later :
          ∀ listed, readTaskNode table entry = .ok listed →
            (EndsCleanly
                (rest.mapM (readTaskNode table) >>= fun others =>
                  pure (listed :: others)) ↔
              TextsUntilUnknown (fun nodeId => nodeId ∈ table) rest) := by
        intro listed _
        rw [← inductionHypothesis, EndsCleanly, raises_bind_iff]
        simp [EndsCleanly]
      have known :
          entry.isString →
            (Completes (readTaskNode table entry) ↔ entry.text ∈ table) := by
        intro typed
        simp [completes_readTaskNode_iff, typed]
      rw [List.mapM_cons]
      exact raises_bind_of_conditions endsCleanly_readTaskNode_iff known later

theorem completes_mapM_readTaskNode_iff
    {table : ExtTreeMap String Node} {entries : List Json} :
    Completes (entries.mapM (readTaskNode table)) ↔
      (∀ entry ∈ entries, entry.isString) ∧
        ∀ nodeId ∈ entries.map Json.text, nodeId ∈ table := by
  rw [completes_mapM_iff]
  simp only [completes_readTaskNode_iff, List.forall_mem_map]
  exact forall₂_and

/-- The ids that the arrays and the object of task nodes name. -/
def dataIds (doc : Json) : List String :=
  (doc.elementsOf "DATA_NODES").map Json.text

def computeIds (doc : Json) : List String :=
  (doc.membersOf "COMPUTATION_NODES").map fun entry => cString entry.1

def resultIds (doc : Json) : List String :=
  (doc.elementsOf "RESULT_NODES").map Json.text

section ArrayOfTaskNodes

variable {self : ChannelConfig} {doc : Json} {key : String}
variable {store : List (String × Node) → ChannelConfig}

theorem completes_readTaskNodes_iff (isObject : doc.isObject) :
    Completes (self.readTaskNodes doc key store) ↔
      (∀ entry ∈ doc.elementsOf key, entry.isString) ∧
        ∀ nodeId ∈ (doc.elementsOf key).map Json.text,
          nodeId ∈ self.nodeInfoConfig := by
  rw [readTaskNodes, Json.completes_readIf_iff isObject, Json.elementsOf]
  simp only [completes_bind_pure_iff, completes_mapM_readTaskNode_iff]
  rcases doc.member key with _ | nodes
  · simp
  · cases nodes with
    | array entries => simp [Json.isArray]
    | _ => simp [Json.isArray, Json.elements]

theorem endsCleanly_readTaskNodes_iff (isObject : doc.isObject) :
    EndsCleanly (self.readTaskNodes doc key store) ↔
      TextsUntilUnknown (fun nodeId => nodeId ∈ self.nodeInfoConfig)
        (doc.elementsOf key) := by
  have stored :
      ∀ nodes : Json,
        Raises (fun raised => raised.isAssertion = false)
            (nodes.elements.mapM (readTaskNode self.nodeInfoConfig) >>=
              fun listed => pure (store listed)) ↔
          TextsUntilUnknown (fun nodeId => nodeId ∈ self.nodeInfoConfig)
            nodes.elements := by
    intro nodes
    rw [← endsCleanly_mapM_readTaskNode_iff, raises_bind_iff, EndsCleanly]
    simp
  rw [readTaskNodes, EndsCleanly, Json.raises_readIf_iff isObject,
    Json.elementsOf]
  simp only [stored]
  rcases doc.member key with _ | nodes
  · simp [TextsUntilUnknown]
  · cases nodes with
    | array entries => simp [Json.isArray]
    | _ => simp [Json.isArray, Json.elements, TextsUntilUnknown]

end ArrayOfTaskNodes

theorem completes_readComputeNodes_iff
    {nodes : Json} {known : ExtTreeMap String Int} :
    Completes (readComputeNodes nodes known) ↔
      Json.TextMembers nodes.members := by
  rw [readComputeNodes_eq, completes_bind_pure_iff, completes_mapM_iff]
  apply forall₂_congr
  intro entry _
  exact completes_bind_pure_iff.trans Json.completes_getString_iff

theorem raises_readComputeNodes
    (nodes : Json) (known : ExtTreeMap String Int) :
    Raises (fun raised => raised.isAssertion)
      (readComputeNodes nodes known) := by
  rw [readComputeNodes_eq]
  refine raises_bind (raises_mapM fun entry _ => ?_) fun _ => raises_pure _
  exact raises_bind (Json.raises_getString entry.2) fun _ => raises_pure _

theorem mem_readComputeNodes_iff
    {nodes : Json} {computeNodes : ExtTreeMap String Int}
    (read : readComputeNodes nodes ∅ = .ok computeNodes) (nodeId : String) :
    nodeId ∈ computeNodes.keys ↔
      nodeId ∈ nodes.members.map fun entry => cString entry.1 := by
  rw [readComputeNodes_eq] at read
  rcases bind_eq_ok read with ⟨parties, readParties, read⟩
  cases read
  have names :
      parties.map Prod.fst =
        nodes.members.map fun entry => cString entry.1 := by
    apply map_eq_map_of_mapM readParties
    intro entry party readEntry
    rcases bind_eq_ok readEntry with ⟨value, -, stored⟩
    cases stored
    rfl
  rw [ExtTreeMap.mem_keys, mem_insertAll_iff, names]
  simp

theorem completes_parseCompute_iff
    {self : ChannelConfig} {doc : Json} (isObject : doc.isObject)
    (fresh : self.computeNodes = ∅) :
    Completes (self.parseCompute doc) ↔
      Json.TextMembers (doc.membersOf "COMPUTATION_NODES") ∧
        ∀ nodeId ∈ computeIds doc, nodeId ∈ self.nodeInfoConfig := by
  let Holds := fun entries : List (String × Json) =>
    Json.TextMembers entries ∧
      ∀ nodeId ∈ entries.map fun entry => cString entry.1,
        nodeId ∈ self.nodeInfoConfig
  have empty : Holds [] := by
    simp [Holds, Json.TextMembers]
  rw [parseCompute_eq]
  apply Json.completes_readIf_isObject_iff isObject empty
  intro nodes
  simp only [Holds]
  rw [fresh, ← completes_readComputeNodes_iff]
  apply completes_bind_of_forall
  intro computeNodes read
  rw [completes_bind_pure_iff, completes_mapM_iff]
  simp only [completes_describe_iff, mem_readComputeNodes_iff read]

theorem endsCleanly_parseCompute_iff
    {self : ChannelConfig} {doc : Json} (isObject : doc.isObject) :
    EndsCleanly (self.parseCompute doc) ↔
      Json.TextMembers (doc.membersOf "COMPUTATION_NODES") := by
  rw [parseCompute_eq]
  apply Json.raises_readIf_isObject_iff isObject
    (by simp [Json.TextMembers])
  intro nodes
  have stored :
      ∀ computeNodes : ExtTreeMap String Int,
        EndsCleanly
          (computeNodes.keys.mapM (describe self.nodeInfoConfig) >>=
            fun listed => pure (self.withCompute computeNodes listed)) := by
    intro computeNodes
    refine raises_bind (raises_mapM fun nodeId _ => ?_) fun _ => raises_pure _
    exact endsCleanly_describe _ nodeId
  rw [raises_bind_iff, ← completes_readComputeNodes_iff,
    ← endsCleanly_iff_completes
      (raises_readComputeNodes nodes self.computeNodes)]
  exact and_iff_left fun computeNodes _ => stored computeNodes

end TaskNodes

section Policy

/-- Every member of the policy is found under its name, and the elements of
an array are strings. -/
def PoliciesTyped (entries : List (String × Json)) : Prop :=
  ∀ entry ∈ entries, ∃ servers,
    Json.findMember entries (cString entry.1) = some servers ∧
      ∀ server ∈ servers.elements, server.isString

theorem completes_readPolicy_iff
    {entries : List (String × Json)} {entry : String × Json} :
    Completes (readPolicy (.object entries) entry) ↔
      ∃ servers,
        Json.findMember entries (cString entry.1) = some servers ∧
          ∀ server ∈ servers.elements, server.isString := by
  rw [readPolicy, completes_bind_pure_iff, readServerNodes_eq,
    Json.subscript]
  rcases Json.findMember entries (cString entry.1) with _ | servers
  · refine iff_of_false ?_ (by simp)
    exact not_completes_error _
  · rw [ok_bind, completes_bind_pure_iff, completes_mapM_iff]
    simp [Json.completes_getString_iff]

theorem raises_readPolicy (policy : Json) (entry : String × Json) :
    Raises (fun raised => raised.isAssertion) (readPolicy policy entry) := by
  rw [readPolicy, readServerNodes_eq, bind_assoc]
  apply raises_bind (Json.raises_subscript _ _)
  intro servers
  rw [bind_assoc]
  apply raises_bind
    (raises_mapM fun server _ => Json.raises_getString server)
  intro _
  exact raises_pure _

/-- `parse_policy` on an object. -/
theorem parsePolicy_of_isObject
    {doc : Json} (isObject : doc.isObject) (self : ChannelConfig) :
    self.parsePolicy doc =
      match doc.member "POLICY" with
      | some policy =>
          if policy.isString then
            getString doc "POLICY" "all" false >>= fun policyType =>
              pure { self with policyType }
          else if policy.isObject then
            policy.members.foldlM (addPolicy policy) self
          else pure self
      | none => pure self := by
  rcases Json.isObject_iff.mp isObject with ⟨entries, rfl⟩
  rw [parsePolicy, Json.hasMember, ok_bind, Json.subscript, Json.member,
    Json.members]
  rcases Json.findMember entries "POLICY" with _ | policy <;> rfl

/-- `parse_policy` reads the members of an object; a string is stored, and
other values are skipped. -/
theorem completes_parsePolicy_iff
    {self : ChannelConfig} {doc : Json} (isObject : doc.isObject) :
    Completes (self.parsePolicy doc) ↔
      PoliciesTyped (doc.membersOf "POLICY") := by
  rw [parsePolicy_of_isObject isObject, Json.membersOf]
  rcases found : doc.member "POLICY" with _ | policy
  · simp [PoliciesTyped]
  · cases policy with
    | string value =>
        have stored : Completes (getString doc "POLICY" "all" false) := by
          refine completes_getText_iff.mpr ⟨isObject, ?_⟩
          intro other isMember
          rw [found] at isMember
          cases isMember
          rfl
        simp only [Json.isString, if_true, completes_bind_pure_iff]
        simp [stored, Json.members, PoliciesTyped]
    | object policies =>
        simp only [Json.isString, Json.isObject, if_true, Bool.false_eq_true,
          if_false, foldlM_addPolicy, completes_bind_pure_iff,
          completes_mapM_iff, completes_readPolicy_iff]
        rfl
    | _ =>
        simp [Json.isString, Json.isObject, Json.members, PoliciesTyped]

theorem raises_parsePolicy (self : ChannelConfig) (doc : Json) :
    Raises (fun raised => raised.isAssertion) (self.parsePolicy doc) := by
  cases doc with
  | object entries =>
      rw [parsePolicy_of_isObject rfl]
      split
      · next policy _ =>
          split
          · exact raises_bind (raises_getText _ _ _) fun _ => raises_pure _
          · split
            · rw [foldlM_addPolicy]
              exact raises_bind
                (raises_mapM fun entry _ => raises_readPolicy policy entry)
                fun _ => raises_pure _
            · exact raises_pure _
      · exact raises_pure _
  | _ =>
      intro raised failed
      cases failed
      rfl

end Policy

section Load

/-- Every value that the parser reads has the type of its accessor. -/
structure WellTyped (doc : Json) : Prop where
  settings : SettingsTyped doc
  nodeInfo :
    ∀ nodes, doc.member "NODE_INFO" = some nodes → nodes.isArray →
      NodeInfoTyped doc nodes
  data : ∀ entry ∈ doc.elementsOf "DATA_NODES", entry.isString
  compute : Json.TextMembers (doc.membersOf "COMPUTATION_NODES")
  result : ∀ entry ∈ doc.elementsOf "RESULT_NODES", entry.isString
  policy : PoliciesTyped (doc.membersOf "POLICY")

/-- Every value that the parser reads before it throws has the type of its
accessor. -/
structure Readable (doc : Json) : Prop where
  settings : SettingsTyped doc
  nodeInfo :
    ∀ nodes, doc.member "NODE_INFO" = some nodes → nodes.isArray →
      NodeInfoTyped doc nodes
  data :
    TextsUntilUnknown (fun nodeId => nodeId ∈ describedIds doc)
      (doc.elementsOf "DATA_NODES")
  compute :
    (∀ nodeId ∈ dataIds doc, nodeId ∈ describedIds doc) →
      Json.TextMembers (doc.membersOf "COMPUTATION_NODES")
  result :
    (∀ nodeId ∈ dataIds doc ++ computeIds doc, nodeId ∈ describedIds doc) →
      TextsUntilUnknown (fun nodeId => nodeId ∈ describedIds doc)
        (doc.elementsOf "RESULT_NODES")
  policy :
    (∀ nodeId ∈ dataIds doc ++ computeIds doc ++ resultIds doc,
      nodeId ∈ describedIds doc) →
      PoliciesTyped (doc.membersOf "POLICY")

variable {config : ChannelConfig} {doc : Json}

/-- The table has the ids that the document describes. -/
def TableOf (doc : Json) (config : ChannelConfig) : Prop :=
  ∀ nodeId, nodeId ∈ config.nodeInfoConfig ↔ nodeId ∈ describedIds doc

theorem tableOf_of_parseData
    {result : ChannelConfig} (table : TableOf doc config)
    (parsed : config.parseData doc = .ok result) :
    TableOf doc result ∧ result.computeNodes = config.computeNodes := by
  rw [parseData_eq] at parsed
  rcases readTaskNodes_eq_ok parsed with rfl | ⟨listed, rfl, -⟩
  · exact ⟨table, rfl⟩
  · exact ⟨table, rfl⟩

theorem tableOf_of_parseCompute
    {result : ChannelConfig} (table : TableOf doc config)
    (parsed : config.parseCompute doc = .ok result) : TableOf doc result := by
  rw [parseCompute_eq] at parsed
  rcases Json.readIf_eq_ok parsed with rfl | ⟨nodes, parsed⟩
  · exact table
  · rcases bind_eq_ok parsed with ⟨_, -, parsed⟩
    rcases bind_eq_ok parsed with ⟨_, -, parsed⟩
    cases parsed
    exact table

theorem forall_mem_table_iff
    (table : TableOf doc config) (nodeIds : List String) :
    (∀ nodeId ∈ nodeIds, nodeId ∈ config.nodeInfoConfig) ↔
      ∀ nodeId ∈ nodeIds, nodeId ∈ describedIds doc :=
  forall₂_congr fun nodeId _ => table nodeId

theorem known_eq (table : TableOf doc config) :
    (fun nodeId => nodeId ∈ config.nodeInfoConfig) =
      fun nodeId => nodeId ∈ describedIds doc := by
  funext nodeId
  exact propext (table nodeId)

theorem completes_parseData_iff
    (isObject : doc.isObject) (table : TableOf doc config) :
    Completes (config.parseData doc) ↔
      (∀ entry ∈ doc.elementsOf "DATA_NODES", entry.isString) ∧
        ∀ nodeId ∈ dataIds doc, nodeId ∈ describedIds doc := by
  rw [parseData_eq, completes_readTaskNodes_iff isObject,
    forall_mem_table_iff table]
  rfl

theorem completes_parseResult_iff
    (isObject : doc.isObject) (table : TableOf doc config) :
    Completes (config.parseResult doc) ↔
      (∀ entry ∈ doc.elementsOf "RESULT_NODES", entry.isString) ∧
        ∀ nodeId ∈ resultIds doc, nodeId ∈ describedIds doc := by
  rw [parseResult_eq, completes_readTaskNodes_iff isObject,
    forall_mem_table_iff table]
  rfl

/-- What the stages after `parse_node_info` need to complete. -/
theorem completes_taskStages_iff
    (isObject : doc.isObject) (table : TableOf doc config)
    (fresh : config.computeNodes = ∅) :
    Completes (do
      let withData ← config.parseData doc
      let withCompute ← withData.parseCompute doc
      let withResult ← withCompute.parseResult doc
      withResult.parsePolicy doc) ↔
    ((∀ entry ∈ doc.elementsOf "DATA_NODES", entry.isString) ∧
        ∀ nodeId ∈ dataIds doc, nodeId ∈ describedIds doc) ∧
      (Json.TextMembers (doc.membersOf "COMPUTATION_NODES") ∧
        ∀ nodeId ∈ computeIds doc, nodeId ∈ describedIds doc) ∧
      ((∀ entry ∈ doc.elementsOf "RESULT_NODES", entry.isString) ∧
        ∀ nodeId ∈ resultIds doc, nodeId ∈ describedIds doc) ∧
      PoliciesTyped (doc.membersOf "POLICY") := by
  rw [← completes_parseData_iff isObject table]
  apply completes_bind_of_forall
  intro withData dataParsed
  rcases tableOf_of_parseData table dataParsed with
    ⟨dataTable, sameCompute⟩
  rw [← forall_mem_table_iff dataTable,
    ← completes_parseCompute_iff isObject (sameCompute.trans fresh)]
  apply completes_bind_of_forall
  intro withCompute computeParsed
  have computeTable := tableOf_of_parseCompute dataTable computeParsed
  rw [← completes_parseResult_iff isObject computeTable]
  apply completes_bind_of_forall
  intro withResult resultParsed
  exact completes_parsePolicy_iff isObject

/-- What the stages after `parse_node_info` need to end cleanly. -/
theorem endsCleanly_taskStages_iff
    (isObject : doc.isObject) (table : TableOf doc config)
    (fresh : config.computeNodes = ∅) :
    EndsCleanly (do
      let withData ← config.parseData doc
      let withCompute ← withData.parseCompute doc
      let withResult ← withCompute.parseResult doc
      withResult.parsePolicy doc) ↔
    TextsUntilUnknown (fun nodeId => nodeId ∈ describedIds doc)
        (doc.elementsOf "DATA_NODES") ∧
      ((∀ nodeId ∈ dataIds doc, nodeId ∈ describedIds doc) →
        Json.TextMembers (doc.membersOf "COMPUTATION_NODES") ∧
          ((∀ nodeId ∈ computeIds doc, nodeId ∈ describedIds doc) →
            TextsUntilUnknown (fun nodeId => nodeId ∈ describedIds doc)
                (doc.elementsOf "RESULT_NODES") ∧
              ((∀ nodeId ∈ resultIds doc, nodeId ∈ describedIds doc) →
                PoliciesTyped (doc.membersOf "POLICY")))) := by
  refine raises_bind_of_conditions ?_ ?_ ?_
  · rw [← known_eq table, parseData_eq]
    exact endsCleanly_readTaskNodes_iff isObject
  · intro texts
    rw [completes_parseData_iff isObject table]
    exact and_iff_right_of_imp fun known =>
      isString_of_textsUntilUnknown texts known
  intro withData dataParsed
  rcases tableOf_of_parseData table dataParsed with
    ⟨dataTable, sameCompute⟩
  refine raises_bind_of_conditions (endsCleanly_parseCompute_iff isObject)
    ?_ ?_
  · intro texts
    rw [completes_parseCompute_iff isObject (sameCompute.trans fresh),
      forall_mem_table_iff dataTable]
    exact and_iff_right texts
  intro withCompute computeParsed
  have computeTable := tableOf_of_parseCompute dataTable computeParsed
  refine raises_bind_of_conditions ?_ ?_ ?_
  · rw [← known_eq computeTable, parseResult_eq]
    exact endsCleanly_readTaskNodes_iff isObject
  · intro texts
    rw [completes_parseResult_iff isObject computeTable]
    exact and_iff_right_of_imp fun known =>
      isString_of_textsUntilUnknown texts known
  intro withResult _
  exact (endsCleanly_iff_completes (raises_parsePolicy withResult doc)).trans
    (completes_parsePolicy_iff isObject)

/-- The configuration that the stages after `parse_node_info` start from. -/
theorem tableOf_of_parseNodeInfo
    {withSettings withNodeInfo : ChannelConfig} (isObject : doc.isObject)
    (settings : parseSettings {} doc = .ok withSettings)
    (nodeInfo : withSettings.parseNodeInfo doc = .ok withNodeInfo) :
    TableOf doc withNodeInfo ∧ withNodeInfo.computeNodes = ∅ := by
  rcases parseSettings_eq_ok settings with
    ⟨_, _, _, _, _, _, _, _, rfl, -⟩
  constructor
  · exact mem_nodeInfoConfig_iff isObject rfl nodeInfo
  · rcases parseNodeInfo_eq_ok nodeInfo with ⟨_, _, _, _, rfl, -⟩
    rfl

/-- A load completes exactly on a well-typed document that describes all its
task nodes. -/
theorem completes_create_iff {process : String} :
    Completes (create process doc) ↔
      WellTyped doc ∧
        ∀ nodeId ∈ dataIds doc ++ computeIds doc ++ resultIds doc,
          nodeId ∈ describedIds doc := by
  have stages :
      Completes (parse {} doc) ↔
        SettingsTyped doc ∧
          (∀ nodes, doc.member "NODE_INFO" = some nodes → nodes.isArray →
            NodeInfoTyped doc nodes) ∧
          ((∀ entry ∈ doc.elementsOf "DATA_NODES", entry.isString) ∧
            ∀ nodeId ∈ dataIds doc, nodeId ∈ describedIds doc) ∧
          (Json.TextMembers (doc.membersOf "COMPUTATION_NODES") ∧
            ∀ nodeId ∈ computeIds doc, nodeId ∈ describedIds doc) ∧
          ((∀ entry ∈ doc.elementsOf "RESULT_NODES", entry.isString) ∧
            ∀ nodeId ∈ resultIds doc, nodeId ∈ describedIds doc) ∧
          PoliciesTyped (doc.membersOf "POLICY") := by
    rw [← completes_parseSettings_iff]
    apply completes_bind_of_forall
    intro withSettings settings
    have typed := completes_parseSettings_iff.mp ⟨withSettings, settings⟩
    rw [← completes_parseNodeInfo_iff typed]
    apply completes_bind_of_forall
    intro withNodeInfo nodeInfo
    rcases tableOf_of_parseNodeInfo typed.isObject settings nodeInfo with
      ⟨table, fresh⟩
    exact completes_taskStages_iff typed.isObject table fresh
  rw [create, completes_bind_pure_iff, stages, List.forall_mem_append,
    List.forall_mem_append]
  constructor
  · intro completes
    rcases completes with
      ⟨settings, nodeInfo, data, compute, result, policy⟩
    exact ⟨⟨settings, nodeInfo, data.1, compute.1, result.1, policy⟩,
      ⟨data.2, compute.2⟩, result.2⟩
  · intro completes
    rcases completes with ⟨typed, known⟩
    exact ⟨typed.settings, typed.nodeInfo, ⟨typed.data, known.1.1⟩,
      ⟨typed.compute, known.1.2⟩, ⟨typed.result, known.2⟩, typed.policy⟩

/-- A load completes or throws exactly when every value that it reads before
it throws has the type of its accessor. -/
theorem load_ends_cleanly_iff (process : String) (doc : Json) :
    EndsCleanly (create process doc) ↔ Readable doc := by
  have stages :
      EndsCleanly (parse {} doc) ↔
        SettingsTyped doc ∧
          (∀ nodes, doc.member "NODE_INFO" = some nodes → nodes.isArray →
            NodeInfoTyped doc nodes) ∧
          TextsUntilUnknown (fun nodeId => nodeId ∈ describedIds doc)
              (doc.elementsOf "DATA_NODES") ∧
            ((∀ nodeId ∈ dataIds doc, nodeId ∈ describedIds doc) →
              Json.TextMembers (doc.membersOf "COMPUTATION_NODES") ∧
                ((∀ nodeId ∈ computeIds doc, nodeId ∈ describedIds doc) →
                  TextsUntilUnknown (fun nodeId => nodeId ∈ describedIds doc)
                      (doc.elementsOf "RESULT_NODES") ∧
                    ((∀ nodeId ∈ resultIds doc,
                        nodeId ∈ describedIds doc) →
                      PoliciesTyped (doc.membersOf "POLICY")))) := by
    rw [← completes_parseSettings_iff]
    apply endsCleanly_bind_iff (raises_parseSettings _ _)
    intro withSettings settings
    have typed := completes_parseSettings_iff.mp ⟨withSettings, settings⟩
    rw [← completes_parseNodeInfo_iff typed]
    apply endsCleanly_bind_iff (raises_parseNodeInfo _ _)
    intro withNodeInfo nodeInfo
    rcases tableOf_of_parseNodeInfo typed.isObject settings nodeInfo with
      ⟨table, fresh⟩
    exact endsCleanly_taskStages_iff typed.isObject table fresh
  have stored :
      EndsCleanly (create process doc) ↔ EndsCleanly (parse {} doc) := by
    rw [create, EndsCleanly, raises_bind_iff, EndsCleanly]
    simp
  rw [stored, stages]
  constructor
  · intro conditions
    rcases conditions with ⟨settings, nodeInfo, data, later⟩
    refine ⟨settings, nodeInfo, data, fun known => (later known).1, ?_, ?_⟩
    · intro known
      rw [List.forall_mem_append] at known
      exact ((later known.1).2 known.2).1
    · intro known
      rw [List.forall_mem_append, List.forall_mem_append] at known
      exact ((later known.1.1).2 known.1.2).2 known.2
  · intro readable
    refine ⟨readable.settings, readable.nodeInfo, readable.data, ?_⟩
    intro dataKnown
    refine ⟨readable.compute dataKnown, ?_⟩
    intro computeKnown
    have known :=
      List.forall_mem_append.mpr ⟨dataKnown, computeKnown⟩
    refine ⟨readable.result known, ?_⟩
    intro resultKnown
    exact readable.policy (List.forall_mem_append.mpr ⟨known, resultKnown⟩)

/-- On a well-typed document every failure of the parser is thrown. -/
theorem endsCleanly_parse
    {doc : Json} (typed : WellTyped doc) (self : ChannelConfig) :
    EndsCleanly (self.parse doc) := by
  have isObject := typed.settings.isObject
  have completed :
      ∀ {computation : Except LoadError ChannelConfig},
        Completes computation → EndsCleanly computation := by
    intro computation completes
    rcases completes with ⟨config, rfl⟩
    exact raises_ok config
  apply raises_bind
    (completed (completes_parseSettings_iff.mpr typed.settings))
  intro withSettings
  apply raises_bind
    (completed
      ((completes_parseNodeInfo_iff typed.settings).mpr typed.nodeInfo))
  intro withNodeInfo
  rw [parseData_eq]
  apply raises_bind ((endsCleanly_readTaskNodes_iff isObject).mpr
    (textsUntilUnknown_of_isString typed.data))
  intro withData
  apply raises_bind
    ((endsCleanly_parseCompute_iff isObject).mpr typed.compute)
  intro withCompute
  rw [parseResult_eq]
  apply raises_bind ((endsCleanly_readTaskNodes_iff isObject).mpr
    (textsUntilUnknown_of_isString typed.result))
  intro withResult
  exact completed ((completes_parsePolicy_iff isObject).mpr typed.policy)

/-- The shipped sample `config/one_to_one.json`. -/
def oneToOneDocument : Json :=
  .object
    [("TASK_ID", .string "task-1"), ("LOG_LEVEL", .integer 0),
    ("PING_TIME", .string "1.0"),
    ("NODE_INFO", .array
      [.object
        [("NODE_ID", .string "p0"), ("ADDRESS", .string "127.0.0.1:10001"),
          ("VIA", .string "VIA1")],
      .object
        [("NODE_ID", .string "p1"), ("ADDRESS", .string "127.0.0.1:20001"),
          ("VIA", .string "VIA2")]]),
    ("VIA_INFO", .object
      [("VIA1", .string "127.0.0.1:10001"),
        ("VIA2", .string "127.0.0.1:20001")]),
    ("DATA_NODES", .array [.string "p0"]),
    ("COMPUTATION_NODES", .object
      [("p0", .string "P0"), ("p1", .string "P1")]),
    ("RESULT_NODES", .array [])]

/-- The sample gives a time as a string, on which `GetFloat` asserts. -/
theorem shipped_sample_fails_assertion :
    create "p0" oneToOneDocument = .error (.wrongType .getFloat) ∧
      ¬ EndsCleanly (create "p0" oneToOneDocument) := by
  have failed :
      create "p0" oneToOneDocument = .error (.wrongType .getFloat) := rfl
  refine ⟨failed, ?_⟩
  rw [failed, EndsCleanly, raises_error_iff]
  decide

end Load

end ChannelSdk.ChannelConfig
