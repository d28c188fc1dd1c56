import ChannelSdk.ParserLoops
import ChannelSdk.Lib.CheckedOutcome

/-!
# The types that the parser expects

The accessors of RapidJSON assert the type of their value and do not report a
mismatch.  This module says, for every value that the parser reads, which type
it must have, as a condition on the document alone, and which node ids the
document names.  A load completes exactly on the documents that have these
types and describe every node of their task.
-/

namespace ChannelSdk

open CheckedMemory CheckedFold CheckedOutcome FirstEntries
open Std (ExtTreeMap ExtTreeSet)

/-- The errors that stand for a failed assertion of RapidJSON.  The others
are thrown. -/
def LoadError.isAssertion : LoadError → Bool
  | .wrongType _ | .noMember _ => true
  | .keyNotExist _ | .event _ => false

/-- The computation completes or throws: no assertion fails. -/
def EndsCleanly {Value : Type} (computation : Except LoadError Value) : Prop :=
  Raises (fun raised => raised.isAssertion = false) computation

/-- A computation that throws nothing ends cleanly by completing. -/
theorem endsCleanly_iff_completes
    {Value : Type} {computation : Except LoadError Value}
    (asserts : Raises (fun raised => raised.isAssertion) computation) :
    EndsCleanly computation ↔ Completes computation := by
  refine raises_iff_completes (asserts.mono ?_)
  intro raised isAssertion
  simp [isAssertion]

/-- A sequence whose first part throws nothing. -/
theorem endsCleanly_bind_iff
    {Value Result : Type} {computation : Except LoadError Value}
    {next : Value → Except LoadError Result} {condition : Prop}
    (asserts : Raises (fun raised => raised.isAssertion) computation)
    (later :
      ∀ returned, computation = .ok returned →
        (EndsCleanly (next returned) ↔ condition)) :
    EndsCleanly (computation >>= next) ↔
      Completes computation ∧ condition := by
  have returns :
      Completes computation → (Completes computation ↔ True) :=
    fun completes => iff_of_true completes trivial
  have sequence :=
    raises_bind_of_conditions (endsCleanly_iff_completes asserts) returns
      later
  rw [EndsCleanly, sequence, true_imp_iff]

namespace Json

/-- The value of a member, if the value is an object that has it. -/
def member (doc : Json) (key : String) : Option Json :=
  findMember doc.members key

/-- The elements of a member that is an array. -/
def elementsOf (doc : Json) (key : String) : List Json :=
  ((doc.member key).map Json.elements).getD []

/-- The members of a member that is an object. -/
def membersOf (doc : Json) (key : String) : List (String × Json) :=
  ((doc.member key).map Json.members).getD []

/-- The text of a string, as the parser sees it. -/
def text : Json → String
  | .string value => cString value
  | _ => ""

/-- The text of a member, with the default of an absent one. -/
def textOf (doc : Json) (key defaultValue : String) : String :=
  ((doc.member key).map Json.text).getD defaultValue

/-- An integer that `GetInt` accepts. -/
def isInt : Json → Bool
  | .integer value => FitsInt32 value
  | _ => false

def isNumber : Json → Bool
  | .integer _ | .decimal _ => true
  | _ => false

def isBool : Json → Bool
  | .bool _ => true
  | _ => false

/-- A member is absent or has the type. -/
def MemberHas (doc : Json) (key : String) (hasType : Json → Bool) : Prop :=
  ∀ value, doc.member key = some value → hasType value

/-- The members of an object have string values. -/
def TextMembers (members : List (String × Json)) : Prop :=
  ∀ entry ∈ members, entry.2.isString

theorem isObject_iff {doc : Json} :
    doc.isObject ↔ ∃ entries, doc = .object entries := by
  cases doc <;> simp [isObject]

theorem completes_getString_iff {value : Json} :
    Completes value.getString ↔ value.isString := by
  cases value <;> simp [Json.getString, isString]

theorem getString_of_isString {value : Json} (typed : value.isString) :
    value.getString = .ok value.text := by
  cases value <;> simp_all [Json.getString, isString, text]

theorem completes_getInt_iff {value : Json} :
    Completes value.getInt ↔ value.isInt := by
  cases value with
  | integer number =>
      by_cases fits : FitsInt32 number <;> simp [Json.getInt, isInt, fits]
  | _ => simp [Json.getInt, isInt]

theorem completes_getFloat_iff {value : Json} :
    Completes value.getFloat ↔ value.isNumber := by
  cases value <;> simp [Json.getFloat, isNumber]

theorem completes_getBool_iff {value : Json} :
    Completes value.getBool ↔ value.isBool := by
  cases value <;> simp [Json.getBool, isBool]

theorem raises_getString (value : Json) :
    Raises (fun raised => raised.isAssertion) value.getString := by
  cases value <;> simp [Json.getString, LoadError.isAssertion]

theorem raises_getInt (value : Json) :
    Raises (fun raised => raised.isAssertion) value.getInt := by
  cases value with
  | integer number =>
      by_cases fits : FitsInt32 number <;>
        simp [Json.getInt, fits, LoadError.isAssertion]
  | _ => simp [Json.getInt, LoadError.isAssertion]

theorem raises_getFloat (value : Json) :
    Raises (fun raised => raised.isAssertion) value.getFloat := by
  cases value <;> simp [Json.getFloat, LoadError.isAssertion]

theorem raises_getBool (value : Json) :
    Raises (fun raised => raised.isAssertion) value.getBool := by
  cases value <;> simp [Json.getBool, LoadError.isAssertion]

theorem raises_subscript (doc : Json) (key : String) :
    Raises (fun raised => raised.isAssertion) (doc.subscript key) := by
  cases doc with
  | object entries =>
      rw [subscript]
      cases findMember entries key <;> simp [LoadError.isAssertion]
  | _ => simp [subscript, LoadError.isAssertion]

section Members

variable {Value : Type} {accepts : Json → Bool} {doc : Json} {key : String}
variable {unchanged : Value} {read : Json → Except LoadError Value}
variable {allowed : LoadError → Prop}

/-- Reading a member of an object that is skipped unless it has the type. -/
theorem readIf_of_isObject (isObject : doc.isObject) :
    readIf accepts doc key unchanged read =
      match doc.member key with
      | some value => if accepts value then read value else pure unchanged
      | none => pure unchanged := by
  rcases isObject_iff.mp isObject with ⟨entries, rfl⟩
  rw [readIf, hasMember, ok_bind, subscript, member, Json.members]
  rcases findMember entries key with _ | value <;> rfl

theorem completes_readIf_iff (isObject : doc.isObject) :
    Completes (readIf accepts doc key unchanged read) ↔
      ∀ value, doc.member key = some value → accepts value →
        Completes (read value) := by
  rw [readIf_of_isObject isObject]
  rcases doc.member key with _ | value
  · simp
  · by_cases accepted : accepts value <;> simp [accepted]

theorem raises_readIf_iff (isObject : doc.isObject) :
    Raises allowed (readIf accepts doc key unchanged read) ↔
      ∀ value, doc.member key = some value → accepts value →
        Raises allowed (read value) := by
  rw [readIf_of_isObject isObject]
  rcases doc.member key with _ | value
  · simp
  · by_cases accepted : accepts value <;> simp [accepted]

theorem raises_readIf
    (asserted : ∀ raised : LoadError, raised.isAssertion → allowed raised)
    (each : ∀ value, Raises allowed (read value)) :
    Raises allowed (readIf accepts doc key unchanged read) := by
  cases doc with
  | object entries =>
      exact (raises_readIf_iff rfl).mpr fun value _ _ => each value
  | _ =>
      intro raised failed
      cases failed
      exact asserted _ rfl

/-- A loop over the members of a member that is skipped unless it is an
object. -/
theorem completes_readIf_isObject_iff
    {holds : List (String × Json) → Prop} (isObject : doc.isObject)
    (empty : holds [])
    (each : ∀ value, Completes (read value) ↔ holds value.members) :
    Completes (readIf Json.isObject doc key unchanged read) ↔
      holds (doc.membersOf key) := by
  rw [completes_readIf_iff isObject, membersOf]
  rcases doc.member key with _ | value
  · simp [empty]
  · cases value with
    | object entries => simp [each, Json.isObject]
    | _ => simp [Json.isObject, Json.members, empty]

theorem raises_readIf_isObject_iff
    {holds : List (String × Json) → Prop} (isObject : doc.isObject)
    (empty : holds [])
    (each : ∀ value, Raises allowed (read value) ↔ holds value.members) :
    Raises allowed (readIf Json.isObject doc key unchanged read) ↔
      holds (doc.membersOf key) := by
  rw [raises_readIf_iff isObject, membersOf]
  rcases doc.member key with _ | value
  · simp [empty]
  · cases value with
    | object entries => simp [each, Json.isObject]
    | _ => simp [Json.isObject, Json.members, empty]

end Members

end Json

section ScalarMembers

variable {Value : Type} {read : Json → Except LoadError Value} {doc : Json}
variable {key : String} {defaultValue : Value}

theorem getMember_of_isObject (isObject : doc.isObject) :
    getMember read doc key defaultValue false =
      match doc.member key with
      | some value => read value
      | none => .ok defaultValue := by
  rcases Json.isObject_iff.mp isObject with ⟨entries, rfl⟩
  rw [getMember, Json.hasMember, ok_bind, Json.subscript, Json.member,
    Json.members]
  rcases Json.findMember entries key with _ | value <;> rfl

theorem completes_getMember_iff
    {hasType : Json → Bool}
    (typed : ∀ value, Completes (read value) ↔ hasType value) :
    Completes (getMember read doc key defaultValue false) ↔
      doc.isObject ∧ doc.MemberHas key hasType := by
  by_cases isObject : doc.isObject
  · rw [getMember_of_isObject isObject, Json.MemberHas]
    rcases doc.member key with _ | value
    · simp [isObject]
    · simp [isObject, typed]
  · have failed :
        getMember read doc key defaultValue false =
          .error (.wrongType .hasMember) := by
      cases doc with
      | object entries => exact absurd rfl isObject
      | _ => rfl
    simp [failed, isObject]

theorem raises_getMember
    (asserts :
      ∀ value, Raises (fun raised => raised.isAssertion) (read value)) :
    Raises (fun raised => raised.isAssertion)
      (getMember read doc key defaultValue false) := by
  cases doc with
  | object entries =>
      rw [getMember_of_isObject rfl]
      cases (Json.object entries).member key with
      | none => exact raises_ok defaultValue
      | some value => exact asserts value
  | _ =>
      intro raised failed
      cases failed
      rfl

end ScalarMembers

theorem completes_getText_iff {doc : Json} {key defaultValue : String} :
    Completes (getString doc key defaultValue false) ↔
      doc.isObject ∧ doc.MemberHas key Json.isString :=
  completes_getMember_iff fun _ => Json.completes_getString_iff

theorem raises_getText (doc : Json) (key defaultValue : String) :
    Raises (fun raised => raised.isAssertion)
      (getString doc key defaultValue false) :=
  raises_getMember Json.raises_getString

/-- What is read is the text of the member. -/
theorem getText_eq_ok
    {doc : Json} {key defaultValue value : String}
    (read : getString doc key defaultValue false = .ok value) :
    value = doc.textOf key defaultValue := by
  rcases completes_getText_iff.mp ⟨value, read⟩ with ⟨isObject, typed⟩
  rw [getString, getMember_of_isObject isObject] at read
  rw [Json.textOf]
  rcases found : doc.member key with _ | stored
  · rw [found] at read
    cases read
    rfl
  · rw [found] at read
    have text := Json.getString_of_isString (typed stored found)
    have same := text.symm.trans read
    cases same
    rfl

namespace ChannelConfig

section Settings

/-- The scalar settings have their types. -/
structure SettingsTyped (doc : Json) : Prop where
  isObject : doc.isObject
  taskId : doc.MemberHas "TASK_ID" Json.isString
  rootCert : doc.MemberHas "ROOT_CERT" Json.isString
  logLevel : doc.MemberHas "LOG_LEVEL" Json.isInt
  bufferSize : doc.MemberHas "BUFFER_SIZE" Json.isInt
  pingTime : doc.MemberHas "PING_TIME" Json.isNumber
  sendTimeout : doc.MemberHas "SEND_TIMEOUT" Json.isNumber
  connTimeout : doc.MemberHas "CONNECT_TIMEOUT" Json.isNumber
  connSync : doc.MemberHas "CONNECT_SYNC" Json.isBool

theorem completes_getNumber_iff
    {doc : Json} {key : String} {defaultValue : Rat} :
    Completes (getFloat doc key defaultValue false) ↔
      doc.isObject ∧ doc.MemberHas key Json.isNumber :=
  completes_getMember_iff fun _ => Json.completes_getFloat_iff

theorem completes_getInteger_iff
    {doc : Json} {key : String} {defaultValue : Int} :
    Completes (getInt doc key defaultValue false) ↔
      doc.isObject ∧ doc.MemberHas key Json.isInt :=
  completes_getMember_iff fun _ => Json.completes_getInt_iff

theorem completes_getTruth_iff
    {doc : Json} {key : String} {defaultValue : Bool} :
    Completes (getBool doc key defaultValue false) ↔
      doc.isObject ∧ doc.MemberHas key Json.isBool :=
  completes_getMember_iff fun _ => Json.completes_getBool_iff

theorem completes_parseSettings_iff
    {self : ChannelConfig} {doc : Json} :
    Completes (self.parseSettings doc) ↔ SettingsTyped doc := by
  constructor
  · intro completes
    rcases completes with ⟨result, parsed⟩
    rcases bind_eq_ok parsed with ⟨_, taskId, parsed⟩
    rcases bind_eq_ok parsed with ⟨_, rootCert, parsed⟩
    rcases bind_eq_ok parsed with ⟨_, logLevel, parsed⟩
    rcases bind_eq_ok parsed with ⟨_, bufferSize, parsed⟩
    rcases bind_eq_ok parsed with ⟨_, pingTime, parsed⟩
    rcases bind_eq_ok parsed with ⟨_, sendTimeout, parsed⟩
    rcases bind_eq_ok parsed with ⟨_, connTimeout, parsed⟩
    rcases bind_eq_ok parsed with ⟨_, connSync, parsed⟩
    exact ⟨(completes_getText_iff.mp ⟨_, taskId⟩).1,
      (completes_getText_iff.mp ⟨_, taskId⟩).2,
      (completes_getText_iff.mp ⟨_, rootCert⟩).2,
      (completes_getInteger_iff.mp ⟨_, logLevel⟩).2,
      (completes_getInteger_iff.mp ⟨_, bufferSize⟩).2,
      (completes_getNumber_iff.mp ⟨_, pingTime⟩).2,
      (completes_getNumber_iff.mp ⟨_, sendTimeout⟩).2,
      (completes_getNumber_iff.mp ⟨_, connTimeout⟩).2,
      (completes_getTruth_iff.mp ⟨_, connSync⟩).2⟩
  · intro typed
    have isObject := typed.isObject
    refine completes_bind
      (completes_getText_iff.mpr ⟨isObject, typed.taskId⟩) fun _ => ?_
    refine completes_bind
      (completes_getText_iff.mpr ⟨isObject, typed.rootCert⟩) fun _ => ?_
    refine completes_bind
      (completes_getInteger_iff.mpr ⟨isObject, typed.logLevel⟩) fun _ => ?_
    refine completes_bind
      (completes_getInteger_iff.mpr ⟨isObject, typed.bufferSize⟩) fun _ => ?_
    refine completes_bind
      (completes_getNumber_iff.mpr ⟨isObject, typed.pingTime⟩) fun _ => ?_
    refine completes_bind
      (completes_getNumber_iff.mpr ⟨isObject, typed.sendTimeout⟩) fun _ => ?_
    refine completes_bind
      (completes_getNumber_iff.mpr ⟨isObject, typed.connTimeout⟩) fun _ => ?_
    refine completes_bind
      (completes_getTruth_iff.mpr ⟨isObject, typed.connSync⟩) fun _ => ?_
    exact completes_pure _

theorem raises_parseSettings (self : ChannelConfig) (doc : Json) :
    Raises (fun raised => raised.isAssertion) (self.parseSettings doc) := by
  refine raises_bind (raises_getText _ _ _) fun _ => ?_
  refine raises_bind (raises_getText _ _ _) fun _ => ?_
  refine raises_bind (raises_getMember Json.raises_getInt) fun _ => ?_
  refine raises_bind (raises_getMember Json.raises_getInt) fun _ => ?_
  refine raises_bind (raises_getMember Json.raises_getFloat) fun _ => ?_
  refine raises_bind (raises_getMember Json.raises_getFloat) fun _ => ?_
  refine raises_bind (raises_getMember Json.raises_getFloat) fun _ => ?_
  refine raises_bind (raises_getMember Json.raises_getBool) fun _ => ?_
  exact raises_pure _

end Settings

section NodeInfo

/-- The members of an entry of `NODE_INFO` that the parser reads. -/
def nodeKeys : List String :=
  ["NODE_ID", "ADDRESS", "PUBLIC_IP", "VIA", "GRICER2", "ICEGRID", "CERT_DIR",
    "SERVER_KEY", "SERVER_CERT", "CLIENT_KEY", "CLIENT_CERT", "PASSWORD"]

/-- An entry of `NODE_INFO` is an object with texts. -/
structure NodeTyped (entry : Json) : Prop where
  isObject : entry.isObject
  texts : ∀ key ∈ nodeKeys, entry.MemberHas key Json.isString

/-- Every member of a plug-in list is found under its name, with texts if it
is an object. -/
def PluginsTyped (entries : List (String × Json)) : Prop :=
  ∀ entry ∈ entries, ∃ info,
    Json.findMember entries (cString entry.1) = some info ∧
      Json.TextMembers info.members

/-- What `parse_node_info` reads has its types. -/
structure NodeInfoTyped (doc nodes : Json) : Prop where
  nodes : ∀ entry ∈ nodes.elements, NodeTyped entry
  vias : Json.TextMembers (doc.membersOf "VIA_INFO")
  glacier2s : PluginsTyped (doc.membersOf "GRICER2_INFO")
  icegrids : PluginsTyped (doc.membersOf "ICE_GRID_INFO")

theorem completes_readNode_iff {entry : Json} {caCert : String} :
    Completes (readNode entry caCert) ↔ NodeTyped entry := by
  constructor
  · intro completes
    rcases completes with ⟨node, read⟩
    rcases bind_eq_ok read with ⟨_, nodeId, read⟩
    rcases bind_eq_ok read with ⟨_, address, read⟩
    rcases bind_eq_ok read with ⟨_, publicIp, read⟩
    rcases bind_eq_ok read with ⟨_, via, read⟩
    rcases bind_eq_ok read with ⟨_, gricer2, read⟩
    rcases bind_eq_ok read with ⟨_, icegrid, read⟩
    rcases bind_eq_ok read with ⟨_, certDir, read⟩
    rcases bind_eq_ok read with ⟨_, serverKey, read⟩
    rcases bind_eq_ok read with ⟨_, serverCert, read⟩
    rcases bind_eq_ok read with ⟨_, clientKey, read⟩
    rcases bind_eq_ok read with ⟨_, clientCert, read⟩
    rcases bind_eq_ok read with ⟨_, password, read⟩
    refine ⟨(completes_getText_iff.mp ⟨_, nodeId⟩).1, ?_⟩
    simp only [nodeKeys, List.forall_mem_cons]
    exact ⟨(completes_getText_iff.mp ⟨_, nodeId⟩).2,
      (completes_getText_iff.mp ⟨_, address⟩).2,
      (completes_getText_iff.mp ⟨_, publicIp⟩).2,
      (completes_getText_iff.mp ⟨_, via⟩).2,
      (completes_getText_iff.mp ⟨_, gricer2⟩).2,
      (completes_getText_iff.mp ⟨_, icegrid⟩).2,
      (completes_getText_iff.mp ⟨_, certDir⟩).2,
      (completes_getText_iff.mp ⟨_, serverKey⟩).2,
      (completes_getText_iff.mp ⟨_, serverCert⟩).2,
      (completes_getText_iff.mp ⟨_, clientKey⟩).2,
      (completes_getText_iff.mp ⟨_, clientCert⟩).2,
      (completes_getText_iff.mp ⟨_, password⟩).2, by simp⟩
  · intro typed
    have reads :
        ∀ key ∈ nodeKeys, ∀ defaultValue,
          Completes (getString entry key defaultValue false) := by
      intro key member defaultValue
      exact completes_getText_iff.mpr
        ⟨typed.isObject, typed.texts key member⟩
    iterate 12
      refine completes_bind (reads _ (by simp [nodeKeys]) _) fun _ => ?_
    exact completes_pure _

theorem raises_readNode (entry : Json) (caCert : String) :
    Raises (fun raised => raised.isAssertion) (readNode entry caCert) := by
  iterate 12
    refine raises_bind (raises_getText _ _ _) fun _ => ?_
  exact raises_pure _

theorem completes_readText_iff {entry : String × Json} :
    Completes (readText entry) ↔ entry.2.isString :=
  completes_bind_pure_iff.trans Json.completes_getString_iff

theorem completes_readVias_iff
    {vias : Json} {known : ExtTreeMap String String} :
    Completes (readVias vias known) ↔ Json.TextMembers vias.members := by
  rw [readVias_eq, completes_bind_pure_iff, completes_mapM_iff]
  simp only [completes_readText_iff]
  rfl

theorem completes_readPlugin_iff {info : Json} :
    Completes (readPlugin info) ↔ Json.TextMembers info.members := by
  rw [readPlugin_eq, completes_bind_pure_iff, completes_mapM_iff]
  simp only [completes_readText_iff]
  rfl

theorem completes_readPluginEntry_iff
    {entries : List (String × Json)} {entry : String × Json} :
    Completes (readPluginEntry (.object entries) entry) ↔
      ∃ info, Json.findMember entries (cString entry.1) = some info ∧
        Json.TextMembers info.members := by
  rw [readPluginEntry, Json.subscript]
  rcases Json.findMember entries (cString entry.1) with _ | info
  · refine iff_of_false ?_ (by simp)
    exact not_completes_error _
  · rw [ok_bind]
    cases info with
    | object fields =>
        rw [Json.isObject, if_pos rfl, completes_bind_pure_iff,
          completes_readPlugin_iff]
        simp
    | _ => simp [Json.isObject, Json.members, Json.TextMembers]

theorem completes_readPlugins_iff
    {list : Json} {known : ExtTreeMap String IcePlugCfg} :
    Completes (readPlugins list known) ↔ PluginsTyped list.members := by
  rw [readPlugins_eq, completes_bind_pure_iff, completes_mapM_iff]
  cases list with
  | object entries =>
      simp only [completes_readPluginEntry_iff]
      rfl
  | _ => simp [Json.members, PluginsTyped]

theorem completes_parseNodeInfo_iff
    {self : ChannelConfig} {doc : Json} (typed : SettingsTyped doc) :
    Completes (self.parseNodeInfo doc) ↔
      ∀ nodes, doc.member "NODE_INFO" = some nodes → nodes.isArray →
        NodeInfoTyped doc nodes := by
  have isObject := typed.isObject
  rw [parseNodeInfo_eq, Json.completes_readIf_iff isObject]
  refine forall_congr' fun nodes => forall₂_congr fun _ _ => ?_
  have viaTable :
      Completes
          (Json.readIf Json.isObject doc "VIA_INFO" self.viaToAddress
            fun vias => readVias vias self.viaToAddress) ↔
        Json.TextMembers (doc.membersOf "VIA_INFO") :=
    Json.completes_readIf_isObject_iff isObject (by simp [Json.TextMembers])
      fun _ => completes_readVias_iff
  have pluginTable :
      ∀ key (known : ExtTreeMap String IcePlugCfg),
        Completes
            (Json.readIf Json.isObject doc key known
              fun list => readPlugins list known) ↔
          PluginsTyped (doc.membersOf key) := by
    intro key known
    exact Json.completes_readIf_isObject_iff isObject
      (by simp [PluginsTyped]) fun _ => completes_readPlugins_iff
  constructor
  · intro completes
    rcases completes with ⟨result, parsed⟩
    rcases bind_eq_ok parsed with ⟨caCert, -, parsed⟩
    rcases bind_eq_ok parsed with ⟨described, nodesRead, parsed⟩
    rcases bind_eq_ok parsed with ⟨_, vias, parsed⟩
    rcases bind_eq_ok parsed with ⟨_, glacier2s, parsed⟩
    rcases bind_eq_ok parsed with ⟨_, icegrids, parsed⟩
    refine ⟨?_, viaTable.mp ⟨_, vias⟩, (pluginTable _ _).mp ⟨_, glacier2s⟩,
      (pluginTable _ _).mp ⟨_, icegrids⟩⟩
    intro entry member
    exact completes_readNode_iff.mp
      (completes_mapM_iff.mp ⟨_, nodesRead⟩ entry member)
  · intro nodeInfo
    refine completes_bind
      (completes_getText_iff.mpr ⟨isObject, typed.rootCert⟩) fun caCert => ?_
    have nodesRead :
        Completes (nodes.elements.mapM fun entry => readNode entry caCert) :=
      completes_mapM_iff.mpr fun entry member =>
        completes_readNode_iff.mpr (nodeInfo.nodes entry member)
    refine completes_bind nodesRead fun _ => ?_
    refine completes_bind (viaTable.mpr nodeInfo.vias) fun _ => ?_
    refine completes_bind ((pluginTable _ _).mpr nodeInfo.glacier2s)
      fun _ => ?_
    refine completes_bind ((pluginTable _ _).mpr nodeInfo.icegrids)
      fun _ => ?_
    exact completes_pure _

theorem raises_readText (entry : String × Json) :
    Raises (fun raised => raised.isAssertion) (readText entry) :=
  raises_bind (Json.raises_getString entry.2) fun _ => raises_pure _

theorem raises_readPlugins
    (list : Json) (known : ExtTreeMap String IcePlugCfg) :
    Raises (fun raised => raised.isAssertion) (readPlugins list known) := by
  rw [readPlugins_eq]
  refine raises_bind (raises_mapM fun entry _ => ?_) fun _ => raises_pure _
  refine raises_bind (Json.raises_subscript _ _) fun info => ?_
  split
  · rw [readPlugin_eq, bind_assoc]
    refine raises_bind (raises_mapM fun field _ => raises_readText field) ?_
    intro fields
    exact raises_pure _
  · exact raises_pure _

theorem raises_parseNodeInfo (self : ChannelConfig) (doc : Json) :
    Raises (fun raised => raised.isAssertion) (self.parseNodeInfo doc) := by
  rw [parseNodeInfo_eq]
  refine Json.raises_readIf (fun _ => id) fun nodes => ?_
  refine raises_bind (raises_getText _ _ _) fun caCert => ?_
  refine raises_bind
    (raises_mapM fun entry _ => raises_readNode entry caCert) fun _ => ?_
  refine raises_bind (Json.raises_readIf (fun _ => id) fun vias => ?_)
    fun _ => ?_
  · rw [readVias_eq]
    exact raises_bind (raises_mapM fun entry _ => raises_readText entry)
      fun _ => raises_pure _
  · refine raises_bind
      (Json.raises_readIf (fun _ => id) fun _ => raises_readPlugins _ _)
      fun _ => ?_
    refine raises_bind
      (Json.raises_readIf (fun _ => id) fun _ => raises_readPlugins _ _)
      fun _ => ?_
    exact raises_pure _

/-- The ids that the entries of `NODE_INFO` describe. -/
def describedIds (doc : Json) : List String :=
  (doc.elementsOf "NODE_INFO").map fun entry => entry.textOf "NODE_ID" ""

theorem nodeId_of_readNode
    {entry : Json} {caCert : String} {node : Node}
    (read : readNode entry caCert = .ok node) :
    node.nodeId = entry.textOf "NODE_ID" "" := by
  rcases bind_eq_ok read with ⟨nodeId, readId, read⟩
  iterate 11
    rcases bind_eq_ok read with ⟨_, -, read⟩
  cases read
  exact getText_eq_ok readId

/-- The stored ids are those of the document. -/
theorem mem_nodeInfoConfig_iff
    {self result : ChannelConfig} {doc : Json}
    (isObject : doc.isObject) (fresh : self.nodeInfoConfig = ∅)
    (parsed : self.parseNodeInfo doc = .ok result) (nodeId : String) :
    nodeId ∈ result.nodeInfoConfig ↔ nodeId ∈ describedIds doc := by
  rw [parseNodeInfo_eq, Json.readIf_of_isObject isObject] at parsed
  rw [describedIds, Json.elementsOf]
  split at parsed
  · next nodes found =>
      split at parsed
      · rcases bind_eq_ok parsed with ⟨caCert, -, parsed⟩
        rcases bind_eq_ok parsed with ⟨described, nodesRead, parsed⟩
        rcases bind_eq_ok parsed with ⟨_, -, parsed⟩
        rcases bind_eq_ok parsed with ⟨_, -, parsed⟩
        rcases bind_eq_ok parsed with ⟨_, -, parsed⟩
        cases parsed
        have ids :=
          map_eq_map_of_mapM nodesRead fun _ _ read => nodeId_of_readNode read
        rw [found, Option.map_some, Option.getD_some, ← ids]
        simp [insertNodes, mem_insertAll_iff, fresh]
      · next notArray =>
          cases parsed
          have noElements : nodes.elements = [] := by
            cases nodes <;> simp_all [Json.isArray, Json.elements]
          simp [found, noElements, fresh]
  · next absent =>
      cases parsed
      simp [absent, fresh]

end NodeInfo

end ChannelConfig

end ChannelSdk
