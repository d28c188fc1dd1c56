import ChannelSdk.LoadOutcome
import ChannelSdk.Lib.CheckedOrder

/-!
# The order of a document does not matter

Two documents that differ in the order of the members of their objects, and in
the order of the entries of `NODE_INFO`, are parsed to the same configuration,
or both are rejected.  The objects have unique keys without NUL characters,
and the entries of a reordered `NODE_INFO` have distinct ids.

A lookup in a reordered object finds a reordered value.  The loops over the
members of an object insert into maps and sets under distinct keys, so the
order of the insertions is forgotten; the fields of a plug-in are assigned in
any order; the computation nodes are walked in the order of their map.
-/

namespace ChannelSdk

open CheckedMemory CheckedFold CheckedOutcome CheckedOrder FirstEntries
open Std (ExtTreeMap ExtTreeSet)

namespace Json

/-- The values differ in the order of the members of their objects only. -/
inductive Reordered : Json → Json → Prop
  | null : Reordered .null .null
  | bool (value : Bool) : Reordered (.bool value) (.bool value)
  | integer (value : Int) : Reordered (.integer value) (.integer value)
  | decimal (value : Rat) : Reordered (.decimal value) (.decimal value)
  | string (value : String) : Reordered (.string value) (.string value)
  | array {elements others : List Json} :
      List.Forall₂ Reordered elements others →
      Reordered (.array elements) (.array others)
  | object {entries permuted others : List (String × Json)} :
      entries.Perm permuted →
      permuted.map Prod.fst = others.map Prod.fst →
      List.Forall₂ Reordered
        (permuted.map Prod.snd) (others.map Prod.snd) →
      Reordered (.object entries) (.object others)

/-- The keys of every object are unique and have no NUL character. -/
inductive Plain : Json → Prop
  | null : Plain .null
  | bool (value : Bool) : Plain (.bool value)
  | integer (value : Int) : Plain (.integer value)
  | decimal (value : Rat) : Plain (.decimal value)
  | string (value : String) : Plain (.string value)
  | array {elements : List Json} :
      (∀ element ∈ elements, Plain element) → Plain (.array elements)
  | object {entries : List (String × Json)} :
      (entries.map Prod.fst).Nodup →
      (∀ key ∈ entries.map Prod.fst, cString key = key) →
      (∀ value ∈ entries.map Prod.snd, Plain value) →
      Plain (.object entries)

/-- The members stand in another order, and the values of a key are
related. -/
def MembersRelated (related : String → Json → Json → Prop)
    (entries others : List (String × Json)) : Prop :=
  ∃ permuted, entries.Perm permuted ∧
    List.Forall₂
      (fun entry other =>
        entry.1 = other.1 ∧ related entry.1 entry.2 other.2)
      permuted others

theorem forall₂_entries
    {related : Json → Json → Prop}
    {entries others : List (String × Json)}
    (keys : entries.map Prod.fst = others.map Prod.fst)
    (values :
      List.Forall₂ related (entries.map Prod.snd) (others.map Prod.snd)) :
    List.Forall₂
      (fun entry other => entry.1 = other.1 ∧ related entry.2 other.2)
      entries others := by
  induction entries generalizing others with
  | nil =>
      cases others with
      | nil => exact .nil
      | cons other rest => cases keys
  | cons entry rest inductionHypothesis =>
      cases others with
      | nil => cases keys
      | cons other restOthers =>
          rw [List.map_cons, List.map_cons] at keys values
          rcases List.cons.inj keys with ⟨sameKey, restKeys⟩
          cases values with
          | cons sameValue restValues =>
              exact .cons ⟨sameKey, sameValue⟩
                (inductionHypothesis restKeys restValues)

/-- A lookup in related members finds related values. -/
theorem MembersRelated.findMember
    {related : String → Json → Json → Prop}
    {entries others : List (String × Json)}
    (relation : MembersRelated related entries others)
    (distinct : (entries.map Prod.fst).Nodup) (key : String) :
    Option.Rel (related key)
      (Json.findMember entries key) (Json.findMember others key) := by
  rcases relation with ⟨permuted, order, pairs⟩
  have same : Json.findMember entries key = Json.findMember permuted key :=
    firstValue_perm distinct order key
  rw [same]
  clear same order distinct
  induction pairs with
  | nil => exact .none
  | @cons entry other restEntries restOthers pair _ inductionHypothesis =>
      have here : Json.findMember (entry :: restEntries) key = _ :=
        firstValue_cons entry restEntries key
      have there : Json.findMember (other :: restOthers) key = _ :=
        firstValue_cons other restOthers key
      rw [here, there, ← pair.1]
      split
      · next isKey =>
          rw [← isKey]
          exact .some pair.2
      · exact inductionHypothesis

section Accessors

variable {value other : Json} (reordered : Reordered value other)

include reordered

theorem Reordered.getString_eq : value.getString = other.getString := by
  cases reordered <;> rfl

theorem Reordered.getInt_eq : value.getInt = other.getInt := by
  cases reordered <;> rfl

theorem Reordered.getFloat_eq : value.getFloat = other.getFloat := by
  cases reordered <;> rfl

theorem Reordered.getBool_eq : value.getBool = other.getBool := by
  cases reordered <;> rfl

theorem Reordered.isString_eq : value.isString = other.isString := by
  cases reordered <;> rfl

theorem Reordered.isArray_eq : value.isArray = other.isArray := by
  cases reordered <;> rfl

theorem Reordered.isObject_eq : value.isObject = other.isObject := by
  cases reordered <;> rfl

theorem Reordered.elements_related :
    List.Forall₂ Reordered value.elements other.elements := by
  cases reordered with
  | array pairs => exact pairs
  | _ => exact .nil

theorem Reordered.members_related :
    MembersRelated (fun _ => Reordered) value.members other.members := by
  cases reordered with
  | object order keys values =>
      exact ⟨_, order, forall₂_entries keys values⟩
  | _ => exact ⟨[], .nil, .nil⟩

end Accessors

section PlainValues

variable {value : Json} (plain : Plain value)

include plain

theorem Plain.distinct : (value.members.map Prod.fst).Nodup := by
  cases plain with
  | object distinct _ _ => exact distinct
  | _ => exact List.nodup_nil

theorem Plain.cString_eq :
    ∀ entry ∈ value.members, cString entry.1 = entry.1 := by
  intro entry isMember
  cases plain with
  | object _ nulFree _ => exact nulFree _ (List.mem_map_of_mem isMember)
  | _ => cases isMember

theorem Plain.of_mem_members :
    ∀ entry ∈ value.members, Plain entry.2 := by
  intro entry isMember
  cases plain with
  | object _ _ values => exact values _ (List.mem_map_of_mem isMember)
  | _ => cases isMember

theorem Plain.of_mem_elements :
    ∀ element ∈ value.elements, Plain element := by
  intro element isElement
  cases plain with
  | array elements => exact elements element isElement
  | _ => cases isElement

theorem Plain.of_member
    {key : String} {found : Json} (isMember : value.member key = some found) :
    Plain found :=
  plain.of_mem_members (key, found) (mem_of_firstValue_eq_some isMember)

/-- The names that the parser sees are distinct. -/
theorem Plain.distinct_names :
    (value.members.map fun entry => cString entry.1).Nodup := by
  have same :
      (value.members.map fun entry => cString entry.1) =
        value.members.map Prod.fst :=
    List.map_congr_left plain.cString_eq
  rw [same]
  exact plain.distinct

theorem Plain.member_related
    {other : Json} (reordered : Reordered value other) (key : String) :
    Option.Rel Reordered (value.member key) (other.member key) :=
  reordered.members_related.findMember plain.distinct key

end PlainValues

end Json

section Lookups

variable {Value : Type} {first second : Json} {key : String}

/-- A typed member of two objects with related values under a key. -/
theorem getMember_same
    {read : Json → Except LoadError Value} {defaultValue : Value}
    (respects :
      ∀ value other, Json.Reordered value other → read value = read other)
    (firstObject : first.isObject) (secondObject : second.isObject)
    (lookup :
      Option.Rel Json.Reordered (first.member key) (second.member key)) :
    getMember read first key defaultValue false =
      getMember read second key defaultValue false := by
  rw [getMember_of_isObject firstObject, getMember_of_isObject secondObject]
  generalize first.member key = found at lookup ⊢
  generalize second.member key = otherFound at lookup ⊢
  cases lookup with
  | none => rfl
  | some related => exact respects _ _ related

/-- A text of two reordered values. -/
theorem getText_same
    (reordered : Json.Reordered first second) (plain : first.Plain)
    (key defaultValue : String) :
    getString first key defaultValue false =
      getString second key defaultValue false := by
  by_cases isObject : first.isObject
  · exact getMember_same (fun _ _ related => related.getString_eq) isObject
      (reordered.isObject_eq.symm.trans isObject)
      (plain.member_related reordered key)
  · cases reordered with
    | object => exact absurd rfl isObject
    | _ => rfl

theorem sameOutcome_readIf
    {related : Json → Json → Prop} {accepts : Json → Bool}
    {unchanged : Value} {read readOther : Json → Except LoadError Value}
    (firstObject : first.isObject) (secondObject : second.isObject)
    (lookup : Option.Rel related (first.member key) (second.member key))
    (sameType :
      ∀ value other, related value other → accepts value = accepts other)
    (each :
      ∀ value other, first.member key = some value → related value other →
        SameOutcome (read value) (readOther other)) :
    SameOutcome (Json.readIf accepts first key unchanged read)
      (Json.readIf accepts second key unchanged readOther) := by
  rw [Json.readIf_of_isObject firstObject,
    Json.readIf_of_isObject secondObject]
  generalize isFound : first.member key = found at lookup each ⊢
  generalize second.member key = otherFound at lookup ⊢
  cases lookup with
  | none => exact .refl _
  | some relation =>
      simp only [sameType _ _ relation]
      split
      · exact each _ _ rfl relation
      · exact .refl _

end Lookups

namespace ChannelConfig

section Loops

variable {value other : Json} (reordered : Json.Reordered value other)
variable (plain : value.Plain)

include reordered plain

omit plain in
/-- A pass over the members of an object. -/
theorem permutedOutcome_members
    {Value : Type} {read readOther : String × Json → Except LoadError Value}
    (each :
      ∀ entry ∈ value.members, ∀ otherEntry,
        entry.1 = otherEntry.1 → Json.Reordered entry.2 otherEntry.2 →
          SameOutcome (read entry) (readOther otherEntry)) :
    PermutedOutcome (value.members.mapM read)
      (other.members.mapM readOther) := by
  rcases reordered.members_related with ⟨permuted, order, pairs⟩
  apply permutedOutcome_mapM order pairs
  intro entry member otherEntry pair
  exact each entry member otherEntry pair.1 pair.2

/-- The entries that are read off the members of an object, inserted into a
map under the members' names. -/
theorem sameOutcome_insertAll
    {Value : Type}
    {read readOther : String × Json → Except LoadError (String × Value)}
    (named :
      ∀ entry stored, read entry = .ok stored → stored.1 = cString entry.1)
    (each :
      ∀ entry ∈ value.members, ∀ otherEntry,
        entry.1 = otherEntry.1 → Json.Reordered entry.2 otherEntry.2 →
          SameOutcome (read entry) (readOther otherEntry))
    (map : ExtTreeMap String Value) :
    SameOutcome
      (value.members.mapM read >>= fun stored => pure (insertAll map stored))
      (other.members.mapM readOther >>= fun stored =>
        pure (insertAll map stored)) := by
  apply (permutedOutcome_members reordered each).bind
  intro stored others computed order
  have names : stored.map Prod.fst = _ :=
    map_eq_map_of_mapM computed named
  have distinct : (stored.map Prod.fst).Nodup := by
    rw [names]
    exact plain.distinct_names
  exact .of_eq (by rw [insertAll_perm distinct order])

omit reordered plain in
theorem readText_same
    {entry otherEntry : String × Json} (sameName : entry.1 = otherEntry.1)
    (related : Json.Reordered entry.2 otherEntry.2) :
    readText entry = readText otherEntry := by
  rw [readText, readText, related.getString_eq, sameName]

omit reordered plain in
theorem name_of_readText
    {entry : String × Json} {stored : String × String}
    (read : readText entry = .ok stored) : stored.1 = cString entry.1 := by
  rcases bind_eq_ok read with ⟨text, -, read⟩
  cases read
  rfl

theorem readVias_same (known : ExtTreeMap String String) :
    SameOutcome (readVias value known) (readVias other known) := by
  rw [readVias_eq, readVias_eq]
  refine sameOutcome_insertAll reordered plain
    (fun _ _ => name_of_readText) ?_ known
  intro entry _ otherEntry sameName related
  exact .of_eq (readText_same sameName related)

omit reordered plain in
/-- Fields of different names are assigned in any order. -/
theorem assignField_comm
    {field otherField : String × String}
    (different : field.1 ≠ otherField.1) (plugin : IcePlugCfg) :
    assignField (assignField plugin field) otherField =
      assignField (assignField plugin otherField) field := by
  simp only [assignField]
  grind

theorem readPlugin_same :
    SameOutcome (readPlugin value) (readPlugin other) := by
  rw [readPlugin_eq, readPlugin_eq]
  refine (permutedOutcome_members reordered ?_).bind ?_
  · intro entry _ otherEntry sameName related
    exact .of_eq (readText_same sameName related)
  · intro fields others computed order
    have names : fields.map Prod.fst = _ :=
      map_eq_map_of_mapM computed fun _ _ => name_of_readText
    have distinct : (fields.map Prod.fst).Nodup := by
      rw [names]
      exact plain.distinct_names
    apply SameOutcome.of_eq
    rw [order.foldl_eq']
    intro field isField otherField isOther plugin
    by_cases same : field.1 = otherField.1
    · rw [List.inj_on_of_nodup_map distinct isField isOther same]
    · exact assignField_comm same plugin

omit reordered plain in
theorem subscript_of_member
    {doc found : Json} {key : String} (isMember : doc.member key = some found) :
    doc.subscript key = .ok found := by
  cases doc with
  | object entries =>
      have present : Json.findMember entries key = some found := isMember
      rw [Json.subscript, present]
  | _ => cases isMember

/-- A member of an object is looked up again by its name. -/
theorem subscript_same
    {entry otherEntry : String × Json} (member : entry ∈ value.members)
    (sameName : entry.1 = otherEntry.1) :
    ∃ found otherFound,
      value.subscript (cString entry.1) = .ok found ∧
        other.subscript (cString otherEntry.1) = .ok otherFound ∧
        Json.Reordered found otherFound ∧ found.Plain := by
  have isMember : value.member entry.1 = some entry.2 :=
    (firstValue_eq_some_iff plain.distinct).mpr member
  have lookup := plain.member_related reordered entry.1
  rw [isMember] at lookup
  generalize isOther : other.member entry.1 = found at lookup
  cases lookup with
  | @some _ otherFound related =>
      rw [← sameName, plain.cString_eq entry member]
      exact ⟨entry.2, otherFound, subscript_of_member isMember,
        subscript_of_member isOther, related,
        plain.of_mem_members entry member⟩

theorem readPluginEntry_same
    {entry otherEntry : String × Json} (member : entry ∈ value.members)
    (sameName : entry.1 = otherEntry.1) :
    SameOutcome (readPluginEntry value entry)
      (readPluginEntry other otherEntry) := by
  rcases subscript_same reordered plain member sameName with
    ⟨found, otherFound, looked, otherLooked, related, foundPlain⟩
  rw [readPluginEntry, readPluginEntry, looked, otherLooked, ok_bind, ok_bind,
    related.isObject_eq, sameName]
  split
  · exact (readPlugin_same related foundPlain).bind fun _ _ => .refl _
  · exact .refl _

omit reordered plain in
/-- The plug-ins that are stored stand under names of the members. -/
theorem names_of_readPluginEntry
    {list : Json} {members : List (String × Json)}
    {stored : List (Option (String × IcePlugCfg))}
    (computed : members.mapM (readPluginEntry list) = .ok stored) :
    (stored.reduceOption.map Prod.fst).Sublist
      (members.map fun entry => cString entry.1) := by
  have related := mapM_eq_ok_iff.mp computed
  clear computed
  induction related with
  | nil => exact .slnil
  | @cons entry plugin members stored read _ inductionHypothesis =>
      rcases bind_eq_ok read with ⟨info, -, read⟩
      split at read
      · rcases bind_eq_ok read with ⟨fields, -, read⟩
        cases read
        exact inductionHypothesis.cons_cons _
      · cases read
        exact inductionHypothesis.cons _

theorem readPlugins_same (known : ExtTreeMap String IcePlugCfg) :
    SameOutcome (readPlugins value known) (readPlugins other known) := by
  rw [readPlugins_eq, readPlugins_eq]
  refine (permutedOutcome_members reordered ?_).bind ?_
  · intro entry member otherEntry sameName _
    exact readPluginEntry_same reordered plain member sameName
  · intro stored others computed order
    have distinct : (stored.reduceOption.map Prod.fst).Nodup :=
      (names_of_readPluginEntry computed).nodup plain.distinct_names
    have permuted : stored.reduceOption.Perm others.reduceOption :=
      order.filterMap id
    exact .of_eq (by rw [insertAll_perm distinct permuted])

theorem readComputeNodes_same (known : ExtTreeMap String Int) :
    SameOutcome (readComputeNodes value known)
      (readComputeNodes other known) := by
  rw [readComputeNodes_eq, readComputeNodes_eq]
  refine sameOutcome_insertAll reordered plain ?_ ?_ known
  · intro entry stored read
    rcases bind_eq_ok read with ⟨text, -, read⟩
    cases read
    rfl
  · intro entry _ otherEntry sameName related
    apply SameOutcome.of_eq
    rw [readParty, readParty, related.getString_eq, sameName]

omit plain in
theorem mapM_getString_same :
    SameOutcome (value.elements.mapM Json.getString)
      (other.elements.mapM Json.getString) :=
  sameOutcome_mapM reordered.elements_related
    fun _ _ _ related => .of_eq related.getString_eq

theorem readPolicies_same (known : ExtTreeMap String (ExtTreeSet String)) :
    SameOutcome
      (value.members.mapM (readPolicy value) >>= fun policies =>
        pure (insertAll known policies))
      (other.members.mapM (readPolicy other) >>= fun policies =>
        pure (insertAll known policies)) := by
  refine sameOutcome_insertAll reordered plain ?_ ?_ known
  · intro entry stored read
    rcases bind_eq_ok read with ⟨nodeids, -, read⟩
    cases read
    rfl
  · intro entry member otherEntry sameName _
    rcases subscript_same reordered plain member sameName with
      ⟨found, otherFound, looked, otherLooked, related, -⟩
    rw [readPolicy, readPolicy, readServerNodes_eq, readServerNodes_eq,
      looked, otherLooked, ok_bind, ok_bind, sameName]
    exact ((mapM_getString_same related).bind fun _ _ => .refl _).bind
      fun _ _ => .refl _

omit plain in
theorem readTaskNodes_elements_same (table : ExtTreeMap String Node) :
    SameOutcome (value.elements.mapM (readTaskNode table))
      (other.elements.mapM (readTaskNode table)) := by
  apply sameOutcome_mapM reordered.elements_related
  intro entry _ otherEntry related
  apply SameOutcome.of_eq
  rw [readTaskNode, readTaskNode, related.getString_eq]

theorem readNode_same (caCert : String) :
    readNode value caCert = readNode other caCert := by
  simp only [readNode, getText_same reordered plain]

end Loops

/-- The entries of `NODE_INFO` stand in another order; their ids differ. -/
structure NodesReordered (nodes others : Json) : Prop where
  isArray : nodes.isArray
  othersArray : others.isArray
  distinct :
    (nodes.elements.map fun entry => entry.textOf "NODE_ID" "").Nodup
  reordered :
    ∃ permuted, nodes.elements.Perm permuted ∧
      List.Forall₂ Json.Reordered permuted others.elements

/-- The values of a member of two documents. -/
def ValueReordered (key : String) (value other : Json) : Prop :=
  Json.Reordered value other ∨
    key = "NODE_INFO" ∧ NodesReordered value other

/-- The documents differ in the order of the members of their objects and of
the entries of `NODE_INFO` only. -/
inductive DocumentReordered : Json → Json → Prop
  | object {entries others : List (String × Json)} :
      Json.MembersRelated ValueReordered entries others →
      DocumentReordered (.object entries) (.object others)

section NodeTable

variable {nodes others : Json}

/-- Nodes of distinct ids are stored in any order. -/
theorem insertNodes_perm
    {described permuted : List Node}
    (distinct : (described.map Node.nodeId).Nodup)
    (order : described.Perm permuted) (self : ChannelConfig) :
    self.insertNodes described = self.insertNodes permuted := by
  have stored :
      ∀ {Value : Type} (field : Node → Value)
        (map : ExtTreeMap String Value),
        insertAll map (described.map fun node => (node.nodeId, field node)) =
          insertAll map
            (permuted.map fun node => (node.nodeId, field node)) := by
    intro Value field map
    refine insertAll_perm ?_ (order.map _) map
    rw [List.map_map]
    exact distinct
  rw [insertNodes, insertNodes, stored, stored, stored, stored]

/-- The pass over the entries of `NODE_INFO`, with what follows. -/
theorem readNodes_same
    (related : ValueReordered "NODE_INFO" nodes others)
    (plain : nodes.Plain) (caCert : String) (self : ChannelConfig)
    {Result : Type} {next later : ChannelConfig → Except LoadError Result}
    (sameNext : ∀ config, SameOutcome (next config) (later config)) :
    SameOutcome
      (nodes.elements.mapM (fun entry => readNode entry caCert) >>=
        fun described => next (self.insertNodes described))
      (others.elements.mapM (fun entry => readNode entry caCert) >>=
        fun described => later (self.insertNodes described)) := by
  have each :
      ∀ entry ∈ nodes.elements, ∀ other, Json.Reordered entry other →
        SameOutcome (readNode entry caCert) (readNode other caCert) := by
    intro entry member other reordered
    exact .of_eq
      (readNode_same reordered (plain.of_mem_elements entry member) caCert)
  rcases related with reordered | ⟨-, permutation⟩
  · apply (sameOutcome_mapM reordered.elements_related each).bind
    intro described _
    exact sameNext _
  · rcases permutation.reordered with ⟨permuted, order, pairs⟩
    apply (permutedOutcome_mapM order pairs each).bind
    intro described reordered read describedOrder
    have ids :=
      map_eq_map_of_mapM read fun _ _ readEntry => nodeId_of_readNode readEntry
    have distinct : (described.map Node.nodeId).Nodup := by
      rw [ids]
      exact permutation.distinct
    rw [insertNodes_perm distinct describedOrder]
    exact sameNext _

theorem ValueReordered.isArray_eq
    {key : String} (related : ValueReordered key nodes others) :
    nodes.isArray = others.isArray := by
  rcases related with reordered | ⟨-, permutation⟩
  · exact reordered.isArray_eq
  · rw [permutation.isArray, permutation.othersArray]

end NodeTable

section Stages

variable {first second : Json} (document : DocumentReordered first second)
variable (plain : first.Plain) (self : ChannelConfig)

include document plain

omit plain in
theorem DocumentReordered.isObject : first.isObject ∧ second.isObject := by
  cases document with
  | object => exact ⟨rfl, rfl⟩

theorem DocumentReordered.member_value (key : String) :
    Option.Rel (ValueReordered key) (first.member key)
      (second.member key) := by
  have distinct := plain.distinct
  cases document with
  | object relation => exact relation.findMember distinct key

theorem DocumentReordered.member
    {key : String} (notNodes : key ≠ "NODE_INFO") :
    Option.Rel Json.Reordered (first.member key) (second.member key) := by
  have lookup := document.member_value plain key
  generalize first.member key = found at lookup ⊢
  generalize second.member key = otherFound at lookup ⊢
  cases lookup with
  | none => exact .none
  | some related =>
      rcases related with reordered | ⟨isNodes, -⟩
      · exact .some reordered
      · exact absurd isNodes notNodes

theorem getSetting_same
    {Value : Type} {read : Json → Except LoadError Value} {key : String}
    (respects :
      ∀ value other, Json.Reordered value other → read value = read other)
    (notNodes : key ≠ "NODE_INFO") (defaultValue : Value) :
    getMember read first key defaultValue false =
      getMember read second key defaultValue false :=
  getMember_same respects document.isObject.1 document.isObject.2
    (document.member plain notNodes)

theorem getTextSetting_same
    {key : String} (notNodes : key ≠ "NODE_INFO") (defaultValue : String) :
    getString first key defaultValue false =
      getString second key defaultValue false :=
  getSetting_same document plain (fun _ _ related => related.getString_eq)
    notNodes defaultValue

theorem parseSettings_same :
    self.parseSettings first = self.parseSettings second := by
  have integers :
      ∀ key defaultValue, key ≠ "NODE_INFO" →
        getInt first key defaultValue false =
          getInt second key defaultValue false := by
    intro key defaultValue notNodes
    exact getSetting_same document plain
      (fun _ _ related => related.getInt_eq) notNodes defaultValue
  have numbers :
      ∀ key defaultValue, key ≠ "NODE_INFO" →
        getFloat first key defaultValue false =
          getFloat second key defaultValue false := by
    intro key defaultValue notNodes
    exact getSetting_same document plain
      (fun _ _ related => related.getFloat_eq) notNodes defaultValue
  have truth :
      getBool first "CONNECT_SYNC" false false =
        getBool second "CONNECT_SYNC" false false :=
    getSetting_same document plain (fun _ _ related => related.getBool_eq)
      (by decide) false
  rw [parseSettings, parseSettings,
    getTextSetting_same document plain (by decide),
    getTextSetting_same document plain (by decide),
    integers "LOG_LEVEL" 2 (by decide),
    integers "BUFFER_SIZE" (8 * 1024) (by decide),
    numbers "PING_TIME" 1 (by decide), numbers "SEND_TIMEOUT" 5 (by decide),
    numbers "CONNECT_TIMEOUT" 5 (by decide), truth]

/-- A table of the document that is skipped unless it is an object. -/
theorem readTable_same
    {Value : Type} {key : String} {read : Json → Value → Except LoadError Value}
    (notNodes : key ≠ "NODE_INFO")
    (each :
      ∀ table other known, Json.Reordered table other → table.Plain →
        SameOutcome (read table known) (read other known))
    (known : Value) :
    SameOutcome
      (Json.readIf Json.isObject first key known fun table =>
        read table known)
      (Json.readIf Json.isObject second key known fun table =>
        read table known) := by
  apply sameOutcome_readIf document.isObject.1 document.isObject.2
    (document.member plain notNodes)
    (fun _ _ reordered => reordered.isObject_eq)
  intro table other isMember reordered
  exact each table other known reordered (plain.of_member isMember)

theorem parseNodeInfo_same :
    SameOutcome (self.parseNodeInfo first) (self.parseNodeInfo second) := by
  rw [parseNodeInfo_eq, parseNodeInfo_eq]
  apply sameOutcome_readIf document.isObject.1 document.isObject.2
    (document.member_value plain "NODE_INFO")
    (fun _ _ related => related.isArray_eq)
  intro nodes others isMember related
  rw [getTextSetting_same document plain (by decide)]
  apply (SameOutcome.refl _).bind
  intro caCert _
  let next := fun (doc : Json) (config : ChannelConfig) => do
    let viaToAddress ←
      Json.readIf Json.isObject doc "VIA_INFO" self.viaToAddress
        fun vias => readVias vias self.viaToAddress
    let glacier2ToInfo ←
      Json.readIf Json.isObject doc "GRICER2_INFO" self.glacier2ToInfo
        fun list => readPlugins list self.glacier2ToInfo
    let icegridToInfo ←
      Json.readIf Json.isObject doc "ICE_GRID_INFO" self.icegridToInfo
        fun list => readPlugins list self.icegridToInfo
    return { config with viaToAddress, glacier2ToInfo, icegridToInfo }
  have sameNext :
      ∀ config, SameOutcome (next first config) (next second config) := by
    intro config
    refine (readTable_same document plain (by decide)
      (fun _ _ known reordered plain => readVias_same reordered plain known)
      _).bind fun _ _ => ?_
    refine (readTable_same document plain (by decide)
      (fun _ _ known reordered plain => readPlugins_same reordered plain known)
      _).bind fun _ _ => ?_
    refine (readTable_same document plain (by decide)
      (fun _ _ known reordered plain => readPlugins_same reordered plain known)
      _).bind fun _ _ => ?_
    exact .refl _
  exact readNodes_same related (plain.of_member isMember) caCert self sameNext

theorem readTaskNodes_same
    {key : String} (notNodes : key ≠ "NODE_INFO")
    (store : List (String × Node) → ChannelConfig) :
    SameOutcome (self.readTaskNodes first key store)
      (self.readTaskNodes second key store) := by
  apply sameOutcome_readIf document.isObject.1 document.isObject.2
    (document.member plain notNodes)
    (fun _ _ reordered => reordered.isArray_eq)
  intro nodes others _ reordered
  exact (readTaskNodes_elements_same reordered self.nodeInfoConfig).bind
    fun _ _ => .refl _

theorem parseCompute_same :
    SameOutcome (self.parseCompute first) (self.parseCompute second) := by
  rw [parseCompute_eq, parseCompute_eq]
  apply sameOutcome_readIf document.isObject.1 document.isObject.2
    (document.member plain (by decide))
    (fun _ _ reordered => reordered.isObject_eq)
  intro nodes others isMember reordered
  exact (readComputeNodes_same reordered (plain.of_member isMember)
    self.computeNodes).bind fun _ _ => .refl _

theorem parsePolicy_same :
    SameOutcome (self.parsePolicy first) (self.parsePolicy second) := by
  have policyText :=
    getTextSetting_same document plain
      (show "POLICY" ≠ "NODE_INFO" by decide) "all"
  have lookup :=
    document.member plain (show "POLICY" ≠ "NODE_INFO" by decide)
  rw [parsePolicy_of_isObject document.isObject.1,
    parsePolicy_of_isObject document.isObject.2, policyText]
  generalize isFound : first.member "POLICY" = found at lookup ⊢
  generalize second.member "POLICY" = otherFound at lookup ⊢
  cases lookup with
  | none => exact .refl _
  | some reordered =>
      have policyPlain := plain.of_member isFound
      simp only [reordered.isString_eq, reordered.isObject_eq]
      split
      · exact .refl _
      · split
        · have stored :
              ∀ policy : Json,
                policy.members.foldlM (addPolicy policy) self =
                  (policy.members.mapM (readPolicy policy) >>=
                    fun policies =>
                      pure (insertAll self.mapPolicy policies)) >>=
                  fun mapPolicy => pure { self with mapPolicy } := by
            intro policy
            rw [foldlM_addPolicy, bind_assoc]
            rfl
          rw [stored, stored]
          exact (readPolicies_same reordered policyPlain self.mapPolicy).bind
            fun _ _ => .refl _
        · exact .refl _

theorem parse_same : SameOutcome (self.parse first) (self.parse second) := by
  rw [parse, parse, parseSettings_same document plain]
  apply (SameOutcome.refl _).bind
  intro withSettings _
  apply (parseNodeInfo_same document plain withSettings).bind
  intro withNodeInfo _
  rw [parseData_eq, parseData_eq]
  apply (readTaskNodes_same document plain withNodeInfo (by decide) _).bind
  intro withData _
  apply (parseCompute_same document plain withData).bind
  intro withCompute _
  rw [parseResult_eq, parseResult_eq]
  apply (readTaskNodes_same document plain withCompute (by decide) _).bind
  intro withResult _
  exact parsePolicy_same document plain withResult

end Stages

/-- Two documents in different order are parsed to the same configuration, or
the parser throws on both. -/
theorem parse_order_independent
    {first second : Json} (document : DocumentReordered first second)
    (plain : first.Plain) (firstTyped : WellTyped first)
    (secondTyped : WellTyped second) (self : ChannelConfig) :
    (∃ config,
        self.parse first = .ok config ∧ self.parse second = .ok config) ∨
      ∃ thrown otherThrown,
        self.parse first = .error thrown ∧
          self.parse second = .error otherThrown ∧
          thrown.isAssertion = false ∧ otherThrown.isAssertion = false := by
  have same := parse_same document plain self
  rcases completes_or_raised (self.parse first) with
    ⟨config, parsed⟩ | ⟨thrown, failed⟩
  · exact .inl ⟨config, parsed, (same config).mp parsed⟩
  · rcases completes_or_raised (self.parse second) with
      ⟨config, parsed⟩ | ⟨otherThrown, otherFailed⟩
    · have impossible := (same config).mpr parsed
      rw [failed] at impossible
      cases impossible
    · exact .inr ⟨thrown, otherThrown, failed, otherFailed,
        endsCleanly_parse firstTyped self thrown failed,
        endsCleanly_parse secondTyped self otherThrown otherFailed⟩

/-- One of the two orders of a document with two nodes. -/
def nodesFirstDocument : Json :=
  .object
    [("NODE_INFO", .array
      [.object [("NODE_ID", .string "A"), ("VIA", .string "VIA1")],
        .object [("NODE_ID", .string "B")]]),
    ("COMPUTATION_NODES", .object
      [("A", .string "P0"), ("B", .string "P1")])]

/-- The other order, at every depth. -/
def nodesLastDocument : Json :=
  .object
    [("COMPUTATION_NODES", .object
      [("B", .string "P1"), ("A", .string "P0")]),
    ("NODE_INFO", .array
      [.object [("NODE_ID", .string "B")],
        .object [("VIA", .string "VIA1"), ("NODE_ID", .string "A")]])]

theorem nodesFirst_reordered :
    DocumentReordered nodesFirstDocument nodesLastDocument := by
  have nodeA :
      Json.Reordered
        (.object [("NODE_ID", .string "A"), ("VIA", .string "VIA1")])
        (.object [("VIA", .string "VIA1"), ("NODE_ID", .string "A")]) :=
    .object (.swap _ _ []) rfl (.cons (.string _) (.cons (.string _) .nil))
  have nodeB :
      Json.Reordered (.object [("NODE_ID", .string "B")])
        (.object [("NODE_ID", .string "B")]) :=
    .object (.refl _) rfl (.cons (.string _) .nil)
  have parties :
      Json.Reordered
        (.object [("A", .string "P0"), ("B", .string "P1")])
        (.object [("B", .string "P1"), ("A", .string "P0")]) :=
    .object (.swap _ _ []) rfl (.cons (.string _) (.cons (.string _) .nil))
  refine .object ⟨_, .swap _ _ [], .cons ⟨rfl, .inl parties⟩
    (.cons ⟨rfl, .inr ⟨rfl, ?_⟩⟩ .nil)⟩
  exact
    { isArray := rfl
      othersArray := rfl
      distinct := by decide +kernel
      reordered := ⟨_, .swap _ _ [], .cons nodeB (.cons nodeA .nil)⟩ }

theorem nodesFirst_plain : nodesFirstDocument.Plain := by
  refine .object (by decide +kernel) (by decide +kernel) ?_
  simp only [List.map_cons, List.map_nil, List.forall_mem_cons]
  refine ⟨.array ?_, .object (by decide +kernel) (by decide +kernel) ?_, ?_⟩
  · simp only [List.forall_mem_cons]
    refine ⟨.object (by decide +kernel) (by decide +kernel) ?_,
      .object (by decide +kernel) (by decide +kernel) ?_, ?_⟩
    · simp [Json.Plain.string]
    · simp [Json.Plain.string]
    · simp
  · simp [Json.Plain.string]
  · simp

theorem parse_order_independent_nodes :
    ∃ config, parse {} nodesFirstDocument = .ok config ∧
      parse {} nodesLastDocument = .ok config ∧
      config.taskNodes.toList = ["A", "B"] := by
  have observed :
      ((create "A" nodesFirstDocument).toOption.map fun config =>
        config.taskNodes.toList) = some ["A", "B"] := by
    decide +kernel
  rcases Option.map_eq_some_iff.mp observed with ⟨loaded, isLoaded, tasks⟩
  have completed := eq_ok_of_toOption isLoaded
  rcases bind_eq_ok completed with ⟨config, parsed, stored⟩
  have otherCompletes : Completes (create "A" nodesLastDocument) := by
    have observedOther : (create "A" nodesLastDocument).toOption.isSome := by
      decide +kernel
    rcases Option.isSome_iff_exists.mp observedOther with ⟨other, isOther⟩
    exact ⟨other, eq_ok_of_toOption isOther⟩
  have firstTyped := (completes_create_iff.mp ⟨loaded, completed⟩).1
  have secondTyped := (completes_create_iff.mp otherCompletes).1
  have sameTasks : config.taskNodes.toList = ["A", "B"] := by
    rw [← tasks, ← Except.ok.inj stored]
  rcases parse_order_independent nodesFirst_reordered nodesFirst_plain
      firstTyped secondTyped {} with
    ⟨same, first, second⟩ | ⟨thrown, _, failed, -⟩
  · rw [parsed] at first
    rw [← Except.ok.inj first] at second
    exact ⟨config, parsed, second, sameTasks⟩
  · rw [parsed] at failed
    cases failed

end ChannelConfig

end ChannelSdk
