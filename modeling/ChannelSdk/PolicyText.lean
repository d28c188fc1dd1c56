import ChannelSdk.Lib.JsonText
import ChannelSdk.ConfigQueries
import ChannelSdk.FullMesh

/-!
# The text of `GetPolicy` as a JSON document

`IoChannelImpl::GetPolicy` joins the node ids by hand: each id stands between
quotes as it is.  Its text is the plain print of one object, which has a member
for every task node with the array of the ids of its servers.  A JSON reader
takes the text back to these members exactly when no id has a quote, a
backslash or a control character; any other id is refused by the reader or
read as another, shorter text.
-/

namespace ChannelSdk.ChannelConfig

open CheckedMemory FirstEntries JsonText
open Std (ExtTreeMap ExtTreeSet)

/-- A policy as its readers expect it: the server ids of every node. -/
def policyFormat : Format (List (String × List String)) :=
  sequence .curly (member (sequence .square string))

theorem toList_appendEntry
    {text entry : String} (begun : text ≠ "") :
    (appendEntry text entry).toList =
      text.toList ++ ',' :: entry.toList := by
  rw [appendEntry, if_neg begun, String.toList_append, String.toList_append,
    List.append_assoc]
  rfl

theorem appendEntry_ne_empty
    {text entry : String} (nonempty : entry ≠ "") :
    appendEntry text entry ≠ "" := by
  by_cases begun : text = ""
  · rw [appendEntry, if_pos begun]
    exact nonempty
  · intro empty
    have characters := congrArg String.toList empty
    rw [toList_appendEntry begun] at characters
    simp at characters

section Entries

variable {Entry : Type} {entryText : Entry → String} {print : Entry → List Char}

theorem toList_foldl_of_begun
    (nonempty : ∀ entry, entryText entry ≠ "")
    (shown : ∀ entry, (entryText entry).toList = print entry)
    {entries : List Entry} :
    ∀ {text : String}, text ≠ "" →
      (entries.foldl
          (fun text entry => appendEntry text (entryText entry)) text).toList =
        text.toList ++ printTail print entries := by
  induction entries with
  | nil =>
      intro text _
      rw [List.foldl_nil, printTail, List.append_nil]
  | cons entry rest inductionHypothesis =>
      intro text begun
      have extended : appendEntry text (entryText entry) ≠ "" :=
        appendEntry_ne_empty (nonempty entry)
      have onward := inductionHypothesis extended
      rw [List.foldl_cons, onward, toList_appendEntry begun, shown,
        List.append_assoc, printTail, List.cons_append]

/-- The loops of `GetPolicy` put a comma between two entries and nowhere
else. -/
theorem toList_foldl_appendEntry
    (nonempty : ∀ entry, entryText entry ≠ "")
    (shown : ∀ entry, (entryText entry).toList = print entry)
    (entries : List Entry) :
    (entries.foldl
        (fun text entry => appendEntry text (entryText entry)) "").toList =
      printElements print entries := by
  cases entries with
  | nil => rfl
  | cons entry rest =>
      rw [List.foldl_cons, appendEntry, if_pos rfl,
        toList_foldl_of_begun nonempty shown (nonempty entry), shown,
        printElements]

end Entries

theorem toList_quoted (id : String) :
    ("\"" ++ id ++ "\"").toList = string.print id := by
  simp [string, printString]

theorem toList_printServers (serverIds : List String) :
    (printServers serverIds).toList =
      (sequence .square string).print serverIds := by
  have joined :=
    toList_foldl_appendEntry
      (fun id same => by
        have characters := congrArg String.toList same
        rw [toList_quoted] at characters
        cases characters)
      toList_quoted serverIds
  rw [printServers, String.toList_append, String.toList_append, joined]
  rfl

theorem toList_printNode (entry : String × List String) :
    (printNode entry.1 entry.2).toList =
      (member (sequence .square string)).print entry := by
  have servers := toList_printServers entry.2
  change (printServers entry.2).toList = printSequence .square _ _ at servers
  change _ = printMember (printSequence .square printString) entry
  rw [printNode, String.toList_append, servers, printMember, printString]
  simp [string]

/-- The loop over the task nodes prints what the loaded configuration answers
to each of them: the queries leave no trace in later answers. -/
theorem printNodes_eq_ok
    {config : ChannelConfig} {nodeIds : List String} {printed : String} :
    ∀ {self next : ChannelConfig} {text : String},
      SameAnswers config self →
        self.printNodes text nodeIds = (.ok printed, next) →
          ∃ entries : List (String × List String),
            entries.map Prod.fst = nodeIds ∧
            (∀ entry ∈ entries, ∃ topology,
              (config.getNodeInfos {} entry.1).1 = .ok topology ∧
                entry.2 = topology.serverInfos.ids) ∧
            printed = entries.foldl
              (fun text entry =>
                appendEntry text (printNode entry.1 entry.2)) text := by
  induction nodeIds with
  | nil =>
      intro self next text _ outcome
      cases outcome
      refine ⟨[], rfl, ?_, rfl⟩
      intro entry member
      cases member
  | cons nodeId rest inductionHypothesis =>
      intro self next text same outcome
      have stable := stable_getNodeInfos {} nodeId
      have answered := stable.answers config self same
      have left := stable.leaves self
      rw [printNodes] at outcome
      rcases queried : self.getNodeInfos {} nodeId with ⟨_ | topology, after⟩
      · rw [queried] at outcome
        cases outcome
      · rw [queried] at outcome answered left
        rcases inductionHypothesis (same.trans left) outcome with
          ⟨entries, keys, answers, printed⟩
        refine ⟨(nodeId, topology.serverInfos.ids) :: entries, ?_, ?_, ?_⟩
        · rw [List.map_cons, keys]
        · intro entry member
          rcases List.mem_cons.mp member with rfl | member
          · exact ⟨topology, answered, rfl⟩
          · exact answers entry member
        · exact printed

/-- A printed policy is the plain print of its members. -/
theorem getPolicy_eq_ok
    {config : ChannelConfig} {text : String}
    (returned : config.getPolicy.1 = .ok text) :
    ∃ entries : List (String × List String),
      entries.map Prod.fst = config.taskNodes.toList ∧
      (∀ entry ∈ entries, ∃ topology,
        (config.getNodeInfos {} entry.1).1 = .ok topology ∧
          entry.2 = topology.serverInfos.ids) ∧
      text.toList = policyFormat.print entries := by
  rw [getPolicy] at returned
  rcases outcome : config.printNodes "" config.taskNodes.toList with
    ⟨_ | printed, next⟩
  · rw [outcome] at returned
    cases returned
  · rw [outcome] at returned
    cases returned
    rcases printNodes_eq_ok (.refl config) outcome with
      ⟨entries, keys, answers, rfl⟩
    refine ⟨entries, keys, answers, ?_⟩
    have joined :=
      toList_foldl_appendEntry
        (fun entry same => by
          have characters := congrArg String.toList same
          rw [toList_printNode] at characters
          cases characters)
        toList_printNode entries
    rw [String.toList_append, String.toList_append, joined]
    rfl

/-! ## Reading the text back -/

/-- A JSON reader finds one member for every task node, with the ids of its
server set in ascending order. -/
def ReadsBack (config : ChannelConfig) (text : String) : Prop :=
  ∃ members,
    policyFormat.readDocument text.toList = some members ∧
    (members.map Prod.fst).Nodup ∧
    (∀ nodeId, nodeId ∈ members.map Prod.fst ↔ nodeId ∈ config.taskNodes) ∧
    ∀ entry ∈ members, ∃ topology,
      (config.getNodeInfos {} entry.1).1 = .ok topology ∧
        entry.2.Pairwise (fun first second => compare first second = .lt) ∧
        ∀ id, id ∈ entry.2 ↔ (topology.serverInfos.records[id]?).isSome

/-- No task node, and no server that the policy gives it, has an id with a
quote, a backslash or a control character. -/
def PlainIds (config : ChannelConfig) : Prop :=
  ∀ nodeId ∈ config.taskNodes, PlainString nodeId ∧
    ∀ server, config.PolicyEdge nodeId server → PlainString server

theorem ascending_ids (infos : ViaInfoSet) :
    infos.ids.Pairwise fun first second => compare first second = .lt := by
  rw [infos.ids_eq_keys]
  exact ExtTreeMap.ordered_keys

/-- The servers of a task node are other task nodes, or those that the policy
gives it. -/
theorem servers_of_getNodeInfos
    {config : ChannelConfig} (coherent : Coherent config)
    {nodeId : String} {topology : Topology}
    (found : (config.getNodeInfos {} nodeId).1 = .ok topology) :
    (∀ id ∈ topology.serverInfos.ids,
        id ∈ config.taskNodes ∨ config.PolicyEdge nodeId id) ∧
      ∀ id, config.PolicyEdge nodeId id → id ∈ topology.serverInfos.ids := by
  by_cases absent : config.mapPolicy = ∅
  · rcases getNodeInfos_of_no_policy nodeId absent coherent.described with
      ⟨_, next, queried, -, servers⟩
    rw [queried] at found
    cases found
    refine ⟨fun id isServer => .inl ((servers id).mp isServer).1, ?_⟩
    intro id edge
    rcases edge with ⟨serverIds, listed, -⟩
    rw [absent] at listed
    simp at listed
  · by_cases succeeds :
        config.ServersDescribed nodeId ∧ config.Connected nodeId
    · rcases getNodeInfos_of_policy absent succeeds.1 succeeds.2 with
        ⟨_, next, queried, -, servers⟩
      rw [queried] at found
      cases found
      exact ⟨fun id isServer => .inr ((servers id).mp isServer),
        fun id edge => (servers id).mpr edge⟩
    · rcases getNodeInfos_of_policy_error absent succeeds with
        ⟨event, next, queried⟩
      rw [queried] at found
      cases found

theorem plain_policy_iff
    {config : ChannelConfig} (coherent : Coherent config)
    {entries : List (String × List String)}
    (keys : entries.map Prod.fst = config.taskNodes.toList)
    (answers : ∀ entry ∈ entries, ∃ topology,
      (config.getNodeInfos {} entry.1).1 = .ok topology ∧
        entry.2 = topology.serverInfos.ids) :
    policyFormat.Plain entries ↔ config.PlainIds := by
  constructor
  · intro plain nodeId isTask
    rw [← ExtTreeSet.mem_toList, ← keys] at isTask
    rcases List.mem_map.mp isTask with ⟨entry, listed, rfl⟩
    rcases answers entry listed with ⟨topology, found, ids⟩
    have entryPlain :
        PlainString entry.1 ∧ ∀ id ∈ entry.2, PlainString id :=
      plain entry listed
    refine ⟨entryPlain.1, ?_⟩
    intro server edge
    have isServer := (servers_of_getNodeInfos coherent found).2 server edge
    exact entryPlain.2 server (by rw [ids]; exact isServer)
  · intro plain entry listed
    rcases answers entry listed with ⟨topology, found, ids⟩
    have isTask : entry.1 ∈ config.taskNodes := by
      rw [← ExtTreeSet.mem_toList, ← keys]
      exact List.mem_map_of_mem listed
    have entryPlain := plain entry.1 isTask
    refine ⟨entryPlain.1, ?_⟩
    intro server isServer
    rw [ids] at isServer
    rcases (servers_of_getNodeInfos coherent found).1 server isServer with
      other | edge
    · exact (plain server other).1
    · exact entryPlain.2 server edge

/-- Members that are read back are the printed ones, in some order. -/
theorem perm_of_answers
    {config : ChannelConfig} {members entries : List (String × List String)}
    (keys : entries.map Prod.fst = config.taskNodes.toList)
    (answers : ∀ entry ∈ entries, ∃ topology,
      (config.getNodeInfos {} entry.1).1 = .ok topology ∧
        entry.2 = topology.serverInfos.ids)
    (distinct : (members.map Prod.fst).Nodup)
    (isKey :
      ∀ nodeId, nodeId ∈ members.map Prod.fst ↔ nodeId ∈ config.taskNodes)
    (found : ∀ entry ∈ members, ∃ topology,
      (config.getNodeInfos {} entry.1).1 = .ok topology ∧
        entry.2.Pairwise (fun first second => compare first second = .lt) ∧
        ∀ id, id ∈ entry.2 ↔ (topology.serverInfos.records[id]?).isSome) :
    members.Perm entries := by
  have distinctEntries : entries.Nodup := by
    apply List.Nodup.of_map Prod.fst
    rw [keys]
    exact nodup_toList config.taskNodes
  have same :
      ∀ first ∈ members, ∀ second ∈ entries, first.1 = second.1 →
        first = second := by
    intro first isMember second isEntry sameKey
    rcases found first isMember with ⟨topology, queried, ordered, ids⟩
    rcases answers second isEntry with ⟨other, otherQueried, otherIds⟩
    rw [sameKey, otherQueried] at queried
    cases queried
    have sameIds : first.2 = second.2 := by
      rw [otherIds]
      refine eq_of_ascending compare_lt_asymmetric ordered
        (ascending_ids topology.serverInfos) ?_
      intro id
      rw [ids, ViaInfoSet.isSome_record_iff]
    exact Prod.ext sameKey sameIds
  rw [List.perm_ext_iff_of_nodup (List.Nodup.of_map _ distinct)
    distinctEntries]
  intro entry
  constructor
  · intro isMember
    have isTask :=
      (isKey entry.1).mp (List.mem_map_of_mem isMember)
    rw [← ExtTreeSet.mem_toList, ← keys] at isTask
    rcases List.mem_map.mp isTask with ⟨other, isEntry, sameKey⟩
    rw [same entry isMember other isEntry sameKey.symm]
    exact isEntry
  · intro isEntry
    have isTask : entry.1 ∈ config.taskNodes := by
      rw [← ExtTreeSet.mem_toList, ← keys]
      exact List.mem_map_of_mem isEntry
    rcases List.mem_map.mp ((isKey entry.1).mpr isTask) with
      ⟨other, isMember, sameKey⟩
    rw [← same other isMember entry isEntry sameKey]
    exact isMember

theorem readsBack_iff_plainIds
    {config : ChannelConfig} (coherent : Coherent config)
    {text : String} (returned : config.getPolicy.1 = .ok text) :
    config.ReadsBack text ↔ config.PlainIds := by
  rcases getPolicy_eq_ok returned with ⟨entries, keys, answers, printed⟩
  rw [← plain_policy_iff coherent keys answers]
  constructor
  · intro readsBack
    rcases readsBack with ⟨members, read, distinct, isKey, found⟩
    have permuted :=
      perm_of_answers keys answers distinct isKey found
    have sameLength :=
      length_print_sequence_perm .curly (member (sequence .square string))
        permuted
    rw [printed] at read
    have plain :=
      policyFormat.plain_of_readDocument read sameLength
    intro entry isEntry
    exact plain entry (permuted.mem_iff.mpr isEntry)
  · intro plain
    refine ⟨entries, ?_, ?_, ?_, ?_⟩
    · rw [printed]
      exact policyFormat.readDocument_print plain
    · rw [keys]
      exact nodup_toList config.taskNodes
    · intro nodeId
      rw [keys, ExtTreeSet.mem_toList]
    · intro entry isEntry
      rcases answers entry isEntry with ⟨topology, queried, ids⟩
      rw [ids]
      refine ⟨topology, queried, ascending_ids _, ?_⟩
      intro id
      exact ViaInfoSet.isSome_record_iff.symm

/-- For every loaded configuration for which `GetPolicy` returns: its text is a
JSON object that reads back as the server sets of all task nodes exactly when
no id has a character that JSON wants escaped. -/
theorem policy_reads_back_iff
    {process : String} {doc : Json} {config : ChannelConfig}
    (loaded : create process doc = .ok config) {text : String}
    (returned : config.getPolicy.1 = .ok text) :
    config.ReadsBack text ↔ config.PlainIds :=
  readsBack_iff_plainIds (coherent_of_create loaded) returned

theorem policy_reads_back_two :
    ∃ config text, create "A" (dataDocument ["A", "B"]) = .ok config ∧
      config.getPolicy.1 = .ok text ∧ config.ReadsBack text := by
  rcases create_of_observed ["A", "B"]
      (show (create "A" (dataDocument ["A", "B"])).toOption.map
          (fun config =>
            (config.taskNodes.toList, config.mapPolicy.size)) = _ by
        decide +kernel) with ⟨config, loaded, absent, tasks⟩
  have returned :=
    getPolicy_of_no_policy (coherent_of_create loaded) absent
  have plain : config.PlainIds := by
    intro nodeId isTask
    rw [← ExtTreeSet.mem_toList, tasks] at isTask
    refine ⟨?_, ?_⟩
    · revert nodeId
      decide
    · intro server edge
      rcases edge with ⟨serverIds, listed, -⟩
      rw [absent] at listed
      simp at listed
  exact ⟨config, _, loaded, returned,
    (policy_reads_back_iff loaded returned).mpr plain⟩

/-- A quote in a node id, which `parse` accepts, ends the printed id early. -/
theorem quoted_id_does_not_read_back :
    ∃ config text,
      create "A" (dataDocument ["a\"b", "c"]) = .ok config ∧
        config.getPolicy.1 = .ok text ∧ ¬ config.ReadsBack text := by
  rcases create_of_observed ["a\"b", "c"]
      (show (create "A" (dataDocument ["a\"b", "c"])).toOption.map
          (fun config =>
            (config.taskNodes.toList, config.mapPolicy.size)) = _ by
        decide +kernel) with ⟨config, loaded, absent, tasks⟩
  have coherent := coherent_of_create loaded
  have returned := getPolicy_of_no_policy coherent absent
  refine ⟨config, _, loaded, returned, ?_⟩
  intro readsBack
  have plain := (readsBack_iff_plainIds coherent returned).mp readsBack
  have isTask : "a\"b" ∈ config.taskNodes := by
    rw [← ExtTreeSet.mem_toList, tasks]
    decide
  exact absurd (plain "a\"b" isTask).1 (by decide)

end ChannelSdk.ChannelConfig
