import ChannelSdk.IoChannelImpl
import ChannelSdk.Lib.ObjectCache
import ChannelSdk.Lib.TransitionMachine

/-!
# The C views of a channel

`core/src/tcp_channel.cc` hands the ids of a channel out as C structures, which
five global maps keep under the address of the channel.  A map is filled when
its view is first asked for, and `~TcpChannel` clears all five, so that a
channel which is created at the address of a destroyed one finds nothing there.

The structures count their entries with an `int`, and so do the loops that
fill them.  A view shows what its channel has exactly when it has fewer than
`2 ^ 31` entries.  The mutex of each map is held throughout a call, so calls
are executed one at a time.
-/

namespace ChannelSdk

open CheckedMemory CheckedOutcome CircularWindow ObjectCache
open Std (ExtTreeMap ExtTreeSet)

/-! ## C structures -/

/-- A block that ends with a NUL character. -/
def encodeString (str : String) : List Char :=
  overwrite (List.replicate (str.length + 1) '\x00') 0 str.toList

/-- The string that a caller sees in a block. -/
def decodeString (block : List Char) : String :=
  cString (String.ofList block)

/-- Encode the entries in a loop that counts them with an `int`. -/
def encodeEntries {Entry Encoded : Type} (encode : Entry → Encoded) :
    Int → List Entry → Except Fault (List Encoded)
  | _, [] => .ok []
  | i, entry :: rest => do
      let next ← int32 (i + 1)
      let encoded ← encodeEntries encode next rest
      return encode entry :: encoded

structure NodeIDVec where
  nodeCount : Int
  nodeIds : List (List Char)
  deriving DecidableEq, Repr

structure NodeIDPair where
  nodeId : List Char
  partyId : Int
  deriving DecidableEq, Repr

structure NodeIDMap where
  nodeCount : Int
  pairs : List NodeIDPair
  deriving DecidableEq, Repr

def encodeVector (vec : List String) : Except Fault NodeIDVec := do
  let nodeIds ← encodeEntries encodeString 0 vec
  return { nodeCount := toInt32 vec.length, nodeIds := nodeIds }

def encodePair (entry : String × Int) : NodeIDPair :=
  { nodeId := encodeString entry.1, partyId := entry.2 }

def encodeMap (m : ExtTreeMap String Int) : Except Fault NodeIDMap := do
  let pairs ← encodeEntries encodePair 0 m.toList
  return { nodeCount := toInt32 m.toList.length, pairs := pairs }

/-- The ids that a caller finds in the first `node_count` entries. -/
def NodeIDVec.decode (self : NodeIDVec) : List String :=
  (self.nodeIds.take self.nodeCount.toNat).map decodeString

def NodeIDPair.decode (self : NodeIDPair) : String × Int :=
  (decodeString self.nodeId, self.partyId)

def NodeIDMap.decode (self : NodeIDMap) : List (String × Int) :=
  (self.pairs.take self.nodeCount.toNat).map NodeIDPair.decode

theorem encodeString_eq (str : String) :
    encodeString str = str.toList ++ ['\x00'] := by
  have behind :
      (List.replicate (str.length + 1) '\x00').drop str.toList.length =
        ['\x00'] := by
    rw [List.drop_replicate, String.length_toList, Nat.add_sub_cancel_left]
    rfl
  rw [encodeString, overwrite, List.take_zero, List.nil_append, Nat.zero_add,
    behind]

theorem decode_encodeString {str : String} (nulFree : NulFree str) :
    decodeString (encodeString str) = str := by
  have shown :
      (str.toList ++ ['\x00']).takeWhile
          (fun character => decide (character ≠ '\x00')) = str.toList := by
    rw [List.takeWhile_append_of_pos]
    · simp
    · intro character member
      apply decide_eq_true
      intro same
      rw [same] at member
      exact nulFree member
  rw [decodeString, cString, String.toList_ofList, encodeString_eq, shown,
    String.ofList_toList]

section Entries

variable {Entry Encoded : Type} {encode : Entry → Encoded}

/-- The loop completes exactly when its count fits. -/
theorem encodeEntries_ok
    {entries : List Entry} :
    ∀ {i : Int}, 0 ≤ i → i + entries.length ≤ 2147483647 →
      encodeEntries encode i entries = .ok (entries.map encode) := by
  induction entries with
  | nil =>
      intro i _ _
      rfl
  | cons entry rest inductionHypothesis =>
      intro i nonneg fits
      rw [List.length_cons] at fits
      have later : encodeEntries encode (i + 1) rest = _ :=
        inductionHypothesis (by omega) (by omega)
      rw [encodeEntries, int32_ok (by omega) (by omega), ok_bind, later]
      rfl

theorem encodeEntries_eq_ok
    {entries : List Entry} :
    ∀ {i : Int} {encoded : List Encoded}, i ≤ 2147483647 →
      encodeEntries encode i entries = .ok encoded →
        i + entries.length ≤ 2147483647 := by
  induction entries with
  | nil =>
      intro i encoded bound _
      rw [List.length_nil]
      omega
  | cons entry rest inductionHypothesis =>
      intro i encoded _ completed
      rcases bind_eq_ok completed with ⟨next, counted, completed⟩
      rcases bind_eq_ok completed with ⟨others, encodedRest, -⟩
      rcases int32_eq_ok counted with ⟨fits, rfl⟩
      have later := inductionHypothesis fits.2 encodedRest
      rw [List.length_cons]
      omega

theorem completes_encodeEntries_iff (entries : List Entry) :
    Completes (encodeEntries encode 0 entries) ↔
      entries.length ≤ 2147483647 := by
  constructor
  · intro completes
    rcases completes with ⟨encoded, completed⟩
    have fits := encodeEntries_eq_ok (by omega) completed
    omega
  · intro fits
    exact ⟨_, encodeEntries_ok (by omega) (by omega)⟩

theorem map_decode_take
    {decode : Encoded → Entry} {entries : List Entry}
    (inverse : ∀ entry ∈ entries, decode (encode entry) = entry)
    (fits : entries.length ≤ 2147483647) :
    ((entries.map encode).take
        (toInt32 entries.length).toNat).map decode = entries := by
  have counted : (toInt32 entries.length).toNat = entries.length := by
    rw [toInt32_of_fits ⟨by omega, by omega⟩, Int.toNat_natCast]
  rw [counted, List.take_of_length_le (Nat.le_of_eq (List.length_map _)),
    List.map_map]
  calc
    entries.map (decode ∘ encode) = entries.map id :=
      List.map_congr_left inverse
    _ = entries := List.map_id entries

end Entries

theorem completes_encodeVector_iff (vec : List String) :
    Completes (encodeVector vec) ↔ vec.length ≤ 2147483647 := by
  rw [encodeVector, completes_bind_pure_iff]
  exact completes_encodeEntries_iff vec

theorem decode_encodeVector
    {vec : List String} {view : NodeIDVec}
    (encoded : encodeVector vec = .ok view)
    (nulFree : ∀ id ∈ vec, NulFree id) : view.decode = vec := by
  have fits := (completes_encodeVector_iff vec).mp ⟨view, encoded⟩
  rw [encodeVector, encodeEntries_ok (by omega) (by omega), ok_bind]
    at encoded
  rw [← Except.ok.inj encoded]
  exact map_decode_take
    (fun id member => decode_encodeString (nulFree id member)) fits

theorem completes_encodeMap_iff (m : ExtTreeMap String Int) :
    Completes (encodeMap m) ↔ m.toList.length ≤ 2147483647 := by
  rw [encodeMap, completes_bind_pure_iff]
  exact completes_encodeEntries_iff m.toList

theorem decode_encodeMap
    {m : ExtTreeMap String Int} {view : NodeIDMap}
    (encoded : encodeMap m = .ok view)
    (nulFree : ∀ entry ∈ m.toList, NulFree entry.1) :
    view.decode = m.toList := by
  have fits := (completes_encodeMap_iff m).mp ⟨view, encoded⟩
  rw [encodeMap, encodeEntries_ok (by omega) (by omega), ok_bind] at encoded
  rw [← Except.ok.inj encoded]
  refine map_decode_take ?_ fits
  intro entry member
  rw [NodeIDPair.decode, encodePair,
    decode_encodeString (nulFree entry member)]

/-! ## The global maps -/

/-- The live channels and the five global maps, by address. -/
structure ChannelState (Address : Type) where
  channels : Table Address TcpChannel
  currentNodeMap : Table Address (List Char)
  dataNodeMap : Table Address NodeIDVec
  computationNodeMap : Table Address NodeIDMap
  resultNodeMap : Table Address NodeIDVec
  connectedNodeMap : Table Address NodeIDVec

/-- The channel that `CreateViaChannel` makes over a network IO which has been
initialised. -/
def createViaChannel
    (nodeInfo : NodeInfo) (config : ChannelConfig) (netIo : ViaNetIo)
    (clientNodeIds : ExtTreeSet String) : TcpChannel where
  netIo := some netIo
  channelConfig := config
  selfNodeInfo := nodeInfo
  connectedNodes := clientNodeIds.toList

namespace TcpChannel

/-- The encoded ids of a channel, as the maps keep them. -/
def currentNodeView (self : TcpChannel) : Except Fault (List Char) :=
  .ok (encodeString self.selfNodeInfo.id)

def dataNodesView (self : TcpChannel) : Except Fault NodeIDVec :=
  encodeVector self.channelConfig.dataNodes

def computationNodesView (self : TcpChannel) : Except Fault NodeIDMap :=
  encodeMap self.channelConfig.computeNodes

def resultNodesView (self : TcpChannel) : Except Fault NodeIDVec :=
  encodeVector self.channelConfig.resultNodes

def connectedNodesView (self : TcpChannel) : Except Fault NodeIDVec :=
  encodeVector self.connectedNodes

section Calls

variable {Address : Type} [DecidableEq Address]

def getDataNodeIDs
    (self : TcpChannel) (this : Address) (state : ChannelState Address) :
    Except Fault (NodeIDVec × ChannelState Address) := do
  let (nodes, map) ← find dataNodesView state.dataNodeMap this self
  return (nodes, { state with dataNodeMap := map })

def getComputationNodeIDs
    (self : TcpChannel) (this : Address) (state : ChannelState Address) :
    Except Fault (NodeIDMap × ChannelState Address) := do
  let (nodes, map) ←
    find computationNodesView state.computationNodeMap this self
  return (nodes, { state with computationNodeMap := map })

def getResultNodeIDs
    (self : TcpChannel) (this : Address) (state : ChannelState Address) :
    Except Fault (NodeIDVec × ChannelState Address) := do
  let (nodes, map) ← find resultNodesView state.resultNodeMap this self
  return (nodes, { state with resultNodeMap := map })

def getCurrentNodeID
    (self : TcpChannel) (this : Address) (state : ChannelState Address) :
    Except Fault (List Char × ChannelState Address) := do
  let (nodes, map) ← find currentNodeView state.currentNodeMap this self
  return (nodes, { state with currentNodeMap := map })

def getConnectedNodeIDs
    (self : TcpChannel) (this : Address) (state : ChannelState Address) :
    Except Fault (NodeIDVec × ChannelState Address) := do
  let (nodes, map) ← find connectedNodesView state.connectedNodeMap this self
  return (nodes, { state with connectedNodeMap := map })

def destroyCurrentNode (this : Address) (state : ChannelState Address) :
    ChannelState Address :=
  { state with currentNodeMap := erase state.currentNodeMap this }

def destroyDataNodes (this : Address) (state : ChannelState Address) :
    ChannelState Address :=
  { state with dataNodeMap := erase state.dataNodeMap this }

def destroyComputationNodes (this : Address) (state : ChannelState Address) :
    ChannelState Address :=
  { state with computationNodeMap := erase state.computationNodeMap this }

def destroyResultNodes (this : Address) (state : ChannelState Address) :
    ChannelState Address :=
  { state with resultNodeMap := erase state.resultNodeMap this }

def destroyConnectedNodes (this : Address) (state : ChannelState Address) :
    ChannelState Address :=
  { state with connectedNodeMap := erase state.connectedNodeMap this }

/-- `~TcpChannel`, and the end of the channel. -/
def destroy (this : Address) (state : ChannelState Address) :
    ChannelState Address :=
  let cleared :=
    destroyConnectedNodes this (destroyResultNodes this
      (destroyComputationNodes this (destroyDataNodes this
        (destroyCurrentNode this state))))
  { cleared with channels := erase state.channels this }

end Calls

end TcpChannel

/-! ## What a channel shows -/

/-- The five views. -/
inductive ChannelView where
  | currentNode
  | dataNodes
  | computationNodes
  | resultNodes
  | connectedNodes
  deriving DecidableEq, Repr

/-- A structure that a call returns. -/
inductive Returned where
  | id (block : List Char)
  | ids (vec : NodeIDVec)
  | parties (map : NodeIDMap)
  deriving DecidableEq, Repr

/-- What a structure stands for. -/
inductive Shown where
  | id (name : String)
  | ids (names : List String)
  | parties (entries : List (String × Int))
  deriving DecidableEq, Repr

def Returned.decode : Returned → Shown
  | .id block => .id (decodeString block)
  | .ids vec => .ids vec.decode
  | .parties map => .parties map.decode

/-- What a channel has of its own. -/
def TcpChannel.own (self : TcpChannel) : ChannelView → Shown
  | .currentNode => .id self.selfNodeInfo.id
  | .dataNodes => .ids self.channelConfig.dataNodes
  | .computationNodes => .parties self.channelConfig.computeNodes.toList
  | .resultNodes => .ids self.channelConfig.resultNodes
  | .connectedNodes => .ids self.connectedNodes

/-- The ids in a list, a map or alone. -/
def Shown.names : Shown → List String
  | .id name => [name]
  | .ids names => names
  | .parties entries => entries.map Prod.fst

namespace ChannelState

variable {Address : Type} [DecidableEq Address]

/-- Ask the channel that lives at an address for a view. -/
def get (self : ChannelState Address) (this : Address)
    (channel : TcpChannel) :
    ChannelView → Except Fault (Returned × ChannelState Address)
  | .currentNode => do
      let (nodes, next) ← channel.getCurrentNodeID this self
      return (.id nodes, next)
  | .dataNodes => do
      let (nodes, next) ← channel.getDataNodeIDs this self
      return (.ids nodes, next)
  | .computationNodes => do
      let (nodes, next) ← channel.getComputationNodeIDs this self
      return (.parties nodes, next)
  | .resultNodes => do
      let (nodes, next) ← channel.getResultNodeIDs this self
      return (.ids nodes, next)
  | .connectedNodes => do
      let (nodes, next) ← channel.getConnectedNodeIDs this self
      return (.ids nodes, next)

/-- Every map holds views of the live channels only, and their own ones. -/
structure Fresh (state : ChannelState Address) : Prop where
  currentNode :
    ObjectCache.Fresh TcpChannel.currentNodeView state.channels
      state.currentNodeMap
  dataNodes :
    ObjectCache.Fresh TcpChannel.dataNodesView state.channels
      state.dataNodeMap
  computationNodes :
    ObjectCache.Fresh TcpChannel.computationNodesView state.channels
      state.computationNodeMap
  resultNodes :
    ObjectCache.Fresh TcpChannel.resultNodesView state.channels
      state.resultNodeMap
  connectedNodes :
    ObjectCache.Fresh TcpChannel.connectedNodesView state.channels
      state.connectedNodeMap

/-- Every key of a global map is the address of a live channel. -/
def KeysLive (self : ChannelState Address) : Prop :=
  ∀ this : Address,
    ((self.currentNodeMap this).isSome ∨ (self.dataNodeMap this).isSome ∨
      (self.computationNodeMap this).isSome ∨
      (self.resultNodeMap this).isSome ∨
      (self.connectedNodeMap this).isSome) →
        (self.channels this).isSome

variable {state : ChannelState Address}

omit [DecidableEq Address] in
theorem Fresh.keysLive (fresh : state.Fresh) : state.KeysLive := by
  intro this cached
  rcases cached with cached | cached | cached | cached | cached
  · exact fresh.currentNode.isSome_live cached
  · exact fresh.dataNodes.isSome_live cached
  · exact fresh.computationNodes.isSome_live cached
  · exact fresh.resultNodes.isSome_live cached
  · exact fresh.connectedNodes.isSome_live cached

/-- A channel that is created at a free address finds no views of the one
that had it before. -/
theorem Fresh.create
    (fresh : state.Fresh) {this : Address}
    (free : state.channels this = none) (channel : TcpChannel) :
    { state with channels := insert state.channels this channel :
      ChannelState Address }.Fresh where
  currentNode := fresh.currentNode.create free channel
  dataNodes := fresh.dataNodes.create free channel
  computationNodes := fresh.computationNodes.create free channel
  resultNodes := fresh.resultNodes.create free channel
  connectedNodes := fresh.connectedNodes.create free channel

theorem Fresh.destroy
    (fresh : state.Fresh) (this : Address) :
    (TcpChannel.destroy this state).Fresh where
  currentNode := fresh.currentNode.destroy this
  dataNodes := fresh.dataNodes.destroy this
  computationNodes := fresh.computationNodes.destroy this
  resultNodes := fresh.resultNodes.destroy this
  connectedNodes := fresh.connectedNodes.destroy this

variable {this : Address} {channel : TcpChannel}

/-- A view that is returned is that of the channel which is asked, and its map
stays fresh. -/
theorem Fresh.get
    (fresh : state.Fresh) (isLive : state.channels this = some channel)
    {view : ChannelView} {returned : Returned} {next : ChannelState Address}
    (got : state.get this channel view = .ok (returned, next)) :
    next.Fresh ∧
      ((∀ name ∈ (channel.own view).names, NulFree name) →
        returned.decode = channel.own view) := by
  cases view with
  | currentNode =>
      rcases bind_eq_ok got with ⟨⟨nodes, after⟩, asked, same⟩
      rcases bind_eq_ok asked with ⟨⟨shown, map⟩, found, kept⟩
      cases kept
      cases same
      rcases fresh.currentNode.find_eq_ok isLive found with
        ⟨viewed, mapFresh⟩
      refine ⟨{ fresh with currentNode := mapFresh }, ?_⟩
      intro nulFree
      rw [← Except.ok.inj viewed]
      exact congrArg Shown.id
        (decode_encodeString (nulFree _ (List.mem_singleton_self _)))
  | dataNodes =>
      rcases bind_eq_ok got with ⟨⟨nodes, after⟩, asked, same⟩
      rcases bind_eq_ok asked with ⟨⟨shown, map⟩, found, kept⟩
      cases kept
      cases same
      rcases fresh.dataNodes.find_eq_ok isLive found with ⟨viewed, mapFresh⟩
      refine ⟨{ fresh with dataNodes := mapFresh }, ?_⟩
      intro nulFree
      exact congrArg Shown.ids (decode_encodeVector viewed nulFree)
  | computationNodes =>
      rcases bind_eq_ok got with ⟨⟨nodes, after⟩, asked, same⟩
      rcases bind_eq_ok asked with ⟨⟨shown, map⟩, found, kept⟩
      cases kept
      cases same
      rcases fresh.computationNodes.find_eq_ok isLive found with
        ⟨viewed, mapFresh⟩
      refine ⟨{ fresh with computationNodes := mapFresh }, ?_⟩
      intro nulFree
      exact congrArg Shown.parties (decode_encodeMap viewed
        fun entry member => nulFree entry.1 (List.mem_map_of_mem member))
  | resultNodes =>
      rcases bind_eq_ok got with ⟨⟨nodes, after⟩, asked, same⟩
      rcases bind_eq_ok asked with ⟨⟨shown, map⟩, found, kept⟩
      cases kept
      cases same
      rcases fresh.resultNodes.find_eq_ok isLive found with
        ⟨viewed, mapFresh⟩
      refine ⟨{ fresh with resultNodes := mapFresh }, ?_⟩
      intro nulFree
      exact congrArg Shown.ids (decode_encodeVector viewed nulFree)
  | connectedNodes =>
      rcases bind_eq_ok got with ⟨⟨nodes, after⟩, asked, same⟩
      rcases bind_eq_ok asked with ⟨⟨shown, map⟩, found, kept⟩
      cases kept
      cases same
      rcases fresh.connectedNodes.find_eq_ok isLive found with
        ⟨viewed, mapFresh⟩
      refine ⟨{ fresh with connectedNodes := mapFresh }, ?_⟩
      intro nulFree
      exact congrArg Shown.ids (decode_encodeVector viewed nulFree)

/-- A view is returned when its entries can be counted. -/
theorem Fresh.completes_get_iff
    (fresh : state.Fresh) (isLive : state.channels this = some channel)
    (view : ChannelView) :
    Completes (state.get this channel view) ↔
      (channel.own view).names.length ≤ 2147483647 := by
  cases view with
  | currentNode =>
      have fits : (channel.own .currentNode).names.length ≤ 2147483647 := by
        change 1 ≤ 2147483647
        decide
      apply iff_of_true _ fits
      rw [ChannelState.get, completes_bind_pure_iff,
        TcpChannel.getCurrentNodeID, completes_bind_pure_iff,
        fresh.currentNode.completes_find_iff isLive]
      exact completes_ok _
  | dataNodes =>
      rw [ChannelState.get, completes_bind_pure_iff,
        TcpChannel.getDataNodeIDs, completes_bind_pure_iff,
        fresh.dataNodes.completes_find_iff isLive]
      exact completes_encodeVector_iff _
  | computationNodes =>
      rw [ChannelState.get, completes_bind_pure_iff,
        TcpChannel.getComputationNodeIDs, completes_bind_pure_iff,
        fresh.computationNodes.completes_find_iff isLive, TcpChannel.own,
        Shown.names, List.length_map]
      exact completes_encodeMap_iff _
  | resultNodes =>
      rw [ChannelState.get, completes_bind_pure_iff,
        TcpChannel.getResultNodeIDs, completes_bind_pure_iff,
        fresh.resultNodes.completes_find_iff isLive]
      exact completes_encodeVector_iff _
  | connectedNodes =>
      rw [ChannelState.get, completes_bind_pure_iff,
        TcpChannel.getConnectedNodeIDs, completes_bind_pure_iff,
        fresh.connectedNodes.completes_find_iff isLive]
      exact completes_encodeVector_iff _

end ChannelState

end ChannelSdk
