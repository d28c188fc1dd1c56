import ChannelSdk.InitPing

/-!
# What a node can rely on once its `init` has returned

Both ways of initialising give the same guarantees to the threads of a node
that has returned: each of its servers runs and has it registered, and the
queues hold nothing but the flags of synchronisation.  A flag that a node
still waits for is in its queue as soon as its sender has returned.
-/

namespace ChannelSdk.InitBarrier

open CheckedMemory
open Std (ExtTreeMap ExtTreeSet)

/-- The guarantees of an initialisation. -/
structure Settled (nodes : Finset String) (topology : String → Topology)
    (state : State) : Prop extends Prepared nodes topology state where
  serves :
    ∀ node ∈ nodes, state.phase node = .returned →
      ∀ server ∈ (topology node).serverInfos.ids,
        state.serverStarted server = true ∧
          (state.clientConnMap server node).isSome
  quiet :
    ∀ node id msgid, msgid ≠ syncMsgid →
      (state.clientConnMap node).queued id msgid = []
  calm :
    ∀ node ∈ nodes, state.phase node = .returned →
      ∀ id, (state.clientConnMap node).queued id syncMsgid = []
  awaited :
    ∀ node ∈ nodes, ∀ id rest waiting,
      state.phase node = .receiving (id :: rest) waiting →
        state.phase id = .returned →
          (state.clientConnMap node).queued id syncMsgid ≠ []

section Laws

variable {nodes : Finset String} {topology : String → Topology}
variable {state : State}

theorem Pinged.settled
    (matched : Matched nodes topology)
    (pinged : Pinged nodes topology state) :
    Settled nodes topology state where
  toPrepared := pinged.toPrepared
  serves := by
    intro node isNode hasReturned server isServer
    refine pinged.serves matched isNode isServer ?_
    rw [hasReturned]
    exact isServer
  quiet := fun node id msgid _ => pinged.silent node id msgid
  calm := fun node _ _ id => pinged.silent node id syncMsgid
  awaited := by
    intro node _ id rest waiting receiving
    exact absurd receiving (pinged.unflagged node (id :: rest) waiting)

/-- Only flags are queued during a synchronised initialisation. -/
def OnlyFlags (state : State) : Prop :=
  ∀ node id msgid, msgid ≠ syncMsgid →
    (state.clientConnMap node).queued id msgid = []

namespace OnlyFlags

theorem update
    (only : OnlyFlags state) {node : String} {connections : MapClientConn}
    (empty :
      ∀ id msgid, msgid ≠ syncMsgid → connections.queued id msgid = [])
    (other id msgid : String) (different : msgid ≠ syncMsgid) :
    MapClientConn.queued
      (Function.update state.clientConnMap node connections other) id
        msgid = [] := by
  by_cases same : other = node
  · subst same
    rw [Function.update_self]
    exact empty id msgid different
  · rw [Function.update_of_ne same]
    exact only other id msgid different

theorem register (only : OnlyFlags state) (node : String)
    (sets : Topology) : OnlyFlags (state.register node sets) := by
  refine only.update ?_
  intro id msgid _
  by_cases isClient : id ∈ sets.clientNodeIds <;>
    simp [MapClientConn.queued, isClient]

theorem dispatchFlag (only : OnlyFlags state) (node remote : String)
    (rest : List String) :
    OnlyFlags (state.dispatchFlag node remote rest) := by
  refine only.update ?_
  intro id msgid different
  rw [queued_afterSend, if_neg (fun sent => different sent.2.2.symm)]
  exact only remote id msgid different

theorem recvFlag (only : OnlyFlags state) {node remote : String}
    {rest : List String} {connection : ClientConnection}
    (found : state.clientConnMap node remote = some connection) :
    OnlyFlags (state.recvFlag node remote rest connection) := by
  unfold State.recvFlag
  split
  · next received remaining passed =>
      obtain ⟨_, _, -, -, -, others⟩ :=
        ClientConnection.recvPass_eq_some passed
      refine only.update ?_
      intro id msgid different
      have before := only node id msgid different
      by_cases same : id = remote
      · subst same
        rw [MapClientConn.queued_of_known found] at before
        rw [MapClientConn.queued_of_known (Function.update_self ..),
          others msgid different, before]
      · simpa [MapClientConn.queued, same] using before
  · exact only

theorem next
    {target : State} {label : Label} (only : OnlyFlags state)
    (stepped : (machine nodes topology).next state label = some target) :
    OnlyFlags target := by
  obtain ⟨node, action⟩ := label
  simp only [machine] at stepped
  split at stepped
  case isFalse =>
    cases stepped
  case isTrue =>
    cases action with
    | register =>
        simp only [State.act] at stepped
        split at stepped <;> cases stepped
        exact only.register node (topology node)
    | attempt =>
        simp only [State.act] at stepped
        split at stepped
        · next remote rest sending =>
            split at stepped <;> cases stepped
            · exact only.dispatchFlag node remote rest
            · exact only
        · cases stepped
    | recvPass =>
        simp only [State.act] at stepped
        split at stepped
        · split at stepped <;> cases stepped
          next found => exact only.recvFlag found
        · cases stepped
    | beginSend order | beginRecv order =>
        simp only [State.act] at stepped
        split at stepped
        · split at stepped <;> cases stepped
          exact only
        · cases stepped
    | buildClient | reply | wake | finish =>
        simp only [State.act] at stepped
        split at stepped <;> cases stepped
        exact only

theorem of_reachable
    (reachable : (machine nodes topology).Reachable state) :
    OnlyFlags state := by
  refine reachable.invariant ?_ ?_
  · intro begun isInitial node id msgid _
    simp [MapClientConn.queued, isInitial.2.1]
  · intro source label target only stepped
    exact only.next stepped

end OnlyFlags

/-- A server that has the flag of a node runs and has the node
registered. -/
theorem Synced.serves
    (matched : Matched nodes topology)
    (synced : Synced nodes topology state) {node server : String}
    (isNode : node ∈ nodes)
    (isServer : server ∈ (topology node).serverInfos.ids)
    (sent : (state.phase node).SentTo (topology node) server) :
    state.serverStarted server = true ∧
      (state.clientConnMap server node).isSome := by
  have isServerNode := matched.closed node isNode server (.inr isServer)
  have isClient := (matched.dual node isNode server isServerNode).mp isServer
  have isRegistered : state.phase server ≠ .registering := by
    intro early
    have notPending :=
      synced.not_pending_of_registering isNode isServerNode early
    refine notPending ⟨sent, ?_⟩
    rw [early]
    exact not_false
  exact ⟨(synced.started server isServerNode).mpr
      ⟨isRegistered, node, isClient⟩,
    (synced.registered server isServerNode node).mpr
      ⟨isRegistered, isClient⟩⟩

/-- A flag that a node waits for has arrived once its sender has
returned. -/
theorem Synced.awaited
    (matched : Matched nodes topology)
    (synced : Synced nodes topology state) {node id : String}
    {rest : List String} {waiting : Bool} (isNode : node ∈ nodes)
    (receiving : state.phase node = .receiving (id :: rest) waiting)
    (hasReturned : state.phase id = .returned) :
    (state.clientConnMap node).queued id syncMsgid = [syncFlag] := by
  have fits := synced.fits node isNode
  rw [receiving] at fits
  have isClient := fits.2.2 id (List.mem_cons_self ..)
  have isIdNode := matched.closed node isNode id (.inl isClient)
  have isServer := (matched.dual id isIdNode node isNode).mpr isClient
  refine synced.queued id isIdNode node isNode ⟨?_, ?_⟩
  · rw [hasReturned]
    exact isServer
  · rw [receiving]
    exact fun isTaken => isTaken.2 (List.mem_cons_self ..)

theorem Synced.settled
    (matched : Matched nodes topology)
    (synced : Synced nodes topology state) (only : OnlyFlags state) :
    Settled nodes topology state where
  toPrepared := synced.prepared_state
  serves := by
    intro node isNode hasReturned server isServer
    refine synced.serves matched isNode isServer ?_
    rw [hasReturned]
    exact isServer
  quiet := only
  calm := by
    intro node isNode hasReturned id
    by_cases isClient : id ∈ (topology node).clientNodeIds
    · have isIdNode := matched.closed node isNode id (.inl isClient)
      refine synced.unqueued id isIdNode node isNode ?_
      intro pending
      have untaken := pending.2
      rw [hasReturned] at untaken
      exact untaken isClient
    · exact synced.queued_of_not_client isNode isClient
  awaited := by
    intro node isNode id rest waiting receiving hasReturned
    rw [synced.awaited matched isNode receiving hasReturned]
    exact List.cons_ne_nil _ _

/-- Either way of initialising gives the guarantees in every state. -/
theorem settled_of_reachable
    {connSync : Bool} (matched : Matched nodes topology)
    (reachable : (initMachine connSync nodes topology).Reachable state) :
    Settled nodes topology state := by
  cases connSync with
  | false =>
      rw [initMachine_false] at reachable
      exact (Pinged.of_reachable reachable).settled matched
  | true =>
      rw [initMachine_true] at reachable
      exact (synced_of_reachable matched reachable).settled matched
        (OnlyFlags.of_reachable reachable)

/-- Either way of initialising can be completed from every state. -/
theorem completes_of_reachable
    {connSync : Bool} (matched : Matched nodes topology)
    (reachable : (initMachine connSync nodes topology).Reachable state) :
    ∃ labels final,
      (initMachine connSync nodes topology).run state labels = some final ∧
        ∀ node ∈ nodes, final.phase node = .returned := by
  refine reachable.completes (work nodes topology) ?_
  intro current currentReachable notAll
  push Not at notAll
  obtain ⟨node, isNode, unfinished⟩ := notAll
  cases connSync with
  | false =>
      rw [initMachine_false] at *
      exact (Pinged.of_reachable currentReachable).moves matched isNode
        unfinished
  | true =>
      rw [initMachine_true] at *
      exact (synced_of_reachable matched currentReachable).moves matched
        isNode unfinished

end Laws

end ChannelSdk.InitBarrier
