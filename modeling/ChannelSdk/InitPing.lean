import ChannelSdk.InitBarrierRuns

/-!
# Initialisation without synchronised connections

`ViaNetIO::init` of `core/src/net_io.cc` without `CONNECT_SYNC`, run by the
nodes of a deployment at the same time.  The nodes register their clients,
start their servers and make their client objects as they do with it; instead
of exchanging flags, a node then calls `CheckConnStatus` of
`core/src/base_client.cc` on each of its client objects, in the arbitrary
order of the hash map.

`CheckConnStatus` repeats a ping until an invocation returns.  The network has
no failures and no timeout fires, as in the synchronised case: a ping to a
node without a started server throws, a ping to a started one is dispatched
once and answered.
-/

namespace ChannelSdk.InitBarrier

open Std (ExtTreeMap ExtTreeSet)

/-- The map of connections after a dispatched `ping`. -/
def afterPing (clientConnMap : MapClientConn) : MapClientConn :=
  match iceInvoke clientConnMap "ping" none with
  | .ok (_, updated) => updated
  | .error _ => clientConnMap

@[simp]
theorem afterPing_eq (clientConnMap : MapClientConn) :
    afterPing clientConnMap = clientConnMap := rfl

namespace State

/-- A started server dispatches the ping of a node. -/
def dispatchPing (state : State) (node remote : String)
    (rest : List String) : State :=
  { state.setPhase node (.sending (remote :: rest) true) with
    clientConnMap :=
      Function.update state.clientConnMap remote
        (afterPing (state.clientConnMap remote)) }

theorem dispatchPing_eq
    (state : State) (node remote : String) (rest : List String) :
    state.dispatchPing node remote rest =
      state.setPhase node (.sending (remote :: rest) true) := by
  rw [dispatchPing, afterPing_eq, Function.update_eq_self]
  rfl

/-- The actions of one node.  The loop over the client objects is that of the
flags, with a ping in place of a flag; there is no loop over the clients. -/
def actPing (topology : Topology) (state : State) (node : String) :
    Action → Option State
  | .attempt =>
      match state.phase node with
      | .sending (remote :: rest) false =>
          if state.serverStarted remote then
            some (state.dispatchPing node remote rest)
          else some state
      | _ => none
  | .finish =>
      match state.phase node with
      | .sending [] false => some (state.setPhase node .returned)
      | _ => none
  | .register => state.act topology node .register
  | .buildClient => state.act topology node .buildClient
  | .beginSend order => state.act topology node (.beginSend order)
  | .reply => state.act topology node .reply
  | .beginRecv _ | .recvPass | .wake => none

end State

/-- A finite set of nodes that run `init` without synchronisation. -/
def pingMachine (nodes : Finset String) (topology : String → Topology) :
    TransitionMachine State Label where
  initial := (machine nodes topology).initial
  next := fun state label =>
    if label.node ∈ nodes then
      state.actPing (topology label.node) label.node label.action
    else none

/-- `init` as the configuration asks for it. -/
def initMachine (connSync : Bool) (nodes : Finset String)
    (topology : String → Topology) : TransitionMachine State Label :=
  if connSync then machine nodes topology else pingMachine nodes topology

theorem initMachine_true
    (nodes : Finset String) (topology : String → Topology) :
    initMachine true nodes topology = machine nodes topology := rfl

theorem initMachine_false
    (nodes : Finset String) (topology : String → Topology) :
    initMachine false nodes topology = pingMachine nodes topology := rfl

/-- What both ways of initialising keep: the lists of a phase fit the node's
topology, a server runs from the registration on if the node has a client,
and the clients are registered from then on. -/
structure Prepared (nodes : Finset String) (topology : String → Topology)
    (state : State) : Prop where
  fits :
    ∀ node ∈ nodes,
      (state.phase node).Fits (topology node) (state.clientObjects node)
  started :
    ∀ node ∈ nodes,
      (state.serverStarted node = true ↔
        state.phase node ≠ .registering ∧
          ∃ id, id ∈ (topology node).clientNodeIds)
  registered :
    ∀ node ∈ nodes, ∀ id,
      ((state.clientConnMap node id).isSome ↔
        state.phase node ≠ .registering ∧
          id ∈ (topology node).clientNodeIds)

/-- No node waits for flags, no server has a message, and every server that a
node has pinged is started. -/
structure Pinged (nodes : Finset String) (topology : String → Topology)
    (state : State) : Prop extends Prepared nodes topology state where
  unflagged :
    ∀ node remaining waiting,
      state.phase node ≠ .receiving remaining waiting
  silent :
    ∀ node id msgid, (state.clientConnMap node).queued id msgid = []
  reached :
    ∀ node ∈ nodes, ∀ server,
      (state.phase node).SentTo (topology node) server →
        state.serverStarted server = true

theorem Synced.prepared_state
    {nodes : Finset String} {topology : String → Topology} {state : State}
    (synced : Synced nodes topology state) :
    Prepared nodes topology state :=
  ⟨synced.fits, synced.started, synced.registered⟩

section Invariant

variable {nodes : Finset String} {topology : String → Topology}
variable {state : State}

theorem size_pos_iff_exists (ids : ExtTreeSet String) :
    ids.size > 0 ↔ ∃ id, id ∈ ids := by
  rw [gt_iff_lt, Nat.pos_iff_ne_zero, ne_eq,
    ← ExtTreeSet.eq_empty_iff_size_eq_zero,
    ExtTreeSet.eq_empty_iff_forall_not_mem, not_forall]
  simp only [not_not]

namespace Prepared

theorem initial (isInitial : (machine nodes topology).initial state) :
    Prepared nodes topology state :=
  (Synced.initial isInitial).prepared_state

/-- A registered node may change its phase and its client objects. -/
theorem move
    (prepared : Prepared nodes topology state) {node : String}
    {phase : Phase} {objects : List String}
    (wasRegistered : state.phase node ≠ .registering)
    (isRegistered : phase ≠ .registering)
    (fits : phase.Fits (topology node) objects) :
    Prepared nodes topology
      { state.setPhase node phase with
        clientObjects :=
          Function.update state.clientObjects node objects } := by
  have registered := registered_setPhase wasRegistered isRegistered
  constructor
  · intro other isOther
    by_cases same : other = node
    · subst same
      simpa [State.setPhase] using fits
    · simpa [State.setPhase, same] using prepared.fits other isOther
  · intro other isOther
    rw [registered]
    exact prepared.started other isOther
  · intro other isOther id
    rw [registered]
    exact prepared.registered other isOther id

theorem setPhase
    (prepared : Prepared nodes topology state) {node : String}
    {phase : Phase}
    (wasRegistered : state.phase node ≠ .registering)
    (isRegistered : phase ≠ .registering)
    (fits : phase.Fits (topology node) (state.clientObjects node)) :
    Prepared nodes topology (state.setPhase node phase) := by
  have moved := prepared.move wasRegistered isRegistered fits
  rwa [Function.update_eq_self] at moved

theorem register
    (prepared : Prepared nodes topology state) {node : String}
    (isNode : node ∈ nodes) (early : state.phase node = .registering) :
    Prepared nodes topology (state.register node (topology node)) := by
  constructor
  · intro other isOther
    by_cases same : other = node
    · subst same
      have noObjects := prepared.fits other isNode
      rw [early] at noObjects
      have empty : state.clientObjects other = [] := noObjects
      simp [State.register, State.setPhase, Phase.Fits, empty]
    · simpa [State.register, State.setPhase, same] using
        prepared.fits other isOther
  · intro other isOther
    by_cases same : other = node
    · subst same
      simp [State.register, State.setPhase, ← size_pos_iff_exists]
    · simpa [State.register, State.setPhase, same] using
        prepared.started other isOther
  · intro other isOther id
    by_cases same : other = node
    · subst same
      by_cases isClient : id ∈ (topology other).clientNodeIds <;>
        simp [State.register, State.setPhase, isClient]
    · simpa [State.register, State.setPhase, same] using
        prepared.registered other isOther id

end Prepared

namespace Pinged

theorem initial (isInitial : (machine nodes topology).initial state) :
    Pinged nodes topology state where
  toPrepared := Prepared.initial isInitial
  unflagged := by
    intro node remaining waiting
    rw [isInitial.1]
    exact Phase.noConfusion
  silent := by
    intro node id msgid
    simp [MapClientConn.queued, isInitial.2.1]
  reached := by
    intro node _ server sent
    rw [isInitial.1] at sent
    exact sent.elim

theorem unflagged_update
    {node : String} {phase : Phase}
    (unflagged :
      ∀ other remaining waiting,
        state.phase other ≠ .receiving remaining waiting)
    (notReceiving :
      ∀ remaining waiting, phase ≠ .receiving remaining waiting)
    (other : String) (remaining : List String) (waiting : Bool) :
    Function.update state.phase node phase other ≠
      .receiving remaining waiting := by
  by_cases same : other = node
  · subst same
    rw [Function.update_self]
    exact notReceiving remaining waiting
  · rw [Function.update_of_ne same]
    exact unflagged other remaining waiting

/-- A node may go on to a phase in which it has only pinged servers that are
started. -/
theorem setPhase
    (pinged : Pinged nodes topology state) {node : String} {phase : Phase}
    (prepared : Prepared nodes topology (state.setPhase node phase))
    (notReceiving :
      ∀ remaining waiting, phase ≠ .receiving remaining waiting)
    (sent :
      ∀ server, phase.SentTo (topology node) server →
        state.serverStarted server = true) :
    Pinged nodes topology (state.setPhase node phase) where
  toPrepared := prepared
  unflagged := unflagged_update pinged.unflagged notReceiving
  silent := pinged.silent
  reached := by
    intro other isOther server isSent
    by_cases same : other = node
    · subst same
      rw [State.phase_setPhase_self] at isSent
      exact sent server isSent
    · rw [state.phase_setPhase_of_ne phase same] at isSent
      exact pinged.reached other isOther server isSent

theorem register
    (pinged : Pinged nodes topology state) {node : String}
    (isNode : node ∈ nodes) (early : state.phase node = .registering) :
    Pinged nodes topology (state.register node (topology node)) where
  toPrepared := pinged.toPrepared.register isNode early
  unflagged := unflagged_update pinged.unflagged (by simp)
  silent := by
    intro other id msgid
    by_cases same : other = node
    · subst same
      by_cases isClient : id ∈ (topology other).clientNodeIds <;>
        simp [State.register, MapClientConn.queued, isClient]
    · simpa [State.register, same] using pinged.silent other id msgid
  reached := by
    intro other isOther server isSent
    have wasSent :
        (state.phase other).SentTo (topology other) server := by
      by_cases same : other = node
      · subst same
        simp [State.register, State.setPhase, Phase.SentTo] at isSent
      · simpa [State.register, State.setPhase, same] using isSent
    have wasStarted := pinged.reached other isOther server wasSent
    by_cases same : server = node
    · subst same
      have isRegistered := ((pinged.started server isNode).mp wasStarted).1
      exact absurd early isRegistered
    · simpa [State.register, same] using wasStarted

theorem buildClient
    (pinged : Pinged nodes topology state) {node remote : String}
    {rest : List String} (isNode : node ∈ nodes)
    (building : state.phase node = .building (remote :: rest)) :
    Pinged nodes topology
      { state.setPhase node (.building rest) with
        clientObjects :=
          Function.update state.clientObjects node
            (state.clientObjects node ++ [remote]) } where
  toPrepared := by
    have fits := pinged.fits node isNode
    rw [building] at fits
    refine pinged.toPrepared.move (by simp [building]) (by simp) ?_
    simpa [Phase.Fits] using fits
  unflagged := unflagged_update pinged.unflagged (by simp)
  silent := pinged.silent
  reached := by
    intro other isOther server isSent
    by_cases same : other = node
    · subst same
      simp [State.setPhase, Phase.SentTo] at isSent
    · refine pinged.reached other isOther server ?_
      simpa [State.setPhase, same] using isSent

theorem beginSend
    (pinged : Pinged nodes topology state) {node : String}
    {order : List String} (isNode : node ∈ nodes)
    (building : state.phase node = .building [])
    (permuted : order.Perm (state.clientObjects node)) :
    Pinged nodes topology (state.setPhase node (.sending order false)) := by
  have fits := pinged.fits node isNode
  rw [building] at fits
  have objects :
      state.clientObjects node = (topology node).serverInfos.ids := by
    simpa [Phase.Fits] using fits
  rw [objects] at permuted
  refine pinged.setPhase
    (pinged.toPrepared.setPhase (by simp [building]) (by simp)
      ⟨objects, ?_, ?_, by simp⟩) (by simp) ?_
  · exact permuted.nodup_iff.mpr (topology node).serverInfos.nodup_ids
  · intro server member
    exact permuted.mem_iff.mp member
  · intro server isSent
    -- Every server is still to be pinged.
    simp [Phase.SentTo, permuted.mem_iff] at isSent

/-- A started server answers the ping. -/
theorem dispatchPing
    (pinged : Pinged nodes topology state) {node remote : String}
    {rest : List String} (isNode : node ∈ nodes)
    (sending : state.phase node = .sending (remote :: rest) false)
    (isStarted : state.serverStarted remote = true) :
    Pinged nodes topology (state.dispatchPing node remote rest) := by
  have fits := pinged.fits node isNode
  rw [sending] at fits
  obtain ⟨objects, distinct, remotes, -⟩ := fits
  have isServer := remotes remote (List.mem_cons_self ..)
  rw [State.dispatchPing_eq]
  refine pinged.setPhase
    (pinged.toPrepared.setPhase (by simp [sending]) (by simp)
      ⟨objects, distinct, remotes, fun _ => List.cons_ne_nil _ _⟩)
    (by simp) ?_
  intro server isSent
  obtain wasSent | same := (Phase.sentTo_answered isServer server).mp isSent
  · rw [← sending] at wasSent
    exact pinged.reached node isNode server wasSent
  · exact same ▸ isStarted

theorem reply
    (pinged : Pinged nodes topology state) {node remote : String}
    {rest : List String} (isNode : node ∈ nodes)
    (sending : state.phase node = .sending (remote :: rest) true) :
    Pinged nodes topology (state.setPhase node (.sending rest false)) := by
  have fits := pinged.fits node isNode
  rw [sending] at fits
  obtain ⟨objects, distinct, remotes, -⟩ := fits
  obtain ⟨notLater, laterDistinct⟩ := List.nodup_cons.mp distinct
  refine pinged.setPhase
    (pinged.toPrepared.setPhase (by simp [sending]) (by simp)
      ⟨objects, laterDistinct, ?_, by simp⟩) (by simp) ?_
  · intro server member
    exact remotes server (List.mem_cons_of_mem _ member)
  · intro server isSent
    have wasSent := (Phase.sentTo_replied notLater server).mp isSent
    rw [← sending] at wasSent
    exact pinged.reached node isNode server wasSent

theorem finish
    (pinged : Pinged nodes topology state) {node : String}
    (isNode : node ∈ nodes)
    (sending : state.phase node = .sending [] false) :
    Pinged nodes topology (state.setPhase node .returned) := by
  have fits := pinged.fits node isNode
  rw [sending] at fits
  refine pinged.setPhase
    (pinged.toPrepared.setPhase (by simp [sending]) (by simp) fits.1) (by simp) ?_
  intro server isSent
  refine pinged.reached node isNode server ?_
  rw [sending]
  exact ⟨isSent, .inl List.not_mem_nil⟩

theorem next
    {target : State} {label : Label}
    (pinged : Pinged nodes topology state)
    (stepped : (pingMachine nodes topology).next state label = some target) :
    Pinged nodes topology target := by
  obtain ⟨node, action⟩ := label
  simp only [pingMachine] at stepped
  split at stepped
  case isFalse =>
    cases stepped
  case isTrue isNode =>
    cases action with
    | register =>
        simp only [State.actPing, State.act] at stepped
        split at stepped <;> cases stepped
        next early => exact pinged.register isNode early
    | buildClient =>
        simp only [State.actPing, State.act] at stepped
        split at stepped <;> cases stepped
        next building => exact pinged.buildClient isNode building
    | beginSend order =>
        simp only [State.actPing, State.act] at stepped
        split at stepped
        · next building =>
            split at stepped <;> cases stepped
            next permuted => exact pinged.beginSend isNode building permuted
        · cases stepped
    | attempt =>
        simp only [State.actPing] at stepped
        split at stepped
        · next remote rest sending =>
            split at stepped <;> cases stepped
            · next isStarted =>
                exact pinged.dispatchPing isNode sending isStarted
            · exact pinged
        · cases stepped
    | reply =>
        simp only [State.actPing, State.act] at stepped
        split at stepped <;> cases stepped
        next sending => exact pinged.reply isNode sending
    | finish =>
        simp only [State.actPing] at stepped
        split at stepped <;> cases stepped
        next sending => exact pinged.finish isNode sending
    | beginRecv | recvPass | wake => cases stepped

theorem of_reachable
    (reachable : (pingMachine nodes topology).Reachable state) :
    Pinged nodes topology state := by
  refine reachable.invariant ?_ ?_
  · intro start isInitial
    exact Pinged.initial isInitial
  · intro source label target pinged stepped
    exact pinged.next stepped

end Pinged

/-- A step is enabled that leaves less to do. -/
def PingMoves (nodes : Finset String) (topology : String → Topology)
    (state : State) : Prop :=
  ∃ label target,
    (pingMachine nodes topology).next state label = some target ∧
      work nodes topology target < work nodes topology state

theorem pingMoves_of_actPing
    {node : String} {action : Action} {target : State} {phase : Phase}
    (isNode : node ∈ nodes)
    (acted : state.actPing (topology node) node action = some target)
    (moved : target.phase = Function.update state.phase node phase)
    (lighter :
      phase.work (topology node) <
        (state.phase node).work (topology node)) :
    PingMoves nodes topology state := by
  refine ⟨⟨node, action⟩, target, ?_, work_lt isNode moved lighter⟩
  simp only [pingMachine, if_pos isNode]
  exact acted

/-- A node that is not about to ping moves by itself. -/
theorem Pinged.moves_alone
    (pinged : Pinged nodes topology state) {node : String}
    (isNode : node ∈ nodes) (unfinished : state.phase node ≠ .returned)
    (notPinging :
      ∀ remote rest, state.phase node ≠ .sending (remote :: rest) false) :
    PingMoves nodes topology state := by
  have fits := pinged.fits node isNode
  cases current : state.phase node with
  | registering =>
      have acted :
          state.actPing (topology node) node .register =
            some (state.register node (topology node)) := by
        simp [State.actPing, State.act, current]
      apply pingMoves_of_actPing isNode acted rfl
      simp only [current, Phase.work]
      omega
  | building remaining =>
      cases remaining with
      | nil =>
          rw [current] at fits
          have objects :
              state.clientObjects node = (topology node).serverInfos.ids := by
            simpa [Phase.Fits] using fits
          have acted :
              state.actPing (topology node) node
                  (.beginSend (state.clientObjects node)) =
                some (state.setPhase node
                  (.sending (state.clientObjects node) false)) := by
            simp [State.actPing, State.act, current]
          apply pingMoves_of_actPing isNode acted rfl
          simp only [current, Phase.work, objects, Bool.false_eq_true,
            if_false, List.length_nil]
          omega
      | cons remote rest =>
          have acted :
              state.actPing (topology node) node .buildClient =
                some { state.setPhase node (.building rest) with
                  clientObjects :=
                    Function.update state.clientObjects node
                      (state.clientObjects node ++ [remote]) } := by
            simp [State.actPing, State.act, current]
          apply pingMoves_of_actPing isNode acted rfl
          simp [current, Phase.work]
  | sending remaining answered =>
      cases remaining with
      | nil =>
          cases answered with
          | false =>
              have acted :
                  state.actPing (topology node) node .finish =
                    some (state.setPhase node .returned) := by
                simp [State.actPing, current]
              apply pingMoves_of_actPing isNode acted rfl
              simp only [current, Phase.work]
              omega
          | true =>
              rw [current] at fits
              exact absurd rfl (fits.2.2.2 rfl)
      | cons remote rest =>
          cases answered with
          | false => exact absurd current (notPinging remote rest)
          | true =>
              have acted :
                  state.actPing (topology node) node .reply =
                    some (state.setPhase node (.sending rest false)) := by
                simp [State.actPing, State.act, current]
              apply pingMoves_of_actPing isNode acted rfl
              simp [current, Phase.work]
              omega
  | receiving remaining waiting =>
      exact absurd current (pinged.unflagged node remaining waiting)
  | returned => exact absurd current unfinished

/-- As long as some node has not returned, a step leads on: a node that is
about to ping waits for a registration at most, which waits for nobody. -/
theorem Pinged.moves
    (matched : Matched nodes topology)
    (pinged : Pinged nodes topology state) {node : String}
    (isNode : node ∈ nodes) (unfinished : state.phase node ≠ .returned) :
    PingMoves nodes topology state := by
  by_cases notPinging :
      ∀ remote rest, state.phase node ≠ .sending (remote :: rest) false
  · exact pinged.moves_alone isNode unfinished notPinging
  · push Not at notPinging
    obtain ⟨remote, rest, sending⟩ := notPinging
    have fits := pinged.fits node isNode
    rw [sending] at fits
    have isServer := fits.2.2.1 remote (List.mem_cons_self ..)
    have isRemote := matched.closed node isNode remote (.inr isServer)
    have isClient := (matched.dual node isNode remote isRemote).mp isServer
    by_cases early : state.phase remote = .registering
    · exact pinged.moves_alone isRemote (by simp [early]) (by simp [early])
    · have isStarted : state.serverStarted remote = true :=
        (pinged.started remote isRemote).mpr ⟨early, node, isClient⟩
      have acted :
          state.actPing (topology node) node .attempt =
            some (state.dispatchPing node remote rest) := by
        simp [State.actPing, sending, isStarted]
      apply pingMoves_of_actPing isNode acted rfl
      simp [sending, Phase.work]

/-- A server that a node has reached runs and has the node registered. -/
theorem Pinged.serves
    (matched : Matched nodes topology)
    (pinged : Pinged nodes topology state) {node server : String}
    (isNode : node ∈ nodes)
    (isServer : server ∈ (topology node).serverInfos.ids)
    (sent : (state.phase node).SentTo (topology node) server) :
    state.serverStarted server = true ∧
      (state.clientConnMap server node).isSome := by
  have isServerNode := matched.closed node isNode server (.inr isServer)
  have isClient := (matched.dual node isNode server isServerNode).mp isServer
  have isStarted := pinged.reached node isNode server sent
  have isRegistered := ((pinged.started server isServerNode).mp isStarted).1
  exact ⟨isStarted,
    (pinged.registered server isServerNode node).mpr
      ⟨isRegistered, isClient⟩⟩

end Invariant

/-- Initialisation without synchronised connections reaches all servers and
cannot get stuck.  When a node has returned, it has a client object for each
of its servers, and each of them runs and has the node registered.  As long as
some node has not returned, a step is enabled from which all nodes can return.
No message is queued anywhere. -/
theorem ping_init_reaches_servers
    (placement : Placement) (unsynchronised : placement.connSync = false)
    {state : State}
    (reachable :
      (initMachine placement.connSync placement.nodes
        placement.topology).Reachable state) :
    (∀ node ∈ placement.nodes, state.phase node = .returned →
      state.clientObjects node =
          (placement.topology node).serverInfos.ids ∧
        ∀ server ∈ (placement.topology node).serverInfos.ids,
          state.serverStarted server = true ∧
            (state.clientConnMap server node).isSome) ∧
    ((∃ node ∈ placement.nodes, state.phase node ≠ .returned) →
      ∃ label target labels final,
        (initMachine placement.connSync placement.nodes
            placement.topology).next state label = some target ∧
          (initMachine placement.connSync placement.nodes
            placement.topology).run target labels = some final ∧
          ∀ node ∈ placement.nodes, final.phase node = .returned) ∧
    (∀ node id msgid,
      (state.clientConnMap node).queued id msgid = []) := by
  rw [unsynchronised, initMachine_false] at *
  have matched := placement.matched
  have pinged := Pinged.of_reachable reachable
  refine ⟨?_, ?_, pinged.silent⟩
  · intro node isNode hasReturned
    have fits := pinged.fits node isNode
    rw [hasReturned] at fits
    refine ⟨fits, ?_⟩
    intro server isServer
    refine pinged.serves matched isNode isServer ?_
    rw [hasReturned]
    exact isServer
  · intro someUnfinished
    obtain ⟨node, isNode, unfinished⟩ := someUnfinished
    have progress :
        ∀ current,
          (pingMachine placement.nodes placement.topology).Reachable
              current →
            ¬ (∀ node ∈ placement.nodes, current.phase node = .returned) →
              PingMoves placement.nodes placement.topology current := by
      intro current currentReachable notAll
      push Not at notAll
      obtain ⟨other, isOther, otherUnfinished⟩ := notAll
      exact (Pinged.of_reachable currentReachable).moves matched isOther
        otherUnfinished
    obtain ⟨label, target, stepped, -⟩ :=
      pinged.moves matched isNode unfinished
    obtain ⟨labels, final, executed, completed⟩ :=
      (reachable.step label stepped).completes
        (work placement.nodes placement.topology) progress
    exact ⟨label, target, labels, final, stepped, executed, completed⟩

/-- Two nodes that connect to each other, without synchronisation. -/
def mutualDocument : Json :=
  .object
    [("NODE_INFO", .array
      [.object [("NODE_ID", .string "A"), ("ADDRESS", .string "hostA:1")],
        .object [("NODE_ID", .string "B"), ("ADDRESS", .string "hostB:1")]]),
    ("DATA_NODES", .array [.string "A", .string "B"])]

def mutualPlacement : Placement :=
  .ofCheck mutualDocument false ["A", "B"] (by decide +kernel)

theorem ping_init_reaches_servers_mutual :
    ∃ label target labels final,
      (initMachine mutualPlacement.connSync mutualPlacement.nodes
          mutualPlacement.topology).next start label = some target ∧
        (initMachine mutualPlacement.connSync mutualPlacement.nodes
          mutualPlacement.topology).run target labels = some final ∧
        ∀ node ∈ mutualPlacement.nodes, final.phase node = .returned := by
  have begun :
      (initMachine mutualPlacement.connSync mutualPlacement.nodes
        mutualPlacement.topology).Reachable start :=
    .initial ⟨fun _ => rfl, fun _ => rfl, fun _ => rfl, fun _ => rfl, rfl⟩
  have isNode : "A" ∈ mutualPlacement.nodes :=
    List.mem_toFinset.mpr (List.mem_cons_self ..)
  exact (ping_init_reaches_servers mutualPlacement rfl begun).2.1
    ⟨"A", isNode, by decide⟩

end ChannelSdk.InitBarrier
