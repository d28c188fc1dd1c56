import ChannelSdk.InitBarrierFlags

/-!
# Synchronised initialisation is a barrier

Safety and the final emptiness of the queues follow from the invariant of the
flags.  A node that still has to return is either able to move itself or waits
for a flag of a client that is not past its own sends, and the nodes that are
not past their sends can always move, since they wait for nobody but for the
start of servers.
-/

namespace ChannelSdk.InitBarrier

/-- What a node still has to do, in steps that lead on. -/
def Phase.work (topology : Topology) : Phase → Nat
  | .registering =>
      6 + 2 * topology.clientNodeIds.toList.length +
        3 * topology.serverInfos.ids.length
  | .building remaining =>
      5 + 2 * topology.clientNodeIds.toList.length +
        2 * topology.serverInfos.ids.length + remaining.length
  | .sending remaining answered =>
      3 + 2 * topology.clientNodeIds.toList.length + 2 * remaining.length +
        if answered then 0 else 1
  | .receiving remaining waiting =>
      1 + 2 * remaining.length + if waiting then 1 else 0
  | .returned => 0

def work (nodes : Finset String) (topology : String → Topology)
    (state : State) : Nat :=
  ∑ node ∈ nodes, (state.phase node).work (topology node)

/-- A step is enabled that leaves less to do. -/
def Moves (nodes : Finset String) (topology : String → Topology)
    (state : State) : Prop :=
  ∃ label target,
    (machine nodes topology).next state label = some target ∧
      work nodes topology target < work nodes topology state

section Progress

variable {nodes : Finset String} {topology : String → Topology}
variable {state : State}

theorem work_lt
    {target : State} {node : String} {phase : Phase}
    (isNode : node ∈ nodes)
    (moved : target.phase = Function.update state.phase node phase)
    (lighter :
      phase.work (topology node) <
        (state.phase node).work (topology node)) :
    work nodes topology target < work nodes topology state := by
  refine Finset.sum_lt_sum ?_ ⟨node, isNode, ?_⟩
  · intro other _
    rw [moved]
    by_cases isSame : other = node
    · subst isSame
      rw [Function.update_self]
      exact Nat.le_of_lt lighter
    · rw [Function.update_of_ne isSame]
  · rw [moved, Function.update_self]
    exact lighter

theorem moves_of_act
    {node : String} {action : Action} {target : State} {phase : Phase}
    (isNode : node ∈ nodes)
    (acted : state.act (topology node) node action = some target)
    (moved : target.phase = Function.update state.phase node phase)
    (lighter :
      phase.work (topology node) <
        (state.phase node).work (topology node)) :
    Moves nodes topology state := by
  refine ⟨⟨node, action⟩, target, ?_, work_lt isNode moved lighter⟩
  simp only [machine, if_pos isNode]
  exact acted

namespace Synced

/-- The phases in which a node depends on another one. -/
inductive Depends : Phase → Prop
  | sending (remote : String) (rest : List String) :
      Depends (.sending (remote :: rest) false)
  | receiving (remote : String) (rest : List String) :
      Depends (.receiving (remote :: rest) false)
  | returned : Depends .returned

/-- In every other phase a node can move by itself. -/
theorem moves_of_not_depends
    (synced : Synced nodes topology state) {node : String}
    (isNode : node ∈ nodes) (independent : ¬ Depends (state.phase node)) :
    Moves nodes topology state := by
  have fits := synced.fits node isNode
  cases current : state.phase node with
  | registering =>
      have acted :
          state.act (topology node) node .register =
            some (state.register node (topology node)) := by
        simp [State.act, current]
      apply moves_of_act isNode acted rfl
      simp only [current, Phase.work]
      omega
  | building remaining =>
      cases remaining with
      | nil =>
          rw [current] at fits
          have objects :
              state.clientObjects node = (topology node).serverInfos.ids := by
            simpa [Phase.Fits] using fits
          have acted :
              state.act (topology node) node
                  (.beginSend (state.clientObjects node)) =
                some (state.setPhase node
                  (.sending (state.clientObjects node) false)) := by
            simp [State.act, current]
          apply moves_of_act isNode acted rfl
          simp only [current, Phase.work, objects, Bool.false_eq_true, if_false,
            List.length_nil]
          omega
      | cons remote rest =>
          have acted :
              state.act (topology node) node .buildClient =
                some { state.setPhase node (.building rest) with
                  clientObjects :=
                    Function.update state.clientObjects node
                      (state.clientObjects node ++ [remote]) } := by
            simp [State.act, current]
          apply moves_of_act isNode acted rfl
          simp [current, Phase.work]
  | sending remaining answered =>
      cases answered with
      | false =>
          cases remaining with
          | nil =>
              have acted :
                  state.act (topology node) node
                      (.beginRecv (topology node).clientNodeIds.toList) =
                    some (state.setPhase node
                      (.receiving (topology node).clientNodeIds.toList
                        false)) := by
                simp [State.act, current]
              apply moves_of_act isNode acted rfl
              simp only [current, Phase.work, Bool.false_eq_true, if_false]
              omega
          | cons remote rest =>
              rw [current] at independent
              exact absurd (.sending remote rest) independent
      | true =>
          cases remaining with
          | nil =>
              rw [current] at fits
              exact absurd rfl (fits.2.2.2 rfl)
          | cons remote rest =>
              have acted :
                  state.act (topology node) node .reply =
                    some (state.setPhase node (.sending rest false)) := by
                simp [State.act, current]
              apply moves_of_act isNode acted rfl
              simp [current, Phase.work]
              omega
  | receiving remaining waiting =>
      cases waiting with
      | true =>
          have acted :
              state.act (topology node) node .wake =
                some (state.setPhase node (.receiving remaining false)) := by
            simp [State.act, current]
          apply moves_of_act isNode acted rfl
          simp [current, Phase.work]
      | false =>
          cases remaining with
          | nil =>
              have acted :
                  state.act (topology node) node .finish =
                    some (state.setPhase node .returned) := by
                simp [State.act, current]
              apply moves_of_act isNode acted rfl
              simp [current, Phase.work]
          | cons remote rest =>
              rw [current] at independent
              exact absurd (.receiving remote rest) independent
  | returned =>
      rw [current] at independent
      exact absurd .returned independent

/-- A node that sends can move once all nodes are past their
registration. -/
theorem moves_of_sending
    (matched : Matched nodes topology)
    (synced : Synced nodes topology state)
    (dependent : ∀ node ∈ nodes, Depends (state.phase node))
    {node remote : String} {rest : List String} (isNode : node ∈ nodes)
    (sending : state.phase node = .sending (remote :: rest) false) :
    Moves nodes topology state := by
  have fits := synced.fits node isNode
  rw [sending] at fits
  have isServer := fits.2.2.1 remote (List.mem_cons_self ..)
  have isRemote := matched.closed node isNode remote (.inr isServer)
  have isClient := (matched.dual node isNode remote isRemote).mp isServer
  have isRegistered : state.phase remote ≠ .registering := by
    intro early
    have depends := dependent remote isRemote
    rw [early] at depends
    cases depends
  have isStarted : state.serverStarted remote = true :=
    (synced.started remote isRemote).mpr ⟨isRegistered, node, isClient⟩
  have acted :
      state.act (topology node) node .attempt =
        some (state.dispatchFlag node remote rest) := by
    simp [State.act, sending, isStarted]
  apply moves_of_act isNode acted rfl
  simp [sending, Phase.work]

/-- A node that receives can move once all nodes are past their sends. -/
theorem moves_of_receiving
    (matched : Matched nodes topology)
    (synced : Synced nodes topology state)
    (allSent :
      ∀ client ∈ nodes, ∀ server ∈ (topology client).serverInfos.ids,
        (state.phase client).SentTo (topology client) server)
    {node remote : String} {rest : List String} (isNode : node ∈ nodes)
    (receiving : state.phase node = .receiving (remote :: rest) false) :
    Moves nodes topology state := by
  have fits := synced.fits node isNode
  rw [receiving] at fits
  have isClient := fits.2.2 remote (List.mem_cons_self ..)
  have isRemote := matched.closed node isNode remote (.inl isClient)
  have isServer := (matched.dual remote isRemote node isNode).mpr isClient
  have pending : Pending topology state remote node := by
    refine ⟨allSent remote isRemote node isServer, ?_⟩
    rw [receiving]
    exact fun taken => taken.2 (List.mem_cons_self ..)
  have isRegistered :=
    (synced.registered node isNode remote).mpr
      ⟨by rw [receiving]; simp, isClient⟩
  rcases Option.isSome_iff_exists.mp isRegistered with ⟨connection, found⟩
  have queued := synced.queued remote isRemote node isNode pending
  rw [MapClientConn.queued_of_known found] at queued
  rcases ClientConnection.recvPass_of_queue queued with ⟨remaining, passed⟩
  have acted :
      state.act (topology node) node .recvPass =
        some { state.setPhase node (.receiving rest false) with
          clientConnMap :=
            Function.update state.clientConnMap node
              (Function.update (state.clientConnMap node) remote
                (some remaining)) } := by
    simp [State.act, receiving, found, State.recvFlag, passed]
  apply moves_of_act isNode acted rfl
  simp [receiving, Phase.work]

/-- As long as some node has not returned, a step leads on. -/
theorem moves
    (matched : Matched nodes topology)
    (synced : Synced nodes topology state) {node : String}
    (isNode : node ∈ nodes) (unfinished : state.phase node ≠ .returned) :
    Moves nodes topology state := by
  by_cases dependent : ∀ other ∈ nodes, Depends (state.phase other)
  · by_cases someSends :
        ∃ other ∈ nodes, ∃ remote rest,
          state.phase other = .sending (remote :: rest) false
    · rcases someSends with ⟨other, isOther, remote, rest, sending⟩
      exact synced.moves_of_sending matched dependent isOther sending
    · have allSent :
          ∀ client ∈ nodes, ∀ server ∈ (topology client).serverInfos.ids,
            (state.phase client).SentTo (topology client) server := by
        intro client isClient server isServer
        cases current : state.phase client with
        | receiving _ _ | returned => exact isServer
        | registering | building _ =>
            have depends := dependent client isClient
            rw [current] at depends
            cases depends
        | sending _ _ =>
            have depends := dependent client isClient
            rw [current] at depends
            cases depends
            exact absurd ⟨client, isClient, _, _, current⟩ someSends
      have depends := dependent node isNode
      cases current : state.phase node with
      | receiving remaining waiting =>
          rw [current] at depends
          cases depends
          exact synced.moves_of_receiving matched allSent isNode current
      | returned => exact absurd current unfinished
      | registering | building _ =>
          rw [current] at depends
          cases depends
      | sending _ _ =>
          rw [current] at depends
          cases depends
          exact absurd ⟨node, isNode, _, _, current⟩ someSends
  · push Not at dependent
    rcases dependent with ⟨other, isOther, independent⟩
    exact synced.moves_of_not_depends isOther independent

end Synced

end Progress

section Barrier

variable {nodes : Finset String} {topology : String → Topology}
variable {state : State}

theorem synced_of_reachable
    (matched : Matched nodes topology)
    (reachable : (machine nodes topology).Reachable state) :
    Synced nodes topology state :=
  reachable.invariant (fun _ => Synced.initial)
    (fun _ _ _ synced stepped => synced.next matched stepped)

/-- A node that has sent a flag has made all its client objects and started
its server if it has a client. -/
theorem Synced.prepared
    (synced : Synced nodes topology state) {client server : String}
    (isClient : client ∈ nodes)
    (sent : (state.phase client).SentTo (topology client) server) :
    ((∃ id, id ∈ (topology client).clientNodeIds) →
        state.serverStarted client = true) ∧
      state.clientObjects client = (topology client).serverInfos.ids := by
  have fits := synced.fits client isClient
  have isRegistered : state.phase client ≠ .registering := by
    intro early
    rw [early] at sent
    exact sent
  refine ⟨fun someClient =>
    (synced.started client isClient).mpr ⟨isRegistered, someClient⟩, ?_⟩
  cases current : state.phase client with
  | registering | building _ =>
      rw [current] at sent
      exact sent.elim
  | sending _ _ | receiving _ _ =>
      rw [current] at fits
      exact fits.1
  | returned =>
      rw [current] at fits
      exact fits

/-- A queue of an id that is no client of the node does not exist. -/
theorem Synced.queued_of_not_client
    (synced : Synced nodes topology state) {node id : String}
    (isNode : node ∈ nodes)
    (unknown : id ∉ (topology node).clientNodeIds) :
    (state.clientConnMap node).queued id syncMsgid = [] := by
  have absent : state.clientConnMap node id = none := by
    rw [← Option.not_isSome_iff_eq_none, synced.registered node isNode]
    exact fun registered => unknown registered.2
  rw [MapClientConn.queued, absent]

/-- Synchronised initialisation is a safe and deadlock-free barrier.  When a
node has returned, its flag has been written at each of its servers, and each
of its clients has started its own server, if it has clients, and made all its
client objects.  As long as some node has not returned, a step is enabled from
which all nodes can return.  When all have returned, no flag is left. -/
theorem init_is_barrier
    (deployment : Deployment) {state : State}
    (reachable :
      (machine deployment.nodes deployment.topology).Reachable state) :
    (∀ node ∈ deployment.nodes, state.phase node = .returned →
      (∀ server ∈ (deployment.topology node).serverInfos.ids,
        (node, server) ∈ state.flags) ∧
      (∀ client ∈ (deployment.topology node).clientNodeIds,
        ((∃ id, id ∈ (deployment.topology client).clientNodeIds) →
            state.serverStarted client = true) ∧
          state.clientObjects client =
            (deployment.topology client).serverInfos.ids)) ∧
    ((∃ node ∈ deployment.nodes, state.phase node ≠ .returned) →
      ∃ label target labels final,
        (machine deployment.nodes deployment.topology).next state label =
            some target ∧
          (machine deployment.nodes deployment.topology).run target labels =
            some final ∧
          ∀ node ∈ deployment.nodes, final.phase node = .returned) ∧
    ((∀ node ∈ deployment.nodes, state.phase node = .returned) →
      ∀ node ∈ deployment.nodes, ∀ id,
        (state.clientConnMap node).queued id syncMsgid = []) := by
  have matched := deployment.matched
  have synced := synced_of_reachable matched reachable
  refine ⟨?_, ?_, ?_⟩
  · intro node isNode hasReturned
    constructor
    · intro server isServer
      have isServerNode := matched.closed node isNode server (.inr isServer)
      apply synced.logged node isNode server isServerNode
      rw [hasReturned]
      exact isServer
    · intro client isClient
      have isClientNode := matched.closed node isNode client (.inl isClient)
      refine synced.prepared isClientNode
        (synced.takenSent client isClientNode node isNode ?_)
      rw [hasReturned]
      exact isClient
  · intro someUnfinished
    rcases someUnfinished with ⟨node, isNode, unfinished⟩
    have progress :
        ∀ current,
          (machine deployment.nodes deployment.topology).Reachable current →
            ¬ (∀ node ∈ deployment.nodes, current.phase node = .returned) →
              Moves deployment.nodes deployment.topology current := by
      intro current currentReachable notAll
      push Not at notAll
      rcases notAll with ⟨other, isOther, otherUnfinished⟩
      exact (synced_of_reachable matched currentReachable).moves matched
        isOther otherUnfinished
    rcases synced.moves matched isNode unfinished with
      ⟨label, target, stepped, -⟩
    rcases (reachable.step label stepped).completes
        (work deployment.nodes deployment.topology) progress with
      ⟨labels, final, executed, completed⟩
    exact ⟨label, target, labels, final, stepped, executed, completed⟩
  · intro allReturned node isNode id
    by_cases isClient : id ∈ (deployment.topology node).clientNodeIds
    · have isIdNode := matched.closed node isNode id (.inl isClient)
      apply synced.unqueued id isIdNode node isNode
      intro pending
      have untaken := pending.2
      rw [allReturned node isNode] at untaken
      exact untaken isClient
    · exact synced.queued_of_not_client isNode isClient

end Barrier

/-- Three nodes in a ring, with synchronised connections. -/
def ringDocument : Json :=
  .object
    [("CONNECT_SYNC", .bool true),
    ("NODE_INFO", .array
      [.object [("NODE_ID", .string "A"), ("ADDRESS", .string "hostA:1")],
        .object [("NODE_ID", .string "B"), ("ADDRESS", .string "hostB:1")],
        .object [("NODE_ID", .string "C"), ("ADDRESS", .string "hostC:1")]]),
    ("DATA_NODES", .array [.string "A", .string "B", .string "C"]),
    ("POLICY", .object
      [("A", .array [.string "B"]), ("B", .array [.string "C"]),
        ("C", .array [.string "A"])])]

def ringDeployment : Deployment where
  toPlacement := .ofCheck ringDocument true ["A", "B", "C"] (by decide +kernel)
  synchronised := rfl

/-- No node has begun. -/
def start : State where
  phase := fun _ => .registering
  clientConnMap := fun _ _ => none
  serverStarted := fun _ => false
  clientObjects := fun _ => []
  flags := []

theorem init_is_barrier_ring :
    ∃ label target labels final,
      (machine ringDeployment.nodes ringDeployment.topology).next start
          label = some target ∧
        (machine ringDeployment.nodes ringDeployment.topology).run target
          labels = some final ∧
        ∀ node ∈ ringDeployment.nodes, final.phase node = .returned := by
  have begun :
      (machine ringDeployment.nodes ringDeployment.topology).Reachable
        start :=
    .initial ⟨fun _ => rfl, fun _ => rfl, fun _ => rfl, fun _ => rfl, rfl⟩
  have isNode : "A" ∈ ringDeployment.nodes :=
    List.mem_toFinset.mpr (List.mem_cons_self ..)
  exact (init_is_barrier ringDeployment begun).2.1 ⟨"A", isNode, by decide⟩

end ChannelSdk.InitBarrier
