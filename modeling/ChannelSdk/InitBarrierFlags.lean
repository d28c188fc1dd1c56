import ChannelSdk.InitBarrier

/-!
# The flags of synchronised initialisation

Whether the flag of a client has been written to a server's queue, and whether
the server has taken it, can be read off the phases of the two nodes.  The
invariant says that every queue of flags holds exactly the flags that were
sent and not taken.
-/

namespace ChannelSdk.InitBarrier

open CheckedMemory
open Std (ExtTreeMap ExtTreeSet)

namespace Phase

/-- The flag for a server has been dispatched. -/
def SentTo (topology : Topology) : Phase → String → Prop
  | .registering, _ | .building _, _ => False
  | .sending remaining answered, server =>
      server ∈ topology.serverInfos.ids ∧
        (server ∉ remaining ∨
          answered = true ∧ remaining.head? = some server)
  | .receiving _ _, server | .returned, server =>
      server ∈ topology.serverInfos.ids

/-- The flag of a client has been received. -/
def TakenFrom (topology : Topology) : Phase → String → Prop
  | .registering, _ | .building _, _ | .sending _ _, _ => False
  | .receiving remaining _, client =>
      client ∈ topology.clientNodeIds ∧ client ∉ remaining
  | .returned, client => client ∈ topology.clientNodeIds

/-- The lists of a phase fit the node's topology and its client objects. -/
def Fits (topology : Topology) (clientObjects : List String) : Phase → Prop
  | .registering => clientObjects = []
  | .building remaining =>
      clientObjects ++ remaining = topology.serverInfos.ids
  | .sending remaining answered =>
      clientObjects = topology.serverInfos.ids ∧ remaining.Nodup ∧
        (∀ server ∈ remaining, server ∈ topology.serverInfos.ids) ∧
        (answered = true → remaining ≠ [])
  | .receiving remaining _ =>
      clientObjects = topology.serverInfos.ids ∧ remaining.Nodup ∧
        ∀ client ∈ remaining, client ∈ topology.clientNodeIds
  | .returned => clientObjects = topology.serverInfos.ids

theorem sending_ne_registering (remaining : List String) (answered : Bool) :
    sending remaining answered ≠ registering :=
  Phase.noConfusion

theorem receiving_ne_registering (remaining : List String) (waiting : Bool) :
    receiving remaining waiting ≠ registering :=
  Phase.noConfusion

theorem sentTo_answered
    {topology : Topology} {remote : String} {rest : List String}
    (isServer : remote ∈ topology.serverInfos.ids) (server : String) :
    (sending (remote :: rest) true).SentTo topology server ↔
      (sending (remote :: rest) false).SentTo topology server ∨
        server = remote := by
  simp only [SentTo, List.head?_cons, Option.some.injEq]
  grind

theorem sentTo_replied
    {topology : Topology} {remote : String} {rest : List String}
    (notLater : remote ∉ rest) (server : String) :
    (sending rest false).SentTo topology server ↔
      (sending (remote :: rest) true).SentTo topology server := by
  simp only [SentTo, List.mem_cons, List.head?_cons, Option.some.injEq]
  grind

theorem takenFrom_received
    {topology : Topology} {remote : String} {rest : List String}
    (isClient : remote ∈ topology.clientNodeIds) (notLater : remote ∉ rest)
    (client : String) :
    (receiving rest false).TakenFrom topology client ↔
      (receiving (remote :: rest) false).TakenFrom topology client ∨
        client = remote := by
  simp only [TakenFrom, List.mem_cons]
  grind

end Phase

private theorem nodup_toList (ids : ExtTreeSet String) :
    ids.toList.Nodup := by
  apply ExtTreeSet.distinct_toList.imp
  intro first second different same
  subst same
  exact different Std.ReflCmp.compare_self

/-- The flag of a client is in a server's queue. -/
def Pending (topology : String → Topology) (state : State)
    (client server : String) : Prop :=
  (state.phase client).SentTo (topology client) server ∧
    ¬ (state.phase server).TakenFrom (topology server) client

structure Synced (nodes : Finset String) (topology : String → Topology)
    (state : State) : Prop where
  fits :
    ∀ node ∈ nodes,
      (state.phase node).Fits (topology node) (state.clientObjects node)
  started :
    ∀ node ∈ nodes,
      (state.serverStarted node = true ↔
        state.phase node ≠ .registering ∧
          ∃ id, id ∈ (topology node).clientNodeIds)
  registered :
    ∀ node ∈ nodes, ∀ id,
      ((state.clientConnMap node id).isSome ↔
        state.phase node ≠ .registering ∧
          id ∈ (topology node).clientNodeIds)
  queued :
    ∀ client ∈ nodes, ∀ server ∈ nodes, Pending topology state client server →
      (state.clientConnMap server).queued client syncMsgid = [syncFlag]
  unqueued :
    ∀ client ∈ nodes, ∀ server ∈ nodes,
      ¬ Pending topology state client server →
        (state.clientConnMap server).queued client syncMsgid = []
  takenSent :
    ∀ client ∈ nodes, ∀ server ∈ nodes,
      (state.phase server).TakenFrom (topology server) client →
        (state.phase client).SentTo (topology client) server
  logged :
    ∀ client ∈ nodes, ∀ server ∈ nodes,
      (state.phase client).SentTo (topology client) server →
        (client, server) ∈ state.flags

section SetPhase

variable {topology : String → Topology} {state : State}
variable {node : String} {phase : Phase}

@[simp]
theorem State.phase_setPhase_self (state : State) (node : String)
    (phase : Phase) :
    (state.setPhase node phase).phase node = phase :=
  Function.update_self ..

theorem State.phase_setPhase_of_ne
    (state : State) (phase : Phase) {other : String}
    (different : other ≠ node) :
    (state.setPhase node phase).phase other = state.phase other :=
  Function.update_of_ne different ..

theorem registered_setPhase
    (wasRegistered : state.phase node ≠ .registering)
    (isRegistered : phase ≠ .registering) (other : String) :
    (state.setPhase node phase).phase other ≠ .registering ↔
      state.phase other ≠ .registering := by
  by_cases same : other = node
  · subst same
    rw [State.phase_setPhase_self]
    exact iff_of_true isRegistered wasRegistered
  · rw [state.phase_setPhase_of_ne phase same]

theorem sentTo_setPhase
    (sameSent :
      ∀ server, phase.SentTo (topology node) server ↔
        (state.phase node).SentTo (topology node) server)
    (client server : String) :
    ((state.setPhase node phase).phase client).SentTo
        (topology client) server ↔
      (state.phase client).SentTo (topology client) server := by
  by_cases same : client = node
  · subst same
    rw [State.phase_setPhase_self]
    exact sameSent server
  · rw [state.phase_setPhase_of_ne phase same]

theorem takenFrom_setPhase
    (sameTaken :
      ∀ client, phase.TakenFrom (topology node) client ↔
        (state.phase node).TakenFrom (topology node) client)
    (server client : String) :
    ((state.setPhase node phase).phase server).TakenFrom
        (topology server) client ↔
      (state.phase server).TakenFrom (topology server) client := by
  by_cases same : server = node
  · subst same
    rw [State.phase_setPhase_self]
    exact sameTaken client
  · rw [state.phase_setPhase_of_ne phase same]

theorem pending_setPhase
    (sameSent :
      ∀ server, phase.SentTo (topology node) server ↔
        (state.phase node).SentTo (topology node) server)
    (sameTaken :
      ∀ client, phase.TakenFrom (topology node) client ↔
        (state.phase node).TakenFrom (topology node) client)
    (client server : String) :
    Pending topology (state.setPhase node phase) client server ↔
      Pending topology state client server := by
  rw [Pending, Pending, sentTo_setPhase sameSent,
    takenFrom_setPhase sameTaken]

theorem sentTo_setPhase_or
    {remote : String}
    (oneMore :
      ∀ server, phase.SentTo (topology node) server ↔
        (state.phase node).SentTo (topology node) server ∨
          server = remote)
    (client server : String) :
    ((state.setPhase node phase).phase client).SentTo
        (topology client) server ↔
      (state.phase client).SentTo (topology client) server ∨
        (client = node ∧ server = remote) := by
  by_cases same : client = node
  · subst same
    rw [State.phase_setPhase_self, oneMore]
    simp
  · rw [state.phase_setPhase_of_ne phase same]
    simp [same]

theorem takenFrom_setPhase_or
    {remote : String}
    (oneMore :
      ∀ client, phase.TakenFrom (topology node) client ↔
        (state.phase node).TakenFrom (topology node) client ∨
          client = remote)
    (server client : String) :
    ((state.setPhase node phase).phase server).TakenFrom
        (topology server) client ↔
      (state.phase server).TakenFrom (topology server) client ∨
        (client = remote ∧ server = node) := by
  by_cases same : server = node
  · subst same
    rw [State.phase_setPhase_self, oneMore]
    simp
  · rw [state.phase_setPhase_of_ne phase same]
    simp [same]

/-- A node that sends one flag more makes one more flag pending. -/
theorem pending_setPhase_sent
    {remote : String}
    (oneMore :
      ∀ server, phase.SentTo (topology node) server ↔
        (state.phase node).SentTo (topology node) server ∨
          server = remote)
    (sameTaken :
      ∀ client, phase.TakenFrom (topology node) client ↔
        (state.phase node).TakenFrom (topology node) client)
    (notTaken : ¬ (state.phase remote).TakenFrom (topology remote) node)
    (client server : String) :
    Pending topology (state.setPhase node phase) client server ↔
      Pending topology state client server ∨
        (client = node ∧ server = remote) := by
  rw [Pending, Pending, sentTo_setPhase_or oneMore,
    takenFrom_setPhase sameTaken]
  constructor
  · intro isPending
    rcases isPending with ⟨wasSent | same, untaken⟩
    · exact .inl ⟨wasSent, untaken⟩
    · exact .inr same
  · intro cases
    rcases cases with ⟨wasSent, untaken⟩ | ⟨rfl, rfl⟩
    · exact ⟨.inl wasSent, untaken⟩
    · exact ⟨.inr ⟨rfl, rfl⟩, notTaken⟩

/-- A node that takes one flag more makes one flag less pending. -/
theorem pending_setPhase_taken
    {remote : String}
    (sameSent :
      ∀ server, phase.SentTo (topology node) server ↔
        (state.phase node).SentTo (topology node) server)
    (oneMore :
      ∀ client, phase.TakenFrom (topology node) client ↔
        (state.phase node).TakenFrom (topology node) client ∨
          client = remote)
    (client server : String) :
    Pending topology (state.setPhase node phase) client server ↔
      Pending topology state client server ∧
        ¬ (client = remote ∧ server = node) := by
  rw [Pending, Pending, sentTo_setPhase sameSent,
    takenFrom_setPhase_or oneMore, not_or, and_assoc]

end SetPhase

section Queues

variable {state : State} {node remote : String}

/-- A dispatched flag is appended to one queue. -/
theorem queued_dispatchFlag
    (rest : List String) (known : (state.clientConnMap remote node).isSome)
    (client server : String) :
    ((state.dispatchFlag node remote rest).clientConnMap server).queued
        client syncMsgid =
      if client = node ∧ server = remote then
        (state.clientConnMap server).queued client syncMsgid ++ [syncFlag]
      else (state.clientConnMap server).queued client syncMsgid := by
  by_cases sameServer : server = remote
  · subst sameServer
    simp only [State.dispatchFlag, Function.update_self, queued_afterSend]
    by_cases sameClient : client = node
    · subst sameClient
      simp [known]
    · simp [sameClient, Ne.symm sameClient]
  · simp [State.dispatchFlag, sameServer]

theorem isSome_dispatchFlag (rest : List String) (other id : String) :
    ((state.dispatchFlag node remote rest).clientConnMap other id).isSome =
      (state.clientConnMap other id).isSome := by
  by_cases same : other = remote
  · subst same
    simp [State.dispatchFlag, isSome_afterSend]
  · simp [State.dispatchFlag, same]

/-- The other queues keep their flags when one connection changes. -/
theorem queued_update_of_ne
    {remaining : ClientConnection} {client server : String}
    (elsewhere : ¬ (client = remote ∧ server = node)) :
    MapClientConn.queued
        (Function.update state.clientConnMap node
          (Function.update (state.clientConnMap node) remote
            (some remaining)) server) client syncMsgid =
      (state.clientConnMap server).queued client syncMsgid := by
  by_cases sameServer : server = node
  · subst sameServer
    have different : client ≠ remote := fun same => elsewhere ⟨same, rfl⟩
    simp [MapClientConn.queued, different]
  · simp [sameServer]

theorem isSome_update_of_known
    {remaining : ClientConnection}
    (known : (state.clientConnMap node remote).isSome) (other id : String) :
    (Function.update state.clientConnMap node
        (Function.update (state.clientConnMap node) remote
          (some remaining)) other id).isSome =
      (state.clientConnMap other id).isSome := by
  by_cases sameNode : other = node
  · subst sameNode
    by_cases sameId : id = remote
    · subst sameId
      simp [known]
    · simp [sameId]
  · simp [sameNode]

end Queues

namespace Synced

variable {nodes : Finset String} {topology : String → Topology}
variable {state : State}

theorem initial (isInitial : (machine nodes topology).initial state) :
    Synced nodes topology state := by
  rcases isInitial with ⟨phases, connections, servers, objects, -⟩
  have noneSent :
      ∀ client server,
        ¬ (state.phase client).SentTo (topology client) server := by
    intro client server
    rw [phases]
    exact not_false
  have noneTaken :
      ∀ client server,
        ¬ (state.phase server).TakenFrom (topology server) client := by
    intro client server
    rw [phases]
    exact not_false
  refine ⟨?_, ?_, ?_, ?_, ?_, ?_, ?_⟩
  · intro node _
    rw [phases, objects]
    rfl
  · intro node _
    simp [servers, phases]
  · intro node _ id
    simp [connections, phases]
  · intro client _ server _ pending
    exact absurd pending.1 (noneSent client server)
  · intro client _ server _ _
    simp [MapClientConn.queued, connections]
  · intro client _ server _ taken
    exact absurd taken (noneTaken client server)
  · intro client _ server _ sent
    exact absurd sent (noneSent client server)

theorem fits_setPhase
    (synced : Synced nodes topology state) {node : String} {phase : Phase}
    {objects : List String}
    (fits : phase.Fits (topology node) objects)
    {other : String} (isOther : other ∈ nodes) :
    ((state.setPhase node phase).phase other).Fits (topology other)
      (Function.update state.clientObjects node objects other) := by
  by_cases same : other = node
  · subst same
    rw [State.phase_setPhase_self, Function.update_self]
    exact fits
  · rw [state.phase_setPhase_of_ne phase same, Function.update_of_ne same]
    exact synced.fits other isOther

/-- A node may change its phase and its client objects when the flags it sent
and took stay the same. -/
theorem move
    (synced : Synced nodes topology state) {node : String} {phase : Phase}
    {objects : List String}
    (wasRegistered : state.phase node ≠ .registering)
    (isRegistered : phase ≠ .registering)
    (fits : phase.Fits (topology node) objects)
    (sameSent :
      ∀ server, phase.SentTo (topology node) server ↔
        (state.phase node).SentTo (topology node) server)
    (sameTaken :
      ∀ client, phase.TakenFrom (topology node) client ↔
        (state.phase node).TakenFrom (topology node) client) :
    Synced nodes topology
      { state.setPhase node phase with
        clientObjects :=
          Function.update state.clientObjects node objects } := by
  have registered := registered_setPhase wasRegistered isRegistered
  have sent := sentTo_setPhase sameSent
  have taken := takenFrom_setPhase sameTaken
  have pending := pending_setPhase sameSent sameTaken
  refine ⟨?_, ?_, ?_, ?_, ?_, ?_, ?_⟩
  · intro other isOther
    exact synced.fits_setPhase fits isOther
  · intro other isOther
    rw [registered]
    exact synced.started other isOther
  · intro other isOther id
    rw [registered]
    exact synced.registered other isOther id
  · intro client isClient server isServer isPending
    have wasPending := (pending client server).mp isPending
    exact synced.queued client isClient server isServer wasPending
  · intro client isClient server isServer notPending
    have wasNotPending := mt (pending client server).mpr notPending
    exact synced.unqueued client isClient server isServer wasNotPending
  · intro client isClient server isServer isTaken
    have wasTaken := (taken server client).mp isTaken
    exact (sent client server).mpr
      (synced.takenSent client isClient server isServer wasTaken)
  · intro client isClient server isServer isSent
    have wasSent := (sent client server).mp isSent
    exact synced.logged client isClient server isServer wasSent

theorem setPhase
    (synced : Synced nodes topology state) {node : String} {phase : Phase}
    (wasRegistered : state.phase node ≠ .registering)
    (isRegistered : phase ≠ .registering)
    (fits : phase.Fits (topology node) (state.clientObjects node))
    (sameSent :
      ∀ server, phase.SentTo (topology node) server ↔
        (state.phase node).SentTo (topology node) server)
    (sameTaken :
      ∀ client, phase.TakenFrom (topology node) client ↔
        (state.phase node).TakenFrom (topology node) client) :
    Synced nodes topology (state.setPhase node phase) := by
  have moved :=
    synced.move wasRegistered isRegistered fits sameSent sameTaken
  rwa [Function.update_eq_self] at moved

/-- Nothing is queued at a node that has not registered its clients. -/
theorem not_pending_of_registering
    (synced : Synced nodes topology state) {client server : String}
    (isClient : client ∈ nodes) (isServer : server ∈ nodes)
    (early : state.phase server = .registering) :
    ¬ Pending topology state client server := by
  intro pending
  have queued := synced.queued client isClient server isServer pending
  have absent : state.clientConnMap server client = none := by
    rw [← Option.not_isSome_iff_eq_none, synced.registered server isServer]
    exact fun registered => registered.1 early
  rw [MapClientConn.queued, absent] at queued
  cases queued

theorem register
    (synced : Synced nodes topology state) {node : String}
    (isNode : node ∈ nodes) (early : state.phase node = .registering) :
    Synced nodes topology (state.register node (topology node)) := by
  have sameSent :
      ∀ server,
        (Phase.building (topology node).serverInfos.ids).SentTo
            (topology node) server ↔
          (state.phase node).SentTo (topology node) server := by
    intro server
    rw [early]
    exact Iff.rfl
  have sameTaken :
      ∀ client,
        (Phase.building (topology node).serverInfos.ids).TakenFrom
            (topology node) client ↔
          (state.phase node).TakenFrom (topology node) client := by
    intro client
    rw [early]
    exact Iff.rfl
  have sent := sentTo_setPhase sameSent
  have taken := takenFrom_setPhase sameTaken
  have pending := pending_setPhase sameSent sameTaken
  have someClient :
      (topology node).clientNodeIds.size > 0 ↔
        ∃ id, id ∈ (topology node).clientNodeIds := by
    rw [gt_iff_lt, Nat.pos_iff_ne_zero, ne_eq,
      ← ExtTreeSet.eq_empty_iff_size_eq_zero,
      ExtTreeSet.eq_empty_iff_forall_not_mem, not_forall]
    simp only [not_not]
  refine ⟨?_, ?_, ?_, ?_, ?_, ?_, ?_⟩
  · intro other isOther
    have noObjects := synced.fits node isNode
    rw [early] at noObjects
    have fits :
        (Phase.building (topology node).serverInfos.ids).Fits
          (topology node) (state.clientObjects node) := by
      simpa [Phase.Fits] using noObjects
    have moved := synced.fits_setPhase fits isOther
    rwa [Function.update_eq_self] at moved
  · intro other isOther
    by_cases same : other = node
    · subst same
      simp [State.register, State.setPhase, ← someClient]
    · simpa [State.register, State.setPhase, same] using
        synced.started other isOther
  · intro other isOther id
    by_cases same : other = node
    · subst same
      by_cases isClient : id ∈ (topology other).clientNodeIds <;>
        simp [State.register, State.setPhase, isClient]
    · simpa [State.register, State.setPhase, same] using
        synced.registered other isOther id
  · intro client isClient server isServer isPending
    have wasPending := (pending client server).mp isPending
    have different : server ≠ node := by
      intro same
      subst same
      exact synced.not_pending_of_registering isClient isServer early wasPending
    have queued := synced.queued client isClient server isServer wasPending
    simpa [State.register, different] using queued
  · intro client isClient server isServer notPending
    by_cases same : server = node
    · subst same
      by_cases known : client ∈ (topology server).clientNodeIds <;>
        simp [State.register, MapClientConn.queued, known]
    · have wasNotPending := mt (pending client server).mpr notPending
      have unqueued :=
        synced.unqueued client isClient server isServer wasNotPending
      simpa [State.register, same] using unqueued
  · intro client isClient server isServer isTaken
    have wasTaken := (taken server client).mp isTaken
    exact (sent client server).mpr
      (synced.takenSent client isClient server isServer wasTaken)
  · intro client isClient server isServer isSent
    have wasSent := (sent client server).mp isSent
    exact synced.logged client isClient server isServer wasSent

/-- A node that still has to send a flag has not sent it. -/
theorem not_sentTo_of_sending
    {node remote : String} {rest : List String}
    (sending : state.phase node = .sending (remote :: rest) false) :
    ¬ (state.phase node).SentTo (topology node) remote := by
  rw [sending]
  intro sent
  rcases sent.2 with absent | ⟨answered, -⟩
  · exact absent (List.mem_cons_self ..)
  · cases answered

/-- A started server dispatches the flag of one of its clients. -/
theorem dispatchFlag
    (matched : Matched nodes topology)
    (synced : Synced nodes topology state) {node remote : String}
    {rest : List String} (isNode : node ∈ nodes)
    (sending : state.phase node = .sending (remote :: rest) false)
    (isStarted : state.serverStarted remote = true) :
    Synced nodes topology (state.dispatchFlag node remote rest) := by
  have fits := synced.fits node isNode
  rw [sending] at fits
  rcases fits with ⟨objects, distinct, remotes, -⟩
  have isServer := remotes remote (List.mem_cons_self ..)
  have isRemote := matched.closed node isNode remote (.inr isServer)
  have isClient := (matched.dual node isNode remote isRemote).mp isServer
  have remoteRegistered := ((synced.started remote isRemote).mp isStarted).1
  have known :
      (state.clientConnMap remote node).isSome :=
    (synced.registered remote isRemote node).mpr ⟨remoteRegistered, isClient⟩
  have notSent : ¬ (state.phase node).SentTo (topology node) remote :=
    not_sentTo_of_sending sending
  have notTaken : ¬ (state.phase remote).TakenFrom (topology remote) node :=
    fun isTaken =>
      notSent (synced.takenSent node isNode remote isRemote isTaken)
  have oneMore :
      ∀ server,
        (Phase.sending (remote :: rest) true).SentTo (topology node) server ↔
          (state.phase node).SentTo (topology node) server ∨
            server = remote := by
    rw [sending]
    exact Phase.sentTo_answered isServer
  have sameTaken :
      ∀ client,
        (Phase.sending (remote :: rest) true).TakenFrom
            (topology node) client ↔
          (state.phase node).TakenFrom (topology node) client := by
    intro client
    rw [sending]
    exact Iff.rfl
  have sent := sentTo_setPhase_or oneMore
  have taken := takenFrom_setPhase sameTaken
  have pending := pending_setPhase_sent oneMore sameTaken notTaken
  have queuedNow := queued_dispatchFlag rest known
  have wasRegistered : state.phase node ≠ .registering := by
    rw [sending]
    exact Phase.noConfusion
  have registered :=
    registered_setPhase wasRegistered
      (Phase.sending_ne_registering (remote :: rest) true)
  refine ⟨?_, ?_, ?_, ?_, ?_, ?_, ?_⟩
  · intro other isOther
    have answeredFits :
        (Phase.sending (remote :: rest) true).Fits (topology node)
          (state.clientObjects node) :=
      ⟨objects, distinct, remotes, fun _ => List.cons_ne_nil _ _⟩
    have moved := synced.fits_setPhase answeredFits isOther
    rwa [Function.update_eq_self] at moved
  · intro other isOther
    exact (synced.started other isOther).trans
      (and_congr_left' (registered other).symm)
  · intro other isOther id
    rw [isSome_dispatchFlag]
    exact (synced.registered other isOther id).trans
      (and_congr_left' (registered other).symm)
  · intro client isClientNode server isServerNode isPending
    rw [queuedNow]
    rcases (pending client server).mp isPending with older | ⟨rfl, rfl⟩
    · have elsewhere : ¬ (client = node ∧ server = remote) := by
        intro here
        rw [here.1, here.2] at older
        exact notSent older.1
      rw [if_neg elsewhere]
      exact synced.queued client isClientNode server isServerNode older
    · have empty :=
        synced.unqueued client isClientNode server isServerNode
          (fun older => notSent older.1)
      rw [if_pos ⟨rfl, rfl⟩, empty]
      rfl
  · intro client isClientNode server isServerNode notPending
    have neither := mt (pending client server).mpr notPending
    rw [not_or] at neither
    rw [queuedNow, if_neg neither.2]
    exact synced.unqueued client isClientNode server isServerNode neither.1
  · intro client isClientNode server isServerNode isTaken
    have wasTaken := (taken server client).mp isTaken
    have wasSent :=
      synced.takenSent client isClientNode server isServerNode wasTaken
    exact (sent client server).mpr (.inl wasSent)
  · intro client isClientNode server isServerNode isSent
    rcases (sent client server).mp isSent with older | ⟨rfl, rfl⟩
    · have logged :=
        synced.logged client isClientNode server isServerNode older
      simp [State.dispatchFlag, known, logged]
    · simp [State.dispatchFlag, known]

/-- A flag that a pass takes was pending, and its queue is empty then. -/
theorem pending_of_recvPass
    (synced : Synced nodes topology state) {node remote : String}
    {connection remaining : ClientConnection} {received : Received}
    (isNode : node ∈ nodes) (isRemote : remote ∈ nodes)
    (found : state.clientConnMap node remote = some connection)
    (passed : connection.recvPass syncMsgid = some (received, remaining)) :
    Pending topology state remote node ∧ remaining.queue syncMsgid = [] := by
  rcases ClientConnection.recvPass_eq_some passed with
    ⟨front, others, queue, -, remains, -⟩
  have wasPending : Pending topology state remote node := by
    by_contra notPending
    have empty := synced.unqueued remote isRemote node isNode notPending
    rw [MapClientConn.queued_of_known found, queue] at empty
    cases empty
  have single := synced.queued remote isRemote node isNode wasPending
  rw [MapClientConn.queued_of_known found, queue] at single
  have noOthers : others = [] := (List.cons.inj single).2
  exact ⟨wasPending, remains.trans noOthers⟩

/-- A node takes the flag of one of its clients. -/
theorem recvFlag
    (matched : Matched nodes topology)
    (synced : Synced nodes topology state) {node remote : String}
    {rest : List String} {connection remaining : ClientConnection}
    {received : Received} (isNode : node ∈ nodes)
    (receiving : state.phase node = .receiving (remote :: rest) false)
    (found : state.clientConnMap node remote = some connection)
    (passed : connection.recvPass syncMsgid = some (received, remaining)) :
    Synced nodes topology
      { state.setPhase node (.receiving rest false) with
        clientConnMap :=
          Function.update state.clientConnMap node
            (Function.update (state.clientConnMap node) remote
              (some remaining)) } := by
  have fits := synced.fits node isNode
  rw [receiving] at fits
  rcases fits with ⟨objects, distinct, remotes⟩
  rcases List.nodup_cons.mp distinct with ⟨notLater, laterDistinct⟩
  have isClient := remotes remote (List.mem_cons_self ..)
  have isRemote := matched.closed node isNode remote (.inl isClient)
  rcases synced.pending_of_recvPass isNode isRemote found passed with
    ⟨wasPending, drained⟩
  have known : (state.clientConnMap node remote).isSome := by
    rw [found]
    rfl
  have sameSent :
      ∀ server,
        (Phase.receiving rest false).SentTo (topology node) server ↔
          (state.phase node).SentTo (topology node) server := by
    intro server
    rw [receiving]
    exact Iff.rfl
  have oneMore :
      ∀ client,
        (Phase.receiving rest false).TakenFrom (topology node) client ↔
          (state.phase node).TakenFrom (topology node) client ∨
            client = remote := by
    rw [receiving]
    exact Phase.takenFrom_received isClient notLater
  have sent := sentTo_setPhase sameSent
  have taken := takenFrom_setPhase_or oneMore
  have pending := pending_setPhase_taken sameSent oneMore
  have wasRegistered : state.phase node ≠ .registering := by
    rw [receiving]
    exact Phase.noConfusion
  have registered :=
    registered_setPhase wasRegistered
      (Phase.receiving_ne_registering rest false)
  refine ⟨?_, ?_, ?_, ?_, ?_, ?_, ?_⟩
  · intro other isOther
    have laterFits :
        (Phase.receiving rest false).Fits (topology node)
          (state.clientObjects node) :=
      ⟨objects, laterDistinct,
        fun client member => remotes client (List.mem_cons_of_mem _ member)⟩
    have moved := synced.fits_setPhase laterFits isOther
    rwa [Function.update_eq_self] at moved
  · intro other isOther
    exact (synced.started other isOther).trans
      (and_congr_left' (registered other).symm)
  · intro other isOther id
    rw [isSome_update_of_known known]
    exact (synced.registered other isOther id).trans
      (and_congr_left' (registered other).symm)
  · intro client isClientNode server isServerNode isPending
    rcases (pending client server).mp isPending with ⟨older, elsewhere⟩
    rw [queued_update_of_ne elsewhere]
    exact synced.queued client isClientNode server isServerNode older
  · intro client isClientNode server isServerNode notPending
    by_cases here : client = remote ∧ server = node
    · rcases here with ⟨rfl, rfl⟩
      simp [MapClientConn.queued, drained]
    · have wasNotPending : ¬ Pending topology state client server :=
        fun older => notPending ((pending client server).mpr ⟨older, here⟩)
      rw [queued_update_of_ne here]
      exact synced.unqueued client isClientNode server isServerNode
        wasNotPending
  · intro client isClientNode server isServerNode isTaken
    apply (sent client server).mpr
    rcases (taken server client).mp isTaken with older | ⟨rfl, rfl⟩
    · exact synced.takenSent client isClientNode server isServerNode older
    · exact wasPending.1
  · intro client isClientNode server isServerNode isSent
    have wasSent := (sent client server).mp isSent
    exact synced.logged client isClientNode server isServerNode wasSent

theorem buildClient
    (synced : Synced nodes topology state) {node remote : String}
    {rest : List String} (isNode : node ∈ nodes)
    (building : state.phase node = .building (remote :: rest)) :
    Synced nodes topology
      { state.setPhase node (.building rest) with
        clientObjects :=
          Function.update state.clientObjects node
            (state.clientObjects node ++ [remote]) } := by
  have fits := synced.fits node isNode
  rw [building] at fits
  refine synced.move (by simp [building]) (by simp) ?_
    (by simp [building, Phase.SentTo]) (by simp [building, Phase.TakenFrom])
  simpa [Phase.Fits] using fits

/-- A node that has built its client objects sends to them in any order. -/
theorem beginSend
    (synced : Synced nodes topology state) {node : String}
    {order : List String} (isNode : node ∈ nodes)
    (building : state.phase node = .building [])
    (permuted : order.Perm (state.clientObjects node)) :
    Synced nodes topology (state.setPhase node (.sending order false)) := by
  have fits := synced.fits node isNode
  rw [building] at fits
  have objects :
      state.clientObjects node = (topology node).serverInfos.ids := by
    simpa [Phase.Fits] using fits
  rw [objects] at permuted
  refine synced.setPhase (by simp [building]) (by simp)
    ⟨objects, ?_, ?_, by simp⟩ ?_ (by simp [building, Phase.TakenFrom])
  · exact permuted.nodup_iff.mpr (topology node).serverInfos.nodup_ids
  · intro server member
    exact permuted.mem_iff.mp member
  · intro server
    simp [building, Phase.SentTo, permuted.mem_iff]

theorem reply
    (synced : Synced nodes topology state) {node remote : String}
    {rest : List String} (isNode : node ∈ nodes)
    (sending : state.phase node = .sending (remote :: rest) true) :
    Synced nodes topology (state.setPhase node (.sending rest false)) := by
  have fits := synced.fits node isNode
  rw [sending] at fits
  rcases fits with ⟨objects, distinct, remotes, -⟩
  rcases List.nodup_cons.mp distinct with ⟨notLater, laterDistinct⟩
  refine synced.setPhase (by simp [sending]) (by simp)
    ⟨objects, laterDistinct, ?_, by simp⟩ ?_
    (by simp [sending, Phase.TakenFrom])
  · intro server member
    exact remotes server (List.mem_cons_of_mem _ member)
  · intro server
    rw [sending]
    exact Phase.sentTo_replied notLater server

/-- A node that has sent its flags receives those of its clients in any
order. -/
theorem beginRecv
    (synced : Synced nodes topology state) {node : String}
    {order : List String} (isNode : node ∈ nodes)
    (sending : state.phase node = .sending [] false)
    (permuted : order.Perm (topology node).clientNodeIds.toList) :
    Synced nodes topology (state.setPhase node (.receiving order false)) := by
  have fits := synced.fits node isNode
  rw [sending] at fits
  refine synced.setPhase (by simp [sending]) (by simp)
    ⟨fits.1, ?_, ?_⟩ (by simp [sending, Phase.SentTo]) ?_
  · exact permuted.nodup_iff.mpr (nodup_toList _)
  · intro client member
    exact ExtTreeSet.mem_toList.mp (permuted.mem_iff.mp member)
  · intro client
    simp [sending, Phase.TakenFrom, permuted.mem_iff]

/-- A node that receives may fall asleep and wake up. -/
theorem setWaiting
    (synced : Synced nodes topology state) {node : String}
    {remaining : List String} {waiting : Bool} (isNode : node ∈ nodes)
    (receiving : state.phase node = .receiving remaining waiting)
    (nextWaiting : Bool) :
    Synced nodes topology
      (state.setPhase node (.receiving remaining nextWaiting)) := by
  have fits := synced.fits node isNode
  rw [receiving] at fits
  exact synced.setPhase (by simp [receiving]) (by simp) fits
    (by simp [receiving, Phase.SentTo]) (by simp [receiving, Phase.TakenFrom])

theorem finish
    (synced : Synced nodes topology state) {node : String}
    (isNode : node ∈ nodes)
    (receiving : state.phase node = .receiving [] false) :
    Synced nodes topology (state.setPhase node .returned) := by
  have fits := synced.fits node isNode
  rw [receiving] at fits
  exact synced.setPhase (by simp [receiving]) (by simp) fits.1
    (by simp [receiving, Phase.SentTo]) (by simp [receiving, Phase.TakenFrom])

theorem next
    {target : State} {label : Label}
    (matched : Matched nodes topology)
    (synced : Synced nodes topology state)
    (stepped : (machine nodes topology).next state label = some target) :
    Synced nodes topology target := by
  rcases label with ⟨node, action⟩
  simp only [machine] at stepped
  split at stepped
  case isFalse =>
    cases stepped
  case isTrue isNode =>
    cases action with
    | register =>
        simp only [State.act] at stepped
        split at stepped <;> cases stepped
        next early => exact synced.register isNode early
    | buildClient =>
        simp only [State.act] at stepped
        split at stepped <;> cases stepped
        next building => exact synced.buildClient isNode building
    | beginSend order =>
        simp only [State.act] at stepped
        split at stepped
        · next building =>
            split at stepped <;> cases stepped
            next permuted => exact synced.beginSend isNode building permuted
        · cases stepped
    | attempt =>
        simp only [State.act] at stepped
        split at stepped
        · next remote rest sending =>
            split at stepped <;> cases stepped
            · next isStarted =>
                exact synced.dispatchFlag matched isNode sending isStarted
            · exact synced
        · cases stepped
    | reply =>
        simp only [State.act] at stepped
        split at stepped <;> cases stepped
        next sending => exact synced.reply isNode sending
    | beginRecv order =>
        simp only [State.act] at stepped
        split at stepped
        · next sending =>
            split at stepped <;> cases stepped
            next permuted => exact synced.beginRecv isNode sending permuted
        · cases stepped
    | recvPass =>
        simp only [State.act] at stepped
        split at stepped
        · next remote rest receiving =>
            split at stepped <;> cases stepped
            next connection found =>
              rw [State.recvFlag]
              split
              · next received remaining passed =>
                  exact synced.recvFlag matched isNode receiving found passed
              · exact synced.setWaiting isNode receiving true
        · cases stepped
    | wake =>
        simp only [State.act] at stepped
        split at stepped <;> cases stepped
        next receiving => exact synced.setWaiting isNode receiving false
    | finish =>
        simp only [State.act] at stepped
        split at stepped <;> cases stepped
        next receiving => exact synced.finish isNode receiving

end Synced

end ChannelSdk.InitBarrier
