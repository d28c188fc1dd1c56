import ChannelSdk.NodeSession
import ChannelSdk.InitSettled

/-!
# Initialisation under the messages of the application

A session leaves a run of `init` alone behind when the messages of the
application are forgotten.  The relation says that every queue of the session
is the queue of that run followed by the messages that were dispatched and not
taken.  Each step of the initialisation keeps it: a flag is queued before any
message of its sender, and a receive that finds a queue empty has a sender
that has not returned.
-/

namespace ChannelSdk.NodeSession

open CheckedMemory
open InitBarrier
open Std (ExtTreeMap ExtTreeSet)

universe u

/-- What a step of `init` does to the phases. -/
theorem exists_phase_of_init
    {connSync : Bool} {nodes : Finset String} {topology : String → Topology}
    {state target : State} {label : InitBarrier.Label}
    (stepped :
      (initMachine connSync nodes topology).next state label =
        some target) :
    ∃ phase,
      target.phase = Function.update state.phase label.node phase ∧
        phase ≠ .registering ∧ state.phase label.node ≠ .returned := by
  obtain ⟨node, action⟩ := label
  have unmoved (phase : Phase) (current : state.phase node = phase) :
      state.phase = Function.update state.phase node phase := by
    rw [← current, Function.update_eq_self]
  cases connSync with
  | false =>
      rw [initMachine_false] at stepped
      simp only [pingMachine] at stepped
      split at stepped
      case isFalse => cases stepped
      case isTrue =>
        cases action with
        | beginRecv | recvPass | wake => cases stepped
        | register | buildClient | reply | finish =>
            simp only [State.actPing, State.act] at stepped
            split at stepped <;> cases stepped
            next current =>
              exact ⟨_, rfl, Phase.noConfusion, by simp [current]⟩
        | beginSend order =>
            simp only [State.actPing, State.act] at stepped
            split at stepped
            · next current =>
                split at stepped <;> cases stepped
                exact ⟨_, rfl, Phase.noConfusion, by simp [current]⟩
            · cases stepped
        | attempt =>
            simp only [State.actPing] at stepped
            split at stepped
            · next current =>
                split at stepped <;> cases stepped
                · exact ⟨_, rfl, Phase.noConfusion, by simp [current]⟩
                · exact ⟨_, unmoved _ current, Phase.noConfusion,
                    by simp [current]⟩
            · cases stepped
  | true =>
      rw [initMachine_true] at stepped
      simp only [InitBarrier.machine] at stepped
      split at stepped
      case isFalse => cases stepped
      case isTrue =>
        cases action with
        | register | buildClient | reply | wake | finish =>
            simp only [State.act] at stepped
            split at stepped <;> cases stepped
            next current =>
              exact ⟨_, rfl, Phase.noConfusion, by simp [current]⟩
        | beginSend order | beginRecv order =>
            simp only [State.act] at stepped
            split at stepped
            · next current =>
                split at stepped <;> cases stepped
                exact ⟨_, rfl, Phase.noConfusion, by simp [current]⟩
            · cases stepped
        | attempt =>
            simp only [State.act] at stepped
            split at stepped
            · next current =>
                split at stepped <;> cases stepped
                · exact ⟨_, rfl, Phase.noConfusion, by simp [current]⟩
                · exact ⟨_, unmoved _ current, Phase.noConfusion,
                    by simp [current]⟩
            · cases stepped
        | recvPass =>
            simp only [State.act] at stepped
            split at stepped
            · next current =>
                split at stepped <;> cases stepped
                unfold State.recvFlag
                split
                · exact ⟨_, rfl, Phase.noConfusion, by simp [current]⟩
                · exact ⟨_, rfl, Phase.noConfusion, by simp [current]⟩
            · cases stepped

/-- A node that has returned stays so. -/
theorem returned_of_init
    {connSync : Bool} {nodes : Finset String} {topology : String → Topology}
    {state target : State} {label : InitBarrier.Label}
    (stepped :
      (initMachine connSync nodes topology).next state label = some target)
    {node : String} (hasReturned : state.phase node = .returned) :
    target.phase node = .returned := by
  obtain ⟨phase, moved, -, unfinished⟩ := exists_phase_of_init stepped
  have different : node ≠ label.node := by
    intro same
    subst same
    exact unfinished hasReturned
  rw [moved, Function.update_of_ne different]
  exact hasReturned

/-- A registered node stays so. -/
theorem registered_of_init
    {connSync : Bool} {nodes : Finset String} {topology : String → Topology}
    {state target : State} {label : InitBarrier.Label}
    (stepped :
      (initMachine connSync nodes topology).next state label = some target)
    {node : String} (isRegistered : state.phase node ≠ .registering) :
    target.phase node ≠ .registering := by
  obtain ⟨phase, moved, notEarly, -⟩ := exists_phase_of_init stepped
  rw [moved]
  by_cases same : node = label.node
  · rw [same, Function.update_self]
    exact notEarly
  · rw [Function.update_of_ne same]
    exact isRegistered

/-- A dispatched message is appended to its channel if its sender is known, and
to no other. -/
theorem queueIn_send
    (connections : String → MapClientConn) (node remote msgid : String)
    (data : Bytes) (channel : Channel) :
    channel.queueIn
        (Function.update connections remote
          (afterSend (connections remote) ⟨msgid, node, data⟩)) =
      if (connections remote node).isSome ∧
          channel = ⟨node, remote, msgid⟩ then
        channel.queueIn connections ++ [data]
      else channel.queueIn connections := by
  obtain ⟨sender, receiver, tested⟩ := channel
  simp only [Channel.queueIn, Channel.mk.injEq]
  by_cases same : receiver = remote
  · subst same
    rw [Function.update_self, queued_afterSend]
    refine if_congr ?_ rfl rfl
    constructor
    · intro appended
      obtain ⟨isKnown, rfl, rfl⟩ := appended
      exact ⟨isKnown, rfl, rfl, rfl⟩
    · intro appended
      obtain ⟨isKnown, rfl, -, rfl⟩ := appended
      exact ⟨isKnown, rfl, rfl⟩
  · simp [same]

/-- A channel carries no flags if it has another message id or its receiver has
returned. -/
theorem queueIn_of_settled
    {nodes : Finset String} {topology : String → Topology} {image : State}
    (settled : Settled nodes topology image) {channel : Channel}
    (later :
      channel.msgid ≠ syncMsgid ∨
        channel.receiver ∈ nodes ∧
          image.phase channel.receiver = .returned) :
    channel.queueIn image.clientConnMap = [] := by
  by_cases isFlag : channel.msgid = syncMsgid
  · obtain different | ⟨isNode, hasReturned⟩ := later
    · exact absurd isFlag different
    · rw [Channel.queueIn, isFlag]
      exact settled.calm _ isNode hasReturned channel.sender
  · exact settled.quiet channel.receiver channel.sender channel.msgid isFlag

/-- A pass that takes a message takes the front one of its channel and leaves
the other channels alone. -/
theorem queueIn_take
    {connections : String → MapClientConn} {node remote msgid : String}
    {connection remaining : ClientConnection} {received : Received}
    (found : connections node remote = some connection)
    (passed : connection.recvPass msgid = some (received, remaining)) :
    ∃ front rest,
      Channel.queueIn ⟨remote, node, msgid⟩ connections = front :: rest ∧
        received = ⟨front.length, front⟩ ∧
        ∀ channel : Channel,
          channel.queueIn
              (Function.update connections node
                (Function.update (connections node) remote
                  (some remaining))) =
            if channel = ⟨remote, node, msgid⟩ then rest
            else channel.queueIn connections := by
  obtain ⟨front, rest, queue, taken, left, others⟩ :=
    ClientConnection.recvPass_eq_some passed
  refine ⟨front, rest, ?_, taken, ?_⟩
  · rw [Channel.queueIn, MapClientConn.queued_of_known found, queue]
  · intro channel
    obtain ⟨sender, receiver, tested⟩ := channel
    simp only [Channel.queueIn, Channel.mk.injEq]
    by_cases sameNode : receiver = node
    · subst sameNode
      by_cases sameRemote : sender = remote
      · subst sameRemote
        by_cases sameMsgid : tested = msgid
        · subst sameMsgid
          simp [MapClientConn.queued, left]
        · simp [MapClientConn.queued, sameMsgid, others tested sameMsgid,
            found]
      · simp [MapClientConn.queued, sameRemote]
    · simp [sameNode]

/-- A pass that finds nothing leaves an empty channel. -/
theorem queueIn_of_recvPass_eq_none
    {connections : String → MapClientConn} {node remote msgid : String}
    {connection : ClientConnection}
    (found : connections node remote = some connection) :
    connection.recvPass msgid = none ↔
      Channel.queueIn ⟨remote, node, msgid⟩ connections = [] := by
  rw [ClientConnection.recvPass_eq_none_iff, Channel.queueIn,
    MapClientConn.queued_of_known found]

section Relation

variable {Thread : Type u}

/-- A session over the initialisation that it leaves behind when the messages
of the application are forgotten. -/
structure Reflects (session : Session Thread) (image : State) : Prop where
  phase : session.network.phase = image.phase
  serverStarted : session.network.serverStarted = image.serverStarted
  clientObjects : session.network.clientObjects = image.clientObjects
  known :
    ∀ node id,
      (session.network.clientConnMap node id).isSome =
        (image.clientConnMap node id).isSome
  split :
    ∀ channel, ∃ unread,
      Session.dataOn session.taken channel ++ unread =
          Session.dataOn session.dispatched channel ∧
        session.queued channel =
          channel.queueIn image.clientConnMap ++ unread
  origin :
    ∀ entry ∈ session.dispatched,
      image.phase entry.channel.sender = .returned ∧
        image.phase entry.channel.receiver ≠ .registering

/-- The network and the image make the same step of the initialisation: the
messages of the application stay behind those of the image. -/
structure Follows (session : Session Thread) (image network next : State) :
    Prop where
  phase : network.phase = next.phase
  serverStarted : network.serverStarted = next.serverStarted
  clientObjects : network.clientObjects = next.clientObjects
  known :
    ∀ node id,
      (network.clientConnMap node id).isSome =
        (next.clientConnMap node id).isSome
  queues :
    ∀ channel unread,
      Session.dataOn session.taken channel ++ unread =
          Session.dataOn session.dispatched channel →
        session.queued channel =
          channel.queueIn image.clientConnMap ++ unread →
          channel.queueIn network.clientConnMap =
            channel.queueIn next.clientConnMap ++ unread

namespace Reflects

variable {session : Session Thread} {image : State}

/-- Nothing was dispatched on a channel whose sender has not returned or whose
receiver has not registered its clients. -/
theorem unread_eq_nil
    (reflects : Reflects session image) {channel : Channel}
    (early :
      image.phase channel.sender ≠ .returned ∨
        image.phase channel.receiver = .registering)
    {unread : List Bytes}
    (divided :
      Session.dataOn session.taken channel ++ unread =
        Session.dataOn session.dispatched channel) :
    unread = [] := by
  have nothing : Session.dataOn session.dispatched channel = [] := by
    refine KeyedLog.valuesAt_eq_nil _ _ ?_
    intro entry member same
    obtain ⟨hasReturned, isRegistered⟩ := reflects.origin entry member
    rw [same] at hasReturned isRegistered
    obtain unfinished | registering := early
    · exact unfinished hasReturned
    · exact isRegistered registering
  rw [nothing] at divided
  exact (List.append_eq_nil_iff.mp divided).2

theorem follow
    (reflects : Reflects session image) {network next : State}
    (follows : Follows session image network next)
    (stays :
      ∀ node, image.phase node = .returned → next.phase node = .returned)
    (keeps :
      ∀ node, image.phase node ≠ .registering →
        next.phase node ≠ .registering) :
    Reflects { session with network := network } next := by
  refine ⟨follows.phase, follows.serverStarted, follows.clientObjects,
    follows.known, ?_, ?_⟩
  · intro channel
    obtain ⟨unread, divided, queued⟩ := reflects.split channel
    exact ⟨unread, divided, follows.queues channel unread divided queued⟩
  · intro entry member
    obtain ⟨hasReturned, isRegistered⟩ := reflects.origin entry member
    exact ⟨stays _ hasReturned, keeps _ isRegistered⟩

theorem follows_self (reflects : Reflects session image) :
    Follows session image session.network image :=
  ⟨reflects.phase, reflects.serverStarted, reflects.clientObjects,
    reflects.known, fun _ _ _ queued => queued⟩

theorem follows_setPhase (reflects : Reflects session image)
    (node : String) (phase : Phase) :
    Follows session image (session.network.setPhase node phase)
      (image.setPhase node phase) where
  phase := by
    rw [State.setPhase, State.setPhase, reflects.phase]
  serverStarted := reflects.serverStarted
  clientObjects := reflects.clientObjects
  known := reflects.known
  queues := fun _ _ _ queued => queued

theorem follows_register
    (reflects : Reflects session image) {node : String}
    (early : image.phase node = .registering) (sets : Topology) :
    Follows session image (session.network.register node sets)
      (image.register node sets) where
  phase := (reflects.follows_setPhase node _).phase
  serverStarted := by
    rw [State.register, State.register, reflects.serverStarted]
  clientObjects := reflects.clientObjects
  known := by
    intro other id
    by_cases same : other = node
    · subst same
      simp [State.register]
    · simpa [State.register, same] using reflects.known other id
  queues := by
    intro channel unread divided queued
    by_cases same : channel.receiver = node
    · have nothing :=
        reflects.unread_eq_nil (.inr (same ▸ early)) divided
      simp [Channel.queueIn, State.register, same, nothing]
    · simpa [Session.queued, Channel.queueIn, State.register, same] using
        queued

theorem follows_buildClient (reflects : Reflects session image)
    (node remote : String) (rest : List String) :
    Follows session image
      { session.network.setPhase node (.building rest) with
        clientObjects :=
          Function.update session.network.clientObjects node
            (session.network.clientObjects node ++ [remote]) }
      { image.setPhase node (.building rest) with
        clientObjects :=
          Function.update image.clientObjects node
            (image.clientObjects node ++ [remote]) } where
  phase := (reflects.follows_setPhase node _).phase
  serverStarted := reflects.serverStarted
  clientObjects := by
    rw [reflects.clientObjects]
  known := reflects.known
  queues := fun _ _ _ queued => queued

/-- The flag of a node is queued before the messages of its application. -/
theorem follows_dispatchFlag
    (reflects : Reflects session image) {node : String}
    (unfinished : image.phase node ≠ .returned) (remote : String)
    (rest : List String) :
    Follows session image (session.network.dispatchFlag node remote rest)
      (image.dispatchFlag node remote rest) where
  phase := (reflects.follows_setPhase node _).phase
  serverStarted := reflects.serverStarted
  clientObjects := reflects.clientObjects
  known := by
    intro other id
    rw [isSome_dispatchFlag, isSome_dispatchFlag]
    exact reflects.known other id
  queues := by
    intro channel unread divided queued
    simp only [State.dispatchFlag, queueIn_send,
      reflects.known remote node]
    split
    · next sent =>
        have nothing : unread = [] := by
          refine reflects.unread_eq_nil (.inl ?_) divided
          rw [sent.2]
          exact unfinished
        rw [Session.queued, nothing, List.append_nil] at queued
        rw [queued, nothing, List.append_nil]
    · exact queued

/-- A receive of the initialisation takes the same flag from both queues. -/
theorem follows_recvFlag
    {nodes : Finset String} {topology : String → Topology}
    (settled : Settled nodes topology image)
    (reflects : Reflects session image) {node remote : String}
    {rest : List String} (isNode : node ∈ nodes)
    (receiving : image.phase node = .receiving (remote :: rest) false)
    {connection imageConnection : ClientConnection}
    (found : session.network.clientConnMap node remote = some connection)
    (imageFound : image.clientConnMap node remote = some imageConnection) :
    Follows session image
      (session.network.recvFlag node remote rest connection)
      (image.recvFlag node remote rest imageConnection) := by
  obtain ⟨flagged, flagsDivided, flagsQueued⟩ :=
    reflects.split ⟨remote, node, syncMsgid⟩
  rw [Session.queued] at flagsQueued
  cases imagePassed : imageConnection.recvPass syncMsgid with
  | none =>
      have imageEmpty :=
        (queueIn_of_recvPass_eq_none imageFound).mp imagePassed
      -- A sender that has returned would have left its flag.
      have unfinished : image.phase remote ≠ .returned := by
        intro hasReturned
        exact settled.awaited node isNode remote rest false receiving
          hasReturned imageEmpty
      have nothing := reflects.unread_eq_nil (.inl unfinished) flagsDivided
      have passed : connection.recvPass syncMsgid = none := by
        rw [queueIn_of_recvPass_eq_none found, flagsQueued, imageEmpty,
          nothing, List.append_nil]
      rw [State.recvFlag, State.recvFlag, passed, imagePassed]
      exact reflects.follows_setPhase node _
  | some imageTaken =>
      obtain ⟨imageReceived, imageRemaining⟩ := imageTaken
      obtain ⟨flag, imageRest, imageQueue, -, imageLeft⟩ :=
        queueIn_take imageFound imagePassed
      rw [imageQueue, List.cons_append] at flagsQueued
      cases passed : connection.recvPass syncMsgid with
      | none =>
          rw [(queueIn_of_recvPass_eq_none found).mp passed] at flagsQueued
          cases flagsQueued
      | some taken =>
          obtain ⟨received, remaining⟩ := taken
          obtain ⟨front, after, queue, -, left⟩ := queueIn_take found passed
          rw [State.recvFlag, State.recvFlag, passed, imagePassed]
          refine ⟨(reflects.follows_setPhase node _).phase,
            reflects.serverStarted, reflects.clientObjects, ?_, ?_⟩
          · intro other id
            rw [isSome_update_of_known (by simp [found]),
              isSome_update_of_known (by simp [imageFound])]
            exact reflects.known other id
          · intro channel unread divided queued
            rw [left, imageLeft]
            split
            · next same =>
                subst same
                rw [Session.queued, queue, imageQueue,
                  List.cons_append] at queued
                exact (List.cons.inj queued).2
            · exact queued

/-- Every action with flags is also one of the image. -/
theorem follows_act
    {nodes : Finset String} {topology : String → Topology}
    (settled : Settled nodes topology image)
    (reflects : Reflects session image) {node : String} {action : Action}
    {network : State} (isNode : node ∈ nodes)
    (acted :
      session.network.act (topology node) node action = some network) :
    ∃ next,
      image.act (topology node) node action = some next ∧
        Follows session image network next := by
  have same := congrFun reflects.phase node
  cases action with
  | register =>
      simp only [State.act] at acted ⊢
      split at acted <;> cases acted
      next current =>
        rw [← same, current]
        exact ⟨_, rfl, reflects.follows_register (same ▸ current) _⟩
  | buildClient =>
      simp only [State.act] at acted ⊢
      split at acted <;> cases acted
      next current =>
        rw [← same, current]
        exact ⟨_, rfl, reflects.follows_buildClient node _ _⟩
  | beginSend order =>
      simp only [State.act] at acted ⊢
      split at acted
      · next current =>
          split at acted <;> cases acted
          next permuted =>
            rw [← same, current, ← reflects.clientObjects]
            exact ⟨_, if_pos permuted, reflects.follows_setPhase node _⟩
      · cases acted
  | attempt =>
      simp only [State.act] at acted ⊢
      split at acted
      · next remote rest current =>
          rw [← same, current, ← reflects.serverStarted]
          split at acted <;> cases acted
          · next isStarted =>
              have unfinished : image.phase node ≠ .returned := by
                rw [← same, current]
                exact Phase.noConfusion
              exact ⟨_, if_pos isStarted,
                reflects.follows_dispatchFlag unfinished remote rest⟩
          · next notStarted =>
              exact ⟨_, if_neg notStarted, reflects.follows_self⟩
      · cases acted
  | reply =>
      simp only [State.act] at acted ⊢
      split at acted <;> cases acted
      next current =>
        rw [← same, current]
        exact ⟨_, rfl, reflects.follows_setPhase node _⟩
  | beginRecv order =>
      simp only [State.act] at acted ⊢
      split at acted
      · next current =>
          split at acted <;> cases acted
          next permuted =>
            rw [← same, current]
            exact ⟨_, if_pos permuted, reflects.follows_setPhase node _⟩
      · cases acted
  | recvPass =>
      simp only [State.act] at acted ⊢
      split at acted
      · next remote rest current =>
          split at acted <;> cases acted
          next connection found =>
            have isKnown := reflects.known node remote
            rw [found] at isKnown
            obtain ⟨imageConnection, imageFound⟩ :=
              Option.isSome_iff_exists.mp isKnown.symm
            rw [← same, current]
            simp only [imageFound]
            exact ⟨_, rfl,
              reflects.follows_recvFlag settled isNode (same ▸ current)
                found imageFound⟩
      · cases acted
  | wake =>
      simp only [State.act] at acted ⊢
      split at acted <;> cases acted
      next current =>
        rw [← same, current]
        exact ⟨_, rfl, reflects.follows_setPhase node _⟩
  | finish =>
      simp only [State.act] at acted ⊢
      split at acted <;> cases acted
      next current =>
        rw [← same, current]
        exact ⟨_, rfl, reflects.follows_setPhase node _⟩

/-- Every action with pings is also one of the image. -/
theorem follows_actPing
    {nodes : Finset String} {topology : String → Topology}
    (settled : Settled nodes topology image)
    (reflects : Reflects session image) {node : String} {action : Action}
    {network : State} (isNode : node ∈ nodes)
    (acted :
      session.network.actPing (topology node) node action =
        some network) :
    ∃ next,
      image.actPing (topology node) node action = some next ∧
        Follows session image network next := by
  have same := congrFun reflects.phase node
  cases action with
  | register | buildClient | beginSend order | reply =>
      simp only [State.actPing] at acted ⊢
      exact reflects.follows_act settled isNode acted
  | attempt =>
      simp only [State.actPing, State.dispatchPing_eq] at acted ⊢
      split at acted
      · next current =>
          rw [← same, current, ← reflects.serverStarted]
          split at acted <;> cases acted
          · next isStarted =>
              exact ⟨_, if_pos isStarted, reflects.follows_setPhase node _⟩
          · next notStarted =>
              exact ⟨_, if_neg notStarted, reflects.follows_self⟩
      · cases acted
  | finish =>
      simp only [State.actPing] at acted ⊢
      split at acted <;> cases acted
      next current =>
        rw [← same, current]
        exact ⟨_, rfl, reflects.follows_setPhase node _⟩
  | beginRecv | recvPass | wake => cases acted

/-- A step of the initialisation is also one of the image. -/
theorem init_step
    {connSync : Bool} {nodes : Finset String} {topology : String → Topology}
    (settled : Settled nodes topology image)
    (reflects : Reflects session image) {label : InitBarrier.Label}
    {network : State}
    (stepped :
      (initMachine connSync nodes topology).next session.network label =
        some network) :
    ∃ next,
      (initMachine connSync nodes topology).next image label = some next ∧
        Reflects { session with network := network } next := by
  have followed :
      ∃ next,
        (initMachine connSync nodes topology).next image label =
            some next ∧
          Follows session image network next := by
    cases connSync with
    | false =>
        simp only [initMachine_false, pingMachine] at stepped ⊢
        split at stepped
        · next isNode =>
            rw [if_pos isNode]
            exact reflects.follows_actPing settled isNode stepped
        · cases stepped
    | true =>
        simp only [initMachine_true, InitBarrier.machine] at stepped ⊢
        split at stepped
        · next isNode =>
            rw [if_pos isNode]
            exact reflects.follows_act settled isNode stepped
        · cases stepped
  obtain ⟨next, moved, follows⟩ := followed
  exact ⟨next, moved,
    reflects.follow follows (fun _ => returned_of_init moved)
      (fun _ => registered_of_init moved)⟩

/-- The image does not see what the threads do. -/
theorem of_unlogged
    (reflects : Reflects session image) {target : Session Thread}
    (network : target.network = session.network)
    (dispatched : target.dispatched = session.dispatched)
    (taken : target.taken = session.taken) :
    Reflects target image := by
  obtain ⟨phase, serverStarted, clientObjects, known, split, origin⟩ :=
    reflects
  constructor
  all_goals
    simp only [Session.queued, network, dispatched, taken]
    assumption

/-- A server that a returned node sends to has started and knows it. -/
theorem serves
    {nodes : Finset String} {topology : String → Topology}
    (reflects : Reflects session image)
    (settled : Settled nodes topology image) {node server : String}
    (isNode : node ∈ nodes)
    (hasReturned : session.network.phase node = .returned)
    (isServer : server ∈ (topology node).serverInfos.ids) :
    session.network.serverStarted server = true ∧
      (session.network.clientConnMap server node).isSome := by
  rw [reflects.phase] at hasReturned
  rw [reflects.serverStarted, reflects.known]
  exact settled.serves node isNode hasReturned server isServer

/-- Only messages of the application are queued on a channel that carries no
flags any more. -/
theorem queued_of_flagless
    (reflects : Reflects session image) {channel : Channel}
    (flagless : channel.queueIn image.clientConnMap = []) :
    Session.dataOn session.taken channel ++ session.queued channel =
      Session.dataOn session.dispatched channel := by
  obtain ⟨unread, divided, queued⟩ := reflects.split channel
  rw [queued, flagless, List.nil_append, divided]

/-- Whether a node can act does not depend on the messages of the
application. -/
theorem isSome_act (reflects : Reflects session image) (sets : Topology)
    (node : String) (action : Action) :
    (session.network.act sets node action).isSome =
      (image.act sets node action).isSome := by
  cases action with
  | register | buildClient | reply | wake | finish =>
      simp only [State.act, reflects.phase]
      split
      · rfl
      · rfl
  | beginSend order | beginRecv order =>
      simp only [State.act, reflects.phase, reflects.clientObjects]
      split
      · split
        · rfl
        · rfl
      · rfl
  | attempt =>
      simp only [State.act, reflects.phase, reflects.serverStarted]
      split
      · split
        · rfl
        · rfl
      · rfl
  | recvPass =>
      simp only [State.act, reflects.phase]
      split
      · next remote rest _ =>
          have isKnown := reflects.known node remote
          split
          · next found =>
              rw [found] at isKnown
              obtain ⟨imageConnection, imageFound⟩ :=
                Option.isSome_iff_exists.mp isKnown.symm
              simp [imageFound]
          · next found =>
              rw [found] at isKnown
              have imageMissing : image.clientConnMap node remote = none :=
                Option.not_isSome_iff_eq_none.mp (by simp [← isKnown])
              simp [imageMissing]
      · rfl

theorem isSome_actPing (reflects : Reflects session image)
    (sets : Topology) (node : String) (action : Action) :
    (session.network.actPing sets node action).isSome =
      (image.actPing sets node action).isSome := by
  cases action with
  | register | buildClient | beginSend order | reply =>
      simp only [State.actPing]
      exact reflects.isSome_act sets node _
  | attempt =>
      simp only [State.actPing, reflects.phase, reflects.serverStarted]
      split
      · split
        · rfl
        · rfl
      · rfl
  | finish =>
      simp only [State.actPing, reflects.phase]
      split
      · rfl
      · rfl
  | beginRecv | recvPass | wake => rfl

/-- Every step of the image can be made. -/
theorem exists_init_step
    {connSync : Bool} {nodes : Finset String} {topology : String → Topology}
    (settled : Settled nodes topology image)
    (reflects : Reflects session image) {label : InitBarrier.Label}
    {next : State}
    (imageStepped :
      (initMachine connSync nodes topology).next image label = some next) :
    ∃ network,
      (initMachine connSync nodes topology).next session.network label =
          some network ∧
        Reflects { session with network := network } next := by
  have enabled :
      ((initMachine connSync nodes topology).next session.network
        label).isSome := by
    have imageEnabled := Option.isSome_of_eq_some imageStepped
    cases connSync with
    | false =>
        simp only [initMachine_false, pingMachine] at imageEnabled ⊢
        split at imageEnabled
        · next isNode =>
            rw [if_pos isNode, reflects.isSome_actPing]
            exact imageEnabled
        · cases imageEnabled
    | true =>
        simp only [initMachine_true, InitBarrier.machine]
          at imageEnabled ⊢
        split at imageEnabled
        · next isNode =>
            rw [if_pos isNode, reflects.isSome_act]
            exact imageEnabled
        · cases imageEnabled
  obtain ⟨network, stepped⟩ := Option.isSome_iff_exists.mp enabled
  obtain ⟨same, sameStepped, nextReflects⟩ :=
    reflects.init_step settled stepped
  rw [imageStepped] at sameStepped
  cases sameStepped
  exact ⟨network, stepped, nextReflects⟩

end Reflects

end Relation

end ChannelSdk.NodeSession
