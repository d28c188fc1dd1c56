import ChannelSdk.SessionInit
import ChannelSdk.Lib.Simulation

/-!
# Delivery across a deployment

A session simulates the initialisation of its nodes.  A thread only acts for a
node whose `init` has returned, and its steps are none of the simulated run.
What the initialisation guarantees to such a node then gives the laws of
delivery.
-/

namespace ChannelSdk.NodeSession

open CheckedMemory
open InitBarrier
open Std (ExtTreeMap ExtTreeSet)

universe u

section Threads

variable {Thread : Type u} [DecidableEq Thread]

/-- What the threads of a session owe to their nodes: a thread acts for a node
that has returned, with its servers and its clients, and the calls of a thread
are its dispatched messages followed by the one it is about to send. -/
structure Disciplined (topology : String → Topology) (home : Thread → String)
    (session : Session Thread) : Prop where
  ready :
    ∀ thread, ¬ (session.threads thread).Free →
      session.network.phase (home thread) = .returned
  connected :
    ∀ thread remote msgid data,
      session.threads thread = .sending remote msgid data →
        remote ∈ (topology (home thread)).serverInfos.ids
  listening :
    ∀ thread remote msgid waiting,
      session.threads thread = .receiving remote msgid waiting →
        remote ∈ (topology (home thread)).clientNodeIds
  accounts :
    ∀ thread channel,
      Session.dataBy session.dispatched thread channel ++
          session.pending home thread channel =
        Session.dataBy session.called thread channel

theorem Place.pending_of_free
    {place : Place} (free : place.Free) (home : String)
    (channel : Channel) : place.pending home channel = [] := by
  cases place with
  | sending => exact free.elim
  | idle | answered | sent | receiving | received | failed => rfl

/-- A message that one thread logs is not one of another thread. -/
theorem dataBy_concat_of_ne
    (log : List (Entry Thread)) {entry : Entry Thread} {thread : Thread}
    (different : thread ≠ entry.thread) (channel : Channel) :
    Session.dataBy (log ++ [entry]) thread channel =
      Session.dataBy log thread channel := by
  rw [Session.dataBy, KeyedLog.valuesAt_concat, if_neg]
  · rfl
  · intro same
    exact different (Prod.mk.inj same).1.symm

theorem dataBy_concat_self
    (log : List (Entry Thread)) (thread : Thread) (sent tested : Channel)
    (data : Bytes) :
    Session.dataBy (log ++ [⟨thread, sent, data⟩]) thread tested =
      Session.dataBy log thread tested ++
        (if tested = sent then [data] else []) := by
  rw [Session.dataBy, KeyedLog.valuesAt_concat]
  by_cases same : tested = sent
  · subst same
    simp [Session.dataBy]
  · simp [Session.dataBy, same, Ne.symm same]

namespace Disciplined

variable {topology : String → Topology} {home : Thread → String}
variable {session target : Session Thread}

/-- One thread moves to another place and accounts for it. -/
theorem update
    (disciplined : Disciplined topology home session) {thread : Thread}
    {place : Place}
    (threads :
      target.threads = Function.update session.threads thread place)
    (phase : target.network.phase = session.network.phase)
    (ready : ¬ place.Free → session.network.phase (home thread) = .returned)
    (connected :
      ∀ remote msgid data, place = .sending remote msgid data →
        remote ∈ (topology (home thread)).serverInfos.ids)
    (listening :
      ∀ remote msgid waiting, place = .receiving remote msgid waiting →
        remote ∈ (topology (home thread)).clientNodeIds)
    (others :
      ∀ other, other ≠ thread → ∀ channel,
        Session.dataBy target.dispatched other channel =
            Session.dataBy session.dispatched other channel ∧
          Session.dataBy target.called other channel =
            Session.dataBy session.called other channel)
    (own :
      ∀ channel,
        Session.dataBy target.dispatched thread channel ++
            place.pending (home thread) channel =
          Session.dataBy target.called thread channel) :
    Disciplined topology home target := by
  constructor
  · intro other busy
    rw [threads] at busy
    rw [phase]
    by_cases same : other = thread
    · subst same
      rw [Function.update_self] at busy
      exact ready busy
    · rw [Function.update_of_ne same] at busy
      exact disciplined.ready other busy
  · intro other remote msgid data sending
    rw [threads] at sending
    by_cases same : other = thread
    · subst same
      rw [Function.update_self] at sending
      exact connected remote msgid data sending
    · rw [Function.update_of_ne same] at sending
      exact disciplined.connected other remote msgid data sending
  · intro other remote msgid waiting receiving
    rw [threads] at receiving
    by_cases same : other = thread
    · subst same
      rw [Function.update_self] at receiving
      exact listening remote msgid waiting receiving
    · rw [Function.update_of_ne same] at receiving
      exact disciplined.listening other remote msgid waiting receiving
  · intro other channel
    rw [Session.pending, threads]
    by_cases same : other = thread
    · subst same
      rw [Function.update_self]
      exact own channel
    · obtain ⟨sameDispatched, sameCalled⟩ := others other same channel
      rw [Function.update_of_ne same, sameDispatched, sameCalled]
      exact disciplined.accounts other channel

/-- A thread that neither starts nor ends a delivery leaves the accounts
alone. -/
theorem setPlace
    (disciplined : Disciplined topology home session) {thread : Thread}
    {place : Place}
    (threads :
      target.threads = Function.update session.threads thread place)
    (phase : target.network.phase = session.network.phase)
    (dispatched : target.dispatched = session.dispatched)
    (called : target.called = session.called)
    (ready : ¬ place.Free → session.network.phase (home thread) = .returned)
    (listening :
      ∀ remote msgid waiting, place = .receiving remote msgid waiting →
        remote ∈ (topology (home thread)).clientNodeIds)
    (before :
      ∀ channel,
        (session.threads thread).pending (home thread) channel = [])
    (after : ∀ remote msgid data, place ≠ .sending remote msgid data) :
    Disciplined topology home target := by
  refine disciplined.update threads phase ready ?_ listening ?_ ?_
  · intro remote msgid data sending
    exact absurd sending (after remote msgid data)
  · intro other _ channel
    rw [dispatched, called]
    exact ⟨rfl, rfl⟩
  · intro channel
    have accounted := disciplined.accounts thread channel
    rw [Session.pending, before, List.append_nil] at accounted
    have nothing : place.pending (home thread) channel = [] := by
      cases place with
      | sending remote msgid data =>
          exact absurd rfl (after remote msgid data)
      | idle | answered | sent | receiving | received | failed => rfl
    rw [dispatched, called, nothing, List.append_nil, accounted]

/-- A thread leaves a call in which it had nothing to deliver. -/
theorem release
    (disciplined : Disciplined topology home session) {thread : Thread}
    {place : Place} (free : place.Free)
    (before :
      ∀ channel,
        (session.threads thread).pending (home thread) channel = []) :
    Disciplined topology home (session.setPlace thread place) := by
  refine disciplined.setPlace rfl rfl rfl rfl ?_ ?_ before ?_
  · exact fun busy => absurd free busy
  · intro remote msgid waiting receiving
    rw [receiving] at free
    exact free.elim
  · intro remote msgid data sending
    rw [sending] at free
    exact free.elim

end Disciplined

section Steps

variable {nodes : Finset String} {topology : String → Topology}
variable {home : Thread → String} {session target : Session Thread}
variable {image : State}

namespace Reflects

theorem dispatch
    (reflects : Reflects session image)
    (settled : Settled nodes topology image)
    (matched : Matched nodes topology) {thread : Thread}
    {remote msgid : String} {data : Bytes}
    (isNode : home thread ∈ nodes)
    (hasReturned : session.network.phase (home thread) = .returned)
    (isServer : remote ∈ (topology (home thread)).serverInfos.ids) :
    Reflects (session.dispatch thread (home thread) remote msgid data)
      image := by
  obtain ⟨isStarted, isKnown⟩ :=
    reflects.serves settled isNode hasReturned isServer
  refine ⟨reflects.phase, reflects.serverStarted, reflects.clientObjects,
    ?_, ?_, ?_⟩
  · intro node id
    rw [← reflects.known]
    by_cases same : node = remote
    · subst same
      simp [Session.dispatch, isSome_afterSend]
    · simp [Session.dispatch, same]
  · intro channel
    obtain ⟨unread, divided, queued⟩ := reflects.split channel
    rw [Session.queued] at queued
    simp only [Session.dispatch, Session.setPlace, Session.queued,
      queueIn_send, Session.dataOn, KeyedLog.valuesAt_concat]
    by_cases same : channel = ⟨home thread, remote, msgid⟩
    · refine ⟨unread ++ [data], ?_, ?_⟩
      · rw [if_pos same.symm, ← List.append_assoc]
        exact congrArg (· ++ [data]) divided
      · rw [if_pos ⟨isKnown, same⟩, queued, List.append_assoc]
    · refine ⟨unread, ?_, ?_⟩
      · rw [if_neg (Ne.symm same)]
        exact divided
      · rw [if_neg (fun appended => same appended.2), queued]
  · intro entry member
    obtain wasLogged | isNew := List.mem_append.mp member
    · exact reflects.origin entry wasLogged
    · obtain rfl := List.mem_singleton.mp isNew
      have isRemote := matched.closed _ isNode remote (.inr isServer)
      rw [reflects.phase] at hasReturned
      rw [reflects.serverStarted] at isStarted
      exact ⟨hasReturned, ((settled.started remote isRemote).mp isStarted).1⟩

theorem pass
    (reflects : Reflects session image)
    (settled : Settled nodes topology image) {thread : Thread}
    {remote msgid : String} {connection : ClientConnection}
    (isNode : home thread ∈ nodes)
    (hasReturned : session.network.phase (home thread) = .returned)
    (found :
      session.network.clientConnMap (home thread) remote =
        some connection) :
    Reflects (session.pass thread (home thread) remote msgid connection)
      image := by
  cases passed : connection.recvPass msgid with
  | none =>
      rw [Session.pass, passed]
      exact reflects.of_unlogged rfl rfl rfl
  | some outcome =>
      obtain ⟨received, remaining⟩ := outcome
      obtain ⟨front, rest, queue, rfl, left⟩ := queueIn_take found passed
      rw [Session.pass, passed]
      refine ⟨reflects.phase, reflects.serverStarted,
        reflects.clientObjects, ?_, ?_, reflects.origin⟩
      · intro node id
        rw [← reflects.known]
        exact isSome_update_of_known (by simp [found]) node id
      · intro channel
        simp only [Session.setPlace, Session.queued, left, Session.dataOn,
          KeyedLog.valuesAt_concat]
        obtain ⟨unread, divided, queued⟩ := reflects.split channel
        by_cases same : channel = ⟨remote, home thread, msgid⟩
        · subst same
          have flagless :
              Channel.queueIn ⟨remote, home thread, msgid⟩
                image.clientConnMap = [] :=
            queueIn_of_settled settled
              (.inr ⟨isNode, reflects.phase ▸ hasReturned⟩)
          rw [Session.queued, queue, flagless, List.nil_append] at queued
          subst queued
          refine ⟨rest, ?_, ?_⟩
          · rw [if_pos rfl, List.append_assoc]
            exact divided
          · rw [if_pos rfl, flagless, List.nil_append]
        · refine ⟨unread, ?_, ?_⟩
          · rw [if_neg (Ne.symm same)]
            exact divided
          · rw [if_neg same]
            exact queued

end Reflects

namespace Disciplined

theorem callSend
    (disciplined : Disciplined topology home session) {thread : Thread}
    {remote msgid : String} {data : Bytes}
    (free : (session.threads thread).Free)
    (hasReturned : session.network.phase (home thread) = .returned)
    (objects :
      session.network.clientObjects (home thread) =
        (topology (home thread)).serverInfos.ids) :
    Disciplined topology home
      (session.callSend thread (home thread) remote msgid data) := by
  unfold Session.callSend
  split
  · next isServer =>
      refine disciplined.update rfl rfl (fun _ => hasReturned) ?_ ?_ ?_ ?_
      · intro tested _ _ sending
        cases sending
        exact objects ▸ isServer
      · intro _ _ _ receiving
        cases receiving
      · intro other different channel
        exact ⟨rfl, dataBy_concat_of_ne _ different channel⟩
      · intro channel
        have accounted := disciplined.accounts thread channel
        rw [Session.pending, Place.pending_of_free free,
          List.append_nil] at accounted
        simp only [Session.setPlace]
        rw [dataBy_concat_self, accounted, Place.pending]
  · exact disciplined.release trivial
      (Place.pending_of_free free (home thread))

theorem dispatch
    (disciplined : Disciplined topology home session) {thread : Thread}
    {remote msgid : String} {data : Bytes}
    (isSending : session.threads thread = .sending remote msgid data) :
    Disciplined topology home
      (session.dispatch thread (home thread) remote msgid data) := by
  have hasReturned : session.network.phase (home thread) = .returned := by
    apply disciplined.ready
    rw [isSending]
    exact not_false
  refine disciplined.update rfl rfl (fun _ => hasReturned) ?_ ?_ ?_ ?_
  · intro _ _ _ sending
    cases sending
  · intro _ _ _ receiving
    cases receiving
  · intro other different channel
    exact ⟨dataBy_concat_of_ne _ different channel, rfl⟩
  · intro channel
    have accounted := disciplined.accounts thread channel
    rw [Session.pending, isSending] at accounted
    rw [Session.dispatch, dataBy_concat_self]
    simpa [Session.setPlace, Place.pending] using accounted

theorem callRecv
    (disciplined : Disciplined topology home session) {thread : Thread}
    {remote msgid : String} (free : (session.threads thread).Free)
    (hasReturned : session.network.phase (home thread) = .returned)
    (clients :
      ∀ id, (session.network.clientConnMap (home thread) id).isSome →
        id ∈ (topology (home thread)).clientNodeIds) :
    Disciplined topology home
      (session.callRecv thread (home thread) remote msgid) := by
  unfold Session.callRecv
  split
  · next isKnown =>
      refine disciplined.setPlace rfl rfl rfl rfl (fun _ => hasReturned)
        ?_ (Place.pending_of_free free (home thread)) ?_
      · intro _ _ _ receiving
        cases receiving
        exact clients remote isKnown
      · intro _ _ _ sending
        cases sending
  · exact disciplined.release trivial
      (Place.pending_of_free free (home thread))

theorem pass
    (disciplined : Disciplined topology home session) {thread : Thread}
    {remote msgid : String} {connection : ClientConnection}
    (isReceiving :
      session.threads thread = .receiving remote msgid false) :
    Disciplined topology home
      (session.pass thread (home thread) remote msgid connection) := by
  have hasReturned : session.network.phase (home thread) = .returned := by
    apply disciplined.ready
    rw [isReceiving]
    exact not_false
  have before (channel : Channel) :
      (session.threads thread).pending (home thread) channel = [] := by
    rw [isReceiving]
    rfl
  unfold Session.pass
  split
  · refine disciplined.setPlace rfl rfl rfl rfl (fun _ => hasReturned) ?_
      before ?_
    · intro _ _ _ receiving
      cases receiving
    · intro _ _ _ sending
      cases sending
  · refine disciplined.setPlace rfl rfl rfl rfl (fun _ => hasReturned) ?_
      before ?_
    · intro _ _ _ receiving
      cases receiving
      exact disciplined.listening thread remote msgid false isReceiving
    · intro _ _ _ sending
      cases sending

end Disciplined

end Steps

section Delivery

variable {placement : Placement} {home : Thread → String}
variable {sendTimeout : String → Nat}
variable {session target : Session Thread} {image : State}

/-- The step of a thread is none of the image, and the step of a node is one
of its initialisation. -/
theorem step_reflected
    (homes : ∀ thread, home thread ∈ placement.nodes)
    (settled : Settled placement.nodes placement.topology image)
    (reflects : Reflects session image)
    (disciplined : Disciplined placement.topology home session)
    {label : Label Thread}
    (step : Step placement home sendTimeout session label target) :
    ∃ next,
      (next = image ∨
        ∃ other,
          (initMachine placement.connSync placement.nodes
            placement.topology).next image other = some next) ∧
        Reflects target next ∧
          Disciplined placement.topology home target := by
  have ready {thread : Thread} {place : Place}
      (isThere : session.threads thread = place) (busy : ¬ place.Free) :
      session.network.phase (home thread) = .returned :=
    disciplined.ready thread (isThere ▸ busy)
  cases step with
  | init moved =>
      obtain ⟨next, imageMoved, nextReflects⟩ :=
        reflects.init_step settled moved
      refine ⟨next, .inr ⟨_, imageMoved⟩, nextReflects, ?_⟩
      refine ⟨?_, disciplined.connected, disciplined.listening,
        disciplined.accounts⟩
      intro thread busy
      exact returned_of_init moved (disciplined.ready thread busy)
  | send thread remote msgid data free hasReturned =>
      have objects :
          session.network.clientObjects (home thread) =
            (placement.topology (home thread)).serverInfos.ids := by
        have fits := settled.fits (home thread) (homes thread)
        rw [← reflects.phase, hasReturned] at fits
        rw [reflects.clientObjects]
        exact fits
      refine ⟨image, .inl rfl, ?_,
        disciplined.callSend free hasReturned objects⟩
      unfold Session.callSend
      split
      · exact reflects.of_unlogged rfl rfl rfl
      · exact reflects.of_unlogged rfl rfl rfl
  | dispatch thread isSending _ =>
      have hasReturned := ready isSending not_false
      have isServer := disciplined.connected thread _ _ _ isSending
      exact ⟨image, .inl rfl,
        reflects.dispatch settled placement.matched (homes thread)
          hasReturned isServer,
        disciplined.dispatch isSending⟩
  | repeated thread => exact ⟨image, .inl rfl, reflects, disciplined⟩
  | giveUp thread isSending notStarted =>
      have hasReturned := ready isSending not_false
      have isServer := disciplined.connected thread _ _ _ isSending
      have served :=
        reflects.serves settled (homes thread) hasReturned isServer
      exact absurd served.1 notStarted
  | reply thread isAnswered =>
      refine ⟨image, .inl rfl, reflects.of_unlogged rfl rfl rfl,
        disciplined.release trivial ?_⟩
      intro channel
      rw [isAnswered]
      rfl
  | recv thread remote msgid free hasReturned =>
      have clients (id : String)
          (isKnown :
            (session.network.clientConnMap (home thread) id).isSome) :
          id ∈ (placement.topology (home thread)).clientNodeIds := by
        rw [reflects.known] at isKnown
        exact ((settled.registered _ (homes thread) id).mp isKnown).2
      refine ⟨image, .inl rfl, ?_,
        disciplined.callRecv free hasReturned clients⟩
      unfold Session.callRecv
      split
      · exact reflects.of_unlogged rfl rfl rfl
      · exact reflects.of_unlogged rfl rfl rfl
  | recvPass thread isReceiving found =>
      have hasReturned := ready isReceiving not_false
      exact ⟨image, .inl rfl,
        reflects.pass settled (homes thread) hasReturned found,
        disciplined.pass isReceiving⟩
  | wake thread isWaiting =>
      refine ⟨image, .inl rfl, reflects.of_unlogged rfl rfl rfl,
        disciplined.setPlace rfl rfl rfl rfl ?_ ?_ ?_ ?_⟩
      · exact fun _ => ready isWaiting not_false
      · intro _ _ _ receiving
        cases receiving
        exact disciplined.listening thread _ _ true isWaiting
      · intro channel
        rw [isWaiting]
        rfl
      · intro _ _ _ sending
        cases sending
  | timeout thread isWaiting =>
      refine ⟨image, .inl rfl, reflects.of_unlogged rfl rfl rfl,
        disciplined.release trivial ?_⟩
      intro channel
      rw [isWaiting]
      rfl

/-- A session simulates the initialisation of its nodes. -/
theorem simulates
    (homes : ∀ thread, home thread ∈ placement.nodes) :
    (machine placement home sendTimeout).Simulates
      (initMachine placement.connSync placement.nodes placement.topology)
      fun session image =>
        Reflects session image ∧
          Disciplined placement.topology home session where
  start := by
    intro session isInitial
    obtain ⟨begun, idle, noCalls, noneDispatched, noneTaken⟩ := isInitial
    refine ⟨session.network, begun, ⟨rfl, rfl, rfl, fun _ _ => rfl, ?_, ?_⟩,
      ⟨?_, ?_, ?_, ?_⟩⟩
    · intro channel
      refine ⟨[], ?_, (List.append_nil _).symm⟩
      rw [noneDispatched, noneTaken]
      rfl
    · intro entry member
      rw [noneDispatched] at member
      cases member
    · intro thread busy
      rw [idle thread] at busy
      exact absurd trivial busy
    · intro thread remote msgid data sending
      rw [idle thread] at sending
      cases sending
    · intro thread remote msgid waiting receiving
      rw [idle thread] at receiving
      cases receiving
    · intro thread channel
      rw [Session.pending, idle thread, noneDispatched, noCalls]
      rfl
  step := by
    intro session label target image _ imageReached related stepped
    exact step_reflected homes
      (settled_of_reachable placement.matched imageReached)
      related.1 related.2 (step_of_next stepped)

/-- A run of the image can be made in the session, whose threads stay where
they are. -/
theorem exists_init_run
    {labels : List InitBarrier.Label} {final : State}
    (imageReached :
      (initMachine placement.connSync placement.nodes
        placement.topology).Reachable image)
    (reflects : Reflects session image)
    (executed :
      (initMachine placement.connSync placement.nodes
        placement.topology).run image labels = some final) :
    ∃ network,
      (machine placement home sendTimeout).run session
          (labels.map .init) = some { session with network := network } ∧
        network.phase = final.phase := by
  induction labels generalizing session image with
  | nil =>
      cases executed
      exact ⟨session.network, rfl, reflects.phase⟩
  | cons label rest inductionHypothesis =>
      rw [TransitionMachine.run] at executed
      split at executed
      case h_2 => cases executed
      case h_1 middle imageStepped =>
        obtain ⟨network, stepped, middleReflects⟩ :=
          reflects.exists_init_step
            (settled_of_reachable placement.matched imageReached)
            imageStepped
        obtain ⟨last, lastExecuted, lastPhase⟩ :=
          inductionHypothesis (imageReached.step label imageStepped)
            middleReflects executed
        refine ⟨last, ?_, lastPhase⟩
        have moved :
            (machine placement home sendTimeout).next session
                (.init label) =
              some { session with network := network } := by
          simp [machine, stepped]
        rw [List.map_cons, TransitionMachine.run, moved]
        exact lastExecuted

end Delivery

end Threads

/-- Two nodes with a thread each, before anything has begun. -/
def mutualHome (thread : Bool) : String :=
  if thread then "A" else "B"

theorem mutualHome_mem (thread : Bool) :
    mutualHome thread ∈ mutualPlacement.nodes := by
  cases thread with
  | false => exact List.mem_toFinset.mpr (by decide)
  | true => exact List.mem_toFinset.mpr (by decide)

def begun : Session Bool where
  network := start
  threads := fun _ => .idle
  called := []
  dispatched := []
  taken := []

/-- The first node has returned and sends while the second has only started
its server. -/
def earlyUse : List (Label Bool) :=
  [.init ⟨"A", .register⟩, .init ⟨"B", .register⟩,
    .init ⟨"A", .buildClient⟩, .init ⟨"A", .beginSend ["B"]⟩,
    .init ⟨"A", .attempt⟩, .init ⟨"A", .reply⟩, .init ⟨"A", .finish⟩,
    .send true "B" "m" [7]]

theorem exists_earlySession :
    ∃ session,
      (machine mutualPlacement mutualHome fun _ => 0).Reachable session ∧
        session.threads true = .sending "B" "m" [7] := by
  have initial :
      (machine mutualPlacement mutualHome fun _ => 0).Reachable begun :=
    .initial ⟨⟨fun _ => rfl, fun _ => rfl, fun _ => rfl, fun _ => rfl, rfl⟩,
      fun _ => rfl, rfl, rfl, rfl⟩
  have sends :
      (((machine mutualPlacement mutualHome fun _ => 0).run begun
        earlyUse).map fun session => session.threads true) =
        some (.sending "B" "m" [7]) := by
    decide +kernel
  obtain ⟨session, executed, isSending⟩ := Option.map_eq_some_iff.mp sends
  exact ⟨session, initial.run executed, isSending⟩

/-- Delivery between the nodes of a placement, in every interleaving of their
initialisation with the calls of any number of threads.  On every channel, the
messages of a thread that were dispatched and the one it is about to send are
those it has called `send` with, in its order; the messages that receives have
taken and those still queued are the dispatched ones, in the order of their
dispatch.  The channel of the flags is left to `init` until its receiver has
returned. -/
theorem session_delivers
    {Thread : Type u} [DecidableEq Thread]
    (placement : Placement) (home : Thread → String)
    (sendTimeout : String → Nat)
    (homes : ∀ thread, home thread ∈ placement.nodes)
    {session : Session Thread}
    (reachable : (machine placement home sendTimeout).Reachable session) :
    (∀ thread channel,
      Session.dataBy session.dispatched thread channel ++
          session.pending home thread channel =
        Session.dataBy session.called thread channel) ∧
    (∀ channel : Channel,
      channel.msgid ≠ syncMsgid ∨
          channel.receiver ∈ placement.nodes ∧
            session.network.phase channel.receiver = .returned →
        Session.dataOn session.taken channel ++ session.queued channel =
          Session.dataOn session.dispatched channel) := by
  obtain ⟨image, imageReached, reflects, disciplined⟩ :=
    (simulates homes).reachable reachable
  have settled := settled_of_reachable placement.matched imageReached
  refine ⟨disciplined.accounts, ?_⟩
  intro channel later
  rw [reflects.phase] at later
  exact reflects.queued_of_flagless (queueIn_of_settled settled later)

theorem session_delivers_mutual :
    ∃ session,
      (machine mutualPlacement mutualHome fun _ => 0).Reachable session ∧
        Session.dataBy session.dispatched true ⟨"A", "B", "m"⟩ ++ [[7]] =
          Session.dataBy session.called true ⟨"A", "B", "m"⟩ := by
  obtain ⟨session, reachable, isSending⟩ := exists_earlySession
  have accounts :=
    (session_delivers mutualPlacement mutualHome (fun _ => 0)
      mutualHome_mem reachable).1 true ⟨"A", "B", "m"⟩
  refine ⟨session, reachable, ?_⟩
  simpa [Session.pending, isSending, Place.pending, mutualHome]
    using accounts

/-- A node that has returned from `init` reaches all its servers at once,
whatever the other nodes still have to initialise.  An attempt of a sending
thread is dispatched and its message appended at the receiver, and no timeout
is raised; a receiving thread takes the oldest message of its channel that is
dispatched and not taken, and waits only when there is none. -/
theorem session_calls_served
    {Thread : Type u} [DecidableEq Thread]
    (placement : Placement) (home : Thread → String)
    (sendTimeout : String → Nat)
    (homes : ∀ thread, home thread ∈ placement.nodes)
    {session : Session Thread}
    (reachable : (machine placement home sendTimeout).Reachable session)
    (thread : Thread) (remote msgid : String) :
    (∀ data, session.threads thread = .sending remote msgid data →
      (machine placement home sendTimeout).next session (.giveUp thread) =
          none ∧
        ∃ target,
          (machine placement home sendTimeout).next session
              (.attempt thread) = some target ∧
            target.threads thread = .answered data.length ∧
            target.queued ⟨home thread, remote, msgid⟩ =
              session.queued ⟨home thread, remote, msgid⟩ ++ [data]) ∧
    (session.threads thread = .receiving remote msgid false →
      ∃ target unread,
        (machine placement home sendTimeout).next session
            (.recvPass thread) = some target ∧
          Session.dataOn session.taken ⟨remote, home thread, msgid⟩ ++
              unread =
            Session.dataOn session.dispatched
              ⟨remote, home thread, msgid⟩ ∧
          target.threads thread =
            match unread with
            | [] => .receiving remote msgid true
            | front :: _ => .received ⟨front.length, front⟩) := by
  obtain ⟨image, imageReached, reflects, disciplined⟩ :=
    (simulates homes).reachable reachable
  have settled := settled_of_reachable placement.matched imageReached
  constructor
  · intro data isSending
    have hasReturned : session.network.phase (home thread) = .returned :=
      disciplined.ready thread (isSending ▸ not_false)
    obtain ⟨isStarted, isKnown⟩ :=
      reflects.serves settled (homes thread) hasReturned
        (disciplined.connected thread remote msgid data isSending)
    refine ⟨by simp [machine, isSending, isStarted], _,
      by simp [machine, isSending, isStarted]; rfl, ?_, ?_⟩
    · simp [Session.dispatch, Session.setPlace]
    · simp only [Session.queued, Session.dispatch, queueIn_send]
      exact if_pos ⟨isKnown, trivial⟩
  · intro isReceiving
    have hasReturned : session.network.phase (home thread) = .returned :=
      disciplined.ready thread (isReceiving ▸ not_false)
    have isClient :=
      disciplined.listening thread remote msgid false isReceiving
    have isKnown :
        (session.network.clientConnMap (home thread) remote).isSome := by
      rw [reflects.known, settled.registered _ (homes thread),
        ← reflects.phase, hasReturned]
      exact ⟨Phase.noConfusion, isClient⟩
    obtain ⟨connection, found⟩ := Option.isSome_iff_exists.mp isKnown
    have flagless :
        Channel.queueIn ⟨remote, home thread, msgid⟩
          image.clientConnMap = [] :=
      queueIn_of_settled settled
        (.inr ⟨homes thread, reflects.phase ▸ hasReturned⟩)
    refine ⟨_, _, by simp [machine, isReceiving, found]; rfl,
      reflects.queued_of_flagless flagless, ?_⟩
    cases passed : connection.recvPass msgid with
    | none =>
        have empty := (queueIn_of_recvPass_eq_none found).mp passed
        simp [Session.pass, passed, Session.queued, empty,
          Session.setPlace]
    | some outcome =>
        obtain ⟨received, remaining⟩ := outcome
        obtain ⟨front, rest, queue, rfl, -⟩ := queueIn_take found passed
        simp [Session.pass, passed, Session.queued, queue,
          Session.setPlace]

theorem session_calls_served_mutual :
    ∃ session,
      (machine mutualPlacement mutualHome fun _ => 0).Reachable session ∧
        (machine mutualPlacement mutualHome fun _ => 0).next session
          (.giveUp true) = none := by
  obtain ⟨session, reachable, isSending⟩ := exists_earlySession
  exact ⟨session, reachable,
    ((session_calls_served mutualPlacement mutualHome (fun _ => 0)
      mutualHome_mem reachable true "B" "m").1 [7] isSending).1⟩

/-- The threads that use their channels early neither disturb nor hold up the
initialisation of the other nodes.  The phases, servers and client objects are
those of a run of `init` alone, and steps of `init` lead to the return of all
nodes while every thread stays where it is. -/
theorem session_keeps_init
    {Thread : Type u} [DecidableEq Thread]
    (placement : Placement) (home : Thread → String)
    (sendTimeout : String → Nat)
    (homes : ∀ thread, home thread ∈ placement.nodes)
    {session : Session Thread}
    (reachable : (machine placement home sendTimeout).Reachable session) :
    (∃ image,
      (initMachine placement.connSync placement.nodes
          placement.topology).Reachable image ∧
        session.network.phase = image.phase ∧
        session.network.serverStarted = image.serverStarted ∧
        session.network.clientObjects = image.clientObjects) ∧
    ∃ (labels : List InitBarrier.Label) (network : State),
      (machine placement home sendTimeout).run session
          (labels.map .init) = some { session with network := network } ∧
        ∀ node ∈ placement.nodes, network.phase node = .returned := by
  obtain ⟨image, imageReached, reflects, -⟩ :=
    (simulates homes).reachable reachable
  obtain ⟨labels, final, executed, completed⟩ :=
    completes_of_reachable placement.matched imageReached
  obtain ⟨network, sessionExecuted, phase⟩ :=
    exists_init_run imageReached reflects executed
  refine ⟨⟨image, imageReached, reflects.phase, reflects.serverStarted,
    reflects.clientObjects⟩, labels, network, sessionExecuted, ?_⟩
  intro node isNode
  rw [phase]
  exact completed node isNode

theorem session_keeps_init_mutual :
    ∃ session,
      (machine mutualPlacement mutualHome fun _ => 0).Reachable session ∧
        ∃ (labels : List InitBarrier.Label) (network : State),
          (machine mutualPlacement mutualHome fun _ => 0).run session
              (labels.map .init) =
            some { session with network := network } ∧
          ∀ node ∈ mutualPlacement.nodes,
            network.phase node = .returned := by
  obtain ⟨session, reachable, -⟩ := exists_earlySession
  exact ⟨session, reachable,
    (session_keeps_init mutualPlacement mutualHome (fun _ => 0)
      mutualHome_mem reachable).2⟩

end ChannelSdk.NodeSession
