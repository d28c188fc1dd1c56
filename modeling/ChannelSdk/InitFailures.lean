import ChannelSdk.InitSettled
import ChannelSdk.Lib.Simulation

/-!
# Initialisation that may time out

`ViaNetIO::init` of `core/src/net_io.cc` when its timeouts may fire.  An
attempt to reach a node without a running server may be the last one:
`SyncClient::send` and `CheckConnStatus` then raise an event instead of
repeating it.  A receive of a flag may end with its wait, and `init` raises an
event.  The exception leaves `init`, and with the `ViaNetIO` object the node's
connections, its server and its client objects are destroyed.

Whether a timeout has elapsed is left to the run, so that the laws hold for
all periods and all speeds of the nodes.  The period that the events also
print is not kept.
-/

namespace ChannelSdk.InitBarrier

open CheckedMemory
open Std (ExtTreeMap ExtTreeSet)

/-- The event that ended an `init`, with the nodes that its message names. -/
inductive InitFailure where
  | connectTimeout (nodeid remoteNodeid : String)
  | sendDataTimeout (selfNodeid remoteNodeid : String)
  | recvDataTimeout (selfNodeid remoteNodeid : String)
  deriving DecidableEq, Repr

/-- The nodes, and the failures of those whose `init` has raised an event. -/
structure Fallible where
  state : State
  failure : String → Option InitFailure

inductive FallibleLabel where
  | step (label : Label)
  | timeout (node : String)

/-- The node that takes the step. -/
def FallibleLabel.node : FallibleLabel → String
  | .step label => label.node
  | .timeout node => node

/-- The event that a node raises if its current call has timed out. -/
def State.timedOut (state : State) (connSync : Bool) (node : String) :
    Option InitFailure :=
  match state.phase node with
  | .sending (remote :: _) false =>
      if state.serverStarted remote then none
      else if connSync then some (.sendDataTimeout node remote)
      else some (.connectTimeout node remote)
  | .receiving (remote :: _) true => some (.recvDataTimeout node remote)
  | _ => none

/-- An exception destroys the members of a node. -/
def Fallible.fail (self : Fallible) (node : String) (failure : InitFailure) :
    Fallible where
  state :=
    { self.state with
      clientConnMap :=
        Function.update self.state.clientConnMap node fun _ => none
      serverStarted := Function.update self.state.serverStarted node false
      clientObjects := Function.update self.state.clientObjects node [] }
  failure := Function.update self.failure node (some failure)

/-- Nodes that initialise and may fail. -/
def fallibleMachine (connSync : Bool) (nodes : Finset String)
    (topology : String → Topology) :
    TransitionMachine Fallible FallibleLabel where
  initial := fun self =>
    (initMachine connSync nodes topology).initial self.state ∧
      ∀ node, self.failure node = none
  next := fun self label =>
    match label with
    | .step label =>
        if self.failure label.node = none then
          match (initMachine connSync nodes topology).next self.state
              label with
          | some state => some { self with state := state }
          | none => none
        else none
    | .timeout node =>
        if node ∈ nodes ∧ self.failure node = none then
          match self.state.timedOut connSync node with
          | some failure => some (self.fail node failure)
          | none => none
        else none

/-- What a failure says about the call in which a node is. -/
def InitFailure.At (node : String) : InitFailure → Phase → Prop
  | .connectTimeout nodeid remote, phase
  | .sendDataTimeout nodeid remote, phase =>
      nodeid = node ∧ ∃ rest, phase = .sending (remote :: rest) false
  | .recvDataTimeout nodeid remote, phase =>
      nodeid = node ∧ ∃ rest, phase = .receiving (remote :: rest) true

/-- A run with failures over the run without: the nodes that have not failed
have the same members, and the others do not answer. -/
structure Survives (fallible : Fallible) (image : State) : Prop where
  phase : fallible.state.phase = image.phase
  flags : fallible.state.flags = image.flags
  connections :
    ∀ node, fallible.failure node = none →
      fallible.state.clientConnMap node = image.clientConnMap node
  servers :
    ∀ node, fallible.failure node = none →
      fallible.state.serverStarted node = image.serverStarted node
  objects :
    ∀ node, fallible.failure node = none →
      fallible.state.clientObjects node = image.clientObjects node
  stopped :
    ∀ node, fallible.failure node ≠ none →
      fallible.state.serverStarted node = false
  blamed :
    ∀ node failure, fallible.failure node = some failure →
      failure.At node (image.phase node)

namespace Survives

variable {fallible : Fallible} {image : State}

theorem failure_of_started
    (survives : Survives fallible image) {node : String}
    (isStarted : fallible.state.serverStarted node = true) :
    fallible.failure node = none := by
  by_contra failed
  rw [survives.stopped node failed] at isStarted
  cases isStarted

/-- A node that has not failed changes its phase. -/
theorem setPhase
    (survives : Survives fallible image) {node : String}
    (alive : fallible.failure node = none) (phase : Phase) :
    Survives { fallible with state := fallible.state.setPhase node phase }
      (image.setPhase node phase) where
  phase := by
    simp only [State.setPhase, survives.phase]
  flags := survives.flags
  connections := survives.connections
  servers := survives.servers
  objects := survives.objects
  stopped := survives.stopped
  blamed := by
    intro other failure failed
    have different : other ≠ node := by
      intro same
      subst same
      exact Option.some_ne_none failure (failed.symm.trans alive)
    simp only [State.setPhase, Function.update_of_ne different]
    exact survives.blamed other failure failed

theorem register
    (survives : Survives fallible image) {node : String}
    (alive : fallible.failure node = none) (sets : Topology) :
    Survives { fallible with state := fallible.state.register node sets }
      (image.register node sets) := by
  have moved := survives.setPhase alive (.building sets.serverInfos.ids)
  refine ⟨moved.phase, moved.flags, ?_, ?_, moved.objects, ?_,
    moved.blamed⟩
  · intro other otherAlive
    by_cases same : other = node
    · subst same
      simp [State.register]
    · simpa [State.register, same] using
        survives.connections other otherAlive
  · intro other otherAlive
    by_cases same : other = node
    · subst same
      simp [State.register]
    · simpa [State.register, same] using survives.servers other otherAlive
  · intro other failed
    have different : other ≠ node := fun same => failed (same ▸ alive)
    simpa [State.register, different] using survives.stopped other failed

theorem buildClient
    (survives : Survives fallible image) {node : String}
    (alive : fallible.failure node = none) (remote : String)
    (rest : List String) :
    Survives
      { fallible with
        state :=
          { fallible.state.setPhase node (.building rest) with
            clientObjects :=
              Function.update fallible.state.clientObjects node
                (fallible.state.clientObjects node ++ [remote]) } }
      { image.setPhase node (.building rest) with
        clientObjects :=
          Function.update image.clientObjects node
            (image.clientObjects node ++ [remote]) } := by
  have moved := survives.setPhase alive (.building rest)
  refine ⟨moved.phase, moved.flags, moved.connections, moved.servers, ?_,
    moved.stopped, moved.blamed⟩
  intro other otherAlive
  by_cases same : other = node
  · subst same
    simp only [Function.update_self, survives.objects other alive]
  · simpa [same] using survives.objects other otherAlive

/-- A flag reaches a server that runs, so that its node has not failed. -/
theorem dispatchFlag
    (survives : Survives fallible image) {node remote : String}
    (alive : fallible.failure node = none)
    (remoteAlive : fallible.failure remote = none) (rest : List String) :
    Survives { fallible with state := fallible.state.dispatchFlag node remote rest }
      (image.dispatchFlag node remote rest) := by
  have moved := survives.setPhase alive (.sending (remote :: rest) true)
  have same := survives.connections remote remoteAlive
  refine ⟨moved.phase, ?_, ?_, moved.servers, moved.objects, moved.stopped,
    moved.blamed⟩
  · simp only [State.dispatchFlag, same, survives.flags]
  · intro other otherAlive
    by_cases isRemote : other = remote
    · subst isRemote
      simp only [State.dispatchFlag, Function.update_self, same]
    · simpa [State.dispatchFlag, isRemote] using
        survives.connections other otherAlive

theorem recvFlag
    (survives : Survives fallible image) {node : String}
    (alive : fallible.failure node = none) (remote : String)
    (rest : List String) (connection : ClientConnection) :
    Survives
      { fallible with
        state := fallible.state.recvFlag node remote rest connection }
      (image.recvFlag node remote rest connection) := by
  unfold State.recvFlag
  split
  · next received remaining _ =>
      have moved := survives.setPhase alive (.receiving rest false)
      refine ⟨moved.phase, moved.flags, ?_, moved.servers, moved.objects,
        moved.stopped, moved.blamed⟩
      intro other otherAlive
      by_cases same : other = node
      · subst same
        simp only [Function.update_self, survives.connections other alive]
      · simpa [same] using survives.connections other otherAlive
  · exact survives.setPhase alive _

/-- An action with flags is also one of the image, or an attempt that fails
because the other node has failed. -/
theorem act
    (survives : Survives fallible image) {sets : Topology} {node : String}
    {action : Action} {target : State} (alive : fallible.failure node = none)
    (acted : fallible.state.act sets node action = some target) :
    ∃ next,
      (next = image ∨ image.act sets node action = some next) ∧
        Survives { fallible with state := target } next := by
  have same := congrFun survives.phase node
  cases action with
  | register =>
      simp only [State.act] at acted ⊢
      split at acted <;> cases acted
      next current =>
        rw [← same, current]
        exact ⟨_, .inr rfl, survives.register alive sets⟩
  | buildClient =>
      simp only [State.act] at acted ⊢
      split at acted <;> cases acted
      next current =>
        rw [← same, current]
        exact ⟨_, .inr rfl, survives.buildClient alive _ _⟩
  | beginSend order =>
      simp only [State.act] at acted ⊢
      split at acted
      · next current =>
          split at acted <;> cases acted
          next permuted =>
            rw [← same, current, ← survives.objects node alive]
            exact ⟨_, .inr (if_pos permuted), survives.setPhase alive _⟩
      · cases acted
  | attempt =>
      simp only [State.act] at acted ⊢
      split at acted
      · next remote rest current =>
          split at acted <;> cases acted
          · next isStarted =>
              have remoteAlive := survives.failure_of_started isStarted
              rw [← same, current]
              rw [survives.servers remote remoteAlive] at isStarted
              exact ⟨_, .inr (if_pos isStarted),
                survives.dispatchFlag alive remoteAlive rest⟩
          · exact ⟨image, .inl rfl, survives⟩
      · cases acted
  | reply =>
      simp only [State.act] at acted ⊢
      split at acted <;> cases acted
      next current =>
        rw [← same, current]
        exact ⟨_, .inr rfl, survives.setPhase alive _⟩
  | beginRecv order =>
      simp only [State.act] at acted ⊢
      split at acted
      · next current =>
          split at acted <;> cases acted
          next permuted =>
            rw [← same, current]
            exact ⟨_, .inr (if_pos permuted), survives.setPhase alive _⟩
      · cases acted
  | recvPass =>
      simp only [State.act] at acted ⊢
      split at acted
      · next remote rest current =>
          split at acted <;> cases acted
          next connection found =>
            rw [survives.connections node alive] at found
            rw [← same, current]
            simp only [found]
            exact ⟨_, .inr rfl, survives.recvFlag alive remote rest connection⟩
      · cases acted
  | wake =>
      simp only [State.act] at acted ⊢
      split at acted <;> cases acted
      next current =>
        rw [← same, current]
        exact ⟨_, .inr rfl, survives.setPhase alive _⟩
  | finish =>
      simp only [State.act] at acted ⊢
      split at acted <;> cases acted
      next current =>
        rw [← same, current]
        exact ⟨_, .inr rfl, survives.setPhase alive _⟩

/-- The same for an action with pings. -/
theorem actPing
    (survives : Survives fallible image) {sets : Topology} {node : String}
    {action : Action} {target : State} (alive : fallible.failure node = none)
    (acted : fallible.state.actPing sets node action = some target) :
    ∃ next,
      (next = image ∨ image.actPing sets node action = some next) ∧
        Survives { fallible with state := target } next := by
  have same := congrFun survives.phase node
  cases action with
  | register | buildClient | beginSend order | reply =>
      simp only [State.actPing] at acted ⊢
      exact survives.act alive acted
  | attempt =>
      simp only [State.actPing, State.dispatchPing_eq] at acted ⊢
      split at acted
      · next remote rest current =>
          split at acted <;> cases acted
          · next isStarted =>
              have remoteAlive := survives.failure_of_started isStarted
              rw [← same, current]
              rw [survives.servers remote remoteAlive] at isStarted
              exact ⟨_, .inr (if_pos isStarted), survives.setPhase alive _⟩
          · exact ⟨image, .inl rfl, survives⟩
      · cases acted
  | finish =>
      simp only [State.actPing] at acted ⊢
      split at acted <;> cases acted
      next current =>
        rw [← same, current]
        exact ⟨_, .inr rfl, survives.setPhase alive _⟩
  | beginRecv | recvPass | wake => cases acted

/-- The event names the node that the failing node waits for. -/
theorem at_of_timedOut
    {state : State} {connSync : Bool} {node : String}
    {failure : InitFailure}
    (raised : state.timedOut connSync node = some failure) :
    failure.At node (state.phase node) := by
  unfold State.timedOut at raised
  split at raised
  · next rest current =>
      split at raised
      · cases raised
      · split at raised <;> cases raised
        · exact ⟨rfl, rest, current⟩
        · exact ⟨rfl, rest, current⟩
  · next rest current =>
      cases raised
      exact ⟨rfl, rest, current⟩
  · cases raised

/-- A failure is a step that the image does not see. -/
theorem fail
    (survives : Survives fallible image) {node : String}
    {failure : InitFailure} (isAt : failure.At node (image.phase node)) :
    Survives (fallible.fail node failure) image where
  phase := survives.phase
  flags := survives.flags
  connections := by
    intro other alive
    by_cases same : other = node
    · subst same
      simp [Fallible.fail] at alive
    · simp only [Fallible.fail, Function.update_of_ne same] at alive ⊢
      exact survives.connections other alive
  servers := by
    intro other alive
    by_cases same : other = node
    · subst same
      simp [Fallible.fail] at alive
    · simp only [Fallible.fail, Function.update_of_ne same] at alive ⊢
      exact survives.servers other alive
  objects := by
    intro other alive
    by_cases same : other = node
    · subst same
      simp [Fallible.fail] at alive
    · simp only [Fallible.fail, Function.update_of_ne same] at alive ⊢
      exact survives.objects other alive
  stopped := by
    intro other failed
    by_cases same : other = node
    · subst same
      simp [Fallible.fail]
    · simp only [Fallible.fail, Function.update_of_ne same] at failed ⊢
      exact survives.stopped other failed
  blamed := by
    intro other raised failed
    by_cases same : other = node
    · subst same
      simp only [Fallible.fail, Function.update_self,
        Option.some.injEq] at failed
      exact failed ▸ isAt
    · simp only [Fallible.fail, Function.update_of_ne same] at failed
      exact survives.blamed other raised failed

end Survives

section Machine

variable {connSync : Bool} {nodes : Finset String}
variable {topology : String → Topology}

/-- The actions of one node, in either way of initialising. -/
def State.actAs (connSync : Bool) (sets : Topology) (state : State)
    (node : String) (action : Action) : Option State :=
  if connSync then state.act sets node action
  else state.actPing sets node action

theorem initMachine_next (state : State) (label : Label) :
    (initMachine connSync nodes topology).next state label =
      if label.node ∈ nodes then
        state.actAs connSync (topology label.node) label.node label.action
      else none := by
  cases connSync with
  | false => rfl
  | true => rfl

/-- An action is also one of the image, or an attempt that fails because the
other node has failed. -/
theorem Survives.actAs
    {fallible : Fallible} {image target : State} {sets : Topology}
    {node : String} {action : Action}
    (survives : Survives fallible image)
    (alive : fallible.failure node = none)
    (acted :
      fallible.state.actAs connSync sets node action = some target) :
    ∃ next,
      (next = image ∨ image.actAs connSync sets node action = some next) ∧
        Survives { fallible with state := target } next := by
  cases connSync with
  | false => exact survives.actPing alive acted
  | true => exact survives.act alive acted

/-- Nodes that fail are, for the others, nodes that have stopped. -/
theorem fallible_simulates :
    (fallibleMachine connSync nodes topology).Simulates
      (initMachine connSync nodes topology) Survives where
  start := by
    intro fallible isInitial
    obtain ⟨begun, noFailure⟩ := isInitial
    refine ⟨fallible.state, begun, rfl, rfl, fun _ _ => rfl,
      fun _ _ => rfl, fun _ _ => rfl, ?_, ?_⟩
    · intro node failed
      exact absurd (noFailure node) failed
    · intro node failure failed
      rw [noFailure node] at failed
      cases failed
  step := by
    intro fallible label target image _ _ survives stepped
    cases label with
    | step label =>
        obtain ⟨node, action⟩ := label
        simp only [fallibleMachine] at stepped
        split at stepped
        case isFalse => cases stepped
        case isTrue alive =>
          split at stepped <;> cases stepped
          next state moved =>
            rw [initMachine_next] at moved
            split at moved
            case isFalse => cases moved
            case isTrue isNode =>
              obtain ⟨next, same | imageActed, nextSurvives⟩ :=
                survives.actAs alive moved
              · exact ⟨next, .inl same, nextSurvives⟩
              · refine ⟨next, .inr ⟨⟨node, action⟩, ?_⟩, nextSurvives⟩
                rw [initMachine_next, if_pos isNode]
                exact imageActed
    | timeout node =>
        simp only [fallibleMachine] at stepped
        split at stepped
        case isFalse => cases stepped
        case isTrue =>
          split at stepped <;> cases stepped
          next failure raised =>
            have isAt := Survives.at_of_timedOut raised
            rw [survives.phase] at isAt
            exact ⟨image, .inl rfl, survives.fail isAt⟩

/-- What a node still has to do by itself, when its waits may time out. -/
def Phase.ownSteps (sets : Topology) : Phase → Nat
  | .registering =>
      7 + 2 * sets.clientNodeIds.toList.length +
        3 * sets.serverInfos.ids.length
  | .building remaining =>
      6 + 2 * sets.clientNodeIds.toList.length +
        2 * sets.serverInfos.ids.length + remaining.length
  | .sending remaining answered =>
      4 + 2 * sets.clientNodeIds.toList.length + 2 * remaining.length +
        if answered then 0 else 1
  | .receiving [] waiting => if waiting then 2 else 1
  | .receiving (_ :: rest) waiting =>
      4 + 2 * rest.length + if waiting then 0 else 1
  | .returned => 0

/-- A node that has returned or failed has nothing left to do. -/
def Fallible.ownSteps (fallible : Fallible) (topology : String → Topology)
    (node : String) : Nat :=
  if fallible.failure node = none then
    (fallible.state.phase node).ownSteps (topology node)
  else 0

/-- A step of the node itself is enabled that leaves it less to do. -/
def MovesAlone (connSync : Bool) (nodes : Finset String)
    (topology : String → Topology) (fallible : Fallible)
    (node : String) : Prop :=
  ∃ label target, label.node = node ∧
    (fallibleMachine connSync nodes topology).next fallible label =
        some target ∧
      target.ownSteps topology node < fallible.ownSteps topology node

section Alone

variable {fallible : Fallible} {node : String}

theorem movesAlone_of_act
    {action : Action} {state : State} {phase : Phase} (isNode : node ∈ nodes)
    (alive : fallible.failure node = none)
    (acted :
      fallible.state.actAs connSync (topology node) node action =
        some state)
    (moved :
      state.phase = Function.update fallible.state.phase node phase)
    (lighter :
      phase.ownSteps (topology node) <
        (fallible.state.phase node).ownSteps (topology node)) :
    MovesAlone connSync nodes topology fallible node := by
  refine ⟨.step ⟨node, action⟩, { fallible with state := state }, rfl, ?_,
    ?_⟩
  · simp [fallibleMachine, alive, initMachine_next, isNode, acted]
  · simp only [Fallible.ownSteps, alive, if_true, moved,
      Function.update_self]
    exact lighter

theorem movesAlone_of_timeout
    {failure : InitFailure} (isNode : node ∈ nodes) (alive : fallible.failure node = none)
    (raised : fallible.state.timedOut connSync node = some failure)
    (unfinished :
      0 < (fallible.state.phase node).ownSteps (topology node)) :
    MovesAlone connSync nodes topology fallible node := by
  refine ⟨.timeout node, fallible.fail node failure, rfl, ?_, ?_⟩
  · simp [fallibleMachine, alive, isNode, raised]
  · simpa [Fallible.ownSteps, Fallible.fail, alive] using unfinished

/-- A node that is about to send has its attempt or its timeout. -/
theorem movesAlone_of_sending
    {remote : String} {rest : List String} (isNode : node ∈ nodes)
    (alive : fallible.failure node = none)
    (current :
      fallible.state.phase node = .sending (remote :: rest) false) :
    MovesAlone connSync nodes topology fallible node := by
  cases isStarted : fallible.state.serverStarted remote with
  | false =>
      have raised :
          ∃ failure,
            fallible.state.timedOut connSync node = some failure := by
        cases connSync with
        | false =>
            exact ⟨_, by simp [State.timedOut, current, isStarted]; rfl⟩
        | true =>
            exact ⟨_, by simp [State.timedOut, current, isStarted]; rfl⟩
      obtain ⟨failure, raised⟩ := raised
      apply movesAlone_of_timeout isNode alive raised
      simp [current, Phase.ownSteps]
  | true =>
      have acted :
          ∃ target,
            fallible.state.actAs connSync (topology node) node .attempt =
                some target ∧
              target.phase =
                Function.update fallible.state.phase node
                  (.sending (remote :: rest) true) := by
        cases connSync with
        | false =>
            exact ⟨_, by
              simp [State.actAs, State.actPing, current, isStarted]; rfl, rfl⟩
        | true =>
            exact ⟨_, by
              simp [State.actAs, State.act, current, isStarted]; rfl, rfl⟩
      obtain ⟨target, stepped, moved⟩ := acted
      apply movesAlone_of_act isNode alive stepped moved
      simp [current, Phase.ownSteps]

/-- A node that has sent to all its servers goes on to its clients or
returns. -/
theorem movesAlone_of_sent
    (isNode : node ∈ nodes) (alive : fallible.failure node = none)
    (current : fallible.state.phase node = .sending [] false) :
    MovesAlone connSync nodes topology fallible node := by
  cases connSync with
  | false =>
      have acted :
          fallible.state.actAs false (topology node) node .finish =
            some (fallible.state.setPhase node .returned) := by
        simp [State.actAs, State.actPing, current]
      apply movesAlone_of_act isNode alive acted rfl
      simp [current, Phase.ownSteps]
  | true =>
      have acted :
          fallible.state.actAs true (topology node) node
              (.beginRecv (topology node).clientNodeIds.toList) =
            some (fallible.state.setPhase node
              (.receiving (topology node).clientNodeIds.toList false)) := by
        simp [State.actAs, State.act, current]
      apply movesAlone_of_act isNode alive acted rfl
      rw [current]
      simp only [Phase.ownSteps]
      generalize (topology node).clientNodeIds.toList = clients
      cases clients with
      | nil => simp
      | cons client rest => simp

/-- A node that receives flags takes one, waits, or ends its wait. -/
theorem movesAlone_of_receiving
    {remaining : List String} {waiting : Bool} (isNode : node ∈ nodes)
    (alive : fallible.failure node = none)
    (known :
      ∀ remote ∈ remaining,
        (fallible.state.clientConnMap node remote).isSome)
    (current :
      fallible.state.phase node = .receiving remaining waiting) :
    MovesAlone true nodes topology fallible node := by
  cases remaining with
  | nil =>
      cases waiting with
      | false =>
          have acted :
              fallible.state.actAs true (topology node) node .finish =
                some (fallible.state.setPhase node .returned) := by
            simp [State.actAs, State.act, current]
          apply movesAlone_of_act isNode alive acted rfl
          simp [current, Phase.ownSteps]
      | true =>
          have acted :
              fallible.state.actAs true (topology node) node .wake =
                some (fallible.state.setPhase node
                  (.receiving [] false)) := by
            simp [State.actAs, State.act, current]
          apply movesAlone_of_act isNode alive acted rfl
          simp [current, Phase.ownSteps]
  | cons remote rest =>
      cases waiting with
      | false =>
          obtain ⟨connection, found⟩ :=
            Option.isSome_iff_exists.mp (known remote (List.mem_cons_self ..))
          have acted :
              fallible.state.actAs true (topology node) node .recvPass =
                some (fallible.state.recvFlag node remote rest
                  connection) := by
            simp [State.actAs, State.act, current, found]
          cases passed : connection.recvPass syncMsgid with
          | none =>
              rw [State.recvFlag, passed] at acted
              apply movesAlone_of_act isNode alive acted rfl
              simp [current, Phase.ownSteps]
          | some taken =>
              rw [State.recvFlag, passed] at acted
              apply movesAlone_of_act isNode alive acted rfl
              rw [current]
              cases rest with
              | nil => simp [Phase.ownSteps]
              | cons client later => simp [Phase.ownSteps]
      | true =>
          have raised :
              fallible.state.timedOut true node =
                some (.recvDataTimeout node remote) := by
            simp [State.timedOut, current]
          apply movesAlone_of_timeout isNode alive raised
          simp [current, Phase.ownSteps]

/-- No node ever waits for another without an end: it has a step of its own
that leads on, if only its timeout. -/
theorem Survives.movesAlone
    {image : State} (survives : Survives fallible image)
    (prepared : Prepared nodes topology image)
    (unflagged :
      connSync = false →
        ∀ node remaining waiting,
          image.phase node ≠ .receiving remaining waiting)
    (isNode : node ∈ nodes) (alive : fallible.failure node = none)
    (unfinished : fallible.state.phase node ≠ .returned) :
    MovesAlone connSync nodes topology fallible node := by
  have fits := prepared.fits node isNode
  rw [← survives.phase, ← survives.objects node alive] at fits
  cases current : fallible.state.phase node with
  | registering =>
      have acted :
          fallible.state.actAs connSync (topology node) node .register =
            some (fallible.state.register node (topology node)) := by
        simp [State.actAs, State.actPing, State.act, current]
      apply movesAlone_of_act isNode alive acted rfl
      simp only [current, Phase.ownSteps]
      omega
  | building remaining =>
      rw [current] at fits
      cases remaining with
      | nil =>
          have objects :
              fallible.state.clientObjects node =
                (topology node).serverInfos.ids := by
            simpa [Phase.Fits] using fits
          have acted :
              fallible.state.actAs connSync (topology node) node
                  (.beginSend (fallible.state.clientObjects node)) =
                some (fallible.state.setPhase node
                  (.sending (fallible.state.clientObjects node) false)) := by
            simp [State.actAs, State.actPing, State.act, current]
          apply movesAlone_of_act isNode alive acted rfl
          simp [current, Phase.ownSteps, objects]
          omega
      | cons remote rest =>
          have acted :
              fallible.state.actAs connSync (topology node) node
                  .buildClient =
                some { fallible.state.setPhase node (.building rest) with
                  clientObjects :=
                    Function.update fallible.state.clientObjects node
                      (fallible.state.clientObjects node ++ [remote]) } := by
            simp [State.actAs, State.actPing, State.act, current]
          apply movesAlone_of_act isNode alive acted rfl
          simp [current, Phase.ownSteps]
  | sending remaining answered =>
      rw [current] at fits
      cases remaining with
      | nil =>
          cases answered with
          | false => exact movesAlone_of_sent isNode alive current
          | true => exact absurd rfl (fits.2.2.2 rfl)
      | cons remote rest =>
          cases answered with
          | false => exact movesAlone_of_sending isNode alive current
          | true =>
              have acted :
                  fallible.state.actAs connSync (topology node) node
                      .reply =
                    some (fallible.state.setPhase node
                      (.sending rest false)) := by
                simp [State.actAs, State.actPing, State.act, current]
              apply movesAlone_of_act isNode alive acted rfl
              simp [current, Phase.ownSteps]
              omega
  | receiving remaining waiting =>
      cases connSync with
      | false =>
          rw [survives.phase] at current
          exact absurd current (unflagged rfl node remaining waiting)
      | true =>
          rw [current] at fits
          refine movesAlone_of_receiving isNode alive ?_ current
          intro remote member
          rw [survives.connections node alive,
            prepared.registered node isNode, ← survives.phase, current]
          exact ⟨Phase.noConfusion, fits.2.2 remote member⟩
  | returned => exact absurd current unfinished

end Alone

end Machine

/-- The guarantees of `init` survive the timeouts of other nodes.  Whatever
nodes have failed, a node that has returned has a client object for each of
its servers, each of which has registered its clients; with synchronisation
its flag has been written at each of them, and each of its clients has sent its
own flag, so that a client that failed before that keeps it from returning.
The event of a failed node names the node it was waiting for. -/
theorem failing_init_contained
    (placement : Placement) {fallible : Fallible}
    (reachable :
      (fallibleMachine placement.connSync placement.nodes
        placement.topology).Reachable fallible) :
    (∀ node ∈ placement.nodes, fallible.state.phase node = .returned →
      fallible.failure node = none ∧
        fallible.state.clientObjects node =
          (placement.topology node).serverInfos.ids ∧
        (∀ server ∈ (placement.topology node).serverInfos.ids,
          fallible.state.phase server ≠ .registering) ∧
        (placement.connSync = true →
          (∀ server ∈ (placement.topology node).serverInfos.ids,
            (node, server) ∈ fallible.state.flags) ∧
          ∀ client ∈ (placement.topology node).clientNodeIds,
            (fallible.state.phase client).SentTo
              (placement.topology client) node)) ∧
    ∀ node failure, fallible.failure node = some failure →
      failure.At node (fallible.state.phase node) := by
  obtain ⟨image, imageReached, survives⟩ :=
    fallible_simulates.reachable reachable
  have matched := placement.matched
  have settled := settled_of_reachable matched imageReached
  constructor
  · intro node isNode hasReturned
    have alive : fallible.failure node = none := by
      cases failed : fallible.failure node with
      | none => rfl
      | some failure =>
          have isAt := survives.blamed node failure failed
          rw [← survives.phase, hasReturned] at isAt
          cases failure with
          | connectTimeout | sendDataTimeout | recvDataTimeout =>
              obtain ⟨-, rest, there⟩ := isAt
              cases there
    have fits := settled.fits node isNode
    rw [survives.phase] at hasReturned
    rw [hasReturned] at fits
    refine ⟨alive, (survives.objects node alive).trans fits, ?_, ?_⟩
    · intro server isServer
      have isServerNode := matched.closed node isNode server (.inr isServer)
      have served := settled.serves node isNode hasReturned server isServer
      rw [survives.phase]
      exact ((settled.started server isServerNode).mp served.1).1
    · intro isSync
      rw [isSync, initMachine_true] at imageReached
      have synced := synced_of_reachable matched imageReached
      rw [survives.flags, survives.phase]
      constructor
      · intro server isServer
        have isServerNode :=
          matched.closed node isNode server (.inr isServer)
        apply synced.logged node isNode server isServerNode
        rw [hasReturned]
        exact isServer
      · intro client isClient
        have isClientNode :=
          matched.closed node isNode client (.inl isClient)
        apply synced.takenSent client isClientNode node isNode
        rw [hasReturned]
        exact isClient
  · intro node failure failed
    rw [survives.phase]
    exact survives.blamed node failure failed

/-- The first of two nodes times out before the second has begun. -/
def lonelyRun : List FallibleLabel :=
  [.step ⟨"A", .register⟩, .step ⟨"A", .buildClient⟩,
    .step ⟨"A", .beginSend ["B"]⟩, .step ⟨"A", .attempt⟩, .timeout "A"]

theorem exists_lonely :
    ∃ fallible,
      (fallibleMachine mutualPlacement.connSync mutualPlacement.nodes
          mutualPlacement.topology).Reachable fallible ∧
        fallible.failure "A" = some (.connectTimeout "A" "B") := by
  have initial :
      (fallibleMachine mutualPlacement.connSync mutualPlacement.nodes
        mutualPlacement.topology).Reachable ⟨start, fun _ => none⟩ :=
    .initial ⟨⟨fun _ => rfl, fun _ => rfl, fun _ => rfl, fun _ => rfl, rfl⟩,
      fun _ => rfl⟩
  have fails :
      (((fallibleMachine mutualPlacement.connSync mutualPlacement.nodes
          mutualPlacement.topology).run ⟨start, fun _ => none⟩
        lonelyRun).map fun fallible => fallible.failure "A") =
        some (some (.connectTimeout "A" "B")) := by
    decide +kernel
  obtain ⟨fallible, executed, failed⟩ := Option.map_eq_some_iff.mp fails
  exact ⟨fallible, initial.run executed, failed⟩

theorem failing_init_contained_lonely :
    ∃ fallible,
      (fallibleMachine mutualPlacement.connSync mutualPlacement.nodes
          mutualPlacement.topology).Reachable fallible ∧
        (InitFailure.connectTimeout "A" "B").At "A"
          (fallible.state.phase "A") := by
  obtain ⟨fallible, reachable, failed⟩ := exists_lonely
  exact ⟨fallible, reachable,
    (failing_init_contained mutualPlacement reachable).2 "A" _ failed⟩

/-- With timeouts no node hangs in `init`: from every state the node's own
steps alone lead it to return or to raise an event, whatever the others have
done so far. -/
theorem init_ends_alone
    (placement : Placement) {fallible : Fallible}
    (reachable :
      (fallibleMachine placement.connSync placement.nodes
        placement.topology).Reachable fallible)
    {node : String} (isNode : node ∈ placement.nodes) :
    ∃ labels final, (∀ label ∈ labels, label.node = node) ∧
      (fallibleMachine placement.connSync placement.nodes
          placement.topology).run fallible labels = some final ∧
        (final.state.phase node = .returned ∨
          final.failure node ≠ none) := by
  refine reachable.completes_using (fun label => label.node = node)
    (fun current => current.ownSteps placement.topology node) ?_
  intro current currentReachable notEnded
  push Not at notEnded
  obtain ⟨image, imageReached, survives⟩ :=
    fallible_simulates.reachable currentReachable
  have settled := settled_of_reachable placement.matched imageReached
  refine survives.movesAlone settled.toPrepared ?_ isNode notEnded.2
    notEnded.1
  intro unsynchronised
  rw [unsynchronised, initMachine_false] at imageReached
  exact (Pinged.of_reachable imageReached).unflagged

theorem init_ends_alone_lonely :
    ∃ fallible labels final,
      fallible.failure "A" = some (.connectTimeout "A" "B") ∧
        (fallibleMachine mutualPlacement.connSync mutualPlacement.nodes
            mutualPlacement.topology).run fallible labels = some final ∧
          (final.state.phase "B" = .returned ∨
            final.failure "B" ≠ none) := by
  obtain ⟨fallible, reachable, failed⟩ := exists_lonely
  have isNode : "B" ∈ mutualPlacement.nodes :=
    List.mem_toFinset.mpr (by decide)
  obtain ⟨labels, final, -, executed, ended⟩ :=
    init_ends_alone mutualPlacement reachable isNode
  exact ⟨fallible, labels, final, failed, executed, ended⟩

end ChannelSdk.InitBarrier
