import ChannelSdk.ChannelViewRuns
import ChannelSdk.Lib.BlockLedger

/-!
# The blocks of the C views

The C structures of `core/src/tcp_channel.cc` are made of blocks: one `new` for
the structure, one for its array and one or two for every entry.  The
destructor of a channel deletes them entry by entry, with a loop over
`node_count`.  A run of channels that are created, asked and destroyed is run
together with the addresses that are in use.

Every `delete` meets a block that is in use, every block in use belongs to one
view of a live channel, and what a call has returned stays in use until its
channel is destroyed.
-/

namespace ChannelSdk

open BlockLedger CheckedMemory

/-! ## Taking and releasing the blocks -/

/-- The pointers of a structure. -/
inductive ViewBlocks (Block : Type) where
  | string (res : Block)
  | vec (res nodeIds : Block) (nodeCount : Int) (ids : List Block)
  | map (pointer pairs : Block) (nodeCount : Int)
      (entries : List (Block × Block))
  deriving DecidableEq

namespace ViewBlocks

variable {Block : Type}

/-- All blocks of a structure. -/
def blocks : ViewBlocks Block → List Block
  | .string res => [res]
  | .vec res nodeIds _ ids => res :: nodeIds :: ids
  | .map pointer pairs _ entries =>
      pointer :: pairs :: entries.flatMap fun entry => [entry.1, entry.2]

/-- The blocks in the order in which the destroying calls delete them; the
loops run up to `node_count`. -/
def deletions : ViewBlocks Block → List Block
  | .string res => [res]
  | .vec res nodeIds nodeCount ids =>
      ids.take nodeCount.toNat ++ [nodeIds, res]
  | .map pointer pairs nodeCount entries =>
      (entries.take nodeCount.toNat).flatMap (fun entry => [entry.2, entry.1]) ++
        [pairs, pointer]

/-- The count of a structure is that of its entries. -/
def Counted : ViewBlocks Block → Prop
  | .string _ => True
  | .vec _ _ nodeCount ids => nodeCount = ids.length
  | .map _ _ nodeCount entries => nodeCount = entries.length

theorem Counted.deletions_perm
    {view : ViewBlocks Block} (counted : view.Counted) :
    view.deletions.Perm view.blocks := by
  cases view with
  | string res => exact .refl _
  | vec res nodeIds nodeCount ids =>
      have all : ids.take nodeCount.toNat = ids := by
        rw [show nodeCount = ids.length from counted, Int.toNat_natCast,
          List.take_length]
      rw [deletions, all, blocks]
      exact List.perm_append_comm.trans (.swap res nodeIds ids)
  | map pointer pairs nodeCount entries =>
      have all : entries.take nodeCount.toNat = entries := by
        rw [show nodeCount = entries.length from counted, Int.toNat_natCast,
          List.take_length]
      have turned :
          (entries.flatMap fun entry => [entry.2, entry.1]).Perm
            (entries.flatMap fun entry => [entry.1, entry.2]) :=
        List.Perm.flatMap_left _ fun entry _ => .swap entry.1 entry.2 []
      rw [deletions, all, blocks]
      exact
        List.perm_append_comm.trans
          ((List.Perm.swap pointer pairs _).trans
            ((turned.cons pairs).cons pointer))

end ViewBlocks

section Encode

variable {Block : Type} (allocator : Allocator Block)

/-- The blocks of `encode_string`. -/
def newString (live : List Block) : ViewBlocks Block × List Block :=
  let (res, live) := allocator.new live
  (.string res, live)

/-- The loop of `encode_vector`. -/
def newIds : Nat → List Block → List Block × List Block
  | 0, live => ([], live)
  | count + 1, live =>
      let (id, live) := allocator.new live
      let (ids, live) := newIds count live
      (id :: ids, live)

/-- The blocks of `encode_vector`. -/
def newVec (count : Nat) (live : List Block) :
    ViewBlocks Block × List Block :=
  let (res, live) := allocator.new live
  let (nodeIds, live) := allocator.new live
  let (ids, live) := newIds allocator count live
  (.vec res nodeIds (toInt32 count) ids, live)

/-- The loop of `encode_map`. -/
def newPairs : Nat → List Block → List (Block × Block) × List Block
  | 0, live => ([], live)
  | count + 1, live =>
      let (pair, live) := allocator.new live
      let (id, live) := allocator.new live
      let (entries, live) := newPairs count live
      ((pair, id) :: entries, live)

/-- The blocks of `encode_map`. -/
def newMap (count : Nat) (live : List Block) :
    ViewBlocks Block × List Block :=
  let (pointer, live) := allocator.new live
  let (pairs, live) := allocator.new live
  let (entries, live) := newPairs allocator count live
  (.map pointer pairs (toInt32 count) entries, live)

/-- The blocks of a view with so many ids. -/
def newView : ChannelView → Nat → List Block → ViewBlocks Block × List Block
  | .currentNode, _ => newString allocator
  | .computationNodes, count => newMap allocator count
  | .dataNodes, count | .resultNodes, count | .connectedNodes, count =>
      newVec allocator count

theorem newIds_grows (count : Nat) (live : List Block) :
    Grows live (newIds allocator count live).1
      (newIds allocator count live).2 := by
  induction count generalizing live with
  | zero => exact .refl live
  | succ count inductionHypothesis =>
      exact (Grows.new allocator live).trans (inductionHypothesis _)

theorem newPairs_grows (count : Nat) (live : List Block) :
    Grows live
      ((newPairs allocator count live).1.flatMap fun entry =>
        [entry.1, entry.2])
      (newPairs allocator count live).2 := by
  induction count generalizing live with
  | zero => exact .refl live
  | succ count inductionHypothesis =>
      have pair := Grows.new allocator live
      have id := Grows.new allocator (allocator.new live).2
      exact (pair.trans id).trans (inductionHypothesis _)

theorem length_newIds (count : Nat) (live : List Block) :
    (newIds allocator count live).1.length = count := by
  induction count generalizing live with
  | zero => rfl
  | succ count inductionHypothesis =>
      exact congrArg Nat.succ (inductionHypothesis _)

theorem length_newPairs (count : Nat) (live : List Block) :
    (newPairs allocator count live).1.length = count := by
  induction count generalizing live with
  | zero => rfl
  | succ count inductionHypothesis =>
      exact congrArg Nat.succ (inductionHypothesis _)

/-- A new view takes new blocks only, and counts its entries. -/
theorem newView_spec
    (view : ChannelView) {count : Nat} (fits : count ≤ 2147483647)
    (live : List Block) :
    Grows live (newView allocator view count live).1.blocks
        (newView allocator view count live).2 ∧
      (newView allocator view count live).1.Counted := by
  have same : toInt32 count = count := toInt32_of_fits ⟨by omega, by omega⟩
  have vec :
      Grows live (newVec allocator count live).1.blocks
          (newVec allocator count live).2 ∧
        (newVec allocator count live).1.Counted := by
    have res := Grows.new allocator live
    have nodeIds := Grows.new allocator (allocator.new live).2
    refine ⟨(res.trans nodeIds).trans (newIds_grows allocator count _), ?_⟩
    exact same.trans (congrArg Int.ofNat (length_newIds allocator count _).symm)
  cases view with
  | currentNode => exact ⟨Grows.new allocator live, trivial⟩
  | computationNodes =>
      have pointer := Grows.new allocator live
      have pairs := Grows.new allocator (allocator.new live).2
      refine
        ⟨(pointer.trans pairs).trans (newPairs_grows allocator count _), ?_⟩
      exact
        same.trans (congrArg Int.ofNat (length_newPairs allocator count _).symm)
  | dataNodes | resultNodes | connectedNodes => exact vec

end Encode

/-! ## Runs -/

/-- How the views are made of blocks and deleted. -/
def viewDisposal (Block : Type) :
    Ledger.Disposal (ViewBlocks Block) Block where
  blocks := ViewBlocks.blocks
  order := ViewBlocks.deletions

/-- The channels and their views, and the blocks in use.  An entry of the
ledger is one of the five global maps; `invalidFree` records a `delete` of a
block that is not in use. -/
structure BlockState (Address Block : Type) where
  views : ChannelState Address
  ledger : Ledger (ChannelView × Address) (ViewBlocks Block) Block
  invalidFree : Bool

namespace BlockState

variable {Address Block : Type} [DecidableEq Address] [DecidableEq Block]

/-- The calls of `~TcpChannel`. -/
def destroyViews (this : Address) :
    List ChannelView →
      Ledger (ChannelView × Address) (ViewBlocks Block) Block →
        Option (Ledger (ChannelView × Address) (ViewBlocks Block) Block)
  | [], ledger => some ledger
  | view :: views, ledger =>
      (ledger.release (viewDisposal Block) (view, this)).bind
        (destroyViews this views)

/-- The blocks of a call on the channels. -/
def exec (allocator : Allocator Block) (state : BlockState Address Block)
    (call : ChannelCall Address) : Option (BlockState Address Block) :=
  match state.views.exec call with
  | none => none
  | some views =>
      match call with
      | .create _ _ _ _ _ => some { state with views := views }
      | .get this view =>
          match state.ledger.lookup (view, this), state.views.channels this with
          | none, some channel =>
              some { state with
                views := views
                ledger := state.ledger.enter (view, this)
                  (newView allocator view (channel.own view).names.length
                    state.ledger.live) }
          | _, _ => some { state with views := views }
      | .destroy this =>
          match
            destroyViews this
              [.currentNode, .dataNodes, .computationNodes, .resultNodes,
                .connectedNodes] state.ledger with
          | some ledger => some { state with views := views, ledger := ledger }
          | none => some { state with views := views, invalidFree := true }

omit [DecidableEq Block] in
def Initial (state : BlockState Address Block) : Prop :=
  state.views = .empty ∧ state.ledger = .empty ∧ state.invalidFree = false

end BlockState

/-! ## Which views are cached -/

section Caches

variable {Address : Type} [DecidableEq Address]

omit [DecidableEq Address] in
/-- The map of the view has an entry for the channel. -/
def ChannelState.Caches (self : ChannelState Address) :
    ChannelView → Address → Prop
  | .currentNode, this => (self.currentNodeMap this).isSome
  | .dataNodes, this => (self.dataNodeMap this).isSome
  | .computationNodes, this => (self.computationNodeMap this).isSome
  | .resultNodes, this => (self.resultNodeMap this).isSome
  | .connectedNodes, this => (self.connectedNodeMap this).isSome

omit [DecidableEq Address] in
theorem ChannelState.Fresh.live_of_caches
    {state : ChannelState Address} (fresh : state.Fresh) {view : ChannelView}
    {this : Address} (caches : state.Caches view this) :
    (state.channels this).isSome := by
  cases view with
  | currentNode => exact fresh.currentNode.isSome_live caches
  | dataNodes => exact fresh.dataNodes.isSome_live caches
  | computationNodes => exact fresh.computationNodes.isSome_live caches
  | resultNodes => exact fresh.resultNodes.isSome_live caches
  | connectedNodes => exact fresh.connectedNodes.isSome_live caches

/-- A call for a view fills its entry and leaves the others. -/
theorem ChannelState.caches_get
    {state next : ChannelState Address} {this : Address}
    {channel : TcpChannel} {view : ChannelView} {returned : Returned}
    (got : state.get this channel view = .ok (returned, next))
    (other : ChannelView) (that : Address) :
    next.Caches other that ↔
      state.Caches other that ∨ (other, that) = (view, this) := by
  cases view with
  | currentNode | dataNodes | computationNodes | resultNodes
  | connectedNodes =>
      obtain ⟨⟨nodes, after⟩, asked, same⟩ := bind_eq_ok got
      obtain ⟨⟨shown, map⟩, found, kept⟩ := bind_eq_ok asked
      cases kept
      cases same
      have filled := ObjectCache.isSome_find found that
      cases other <;> simp [ChannelState.Caches, filled]

theorem ChannelState.caches_destroy
    (state : ChannelState Address) (this : Address) (view : ChannelView)
    (that : Address) :
    (TcpChannel.destroy this state).Caches view that ↔
      state.Caches view that ∧ that ≠ this := by
  by_cases same : that = this
  · subst same
    cases view <;>
      simp [ChannelState.Caches, TcpChannel.destroy,
        TcpChannel.destroyCurrentNode, TcpChannel.destroyDataNodes,
        TcpChannel.destroyComputationNodes, TcpChannel.destroyResultNodes,
        TcpChannel.destroyConnectedNodes]
  · cases view <;>
      simp [ChannelState.Caches, TcpChannel.destroy,
        TcpChannel.destroyCurrentNode, TcpChannel.destroyDataNodes,
        TcpChannel.destroyComputationNodes, TcpChannel.destroyResultNodes,
        TcpChannel.destroyConnectedNodes, ObjectCache.erase_of_ne same, same]

end Caches

/-- Runs that begin without channels and without blocks.  Each call meets the
allocator as the calls before it have left it. -/
def blockMachine (Address Block : Type) [DecidableEq Address]
    [DecidableEq Block] :
    TransitionMachine (BlockState Address Block)
      (Allocator Block × ChannelCall Address) where
  initial := BlockState.Initial
  next := fun state label => state.exec label.1 label.2

/-! ## The blocks in use are those of the views -/

namespace BlockState

variable {Address Block : Type} [DecidableEq Address] [DecidableEq Block]

theorem destroyViews_spec
    (this : Address) (views : List ChannelView)
    {ledger : Ledger (ChannelView × Address) (ViewBlocks Block) Block}
    (balanced : ledger.Balanced (viewDisposal Block)) :
    ∃ released,
      destroyViews this views ledger = some released ∧
        released.Balanced (viewDisposal Block) ∧
        ∀ entry, entry ∈ released.held ↔
          entry ∈ ledger.held ∧ ∀ view ∈ views, entry.1 ≠ (view, this) := by
  induction views generalizing ledger with
  | nil => exact ⟨ledger, rfl, balanced, fun entry => by simp⟩
  | cons view views inductionHypothesis =>
      obtain ⟨first, done, firstBalanced, held⟩ :=
        balanced.release (view, this)
      obtain ⟨released, others, releasedBalanced, members⟩ :=
        inductionHypothesis firstBalanced
      refine ⟨released, ?_, releasedBalanced, ?_⟩
      · rw [destroyViews, done]
        exact others
      · intro entry
        rw [members, held, List.mem_filter, List.forall_mem_cons]
        simp only [decide_eq_true_eq, and_assoc]

/-- No `delete` has failed, and the ledger has the blocks of the cached
views. -/
structure Accounted (state : BlockState Address Block) : Prop where
  valid : state.invalidFree = false
  balanced : state.ledger.Balanced (viewDisposal Block)
  cached : ∀ view this,
    (∃ entry ∈ state.ledger.held, entry.1 = (view, this)) ↔
      state.views.Caches view this

variable {state target : BlockState Address Block}
variable {allocator : Allocator Block}

/-- The entries that a call keeps: all but those of a destroyed channel. -/
def KeepsHeld (state target : BlockState Address Block)
    (call : ChannelCall Address) : Prop :=
  ∀ entry ∈ state.ledger.held, call ≠ .destroy entry.1.2 →
    entry ∈ target.ledger.held

theorem Accounted.create
    (accounted : state.Accounted) {this : Address} {nodeInfo : NodeInfo}
    {config : ChannelConfig} {netIo : ViaNetIo}
    {clientNodeIds : Std.ExtTreeSet String}
    (executed :
      state.exec allocator (.create this nodeInfo config netIo clientNodeIds) =
        some target) :
    target.Accounted ∧
      state.KeepsHeld target
        (.create this nodeInfo config netIo clientNodeIds) := by
  rw [BlockState.exec, ChannelState.exec] at executed
  cases free : state.views.channels this with
  | some channel =>
      rw [free] at executed
      cases executed
  | none =>
      rw [free] at executed
      cases executed
      refine
        ⟨⟨accounted.valid, accounted.balanced, ?_⟩, fun _ isHeld _ => isHeld⟩
      intro view that
      have same := accounted.cached view that
      cases view <;> exact same

theorem Accounted.get
    (accounted : state.Accounted) (fresh : state.views.Fresh)
    {this : Address} {view : ChannelView}
    (executed : state.exec allocator (.get this view) = some target) :
    target.Accounted ∧ state.KeepsHeld target (.get this view) := by
  rw [BlockState.exec, ChannelState.exec] at executed
  cases isLive : state.views.channels this with
  | none =>
      rw [isLive] at executed
      cases executed
  | some channel =>
      rw [isLive] at executed
      dsimp only at executed
      cases got : state.views.get this channel view with
      | error fault =>
          rw [got] at executed
          cases executed
      | ok read =>
          obtain ⟨returned, views⟩ := read
          rw [got] at executed
          dsimp only at executed
          have caches := ChannelState.caches_get got
          cases found : state.ledger.lookup (view, this) with
          | some entry =>
              rw [found] at executed
              cases executed
              obtain ⟨isHeld, isKey⟩ := Ledger.lookup_eq_some found
              refine
                ⟨⟨accounted.valid, accounted.balanced, ?_⟩,
                  fun _ isHeld _ => isHeld⟩
              intro other that
              rw [caches, ← accounted.cached]
              refine ⟨.inl, ?_⟩
              rintro (isCached | same)
              · exact isCached
              · exact ⟨entry, isHeld, isKey.trans same.symm⟩
          | none =>
              rw [found, isLive] at executed
              cases executed
              have fits := (fresh.completes_get_iff isLive view).mp ⟨_, got⟩
              obtain ⟨grows, counted⟩ :=
                newView_spec allocator view fits state.ledger.live
              refine
                ⟨⟨accounted.valid,
                  accounted.balanced.enter found grows
                    counted.deletions_perm, ?_⟩,
                  fun _ isHeld _ => List.mem_cons_of_mem _ isHeld⟩
              intro other that
              rw [caches, ← accounted.cached, or_comm]
              simp only [Ledger.enter, List.exists_mem_cons_iff]
              exact or_congr_left eq_comm

theorem Accounted.destroy
    (accounted : state.Accounted) {this : Address}
    (executed : state.exec allocator (.destroy this) = some target) :
    target.Accounted ∧ state.KeepsHeld target (.destroy this) := by
  rw [BlockState.exec, ChannelState.exec] at executed
  cases isLive : state.views.channels this with
  | none =>
      rw [isLive] at executed
      cases executed
  | some channel =>
      rw [isLive] at executed
      dsimp only at executed
      obtain ⟨released, done, balanced, held⟩ :=
        destroyViews_spec this
          [.currentNode, .dataNodes, .computationNodes, .resultNodes,
            .connectedNodes] accounted.balanced
      rw [done] at executed
      cases executed
      have kept : ∀ entry, entry ∈ released.held ↔
          entry ∈ state.ledger.held ∧ entry.1.2 ≠ this := by
        intro entry
        rw [held]
        refine and_congr_right fun _ => ?_
        constructor
        · intro apart same
          refine apart entry.1.1 ?_ (Prod.ext rfl same)
          cases entry.1.1 <;> simp
        · rintro apart view - same
          exact apart (congrArg Prod.snd same)
      refine ⟨⟨accounted.valid, balanced, ?_⟩, ?_⟩
      · intro view that
        rw [ChannelState.caches_destroy, ← accounted.cached]
        constructor
        · rintro ⟨entry, isHeld, isKey⟩
          obtain ⟨wasHeld, apart⟩ := (kept entry).mp isHeld
          rw [isKey] at apart
          exact ⟨⟨entry, wasHeld, isKey⟩, apart⟩
        · rintro ⟨⟨entry, wasHeld, isKey⟩, apart⟩
          refine ⟨entry, (kept entry).mpr ⟨wasHeld, ?_⟩, isKey⟩
          rw [isKey]
          exact apart
      · intro entry isHeld other
        refine (kept entry).mpr ⟨isHeld, ?_⟩
        intro same
        exact other (congrArg _ same.symm)

theorem Accounted.exec
    (accounted : state.Accounted) (fresh : state.views.Fresh)
    {call : ChannelCall Address}
    (executed : state.exec allocator call = some target) :
    target.Accounted ∧ state.KeepsHeld target call := by
  cases call with
  | create this nodeInfo config netIo clientNodeIds =>
      exact accounted.create executed
  | get this view => exact accounted.get fresh executed
  | destroy this => exact accounted.destroy executed

/-- The channels and views are those of a run of the channels alone. -/
theorem exec_views
    {call : ChannelCall Address}
    (executed : state.exec allocator call = some target) :
    state.views.exec call = some target.views := by
  rw [BlockState.exec] at executed
  cases ran : state.views.exec call with
  | none =>
      rw [ran] at executed
      cases executed
  | some views =>
      rw [ran] at executed
      cases call with
      | create this nodeInfo config netIo clientNodeIds =>
          cases executed
          rfl
      | get this view =>
          dsimp only at executed
          split at executed <;> cases executed <;> rfl
      | destroy this =>
          dsimp only at executed
          split at executed <;> cases executed <;> rfl

theorem views_reachable
    (reachable : (blockMachine Address Block).Reachable state) :
    (channelMachine Address).Reachable state.views := by
  induction reachable with
  | initial isInitial => exact .initial isInitial.1
  | step label _ _ executed inductionHypothesis =>
      exact inductionHypothesis.step label.2 (exec_views executed)

theorem Accounted.of_reachable
    (reachable : (blockMachine Address Block).Reachable state) :
    state.Accounted := by
  induction reachable with
  | initial isInitial =>
      obtain ⟨noViews, noBlocks, valid⟩ := isInitial
      refine ⟨valid, ?_, ?_⟩
      · rw [noBlocks]
        exact Ledger.balanced_empty _
      · intro view this
        rw [noBlocks, noViews]
        cases view <;> simp [Ledger.empty, ChannelState.Caches,
          ChannelState.empty]
  | step label before _ executed inductionHypothesis =>
      have fresh := fresh_of_reachable (views_reachable before)
      exact (inductionHypothesis.exec fresh executed).1

/-- The blocks of the C views in every run of channels that are created, asked
and destroyed, whatever addresses the allocator hands out and hands out again
after whatever has happened before.
No `delete` meets a block that is not in use.  The blocks in use are those of
the cached views, each once; the cached views are those of the five maps; and
without channels there are none.  A call keeps the views of all channels but
the one it destroys, and their blocks stay in use. -/
theorem view_blocks_accounted
    (reachable : (blockMachine Address Block).Reachable state) :
    state.invalidFree = false ∧
    state.ledger.live.Nodup ∧
    state.ledger.live.Perm
      (state.ledger.held.flatMap fun entry => entry.2.blocks) ∧
    (∀ view this,
      (∃ entry ∈ state.ledger.held, entry.1 = (view, this)) ↔
        state.views.Caches view this) ∧
    ((∀ this, state.views.channels this = none) →
      state.ledger.live = []) ∧
    ∀ allocator call target, state.exec allocator call = some target →
      ∀ entry ∈ state.ledger.held, call ≠ .destroy entry.1.2 →
        entry ∈ target.ledger.held ∧
          ∀ block ∈ entry.2.blocks, block ∈ target.ledger.live := by
  have accounted := Accounted.of_reachable reachable
  have fresh := fresh_of_reachable (views_reachable reachable)
  refine
    ⟨accounted.valid, accounted.balanced.nodup, accounted.balanced.accounted,
      accounted.cached, ?_, ?_⟩
  · intro noChannels
    have nothingHeld : state.ledger.held = [] := by
      rw [List.eq_nil_iff_forall_not_mem]
      intro entry isHeld
      have live :=
        fresh.live_of_caches
          ((accounted.cached entry.1.1 entry.1.2).mp ⟨entry, isHeld, rfl⟩)
      rw [noChannels] at live
      cases live
    have nothing := accounted.balanced.accounted
    rw [nothingHeld] at nothing
    exact List.perm_nil.mp nothing
  · intro allocator call target executed entry isHeld other
    obtain ⟨after, keeps⟩ := accounted.exec fresh executed
    have stillHeld := keeps entry isHeld other
    refine ⟨stillHeld, ?_⟩
    intro block isBlock
    exact
      after.balanced.accounted.mem_iff.mpr
        (List.mem_flatMap.mpr ⟨entry, stillHeld, isBlock⟩)

/-- An address beyond those in use. -/
def beyond : List Nat → Nat
  | [] => 0
  | address :: live => address + beyond live + 1

theorem lt_beyond {address : Nat} {live : List Nat}
    (inUse : address ∈ live) : address < beyond live := by
  induction inUse with
  | head live =>
      rw [beyond]
      omega
  | tail other _ inductionHypothesis =>
      rw [beyond]
      omega

/-- An allocator that counts beyond the addresses in use. -/
def counting : Allocator Nat where
  choose := beyond
  fresh := fun _ inUse => (lt_beyond inUse).false

/-- A channel that is created, asked for its own id and destroyed. -/
def askedRun : List (Allocator Nat × ChannelCall Nat) :=
  [(counting,
      .create 0 (IoChannelImpl.pairedIo "p1" "p0").nodeInfo {}
        (IoChannelImpl.pairedIo "p1" "p0") ∅),
    (counting, .get 0 .currentNode), (counting, .destroy 0)]

theorem view_blocks_accounted_asked :
    ∃ final,
      (blockMachine Nat Nat).run
          (⟨.empty, .empty, false⟩ : BlockState Nat Nat) askedRun =
        some final ∧
        final.invalidFree = false ∧ final.ledger.live = [] := by
  have begun :
      (blockMachine Nat Nat).Reachable
        (⟨.empty, .empty, false⟩ : BlockState Nat Nat) :=
    .initial ⟨rfl, rfl, rfl⟩
  have executed :
      ∃ final,
        (blockMachine Nat Nat).run
            (⟨.empty, .empty, false⟩ : BlockState Nat Nat) askedRun =
          some final ∧ ∀ this, final.views.channels this = none := by
    refine ⟨_, rfl, ?_⟩
    intro this
    by_cases same : this = 0
    · rw [same]
      rfl
    · exact
        (ObjectCache.erase_of_ne same _).trans
          (ObjectCache.insert_of_ne same _ _)
  obtain ⟨final, ran, noChannels⟩ := executed
  have accounted := view_blocks_accounted (begun.run ran)
  exact ⟨final, ran, accounted.1, accounted.2.2.2.2.1 noChannels⟩

end BlockState

end ChannelSdk
