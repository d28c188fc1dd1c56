import ChannelSdk.ChannelViews

/-!
# Runs of channels that are created, asked and destroyed

A run creates channels as `CreateViaChannel` does, at any address that no live
channel has, asks live channels for their views, and destroys them.  The maps
stay fresh throughout: every key is the address of a live channel, and every
view that is returned is that of the channel which is asked.

The one thing that can go wrong is the count of the entries, which is an `int`
both in the structures and in the loops that fill them.
-/

namespace ChannelSdk

open CheckedMemory CheckedOutcome ObjectCache
open Std (ExtTreeMap ExtTreeSet)

inductive ChannelCall (Address : Type) where
  | create (this : Address) (nodeInfo : NodeInfo) (config : ChannelConfig)
      (netIo : ViaNetIo) (clientNodeIds : ExtTreeSet String)
  | get (this : Address) (view : ChannelView)
  | destroy (this : Address)

namespace ChannelState

variable {Address : Type}

/-- Before any channel. -/
def empty : ChannelState Address where
  channels := fun _ => none
  currentNodeMap := fun _ => none
  dataNodeMap := fun _ => none
  computationNodeMap := fun _ => none
  resultNodeMap := fun _ => none
  connectedNodeMap := fun _ => none

theorem fresh_empty : (empty : ChannelState Address).Fresh where
  currentNode := ObjectCache.fresh_empty _
  dataNodes := ObjectCache.fresh_empty _
  computationNodes := ObjectCache.fresh_empty _
  resultNodes := ObjectCache.fresh_empty _
  connectedNodes := ObjectCache.fresh_empty _

variable [DecidableEq Address]

/-- The state after a call; there is none when a loop counts too far, when an
address is taken or when no channel lives there. -/
def exec (self : ChannelState Address) :
    ChannelCall Address → Option (ChannelState Address)
  | .create this nodeInfo config netIo clientNodeIds =>
      match self.channels this with
      | some _ => none
      | none =>
          some { self with
            channels := insert self.channels this
              (createViaChannel nodeInfo config netIo clientNodeIds) }
  | .get this view =>
      match self.channels this with
      | none => none
      | some channel =>
          match self.get this channel view with
          | .ok (_, next) => some next
          | .error _ => none
  | .destroy this =>
      match self.channels this with
      | none => none
      | some _ => some (TcpChannel.destroy this self)

/-- A live channel that is asked for a view returns a structure which stands
for just what the channel has, if no id has a NUL character. -/
def NeverStale (self : ChannelState Address) : ChannelCall Address → Prop
  | .create _ _ _ _ _ | .destroy _ => True
  | .get this view =>
      ∀ channel, self.channels this = some channel →
        ∃ returned next,
          self.get this channel view = .ok (returned, next) ∧
          ((∀ name ∈ (channel.own view).names, NulFree name) →
            returned.decode = channel.own view)

/-- A live channel that is asked for a view has fewer than `2 ^ 31` entries
in it. -/
def CountFits (self : ChannelState Address) : ChannelCall Address → Prop
  | .create _ _ _ _ _ | .destroy _ => True
  | .get this view =>
      ∀ channel, self.channels this = some channel →
        (channel.own view).names.length ≤ 2147483647

variable {self next : ChannelState Address}

theorem Fresh.exec
    (fresh : self.Fresh) {call : ChannelCall Address}
    (executed : self.exec call = some next) : next.Fresh := by
  cases call with
  | create this nodeInfo config netIo clientNodeIds =>
      rw [ChannelState.exec] at executed
      split at executed
      · cases executed
      next free =>
        cases executed
        exact fresh.create free _
  | get this view =>
      rw [ChannelState.exec] at executed
      split at executed
      · cases executed
      next channel isLive =>
        split at executed
        next returned after got =>
          cases executed
          exact (fresh.get isLive got).1
        next => cases executed
  | destroy this =>
      rw [ChannelState.exec] at executed
      split at executed
      · cases executed
      next =>
        cases executed
        exact fresh.destroy this

theorem Fresh.neverStale_iff
    (fresh : self.Fresh) (call : ChannelCall Address) :
    self.NeverStale call ↔ self.CountFits call := by
  cases call with
  | create this nodeInfo config netIo clientNodeIds => exact Iff.rfl
  | destroy this => exact Iff.rfl
  | get this view =>
      apply forall_congr'
      intro channel
      apply forall_congr'
      intro isLive
      rw [← fresh.completes_get_iff isLive view]
      constructor
      · intro current
        rcases current with ⟨returned, after, got, -⟩
        exact ⟨_, got⟩
      · intro completes
        rcases completes with ⟨⟨returned, after⟩, got⟩
        exact ⟨returned, after, got, (fresh.get isLive got).2⟩

end ChannelState

/-- Runs that begin without channels. -/
def channelMachine (Address : Type) [DecidableEq Address] :
    TransitionMachine (ChannelState Address) (ChannelCall Address) where
  initial := fun state => state = .empty
  next := ChannelState.exec

theorem fresh_of_reachable
    {Address : Type} [DecidableEq Address] {state : ChannelState Address}
    (reached : (channelMachine Address).Reachable state) : state.Fresh := by
  apply TransitionMachine.Reachable.invariant ?_ ?_ reached
  · intro first isInitial
    rw [isInitial]
    exact ChannelState.fresh_empty
  · intro source call target fresh stepped
    exact fresh.exec stepped

/-- For every run of channels that are created, asked for their views and
destroyed: every view that is asked for is returned and shows what its channel
has exactly when every one of them has fewer than `2 ^ 31` entries; and in
every state all keys of the global maps are those of live channels. -/
theorem views_never_stale_iff
    {Address : Type} [DecidableEq Address]
    (calls : List (ChannelCall Address)) :
    ((channelMachine Address).RunMeets ChannelState.NeverStale .empty calls ↔
        (channelMachine Address).RunMeets ChannelState.CountFits .empty
          calls) ∧
      ∀ final, (channelMachine Address).run .empty calls = some final →
        final.KeysLive := by
  have begun : (channelMachine Address).Reachable .empty := .initial rfl
  constructor
  · apply TransitionMachine.runMeets_congr_of_reachable _ begun
    intro source call reached
    exact (fresh_of_reachable reached).neverStale_iff call
  · intro final executed
    exact (fresh_of_reachable (begun.run executed)).keysLive

/-- As many decimal node ids as asked for. -/
def countedIds (count : Nat) : ExtTreeSet String :=
  ExtTreeSet.ofList ((List.range count).map Nat.repr)

theorem length_countedIds (count : Nat) :
    (countedIds count).toList.length = count := by
  have distinct :
      ((List.range count).map Nat.repr).Pairwise
        fun first second => ¬ compare first second = .eq := by
    rw [List.pairwise_map]
    apply List.nodup_range.imp
    intro first second different same
    have digits :=
      congrArg String.toList (Std.LawfulEqCmp.eq_of_compare same)
    rw [Nat.toList_repr, Nat.toList_repr] at digits
    have values := congrArg (fun digits => Nat.ofDigitChars 10 digits 0) digits
    rw [Nat.ofDigitChars_ten_toDigits, Nat.ofDigitChars_ten_toDigits]
      at values
    exact different values
  rw [ExtTreeSet.length_toList, countedIds, ExtTreeSet.size_ofList distinct,
    List.length_map, List.length_range]

/-- Create a channel with that many connected nodes and ask for them. -/
def connectedRun (count : Nat) : List (ChannelCall Nat) :=
  [.create 0 (IoChannelImpl.pairedIo "p1" "p0").nodeInfo {}
      (IoChannelImpl.pairedIo "p1" "p0") (countedIds count),
    .get 0 .connectedNodes]

/-- A channel does not list more connected nodes than an `int` can count. -/
theorem connectedRun_breaks {count : Nat} (large : 2147483647 < count) :
    ¬ (channelMachine Nat).RunMeets ChannelState.NeverStale .empty
      (connectedRun count) := by
  let io := IoChannelImpl.pairedIo "p1" "p0"
  let channel := createViaChannel io.nodeInfo {} io (countedIds count)
  let created : ChannelState Nat :=
    { ChannelState.empty with channels := insert (fun _ => none) 0 channel }
  have stepped :
      ChannelState.empty.exec
          (.create 0 io.nodeInfo {} io (countedIds count)) =
        some created := rfl
  have fresh := ChannelState.fresh_empty.exec stepped
  intro meets
  have fits : (countedIds count).toList.length ≤ 2147483647 :=
    (fresh.neverStale_iff _).mp (meets.2 created stepped).1 channel rfl
  rw [length_countedIds] at fits
  omega

/-- A channel that is connected with `2 ^ 31` nodes cannot list them. -/
theorem too_many_connected_nodes :
    ¬ (channelMachine Nat).RunMeets ChannelState.NeverStale .empty
      (connectedRun 2147483648) :=
  connectedRun_breaks (show 2147483647 < 2147483648 by decide)

end ChannelSdk
