import Rekindle.Client.WatchRuns

/-! # Resyncs after a reconnection

A reconnection is over with the first event that finds the node attached and the network ready.
The two may come in one event or in several.
-/
namespace Rekindle.Client
set_option autoImplicit false
open Runs

namespace WatchState

/-- `handle_attachment`, and whether it spawns `sync_friends_now`. -/
def receiveAttachment (state : WatchState) (attached publicInternetReady : Bool) : WatchState × Bool :=
  let reconnected := !state.isAttached && attached
  let state :=
    { state with
      node := state.node.map fun _ => { isAttached := attached, publicInternetReady }
      liveWatches := if attached then state.liveWatches else ∅ }
  if reconnected && publicInternetReady && state.loggedIn then (state.invalidateAllWatches, true) else (state, false)

theorem receiveAttachment_fst (state : WatchState) (attached publicInternetReady : Bool) :
    (state.receiveAttachment attached publicInternetReady).1 = state.handleAttachment attached publicInternetReady := by
  rw [receiveAttachment, handleAttachment]
  dsimp only
  split <;> rfl

def spawnsResync (state : WatchState) : WatchEvent → Bool
  | .attachment attached publicInternetReady => (state.receiveAttachment attached publicInternetReady).2
  | _ => false

def AllInvalidated (state : WatchState) : Prop :=
  ∀ name ∈ state.friends.names, (state.friends.dhtRecordKey name).isSome = true → name ∈ state.unwatchedFriends

theorem allInvalidated_invalidate (state : WatchState) : state.invalidateAllWatches.AllInvalidated := by
  intro name hName hKey
  apply Finset.mem_union_right
  rw [List.mem_toFinset, List.mem_filter]
  exact ⟨hName, hKey⟩

theorem spawnsResync_iff (state : WatchState) (event : WatchEvent) :
    state.spawnsResync event = true ↔
      event = .attachment true true ∧ state.isAttached = false ∧ state.loggedIn = true := by
  cases event with
  | attachment attached publicInternetReady =>
    simp only [spawnsResync, receiveAttachment]
    cases attached <;> cases publicInternetReady <;> cases state.isAttached <;> cases state.loggedIn <;> simp
  | _ => simp [spawnsResync]

/-- What starts the resync invalidates the watches as well. -/
theorem allInvalidated_of_spawns {parses : String → Bool} {state : WatchState} {event : WatchEvent}
    (h : state.spawnsResync event = true) : (state.step parses event).AllInvalidated := by
  obtain ⟨rfl, hAttached, hLoggedIn⟩ := (spawnsResync_iff state event).mp h
  rw [step, handleAttachment]
  dsimp only
  rw [if_pos (by rw [hAttached, hLoggedIn]; rfl)]
  exact allInvalidated_invalidate _

section
variable {parses : String → Bool} {state : WatchState} {outcome : WatchOutcome}

theorem beginTick_frame : state.beginTick.loggedIn = state.loggedIn ∧ state.beginTick.node = state.node := by
  rw [beginTick]
  split
  · split <;> exact ⟨rfl, rfl⟩
  · exact ⟨rfl, rfl⟩

theorem endTick_frame : state.endTick.loggedIn = state.loggedIn ∧ state.endTick.node = state.node := by
  rw [endTick]
  split <;> exact ⟨rfl, rfl⟩

theorem visitFriend_frame : (state.visitFriend parses outcome).loggedIn = state.loggedIn ∧
    (state.visitFriend parses outcome).node = state.node := by
  rw [visitFriend]
  split
  · rename_i watchedKeys friendKey dhtKey rest hLoop
    let registered := { state with syncLoop := some ⟨watchedKeys, some rest⟩ }.registerFriendDhtKey dhtKey friendKey
    obtain ⟨hNode, hLoggedIn, -⟩ : (registered.watchFriend parses friendKey dhtKey outcome).1.node = state.node ∧
        (registered.watchFriend parses friendKey dhtKey outcome).1.loggedIn = state.loggedIn ∧ True :=
      ⟨watchFriend_frame.1, watchFriend_frame.2.1, trivial⟩
    dsimp only
    split
    · exact ⟨rfl, rfl⟩
    · split
      · exact ⟨rfl, rfl⟩
      · cases hCall : registered.watchFriend parses friendKey dhtKey outcome with
        | mk watched ok =>
          rw [hCall] at hNode hLoggedIn
          cases ok <;> exact ⟨hLoggedIn, hNode⟩
  · exact ⟨rfl, rfl⟩

theorem tryRewatchFriend_frame (dhtKey : String) :
    (state.tryRewatchFriend parses dhtKey outcome).loggedIn = state.loggedIn ∧
      (state.tryRewatchFriend parses dhtKey outcome).node = state.node := by
  rw [tryRewatchFriend]
  split
  · exact ⟨rfl, rfl⟩
  · rename_i friendKey hFriend
    obtain ⟨hNode, hLoggedIn, -⟩ : (state.watchFriend parses friendKey dhtKey outcome).1.node = state.node ∧
        (state.watchFriend parses friendKey dhtKey outcome).1.loggedIn = state.loggedIn ∧ True :=
      ⟨watchFriend_frame.1, watchFriend_frame.2.1, trivial⟩
    cases hCall : state.watchFriend parses friendKey dhtKey outcome with
    | mk watched ok =>
      rw [hCall] at hNode hLoggedIn
      cases ok <;> exact ⟨hLoggedIn, hNode⟩

theorem handleValueChange_frame (dhtKey : String) (subkeys : List Nat) (count : Nat) :
    (state.handleValueChange parses dhtKey subkeys count outcome).loggedIn = state.loggedIn ∧
      (state.handleValueChange parses dhtKey subkeys count outcome).node = state.node := by
  rw [handleValueChange]
  split
  · exact tryRewatchFriend_frame dhtKey
  · exact ⟨rfl, rfl⟩

end

end WatchState

/-- The client, and whether the node has been detached and not yet been attached and ready since. -/
structure Reconnecting where
  client : WatchState
  awaiting : Bool

namespace Reconnecting

def start (client : WatchState) : Reconnecting := { client, awaiting := !client.isAttached }

def step (parses : String → Bool) (state : Reconnecting) (event : WatchEvent) : Reconnecting where
  client := state.client.step parses event
  awaiting := match event with
    | .attachment false _ => true
    | .attachment true true => false
    | _ => state.awaiting

/-- The event completes a reconnection. -/
def Completes (state : Reconnecting) (event : WatchEvent) : Prop :=
  state.awaiting = true ∧ event = .attachment true true

/-- The event starts a resync if and only if it completes a reconnection, and then every watch is to be
established again. -/
def ResyncsOnce (parses : String → Bool) (state : Reconnecting) (event : WatchEvent) : Prop :=
  (state.client.spawnsResync event = true ↔ state.Completes event) ∧
    (state.Completes event → (state.client.step parses event).AllInvalidated)

/-- The event that completes a reconnection is the one that attaches the node. -/
def ReadyWhenAttached (state : Reconnecting) (event : WatchEvent) : Prop :=
  state.Completes event → state.client.isAttached = false

structure Logged (state : Reconnecting) : Prop where
  loggedIn : state.client.loggedIn = true
  node : state.client.node.isSome = true
  awaiting : state.client.isAttached = false → state.awaiting = true

section
variable {parses : String → Bool} {state : Reconnecting} {event : WatchEvent}

/-- Only an attachment changes the node of a client that is logged in, and only a logout the session. -/
theorem step_frame (parses : String → Bool) {client : WatchState} (hLoggedIn : client.loggedIn = true) (hNode : client.node.isSome = true)
    (hEvent : event ≠ .logout) :
    (client.step parses event).loggedIn = true ∧
      ((∀ attached publicInternetReady, event ≠ .attachment attached publicInternetReady) →
        (client.step parses event).node = client.node) := by
  cases event with
  | startNode =>
    rw [WatchState.step, WatchState.startNode, if_neg (by rw [Option.isNone_eq_false_iff.mpr hNode]; decide)]
    exact ⟨hLoggedIn, fun _ => rfl⟩
  | attachment attached publicInternetReady =>
    refine ⟨?_, fun hNone => absurd rfl (hNone attached publicInternetReady)⟩
    rw [WatchState.step, WatchState.handleAttachment]
    dsimp only
    split <;> exact hLoggedIn
  | login friends =>
    rw [WatchState.step, WatchState.login, if_pos hLoggedIn]
    exact ⟨hLoggedIn, fun _ => rfl⟩
  | logout => exact absurd rfl hEvent
  | beginTick => exact ⟨WatchState.beginTick_frame.1.trans hLoggedIn, fun _ => WatchState.beginTick_frame.2⟩
  | visitFriend outcome => exact ⟨WatchState.visitFriend_frame.1.trans hLoggedIn, fun _ => WatchState.visitFriend_frame.2⟩
  | endTick => exact ⟨WatchState.endTick_frame.1.trans hLoggedIn, fun _ => WatchState.endTick_frame.2⟩
  | watch friendKey dhtKey outcome =>
    exact ⟨WatchState.watchFriend_frame.2.1.trans hLoggedIn, fun _ => WatchState.watchFriend_frame.1⟩
  | valueChange dhtKey subkeys count outcome =>
    exact ⟨(WatchState.handleValueChange_frame dhtKey subkeys count).1.trans hLoggedIn,
      fun _ => (WatchState.handleValueChange_frame dhtKey subkeys count).2⟩

theorem node_attachment (parses : String → Bool) {client : WatchState} (hNode : client.node.isSome = true)
    (attached publicInternetReady : Bool) :
    (client.step parses (.attachment attached publicInternetReady)).node = some ⟨attached, publicInternetReady⟩ := by
  obtain ⟨node, hSome⟩ := Option.isSome_iff_exists.mp hNode
  rw [WatchState.step, WatchState.handleAttachment, hSome]
  dsimp only
  split <;> rfl

theorem Logged.step (h : Logged state) (hEvent : event ≠ .logout) : Logged (state.step parses event) := by
  obtain ⟨hLoggedIn, hFrame⟩ := step_frame parses h.loggedIn h.node hEvent
  by_cases hAttachment : ∃ attached publicInternetReady, event = .attachment attached publicInternetReady
  · obtain ⟨attached, publicInternetReady, rfl⟩ := hAttachment
    have hNode := node_attachment parses h.node attached publicInternetReady
    refine ⟨hLoggedIn, ?_, ?_⟩
    · exact Option.isSome_of_eq_some hNode
    · intro hDetached
      have hNext : (state.step parses (.attachment attached publicInternetReady)).client.node =
          some ⟨attached, publicInternetReady⟩ := hNode
      rw [WatchState.isAttached, hNext] at hDetached
      change attached = false at hDetached
      rw [hDetached]
      rfl
  · have hNode := hFrame fun attached publicInternetReady hEq => hAttachment ⟨attached, publicInternetReady, hEq⟩
    refine ⟨hLoggedIn, (congrArg Option.isSome hNode).trans h.node, ?_⟩
    intro hDetached
    have hBefore : state.client.isAttached = false := (congrArg (Option.any WatchNode.isAttached) hNode).symm.trans hDetached
    have hSame : (state.step parses event).awaiting = state.awaiting := by
      cases event with
      | attachment attached publicInternetReady => exact absurd ⟨attached, publicInternetReady, rfl⟩ hAttachment
      | _ => rfl
    rw [hSame]
    exact h.awaiting hBefore

theorem Logged.resyncsOnce_iff (h : Logged state) (event : WatchEvent) :
    state.ResyncsOnce parses event ↔ state.ReadyWhenAttached event := by
  constructor
  · intro hOnce hCompletes
    have hSpawns := hOnce.1.mpr hCompletes
    exact ((WatchState.spawnsResync_iff state.client event).mp hSpawns).2.1
  · intro hReady
    have hSpawns (hCompletes : state.Completes event) : state.client.spawnsResync event = true :=
      (WatchState.spawnsResync_iff state.client event).mpr ⟨hCompletes.2, hReady hCompletes, h.loggedIn⟩
    refine ⟨⟨?_, hSpawns⟩, fun hCompletes => WatchState.allInvalidated_of_spawns (hSpawns hCompletes)⟩
    intro hStarted
    obtain ⟨hEvent, hDetached, -⟩ := (WatchState.spawnsResync_iff state.client event).mp hStarted
    exact ⟨h.awaiting hDetached, hEvent⟩

/-- Each reconnection is followed by one resync, if the network is ready when the node is attached. -/
theorem reconnections_resync_iff {client : WatchState} {events : List WatchEvent} (hLoggedIn : client.loggedIn = true)
    (hNode : client.node.isSome = true) (hEvents : ∀ event ∈ events, event ≠ .logout) :
    Along (step parses) (ResyncsOnce parses) (start client) events ↔
      Along (step parses) ReadyWhenAttached (start client) events := by
  have hStart : Logged (start client) := by
    refine ⟨hLoggedIn, hNode, fun hDetached => ?_⟩
    rw [start, show client.isAttached = false from hDetached]
    rfl
  exact Along.congr_of_invariant Logged
    (fun state event hMem h => ⟨h.step (hEvents event hMem), h.resyncsOnce_iff event⟩) hStart

end

/-- A client that is logged in, with one friend and a node that has lost the network. -/
def detachedClient : WatchState :=
  final (WatchState.step fun _ => true) .initial [.startNode, .login WatchState.oneFriend]

theorem reconnections_resync_iff_at_once :
    Along (step fun _ => true) (ResyncsOnce fun _ => true) (start detachedClient)
        [.attachment true true, .attachment false false, .attachment true true] ↔
      Along (step fun _ => true) ReadyWhenAttached (start detachedClient)
        [.attachment true true, .attachment false false, .attachment true true] :=
  reconnections_resync_iff rfl rfl (by simp)

/-- Readiness that arrives after the attachment starts nothing. -/
theorem late_readiness_starts_nothing :
    ¬Along (step fun _ => true) (ResyncsOnce fun _ => true) (start detachedClient)
      [.attachment true false, .attachment true true] := by
  rintro ⟨-, ⟨hOnce, -⟩, -⟩
  have hSpawns := hOnce.mpr ⟨rfl, rfl⟩
  revert hSpawns
  decide

end Reconnecting

end Rekindle.Client
