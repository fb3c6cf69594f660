import Rekindle.Client.Commands
import Rekindle.Signal.MemorySessions

/-! # What the client's operations change

One statement for each kind of operation: sends touch only the outgoing envelopes, a manager call
only the stores, and a received envelope is first opened, then dispatched.
-/
namespace Rekindle.Client
set_option autoImplicit false

open Fallible Signal MemoryStores

/-! ## The friend list -/

namespace AppState

variable (state : AppState)

theorem friend?_updateFriend (publicKey : String) (change : FriendState → FriendState)
    (hKey : ∀ friend, (change friend).publicKey = friend.publicKey) (peer : String) :
    (state.updateFriend publicKey change).friend? peer =
      if peer = publicKey then (state.friend? publicKey).map change else state.friend? peer :=
  Keyed.find_update change hKey peer

theorem friend?_removeFriend (publicKey peer : String) :
    (state.removeFriend publicKey).friend? peer =
      if peer = publicKey then none else state.friend? peer :=
  Keyed.find_remove peer

theorem friend?_insertFriend (friend : FriendState) (peer : String) :
    (state.insertFriend friend).friend? peer =
      if peer = friend.publicKey then some friend else state.friend? peer :=
  Keyed.find_insert friend peer

theorem friendshipState?_updateFriend (publicKey : String) (change : FriendState → FriendState)
    (hKey : ∀ friend, (change friend).publicKey = friend.publicKey)
    (hState : ∀ friend, (change friend).friendshipState = friend.friendshipState) (peer : String) :
    (state.updateFriend publicKey change).friendshipState? peer = state.friendshipState? peer := by
  unfold friendshipState?
  rw [state.friend?_updateFriend publicKey change hKey]
  split
  · rename_i hPeer
    subst hPeer
    rw [Option.map_map]
    congr 1
    funext friend
    exact hState friend
  · rfl

theorem friendshipState?_removeFriend (publicKey peer : String) :
    (state.removeFriend publicKey).friendshipState? peer =
      if peer = publicKey then none else state.friendshipState? peer := by
  unfold friendshipState?
  rw [friend?_removeFriend]
  split <;> rfl

theorem friendshipState?_eq_none_iff {peer : String} :
    state.friendshipState? peer = none ↔ state.friend? peer = none := by
  simp [friendshipState?]

/-! ## Manager calls -/

theorem callManager_value {α : Type} (call : StoreM MemoryStores α) :
    (state.callManager call).1 =
      state.signalManager.bind fun stores => Result.value? (call.run stores) := by
  unfold callManager
  cases state.signalManager with
  | none => rfl
  | some stores =>
    simp only [Option.bind_some]
    cases call.run stores <;> rfl

/-- The manager, if there is one, with other stores. -/
def mapStores (change : MemoryStores → MemoryStores) : AppState :=
  { state with signalManager := state.signalManager.map change }

theorem callManager_state {α : Type} (call : StoreM MemoryStores α) :
    (state.callManager call).2 = state.mapStores fun stores => Result.state (call.run stores) := by
  obtain ⟨identity, identitySecret, signalManager, friends, node, dhtManager, removals, db,
    transmitted⟩ := state
  cases signalManager with
  | none => rfl
  | some stores =>
    simp only [callManager, mapStores, Option.map_some]
    cases call.run stores <;> rfl

end AppState

/-! ## Sends -/

/-- Nothing changes but the outgoing envelopes. -/
def OnlySends (before after : AppState) : Prop :=
  ∃ transmitted pendingMessages, after = { before with
    transmitted := transmitted
    db := { before.db with pendingMessages := pendingMessages } }

theorem OnlySends.refl (state : AppState) : OnlySends state state := ⟨_, _, rfl⟩

theorem OnlySends.trans {first second third : AppState} (h : OnlySends first second)
    (h' : OnlySends second third) : OnlySends first third := by
  obtain ⟨_, _, rfl⟩ := h
  obtain ⟨_, _, rfl⟩ := h'
  exact ⟨_, _, rfl⟩

variable (externals : Externals) (ambient : Ambient)

theorem queuePendingMessage_onlySends (peer : String) (body : MessageEnvelope) (state : AppState) :
    OnlySends state (queuePendingMessage ambient peer body state).2 := by
  unfold queuePendingMessage Database.insertPendingMessage
  by_cases hOwner : state.ownerKey ∈ state.db.identities
  · rw [if_pos hOwner]
    exact ⟨_, _, rfl⟩
  · rw [if_neg hOwner]
    exact .refl state

theorem dispatchEnvelope_onlySends (peer : String) (isEphemeral : Bool) (finalPayload : Bytes)
    (state : AppState) :
    OnlySends state (dispatchEnvelope externals ambient peer isEphemeral finalPayload state).2 := by
  unfold dispatchEnvelope
  cases state.identitySecret with
  | none => exact .refl state
  | some secretKey =>
    dsimp only
    split_ifs
    · exact .refl state
    · exact .refl state
    · exact ⟨_, _, rfl⟩
    · exact .refl state
    · exact queuePendingMessage_onlySends ambient peer _ state

theorem sendToPeerRaw_onlySends (peer : String) (payload : MessagePayload) (state : AppState) :
    OnlySends state (sendToPeerRaw externals ambient peer payload state).2 :=
  dispatchEnvelope_onlySends externals ambient peer _ _ state

theorem buildAndQueueEnvelope_onlySends (peer : String) (payload : MessagePayload) (state : AppState) :
    OnlySends state (buildAndQueueEnvelope externals ambient peer payload state).2 := by
  unfold buildAndQueueEnvelope
  cases state.identitySecret with
  | none => exact .refl state
  | some secretKey => exact queuePendingMessage_onlySends ambient peer _ state

/-- A bundle under the ids 1 was generated. -/
def AppState.offered (state : AppState) : AppState :=
  state.mapStores fun stores => Result.state ((generatePrekeyBundle externals.prims manager
    ambient.signedPrekey ambient.otpk 1 (some 1)).run stores)

theorem offerPrekeyBundle_state (state : AppState) :
    (offerPrekeyBundle externals ambient state).2 = state.offered externals ambient :=
  state.callManager_state _

theorem sendFriendAccept_onlySends (peer : String) (sessionInit : Option SessionInitInfo)
    (state : AppState) :
    OnlySends (state.offered externals ambient)
      (sendFriendAccept externals ambient peer sessionInit state).2 := by
  rw [← offerPrekeyBundle_state]
  unfold sendFriendAccept
  dsimp only
  cases (offerPrekeyBundle externals ambient state).2.node with
  | none => exact .refl _
  | some node => exact dispatchEnvelope_onlySends externals ambient peer _ _ _

theorem sendFriendRequest_onlySends (peer message : String) (state : AppState) :
    OnlySends state (sendFriendRequest externals ambient peer message state).2 ∨
      OnlySends (state.offered externals ambient)
        (sendFriendRequest externals ambient peer message state).2 := by
  rw [← offerPrekeyBundle_state]
  unfold sendFriendRequest
  cases state.identity with
  | none => exact Or.inl (.refl state)
  | some identity =>
    right
    dsimp only
    cases (offerPrekeyBundle externals ambient state).2.node with
    | none => exact .refl _
    | some node => exact dispatchEnvelope_onlySends externals ambient peer _ _ _

end Rekindle.Client
