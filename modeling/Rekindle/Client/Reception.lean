import Rekindle.Client.Effects

/-! # Received envelopes

Which envelopes a client drops, and which payloads have no effect beyond the books it keeps of
pending requests and queued messages. An envelope does not name its recipient.
-/
namespace Rekindle.Client
set_option autoImplicit false

open Fallible Signal MemoryStores

variable (externals : Externals)

/-- The envelope is dropped before its payload is parsed. -/
def AppState.Rejects (state : AppState) (envelope : MessageEnvelope) : Prop :=
  verifyEnvelope externals.prims envelope = false ∨
    state.db.isUserBlocked state.ownerKey (hexEncode envelope.senderKey) = true ∨
    externals.isJson envelope.payload = false ∧
      (state.callManager (decrypt externals.prims manager (hexEncode envelope.senderKey)
        envelope.payload)).1 = none

/-- The payload has no effect on a client in this state, the books apart. -/
def AppState.Ignores (state : AppState) (sender : String) : MessagePayload → Prop
  | .typingIndicator _ | .friendRequestReceived | .presenceUpdate _ _ | .unfriendedAck => True
  | .friendRequest _ => state.friendshipState? sender = none
  | .friendReject => state.friendshipState? sender ≠ some .pendingOut
  | .unfriended => state.friendshipState? sender = none ∨ state.friendshipState? sender = some .removing
  | .friendAccept _ => state.friendshipState? sender = none ∨ state.friendshipState? sender = some .removing
  | .directMessage _ _ | .channelMessage _ _ _ | .profileKeyRotated _ =>
    state.friendshipState? sender = none

/-- The envelope is dropped, or carries a plaintext payload that is ignored. -/
def AppState.Inert (state : AppState) (envelope : MessageEnvelope) : Prop :=
  state.Rejects externals envelope ∨
    externals.isJson envelope.payload = true ∧
      ∀ payload, externals.payloadFromSlice envelope.payload = some payload →
        state.Ignores (hexEncode envelope.senderKey) payload

/-- Nothing changes but the outgoing envelopes and the pending requests. -/
def OnlyBooks (before after : AppState) : Prop :=
  ∃ transmitted pendingMessages pendingFriendRequests, after = { before with
    transmitted := transmitted
    db := { before.db with
      pendingMessages := pendingMessages
      pendingFriendRequests := pendingFriendRequests } }

theorem OnlyBooks.refl (state : AppState) : OnlyBooks state state := ⟨_, _, _, rfl⟩

theorem OnlySends.onlyBooks {before after : AppState} (h : OnlySends before after) :
    OnlyBooks before after := by
  obtain ⟨_, _, rfl⟩ := h
  exact ⟨_, _, _, rfl⟩

theorem OnlyBooks.trans {first second third : AppState} (h : OnlyBooks first second)
    (h' : OnlyBooks second third) : OnlyBooks first third := by
  obtain ⟨_, _, _, rfl⟩ := h
  obtain ⟨_, _, _, rfl⟩ := h'
  exact ⟨_, _, _, rfl⟩

variable {externals}

/-! ## Opening -/

theorem decrypt_state_of_none {stores : MemoryStores} {sender : String} {message : Bytes}
    (h : Result.value? ((decrypt externals.prims manager sender message).run stores) = none) :
    Result.state ((decrypt externals.prims manager sender message).run stores) = stores := by
  rw [decrypt_run] at h ⊢
  split
  · rfl
  · rename_i hLong
    rw [if_neg hLong] at h
    cases hStored : storedRatchet stores sender with
    | error abort => rfl
    | ok ratchet =>
      rw [hStored] at h
      cases hOpens : openMessage externals.prims ratchet.receivingChainKey message with
      | none => simp only [hOpens, Result.state_error]
      | some plaintext =>
        simp only [hOpens] at h
        cases h

theorem callManager_decrypt_of_none {state : AppState} {sender : String} {message : Bytes}
    (h : (state.callManager (decrypt externals.prims manager sender message)).1 = none) :
    (state.callManager (decrypt externals.prims manager sender message)).2 = state := by
  rw [state.callManager_value] at h
  rw [state.callManager_state]
  obtain ⟨identity, identitySecret, signalManager, friends, node, dhtManager, removals, db,
    transmitted⟩ := state
  cases signalManager with
  | none => rfl
  | some stores =>
    have hSame : Result.state ((decrypt externals.prims manager sender message).run stores) = stores :=
      decrypt_state_of_none h
    simp only [AppState.mapStores, Option.map_some, hSame]

variable (ambient : Ambient)

theorem handleIncomingMessage_of_rejects {state : AppState} {envelope : MessageEnvelope}
    (h : state.Rejects externals envelope) :
    handleIncomingMessage externals ambient envelope state = state := by
  unfold handleIncomingMessage
  rcases h with hVerify | hBlocked | ⟨hJson, hFails⟩
  · rw [if_pos (by simp [hVerify])]
  · split
    · rfl
    · simp only [hBlocked, if_true]
  · split
    · rfl
    · dsimp only
      split
      · rfl
      · rw [openPayload, if_neg (by simp [hJson])]
        rw [handlePayload, hFails]
        exact callManager_decrypt_of_none hFails

/-- A plaintext envelope that is not rejected goes to its handler as it is. -/
theorem handleIncomingMessage_of_isJson {state : AppState} {envelope : MessageEnvelope}
    (hAccepts : ¬ state.Rejects externals envelope)
    (hJson : externals.isJson envelope.payload = true) :
    handleIncomingMessage externals ambient envelope state =
      handlePayload externals ambient (hexEncode envelope.senderKey)
        (saturateI64 envelope.timestamp) (some envelope.payload) state := by
  obtain ⟨hVerify, hRest⟩ := not_or.mp hAccepts
  obtain ⟨hBlocked, _⟩ := not_or.mp hRest
  unfold handleIncomingMessage
  rw [if_neg (by simpa using hVerify)]
  dsimp only
  rw [if_neg hBlocked, openPayload, if_pos hJson]

/-! ## Ignored payloads -/

theorem recordFriendRequest_onlyBooks (sender : String) (request : FriendRequest) (state : AppState) :
    OnlyBooks state (recordFriendRequest externals ambient sender request state) := by
  have hPersist : OnlyBooks state (persistFriendRequest ambient sender request state) := by
    unfold persistFriendRequest AppState.tryDb Database.replacePendingRequest
    by_cases hOwner : state.ownerKey ∈ state.db.identities
    · simp only [AppState.mapDb, hOwner, if_true, Option.getD_some]
      exact ⟨_, _, _, rfl⟩
    · simp only [AppState.mapDb, hOwner, if_false, Option.getD_none]
      exact .refl state
  exact hPersist.trans (sendToPeerRaw_onlySends externals ambient sender _ _).onlyBooks

theorem dispatchPayload_of_ignores {state : AppState} {sender : String} {payload : MessagePayload}
    (timestamp : Int) (h : state.Ignores sender payload)
    (hPasses : payload.allowedFromNonFriends = true ∨ (state.friend? sender).isSome = true) :
    OnlyBooks state (dispatchPayload externals ambient sender timestamp state payload) := by
  have hFriend : payload.allowedFromNonFriends = false → state.friendshipState? sender ≠ none := by
    intro hFiltered hNone
    rw [hFiltered, state.friendshipState?_eq_none_iff.mp hNone] at hPasses
    simp at hPasses
  cases payload with
  | typingIndicator | friendRequestReceived | presenceUpdate => exact .refl state
  | unfriendedAck => exact ⟨_, _, _, rfl⟩
  | friendRequest request =>
    have hNone : state.friendshipState? sender = none := h
    simp only [dispatchPayload, handleFriendRequestFull, hNone]
    exact recordFriendRequest_onlyBooks ambient sender request state
  | friendReject =>
    have hState : state.friendshipState? sender ≠ some .pendingOut := h
    rw [dispatchPayload, handleFriendReject, if_neg hState]
    exact .refl state
  | unfriended =>
    have hState : state.friendshipState? sender = none ∨
      state.friendshipState? sender = some .removing := h
    rcases hState with hState | hState
    all_goals
      simp only [dispatchPayload, handleUnfriended, hState]
      exact .refl state
  | friendAccept accept =>
    have hState : state.friendshipState? sender = none ∨
      state.friendshipState? sender = some .removing := h
    have hRemoving := hState.resolve_left (hFriend rfl)
    rw [dispatchPayload, handleFriendAcceptFull, if_pos hRemoving]
    exact .refl state
  | directMessage | channelMessage | profileKeyRotated => exact absurd h (hFriend rfl)

theorem handlePayload_of_ignores {state : AppState} {sender : String} {payloadBytes : Bytes}
    (timestamp : Int)
    (h : ∀ payload, externals.payloadFromSlice payloadBytes = some payload →
      state.Ignores sender payload) :
    OnlyBooks state (handlePayload externals ambient sender timestamp (some payloadBytes) state) := by
  unfold handlePayload
  rw [Option.bind_some]
  cases hParsed : externals.payloadFromSlice payloadBytes with
  | none => exact .refl state
  | some payload =>
    dsimp only
    split
    · exact .refl state
    · rename_i hPasses
      refine dispatchPayload_of_ignores ambient timestamp (h payload hParsed) ?_
      by_contra hFiltered
      apply hPasses
      simpa using hFiltered

/-- An inert envelope changes nothing but the books. -/
theorem handleIncomingMessage_of_inert {state : AppState} {envelope : MessageEnvelope}
    (h : state.Inert externals envelope) :
    OnlyBooks state (handleIncomingMessage externals ambient envelope state) := by
  by_cases hRejects : state.Rejects externals envelope
  · rw [handleIncomingMessage_of_rejects ambient hRejects]
    exact .refl state
  · obtain ⟨hJson, hIgnores⟩ := h.resolve_left hRejects
    rw [handleIncomingMessage_of_isJson ambient hRejects hJson]
    exact handlePayload_of_ignores ambient _ hIgnores

/-! ## Stored messages -/

/-- The payload is a message that the receiver stores. -/
def MessagePayload.isText : MessagePayload → Bool
  | .directMessage _ _ | .channelMessage _ _ _ => true
  | _ => false

theorem callManager_db (state : AppState) {α : Type} (call : StoreM MemoryStores α) :
    (state.callManager call).2.db = state.db := by
  rw [state.callManager_state]
  rfl

theorem OnlyBooks.messages {before after : AppState} (h : OnlyBooks before after) :
    after.db.messages = before.db.messages := by
  obtain ⟨_, _, _, rfl⟩ := h
  rfl

theorem acceptCrossing_messages (sender : String) (request : FriendRequest) (state : AppState) :
    (state.acceptCrossing sender request).db.messages = state.db.messages := by
  unfold AppState.acceptCrossing
  dsimp only
  split_ifs <;> rfl

theorem reestablishSession_db (peer : String) (prekeyBundle : Bytes) (state : AppState) :
    (reestablishSession externals ambient peer prekeyBundle state).2.db = state.db := by
  unfold reestablishSession
  dsimp only
  cases externals.bundleFromSlice prekeyBundle with
  | none => exact callManager_db state _
  | some bundle => exact (callManager_db _ _).trans (callManager_db state _)

theorem autoAcceptCrossRequest_messages (sender : String) (request : FriendRequest) (state : AppState) :
    (autoAcceptCrossRequest externals ambient sender request state).db.messages = state.db.messages := by
  have hAccept (sessionInit : Option SessionInitInfo) (state : AppState) :
      (sendFriendAccept externals ambient sender sessionInit state).2.db.messages = state.db.messages :=
    (sendFriendAccept_onlySends externals ambient sender sessionInit state).onlyBooks.messages
  have hCrossing := acceptCrossing_messages sender request (state.deletePendingRequestRow sender)
  unfold autoAcceptCrossRequest
  dsimp only
  split_ifs
  · exact (hAccept _ _).trans hCrossing
  · exact (hAccept _ _).trans ((congrArg Database.messages (reestablishSession_db ambient sender _ _)).trans hCrossing)
  · exact (hAccept _ _).trans hCrossing
  · exact (hAccept _ _).trans ((congrArg Database.messages (reestablishSession_db ambient sender _ _)).trans hCrossing)

theorem handleFriendRequestFull_messages (sender : String) (request : FriendRequest) (state : AppState) :
    (handleFriendRequestFull externals ambient sender request state).db.messages = state.db.messages := by
  have hRecord (state : AppState) :
      (recordFriendRequest externals ambient sender request state).db.messages = state.db.messages :=
    (recordFriendRequest_onlyBooks ambient sender request state).messages
  unfold handleFriendRequestFull
  split
  · exact autoAcceptCrossRequest_messages ambient sender request state
  · exact hRecord _
  · exact hRecord _
  · exact hRecord _

theorem handleFriendAcceptFull_messages (sender : String) (accept : FriendAccept) (state : AppState) :
    (handleFriendAcceptFull externals sender accept state).db.messages = state.db.messages := by
  have hAccept : (handleFriendAccept externals sender accept state).db = state.db := by
    unfold handleFriendAccept
    split
    · rfl
    · split
      · rfl
      · dsimp only
        rw [callManager_db, callManager_db]
  have hMark (state : AppState) : (state.markAccepted sender accept).db.messages = state.db.messages := by
    unfold AppState.markAccepted
    dsimp only
    split_ifs <;> rfl
  unfold handleFriendAcceptFull
  split
  · rfl
  · exact (hMark _).trans (congrArg Database.messages hAccept)

theorem handleUnfriended_messages (sender : String) (state : AppState) :
    (handleUnfriended externals ambient sender state).db.messages = state.db.messages := by
  have hAck (state : AppState) :
      (sendToPeerRaw externals ambient sender .unfriendedAck state).2.db.messages = state.db.messages :=
    (sendToPeerRaw_onlySends externals ambient sender _ state).onlyBooks.messages
  unfold handleUnfriended
  split
  · rfl
  · rfl
  · exact hAck _
  · exact hAck _

theorem dispatchPayload_messages (sender : String) (timestamp : Int) (state : AppState) {payload : MessagePayload}
    (h : payload.isText = false) :
    (dispatchPayload externals ambient sender timestamp state payload).db.messages = state.db.messages := by
  cases payload with
  | directMessage | channelMessage => cases h
  | typingIndicator | friendRequestReceived | presenceUpdate | unfriendedAck => rfl
  | friendRequest request => exact handleFriendRequestFull_messages ambient sender request state
  | friendAccept accept => exact handleFriendAcceptFull_messages sender accept state
  | friendReject =>
    unfold dispatchPayload handleFriendReject
    dsimp only
    split <;> rfl
  | profileKeyRotated key =>
    unfold dispatchPayload handleProfileKeyRotated
    dsimp only
    split <;> rfl
  | unfriended => exact handleUnfriended_messages ambient sender state

end Rekindle.Client
