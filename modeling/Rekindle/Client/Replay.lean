import Rekindle.Client.Reception
import Rekindle.Client.Reference
import Rekindle.Library.Runs
import Rekindle.Signal.Pinning

/-! # Replayed envelopes

The client keeps no record of the nonces it has seen. A repeated envelope is processed once more,
and its handler decides whether that matters.
-/
namespace Rekindle.Client
set_option autoImplicit false

open Fallible Signal MemoryStores

/-- The same friends in the same friendship states, sessions and stored messages. -/
structure SameRecords (before after : AppState) : Prop where
  friends : ∀ peer, after.friendshipState? peer = before.friendshipState? peer
  rows : ∀ key, (Keyed.find FriendRow.key key after.db.friends).map (·.friendshipState) =
    (Keyed.find FriendRow.key key before.db.friends).map (·.friendshipState)
  sessions : after.signalManager.map (·.sessions) = before.signalManager.map (·.sessions)
  messages : after.db.messages = before.db.messages

namespace SameRecords

theorem refl (state : AppState) : SameRecords state state :=
  ⟨fun _ => rfl, fun _ => rfl, rfl, rfl⟩

theorem trans {first second third : AppState} (h : SameRecords first second)
    (h' : SameRecords second third) : SameRecords first third where
  friends peer := (h'.friends peer).trans (h.friends peer)
  rows key := (h'.rows key).trans (h.rows key)
  sessions := h'.sessions.trans h.sessions
  messages := h'.messages.trans h.messages

end SameRecords

theorem OnlyBooks.sameRecords {before after : AppState} (h : OnlyBooks before after) :
    SameRecords before after := by
  obtain ⟨_, _, _, rfl⟩ := h
  exact ⟨fun _ => rfl, fun _ => rfl, rfl, rfl⟩

section Handling

variable (externals : Externals)

/-- A second answer to the accept fails before it stores a session, and there is none to lose. -/
def AppState.SessionSettled (state : AppState) (sender : String) (accept : FriendAccept) : Prop :=
  accept.ephemeralKey = [] ∨ externals.bundleFromSlice accept.prekeyBundle = none ∨
    ∀ bundle stores, externals.bundleFromSlice accept.prekeyBundle = some bundle →
      state.signalManager = some stores → sender ∉ stores.sessions ∧
        ¬ Answerable stores bundle.identityKey accept.ephemeralKey accept.signedPrekeyId
          accept.oneTimePrekeyId

/-- The friend is accepted in memory, and in its row if it has one. -/
def AppState.IsAccepted (state : AppState) (sender : String) : Prop :=
  state.friendshipState? sender = some .accepted ∧
    ∀ row, Keyed.find FriendRow.key (state.ownerKey, sender) state.db.friends = some row →
      row.friendshipState = .accepted

/-- Handling the payload once more leaves the records as they are. -/
def AppState.Settled (state : AppState) (sender : String) (timestamp : Int) : MessagePayload → Prop
  | .directMessage body _ => state.friendshipState? sender = none ∨
    state.db.insertMessage ⟨state.ownerKey, sender, .dm, sender, body, timestamp, false⟩ = none
  | .channelMessage channelId body _ => state.friendshipState? sender = none ∨
    state.db.insertMessage ⟨state.ownerKey, channelId, .channel, sender, body, timestamp, false⟩ = none
  | .profileKeyRotated _ => True
  | .friendAccept accept => state.Ignores sender (.friendAccept accept) ∨
    state.IsAccepted sender ∧ state.SessionSettled externals sender accept
  | payload => state.Ignores sender payload

/-- The envelope is dropped, or carries a plaintext payload that is settled. -/
def AppState.Harmless (state : AppState) (envelope : MessageEnvelope) : Prop :=
  state.Rejects externals envelope ∨
    externals.isJson envelope.payload = true ∧
      ∀ payload, externals.payloadFromSlice envelope.payload = some payload →
        state.Settled externals (hexEncode envelope.senderKey) (saturateI64 envelope.timestamp) payload

variable {externals}

/-! ## Handlers -/

theorem sameRecords_updateFriend (state : AppState) (publicKey : String)
    (change : FriendState → FriendState) (hKey : ∀ friend, (change friend).publicKey = friend.publicKey)
    (hState : ∀ friend, (change friend).friendshipState = friend.friendshipState) :
    SameRecords state (state.updateFriend publicKey change) where
  friends peer := state.friendshipState?_updateFriend publicKey change hKey hState peer
  rows _ := rfl
  sessions := rfl
  messages := rfl

theorem sameRecords_updateRow (state : AppState) (key : String × String)
    (change : FriendRow → FriendRow) (hKey : ∀ row, (change row).key = row.key)
    (hState : ∀ row, Keyed.find FriendRow.key key state.db.friends = some row →
      (change row).friendshipState = row.friendshipState) :
    SameRecords state (state.mapDb (·.updateFriend key change)) where
  friends _ := rfl
  rows key' := by
    change (Keyed.find FriendRow.key key' (Keyed.update FriendRow.key key change state.db.friends)).map _ = _
    rw [Keyed.find_update change hKey]
    split
    · rename_i hSame
      subst hSame
      cases hRow : Keyed.find FriendRow.key key' state.db.friends with
      | none => rfl
      | some row =>
        simp only [Option.map_some]
        rw [hState row hRow]
    · rfl
  sessions := rfl
  messages := rfl

theorem sameRecords_dhtManager (state : AppState) (dhtManager : Option DhtManagerHandle) :
    SameRecords state { state with dhtManager := dhtManager } :=
  ⟨fun _ => rfl, fun _ => rfl, rfl, rfl⟩

theorem sameRecords_watchFriend (state : AppState) (friendKey dhtRecordKey : String) :
    SameRecords state (state.watchFriend friendKey dhtRecordKey) :=
  (sameRecords_dhtManager state _).trans
    (sameRecords_updateFriend _ _ _ (fun _ => rfl) (fun _ => rfl))

theorem sameRecords_persistFriendDhtKey (state : AppState) (friendKey profileDhtKey : String) :
    SameRecords state (state.persistFriendDhtKey friendKey profileDhtKey) :=
  sameRecords_updateRow state _ _ (fun _ => rfl) (fun _ _ => rfl)

theorem sameRecords_tryInsertMessage {state : AppState} {row : MessageRow}
    (h : state.db.insertMessage row = none) : state.tryDb (·.insertMessage row) = state := by
  simp only [AppState.tryDb, AppState.mapDb, h, Option.getD_none]

theorem sameRecords_handleProfileKeyRotated (sender newProfileDhtKey : String) (state : AppState) :
    SameRecords state (handleProfileKeyRotated sender newProfileDhtKey state) := by
  unfold handleProfileKeyRotated
  cases state.friend? sender with
  | none => exact .refl state
  | some friend =>
    have hUnregistered := sameRecords_dhtManager state
      (state.unregisterFriendDhtKey friend.dhtRecordKey).dhtManager
    have hUpdated := sameRecords_updateFriend (state.unregisterFriendDhtKey friend.dhtRecordKey) sender
      (fun friend => { friend with dhtRecordKey := some newProfileDhtKey }) (fun _ => rfl) (fun _ => rfl)
    exact ((hUnregistered.trans hUpdated).trans (sameRecords_persistFriendDhtKey _ _ _)).trans
      (sameRecords_watchFriend _ _ _)

/-- A response that is not answerable stores nothing. -/
theorem respondToSession_state_of_not_answerable {stores : MemoryStores} {peer : String}
    {theirIdentityKey theirEphemeralKey : Bytes} {signedPrekeyId : UInt32}
    {oneTimePrekeyId : Option UInt32}
    (h : ¬ Answerable stores theirIdentityKey theirEphemeralKey signedPrekeyId oneTimePrekeyId) :
    Result.state ((respondToSession externals.prims manager peer theirIdentityKey theirEphemeralKey
      signedPrekeyId oneTimePrekeyId).run stores) = stores := by
  rw [respondToSession_run]
  cases hKeys : responderKeys stores theirIdentityKey theirEphemeralKey signedPrekeyId oneTimePrekeyId with
  | error abort => rfl
  | ok keys =>
    have hSucceeds : ∃ stores', (respondToSession externals.prims manager peer theirIdentityKey
        theirEphemeralKey signedPrekeyId oneTimePrekeyId).run stores = .ok () stores' := by
      rw [respondToSession_run, hKeys]
      exact ⟨_, rfl⟩
    exact absurd ((respondToSession_succeeds_iff peer theirIdentityKey theirEphemeralKey signedPrekeyId
      oneTimePrekeyId stores).mp hSucceeds) h

theorem erase_of_notMem {sessions : Finmap fun _ : String => Bytes} {peer : String}
    (h : peer ∉ sessions) : sessions.erase peer = sessions := by
  apply Finmap.ext_lookup
  intro other
  by_cases hOther : other = peer
  · rw [hOther, Finmap.lookup_erase, Finmap.lookup_eq_none.mpr h]
  · exact Finmap.lookup_erase_ne hOther

theorem handleFriendAccept_of_settled {state : AppState} {sender : String} {accept : FriendAccept}
    (h : state.SessionSettled externals sender accept) :
    handleFriendAccept externals sender accept state = state := by
  unfold handleFriendAccept
  split
  · rfl
  · rename_i hEphemeral
    cases hBundle : externals.bundleFromSlice accept.prekeyBundle with
    | none => rfl
    | some bundle =>
      have hSettled := (h.resolve_left hEphemeral).resolve_left (by rw [hBundle]; nofun) bundle
      dsimp only
      rw [AppState.callManager_state, AppState.callManager_state]
      obtain ⟨identity, identitySecret, signalManager, friends, node, dhtManager, removals, db,
        transmitted⟩ := state
      cases signalManager with
      | none => rfl
      | some stores =>
        obtain ⟨hAbsent, hUnanswerable⟩ := hSettled stores hBundle rfl
        have hDelete : Result.state ((deleteSession manager sender).run stores) = stores := by
          change { stores with sessions := stores.sessions.erase sender } = stores
          rw [erase_of_notMem hAbsent]
        simp only [AppState.mapStores, Option.map_some, hDelete,
          respondToSession_state_of_not_answerable hUnanswerable]

theorem sameRecords_markAccepted {state : AppState} {sender : String} (accept : FriendAccept)
    (h : state.IsAccepted sender) : SameRecords state (state.markAccepted sender accept) := by
  obtain ⟨hFriend, hRow⟩ := h
  have hUpdated : SameRecords state (state.updateFriend sender fun friend =>
      { friend.withKeys accept.profileDhtKey accept.mailboxDhtKey with friendshipState := .accepted }) := by
    refine ⟨fun peer => ?_, fun _ => rfl, rfl, rfl⟩
    unfold AppState.friendshipState?
    rw [AppState.friend?_updateFriend]
    · split
      · rename_i hPeer
        subst hPeer
        obtain ⟨friend, hFound, hAccepted⟩ := Option.map_eq_some_iff.mp hFriend
        rw [hFound, Option.map_some, Option.map_some, Option.map_some, hAccepted]
      · rfl
    · intro friend
      rfl
  have hPersisted := hUpdated.trans (sameRecords_updateRow _ (state.ownerKey, sender)
    (fun row => { row with friendshipState := .accepted }) (fun _ => rfl)
    (fun row hFound => (hRow row hFound).symm))
  unfold AppState.markAccepted
  dsimp only
  split
  · exact hPersisted
  · exact (hPersisted.trans (sameRecords_persistFriendDhtKey _ _ _)).trans
      (sameRecords_watchFriend _ _ _)

variable (ambient : Ambient)

theorem dispatchPayload_of_settled {state : AppState} {sender : String} {payload : MessagePayload}
    {timestamp : Int} (h : state.Settled externals sender timestamp payload)
    (hPasses : payload.allowedFromNonFriends = true ∨ (state.friend? sender).isSome = true) :
    SameRecords state (dispatchPayload externals ambient sender timestamp state payload) := by
  have hOf : state.Ignores sender payload →
      SameRecords state (dispatchPayload externals ambient sender timestamp state payload) :=
    fun hIgnores => (dispatchPayload_of_ignores ambient timestamp hIgnores hPasses).sameRecords
  cases payload with
  | directMessage body replyTo =>
    rcases h with hNone | hStored
    · exact hOf hNone
    · rw [dispatchPayload, handleDirectMessage, sameRecords_tryInsertMessage hStored]
      exact sameRecords_updateFriend state _ _ (fun _ => rfl) (fun _ => rfl)
  | channelMessage channelId body replyTo =>
    rcases h with hNone | hStored
    · exact hOf hNone
    · rw [dispatchPayload, handleChannelMessage, sameRecords_tryInsertMessage hStored]
      exact .refl state
  | profileKeyRotated newProfileDhtKey =>
    exact sameRecords_handleProfileKeyRotated sender newProfileDhtKey state
  | friendAccept accept =>
    rcases h with hIgnores | ⟨hAccepted, hSession⟩
    · exact hOf hIgnores
    · have hNotRemoving : state.friendshipState? sender ≠ some .removing := by
        rw [hAccepted.1]
        decide
      rw [dispatchPayload, handleFriendAcceptFull, if_neg hNotRemoving,
        handleFriendAccept_of_settled hSession]
      exact sameRecords_markAccepted accept hAccepted
  | typingIndicator | friendRequest | friendReject | friendRequestReceived | presenceUpdate
  | unfriended | unfriendedAck => exact hOf h

/-- A harmless envelope leaves the records as they are. -/
theorem handleIncomingMessage_of_harmless {state : AppState} {envelope : MessageEnvelope}
    (h : state.Harmless externals envelope) :
    SameRecords state (handleIncomingMessage externals ambient envelope state) := by
  by_cases hRejects : state.Rejects externals envelope
  · rw [handleIncomingMessage_of_rejects ambient hRejects]
    exact .refl state
  · obtain ⟨hJson, hSettled⟩ := h.resolve_left hRejects
    rw [handleIncomingMessage_of_isJson ambient hRejects hJson]
    unfold handlePayload
    rw [Option.bind_some]
    cases hParsed : externals.payloadFromSlice envelope.payload with
    | none => exact .refl state
    | some payload =>
      dsimp only
      split
      · exact .refl state
      · rename_i hPasses
        refine dispatchPayload_of_settled ambient (hSettled payload hParsed) ?_
        by_contra hFiltered
        apply hPasses
        simpa using hFiltered

/-! ## Runs -/

/-- A client and the envelopes it has processed. -/
structure History where
  state : AppState
  processed : List MessageEnvelope

section Machine

variable (externals)

def History.step (history : History) (action : Ambient × Event) : History where
  state := Client.step externals history.state action
  processed := match action.2 with
    | .receive envelope => envelope :: history.processed
    | _ => history.processed

/-- Processing an envelope again leaves the records as they were. -/
def History.ReplaySafe (history : History) (action : Ambient × Event) : Prop :=
  ∀ envelope ∈ history.processed, action.2 = .receive envelope →
    SameRecords history.state (history.step externals action).state

def History.ReplaysHarmless (history : History) (action : Ambient × Event) : Prop :=
  ∀ envelope ∈ history.processed, action.2 = .receive envelope → history.state.Harmless externals envelope

end Machine

theorem History.replaySafe_of_harmless {history : History} {action : Ambient × Event}
    (h : history.ReplaysHarmless externals action) : history.ReplaySafe externals action := by
  intro envelope hProcessed hReceive
  change SameRecords history.state (action.2.handle externals action.1 history.state)
  rw [hReceive]
  exact handleIncomingMessage_of_harmless action.1 (h envelope hProcessed hReceive)

end Handling

namespace Reference

open Signal.Reference

/-- Alice's friend request, as Bob receives it. -/
def aliceRequest : MessageEnvelope :=
  envelope 1 1 (externals.payloadToVec (.friendRequest
    ⟨"Alice", "hi", externals.bundleToVec (offeredBundle primitives (Signal.Reference.user 1)
      (sampleKey 1) (sampleKey 2) (sampleKey 3) (some 1)), "alice-profile", [7], "alice-mailbox"⟩))

def aliceMessage : MessageEnvelope :=
  envelope 1 2 (externals.payloadToVec (.directMessage "hello" none))

/-- Bob is sent a message twice, before and after he accepts Alice's request. -/
def messageTwice : List (Ambient × Event) :=
  [(ambientOf 10, .receive aliceRequest), (ambientOf 20, .acceptRequest (address 1) "Alice"),
   (ambientOf 30, .receive aliceMessage), (ambientOf 40, .receive aliceMessage)]

/-- Bob is sent Alice's request again after he has accepted it. -/
def requestTwice : List (Ambient × Event) :=
  [(ambientOf 10, .receive aliceRequest), (ambientOf 20, .acceptRequest (address 1) "Alice"),
   (ambientOf 30, .receive aliceRequest)]

end Reference

end Rekindle.Client
