import Rekindle.Client.Reception
import Rekindle.Client.Reference
import Rekindle.Client.Sessions
import Rekindle.Library.Runs

/-! # Falling back to plaintext

A message goes out in plaintext when there is no session with its recipient. Which steps lead
there, and that nothing else does.
-/
namespace Rekindle.Client
set_option autoImplicit false

open Fallible Signal MemoryStores

section Runs

variable (externals : Externals)

/-- The payload that a received envelope is opened to. -/
def AppState.delivered (state : AppState) (envelope : MessageEnvelope) : Option MessagePayload :=
  (openPayload externals (hexEncode envelope.senderKey) envelope.payload state).1.bind
    externals.payloadFromSlice

/-- The handler of the payload deletes the session with its sender and cannot build another. -/
def AppState.LosesSession (state : AppState) (sender : String) : MessagePayload → Prop
  | .friendAccept accept => state.friendshipState? sender ≠ none ∧
      state.friendshipState? sender ≠ some .removing ∧ state.CannotRespond externals accept
  | .friendRequest request => state.friendshipState? sender = some .pendingOut ∧
      request.prekeyBundle ≠ [] ∧ state.CannotEstablish externals request.prekeyBundle
  | _ => False

/-- The event takes the session with the peer away. -/
def Event.EndsSession (peer : String) (state : AppState) : Event → Prop
  | .receive envelope => hexEncode envelope.senderKey = peer ∧ ¬ state.Rejects externals envelope ∧
      ∃ payload, state.delivered externals envelope = some payload ∧
        state.LosesSession externals peer payload
  | .acceptRequest publicKey _ => publicKey = peer ∧
      ∃ prekeyBundle, (readPendingRequestData state publicKey).2.2 = some prekeyBundle ∧
        state.CannotEstablish externals prekeyBundle
  | .addFriendFromInvite inviteString => ∃ blob bundle stores,
      externals.decodeInviteUrl inviteString = some blob ∧ blob.publicKey = peer ∧
        externals.bundleFromSlice blob.prekeyBundle = some bundle ∧
        state.signalManager = some stores ∧ ¬ WellSized stores bundle
  | .blockUser publicKey _ => publicKey = peer
  | .finishRemoval publicKey => publicKey = peer ∧ state.friendshipState? peer = some .removing
  | .login _ _ | .logout => True
  | _ => False

/-- Every envelope that a direct message to the peer puts on its way, or on the retry queue,
carries what `encrypt` returned for it. -/
def SendsEncrypted (peer : String) (state : AppState) (action : Ambient × Event) : Prop :=
  ∀ body, action.2 = .sendMessage peer body →
    ∃ sent queued, (step externals state action).transmitted = state.transmitted ++ sent ∧
      (step externals state action).db.pendingMessages = state.db.pendingMessages ++ queued ∧
      ∀ envelope ∈ sent.map (·.2) ++ queued.map (·.body), ∃ stores ciphertext stores',
        state.signalManager = some stores ∧
          (encrypt externals.prims manager peer
            (externals.payloadToVec (.directMessage body none))).run stores = .ok ciphertext stores' ∧
          envelope.payload = ciphertext

end Runs

section Steps

variable {externals : Externals} (ambient : Ambient) {peer : String}

/-! ## Sends -/

theorem dispatchEnvelope_outgoing (other : String) (isEphemeral : Bool) (finalPayload : Bytes)
    (state : AppState) :
    ∃ sent queued,
      (dispatchEnvelope externals ambient other isEphemeral finalPayload state).2.transmitted =
        state.transmitted ++ sent ∧
      (dispatchEnvelope externals ambient other isEphemeral finalPayload state).2.db.pendingMessages =
        state.db.pendingMessages ++ queued ∧
      ∀ envelope ∈ sent.map (·.2) ++ queued.map (·.body), envelope.payload = finalPayload := by
  have hNothing : ∃ sent queued, state.transmitted = state.transmitted ++ sent ∧
      state.db.pendingMessages = state.db.pendingMessages ++ queued ∧
      ∀ envelope ∈ sent.map (·.2) ++ queued.map (·.body), envelope.payload = finalPayload :=
    ⟨[], [], by simp, by simp, by simp⟩
  unfold dispatchEnvelope
  cases state.identitySecret with
  | none => exact hNothing
  | some secretKey =>
    dsimp only
    split_ifs
    · exact hNothing
    · exact hNothing
    · refine ⟨[(other, _)], [], rfl, (List.append_nil _).symm, ?_⟩
      intro envelope hEnvelope
      rw [List.map_nil, List.append_nil, List.map_singleton, List.mem_singleton] at hEnvelope
      subst hEnvelope
      rfl
    · exact hNothing
    · unfold queuePendingMessage Database.insertPendingMessage
      split
      · exact hNothing
      · rename_i db hInserted
        split at hInserted
        · cases hInserted
          refine ⟨[], [_], by simp, rfl, ?_⟩
          intro envelope hEnvelope
          rw [List.map_nil, List.nil_append, List.map_singleton, List.mem_singleton] at hEnvelope
          subst hEnvelope
          rfl
        · cases hInserted

/-- With a session, the payload leaves as the ciphertext of `encrypt` or not at all. -/
theorem sealPayload_of_hasSession {state : AppState} {stores : MemoryStores} (payloadBytes : Bytes)
    (hManager : state.signalManager = some stores) (hSession : peer ∈ stores.sessions) :
    sealPayload externals peer payloadBytes state =
      match (encrypt externals.prims manager peer payloadBytes).run stores with
      | .ok ciphertext stores' => (.ok ciphertext, state.setStores stores')
      | .error _ stores' => (.error "Signal encrypt", state.setStores stores') := by
  have hHas : (hasSession manager peer).run stores = .ok true stores := by
    change EStateM.Result.ok (decide (peer ∈ stores.sessions)) stores = _
    rw [decide_eq_true hSession]
  unfold sealPayload
  rw [hManager]
  cases hRun : (encrypt externals.prims manager peer payloadBytes).run stores with
  | ok ciphertext stores' => simp only [hHas, hRun]
  | error abort stores' => simp only [hHas, hRun]

theorem sealPayload_state (other : String) (payloadBytes : Bytes) (state : AppState) :
    (sealPayload externals other payloadBytes state).2 = state ∨
      (sealPayload externals other payloadBytes state).2 =
        (state.callManager (encrypt externals.prims manager other payloadBytes)).2 := by
  cases hManager : state.signalManager with
  | none =>
    left
    unfold sealPayload
    rw [hManager]
  | some stores =>
    by_cases hSession : other ∈ stores.sessions
    · right
      rw [sealPayload_of_hasSession payloadBytes hManager hSession]
      unfold AppState.callManager
      rw [hManager]
      dsimp only
      cases (encrypt externals.prims manager other payloadBytes).run stores <;> rfl
    · left
      have hHas : (hasSession manager other).run stores = .ok false stores := by
        change EStateM.Result.ok (decide (other ∈ stores.sessions)) stores = _
        rw [decide_eq_false hSession]
      unfold sealPayload
      rw [hManager]
      simp only [hHas]

/-- A direct message that is encrypted leaves as its ciphertext, is queued as such, or stays. -/
theorem sendMessage_outgoing {state : AppState} {stores : MemoryStores} (body : String)
    (hManager : state.signalManager = some stores) (hSession : peer ∈ stores.sessions) :
    ∃ sent queued,
      (sendMessage externals ambient peer body state).2.transmitted = state.transmitted ++ sent ∧
      (sendMessage externals ambient peer body state).2.db.pendingMessages =
        state.db.pendingMessages ++ queued ∧
      ∀ envelope ∈ sent.map (·.2) ++ queued.map (·.body), ∃ ciphertext stores',
        (encrypt externals.prims manager peer
          (externals.payloadToVec (.directMessage body none))).run stores = .ok ciphertext stores' ∧
        envelope.payload = ciphertext := by
  unfold sendMessage sendEnvelopeToPeer
  simp only [if_true, sealPayload_of_hasSession _ hManager hSession]
  cases hRun : (encrypt externals.prims manager peer
      (externals.payloadToVec (.directMessage body none))).run stores with
  | error abort stores' => exact ⟨[], [], (List.append_nil _).symm, (List.append_nil _).symm, by simp⟩
  | ok ciphertext stores' =>
    obtain ⟨sent, queued, hSent, hQueued, hPayload⟩ := dispatchEnvelope_outgoing
       ambient peer (MessagePayload.directMessage body none).isEphemeral
      ciphertext (state.setStores stores')
    refine ⟨sent, queued, hSent, hQueued, fun envelope hEnvelope => ?_⟩
    exact ⟨ciphertext, stores', rfl, hPayload envelope hEnvelope⟩

theorem sendsEncrypted_of_hasSession {state : AppState} {action : Ambient × Event}
    (h : state.HasSession peer) : SendsEncrypted externals peer state action := by
  obtain ⟨stores, hManager, hSession⟩ := h
  obtain ⟨ambient, event⟩ := action
  rintro body rfl
  change ∃ sent queued, (sendChatMessage externals ambient peer body state).2.transmitted = _ ∧
    (sendChatMessage externals ambient peer body state).2.db.pendingMessages = _ ∧ _
  unfold sendChatMessage
  split
  · exact ⟨[], [], by simp, by simp, by simp⟩
  · split
    · exact ⟨[], [], by simp, by simp, by simp⟩
    · rename_i db hInserted
      have hDb : db.pendingMessages = state.db.pendingMessages := by
        unfold Database.insertMessage at hInserted
        split at hInserted
        · cases hInserted
          rfl
        · cases hInserted
      have hManager' : ({ state with db := db } : AppState).signalManager = some stores := hManager
      obtain ⟨sent, queued, hSent, hQueued, hPayload⟩ := sendMessage_outgoing ambient body hManager' hSession
      refine ⟨sent, queued, hSent, hQueued.trans (by rw [← hDb]), fun envelope hEnvelope => ?_⟩
      obtain ⟨ciphertext, stores', hRun, hCiphertext⟩ := hPayload envelope hEnvelope
      exact ⟨stores, ciphertext, stores', hManager, hRun, hCiphertext⟩

/-! ## Received envelopes -/

theorem decrypt_state (stores : MemoryStores) (sender : String) (message : Bytes) :
    ∃ sessions, Result.state ((decrypt externals.prims manager sender message).run stores) =
      { stores with sessions := sessions } := by
  rw [decrypt_run]
  split
  · exact ⟨_, rfl⟩
  · cases storedRatchet stores sender with
    | error abort => exact ⟨_, rfl⟩
    | ok ratchet =>
      dsimp only
      cases openMessage externals.prims ratchet.receivingChainKey message with
      | none => exact ⟨_, rfl⟩
      | some plaintext => exact ⟨_, rfl⟩

/-- Opening changes at most the sessions in the stores. -/
theorem openPayload_state (sender : String) (payload : Bytes) (state : AppState) :
    ∃ change, (openPayload externals sender payload state).2 = state.mapStores change ∧
      ∀ stores, ∃ sessions, change stores = { stores with sessions := sessions } ∧
        ∀ peer ∈ stores.sessions, peer ∈ sessions := by
  unfold openPayload
  split
  · refine ⟨id, ?_, fun stores => ⟨_, rfl, fun _ => id⟩⟩
    rw [AppState.mapStores, Option.map_id_apply]
  · refine ⟨_, state.callManager_state _, fun stores => ?_⟩
    obtain ⟨sessions, hState⟩ := decrypt_state  stores sender payload
    refine ⟨sessions, hState, fun peer hPeer => ?_⟩
    have hKept := mem_sessions_decrypt externals.prims sender payload hPeer
    rw [hState] at hKept
    exact hKept

theorem keepsSession_recordFriendRequest (sender : String) (request : FriendRequest) (state : AppState) :
    KeepsSession peer state (recordFriendRequest externals ambient sender request state) := by
  obtain ⟨_, _, _, hState⟩ := recordFriendRequest_onlyBooks  ambient sender
    request state
  rw [hState]
  exact .of_signalManager_eq rfl

theorem acceptCrossing_signalManager (state : AppState) (sender : String) (request : FriendRequest) :
    (state.acceptCrossing sender request).signalManager = state.signalManager := by
  unfold AppState.acceptCrossing
  dsimp only
  split <;> split <;> rfl

theorem keepsSession_autoAccept {sender : String} {request : FriendRequest} {state : AppState}
    (h : peer = sender → request.prekeyBundle ≠ [] →
      ¬ state.CannotEstablish externals request.prekeyBundle) :
    KeepsSession peer state (autoAcceptCrossRequest externals ambient sender request state) := by
  have hAccepted := acceptCrossing_signalManager (state.deletePendingRequestRow sender) sender request
  have hMarked : KeepsSession peer state
      ((state.deletePendingRequestRow sender).acceptCrossing sender request) := .of_signalManager_eq hAccepted
  have hWatch : ∀ after : AppState, KeepsSession peer after
      (if request.profileDhtKey = "" then after else after.watchFriend sender request.profileDhtKey) := by
    intro after
    split
    · exact .refl after
    · exact .of_signalManager_eq rfl
  unfold autoAcceptCrossRequest
  dsimp only
  refine .trans ?_ (hWatch _)
  by_cases hEmpty : request.prekeyBundle = []
  · simp only [if_pos hEmpty]
    exact hMarked.trans (keepsSession_sendFriendAccept externals ambient sender _ _)
  · simp only [if_neg hEmpty]
    refine (hMarked.trans (keepsSession_reestablish ambient fun hPeer => ?_)).trans
      (keepsSession_sendFriendAccept externals ambient sender _ _)
    intro hCannot
    apply h hPeer hEmpty
    intro bundle stores hParsed hManager
    exact hCannot bundle stores hParsed (hAccepted.trans hManager)

theorem markAccepted_signalManager (state : AppState) (sender : String) (accept : FriendAccept) :
    (state.markAccepted sender accept).signalManager = state.signalManager := by
  unfold AppState.markAccepted
  dsimp only
  split <;> rfl

theorem handleUnfriended_signalManager (sender : String) (state : AppState) :
    KeepsSession peer state (handleUnfriended externals ambient sender state) := by
  have hRemoved : KeepsSession peer state
      (((state.deleteFriendRow sender).deletePendingRequestRow sender).deletePendingMessagesToRecipient
        sender) := .of_signalManager_eq rfl
  have hSent := hRemoved.trans (keepsSession_sendToPeerRaw externals ambient sender .unfriendedAck _)
  unfold handleUnfriended
  split
  · exact .refl state
  · exact .refl state
  · exact hSent.trans (.of_signalManager_eq rfl)
  · exact hSent.trans (.of_signalManager_eq rfl)

theorem keepsSession_dispatchPayload {sender : String} {payload : MessagePayload} {state : AppState}
    (timestamp : Int)
    (hPasses : payload.allowedFromNonFriends = true ∨ (state.friend? sender).isSome = true)
    (h : peer = sender → ¬ state.LosesSession externals sender payload) :
    KeepsSession peer state (dispatchPayload externals ambient sender timestamp state payload) := by
  cases payload with
  | directMessage | channelMessage | unfriendedAck => exact .of_signalManager_eq rfl
  | typingIndicator | friendRequestReceived | presenceUpdate => exact .refl state
  | unfriended => exact handleUnfriended_signalManager ambient sender state
  | friendReject =>
    rw [dispatchPayload, handleFriendReject]
    split
    · exact .of_signalManager_eq rfl
    · exact .refl state
  | profileKeyRotated newProfileDhtKey =>
    rw [dispatchPayload, handleProfileKeyRotated]
    split
    · exact .refl state
    · exact .of_signalManager_eq rfl
  | friendRequest request =>
    have hDropped : KeepsSession peer state
        (((state.removeFriend sender).deleteFriendRow sender).deletePendingRequestRow sender) :=
      .of_signalManager_eq rfl
    rw [dispatchPayload, handleFriendRequestFull]
    split
    · rename_i hPending
      refine keepsSession_autoAccept ambient fun hPeer hBundle hCannot => ?_
      exact h hPeer ⟨hPending, hBundle, hCannot⟩
    · exact hDropped.trans (keepsSession_recordFriendRequest ambient sender request _)
    · exact hDropped.trans (keepsSession_recordFriendRequest ambient sender request _)
    · exact keepsSession_recordFriendRequest ambient sender request state
  | friendAccept accept =>
    rw [dispatchPayload, handleFriendAcceptFull]
    split
    · exact .refl state
    · rename_i hRemoving
      refine (keepsSession_handleFriendAccept fun hPeer hCannot => ?_).trans
        (.of_signalManager_eq (markAccepted_signalManager _ _ _))
      refine h hPeer ⟨?_, hRemoving, hCannot⟩
      intro hNone
      rw [state.friendshipState?_eq_none_iff.mp hNone] at hPasses
      rcases hPasses with hPasses | hPasses <;> cases hPasses

/-- What a handler needs of the state holds before the payload is opened as after. -/
theorem losesSession_of_opened {state : AppState} {change : MemoryStores → MemoryStores}
    (hChange : ∀ stores, ∃ sessions, change stores = { stores with sessions := sessions } ∧
      ∀ peer ∈ stores.sessions, peer ∈ sessions)
    {sender : String} {payload : MessagePayload}
    (h : (state.mapStores change).LosesSession externals sender payload) :
    state.LosesSession externals sender payload := by
  cases payload with
  | friendAccept accept =>
    obtain ⟨hFriend, hRemoving, hEphemeral, bundle, stores', hBundle, hManager, hUnanswerable⟩ := h
    obtain ⟨stores, hStores, rfl⟩ := Option.map_eq_some_iff.mp hManager
    obtain ⟨sessions, hSessions, _⟩ := hChange stores
    refine ⟨hFriend, hRemoving, hEphemeral, bundle, stores, hBundle, hStores, fun hAnswerable => ?_⟩
    rw [hSessions] at hUnanswerable
    exact hUnanswerable ⟨hAnswerable.identityPrivate, hAnswerable.signedPrekey,
      hAnswerable.theirIdentity, hAnswerable.theirEphemeral, hAnswerable.oneTimePrekey⟩
  | friendRequest request =>
    obtain ⟨hPending, hBundle, hCannot⟩ := h
    refine ⟨hPending, hBundle, fun bundle stores hParsed hManager hSized => ?_⟩
    obtain ⟨sessions, hSessions, _⟩ := hChange stores
    refine hCannot bundle (change stores) hParsed (by rw [AppState.mapStores, hManager]; rfl) ?_
    rw [hSessions]
    exact ⟨hSized.identityPrivate, hSized.signedPrekey, hSized.identityKey, hSized.oneTimePrekey⟩
  | directMessage | channelMessage | typingIndicator | friendReject | profileKeyRotated
  | friendRequestReceived | presenceUpdate | unfriended | unfriendedAck => exact h

theorem keepsSession_receive {envelope : MessageEnvelope} {state : AppState}
    (h : ¬ (Event.receive envelope).EndsSession externals peer state) :
    KeepsSession peer state (handleIncomingMessage externals ambient envelope state) := by
  by_cases hRejects : state.Rejects externals envelope
  · rw [handleIncomingMessage_of_rejects ambient hRejects]
    exact .refl state
  · unfold handleIncomingMessage
    split
    · exact .refl state
    · dsimp only
      split
      · exact .refl state
      · obtain ⟨change, hOpened, hChange⟩ := openPayload_state 
          (hexEncode envelope.senderKey) envelope.payload state
        have hKept : KeepsSession peer state
            (openPayload externals (hexEncode envelope.senderKey) envelope.payload state).2 := by
          rw [hOpened]
          refine .mapStores fun stores _ hSession => ?_
          obtain ⟨sessions, hSessions, hMem⟩ := hChange stores
          rw [hSessions]
          exact hMem peer hSession
        refine hKept.trans ?_
        unfold handlePayload
        split
        · exact .refl _
        · rename_i payload hPayload
          split
          · exact .refl _
          · rename_i hFiltered
            refine keepsSession_dispatchPayload ambient _ ?_ ?_
            · by_contra hStops
              apply hFiltered
              simpa using hStops
            · rintro rfl hLoses
              rw [hOpened] at hLoses
              exact h ⟨rfl, hRejects, payload, hPayload, losesSession_of_opened hChange hLoses⟩

/-! ## Commands -/

theorem keepsSession_sendEnvelopeToPeer (other : String) (payload : MessagePayload) (encrypted : Bool)
    (state : AppState) :
    KeepsSession peer state
      (sendEnvelopeToPeer externals ambient other payload encrypted state).2 := by
  have hEncrypted : KeepsSession peer state (state.callManager
      (encrypt externals.prims manager other (externals.payloadToVec payload))).2 := by
    rw [state.callManager_state]
    exact .mapStores fun stores _ hSession => mem_sessions_encrypt externals.prims other _ hSession
  have hSealed : KeepsSession peer state
      (sealPayload externals other (externals.payloadToVec payload) state).2 := by
    rcases sealPayload_state other (externals.payloadToVec payload) state with h | h
    · rw [h]
      exact .refl state
    · rw [h]
      exact hEncrypted
  unfold sendEnvelopeToPeer
  cases encrypted with
  | false =>
    exact .onlySends (dispatchEnvelope_onlySends externals ambient other _ _ state)
  | true =>
    simp only [if_true]
    split
    · exact hSealed
    · exact hSealed.trans (.onlySends (dispatchEnvelope_onlySends externals ambient other _ _ _))

theorem keepsSession_addFriend (publicKey displayName message : String) (state : AppState) :
    KeepsSession peer state
      (addFriend externals ambient publicKey displayName message state).2 := by
  unfold addFriend
  split_ifs
  · exact .refl state
  · split
    · exact .refl state
    · split_ifs
      · exact .refl state
      · exact .refl state
      · split
        · exact .refl state
        · rename_i db _
          have hEntered : KeepsSession peer state (({ state with db := db } : AppState).insertFriend
              (newFriend publicKey displayName none none .pendingOut)) := .of_signalManager_eq rfl
          exact hEntered.trans (keepsSession_sendFriendRequest externals ambient publicKey message _)

theorem keepsSession_removeFriend (publicKey : String) (state : AppState) :
    KeepsSession peer state (removeFriend externals ambient publicKey state).2 := by
  unfold removeFriend
  split
  · exact .refl state
  · have hSent := (sendToPeerRaw_onlySends externals ambient publicKey .unfriended state).trans
      (buildAndQueueEnvelope_onlySends externals ambient publicKey .unfriended _)
    exact (KeepsSession.onlySends hSent).trans (.of_signalManager_eq rfl)

theorem keepsSession_finishRemoval {publicKey : String} {state : AppState}
    (h : ¬ (Event.finishRemoval publicKey).EndsSession externals peer state) :
    KeepsSession peer state (finishRemoval publicKey state) := by
  unfold finishRemoval
  dsimp only
  split_ifs with hAbsent hRemoving
  · have hErased : KeepsSession peer state
        (({ state with removals := state.removals.erase publicKey } : AppState).removeFriend publicKey) :=
      .of_signalManager_eq rfl
    refine hErased.trans (keepsSession_deleteSession ?_ _)
    rintro rfl
    exact h ⟨rfl, hRemoving⟩
  · exact .of_signalManager_eq rfl
  · exact .refl state

theorem enterAccepted_signalManager {publicKey displayName : String}
    {profileDhtKey mailboxDhtKey : Option String} {state entered : AppState}
    (h : enterAccepted ambient publicKey displayName profileDhtKey mailboxDhtKey state = some entered) :
    entered.signalManager = state.signalManager := by
  obtain ⟨db, _, rfl⟩ := Option.map_eq_some_iff.mp h
  rfl

theorem keepsSession_acceptRequest {publicKey displayName : String} {state : AppState}
    (h : ¬ (Event.acceptRequest publicKey displayName).EndsSession externals peer state) :
    KeepsSession peer state (acceptRequest externals ambient publicKey displayName state).2 := by
  unfold acceptRequest
  split
  · exact .refl state
  · generalize hRow : readPendingRequestData state publicKey = row
    obtain ⟨profileDhtKey, mailboxDhtKey, prekeyBundle⟩ := row
    dsimp only
    split
    · exact .refl state
    · rename_i entered hEntered
      have hManager := enterAccepted_signalManager ambient hEntered
      have hAnswered : ∀ (sessionInit : Option SessionInitInfo) (established : AppState),
          KeepsSession peer established (profileDhtKey.elim
            (sendFriendAccept externals ambient publicKey sessionInit established).2
            ((sendFriendAccept externals ambient publicKey sessionInit established).2.watchFriend
              publicKey)) := by
        intro sessionInit established
        refine .trans (keepsSession_sendFriendAccept externals ambient publicKey sessionInit _) ?_
        cases profileDhtKey with
        | none => exact .refl _
        | some profileDhtKey => exact .of_signalManager_eq rfl
      refine .trans (.of_signalManager_eq hManager) (.trans ?_ (hAnswered _ _))
      cases prekeyBundle with
      | none => exact .refl entered
      | some prekeyBundle =>
        refine keepsSession_reestablish ambient ?_
        rintro rfl hCannot
        refine h ⟨rfl, prekeyBundle, by rw [hRow], fun bundle stores hParsed hStores => ?_⟩
        exact hCannot bundle stores hParsed (hManager.trans hStores)

theorem keepsSession_cancelRequest (publicKey : String) (state : AppState) :
    KeepsSession peer state (cancelRequest publicKey state).2 := by
  unfold cancelRequest
  split
  · exact .refl state
  · split_ifs
    · exact .of_signalManager_eq rfl
    · exact .refl state

theorem keepsSession_rejectRequest (publicKey : String) (state : AppState) :
    KeepsSession peer state (rejectRequest externals ambient publicKey state).2 := by
  unfold rejectRequest
  split
  · exact .refl state
  · have hDeleted : KeepsSession peer state (state.deletePendingRequestRow publicKey) :=
      .of_signalManager_eq rfl
    exact hDeleted.trans (keepsSession_sendToPeerRaw externals ambient publicKey .friendReject _)

theorem keepsSession_generateInvite (state : AppState) :
    KeepsSession peer state (generateInvite externals ambient state).2 := by
  have hOffered : KeepsSession peer state (state.offered externals ambient) :=
    keepsSession_offered externals ambient state
  rw [← offerPrekeyBundle_state] at hOffered
  unfold generateInvite
  split
  · exact .refl state
  · exact .refl state
  · split
    · exact .refl state
    · split
      · exact .refl state
      · exact .refl state
      · exact .refl state
      · change KeepsSession peer state (state.callManager _).2 at hOffered
        split <;> rename_i hRun <;> rw [hRun] at hOffered <;> exact hOffered

theorem enterInvited_signalManager (blob : InviteBlob) (state : AppState) :
    (enterInvited ambient blob state).2.signalManager = state.signalManager := by
  unfold enterInvited
  dsimp only
  split <;> rfl

theorem keepsSession_addFriendFromInvite {inviteString : String} {state : AppState}
    (h : ¬ (Event.addFriendFromInvite inviteString).EndsSession externals peer state) :
    KeepsSession peer state (addFriendFromInvite externals ambient inviteString state).2 := by
  unfold addFriendFromInvite
  split
  · exact .refl state
  · rename_i blob hBlob
    split
    · exact .refl state
    · split
      · exact .refl state
      · split_ifs
        · exact .refl state
        · exact .refl state
        · have hManager := enterInvited_signalManager ambient blob state
          split
          · rename_i entered hEntered
            rw [hEntered] at hManager
            exact .of_signalManager_eq hManager
          · rename_i entered hEntered
            rw [hEntered] at hManager
            have hContact : KeepsSession peer entered (setupInviteContact externals ambient blob entered) := by
              unfold setupInviteContact
              split
              · exact .refl entered
              · rename_i bundle hBundle
                refine keepsSession_rebuild ambient fun hPeer stores hStores => ?_
                by_contra hSized
                exact h ⟨blob, bundle, stores, hBlob, hPeer.symm, hBundle, hManager.symm.trans hStores, hSized⟩
            refine (KeepsSession.of_signalManager_eq hManager).trans (hContact.trans ?_)
            exact (keepsSession_sendFriendRequest externals ambient blob.publicKey _ _).trans
              (.of_signalManager_eq rfl)

theorem keepsSession_rotateProfileKey (state : AppState) :
    KeepsSession peer state (rotateProfileKey externals ambient state).2 := by
  have hSends : ∀ (friendKeys : List String) (newKey : String) (before : AppState),
      KeepsSession peer before (friendKeys.foldl (fun state friendKey =>
        (sendToPeerRaw externals ambient friendKey (.profileKeyRotated newKey) state).2) before) := by
    intro friendKeys newKey
    induction friendKeys with
    | nil => exact .refl
    | cons friendKey friendKeys ih =>
      intro before
      exact (keepsSession_sendToPeerRaw externals ambient friendKey _ before).trans (ih _)
  have hOffered : KeepsSession peer state (state.offered externals ambient) :=
    keepsSession_offered externals ambient state
  rw [← offerPrekeyBundle_state] at hOffered
  unfold rotateProfileKey
  split
  · exact .refl state
  · exact .refl state
  · exact .refl state
  · rename_i node newKey identity _ _ _
    have hRotated : KeepsSession peer state ({ (offerPrekeyBundle externals ambient state).2 with
        node := some { node with profileDhtKey := some newKey } } : AppState) :=
      hOffered.trans (.of_signalManager_eq rfl)
    exact hRotated.trans (hSends _ newKey _)

theorem keepsSession_blockUser {publicKey : String} (displayName : Option String) {state : AppState}
    (hPeer : peer ≠ publicKey) :
    KeepsSession peer state (blockUser externals ambient publicKey displayName state).2 := by
  unfold blockUser
  split
  · exact .refl state
  · dsimp only
    split
    · exact .of_signalManager_eq rfl
    · refine .trans (.trans ?_ (keepsSession_deleteSession hPeer _)) (keepsSession_rotateProfileKey ambient _)
      exact .of_signalManager_eq rfl

theorem keepsSession_sendChatMessage (other body : String) (state : AppState) :
    KeepsSession peer state (sendChatMessage externals ambient other body state).2 := by
  unfold sendChatMessage
  split
  · exact .refl state
  · split
    · exact .refl state
    · rename_i db _
      have hStored : KeepsSession peer state ({ state with db := db } : AppState) :=
        .of_signalManager_eq rfl
      exact hStored.trans (keepsSession_sendEnvelopeToPeer ambient other _ true _)

theorem keepsSession_sendChatTyping (other : String) (typing : Bool) (state : AppState) :
    KeepsSession peer state (sendChatTyping externals ambient other typing state).2 := by
  unfold sendChatTyping
  split
  · exact .refl state
  · exact keepsSession_sendEnvelopeToPeer ambient other _ true state

theorem keepsSession_expireStaleRequests (state : AppState) :
    KeepsSession peer state (expireStaleRequests ambient state) := by
  have hRemoves : ∀ (rows : List FriendRow) (before : AppState), KeepsSession peer before
      (rows.foldl (fun state row => state.removeFriend row.publicKey) before) := by
    intro rows
    induction rows with
    | nil => exact .refl
    | cons row rows ih =>
      intro before
      exact KeepsSession.trans (.of_signalManager_eq rfl) (ih (before.removeFriend row.publicKey))
  unfold expireStaleRequests
  split_ifs
  · exact .refl state
  · refine .trans ?_ (hRemoves _ _)
    exact .of_signalManager_eq rfl

theorem keepsSession_syncFriends (state : AppState) :
    KeepsSession peer state (syncFriends externals state) := by
  have hWatches : ∀ (entries : List (String × String)) (before : AppState), KeepsSession peer before
      (entries.foldl (fun state entry => state.watchFriend entry.1 entry.2) before) := by
    intro entries
    induction entries with
    | nil => exact .refl
    | cons entry entries ih =>
      intro before
      exact KeepsSession.trans (.of_signalManager_eq rfl) (ih (before.watchFriend entry.1 entry.2))
  unfold syncFriends
  split_ifs
  · exact .refl state
  · exact hWatches _ state

/-! ## Runs -/

theorem keepsSession_step {action : Ambient × Event} {state : AppState}
    (h : ¬ action.2.EndsSession externals peer state) :
    KeepsSession peer state (step externals state action) := by
  obtain ⟨ambient, event⟩ := action
  unfold step
  cases event with
  | receive envelope => exact keepsSession_receive ambient h
  | addFriend publicKey displayName message =>
    exact keepsSession_addFriend ambient publicKey displayName message state
  | removeFriend publicKey => exact keepsSession_removeFriend ambient publicKey state
  | finishRemoval publicKey => exact keepsSession_finishRemoval h
  | acceptRequest publicKey displayName => exact keepsSession_acceptRequest ambient h
  | rejectRequest publicKey => exact keepsSession_rejectRequest ambient publicKey state
  | cancelRequest publicKey => exact keepsSession_cancelRequest publicKey state
  | generateInvite => exact keepsSession_generateInvite ambient state
  | addFriendFromInvite inviteString => exact keepsSession_addFriendFromInvite ambient h
  | blockUser publicKey displayName =>
    refine keepsSession_blockUser ambient displayName ?_
    rintro rfl
    exact h rfl
  | sendMessage other body => exact keepsSession_sendChatMessage ambient other body state
  | sendTyping other typing => exact keepsSession_sendChatTyping ambient other typing state
  | expireStaleRequests => exact keepsSession_expireStaleRequests ambient state
  | syncFriends => exact keepsSession_syncFriends state
  | login | logout => exact absurd trivial h
  | unblockUser publicKey =>
    change KeepsSession peer state (Client.unblockUser publicKey state).2
    unfold Client.unblockUser
    split
    · exact .refl state
    · exact .of_signalManager_eq rfl
  | retryPendingMessages | networkChanged => exact .of_signalManager_eq rfl

/-- From a state with a session, every direct message to the peer is encrypted in every run in
which no step takes that session away. -/
theorem encrypted_unless_ended {state : AppState} {actions : List (Ambient × Event)}
    (hSession : state.HasSession peer)
    (hKept : Runs.Along (step externals)
      (fun state action => ¬ action.2.EndsSession externals peer state) state actions) :
    Runs.Along (step externals) (SendsEncrypted externals peer) state actions :=
  (Runs.Along.of_invariant (AppState.HasSession · peer)
    (fun _ _ hSession hKept => ⟨keepsSession_step hKept hSession, sendsEncrypted_of_hasSession hSession⟩)
    hSession hKept).1

theorem mem_sessions_of_encrypt {prims : Primitives} {stores stores' : MemoryStores}
    {plaintext ciphertext : Bytes}
    (h : (encrypt prims manager peer plaintext).run stores = .ok ciphertext stores') :
    peer ∈ stores.sessions := by
  rw [encrypt_run] at h
  by_contra hAbsent
  unfold storedRatchet at h
  rw [Finmap.lookup_eq_none.mpr hAbsent] at h
  cases h

/-- A client without a session that puts a direct message on its way does not encrypt it. -/
theorem not_sendsEncrypted {state : AppState} {ambient : Ambient} {body : String}
    (hSession : (state.signalManager.map fun stores => decide (peer ∈ stores.sessions)) = some false)
    (hSent : ((step externals state (ambient, .sendMessage peer body)).transmitted.drop
      state.transmitted.length).isEmpty = false) :
    ¬ SendsEncrypted externals peer state (ambient, .sendMessage peer body) := by
  intro hEncrypted
  obtain ⟨sent, queued, hTransmitted, _, hPayloads⟩ := hEncrypted body rfl
  cases sent with
  | nil =>
    rw [hTransmitted, List.append_nil, List.drop_length] at hSent
    cases hSent
  | cons first sent =>
    obtain ⟨stores, ciphertext, stores', hManager, hRun, _⟩ := hPayloads first.2 (by simp)
    rw [hManager, Option.map_some, decide_eq_true (mem_sessions_of_encrypt hRun)] at hSession
    cases hSession

end Steps

namespace Reference

open Signal.Reference

/-- Alice after she has asked Bob. -/
def aliceAsking : AppState :=
  step externals (user 1 "Alice") (ambientOf 10, .addFriend (address 2) "Bob" "hi")

/-- Bob after he has accepted what Alice asked. -/
def bobAccepting : AppState :=
  Runs.final (step externals) (user 2 "Bob")
    (aliceAsking.transmitted.map (fun sent => (ambientOf 20, .receive sent.2)) ++
      [(ambientOf 30, .acceptRequest (address 1) "Alice")])

/-- Everything that Bob has sent so far arrives at Alice. -/
def bobsEnvelopes (seed : UInt8) : List (Ambient × Event) :=
  bobAccepting.transmitted.map fun sent => (ambientOf seed, .receive sent.2)

/-- Alice with the session that she has with Bob. -/
def aliceAccepted : AppState := Runs.final (step externals) aliceAsking (bobsEnvelopes 40)

def bobMessage : MessageEnvelope :=
  envelope 2 45 (externals.payloadToVec (.directMessage "hey" none))

theorem aliceAccepted_hasSession : aliceAccepted.HasSession (address 2) := by
  have hStored : (aliceAccepted.signalManager.map fun stores => decide (address 2 ∈ stores.sessions)) =
      some true := by decide +kernel
  obtain ⟨stores, hManager, hSession⟩ := Option.map_eq_some_iff.mp hStored
  exact ⟨stores, hManager, of_decide_eq_true hSession⟩

/-- What Alice writes around a message of Bob's and a removal of Carol is encrypted. -/
theorem aliceTalks_encrypted :
    Runs.Along (step externals) (SendsEncrypted externals (address 2)) aliceAccepted
      [(ambientOf 50, .sendMessage (address 2) "hello"), (ambientOf 51, .receive bobMessage),
        (ambientOf 52, .removeFriend (address 3)), (ambientOf 53, .sendMessage (address 2) "bye")] := by
  refine encrypted_unless_ended aliceAccepted_hasSession ⟨id, ?_, id, id, trivial⟩
  rintro ⟨-, -, payload, hDelivered, hLoses⟩
  have hMessage : (step externals aliceAccepted (ambientOf 50, .sendMessage (address 2) "hello")).delivered
      externals bobMessage = some (.directMessage "hey" none) := by decide +kernel
  rw [hMessage] at hDelivered
  cases hDelivered
  exact hLoses

/-- Alice after all that has been delivered once more. -/
def aliceAcceptedAgain : AppState := Runs.final (step externals) aliceAccepted (bobsEnvelopes 60)

theorem aliceAcceptedAgain_downgraded : ¬ SendsEncrypted externals (address 2) aliceAcceptedAgain
    (ambientOf 70, .sendMessage (address 2) "hello") :=
  not_sendsEncrypted (by decide +kernel) (by decide +kernel)

/-- Bob's accept, delivered to Alice once more, deletes the session that she has with him. What she
writes to him then goes out unencrypted. -/
theorem acceptAgain_downgrades :
    aliceAccepted.HasSession (address 2) ∧
      aliceAccepted.friendshipState? (address 2) = some .accepted ∧
      ¬ Runs.Along (step externals) (SendsEncrypted externals (address 2)) aliceAccepted
        (bobsEnvelopes 60 ++ [(ambientOf 70, .sendMessage (address 2) "hello")]) := by
  refine ⟨aliceAccepted_hasSession, by decide +kernel, ?_⟩
  exact mt Runs.Along.last aliceAcceptedAgain_downgraded

end Reference

end Rekindle.Client
