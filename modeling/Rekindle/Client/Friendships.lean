import Rekindle.Client.FriendLedger
import Rekindle.Client.Replay

/-! # Memory and table agree on friendships

The client changes a friend in memory and its row one after the other. The two agree along every
run in which no friend is added or accepted anew over an older row.
-/
namespace Rekindle.Client
set_option autoImplicit false

open Runs Signal MemoryStores

/-! ## What the operations enter -/

namespace AppState

variable (state : AppState) (peer : String)

theorem ownerKey_ledger : state.ledger.ownerKey = state.ownerKey := by
  unfold Ledger.ownerKey ledger ownerKey
  cases state.identity <;> rfl

theorem friendOf_ledger : state.ledger.friendOf peer = state.friend? peer := rfl

theorem rowOf_ledger :
    state.ledger.rowOf peer = Keyed.find FriendRow.key (state.ownerKey, peer) state.db.friends := by
  rw [Ledger.rowOf, ownerKey_ledger]
  rfl

@[simp] theorem ledger_updateFriend (change : FriendState → FriendState) :
    (state.updateFriend peer change).ledger = state.ledger.remember peer change := rfl

@[simp] theorem ledger_removeFriend : (state.removeFriend peer).ledger = state.ledger.forget peer := rfl

@[simp] theorem ledger_insertFriend (friend : FriendState) :
    (state.insertFriend friend).ledger = state.ledger.meet friend := rfl

@[simp] theorem ledger_watchFriend (dhtRecordKey : String) : (state.watchFriend peer dhtRecordKey).ledger =
    state.ledger.remember peer fun friend => { friend with dhtRecordKey := some dhtRecordKey } := rfl

@[simp] theorem ledger_unregisterFriendDhtKey (dhtKey : Option String) :
    (state.unregisterFriendDhtKey dhtKey).ledger = state.ledger := rfl

theorem ledger_updateRow (change : FriendRow → FriendRow) :
    (state.mapDb (·.updateFriend (state.ownerKey, peer) change)).ledger = state.ledger.record peer change := by
  rw [Ledger.record, ownerKey_ledger]
  rfl

@[simp] theorem ledger_persistFriendshipState (friendshipState : FriendshipState) :
    (state.persistFriendshipState peer friendshipState).ledger =
      state.ledger.record peer fun row => { row with friendshipState := friendshipState } :=
  state.ledger_updateRow peer _

@[simp] theorem ledger_updateFriendDisplayName (displayName : String) :
    (state.updateFriendDisplayName peer displayName).ledger =
      state.ledger.record peer fun row => { row with displayName := displayName } :=
  state.ledger_updateRow peer _

@[simp] theorem ledger_persistFriendDhtKey (profileDhtKey : String) :
    (state.persistFriendDhtKey peer profileDhtKey).ledger =
      state.ledger.record peer fun row => { row with dhtRecordKey := some profileDhtKey } :=
  state.ledger_updateRow peer _

@[simp] theorem ledger_persistFriendMailboxKey (mailboxDhtKey : String) :
    (state.persistFriendMailboxKey peer mailboxDhtKey).ledger =
      state.ledger.record peer fun row => { row with mailboxDhtKey := some mailboxDhtKey } :=
  state.ledger_updateRow peer _

@[simp] theorem ledger_deleteFriendRow : (state.deleteFriendRow peer).ledger = state.ledger.erase peer := by
  rw [Ledger.erase, ownerKey_ledger]
  rfl

@[simp] theorem ledger_deletePendingRequestRow :
    (state.deletePendingRequestRow peer).ledger = state.ledger := rfl

@[simp] theorem ledger_deletePendingMessagesToRecipient :
    (state.deletePendingMessagesToRecipient peer).ledger = state.ledger := rfl

@[simp] theorem ledger_mapStores (change : MemoryStores → MemoryStores) :
    (state.mapStores change).ledger = state.ledger := rfl

@[simp] theorem ledger_callManager {α : Type} (call : StoreM MemoryStores α) :
    (state.callManager call).2.ledger = state.ledger := by
  rw [callManager_state, ledger_mapStores]

end AppState

theorem OnlySends.ledger {before after : AppState} (h : OnlySends before after) : after.ledger = before.ledger := by
  obtain ⟨_, _, rfl⟩ := h
  rfl

theorem OnlyBooks.ledger {before after : AppState} (h : OnlyBooks before after) : after.ledger = before.ledger := by
  obtain ⟨_, _, _, rfl⟩ := h
  rfl

section
variable (externals : Externals) (ambient : Ambient) (peer : String) (state : AppState)

@[simp] theorem ledger_sendToPeerRaw (payload : MessagePayload) :
    (sendToPeerRaw externals ambient peer payload state).2.ledger = state.ledger :=
  (sendToPeerRaw_onlySends externals ambient peer payload state).ledger

@[simp] theorem ledger_buildAndQueueEnvelope (payload : MessagePayload) :
    (buildAndQueueEnvelope externals ambient peer payload state).2.ledger = state.ledger :=
  (buildAndQueueEnvelope_onlySends externals ambient peer payload state).ledger

@[simp] theorem ledger_sendFriendAccept (sessionInit : Option SessionInitInfo) :
    (sendFriendAccept externals ambient peer sessionInit state).2.ledger = state.ledger :=
  (sendFriendAccept_onlySends externals ambient peer sessionInit state).ledger

@[simp] theorem ledger_sendFriendRequest (message : String) :
    (sendFriendRequest externals ambient peer message state).2.ledger = state.ledger := by
  rcases sendFriendRequest_onlySends externals ambient peer message state with h | h
  · exact h.ledger
  · exact h.ledger

@[simp] theorem ledger_reestablishSession (prekeyBundle : Bytes) :
    (reestablishSession externals ambient peer prekeyBundle state).2.ledger = state.ledger := by
  unfold reestablishSession
  cases externals.bundleFromSlice prekeyBundle <;> simp

@[simp] theorem ledger_handleFriendAccept (accept : FriendAccept) :
    (handleFriendAccept externals peer accept state).ledger = state.ledger := by
  unfold handleFriendAccept
  split
  · rfl
  · cases externals.bundleFromSlice accept.prekeyBundle <;> simp

@[simp] theorem ledger_recordFriendRequest (request : FriendRequest) :
    (recordFriendRequest externals ambient peer request state).ledger = state.ledger :=
  (recordFriendRequest_onlyBooks ambient peer request state).ledger

@[simp] theorem ledger_openPayload (payload : Bytes) :
    (openPayload externals peer payload state).2.ledger = state.ledger := by
  unfold openPayload
  split <;> simp

@[simp] theorem ledger_sendEnvelopeToPeer (payload : MessagePayload) (encrypted : Bool) :
    (sendEnvelopeToPeer externals ambient peer payload encrypted state).2.ledger = state.ledger := by
  have hSealed : (sealPayload externals peer (externals.payloadToVec payload) state).2.ledger = state.ledger := by
    rcases sealPayload_state peer (externals.payloadToVec payload) state with h | h
    · rw [h]
    · rw [h, AppState.ledger_callManager]
  unfold sendEnvelopeToPeer
  cases encrypted with
  | false => exact (dispatchEnvelope_onlySends externals ambient peer _ _ state).ledger
  | true =>
    simp only [if_true]
    split
    · exact hSealed
    · exact (dispatchEnvelope_onlySends externals ambient peer _ _ _).ledger.trans hSealed

end

/-! ## Received payloads -/

section
variable {externals : Externals} {ambient : Ambient} {peer : String} {state : AppState}

/-- The standing of a friend that the peer tells its keys. -/
def Standing.told (standing : Standing) (profileDhtKey mailboxDhtKey : String) : Standing where
  friendshipState := .accepted
  dhtRecordKey := if profileDhtKey = "" then standing.dhtRecordKey else some profileDhtKey
  mailboxDhtKey := if mailboxDhtKey = "" then standing.mailboxDhtKey else some mailboxDhtKey

theorem acceptCrossing_ledger (request : FriendRequest) : ∃ change changeRow,
    (state.acceptCrossing peer request).ledger = (state.ledger.remember peer change).record peer changeRow ∧
    (∀ friend : FriendState, (change friend).publicKey = friend.publicKey ∧
      (change friend).standing = friend.standing.told request.profileDhtKey request.mailboxDhtKey) ∧
    ∀ row : FriendRow, (changeRow row).key = row.key ∧
      (changeRow row).standing = row.standing.told request.profileDhtKey request.mailboxDhtKey := by
  refine ⟨fun friend => { friend.withKeys request.profileDhtKey request.mailboxDhtKey with
      friendshipState := .accepted, displayName := request.displayName },
    fun row => { row with
      friendshipState := .accepted, displayName := request.displayName
      dhtRecordKey := if request.profileDhtKey = "" then row.dhtRecordKey else some request.profileDhtKey
      mailboxDhtKey := if request.mailboxDhtKey = "" then row.mailboxDhtKey else some request.mailboxDhtKey },
    ?_, fun friend => ⟨rfl, rfl⟩, fun row => ⟨rfl, rfl⟩⟩
  unfold AppState.acceptCrossing
  by_cases hProfile : request.profileDhtKey = "" <;> by_cases hMailbox : request.mailboxDhtKey = ""
  all_goals
    simp only [hProfile, hMailbox, if_true, if_false, AppState.ledger_persistFriendMailboxKey,
      AppState.ledger_persistFriendDhtKey, AppState.ledger_updateFriendDisplayName,
      AppState.ledger_persistFriendshipState, AppState.ledger_updateFriend]
    repeat rw [Ledger.record_record]
    · rfl
    all_goals exact fun _ => rfl

/-- A friend who is not being removed, and the row with it, are told keys that come to the same. -/
theorem Ledger.Kept.told {l : Ledger} (h : l.Kept) {change : FriendState → FriendState}
    {changeRow : FriendRow → FriendRow} {profileDhtKey mailboxDhtKey rowMailboxKey : String}
    (hChange : ∀ friend : FriendState, (change friend).publicKey = friend.publicKey ∧
      (change friend).standing = friend.standing.told profileDhtKey mailboxDhtKey)
    (hChangeRow : ∀ row : FriendRow, (changeRow row).key = row.key ∧
      (changeRow row).standing = row.standing.told profileDhtKey rowMailboxKey)
    (hHere : ∀ friend, l.friendOf peer = some friend → friend.friendshipState ≠ .removing ∧
      friend.standing.told profileDhtKey mailboxDhtKey = friend.standing.told profileDhtKey rowMailboxKey) :
    ((l.remember peer change).record peer changeRow).Kept := by
  refine h.amend (fun friend => (hChange friend).1) (fun row => (hChangeRow row).1) (fun row _ => ?_) fun friend hFriend => ?_
  · rw [show (changeRow row).friendshipState = .accepted from congrArg Standing.friendshipState (hChangeRow row).2]
    decide
  · obtain ⟨hStays, hSame⟩ := hHere friend hFriend
    rw [if_neg hStays]
    intro row hStanding
    have hAccepted : (change friend).friendshipState = .accepted :=
      congrArg Standing.friendshipState (hChange friend).2
    rw [FriendState.filed, if_neg (by rw [hAccepted]; decide), (hChange friend).2, (hChangeRow row).2, hStanding, hSame]

theorem friendshipState_of_friendOf {friend : FriendState} (hFriend : state.ledger.friendOf peer = some friend) :
    state.friendshipState? peer = some friend.friendshipState := by
  rw [AppState.friendshipState?, ← AppState.friendOf_ledger, hFriend, Option.map_some]

theorem kept_acceptCrossing (h : state.ledger.Kept) (request : FriendRequest)
    (hPending : state.friendshipState? peer = some .pendingOut) :
    (state.acceptCrossing peer request).ledger.Kept ∧
      ∀ friend, (state.acceptCrossing peer request).ledger.friendOf peer = some friend → request.profileDhtKey ≠ "" →
        friend.dhtRecordKey = some request.profileDhtKey := by
  obtain ⟨change, changeRow, hLedger, hChange, hChangeRow⟩ := @acceptCrossing_ledger peer state request
  rw [hLedger]
  refine ⟨h.told hChange hChangeRow fun friend hFriend => ⟨?_, rfl⟩, fun friend hFriend hProfile => ?_⟩
  · have hState := (friendshipState_of_friendOf hFriend).symm.trans hPending
    rw [Option.some.inj hState]
    decide
  · rw [Ledger.friendOf_record, Ledger.friendOf_remember fun friend => (hChange friend).1, if_pos rfl] at hFriend
    obtain ⟨former, _, rfl⟩ := Option.map_eq_some_iff.mp hFriend
    have hKey := congrArg Standing.dhtRecordKey (hChange former).2
    exact hKey.trans (if_neg hProfile)

/-- Watching a friend under the key that it has changes nothing. -/
theorem Ledger.Kept.watch {l : Ledger} (h : l.Kept) {dhtKey : String}
    (hSame : ∀ friend, l.friendOf peer = some friend → friend.dhtRecordKey = some dhtKey) :
    (l.remember peer fun friend => { friend with dhtRecordKey := some dhtKey }).Kept := by
  refine h.remember (fun _ => rfl) fun friend hFriend => ?_
  rw [FriendState.filed, FriendState.filed, FriendState.standing, FriendState.standing, hSame friend hFriend]

theorem kept_autoAcceptCrossRequest (h : state.ledger.Kept) (request : FriendRequest)
    (hPending : state.friendshipState? peer = some .pendingOut) :
    (autoAcceptCrossRequest externals ambient peer request state).ledger.Kept := by
  obtain ⟨hKept, hKey⟩ := @kept_acceptCrossing peer (state.deletePendingRequestRow peer) h request hPending
  unfold autoAcceptCrossRequest
  dsimp only
  have hSent : ∀ started : Option SessionInitInfo × AppState,
      started.2.ledger = ((state.deletePendingRequestRow peer).acceptCrossing peer request).ledger →
      (if request.profileDhtKey = "" then (sendFriendAccept externals ambient peer started.1 started.2).2
        else (sendFriendAccept externals ambient peer started.1 started.2).2.watchFriend peer
          request.profileDhtKey).ledger.Kept := by
    intro started hStarted
    split
    · rw [ledger_sendFriendAccept, hStarted]
      exact hKept
    · next hProfile =>
      rw [AppState.ledger_watchFriend, ledger_sendFriendAccept, hStarted]
      exact hKept.watch fun friend hFriend => hKey friend hFriend hProfile
  by_cases hBundle : request.prekeyBundle = []
  · rw [if_pos hBundle]
    exact hSent (none, (state.deletePendingRequestRow peer).acceptCrossing peer request) rfl
  · rw [if_neg hBundle]
    exact hSent _ (ledger_reestablishSession externals ambient peer _ _)

theorem kept_handleFriendRequestFull (h : state.ledger.Kept) (request : FriendRequest) :
    (handleFriendRequestFull externals ambient peer request state).ledger.Kept := by
  unfold handleFriendRequestFull
  split
  · next hPending => exact kept_autoAcceptCrossRequest h request hPending
  · rw [ledger_recordFriendRequest]
    simp only [AppState.ledger_deletePendingRequestRow, AppState.ledger_deleteFriendRow, AppState.ledger_removeFriend]
    exact h.drop peer
  · rw [ledger_recordFriendRequest]
    simp only [AppState.ledger_deletePendingRequestRow, AppState.ledger_deleteFriendRow, AppState.ledger_removeFriend]
    exact h.drop peer
  · rw [ledger_recordFriendRequest]
    exact h

/-- The accept brings no mailbox key, or the one that the friend has. -/
def BringsNoMailbox (state : AppState) (sender : String) (accept : FriendAccept) : Prop :=
  ∀ friend, state.friend? sender = some friend → friend.friendshipState ≠ .removing →
    accept.mailboxDhtKey = "" ∨ friend.mailboxDhtKey = some accept.mailboxDhtKey

theorem markAccepted_ledger (accept : FriendAccept) : ∃ change changeRow,
    (state.markAccepted peer accept).ledger = (state.ledger.remember peer change).record peer changeRow ∧
    (∀ friend : FriendState, (change friend).publicKey = friend.publicKey ∧
      (change friend).standing = friend.standing.told accept.profileDhtKey accept.mailboxDhtKey) ∧
    ∀ row : FriendRow, (changeRow row).key = row.key ∧
      (changeRow row).standing = row.standing.told accept.profileDhtKey "" := by
  refine ⟨fun friend => { friend.withKeys accept.profileDhtKey accept.mailboxDhtKey with friendshipState := .accepted },
    fun row => { row with
      friendshipState := .accepted
      dhtRecordKey := if accept.profileDhtKey = "" then row.dhtRecordKey else some accept.profileDhtKey },
    ?_, fun friend => ⟨rfl, rfl⟩, fun row => ⟨rfl, rfl⟩⟩
  unfold AppState.markAccepted
  by_cases hProfile : accept.profileDhtKey = ""
  · simp only [hProfile, if_true, AppState.ledger_persistFriendshipState, AppState.ledger_updateFriend]
  · simp only [hProfile, if_false, AppState.ledger_watchFriend, AppState.ledger_persistFriendDhtKey,
      AppState.ledger_persistFriendshipState, AppState.ledger_updateFriend]
    rw [Ledger.record_record]
    · change ((state.ledger.remember peer _).remember peer _).record peer _ = _
      rw [Ledger.remember_remember]
      · simp only [FriendState.withKeys, hProfile, if_false]
        rfl
      · exact fun _ => rfl
    · exact fun _ => rfl

theorem kept_handleFriendAcceptFull (h : state.ledger.Kept) {accept : FriendAccept}
    (hBrings : BringsNoMailbox state peer accept) :
    (handleFriendAcceptFull externals peer accept state).ledger.Kept := by
  unfold handleFriendAcceptFull
  split
  · exact h
  · next hStays =>
    obtain ⟨change, changeRow, hLedger, hChange, hChangeRow⟩ :=
      @markAccepted_ledger peer (handleFriendAccept externals peer accept state) accept
    rw [hLedger, ledger_handleFriendAccept]
    refine h.told hChange hChangeRow fun friend hFriend => ?_
    have hState : friend.friendshipState ≠ .removing := by
      intro hRemoving
      rw [friendshipState_of_friendOf hFriend, hRemoving] at hStays
      exact hStays rfl
    refine ⟨hState, ?_⟩
    rcases hBrings friend hFriend hState with hNone | hSame
    · rw [hNone]
    · have hMailbox : (if accept.mailboxDhtKey = "" then friend.mailboxDhtKey else some accept.mailboxDhtKey) =
          friend.mailboxDhtKey := by rw [hSame, ite_self]
      exact congrArg (Standing.mk _ _) hMailbox

theorem kept_handleFriendReject (h : state.ledger.Kept) : (handleFriendReject peer state).ledger.Kept := by
  unfold handleFriendReject
  split
  · rw [AppState.ledger_removeFriend, AppState.ledger_deleteFriendRow]
    exact h.drop peer
  · exact h

theorem kept_handleUnfriended (h : state.ledger.Kept) :
    (handleUnfriended externals ambient peer state).ledger.Kept := by
  unfold handleUnfriended
  split
  · exact h
  · exact h
  all_goals
    simp only [AppState.ledger_unregisterFriendDhtKey, AppState.ledger_removeFriend, ledger_sendToPeerRaw,
      AppState.ledger_deletePendingMessagesToRecipient, AppState.ledger_deletePendingRequestRow,
      AppState.ledger_deleteFriendRow]
    exact h.drop peer

theorem kept_handleProfileKeyRotated (h : state.ledger.Kept) (newProfileDhtKey : String) :
    (handleProfileKeyRotated peer newProfileDhtKey state).ledger.Kept := by
  unfold handleProfileKeyRotated
  split
  · exact h
  · simp only [AppState.ledger_watchFriend, AppState.ledger_persistFriendDhtKey, AppState.ledger_updateFriend,
      AppState.ledger_unregisterFriendDhtKey]
    have hAmended : ((state.ledger.remember peer fun friend => { friend with dhtRecordKey := some newProfileDhtKey }).record
        peer fun row => { row with dhtRecordKey := some newProfileDhtKey }).Kept := by
      refine h.amend (fun _ => rfl) (fun _ => rfl) (fun _ h => h) fun friend _ => ?_
      split
      · assumption
      · next hStays =>
        intro row hStanding
        rw [FriendState.filed, if_neg hStays]
        obtain ⟨hState, hMailbox⟩ : row.friendshipState = friend.friendshipState ∧
            row.mailboxDhtKey = friend.mailboxDhtKey :=
          ⟨congrArg Standing.friendshipState hStanding, congrArg Standing.mailboxDhtKey hStanding⟩
        rw [FriendState.standing, FriendRow.standing, hState, hMailbox]
    refine hAmended.watch fun friend hFriend => ?_
    rw [Ledger.friendOf_record, Ledger.friendOf_remember (by exact fun _ => rfl), if_pos rfl] at hFriend
    obtain ⟨former, _, rfl⟩ := Option.map_eq_some_iff.mp hFriend
    rfl

theorem ledger_tryInsertMessage (row : MessageRow) :
    (state.tryDb (·.insertMessage row)).ledger = state.ledger := by
  unfold AppState.tryDb AppState.mapDb Database.insertMessage
  dsimp only
  split <;> rfl

theorem kept_dispatchPayload (h : state.ledger.Kept) (timestamp : Int) {payload : MessagePayload}
    (hBrings : ∀ accept, payload = .friendAccept accept → BringsNoMailbox state peer accept) :
    (dispatchPayload externals ambient peer timestamp state payload).ledger.Kept := by
  cases payload with
  | directMessage body =>
    rw [dispatchPayload, handleDirectMessage, AppState.ledger_updateFriend, ledger_tryInsertMessage]
    exact h.remember (fun _ => rfl) fun _ _ => rfl
  | channelMessage channelId body =>
    rw [dispatchPayload, handleChannelMessage, ledger_tryInsertMessage]
    exact h
  | friendRequest request => exact kept_handleFriendRequestFull h request
  | friendAccept accept => exact kept_handleFriendAcceptFull h (hBrings accept rfl)
  | friendReject => exact kept_handleFriendReject h
  | profileKeyRotated newProfileDhtKey => exact kept_handleProfileKeyRotated h newProfileDhtKey
  | unfriended => exact kept_handleUnfriended h
  | unfriendedAck | typingIndicator | friendRequestReceived | presenceUpdate => exact h

/-- An accept in the envelope brings no mailbox key that is new. -/
def ReceivesNoMailbox (externals : Externals) (state : AppState) (envelope : MessageEnvelope) : Prop :=
  ∀ accept, state.delivered externals envelope = some (.friendAccept accept) →
    BringsNoMailbox state (hexEncode envelope.senderKey) accept

theorem kept_handleIncomingMessage (h : state.ledger.Kept) {envelope : MessageEnvelope}
    (hReceives : ReceivesNoMailbox externals state envelope) :
    (handleIncomingMessage externals ambient envelope state).ledger.Kept := by
  unfold handleIncomingMessage
  split
  · exact h
  · dsimp only
    split
    · exact h
    · have hOpened := ledger_openPayload externals (hexEncode envelope.senderKey) state envelope.payload
      unfold handlePayload
      split
      · rwa [hOpened]
      · next payload hPayload =>
        split
        · rwa [hOpened]
        · refine kept_dispatchPayload (by rwa [hOpened]) _ ?_
          rintro accept rfl friend hFriend
          exact hReceives accept hPayload friend (by
            rwa [← AppState.friendOf_ledger, hOpened] at hFriend)

end

/-! ## Commands -/

section
variable {externals : Externals} {ambient : Ambient} {state : AppState}

/-- No such user can be added. -/
def AppState.RefusesToAdd (state : AppState) (publicKey : String) : Prop :=
  (publicKey.utf8ByteSize ≠ 64 ∨ (hexDecode publicKey.toList).isNone) ∨ publicKey = state.ownerKey ∨
    state.db.isUserBlocked state.ownerKey publicKey

/-- An older entry of a friend who is asked anew: being removed, or still asked without keys. -/
def AddsAnew (state : AppState) (publicKey : String) : Prop :=
  ¬state.RefusesToAdd publicKey → ∀ friend, state.friend? publicKey = some friend →
    friend.friendshipState = .removing ∨ friend.standing = ⟨.pendingOut, none, none⟩

theorem insertOrIgnoreFriend_ledger {db : Database} {row : FriendRow} (hOwner : row.ownerKey = state.ownerKey)
    (hRun : state.db.insertOrIgnoreFriend row = some db) :
    (state.ledger.rowOf row.publicKey = none ∧ ({ state with db := db } : AppState).ledger = state.ledger.enter row) ∨
      (∃ older, state.ledger.rowOf row.publicKey = some older) ∧
        ({ state with db := db } : AppState).ledger = state.ledger := by
  rw [AppState.rowOf_ledger, ← hOwner]
  unfold Database.insertOrIgnoreFriend at hRun
  split_ifs at hRun with _ hNew
  · cases hRun
    exact .inl ⟨hNew, rfl⟩
  · cases hRun
    exact .inr ⟨Option.ne_none_iff_exists'.mp hNew, rfl⟩

/-- The row of a peer stands as its friend in memory. -/
theorem Ledger.Kept.friend {l : Ledger} (h : l.Kept) (hOwner : l.owner ≠ none) {peer : String} {row : FriendRow}
    (hRow : l.rowOf peer = some row) :
    ∃ friend, l.friendOf peer = some friend ∧ friend.friendshipState ≠ .removing ∧ row.standing = friend.standing := by
  have hAgrees := h.agrees peer hOwner
  rw [hRow, Option.map_some] at hAgrees
  obtain ⟨friend, hFriend, hFiled⟩ := Option.bind_eq_some_iff.mp hAgrees.symm
  unfold FriendState.filed at hFiled
  split_ifs at hFiled with hStays
  exact ⟨friend, hFriend, hStays, (Option.some.inj hFiled).symm⟩

theorem FriendState.filed_of_stays {friend : FriendState} (h : friend.friendshipState ≠ .removing) :
    friend.filed = some friend.standing := if_neg h

/-- A friend without a row is entered in both lists. -/
theorem Ledger.Kept.enterFriend {l : Ledger} {row : FriendRow} {friend : FriendState} (h : l.KeptBut friend.publicKey)
    (hNew : l.rowOf friend.publicKey = none) (hKey : row.key = (l.ownerKey, friend.publicKey))
    (hStays : friend.friendshipState ≠ .removing) (hRow : row.standing = friend.standing) :
    ((l.enter row).meet friend).Kept := by
  have hRowState : row.friendshipState ≠ .removing := by
    rw [show row.friendshipState = friend.friendshipState from congrArg Standing.friendshipState hRow]
    exact hStays
  refine ((h.enter hKey hNew hRowState).meet rfl).kept fun _ => ?_
  obtain ⟨hOwner, hPublic⟩ := Prod.mk.inj hKey
  rw [rowOf_meet, friendOf_meet, if_pos rfl, Option.bind_some, FriendState.filed_of_stays hStays]
  rw [← hPublic] at hNew ⊢
  rw [rowOf_enter hOwner hNew, if_pos rfl, Option.map_some, hRow]

/-- A friend meets a row that stands as it does. -/
theorem Ledger.Kept.meet {l : Ledger} (h : l.Kept) {friend : FriendState} (hStays : friend.friendshipState ≠ .removing)
    (hRow : l.owner ≠ none → ∃ row, l.rowOf friend.publicKey = some row ∧ row.standing = friend.standing) :
    (l.meet friend).Kept := by
  refine ((h.but friend.publicKey).meet rfl).kept fun hOwner => ?_
  obtain ⟨row, hThere, hStanding⟩ := hRow hOwner
  rw [rowOf_meet, friendOf_meet, if_pos rfl, Option.bind_some, FriendState.filed_of_stays hStays, hThere,
    Option.map_some, hStanding]

theorem ownerKey_of_identity {identity : IdentityState} (hIdentity : state.identity = some identity) :
    state.ownerKey = identity.publicKey := by
  rw [AppState.ownerKey, hIdentity]
  rfl

theorem kept_addFriend (h : state.ledger.Kept) {publicKey displayName message : String}
    (hAnew : AddsAnew state publicKey) :
    (addFriend externals ambient publicKey displayName message state).2.ledger.Kept := by
  unfold addFriend
  split
  · exact h
  next hKey =>
  split
  · exact h
  next identity hIdentity =>
  split
  · exact h
  next hOther =>
  split
  · exact h
  next hBlocked =>
  split
  · exact h
  next db hDb =>
  have hOwner := ownerKey_of_identity hIdentity
  have hTaken : ¬state.RefusesToAdd publicKey := by
    rw [AppState.RefusesToAdd, hOwner]
    exact not_or.mpr ⟨hKey, not_or.mpr ⟨hOther, hBlocked⟩⟩
  rw [ledger_sendFriendRequest, AppState.ledger_insertFriend]
  rcases insertOrIgnoreFriend_ledger hOwner.symm hDb with ⟨hNew, hLedger⟩ | ⟨⟨older, hOlder⟩, hLedger⟩
  · rw [hLedger]
    exact .enterFriend (h.but publicKey) hNew (by rw [AppState.ownerKey_ledger, hOwner]; rfl) (by simp [newFriend]) rfl
  · rw [hLedger]
    refine h.meet (by simp [newFriend]) fun hLogged => ⟨older, hOlder, ?_⟩
    obtain ⟨friend, hFriend, hStays, hStanding⟩ := h.friend hLogged hOlder
    exact hStanding.trans ((hAnew hTaken friend hFriend).resolve_left hStays)

theorem kept_removeFriend (h : state.ledger.Kept) (publicKey : String) :
    (removeFriend externals ambient publicKey state).2.ledger.Kept := by
  have hAway : ((state.ledger.erase publicKey).remember publicKey
      fun friend => { friend with friendshipState := .removing }).Kept := by
    refine ((h.but publicKey).erase.remember (by exact fun _ => rfl)).kept fun _ => ?_
    rw [Ledger.rowOf_remember, Ledger.rowOf_erase, if_pos rfl, Ledger.friendOf_remember (by exact fun _ => rfl), if_pos rfl]
    cases (state.ledger.erase publicKey).friendOf publicKey <;> rfl
  unfold removeFriend
  split
  · exact h
  · have hLedger : ((((buildAndQueueEnvelope externals ambient publicKey .unfriended
        (sendToPeerRaw externals ambient publicKey .unfriended state).2).2.deleteFriendRow publicKey).deletePendingRequestRow
        publicKey).updateFriend publicKey fun friend => { friend with friendshipState := .removing }).ledger =
        (state.ledger.erase publicKey).remember publicKey fun friend => { friend with friendshipState := .removing } := by
      simp
    exact hLedger ▸ hAway

theorem kept_finishRemoval (h : state.ledger.Kept) (publicKey : String) :
    (finishRemoval publicKey state).ledger.Kept := by
  unfold finishRemoval
  split
  · exact h
  dsimp only
  split
  · next hRemoving =>
    rw [AppState.ledger_callManager, AppState.ledger_removeFriend]
    refine (h.but publicKey).forget.kept fun hOwner => ?_
    rw [Ledger.rowOf_forget, Ledger.friendOf_forget, if_pos rfl]
    have hFriend : (state.ledger.friendOf publicKey).bind FriendState.filed = none := by
      obtain ⟨friend, hFriend, hState⟩ := Option.map_eq_some_iff.mp hRemoving
      rw [show state.ledger.friendOf publicKey = some friend from hFriend, Option.bind_some, FriendState.filed,
        if_pos hState]
    rw [show Ledger.rowOf _ publicKey = none from h.noRow hOwner hFriend]
    rfl
  · exact h

/-- The friend accepted, if there is one in the list, is accepted already or being removed, and has no
key that the request does not bring. -/
def AcceptsAnew (state : AppState) (publicKey : String) : Prop :=
  ∀ friend, state.friend? publicKey = some friend → friend.friendshipState = .removing ∨
    friend.friendshipState = .accepted ∧
      ((readPendingRequestData state publicKey).1 = none → friend.dhtRecordKey = none) ∧
      ((readPendingRequestData state publicKey).2.1 = none → friend.mailboxDhtKey = none)

/-- The row gets the keys that the request brings. -/
def coalesceKeys (profileDhtKey mailboxDhtKey : Option String) (row : FriendRow) : FriendRow :=
  { row with
    dhtRecordKey := profileDhtKey.or row.dhtRecordKey
    mailboxDhtKey := mailboxDhtKey.or row.mailboxDhtKey }

theorem enterAccepted_ledger {publicKey displayName : String} {profileDhtKey mailboxDhtKey : Option String}
    {entered : AppState}
    (hEntered : enterAccepted ambient publicKey displayName profileDhtKey mailboxDhtKey state = some entered) :
    ∃ l : Ledger, entered.ledger =
        (l.meet (newFriend publicKey displayName profileDhtKey mailboxDhtKey .accepted)).record publicKey
          (coalesceKeys profileDhtKey mailboxDhtKey) ∧
      (state.ledger.rowOf publicKey = none ∧ l = state.ledger.enter
          ⟨state.ownerKey, publicKey, displayName, ambient.timestampNow, none, none, .accepted⟩ ∨
        (∃ older, state.ledger.rowOf publicKey = some older) ∧ l = state.ledger) := by
  obtain ⟨db, hDb, rfl⟩ := Option.map_eq_some_iff.mp hEntered
  refine ⟨({ state with db := db } : AppState).ledger, ?_, ?_⟩
  · exact AppState.ledger_updateRow _ publicKey _
  · exact insertOrIgnoreFriend_ledger rfl hDb

theorem kept_enterAccepted (h : state.ledger.Kept) {publicKey displayName : String}
    (hAnew : AcceptsAnew state publicKey) {entered : AppState}
    (hEntered : enterAccepted ambient publicKey displayName (readPendingRequestData state publicKey).1
      (readPendingRequestData state publicKey).2.1 state = some entered) :
    entered.ledger.Kept ∧ ∀ friend, entered.ledger.friendOf publicKey = some friend →
      friend.dhtRecordKey = (readPendingRequestData state publicKey).1 := by
  obtain ⟨l, hLedger, hEntry⟩ := enterAccepted_ledger hEntered
  rw [hLedger]
  refine ⟨?_, fun friend hFriend => ?_⟩
  · have hBut : (l.meet (newFriend publicKey displayName (readPendingRequestData state publicKey).1
        (readPendingRequestData state publicKey).2.1 .accepted)).KeptBut publicKey := by
      rcases hEntry with ⟨hNew, rfl⟩ | ⟨_, rfl⟩
      · exact ((h.but publicKey).enter (by rw [AppState.ownerKey_ledger]; rfl) hNew (by simp)).meet rfl
      · exact (h.but publicKey).meet rfl
    have hKey : ∀ row, (coalesceKeys (readPendingRequestData state publicKey).1
      (readPendingRequestData state publicKey).2.1 row).key = row.key := fun _ => rfl
    have hMet := l.friendOf_meet_self (newFriend publicKey displayName
      (readPendingRequestData state publicKey).1 (readPendingRequestData state publicKey).2.1 .accepted)
    refine (hBut.record hKey fun _ h => h).kept fun hOwner => ?_
    rw [Ledger.rowOf_record hKey, if_pos rfl, Ledger.friendOf_record, Ledger.rowOf_meet,
      show Ledger.friendOf _ publicKey = _ from hMet, Option.bind_some, FriendState.filed_of_stays (by simp [newFriend])]
    rcases hEntry with ⟨hNew, rfl⟩ | ⟨⟨older, hOlder⟩, rfl⟩
    · rw [Ledger.rowOf_enter state.ownerKey_ledger.symm hNew, if_pos rfl]
      simp [coalesceKeys, FriendRow.standing, FriendState.standing, newFriend]
    · obtain ⟨friend, hFriend, hStays, hStanding⟩ := h.friend hOwner hOlder
      obtain ⟨hAccepted, hProfile, hMailbox⟩ := (hAnew friend hFriend).resolve_left hStays
      obtain ⟨hState, hDht, hBox⟩ : older.friendshipState = friend.friendshipState ∧
          older.dhtRecordKey = friend.dhtRecordKey ∧ older.mailboxDhtKey = friend.mailboxDhtKey :=
        ⟨congrArg Standing.friendshipState hStanding, congrArg Standing.dhtRecordKey hStanding,
          congrArg Standing.mailboxDhtKey hStanding⟩
      rw [hOlder, Option.map_some, Option.map_some, FriendRow.standing, coalesceKeys, hState, hDht, hBox, hAccepted]
      have hOr {key known : Option String} (hNone : key = none → known = none) : key.or known = key := by
        cases key with
        | none => rw [hNone rfl]; rfl
        | some key => rfl
      rw [hOr hProfile, hOr hMailbox]
      rfl
  · have hMet := l.friendOf_meet_self (newFriend publicKey displayName
      (readPendingRequestData state publicKey).1 (readPendingRequestData state publicKey).2.1 .accepted)
    cases hMet.symm.trans hFriend
    rfl

theorem kept_acceptRequest (h : state.ledger.Kept) {publicKey displayName : String}
    (hAnew : AcceptsAnew state publicKey) :
    (acceptRequest externals ambient publicKey displayName state).2.ledger.Kept := by
  unfold acceptRequest
  split
  · exact h
  dsimp only
  split
  · exact h
  next entered hEntered =>
  obtain ⟨hKept, hKey⟩ := kept_enterAccepted h hAnew hEntered
  have hStarted : ∀ started : Option SessionInitInfo × AppState, started.2.ledger = entered.ledger →
      ((readPendingRequestData state publicKey).1.elim
        (sendFriendAccept externals ambient publicKey started.1 started.2).2
        ((sendFriendAccept externals ambient publicKey started.1 started.2).2.watchFriend publicKey)).ledger.Kept := by
    intro started hLedger
    cases hProfile : (readPendingRequestData state publicKey).1 with
    | none =>
      rw [Option.elim_none, ledger_sendFriendAccept, hLedger]
      exact hKept
    | some profileDhtKey =>
      rw [Option.elim_some, AppState.ledger_watchFriend, ledger_sendFriendAccept, hLedger]
      exact hKept.watch fun friend hFriend => (hKey friend hFriend).trans hProfile
  split
  · exact hStarted (none, entered) rfl
  · exact hStarted _ (ledger_reestablishSession externals ambient publicKey entered _)

theorem kept_cancelRequest (h : state.ledger.Kept) (publicKey : String) :
    (cancelRequest publicKey state).2.ledger.Kept := by
  unfold cancelRequest
  split
  · exact h
  split
  · rw [AppState.ledger_removeFriend, AppState.ledger_deleteFriendRow]
    exact h.drop publicKey
  · exact h

theorem kept_rejectRequest (h : state.ledger.Kept) (publicKey : String) :
    (rejectRequest externals ambient publicKey state).2.ledger.Kept := by
  unfold rejectRequest
  split
  · exact h
  · rw [sendFriendReject, ledger_sendEnvelopeToPeer]
    exact h

theorem kept_generateInvite (h : state.ledger.Kept) : (generateInvite externals ambient state).2.ledger.Kept := by
  have hOffered : (state.callManager (generatePrekeyBundle externals.prims manager ambient.signedPrekey ambient.otpk 1
      (some 1))).2.ledger = state.ledger := state.ledger_callManager _
  unfold generateInvite
  split
  · exact h
  · exact h
  split
  · exact h
  split
  · exact h
  · exact h
  · exact h
  · split
    all_goals
      next hRun =>
        rw [hRun] at hOffered
        exact hOffered ▸ h

/-! ### Invites -/

theorem ledger_setupInviteContact (blob : InviteBlob) :
    (setupInviteContact externals ambient blob state).ledger = state.ledger := by
  unfold setupInviteContact
  split
  · rfl
  · simp only [AppState.ledger_callManager]

/-- The invited friend is entered afresh, or no entry of it is left. -/
theorem kept_enterInvited (h : state.ledger.Kept) (blob : InviteBlob) :
    (enterInvited ambient blob state).2.ledger.Kept ∧ ∀ friend,
      (enterInvited ambient blob state).2.ledger.friendOf blob.publicKey = some friend →
        friend.dhtRecordKey = some blob.profileDhtKey := by
  have hDropped : ((state.removeFriend blob.publicKey).deleteFriendRow blob.publicKey).ledger =
      (state.ledger.erase blob.publicKey).forget blob.publicKey := by
    rw [AppState.ledger_deleteFriendRow, AppState.ledger_removeFriend]
    rfl
  have hNone : ((state.ledger.erase blob.publicKey).forget blob.publicKey).friendOf blob.publicKey = none := by
    rw [Ledger.friendOf_forget, if_pos rfl]
  unfold enterInvited
  dsimp only
  split
  · rw [hDropped]
    refine ⟨h.drop _, fun friend hFriend => ?_⟩
    rw [hNone] at hFriend
    cases hFriend
  · next db hDb =>
    unfold Database.insertFriend at hDb
    split_ifs at hDb with hInserts
    cases hDb
    rw [AppState.ledger_insertFriend]
    change (((((state.removeFriend blob.publicKey).deleteFriendRow blob.publicKey).ledger.enter _).meet _).Kept ∧ _)
    rw [hDropped]
    have hRow : ((state.ledger.erase blob.publicKey).forget blob.publicKey).rowOf blob.publicKey = none := by
      rw [Ledger.rowOf_forget, Ledger.rowOf_erase, if_pos rfl]
    refine ⟨.enterFriend ((h.but _).erase.forget) hRow ?_ (by simp [newFriend]) rfl, fun friend hFriend => ?_⟩
    · exact congrArg (·, blob.publicKey) (AppState.ownerKey_ledger _).symm
    · cases (Ledger.friendOf_meet_self (newFriend _ _ _ _ _)).symm.trans hFriend
      rfl

theorem kept_addFriendFromInvite (h : state.ledger.Kept) (inviteString : String) :
    (addFriendFromInvite externals ambient inviteString state).2.ledger.Kept := by
  unfold addFriendFromInvite
  split
  · exact h
  next blob _ =>
  split
  · exact h
  split
  · exact h
  split
  · exact h
  split
  · exact h
  obtain ⟨hKept, hKey⟩ := @kept_enterInvited ambient state h blob
  split
  · next hRun =>
    rw [hRun] at hKept
    exact hKept
  · next hRun =>
    rw [hRun] at hKept hKey
    rw [AppState.ledger_watchFriend, ledger_sendFriendRequest, ledger_setupInviteContact]
    exact hKept.watch hKey

/-! ### Blocking, chat and background tasks -/

theorem ledger_rotateProfileKey : (rotateProfileKey externals ambient state).2.ledger = state.ledger := by
  have hSends (friendKeys : List String) (newKey : String) (before : AppState) :
      (friendKeys.foldl (fun state friendKey =>
        (sendToPeerRaw externals ambient friendKey (.profileKeyRotated newKey) state).2) before).ledger = before.ledger := by
    induction friendKeys generalizing before with
    | nil => rfl
    | cons friendKey rest ih => exact (ih _).trans (ledger_sendToPeerRaw externals ambient friendKey before _)
  unfold rotateProfileKey
  split
  · rfl
  · rfl
  · rfl
  · refine (hSends _ _ _).trans ?_
    change (offerPrekeyBundle externals ambient state).2.ledger = _
    rw [offerPrekeyBundle_state]
    rfl

theorem kept_blockUser (h : state.ledger.Kept) (publicKey : String) (displayName : Option String) :
    (blockUser externals ambient publicKey displayName state).2.ledger.Kept := by
  unfold blockUser
  split
  · exact h
  next identity hIdentity =>
  dsimp only
  split
  · next hRefused =>
    unfold Database.replaceBlocked at hRefused
    split_ifs at hRefused with hOwner
    have hKnown := h.known identity.publicKey (congrArg (Option.map IdentityState.publicKey) hIdentity)
    rw [← ownerKey_of_identity hIdentity] at hKnown
    exact absurd hKnown hOwner
  · next db hDb =>
    unfold Database.replaceBlocked at hDb
    split_ifs at hDb
    cases hDb
    rw [ledger_rotateProfileKey, AppState.ledger_callManager, AppState.ledger_unregisterFriendDhtKey,
      AppState.ledger_removeFriend, AppState.ledger_deletePendingMessagesToRecipient]
    change (((state.deleteFriendRow publicKey).deletePendingRequestRow publicKey).ledger.forget publicKey).Kept
    rw [AppState.ledger_deletePendingRequestRow, AppState.ledger_deleteFriendRow]
    exact h.drop publicKey

theorem kept_unblockUser (h : state.ledger.Kept) (publicKey : String) :
    (unblockUser publicKey state).2.ledger.Kept := by
  unfold unblockUser
  split <;> exact h

theorem kept_sendChatMessage (h : state.ledger.Kept) (peer body : String) :
    (sendChatMessage externals ambient peer body state).2.ledger.Kept := by
  unfold sendChatMessage
  split
  · exact h
  split
  · exact h
  · next db hDb =>
    unfold Database.insertMessage at hDb
    split_ifs at hDb
    cases hDb
    rw [sendMessage, ledger_sendEnvelopeToPeer]
    exact h

theorem kept_sendChatTyping (h : state.ledger.Kept) (peer : String) (typing : Bool) :
    (sendChatTyping externals ambient peer typing state).2.ledger.Kept := by
  unfold sendChatTyping
  split
  · exact h
  · rw [sendTyping, ledger_sendEnvelopeToPeer]
    exact h

end

/-! ### Expiry -/

namespace AppState

variable (rows : List FriendRow) (state : AppState)

/-- Friends are taken out of memory one after the other. -/
def removeFriends : AppState := rows.foldl (fun state row => state.removeFriend row.publicKey) state

theorem ledger_removeFriends : ∃ friends, (state.removeFriends rows).ledger = { state.ledger with friends := friends } := by
  induction rows generalizing state with
  | nil => exact ⟨_, rfl⟩
  | cons row rest ih =>
    obtain ⟨friends, hLedger⟩ := ih (state.removeFriend row.publicKey)
    exact ⟨friends, hLedger⟩

theorem friend?_removeFriends (peer : String) :
    (state.removeFriends rows).friend? peer =
      if peer ∈ rows.map FriendRow.publicKey then none else state.friend? peer := by
  induction rows generalizing state with
  | nil => rfl
  | cons row rest ih =>
    rw [removeFriends, List.foldl_cons]
    refine (ih (state.removeFriend row.publicKey)).trans ?_
    rw [friend?_removeFriend, List.map_cons]
    by_cases hPeer : peer = row.publicKey
    · simp [hPeer]
    · simp [hPeer]

theorem distinct_removeFriends (h : (state.friends.map FriendState.publicKey).Nodup) :
    ((state.removeFriends rows).friends.map FriendState.publicKey).Nodup := by
  induction rows generalizing state with
  | nil => exact h
  | cons row rest ih => exact ih _ (h.sublist (List.filter_sublist.map _))

/-- A request of one's own that has waited too long. -/
def isExpired (ambient : Ambient) (row : FriendRow) : Bool :=
  row.ownerKey = state.ownerKey ∧ row.friendshipState = .pendingOut ∧ row.addedAt < ambient.timestampNow - thirtyDaysMs

end AppState

section
variable {externals : Externals} {ambient : Ambient} {state : AppState}

theorem expireStaleRequests_eq (hOwner : state.ownerKey ≠ "") : expireStaleRequests ambient state =
    (state.mapDb fun db => { db with
      pendingFriendRequests := db.pendingFriendRequests.filter fun row =>
        ¬ (row.ownerKey = state.ownerKey ∧ row.receivedAt < ambient.timestampNow - thirtyDaysMs)
      friends := db.friends.filter fun row => ¬ state.isExpired ambient row }).removeFriends
      (state.db.friends.filter (state.isExpired ambient)) := by
  unfold expireStaleRequests
  rw [if_neg hOwner]
  rfl

theorem rowOf_expired (h : state.ledger.Kept) (hOwner : state.ownerKey ≠ "") (peer : String) :
    (expireStaleRequests ambient state).ledger.rowOf peer =
      (state.ledger.rowOf peer).filter fun row => ¬ state.isExpired ambient row := by
  rw [expireStaleRequests_eq hOwner, Ledger.rowOf, Ledger.ownerKey]
  obtain ⟨friends, hLedger⟩ := AppState.ledger_removeFriends (state.db.friends.filter (state.isExpired ambient)) _
  rw [hLedger]
  exact Keyed.find_filter h.keys _

/-- A peer is expired if its row is. -/
theorem mem_expired_iff (h : state.ledger.Kept) (peer : String) :
    peer ∈ (state.db.friends.filter (state.isExpired ambient)).map FriendRow.publicKey ↔
      ∃ row, state.ledger.rowOf peer = some row ∧ state.isExpired ambient row = true := by
  constructor
  · intro hPeer
    obtain ⟨row, hRow, rfl⟩ := List.mem_map.mp hPeer
    obtain ⟨hRow, hExpired⟩ := List.mem_filter.mp hRow
    refine ⟨row, ?_, hExpired⟩
    have hOwn : row.ownerKey = state.ownerKey := (of_decide_eq_true hExpired).1
    rw [AppState.rowOf_ledger, ← hOwn]
    exact Keyed.find_of_mem h.keys hRow
  · rintro ⟨row, hRow, hExpired⟩
    have hKey := Keyed.key_of_find hRow
    refine List.mem_map.mpr ⟨row, List.mem_filter.mpr ⟨List.mem_of_find?_eq_some hRow, hExpired⟩, ?_⟩
    exact (Prod.mk.inj hKey).2

theorem friendOf_expired (hOwner : state.ownerKey ≠ "") (peer : String) :
    (expireStaleRequests ambient state).ledger.friendOf peer =
      if peer ∈ (state.db.friends.filter (state.isExpired ambient)).map FriendRow.publicKey then none
      else state.ledger.friendOf peer := by
  rw [expireStaleRequests_eq hOwner]
  exact AppState.friend?_removeFriends _ _ peer

theorem kept_expireStaleRequests (h : state.ledger.Kept) : (expireStaleRequests ambient state).ledger.Kept := by
  by_cases hOwner : state.ownerKey = ""
  · unfold expireStaleRequests
    rwa [if_pos hOwner]
  · obtain ⟨friends, hLedger⟩ : ∃ friends, (expireStaleRequests ambient state).ledger = { state.ledger with
        friends := friends, rows := state.db.friends.filter fun row => ¬ state.isExpired ambient row } := by
      rw [expireStaleRequests_eq hOwner]
      exact AppState.ledger_removeFriends _ _
    refine ⟨?_, ?_, fun row hRow => ?_, fun owner hKnown => ?_, fun peer hLogged => ?_⟩
    · rw [expireStaleRequests_eq hOwner]
      exact AppState.distinct_removeFriends _ _ h.distinct
    · rw [hLedger]
      exact h.keys.sublist (List.filter_sublist.map _)
    · rw [hLedger] at hRow
      exact h.settled row (List.mem_filter.mp hRow).1
    · rw [hLedger] at hKnown ⊢
      exact h.known owner hKnown
    · rw [hLedger] at hLogged
      have hAgrees := h.agrees peer hLogged
      rw [rowOf_expired h hOwner, friendOf_expired hOwner]
      split
      · next hExpired =>
        obtain ⟨row, hRow, hTest⟩ := (mem_expired_iff h peer).mp hExpired
        rw [hRow, Option.filter_some, if_neg (by simpa using hTest)]
        rfl
      · next hFresh =>
        rw [mem_expired_iff h, not_exists] at hFresh
        rw [← hAgrees]
        cases hRow : state.ledger.rowOf peer with
        | none => rfl
        | some row =>
          have hTest : ¬state.isExpired ambient row = true := fun hTest => hFresh row ⟨hRow, hTest⟩
          rw [Option.filter_some, if_pos (decide_eq_true hTest)]

/-- An accepted friend does not expire. -/
theorem friend?_expireStaleRequests (h : state.ledger.Kept) (ambient : Ambient) {peer : String}
    (hAccepted : state.friendshipState? peer = some .accepted) :
    (expireStaleRequests ambient state).friend? peer = state.friend? peer ∧
      (expireStaleRequests ambient state).ledger.rowOf peer = state.ledger.rowOf peer := by
  by_cases hOwner : state.ownerKey = ""
  · unfold expireStaleRequests
    rw [if_pos hOwner]
    exact ⟨rfl, rfl⟩
  obtain ⟨friend, hFriend, hState⟩ := Option.map_eq_some_iff.mp hAccepted
  have hLogged : state.ledger.owner ≠ none := by
    intro hNone
    rw [← AppState.ownerKey_ledger, Ledger.ownerKey, hNone] at hOwner
    exact hOwner rfl
  obtain ⟨row, hRow, hStanding⟩ := @h.row _ peer hLogged friend hFriend (by rw [hState]; decide)
  have hRowState : row.friendshipState = .accepted := (congrArg Standing.friendshipState hStanding).trans hState
  have hFresh : ¬state.isExpired ambient row = true := by
    rw [AppState.isExpired, hRowState]
    simp
  constructor
  · refine (friendOf_expired hOwner peer).trans (if_neg fun hExpired => ?_)
    obtain ⟨other, hOther, hTest⟩ := (mem_expired_iff h peer).mp hExpired
    rw [hRow] at hOther
    exact hFresh (Option.some.inj hOther ▸ hTest)
  · rw [rowOf_expired h hOwner, hRow, Option.filter_some, if_pos (decide_eq_true hFresh)]

/-! ### Syncing, login and logout -/

theorem kept_watchFriends (h : state.ledger.Kept) {entries : List (String × String)}
    (hSame : ∀ entry ∈ entries, ∀ friend, state.ledger.friendOf entry.1 = some friend →
      friend.dhtRecordKey = some entry.2) :
    (entries.foldl (fun state entry => state.watchFriend entry.1 entry.2) state).ledger.Kept := by
  induction entries generalizing state with
  | nil => exact h
  | cons entry rest ih =>
    rw [List.forall_mem_cons] at hSame
    refine ih (h.watch hSame.1) fun other hOther friend hFriend => ?_
    rw [AppState.ledger_watchFriend, Ledger.friendOf_remember (by exact fun _ => rfl)] at hFriend
    split at hFriend
    · next hPeer =>
      obtain ⟨former, hFormer, rfl⟩ := Option.map_eq_some_iff.mp hFriend
      exact (hSame.1 former hFormer).symm.trans (hSame.2 other hOther former (hPeer ▸ hFormer))
    · exact hSame.2 other hOther friend hFriend

theorem kept_syncFriends (h : state.ledger.Kept) : (syncFriends externals state).ledger.Kept := by
  unfold syncFriends
  split
  · exact h
  · refine kept_watchFriends h fun entry hEntry friend hFriend => ?_
    obtain ⟨listed, hListed, hKey⟩ := List.mem_filterMap.mp hEntry
    obtain ⟨dhtKey, hDht, rfl⟩ := Option.map_eq_some_iff.mp hKey
    have hFound : state.ledger.friendOf listed.publicKey = some listed := Keyed.find_of_mem h.distinct hListed
    cases hFound.symm.trans hFriend
    exact (Option.filter_eq_some_iff.mp hDht).1

theorem kept_logout (h : state.ledger.Kept) : (logout state).ledger.Kept := by
  refine ⟨List.nodup_nil, h.keys, h.settled, ?_, fun _ hOwner => absurd rfl hOwner⟩
  rintro owner ⟨⟩

/-- The friends of an owner as they are loaded. -/
def loadFriends (owner : String) (rows : List FriendRow) : List FriendState :=
  (rows.filter (·.ownerKey = owner)).foldl
    (fun friends row => Keyed.insert FriendState.publicKey row.load friends) []

theorem find_loadFriends (owner peer : String) {rows : List FriendRow} (hKeys : (rows.map FriendRow.key).Nodup) :
    Keyed.find FriendState.publicKey peer (loadFriends owner rows) =
      (Keyed.find FriendRow.key (owner, peer) rows).map FriendRow.load := by
  have hDistinct : ((rows.filter (·.ownerKey = owner)).map fun row => row.load.publicKey).Nodup := by
    refine (List.nodup_map_iff_inj_on (hKeys.of_map.filter _)).mpr fun row hRow other hOther hSame => ?_
    obtain ⟨hRow, hOwn⟩ := List.mem_filter.mp hRow
    obtain ⟨hOther, hOtherOwn⟩ := List.mem_filter.mp hOther
    refine List.inj_on_of_nodup_map hKeys hRow hOther (Prod.ext ?_ hSame)
    exact (of_decide_eq_true hOwn).trans (of_decide_eq_true hOtherOwn).symm
  refine (Keyed.find_foldl_insert FriendRow.load hDistinct []).trans ?_
  rw [List.find?_filter, Keyed.find]
  refine Option.or_none.trans (congrArg (Option.map FriendRow.load) (congrArg (List.find? · rows) ?_))
  funext row
  change decide (decide (row.ownerKey = owner) = true ∧ decide (row.publicKey = peer) = true) = decide (row.key = (owner, peer))
  rw [decide_eq_decide, decide_eq_true_iff, decide_eq_true_iff]
  exact Prod.mk_inj.symm

theorem FriendRow.standing_load {row : FriendRow} (h : row.friendshipState ≠ .removing) :
    row.load.standing = row.standing := by
  have hState : (if row.friendshipState = .pendingOut then FriendshipState.pendingOut else .accepted) =
      row.friendshipState := by
    cases hRow : row.friendshipState
    · rfl
    · rfl
    · exact absurd hRow h
  exact congrArg (Standing.mk · _ _) hState

theorem login_ledger (displayName : String) (secretKey : Key) :
    (login externals ambient displayName secretKey state).ledger =
      if hexEncode (externals.prims.ed25519Public secretKey).val ∈ state.db.identities then
        { state.ledger with
          owner := some (hexEncode (externals.prims.ed25519Public secretKey).val)
          friends := loadFriends (hexEncode (externals.prims.ed25519Public secretKey).val) state.db.friends }
      else state.ledger := by
  unfold login
  dsimp only
  by_cases hKnown : hexEncode (externals.prims.ed25519Public secretKey).val ∈ state.db.identities
  · rw [if_neg (not_not_intro hKnown), if_pos hKnown]
    exact AppState.ledger_callManager _ _
  · rw [if_pos hKnown, if_neg hKnown]

theorem kept_login (h : state.ledger.Kept) (displayName : String) (secretKey : Key) :
    (login externals ambient displayName secretKey state).ledger.Kept := by
  rw [login_ledger]
  split
  · next hKnown =>
    refine ⟨Keyed.nodup_foldl_insert _ _ List.nodup_nil, h.keys, h.settled, ?_, fun peer _ => ?_⟩
    · rintro owner ⟨⟩
      exact hKnown
    · change (Keyed.find FriendRow.key (_, peer) state.db.friends).map FriendRow.standing =
        (Keyed.find FriendState.publicKey peer (loadFriends _ state.db.friends)).bind FriendState.filed
      rw [find_loadFriends _ _ (show (state.db.friends.map FriendRow.key).Nodup from h.keys)]
      change (Keyed.find FriendRow.key (hexEncode (externals.prims.ed25519Public secretKey).val, peer)
        state.db.friends).map FriendRow.standing = _
      cases hRow : Keyed.find FriendRow.key
        (hexEncode (externals.prims.ed25519Public secretKey).val, peer) state.db.friends with
      | none => rfl
      | some row =>
        have hSettled := h.settled row (List.mem_of_find?_eq_some hRow)
        have hLoaded : row.load.friendshipState ≠ .removing := by
          rw [show row.load.friendshipState = row.friendshipState from
            congrArg Standing.friendshipState (FriendRow.standing_load hSettled)]
          exact hSettled
        rw [Option.map_some, Option.map_some, Option.bind_some, FriendState.filed_of_stays hLoaded,
          FriendRow.standing_load hSettled]
  · exact h

end

/-! ## Runs -/

/-- The step enters no friend over an older row that stands otherwise. -/
def KeepsStanding (externals : Externals) (state : AppState) (action : Ambient × Event) : Prop :=
  match action.2 with
  | .receive envelope => ReceivesNoMailbox externals state envelope
  | .addFriend publicKey _ _ => AddsAnew state publicKey
  | .acceptRequest publicKey _ => AcceptsAnew state publicKey
  | _ => True

theorem kept_step {externals : Externals} {state : AppState} {action : Ambient × Event} (h : state.ledger.Kept)
    (hKeeps : KeepsStanding externals state action) : (step externals state action).ledger.Kept := by
  obtain ⟨ambient, event⟩ := action
  cases event with
  | receive envelope => exact kept_handleIncomingMessage h hKeeps
  | addFriend publicKey displayName message => exact kept_addFriend h hKeeps
  | removeFriend publicKey => exact kept_removeFriend h publicKey
  | finishRemoval publicKey => exact kept_finishRemoval h publicKey
  | acceptRequest publicKey displayName => exact kept_acceptRequest h hKeeps
  | rejectRequest publicKey => exact kept_rejectRequest h publicKey
  | cancelRequest publicKey => exact kept_cancelRequest h publicKey
  | generateInvite => exact kept_generateInvite h
  | addFriendFromInvite inviteString => exact kept_addFriendFromInvite h inviteString
  | blockUser publicKey displayName => exact kept_blockUser h publicKey displayName
  | unblockUser publicKey => exact kept_unblockUser h publicKey
  | sendMessage peer body => exact kept_sendChatMessage h peer body
  | sendTyping peer typing => exact kept_sendChatTyping h peer typing
  | expireStaleRequests => exact kept_expireStaleRequests h
  | syncFriends => exact kept_syncFriends h
  | login displayName secretKey => exact kept_login h displayName secretKey
  | logout => exact kept_logout h
  | retryPendingMessages | networkChanged node attached => exact h

/-- Nobody is logged in yet, and there are no friends. -/
structure AppState.JustInstalled (state : AppState) : Prop where
  identity : state.identity = none
  friends : state.friends = []
  rows : state.db.friends = []

/-- The row of a peer under the identity that is logged in. -/
def AppState.friendRow? (state : AppState) (peer : String) : Option FriendRow :=
  Keyed.find FriendRow.key (state.ownerKey, peer) state.db.friends

/-- Table and memory agree, a login as the same user changes nothing, and no accepted friend expires. -/
structure AppState.FriendsAgree (externals : Externals) (state : AppState) : Prop where
  sameRow : state.identity ≠ none → ∀ peer, state.friendshipState? peer ≠ some .removing →
    (state.friendRow? peer).map FriendRow.standing = (state.friend? peer).map FriendState.standing
  reload : ∀ ambient displayName secretKey,
    state.identity.map IdentityState.publicKey = some (hexEncode (externals.prims.ed25519Public secretKey).val) →
    ∀ peer, state.friendshipState? peer ≠ some .removing →
      ((login externals ambient displayName secretKey state).friend? peer).map FriendState.standing =
        (state.friend? peer).map FriendState.standing
  expiry : ∀ ambient peer, state.friendshipState? peer = some .accepted →
    (expireStaleRequests ambient state).friend? peer = state.friend? peer ∧
      (expireStaleRequests ambient state).friendRow? peer = state.friendRow? peer

theorem Ledger.Kept.sameRow {state : AppState} (h : state.ledger.Kept) (hLogged : state.identity ≠ none) {peer : String}
    (hStays : state.friendshipState? peer ≠ some .removing) :
    (state.friendRow? peer).map FriendRow.standing = (state.friend? peer).map FriendState.standing := by
  rw [AppState.friendRow?, ← AppState.rowOf_ledger, h.agrees peer (by simpa [AppState.ledger] using hLogged),
    AppState.friendOf_ledger]
  cases hFriend : state.friend? peer with
  | none => rfl
  | some friend =>
    rw [Option.bind_some, Option.map_some, FriendState.filed_of_stays]
    intro hRemoving
    rw [AppState.friendshipState?, hFriend, Option.map_some, hRemoving] at hStays
    exact hStays rfl

theorem Ledger.Kept.friendsAgree {externals : Externals} {state : AppState} (h : state.ledger.Kept) :
    state.FriendsAgree externals where
  sameRow hLogged peer hStays := h.sameRow hLogged hStays
  reload ambient displayName secretKey hSelf peer hStays := by
    have hLogged : state.identity ≠ none := by
      intro hNone
      rw [hNone] at hSelf
      cases hSelf
    have hOwner : state.ownerKey = hexEncode (externals.prims.ed25519Public secretKey).val := by
      obtain ⟨identity, hIdentity, hKey⟩ := Option.map_eq_some_iff.mp hSelf
      rw [ownerKey_of_identity hIdentity, hKey]
    have hFriends := congrArg (Ledger.friendOf · peer) 
      (@login_ledger externals ambient state displayName secretKey)
    rw [if_pos (show _ ∈ state.db.identities from h.known _ hSelf)] at hFriends
    rw [← h.sameRow hLogged hStays]
    refine (congrArg (Option.map FriendState.standing) (hFriends.trans (find_loadFriends _ peer h.keys))).trans ?_
    rw [AppState.friendRow?, hOwner]
    cases hRow : Keyed.find FriendRow.key
      (hexEncode (externals.prims.ed25519Public secretKey).val, peer) state.db.friends with
    | none => rfl
    | some row =>
      rw [Option.map_some, Option.map_some, Option.map_some,
        FriendRow.standing_load (h.settled row (List.mem_of_find?_eq_some hRow))]
  expiry ambient peer hAccepted := by
    obtain ⟨hFriend, hRow⟩ := friend?_expireStaleRequests h ambient hAccepted
    rw [AppState.rowOf_ledger, AppState.rowOf_ledger] at hRow
    exact ⟨hFriend, hRow⟩

/-- Along steps that keep standings, the friend list and its table agree. -/
theorem friends_agree (externals : Externals) (state : AppState) (hNew : state.JustInstalled)
    (actions : List (Ambient × Event)) (hRun : Along (step externals) (KeepsStanding externals) state actions) :
    (final (step externals) state actions).FriendsAgree externals := by
  have hStart : state.ledger.Kept := by
    obtain ⟨identity, friends, rows⟩ := hNew
    refine ⟨?_, ?_, ?_, ?_, ?_⟩
    · exact (congrArg (List.map FriendState.publicKey) friends).symm ▸ List.nodup_nil
    · exact (congrArg (List.map FriendRow.key) rows).symm ▸ List.nodup_nil
    · intro row hRow
      rw [show state.ledger.rows = [] from rows] at hRow
      cases hRow
    · intro owner hOwner
      rw [show state.ledger.owner = none from congrArg (Option.map IdentityState.publicKey) identity] at hOwner
      cases hOwner
    · exact fun peer hOwner => absurd (congrArg (Option.map IdentityState.publicKey) identity) hOwner
  exact (Along.invariant (fun state : AppState => state.ledger.Kept) (fun _ _ h hKeeps => kept_step h hKeeps) hStart hRun).friendsAgree

namespace Reference

open Signal.Reference

/-- Bob logs in and accepts Alice's request. -/
def bobAccepts : List (Ambient × Event) :=
  [(ambientOf 5, .login "Bob" (sampleKey 2)), (ambientOf 10, .receive aliceRequest),
   (ambientOf 20, .acceptRequest (address 1) "Alice")]

theorem bobAccepts_agree : (final (step externals) (blank 2) bobAccepts).FriendsAgree externals := by
  refine friends_agree externals (blank 2) ⟨rfl, rfl, rfl⟩ bobAccepts ⟨trivial, ?_, ?_, trivial⟩
  · intro accept hDelivered friend hFriend
    cases hFriend.symm.trans (show _ = none by decide +kernel)
  · intro friend hFriend
    cases hFriend.symm.trans (show _ = none by decide +kernel)

/-- Bob adds Alice once more: only the friend in memory goes back to pending. -/
theorem addedAgain_disagree : ¬∀ actions, (final (step externals) (blank 2) actions).FriendsAgree externals := by
  intro hAll
  have hSame := (hAll (bobAccepts ++ [(ambientOf 30, .addFriend (address 1) "Alice" "hi")])).sameRow
    (by decide +kernel) (address 1) (by decide +kernel)
  revert hSame
  decide +kernel

end Reference

end Rekindle.Client
