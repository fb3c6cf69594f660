import Rekindle.Client.Outbound

/-! # Receiving

`handleIncomingMessage` from the decoded envelope on. The handlers log the errors of the
statements, manager calls and sends they make, and go on.
-/
namespace Rekindle.Client
set_option autoImplicit false

open Signal MemoryStores

/-! ## Statements -/

namespace AppState

variable (state : AppState)

def persistFriendshipState (friendKey : String) (friendshipState : FriendshipState) : AppState :=
  state.mapDb (·.updateFriend (state.ownerKey, friendKey)
    fun row => { row with friendshipState := friendshipState })

def updateFriendDisplayName (publicKey displayName : String) : AppState :=
  state.mapDb (·.updateFriend (state.ownerKey, publicKey)
    fun row => { row with displayName := displayName })

def persistFriendDhtKey (friendKey profileDhtKey : String) : AppState :=
  state.mapDb (·.updateFriend (state.ownerKey, friendKey)
    fun row => { row with dhtRecordKey := some profileDhtKey })

def persistFriendMailboxKey (friendKey mailboxDhtKey : String) : AppState :=
  state.mapDb (·.updateFriend (state.ownerKey, friendKey)
    fun row => { row with mailboxDhtKey := some mailboxDhtKey })

def deleteFriendRow (publicKey : String) : AppState :=
  state.mapDb (·.deleteFriend (state.ownerKey, publicKey))

def deletePendingRequestRow (peerKey : String) : AppState :=
  state.mapDb (·.deletePendingRequest (state.ownerKey, peerKey))

def deletePendingMessagesToRecipient (recipientKey : String) : AppState :=
  state.mapDb (·.deletePendingMessages state.ownerKey recipientKey)

end AppState

/-- `if !key.is_empty() { friend.key = Some(key) }` for both keys of a friend. -/
def FriendState.withKeys (friend : FriendState) (profileDhtKey mailboxDhtKey : String) : FriendState :=
  { friend with
    dhtRecordKey := if profileDhtKey = "" then friend.dhtRecordKey else some profileDhtKey
    mailboxDhtKey := if mailboxDhtKey = "" then friend.mailboxDhtKey else some mailboxDhtKey }

section Handlers

variable (externals : Externals) (ambient : Ambient)

/-! ## Messages -/

def handleDirectMessage (sender body : String) (timestamp : Int) (state : AppState) : AppState :=
  (state.tryDb (·.insertMessage ⟨state.ownerKey, sender, .dm, sender, body, timestamp, false⟩)).updateFriend
    sender fun friend => { friend with unreadCount := friend.unreadCount + 1 }

def handleChannelMessage (sender channelId body : String) (timestamp : Int) (state : AppState) :
    AppState :=
  state.tryDb (·.insertMessage ⟨state.ownerKey, channelId, .channel, sender, body, timestamp, false⟩)

/-! ## Friend requests -/

def persistFriendRequest (sender : String) (request : FriendRequest) (state : AppState) : AppState :=
  state.tryDb (·.replacePendingRequest {
    ownerKey := state.ownerKey
    publicKey := sender
    displayName := request.displayName
    message := request.message
    receivedAt := ambient.timestampNow
    profileDhtKey := some request.profileDhtKey
    routeBlob := some request.routeBlob
    mailboxDhtKey := some request.mailboxDhtKey
    prekeyBundle := some request.prekeyBundle
  })

/-- The old session with the peer is deleted, then one is established from the bundle. -/
def reestablishSession (peer : String) (prekeyBundle : Bytes) (state : AppState) :
    Option SessionInitInfo × AppState :=
  let (_, state) := state.callManager (deleteSession manager peer)
  match externals.bundleFromSlice prekeyBundle with
  | none => (none, state)
  | some bundle =>
    state.callManager (establishSession externals.prims manager ambient.ephemeral peer bundle)

/-- The friend and its row after a crossing request. -/
def AppState.acceptCrossing (state : AppState) (sender : String) (request : FriendRequest) : AppState :=
  let state := state.updateFriend sender fun friend =>
    { friend.withKeys request.profileDhtKey request.mailboxDhtKey with
      friendshipState := .accepted, displayName := request.displayName }
  let state := state.persistFriendshipState sender .accepted
  let state := state.updateFriendDisplayName sender request.displayName
  let state := if request.profileDhtKey = "" then state
    else state.persistFriendDhtKey sender request.profileDhtKey
  if request.mailboxDhtKey = "" then state
  else state.persistFriendMailboxKey sender request.mailboxDhtKey

def autoAcceptCrossRequest (sender : String) (request : FriendRequest) (state : AppState) : AppState :=
  let state := (state.deletePendingRequestRow sender).acceptCrossing sender request
  let (sessionInit, state) :=
    if request.prekeyBundle = [] then (none, state)
    else reestablishSession externals ambient sender request.prekeyBundle state
  let state := (sendFriendAccept externals ambient sender sessionInit state).2
  if request.profileDhtKey = "" then state else state.watchFriend sender request.profileDhtKey

/-- The request is stored for the user's decision and its delivery acknowledged. -/
def recordFriendRequest (sender : String) (request : FriendRequest) (state : AppState) : AppState :=
  (sendToPeerRaw externals ambient sender .friendRequestReceived
    (persistFriendRequest ambient sender request state)).2

def handleFriendRequestFull (sender : String) (request : FriendRequest) (state : AppState) : AppState :=
  match state.friendshipState? sender with
  | some .pendingOut => autoAcceptCrossRequest externals ambient sender request state
  -- A friend who asks again is taken out of the list first.
  | some .removing | some .accepted =>
    recordFriendRequest externals ambient sender request
      (((state.removeFriend sender).deleteFriendRow sender).deletePendingRequestRow sender)
  | none => recordFriendRequest externals ambient sender request state

/-! ## Friend accepts -/

/-- The responder's side of the session: the old one is deleted first. -/
def handleFriendAccept (sender : String) (accept : FriendAccept) (state : AppState) : AppState :=
  if accept.ephemeralKey = [] then state
  else match externals.bundleFromSlice accept.prekeyBundle with
  | none => state
  | some bundle =>
    let (_, state) := state.callManager (deleteSession manager sender)
    (state.callManager (respondToSession externals.prims manager sender bundle.identityKey
      accept.ephemeralKey accept.signedPrekeyId accept.oneTimePrekeyId)).2

/-- The friend and its row after an accept. -/
def AppState.markAccepted (state : AppState) (sender : String) (accept : FriendAccept) : AppState :=
  let state := state.updateFriend sender fun friend =>
    { friend.withKeys accept.profileDhtKey accept.mailboxDhtKey with friendshipState := .accepted }
  let state := state.persistFriendshipState sender .accepted
  if accept.profileDhtKey = "" then state
  else (state.persistFriendDhtKey sender accept.profileDhtKey).watchFriend sender accept.profileDhtKey

def handleFriendAcceptFull (sender : String) (accept : FriendAccept) (state : AppState) : AppState :=
  if state.friendshipState? sender = some .removing then state
  else (handleFriendAccept externals sender accept state).markAccepted sender accept

/-! ## Rejections, removals and key changes -/

def handleFriendReject (sender : String) (state : AppState) : AppState :=
  if state.friendshipState? sender = some .pendingOut then
    (state.deleteFriendRow sender).removeFriend sender
  else state

def handleUnfriended (sender : String) (state : AppState) : AppState :=
  match state.friendshipState? sender with
  | none | some .removing => state
  | some .pendingOut | some .accepted =>
    let state := ((state.deleteFriendRow sender).deletePendingRequestRow sender)
    let state := state.deletePendingMessagesToRecipient sender
    let state := (sendToPeerRaw externals ambient sender .unfriendedAck state).2
    let dhtKey := (state.friend? sender).bind (·.dhtRecordKey)
    (state.removeFriend sender).unregisterFriendDhtKey dhtKey

def handleUnfriendedAck (sender : String) (state : AppState) : AppState :=
  state.deletePendingMessagesToRecipient sender

def handleProfileKeyRotated (sender newProfileDhtKey : String) (state : AppState) : AppState :=
  match state.friend? sender with
  | none => state
  | some friend =>
    let state := state.unregisterFriendDhtKey friend.dhtRecordKey
    let state := state.updateFriend sender fun friend =>
      { friend with dhtRecordKey := some newProfileDhtKey }
    (state.persistFriendDhtKey sender newProfileDhtKey).watchFriend sender newProfileDhtKey

/-! ## Dispatch -/

/-- Payloads that pass the non-friend filter. -/
def MessagePayload.allowedFromNonFriends : MessagePayload → Bool
  | .friendRequest _ | .friendRequestReceived | .unfriended | .unfriendedAck | .friendReject => true
  | _ => false

def dispatchPayload (sender : String) (timestamp : Int) (state : AppState) : MessagePayload → AppState
  | .directMessage body _ => handleDirectMessage sender body timestamp state
  | .channelMessage channelId body _ => handleChannelMessage sender channelId body timestamp state
  | .friendRequest request => handleFriendRequestFull externals ambient sender request state
  | .friendAccept accept => handleFriendAcceptFull externals sender accept state
  | .friendReject => handleFriendReject sender state
  | .profileKeyRotated newProfileDhtKey => handleProfileKeyRotated sender newProfileDhtKey state
  | .unfriended => handleUnfriended externals ambient sender state
  | .unfriendedAck => handleUnfriendedAck sender state
  | .typingIndicator _ | .friendRequestReceived | .presenceUpdate _ _ => state

/-- A payload that is JSON text is taken as it is, any other is decrypted. -/
def openPayload (sender : String) (payload : Bytes) (state : AppState) : Option Bytes × AppState :=
  if externals.isJson payload then (some payload, state)
  else state.callManager (decrypt externals.prims manager sender payload)

/-- The opened payload, once it is known whose it is and what the envelope's timestamp is. -/
def handlePayload (sender : String) (timestamp : Int) (payloadBytes : Option Bytes) (state : AppState) :
    AppState :=
  match payloadBytes.bind externals.payloadFromSlice with
  | none => state
  | some payload =>
    if ¬ payload.allowedFromNonFriends ∧ (state.friend? sender).isNone then state
    else dispatchPayload externals ambient sender timestamp state payload

def handleIncomingMessage (envelope : MessageEnvelope) (state : AppState) : AppState :=
  if ¬ verifyEnvelope externals.prims envelope then state
  else
    let sender := hexEncode envelope.senderKey
    if state.db.isUserBlocked state.ownerKey sender then state
    else
      let (payloadBytes, state) := openPayload externals sender envelope.payload state
      handlePayload externals ambient sender (saturateI64 envelope.timestamp) payloadBytes state

end Handlers

end Rekindle.Client
