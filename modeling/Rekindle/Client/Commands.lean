import Rekindle.Client.Inbound

/-! # Commands

What the user can do, the client's background tasks, and the machine that takes one of these or
one received envelope at a time.
-/
namespace Rekindle.Client
set_option autoImplicit false

open Signal MemoryStores

/-- A friend as both add commands and the accept command create it. -/
def newFriend (publicKey displayName : String) (dhtRecordKey mailboxDhtKey : Option String)
    (friendshipState : FriendshipState) : FriendState where
  publicKey := publicKey
  displayName := displayName
  unreadCount := 0
  dhtRecordKey := dhtRecordKey
  mailboxDhtKey := mailboxDhtKey
  friendshipState := friendshipState

section Commands

variable (externals : Externals) (ambient : Ambient)

/-! ## Adding and removing -/

def addFriend (publicKey displayName message : String) (state : AppState) :
    Except String Unit × AppState :=
  if publicKey.utf8ByteSize ≠ 64 ∨ (hexDecode publicKey.toList).isNone then
    (.error "Invalid public key — must be a 64-character hex string", state)
  else match state.identity with
  | none => (.error "not logged in", state)
  | some identity =>
    if publicKey = identity.publicKey then (.error "You cannot add yourself as a friend", state)
    else if state.db.isUserBlocked identity.publicKey publicKey then
      (.error "Cannot add a blocked user. Unblock them first.", state)
    else match state.db.insertOrIgnoreFriend ⟨identity.publicKey, publicKey, displayName,
        ambient.timestampNow, none, none, .pendingOut⟩ with
    | none => (.error "insert friend", state)
    | some db =>
      let state := { state with db := db }.insertFriend
        (newFriend publicKey displayName none none .pendingOut)
      (.ok (), (sendFriendRequest externals ambient publicKey message state).2)

def removeFriend (publicKey : String) (state : AppState) : Except String Unit × AppState :=
  match state.identity with
  | none => (.error "not logged in", state)
  | some _ =>
    let state := (sendToPeerRaw externals ambient publicKey .unfriended state).2
    let state := (buildAndQueueEnvelope externals ambient publicKey .unfriended state).2
    let state := (state.deleteFriendRow publicKey).deletePendingRequestRow publicKey
    let state := state.updateFriend publicKey fun friend => { friend with friendshipState := .removing }
    let dhtKey := (state.friend? publicKey).bind (·.dhtRecordKey)
    let state := state.unregisterFriendDhtKey dhtKey
    (.ok (), { state with removals := state.removals ++ [publicKey] })

/-- The task that `remove_friend` spawns, after its ten minutes. -/
def finishRemoval (publicKey : String) (state : AppState) : AppState :=
  if publicKey ∉ state.removals then state
  else
    let state := { state with removals := state.removals.erase publicKey }
    if state.friendshipState? publicKey = some .removing then
      ((state.removeFriend publicKey).callManager (deleteSession manager publicKey)).2
    else state

/-! ## Answering requests -/

/-- `profile_dht_key`, `mailbox_dht_key` and `prekey_bundle` of the pending request, if there is
one. -/
def readPendingRequestData (state : AppState) (publicKey : String) :
    Option String × Option String × Option Bytes :=
  (Keyed.find PendingRequestRow.key (state.ownerKey, publicKey) state.db.pendingFriendRequests).elim
    (none, none, none) fun row => (row.profileDhtKey, row.mailboxDhtKey, row.prekeyBundle)

/-- The accepted friend in the database and in memory, the pending request gone. -/
def enterAccepted (publicKey displayName : String) (profileDhtKey mailboxDhtKey : Option String)
    (state : AppState) : Option AppState :=
  (state.db.insertOrIgnoreFriend ⟨state.ownerKey, publicKey, displayName, ambient.timestampNow,
      none, none, .accepted⟩).map fun db =>
    let state := { state with db := db }.deletePendingRequestRow publicKey
    let state := state.insertFriend (newFriend publicKey displayName profileDhtKey mailboxDhtKey .accepted)
    -- `COALESCE(?1, dht_record_key)`
    state.mapDb (·.updateFriend (state.ownerKey, publicKey) fun row => { row with
      dhtRecordKey := profileDhtKey.or row.dhtRecordKey
      mailboxDhtKey := mailboxDhtKey.or row.mailboxDhtKey })

def acceptRequest (publicKey displayName : String) (state : AppState) : Except String Unit × AppState :=
  match state.identity with
  | none => (.error "not logged in", state)
  | some _ =>
    let (profileDhtKey, mailboxDhtKey, prekeyBundle) := readPendingRequestData state publicKey
    match enterAccepted ambient publicKey displayName profileDhtKey mailboxDhtKey state with
    | none => (.error "insert friend", state)
    | some state =>
      let (sessionInit, state) := match prekeyBundle with
        | none => (none, state)
        | some prekeyBundle => reestablishSession externals ambient publicKey prekeyBundle state
      let state := (sendFriendAccept externals ambient publicKey sessionInit state).2
      (.ok (), profileDhtKey.elim state (state.watchFriend publicKey))

def rejectRequest (publicKey : String) (state : AppState) : Except String Unit × AppState :=
  match state.identity with
  | none => (.error "not logged in", state)
  | some _ =>
    (.ok (), (sendFriendReject externals ambient publicKey (state.deletePendingRequestRow publicKey)).2)

def cancelRequest (publicKey : String) (state : AppState) : Except String Unit × AppState :=
  match state.identity with
  | none => (.error "not logged in", state)
  | some _ =>
    if state.friendshipState? publicKey = some .pendingOut then
      (.ok (), (state.deleteFriendRow publicKey).removeFriend publicKey)
    else (.error "Not a pending outbound request", state)

/-! ## Invites -/

def createInviteBlob (secretKey : Key) (unsigned : InviteBlob) : InviteBlob :=
  { unsigned with
    signature := (externals.prims.ed25519Sign secretKey (externals.inviteSignable unsigned)).val }

def generateInvite (state : AppState) : Except String InviteBlob × AppState :=
  match state.identity, state.identitySecret with
  | none, _ => (.error "identity not set", state)
  | some _, none => (.error "signing key not initialized", state)
  | some identity, some secretKey =>
    match state.node with
    | none => (.error "node not initialized", state)
    | some node =>
      match node.mailboxDhtKey, node.profileDhtKey, node.routeBlob with
      | none, _, _ => (.error "mailbox DHT key not set", state)
      | some _, none, _ => (.error "profile DHT key not set", state)
      | some _, some _, none => (.error "route not allocated yet — try again in a moment", state)
      | some mailboxDhtKey, some profileDhtKey, some routeBlob =>
        match state.callManager
          (generatePrekeyBundle externals.prims manager ambient.signedPrekey ambient.otpk 1 (some 1)) with
        | (none, state) => (.error "generate prekey bundle", state)
        | (some bundle, state) => (.ok (createInviteBlob externals secretKey
            ⟨identity.publicKey, identity.displayName, mailboxDhtKey, profileDhtKey, routeBlob,
              externals.bundleToVec bundle, []⟩), state)

/-- The session part of `setup_invite_contact`. -/
def setupInviteContact (blob : InviteBlob) (state : AppState) : AppState :=
  match externals.bundleFromSlice blob.prekeyBundle with
  | none => state
  | some bundle =>
    let (_, state) := state.callManager (deleteSession manager blob.publicKey)
    (state.callManager
      (establishSession externals.prims manager ambient.ephemeral blob.publicKey bundle)).2

/-- The pending friend of an invite, in the database and in memory. -/
def enterInvited (blob : InviteBlob) (state : AppState) : Except String Unit × AppState :=
  let state := (state.removeFriend blob.publicKey).deleteFriendRow blob.publicKey
  match state.db.insertFriend ⟨state.ownerKey, blob.publicKey, blob.displayName, ambient.timestampNow,
      some blob.profileDhtKey, some blob.mailboxDhtKey, .pendingOut⟩ with
  | none => (.error "insert friend", state)
  | some db => (.ok (), { state with db := db }.insertFriend (newFriend blob.publicKey blob.displayName
      (some blob.profileDhtKey) (some blob.mailboxDhtKey) .pendingOut))

def addFriendFromInvite (inviteString : String) (state : AppState) : Except String Unit × AppState :=
  match externals.decodeInviteUrl inviteString with
  | none => (.error "invalid invite", state)
  | some blob =>
    if ¬ verifyInviteBlob externals blob then (.error "invalid invite signature", state)
    else match state.identity with
    | none => (.error "not logged in", state)
    | some identity =>
      if blob.publicKey = identity.publicKey then (.error "You cannot add yourself as a friend", state)
      else if state.db.isUserBlocked identity.publicKey blob.publicKey then
        (.error "Cannot add a blocked user. Unblock them first.", state)
      else match enterInvited ambient blob state with
      | (.error e, state) => (.error e, state)
      | (.ok (), state) =>
        let state := setupInviteContact externals ambient blob state
        let state := (sendFriendRequest externals ambient blob.publicKey "Added via invite link" state).2
        (.ok (), state.watchFriend blob.publicKey blob.profileDhtKey)

/-! ## Blocking -/

def rotateProfileKey (state : AppState) : Except String Unit × AppState :=
  match state.node, ambient.newProfileDhtKey, state.identity with
  | none, _, _ => (.error "node not initialized", state)
  | some _, none, _ => (.error "create new profile record", state)
  | some _, some _, none => (.error "identity not set", state)
  | some node, some newKey, some _ =>
    let (_, state) := offerPrekeyBundle externals ambient state
    let state := { state with node := some { node with profileDhtKey := some newKey } }
    (.ok (), (state.friends.map (·.publicKey)).foldl (fun state friendKey =>
      (sendToPeerRaw externals ambient friendKey (.profileKeyRotated newKey) state).2) state)

/-- The name under which a user is blocked. -/
def resolvedName (state : AppState) (publicKey : String) (displayName : Option String) : String :=
  (((state.friend? publicKey).map (·.displayName)).or displayName).getD
    (if publicKey.utf8ByteSize > 12 then String.ofList (publicKey.toList.take 12) ++ "..." else publicKey)

def blockUser (publicKey : String) (displayName : Option String) (state : AppState) :
    Except String Unit × AppState :=
  match state.identity with
  | none => (.error "not logged in", state)
  | some _ =>
    let name := resolvedName state publicKey displayName
    let state := (state.deleteFriendRow publicKey).deletePendingRequestRow publicKey
    match state.db.replaceBlocked ⟨state.ownerKey, publicKey, name, ambient.timestampNow⟩ with
    | none => (.error "insert blocked user", state)
    | some db =>
      let state := { state with db := db }.deletePendingMessagesToRecipient publicKey
      let dhtKey := (state.friend? publicKey).bind (·.dhtRecordKey)
      let state := (state.removeFriend publicKey).unregisterFriendDhtKey dhtKey
      let (_, state) := state.callManager (deleteSession manager publicKey)
      rotateProfileKey externals ambient state

def unblockUser (publicKey : String) (state : AppState) : Except String Unit × AppState :=
  match state.identity with
  | none => (.error "not logged in", state)
  | some _ => (.ok (), state.mapDb (·.deleteBlocked (state.ownerKey, publicKey)))

/-! ## Chat -/

/-- The `send_message` command: the message is stored first, then sent. -/
def sendChatMessage (peer body : String) (state : AppState) : Except String Unit × AppState :=
  match state.identity with
  | none => (.error "not logged in", state)
  | some identity =>
    match state.db.insertMessage ⟨identity.publicKey, peer, .dm, identity.publicKey, body,
        ambient.timestampNow, true⟩ with
    | none => (.error "insert message", state)
    | some db => (.ok (), (sendMessage externals ambient peer body { state with db := db }).2)

/-- The `send_typing` command. -/
def sendChatTyping (peer : String) (typing : Bool) (state : AppState) : Except String Unit × AppState :=
  match state.identity with
  | none => (.error "not logged in", state)
  | some _ => sendTyping externals ambient peer typing state

/-! ## Background tasks, login and logout -/

def thirtyDaysMs : Int := 30 * 24 * 60 * 60 * 1000

def expireStaleRequests (state : AppState) : AppState :=
  if state.ownerKey = "" then state
  else
    let cutoff := ambient.timestampNow - thirtyDaysMs
    let isExpired : FriendRow → Bool := fun row =>
      row.ownerKey = state.ownerKey ∧ row.friendshipState = .pendingOut ∧ row.addedAt < cutoff
    let state' := state.mapDb fun db => { db with
      pendingFriendRequests := db.pendingFriendRequests.filter fun row =>
        ¬ (row.ownerKey = state.ownerKey ∧ row.receivedAt < cutoff)
      friends := db.friends.filter fun row => ¬ isExpired row }
    (state.db.friends.filter isExpired).foldl (fun state row => state.removeFriend row.publicKey) state'

/-- `sync_friends` of an attached node registers and watches every friend it has a record key of. -/
def syncFriends (state : AppState) : AppState :=
  if state.node.isNone then state
  else (state.friends.filterMap fun friend =>
      (friend.dhtRecordKey.filter externals.recordKeyParses).map fun dhtKey => (friend.publicKey, dhtKey)).foldl
    (fun state entry => state.watchFriend entry.1 entry.2) state

def maxRetries : Nat := 20

/-- A queued envelope is dropped, delivered, or kept with one more retry on its count. -/
def retrySinglePending (reaches : String → Bool) (row : PendingMessageRow) :
    List (String × MessageEnvelope) × Option PendingMessageRow :=
  if maxRetries ≤ row.retryCount then ([], none)
  else if reaches row.recipientKey then ([(row.recipientKey, row.body)], none)
  else ([], some { row with retryCount := row.retryCount + 1 })

def retryPendingMessages (state : AppState) : AppState :=
  let isOwn : PendingMessageRow → Bool := fun row => row.ownerKey = state.ownerKey
  let reaches := fun peer => state.node.isSome && ambient.reaches peer
  { state with
    transmitted := state.transmitted ++
      (state.db.pendingMessages.filter isOwn).flatMap fun row => (retrySinglePending reaches row).1
    db := { state.db with
      pendingMessages := state.db.pendingMessages.filterMap fun row =>
        if isOwn row then (retrySinglePending reaches row).2 else some row } }

/-- A friend as it is loaded from its row. -/
def FriendRow.load (row : FriendRow) : FriendState :=
  newFriend row.publicKey row.displayName row.dhtRecordKey row.mailboxDhtKey
    (if row.friendshipState = .pendingOut then .pendingOut else .accepted)

/-- Fresh stores around the identity, with a first bundle in them. -/
def initializeSignalManager (secretKey : Key) (state : AppState) : AppState :=
  let x25519Secret := externals.toX25519Secret secretKey
  let registrationId := ByteWords.ofLeBytes ((externals.prims.ed25519Public secretKey).val.take 4)
  let stores := MemoryStores.new x25519Secret.val (externals.prims.x25519Public x25519Secret).val
    (UInt32.ofNat registrationId)
  { ((state.setStores stores).callManager
      (generatePrekeyBundle externals.prims manager ambient.signedPrekey ambient.otpk 1 (some 1))).2 with
    identitySecret := some secretKey }

/-- Login as an identity of the database, whose secret key is the given one. -/
def login (displayName : String) (secretKey : Key) (state : AppState) : AppState :=
  let publicKey := hexEncode (externals.prims.ed25519Public secretKey).val
  if publicKey ∉ state.db.identities then state
  else
    initializeSignalManager externals ambient secretKey { state with
      identity := some ⟨publicKey, displayName⟩
      friends := (state.db.friends.filter (·.ownerKey = publicKey)).foldl
        (fun friends row => Keyed.insert FriendState.publicKey row.load friends) [] }

def logout (state : AppState) : AppState :=
  { state with
    identity := none
    identitySecret := none
    signalManager := none
    friends := []
    node := state.node.map fun _ => ⟨none, none, none⟩
    dhtManager := state.dhtManager.map fun _ => ⟨∅⟩ }

/-! ## Machine -/

end Commands

inductive Event where
  | receive (envelope : MessageEnvelope)
  | addFriend (publicKey displayName message : String)
  | removeFriend (publicKey : String)
  | finishRemoval (publicKey : String)
  | acceptRequest (publicKey displayName : String)
  | rejectRequest (publicKey : String)
  | cancelRequest (publicKey : String)
  | generateInvite
  | addFriendFromInvite (inviteString : String)
  | blockUser (publicKey : String) (displayName : Option String)
  | unblockUser (publicKey : String)
  | sendMessage (peer body : String)
  | sendTyping (peer : String) (typing : Bool)
  | expireStaleRequests
  | retryPendingMessages
  | syncFriends
  | login (displayName : String) (secretKey : Key)
  | logout
  /-- The node attaches, publishes its records or goes away. -/
  | networkChanged (node : Option NodeHandle) (attached : Bool)

def Event.handle (externals : Externals) (ambient : Ambient) (state : AppState) : Event → AppState
  | .receive envelope => handleIncomingMessage externals ambient envelope state
  | .addFriend publicKey displayName message =>
    (Client.addFriend externals ambient publicKey displayName message state).2
  | .removeFriend publicKey => (Client.removeFriend externals ambient publicKey state).2
  | .finishRemoval publicKey => Client.finishRemoval publicKey state
  | .acceptRequest publicKey displayName =>
    (Client.acceptRequest externals ambient publicKey displayName state).2
  | .rejectRequest publicKey => (Client.rejectRequest externals ambient publicKey state).2
  | .cancelRequest publicKey => (Client.cancelRequest publicKey state).2
  | .generateInvite => (Client.generateInvite externals ambient state).2
  | .addFriendFromInvite inviteString =>
    (Client.addFriendFromInvite externals ambient inviteString state).2
  | .blockUser publicKey displayName => (Client.blockUser externals ambient publicKey displayName state).2
  | .unblockUser publicKey => (Client.unblockUser publicKey state).2
  | .sendMessage peer body => (sendChatMessage externals ambient peer body state).2
  | .sendTyping peer typing => (sendChatTyping externals ambient peer typing state).2
  | .expireStaleRequests => Client.expireStaleRequests ambient state
  | .retryPendingMessages => Client.retryPendingMessages ambient state
  | .syncFriends => Client.syncFriends externals state
  | .login displayName secretKey => Client.login externals ambient displayName secretKey state
  | .logout => Client.logout state
  | .networkChanged node attached => { state with
      node := node
      dhtManager := if attached then some (state.dhtManager.getD ⟨∅⟩) else none }

def step (externals : Externals) (state : AppState) (action : Ambient × Event) : AppState :=
  action.2.handle externals action.1 state

end Rekindle.Client
