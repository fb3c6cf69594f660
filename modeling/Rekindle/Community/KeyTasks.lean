import Rekindle.Community.State
import Rekindle.Library.Interleaving

/-! # What the client does with the key of a community

Login, joins, fetches and sends, each cut where it lets go of a lock. A reply of the server is part of
the call that it answers.
-/
namespace Rekindle.Community
set_option autoImplicit false
open ByteWords Server Fallible

abbrev ClientM := EStateM String ClientState

/-- Nothing, when the call fails or its answer cannot be read. -/
abbrev Reply := Option (Except RpcError CommunityResponse)

structure LoginCall where
  publicKey : String
  /-- The key that is drawn for a community of one's own whose key is missing. -/
  freshKey : String → Window UInt8 32

structure JoinCall where
  communityId : String
  /-- What the DHT record says. -/
  channels : List String
  serverRouteBlob : Option (List UInt8)
  reply : Reply

/-- How `send_encrypted_to_server` comes out. -/
inductive Delivery where
  | detached
  | unroutable
  | failed
  | answered (reply : Reply)

structure SendCall where
  channelId : String
  body : String
  nonce : List UInt8
  timestamp : Int64
  delivery : Delivery

/-- The payload and the key of a `MEK` response. -/
def Reply.mek? : Reply → Option (List UInt8 × MediaEncryptionKey)
  | some (.ok (.mek mekEncrypted mekGeneration)) =>
    (receivedMek mekEncrypted mekGeneration).map fun mek => (mekEncrypted, mek)
  | _ => none

inductive Request where
  | login (call : LoginCall)
  | join (call : JoinCall)
  | fetch (communityId : String) (reply : Reply)
  | send (call : SendCall)

/-! ## Tasks -/

/-- What a login has found in the keychain. -/
structure Restored where
  visited : List String
  meks : List (String × MediaEncryptionKey)
  regenerated : List String

/-- `JoinRpcResult`, with the key that went into the cache. -/
structure Joined where
  mek : Option MediaEncryptionKey
  mekGeneration : UInt64
  channels : List String

/-- What `join_community` reads back from the state. -/
structure JoinDetails where
  myPseudonymKey : Option String
  serverRouteBlob : Option (List UInt8)
  mekGeneration : UInt64
  channels : List String

inductive JoinStage where
  | begin
  | callServer (ownerKey : String)
  | insertCommunity (ownerKey : String) (joined : Option Joined)
  | readBack (ownerKey : String) (joined : Option Joined)
  | storeCached (ownerKey : String) (joined : Option Joined) (details : JoinDetails)
  | insertRow (ownerKey : String) (joined : Option Joined) (details : JoinDetails)

inductive PersistStage where
  | setGeneration
  | storeKey
  | updateRow

inductive LoginStage where
  | unlock
  | readRows
  | loadCommunities (rows : List CommunityRow) (channels : List ChannelRow)
  | collect
  | restore (todo : List (String × Bool)) (restored : Restored)
  | applyUpdates (restored : Restored)
  | fillCache (meks : List (String × MediaEncryptionKey))

/-- Where a message goes. -/
structure Destination where
  communityId : String
  mekGeneration : UInt64
  serverRouteBlob : Option (List UInt8)

inductive SendStage where
  | begin
  | findChannel (ownerKey : String)
  | readSender (ownerKey : String) (destination : Destination)
  | encrypt (senderKey : String) (destination : Destination)
  | store (senderKey : String) (serverRouteBlob : Option (List UInt8)) (message : PendingChannelMessage)
  | deliver (serverRouteBlob : Option (List UInt8)) (message : PendingChannelMessage)
  | queue (message : PendingChannelMessage)

/-- What a task does next. -/
inductive Task where
  | login (call : LoginCall) (stage : LoginStage)
  | join (call : JoinCall) (stage : JoinStage)
  | requestMek (communityId : String) (reply : Reply)
  | receiveMek (communityId : String) (reply : Reply)
  | persistMek (communityId : String) (mekEncrypted : List UInt8) (mek : MediaEncryptionKey)
      (stage : PersistStage)
  | send (call : SendCall) (stage : SendStage)

def Request.start : Request → Task
  | .login call => .login call .unlock
  | .join call => .join call .begin
  | .fetch communityId reply => .requestMek communityId reply
  | .send call => .send call .begin

/-! ## Sections -/

def currentOwnerKey : ClientM String := do
  let state ← get
  ofExcept (orThrow state.identity "not logged in")

section
variable (crypto : Crypto)

def loadedCommunity (channels : List ChannelRow) (row : CommunityRow) : CommunityState :=
  { id := row.id
    channels := (channels.filter (·.communityId == row.id)).map ChannelRow.id
    myPseudonymKey := row.myPseudonymKey
    mekGeneration := row.mekGeneration.toUInt64
    serverRouteBlob := row.serverRouteBlob
    isHosted := row.isHosted }

/-- Looks the key up in the keychain; a missing one of a hosted community is drawn anew. -/
def restoreMek (freshKey : Window UInt8 32) (communityId : String) (isHosted : Bool) (restored : Restored)
    (state : ClientState) : Restored × ClientState :=
  let visited := restored.visited ++ [communityId]
  if state.unlocked then
    match (state.vault.lookup communityId).bind storedMek with
    | some mek => ({ restored with visited, meks := restored.meks ++ [(communityId, mek)] }, state)
    | none =>
      if isHosted then
        let mek : MediaEncryptionKey := { generation := 1, key := freshKey.val }
        ({ visited, meks := restored.meks ++ [(communityId, mek)]
           regenerated := restored.regenerated ++ [communityId] },
          state.storeKey communityId (mekPayload mek))
      else ({ restored with visited }, state)
  else ({ restored with visited }, state)

def fillPseudonym (communityId : String) (state : ClientState) : ClientState :=
  state.updateCommunity communityId fun community =>
    { community with
      myPseudonymKey := some (community.myPseudonymKey.getD (crypto.derivePseudonym communityId)) }

def loginSection (call : LoginCall) : LoginStage → ClientM (Task ⊕ Unit)
  | .unlock => do
    modify fun state => { state with identity := some call.publicKey, unlocked := true }
    pure (.inl (.login call .readRows))
  | .readRows => do
    let state ← get
    pure (.inl (.login call (.loadCommunities state.db.communities state.db.channels)))
  | .loadCommunities rows channels => do
    modify fun state => rows.foldl (fun state row => state.insertCommunity (loadedCommunity channels row)) state
    pure (.inl (.login call .collect))
  | .collect => do
    let state ← get
    pure (.inl (.login call
      (.restore (state.communities.map fun community => (community.id, community.isHosted)) ⟨[], [], []⟩)))
  | .restore [] restored => pure (.inl (.login call (.applyUpdates restored)))
  | .restore ((communityId, isHosted) :: todo) restored => do
    let state ← get
    let (restored, state) := restoreMek (call.freshKey communityId) communityId isHosted restored state
    set state
    pure (.inl (.login call (.restore todo restored)))
  | .applyUpdates restored => do
    modify fun state =>
      let state := restored.visited.foldl (fun state communityId => fillPseudonym crypto communityId state) state
      restored.regenerated.foldl (fun state communityId => state.setGeneration communityId 1) state
    pure (.inl (.login call (.fillCache restored.meks)))
  | .fillCache meks => do
    modify fun state => meks.foldl (fun state (communityId, mek) => state.cacheMek communityId mek) state
    pure (.inr ())

/-- What `join_community` puts into the state. -/
def joinedCommunity (call : JoinCall) (joined : Option Joined) : CommunityState :=
  { id := call.communityId
    channels := match joined with
      | some joined => if joined.channels.isEmpty then call.channels else joined.channels
      | none => call.channels
    myPseudonymKey := some (crypto.derivePseudonym call.communityId)
    mekGeneration := joined.elim 0 Joined.mekGeneration
    serverRouteBlob := call.serverRouteBlob
    isHosted := false }

def ClientState.joinDetails (state : ClientState) (communityId : String) : JoinDetails :=
  match state.community? communityId with
  | some community =>
    ⟨community.myPseudonymKey, community.serverRouteBlob, community.mekGeneration, community.channels⟩
  | none => ⟨none, none, 0, []⟩

/-- `send_join_rpc`, up to the cache. -/
def JoinCall.rpcResult (call : JoinCall) : Except String (Option Joined) :=
  match call.serverRouteBlob, call.reply with
  | some _, some (.ok (.joined mekEncrypted mekGeneration channels _ _)) =>
    .ok (some
      { mek := receivedMek mekEncrypted mekGeneration, mekGeneration := mekGeneration
        channels := channels.map ChannelInfoDto.id })
  | some _, some (.error error) => .error ("server rejected join: " ++ error.message)
  | _, _ => .ok none

def joinRows (call : JoinCall) (ownerKey : String) (details : JoinDetails) (db : Database) : Database :=
  let db := db.insertCommunity
    { id := call.communityId
      myPseudonymKey := some (details.myPseudonymKey.getD ownerKey)
      mekGeneration := details.mekGeneration.toInt64
      serverRouteBlob := details.serverRouteBlob
      isHosted := false }
  details.channels.foldl (fun db channelId => db.insertChannel ⟨channelId, call.communityId⟩) db

def joinSection (call : JoinCall) : JoinStage → ClientM (Task ⊕ Unit)
  | .begin => do
    let ownerKey ← currentOwnerKey
    pure (.inl (.join call (.callServer ownerKey)))
  | .callServer ownerKey => do
    let joined ← ofExcept call.rpcResult
    modify fun state => (joined.bind Joined.mek).elim state (state.cacheMek call.communityId)
    pure (.inl (.join call (.insertCommunity ownerKey joined)))
  | .insertCommunity ownerKey joined => do
    modify fun state => state.insertCommunity (joinedCommunity crypto call joined)
    pure (.inl (.join call (.readBack ownerKey joined)))
  | .readBack ownerKey joined => do
    let state ← get
    pure (.inl (.join call (.storeCached ownerKey joined (state.joinDetails call.communityId))))
  | .storeCached ownerKey joined details => do
    modify fun state => (state.mekCache.lookup call.communityId).elim state fun mek =>
      state.storeKey call.communityId (mekPayload mek)
    pure (.inl (.join call (.insertRow ownerKey joined details)))
  | .insertRow ownerKey _ details => do
    modify fun state => state.mapDb (joinRows call ownerKey details)
    pure (.inr ())

def persistSection (communityId : String) (mekEncrypted : List UInt8) (mek : MediaEncryptionKey) :
    PersistStage → ClientM (Task ⊕ Unit)
  | .setGeneration => do
    modify fun state => state.setGeneration communityId mek.generation
    pure (.inl (.persistMek communityId mekEncrypted mek .storeKey))
  | .storeKey => do
    modify fun state => state.storeKey communityId mekEncrypted
    pure (.inl (.persistMek communityId mekEncrypted mek .updateRow))
  | .updateRow => do
    modify fun state =>
      if state.identity.isSome then
        state.mapDb fun db => db.updateGeneration communityId (generationColumn mek.generation)
      else state
    pure (.inr ())

/-- The message that a section of `send_channel_message` seals. -/
def composeMessage (call : SendCall) (destination : Destination) (mek : MediaEncryptionKey) :
    PendingChannelMessage :=
  { communityId := destination.communityId
    channelId := call.channelId
    ciphertext := crypto.encrypt mek call.nonce call.body.toUTF8.toList
    mekGeneration := destination.mekGeneration
    timestamp := call.timestamp }

def sendSection (call : SendCall) : SendStage → ClientM (Task ⊕ Unit)
  | .begin => do
    let ownerKey ← currentOwnerKey
    pure (.inl (.send call (.findChannel ownerKey)))
  | .findChannel ownerKey => do
    let state ← get
    let community ← ofExcept (orThrow
      (state.communities.find? fun community => community.channels.contains call.channelId)
      "channel not found in any community")
    pure (.inl (.send call
      (.readSender ownerKey ⟨community.id, community.mekGeneration, community.serverRouteBlob⟩)))
  | .readSender ownerKey destination => do
    let state ← get
    let pseudonym := (state.community? destination.communityId).bind CommunityState.myPseudonymKey
    pure (.inl (.send call (.encrypt (pseudonym.getD ownerKey) destination)))
  | .encrypt senderKey destination => do
    let state ← get
    let mek ← ofExcept (orThrow (state.mekCache.lookup destination.communityId)
      "MEK not available — rejoin the community or wait for MEK delivery")
    pure (.inl (.send call (.store senderKey destination.serverRouteBlob
      (composeMessage crypto call destination mek))))
  | .store senderKey serverRouteBlob message => do
    let state ← get
    let db ← ofExcept (orThrow
      (state.db.insertMessage
        { conversationId := call.channelId, senderKey := senderKey, body := call.body
          timestamp := call.timestamp, isRead := true, mekGeneration := message.mekGeneration.toInt64 })
      "UNIQUE constraint failed")
    set { state with db := db }
    pure (.inl (.send call (.deliver serverRouteBlob message)))
  | .deliver none message => pure (.inl (.send call (.queue message)))
  | .deliver (some _) message =>
    match call.delivery with
    | .detached => pure (.inr ())
    | .unroutable => pure (.inl (.send call (.queue message)))
    | .failed => do
      modify fun state =>
        { state.updateCommunity message.communityId fun community => { community with serverRouteBlob := none } with
          transmitted := state.transmitted ++ [message] }
      pure (.inl (.send call (.queue message)))
    | .answered reply => do
      modify fun state => { state with transmitted := state.transmitted ++ [message] }
      match reply with
      | some (.error _) => pure (.inl (.send call (.queue message)))
      | _ => pure (.inr ())
  | .queue message => do
    modify fun state => if state.identity.isSome then state.mapDb (·.queueMessage message) else state
    pure (.inr ())

/-- The next section of a task. -/
def Task.advance : Task → ClientM (Task ⊕ Unit)
  | .login call stage => loginSection crypto call stage
  | .join call stage => joinSection crypto call stage
  | .requestMek communityId reply => do
    let state ← get
    if ((state.community? communityId).bind CommunityState.serverRouteBlob).isSome ∧ state.identity.isSome then
      pure (.inl (.receiveMek communityId reply))
    else pure (.inr ())
  | .receiveMek communityId reply =>
    match reply.mek? with
    | some (mekEncrypted, mek) => do
      modify fun state => state.cacheMek communityId mek
      pure (.inl (.persistMek communityId mekEncrypted mek .setGeneration))
    | none => pure (.inr ())
  | .persistMek communityId mekEncrypted mek stage => persistSection communityId mekEncrypted mek stage
  | .send call stage => sendSection crypto call stage

end

end Rekindle.Community
