import Rekindle.Client.Envelope
import Rekindle.Library.Keyed

/-! # Client state

What the client holds in memory and in its database. Rows belong to an owner, the public key of a
local identity; a statement that violates a key or a reference changes nothing.
-/
namespace Rekindle.Client
set_option autoImplicit false

open ByteWords Signal

inductive FriendshipState where
  | pendingOut
  | accepted
  | removing
  deriving DecidableEq

structure FriendState where
  publicKey : String
  displayName : String
  unreadCount : UInt32
  dhtRecordKey : Option String
  mailboxDhtKey : Option String
  friendshipState : FriendshipState
  deriving DecidableEq

/-! ## Database -/

structure FriendRow where
  ownerKey : String
  publicKey : String
  displayName : String
  addedAt : Int
  dhtRecordKey : Option String
  mailboxDhtKey : Option String
  friendshipState : FriendshipState
  deriving DecidableEq

inductive ConversationType where
  | dm
  | channel
  deriving DecidableEq

structure MessageRow where
  ownerKey : String
  conversationId : String
  conversationType : ConversationType
  senderKey : String
  body : String
  timestamp : Int
  isRead : Bool
  deriving DecidableEq

structure PendingRequestRow where
  ownerKey : String
  publicKey : String
  displayName : String
  message : String
  receivedAt : Int
  profileDhtKey : Option String
  routeBlob : Option Bytes
  mailboxDhtKey : Option String
  prekeyBundle : Option Bytes
  deriving DecidableEq

structure PendingMessageRow where
  ownerKey : String
  recipientKey : String
  body : MessageEnvelope
  createdAt : Int
  retryCount : Nat
  deriving DecidableEq

structure BlockedRow where
  ownerKey : String
  publicKey : String
  displayName : String
  blockedAt : Int
  deriving DecidableEq

def FriendRow.key (row : FriendRow) : String × String := (row.ownerKey, row.publicKey)

/-- The columns of `idx_messages_dedup`. -/
def MessageRow.key (row : MessageRow) : String × String × ConversationType × String × Int :=
  (row.ownerKey, row.conversationId, row.conversationType, row.senderKey, row.timestamp)

def PendingRequestRow.key (row : PendingRequestRow) : String × String := (row.ownerKey, row.publicKey)

def BlockedRow.key (row : BlockedRow) : String × String := (row.ownerKey, row.publicKey)

structure Database where
  /-- The public keys in the `identity` table, which every owner key references. -/
  identities : List String
  friends : List FriendRow
  messages : List MessageRow
  pendingFriendRequests : List PendingRequestRow
  pendingMessages : List PendingMessageRow
  blockedUsers : List BlockedRow
  deriving DecidableEq

namespace Database

variable (db : Database)

def insertFriend (row : FriendRow) : Option Database :=
  if row.ownerKey ∈ db.identities ∧ Keyed.find FriendRow.key row.key db.friends = none then
    some { db with friends := db.friends ++ [row] }
  else none

/-- `INSERT OR IGNORE`. -/
def insertOrIgnoreFriend (row : FriendRow) : Option Database :=
  if row.ownerKey ∉ db.identities then none
  else if Keyed.find FriendRow.key row.key db.friends = none then
    some { db with friends := db.friends ++ [row] }
  else some db

def updateFriend (key : String × String) (change : FriendRow → FriendRow) : Database :=
  { db with friends := Keyed.update FriendRow.key key change db.friends }

def deleteFriend (key : String × String) : Database :=
  { db with friends := Keyed.remove FriendRow.key key db.friends }

def insertMessage (row : MessageRow) : Option Database :=
  if row.ownerKey ∈ db.identities ∧ Keyed.find MessageRow.key row.key db.messages = none then
    some { db with messages := db.messages ++ [row] }
  else none

/-- `INSERT OR REPLACE`. -/
def replacePendingRequest (row : PendingRequestRow) : Option Database :=
  if row.ownerKey ∈ db.identities then
    some { db with
      pendingFriendRequests := Keyed.insert PendingRequestRow.key row db.pendingFriendRequests }
  else none

def deletePendingRequest (key : String × String) : Database :=
  { db with
    pendingFriendRequests := Keyed.remove PendingRequestRow.key key db.pendingFriendRequests }

def insertPendingMessage (row : PendingMessageRow) : Option Database :=
  if row.ownerKey ∈ db.identities then
    some { db with pendingMessages := db.pendingMessages ++ [row] }
  else none

def deletePendingMessages (ownerKey recipientKey : String) : Database :=
  { db with
    pendingMessages := db.pendingMessages.filter fun row =>
      ¬ (row.ownerKey = ownerKey ∧ row.recipientKey = recipientKey) }

/-- `INSERT OR REPLACE`. -/
def replaceBlocked (row : BlockedRow) : Option Database :=
  if row.ownerKey ∈ db.identities then
    some { db with blockedUsers := Keyed.insert BlockedRow.key row db.blockedUsers }
  else none

def deleteBlocked (key : String × String) : Database :=
  { db with blockedUsers := Keyed.remove BlockedRow.key key db.blockedUsers }

def isUserBlocked (ownerKey publicKey : String) : Bool :=
  (Keyed.find BlockedRow.key (ownerKey, publicKey) db.blockedUsers).isSome

end Database

/-! ## Memory -/

structure IdentityState where
  publicKey : String
  displayName : String
  deriving DecidableEq

structure NodeHandle where
  profileDhtKey : Option String
  mailboxDhtKey : Option String
  routeBlob : Option Bytes
  deriving DecidableEq

/-- The part of the DHT manager that presence events are resolved with. -/
structure DhtManagerHandle where
  dhtKeyToFriend : Finmap fun _ : String => String
  deriving DecidableEq

structure AppState where
  identity : Option IdentityState
  identitySecret : Option Key
  signalManager : Option MemoryStores
  friends : List FriendState
  node : Option NodeHandle
  dhtManager : Option DhtManagerHandle
  /-- Peers whose removal has its grace period running. -/
  removals : List String
  db : Database
  /-- Envelopes handed to the transport, oldest first, with their recipients. -/
  transmitted : List (String × MessageEnvelope)
  deriving DecidableEq

/-- What a step takes from its surroundings: the clock, the random source, the network. -/
structure Ambient where
  now : UInt64
  nonce : String → Window UInt8 16
  /-- The nonce of the queued copy of an `Unfriended`. -/
  queuedNonce : Window UInt8 16
  ephemeral : Key
  signedPrekey : Key
  otpk : Key
  /-- The transport takes an envelope for the peer, with the cached route or a fresh one. -/
  reaches : String → Bool
  /-- The key of the profile record that a rotation creates. -/
  newProfileDhtKey : Option String

def i64Max : Nat := 9223372036854775807

/-- `try_into().unwrap_or(i64::MAX)`. -/
def saturateI64 (n : UInt64) : Int := min n.toNat i64Max

def Ambient.timestampNow (ambient : Ambient) : Int := saturateI64 ambient.now

namespace AppState

variable (state : AppState)

/-- `public_key` of the identity, `unwrap_or_default`. -/
def ownerKey : String := state.identity.elim "" (·.publicKey)

def friend? (publicKey : String) : Option FriendState :=
  Keyed.find FriendState.publicKey publicKey state.friends

def friendshipState? (publicKey : String) : Option FriendshipState :=
  (state.friend? publicKey).map (·.friendshipState)

def insertFriend (friend : FriendState) : AppState :=
  { state with friends := Keyed.insert FriendState.publicKey friend state.friends }

def updateFriend (publicKey : String) (change : FriendState → FriendState) : AppState :=
  { state with friends := Keyed.update FriendState.publicKey publicKey change state.friends }

def removeFriend (publicKey : String) : AppState :=
  { state with friends := Keyed.remove FriendState.publicKey publicKey state.friends }

def mapDb (change : Database → Database) : AppState := { state with db := change state.db }

/-- A statement whose failure is only logged. -/
def tryDb (statement : Database → Option Database) : AppState :=
  state.mapDb fun db => (statement db).getD db

def registerFriendDhtKey (dhtKey friendKey : String) : AppState :=
  { state with dhtManager := state.dhtManager.map fun manager =>
      { manager with dhtKeyToFriend := manager.dhtKeyToFriend.insert dhtKey friendKey } }

/-- Nothing happens without a key. -/
def unregisterFriendDhtKey (dhtKey : Option String) : AppState :=
  { state with dhtManager := state.dhtManager.map fun manager =>
      { manager with dhtKeyToFriend := dhtKey.elim manager.dhtKeyToFriend manager.dhtKeyToFriend.erase } }

/-- `watch_friend` up to the network: the key is registered and set on the friend. -/
def watchFriend (friendKey dhtRecordKey : String) : AppState :=
  (state.registerFriendDhtKey dhtRecordKey friendKey).updateFriend friendKey fun friend =>
    { friend with dhtRecordKey := some dhtRecordKey }

def setStores (stores : MemoryStores) : AppState := { state with signalManager := some stores }

def transmit (peer : String) (envelope : MessageEnvelope) : AppState :=
  { state with transmitted := state.transmitted ++ [(peer, envelope)] }

/-- A call on the manager: `none` without a manager or when the call fails. The stores keep what
the call did to them either way. -/
def callManager {α : Type} (call : StoreM MemoryStores α) : Option α × AppState :=
  match state.signalManager with
  | none => (none, state)
  | some stores =>
    match call.run stores with
    | .ok a stores' => (some a, state.setStores stores')
    | .error _ stores' => (none, state.setStores stores')

end AppState
end Rekindle.Client
