import Rekindle.Client.Demultiplexing
import Rekindle.Client.Reception
import Rekindle.Community.ChannelExchange
import Rekindle.Community.PublishedLists

/-! # The broadcasts of the community servers

What a client has of its communities, in memory, in the keychain and in its tables, and what it makes of an
`app_message`. A broadcast does not say who has sent it.
-/
namespace Rekindle.Community
set_option autoImplicit false
open Client (Handler MessageEnvelope MessagePayload hexEncode saturateI64 verifyEnvelope)
open Protocol (Bytes)
open Server (CommunityBroadcast MediaEncryptionKey Position RoleDto)

/-! ## State -/

/-- A community that the client has joined. -/
structure CommunityMemory where
  channels : List ChannelInfo
  myPseudonymKey : Option String
  myRoleIds : List UInt32
  roles : List RoleDto
  mekGeneration : UInt64
  serverRouteBlob : Option (List UInt8)
  deriving DecidableEq

/-- A row of `communities`. -/
structure StoredCommunity where
  ownerKey : String
  id : String
  myRoleIds : Bytes
  mekGeneration : Int64
  deriving DecidableEq

/-- A row of `community_roles`. -/
structure StoredRole where
  ownerKey : String
  communityId : String
  roleId : UInt32
  name : String
  color : UInt32
  permissions : Int
  position : Position
  hoist : Bool
  mentionable : Bool
  deriving DecidableEq

def StoredCommunity.key (row : StoredCommunity) : String × String := (row.ownerKey, row.id)

def StoredRole.community (row : StoredRole) : String × String := (row.ownerKey, row.communityId)

/-- The row of a role. -/
def StoredRole.ofDto (ownerKey communityId : String) (role : RoleDto) : StoredRole where
  ownerKey := ownerKey
  communityId := communityId
  roleId := role.id
  name := role.name
  color := role.color
  permissions := role.permissions.toInt
  position := role.position
  hoist := role.hoist
  mentionable := role.mentionable

/-- A client with its communities. The messages of their channels are in the table of all messages. -/
structure Replica where
  app : Client.AppState
  communities : Finmap fun _ : String => CommunityMemory
  mekCache : Finmap fun _ : String => MediaEncryptionKey
  /-- Whether the keychain is open. -/
  unlocked : Bool
  vault : Finmap fun _ : String => List UInt8
  communityRows : List StoredCommunity
  channelRows : List StoredChannel
  memberRows : List StoredMember
  roleRows : List StoredRole

/-- What a handler takes from its surroundings. -/
structure Surroundings where
  externals : Client.Externals
  ambient : Client.Ambient
  fromSlice : Bytes → Option CommunityBroadcast
  readEnvelope : Bytes → Option MessageEnvelope
  sealBytes : List UInt8 → List UInt8 → List UInt8 → List UInt8
  openBytes : List UInt8 → List UInt8 → List UInt8 → Option (List UInt8)
  /-- The MEK in the answer to `RequestMEK`, for a community whose server has the route. There is none while the
  node is detached, and none when the route does not import or the call fails. -/
  requestMek : String → List UInt8 → Option (List UInt8 × UInt64)

/-- `UPDATE` of the rows that pass the test. -/
def updateRows {α : Type} (test : α → Bool) (change : α → α) (rows : List α) : List α :=
  rows.map fun row => if test row then change row else row

/-- The rows are inserted one after the other; a second one for a role ends the loop. -/
def insertRoles (ownerKey communityId : String) : List StoredRole → List RoleDto → List StoredRole
  | rows, [] => rows
  | rows, role :: rest =>
    if rows.any fun row => row.community = (ownerKey, communityId) ∧ row.roleId = role.id then rows
    else insertRoles ownerKey communityId (rows ++ [.ofDto ownerKey communityId role]) rest

namespace Replica

variable (env : Surroundings) (s : Replica)

def ownerKey : String := s.app.ownerKey

def community? (communityId : String) : Option CommunityMemory := s.communities.lookup communityId

/-- The pseudonym is the client's own in the community. -/
def IsSelf (communityId pseudonymKey : String) : Prop :=
  (s.community? communityId).bind CommunityMemory.myPseudonymKey = some pseudonymKey

instance (communityId pseudonymKey : String) : Decidable (s.IsSelf communityId pseudonymKey) :=
  inferInstanceAs (Decidable (_ = _))

/-- A change of a community in memory, if it is there. -/
def updateCommunity (communityId : String) (change : CommunityMemory → CommunityMemory) : Replica :=
  { s with
    communities := (s.community? communityId).elim s.communities fun community =>
      s.communities.insert communityId (change community) }

/-! ## Keys -/

def persistMek (communityId : String) (mekGeneration : UInt64) (mekEncrypted : List UInt8) : Replica :=
  let s := s.updateCommunity communityId fun community => { community with mekGeneration }
  { s with
    vault := if s.unlocked then s.vault.insert communityId mekEncrypted else s.vault
    communityRows := updateRows (fun row => row.key = (s.ownerKey, communityId))
      (fun row => { row with mekGeneration := generationColumn mekGeneration }) s.communityRows }

/-- The payload that a fetch brings, and the key in it. -/
def fetched? (communityId : String) : Option (List UInt8 × MediaEncryptionKey) := do
  let community ← s.community? communityId
  let routeBlob ← community.serverRouteBlob
  let _ ← s.app.identitySecret
  let (mekEncrypted, mekGeneration) ← env.requestMek communityId routeBlob
  let mek ← receivedMek mekEncrypted mekGeneration
  pure (mekEncrypted, mek)

def fetchMekFromServer (communityId : String) : Replica :=
  (s.fetched? env communityId).elim s fun (mekEncrypted, mek) =>
    { s with mekCache := s.mekCache.insert communityId mek }.persistMek communityId mek.generation mekEncrypted

def decryptWithCachedMek (communityId : String) (ciphertext : List UInt8) (mekGeneration : UInt64) : MekDecryptResult :=
  let member : Membership :=
    { communityId, myPseudonymKey := "", sealBytes := env.sealBytes, openBytes := env.openBytes }
  member.decryptWithCachedMek (s.mekCache.lookup communityId) ciphertext mekGeneration

/-! ## Handlers -/

/-- The row of a message. -/
def messageRow (channelId senderPseudonym body : String) (timestamp : UInt64) : Client.MessageRow where
  ownerKey := s.ownerKey
  conversationId := channelId
  conversationType := .channel
  senderKey := senderPseudonym
  body := body
  timestamp := timestamp.toInt64.toInt
  isRead := false

def insertMessage (row : Client.MessageRow) : Replica := { s with app := s.app.tryDb (·.insertMessage row) }

def handleBroadcastNewMessage (communityId channelId senderPseudonym : String) (ciphertext : List UInt8)
    (mekGeneration timestamp : UInt64) : Replica :=
  -- Our own messages are stored when they are sent.
  if s.IsSelf communityId senderPseudonym then s
  else
    match s.decryptWithCachedMek env communityId ciphertext mekGeneration with
    | .decrypted body => s.insertMessage (s.messageRow channelId senderPseudonym body timestamp)
    | .failed => s
    | .needRefresh =>
      let s := s.fetchMekFromServer env communityId
      match s.decryptWithCachedMek env communityId ciphertext mekGeneration with
      | .decrypted body => s.insertMessage (s.messageRow channelId senderPseudonym body timestamp)
      | _ => s

/-- `INSERT OR IGNORE`; it fails without the owner. -/
def handleBroadcastMemberJoined (communityId pseudonymKey displayName : String) (roleIds : List UInt32) : Replica :=
  let row : StoredMember :=
    { ownerKey := s.ownerKey, communityId, pseudonymKey, displayName := some displayName
      roleIds := roleIdsText roleIds, timeoutUntil := none, joinedAt := env.ambient.timestampNow }
  if s.ownerKey ∈ s.app.db.identities ∧ Keyed.find StoredMember.key row.key s.memberRows = none then
    { s with memberRows := s.memberRows ++ [row] }
  else s

/-- Of our own removal nothing of the community stays but its members and roles in the tables. The channels go with
the row of the community. -/
def handleBroadcastMemberRemoved (communityId pseudonymKey : String) : Replica :=
  if s.IsSelf communityId pseudonymKey then
    { s with
      mekCache := s.mekCache.erase communityId
      vault := if s.unlocked then s.vault.erase communityId else s.vault
      communities := s.communities.erase communityId
      communityRows := Keyed.remove StoredCommunity.key (s.ownerKey, communityId) s.communityRows
      channelRows := s.channelRows.filter fun row => ¬(row.ownerKey = s.ownerKey ∧ row.communityId = communityId) }
  else
    { s with memberRows := Keyed.remove StoredMember.key (s.ownerKey, communityId, pseudonymKey) s.memberRows }

def handleBroadcastRolesChanged (communityId : String) (roles : List RoleDto) : Replica :=
  let s := s.updateCommunity communityId fun community => { community with roles }
  { s with
    roleRows := insertRoles s.ownerKey communityId
      (Keyed.remove StoredRole.community (s.ownerKey, communityId) s.roleRows) roles }

def handleBroadcastMemberRolesChanged (communityId pseudonymKey : String) (roleIds : List UInt32) : Replica :=
  let isSelf := s.IsSelf communityId pseudonymKey
  let s := if isSelf then s.updateCommunity communityId fun community => { community with myRoleIds := roleIds } else s
  let s := { s with
    memberRows := updateRows (fun row => row.key = (s.ownerKey, communityId, pseudonymKey))
      (fun row => { row with roleIds := roleIdsText roleIds }) s.memberRows }
  if isSelf then
    { s with
      communityRows := updateRows (fun row => row.key = (s.ownerKey, communityId))
        (fun row => { row with myRoleIds := roleIdsText roleIds }) s.communityRows }
  else s

def handleBroadcastMemberTimedOut (communityId pseudonymKey : String) (timeoutUntil : Option UInt64) : Replica :=
  { s with
    memberRows := updateRows (fun row => row.key = (s.ownerKey, communityId, pseudonymKey))
      (fun row => { row with timeoutUntil := timeoutUntil.map fun deadline => deadline.toInt64.toInt }) s.memberRows }

def handleCommunityBroadcast : CommunityBroadcast → Replica
  | .newMessage communityId channelId senderPseudonym ciphertext mekGeneration timestamp =>
    s.handleBroadcastNewMessage env communityId channelId senderPseudonym ciphertext mekGeneration timestamp
  | .mekRotated communityId _ => s.fetchMekFromServer env communityId
  | .memberJoined communityId pseudonymKey displayName roleIds =>
    s.handleBroadcastMemberJoined env communityId pseudonymKey displayName roleIds
  | .memberRemoved communityId pseudonymKey => s.handleBroadcastMemberRemoved communityId pseudonymKey
  | .rolesChanged communityId roles => s.handleBroadcastRolesChanged communityId roles
  | .memberRolesChanged communityId pseudonymKey roleIds =>
    s.handleBroadcastMemberRolesChanged communityId pseudonymKey roleIds
  | .memberTimedOut communityId pseudonymKey timeoutUntil =>
    s.handleBroadcastMemberTimedOut communityId pseudonymKey timeoutUntil
  | .channelOverwriteChanged _ _ => s

/-- An envelope that does not read is dropped. -/
def handleIncomingMessage (raw : Bytes) : Replica :=
  (env.readEnvelope raw).elim s fun envelope =>
    { s with app := Client.handleIncomingMessage env.externals env.ambient envelope s.app }

def handleAppMessage (message : Bytes) : Replica :=
  match Client.handleAppMessage env.fromSlice message with
  | .voice _ => s
  | .communityBroadcast broadcast => s.handleCommunityBroadcast env broadcast
  | .incomingMessage raw => s.handleIncomingMessage env raw

end Replica

end Rekindle.Community
