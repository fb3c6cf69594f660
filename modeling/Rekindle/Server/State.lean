import Mathlib.Data.Finmap
import Rekindle.Library.ByteWords
import Rekindle.Library.Fallible
import Rekindle.Server.Permissions

/-! # Server state

Hosted communities in memory, and the tables of the server's database with the keys and
references that its schema enforces.
-/
namespace Rekindle.Server
set_option autoImplicit false
open Fallible

def i32Max : Nat := 2147483647

def i64Max : Nat := 9223372036854775807

structure MediaEncryptionKey where
  generation : UInt64
  key : List UInt8
  deriving DecidableEq

structure ServerMember where
  pseudonymKeyHex : String
  displayName : String
  roleIds : List UInt32
  joinedAt : Int
  routeBlob : Option (List UInt8)
  timeoutUntil : Option UInt64
  deriving DecidableEq

structure ServerChannel where
  id : String
  name : String
  channelType : String
  sortOrder : Nat
  permissionOverwrites : List PermissionOverwrite
  deriving DecidableEq

structure HostedCommunity where
  communityId : String
  name : String
  description : String
  mek : MediaEncryptionKey
  members : List ServerMember
  channels : List ServerChannel
  roles : List RoleDefinition
  creatorPseudonymHex : String
  deriving DecidableEq

/-! ## Database -/

structure CommunityRow where
  id : String
  name : String
  description : String
  creatorPseudonym : String
  deriving DecidableEq

structure MemberRow where
  communityId : String
  pseudonymKeyHex : String
  displayName : String
  joinedAt : Int
  routeBlob : Option (List UInt8)
  deriving DecidableEq

structure MekRow where
  communityId : String
  generation : Nat
  keyBytes : List UInt8
  createdAt : Int
  deriving DecidableEq

structure ChannelRow where
  communityId : String
  id : String
  name : String
  channelType : String
  sortOrder : Nat
  deriving DecidableEq

structure MessageRow where
  communityId : String
  channelId : String
  senderPseudonym : String
  ciphertext : List UInt8
  mekGeneration : Nat
  timestamp : Int
  deriving DecidableEq

structure BanRow where
  communityId : String
  pseudonymKeyHex : String
  displayName : String
  bannedAt : Int
  deriving DecidableEq

structure RoleRow where
  communityId : String
  role : RoleDefinition
  deriving DecidableEq

structure MemberRoleRow where
  communityId : String
  pseudonymKeyHex : String
  roleId : UInt32
  deriving DecidableEq

structure OverwriteRow where
  communityId : String
  channelId : String
  targetType : String
  targetId : String
  allowBits : Permissions
  denyBits : Permissions
  deriving DecidableEq

structure TimeoutRow where
  communityId : String
  pseudonymKeyHex : String
  timeoutUntil : UInt64
  reason : Option String
  deriving DecidableEq

structure Database where
  hostedCommunities : List CommunityRow
  serverMembers : List MemberRow
  serverMek : List MekRow
  serverChannels : List ChannelRow
  serverMessages : List MessageRow
  bannedMembers : List BanRow
  serverRoles : List RoleRow
  serverMemberRoles : List MemberRoleRow
  serverChannelOverwrites : List OverwriteRow
  serverMemberTimeouts : List TimeoutRow
  deriving DecidableEq

namespace Database

/-! Statements. One that breaks a constraint of the schema has no result. -/

variable (communityId pseudonym : String) (db : Database)

def hasCommunity : Bool := db.hostedCommunities.any (·.id == communityId)

def hasMember : Bool :=
  db.serverMembers.any fun row => row.communityId == communityId && row.pseudonymKeyHex == pseudonym

/-- `INSERT OR IGNORE INTO hosted_communities`. -/
def insertCommunity (row : CommunityRow) : Option Database :=
  if db.hasCommunity row.id then some db
  else some { db with hostedCommunities := db.hostedCommunities ++ [row] }

/-- Deletes the community and, by the cascades, all its rows but the messages. -/
def deleteCommunity : Option Database :=
  some { db with
    hostedCommunities := db.hostedCommunities.filter (·.id != communityId)
    serverMembers := db.serverMembers.filter (·.communityId != communityId)
    serverMek := db.serverMek.filter (·.communityId != communityId)
    serverChannels := db.serverChannels.filter (·.communityId != communityId)
    bannedMembers := db.bannedMembers.filter (·.communityId != communityId)
    serverRoles := db.serverRoles.filter (·.communityId != communityId)
    serverMemberRoles := db.serverMemberRoles.filter (·.communityId != communityId)
    serverChannelOverwrites := db.serverChannelOverwrites.filter (·.communityId != communityId)
    serverMemberTimeouts := db.serverMemberTimeouts.filter (·.communityId != communityId) }

def insertMember (row : MemberRow) : Option Database :=
  if db.hasMember row.communityId row.pseudonymKeyHex then some db
  else if db.hasCommunity row.communityId then
    some { db with serverMembers := db.serverMembers ++ [row] }
  else none

def insertMemberRole (row : MemberRoleRow) : Option Database :=
  if row ∈ db.serverMemberRoles then some db
  else if db.hasMember row.communityId row.pseudonymKeyHex then
    some { db with serverMemberRoles := db.serverMemberRoles ++ [row] }
  else none

/-- Deletes the member and, by the cascades, its roles and timeout. -/
def deleteMember : Option Database :=
  some { db with
    serverMembers := db.serverMembers.filter fun row =>
      !(row.communityId == communityId && row.pseudonymKeyHex == pseudonym)
    serverMemberRoles := db.serverMemberRoles.filter fun row =>
      !(row.communityId == communityId && row.pseudonymKeyHex == pseudonym)
    serverMemberTimeouts := db.serverMemberTimeouts.filter fun row =>
      !(row.communityId == communityId && row.pseudonymKeyHex == pseudonym) }

def updateRouteBlob (routeBlob : List UInt8) : Option Database :=
  some { db with
    serverMembers := db.serverMembers.map fun row =>
      if row.communityId == communityId && row.pseudonymKeyHex == pseudonym then
        { row with routeBlob := some routeBlob }
      else row }

def updateCommunity (update : CommunityRow → CommunityRow) : Option Database :=
  some { db with
    hostedCommunities := db.hostedCommunities.map fun row =>
      if row.id == communityId then update row else row }

def insertMek (row : MekRow) : Option Database :=
  if db.serverMek.any (fun other =>
      other.communityId == row.communityId && other.generation == row.generation) then none
  else if db.hasCommunity row.communityId then
    some { db with serverMek := db.serverMek ++ [row] }
  else none

def insertOrReplaceMek (row : MekRow) : Option Database :=
  if db.hasCommunity row.communityId then
    some { db with
      serverMek := db.serverMek.filter (fun other =>
        !(other.communityId == row.communityId && other.generation == row.generation)) ++ [row] }
  else none

def insertOrReplaceBan (row : BanRow) : Option Database :=
  if db.hasCommunity row.communityId then
    some { db with
      bannedMembers := db.bannedMembers.filter (fun other =>
        !(other.communityId == row.communityId && other.pseudonymKeyHex == row.pseudonymKeyHex)) ++
        [row] }
  else none

def deleteBan : Option Database :=
  some { db with
    bannedMembers := db.bannedMembers.filter fun row =>
      !(row.communityId == communityId && row.pseudonymKeyHex == pseudonym) }

def isBanned : Bool :=
  db.bannedMembers.any fun row =>
    row.communityId == communityId && row.pseudonymKeyHex == pseudonym

def insertRole (row : RoleRow) : Option Database :=
  if db.serverRoles.any (fun other =>
      other.communityId == row.communityId && other.role.id == row.role.id) then none
  else if db.hasCommunity row.communityId then
    some { db with serverRoles := db.serverRoles ++ [row] }
  else none

/-- `INSERT OR IGNORE INTO server_roles`. -/
def insertRoleOrIgnore (row : RoleRow) : Option Database :=
  if db.serverRoles.any (fun other =>
      other.communityId == row.communityId && other.role.id == row.role.id) then some db
  else if db.hasCommunity row.communityId then
    some { db with serverRoles := db.serverRoles ++ [row] }
  else none

def updateRole (role : RoleDefinition) : Option Database :=
  some { db with
    serverRoles := db.serverRoles.map fun row =>
      if row.communityId == communityId && row.role.id == role.id then { row with role := role }
      else row }

def deleteRole (roleId : UInt32) : Option Database :=
  some { db with
    serverRoles := db.serverRoles.filter fun row =>
      !(row.communityId == communityId && row.role.id == roleId) }

def deleteRoleAssignments (roleId : UInt32) : Option Database :=
  some { db with
    serverMemberRoles := db.serverMemberRoles.filter fun row =>
      !(row.communityId == communityId && row.roleId == roleId) }

def deleteMemberRole (roleId : UInt32) : Option Database :=
  some { db with
    serverMemberRoles := db.serverMemberRoles.filter fun row =>
      !(row == ⟨communityId, pseudonym, roleId⟩) }

def hasChannel (channelId : String) : Bool :=
  db.serverChannels.any fun row => row.communityId == communityId && row.id == channelId

def insertChannel (row : ChannelRow) : Option Database :=
  if db.hasChannel row.communityId row.id then none
  else if row.channelType ∈ ["text", "voice"] ∧ db.hasCommunity row.communityId then
    some { db with serverChannels := db.serverChannels ++ [row] }
  else none

/-- Deletes the channel and, by the cascade, its overwrites. -/
def deleteChannel (channelId : String) : Option Database :=
  some { db with
    serverChannels := db.serverChannels.filter fun row =>
      !(row.communityId == communityId && row.id == channelId)
    serverChannelOverwrites := db.serverChannelOverwrites.filter fun row =>
      !(row.communityId == communityId && row.channelId == channelId) }

def updateChannelName (channelId newName : String) : Option Database :=
  some { db with
    serverChannels := db.serverChannels.map fun row =>
      if row.communityId == communityId && row.id == channelId then { row with name := newName }
      else row }

def sameOverwrite (row : OverwriteRow) (channelId targetType targetId : String) : Bool :=
  row.communityId == communityId && row.channelId == channelId && row.targetType == targetType &&
    row.targetId == targetId

def insertOrReplaceOverwrite (row : OverwriteRow) : Option Database :=
  if row.targetType ∈ ["role", "member"] ∧ db.hasChannel row.communityId row.channelId then
    some { db with
      serverChannelOverwrites := db.serverChannelOverwrites.filter (fun other =>
        !sameOverwrite row.communityId other row.channelId row.targetType row.targetId) ++ [row] }
  else none

def deleteOverwrite (channelId targetType targetId : String) : Option Database :=
  some { db with
    serverChannelOverwrites := db.serverChannelOverwrites.filter fun row =>
      !sameOverwrite communityId row channelId targetType targetId }

def insertOrReplaceTimeout (row : TimeoutRow) : Option Database :=
  if db.hasMember row.communityId row.pseudonymKeyHex then
    some { db with
      serverMemberTimeouts := db.serverMemberTimeouts.filter (fun other =>
        !(other.communityId == row.communityId && other.pseudonymKeyHex == row.pseudonymKeyHex)) ++
        [row] }
  else none

def deleteTimeout : Option Database :=
  some { db with
    serverMemberTimeouts := db.serverMemberTimeouts.filter fun row =>
      !(row.communityId == communityId && row.pseudonymKeyHex == pseudonym) }

def insertMessage (row : MessageRow) : Option Database :=
  some { db with serverMessages := db.serverMessages ++ [row] }

end Database

/-! ## Messages to members -/

structure RoleDto where
  id : UInt32
  name : String
  color : UInt32
  permissions : Permissions
  position : Position
  hoist : Bool
  mentionable : Bool
  deriving DecidableEq

structure ChannelInfoDto where
  id : String
  name : String
  channelType : String
  deriving DecidableEq

structure BannedMemberDto where
  pseudonymKey : String
  displayName : String
  bannedAt : UInt64
  deriving DecidableEq

structure ChannelMessageDto where
  senderPseudonym : String
  ciphertext : List UInt8
  mekGeneration : UInt64
  timestamp : UInt64
  deriving DecidableEq

/-- The answer to a request that succeeds. -/
inductive CommunityResponse where
  | ok
  | joined (mekEncrypted : List UInt8) (mekGeneration : UInt64) (channels : List ChannelInfoDto)
      (roleIds : List UInt32) (roles : List RoleDto)
  | messages (messages : List ChannelMessageDto)
  | mek (mekEncrypted : List UInt8) (mekGeneration : UInt64)
  | channelCreated (channelId : String)
  | communityUpdated
  | banList (banned : List BannedMemberDto)
  | roleCreated (roleId : UInt32)
  | rolesList (roles : List RoleDto)
  deriving DecidableEq

/-- A `CommunityResponse::Error`. -/
structure RpcError where
  code : Nat
  message : String
  deriving DecidableEq

inductive CommunityBroadcast where
  | newMessage (communityId channelId senderPseudonym : String) (ciphertext : List UInt8)
      (mekGeneration timestamp : UInt64)
  | mekRotated (communityId : String) (newGeneration : UInt64)
  | memberJoined (communityId pseudonymKey displayName : String) (roleIds : List UInt32)
  | memberRemoved (communityId pseudonymKey : String)
  | rolesChanged (communityId : String) (roles : List RoleDto)
  | memberRolesChanged (communityId pseudonymKey : String) (roleIds : List UInt32)
  | memberTimedOut (communityId pseudonymKey : String) (timeoutUntil : Option UInt64)
  | channelOverwriteChanged (communityId channelId : String)
  deriving DecidableEq

/-! ## State and calls -/

structure ServerState where
  hosted : Finmap fun _ : String => HostedCommunity
  db : Database
  /-- The broadcasts handed to the network so far, each with the route of its member. -/
  sent : List (List UInt8 × CommunityBroadcast)
  /-- Whether each coming database call fails whatever it asks for; past the end none does. -/
  dbFaults : List Bool

abbrev ServerM := EStateM RpcError ServerState

section
variable {ε : Type}

/-- Runs a statement and reports whether it succeeded. -/
def execute (statement : Database → Option Database) : EStateM ε ServerState Bool := do
  let state ← get
  let db := if state.dbFaults.headD false then none else statement state.db
  set { state with dbFaults := state.dbFaults.tail, db := db.getD state.db }
  pure db.isSome

/-- `let _ = db.execute(..)`. -/
def executeIgnoring (statement : Database → Option Database) : EStateM ε ServerState Unit := do
  let _ ← execute statement
  pure ()

/-- Runs a query; no result when the call fails. -/
def query {α : Type} (read : Database → α) : EStateM ε ServerState (Option α) := do
  let state ← get
  set { state with dbFaults := state.dbFaults.tail }
  pure (if state.dbFaults.headD false then none else some (read state.db))

/-- `hosted.get(community_id)`. -/
def lookupCommunity (communityId : String) : EStateM ε ServerState (Option HostedCommunity) := do
  let state ← get
  pure (state.hosted.lookup communityId)

def getCommunity (communityId : String) (missing : ε) : EStateM ε ServerState HostedCommunity := do
  let community ← lookupCommunity communityId
  ofExcept (orThrow community missing)

def setCommunity (communityId : String) (community : HostedCommunity) : EStateM ε ServerState Unit :=
  modify fun state => { state with hosted := state.hosted.insert communityId community }

/-- Sends to every member with a route, `excludePseudonym` excepted. -/
def broadcastToMembers (communityId excludePseudonym : String) (broadcast : CommunityBroadcast) :
    EStateM ε ServerState Unit :=
  modify fun state =>
    let members := (state.hosted.lookup communityId).elim [] HostedCommunity.members
    let routes := (members.filter (·.pseudonymKeyHex != excludePseudonym)).filterMap (·.routeBlob)
    { state with sent := state.sent ++ routes.map (·, broadcast) }

end

/-- What a request reads besides the state: the clock in seconds and fresh random bytes. -/
structure Environment where
  now : UInt64
  mekKey : List UInt8
  /-- Eight random bytes in hexadecimal. -/
  channelSuffix : String

/-- Seconds since the epoch as an `i64`. -/
def Environment.timestampNow (env : Environment) : Int := min env.now.toNat i64Max

end Rekindle.Server
