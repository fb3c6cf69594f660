import Mathlib.Data.List.Sort
import Rekindle.Server.Authority

/-! # Request handlers

Each handler runs as one step on the server's state. An error answer keeps what was done before it.
-/
namespace Rekindle.Server
set_option autoImplicit false
open Fallible

variable (env : Environment) (communityId sender : String)

/-- Saves a fresh key and returns it, whether or not the database took it. -/
def rotateMek {ε : Type} (newGeneration : UInt64) : EStateM ε ServerState MediaEncryptionKey := do
  executeIgnoring fun db => db.insertMek
    { communityId := communityId, generation := min newGeneration.toNat i64Max,
      keyBytes := env.mekKey, createdAt := env.timestampNow }
  pure { generation := newGeneration, key := env.mekKey }

/-! ## Join and rejoin -/

def buildRejoinResponse (community : HostedCommunity) (pseudonym : String) : CommunityResponse :=
  .joined (mekPayload community.mek) community.mek.generation (channelsToDto community)
    ((findMember community.members pseudonym).elim [] ServerMember.roleIds) (rolesToDto community)

/-- Updates the first member entry of the pseudonym. -/
def updateMember (members : List ServerMember) (pseudonym : String)
    (change : ServerMember → ServerMember) : List ServerMember :=
  Keyed.update ServerMember.pseudonymKeyHex pseudonym change members

def handleRejoin (routeBlob : Option (List UInt8)) : ServerM (Option CommunityResponse) := do
  match ← lookupCommunity communityId with
  | none => pure none
  | some community =>
    match findMember community.members sender, routeBlob with
    | none, _ => pure none
    | some _, none => pure (some (buildRejoinResponse community sender))
    | some _, some blob => do
      let community := { community with
        members := updateMember community.members sender fun member =>
          { member with routeBlob := some blob } }
      setCommunity communityId community
      executeIgnoring (Database.updateRouteBlob communityId sender · blob)
      pure (some (buildRejoinResponse community sender))

def defaultRoleIds (isFirstMember : Bool) : List UInt32 :=
  if isFirstMember then [roleEveryoneId, 1, 2, 3, 4] else [roleEveryoneId, 1]

/-- The rows of a new member. Errors are logged only. -/
def insertMemberRows {ε : Type} (displayName : String) (roleIds : List UInt32) :
    EStateM ε ServerState Unit := do
  executeIgnoring fun db => db.insertMember
    { communityId := communityId, pseudonymKeyHex := sender, displayName := displayName,
      joinedAt := env.timestampNow, routeBlob := none }
  roleIds.forM fun roleId => executeIgnoring fun db => db.insertMemberRole
    { communityId := communityId, pseudonymKeyHex := sender, roleId := roleId }

/-- Writes the sender into the community's row when it is the first member. -/
def recordCreator (isFirstMember : Bool) : ServerM Unit :=
  if isFirstMember then
    executeIgnoring (Database.updateCommunity communityId · fun row =>
      { row with creatorPseudonym := sender })
  else pure ()

/-- What `add_new_member` returns. -/
structure JoinResult where
  mekPayload : List UInt8
  mekGeneration : UInt64
  channels : List ChannelInfoDto
  roleIds : List UInt32
  roles : List RoleDto

/-- The second lock section of `add_new_member`: the roster and, for a first member, the creator. -/
def pushMember (isFirstMember : Bool) (displayName : String) (routeBlob : Option (List UInt8)) :
    ServerM (Option JoinResult) := do
  match ← lookupCommunity communityId with
  | none => pure none
  | some community => do
    let roleIds := defaultRoleIds isFirstMember
    let community := { community with
      creatorPseudonymHex := if isFirstMember then sender else community.creatorPseudonymHex
      members := community.members ++ [{
        pseudonymKeyHex := sender, displayName := displayName, roleIds := roleIds
        joinedAt := env.timestampNow, routeBlob := routeBlob, timeoutUntil := none }] }
    recordCreator communityId sender isFirstMember
    setCommunity communityId community
    routeBlob.forM fun blob =>
      executeIgnoring (Database.updateRouteBlob community.communityId sender · blob)
    pure (some
      { mekPayload := mekPayload community.mek, mekGeneration := community.mek.generation
        channels := channelsToDto community, roleIds := roleIds, roles := rolesToDto community })

def addNewMember (displayName : String) (routeBlob : Option (List UInt8)) :
    ServerM (Option JoinResult) := do
  let community ← lookupCommunity communityId
  let isFirstMember := community.any fun community => community.members.isEmpty
  insertMemberRows env communityId sender displayName (defaultRoleIds isFirstMember)
  pushMember env communityId sender isFirstMember displayName routeBlob

def checkNotBanned : ServerM Unit := do
  let isBanned ← query (Database.isBanned communityId sender)
  ofExcept (refuseIf (isBanned = some true) ⟨403, "you are banned from this community"⟩)

def joinAsNewMember (displayName : String) (routeBlob : Option (List UInt8)) :
    ServerM CommunityResponse := do
  let joined ← addNewMember env communityId sender displayName routeBlob
  let joined ← ofExcept (orThrow joined communityNotFound)
  broadcastToMembers communityId sender
    (.memberJoined communityId sender displayName joined.roleIds)
  pure (.joined joined.mekPayload joined.mekGeneration joined.channels joined.roleIds joined.roles)

/-- How the target community of a request is found: named over the local socket, by the private
route the request came in on, or by a scan of the rosters for the sender. -/
structure Routing where
  ipcCommunityId : Option String
  routeCommunityId : Option String
  memberCommunityId : Option String

def Routing.joinTarget (routing : Routing) : Option String :=
  routing.ipcCommunityId <|> routing.routeCommunityId

def resolveCommunityId (routing : Routing) : Option String :=
  routing.ipcCommunityId <|> routing.routeCommunityId <|> routing.memberCommunityId

def handleJoin (routing : Routing) (displayName : String) (routeBlob : Option (List UInt8)) :
    ServerM CommunityResponse := do
  let communityId ← ofExcept
    (orThrow routing.joinTarget ⟨404, "no hosted community matches this route"⟩)
  let community ← lookupCommunity communityId
  ofExcept (refuseIf (routing.ipcCommunityId.isSome ∧ community.isNone) communityNotFound)
  checkNotBanned communityId sender
  match ← handleRejoin communityId sender routeBlob with
  | some response => pure response
  | none => joinAsNewMember env communityId sender displayName routeBlob

/-! ## Messages -/

/-- The check of a handler that goes on when the community is not hosted. -/
def verifyMembershipIfHosted : ServerM Unit := do
  let community ← lookupCommunity communityId
  ofExcept (community.elim (.ok ()) (verifyMembership · sender))

/-- The permissions in a channel; one that does not exist has no overwrites. -/
def channelPermissions (community : HostedCommunity) (member : ServerMember) (channelId : String) :
    Permissions :=
  let channel := community.channels.find? (·.id == channelId)
  calculatePermissions env.now member.roleIds community.roles
    (channel.elim [] ServerChannel.permissionOverwrites) sender member.timeoutUntil

/-- A sender without a roster entry, the creator after leaving, is not checked. -/
def checkMaySend (community : HostedCommunity) (channelId : String) : Except RpcError Unit :=
  match findMember community.members sender with
  | none => .ok ()
  | some member =>
    refuseIf (hasPermission (channelPermissions env sender community member channelId) sendMessages = false)
      ⟨403, "you do not have permission to send messages in this channel"⟩

def checkMekGeneration (community : HostedCommunity) (mekGeneration : UInt64) : Except RpcError Unit :=
  let current := community.mek.generation
  refuseIf (mekGeneration ≠ current)
    ⟨409, s!"MEK generation mismatch: sent {mekGeneration}, current is {current}. Request new MEK."⟩

def handleSendMessage (channelId : String) (ciphertext : List UInt8) (mekGeneration : UInt64) :
    ServerM CommunityResponse := do
  let community ← getCommunity communityId communityNotFound
  ofExcept (verifyMembership community sender)
  ofExcept (checkMaySend env sender community channelId)
  ofExcept (checkMekGeneration community mekGeneration)
  let stored ← execute fun db => db.insertMessage
    { communityId := communityId, channelId := channelId, senderPseudonym := sender,
      ciphertext := ciphertext, mekGeneration := min mekGeneration.toNat i64Max,
      timestamp := env.timestampNow }
  ofExcept (refuseIf (stored = false) ⟨500, "failed to store message"⟩)
  broadcastToMembers communityId sender
    (.newMessage communityId channelId sender ciphertext mekGeneration
      (UInt64.ofNat env.timestampNow.toNat))
  pure .ok

/-- The newest `limit` messages of a channel before a time, newest first. -/
def messagePage (db : Database) (channelId : String) (before : Option Int) (limit : Nat) :
    List MessageRow :=
  let rows := db.serverMessages.filter fun row =>
    row.communityId == communityId && row.channelId == channelId &&
      before.all fun time => row.timestamp < time
  ((rows.insertionSort fun a b => a.timestamp ≤ b.timestamp).reverse).take limit

def messageToDto (row : MessageRow) : ChannelMessageDto :=
  { senderPseudonym := row.senderPseudonym, ciphertext := row.ciphertext
    mekGeneration := UInt64.ofNat row.mekGeneration, timestamp := UInt64.ofNat row.timestamp.toNat }

def handleGetMessages (channelId : String) (beforeTimestamp : Option UInt64) (limit : UInt32) :
    ServerM CommunityResponse := do
  verifyMembershipIfHosted communityId sender
  let before := beforeTimestamp.map fun time => (min time.toNat i64Max : Int)
  let rows ← query (messagePage communityId · channelId before (min limit.toNat 500))
  let rows ← ofExcept (orThrow rows ⟨500, "failed to query messages"⟩)
  pure (.messages (rows.reverse.map messageToDto))

def handleRequestMek : ServerM CommunityResponse := do
  let community ← getCommunity communityId communityNotFound
  ofExcept (verifyMembership community sender)
  pure (.mek (mekPayload community.mek) community.mek.generation)

/-! ## Leave and kick -/

/-- The write section of a departure: the roster and a new key. -/
def removeMember : ServerM Unit := do
  match ← lookupCommunity communityId with
  | none => pure ()
  | some community => do
    let mek ← rotateMek env communityId (community.mek.generation + 1)
    setCommunity communityId { community with
      members := Keyed.remove ServerMember.pseudonymKeyHex sender community.members, mek := mek }

def broadcastDeparture : ServerM Unit := do
  broadcastToMembers communityId sender (.memberRemoved communityId sender)
  let community ← lookupCommunity communityId
  community.forM fun community =>
    broadcastToMembers communityId sender (.mekRotated communityId community.mek.generation)

def handleLeave : ServerM CommunityResponse := do
  verifyMembershipIfHosted communityId sender
  executeIgnoring (Database.deleteMember communityId sender)
  removeMember env communityId sender
  broadcastDeparture communityId sender
  pure .ok

def handleKick (target : String) : ServerM CommunityResponse := do
  let community ← getCommunity communityId ⟨403, "not a member"⟩
  ofExcept (checkPermission env.now community sender kickMembers)
  ofExcept (refuseIf (sender = target) ⟨400, "cannot kick yourself — use Leave instead"⟩)
  ofExcept (checkHierarchy community sender target)
  handleLeave env communityId target

/-! ## Channels -/

def handleCreateChannel (name channelType : String) : ServerM CommunityResponse := do
  let community ← openCommunity env communityId sender manageChannels
  ofExcept (refuseIf (channelType ≠ "text" ∧ channelType ≠ "voice")
    ⟨400, s!"invalid channel type '{channelType}': must be 'text' or 'voice'"⟩)
  let channel : ServerChannel :=
    { id := "channel_" ++ env.channelSuffix, name := name, channelType := channelType
      sortOrder := min community.channels.length i32Max, permissionOverwrites := [] }
  let stored ← execute fun db => db.insertChannel
    { communityId := community.communityId, id := channel.id, name := channel.name
      channelType := channel.channelType, sortOrder := channel.sortOrder }
  ofExcept (refuseIf (stored = false) ⟨500, "failed to create channel"⟩)
  setCommunity communityId { community with channels := community.channels ++ [channel] }
  pure (.channelCreated channel.id)

def handleDeleteChannel (channelId : String) : ServerM CommunityResponse := do
  let community ← openCommunity env communityId sender manageChannels
  setCommunity communityId { community with
    channels := Keyed.remove ServerChannel.id channelId community.channels }
  executeIgnoring (Database.deleteChannel community.communityId · channelId)
  pure .ok

def handleRenameChannel (channelId newName : String) : ServerM CommunityResponse := do
  let community ← openCommunity env communityId sender manageChannels
  ofExcept (refuseIf (Keyed.find ServerChannel.id channelId community.channels = none)
    ⟨404, "channel not found"⟩)
  setCommunity communityId { community with
    channels := Keyed.update ServerChannel.id channelId (fun channel => { channel with name := newName })
      community.channels }
  executeIgnoring (Database.updateChannelName community.communityId · channelId newName)
  pure .ok

/-! ## Key rotation and metadata -/

def handleRotateMek : ServerM CommunityResponse := do
  let community ← openCommunity env communityId sender manageCommunity
  let mek ← rotateMek env communityId (community.mek.generation + 1)
  setCommunity communityId { community with mek := mek }
  broadcastToMembers communityId "" (.mekRotated communityId mek.generation)
  pure .ok

def handleUpdateCommunity (newName newDescription : Option String) : ServerM CommunityResponse := do
  let community ← openCommunity env communityId sender manageCommunity
  setCommunity communityId { community with
    name := newName.getD community.name, description := newDescription.getD community.description }
  newName.forM fun name =>
    executeIgnoring (Database.updateCommunity communityId · fun row => { row with name := name })
  newDescription.forM fun description =>
    executeIgnoring (Database.updateCommunity communityId · fun row =>
      { row with description := description })
  pure .communityUpdated

/-! ## Bans -/

def handleBan (target : String) : ServerM CommunityResponse := do
  let community ← openCommunity env communityId sender banMembers
  ofExcept (refuseIf (sender = target) ⟨400, "cannot ban yourself"⟩)
  ofExcept (checkHierarchy community sender target)
  executeIgnoring fun db => db.insertOrReplaceBan
    { communityId := communityId, pseudonymKeyHex := target
      displayName := (findMember community.members target).elim "" ServerMember.displayName
      bannedAt := env.timestampNow }
  handleLeave env communityId target

def handleUnban (target : String) : ServerM CommunityResponse := do
  let community ← openCommunity env communityId sender banMembers
  executeIgnoring (Database.deleteBan community.communityId target)
  pure .ok

def banToDto (row : BanRow) : BannedMemberDto :=
  { pseudonymKey := row.pseudonymKeyHex, displayName := row.displayName
    bannedAt := UInt64.ofNat row.bannedAt.toNat }

/-- The bans of a community, newest first. -/
def banRows (db : Database) : List BanRow :=
  (db.bannedMembers.filter (·.communityId == communityId)).insertionSort fun a b =>
    a.bannedAt ≥ b.bannedAt

def handleGetBanList : ServerM CommunityResponse := do
  let community ← openCommunity env communityId sender banMembers
  let rows ← query (banRows community.communityId)
  pure (.banList ((rows.getD []).map banToDto))

/-! ## Roles -/

/-- One above the greatest id, wrapping. -/
def nextRoleId (roles : List RoleDefinition) : UInt32 :=
  UInt32.ofNat (((roles.map fun role => role.id.toNat).max?.getD 0) + 1)

/-- One below the sender's highest, and at least 1. -/
def newRolePosition (community : HostedCommunity) : Position :=
  max (highestRolePosition community sender).pred Position.one

def handleCreateRole (name : String) (color : UInt32) (permissions : Permissions)
    (hoist mentionable : Bool) : ServerM CommunityResponse := do
  let community ← openCommunity env communityId sender manageRoles
  let role : RoleDefinition :=
    { id := nextRoleId community.roles, name := name, color := color, permissions := permissions
      position := newRolePosition sender community, hoist := hoist, mentionable := mentionable }
  let stored ← execute fun db => db.insertRole ⟨community.communityId, role⟩
  ofExcept (refuseIf (stored = false) ⟨500, "failed to create role"⟩)
  setCommunity communityId { community with roles := community.roles ++ [role] }
  pure (.roleCreated role.id)

/-- The fields of an EditRole request that replace those of the role. -/
structure RoleEdit where
  name : Option String
  color : Option UInt32
  permissions : Option Permissions
  position : Option Position
  hoist : Option Bool
  mentionable : Option Bool

def RoleEdit.apply (edit : RoleEdit) (role : RoleDefinition) : RoleDefinition :=
  { id := role.id
    name := edit.name.getD role.name
    color := edit.color.getD role.color
    permissions := edit.permissions.getD role.permissions
    position := edit.position.getD role.position
    hoist := edit.hoist.getD role.hoist
    mentionable := edit.mentionable.getD role.mentionable }

def handleEditRole (roleId : UInt32) (edit : RoleEdit) : ServerM CommunityResponse := do
  let community ← openCommunity env communityId sender manageRoles
  let senderIsAdmin := isAdministrator (memberBasePermissions env.now community sender)
  let role ← ofExcept (orThrow (findRole community.roles roleId) ⟨404, "role not found"⟩)
  ofExcept (refuseIf (role.position ≥ highestRolePosition community sender ∧ senderIsAdmin = false)
    ⟨403, "cannot edit a role at or above your position"⟩)
  setCommunity communityId { community with
    roles := Keyed.update RoleDefinition.id roleId edit.apply community.roles }
  executeIgnoring (Database.updateRole community.communityId · (edit.apply role))
  pure .ok

def dropRole (roleId : UInt32) (member : ServerMember) : ServerMember :=
  { member with roleIds := member.roleIds.filter (· != roleId) }

def handleDeleteRole (roleId : UInt32) : ServerM CommunityResponse := do
  ofExcept (refuseIf (roleId = roleEveryoneId) ⟨400, "cannot delete the @everyone role"⟩)
  let community ← openCommunity env communityId sender manageRoles
  ofExcept (refuseIf (rolePosition community roleId ≥ highestRolePosition community sender)
    ⟨403, "cannot delete a role at or above your position"⟩)
  setCommunity communityId { community with
    roles := Keyed.remove RoleDefinition.id roleId community.roles
    members := community.members.map (dropRole roleId) }
  executeIgnoring (Database.deleteRole community.communityId · roleId)
  executeIgnoring (Database.deleteRoleAssignments community.communityId · roleId)
  pure .ok

def targetNotFound : RpcError := ⟨404, "target member not found"⟩

def handleAssignRole (target : String) (roleId : UInt32) : ServerM CommunityResponse := do
  let community ← openCommunity env communityId sender manageRoles
  ofExcept (checkHierarchy community sender target)
  ofExcept (refuseIf (rolePosition community roleId ≥ highestRolePosition community sender)
    ⟨403, "cannot assign a role at or above your position"⟩)
  let member ← ofExcept (orThrow (findMember community.members target) targetNotFound)
  if roleId ∉ member.roleIds then
    setCommunity communityId { community with
      members := updateMember community.members target fun member =>
        { member with roleIds := member.roleIds ++ [roleId] } }
    executeIgnoring fun db => db.insertMemberRole
      { communityId := community.communityId, pseudonymKeyHex := target, roleId := roleId }
  pure .ok

def handleUnassignRole (target : String) (roleId : UInt32) : ServerM CommunityResponse := do
  ofExcept (refuseIf (roleId = roleEveryoneId) ⟨400, "cannot remove the @everyone role"⟩)
  let community ← openCommunity env communityId sender manageRoles
  ofExcept (checkHierarchy community sender target)
  ofExcept (refuseIf (findMember community.members target = none) targetNotFound)
  setCommunity communityId { community with
    members := updateMember community.members target (dropRole roleId) }
  executeIgnoring (Database.deleteMemberRole community.communityId target · roleId)
  pure .ok

def handleGetRoles : ServerM CommunityResponse := do
  let community ← getCommunity communityId communityNotFound
  ofExcept (verifyMembership community sender)
  pure (.rolesList (rolesToDto community))

/-! ## Channel overwrites -/

def overwriteType (targetType : String) : OverwriteType :=
  if targetType = "member" then .member else .role

/-- Replaces the bits of the overwrite for the target, or adds one. -/
def upsertOverwrite (overwrite : PermissionOverwrite) :
    List PermissionOverwrite → List PermissionOverwrite
  | [] => [overwrite]
  | existing :: rest =>
    if existing.targetType = overwrite.targetType ∧ existing.targetId = overwrite.targetId then
      overwrite :: rest
    else existing :: upsertOverwrite overwrite rest

def handleSetChannelOverwrite (channelId targetType targetId : String) (allow deny : Permissions) :
    ServerM CommunityResponse := do
  let community ← openCommunity env communityId sender manageRoles
  ofExcept (refuseIf (Keyed.find ServerChannel.id channelId community.channels = none)
    ⟨404, "channel not found"⟩)
  let overwrite : PermissionOverwrite :=
    { targetType := overwriteType targetType, targetId := targetId, allow := allow, deny := deny }
  setCommunity communityId { community with
    channels := Keyed.update ServerChannel.id channelId (fun channel => { channel with
      permissionOverwrites := upsertOverwrite overwrite channel.permissionOverwrites })
      community.channels }
  executeIgnoring fun db => db.insertOrReplaceOverwrite
    { communityId := community.communityId, channelId := channelId, targetType := targetType
      targetId := targetId, allowBits := allow, denyBits := deny }
  broadcastToMembers communityId "" (.channelOverwriteChanged communityId channelId)
  pure .ok

def handleDeleteChannelOverwrite (channelId targetType targetId : String) :
    ServerM CommunityResponse := do
  let community ← openCommunity env communityId sender manageRoles
  setCommunity communityId { community with
    channels := Keyed.update ServerChannel.id channelId (fun channel => { channel with
      permissionOverwrites := channel.permissionOverwrites.filter fun overwrite =>
        !(overwrite.targetType == overwriteType targetType && overwrite.targetId == targetId) })
      community.channels }
  executeIgnoring (Database.deleteOverwrite community.communityId · channelId targetType targetId)
  pure .ok

/-! ## Timeouts -/

def setTimeout (deadline : Option UInt64) (member : ServerMember) : ServerMember :=
  { member with timeoutUntil := deadline }

def handleTimeoutMember (target : String) (durationSeconds : UInt64) (reason : Option String) :
    ServerM CommunityResponse := do
  let community ← openCommunity env communityId sender moderateMembers
  ofExcept (checkHierarchy community sender target)
  let deadline := env.now + durationSeconds
  ofExcept (refuseIf (findMember community.members target = none) targetNotFound)
  setCommunity communityId { community with
    members := updateMember community.members target (setTimeout (some deadline)) }
  executeIgnoring fun db => db.insertOrReplaceTimeout
    { communityId := community.communityId, pseudonymKeyHex := target, timeoutUntil := deadline
      reason := reason }
  broadcastToMembers communityId "" (.memberTimedOut communityId target (some deadline))
  pure .ok

/-- No hierarchy check, and no error for a missing target. -/
def handleRemoveTimeout (target : String) : ServerM CommunityResponse := do
  let community ← openCommunity env communityId sender moderateMembers
  setCommunity communityId { community with
    members := updateMember community.members target (setTimeout none) }
  executeIgnoring (Database.deleteTimeout community.communityId target)
  broadcastToMembers communityId "" (.memberTimedOut communityId target none)
  pure .ok

end Rekindle.Server
