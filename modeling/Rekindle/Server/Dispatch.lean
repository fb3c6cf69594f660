import Rekindle.Server.Handlers

/-! # Dispatch of community requests -/
namespace Rekindle.Server
set_option autoImplicit false
open Fallible

/-- The requests to a community that the sender is already in. -/
inductive MemberRequest where
  | sendMessage (channelId : String) (ciphertext : List UInt8) (mekGeneration : UInt64)
  | getMessages (channelId : String) (beforeTimestamp : Option UInt64) (limit : UInt32)
  | requestMek
  | leave
  | kick (targetPseudonym : String)
  | createChannel (name channelType : String)
  | deleteChannel (channelId : String)
  | rotateMek
  | renameChannel (channelId newName : String)
  | updateCommunity (name description : Option String)
  | ban (targetPseudonym : String)
  | unban (targetPseudonym : String)
  | getBanList
  | createRole (name : String) (color : UInt32) (permissions : Permissions) (hoist mentionable : Bool)
  | editRole (roleId : UInt32) (edit : RoleEdit)
  | deleteRole (roleId : UInt32)
  | assignRole (targetPseudonym : String) (roleId : UInt32)
  | unassignRole (targetPseudonym : String) (roleId : UInt32)
  | setChannelOverwrite (channelId targetType targetId : String) (allow deny : Permissions)
  | deleteChannelOverwrite (channelId targetType targetId : String)
  | timeoutMember (targetPseudonym : String) (durationSeconds : UInt64) (reason : Option String)
  | removeTimeout (targetPseudonym : String)
  | getRoles

inductive CommunityRequest where
  | join (pseudonymPubkey displayName : String) (routeBlob : Option (List UInt8))
  | member (request : MemberRequest)

def broadcastRolesChanged (communityId : String) : ServerM Unit := do
  let community ← lookupCommunity communityId
  community.forM fun community =>
    broadcastToMembers communityId "" (.rolesChanged communityId (rolesToDto community))

def broadcastMemberRolesChanged (communityId target : String) : ServerM Unit := do
  let community ← lookupCommunity communityId
  community.forM fun community =>
    broadcastToMembers communityId "" (.memberRolesChanged communityId target
      ((findMember community.members target).elim [] ServerMember.roleIds))

/-- Runs a handler and, when it succeeds, a broadcast. -/
def thenBroadcast (handler : ServerM CommunityResponse) (broadcast : ServerM Unit) :
    ServerM CommunityResponse := do
  let response ← handler
  broadcast
  pure response

variable (env : Environment) (sender : String)

/-- The handler of a request to a community whose id is known. -/
def handleRequest (communityId : String) : MemberRequest → ServerM CommunityResponse
  | .sendMessage channelId ciphertext mekGeneration =>
    handleSendMessage env communityId sender channelId ciphertext mekGeneration
  | .getMessages channelId beforeTimestamp limit =>
    handleGetMessages communityId sender channelId beforeTimestamp limit
  | .requestMek => handleRequestMek communityId sender
  | .leave => handleLeave env communityId sender
  | .kick target => handleKick env communityId sender target
  | .createChannel name channelType => handleCreateChannel env communityId sender name channelType
  | .deleteChannel channelId => handleDeleteChannel env communityId sender channelId
  | .rotateMek => handleRotateMek env communityId sender
  | .renameChannel channelId newName => handleRenameChannel env communityId sender channelId newName
  | .updateCommunity name description =>
    handleUpdateCommunity env communityId sender name description
  | .ban target => handleBan env communityId sender target
  | .unban target => handleUnban env communityId sender target
  | .getBanList => handleGetBanList env communityId sender
  | .createRole name color permissions hoist mentionable =>
    thenBroadcast
      (handleCreateRole env communityId sender name color permissions hoist mentionable)
      (broadcastRolesChanged communityId)
  | .editRole roleId edit =>
    thenBroadcast (handleEditRole env communityId sender roleId edit)
      (broadcastRolesChanged communityId)
  | .deleteRole roleId =>
    thenBroadcast (handleDeleteRole env communityId sender roleId)
      (broadcastRolesChanged communityId)
  | .assignRole target roleId =>
    thenBroadcast (handleAssignRole env communityId sender target roleId)
      (broadcastMemberRolesChanged communityId target)
  | .unassignRole target roleId =>
    thenBroadcast (handleUnassignRole env communityId sender target roleId)
      (broadcastMemberRolesChanged communityId target)
  | .setChannelOverwrite channelId targetType targetId allow deny =>
    handleSetChannelOverwrite env communityId sender channelId targetType targetId allow deny
  | .deleteChannelOverwrite channelId targetType targetId =>
    handleDeleteChannelOverwrite env communityId sender channelId targetType targetId
  | .timeoutMember target durationSeconds reason =>
    handleTimeoutMember env communityId sender target durationSeconds reason
  | .removeTimeout target => handleRemoveTimeout env communityId sender target
  | .getRoles => handleGetRoles communityId sender

def handleJoinRequest (routing : Routing) (pseudonymPubkey displayName : String)
    (routeBlob : Option (List UInt8)) : ServerM CommunityResponse := do
  ofExcept (refuseIf (pseudonymPubkey ≠ sender)
    ⟨403, "pseudonym mismatch: claimed key does not match envelope signature"⟩)
  handleJoin env sender routing displayName routeBlob

/-- A join finds its community in its own way. -/
def dispatchRequest (routing : Routing) : CommunityRequest → ServerM CommunityResponse
  | .join pseudonymPubkey displayName routeBlob =>
    handleJoinRequest env sender routing pseudonymPubkey displayName routeBlob
  | .member request => do
    let communityId ← ofExcept
      (orThrow (resolveCommunityId routing) ⟨403, "not a member of any hosted community"⟩)
    handleRequest env sender communityId request

/-- One request as the server sees it: the moment, the verified sender, and the target found. -/
structure IncomingRequest where
  env : Environment
  sender : String
  routing : Routing
  request : CommunityRequest

/-- The community that a request is for. -/
def IncomingRequest.target (incoming : IncomingRequest) : Option String :=
  match incoming.request with
  | .join _ _ _ => incoming.routing.joinTarget
  | .member _ => resolveCommunityId incoming.routing

/-- The state after a request has been answered. -/
def serve (state : ServerState) (incoming : IncomingRequest) : ServerState :=
  Result.state <|
    (dispatchRequest incoming.env incoming.sender incoming.routing incoming.request).run state

end Rekindle.Server
