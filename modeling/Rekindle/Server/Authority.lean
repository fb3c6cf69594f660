import Rekindle.Server.State

/-! # Who may do what

The checks that the request handlers share.
-/
namespace Rekindle.Server
set_option autoImplicit false
open Fallible

def findMember (members : List ServerMember) (pseudonym : String) : Option ServerMember :=
  Keyed.find ServerMember.pseudonymKeyHex pseudonym members

/-- The permissions without channel overwrites; a timeout counts. -/
def memberBasePermissions (now : UInt64) (community : HostedCommunity) (pseudonym : String) :
    Permissions :=
  match findMember community.members pseudonym with
  | none => 0
  | some member =>
    calculatePermissions now member.roleIds community.roles [] pseudonym member.timeoutUntil

/-- The sender is recorded as the creator, who passes every check. -/
def isCreator (community : HostedCommunity) (sender : String) : Bool :=
  community.creatorPseudonymHex != "" && community.creatorPseudonymHex == sender

def checkPermission (now : UInt64) (community : HostedCommunity) (sender : String)
    (required : Permissions) : Except RpcError Unit :=
  if isCreator community sender then .ok ()
  else if hasPermission (memberBasePermissions now community sender) required then .ok ()
  else .error ⟨403, "insufficient permissions"⟩

def rolePositions (roles : List RoleDefinition) (roleIds : List UInt32) : List Position :=
  (roleIds.filterMap (findRole roles)).map RoleDefinition.position

def highestRolePosition (community : HostedCommunity) (pseudonym : String) : Position :=
  match findMember community.members pseudonym with
  | none => Position.none
  | some member => (rolePositions community.roles member.roleIds).max?.getD Position.none

def checkHierarchy (community : HostedCommunity) (sender target : String) : Except RpcError Unit :=
  if isCreator community sender then .ok ()
  else if highestRolePosition community sender > highestRolePosition community target then .ok ()
  else .error ⟨403, "target has equal or higher role position"⟩

def verifyMembership (community : HostedCommunity) (sender : String) : Except RpcError Unit :=
  if community.creatorPseudonymHex == sender then .ok ()
  else if community.members.any (·.pseudonymKeyHex == sender) then .ok ()
  else .error ⟨403, "not a member"⟩

def communityNotFound : RpcError := ⟨404, "community not found"⟩

/-- How most handlers begin: the community, the membership and one permission. -/
def openCommunity (env : Environment) (communityId sender : String) (required : Permissions) :
    ServerM HostedCommunity := do
  let community ← getCommunity communityId communityNotFound
  ofExcept (verifyMembership community sender)
  ofExcept (checkPermission env.now community sender required)
  pure community

/-- The position a role must have below the sender's; an unknown role has the greatest. -/
def rolePosition (community : HostedCommunity) (roleId : UInt32) : Position :=
  (findRole community.roles roleId).elim Position.greatest RoleDefinition.position

def rolesToDto (community : HostedCommunity) : List RoleDto :=
  community.roles.map fun role =>
    { id := role.id, name := role.name, color := role.color, permissions := role.permissions,
      position := role.position, hoist := role.hoist, mentionable := role.mentionable }

def channelsToDto (community : HostedCommunity) : List ChannelInfoDto :=
  community.channels.map fun channel =>
    { id := channel.id, name := channel.name, channelType := channel.channelType }

def mekPayload (mek : MediaEncryptionKey) : List UInt8 :=
  ByteWords.toLeBytes 8 mek.generation.toNat ++ mek.key

theorem mekPayload_drop (mek : MediaEncryptionKey) : (mekPayload mek).drop 8 = mek.key := by
  unfold mekPayload
  rw [List.drop_append_of_le_length (by rw [ByteWords.length_toLeBytes]),
    List.drop_of_length_le (by rw [ByteWords.length_toLeBytes]), List.nil_append]

theorem mekPayload_injective {first second : MediaEncryptionKey}
    (h : mekPayload first = mekPayload second) : first = second := by
  have hKeys : first.key = second.key := by rw [← mekPayload_drop first, h, mekPayload_drop]
  have hWords : ByteWords.toLeBytes 8 first.generation.toNat =
      ByteWords.toLeBytes 8 second.generation.toNat := by
    unfold mekPayload at h
    exact (List.append_inj h (by rw [ByteWords.length_toLeBytes, ByteWords.length_toLeBytes])).1
  have hGenerations : first.generation.toNat = second.generation.toNat := by
    have hSame := congrArg ByteWords.ofLeBytes hWords
    rwa [ByteWords.ofLeBytes_toLeBytes_of_lt first.generation.toNat_lt,
      ByteWords.ofLeBytes_toLeBytes_of_lt second.generation.toNat_lt] at hSame
  cases first
  cases second
  simp only [MediaEncryptionKey.mk.injEq]
  exact ⟨UInt64.toNat_inj.mp hGenerations, hKeys⟩

end Rekindle.Server
