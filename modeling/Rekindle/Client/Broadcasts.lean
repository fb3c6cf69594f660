import Rekindle.Protocol.CapnpRoundTrips
import Rekindle.Server.Publication

/-! # Community broadcasts as JSON

The JSON of a broadcast has its name under `type` and its fields under `data`.
-/
namespace Rekindle.Client
set_option autoImplicit false

open CapnpCodec Fallible Json
open Protocol (Bytes)
open Server (CommunityBroadcast Permissions Position RoleDto intValue)

def roleValue (role : RoleDto) : Value := objectValue [
  ("id", wordValue role.id), ("name", textValue role.name), ("color", wordValue role.color),
  ("permissions", .number role.permissions.toNat), ("position", intValue role.position.val),
  ("hoist", .bool role.hoist), ("mentionable", .bool role.mentionable)]

def broadcastName : CommunityBroadcast → String
  | .newMessage .. => "NewMessage"
  | .mekRotated .. => "MEKRotated"
  | .memberJoined .. => "MemberJoined"
  | .memberRemoved .. => "MemberRemoved"
  | .rolesChanged .. => "RolesChanged"
  | .memberRolesChanged .. => "MemberRolesChanged"
  | .memberTimedOut .. => "MemberTimedOut"
  | .channelOverwriteChanged .. => "ChannelOverwriteChanged"

def broadcastData : CommunityBroadcast → List (String × Value)
  | .newMessage communityId channelId senderPseudonym ciphertext mekGeneration timestamp =>
    [("community_id", textValue communityId), ("channel_id", textValue channelId),
     ("sender_pseudonym", textValue senderPseudonym), ("ciphertext", bytesValue ciphertext),
     ("mek_generation", timeValue mekGeneration), ("timestamp", timeValue timestamp)]
  | .mekRotated communityId newGeneration =>
    [("community_id", textValue communityId), ("new_generation", timeValue newGeneration)]
  | .memberJoined communityId pseudonymKey displayName roleIds =>
    [("community_id", textValue communityId), ("pseudonym_key", textValue pseudonymKey),
     ("display_name", textValue displayName), ("role_ids", .array (roleIds.map wordValue))]
  | .memberRemoved communityId pseudonymKey =>
    [("community_id", textValue communityId), ("pseudonym_key", textValue pseudonymKey)]
  | .rolesChanged communityId roles =>
    [("community_id", textValue communityId), ("roles", .array (roles.map roleValue))]
  | .memberRolesChanged communityId pseudonymKey roleIds =>
    [("community_id", textValue communityId), ("pseudonym_key", textValue pseudonymKey),
     ("role_ids", .array (roleIds.map wordValue))]
  | .memberTimedOut communityId pseudonymKey timeoutUntil =>
    [("community_id", textValue communityId), ("pseudonym_key", textValue pseudonymKey),
     ("timeout_until", optionValue timeValue timeoutUntil)]
  | .channelOverwriteChanged communityId channelId =>
    [("community_id", textValue communityId), ("channel_id", textValue channelId)]

def broadcastValue (broadcast : CommunityBroadcast) : Value := objectValue [
  ("type", textValue (broadcastName broadcast)), ("data", objectValue (broadcastData broadcast))]

/-- `serde_json::to_vec`. -/
def broadcastToVec (broadcast : CommunityBroadcast) : Bytes := write (broadcastValue broadcast)

theorem broadcastToVec_head (broadcast : CommunityBroadcast) : (broadcastToVec broadcast).head? = some 123 := rfl

namespace Reference

/-! ## A reader -/

def permissionsOf : Value → Option Permissions
  | .number n => if n < 18446744073709551616 then some (BitVec.ofNat 64 n) else none
  | _ => none

def positionOf : Value → Option Position
  | .number n => if h : n < 2147483648 then some ⟨n, by omega⟩ else none
  | .negative n => if h : n < 2147483648 then some ⟨Int.negSucc n, by omega⟩ else none
  | _ => none

def roleOf : Value → Option RoleDto
  | .object fields => do
    pure {
      id := ← field fields "id" wordOf
      name := ← field fields "name" textOf
      color := ← field fields "color" wordOf
      permissions := ← field fields "permissions" permissionsOf
      position := ← field fields "position" positionOf
      hoist := ← field fields "hoist" boolOf
      mentionable := ← field fields "mentionable" boolOf }
  | _ => none

def rolesOf : Value → Option (List RoleDto)
  | .array items => items.mapM roleOf
  | _ => none

def broadcastOfData (name : String) : Value → Option CommunityBroadcast
  | .object fields =>
    if name = "NewMessage" then do
      pure (.newMessage (← field fields "community_id" textOf) (← field fields "channel_id" textOf)
        (← field fields "sender_pseudonym" textOf) (← field fields "ciphertext" bytesOf)
        (← field fields "mek_generation" timeOf) (← field fields "timestamp" timeOf))
    else if name = "MEKRotated" then do
      pure (.mekRotated (← field fields "community_id" textOf) (← field fields "new_generation" timeOf))
    else if name = "MemberJoined" then do
      pure (.memberJoined (← field fields "community_id" textOf) (← field fields "pseudonym_key" textOf)
        (← field fields "display_name" textOf) (← field fields "role_ids" roleIdsOf))
    else if name = "MemberRemoved" then do
      pure (.memberRemoved (← field fields "community_id" textOf) (← field fields "pseudonym_key" textOf))
    else if name = "RolesChanged" then do
      pure (.rolesChanged (← field fields "community_id" textOf) (← field fields "roles" rolesOf))
    else if name = "MemberRolesChanged" then do
      pure (.memberRolesChanged (← field fields "community_id" textOf) (← field fields "pseudonym_key" textOf)
        (← field fields "role_ids" roleIdsOf))
    else if name = "MemberTimedOut" then do
      pure (.memberTimedOut (← field fields "community_id" textOf) (← field fields "pseudonym_key" textOf)
        (← field fields "timeout_until" (optionOf timeOf)))
    else if name = "ChannelOverwriteChanged" then do
      pure (.channelOverwriteChanged (← field fields "community_id" textOf) (← field fields "channel_id" textOf))
    else none
  | _ => none

def broadcastOf : Value → Option CommunityBroadcast
  | .object fields => (field fields "type" textOf).bind fun name => field fields "data" (broadcastOfData name)
  | _ => none

theorem permissionsOf_number (permissions : Permissions) :
    permissionsOf (.number permissions.toNat) = some permissions := by
  rw [permissionsOf, if_pos permissions.isLt, BitVec.ofNat_toNat, BitVec.setWidth_eq]

theorem positionOf_intValue (position : Position) : positionOf (intValue position.val) = some position := by
  obtain ⟨val, hLow, hHigh⟩ := position
  cases val with
  | ofNat n =>
    rw [Int.ofNat_eq_natCast] at hHigh
    exact dif_pos (by omega)
  | negSucc n => exact dif_pos (by omega)

theorem roleOf_roleValue (role : RoleDto) : roleOf (roleValue role) = some role := by
  simp [roleOf, roleValue, objectValue, field, List.lookup_cons, boolOf, permissionsOf_number, positionOf_intValue]

theorem rolesOf_values (roles : List RoleDto) : rolesOf (.array (roles.map roleValue)) = some roles := by
  rw [rolesOf]
  induction roles with
  | nil => rfl
  | cons role roles ih => simp [List.mapM_cons, roleOf_roleValue, ih]

theorem optionOf_time (time : Option UInt64) : optionOf timeOf (optionValue timeValue time) = some time :=
  optionOf_optionValue timeOf_timeValue rfl time

theorem broadcastOfData_data (broadcast : CommunityBroadcast) :
    broadcastOfData (broadcastName broadcast) (objectValue (broadcastData broadcast)) = some broadcast := by
  cases broadcast <;>
    simp [broadcastOfData, broadcastName, broadcastData, objectValue, field, List.lookup_cons, roleIdsOf_values,
      rolesOf_values, optionOf_time]

theorem broadcastOf_broadcastValue (broadcast : CommunityBroadcast) :
    broadcastOf (broadcastValue broadcast) = some broadcast := by
  have hData := broadcastOfData_data broadcast
  rw [broadcastValue, objectValue, List.map_cons, List.map_cons, List.map_nil, broadcastOf]
  simp only [field, List.lookup_cons, ascii_beq, beq_self_eq_true, Option.bind_some, textOf_textValue]
  simpa using hData

end Reference

end Rekindle.Client
