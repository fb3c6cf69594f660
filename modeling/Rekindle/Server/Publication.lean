import Rekindle.Protocol.CommunityRecords
import Rekindle.Server.Hosting

/-! # Publication of a community

The values that the server writes under the subkeys of a community's record. The keys of an object
made by the `json!` macro stand in order.
-/
namespace Rekindle.Server
set_option autoImplicit false

open CapnpCodec Client Json
open Protocol (Bytes)

def intValue : Int → Value
  | .ofNat n => .number n
  | .negSucc n => .negative n

/-- `owner_key` is the text of the public key in the owner's keypair. -/
def metadataValue (name ownerKey : String) (now : UInt64) : Value := objectValue [
  ("name", textValue name), ("description", .null), ("icon_hash", .null), ("created_at", timeValue now),
  ("owner_key", textValue ownerKey), ("last_refreshed", timeValue now)]

def channelValue (channel : ServerChannel) : Value := objectValue [
  ("channelType", textValue channel.channelType), ("id", textValue channel.id),
  ("name", textValue channel.name), ("sortOrder", .number channel.sortOrder)]

def channelsValue (channels : List ServerChannel) (now : UInt64) : Value := objectValue [
  ("channels", .array (channels.map channelValue)), ("lastRefreshed", timeValue now)]

def rosterEntryValue (member : ServerMember) : Value := objectValue [
  ("displayName", textValue member.displayName), ("joinedAt", intValue member.joinedAt),
  ("pseudonymKey", textValue member.pseudonymKeyHex), ("roleIds", .array (member.roleIds.map wordValue))]

def rosterValue (members : List ServerMember) (now : UInt64) : Value := objectValue [
  ("lastRefreshed", timeValue now), ("members", .array (members.map rosterEntryValue))]

def mekBundleValue (generation : UInt64) (now : UInt64) : Value := objectValue [
  ("generation", timeValue generation), ("lastRefreshed", timeValue now)]

/-- What one publication writes, and under which subkey. -/
inductive Publication where
  | metadata (name : String)
  | channels
  | memberRoster
  | mekBundle
  deriving DecidableEq

def Publication.subkey : Publication → Nat
  | .metadata _ => subkeyMetadata
  | .channels => subkeyChannels
  | .memberRoster => subkeyMembers
  | .mekBundle => subkeyMek

/-- What is written of the community at a time. -/
def Publication.value (publication : Publication) (community : HostedCommunity) (ownerKey : String)
    (now : UInt64) : Value :=
  match publication with
  | .metadata name => metadataValue name ownerKey now
  | .channels => channelsValue community.channels now
  | .memberRoster => rosterValue community.members now
  | .mekBundle => mekBundleValue community.mek.generation now

/-- What the publication reads under the lock, encoded. -/
def Publication.snapshot (publication : Publication) (communityId ownerKey : String) (now : UInt64)
    (state : ServerState) : Option Bytes :=
  (state.hosted.lookup communityId).map fun community =>
    write (publication.value community ownerKey now)

/-- A publication that nothing interrupts, and that the network takes. -/
def publish (communityId ownerKey : String) (now : UInt64) (state : ServerState) (values : Subkeys)
    (publication : Publication) : Subkeys :=
  match publication.snapshot communityId ownerKey now state with
  | none => values
  | some data => Function.update values publication.subkey (some data)

/-- The publications at the end of `host_community`. -/
def allPublications (name : String) : List Publication :=
  [.metadata name, .channels, .memberRoster, .mekBundle]

def publishAll (communityId ownerKey name : String) (now : UInt64) (state : ServerState)
    (values : Subkeys) : Subkeys :=
  (allPublications name).foldl (publish communityId ownerKey now state) values

/-- The record as the client has created it, with its metadata and its first channel. -/
def createdRecord (name channelId : String) : Subkeys := fun subkey =>
  if subkey = subkeyMetadata then
    some (write (objectValue [("description", .null), ("name", textValue name)]))
  else if subkey = subkeyChannels then
    some (write (objectValue [
      ("channels", .array [objectValue [("channelType", textValue "text"), ("id", textValue channelId),
        ("name", textValue "general")]]),
      ("lastRefreshed", .number 0)]))
  else none

section
variable {communityId ownerKey : String} {now : UInt64} {state : ServerState} {values : Subkeys}

/-- Every value that the server writes is a JSON object. -/
theorem value_object (publication : Publication) (community : HostedCommunity) :
    ∃ name value fields, publication.value community ownerKey now = .object ((name, value) :: fields) := by
  cases publication <;> exact ⟨_, _, _, rfl⟩

theorem publish_of_hosted {community : HostedCommunity} (publication : Publication)
    (hHosted : state.hosted.lookup communityId = some community) :
    publish communityId ownerKey now state values publication =
      Function.update values publication.subkey
        (some (write (publication.value community ownerKey now))) := by
  simp only [publish, Publication.snapshot, hHosted, Option.map_some]

theorem publish_other {publication : Publication} {subkey : Nat} (h : subkey ≠ publication.subkey) :
    publish communityId ownerKey now state values publication subkey = values subkey := by
  unfold publish
  cases publication.snapshot communityId ownerKey now state with
  | none => rfl
  | some data => exact Function.update_of_ne h _ _

theorem publishAll_of_hosted {community : HostedCommunity} (name : String)
    (hHosted : state.hosted.lookup communityId = some community) {publication : Publication}
    (h : publication ∈ allPublications name) :
    publishAll communityId ownerKey name now state values publication.subkey =
      some (write (publication.value community ownerKey now)) := by
  simp only [publishAll, allPublications, List.foldl_cons, List.foldl_nil, publish_of_hosted _ hHosted]
  simp only [allPublications, List.mem_cons, List.not_mem_nil, or_false] at h
  rcases h with rfl | rfl | rfl | rfl <;> rfl

/-- No publication writes roles. -/
theorem publishAll_roles (name : String) :
    publishAll communityId ownerKey name now state values subkeyRoles = values subkeyRoles := by
  simp only [publishAll, allPublications, List.foldl_cons, List.foldl_nil]
  iterate 4 rw [publish_other (by simp [Publication.subkey, subkeyRoles, subkeyMek, subkeyMembers,
    subkeyChannels, subkeyMetadata])]

end

end Rekindle.Server
