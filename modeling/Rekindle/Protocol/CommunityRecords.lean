import Rekindle.Protocol.CapnpFrames
import Rekindle.Protocol.CapnpRoundTrips

/-! # Readers of community and friend list records

What the readers make of the values that a record holds under its subkeys, once the network has
returned them.
-/
namespace Rekindle.CapnpCodec
set_option autoImplicit false

open Capnp Codecs Fallible
open Protocol (Bytes ProtocolError)

/-- The values of a record. -/
abbrev Subkeys := Nat → Option Bytes

def subkeyMetadata : Nat := 0
def subkeyChannels : Nat := 1
def subkeyMembers : Nat := 2
def subkeyRoles : Nat := 3
def subkeyMek : Nat := 5

variable (capnp : Library Bytes) (jsonError : Bytes → String)

/-- `decode_community` of the bytes, with no owner key. -/
def readCommunity (data : Bytes) :
    Decoded (CommunityMetadata × List ChannelEntry × List Server.RoleDefinition) :=
  ((capnp.readMessage .community data).mapError fun e => .deserialization ("capnp: " ++ e)) >>=
    decodeCommunity capnp.notInSchema ""

def readMetadata (values : Subkeys) : Decoded (Option CommunityMetadata) :=
  match values subkeyMetadata with
  | none => pure none
  | some data => do
    let (metadata, _, _) ← readCommunity capnp data
    pure (some metadata)

def readChannels (values : Subkeys) : Decoded (List ChannelEntry) :=
  match values subkeyChannels with
  | none => pure []
  | some data => do
    let (_, channels, _) ← readCommunity capnp data
    pure channels

def readMembers (values : Subkeys) : Decoded (List MemberEntry) :=
  match values subkeyMembers with
  | none => pure []
  | some data => decodeMembers jsonError data

def readRoles (values : Subkeys) : Decoded (List Server.RoleDefinition) :=
  match values subkeyRoles with
  | none => pure []
  | some data => do
    let (_, _, roles) ← readCommunity capnp data
    pure roles

/-- `read_friend_list`, of the only value of its record. -/
def readFriendList (value : Option Bytes) : Decoded (List FriendEntry) :=
  match value with
  | none => pure []
  | some data =>
    ((capnp.readMessage .friendList data).mapError fun e => .deserialization ("capnp: " ++ e)) >>= decodeFriendList

/-! ## What the readers refuse -/

variable {capnp jsonError} {values : Subkeys} {data : Bytes}

theorem readCommunity_refuses (hFrames : capnp.RefusesBadFrames) (hData : ¬Framed data) :
    ∃ e, readCommunity capnp data = .error e := by
  obtain ⟨e, hRead⟩ := hFrames .community data hData
  exact ⟨_, by rw [readCommunity, hRead]; rfl⟩

theorem readMetadata_refuses (hFrames : capnp.RefusesBadFrames) (hValue : values subkeyMetadata = some data)
    (hData : ¬Framed data) : ∃ e, readMetadata capnp values = .error e := by
  obtain ⟨e, hRead⟩ := readCommunity_refuses hFrames hData
  exact ⟨e, by rw [readMetadata, hValue]; simp only [hRead]; rfl⟩

theorem readChannels_refuses (hFrames : capnp.RefusesBadFrames) (hValue : values subkeyChannels = some data)
    (hData : ¬Framed data) : ∃ e, readChannels capnp values = .error e := by
  obtain ⟨e, hRead⟩ := readCommunity_refuses hFrames hData
  exact ⟨e, by rw [readChannels, hValue]; simp only [hRead]; rfl⟩

theorem readFriendList_refuses (hFrames : capnp.RefusesBadFrames) (hData : ¬Framed data) :
    ∃ e, readFriendList capnp (some data) = .error e := by
  obtain ⟨e, hRead⟩ := hFrames .friendList data hData
  exact ⟨_, by rw [readFriendList]; simp only [hRead]; rfl⟩

/-- The list of members is an array. -/
theorem readMembers_refuses_object {fields : List (Json.Text × Json.Value)}
    (hValue : values subkeyMembers = some (Json.write (.object fields))) :
    ∃ e, readMembers jsonError values = .error e := by
  refine ⟨.deserialization (jsonError (Json.write (.object fields))), ?_⟩
  rw [readMembers, hValue]
  simp only [decodeMembers, Json.parse_write, Option.bind_some, membersOf]
  rfl

end Rekindle.CapnpCodec
