import Rekindle.Client.State
import Rekindle.Server.Atomicity
import Rekindle.Server.Publication

/-! # Publishers and readers

The readers of the protocol take packed messages, or an array of members, while the publishers write
JSON objects, and an array of keys as the friend list. No value that is published is read back.
-/
namespace Rekindle.Server
set_option autoImplicit false

open Capnp (Library segmentCount? segmentsCountLimit not_framed_object not_framed_strings)
open CapnpCodec Client Json
open Protocol (Bytes)

/-- `push_friend_list_update`, with the friends in the order in which the map is gone through. -/
def pushFriendListUpdate (friends : List FriendState) : Bytes :=
  write (.array (((friends.filter (·.friendshipState ≠ .removing)).map FriendState.publicKey).map textValue))

section
variable (capnp : Library Bytes) (jsonError : Bytes → String)

/-- The readers return the community. -/
structure ReadsBack (community : HostedCommunity) (values : Subkeys) : Prop where
  metadata : ∃ metadata, readMetadata capnp values = .ok (some metadata) ∧ metadata.name = community.name ∧
    metadata.description.getD "" = community.description
  channels : ∃ entries, readChannels capnp values = .ok entries ∧
    entries.map (fun entry => (entry.id, entry.name, entry.channelType)) =
      community.channels.map fun channel => (channel.id, channel.name, channel.channelType)
  members : ∃ entries, readMembers jsonError values = .ok entries ∧
    entries.map (fun entry => (entry.pseudonymKey, entry.roleIds)) =
      community.members.map fun member => (member.pseudonymKeyHex, member.roleIds)
  roles : readRoles capnp values = .ok community.roles

/-- The reader returns just the friends that are not being removed. -/
def FriendListReadsBack (friends : List FriendState) (value : Bytes) : Prop :=
  ∃ entries, readFriendList capnp (some value) = .ok entries ∧
    ∀ key, key ∈ entries.map FriendEntry.publicKey ↔
      ∃ friend ∈ friends, friend.publicKey = key ∧ friend.friendshipState ≠ .removing

structure Unreadable (values : Subkeys) : Prop where
  metadata : ∃ e, readMetadata capnp values = .error e
  channels : ∃ e, readChannels capnp values = .error e
  members : ∃ e, readMembers jsonError values = .error e

end

section
variable {capnp : Library Bytes} {jsonError : Bytes → String} {communityId ownerKey : String} {now : UInt64}
  {state : ServerState} {values : Subkeys} {community : HostedCommunity}

theorem Unreadable.not_readsBack (h : Unreadable capnp jsonError values) :
    ¬ReadsBack capnp jsonError community values := by
  intro hReads
  obtain ⟨e, hError⟩ := h.metadata
  obtain ⟨metadata, hMetadata, -⟩ := hReads.metadata
  rw [hError] at hMetadata
  cases hMetadata

theorem unreadable_of_published (hFrames : capnp.RefusesBadFrames)
    (hHosted : state.hosted.lookup communityId = some community) (name : String) :
    Unreadable capnp jsonError (publishAll communityId ownerKey name now state values) := by
  have hWritten : ∀ publication ∈ allPublications name,
      publishAll communityId ownerKey name now state values publication.subkey = _ :=
    fun publication h => publishAll_of_hosted name hHosted h
  constructor
  · exact readMetadata_refuses hFrames (hWritten (.metadata name) (by simp [allPublications]))
      (not_framed_object _ _ _)
  · exact readChannels_refuses hFrames (hWritten .channels (by simp [allPublications]))
      (not_framed_object _ _ _)
  · exact readMembers_refuses_object (hWritten .memberRoster (by simp [allPublications]))

theorem friend_list_refused (hFrames : capnp.RefusesBadFrames) (friends : List FriendState) :
    ∃ e, readFriendList capnp (some (pushFriendListUpdate friends)) = .error e := by
  apply readFriendList_refuses hFrames
  have hTexts : ∀ keys : List String, keys.map textValue = (keys.map Signal.ascii).map Value.string :=
    fun keys => List.map_map.symm
  rw [pushFriendListUpdate, hTexts]
  exact not_framed_strings _

end

/-- No reader returns what the publisher of its subkey has written: in every state, and for every map
of friends. What stands under the subkey of the roles stays what it was. -/
theorem published_is_never_read_back {capnp : Library Bytes} (jsonError : Bytes → String)
    (hFrames : capnp.RefusesBadFrames) :
    (∀ state communityId community, state.hosted.lookup communityId = some community →
      ∀ ownerKey name now values,
        Unreadable capnp jsonError (publishAll communityId ownerKey name now state values) ∧
        readRoles capnp (publishAll communityId ownerKey name now state values) = readRoles capnp values ∧
        ¬ReadsBack capnp jsonError community (publishAll communityId ownerKey name now state values)) ∧
    ∀ friends, (∃ e, readFriendList capnp (some (pushFriendListUpdate friends)) = .error e) ∧
      ¬FriendListReadsBack capnp friends (pushFriendListUpdate friends) := by
  constructor
  · intro state communityId community hHosted ownerKey name now values
    have hUnreadable := @unreadable_of_published capnp jsonError _ ownerKey now _ values _ hFrames hHosted name
    refine ⟨hUnreadable, ?_, hUnreadable.not_readsBack⟩
    unfold readRoles
    rw [publishAll_roles]
  · intro friends
    obtain ⟨e, hRefused⟩ := friend_list_refused hFrames friends
    refine ⟨⟨e, hRefused⟩, ?_⟩
    rintro ⟨entries, hRead, -⟩
    rw [hRefused] at hRead
    cases hRead

namespace Reference

/-- A reader of frames, which goes no further. -/
def frameReader : Library Bytes where
  writeMessage _ _ := []
  readMessage _ packed :=
    match segmentCount? packed with
    | none => .error "Premature end of packed input"
    | some count =>
      .error (if count < segmentsCountLimit then "Message ends prematurely"
        else "Too many or too few segments " ++ toString count)
  notInSchema n := toString n.toNat

theorem frameReader_refuses : frameReader.RefusesBadFrames := by
  intro schema packed _
  dsimp only [frameReader]
  cases segmentCount? packed with
  | none => exact ⟨_, rfl⟩
  | some count => exact ⟨_, rfl⟩

theorem frameReader_reads_nothing_published :
    (∀ community, hostedByAlice.hosted.lookup "c" = some community →
      ∀ ownerKey name now values, Unreadable frameReader (fun _ => "invalid type: map")
        (publishAll "c" ownerKey name now hostedByAlice values)) ∧
    ¬FriendListReadsBack frameReader [] (pushFriendListUpdate []) := by
  have h := published_is_never_read_back (fun _ => "invalid type: map") frameReader_refuses
  exact ⟨fun community hHosted ownerKey name now values =>
    (h.1 hostedByAlice "c" community hHosted ownerKey name now values).1, (h.2 []).2⟩

/-- The record of a community that has just been created and hosted. -/
theorem new_community_not_read_back :
    Reachable hostedByAlice ∧ ∃ community, hostedByAlice.hosted.lookup "c" = some community ∧
      ¬ReadsBack frameReader (fun _ => "invalid type: map") community
        (publishAll "c" "owner" "Community" 1000 hostedByAlice (createdRecord "Community" "channel_1")) := by
  obtain ⟨community, hHosted⟩ : ∃ community, hostedByAlice.hosted.lookup "c" = some community :=
    exists_of_inSample (show inSample hostedByAlice (fun _ => true) = true by decide +kernel)
  exact ⟨hostedByAlice_reachable, community, hHosted,
    (unreadable_of_published frameReader_refuses hHosted "Community").not_readsBack⟩

end Reference

end Rekindle.Server
