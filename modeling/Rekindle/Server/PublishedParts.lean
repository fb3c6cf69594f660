import Rekindle.Server.Effects
import Rekindle.Server.Publication
import Rekindle.Server.SectionChanges

/-! # The published parts of a community

What is written under each subkey depends on one part of the community. Here stands which sections
and which requests change which part.
-/
namespace Rekindle.Server
set_option autoImplicit false
open CapnpCodec Client Fallible Interleaving Json
open Protocol (Bytes)

inductive Part where
  | metadata
  | channels
  | memberRoster
  | mekBundle
  deriving DecidableEq

def Part.subkey : Part → Nat
  | .metadata => subkeyMetadata
  | .channels => subkeyChannels
  | .memberRoster => subkeyMembers
  | .mekBundle => subkeyMek

def Publication.part : Publication → Part
  | .metadata _ => .metadata
  | .channels => .channels
  | .memberRoster => .memberRoster
  | .mekBundle => .mekBundle

theorem Publication.subkey_part (publication : Publication) :
    publication.part.subkey = publication.subkey := by
  cases publication <;> rfl

theorem Part.subkey_injective : Function.Injective Part.subkey := by
  intro a b h
  cases a <;> cases b <;> first | rfl | cases h

/-- The publication that encodes the part as it is. -/
def Part.publication (part : Part) (community : HostedCommunity) : Publication :=
  match part with
  | .metadata => .metadata community.name
  | .channels => .channels
  | .memberRoster => .memberRoster
  | .mekBundle => .mekBundle

/-- The encoding of the part at a time. -/
def Part.encoding (part : Part) (community : HostedCommunity) (ownerKey : String) (now : UInt64) : Bytes :=
  write ((part.publication community).value community ownerKey now)

def rosterEntry (member : ServerMember) : String × Int × String × List UInt32 :=
  (member.displayName, member.joinedAt, member.pseudonymKeyHex, member.roleIds)

def channelListing (channel : ServerChannel) : String × String × String × Nat :=
  (channel.channelType, channel.id, channel.name, channel.sortOrder)

def entryValue : String × Int × String × List UInt32 → Value
  | (displayName, joinedAt, pseudonymKey, roleIds) => objectValue [
    ("displayName", textValue displayName), ("joinedAt", intValue joinedAt),
    ("pseudonymKey", textValue pseudonymKey), ("roleIds", .array (roleIds.map wordValue))]

def listingValue : String × String × String × Nat → Value
  | (channelType, id, name, sortOrder) => objectValue [
    ("channelType", textValue channelType), ("id", textValue id), ("name", textValue name),
    ("sortOrder", .number sortOrder)]

/-- The part is the same in both. -/
def Part.Same (part : Part) (first second : HostedCommunity) : Prop :=
  match part with
  | .metadata => first.name = second.name
  | .channels => first.channels.map channelListing = second.channels.map channelListing
  | .memberRoster => first.members.map rosterEntry = second.members.map rosterEntry
  | .mekBundle => first.mek.generation = second.mek.generation

instance (part : Part) (first second : HostedCommunity) : Decidable (part.Same first second) := by
  unfold Part.Same
  split <;> infer_instance

theorem map_of_map_eq {α β γ : Type} {read : α → β} {value : α → γ} {f : β → γ} (hValue : ∀ a, value a = f (read a))
    {first second : List α} (h : first.map read = second.map read) : first.map value = second.map value := by
  have hComposed : ∀ items : List α, items.map value = (items.map read).map f := by
    intro items
    rw [List.map_map]
    exact List.map_congr_left fun a _ => hValue a
  rw [hComposed, hComposed, h]

section
variable {part : Part} {first second : HostedCommunity}

@[simp] theorem Part.same_refl (part : Part) (community : HostedCommunity) : part.Same community community := by
  cases part <;> rfl

theorem Part.encoding_congr (h : part.Same first second) (ownerKey : String) (now : UInt64) :
    part.encoding first ownerKey now = part.encoding second ownerKey now := by
  unfold Part.encoding
  apply congrArg write
  cases part with
  | metadata => exact congrArg (metadataValue · ownerKey now) h
  | channels =>
    have hValue : ∀ channel, channelValue channel = listingValue (channelListing channel) := fun _ => rfl
    have hValues := map_of_map_eq hValue h
    simp only [Part.publication, Publication.value, channelsValue, hValues]
  | memberRoster =>
    have hValue : ∀ member, rosterEntryValue member = entryValue (rosterEntry member) := fun _ => rfl
    have hValues := map_of_map_eq hValue h
    simp only [Part.publication, Publication.value, rosterValue, hValues]
  | mekBundle => exact congrArg (mekBundleValue · now) h

end

/-! ## Sections -/

/-- What is published after a section of a request. -/
def Task.publications (task : Task) : List Publication :=
  match task.job with
  | .join _ _ (.push _) => [.memberRoster]
  | .depart _ .remove => [.memberRoster, .mekBundle]
  | .rotateKey => [.mekBundle]
  | _ => []

/-- A section changes no part that is not published after it. -/
theorem Task.leaves_same {task : Task} {part : Part} (h : part ∉ task.publications.map Publication.part)
    (community : HostedCommunity) : part.Same (task.leaves community) community := by
  unfold Task.publications at h
  unfold Task.leaves
  split
  next blob hJob =>
    have hRoster : (updateMember community.members task.sender fun member =>
        { member with routeBlob := some blob }).map rosterEntry = community.members.map rosterEntry :=
      Keyed.map_update fun _ => rfl
    cases part with
    | memberRoster => exact hRoster
    | metadata | channels | mekBundle => rfl
  next hJob =>
    rw [hJob] at h
    cases part with
    | memberRoster => exact absurd List.mem_cons_self h
    | metadata | channels | mekBundle => rfl
  next hJob =>
    rw [hJob] at h
    cases part with
    | memberRoster => exact absurd List.mem_cons_self h
    | mekBundle => exact absurd (List.mem_cons_of_mem _ List.mem_cons_self) h
    | metadata | channels => rfl
  next hJob =>
    rw [hJob] at h
    cases part with
    | mekBundle => exact absurd List.mem_cons_self h
    | metadata | channels | memberRoster => rfl
  next => exact part.same_refl community

/-! ## Other requests -/

/-- The first job of a request that is answered in sections. -/
def MemberRequest.job? (sender : String) : MemberRequest → Option Job
  | .leave => some (.depart sender .verify)
  | .kick target => some (.checkKick target)
  | .ban target => some (.checkBan target)
  | .rotateMek => some .rotateKey
  | _ => none

/-- The parts that are published after a request that is answered in one section. -/
def MemberRequest.publishedParts : MemberRequest → List Part
  | .createChannel _ _ | .deleteChannel _ | .renameChannel _ _ => [.channels]
  | .updateCommunity _ _ => [.metadata]
  | _ => []

section
variable (env : Environment) (communityId sender : String) (community : HostedCommunity)

/-- The request gives a role to somebody, or takes one away. -/
def MemberRequest.ChangesRoleIds (request : MemberRequest) : Prop :=
  match request with
  | .deleteRole _ | .assignRole _ _ | .unassignRole _ _ =>
    ¬Part.memberRoster.Same (request.effect env communityId sender community).community community
  | _ => False

instance (request : MemberRequest) : Decidable (request.ChangesRoleIds env communityId sender community) :=
  match request with
  | .deleteRole _ | .assignRole _ _ | .unassignRole _ _ => instDecidableNot
  | .sendMessage .. | .getMessages .. | .requestMek | .leave | .kick .. | .createChannel .. | .deleteChannel ..
  | .rotateMek | .renameChannel .. | .updateCommunity .. | .ban .. | .unban .. | .getBanList | .createRole ..
  | .editRole .. | .getRoles | .setChannelOverwrite .. | .deleteChannelOverwrite .. | .timeoutMember ..
  | .removeTimeout .. => instDecidableFalse

/-- Roles are assigned without a word to the record; any other part that a request changes is
published after it. -/
theorem effect_same {request : MemberRequest} (hWhole : request.job? sender = none)
    (hRoles : ¬request.ChangesRoleIds env communityId sender community) {part : Part}
    (hPart : part ∉ request.publishedParts) :
    part.Same (request.effect env communityId sender community).community community := by
  cases request with
  | sendMessage | getMessages | requestMek | unban | getBanList | getRoles => exact part.same_refl community
  | leave | kick | ban | rotateMek => cases hWhole
  | createChannel | deleteChannel | renameChannel =>
    cases part with
    | channels => exact absurd List.mem_cons_self hPart
    | metadata | memberRoster | mekBundle => rfl
  | updateCommunity =>
    cases part with
    | metadata => exact absurd List.mem_cons_self hPart
    | channels | memberRoster | mekBundle => rfl
  | createRole | editRole => cases part <;> rfl
  | deleteRole roleId =>
    cases part with
    | memberRoster => exact not_not.mp hRoles
    | metadata | channels | mekBundle => rfl
  | assignRole target roleId =>
    cases part with
    | memberRoster => exact not_not.mp hRoles
    | metadata | channels | mekBundle =>
      simp only [MemberRequest.effect]
      split <;> rfl
  | unassignRole target roleId =>
    cases part with
    | memberRoster => exact not_not.mp hRoles
    | metadata | channels | mekBundle => rfl
  | setChannelOverwrite | deleteChannelOverwrite =>
    cases part with
    | channels => exact Keyed.map_update fun _ => rfl
    | metadata | memberRoster | mekBundle => rfl
  | timeoutMember | removeTimeout =>
    cases part with
    | memberRoster => exact Keyed.map_update fun _ => rfl
    | metadata | channels | mekBundle => rfl

end

end Rekindle.Server
