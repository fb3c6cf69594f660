import Rekindle.Library.Keyed
import Rekindle.Server.Publication

/-! # Channel lists and rosters that the client reads

What a client makes of the lists that the server publishes: of the channels on both of its ways to them,
the watch and the periodic sync, and of the members.
-/
namespace Rekindle.Community
set_option autoImplicit false
open Json Client
open Protocol (Bytes)
open Signal (ascii)
open Server (ServerChannel ServerMember channelValue channelsValue rosterEntryValue rosterValue intValue)

/-! ## Untyped JSON -/

/-- `Value::get`. The last field of a name counts. -/
def jsonGet (name : String) : Value → Option Value
  | .object fields => fields.reverse.lookup (ascii name)
  | _ => none

theorem lookup_ascii (name : String) (fields : List (String × Value)) :
    (fields.map fun (name, value) => (ascii name, value)).lookup (ascii name) = fields.lookup name := by
  induction fields with
  | nil => rfl
  | cons field rest ih =>
    obtain ⟨other, value⟩ := field
    rw [List.map_cons, List.lookup_cons, List.lookup_cons, ascii_beq, ih]

theorem jsonGet_objectValue (name : String) (fields : List (String × Value)) :
    jsonGet name (objectValue fields) = fields.reverse.lookup name := by
  rw [objectValue, jsonGet, ← List.map_reverse, lookup_ascii]

def asArray : Value → Option (List Value)
  | .array items => some items
  | _ => none

def asI64 : Value → Option Int
  | .number n => if n ≤ Server.i64Max then some n else none
  | .negative n => if n ≤ Server.i64Max then some (.negSucc n) else none
  | _ => none

def isObject : Value → Bool
  | .object _ => true
  | _ => false

/-- The list in a wrapper or by itself. -/
def listIn (name : String) (value : Value) : Option (List Value) :=
  if isObject value then (jsonGet name value).bind asArray else asArray value

/-! ## Channels -/

inductive ChannelType where
  | text
  | voice
  deriving DecidableEq

def ChannelType.toText : ChannelType → String
  | .text => "text"
  | .voice => "voice"

structure ChannelInfo where
  id : String
  name : String
  channelType : ChannelType
  unreadCount : UInt32
  deriving DecidableEq

def channelTypeOf (text : Option String) : ChannelType := if text = some "voice" then .voice else .text

def channelOf (channel : Value) : Option ChannelInfo := do
  let id ← (jsonGet "id" channel).bind textOf
  let name ← (jsonGet "name" channel).bind textOf
  pure { id, name, channelType := channelTypeOf ((jsonGet "channelType" channel).bind textOf), unreadCount := 0 }

/-- `parse_dht_channel_list`, of the periodic sync. -/
def parseDhtChannelList (data : Bytes) : List ChannelInfo :=
  match parse data with
  | none => []
  | some value => ((listIn "channels" value).getD []).filterMap channelOf

/-- The same list as the watch reads it, which tells one that is missing from one that is empty. -/
def watchedChannelList (data : Bytes) : Option (List ChannelInfo) :=
  ((parse data).bind (listIn "channels")).map (List.filterMap channelOf)

/-- A row of `channels`; its key is the owner with the id. -/
structure StoredChannel where
  ownerKey : String
  id : String
  communityId : String
  name : String
  channelType : ChannelType
  sortOrder : Int
  deriving DecidableEq

/-- A row of `community_members`. The list of the role ids is stored as text. -/
structure StoredMember where
  ownerKey : String
  communityId : String
  pseudonymKey : String
  displayName : Option String
  roleIds : Bytes
  timeoutUntil : Option Int
  joinedAt : Int
  deriving DecidableEq

def StoredMember.key (row : StoredMember) : String × String × String :=
  (row.ownerKey, row.communityId, row.pseudonymKey)

/-- What a client has of a community that it has joined: its channels in memory, and the tables. -/
structure CommunityCopy where
  ownerKey : String
  communityId : String
  channels : List ChannelInfo
  /-- The keys of the rows of `communities`. -/
  communityRows : List (String × String)
  channelRows : List StoredChannel
  memberRows : List StoredMember
  deriving DecidableEq

namespace CommunityCopy

/-- The row that is inserted for a channel. -/
def channelRow (copy : CommunityCopy) (channel : ChannelInfo) : StoredChannel :=
  { ownerKey := copy.ownerKey, id := channel.id, communityId := copy.communityId, name := channel.name,
    channelType := channel.channelType, sortOrder := 0 }

/-- The row belongs to the community. -/
def Own (copy : CommunityCopy) (row : StoredChannel) : Prop :=
  row.ownerKey = copy.ownerKey ∧ row.communityId = copy.communityId

instance (copy : CommunityCopy) (row : StoredChannel) : Decidable (copy.Own row) :=
  inferInstanceAs (Decidable (_ ∧ _))

/-- The owner has a row for the community. -/
def HasRow (copy : CommunityCopy) : Prop := ∃ row ∈ copy.communityRows, row = (copy.ownerKey, copy.communityId)

instance (copy : CommunityCopy) : Decidable copy.HasRow := inferInstanceAs (Decidable (∃ row ∈ _, row = _))

/-- `INSERT OR IGNORE` of one channel after the other. A row whose id is taken is passed over; one without its
community fails and ends the loop. -/
def insertChannels (copy : CommunityCopy) : List StoredChannel → List ChannelInfo → List StoredChannel
  | rows, [] => rows
  | rows, channel :: rest =>
    if rows.any fun row => row.ownerKey == copy.ownerKey && row.id == channel.id then copy.insertChannels rows rest
    else if copy.HasRow then copy.insertChannels (rows ++ [copy.channelRow channel]) rest
    else rows

/-- The part of `sync_communities` that is about the channels of this community. -/
def syncChannels (copy : CommunityCopy) (data : Bytes) : CommunityCopy :=
  let channels := parseDhtChannelList data
  if channels ≠ [] then { copy with channels } else copy

/-- `handle_community_channel_list_change`, once it has the value. -/
def handleCommunityChannelListChange (copy : CommunityCopy) (data : Bytes) : CommunityCopy :=
  match watchedChannelList data with
  | none => copy
  | some channels =>
    { copy with
      channels
      channelRows := copy.insertChannels (copy.channelRows.filter fun row => ¬copy.Own row) channels }

end CommunityCopy

/-! ### What the server publishes -/

section
variable {channels : List ServerChannel} {now : UInt64}

/-- A channel of the server as the client has it. -/
def ChannelInfo.ofServer (channel : ServerChannel) : ChannelInfo :=
  { id := channel.id, name := channel.name, channelType := channelTypeOf (some channel.channelType), unreadCount := 0 }

theorem channelOf_channelValue (channel : ServerChannel) :
    channelOf (channelValue channel) = some (.ofServer channel) := by
  simp [channelOf, channelValue, jsonGet_objectValue, List.lookup_cons, ChannelInfo.ofServer]

theorem filterMap_channelValue (channels : List ServerChannel) :
    (channels.map channelValue).filterMap channelOf = channels.map ChannelInfo.ofServer := by
  rw [List.filterMap_map, List.filterMap_eq_map_iff_forall_eq_some]
  exact fun channel _ => channelOf_channelValue channel

theorem listIn_channelsValue : listIn "channels" (channelsValue channels now) = some (channels.map channelValue) := by
  have hObject : isObject (channelsValue channels now) = true := rfl
  rw [listIn, if_pos hObject, channelsValue, jsonGet_objectValue]
  rfl

theorem parseDhtChannelList_published :
    parseDhtChannelList (write (channelsValue channels now)) = channels.map ChannelInfo.ofServer := by
  rw [parseDhtChannelList, parse_write]
  simp only [listIn_channelsValue, Option.getD_some, filterMap_channelValue]

theorem watchedChannelList_published :
    watchedChannelList (write (channelsValue channels now)) = some (channels.map ChannelInfo.ofServer) := by
  rw [watchedChannelList, parse_write, Option.bind_some, listIn_channelsValue, Option.map_some, filterMap_channelValue]

end

/-! ### The two ways to the channels -/

/-- The channels whose ids are not taken, by a row or by a channel before. -/
def freshChannels : List String → List ChannelInfo → List ChannelInfo
  | _, [] => []
  | taken, channel :: rest =>
    if channel.id ∈ taken then freshChannels taken rest else channel :: freshChannels (channel.id :: taken) rest

namespace CommunityCopy

/-- The ids of the owner's rows that belong to other communities. -/
def takenElsewhere (copy : CommunityCopy) : List String :=
  (copy.channelRows.filter fun row => row.ownerKey = copy.ownerKey ∧ ¬copy.Own row).map StoredChannel.id

/-- The list of channels that a table can store for the community. -/
def storable (copy : CommunityCopy) (channels : List ChannelInfo) : List ChannelInfo :=
  if copy.HasRow then freshChannels copy.takenElsewhere channels else []

/-- The community's rows are those of the channels. -/
def Stores (copy : CommunityCopy) (channels : List ChannelInfo) : Prop :=
  ∀ row, copy.Own row → (row ∈ copy.channelRows ↔ ∃ channel ∈ copy.storable channels, row = copy.channelRow channel)

/-- The channels are the same in memory, and so are the rows. -/
def SameChannels (first second : CommunityCopy) : Prop :=
  first.channels = second.channels ∧ ∀ row, row ∈ first.channelRows ↔ row ∈ second.channelRows

section
variable {copy : CommunityCopy} {row : StoredChannel}

theorem own_channelRow (channel : ChannelInfo) : copy.Own (copy.channelRow channel) := ⟨rfl, rfl⟩

theorem mem_insertChannels {rows : List StoredChannel} {taken : List String}
    (hTaken : ∀ id, id ∈ taken ↔ ∃ row ∈ rows, row.ownerKey = copy.ownerKey ∧ row.id = id) (channels : List ChannelInfo) :
    row ∈ copy.insertChannels rows channels ↔
      row ∈ rows ∨ copy.HasRow ∧
        ∃ channel ∈ freshChannels taken channels, row = copy.channelRow channel := by
  induction channels generalizing rows taken with
  | nil => simp [insertChannels, freshChannels]
  | cons channel rest ih =>
    have hAny : (rows.any fun row => row.ownerKey == copy.ownerKey && row.id == channel.id) = true ↔
        channel.id ∈ taken := by
      rw [hTaken, List.any_eq_true]
      simp only [Bool.and_eq_true, beq_iff_eq]
    rw [insertChannels, freshChannels]
    by_cases hHere : channel.id ∈ taken
    · rw [if_pos (hAny.mpr hHere), if_pos hHere]
      exact ih hTaken
    · rw [if_neg (hAny.not.mpr hHere), if_neg hHere]
      by_cases hCommunity : copy.HasRow
      · have hMore : ∀ id, id ∈ channel.id :: taken ↔
            ∃ row ∈ rows ++ [copy.channelRow channel], row.ownerKey = copy.ownerKey ∧ row.id = id := by
          intro id
          simp only [List.mem_cons, hTaken, List.mem_append, List.not_mem_nil, or_false, or_and_right, exists_or,
            exists_eq_left, channelRow, true_and]
          rw [or_comm, @eq_comm _ id]
        rw [if_pos hCommunity, ih hMore]
        simp only [List.mem_append, List.mem_cons, List.not_mem_nil, false_or, exists_eq_or_imp, hCommunity, true_and, or_assoc]
      · simp [hCommunity]

theorem mem_handleCommunityChannelListChange {data : Bytes} {channels : List ChannelInfo}
    (hRead : watchedChannelList data = some channels) :
    row ∈ (copy.handleCommunityChannelListChange data).channelRows ↔
      row ∈ copy.channelRows ∧ ¬copy.Own row ∨
        ∃ channel ∈ copy.storable channels, row = copy.channelRow channel := by
  have hTaken : ∀ id, id ∈ copy.takenElsewhere ↔
      ∃ row ∈ copy.channelRows.filter fun row => ¬copy.Own row, row.ownerKey = copy.ownerKey ∧ row.id = id := by
    intro id
    simp only [takenElsewhere, List.mem_map, List.mem_filter, decide_eq_true_eq]
    tauto
  simp only [handleCommunityChannelListChange, hRead]
  rw [mem_insertChannels hTaken, List.mem_filter, decide_eq_true_iff, storable]
  by_cases hCommunity : copy.HasRow <;> simp [hCommunity]

/-- The sync and the watch agree on a published list if and only if there is a channel to sync, or none in memory,
and the rows are already those of the list. -/
theorem channel_paths_agree_iff (copy : CommunityCopy) (channels : List ServerChannel) (now : UInt64) :
    SameChannels (copy.syncChannels (write (channelsValue channels now)))
        (copy.handleCommunityChannelListChange (write (channelsValue channels now))) ↔
      (channels ≠ [] ∨ copy.channels = []) ∧ copy.Stores (channels.map ChannelInfo.ofServer) := by
  have hMemory : (copy.handleCommunityChannelListChange (write (channelsValue channels now))).channels =
      channels.map ChannelInfo.ofServer := by
    simp only [handleCommunityChannelListChange, watchedChannelList_published]
  have hRows : (copy.syncChannels (write (channelsValue channels now))).channelRows = copy.channelRows := by
    rw [syncChannels]
    split <;> rfl
  rw [SameChannels, hMemory, hRows]
  apply and_congr
  · rw [syncChannels, parseDhtChannelList_published]
    by_cases hEmpty : channels = []
    · subst hEmpty
      simp
    · simp [hEmpty]
  · apply forall_congr'
    intro row
    rw [mem_handleCommunityChannelListChange watchedChannelList_published]
    by_cases hOwn : copy.Own row
    · simp [hOwn]
    · have hNot : ¬∃ channel ∈ copy.storable (channels.map ChannelInfo.ofServer), row = copy.channelRow channel := by
        rintro ⟨channel, -, rfl⟩
        exact hOwn (own_channelRow channel)
      simp [hOwn, hNot]

end

/-- A copy with one channel that the server has deleted since. -/
def oneChannelLeft : CommunityCopy where
  ownerKey := "bob"
  communityId := "c"
  channels := [⟨"general", "general", .text, 0⟩]
  communityRows := [("bob", "c")]
  channelRows := [⟨"bob", "general", "c", "general", .text, 0⟩]
  memberRows := []

/-- After the deletion of the last channel the sync keeps it, and the watch does not. -/
theorem empty_list_only_watched :
    ¬SameChannels (oneChannelLeft.syncChannels (write (channelsValue [] 7)))
      (oneChannelLeft.handleCommunityChannelListChange (write (channelsValue [] 7))) := by
  rintro ⟨hMemory, -⟩
  rw [handleCommunityChannelListChange, watchedChannelList_published, syncChannels, parseDhtChannelList_published]
    at hMemory
  cases hMemory

end CommunityCopy

/-! ## Members -/

section
variable (ownerKey communityId : String) (now : Int)

/-- The row that a member of the roster is stored in, if it has a key. The list of the role ids is kept as it is. -/
def memberRowOf (member : Value) : Option StoredMember :=
  ((jsonGet "pseudonymKey" member).bind textOf).map fun pseudonymKey =>
    { ownerKey
      communityId
      pseudonymKey
      displayName := some (((jsonGet "displayName" member).bind textOf).getD pseudonymKey)
      roleIds := ((jsonGet "roleIds" member).map write).getD (ascii "[0,1]")
      timeoutUntil := none
      joinedAt := ((jsonGet "joinedAt" member).bind asI64).getD now }

end

namespace CommunityCopy

/-- `INSERT OR REPLACE`. -/
def replaceMember (rows : List StoredMember) (row : StoredMember) : List StoredMember :=
  Keyed.insert StoredMember.key row rows

/-- `handle_community_member_list_change`, once it has the value. -/
def handleCommunityMemberListChange (copy : CommunityCopy) (now : Int) (data : Bytes) : CommunityCopy :=
  match parse data with
  | none => copy
  | some value =>
    let memberList := (listIn "members" value).getD []
    if memberList = [] ∧ 2 < data.length then copy
    else
      { copy with
        memberRows :=
          (memberList.filterMap (memberRowOf copy.ownerKey copy.communityId now)).foldl replaceMember copy.memberRows }

end CommunityCopy

section
variable {ownerKey communityId : String} {now : Int} {members : List ServerMember} {published : UInt64}

/-- The list of role ids as it is published. -/
def roleIdsText (roleIds : List UInt32) : Bytes := write (.array (roleIds.map wordValue))

/-- The row for a member of the server's roster. -/
def StoredMember.ofServer (ownerKey communityId : String) (now : Int) (member : ServerMember) : StoredMember :=
  { ownerKey, communityId, pseudonymKey := member.pseudonymKeyHex, displayName := some member.displayName
    roleIds := roleIdsText member.roleIds, timeoutUntil := none
    joinedAt := (asI64 (intValue member.joinedAt)).getD now }

theorem memberRowOf_rosterEntryValue (member : ServerMember) :
    memberRowOf ownerKey communityId now (rosterEntryValue member) = some (.ofServer ownerKey communityId now member) := by
  simp [memberRowOf, rosterEntryValue, jsonGet_objectValue, List.lookup_cons, StoredMember.ofServer, roleIdsText]

theorem listIn_rosterValue : listIn "members" (rosterValue members published) = some (members.map rosterEntryValue) := by
  have hObject : isObject (rosterValue members published) = true := rfl
  rw [listIn, if_pos hObject, rosterValue, jsonGet_objectValue]
  rfl

theorem roleIdsText_injective : Function.Injective roleIdsText := by
  intro first second hText
  have hValues : some (Value.array (first.map wordValue)) = some (.array (second.map wordValue)) := by
    rw [← parse_write, ← parse_write]
    exact congrArg parse hText
  rw [Option.some.injEq, Value.array.injEq] at hValues
  have hRead (roleIds : List UInt32) : (roleIds.map wordValue).filterMap wordOf = roleIds := by
    rw [List.filterMap_map]
    exact (List.filterMap_congr fun roleId _ => wordOf_wordValue roleId).trans List.filterMap_some
  rw [← hRead first, hValues, hRead]

namespace CommunityCopy
variable {copy : CommunityCopy}

/-- What is stored locally of a member. -/
def member? (copy : CommunityCopy) (pseudonym : String) : Option StoredMember :=
  Keyed.find StoredMember.key (copy.ownerKey, copy.communityId, pseudonym) copy.memberRows

/-- The local members are those of the roster, with its names and roles. -/
structure MirrorsRoster (copy : CommunityCopy) (members : List ServerMember) : Prop where
  carried : ∀ member ∈ members, ∃ row, copy.member? member.pseudonymKeyHex = some row ∧
    row.displayName = some member.displayName ∧ row.roleIds = roleIdsText member.roleIds
  listed : ∀ pseudonym row, copy.member? pseudonym = some row → pseudonym ∈ members.map ServerMember.pseudonymKeyHex

/-- What the roster does not carry is kept for the members that remain. -/
def KeepsTimeouts (before after : CommunityCopy) (members : List ServerMember) : Prop :=
  ∀ member ∈ members, ∀ row, before.member? member.pseudonymKeyHex = some row →
    (after.member? member.pseudonymKeyHex).map StoredMember.timeoutUntil = some row.timeoutUntil

/-- The last entry of the roster for a member. -/
def lastEntry (members : List ServerMember) (pseudonym : String) : Option ServerMember :=
  Keyed.find ServerMember.pseudonymKeyHex pseudonym members.reverse

theorem find_ofServer (pseudonym : String) (members : List ServerMember) :
    Keyed.find (StoredMember.key ∘ StoredMember.ofServer ownerKey communityId now) (ownerKey, communityId, pseudonym)
      members = Keyed.find ServerMember.pseudonymKeyHex pseudonym members := by
  induction members with
  | nil => rfl
  | cons member rest ih =>
    have hKey : (StoredMember.key ∘ StoredMember.ofServer ownerKey communityId now) member =
        (ownerKey, communityId, pseudonym) ↔ member.pseudonymKeyHex = pseudonym := by
      simp [StoredMember.key, StoredMember.ofServer]
    rw [Keyed.find_cons, Keyed.find_cons, ih]
    exact if_congr hKey rfl rfl

theorem memberRows_after (copy : CommunityCopy) (now : Int) (members : List ServerMember) (published : UInt64) :
    (copy.handleCommunityMemberListChange now (write (rosterValue members published))).memberRows =
      members.foldl (fun rows member => Keyed.insert StoredMember.key
        (.ofServer copy.ownerKey copy.communityId now member) rows) copy.memberRows := by
  have hRows : (members.map rosterEntryValue).filterMap (memberRowOf copy.ownerKey copy.communityId now) =
      members.map (StoredMember.ofServer copy.ownerKey copy.communityId now) := by
    rw [List.filterMap_map, List.filterMap_eq_map_iff_forall_eq_some]
    exact fun member _ => memberRowOf_rosterEntryValue member
  simp only [handleCommunityMemberListChange, parse_write, listIn_rosterValue, Option.getD_some, hRows]
  split
  · rename_i hEmpty
    rw [List.map_eq_nil_iff.mp hEmpty.1]
    rfl
  · rw [List.foldl_map]
    rfl

theorem member?_after (copy : CommunityCopy) (now : Int) (members : List ServerMember) (published : UInt64)
    (pseudonym : String) :
    (copy.handleCommunityMemberListChange now (write (rosterValue members published))).member? pseudonym =
      ((lastEntry members pseudonym).map (.ofServer copy.ownerKey copy.communityId now)).or (copy.member? pseudonym) := by
  have hFrame : (copy.handleCommunityMemberListChange now (write (rosterValue members published))).ownerKey =
      copy.ownerKey ∧ (copy.handleCommunityMemberListChange now (write (rosterValue members published))).communityId =
        copy.communityId := by
    rw [handleCommunityMemberListChange]
    split
    · exact ⟨rfl, rfl⟩
    · dsimp only
      split <;> exact ⟨rfl, rfl⟩
  rw [member?, hFrame.1, hFrame.2, memberRows_after, Keyed.find_foldl_insert_last, find_ofServer, lastEntry, member?]

theorem lastEntry_of_mem {member : ServerMember} (h : member ∈ members) :
    ∃ last ∈ members, lastEntry members member.pseudonymKeyHex = some last ∧
      last.pseudonymKeyHex = member.pseudonymKeyHex := by
  cases hLast : lastEntry members member.pseudonymKeyHex with
  | none => exact absurd rfl (Keyed.find_eq_none_iff.mp hLast member (List.mem_reverse.mpr h))
  | some last => exact ⟨last, List.mem_reverse.mp (List.mem_of_find?_eq_some hLast), rfl, Keyed.key_of_find hLast⟩

/-- The entries of the roster for one member agree. -/
def Consistent (members : List ServerMember) : Prop :=
  ∀ first ∈ members, ∀ second ∈ members, first.pseudonymKeyHex = second.pseudonymKeyHex →
    first.displayName = second.displayName ∧ first.roleIds = second.roleIds

theorem carried_after_iff (copy : CommunityCopy) (now : Int) (members : List ServerMember) (published : UInt64) :
    (∀ member ∈ members, ∃ row,
        (copy.handleCommunityMemberListChange now (write (rosterValue members published))).member?
          member.pseudonymKeyHex = some row ∧
        row.displayName = some member.displayName ∧ row.roleIds = roleIdsText member.roleIds) ↔
      Consistent members := by
  have hAgrees : Consistent members ↔ ∀ member ∈ members, ∀ last, lastEntry members member.pseudonymKeyHex = some last →
      last.displayName = member.displayName ∧ last.roleIds = member.roleIds := by
    constructor
    · intro hConsistent member hMember last hLast
      obtain ⟨other, hOther, hSame, hKey⟩ := lastEntry_of_mem hMember
      obtain rfl := Option.some.inj (hSame.symm.trans hLast)
      exact hConsistent other hOther member hMember hKey
    · intro hLast first hFirst second hSecond hKey
      obtain ⟨last, _, hFound, _⟩ := lastEntry_of_mem hFirst
      obtain ⟨hName, hRoles⟩ := hLast first hFirst last hFound
      obtain ⟨hName', hRoles'⟩ := hLast second hSecond last (hKey ▸ hFound)
      exact ⟨hName.symm.trans hName', hRoles.symm.trans hRoles'⟩
  rw [hAgrees]
  apply forall₂_congr
  intro member hMember
  obtain ⟨last, _, hFound, _⟩ := lastEntry_of_mem hMember
  rw [member?_after, hFound]
  simp only [Option.map_some, Option.some_or, Option.some.injEq, exists_eq_left', forall_eq', StoredMember.ofServer,
    roleIdsText_injective.eq_iff]

theorem listed_after_iff (copy : CommunityCopy) (now : Int) (members : List ServerMember) (published : UInt64) :
    (∀ pseudonym row,
        (copy.handleCommunityMemberListChange now (write (rosterValue members published))).member? pseudonym = some row →
        pseudonym ∈ members.map ServerMember.pseudonymKeyHex) ↔
      ∀ pseudonym row, copy.member? pseudonym = some row → pseudonym ∈ members.map ServerMember.pseudonymKeyHex := by
  apply forall_congr'
  intro pseudonym
  by_cases hListed : pseudonym ∈ members.map ServerMember.pseudonymKeyHex
  · exact iff_of_true (fun _ _ => hListed) fun _ _ => hListed
  · have hNone : lastEntry members pseudonym = none := by
      rw [lastEntry, Keyed.find_eq_none_iff]
      intro member hMember hKey
      exact hListed (List.mem_map.mpr ⟨member, List.mem_reverse.mp hMember, hKey⟩)
    rw [member?_after, hNone, Option.map_none, Option.none_or]

/-- The handler neither removes a member nor keeps a timeout: it does what it should if and only if there is
nothing of either kind. -/
theorem member_list_mirrored_iff (copy : CommunityCopy) (now : Int) (members : List ServerMember) (published : UInt64) :
    MirrorsRoster (copy.handleCommunityMemberListChange now (write (rosterValue members published))) members ∧
        KeepsTimeouts copy (copy.handleCommunityMemberListChange now (write (rosterValue members published))) members ↔
      Consistent members ∧
        (∀ pseudonym row, copy.member? pseudonym = some row → pseudonym ∈ members.map ServerMember.pseudonymKeyHex) ∧
        ∀ member ∈ members, ∀ row, copy.member? member.pseudonymKeyHex = some row → row.timeoutUntil = none := by
  have hMirrors : MirrorsRoster (copy.handleCommunityMemberListChange now (write (rosterValue members published)))
      members ↔ Consistent members ∧
        ∀ pseudonym row, copy.member? pseudonym = some row → pseudonym ∈ members.map ServerMember.pseudonymKeyHex := by
    rw [← carried_after_iff copy now members published, ← listed_after_iff copy now members published]
    exact ⟨fun h => ⟨h.carried, h.listed⟩, fun h => ⟨h.1, h.2⟩⟩
  rw [hMirrors, and_assoc]
  apply and_congr_right'
  apply and_congr_right'
  apply forall₂_congr
  intro member hMember
  apply forall₂_congr
  intro row _
  obtain ⟨last, _, hFound, _⟩ := lastEntry_of_mem hMember
  rw [member?_after, hFound]
  simp only [Option.map_some, Option.some_or, StoredMember.ofServer, Option.some.injEq]
  exact eq_comm

/-- A copy with a member who has been banned and one who is timed out. -/
def staleCopy : CommunityCopy :=
  { oneChannelLeft with
    memberRows := [⟨"bob", "c", "mallory", some "Mallory", ascii "[0,1]", none, 1⟩,
      ⟨"bob", "c", "alice", some "Alice", ascii "[0,1]", some 90, 1⟩] }

def aliceAlone : List ServerMember :=
  [{ pseudonymKeyHex := "alice", displayName := "Alice", roleIds := [0, 1], joinedAt := 1, routeBlob := none
     timeoutUntil := some 90 }]

/-- A member who was banned stays, and a timeout is lost. -/
theorem banned_member_stays :
    ¬MirrorsRoster (staleCopy.handleCommunityMemberListChange 5 (write (rosterValue aliceAlone 7))) aliceAlone ∧
      ¬KeepsTimeouts staleCopy (staleCopy.handleCommunityMemberListChange 5 (write (rosterValue aliceAlone 7)))
        aliceAlone := by
  have hMallory : staleCopy.member? "mallory" =
      some ⟨"bob", "c", "mallory", some "Mallory", ascii "[0,1]", none, 1⟩ := rfl
  constructor
  · intro hMirrors
    have hListed := (listed_after_iff staleCopy 5 aliceAlone 7).mp hMirrors.listed "mallory" _ hMallory
    revert hListed
    decide
  · intro hKeeps
    have hAlice := hKeeps _ List.mem_cons_self ⟨"bob", "c", "alice", some "Alice", ascii "[0,1]", some 90, 1⟩ rfl
    have hLast : lastEntry aliceAlone "alice" = aliceAlone.head? := rfl
    rw [member?_after, hLast] at hAlice
    cases hAlice

end CommunityCopy

end

end Rekindle.Community
