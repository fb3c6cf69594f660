import Rekindle.Protocol.CapnpCodec

/-! # Round trips of the wire codecs

Which values come back from each pair of an encoder and a decoder.
-/
namespace Rekindle.CapnpCodec
set_option autoImplicit false

open Capnp Client Codecs Fallible Utf8
open Protocol (Bytes ProtocolError)

/-! ## Fields -/

@[simp] theorem textToString_toBytes (text : String) : textToString (toBytes text) = .ok text := by
  simp [textToString, orThrow, Except.mapError]

@[simp] theorem getText_setText (text : String) : getText (setText text) = .ok text := textToString_toBytes text

@[simp] theorem getTextOrEmpty_setText (text : String) : getTextOrEmpty (setText text) = .ok text :=
  textToString_toBytes text

@[simp] theorem getDataOrEmpty_some (bytes : Bytes) : getDataOrEmpty (some bytes) = bytes := rfl

@[simp] theorem getDataOrEmpty_setNonEmpty (bytes : Bytes) : getDataOrEmpty (setNonEmpty bytes) = bytes := by
  unfold setNonEmpty
  split
  · next h => exact h.symm
  · rfl

theorem getOptionalText_setOptionalText {text : Option String} (hText : text ≠ some "") :
    getOptionalText (setOptionalText text) = .ok text := by
  cases text with
  | none => rfl
  | some s =>
    have hNonempty : s ≠ "" := fun h => hText (congrArg some h)
    have hGet : getText (setOptionalText (some s)) = .ok s := textToString_toBytes s
    simp only [getOptionalText, hGet]
    simp [has, setOptionalText, hNonempty, bind, Except.bind, pure, Except.pure]

theorem getOptionalLossy_setOptionalText {text : Option String} (hText : text ≠ some "") :
    getOptionalLossy (setOptionalText text) = text := by
  cases text with
  | none => rfl
  | some s =>
    have hNonempty : toBytes s ≠ [] := fun h => hText (congrArg some (toBytes_eq_nil_iff.mp h))
    simp [getOptionalLossy, setOptionalText, has, Capnp.get, hNonempty]

theorem getOptionalText_ne {pointer : Pointer Bytes} {text : Option String}
    (h : getOptionalText pointer = .ok text) : text ≠ some "" := by
  unfold getOptionalText at h
  split at h
  · obtain ⟨s, -, hText⟩ := bind_eq_ok_iff.mp h
    split at hText
    · cases hText
      simp
    · next hNonempty =>
      cases hText
      simpa using hNonempty
  · cases h
    simp

theorem getOptionalLossy_ne (pointer : Pointer Bytes) : getOptionalLossy pointer ≠ some "" := by
  unfold getOptionalLossy
  split
  · split
    · simp
    · next hNonempty => simpa using fromUtf8Lossy_ne_empty hNonempty
  · simp

@[simp] theorem getEnum_ordinal {α : Type} [DecidableEq α] [Enumeration α] (notInSchema : UInt16 → String) (a : α) :
    getEnum notInSchema (ordinal a) = .ok a := by
  simp [getEnum, orThrow]

theorem initList_eq_ok_iff {α : Type} {items : List α} {list : StructList α} :
    initList items = .ok list ↔ items = list.items := by
  unfold initList
  constructor
  · intro h
    split at h
    · cases h
      rfl
    · cases h
  · rintro rfl
    exact dif_pos list.length_le

/-! ## Codecs -/

section Codecs

variable (notInSchema : UInt16 → String)

def envelope : Codec ProtocolError Capnp.MessageEnvelope Client.MessageEnvelope :=
  .ofTotal encodeEnvelope fun root => .ok (decodeEnvelope root)

def chatMessage : Codec ProtocolError ChatMessage (String × Option Bytes) :=
  .ofTotal (fun (body, replyTo) => encodeChatMessage body replyTo) decodeChatMessage

def update (now : UInt64) : Codec ProtocolError PresenceUpdate (UInt8 × Option GameInfo) :=
  .ofTotal (fun (status, game) => encodeUpdate now status game) decodeUpdate

def gameStatus : Codec ProtocolError GameStatus GameInfo := .ofTotal encodeGameStatus decodeGameStatus

def gameInfo : Codec ProtocolError GameStatus GameInfo := .ofTotal encodeGameInfo decodeGameInfo

def profile : Codec ProtocolError Capnp.UserProfile UserProfile := .ofTotal encodeProfile (decodeProfile notInSchema)

def prekeyBundle : Codec ProtocolError Capnp.PreKeyBundle PreKeyBundle :=
  .ofTotal encodePrekeyBundle fun root => .ok (decodePrekeyBundle root)

def request : Codec ProtocolError Capnp.FriendRequest FriendRequest := .ofTotal encodeRequest decodeRequest

def friendEntry : Codec ProtocolError Capnp.FriendEntry FriendEntry := .ofTotal encodeFriendEntry decodeFriendEntry

def friendList : Codec ProtocolError FriendList (List FriendEntry) := ⟨encodeFriendList, decodeFriendList⟩

def community (ownerKey : String) :
    Codec ProtocolError Community (CommunityMetadata × List ChannelEntry × List Server.RoleDefinition) where
  encode := fun (metadata, channels, roles) => encodeCommunity metadata channels roles
  decode := decodeCommunity notInSchema ownerKey

def channels (ownerKey : String) : Codec ProtocolError Community (List ChannelEntry) where
  encode := encodeChannels
  decode root := (decodeCommunity notInSchema ownerKey root).map fun (_, channels, _) => channels

def roles (ownerKey : String) : Codec ProtocolError Community (List Server.RoleDefinition) where
  encode := encodeRoles
  decode root := (decodeCommunity notInSchema ownerKey root).map fun (_, _, roles) => roles

def members (error : Bytes → String) : Codec ProtocolError Bytes (List MemberEntry) :=
  .ofTotal encodeMembers (decodeMembers error)

def signaling : Codec ProtocolError Capnp.VoiceSignaling VoiceSignaling :=
  .ofTotal encodeSignaling (decodeSignaling notInSchema)

def accountHeader : Codec ProtocolError Capnp.AccountHeader AccountHeader :=
  .ofTotal encodeAccountHeader decodeAccountHeader

def contactEntry : Codec ProtocolError Capnp.ContactEntry ContactEntry := .ofTotal encodeContactEntry decodeContactEntry

def chatEntry : Codec ProtocolError Capnp.ChatEntry ChatEntry := .ofTotal encodeChatEntry decodeChatEntry

def conversationHeader : Codec ProtocolError Capnp.ConversationHeader ConversationHeader :=
  .ofTotal encodeConversationHeader (decodeConversationHeader notInSchema)

end Codecs

/-! ## Normal forms -/

def GameNormal (info : GameInfo) : Prop := info.serverInfo ≠ some ""

def ProfileNormal (profile : UserProfile) : Prop := profile.status ≤ 3 ∧ ∀ game ∈ profile.gameStatus, GameNormal game

structure EntryNormal (entry : FriendEntry) : Prop where
  nickname : entry.nickname ≠ some ""
  group : entry.group ≠ some ""
  profileDhtKey : entry.profileDhtKey = none

def ListNormal {α : Type} (Normal : α → Prop) (items : List α) : Prop :=
  items.length ≤ maxListLength ∧ ∀ item ∈ items, Normal item

structure MetadataNormal (ownerKey : String) (metadata : CommunityMetadata) : Prop where
  description : metadata.description ≠ some ""
  iconHash : metadata.iconHash ≠ some ""
  ownerKey : metadata.ownerKey = ownerKey
  lastRefreshed : metadata.lastRefreshed = 0

structure ChannelNormal (channel : ChannelEntry) : Prop where
  channelType : channel.channelType = "text" ∨ channel.channelType = "voice"
  latestMessageKey : channel.latestMessageKey ≠ some ""
  overwrites : channel.permissionOverwrites.length ≤ maxListLength

structure HeaderNormal (header : AccountHeader) : Prop where
  contactList : header.contactListKeypair ≠ some ""
  chatList : header.chatListKeypair ≠ some ""
  invitationList : header.invitationListKeypair ≠ some ""

/-! ## Faithful codecs -/

theorem envelope_faithful : envelope.Faithful fun _ => True := Codec.faithful_ofTotal_all fun _ => rfl

theorem chatMessage_faithful : chatMessage.Faithful fun _ => True := by
  refine Codec.faithful_ofTotal_all fun (body, replyTo) => ?_
  cases replyTo <;> simp [encodeChatMessage, decodeChatMessage, has, Capnp.get]

theorem readGameStatus_encode {info : GameInfo} (hInfo : GameNormal info) :
    readGameStatus (encodeGameStatus info) = .ok info := by
  simp only [readGameStatus, encodeGameStatus, getText_setText, getOptionalText_setOptionalText hInfo]
  rfl

theorem readGameStatus_normal {gs : GameStatus} {info : GameInfo} (h : readGameStatus gs = .ok info) :
    GameNormal info := by
  obtain ⟨gameName, -, h⟩ := bind_eq_ok_iff.mp h
  obtain ⟨serverInfo, hServerInfo, h⟩ := bind_eq_ok_iff.mp h
  cases h
  exact getOptionalText_ne hServerInfo

theorem gameStatus_faithful : gameStatus.Faithful GameNormal :=
  Codec.faithful_ofTotal (fun _ hInfo => readGameStatus_encode hInfo) fun _ _ h => readGameStatus_normal h

theorem gameInfo_faithful : gameInfo.Faithful GameNormal := gameStatus_faithful

/-- The game status inside another message. -/
def optionalGame (pointer : Pointer GameStatus) : Decoded (Option GameInfo) :=
  if has pointer then do
    let info ← readGameStatus (get pointer)
    pure (some info)
  else pure none

theorem optionalGame_encode {game : Option GameInfo} (hGame : ∀ info ∈ game, GameNormal info) :
    optionalGame (game.map encodeGameStatus) = .ok game := by
  cases game with
  | none => rfl
  | some info =>
    have hRead := readGameStatus_encode (hGame info rfl)
    simp only [optionalGame, has, Capnp.get, Option.map_some, Option.isSome_some, if_true, Option.getD_some, hRead]
    rfl

theorem optionalGame_normal {pointer : Pointer GameStatus} {game : Option GameInfo}
    (h : optionalGame pointer = .ok game) : ∀ info ∈ game, GameNormal info := by
  unfold optionalGame at h
  split at h
  · obtain ⟨info, hInfo, h⟩ := bind_eq_ok_iff.mp h
    cases h
    rintro _ ⟨⟩
    exact readGameStatus_normal hInfo
  · cases h
    rintro _ ⟨⟩

theorem decodeUpdate_eq (root : PresenceUpdate) : decodeUpdate root = (do
    let game ← optionalGame root.gameStatus
    pure (root.status, game)) := by
  unfold decodeUpdate optionalGame
  split <;> simp

theorem update_faithful (now : UInt64) :
    (update now).Faithful fun (_, game) => ∀ info ∈ game, GameNormal info := by
  refine Codec.faithful_ofTotal (fun (status, game) hGame => ?_) fun root value hDecode => ?_
  · have hRead : optionalGame (encodeUpdate now status game).gameStatus = .ok game := optionalGame_encode hGame
    rw [decodeUpdate_eq, hRead]
    rfl
  · rw [decodeUpdate_eq] at hDecode
    obtain ⟨game, hGame, hDecode⟩ := bind_eq_ok_iff.mp hDecode
    cases hDecode
    exact optionalGame_normal hGame

/-! ### Profiles and bundles -/

theorem statusByte_statusEnum {status : UInt8} (hStatus : status ≤ 3) : statusByte (statusEnum status) = status := by
  have hNat : status.toNat ≤ 3 := hStatus
  unfold statusEnum
  split
  · next h => exact h.symm
  · split
    · next h => exact h.symm
    · split
      · next h => exact h.symm
      · next h0 h1 h2 =>
        rw [← UInt8.toNat_inj] at h0 h1 h2 ⊢
        change status.toNat ≠ 0 at h0
        change status.toNat ≠ 1 at h1
        change status.toNat ≠ 2 at h2
        change 3 = status.toNat
        omega

theorem statusByte_le (status : Status) : statusByte status ≤ 3 := by cases status <;> decide

theorem decodeProfile_eq (notInSchema : UInt16 → String) (root : Capnp.UserProfile) :
    decodeProfile notInSchema root = (do
      let status ← getEnum notInSchema root.status
      let gameStatus ← optionalGame root.gameStatus
      let displayName ← getText root.displayName
      let statusMessage ← getTextOrEmpty root.statusMessage
      pure {
        displayName := displayName
        statusMessage := statusMessage
        status := statusByte status
        avatarHash := getDataOrEmpty root.avatarHash
        gameStatus := gameStatus }) := by
  unfold decodeProfile optionalGame readGameStatus
  split <;> simp

theorem profile_faithful (notInSchema : UInt16 → String) : (profile notInSchema).Faithful ProfileNormal := by
  refine Codec.faithful_ofTotal (fun value hValue => ?_) fun root value hDecode => ?_
  · have hGame : optionalGame (encodeProfile value).gameStatus = .ok value.gameStatus := optionalGame_encode hValue.2
    rw [decodeProfile_eq, hGame]
    simp only [encodeProfile, getEnum_ordinal, getText_setText, getTextOrEmpty_setText, getDataOrEmpty_setNonEmpty]
    simp [bind, Except.bind, pure, Except.pure, statusByte_statusEnum hValue.1]
  · rw [decodeProfile_eq] at hDecode
    obtain ⟨status, -, hDecode⟩ := bind_eq_ok_iff.mp hDecode
    obtain ⟨game, hGame, hDecode⟩ := bind_eq_ok_iff.mp hDecode
    obtain ⟨displayName, -, hDecode⟩ := bind_eq_ok_iff.mp hDecode
    obtain ⟨statusMessage, -, hDecode⟩ := bind_eq_ok_iff.mp hDecode
    cases hDecode
    exact ⟨statusByte_le status, optionalGame_normal hGame⟩

theorem prekeyBundle_faithful : prekeyBundle.Faithful fun _ => True := Codec.faithful_ofTotal_all fun _ => rfl

/-! ### Friends -/

theorem request_faithful : request.Faithful fun _ => True := by
  refine Codec.faithful_ofTotal_all fun value => ?_
  simp only [encodeRequest, decodeRequest, getText_setText]
  rfl

theorem friendEntry_faithful : friendEntry.Faithful EntryNormal := by
  refine Codec.faithful_ofTotal (fun entry hEntry => ?_) fun fe entry hDecode => ?_
  · simp only [decodeFriendEntry, encodeFriendEntry, get_some, ofBytes_toBytes,
      getOptionalText_setOptionalText hEntry.nickname, getOptionalText_setOptionalText hEntry.group]
    rw [← hEntry.profileDhtKey]
    rfl
  · obtain ⟨publicKey, -, hDecode⟩ := bind_eq_ok_iff.mp hDecode
    obtain ⟨nickname, hNickname, hDecode⟩ := bind_eq_ok_iff.mp hDecode
    obtain ⟨group, hGroup, hDecode⟩ := bind_eq_ok_iff.mp hDecode
    cases hDecode
    exact ⟨getOptionalText_ne hNickname, getOptionalText_ne hGroup, rfl⟩

/-! ### Lists of structs -/

def structList {Message Value : Type} (codec : Codec ProtocolError Message Value) :
    Codec ProtocolError (StructList Message) (List Value) where
  encode values := codec.list.encode values >>= initList
  decode list := codec.list.decode list.items

theorem structList_faithful {Message Value : Type} {codec : Codec ProtocolError Message Value}
    {Normal : Value → Prop} (h : codec.Faithful Normal) : (structList codec).Faithful (ListNormal Normal) where
  restores values hValues := by
    obtain ⟨messages, hEncode, hDecode⟩ := h.list.restores values hValues.2
    have hLength : messages.length ≤ maxListLength := by
      rw [← Codec.length_of_encode hEncode]
      exact hValues.1
    refine ⟨⟨messages, hLength⟩, ?_, hDecode⟩
    change codec.list.encode values >>= initList = _
    rw [hEncode]
    exact initList_eq_ok_iff.mpr rfl
  normal list values hDecode := by
    refine ⟨?_, h.list.normal list.items values hDecode⟩
    rw [Codec.length_of_decode hDecode]
    exact list.length_le

theorem structList_ofTotal_encode {Message Value : Type} (build : Value → Message) (read : Message → Decoded Value)
    (values : List Value) : (structList (.ofTotal build read)).encode values = initList (values.map build) := by
  change (values.mapM fun value => .ok (build value)) >>= initList = _
  rw [Codec.mapM_ok]
  rfl

theorem friendList_faithful : friendList.Faithful (ListNormal EntryNormal) where
  restores entries hEntries := by
    obtain ⟨list, hEncode, hDecode⟩ := (structList_faithful friendEntry_faithful).restores entries hEntries
    have hBuilt : initList (entries.map encodeFriendEntry) = .ok list :=
      (structList_ofTotal_encode ..).symm.trans hEncode
    refine ⟨⟨some list⟩, ?_, hDecode⟩
    change encodeFriendList entries = _
    rw [encodeFriendList, hBuilt]
    rfl
  normal root entries hDecode := (structList_faithful friendEntry_faithful).normal _ entries hDecode

/-! ### Communities -/

section Community

variable (notInSchema : UInt16 → String)

def overwrite : Codec ProtocolError Capnp.PermissionOverwrite Server.PermissionOverwrite :=
  .ofTotal encodeOverwrite (decodeOverwrite notInSchema)

def channel : Codec ProtocolError Channel ChannelEntry := ⟨encodeChannel, decodeChannel notInSchema⟩

def role : Codec ProtocolError Role Server.RoleDefinition := .ofTotal encodeRole decodeRole

theorem overwriteTypeOf_enum (targetType : Server.OverwriteType) :
    overwriteTypeOf (overwriteTypeEnum targetType) = targetType := by cases targetType <;> rfl

theorem overwrite_faithful : (overwrite notInSchema).Faithful fun _ => True := by
  refine Codec.faithful_ofTotal_all fun ow => ?_
  simp only [decodeOverwrite, encodeOverwrite, getEnum_ordinal, getText_setText]
  simp [bind, Except.bind, pure, Except.pure, overwriteTypeOf_enum]

theorem role_faithful : role.Faithful fun _ => True := by
  refine Codec.faithful_ofTotal_all fun value => ?_
  simp only [decodeRole, encodeRole, getText_setText]
  rfl

/-- The overwrites of a channel: an empty list is not set. -/
def overwrites : Codec ProtocolError (Pointer (StructList Capnp.PermissionOverwrite)) (List Server.PermissionOverwrite) where
  encode values := if values = [] then pure none else do
    let list ← initList (values.map encodeOverwrite)
    pure (some list)
  decode pointer := if has pointer then (get pointer).items.mapM (decodeOverwrite notInSchema) else pure []

theorem overwrites_faithful :
    (overwrites notInSchema).Faithful fun values => values.length ≤ maxListLength where
  restores values hValues := by
    by_cases hEmpty : values = []
    · subst hEmpty
      exact ⟨none, rfl, rfl⟩
    · obtain ⟨list, hEncode, hDecode⟩ := (structList_faithful (overwrite_faithful notInSchema)).restores values
        ⟨hValues, fun _ _ => trivial⟩
      refine ⟨some list, ?_, hDecode⟩
      rw [overwrite, structList_ofTotal_encode] at hEncode
      simp only [overwrites, if_neg hEmpty, hEncode]
      rfl
  normal pointer values hDecode := by
    cases pointer with
    | none =>
      cases hDecode
      exact Nat.zero_le _
    | some list => exact ((structList_faithful (overwrite_faithful notInSchema)).normal list values hDecode).1

theorem encodeChannel_eq (ch : ChannelEntry) : encodeChannel ch = (do
    let overwrites ← (overwrites notInSchema).encode ch.permissionOverwrites
    pure {
      id := setText ch.id
      name := setText ch.name
      type := ordinal (channelTypeEnum ch.channelType)
      sortOrder := ch.sortOrder
      latestMessageKey := setOptionalText ch.latestMessageKey
      permissionOverwrites := overwrites }) := by
  unfold encodeChannel overwrites
  by_cases hEmpty : ch.permissionOverwrites = [] <;> simp [hEmpty]

theorem decodeChannel_eq (c : Channel) : decodeChannel notInSchema c = (do
    let channelType ← getEnum notInSchema c.type
    let permissionOverwrites ← (overwrites notInSchema).decode c.permissionOverwrites
    let id ← getText c.id
    let name ← getText c.name
    pure {
      id := id
      name := name
      channelType := channelTypeText channelType
      sortOrder := c.sortOrder
      latestMessageKey := getOptionalLossy c.latestMessageKey
      permissionOverwrites := permissionOverwrites }) := by
  unfold decodeChannel overwrites
  by_cases hSet : has c.permissionOverwrites <;> simp [hSet]

theorem channelTypeText_enum {channelType : String} (h : channelType = "text" ∨ channelType = "voice") :
    channelTypeText (channelTypeEnum channelType) = channelType := by
  rcases h with rfl | rfl <;> rfl

theorem channelTypeText_known (channelType : ChannelType) :
    channelTypeText channelType = "text" ∨ channelTypeText channelType = "voice" := by
  cases channelType <;> simp [channelTypeText]

theorem channel_faithful : (channel notInSchema).Faithful ChannelNormal where
  restores ch hChannel := by
    obtain ⟨pointer, hEncode, hDecode⟩ := (overwrites_faithful notInSchema).restores _ hChannel.overwrites
    refine ⟨{
      id := setText ch.id
      name := setText ch.name
      type := ordinal (channelTypeEnum ch.channelType)
      sortOrder := ch.sortOrder
      latestMessageKey := setOptionalText ch.latestMessageKey
      permissionOverwrites := pointer }, ?_, ?_⟩
    · change encodeChannel ch = _
      rw [encodeChannel_eq notInSchema, hEncode]
      rfl
    · change decodeChannel notInSchema _ = _
      rw [decodeChannel_eq]
      simp only [hDecode, getEnum_ordinal, getText_setText, getOptionalLossy_setOptionalText hChannel.latestMessageKey,
        bind, Except.bind, pure, Except.pure, channelTypeText_enum hChannel.channelType]
  normal c ch hDecode := by
    change decodeChannel notInSchema c = _ at hDecode
    rw [decodeChannel_eq] at hDecode
    obtain ⟨channelType, -, hDecode⟩ := bind_eq_ok_iff.mp hDecode
    obtain ⟨list, hList, hDecode⟩ := bind_eq_ok_iff.mp hDecode
    obtain ⟨id, -, hDecode⟩ := bind_eq_ok_iff.mp hDecode
    obtain ⟨name, -, hDecode⟩ := bind_eq_ok_iff.mp hDecode
    cases hDecode
    exact ⟨channelTypeText_known channelType, getOptionalLossy_ne _, (overwrites_faithful notInSchema).normal _ _ hList⟩

/-- What comes back of a community: its owner is the reader's, and the refresh is forgotten. -/
theorem community_restores {metadata : CommunityMetadata} {entries : List ChannelEntry}
    {definitions : List Server.RoleDefinition} (hDescription : metadata.description ≠ some "")
    (hIcon : metadata.iconHash ≠ some "") (hChannels : ListNormal ChannelNormal entries)
    (hRoles : definitions.length ≤ maxListLength) :
    ∃ message, encodeCommunity metadata entries definitions = .ok message ∧
      ∀ ownerKey, decodeCommunity notInSchema ownerKey message =
        .ok ({ metadata with ownerKey := ownerKey, lastRefreshed := 0 }, entries, definitions) := by
  obtain ⟨channelList, hChannelList, hChannelsBack⟩ :=
    (structList_faithful (channel_faithful notInSchema)).restores entries hChannels
  obtain ⟨roleList, hRoleList, hRolesBack⟩ :=
    (structList_faithful role_faithful).restores definitions ⟨hRoles, fun _ _ => trivial⟩
  rw [role, structList_ofTotal_encode] at hRoleList
  have hMessages : (do
      let messages ← entries.mapM encodeChannel
      initList messages) = .ok channelList := hChannelList
  have hChannelsBack : channelList.items.mapM (decodeChannel notInSchema) = .ok entries := hChannelsBack
  have hRolesBack : roleList.items.mapM decodeRole = .ok definitions := hRolesBack
  refine ⟨{
    name := setText metadata.name
    description := setOptionalText metadata.description
    iconHash := setOptionalText metadata.iconHash
    createdAt := metadata.createdAt
    channels := some channelList
    roles := some roleList }, ?_, fun ownerKey => ?_⟩
  · rw [encodeCommunity, ← bind_assoc, hMessages, hRoleList]
    rfl
  · simp only [decodeCommunity, decodeMetadata, get_some, hChannelsBack, hRolesBack, getText_setText,
      getOptionalText_setOptionalText hDescription, getOptionalLossy_setOptionalText hIcon]
    rfl

theorem decodeCommunity_normal {ownerKey : String} {root : Community} {metadata : CommunityMetadata}
    {entries : List ChannelEntry} {definitions : List Server.RoleDefinition}
    (h : decodeCommunity notInSchema ownerKey root = .ok (metadata, entries, definitions)) :
    MetadataNormal ownerKey metadata ∧ ListNormal ChannelNormal entries ∧ definitions.length ≤ maxListLength := by
  obtain ⟨read, hMetadata, h⟩ := bind_eq_ok_iff.mp h
  obtain ⟨readChannels, hChannels, h⟩ := bind_eq_ok_iff.mp h
  obtain ⟨readRoles, hRoles, h⟩ := bind_eq_ok_iff.mp h
  cases h
  obtain ⟨name, -, hMetadata⟩ := bind_eq_ok_iff.mp hMetadata
  obtain ⟨description, hDescription, hMetadata⟩ := bind_eq_ok_iff.mp hMetadata
  cases hMetadata
  exact ⟨⟨getOptionalText_ne hDescription, getOptionalLossy_ne _, rfl, rfl⟩,
    (structList_faithful (channel_faithful notInSchema)).normal _ _ hChannels,
    ((structList_faithful role_faithful).normal _ _ hRoles).1⟩

theorem community_faithful (ownerKey : String) :
    (community notInSchema ownerKey).Faithful fun (metadata, entries, definitions) =>
      MetadataNormal ownerKey metadata ∧ ListNormal ChannelNormal entries ∧ definitions.length ≤ maxListLength where
  restores := by
    rintro ⟨metadata, entries, definitions⟩ ⟨hMetadata, hChannels, hRoles⟩
    obtain ⟨message, hEncode, hDecode⟩ :=
      community_restores notInSchema hMetadata.description hMetadata.iconHash hChannels hRoles
    refine ⟨message, hEncode, (hDecode ownerKey).trans ?_⟩
    rw [← hMetadata.ownerKey, ← hMetadata.lastRefreshed]
  normal _ _ hDecode := decodeCommunity_normal notInSchema hDecode

/-- A list on its own, in a community without metadata. -/
theorem bare_restores {entries : List ChannelEntry} {definitions : List Server.RoleDefinition}
    (hChannels : ListNormal ChannelNormal entries) (hRoles : definitions.length ≤ maxListLength) (ownerKey : String) :
    ∃ message metadata, encodeCommunity noMetadata entries definitions = .ok message ∧
      decodeCommunity notInSchema ownerKey message = .ok (metadata, entries, definitions) := by
  have hDescription : noMetadata.description ≠ some "" := by simp [noMetadata]
  have hIcon : noMetadata.iconHash ≠ some "" := by simp [noMetadata]
  obtain ⟨message, hEncode, hDecode⟩ := community_restores notInSchema hDescription hIcon hChannels hRoles
  exact ⟨message, _, hEncode, hDecode ownerKey⟩

theorem channels_faithful (ownerKey : String) : (channels notInSchema ownerKey).Faithful (ListNormal ChannelNormal) where
  restores entries hChannels := by
    have hNone : ([] : List Server.RoleDefinition).length ≤ maxListLength := Nat.zero_le _
    obtain ⟨message, metadata, hEncode, hDecode⟩ := bare_restores notInSchema hChannels hNone ownerKey
    exact ⟨message, hEncode, map_eq_ok_iff.mpr ⟨_, hDecode, rfl⟩⟩
  normal root entries hDecode := by
    obtain ⟨⟨metadata, decoded, definitions⟩, hCommunity, rfl⟩ := map_eq_ok_iff.mp hDecode
    exact (decodeCommunity_normal notInSchema hCommunity).2.1

theorem roles_faithful (ownerKey : String) :
    (roles notInSchema ownerKey).Faithful fun definitions => definitions.length ≤ maxListLength where
  restores definitions hRoles := by
    have hNone : ListNormal ChannelNormal [] := ⟨Nat.zero_le _, fun _ h => absurd h List.not_mem_nil⟩
    obtain ⟨message, metadata, hEncode, hDecode⟩ := bare_restores notInSchema hNone hRoles ownerKey
    exact ⟨message, hEncode, map_eq_ok_iff.mpr ⟨_, hDecode, rfl⟩⟩
  normal root definitions hDecode := by
    obtain ⟨⟨metadata, entries, decoded⟩, hCommunity, rfl⟩ := map_eq_ok_iff.mp hDecode
    exact (decodeCommunity_normal notInSchema hCommunity).2.2

end Community

/-! ### Members -/

section Members

open Json

@[simp] theorem timeOf_timeValue (time : UInt64) : timeOf (timeValue time) = some time := by
  rw [timeValue, timeOf, if_pos time.toNat_lt, UInt64.ofNat_toNat]

theorem roleIdsOf_values (roleIds : List UInt32) : roleIdsOf (.array (roleIds.map wordValue)) = some roleIds := by
  rw [roleIdsOf]
  induction roleIds with
  | nil => rfl
  | cons id roleIds ih => simp [List.mapM_cons, ih]

theorem optionOf_textValue (text : String) : optionOf textOf (textValue text) = some (some text) :=
  congrArg (Option.map some) (textOf_textValue text)

theorem optionOf_timeValue (time : UInt64) : optionOf timeOf (timeValue time) = some (some time) :=
  congrArg (Option.map some) (timeOf_timeValue time)

theorem memberOf_memberValue (member : MemberEntry) : memberOf (memberValue member) = some member := by
  obtain ⟨pseudonymKey, role, roleIds, joinedAt, timeoutUntil⟩ := member
  cases role <;> cases timeoutUntil <;>
    simp [memberOf, memberValue, objectValue, field, defaultField, onceEach, memberNames, List.lookup_cons,
      List.lookup_nil, List.filter, optionOf_textValue, optionOf_timeValue, roleIdsOf_values]

theorem members_faithful (error : Bytes → String) : (members error).Faithful fun _ => True := by
  refine Codec.faithful_ofTotal_all fun list => ?_
  have hList : membersOf (.array (list.map memberValue)) = some list := by
    rw [membersOf]
    induction list with
    | nil => rfl
    | cons member list ih => simp [List.mapM_cons, memberOf_memberValue, ih]
  rw [decodeMembers, encodeMembers, parse_write, Option.bind_some, hList]
  rfl

end Members

/-! ### Accounts and conversations -/

theorem signaling_faithful (notInSchema : UInt16 → String) : (signaling notInSchema).Faithful fun _ => True := by
  refine Codec.faithful_ofTotal_all fun sig => ?_
  simp only [decodeSignaling, encodeSignaling, getEnum_ordinal, getText_setText]
  rfl

theorem accountHeader_faithful : accountHeader.Faithful HeaderNormal := by
  refine Codec.faithful_ofTotal (fun header hHeader => ?_) fun root header hDecode => ?_
  · simp only [decodeAccountHeader, encodeAccountHeader, getText_setText, getTextOrEmpty_setText,
      getDataOrEmpty_setNonEmpty, getOptionalText_setOptionalText hHeader.contactList,
      getOptionalText_setOptionalText hHeader.chatList, getOptionalText_setOptionalText hHeader.invitationList]
    rfl
  · obtain ⟨contactListKey, -, hDecode⟩ := bind_eq_ok_iff.mp hDecode
    obtain ⟨chatListKey, -, hDecode⟩ := bind_eq_ok_iff.mp hDecode
    obtain ⟨invitationListKey, -, hDecode⟩ := bind_eq_ok_iff.mp hDecode
    obtain ⟨displayName, -, hDecode⟩ := bind_eq_ok_iff.mp hDecode
    obtain ⟨statusMessage, -, hDecode⟩ := bind_eq_ok_iff.mp hDecode
    obtain ⟨contactList, hContactList, hDecode⟩ := bind_eq_ok_iff.mp hDecode
    obtain ⟨chatList, hChatList, hDecode⟩ := bind_eq_ok_iff.mp hDecode
    obtain ⟨invitationList, hInvitationList, hDecode⟩ := bind_eq_ok_iff.mp hDecode
    cases hDecode
    exact ⟨getOptionalText_ne hContactList, getOptionalText_ne hChatList, getOptionalText_ne hInvitationList⟩

theorem contactEntry_faithful : contactEntry.Faithful fun _ => True := by
  refine Codec.faithful_ofTotal_all fun entry => ?_
  simp only [decodeContactEntry, encodeContactEntry, getText_setText, getTextOrEmpty_setText]
  rfl

theorem chatEntry_faithful : chatEntry.Faithful fun _ => True := by
  refine Codec.faithful_ofTotal_all fun entry => ?_
  simp only [decodeChatEntry, encodeChatEntry, getText_setText]
  rfl

/-- A header is read as its profile and its bundle are on their own. -/
theorem decodeConversationHeader_eq (notInSchema : UInt16 → String) (root : Capnp.ConversationHeader) :
    decodeConversationHeader notInSchema root = (do
      let profile ← decodeProfile notInSchema (get root.profile)
      let messageLogKey ← getText root.messageLogKey
      pure {
        identityPublicKey := get root.identityPublicKey
        profile := profile
        messageLogKey := messageLogKey
        routeBlob := getDataOrEmpty root.routeBlob
        prekeyBundle := decodePrekeyBundle (get root.preKeyBundle)
        createdAt := root.createdAt
        updatedAt := root.updatedAt }) := by
  unfold decodeConversationHeader decodeProfile decodePrekeyBundle
  by_cases hGame : has (Capnp.get root.profile).gameStatus <;> simp [hGame]

theorem conversationHeader_faithful (notInSchema : UInt16 → String) :
    (conversationHeader notInSchema).Faithful fun header => ProfileNormal header.profile := by
  refine Codec.faithful_ofTotal (fun header hHeader => ?_) fun root header hDecode => ?_
  · obtain ⟨message, hEncode, hProfile⟩ := (profile_faithful notInSchema).restores header.profile hHeader
    cases hEncode
    have hProfile : decodeProfile notInSchema (get (encodeConversationHeader header).profile) = .ok header.profile :=
      hProfile
    rw [decodeConversationHeader_eq, hProfile]
    simp only [encodeConversationHeader, getText_setText, decodePrekeyBundle, get_some, getDataOrEmpty_setNonEmpty,
      getDataOrEmpty_some]
    rfl
  · rw [decodeConversationHeader_eq] at hDecode
    obtain ⟨read, hProfile, hDecode⟩ := bind_eq_ok_iff.mp hDecode
    obtain ⟨messageLogKey, -, hDecode⟩ := bind_eq_ok_iff.mp hDecode
    cases hDecode
    exact (profile_faithful notInSchema).normal _ _ hProfile

end Rekindle.CapnpCodec
