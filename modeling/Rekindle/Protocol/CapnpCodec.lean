import Rekindle.Client.Codec
import Rekindle.Protocol.CapnpMessages

/-! # Domain values as messages

Each `encode` function says what the builder sets, each `decode` function what becomes of what the
reader gets. An encoder that asks for an element past the end of a list panics.
-/
namespace Rekindle.CapnpCodec
set_option autoImplicit false

open Capnp Client Codecs Utf8
open Protocol (Bytes ProtocolError)

abbrev Decoded := Except ProtocolError

/-! ## Fields -/

def textToString (text : Bytes) : Decoded String :=
  (Fallible.orThrow (ofBytes text) ()).mapError fun _ =>
    .deserialization ("invalid UTF-8 in capnp text: " ++ utf8Error text)

def getText (pointer : Pointer Bytes) : Decoded String := textToString (get pointer)

/-- An empty text is read as no text. -/
def getOptionalText (pointer : Pointer Bytes) : Decoded (Option String) :=
  if has pointer then do
    let s ← getText pointer
    pure (if s = "" then none else some s)
  else pure none

def getTextOrEmpty (pointer : Pointer Bytes) : Decoded String :=
  if has pointer then getText pointer else pure ""

def getDataOrEmpty (pointer : Pointer Bytes) : Bytes := if has pointer then get pointer else []

/-- A text that is stored as data. -/
def getOptionalLossy (pointer : Pointer Bytes) : Option String :=
  if has pointer then
    if get pointer = [] then none else some (fromUtf8Lossy (get pointer))
  else none

def setText (text : String) : Pointer Bytes := some (toBytes text)

def setOptionalText (text : Option String) : Pointer Bytes := text.map toBytes

def setNonEmpty (bytes : Bytes) : Pointer Bytes := if bytes = [] then none else some bytes

/-- The elements of a list that is initialised with `u32::try_from(len).unwrap_or(u32::MAX)`. The
index of an element that does not fit saturates, and there is no such element. -/
def initList {α : Type} (items : List α) : Decoded (StructList α) :=
  if h : items.length ≤ maxListLength then .ok ⟨items, h⟩ else .error .panicked

section Enums

variable (notInSchema : UInt16 → String)

def getEnum {α : Type} [Enumeration α] (n : UInt16) : Decoded α :=
  Fallible.orThrow (ofOrdinal? n) (.deserialization ("capnp enum: " ++ notInSchema n))

end Enums

/-! ## message.capnp -/

def encodeEnvelope (env : Client.MessageEnvelope) : Capnp.MessageEnvelope where
  senderKey := some env.senderKey
  timestamp := env.timestamp
  nonce := some env.nonce
  payload := some env.payload
  signature := some env.signature

def decodeEnvelope (root : Capnp.MessageEnvelope) : Client.MessageEnvelope where
  senderKey := get root.senderKey
  timestamp := root.timestamp
  nonce := get root.nonce
  payload := get root.payload
  signature := get root.signature

def encodeChatMessage (body : String) (replyTo : Option Bytes) : ChatMessage where
  body := setText body
  replyTo := replyTo

def decodeChatMessage (root : ChatMessage) : Decoded (String × Option Bytes) := do
  let body ← getText root.body
  let replyTo := if has root.replyTo then some (get root.replyTo) else none
  pure (body, replyTo)

/-! ## presence.capnp -/

def encodeGameStatus (info : GameInfo) : GameStatus where
  gameId := info.gameId
  gameName := setText info.gameName
  serverInfo := setOptionalText info.serverInfo
  elapsedSeconds := info.elapsedSeconds

def readGameStatus (gs : GameStatus) : Decoded GameInfo := do
  let gameName ← getText gs.gameName
  let serverInfo ← getOptionalText gs.serverInfo
  pure { gameId := gs.gameId, gameName := gameName, serverInfo := serverInfo, elapsedSeconds := gs.elapsedSeconds }

def decodeGameStatus (root : GameStatus) : Decoded GameInfo := readGameStatus root

def encodeGameInfo (info : GameInfo) : GameStatus := encodeGameStatus info

def decodeGameInfo (root : GameStatus) : Decoded GameInfo := decodeGameStatus root

/-- `now` is the clock of the encoder. -/
def encodeUpdate (now : UInt64) (status : UInt8) (game : Option GameInfo) : PresenceUpdate where
  status := status
  gameStatus := game.map fun g => {
    gameId := g.gameId
    gameName := setText g.gameName
    serverInfo := setOptionalText g.serverInfo
    elapsedSeconds := g.elapsedSeconds }
  timestamp := now

def decodeUpdate (root : PresenceUpdate) : Decoded (UInt8 × Option GameInfo) := do
  let game ←
    if has root.gameStatus then do
      let info ← readGameStatus (get root.gameStatus)
      pure (some info)
    else pure none
  pure (root.status, game)

/-! ## identity.capnp -/

structure UserProfile where
  displayName : String
  statusMessage : String
  /-- 0=online, 1=away, 2=busy, 3=offline -/
  status : UInt8
  avatarHash : Bytes
  gameStatus : Option GameInfo
  deriving DecidableEq

structure PreKeyBundle where
  identityKey : Bytes
  signedPreKey : Bytes
  signedPreKeySig : Bytes
  oneTimePreKey : Bytes
  registrationId : UInt32
  deriving DecidableEq

def statusEnum (status : UInt8) : Status :=
  if status = 0 then .online else if status = 1 then .away else if status = 2 then .busy else .offline

def statusByte : Status → UInt8
  | .online => 0
  | .away => 1
  | .busy => 2
  | .offline => 3

def encodeProfile (profile : UserProfile) : Capnp.UserProfile where
  displayName := setText profile.displayName
  statusMessage := setText profile.statusMessage
  status := ordinal (statusEnum profile.status)
  avatarHash := setNonEmpty profile.avatarHash
  gameStatus := profile.gameStatus.map fun g => {
    gameId := g.gameId
    gameName := setText g.gameName
    serverInfo := setOptionalText g.serverInfo
    elapsedSeconds := g.elapsedSeconds }

def decodeProfile (notInSchema : UInt16 → String) (root : Capnp.UserProfile) : Decoded UserProfile := do
  let status ← getEnum notInSchema root.status
  let gameStatus ←
    if has root.gameStatus then do
      let gs := get root.gameStatus
      let gameName ← getText gs.gameName
      let serverInfo ← getOptionalText gs.serverInfo
      pure (some {
        gameId := gs.gameId, gameName := gameName, serverInfo := serverInfo, elapsedSeconds := gs.elapsedSeconds })
    else pure none
  let displayName ← getText root.displayName
  let statusMessage ← getTextOrEmpty root.statusMessage
  pure {
    displayName := displayName
    statusMessage := statusMessage
    status := statusByte status
    avatarHash := getDataOrEmpty root.avatarHash
    gameStatus := gameStatus }

def encodePrekeyBundle (bundle : PreKeyBundle) : Capnp.PreKeyBundle where
  identityKey := some bundle.identityKey
  signedPreKey := some bundle.signedPreKey
  signedPreKeySig := some bundle.signedPreKeySig
  oneTimePreKey := some bundle.oneTimePreKey
  registrationId := bundle.registrationId

def decodePrekeyBundle (root : Capnp.PreKeyBundle) : PreKeyBundle where
  identityKey := get root.identityKey
  signedPreKey := get root.signedPreKey
  signedPreKeySig := get root.signedPreKeySig
  oneTimePreKey := getDataOrEmpty root.oneTimePreKey
  registrationId := root.registrationId

/-! ## friend.capnp -/

structure FriendRequest where
  senderKey : Bytes
  displayName : String
  message : String
  prekeyBundle : Bytes
  deriving DecidableEq

structure FriendEntry where
  publicKey : String
  nickname : Option String
  group : Option String
  addedAt : UInt64
  profileDhtKey : Option String
  deriving DecidableEq

def encodeRequest (req : FriendRequest) : Capnp.FriendRequest where
  senderKey := some req.senderKey
  displayName := setText req.displayName
  message := setText req.message
  preKeyBundle := some req.prekeyBundle

def decodeRequest (root : Capnp.FriendRequest) : Decoded FriendRequest := do
  let displayName ← getText root.displayName
  let message ← getText root.message
  pure {
    senderKey := get root.senderKey
    displayName := displayName
    message := message
    prekeyBundle := get root.preKeyBundle }

def encodeFriendEntry (entry : FriendEntry) : Capnp.FriendEntry where
  publicKey := some (toBytes entry.publicKey)
  nickname := setOptionalText entry.nickname
  groupName := setOptionalText entry.group
  addedAt := entry.addedAt

def decodeFriendEntry (fe : Capnp.FriendEntry) : Decoded FriendEntry := do
  let publicKeyBytes := get fe.publicKey
  let publicKey ← (Fallible.orThrow (ofBytes publicKeyBytes) ()).mapError fun _ =>
    ProtocolError.deserialization ("invalid UTF-8 public key: " ++ utf8Error publicKeyBytes)
  let nickname ← getOptionalText fe.nickname
  let group ← getOptionalText fe.groupName
  -- the schema has no profile key
  pure { publicKey := publicKey, nickname := nickname, group := group, addedAt := fe.addedAt, profileDhtKey := none }

def encodeFriendList (entries : List FriendEntry) : Decoded FriendList := do
  let friends ← initList (entries.map encodeFriendEntry)
  pure ⟨some friends⟩

def decodeFriendList (root : FriendList) : Decoded (List FriendEntry) :=
  (get root.friends).items.mapM decodeFriendEntry

/-! ## community.capnp -/

structure CommunityMetadata where
  name : String
  description : Option String
  iconHash : Option String
  createdAt : UInt64
  ownerKey : String
  lastRefreshed : UInt64
  deriving DecidableEq

structure ChannelEntry where
  id : String
  name : String
  /-- "text" or "voice" -/
  channelType : String
  sortOrder : UInt16
  latestMessageKey : Option String
  permissionOverwrites : List Server.PermissionOverwrite
  deriving DecidableEq

structure MemberEntry where
  pseudonymKey : String
  role : Option String
  roleIds : List UInt32
  joinedAt : UInt64
  timeoutUntil : Option UInt64
  deriving DecidableEq

def channelTypeEnum (channelType : String) : ChannelType := if channelType = "voice" then .voice else .text

def channelTypeText : ChannelType → String
  | .voice => "voice"
  | .text => "text"

def overwriteTypeEnum : Server.OverwriteType → Capnp.OverwriteType
  | .role => .role
  | .member => .member

def overwriteTypeOf : Capnp.OverwriteType → Server.OverwriteType
  | .role => .role
  | .member => .member

def encodeOverwrite (ow : Server.PermissionOverwrite) : Capnp.PermissionOverwrite where
  targetType := ordinal (overwriteTypeEnum ow.targetType)
  targetId := setText ow.targetId
  allow := ow.allow
  deny := ow.deny

def encodeChannel (ch : ChannelEntry) : Decoded Channel := do
  let overwrites ←
    if ch.permissionOverwrites = [] then pure none
    else do
      let list ← initList (ch.permissionOverwrites.map encodeOverwrite)
      pure (some list)
  pure {
    id := setText ch.id
    name := setText ch.name
    type := ordinal (channelTypeEnum ch.channelType)
    sortOrder := ch.sortOrder
    latestMessageKey := setOptionalText ch.latestMessageKey
    permissionOverwrites := overwrites }

def encodeRole (role : Server.RoleDefinition) : Role where
  id := role.id
  name := setText role.name
  color := role.color
  permissions := role.permissions
  position := role.position
  hoist := role.hoist
  mentionable := role.mentionable

def encodeCommunity (metadata : CommunityMetadata) (channels : List ChannelEntry)
    (roles : List Server.RoleDefinition) : Decoded Community := do
  let channels ← channels.mapM encodeChannel
  let channels ← initList channels
  let roles ← initList (roles.map encodeRole)
  pure {
    name := setText metadata.name
    description := setOptionalText metadata.description
    iconHash := setOptionalText metadata.iconHash
    createdAt := metadata.createdAt
    channels := some channels
    roles := some roles }

section Community

variable (notInSchema : UInt16 → String)

def decodeOverwrite (o : Capnp.PermissionOverwrite) : Decoded Server.PermissionOverwrite := do
  let targetType ← getEnum notInSchema o.targetType
  let targetId ← getText o.targetId
  pure { targetType := overwriteTypeOf targetType, targetId := targetId, allow := o.allow, deny := o.deny }

def decodeChannel (c : Channel) : Decoded ChannelEntry := do
  let channelType ← getEnum notInSchema c.type
  let permissionOverwrites ←
    if has c.permissionOverwrites then (get c.permissionOverwrites).items.mapM (decodeOverwrite notInSchema)
    else pure []
  let id ← getText c.id
  let name ← getText c.name
  pure {
    id := id
    name := name
    channelType := channelTypeText channelType
    sortOrder := c.sortOrder
    latestMessageKey := getOptionalLossy c.latestMessageKey
    permissionOverwrites := permissionOverwrites }

def decodeRole (r : Role) : Decoded Server.RoleDefinition := do
  let name ← getText r.name
  pure {
    id := r.id
    name := name
    color := r.color
    permissions := r.permissions
    position := r.position
    hoist := r.hoist
    mentionable := r.mentionable }

def decodeMetadata (ownerKey : String) (root : Community) : Decoded CommunityMetadata := do
  let name ← getText root.name
  let description ← getOptionalText root.description
  pure {
    name := name
    description := description
    iconHash := getOptionalLossy root.iconHash
    createdAt := root.createdAt
    ownerKey := ownerKey
    lastRefreshed := 0 }

def decodeCommunity (ownerKey : String) (root : Community) :
    Decoded (CommunityMetadata × List ChannelEntry × List Server.RoleDefinition) := do
  let metadata ← decodeMetadata ownerKey root
  let channels ← (get root.channels).items.mapM (decodeChannel notInSchema)
  let roles ← (get root.roles).items.mapM decodeRole
  pure (metadata, channels, roles)

end Community

def noMetadata : CommunityMetadata := ⟨"", none, none, 0, "", 0⟩

def encodeChannels (channels : List ChannelEntry) : Decoded Community := encodeCommunity noMetadata channels []

def encodeRoles (roles : List Server.RoleDefinition) : Decoded Community := encodeCommunity noMetadata [] roles

/-! ## Members as JSON -/

section Members

open Json

def timeValue (time : UInt64) : Value := .number time.toNat

def timeOf : Value → Option UInt64
  | .number n => if n < UInt64.size then some (UInt64.ofNat n) else none
  | _ => none

/-- A field with `default`, read when it is there. -/
def defaultField {α : Type} (fields : List (Text × Value)) (name : String) (read : Value → Option α)
    (default : α) : Option α :=
  (fields.lookup (Signal.ascii name)).elim (some default) read

/-- No name stands twice. -/
def onceEach (fields : List (Text × Value)) (names : List String) : Bool :=
  names.all fun name => (fields.filter fun field => field.1 == Signal.ascii name).length ≤ 1

def memberNames : List String := ["pseudonymKey", "role", "roleIds", "joinedAt", "timeoutUntil"]

def memberValue (member : MemberEntry) : Value := objectValue (
  [("pseudonymKey", textValue member.pseudonymKey)] ++
  (member.role.map fun role => ("role", textValue role)).toList ++
  [("roleIds", .array (member.roleIds.map wordValue)), ("joinedAt", timeValue member.joinedAt)] ++
  (member.timeoutUntil.map fun time => ("timeoutUntil", timeValue time)).toList)

def roleIdsOf : Value → Option (List UInt32)
  | .array items => items.mapM wordOf
  | _ => none

/-- A struct is read from an object, or from an array of its fields in their order. -/
def memberOf : Value → Option MemberEntry
  | .object fields =>
    if onceEach fields memberNames then do
      let pseudonymKey ← field fields "pseudonymKey" textOf
      let role ← defaultField fields "role" (optionOf textOf) none
      let roleIds ← defaultField fields "roleIds" roleIdsOf []
      let joinedAt ← field fields "joinedAt" timeOf
      let timeoutUntil ← defaultField fields "timeoutUntil" (optionOf timeOf) none
      pure {
        pseudonymKey := pseudonymKey
        role := role
        roleIds := roleIds
        joinedAt := joinedAt
        timeoutUntil := timeoutUntil }
    else none
  | .array items =>
    if items.length ≤ memberNames.length then do
      let pseudonymKey ← items[0]?.bind textOf
      let role ← items[1]?.elim (some none) (optionOf textOf)
      let roleIds ← items[2]?.elim (some []) roleIdsOf
      let joinedAt ← items[3]?.bind timeOf
      let timeoutUntil ← items[4]?.elim (some none) (optionOf timeOf)
      pure {
        pseudonymKey := pseudonymKey
        role := role
        roleIds := roleIds
        joinedAt := joinedAt
        timeoutUntil := timeoutUntil }
    else none
  | _ => none

def membersOf : Value → Option (List MemberEntry)
  | .array items => items.mapM memberOf
  | _ => none

def encodeMembers (members : List MemberEntry) : Bytes := write (.array (members.map memberValue))

/-- `error` is the text of the parser's error. -/
def decodeMembers (error : Bytes → String) (data : Bytes) : Decoded (List MemberEntry) :=
  Fallible.orThrow ((parse data).bind membersOf) (.deserialization (error data))

end Members

/-! ## voice.capnp -/

structure VoiceSignaling where
  signalType : SignalType
  channelId : String
  senderKey : Bytes
  payload : Bytes
  deriving DecidableEq

def encodeSignaling (sig : VoiceSignaling) : Capnp.VoiceSignaling where
  type := ordinal sig.signalType
  channelId := setText sig.channelId
  senderKey := some sig.senderKey
  payload := some sig.payload

def decodeSignaling (notInSchema : UInt16 → String) (root : Capnp.VoiceSignaling) : Decoded VoiceSignaling := do
  let signalType ← getEnum notInSchema root.type
  let channelId ← getText root.channelId
  pure { signalType := signalType, channelId := channelId, senderKey := get root.senderKey, payload := get root.payload }

/-! ## account.capnp -/

structure AccountHeader where
  contactListKey : String
  chatListKey : String
  invitationListKey : String
  displayName : String
  statusMessage : String
  avatarHash : Bytes
  createdAt : UInt64
  updatedAt : UInt64
  contactListKeypair : Option String
  chatListKeypair : Option String
  invitationListKeypair : Option String
  deriving DecidableEq

structure ContactEntry where
  publicKey : Bytes
  displayName : String
  nickname : String
  group : String
  localConversationKey : String
  remoteConversationKey : String
  addedAt : UInt64
  updatedAt : UInt64
  deriving DecidableEq

structure ChatEntry where
  contactPublicKey : Bytes
  localConversationKey : String
  lastMessageTimestamp : UInt64
  unreadCount : UInt32
  isPinned : Bool
  isMuted : Bool
  deriving DecidableEq

def encodeAccountHeader (header : AccountHeader) : Capnp.AccountHeader where
  contactListKey := setText header.contactListKey
  chatListKey := setText header.chatListKey
  invitationListKey := setText header.invitationListKey
  displayName := setText header.displayName
  statusMessage := setText header.statusMessage
  avatarHash := setNonEmpty header.avatarHash
  createdAt := header.createdAt
  updatedAt := header.updatedAt
  contactListKeypair := setOptionalText header.contactListKeypair
  chatListKeypair := setOptionalText header.chatListKeypair
  invitationListKeypair := setOptionalText header.invitationListKeypair

def decodeAccountHeader (root : Capnp.AccountHeader) : Decoded AccountHeader := do
  let contactListKey ← getText root.contactListKey
  let chatListKey ← getText root.chatListKey
  let invitationListKey ← getText root.invitationListKey
  let displayName ← getText root.displayName
  let statusMessage ← getTextOrEmpty root.statusMessage
  let contactListKeypair ← getOptionalText root.contactListKeypair
  let chatListKeypair ← getOptionalText root.chatListKeypair
  let invitationListKeypair ← getOptionalText root.invitationListKeypair
  pure {
    contactListKey := contactListKey
    chatListKey := chatListKey
    invitationListKey := invitationListKey
    displayName := displayName
    statusMessage := statusMessage
    avatarHash := getDataOrEmpty root.avatarHash
    createdAt := root.createdAt
    updatedAt := root.updatedAt
    contactListKeypair := contactListKeypair
    chatListKeypair := chatListKeypair
    invitationListKeypair := invitationListKeypair }

def encodeContactEntry (entry : ContactEntry) : Capnp.ContactEntry where
  publicKey := some entry.publicKey
  displayName := setText entry.displayName
  nickname := setText entry.nickname
  group := setText entry.group
  localConversationKey := setText entry.localConversationKey
  remoteConversationKey := setText entry.remoteConversationKey
  addedAt := entry.addedAt
  updatedAt := entry.updatedAt

def decodeContactEntry (root : Capnp.ContactEntry) : Decoded ContactEntry := do
  let displayName ← getText root.displayName
  let nickname ← getTextOrEmpty root.nickname
  let group ← getTextOrEmpty root.group
  let localConversationKey ← getText root.localConversationKey
  let remoteConversationKey ← getTextOrEmpty root.remoteConversationKey
  pure {
    publicKey := get root.publicKey
    displayName := displayName
    nickname := nickname
    group := group
    localConversationKey := localConversationKey
    remoteConversationKey := remoteConversationKey
    addedAt := root.addedAt
    updatedAt := root.updatedAt }

def encodeChatEntry (entry : ChatEntry) : Capnp.ChatEntry where
  contactPublicKey := some entry.contactPublicKey
  localConversationKey := setText entry.localConversationKey
  lastMessageTimestamp := entry.lastMessageTimestamp
  unreadCount := entry.unreadCount
  isPinned := entry.isPinned
  isMuted := entry.isMuted

def decodeChatEntry (root : Capnp.ChatEntry) : Decoded ChatEntry := do
  let localConversationKey ← getText root.localConversationKey
  pure {
    contactPublicKey := get root.contactPublicKey
    localConversationKey := localConversationKey
    lastMessageTimestamp := root.lastMessageTimestamp
    unreadCount := root.unreadCount
    isPinned := root.isPinned
    isMuted := root.isMuted }

/-! ## conversation.capnp -/

structure ConversationHeader where
  identityPublicKey : Bytes
  profile : UserProfile
  messageLogKey : String
  routeBlob : Bytes
  prekeyBundle : PreKeyBundle
  createdAt : UInt64
  updatedAt : UInt64
  deriving DecidableEq

/-- An empty one-time key is not set. -/
def encodeConversationHeader (header : ConversationHeader) : Capnp.ConversationHeader where
  identityPublicKey := some header.identityPublicKey
  profile := some {
    displayName := setText header.profile.displayName
    statusMessage := setText header.profile.statusMessage
    status := ordinal (statusEnum header.profile.status)
    avatarHash := setNonEmpty header.profile.avatarHash
    gameStatus := header.profile.gameStatus.map fun g => {
      gameId := g.gameId
      gameName := setText g.gameName
      serverInfo := setOptionalText g.serverInfo
      elapsedSeconds := g.elapsedSeconds } }
  messageLogKey := setText header.messageLogKey
  routeBlob := some header.routeBlob
  preKeyBundle := some {
    identityKey := some header.prekeyBundle.identityKey
    signedPreKey := some header.prekeyBundle.signedPreKey
    signedPreKeySig := some header.prekeyBundle.signedPreKeySig
    oneTimePreKey := setNonEmpty header.prekeyBundle.oneTimePreKey
    registrationId := header.prekeyBundle.registrationId }
  createdAt := header.createdAt
  updatedAt := header.updatedAt

def decodeConversationHeader (notInSchema : UInt16 → String) (root : Capnp.ConversationHeader) :
    Decoded ConversationHeader := do
  let profileReader := get root.profile
  let status ← getEnum notInSchema profileReader.status
  let gameStatus ←
    if has profileReader.gameStatus then do
      let gs := get profileReader.gameStatus
      let gameName ← getText gs.gameName
      let serverInfo ← getOptionalText gs.serverInfo
      pure (some {
        gameId := gs.gameId, gameName := gameName, serverInfo := serverInfo, elapsedSeconds := gs.elapsedSeconds })
    else pure none
  let displayName ← getText profileReader.displayName
  let statusMessage ← getTextOrEmpty profileReader.statusMessage
  let pkbReader := get root.preKeyBundle
  let messageLogKey ← getText root.messageLogKey
  pure {
    identityPublicKey := get root.identityPublicKey
    profile := {
      displayName := displayName
      statusMessage := statusMessage
      status := statusByte status
      avatarHash := getDataOrEmpty profileReader.avatarHash
      gameStatus := gameStatus }
    messageLogKey := messageLogKey
    routeBlob := getDataOrEmpty root.routeBlob
    prekeyBundle := {
      identityKey := get pkbReader.identityKey
      signedPreKey := get pkbReader.signedPreKey
      signedPreKeySig := get pkbReader.signedPreKeySig
      oneTimePreKey := getDataOrEmpty pkbReader.oneTimePreKey
      registrationId := pkbReader.registrationId }
    createdAt := root.createdAt
    updatedAt := root.updatedAt }

end Rekindle.CapnpCodec
