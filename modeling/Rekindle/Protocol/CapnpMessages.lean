import Mathlib.Data.List.Basic
import Rekindle.Library.Codecs
import Rekindle.Library.Utf8
import Rekindle.Protocol.Records
import Rekindle.Server.Permissions

/-! # The messages of the schemas

What the builders of the schemas set and the readers get. Packing a message into bytes and reading it
back is the part of a library.
-/
namespace Rekindle.Capnp
set_option autoImplicit false

open Protocol (Bytes)

/-- A pointer field: absent until it is set. -/
abbrev Pointer := Option

/-- The getter of a pointer field. -/
def get {α : Type} [Inhabited α] (pointer : Pointer α) : α := pointer.getD default

@[simp] theorem get_some {α : Type} [Inhabited α] (value : α) : get (some value) = value := rfl

/-- `has_x` of a pointer field. -/
def has {α : Type} (pointer : Pointer α) : Bool := pointer.isSome

def maxListLength : Nat := 4294967295

/-- A list of structs, whose length is a `u32`. -/
structure StructList (α : Type) where
  items : List α
  length_le : items.length ≤ maxListLength

instance {α : Type} : Inhabited (StructList α) := ⟨[], Nat.zero_le _⟩

/-! ## Enumerations -/

/-- The enumerants of a schema, in the order of their numbers. -/
class Enumeration (α : Type) where
  enumerants : List α
  complete : ∀ a, a ∈ enumerants
  few : enumerants.length ≤ UInt16.size

def ordinal {α : Type} [DecidableEq α] [Enumeration α] (a : α) : UInt16 :=
  UInt16.ofNat ((Enumeration.enumerants : List α).idxOf a)

def ofOrdinal? {α : Type} [Enumeration α] (n : UInt16) : Option α := (Enumeration.enumerants : List α)[n.toNat]?

@[simp] theorem ofOrdinal?_ordinal {α : Type} [DecidableEq α] [Enumeration α] (a : α) :
    ofOrdinal? (ordinal a) = some a := by
  have hIndex : (Enumeration.enumerants : List α).idxOf a < (Enumeration.enumerants : List α).length :=
    List.idxOf_lt_length_of_mem (Enumeration.complete a)
  have hNat : (ordinal a).toNat = (Enumeration.enumerants : List α).idxOf a :=
    UInt16.toNat_ofNat_of_lt' (hIndex.trans_le Enumeration.few)
  rw [ofOrdinal?, hNat]
  exact List.getElem?_idxOf (Enumeration.complete a)

inductive Status where
  | online
  | away
  | busy
  | offline
  deriving DecidableEq

instance : Enumeration Status where
  enumerants := [.online, .away, .busy, .offline]
  complete a := by cases a <;> simp
  few := by decide

inductive ChannelType where
  | text
  | voice
  deriving DecidableEq

instance : Enumeration ChannelType where
  enumerants := [.text, .voice]
  complete a := by cases a <;> simp
  few := by decide

inductive OverwriteType where
  | role
  | member
  deriving DecidableEq

instance : Enumeration OverwriteType where
  enumerants := [.role, .member]
  complete a := by cases a <;> simp
  few := by decide

inductive SignalType where
  | join
  | leave
  | offer
  | answer
  | iceCandidate
  deriving DecidableEq

instance : Enumeration SignalType where
  enumerants := [.join, .leave, .offer, .answer, .iceCandidate]
  complete a := by cases a <;> simp
  few := by decide

/-! ## Messages -/

structure MessageEnvelope where
  senderKey : Pointer Bytes
  timestamp : UInt64
  nonce : Pointer Bytes
  payload : Pointer Bytes
  signature : Pointer Bytes

structure ChatMessage where
  body : Pointer Bytes
  replyTo : Pointer Bytes

structure GameStatus where
  gameId : UInt32
  gameName : Pointer Bytes
  serverInfo : Pointer Bytes
  elapsedSeconds : UInt32
  deriving Inhabited

structure PresenceUpdate where
  status : UInt8
  gameStatus : Pointer GameStatus
  timestamp : UInt64

structure UserProfile where
  displayName : Pointer Bytes
  statusMessage : Pointer Bytes
  status : UInt16
  avatarHash : Pointer Bytes
  gameStatus : Pointer GameStatus
  deriving Inhabited

structure PreKeyBundle where
  identityKey : Pointer Bytes
  signedPreKey : Pointer Bytes
  signedPreKeySig : Pointer Bytes
  oneTimePreKey : Pointer Bytes
  registrationId : UInt32
  deriving Inhabited

structure FriendRequest where
  senderKey : Pointer Bytes
  displayName : Pointer Bytes
  message : Pointer Bytes
  preKeyBundle : Pointer Bytes

structure FriendEntry where
  publicKey : Pointer Bytes
  nickname : Pointer Bytes
  groupName : Pointer Bytes
  addedAt : UInt64

structure FriendList where
  friends : Pointer (StructList FriendEntry)

structure PermissionOverwrite where
  targetType : UInt16
  targetId : Pointer Bytes
  allow : BitVec 64
  deny : BitVec 64

structure Channel where
  id : Pointer Bytes
  name : Pointer Bytes
  type : UInt16
  sortOrder : UInt16
  latestMessageKey : Pointer Bytes
  permissionOverwrites : Pointer (StructList PermissionOverwrite)

structure Role where
  id : UInt32
  name : Pointer Bytes
  color : UInt32
  permissions : BitVec 64
  position : Server.Position
  hoist : Bool
  mentionable : Bool

structure Community where
  name : Pointer Bytes
  description : Pointer Bytes
  iconHash : Pointer Bytes
  createdAt : UInt64
  channels : Pointer (StructList Channel)
  roles : Pointer (StructList Role)

structure VoiceSignaling where
  type : UInt16
  channelId : Pointer Bytes
  senderKey : Pointer Bytes
  payload : Pointer Bytes

structure AccountHeader where
  contactListKey : Pointer Bytes
  chatListKey : Pointer Bytes
  invitationListKey : Pointer Bytes
  displayName : Pointer Bytes
  statusMessage : Pointer Bytes
  avatarHash : Pointer Bytes
  createdAt : UInt64
  updatedAt : UInt64
  contactListKeypair : Pointer Bytes
  chatListKeypair : Pointer Bytes
  invitationListKeypair : Pointer Bytes

structure ContactEntry where
  publicKey : Pointer Bytes
  displayName : Pointer Bytes
  nickname : Pointer Bytes
  group : Pointer Bytes
  localConversationKey : Pointer Bytes
  remoteConversationKey : Pointer Bytes
  addedAt : UInt64
  updatedAt : UInt64

structure ChatEntry where
  contactPublicKey : Pointer Bytes
  localConversationKey : Pointer Bytes
  lastMessageTimestamp : UInt64
  unreadCount : UInt32
  isPinned : Bool
  isMuted : Bool

structure ConversationHeader where
  identityPublicKey : Pointer Bytes
  profile : Pointer UserProfile
  messageLogKey : Pointer Bytes
  routeBlob : Pointer Bytes
  preKeyBundle : Pointer PreKeyBundle
  createdAt : UInt64
  updatedAt : UInt64

/-! ## Packed messages -/

/-- The structs that are the root of a message. -/
inductive Schema where
  | messageEnvelope
  | chatMessage
  | presenceUpdate
  | gameStatus
  | userProfile
  | preKeyBundle
  | friendRequest
  | friendList
  | community
  | voiceSignaling
  | accountHeader
  | contactEntry
  | chatEntry
  | conversationHeader
  deriving DecidableEq

abbrev Schema.Message : Schema → Type
  | .messageEnvelope => MessageEnvelope
  | .chatMessage => ChatMessage
  | .presenceUpdate => PresenceUpdate
  | .gameStatus => GameStatus
  | .userProfile => UserProfile
  | .preKeyBundle => PreKeyBundle
  | .friendRequest => FriendRequest
  | .friendList => FriendList
  | .community => Community
  | .voiceSignaling => VoiceSignaling
  | .accountHeader => AccountHeader
  | .contactEntry => ContactEntry
  | .chatEntry => ChatEntry
  | .conversationHeader => ConversationHeader

/-- The `capnp` library, which packs messages into the bytes that are sent and stored. -/
structure Library (Wire : Type) where
  writeMessage : (schema : Schema) → schema.Message → Wire
  /-- `read_message` and `get_root`, with the text of the error. -/
  readMessage : (schema : Schema) → Wire → Except String schema.Message
  /-- The text of the error for a number that is no enumerant. -/
  notInSchema : UInt16 → String

def Library.ReturnsWhatWasSet {Wire : Type} (library : Library Wire) : Prop :=
  ∀ schema message, library.readMessage schema (library.writeMessage schema message) = .ok message

end Rekindle.Capnp
