import Mathlib.Data.Finmap
import Rekindle.Library.Keyed
import Rekindle.Server.Authority

/-! # A client's communities

State and keys in memory, key payloads in the keychain, rows in the database. Keychain and rows are
those of one local identity.
-/
namespace Rekindle.Community
set_option autoImplicit false
open ByteWords Server

structure CommunityState where
  id : String
  /-- The ids of the channels. -/
  channels : List String
  myPseudonymKey : Option String
  mekGeneration : UInt64
  serverRouteBlob : Option (List UInt8)
  isHosted : Bool
  deriving DecidableEq

/-! ## Database -/

structure CommunityRow where
  id : String
  myPseudonymKey : Option String
  mekGeneration : Int64
  serverRouteBlob : Option (List UInt8)
  isHosted : Bool
  deriving DecidableEq

structure ChannelRow where
  id : String
  communityId : String
  deriving DecidableEq

/-- A message of a channel. -/
structure MessageRow where
  conversationId : String
  senderKey : String
  body : String
  timestamp : Int64
  isRead : Bool
  mekGeneration : Int64
  deriving DecidableEq

/-- The columns of `idx_messages_dedup` that channel messages differ in. -/
def MessageRow.key (row : MessageRow) : String × String × Int64 :=
  (row.conversationId, row.senderKey, row.timestamp)

/-- A message on its way to the server, or in the queue of those that are sent again. -/
structure PendingChannelMessage where
  communityId : String
  channelId : String
  ciphertext : List UInt8
  mekGeneration : UInt64
  timestamp : Int64
  deriving DecidableEq

structure Database where
  communities : List CommunityRow
  channels : List ChannelRow
  messages : List MessageRow
  pendingMessages : List PendingChannelMessage
  deriving DecidableEq

namespace Database

variable (db : Database)

def community? (communityId : String) : Option CommunityRow :=
  Keyed.find CommunityRow.id communityId db.communities

/-- `INSERT OR IGNORE INTO communities`. -/
def insertCommunity (row : CommunityRow) : Database :=
  if db.community? row.id = none then { db with communities := db.communities ++ [row] } else db

def updateGeneration (communityId : String) (generation : Int64) : Database :=
  { db with
    communities := Keyed.update CommunityRow.id communityId
      (fun row => { row with mekGeneration := generation }) db.communities }

/-- `INSERT OR IGNORE INTO channels`. -/
def insertChannel (row : ChannelRow) : Database :=
  if Keyed.find ChannelRow.id row.id db.channels = none then { db with channels := db.channels ++ [row] } else db

/-- Fails on a message with the same columns of the index. -/
def insertMessage (row : MessageRow) : Option Database :=
  if Keyed.find MessageRow.key row.key db.messages = none then
    some { db with messages := db.messages ++ [row] }
  else none

def queueMessage (message : PendingChannelMessage) : Database :=
  { db with pendingMessages := db.pendingMessages ++ [message] }

end Database

/-- `i64::try_from(generation).unwrap_or(i64::MAX)`. -/
def generationColumn (generation : UInt64) : Int64 :=
  if generation.toNat ≤ i64Max then generation.toInt64 else Int64.maxValue

/-! ## Keys -/

/-- The key in a payload from the server, which names the generation beside it. -/
def receivedMek (mekEncrypted : List UInt8) (mekGeneration : UInt64) : Option MediaEncryptionKey :=
  if 40 ≤ mekEncrypted.length then some ⟨mekGeneration, (mekEncrypted.drop 8).take 32⟩ else none

/-- The key in a payload from the keychain, which begins with the generation. -/
def storedMek (mekBytes : List UInt8) : Option MediaEncryptionKey :=
  if 40 ≤ mekBytes.length then
    some ⟨UInt64.ofNat (ofLeBytes (mekBytes.take 8)), (mekBytes.drop 8).take 32⟩
  else none

structure Crypto where
  /-- AES-GCM, from key, nonce and plaintext. -/
  sealBytes : List UInt8 → List UInt8 → List UInt8 → List UInt8
  /-- The pseudonym key that the identity's secret gives for a community. -/
  derivePseudonym : String → String

/-- The nonce stands before the ciphertext. -/
def Crypto.encrypt (crypto : Crypto) (mek : MediaEncryptionKey) (nonce plaintext : List UInt8) : List UInt8 :=
  nonce ++ crypto.sealBytes mek.key nonce plaintext

/-! ## Memory -/

structure ClientState where
  /-- The public key of the identity that is logged in. -/
  identity : Option String
  /-- Whether the keychain is open. -/
  unlocked : Bool
  communities : List CommunityState
  mekCache : Finmap fun _ : String => MediaEncryptionKey
  /-- The payloads in the keychain, which outlast the process. -/
  vault : Finmap fun _ : String => List UInt8
  db : Database
  /-- The messages handed to the transport so far. -/
  transmitted : List PendingChannelMessage
  deriving DecidableEq

namespace ClientState

variable (state : ClientState)

def community? (communityId : String) : Option CommunityState :=
  Keyed.find CommunityState.id communityId state.communities

def insertCommunity (community : CommunityState) : ClientState :=
  { state with communities := Keyed.insert CommunityState.id community state.communities }

def updateCommunity (communityId : String) (change : CommunityState → CommunityState) : ClientState :=
  { state with communities := Keyed.update CommunityState.id communityId change state.communities }

def setGeneration (communityId : String) (generation : UInt64) : ClientState :=
  state.updateCommunity communityId fun community => { community with mekGeneration := generation }

def cacheMek (communityId : String) (mek : MediaEncryptionKey) : ClientState :=
  { state with mekCache := state.mekCache.insert communityId mek }

/-- `store_key` and `save`, when the keychain is open. -/
def storeKey (communityId : String) (payload : List UInt8) : ClientState :=
  if state.unlocked then { state with vault := state.vault.insert communityId payload } else state

def mapDb (change : Database → Database) : ClientState := { state with db := change state.db }

/-- What is left when the process ends. -/
def stopped : ClientState :=
  { identity := none, unlocked := false, communities := [], mekCache := ∅, vault := state.vault
    db := state.db, transmitted := state.transmitted }

/-- The generation that goes with the messages of a community. -/
def label? (communityId : String) : Option UInt64 :=
  (state.community? communityId).map CommunityState.mekGeneration

def row? (communityId : String) : Option CommunityRow := state.db.community? communityId

end ClientState

end Rekindle.Community
