import Rekindle.Community.State
import Rekindle.Library.Utf8
import Rekindle.Server.Hosting

/-! # Channel messages between the server and a client

One community and one of its members, whose calls all are answered. Broadcasts arrive in any order, and the
client takes up the next one only when it is done with the last; calls of other tasks come in between.
-/
namespace Rekindle.Community
set_option autoImplicit false
open ByteWords Server

/-- What stays the same: the community, the member's pseudonym in it, and AES-GCM with key and nonce. -/
structure Membership where
  communityId : String
  myPseudonymKey : String
  sealBytes : List UInt8 → List UInt8 → List UInt8 → List UInt8
  openBytes : List UInt8 → List UInt8 → List UInt8 → Option (List UInt8)

/-- A message as the server hands it out. -/
structure ChannelMessage where
  channelId : String
  dto : ChannelMessageDto
  deriving DecidableEq

/-- A call of `fetch_mek_from_server` by the dispatch loop, and the message that waits for it. -/
structure MekFetch where
  retry : Option ChannelMessage
  reply : Option (List UInt8 × UInt64)
  deriving DecidableEq

structure Exchange where
  /-- The key at the server. -/
  mek : MediaEncryptionKey
  server : Server.Database
  /-- The broadcasts on their way to the client. -/
  inbox : List CommunityBroadcast
  /-- The answers to `GetMessages` on their way to the client, with their channels. -/
  pages : List (String × List ChannelMessageDto)
  /-- The entry of `mek_cache`. -/
  cached : Option MediaEncryptionKey
  /-- The generation that goes with the client's own messages. -/
  mekGeneration : UInt64
  fetch : Option MekFetch
  store : Database
  /-- The client's own messages that it has stored and the server has not confirmed. -/
  outgoing : List PendingChannelMessage
  /-- The messages that the client has decrypted so far. -/
  decrypted : List ChannelMessage
  deriving DecidableEq

inductive ExchangeEvent where
  /-- `SendMessage` of another member who may send in the channel. -/
  | accept (sender channelId : String) (ciphertext : List UInt8) (mekGeneration now : UInt64)
  /-- A leave, kick, ban or `RotateMEK`, with the key that is drawn. -/
  | rotate (mekKey : Window UInt8 32)
  /-- A broadcast reaches the client. -/
  | deliver (index : Nat)
  /-- The community's DHT record says that there are new keys. -/
  | mekChange
  /-- The server answers `RequestMEK`. -/
  | answerMek
  | receiveMek
  /-- The server answers `GetMessages`. -/
  | answerHistory (channelId : String) (limit : UInt32)
  | receiveHistory (index : Nat)
  /-- `send_channel_message` up to the call. -/
  | compose (channelId body : String) (nonce : Window UInt8 12) (timestamp : Int64)
  /-- The server is sent a message of the client, for the first time or again. -/
  | submit (index : Nat) (now : UInt64) (answered : Bool)
  deriving DecidableEq

inductive MekDecryptResult where
  | decrypted (body : String)
  | needRefresh
  | failed
  deriving DecidableEq

def messageOfRow (row : Server.MessageRow) : ChannelMessage := ⟨row.channelId, messageToDto row⟩

def ChannelMessage.broadcast (communityId : String) (message : ChannelMessage) : CommunityBroadcast :=
  .newMessage communityId message.channelId message.dto.senderPseudonym message.dto.ciphertext
    message.dto.mekGeneration message.dto.timestamp

/-- `String::from_utf8(plaintext).unwrap_or_default()`. -/
def bodyOf (plaintext : List UInt8) : String := (Utf8.ofBytes plaintext).getD ""

namespace Membership

variable (member : Membership)

/-- `MediaEncryptionKey::encrypt`, with the nonce that is drawn. -/
def encrypt (mek : MediaEncryptionKey) (nonce plaintext : List UInt8) : List UInt8 :=
  nonce ++ member.sealBytes mek.key nonce plaintext

def decrypt (mek : MediaEncryptionKey) (data : List UInt8) : Option (List UInt8) :=
  if data.length < 12 then none else member.openBytes mek.key (data.take 12) (data.drop 12)

def decryptWithCachedMek (cached : Option MediaEncryptionKey) (ciphertext : List UInt8) (mekGeneration : UInt64) :
    MekDecryptResult :=
  match cached with
  | some mek =>
    if mek.generation = mekGeneration then
      match member.decrypt mek ciphertext with
      | some plaintext => .decrypted (bodyOf plaintext)
      | none => .failed
    else .needRefresh
  | none => .failed

def storedRow (message : ChannelMessage) (body : String) : MessageRow where
  conversationId := message.channelId
  senderKey := message.dto.senderPseudonym
  body := body
  timestamp := message.dto.timestamp.toInt64
  isRead := false
  mekGeneration := message.dto.mekGeneration.toInt64

end Membership

namespace Exchange

variable (member : Membership) (s : Exchange)

/-- The message is read and stored, unless a row has its columns of the index already. -/
def keep (message : ChannelMessage) (body : String) : Exchange :=
  { s with
    store := (s.store.insertMessage (Membership.storedRow message body)).getD s.store
    decrypted := s.decrypted ++ [message] }

def startFetch (retry : Option ChannelMessage) : Exchange := { s with fetch := some ⟨retry, none⟩ }

def handleBroadcastNewMessage (message : ChannelMessage) : Exchange :=
  if message.dto.senderPseudonym = member.myPseudonymKey then s
  else
    match member.decryptWithCachedMek s.cached message.dto.ciphertext message.dto.mekGeneration with
    | .decrypted body => s.keep message body
    | .failed => s
    | .needRefresh => s.startFetch (some message)

/-- The second attempt at the message that waited for the key. -/
def retryDecrypt (message : ChannelMessage) : Exchange :=
  match member.decryptWithCachedMek s.cached message.dto.ciphertext message.dto.mekGeneration with
  | .decrypted body => s.keep message body
  | _ => s

def handleBroadcast : CommunityBroadcast → Exchange
  | .newMessage _ channelId senderPseudonym ciphertext mekGeneration timestamp =>
    s.handleBroadcastNewMessage member ⟨channelId, senderPseudonym, ciphertext, mekGeneration, timestamp⟩
  | .mekRotated _ _ => s.startFetch none
  | _ => s

/-- The key of the answer goes into the cache and into the state. -/
def cacheReply (reply : List UInt8 × UInt64) : Exchange :=
  match receivedMek reply.1 reply.2 with
  | some mek => { s with cached := some mek, mekGeneration := mek.generation }
  | none => s

/-- The rest of `fetch_mek_from_server` and of the handler that has called it. -/
def finishFetch (fetch : MekFetch) (reply : List UInt8 × UInt64) : Exchange :=
  let s := { s with fetch := none }.cacheReply reply
  fetch.retry.elim s (s.retryDecrypt member)

/-- One message of the history. -/
def readHistoryMessage (mek : MediaEncryptionKey) (message : ChannelMessage) : Exchange :=
  if message.dto.mekGeneration = mek.generation then
    (member.decrypt mek message.dto.ciphertext).elim s fun plaintext => s.keep message (bodyOf plaintext)
  else s

def readHistory (channelId : String) (messages : List ChannelMessageDto) : Exchange :=
  s.cached.elim s fun mek =>
    messages.foldl (fun s dto => s.readHistoryMessage member mek ⟨channelId, dto⟩) s

/-- The row of an accepted message. -/
def acceptedRow (sender channelId : String) (ciphertext : List UInt8) (mekGeneration now : UInt64) :
    Server.MessageRow where
  communityId := member.communityId
  channelId := channelId
  senderPseudonym := sender
  ciphertext := ciphertext
  mekGeneration := min mekGeneration.toNat i64Max
  timestamp := min now.toNat i64Max

/-- `handle_send_message` once the sender may send, with what reaches the client of its broadcast. -/
def acceptMessage (sender channelId : String) (ciphertext : List UInt8) (mekGeneration now : UInt64) : Exchange :=
  if mekGeneration = s.mek.generation then
    let row := acceptedRow member sender channelId ciphertext mekGeneration now
    { s with
      server := { s.server with serverMessages := s.server.serverMessages ++ [row] }
      inbox := if sender = member.myPseudonymKey then s.inbox
        else s.inbox ++ [.newMessage member.communityId channelId sender ciphertext mekGeneration
          (UInt64.ofNat row.timestamp.toNat)] }
  else s

/-- `send_channel_message` up to the call. -/
def compose (channelId body : String) (nonce : List UInt8) (timestamp : Int64) : Exchange :=
  s.cached.elim s fun mek =>
    (s.store.insertMessage
      { conversationId := channelId, senderKey := member.myPseudonymKey, body := body, timestamp := timestamp
        isRead := true, mekGeneration := s.mekGeneration.toInt64 }).elim s fun store =>
      { s with
        store := store
        outgoing := s.outgoing ++
          [{ communityId := member.communityId, channelId := channelId
             ciphertext := member.encrypt mek nonce (Utf8.toBytes body)
             mekGeneration := s.mekGeneration, timestamp := timestamp }] }

/-- The server takes a message of the client, or refuses it for its generation; a message that is refused, or
whose answer is lost, is sent again later. -/
def submit (index : Nat) (now : UInt64) (answered : Bool) : Exchange :=
  match s.outgoing[index]? with
  | some message =>
    let after := s.acceptMessage member member.myPseudonymKey message.channelId message.ciphertext
      message.mekGeneration now
    if message.mekGeneration = s.mek.generation ∧ answered then
      { after with outgoing := s.outgoing.eraseIdx index }
    else after
  | none => s

/-- The newest messages of a channel, oldest first. -/
def historyPage (channelId : String) (limit : UInt32) : List ChannelMessageDto :=
  ((messagePage member.communityId s.server channelId none (min limit.toNat 500)).reverse).map messageToDto

def step (s : Exchange) : ExchangeEvent → Exchange
  | .accept sender channelId ciphertext mekGeneration now =>
    if sender = member.myPseudonymKey then s
    else s.acceptMessage member sender channelId ciphertext mekGeneration now
  | .rotate mekKey =>
    { s with
      mek := ⟨s.mek.generation + 1, mekKey.val⟩
      inbox := s.inbox ++ [.mekRotated member.communityId (s.mek.generation + 1)] }
  | .deliver index =>
    match s.fetch, s.inbox[index]? with
    | none, some broadcast => ({ s with inbox := s.inbox.eraseIdx index }).handleBroadcast member broadcast
    | _, _ => s
  | .mekChange => if s.fetch = none then s.startFetch none else s
  | .answerMek =>
    match s.fetch with
    | some ⟨retry, none⟩ => { s with fetch := some ⟨retry, some (mekPayload s.mek, s.mek.generation)⟩ }
    | _ => s
  | .receiveMek =>
    match s.fetch with
    | some ⟨retry, some reply⟩ => s.finishFetch member ⟨retry, some reply⟩ reply
    | _ => s
  | .answerHistory channelId limit =>
    { s with pages := s.pages ++ [(channelId, s.historyPage member channelId limit)] }
  | .receiveHistory index =>
    match s.pages[index]? with
    | some (channelId, messages) =>
      ({ s with pages := s.pages.eraseIdx index }).readHistory member channelId messages
    | none => s
  | .compose channelId body nonce timestamp => s.compose member channelId body nonce.val timestamp
  | .submit index now answered => s.submit member index now answered

/-- A member that has just joined a new community. -/
def joined (generation : UInt64) (mekKey : Window UInt8 32) : Exchange where
  mek := ⟨generation, mekKey.val⟩
  server := emptyDatabase
  inbox := []
  pages := []
  cached := some ⟨generation, mekKey.val⟩
  mekGeneration := generation
  fetch := none
  store := { communities := [], channels := [], messages := [], pendingMessages := [] }
  outgoing := []
  decrypted := []

/-- The messages that the server has accepted, as it hands them out. -/
def accepted : List ChannelMessage := s.server.serverMessages.map messageOfRow

end Exchange

end Rekindle.Community
