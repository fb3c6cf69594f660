import Rekindle.Client.Broadcasts
import Rekindle.Library.JsonGrammar
import Rekindle.Protocol.CapnpStreams
import Rekindle.Voice.Transport

/-! # Telling messages apart

Voice packets, community broadcasts and envelopes arrive over one channel. Packets have a tag, broadcasts are tried
as JSON, and everything else is an envelope.
-/
namespace Rekindle.Client
set_option autoImplicit false

open Capnp Json WordPacking
open Protocol (Bytes)
open Server (CommunityBroadcast)
open Voice (VoicePacket deserialize taggedPacket voiceTag)

inductive Handler where
  /-- The voice engine's channel, unless the packet does not decode. -/
  | voice (packet : Option VoicePacket)
  | communityBroadcast (broadcast : CommunityBroadcast)
  | incomingMessage (raw : Bytes)
  deriving DecidableEq

/-- `fromSlice` is `serde_json::from_slice`. -/
def handleAppMessage (fromSlice : Bytes → Option CommunityBroadcast) (message : Bytes) : Handler :=
  if message.head? = some voiceTag then .voice (deserialize message.tail)
  else (fromSlice message).elim (.incomingMessage message) .communityBroadcast

/-- Only JSON texts are read, and what was written is read back. -/
structure ReadsBroadcasts (fromSlice : Bytes → Option CommunityBroadcast) : Prop where
  documents : ∀ raw broadcast, fromSlice raw = some broadcast → Document raw
  roundTrips : ∀ broadcast, fromSlice (broadcastToVec broadcast) = some broadcast

/-- An envelope has one data word, its timestamp, and four pointers. -/
def envelopeRoot : Word := structPointer 1 4

section
variable {fromSlice : Bytes → Option CommunityBroadcast} {packed : Bytes}

/-- The tag of the first word has clear bits where the voice tag has them set. -/
theorem standardFrame_untagged {root : Word} (h : StandardFrame root packed) : packed.head? ≠ some voiceTag := by
  obtain ⟨tag, hHead, hTag⟩ := h.head?
  rw [hHead]
  intro hSame
  rw [Option.some.inj hSame] at hTag
  revert hTag
  decide

/-- The root pointer holds a byte 1, and no JSON text does. -/
theorem standardFrame_not_document (h : StandardFrame envelopeRoot packed) : ¬Document packed := by
  intro hDocument
  have hByte : (1 : UInt8) ∈ packed := h.mem (by decide) (by decide)
  exact absurd (hDocument.allowed 1 hByte) (by decide)

theorem handleAppMessage_envelope (hReads : ReadsBroadcasts fromSlice) (h : StandardFrame envelopeRoot packed) :
    fromSlice packed = none ∧ handleAppMessage fromSlice packed = .incomingMessage packed := by
  have hNone : fromSlice packed = none := by
    cases hRead : fromSlice packed with
    | none => rfl
    | some broadcast => exact absurd (hReads.documents packed broadcast hRead) (standardFrame_not_document h)
  rw [handleAppMessage, if_neg (standardFrame_untagged h), hNone]
  exact ⟨rfl, rfl⟩

theorem handleAppMessage_packet {packet : VoicePacket} (h : packet.Fits) :
    handleAppMessage fromSlice (taggedPacket packet) = .voice (some packet) := by
  have hDecoded : deserialize (taggedPacket packet).tail = some packet := Voice.deserialize_serialize h
  have hTag : (taggedPacket packet).head? = some voiceTag := rfl
  rw [handleAppMessage, if_pos hTag, hDecoded]

theorem broadcast_untagged (broadcast : CommunityBroadcast) : (broadcastToVec broadcast).head? ≠ some voiceTag := by
  rw [broadcastToVec_head]
  decide

theorem handleAppMessage_broadcast (hReads : ReadsBroadcasts fromSlice) (broadcast : CommunityBroadcast) :
    handleAppMessage fromSlice (broadcastToVec broadcast) = .communityBroadcast broadcast := by
  rw [handleAppMessage, if_neg (broadcast_untagged broadcast), hReads.roundTrips]
  rfl

/-- Every message reaches the handler of its kind. No envelope looks like a packet or a broadcast, and no broadcast
like a packet. -/
theorem messages_reach_their_handlers (hReads : ReadsBroadcasts fromSlice) (encodeEnvelope : MessageEnvelope → Bytes) :
    (∀ envelope, StandardFrame envelopeRoot (encodeEnvelope envelope) →
      (encodeEnvelope envelope).head? ≠ some voiceTag ∧ fromSlice (encodeEnvelope envelope) = none ∧
      handleAppMessage fromSlice (encodeEnvelope envelope) = .incomingMessage (encodeEnvelope envelope)) ∧
    (∀ packet : VoicePacket, packet.Fits →
      handleAppMessage fromSlice (taggedPacket packet) = .voice (some packet)) ∧
    ∀ broadcast, (broadcastToVec broadcast).head? ≠ some voiceTag ∧
      handleAppMessage fromSlice (broadcastToVec broadcast) = .communityBroadcast broadcast := by
  refine ⟨?_, ?_, ?_⟩
  · intro envelope hFrame
    exact ⟨standardFrame_untagged hFrame, handleAppMessage_envelope hReads hFrame⟩
  · intro packet hFits
    exact handleAppMessage_packet hFits
  · intro broadcast
    exact ⟨broadcast_untagged broadcast, handleAppMessage_broadcast hReads broadcast⟩

end

namespace Reference

open ByteWords

/-- Takes compact texts only. -/
def broadcastFromSlice (raw : Bytes) : Option CommunityBroadcast :=
  (parse raw).bind fun value => if write value = raw then broadcastOf value else none

theorem broadcastFromSlice_reads : ReadsBroadcasts broadcastFromSlice where
  documents raw broadcast h := by
    obtain ⟨value, -, hRead⟩ := Option.bind_eq_some_iff.mp h
    split at hRead
    · next hWritten =>
      rw [← hWritten]
      exact document_write value
    · cases hRead
  roundTrips broadcast := by
    rw [broadcastFromSlice, broadcastToVec, parse_write, Option.bind_some, if_pos rfl, broadcastOf_broadcastValue]

def wordOfBytes (bytes : Bytes) : Word := ⟨(bytes ++ List.replicate 8 0).take 8, by simp⟩

/-- The bytes in words, the last filled up with zeros. The fuel is their number. -/
def wordsOf : Nat → Bytes → List Word
  | fuel + 1, byte :: bytes => wordOfBytes (byte :: bytes) :: wordsOf fuel ((byte :: bytes).drop 8)
  | _, _ => []

/-- A pointer to bytes that lie `offset` words behind it. -/
def dataPointer (offset : Nat) (bytes : Bytes) : Word :=
  wordOfBytes (toLeBytes 4 (4 * offset + 1) ++ toLeBytes 4 (8 * bytes.length + 2))

/-- The pointers of a struct, with `ahead` words before the bytes of the first. -/
def dataPointers : Nat → List Bytes → List Word
  | _, [] => []
  | ahead, bytes :: rest =>
    dataPointer ahead bytes :: dataPointers (ahead - 1 + (wordsOf bytes.length bytes).length) rest

/-- What lies behind the root pointer. -/
def envelopeContent (envelope : MessageEnvelope) : List Word :=
  let data := [envelope.senderKey, envelope.nonce, envelope.payload, envelope.signature]
  wordOfBytes (toLeBytes 8 envelope.timestamp.toNat) :: dataPointers 3 data ++
    data.flatMap fun bytes => wordsOf bytes.length bytes

/-- An envelope in one segment. -/
def encodeEnvelope (envelope : MessageEnvelope) : Bytes :=
  packAll (stream [envelopeRoot :: envelopeContent envelope])

theorem encodeEnvelope_frames (envelope : MessageEnvelope) : StandardFrame envelopeRoot (encodeEnvelope envelope) :=
  ⟨envelopeContent envelope, [], by decide, packs_packAll _⟩

def sampleEnvelope : MessageEnvelope := ⟨List.replicate 32 7, 1000, [1, 2, 3], [], List.replicate 64 9⟩

def samplePacket : VoicePacket := ⟨List.replicate 32 7, 1, 1000, [4, 5]⟩

theorem messages_reach_their_handlers_sample :
    handleAppMessage broadcastFromSlice (encodeEnvelope sampleEnvelope) =
      .incomingMessage (encodeEnvelope sampleEnvelope) ∧
    handleAppMessage broadcastFromSlice (taggedPacket samplePacket) = .voice (some samplePacket) ∧
    handleAppMessage broadcastFromSlice (broadcastToVec (.mekRotated "c" 2)) =
      .communityBroadcast (.mekRotated "c" 2) := by
  obtain ⟨hEnvelope, hPacket, hBroadcast⟩ := messages_reach_their_handlers broadcastFromSlice_reads encodeEnvelope
  exact ⟨(hEnvelope sampleEnvelope (encodeEnvelope_frames sampleEnvelope)).2.2,
    hPacket samplePacket ⟨by decide, by decide⟩, (hBroadcast _).2⟩

end Reference

end Rekindle.Client
