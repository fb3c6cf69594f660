import Rekindle.Protocol.CapnpRoundTrips

/-! # The wire codecs

The codecs on packed messages: what the library has to keep, and what then comes back.
-/
namespace Rekindle.CapnpCodec
set_option autoImplicit false

open Capnp Client Codecs Fallible
open Protocol (Bytes ProtocolError)

section Wire

variable {Wire : Type} (capnp : Library Wire) (jsonError : Bytes → String)

def packed (schema : Schema) : Codec ProtocolError Wire schema.Message where
  encode message := .ok (capnp.writeMessage schema message)
  decode wire := (capnp.readMessage schema wire).mapError fun e => .deserialization ("capnp: " ++ e)

variable {capnp} in
theorem packed_restores (hCapnp : capnp.ReturnsWhatWasSet) (schema : Schema) (message : schema.Message) :
    (packed capnp schema).Restores message := by
  refine ⟨_, rfl, ?_⟩
  simp only [packed, hCapnp schema message]
  rfl

def wireProfile : Codec ProtocolError Wire UserProfile :=
  (profile capnp.notInSchema).through (packed capnp .userProfile)

def wirePrekeyBundle : Codec ProtocolError Wire PreKeyBundle := prekeyBundle.through (packed capnp .preKeyBundle)

def wireConversationHeader : Codec ProtocolError Wire ConversationHeader :=
  (conversationHeader capnp.notInSchema).through (packed capnp .conversationHeader)

/-- Which values each pair of an encoder and a decoder restores; a profile and a bundle in the header of
a conversation are read as on their own. -/
structure WireRoundTrips : Prop where
  envelope : (envelope.through (packed capnp .messageEnvelope)).RoundTrips fun _ => True
  chatMessage : (chatMessage.through (packed capnp .chatMessage)).RoundTrips fun _ => True
  update : ∀ now, ((update now).through (packed capnp .presenceUpdate)).RoundTrips
    fun (_, game) => ∀ info ∈ game, GameNormal info
  gameStatus : (gameStatus.through (packed capnp .gameStatus)).RoundTrips GameNormal
  gameInfo : (gameInfo.through (packed capnp .gameStatus)).RoundTrips GameNormal
  profile : (wireProfile capnp).RoundTrips ProfileNormal
  prekeyBundle : (wirePrekeyBundle capnp).RoundTrips fun _ => True
  request : (request.through (packed capnp .friendRequest)).RoundTrips fun _ => True
  friendList : (friendList.through (packed capnp .friendList)).RoundTrips (ListNormal EntryNormal)
  community : ∀ ownerKey, ((community capnp.notInSchema ownerKey).through (packed capnp .community)).RoundTrips
    fun (metadata, entries, definitions) =>
      MetadataNormal ownerKey metadata ∧ ListNormal ChannelNormal entries ∧ definitions.length ≤ maxListLength
  channels : ∀ ownerKey, ((channels capnp.notInSchema ownerKey).through (packed capnp .community)).RoundTrips
    (ListNormal ChannelNormal)
  roles : ∀ ownerKey, ((roles capnp.notInSchema ownerKey).through (packed capnp .community)).RoundTrips
    fun definitions => definitions.length ≤ maxListLength
  members : (members jsonError).RoundTrips fun _ => True
  signaling : ((signaling capnp.notInSchema).through (packed capnp .voiceSignaling)).RoundTrips fun _ => True
  accountHeader : (accountHeader.through (packed capnp .accountHeader)).RoundTrips HeaderNormal
  contactEntry : (contactEntry.through (packed capnp .contactEntry)).RoundTrips fun _ => True
  chatEntry : (chatEntry.through (packed capnp .chatEntry)).RoundTrips fun _ => True
  conversationHeader : (wireConversationHeader capnp).RoundTrips fun header => ProfileNormal header.profile
  nested : ∀ header wire decoded, (wireConversationHeader capnp).encode header = .ok wire →
    (wireConversationHeader capnp).decode wire = .ok decoded →
    ∃ profileWire bundleWire,
      (wireProfile capnp).encode header.profile = .ok profileWire ∧
      (wireProfile capnp).decode profileWire = .ok decoded.profile ∧
      (wirePrekeyBundle capnp).encode header.prekeyBundle = .ok bundleWire ∧
      (wirePrekeyBundle capnp).decode bundleWire = .ok decoded.prekeyBundle

variable {capnp}

theorem decode_packed (hCapnp : capnp.ReturnsWhatWasSet) {Value : Type} (schema : Schema)
    (codec : Codec ProtocolError schema.Message Value) (message : schema.Message) :
    (codec.through (packed capnp schema)).decode (capnp.writeMessage schema message) = codec.decode message := by
  rw [Codec.through_decode]
  simp only [packed, hCapnp schema message]
  rfl

/-- A bundle reads the same whether an empty one-time key is set or not. -/
theorem decode_embedded_bundle (header : ConversationHeader) :
    decodePrekeyBundle (get (encodeConversationHeader header).preKeyBundle) = header.prekeyBundle := by
  simp [encodeConversationHeader, decodePrekeyBundle]

theorem header_nested (hCapnp : capnp.ReturnsWhatWasSet) {header decoded : ConversationHeader} {wire : Wire}
    (hEncode : (wireConversationHeader capnp).encode header = .ok wire)
    (hDecode : (wireConversationHeader capnp).decode wire = .ok decoded) :
    ∃ profileWire bundleWire,
      (wireProfile capnp).encode header.profile = .ok profileWire ∧
      (wireProfile capnp).decode profileWire = .ok decoded.profile ∧
      (wirePrekeyBundle capnp).encode header.prekeyBundle = .ok bundleWire ∧
      (wirePrekeyBundle capnp).decode bundleWire = .ok decoded.prekeyBundle := by
  cases hEncode
  rw [wireConversationHeader, decode_packed hCapnp .conversationHeader] at hDecode
  change decodeConversationHeader _ _ = _ at hDecode
  rw [decodeConversationHeader_eq] at hDecode
  obtain ⟨read, hProfile, hDecode⟩ := bind_eq_ok_iff.mp hDecode
  obtain ⟨messageLogKey, -, hDecode⟩ := bind_eq_ok_iff.mp hDecode
  cases hDecode
  refine ⟨_, _, rfl, ?_, rfl, ?_⟩
  · rw [wireProfile, decode_packed hCapnp .userProfile]
    exact hProfile
  · rw [wirePrekeyBundle, decode_packed hCapnp .preKeyBundle, decode_embedded_bundle]
    rfl

end Wire

namespace Reference

/-- Messages as they are, each with the schema of its root. -/
def unpacked : Library ((schema : Schema) × schema.Message) where
  writeMessage schema message := ⟨schema, message⟩
  readMessage schema := fun ⟨written, message⟩ =>
    if h : written = schema then .ok (h ▸ message) else .error "the root is another struct"
  notInSchema n := toString n.toNat

theorem unpacked_returnsWhatWasSet : unpacked.ReturnsWhatWasSet := fun _ _ => dif_pos rfl

end Reference

end Rekindle.CapnpCodec
