import Mathlib.Algebra.Ring.Nat
import Rekindle.Library.ByteWords
import Rekindle.Voice.JitterBuffer

/-! # Voice packets on the wire

The fields one after the other in little-endian words, byte strings behind their lengths, and a tag in front of all.
-/
namespace Rekindle.Voice
set_option autoImplicit false

open ByteWords

def writeVec (bytes : List UInt8) : List UInt8 := toLeBytes 8 bytes.length ++ bytes

/-- `bincode::serialize`. -/
def serialize (packet : VoicePacket) : List UInt8 :=
  writeVec packet.senderKey ++ (toLeBytes 4 packet.sequence.toNat ++
    (toLeBytes 8 packet.timestamp.toNat ++ writeVec packet.audioData))

def readBytes (width : Nat) (data : List UInt8) : Option (List UInt8 × List UInt8) :=
  if width ≤ data.length then some (data.take width, data.drop width) else none

def readNumber (width : Nat) (data : List UInt8) : Option (Nat × List UInt8) :=
  (readBytes width data).map fun read => (ofLeBytes read.1, read.2)

def readVec (data : List UInt8) : Option (List UInt8 × List UInt8) :=
  (readNumber 8 data).bind fun read => readBytes read.1 read.2

/-- `bincode::deserialize`. Bytes behind the packet are not looked at. -/
def deserialize (data : List UInt8) : Option VoicePacket := do
  let senderKey ← readVec data
  let sequence ← readNumber 4 senderKey.2
  let timestamp ← readNumber 8 sequence.2
  let audioData ← readVec timestamp.2
  pure ⟨senderKey.1, UInt32.ofNat sequence.1, UInt64.ofNat timestamp.1, audioData.1⟩

def voiceTag : UInt8 := 86

/-- What `send` hands to the network. -/
def taggedPacket (packet : VoicePacket) : List UInt8 := voiceTag :: serialize packet

/-- A vector's length is a `usize`. -/
structure VoicePacket.Fits (packet : VoicePacket) : Prop where
  senderKey : packet.senderKey.length < 2 ^ 64
  audioData : packet.audioData.length < 2 ^ 64

theorem readBytes_append {width : Nat} {window : List UInt8} (hWidth : window.length = width) (rest : List UInt8) :
    readBytes width (window ++ rest) = some (window, rest) := by
  rw [readBytes, if_pos (by simp [hWidth]), List.take_left' hWidth, List.drop_left' hWidth]

theorem readNumber_append {width n : Nat} (h : n < 256 ^ width) (rest : List UInt8) :
    readNumber width (toLeBytes width n ++ rest) = some (n, rest) := by
  rw [readNumber, readBytes_append (length_toLeBytes width n), Option.map_some, ofLeBytes_toLeBytes_of_lt h]

theorem readVec_append {bytes : List UInt8} (h : bytes.length < 2 ^ 64) (rest : List UInt8) :
    readVec (writeVec bytes ++ rest) = some (bytes, rest) := by
  rw [readVec, writeVec, List.append_assoc, readNumber_append h, Option.bind_some]
  exact readBytes_append rfl rest

theorem deserialize_serialize {packet : VoicePacket} (h : packet.Fits) : deserialize (serialize packet) = some packet := by
  have hAudio := readVec_append h.audioData []
  rw [List.append_nil] at hAudio
  rw [deserialize, serialize, readVec_append h.senderKey]
  simp only [Option.bind_eq_bind, Option.bind_some]
  rw [readNumber_append packet.sequence.toNat_lt, Option.bind_some, readNumber_append packet.timestamp.toNat_lt,
    Option.bind_some, hAudio, Option.bind_some, UInt32.ofNat_toNat, UInt64.ofNat_toNat]
  rfl

end Rekindle.Voice
