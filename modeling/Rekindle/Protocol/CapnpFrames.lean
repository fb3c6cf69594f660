import Rekindle.Library.ByteWords
import Rekindle.Library.Json
import Rekindle.Protocol.CapnpMessages

/-! # Frames of packed messages

A packed stream is unpacked word by word: a tag byte has a bit for each byte of the word, and a byte
whose bit is clear is zero and not in the stream. The first word holds the number of segments. A JSON
text that opens with a quotation mark is no such stream.
-/
namespace Rekindle.Capnp
set_option autoImplicit false

open ByteWords
open Protocol (Bytes)

def unpackBytes : List Bool → Bytes → Option Bytes
  | [], _ => some []
  | false :: bits, packed => (unpackBytes bits packed).map (0 :: ·)
  | true :: _, [] => none
  | true :: bits, byte :: packed => (unpackBytes bits packed).map (byte :: ·)

def tagBits (tag : UInt8) : List Bool := (List.range 8).map fun bit => tag.toNat.testBit bit

/-- None when the stream ends before the word does. -/
def firstWord? : Bytes → Option Bytes
  | [] => none
  | tag :: packed => unpackBytes (tagBits tag) packed

/-- The first half of the first word, plus one. -/
def segmentCount? (packed : Bytes) : Option Nat :=
  (firstWord? packed).map fun word => (ofLeBytes (word.take 4) + 1) % 2 ^ 32

def segmentsCountLimit : Nat := 512

def Framed (packed : Bytes) : Prop := ∃ count ∈ segmentCount? packed, count < segmentsCountLimit

/-- The library takes no stream that is cut off in its first word and none of too many segments. -/
def Library.RefusesBadFrames (library : Library Bytes) : Prop :=
  ∀ schema packed, ¬Framed packed → ∃ e, library.readMessage schema packed = .error e

/-! ## Texts are not framed -/

theorem unpackBytes_opening (bits : List Bool) (b0 b1 b3 : UInt8) (packed : Bytes) :
    unpackBytes (true :: true :: false :: true :: bits) (b0 :: b1 :: b3 :: packed) =
      (unpackBytes bits packed).map fun word => b0 :: b1 :: 0 :: b3 :: word := by
  simp only [unpackBytes, Option.map_map]
  rfl

/-- The tags of the opening brackets announce the first, second and fourth byte of the word. -/
theorem tagBits_opening {opening : UInt8} (hOpening : opening = 91 ∨ opening = 123) :
    ∃ bits, tagBits opening = true :: true :: false :: true :: bits := by
  rcases hOpening with rfl | rfl
  · exact ⟨[true, false, true, false], by decide⟩
  · exact ⟨[true, true, true, false], by decide⟩

theorem many_segments {b0 b1 b3 : UInt8} (hFirst : b0.toNat < 255) (hMany : 2 ≤ b1.toNat) (word : Bytes) :
    segmentsCountLimit ≤ (ofLeBytes ((b0 :: b1 :: 0 :: b3 :: word).take 4) + 1) % 2 ^ 32 := by
  have h1 := b1.toNat_lt
  have h3 := b3.toNat_lt
  have hZero : (0 : UInt8).toNat = 0 := rfl
  simp only [List.take_succ_cons, List.take_zero, ofLeBytes, hZero, segmentsCountLimit]
  omega

theorem not_framed_opening {opening b1 : UInt8} (hOpening : opening = 91 ∨ opening = 123)
    (hMany : 2 ≤ b1.toNat) (packed : Bytes) : ¬Framed (opening :: 34 :: b1 :: packed) := by
  rintro ⟨count, hCount, hFew⟩
  obtain ⟨bits, hBits⟩ := tagBits_opening hOpening
  obtain ⟨word, hWord, rfl⟩ := Option.map_eq_some_iff.mp hCount
  rw [firstWord?, hBits] at hWord
  cases packed with
  | nil => simp [unpackBytes] at hWord
  | cons b3 packed =>
    rw [unpackBytes_opening] at hWord
    obtain ⟨rest, -, rfl⟩ := Option.map_eq_some_iff.mp hWord
    exact absurd hFew (Nat.not_lt.mpr (many_segments (by decide) hMany rest))

theorem writeString_opening (text tail : Bytes) :
    ∃ byte rest, Json.writeString text ++ tail = byte :: rest ∧ 2 ≤ byte.toNat := by
  cases text with
  | nil => exact ⟨34, tail, rfl, by decide⟩
  | cons byte text =>
    have hWritten : Json.writeString (byte :: text) = Json.escape byte ++ Json.writeString text := by
      simp [Json.writeString]
    rw [hWritten, List.append_assoc]
    unfold Json.escape
    split
    · exact ⟨92, _, rfl, by decide⟩
    · split
      · exact ⟨92, _, rfl, by decide⟩
      · rename_i hPrintable
        refine ⟨byte, _, rfl, ?_⟩
        have hBound : (32 : UInt8).toNat ≤ byte.toNat := UInt8.le_iff_toNat_le.mp (UInt8.not_lt.mp hPrintable)
        exact le_trans (by decide) hBound

/-- An object with a field, or an array that starts with a string. -/
theorem not_framed_quoted {opening : UInt8} (hOpening : opening = 91 ∨ opening = 123) (text tail : Bytes) :
    ¬Framed (opening :: 34 :: (Json.writeString text ++ tail)) := by
  obtain ⟨byte, rest, hText, hMany⟩ := writeString_opening text tail
  rw [hText]
  exact not_framed_opening hOpening hMany rest

theorem not_framed_object (name : Bytes) (value : Json.Value) (fields : List (Bytes × Json.Value)) :
    ¬Framed (Json.write (.object ((name, value) :: fields))) := not_framed_quoted (.inr rfl) name _

theorem not_framed_strings (texts : List Bytes) : ¬Framed (Json.write (.array (texts.map .string))) := by
  cases texts with
  | nil =>
    rintro ⟨count, hCount, -⟩
    cases hCount
  | cons text texts =>
    rw [List.map_cons, Json.write, Json.write, List.cons_append]
    exact not_framed_quoted (.inl rfl) text _

end Rekindle.Capnp
