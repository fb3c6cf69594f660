import Mathlib.Algebra.Ring.Nat
import Rekindle.Library.WordPacking

/-! # Streams of segments

A message is a list of segments. Its stream starts with their number, less one, and their sizes in words.
-/
namespace Rekindle.Capnp
set_option autoImplicit false

open ByteWords WordPacking

def halfWord (n : Nat) : Window UInt8 4 := ⟨toLeBytes 4 n, length_toLeBytes 4 n⟩

def joined (low high : Window UInt8 4) : Word := ⟨low.val ++ high.val, by simp⟩

/-- An odd half is filled up with zeros. -/
def pairedHalves : List (Window UInt8 4) → List Word
  | low :: high :: rest => joined low high :: pairedHalves rest
  | [low] => [joined low (halfWord 0)]
  | [] => []

def segmentTable (segments : List (List Word)) : List Word :=
  pairedHalves (halfWord (segments.length - 1) :: segments.map fun segment => halfWord segment.length)

def stream (segments : List (List Word)) : List Word := segmentTable segments ++ segments.flatten

/-- A pointer to a struct that lies right behind it. -/
def structPointer (dataWords pointers : Nat) : Word :=
  ⟨toLeBytes 4 0 ++ (toLeBytes 2 dataWords ++ toLeBytes 2 pointers), by simp⟩

/-- A packed message of fewer than 256 segments, with its root at the start of the first. -/
def StandardFrame (root : Word) (packed : List UInt8) : Prop :=
  ∃ content others, others.length < 255 ∧ Packs (stream ((root :: content) :: others)) packed

section
variable {root : Word} {packed : List UInt8}

theorem mem_stream {segments : List (List Word)} {segment : List Word} {word : Word} (hSegment : segment ∈ segments)
    (hWord : word ∈ segment) : word ∈ stream segments :=
  List.mem_append_right _ (List.mem_flatten.mpr ⟨segment, hSegment, hWord⟩)

/-- Every byte of the root that is not zero is in the packed message. -/
theorem StandardFrame.mem {byte : UInt8} (h : StandardFrame root packed) (hByte : byte ∈ root.val)
    (hNonzero : byte ≠ 0) : byte ∈ packed := by
  obtain ⟨content, others, -, hPacks⟩ := h
  exact hPacks.mem (mem_stream List.mem_cons_self List.mem_cons_self) hByte hNonzero

/-- The number of segments fits a byte, so the bits of the next three bytes are clear. -/
theorem tag_joined {count size : Nat} (hCount : count < 256) :
    (joined (halfWord count) (halfWord size)).tag.toNat % 16 < 2 := by
  rw [Word.toNat_tag]
  have hSecond : UInt8.ofNat (count / 256) = 0 := by rw [Nat.div_eq_of_lt hCount]; rfl
  have hThird : UInt8.ofNat (count / 256 / 256) = 0 := by rw [Nat.div_eq_of_lt hCount]; rfl
  have hFourth : UInt8.ofNat (count / 256 / 256 / 256) = 0 := by rw [Nat.div_eq_of_lt hCount]; rfl
  simp only [joined, halfWord, toLeBytes, hSecond, hThird, hFourth, List.cons_append, List.nil_append,
    List.map_cons, List.map_nil, ofBits, bne_self_eq_false, Bool.toNat_false]
  have hBit := Bool.toNat_lt (UInt8.ofNat count != 0)
  omega

/-- The first byte of a packed message. -/
theorem StandardFrame.head? (h : StandardFrame root packed) : ∃ tag, packed.head? = some tag ∧ tag.toNat % 16 < 2 := by
  obtain ⟨content, others, hCount, hPacks⟩ := h
  exact ⟨_, hPacks.head?, tag_joined (by simpa using Nat.lt_succ_of_lt hCount)⟩

end

end Rekindle.Capnp
