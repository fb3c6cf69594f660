import Mathlib.Logic.Basic

/-! # UTF-8 texts

Bytes read as text: strictly, with the report of the first error, and lossily, with a replacement
character for each longest sequence that begins no character.
-/
namespace Utf8
set_option autoImplicit false

def toBytes (text : String) : List UInt8 := text.toUTF8.data.toList

def ofBytes (bytes : List UInt8) : Option String := String.fromUTF8? ⟨bytes.toArray⟩

theorem mk_toBytes (text : String) : (⟨(toBytes text).toArray⟩ : ByteArray) = text.toUTF8 := by simp [toBytes]

@[simp] theorem ofBytes_toBytes (text : String) : ofBytes (toBytes text) = some text := by
  rw [ofBytes, mk_toBytes]
  exact dif_pos text.isValidUTF8

theorem toBytes_of_ofBytes {bytes : List UInt8} {text : String} (h : ofBytes bytes = some text) :
    toBytes text = bytes := by
  unfold ofBytes String.fromUTF8? at h
  split at h
  · obtain rfl := Option.some.inj h
    rfl
  · cases h

theorem toBytes_injective : Function.Injective toBytes := by
  intro a b h
  have hText := congrArg ofBytes h
  rwa [ofBytes_toBytes, ofBytes_toBytes, Option.some.injEq] at hText

theorem toBytes_eq_nil_iff {text : String} : toBytes text = [] ↔ text = "" :=
  ⟨fun h => toBytes_injective h, fun h => h ▸ rfl⟩

/-! ## Characters at the front -/

/-- What may follow a byte that begins a character. -/
def followers (lead : UInt8) : Option (List (UInt8 × UInt8)) :=
  if lead < 0x80 then some []
  else if lead < 0xC2 then none
  else if lead < 0xE0 then some [(0x80, 0xBF)]
  else if lead < 0xF0 then
    some [(if lead = 0xE0 then 0xA0 else 0x80, if lead = 0xED then 0x9F else 0xBF), (0x80, 0xBF)]
  else if lead < 0xF5 then
    some [(if lead = 0xF0 then 0x90 else 0x80, if lead = 0xF4 then 0x8F else 0xBF), (0x80, 0xBF), (0x80, 0xBF)]
  else none

/-- How many bytes lie in the ranges one after the other, and whether no range is left. -/
def fitting : List (UInt8 × UInt8) → List UInt8 → Nat × Bool
  | [], _ => (0, true)
  | _ :: _, [] => (0, false)
  | (lowest, highest) :: ranges, byte :: rest =>
    if lowest ≤ byte ∧ byte ≤ highest then ((fitting ranges rest).1 + 1, (fitting ranges rest).2) else (0, false)

/-- The length of the character at the front, or of the longest part of one. -/
def front : List UInt8 → Nat × Bool
  | [] => (0, false)
  | lead :: rest =>
    match followers lead with
    | none => (1, false)
    | some ranges => ((fitting ranges rest).1 + 1, (fitting ranges rest).2)

/-! ## Texts with errors -/

def replacement : String := "\uFFFD"

def replaced : Nat → List UInt8 → String
  | 0, _ => ""
  | _, [] => ""
  | fuel + 1, lead :: rest =>
    let bytes := lead :: rest
    (if (front bytes).2 then (ofBytes (bytes.take (front bytes).1)).getD replacement else replacement) ++
      replaced fuel (bytes.drop (front bytes).1)

/-- `String::from_utf8_lossy`. -/
def fromUtf8Lossy (bytes : List UInt8) : String := (ofBytes bytes).getD (replaced bytes.length bytes)

/-- The text of the error that reading from an index on ends with. -/
def errorFrom : Nat → Nat → List UInt8 → String
  | 0, _, _ => ""
  | _, _, [] => ""
  | fuel + 1, index, lead :: rest =>
    let (length, complete) := front (lead :: rest)
    if complete then errorFrom fuel (index + length) ((lead :: rest).drop length)
    else if length = rest.length + 1 ∧ (followers lead).isSome then
      "incomplete utf-8 byte sequence from index " ++ toString index
    else "invalid utf-8 sequence of " ++ toString length ++ " bytes from index " ++ toString index

/-- The text of the error that `std::str::from_utf8` returns. -/
def utf8Error (bytes : List UInt8) : String := errorFrom bytes.length 0 bytes

@[simp] theorem fromUtf8Lossy_toBytes (text : String) : fromUtf8Lossy (toBytes text) = text := by
  rw [fromUtf8Lossy, ofBytes_toBytes, Option.getD_some]

theorem front_pos (lead : UInt8) (rest : List UInt8) : 0 < (front (lead :: rest)).1 := by
  rw [front]
  split
  · exact Nat.one_pos
  · exact Nat.succ_pos _

theorem replacement_ne_empty : replacement ≠ "" := by decide

theorem ofBytes_ne_empty {bytes : List UInt8} (hBytes : bytes ≠ []) : ofBytes bytes ≠ some "" := by
  intro h
  exact hBytes (toBytes_of_ofBytes h).symm

theorem replaced_ne_empty (lead : UInt8) (rest : List UInt8) :
    replaced (rest.length + 1) (lead :: rest) ≠ "" := by
  rw [replaced, ne_eq, String.append_eq_empty_iff, not_and]
  intro hFront
  split at hFront
  · have hTake : (lead :: rest).take (front (lead :: rest)).1 ≠ [] := by
      have hPos := front_pos lead rest
      simp
      omega
    cases hPiece : ofBytes ((lead :: rest).take (front (lead :: rest)).1) with
    | none =>
      rw [hPiece] at hFront
      exact absurd hFront replacement_ne_empty
    | some piece =>
      rw [hPiece] at hFront
      exact absurd (hPiece.trans (congrArg some hFront)) (ofBytes_ne_empty hTake)
  · exact absurd hFront replacement_ne_empty

theorem fromUtf8Lossy_ne_empty {bytes : List UInt8} (hBytes : bytes ≠ []) : fromUtf8Lossy bytes ≠ "" := by
  obtain ⟨lead, rest, rfl⟩ := List.exists_cons_of_ne_nil hBytes
  unfold fromUtf8Lossy
  cases hText : ofBytes (lead :: rest) with
  | some text =>
    rintro rfl
    exact ofBytes_ne_empty hBytes hText
  | none => exact replaced_ne_empty lead rest

end Utf8
