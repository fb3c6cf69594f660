import Rekindle.Client.Codec
import Rekindle.Protocol.LogRuns

/-! # A reference network

Heads and spines as JSON, with texts for record keys, and a network that holds nothing yet.
-/
namespace Rekindle.Protocol.Reference
set_option autoImplicit false

open Client Fallible Json

def numberOf : Value → Option Nat
  | .number n => some n
  | _ => none

def wordOf : Value → Option UInt64
  | .number n => some (UInt64.ofNat n)
  | _ => none

def listValue {α : Type} (write : α → Value) (items : List α) : Value := .array (items.map write)

def listOf {α : Type} (read : Value → Option α) : Value → Option (List α)
  | .array items => items.mapM read
  | _ => none

theorem listOf_listValue {α : Type} {write : α → Value} {read : Value → Option α}
    (h : ∀ a, read (write a) = some a) (items : List α) : listOf read (listValue write items) = some items := by
  rw [listValue, listOf]
  induction items with
  | nil => rfl
  | cons a items ih => simp [List.mapM_cons, h, ih]

def headValue (head : ShortArrayHead) : Value := objectValue [
  ("stride", .number head.stride), ("slots", listValue .number head.slots)]

def headOf : Value → Option ShortArrayHead
  | .object fields => do
    pure { stride := ← field fields "stride" numberOf, slots := ← field fields "slots" (listOf numberOf) }
  | _ => none

def spineValue (spine : LogSpine) : Value := objectValue [
  ("total_count", .number spine.totalCount.toNat), ("segment_capacity", .number spine.segmentCapacity),
  ("segments", listValue textValue spine.segments)]

def spineOfValue : Value → Option LogSpine
  | .object fields => do
    pure {
      totalCount := ← field fields "total_count" wordOf
      segmentCapacity := ← field fields "segment_capacity" numberOf
      segments := ← field fields "segments" (listOf textOf) }
  | _ => none

def codec : Codec String where
  headToVec head := write (headValue head)
  headFromSlice bytes := orThrow ((parse bytes).bind headOf) "expected value"
  spineToVec spine := write (spineValue spine)
  spineFromSlice bytes := orThrow ((parse bytes).bind spineOfValue) "expected value"
  keyToString key := key
  parseKey key := .ok key

theorem length_writeItems_numbers {items : List Nat} (h : ∀ n ∈ items, (writeNumber n).length ≤ 3) :
    (writeItems (items.map .number)).length ≤ 4 * items.length + 1 := by
  induction items with
  | nil => simp [writeItems]
  | cons n items ih =>
    rw [List.forall_mem_cons] at h
    have hItem := h.1
    have hRest := ih h.2
    simp only [List.map_cons, writeItems, write, List.length_cons, List.length_append]
    omega

theorem length_le_writeItems (items : List Value) : items.length ≤ (writeItems items).length := by
  induction items with
  | nil => simp [writeItems]
  | cons item items ih =>
    simp only [writeItems, List.length_cons, List.length_append]
    omega

theorem length_le_write_array (items : List Value) : items.length ≤ (write (.array items)).length := by
  cases items with
  | nil => simp
  | cons item items =>
    have hRest := length_le_writeItems items
    simp only [write, List.length_cons, List.length_append]
    omega

theorem length_writeNumber_le : ∀ n < 256, (writeNumber n).length ≤ 3 := by decide +kernel

theorem length_write_slots_le {slots : List Nat} (hLength : slots.length ≤ 255)
    (hSlots : ∀ slot ∈ slots, slot < 255) : (write (listValue .number slots)).length ≤ 1024 := by
  have hDigits : ∀ slot ∈ slots, (writeNumber slot).length ≤ 3 :=
    fun slot hSlot => length_writeNumber_le slot (by have := hSlots slot hSlot; omega)
  cases slots with
  | nil => simp [listValue, write]
  | cons slot slots =>
    rw [List.forall_mem_cons] at hDigits
    have hFirst := hDigits.1
    have hRest := length_writeItems_numbers hDigits.2
    simp only [listValue, List.map_cons, write, List.length_cons, List.length_append] at hLength ⊢
    omega

theorem codec_laws : codec.Laws where
  head head := by
    have hSlots : listOf numberOf (listValue .number head.slots) = some head.slots :=
      @listOf_listValue Nat .number numberOf (fun _ => rfl) _
    change orThrow ((parse (write (headValue head))).bind headOf) _ = _
    rw [parse_write, Option.bind_some, orThrow_eq_ok_iff]
    simp [headValue, headOf, objectValue, field, List.lookup_cons, numberOf, hSlots]
  spine spine := by
    change orThrow ((parse (write (spineValue spine))).bind spineOfValue) _ = _
    rw [parse_write, Option.bind_some, orThrow_eq_ok_iff]
    simp [spineValue, spineOfValue, objectValue, field, List.lookup_cons, wordOf, numberOf, listOf_listValue]
  key _ := rfl
  segments_le spine := by
    have hItems := length_le_write_array (spine.segments.map textValue)
    change spine.segments.length ≤ (write (spineValue spine)).length
    simp only [spineValue, objectValue, listValue, List.map_cons, List.map_nil, write, writeFields,
      List.length_cons, List.length_append, List.length_map] at hItems ⊢
    omega
  head_le head hLength hSlots hStride := by
    have hItems := length_write_slots_le hLength hSlots
    have hNumber := length_writeNumber_le head.stride (by omega)
    have hNames : (writeString (Signal.ascii "stride")).length = 7 ∧
        (writeString (Signal.ascii "slots")).length = 6 := by decide +kernel
    change (write (headValue head)).length ≤ 32768
    simp only [headValue, objectValue, List.map_cons, List.map_nil, write, writeFields,
      List.length_cons, List.length_append, List.length_nil] at hItems ⊢
    omega

def network (faults : List (Option String)) (supply : List (String × Nat)) : Dht String Nat where
  records _ := none
  opened _ := none
  supply := supply
  faults := faults
  failures := 0

end Rekindle.Protocol.Reference
