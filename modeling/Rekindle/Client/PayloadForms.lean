import Rekindle.Library.JsonGrammar
import Rekindle.Client.Reference

/-! # Plaintext and ciphertext payloads

A receiver takes a payload that is JSON text for plaintext. A ciphertext has four zero bytes in front
of the counter in its nonce, and no JSON text holds one.
-/
namespace Rekindle.Client
set_option autoImplicit false

open ByteWords Json Signal MemoryStores

/-- The value is nested no deeper than the bound, its strings are texts, and its numbers are words. -/
inductive WithinLimits : Nat → Value → Prop
  | null {depth : Nat} : WithinLimits depth .null
  | bool {depth : Nat} (b : Bool) : WithinLimits depth (.bool b)
  | number {depth n : Nat} (h : n < 2 ^ 64) : WithinLimits depth (.number n)
  | negative {depth n : Nat} (h : n < 2 ^ 63) : WithinLimits depth (.negative n)
  | string {depth : Nat} (text : String) : WithinLimits depth (textValue text)
  | array {depth : Nat} {items : List Value} (h : ∀ item ∈ items, WithinLimits depth item) :
      WithinLimits (depth + 1) (.array items)
  | object {depth : Nat} {fields : List (String × Value)} (h : ∀ field ∈ fields, WithinLimits depth field.2) :
      WithinLimits (depth + 1) (objectValue fields)

/-- The serializer writes compact JSON, and the parser takes JSON texts only, and all that the
serializer writes of values within its limits. -/
structure Externals.SerdeJson (externals : Externals) : Prop where
  payload : ∀ payload, externals.payloadToVec payload = write (payloadValue payload)
  documents : ∀ text, externals.isJson text = true → Document text
  written : ∀ value, WithinLimits 127 value → externals.isJson (write value) = true

section
variable {depth : Nat}

theorem withinLimits_bytes (bytes : Bytes) : WithinLimits (depth + 1) (bytesValue bytes) := by
  refine .array fun item hItem => ?_
  obtain ⟨byte, -, rfl⟩ := List.mem_map.mp hItem
  exact .number (byte.toNat_lt.trans (by decide))

theorem withinLimits_word (word : UInt32) : WithinLimits depth (wordValue word) :=
  .number (word.toNat_lt.trans (by decide))

theorem withinLimits_option {α : Type} {write : α → Value} (h : ∀ a, WithinLimits depth (write a))
    (value : Option α) : WithinLimits depth (optionValue write value) := by
  cases value with
  | none => exact .null
  | some a => exact h a

theorem withinLimits_gameInfo (info : GameInfo) : WithinLimits (depth + 1) (gameInfoValue info) := by
  refine .object ?_
  simp only [List.forall_mem_cons]
  exact ⟨withinLimits_word _, .string _, withinLimits_option .string _, withinLimits_word _, by simp⟩

/-- Payloads are nested three deep at most. -/
theorem withinLimits_payload (payload : MessagePayload) : WithinLimits (depth + 2) (payloadValue payload) := by
  cases payload <;> refine .object ?_ <;> simp only [List.forall_mem_cons]
  case directMessage =>
    exact ⟨.string _, .string _, withinLimits_option withinLimits_bytes _, by simp⟩
  case channelMessage =>
    exact ⟨.string _, .string _, .string _, withinLimits_option withinLimits_bytes _, by simp⟩
  case typingIndicator => exact ⟨.string _, .bool _, by simp⟩
  case friendRequest =>
    exact ⟨.string _, .string _, .string _, withinLimits_bytes _, .string _, withinLimits_bytes _, .string _,
      by simp⟩
  case friendAccept =>
    exact ⟨.string _, withinLimits_bytes _, .string _, withinLimits_bytes _, .string _, withinLimits_bytes _,
      withinLimits_word _, withinLimits_option withinLimits_word _, by simp⟩
  case profileKeyRotated => exact ⟨.string _, .string _, by simp⟩
  case presenceUpdate status gameInfo =>
    exact ⟨.string _, .number (status.toNat_lt.trans (by decide)),
      withinLimits_option withinLimits_gameInfo _, by simp⟩
  case friendReject | friendRequestReceived | unfriended | unfriendedAck => exact ⟨.string _, by simp⟩

end

/-- Every ciphertext holds a zero byte. -/
theorem zero_mem_encrypted {prims : Primitives} {stores after : MemoryStores} {peerAddress : String}
    {plaintext message : Bytes} (h : (encrypt prims manager peerAddress plaintext).run stores = .ok message after) :
    (0 : UInt8) ∈ message := by
  rw [encrypt_run] at h
  split at h
  · cases h
  next ratchet _ =>
    split at h
    · cases h
    next sealedMessage hSealed =>
      cases h
      obtain ⟨ciphertext, -, rfl⟩ := Option.map_eq_some_iff.mp hSealed
      simp [counterNonce]

/-- No ciphertext is taken for plaintext, and no plaintext for a ciphertext. -/
theorem payload_forms_apart {externals : Externals} (hJson : externals.SerdeJson) :
    (∀ (stores after : MemoryStores) (peerAddress : String) (plaintext message : Bytes),
      (encrypt externals.prims manager peerAddress plaintext).run stores = .ok message after →
      externals.isJson message = false ∧
      ∀ sender state, openPayload externals sender message state =
        state.callManager (decrypt externals.prims manager sender message)) ∧
    ∀ payload : MessagePayload, externals.isJson (externals.payloadToVec payload) = true ∧
      ∀ sender state, openPayload externals sender (externals.payloadToVec payload) state =
        (some (externals.payloadToVec payload), state) := by
  constructor
  · intro stores after peerAddress plaintext message hRun
    have hNot : externals.isJson message = false := by
      rw [Bool.eq_false_iff]
      intro hTaken
      exact (hJson.documents message hTaken).ne_zero 0 (zero_mem_encrypted hRun) rfl
    exact ⟨hNot, fun sender state => by rw [openPayload, hNot]; rfl⟩
  · intro payload
    have hTaken : externals.isJson (externals.payloadToVec payload) = true := by
      rw [hJson.payload]
      exact hJson.written _ (withinLimits_payload payload)
    exact ⟨hTaken, fun sender state => by rw [openPayload, hTaken]; rfl⟩

namespace Reference

/-- The reference client with a parser that takes compact texts only. -/
def strictExternals : Externals :=
  { externals with isJson := fun bytes => (parse bytes).any fun value => write value == bytes }

theorem strictExternals_serdeJson : strictExternals.SerdeJson where
  payload _ := rfl
  documents text h := by
    change (parse text).any (fun value => write value == text) = true at h
    cases hParsed : parse text with
    | none =>
      rw [hParsed] at h
      cases h
    | some value =>
      rw [hParsed, Option.any_some] at h
      rw [← eq_of_beq h]
      exact document_write value
  written value _ := by
    change (parse (write value)).any (fun value' => write value' == write value) = true
    rw [parse_write, Option.any_some, beq_self_eq_true]

end Reference

open Fallible Reference Signal.Reference in
theorem payload_forms_apart_reference :
    (∃ message after, (encrypt primitives manager "bob" [1]).run initiator = .ok message after ∧
      strictExternals.isJson message = false) ∧
    strictExternals.isJson (strictExternals.payloadToVec .unfriended) = true := by
  refine ⟨?_, ((payload_forms_apart strictExternals_serdeJson).2 .unfriended).1⟩
  have hReturns : (Result.value? ((encrypt primitives manager "bob" [1]).run initiator)).isSome = true := by
    decide +kernel
  cases hRun : (encrypt primitives manager "bob" [1]).run initiator with
  | error abort after =>
    rw [hRun] at hReturns
    cases hReturns
  | ok message after =>
    exact ⟨message, after, rfl,
      ((payload_forms_apart strictExternals_serdeJson).1 initiator after "bob" [1] message hRun).1⟩

end Rekindle.Client
