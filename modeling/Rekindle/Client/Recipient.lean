import Rekindle.Client.Replay

/-! # Misdelivered envelopes

A signature covers the timestamp, the nonce and the payload, and no recipient. What an envelope
does to a client that it was not made for depends on how that client stands to its sender.
-/
namespace Rekindle.Client
set_option autoImplicit false

open Signal

/-- The friend list, the friends table, the stored messages, the sessions and the presence
mappings are the same. -/
structure Unmoved (before after : AppState) : Prop where
  friends : after.friends = before.friends
  rows : after.db.friends = before.db.friends
  messages : after.db.messages = before.db.messages
  signalManager : after.signalManager = before.signalManager
  dhtManager : after.dhtManager = before.dhtManager

theorem OnlyBooks.unmoved {before after : AppState} (h : OnlyBooks before after) :
    Unmoved before after := by
  obtain ⟨_, _, _, rfl⟩ := h
  exact ⟨rfl, rfl, rfl, rfl, rfl⟩

/-- An envelope that is inert for the client it is delivered to leaves the client unmoved. -/
theorem unmoved_of_inert (externals : Externals) (ambient : Ambient) (state : AppState)
    (envelope : MessageEnvelope) (h : state.Inert externals envelope) :
    Unmoved state (handleIncomingMessage externals ambient envelope state) :=
  (handleIncomingMessage_of_inert ambient h).unmoved

/-- A client that does not hold the sender as a friend is moved by none of its plaintexts. -/
theorem inert_of_not_friend {externals : Externals} {state : AppState} {envelope : MessageEnvelope}
    (hStranger : state.friend? (hexEncode envelope.senderKey) = none)
    (hJson : externals.isJson envelope.payload = true) : state.Inert externals envelope := by
  have hNone := state.friendshipState?_eq_none_iff.mpr hStranger
  refine Or.inr ⟨hJson, fun payload _ => ?_⟩
  cases payload with
  | typingIndicator | friendRequestReceived | presenceUpdate | unfriendedAck => trivial
  | friendRequest | directMessage | channelMessage | profileKeyRotated => exact hNone
  | friendReject =>
    change state.friendshipState? _ ≠ _
    rw [hNone]
    nofun
  | unfriended | friendAccept => exact Or.inl hNone

namespace Reference

open Signal.Reference

/-- The envelope that tells Bob that Alice has removed him. -/
def unfriendedForBob : MessageEnvelope :=
  buildEnvelopeFromSecret primitives (sampleKey 1) (ambientOf 50).now ((ambientOf 50).nonce (address 2)).val
    (externals.payloadToVec .unfriended)

/-- Carol after she has accepted Alice's request. -/
def carolWithAlice : AppState :=
  Runs.final (step externals) (user 3 "Carol")
    [(ambientOf 10, .receive aliceRequest), (ambientOf 20, .acceptRequest (address 1) "Alice")]

/-- Bob does not hold Alice as a friend. -/
theorem unfriended_unmoved :
    Unmoved (user 2 "Bob")
      (handleIncomingMessage externals (ambientOf 60) unfriendedForBob (user 2 "Bob")) :=
  unmoved_of_inert externals (ambientOf 60) (user 2 "Bob") unfriendedForBob
    (inert_of_not_friend (by decide +kernel) (by decide +kernel))

/-- Alice makes the envelope for Bob. Delivered to Carol, it ends her friendship with Alice. -/
theorem unfriended_misdelivered :
    (address 2, unfriendedForBob) ∈
        (removeFriend externals (ambientOf 50) (address 2) (user 1 "Alice")).2.transmitted ∧
      carolWithAlice.friendshipState? (address 1) = some .accepted ∧
      (handleIncomingMessage externals (ambientOf 60) unfriendedForBob carolWithAlice).friendshipState?
        (address 1) = none := by
  decide +kernel

end Reference

end Rekindle.Client
