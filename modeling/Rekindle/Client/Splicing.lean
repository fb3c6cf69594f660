import Rekindle.Client.Reference

/-! # What an envelope's signature binds

The signed bytes are the timestamp, the nonce and the payload one after the other, with no length
between them. The wire format is third-party code and a parameter.
-/
namespace Rekindle.Client
set_option autoImplicit false

open ByteWords Fallible Signal

inductive ProtocolError where
  | deserialization (text : String)
  | verification (text : String)
  deriving DecidableEq

/-- Packed Cap'n Proto, and the check of `VerifyingKey::from_bytes`, with the texts of their
errors. -/
structure Wire where
  encodeEnvelope : MessageEnvelope → Bytes
  readEnvelope : Bytes → Except String MessageEnvelope
  keyFault : Key → Option String

def MessageEnvelope.dataSize (envelope : MessageEnvelope) : Nat :=
  envelope.senderKey.length + envelope.nonce.length + envelope.payload.length + envelope.signature.length

/-- A reader takes messages up to its traversal limit of 64 MiB. -/
def Wire.RoundTrips (wire : Wire) : Prop := ∀ envelope : MessageEnvelope,
  envelope.dataSize ≤ 33554432 → wire.readEnvelope (wire.encodeEnvelope envelope) = .ok envelope

section Receiving

variable (prims : Primitives) (wire : Wire)

def parseEnvelope (data : Bytes) : Except ProtocolError MessageEnvelope :=
  (wire.readEnvelope data).mapError fun e => .deserialization ("capnp: " ++ e)

/-- `verify_envelope` with its errors. -/
def checkEnvelope (envelope : MessageEnvelope) : Except ProtocolError Bool := do
  let signedBytes := signedData envelope.timestamp envelope.nonce envelope.payload
  if hKey : envelope.senderKey.length = 32 then
    (wire.keyFault ⟨_, hKey⟩).elim (.ok ()) fun e => .error (.verification ("invalid sender key: " ++ e))
    if hSignature : envelope.signature.length = 64 then
      pure (prims.ed25519Verify ⟨_, hKey⟩ signedBytes ⟨_, hSignature⟩)
    else throw (.verification "signature must be 64 bytes")
  else throw (.verification "sender_key must be 32 bytes")

def processIncoming (raw : Bytes) : Except ProtocolError MessageEnvelope := do
  let envelope ← parseEnvelope wire raw
  let valid ← checkEnvelope prims wire envelope
  refuseIf (valid = false) (.verification "invalid envelope signature")
  pure envelope

/-- No other envelope is accepted with the envelope's signature and sender key. -/
def Binds (envelope : MessageEnvelope) : Prop := ∀ other : MessageEnvelope,
  other.senderKey = envelope.senderKey → other.signature = envelope.signature →
  checkEnvelope prims wire other = .ok true → other = envelope

/-- The signature verifies on the message alone. -/
def VerifiesOnly (publicKey : Key) (message : Bytes) (signature : Signature) : Prop :=
  ∀ other, prims.ed25519Verify publicKey other signature = true → other = message

end Receiving

/-! ## The signed bytes -/

theorem signedData_eq_iff {timestamp timestamp' : UInt64} {nonce nonce' payload payload' : Bytes} :
    signedData timestamp nonce payload = signedData timestamp' nonce' payload' ↔
      timestamp = timestamp' ∧ nonce ++ payload = nonce' ++ payload' := by
  rw [signedData, signedData, List.append_assoc, List.append_assoc]
  constructor
  · intro h
    obtain ⟨hWords, hRest⟩ := List.append_inj h (by simp)
    have hValue := congrArg ofLeBytes hWords
    rw [ofLeBytes_toLeBytes_of_lt timestamp.toNat_lt, ofLeBytes_toLeBytes_of_lt timestamp'.toNat_lt]
      at hValue
    exact ⟨UInt64.toNat_inj.mp hValue, hRest⟩
  · rintro ⟨rfl, hRest⟩
    rw [hRest]

section Built

variable {prims : Primitives} {wire : Wire} {secretKey : Key} {timestamp : UInt64} {nonce payload : Bytes}

theorem checkEnvelope_of_windows {publicKey : Key} {signature : Signature} {envelope : MessageEnvelope}
    (hKey : envelope.senderKey = publicKey.val) (hSignature : envelope.signature = signature.val)
    (hFault : wire.keyFault publicKey = none) :
    checkEnvelope prims wire envelope = .ok (prims.ed25519Verify publicKey
      (signedData envelope.timestamp envelope.nonce envelope.payload) signature) := by
  obtain ⟨_, timestamp, nonce, payload, _⟩ := envelope
  subst hKey hSignature
  unfold checkEnvelope
  rw [dif_pos publicKey.property, hFault, Option.elim_none, dif_pos signature.property]
  rfl

/-- The check passes where the receiving client goes on with the envelope. -/
theorem checkEnvelope_eq_ok_true_iff {envelope : MessageEnvelope}
    (hKeys : ∀ publicKey message signature,
      prims.ed25519Verify publicKey message signature = true → wire.keyFault publicKey = none) :
    checkEnvelope prims wire envelope = .ok true ↔ verifyEnvelope prims envelope = true := by
  by_cases hKey : envelope.senderKey.length = 32
  · by_cases hSignature : envelope.signature.length = 64
    · cases hFault : wire.keyFault ⟨_, hKey⟩ with
      | none =>
        rw [@checkEnvelope_of_windows prims wire ⟨_, hKey⟩ ⟨_, hSignature⟩ envelope rfl rfl hFault]
        simp [verifyEnvelope, verifies, hKey, hSignature]
      | some e =>
        have hRejected := fun message signature => mt (hKeys ⟨_, hKey⟩ message signature) (by simp [hFault])
        simp [checkEnvelope, verifyEnvelope, verifies, hKey, hSignature, hFault, hRejected, bind, Except.bind]
    · cases hFault : wire.keyFault ⟨_, hKey⟩ <;>
        simp [checkEnvelope, verifyEnvelope, verifies, hKey, hSignature, hFault, bind, Except.bind, throw,
          throwThe, MonadExceptOf.throw]
  · simp [checkEnvelope, verifyEnvelope, verifies, hKey, throw, throwThe, MonadExceptOf.throw]

/-! ## Envelopes of one signature -/

/-- Who holds a signature has every envelope accepted that cuts the signed bytes at another place. -/
theorem checkEnvelope_resent (hVerify : prims.SignaturesVerify)
    (hFault : wire.keyFault (prims.ed25519Public secretKey) = none)
    (hUnforged : VerifiesOnly prims (prims.ed25519Public secretKey) (signedData timestamp nonce payload)
      (prims.ed25519Sign secretKey (signedData timestamp nonce payload)))
    {other : MessageEnvelope}
    (hSender : other.senderKey = (buildEnvelopeFromSecret prims secretKey timestamp nonce payload).senderKey)
    (hSignature : other.signature =
      (buildEnvelopeFromSecret prims secretKey timestamp nonce payload).signature) :
    checkEnvelope prims wire other = .ok true ↔
      other.timestamp = timestamp ∧ other.nonce ++ other.payload = nonce ++ payload := by
  rw [checkEnvelope_of_windows hSender hSignature hFault, Except.ok.injEq, ← signedData_eq_iff]
  constructor
  · exact hUnforged _
  · intro h
    rw [h]
    exact hVerify _ _

theorem processIncoming_encoded (hVerify : prims.SignaturesVerify)
    (hFault : wire.keyFault (prims.ed25519Public secretKey) = none)
    (hRead : wire.readEnvelope (wire.encodeEnvelope
      (buildEnvelopeFromSecret prims secretKey timestamp nonce payload)) =
        .ok (buildEnvelopeFromSecret prims secretKey timestamp nonce payload)) :
    processIncoming prims wire (wire.encodeEnvelope
      (buildEnvelopeFromSecret prims secretKey timestamp nonce payload)) =
        .ok (buildEnvelopeFromSecret prims secretKey timestamp nonce payload) := by
  have hCheck : checkEnvelope prims wire (buildEnvelopeFromSecret prims secretKey timestamp nonce payload) =
      .ok true := by
    rw [checkEnvelope_of_windows rfl rfl hFault]
    exact congrArg _ (hVerify _ _)
  simp only [processIncoming, parseEnvelope, hRead, Except.mapError, bind, Except.bind, hCheck, refuseIf]
  rfl

/-- A nonce or a payload that is not empty can be cut at another place. -/
theorem not_binds_of_ne_nil (hVerify : prims.SignaturesVerify)
    (hFault : wire.keyFault (prims.ed25519Public secretKey) = none) (hData : nonce ++ payload ≠ []) :
    ¬Binds prims wire (buildEnvelopeFromSecret prims secretKey timestamp nonce payload) := by
  intro hBinds
  have hCut : ∀ nonce' payload', nonce' ++ payload' = nonce ++ payload → nonce' = nonce := by
    intro nonce' payload' hBytes
    have hOther := hBinds { buildEnvelopeFromSecret prims secretKey timestamp nonce payload with
      nonce := nonce', payload := payload' } rfl rfl (by
        rw [checkEnvelope_of_windows rfl rfl hFault]
        change Except.ok (prims.ed25519Verify _ (signedData timestamp nonce' payload') _) = .ok true
        rw [signedData_eq_iff.mpr ⟨rfl, hBytes⟩]
        exact congrArg _ (hVerify _ _))
    exact congrArg MessageEnvelope.nonce hOther
  have hNone : [] = nonce := hCut [] (nonce ++ payload) rfl
  have hAll : nonce ++ payload = nonce := hCut (nonce ++ payload) [] (List.append_nil _)
  exact hData (hAll.trans hNone.symm)

/-- Everything an envelope's signature settles: the timestamp and the nonce and payload as one
string. The envelope alone is accepted, and read back as it was built, exactly when there is
nothing to cut. -/
theorem signature_binds_iff (hVerify : prims.SignaturesVerify)
    (hFault : wire.keyFault (prims.ed25519Public secretKey) = none)
    (hUnforged : VerifiesOnly prims (prims.ed25519Public secretKey) (signedData timestamp nonce payload)
      (prims.ed25519Sign secretKey (signedData timestamp nonce payload)))
    (hWire : wire.RoundTrips) :
    let envelope := buildEnvelopeFromSecret prims secretKey timestamp nonce payload
    (Binds prims wire envelope ∧
      processIncoming prims wire (wire.encodeEnvelope envelope) = .ok envelope ↔
        nonce = [] ∧ payload = []) ∧
    (∀ other : MessageEnvelope, other.senderKey = envelope.senderKey → other.signature = envelope.signature →
      (checkEnvelope prims wire other = .ok true ↔
        other.timestamp = timestamp ∧ other.nonce ++ other.payload = nonce ++ payload)) ∧
    (envelope.dataSize ≤ 33554432 →
      processIncoming prims wire (wire.encodeEnvelope envelope) = .ok envelope) := by
  intro envelope
  have hResent (other : MessageEnvelope) (hSender : other.senderKey = envelope.senderKey)
      (hSignature : other.signature = envelope.signature) :=
    @checkEnvelope_resent prims wire secretKey timestamp nonce payload hVerify hFault hUnforged other
      hSender hSignature
  have hRead (hSize : envelope.dataSize ≤ 33554432) :=
    processIncoming_encoded hVerify hFault (hWire envelope hSize)
  refine ⟨⟨fun ⟨hBinds, _⟩ => ?_, ?_⟩, hResent, hRead⟩
  · by_contra hCut
    exact not_binds_of_ne_nil hVerify hFault (by rwa [ne_eq, List.append_eq_nil_iff]) hBinds
  · rintro ⟨rfl, rfl⟩
    constructor
    · intro other hSender hSignature hAccepted
      obtain ⟨hTime, hData⟩ := (hResent other hSender hSignature).mp hAccepted
      obtain ⟨hNonce, hPayload⟩ := List.append_eq_nil_iff.mp hData
      have hFields : other = { envelope with
          timestamp := other.timestamp, nonce := other.nonce, payload := other.payload } := by
        cases other
        cases hSender
        cases hSignature
        rfl
      rw [hFields, hTime, hNonce, hPayload]
      rfl
    · have hSize : envelope.dataSize = 96 := by
        simp [envelope, MessageEnvelope.dataSize, buildEnvelopeFromSecret]
      exact hRead (by omega)

end Built

/-! ## A spliced envelope -/

namespace Reference

open Json Signal.Reference

/-- The first 31 bytes and the length, which is all there is to a short message. -/
def shortDigest (message : Bytes) : Window UInt8 32 :=
  ⟨(message ++ List.replicate 31 0).take 31 ++ [UInt8.ofNat (min message.length 32)], by simp⟩

/-- The reference primitives with signatures that verify on one short message only. -/
def strictPrimitives : Primitives := { primitives with
  ed25519Sign := fun secret message => ⟨(verifier secret).val ++ (shortDigest message).val, by simp⟩
  ed25519Verify := fun publicKey message signature =>
    signature.val = publicKey.val ++ (shortDigest message).val }

def envelopeValue (envelope : MessageEnvelope) : Value := objectValue [
  ("senderKey", bytesValue envelope.senderKey), ("timestamp", .number envelope.timestamp.toNat),
  ("nonce", bytesValue envelope.nonce), ("payload", bytesValue envelope.payload),
  ("signature", bytesValue envelope.signature)]

def timestampOf : Value → Option UInt64
  | .number n => some (UInt64.ofNat n)
  | _ => none

def envelopeOf : Value → Option MessageEnvelope
  | .object fields => do
    pure {
      senderKey := ← field fields "senderKey" bytesOf
      timestamp := ← field fields "timestamp" timestampOf
      nonce := ← field fields "nonce" bytesOf
      payload := ← field fields "payload" bytesOf
      signature := ← field fields "signature" bytesOf }
  | _ => none

def wire : Wire where
  encodeEnvelope envelope := write (envelopeValue envelope)
  readEnvelope raw := orThrow ((parse raw).bind envelopeOf) "malformed message"
  keyFault _ := none

theorem wire_roundTrips : wire.RoundTrips := by
  intro envelope _
  change orThrow ((parse (write (envelopeValue envelope))).bind envelopeOf) _ = _
  rw [parse_write, Option.bind_some, orThrow_eq_ok_iff]
  simp [envelopeValue, envelopeOf, objectValue, field, List.lookup_cons, timestampOf]

/-- What Alice's signature on nonce 1 and payload 2 covers. -/
def shortData : Bytes := signedData 0 [1] [2]

theorem verifiesOnly_shortData : VerifiesOnly strictPrimitives (strictPrimitives.ed25519Public (sampleKey 1))
    shortData (strictPrimitives.ed25519Sign (sampleKey 1) shortData) := by
  intro other hVerified
  have hSignature : _ ++ (shortDigest shortData).val = _ ++ (shortDigest other).val :=
    of_decide_eq_true hVerified
  have hDigest := List.append_cancel_left hSignature
  obtain ⟨hBytes, hLength⟩ := List.append_inj' hDigest rfl
  have hShort : other.length = 10 := by
    have hLength := congrArg UInt8.toNat (List.cons.inj hLength).1
    simp [shortData, signedData] at hLength
    omega
  have hTen := congrArg (List.take 10) hBytes
  rw [List.take_take, List.take_take, List.take_append_of_le_length (by decide),
    List.take_append_of_le_length (by omega), List.take_of_length_le (by decide),
    List.take_of_length_le (by omega)] at hTen
  exact hTen.symm

theorem strictPrimitives_signaturesVerify : strictPrimitives.SignaturesVerify :=
  fun _ _ => decide_eq_true rfl

def shortEnvelope : MessageEnvelope := buildEnvelopeFromSecret strictPrimitives (sampleKey 1) 0 [1] [2]

/-- Alice signed nonce 1 and payload 2, and nonce 1, 2 with no payload is accepted. -/
theorem spliced_accepted :
    VerifiesOnly strictPrimitives (strictPrimitives.ed25519Public (sampleKey 1)) shortData
      (strictPrimitives.ed25519Sign (sampleKey 1) shortData) ∧
    checkEnvelope strictPrimitives wire { shortEnvelope with nonce := [1, 2], payload := [] } = .ok true ∧
    ¬Binds strictPrimitives wire shortEnvelope := by
  refine ⟨verifiesOnly_shortData, ?_, ?_⟩
  · rw [checkEnvelope_of_windows rfl rfl rfl]
    exact congrArg _ (strictPrimitives_signaturesVerify _ _)
  · exact not_binds_of_ne_nil strictPrimitives_signaturesVerify rfl (by decide)

theorem short_signature_binds :
    ¬(Binds strictPrimitives wire shortEnvelope ∧
      processIncoming strictPrimitives wire (wire.encodeEnvelope shortEnvelope) = .ok shortEnvelope) ∧
    processIncoming strictPrimitives wire (wire.encodeEnvelope shortEnvelope) = .ok shortEnvelope := by
  obtain ⟨hIff, _, hRead⟩ := signature_binds_iff strictPrimitives_signaturesVerify rfl
    verifiesOnly_shortData wire_roundTrips
  exact ⟨fun h => List.cons_ne_nil _ _ (hIff.mp h).1, hRead (by decide)⟩

end Reference

end Rekindle.Client
