import Rekindle.Signal.Session

/-! # Message envelopes

What clients send each other: payloads, the signed envelope around them, and invite blobs. Their
JSON texts come from a third-party serializer, which is a parameter together with the primitives.
-/
namespace Rekindle.Client
set_option autoImplicit false

open ByteWords Signal

structure GameInfo where
  gameId : UInt32
  gameName : String
  serverInfo : Option String
  elapsedSeconds : UInt32
  deriving DecidableEq

structure FriendRequest where
  displayName : String
  message : String
  prekeyBundle : Bytes
  profileDhtKey : String
  routeBlob : Bytes
  mailboxDhtKey : String
  deriving DecidableEq

structure FriendAccept where
  prekeyBundle : Bytes
  profileDhtKey : String
  routeBlob : Bytes
  mailboxDhtKey : String
  ephemeralKey : Bytes
  signedPrekeyId : UInt32
  oneTimePrekeyId : Option UInt32
  deriving DecidableEq

inductive MessagePayload where
  | directMessage (body : String) (replyTo : Option Bytes)
  | channelMessage (channelId body : String) (replyTo : Option Bytes)
  | typingIndicator (typing : Bool)
  | friendRequest (request : FriendRequest)
  | friendAccept (accept : FriendAccept)
  | friendReject
  | profileKeyRotated (newProfileDhtKey : String)
  | friendRequestReceived
  | presenceUpdate (status : UInt8) (gameInfo : Option GameInfo)
  | unfriended
  | unfriendedAck
  deriving DecidableEq

structure MessageEnvelope where
  senderKey : Bytes
  timestamp : UInt64
  nonce : Bytes
  payload : Bytes
  signature : Bytes
  deriving DecidableEq

structure InviteBlob where
  publicKey : String
  displayName : String
  mailboxDhtKey : String
  profileDhtKey : String
  routeBlob : Bytes
  prekeyBundle : Bytes
  signature : Bytes
  deriving DecidableEq

/-- The third-party code the client calls. -/
structure Externals where
  prims : Primitives
  /-- `Identity::to_x25519_secret`. -/
  toX25519Secret : Key → Key
  /-- `serde_json::from_slice::<Value>(..).is_ok()`. -/
  isJson : Bytes → Bool
  payloadToVec : MessagePayload → Bytes
  payloadFromSlice : Bytes → Option MessagePayload
  bundleToVec : PreKeyBundle → Bytes
  bundleFromSlice : Bytes → Option PreKeyBundle
  /-- `decode_invite_url`: base64, then JSON. -/
  decodeInviteUrl : String → Option InviteBlob
  /-- The JSON text an invite's signature covers. -/
  inviteSignable : InviteBlob → Bytes
  /-- `parse::<RecordKey>().is_ok()`. -/
  recordKeyParses : String → Bool

/-- Serializing and parsing again gives the value back, and what is serialized is JSON. -/
structure Externals.RoundTrips (externals : Externals) : Prop where
  payload : ∀ payload, externals.payloadFromSlice (externals.payloadToVec payload) = some payload
  bundle : ∀ bundle, externals.bundleFromSlice (externals.bundleToVec bundle) = some bundle
  isJson : ∀ payload, externals.isJson (externals.payloadToVec payload) = true

/-! ## Keys as text -/

def hexDigit (digit : Nat) : Char := if digit < 10 then Char.ofNat (48 + digit) else Char.ofNat (87 + digit)

/-- `hex::encode`. -/
def hexEncode (bytes : Bytes) : String :=
  String.ofList (bytes.flatMap fun byte => [hexDigit (byte.toNat / 16), hexDigit (byte.toNat % 16)])

def hexValue (digit : Char) : Option UInt8 :=
  let code := digit.toNat
  if 48 ≤ code ∧ code ≤ 57 then some (UInt8.ofNat (code - 48))
  else if 97 ≤ code ∧ code ≤ 102 then some (UInt8.ofNat (code - 87))
  else if 65 ≤ code ∧ code ≤ 70 then some (UInt8.ofNat (code - 55))
  else none

/-- `hex::decode`. -/
def hexDecode : List Char → Option Bytes
  | [] => some []
  | high :: low :: rest => do
    let high ← hexValue high
    let low ← hexValue low
    let rest ← hexDecode rest
    pure ((16 * high + low) :: rest)
  | [_] => none

/-! ## Signatures -/

section Signatures

variable (prims : Primitives)

/-- `timestamp || nonce || payload`. -/
def signedData (timestamp : UInt64) (nonce payload : Bytes) : Bytes :=
  toLeBytes 8 timestamp.toNat ++ nonce ++ payload

def buildEnvelopeFromSecret (secretKey : Key) (timestamp : UInt64) (nonce payload : Bytes) :
    MessageEnvelope where
  senderKey := (prims.ed25519Public secretKey).val
  timestamp := timestamp
  nonce := nonce
  payload := payload
  signature := (prims.ed25519Sign secretKey (signedData timestamp nonce payload)).val

/-- `VerifyingKey::from_bytes`, `Signature::from_bytes` and `verify`. -/
def verifies (publicKey message signature : Bytes) : Bool :=
  if hKey : publicKey.length = 32 then
    if hSignature : signature.length = 64 then
      prims.ed25519Verify ⟨publicKey, hKey⟩ message ⟨signature, hSignature⟩
    else false
  else false

/-- `process_incoming` accepts the envelope. -/
def verifyEnvelope (envelope : MessageEnvelope) : Bool :=
  verifies prims envelope.senderKey
    (signedData envelope.timestamp envelope.nonce envelope.payload) envelope.signature

theorem verifies_of_window (publicKey : Key) (message : Bytes) (signature : Signature) :
    verifies prims publicKey.val message signature.val = prims.ed25519Verify publicKey message signature := by
  rw [verifies, dif_pos publicKey.property, dif_pos signature.property]

/-- An envelope verifies under the key of the one who built it. -/
theorem verifyEnvelope_build (hVerify : prims.SignaturesVerify) (secretKey : Key) (timestamp : UInt64)
    (nonce payload : Bytes) :
    verifyEnvelope prims (buildEnvelopeFromSecret prims secretKey timestamp nonce payload) = true := by
  rw [verifyEnvelope, buildEnvelopeFromSecret, verifies_of_window]
  exact hVerify _ _

end Signatures

def verifyInviteBlob (externals : Externals) (blob : InviteBlob) : Bool :=
  (hexDecode blob.publicKey.toList).elim false fun publicKey =>
    verifies externals.prims publicKey (externals.inviteSignable blob) blob.signature

end Rekindle.Client
