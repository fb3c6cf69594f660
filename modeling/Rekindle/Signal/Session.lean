import Rekindle.Signal.RatchetState

/-! # Session management

X3DH establishment on both sides and the symmetric ratchet, over any storage backend. The keys
that the code draws from the system's random source are arguments.
-/
namespace Rekindle.Signal
set_option autoImplicit false

open ByteWords Fallible

structure PreKeyBundle where
  identityKey : Bytes
  signedPrekey : Bytes
  signedPrekeySignature : Bytes
  oneTimePrekey : Option Bytes
  registrationId : UInt32
  deriving DecidableEq

structure SessionInitInfo where
  ephemeralPublicKey : Bytes
  signedPrekeyId : UInt32
  oneTimePrekeyId : Option UInt32
  deriving DecidableEq

def x3dhInfo : Bytes := ascii "ReKindleX3DH"
def messageKeyInfo : Bytes := ascii "ReKindleMsgKey"
def chainKeyInfo : Bytes := ascii "ReKindleChainKey"

/-- `identity_private[..32]`. -/
def privatePrefix (identityPrivate : Bytes) : Except Abort Key := readAt identityPrivate 0 32

/-- `<[u8; 32]>::try_from(..)` with the message of its error. -/
def key32 (bytes : Bytes) (message : String) : Except Abort Key :=
  if h : bytes.length = 32 then .ok ⟨bytes, h⟩ else .error (.error (.invalidKey message))

/-- `ok_or_else` with the error of a missing value. -/
def okOr {α : Type} (value : Option α) (error : CryptoError) : Except Abort α :=
  value.elim (.error (.error error)) .ok

/-- `okm[..32]`, `okm[32..64]` and `okm[64..96]`. -/
def okmBlock (okm : Window UInt8 96) (block : Fin 3) : Key :=
  ⟨(okm.val.drop (32 * block)).take 32, by
    rw [List.length_take, List.length_drop, okm.property]; omega⟩

def initiatorRatchet (okm : Window UInt8 96) (ephemeralPublic : Key) (theirSignedPrekey : Bytes) :
    RatchetState where
  rootKey := okmBlock okm 0
  sendingChainKey := okmBlock okm 1
  receivingChainKey := okmBlock okm 2
  ourRatchetSecret := ephemeralPublic
  theirRatchetPublic := theirSignedPrekey
  sendCounter := 0
  recvCounter := 0

-- The responder swaps the two chains.
def responderRatchet (okm : Window UInt8 96) (signedPrekeyPublic : Key) (theirEphemeral : Bytes) :
    RatchetState where
  rootKey := okmBlock okm 0
  receivingChainKey := okmBlock okm 1
  sendingChainKey := okmBlock okm 2
  ourRatchetSecret := signedPrekeyPublic
  theirRatchetPublic := theirEphemeral
  sendCounter := 0
  recvCounter := 0

/-- Four zero bytes, then the counter. -/
def counterNonce (counter : UInt64) : Nonce :=
  ⟨List.replicate 4 0 ++ toLeBytes 8 counter.toNat, by simp⟩

def messageKey (prims : Primitives) (chainKey : Key) : Key :=
  prims.hkdfExpand chainKey messageKeyInfo 32

def nextChainKey (prims : Primitives) (chainKey : Key) : Key :=
  prims.hkdfExpand chainKey chainKeyInfo 32

/-- The stored state after one more message sent. -/
def RatchetState.sent (prims : Primitives) (ratchet : RatchetState) : RatchetState :=
  { ratchet with
    sendingChainKey := nextChainKey prims ratchet.sendingChainKey
    sendCounter := ratchet.sendCounter + 1 }

/-- The stored state after one more message received. -/
def RatchetState.received (prims : Primitives) (ratchet : RatchetState) : RatchetState :=
  { ratchet with
    receivingChainKey := nextChainKey prims ratchet.receivingChainKey
    recvCounter := ratchet.recvCounter + 1 }

section Operations

variable {σ : Type} (prims : Primitives) (manager : SignalSessionManager σ)

/-- `serialize_ratchet`, then `store_session`. -/
def storeRatchet (peerAddress : String) (ratchet : RatchetState) : StoreM σ Unit := do
  let sessionData ← ofExcept (serializeRatchet ratchet)
  manager.sessionStore.storeSession peerAddress sessionData

/-- The initiator's optional fourth exchange. -/
def initiatorDh4 (ephemeralSecret : Key) : Option Bytes → Except Abort Bytes
  | some otpk => do
    let theirOtpk ← key32 otpk "one-time prekey wrong length"
    pure (prims.diffieHellman ephemeralSecret theirOtpk)
  | none => pure []

def establishSession (ephemeralSecret : Key) (peerAddress : String) (bundle : PreKeyBundle) :
    StoreM σ SessionInitInfo := do
  let ephemeralPublic := prims.x25519Public ephemeralSecret
  let (identityPrivate, _) ← manager.identityStore.getIdentityKeyPair
  let ourIdentity ← ofExcept (privatePrefix identityPrivate)
  let theirSignedPrekey ← ofExcept (key32 bundle.signedPrekey "signed prekey wrong length")
  let theirIdentity ← ofExcept (key32 bundle.identityKey "identity key wrong length")
  let dh1 := prims.diffieHellman ourIdentity theirSignedPrekey
  let dh2 := prims.diffieHellman ephemeralSecret theirIdentity
  let dh3 := prims.diffieHellman ephemeralSecret theirSignedPrekey
  let dh4 ← ofExcept (initiatorDh4 prims ephemeralSecret bundle.oneTimePrekey)
  let okm := prims.hkdfExpand (dh1.val ++ dh2.val ++ dh3.val ++ dh4) x3dhInfo 96
  storeRatchet manager peerAddress (initiatorRatchet okm ephemeralPublic bundle.signedPrekey)
  manager.identityStore.saveIdentity peerAddress bundle.identityKey
  pure {
    ephemeralPublicKey := ephemeralPublic
    signedPrekeyId := 1
    oneTimePrekeyId := if bundle.oneTimePrekey.isSome then some 1 else none
  }

/-- The responder's optional fourth exchange, which consumes the one-time prekey. -/
def responderDh4 (theirEphemeral : Key) : Option UInt32 → StoreM σ Bytes
  | some otpkId => do
    let otpkData ← manager.prekeyStore.loadPrekey otpkId
    let otpkData ← ofExcept (okOr otpkData (.invalidKey "one-time prekey not found"))
    let otpkSecret ← ofExcept (key32 otpkData "one-time prekey wrong length")
    manager.prekeyStore.removePrekey otpkId
    pure (prims.diffieHellman otpkSecret theirEphemeral)
  | none => pure []

def respondToSession (peerAddress : String) (theirIdentityKey theirEphemeralKey : Bytes)
    (signedPrekeyId : UInt32) (oneTimePrekeyId : Option UInt32) : StoreM σ Unit := do
  let (identityPrivate, _) ← manager.identityStore.getIdentityKeyPair
  let ourIdentity ← ofExcept (privatePrefix identityPrivate)
  let spkData ← manager.prekeyStore.loadSignedPrekey signedPrekeyId
  let spkData ← ofExcept (okOr spkData (.invalidKey "signed prekey not found"))
  let signedPrekeySecret ← ofExcept (key32 spkData "signed prekey wrong length")
  let theirIdentity ← ofExcept (key32 theirIdentityKey "their identity key wrong length")
  let theirEphemeral ← ofExcept (key32 theirEphemeralKey "their ephemeral key wrong length")
  let dh1 := prims.diffieHellman signedPrekeySecret theirIdentity
  let dh2 := prims.diffieHellman ourIdentity theirEphemeral
  let dh3 := prims.diffieHellman signedPrekeySecret theirEphemeral
  let dh4 ← responderDh4 prims manager theirEphemeral oneTimePrekeyId
  let okm := prims.hkdfExpand (dh1.val ++ dh2.val ++ dh3.val ++ dh4) x3dhInfo 96
  storeRatchet manager peerAddress
    (responderRatchet okm (prims.x25519Public signedPrekeySecret) theirEphemeralKey)
  manager.identityStore.saveIdentity peerAddress theirIdentityKey

/-- `load_session`, then `deserialize_ratchet`. -/
def loadRatchet (peerAddress : String) : StoreM σ RatchetState := do
  let sessionData ← manager.sessionStore.loadSession peerAddress
  let sessionData ← ofExcept (okOr sessionData (.sessionError "no session for peer"))
  ofExcept (deserializeRatchet sessionData)

def encrypt (peerAddress : String) (plaintext : Bytes) : StoreM σ Bytes := do
  let ratchet ← loadRatchet manager peerAddress
  let counter := (ratchet.sent prims).sendCounter
  let nonce := counterNonce counter
  let ciphertext ← ofExcept (okOr
    (prims.aesGcmEncrypt (messageKey prims ratchet.sendingChainKey) nonce plaintext)
    (.encryptionError "aead::Error"))
  storeRatchet manager peerAddress (ratchet.sent prims)
  pure (toLeBytes 8 counter.toNat ++ (nonce.val ++ ciphertext))

def decrypt (peerAddress : String) (message : Bytes) : StoreM σ Bytes := do
  if message.length < 20 then
    throw (.error (.decryptionError "message too short"))
  let ratchet ← loadRatchet manager peerAddress
  -- The counter in `message[..8]` is parsed and not used.
  let nonce ← ofExcept (readAt message 8 12)
  let plaintext ← ofExcept (okOr
    (prims.aesGcmDecrypt (messageKey prims ratchet.receivingChainKey) nonce (message.drop 20))
    (.decryptionError "aead::Error"))
  storeRatchet manager peerAddress (ratchet.received prims)
  pure plaintext

def hasSession (peerAddress : String) : StoreM σ Bool :=
  manager.sessionStore.hasSession peerAddress

def deleteSession (peerAddress : String) : StoreM σ Unit :=
  manager.sessionStore.deleteSession peerAddress

def generateOneTimePrekey (otpkSecret : Key) : Option UInt32 → StoreM σ (Option Bytes)
  | some otpkId => do
    manager.prekeyStore.storePrekey otpkId otpkSecret
    pure (some (prims.x25519Public otpkSecret))
  | none => pure none

def generatePrekeyBundle (signedPrekeySecret otpkSecret : Key) (signedPrekeyId : UInt32)
    (oneTimePrekeyId : Option UInt32) : StoreM σ PreKeyBundle := do
  let (identityPrivate, identityPublic) ← manager.identityStore.getIdentityKeyPair
  let registrationId ← manager.identityStore.getLocalRegistrationId
  let signedPrekeyPublic := prims.x25519Public signedPrekeySecret
  manager.prekeyStore.storeSignedPrekey signedPrekeyId signedPrekeySecret
  let signingKey ← ofExcept (privatePrefix identityPrivate)
  let signature := prims.ed25519Sign signingKey signedPrekeyPublic
  let oneTimePrekey ← generateOneTimePrekey prims manager otpkSecret oneTimePrekeyId
  pure {
    identityKey := identityPublic
    signedPrekey := signedPrekeyPublic
    signedPrekeySignature := signature
    oneTimePrekey := oneTimePrekey
    registrationId := registrationId
  }

end Operations

end Rekindle.Signal
