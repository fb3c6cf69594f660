import Rekindle.Library.SymmetricRatchet
import Rekindle.Signal.Session

/-! # Session operations on the in-memory stores

What each operation does to the stores when it succeeds, and that a failed one leaves them as
they were. Everything later argues from these statements.
-/
namespace Rekindle.Signal
set_option autoImplicit false

open ByteWords Fallible MemoryStores

theorem key32_eq_ok_iff {bytes : Bytes} {message : String} {key : Key} :
    key32 bytes message = .ok key ↔ bytes = key.val := by
  unfold key32
  split
  · rename_i h
    constructor
    · intro hKey
      cases hKey
      rfl
    · rintro rfl
      rfl
  · rename_i h
    constructor
    · intro hKey
      cases hKey
    · rintro rfl
      exact absurd key.property h

theorem okOr_eq_ok_iff {α : Type} {value : Option α} {error : CryptoError} {a : α} :
    okOr value error = .ok a ↔ value = some a := by
  cases value <;> simp [okOr]

namespace MemoryStores

variable (stores : MemoryStores)

@[simp] theorem getIdentityKeyPair_run : manager.identityStore.getIdentityKeyPair.run stores =
    .ok (stores.identityPrivate, stores.identityPublic) stores := rfl

@[simp] theorem getLocalRegistrationId_run :
    manager.identityStore.getLocalRegistrationId.run stores = .ok stores.registrationId stores := rfl

@[simp] theorem saveIdentity_run (address : String) (identityKey : Bytes) :
    (manager.identityStore.saveIdentity address identityKey).run stores =
      .ok () { stores with trusted := stores.trusted.insert address identityKey } := rfl

@[simp] theorem loadPrekey_run (id : UInt32) :
    (manager.prekeyStore.loadPrekey id).run stores = .ok (stores.prekeys.lookup id) stores := rfl

@[simp] theorem storePrekey_run (id : UInt32) (keyData : Bytes) :
    (manager.prekeyStore.storePrekey id keyData).run stores =
      .ok () { stores with prekeys := stores.prekeys.insert id keyData } := rfl

@[simp] theorem removePrekey_run (id : UInt32) :
    (manager.prekeyStore.removePrekey id).run stores =
      .ok () { stores with prekeys := stores.prekeys.erase id } := rfl

@[simp] theorem loadSignedPrekey_run (id : UInt32) :
    (manager.prekeyStore.loadSignedPrekey id).run stores = .ok (stores.signedPrekeys.lookup id) stores :=
  rfl

@[simp] theorem storeSignedPrekey_run (id : UInt32) (keyData : Bytes) :
    (manager.prekeyStore.storeSignedPrekey id keyData).run stores =
      .ok () { stores with signedPrekeys := stores.signedPrekeys.insert id keyData } := rfl

@[simp] theorem loadSession_run (address : String) :
    (manager.sessionStore.loadSession address).run stores = .ok (stores.sessions.lookup address) stores :=
  rfl

@[simp] theorem storeSession_run (address : String) (sessionData : Bytes) :
    (manager.sessionStore.storeSession address sessionData).run stores =
      .ok () { stores with sessions := stores.sessions.insert address sessionData } := rfl

@[simp] theorem deleteSession_run (address : String) :
    (manager.sessionStore.deleteSession address).run stores =
      .ok () { stores with sessions := stores.sessions.erase address } := rfl

/-- The stores after the peer's ratchet moved. -/
def advance (peerAddress : String) (ratchet : RatchetState) : MemoryStores :=
  { stores with sessions := stores.sessions.insert peerAddress ratchet.parts.flatten }

/-- The stores after a successful establishment with the peer. -/
def pin (peerAddress : String) (ratchet : RatchetState) (identityKey : Bytes) : MemoryStores :=
  { stores.advance peerAddress ratchet with
    trusted := stores.trusted.insert peerAddress identityKey }

theorem storeRatchet_run {peerAddress : String} {ratchet : RatchetState} (h : ratchet.Storable) :
    (storeRatchet manager peerAddress ratchet).run stores = .ok () (stores.advance peerAddress ratchet) := by
  rw [storeRatchet, serializeRatchet_eq_ok h]
  rfl

end MemoryStores

/-! ## Establishment -/

section Establishment

variable (prims : Primitives)

/-- The key material both ends of a handshake derive, from the initiator's secrets. -/
def initiatorOkm (ourIdentity ephemeral theirSignedPrekey theirIdentity : Key)
    (theirOtpk : Option Key) : Window UInt8 96 :=
  prims.hkdfExpand ((prims.diffieHellman ourIdentity theirSignedPrekey).val ++
    (prims.diffieHellman ephemeral theirIdentity).val ++
    (prims.diffieHellman ephemeral theirSignedPrekey).val ++
    (theirOtpk.elim [] fun otpk => (prims.diffieHellman ephemeral otpk).val)) x3dhInfo 96

/-- The same from the responder's secrets. -/
def responderOkm (ourIdentity signedPrekey theirIdentity theirEphemeral : Key)
    (otpk : Option Key) : Window UInt8 96 :=
  prims.hkdfExpand ((prims.diffieHellman signedPrekey theirIdentity).val ++
    (prims.diffieHellman ourIdentity theirEphemeral).val ++
    (prims.diffieHellman signedPrekey theirEphemeral).val ++
    (otpk.elim [] fun otpk => (prims.diffieHellman otpk theirEphemeral).val)) x3dhInfo 96

variable {prims}

/-- Commuting Diffie-Hellman makes the two derivations one. -/
theorem initiatorOkm_eq_responderOkm (hCommutes : prims.Commutes)
    (aliceIdentity ephemeral bobIdentity signedPrekey : Key) (otpk : Option Key) :
    initiatorOkm prims aliceIdentity ephemeral (prims.x25519Public signedPrekey)
        (prims.x25519Public bobIdentity) (otpk.map prims.x25519Public) =
      responderOkm prims bobIdentity signedPrekey (prims.x25519Public aliceIdentity)
        (prims.x25519Public ephemeral) otpk := by
  unfold initiatorOkm responderOkm
  rw [hCommutes aliceIdentity signedPrekey, hCommutes ephemeral bobIdentity,
    hCommutes ephemeral signedPrekey]
  cases otpk with
  | none => rfl
  | some otpk => simp only [Option.map_some, Option.elim_some, hCommutes ephemeral otpk]

theorem initiatorRatchet_storable (okm : Window UInt8 96) (ephemeralPublic theirSignedPrekey : Key) :
    (initiatorRatchet okm ephemeralPublic theirSignedPrekey.val).Storable := by
  simp [RatchetState.Storable, initiatorRatchet]

theorem responderRatchet_storable (okm : Window UInt8 96) (signedPrekeyPublic theirEphemeral : Key) :
    (responderRatchet okm signedPrekeyPublic theirEphemeral.val).Storable := by
  simp [RatchetState.Storable, responderRatchet]

/-- The keys an initiator needs, in the order in which the code checks them. -/
def initiatorKeys (identityPrivate : Bytes) (bundle : PreKeyBundle) :
    Except Abort (Key × Key × Key × Option Key) := do
  let ourIdentity ← privatePrefix identityPrivate
  let theirSignedPrekey ← key32 bundle.signedPrekey "signed prekey wrong length"
  let theirIdentity ← key32 bundle.identityKey "identity key wrong length"
  let theirOtpk ← bundle.oneTimePrekey.mapM (key32 · "one-time prekey wrong length")
  pure (ourIdentity, theirSignedPrekey, theirIdentity, theirOtpk)

theorem initiatorDh4_eq (ephemeral : Key) (otpk : Option Bytes) :
    initiatorDh4 prims ephemeral otpk = (otpk.mapM (key32 · "one-time prekey wrong length")).map
      fun key => key.elim [] fun otpk => (prims.diffieHellman ephemeral otpk).val := by
  cases otpk with
  | none => rfl
  | some otpk =>
    simp only [initiatorDh4, Option.mapM_some]
    cases key32 otpk "one-time prekey wrong length" <;> rfl

theorem establishSession_run (ephemeral : Key) (peerAddress : String) (bundle : PreKeyBundle)
    (stores : MemoryStores) :
    (establishSession prims manager ephemeral peerAddress bundle).run stores =
      match initiatorKeys stores.identityPrivate bundle with
      | .error abort => .error abort stores
      | .ok (ourIdentity, theirSignedPrekey, theirIdentity, theirOtpk) =>
        .ok ⟨(prims.x25519Public ephemeral).val, 1, theirOtpk.map fun _ => 1⟩
          (stores.pin peerAddress (initiatorRatchet
            (initiatorOkm prims ourIdentity ephemeral theirSignedPrekey theirIdentity theirOtpk)
            (prims.x25519Public ephemeral) theirSignedPrekey) theirIdentity.val) := by
  obtain ⟨identityKey, signedPrekey, signature, oneTimePrekey, registrationId⟩ := bundle
  simp only [establishSession, initiatorKeys, initiatorDh4_eq, EStateM.run_bind, getIdentityKeyPair_run]
  cases hOur : privatePrefix stores.identityPrivate with
  | error abort => rfl
  | ok ourIdentity =>
    cases hSigned : key32 signedPrekey "signed prekey wrong length" with
    | error abort => rfl
    | ok theirSignedPrekey =>
      cases hIdentity : key32 identityKey "identity key wrong length" with
      | error abort => rfl
      | ok theirIdentity =>
        cases hOtpk : oneTimePrekey.mapM (key32 · "one-time prekey wrong length") with
        | error abort => rfl
        | ok theirOtpk =>
          obtain rfl := key32_eq_ok_iff.mp hSigned
          obtain rfl := key32_eq_ok_iff.mp hIdentity
          simp only [run_ofExcept_ok, Except.map, initiatorOkm,
            storeRatchet_run _ (initiatorRatchet_storable _ _ _)]
          cases oneTimePrekey with
          | none => 
            cases hOtpk
            rfl
          | some otpk => 
            simp only [Option.mapM_some] at hOtpk
            cases hKey : key32 otpk "one-time prekey wrong length" with
            | error abort => rw [hKey] at hOtpk; cases hOtpk
            | ok key => rw [hKey] at hOtpk; cases hOtpk; rfl

def storedOtpk (stores : MemoryStores) (otpkId : UInt32) : Except Abort Key := do
  let otpkData ← okOr (stores.prekeys.lookup otpkId) (.invalidKey "one-time prekey not found")
  key32 otpkData "one-time prekey wrong length"

/-- The keys a responder needs, in the order in which the code looks them up and checks them. -/
def responderKeys (stores : MemoryStores) (theirIdentityKey theirEphemeralKey : Bytes)
    (signedPrekeyId : UInt32) (oneTimePrekeyId : Option UInt32) :
    Except Abort (Key × Key × Key × Key × Option Key) := do
  let ourIdentity ← privatePrefix stores.identityPrivate
  let spkData ← okOr (stores.signedPrekeys.lookup signedPrekeyId)
    (.invalidKey "signed prekey not found")
  let signedPrekey ← key32 spkData "signed prekey wrong length"
  let theirIdentity ← key32 theirIdentityKey "their identity key wrong length"
  let theirEphemeral ← key32 theirEphemeralKey "their ephemeral key wrong length"
  let otpk ← oneTimePrekeyId.mapM (storedOtpk stores)
  pure (ourIdentity, signedPrekey, theirIdentity, theirEphemeral, otpk)

/-- The stores after the one-time prekey, if any, is consumed. -/
def MemoryStores.consume (stores : MemoryStores) (oneTimePrekeyId : Option UInt32) : MemoryStores :=
  { stores with prekeys := oneTimePrekeyId.elim stores.prekeys stores.prekeys.erase }

theorem responderDh4_run (theirEphemeral : Key) (oneTimePrekeyId : Option UInt32)
    (stores : MemoryStores) :
    (responderDh4 prims manager theirEphemeral oneTimePrekeyId).run stores =
      match oneTimePrekeyId.mapM (storedOtpk stores) with
      | .error abort => .error abort stores
      | .ok otpk => .ok (otpk.elim [] fun otpk => (prims.diffieHellman otpk theirEphemeral).val)
          (stores.consume oneTimePrekeyId) := by
  cases oneTimePrekeyId with
  | none => rfl
  | some otpkId =>
    simp only [responderDh4, storedOtpk, EStateM.run_bind, loadPrekey_run, Option.mapM_some,
      removePrekey_run]
    cases okOr (stores.prekeys.lookup otpkId) (.invalidKey "one-time prekey not found") with
    | error abort => rfl
    | ok otpkData =>
      simp only [run_ofExcept_ok, bind, Except.bind]
      cases key32 otpkData "one-time prekey wrong length" with
      | error abort => rfl
      | ok otpk => rfl

theorem respondToSession_run (peerAddress : String) (theirIdentityKey theirEphemeralKey : Bytes)
    (signedPrekeyId : UInt32) (oneTimePrekeyId : Option UInt32) (stores : MemoryStores) :
    (respondToSession prims manager peerAddress theirIdentityKey theirEphemeralKey signedPrekeyId
        oneTimePrekeyId).run stores =
      match responderKeys stores theirIdentityKey theirEphemeralKey signedPrekeyId oneTimePrekeyId with
      | .error abort => .error abort stores
      | .ok (ourIdentity, signedPrekey, theirIdentity, theirEphemeral, otpk) =>
        .ok () ((stores.consume oneTimePrekeyId).pin peerAddress (responderRatchet
          (responderOkm prims ourIdentity signedPrekey theirIdentity theirEphemeral otpk)
          (prims.x25519Public signedPrekey) theirEphemeral) theirIdentity.val) := by
  simp only [respondToSession, responderKeys, EStateM.run_bind, getIdentityKeyPair_run,
    loadSignedPrekey_run, responderDh4_run]
  cases privatePrefix stores.identityPrivate with
  | error abort => rfl
  | ok ourIdentity =>
    simp only [run_ofExcept_ok, bind, Except.bind]
    cases okOr (stores.signedPrekeys.lookup signedPrekeyId)
        (.invalidKey "signed prekey not found") with
    | error abort => rfl
    | ok spkData =>
      simp only [run_ofExcept_ok]
      cases key32 spkData "signed prekey wrong length" with
      | error abort => rfl
      | ok signedPrekey =>
        cases hIdentity : key32 theirIdentityKey "their identity key wrong length" with
        | error abort => rfl
        | ok theirIdentity =>
          cases hEphemeral : key32 theirEphemeralKey "their ephemeral key wrong length" with
          | error abort => rfl
          | ok theirEphemeral =>
            obtain rfl := key32_eq_ok_iff.mp hIdentity
            obtain rfl := key32_eq_ok_iff.mp hEphemeral
            simp only [run_ofExcept_ok]
            cases oneTimePrekeyId.mapM (storedOtpk stores) with
            | error abort => rfl
            | ok otpk =>
              simp only [storeRatchet_run _ (responderRatchet_storable _ _ _), saveIdentity_run]
              rfl

end Establishment

/-! ## Messages -/

section Messages

variable (prims : Primitives)

/-- The peer's session, decoded. -/
def storedRatchet (stores : MemoryStores) (peerAddress : String) : Except Abort RatchetState := do
  let sessionData ← okOr (stores.sessions.lookup peerAddress) (.sessionError "no session for peer")
  deserializeRatchet sessionData

def sealMessage (chainKey : Key) (counter : UInt64) (plaintext : Bytes) : Option Bytes :=
  (prims.aesGcmEncrypt (messageKey prims chainKey) (counterNonce counter) plaintext).map
    fun ciphertext => toLeBytes 8 counter.toNat ++ ((counterNonce counter).val ++ ciphertext)

def openMessage (chainKey : Key) (message : Bytes) : Option Bytes :=
  (slice? message 8 12).bind fun nonce =>
    prims.aesGcmDecrypt (messageKey prims chainKey) nonce (message.drop 20)

variable {prims}

theorem loadRatchet_run (stores : MemoryStores) (peerAddress : String) :
    (loadRatchet manager peerAddress).run stores = 
      match storedRatchet stores peerAddress with
      | .error abort => .error abort stores
      | .ok ratchet => .ok ratchet stores := by
  simp only [loadRatchet, storedRatchet, EStateM.run_bind, loadSession_run]
  cases okOr (stores.sessions.lookup peerAddress) (.sessionError "no session for peer") with
  | error abort => rfl
  | ok sessionData =>
    simp only [run_ofExcept_ok, bind, Except.bind]
    cases deserializeRatchet sessionData <;> rfl

theorem storedRatchet_storable {stores : MemoryStores} {peerAddress : String}
    {ratchet : RatchetState} (h : storedRatchet stores peerAddress = .ok ratchet) :
    ratchet.Storable := by
  simp only [storedRatchet, bind, Except.bind] at h
  split at h
  · cases h
  · exact deserializeRatchet_storable h

theorem storedRatchet_of_lookup {stores : MemoryStores} {peerAddress : String}
    {ratchet : RatchetState} (hStorable : ratchet.Storable)
    (h : stores.sessions.lookup peerAddress = some ratchet.parts.flatten) :
    storedRatchet stores peerAddress = .ok ratchet := by
  simp only [storedRatchet, h, okOr, Option.elim_some, bind, Except.bind, deserializeRatchet_parts hStorable]

theorem storedRatchet_advance {stores : MemoryStores} {peerAddress : String}
    {ratchet : RatchetState} (hStorable : ratchet.Storable) :
    storedRatchet (stores.advance peerAddress ratchet) peerAddress = .ok ratchet :=
  storedRatchet_of_lookup hStorable (Finmap.lookup_insert _)

theorem storedRatchet_pin {stores : MemoryStores} {peerAddress : String} {ratchet : RatchetState}
    {identityKey : Bytes} (hStorable : ratchet.Storable) :
    storedRatchet (stores.pin peerAddress ratchet identityKey) peerAddress = .ok ratchet :=
  storedRatchet_advance hStorable

@[simp] theorem RatchetState.sent_sendCounter (ratchet : RatchetState) (prims : Primitives) :
    (ratchet.sent prims).sendCounter = ratchet.sendCounter + 1 := rfl

theorem RatchetState.Storable.sent {ratchet : RatchetState} (h : ratchet.Storable)
    (prims : Primitives) : (ratchet.sent prims).Storable := h

theorem RatchetState.Storable.received {ratchet : RatchetState} (h : ratchet.Storable)
    (prims : Primitives) : (ratchet.received prims).Storable := h

variable (prims) in
theorem encrypt_run (stores : MemoryStores) (peerAddress : String) (plaintext : Bytes) :
    (encrypt prims manager peerAddress plaintext).run stores =
      match storedRatchet stores peerAddress with
      | .error abort => .error abort stores
      | .ok ratchet =>
        match sealMessage prims ratchet.sendingChainKey (ratchet.sendCounter + 1) plaintext with
        | none => .error (.error (.encryptionError "aead::Error")) stores
        | some message => .ok message (stores.advance peerAddress (ratchet.sent prims)) := by
  simp only [encrypt, EStateM.run_bind, loadRatchet_run]
  cases hLoaded : storedRatchet stores peerAddress with
  | error abort => rfl
  | ok ratchet =>
    have hStorable := (storedRatchet_storable hLoaded).sent prims
    simp only [sealMessage, storeRatchet_run _ hStorable, RatchetState.sent_sendCounter]
    cases prims.aesGcmEncrypt (messageKey prims ratchet.sendingChainKey)
        (counterNonce (ratchet.sendCounter + 1)) plaintext with
    | none => rfl
    | some ciphertext => rfl

variable (prims) in
theorem decrypt_run (stores : MemoryStores) (peerAddress : String) (message : Bytes) :
    (decrypt prims manager peerAddress message).run stores =
      if message.length < 20 then .error (.error (.decryptionError "message too short")) stores
      else match storedRatchet stores peerAddress with
        | .error abort => .error abort stores
        | .ok ratchet =>
          match openMessage prims ratchet.receivingChainKey message with
          | none => .error (.error (.decryptionError "aead::Error")) stores
          | some plaintext => .ok plaintext (stores.advance peerAddress (ratchet.received prims)) := by
  unfold decrypt
  split
  · rfl
  · rename_i hLong
    simp only [EStateM.run_bind, EStateM.run_pure, loadRatchet_run]
    cases hLoaded : storedRatchet stores peerAddress with
    | error abort => rfl
    | ok ratchet =>
      have hStorable := (storedRatchet_storable hLoaded).received prims
      cases hNonce : slice? message 8 12 with
      | none =>
        have hSlice : (slice? message 8 12).isSome := slice?_isSome.mpr (by omega)
        rw [hNonce] at hSlice
        cases hSlice
      | some nonce =>
        simp only [readAt, openMessage, hNonce, run_ofExcept_ok, Option.bind_some,
          storeRatchet_run _ hStorable]
        cases prims.aesGcmDecrypt (messageKey prims ratchet.receivingChainKey) nonce
            (message.drop 20) with
        | none => rfl
        | some plaintext => rfl

/-- One direction of an established session is a symmetric ratchet. -/
def scheme (hDecrypts : prims.DecryptUndoesEncrypt) : SymmetricRatchet.Scheme Key Bytes Bytes where
  next := nextChainKey prims
  Seals chainKey plaintext message := ∃ counter, sealMessage prims chainKey counter plaintext = some message
  open? := openMessage prims
  opens chainKey plaintext message := by
    rintro ⟨counter, hSealed⟩
    obtain ⟨ciphertext, hCiphertext, rfl⟩ := Option.map_eq_some_iff.mp hSealed
    have hNonce : slice? (toLeBytes 8 counter.toNat ++ ((counterNonce counter).val ++ ciphertext)) 8 12 =
        some (counterNonce counter) := slice?_append _ _ _ (by simp)
    rw [openMessage, hNonce, Option.bind_some]
    have hDrop : (toLeBytes 8 counter.toNat ++ ((counterNonce counter).val ++ ciphertext)).drop 20 =
        ciphertext := by
      rw [← List.append_assoc]
      exact List.drop_left' (by simp)
    rw [hDrop]
    exact hDecrypts _ _ _ _ hCiphertext

theorem openMessage_length {chainKey : Key} {message plaintext : Bytes}
    (h : openMessage prims chainKey message = some plaintext) : ¬ message.length < 20 := by
  obtain ⟨nonce, hNonce, _⟩ := Option.bind_eq_some_iff.mp h
  have hSlice : 8 + 12 ≤ message.length := slice?_isSome.mp (by rw [hNonce]; rfl)
  omega

theorem decrypt_of_open {stores : MemoryStores} {peerAddress : String} {ratchet : RatchetState}
    {message plaintext : Bytes} (hStored : storedRatchet stores peerAddress = .ok ratchet)
    (hOpens : openMessage prims ratchet.receivingChainKey message = some plaintext) :
    (decrypt prims manager peerAddress message).run stores =
      .ok plaintext (stores.advance peerAddress (ratchet.received prims)) := by
  rw [decrypt_run, if_neg (openMessage_length hOpens), hStored]
  simp only [hOpens]

theorem decrypt_of_not_open {stores : MemoryStores} {peerAddress : String} {ratchet : RatchetState}
    {message : Bytes} (hStored : storedRatchet stores peerAddress = .ok ratchet)
    (hOpens : openMessage prims ratchet.receivingChainKey message = none) :
    ∃ reason, (decrypt prims manager peerAddress message).run stores =
      .error (.error (.decryptionError reason)) stores := by
  rw [decrypt_run, hStored]
  split
  · exact ⟨_, rfl⟩
  · simp only [hOpens]
    exact ⟨_, rfl⟩

end Messages

/-! ## Bundles -/

section Bundles

variable (prims : Primitives)

/-- The stores after a bundle was generated. -/
def MemoryStores.offer (stores : MemoryStores) (signedPrekey otpk : Key) (signedPrekeyId : UInt32)
    (oneTimePrekeyId : Option UInt32) : MemoryStores :=
  { stores with
    signedPrekeys := stores.signedPrekeys.insert signedPrekeyId signedPrekey.val
    prekeys := oneTimePrekeyId.elim stores.prekeys (stores.prekeys.insert · otpk.val) }

def offeredBundle (stores : MemoryStores) (signingKey signedPrekey otpk : Key)
    (oneTimePrekeyId : Option UInt32) : PreKeyBundle where
  identityKey := stores.identityPublic
  signedPrekey := (prims.x25519Public signedPrekey).val
  signedPrekeySignature := (prims.ed25519Sign signingKey (prims.x25519Public signedPrekey).val).val
  oneTimePrekey := oneTimePrekeyId.map fun _ => (prims.x25519Public otpk).val
  registrationId := stores.registrationId

variable {prims}

theorem generatePrekeyBundle_run (signedPrekey otpk : Key) (signedPrekeyId : UInt32)
    (oneTimePrekeyId : Option UInt32) (stores : MemoryStores) :
    (generatePrekeyBundle prims manager signedPrekey otpk signedPrekeyId oneTimePrekeyId).run stores =
      match privatePrefix stores.identityPrivate with
      | .error abort => .error abort { stores with
          signedPrekeys := stores.signedPrekeys.insert signedPrekeyId signedPrekey.val }
      | .ok signingKey => .ok (offeredBundle prims stores signingKey signedPrekey otpk oneTimePrekeyId)
          (stores.offer signedPrekey otpk signedPrekeyId oneTimePrekeyId) := by
  simp only [generatePrekeyBundle, EStateM.run_bind, getIdentityKeyPair_run,
    getLocalRegistrationId_run, storeSignedPrekey_run]
  cases privatePrefix stores.identityPrivate with
  | error abort => rfl
  | ok signingKey =>
    cases oneTimePrekeyId with
    | none => rfl
    | some otpkId => rfl

end Bundles

end Rekindle.Signal
