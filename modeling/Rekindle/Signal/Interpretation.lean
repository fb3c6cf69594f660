import Mathlib.Algebra.BigOperators.Group.Multiset.Defs
import Mathlib.Data.UInt
import Rekindle.Signal.SymbolicSessions

/-! # Terms as bytes

What the terms stand for once the private keys are chosen, and that the session operations on
bytes do what the ones on terms say.
-/
namespace Rekindle.Signal
set_option autoImplicit false

open ByteWords Fallible MemoryStores

/-- The first bytes, filled up with zeros. -/
def pad (width : Nat) (bytes : Bytes) : Window UInt8 width :=
  ⟨(bytes ++ List.replicate width 0).take width, by simp⟩

theorem pad_val {width : Nat} (window : Window UInt8 width) : pad width window.val = window :=
  Subtype.ext (List.take_left' window.property)

/-- Private keys for the numbers, and group elements that behave as products of them. -/
structure Interpretation (prims : Primitives) where
  key : Nat → Key
  point : Multiset Nat → Key
  publicKey : ∀ secret, prims.x25519Public (key secret) = point {secret}
  exchange : ∀ secret factors, prims.diffieHellman (key secret) (point factors) = point (secret ::ₘ factors)

variable {prims : Primitives} (I : Interpretation prims)

def Interpretation.bytes : Term → Bytes
  | .data value => value
  | .scalar secret => (I.key secret).val
  | .point factors => (I.point factors).val
  | .derived label input =>
    ((prims.hkdfExpand (bytes input) label.info label.length).val.drop (32 * label.block)).take 32
  | .pair first second => bytes first ++ bytes second
  | .encrypted key nonce plaintext =>
    (prims.aesGcmEncrypt (pad 32 (bytes key)) (pad 12 nonce) (bytes plaintext)).getD []
  | .signed key message => (prims.ed25519Sign (pad 32 (bytes key)) (bytes message)).val

theorem Interpretation.bytes_messageKeyTerm {chainKey : Key} {term : Term}
    (h : I.bytes term = chainKey.val) : I.bytes (messageKeyTerm term) = (messageKey prims chainKey).val := by
  simp only [messageKeyTerm, bytes, h, Nat.mul_zero, List.drop_zero]
  exact List.take_of_length_le (Window.length_val _).le

theorem Interpretation.bytes_chain {chainKey : Key} {term : Term} (h : I.bytes term = chainKey.val) :
    I.bytes (.derived chainKeyLabel term) = (nextChainKey prims chainKey).val := by
  simp only [chainKeyLabel, bytes, h, Nat.mul_zero, List.drop_zero]
  exact List.take_of_length_le (Window.length_val _).le

theorem Interpretation.bytes_x3dhBlock {input : Term} {bytes : Bytes} (h : I.bytes input = bytes)
    (block : Fin 3) : I.bytes (x3dhBlock block input) =
      (okmBlock (prims.hkdfExpand bytes x3dhInfo 96) block).val := by
  subst h
  rfl

/-- The ratchet state that the terms stand for. -/
structure SymbolicRatchet.Means (symbolic : SymbolicRatchet) (ratchet : RatchetState) : Prop where
  rootKey : I.bytes symbolic.rootKey = ratchet.rootKey.val
  sendingChainKey : I.bytes symbolic.sendingChainKey = ratchet.sendingChainKey.val
  receivingChainKey : I.bytes symbolic.receivingChainKey = ratchet.receivingChainKey.val
  ourRatchetSecret : I.bytes symbolic.ourRatchetSecret = ratchet.ourRatchetSecret
  theirRatchetPublic : I.bytes symbolic.theirRatchetPublic = ratchet.theirRatchetPublic
  sendCounter : symbolic.sendCounter = ratchet.sendCounter
  recvCounter : symbolic.recvCounter = ratchet.recvCounter

/-- The stores that the terms stand for. -/
structure SymbolicStores.Means (symbolic : SymbolicStores) (stores : MemoryStores) : Prop where
  identityPrivate : I.bytes symbolic.identityPrivate = stores.identityPrivate
  identityPublic : I.bytes symbolic.identityPublic = stores.identityPublic
  trusted : ∀ address, stores.trusted.lookup address = (symbolic.trusted address).map I.bytes
  prekeys : ∀ id, stores.prekeys.lookup id = (symbolic.prekeys id).map I.bytes
  signedPrekeys : ∀ id, stores.signedPrekeys.lookup id = (symbolic.signedPrekeys id).map I.bytes
  sessions : ∀ address, Option.Rel
    (fun session data => ∃ ratchet : RatchetState, session.Means I ratchet ∧ ratchet.Storable ∧
      data = ratchet.parts.flatten)
    (symbolic.sessions address) (stores.sessions.lookup address)

/-- The bundle that the terms stand for. -/
structure SymbolicBundle.Means (symbolic : SymbolicBundle) (bundle : PreKeyBundle) : Prop where
  identityKey : I.bytes symbolic.identityKey = bundle.identityKey
  signedPrekey : I.bytes symbolic.signedPrekey = bundle.signedPrekey
  signedPrekeySignature : I.bytes symbolic.signedPrekeySignature = bundle.signedPrekeySignature
  oneTimePrekey : symbolic.oneTimePrekey.map I.bytes = bundle.oneTimePrekey

structure SymbolicInit.Means (symbolic : SymbolicInit) (info : SessionInitInfo) : Prop where
  ephemeralPublicKey : I.bytes symbolic.ephemeralPublicKey = info.ephemeralPublicKey
  signedPrekeyId : symbolic.signedPrekeyId = info.signedPrekeyId
  oneTimePrekeyId : symbolic.oneTimePrekeyId = info.oneTimePrekeyId

/-- A message that was sent, and the term that it stands for. -/
def Interpretation.Carries (term : Term) (message : Bytes) : Prop :=
  ∃ header key plaintext ciphertext, ∃ nonce : Nonce,
    term = .pair (.data header) (.encrypted key nonce.val (.data plaintext)) ∧
      prims.aesGcmEncrypt (pad 32 (I.bytes key)) nonce plaintext = some ciphertext ∧
      message = header ++ ciphertext ∧ header.length = 20

variable {I} {symbolic : SymbolicStores} {stores : MemoryStores}

theorem Interpretation.Carries.bytes {term : Term} {message : Bytes} (h : I.Carries term message) :
    I.bytes term = message := by
  obtain ⟨header, key, plaintext, ciphertext, nonce, rfl, hCiphertext, rfl, _⟩ := h
  simp only [Interpretation.bytes, pad_val, hCiphertext, Option.getD_some]

theorem Interpretation.lookup_insert {κ : Type} [DecidableEq κ] {stored : Finmap fun _ : κ => Bytes}
    {terms : κ → Option Term} (h : ∀ id, stored.lookup id = (terms id).map I.bytes) (id : κ) {term : Term}
    {bytes : Bytes} (hTerm : I.bytes term = bytes) (other : κ) :
    (stored.insert id bytes).lookup other = (Function.update terms id (some term) other).map I.bytes := by
  by_cases hOther : other = id
  · subst hOther
    rw [Function.update_self, Finmap.lookup_insert, Option.map_some, hTerm]
  · rw [Function.update_of_ne hOther, Finmap.lookup_insert_of_ne _ hOther]
    exact h other

theorem privatePrefix_val (key : Key) : privatePrefix key.val = .ok key := by
  have hRead := readAt_flatten [] key.val [] rfl key.property
  rwa [List.nil_append, List.flatten_cons, List.flatten_nil, List.append_nil] at hRead

theorem exchange_eq_some {ours theirs shared : Term} (h : exchange ours theirs = some shared) :
    ∃ secret factors, ours = .scalar secret ∧ theirs = .point factors ∧
      shared = .point (secret ::ₘ factors) := by
  unfold exchange at h
  split at h
  · cases h
    exact ⟨_, _, rfl, rfl, rfl⟩
  · cases h

theorem mapM_exchange_eq_some {secret : Nat} {theirs shared : Option Term}
    (h : theirs.mapM (exchange (.scalar secret)) = some shared) :
    ∃ factors : Option (Multiset Nat), theirs = factors.map .point ∧
      shared = factors.map fun factors => .point (secret ::ₘ factors) := by
  cases theirs with
  | none =>
    cases h
    exact ⟨none, rfl, rfl⟩
  | some theirs =>
    obtain ⟨term, hTerm, rfl⟩ := Option.map_eq_some_iff.mp h
    obtain ⟨_, factors, hSecret, rfl, rfl⟩ := exchange_eq_some hTerm
    cases hSecret
    exact ⟨some factors, rfl, rfl⟩

variable (I) in
theorem Interpretation.bytes_initiatorInput (identity ephemeral : Nat) (signed theirs : Multiset Nat)
    (otpk : Option (Multiset Nat)) :
    I.bytes (x3dhInput (.point (identity ::ₘ signed)) (.point (ephemeral ::ₘ theirs))
        (.point (ephemeral ::ₘ signed)) (otpk.map fun factors => .point (ephemeral ::ₘ factors))) =
      (prims.diffieHellman (I.key identity) (I.point signed)).val ++
        (prims.diffieHellman (I.key ephemeral) (I.point theirs)).val ++
        (prims.diffieHellman (I.key ephemeral) (I.point signed)).val ++
        ((otpk.map I.point).elim [] fun point => (prims.diffieHellman (I.key ephemeral) point).val) := by
  simp only [I.exchange]
  cases otpk with
  | none => exact (List.append_nil _).symm
  | some factors => rw [Option.map_some, Option.map_some, Option.elim_some, I.exchange]; rfl

variable (I) in
theorem Interpretation.bytes_responderInput (identity signed : Nat) (theirs ephemeral : Multiset Nat)
    (otpk : Option Nat) :
    I.bytes (x3dhInput (.point (signed ::ₘ theirs)) (.point (identity ::ₘ ephemeral))
        (.point (signed ::ₘ ephemeral)) (otpk.map fun otpk => .point (otpk ::ₘ ephemeral))) =
      (prims.diffieHellman (I.key signed) (I.point theirs)).val ++
        (prims.diffieHellman (I.key identity) (I.point ephemeral)).val ++
        (prims.diffieHellman (I.key signed) (I.point ephemeral)).val ++
        ((otpk.map I.key).elim [] fun otpk => (prims.diffieHellman otpk (I.point ephemeral)).val) := by
  simp only [I.exchange]
  cases otpk with
  | none => exact (List.append_nil _).symm
  | some otpk => rw [Option.map_some, Option.map_some, Option.elim_some, I.exchange]; rfl

namespace SymbolicStores.Means

theorem privatePrefix (h : symbolic.Means I stores) {identity : Nat}
    (hIdentity : symbolic.identityPrivate = .scalar identity) :
    Signal.privatePrefix stores.identityPrivate = .ok (I.key identity) := by
  rw [← h.identityPrivate, hIdentity]
  exact privatePrefix_val _

theorem storedRatchet (h : symbolic.Means I stores) {address : String} {session : SymbolicRatchet}
    (hSession : symbolic.sessions address = some session) :
    ∃ ratchet, Signal.storedRatchet stores address = .ok ratchet ∧ session.Means I ratchet := by
  have hRel := h.sessions address
  rw [hSession] at hRel
  cases hLookup : stores.sessions.lookup address with
  | none =>
    rw [hLookup] at hRel
    cases hRel
  | some data =>
    rw [hLookup] at hRel
    cases hRel with
    | some hMeans =>
      obtain ⟨ratchet, hRatchet, hStorable, rfl⟩ := hMeans
      exact ⟨ratchet, storedRatchet_of_lookup hStorable hLookup, hRatchet⟩

theorem advance (h : symbolic.Means I stores) (address : String) {session : SymbolicRatchet}
    {ratchet : RatchetState} (hSession : session.Means I ratchet) (hStorable : ratchet.Storable) :
    (symbolic.advance address session).Means I (stores.advance address ratchet) where
  identityPrivate := h.identityPrivate
  identityPublic := h.identityPublic
  trusted := h.trusted
  prekeys := h.prekeys
  signedPrekeys := h.signedPrekeys
  sessions other := by
    change Option.Rel _ (Function.update symbolic.sessions address (some session) other)
      ((stores.sessions.insert address ratchet.parts.flatten).lookup other)
    by_cases hOther : other = address
    · subst hOther
      rw [Function.update_self, Finmap.lookup_insert]
      exact .some ⟨ratchet, hSession, hStorable, rfl⟩
    · rw [Function.update_of_ne hOther, Finmap.lookup_insert_of_ne _ hOther]
      exact h.sessions other

theorem pin (h : symbolic.Means I stores) (address : String) {session : SymbolicRatchet}
    {ratchet : RatchetState} (hSession : session.Means I ratchet) (hStorable : ratchet.Storable)
    {identityTerm : Term} {identityKey : Bytes} (hIdentity : I.bytes identityTerm = identityKey) :
    (symbolic.pin address session identityTerm).Means I (stores.pin address ratchet identityKey) := by
  have hAdvanced := h.advance address hSession hStorable
  refine ⟨hAdvanced.identityPrivate, hAdvanced.identityPublic, fun other => ?_, hAdvanced.prekeys,
    hAdvanced.signedPrekeys, hAdvanced.sessions⟩
  exact I.lookup_insert h.trusted address hIdentity other

theorem consume (h : symbolic.Means I stores) (oneTimePrekeyId : Option UInt32) :
    (symbolic.consume oneTimePrekeyId).Means I (stores.consume oneTimePrekeyId) := by
  refine ⟨h.identityPrivate, h.identityPublic, h.trusted, fun id => ?_, h.signedPrekeys, h.sessions⟩
  cases oneTimePrekeyId with
  | none => exact h.prekeys id
  | some consumed =>
    change (stores.prekeys.erase consumed).lookup id =
      (Function.update symbolic.prekeys consumed none id).map I.bytes
    by_cases hId : id = consumed
    · subst hId
      rw [Function.update_self, Finmap.lookup_erase]
      rfl
    · rw [Function.update_of_ne hId, Finmap.lookup_erase_ne hId]
      exact h.prekeys id

/-! ## Messages -/

theorem encrypt (h : symbolic.Means I stores) {address : String} {plaintext message : Bytes}
    {stores' : MemoryStores}
    (hRun : (Signal.encrypt prims manager address plaintext).run stores = .ok message stores') :
    ∃ term symbolic', symbolic.encrypt address plaintext = some (term, symbolic') ∧
      I.Carries term message ∧ symbolic'.Means I stores' := by
  rw [encrypt_run] at hRun
  cases hSession : symbolic.sessions address with
  | none =>
    have hRel := h.sessions address
    rw [hSession] at hRel
    cases hLookup : stores.sessions.lookup address with
    | none =>
      rw [Signal.storedRatchet, hLookup] at hRun
      cases hRun
    | some data =>
      rw [hLookup] at hRel
      cases hRel
  | some session =>
    obtain ⟨ratchet, hStored, hMeans⟩ := h.storedRatchet hSession
    rw [hStored] at hRun
    dsimp only at hRun
    split at hRun
    · cases hRun
    · rename_i sealed hSealed
      cases hRun
      obtain ⟨ciphertext, hCiphertext, rfl⟩ := Option.map_eq_some_iff.mp hSealed
      have hSent : session.sent.Means I (ratchet.sent prims) :=
        ⟨hMeans.rootKey, I.bytes_chain hMeans.sendingChainKey, hMeans.receivingChainKey,
          hMeans.ourRatchetSecret, hMeans.theirRatchetPublic, by
            rw [SymbolicRatchet.sent, hMeans.sendCounter]
            rfl, hMeans.recvCounter⟩
      have hStorable := (storedRatchet_storable hStored).sent prims
      refine ⟨session.message plaintext, symbolic.advance address session.sent, ?_, ?_,
        h.advance address hSent hStorable⟩
      · rw [SymbolicStores.encrypt, hSession, Option.map_some]
      · refine ⟨_, _, plaintext, ciphertext, counterNonce (session.sendCounter + 1), rfl, ?_, ?_, ?_⟩
        · rw [I.bytes_messageKeyTerm hMeans.sendingChainKey, pad_val, hMeans.sendCounter]
          exact hCiphertext
        · rw [hMeans.sendCounter, List.append_assoc]
        · simp

theorem decrypt (h : symbolic.Means I stores) (hDecrypts : prims.DecryptUndoesEncrypt) {address : String}
    {term : Term} {plaintext message : Bytes} {symbolic' : SymbolicStores}
    (hCarries : I.Carries term message)
    (hOpens : symbolic.decrypt address term = some (plaintext, symbolic')) :
    ∃ stores', (Signal.decrypt prims manager address message).run stores = .ok plaintext stores' ∧
      symbolic'.Means I stores' := by
  obtain ⟨session, hSession, hOpens⟩ := Option.bind_eq_some_iff.mp hOpens
  obtain ⟨text, hText, hOpens⟩ := Option.bind_eq_some_iff.mp hOpens
  cases hOpens
  obtain ⟨ratchet, hStored, hMeans⟩ := h.storedRatchet hSession
  obtain ⟨header, key, plaintext', ciphertext, nonce, rfl, hCiphertext, rfl, hHeader⟩ := hCarries
  change (if key = messageKeyTerm session.receivingChainKey ∧ nonce.val = (header.drop 8).take 12
    then some plaintext' else none) = some plaintext at hText
  split_ifs at hText with hKey
  obtain ⟨rfl, hNonce⟩ := hKey
  cases hText
  have hSlice : slice? (header ++ ciphertext) 8 12 = some nonce := by
    have hTail : header.drop 8 = nonce.val := by
      rw [hNonce, List.take_of_length_le (by simp [hHeader])]
    rw [← List.take_append_drop 8 header, hTail, List.append_assoc]
    exact slice?_append _ _ _ (by simp [hHeader])
  have hOpens : openMessage prims ratchet.receivingChainKey (header ++ ciphertext) = some plaintext := by
    rw [I.bytes_messageKeyTerm hMeans.receivingChainKey, pad_val] at hCiphertext
    rw [openMessage, hSlice, Option.bind_some, List.drop_left' hHeader]
    exact hDecrypts _ _ _ _ hCiphertext
  have hReceived : session.received.Means I (ratchet.received prims) :=
    ⟨hMeans.rootKey, hMeans.sendingChainKey, I.bytes_chain hMeans.receivingChainKey,
      hMeans.ourRatchetSecret, hMeans.theirRatchetPublic, hMeans.sendCounter, by
        rw [SymbolicRatchet.received, hMeans.recvCounter]
        rfl⟩
  exact ⟨_, decrypt_of_open hStored hOpens,
    h.advance address hReceived ((storedRatchet_storable hStored).received prims)⟩

/-! ## Handshakes -/

theorem generate (h : symbolic.Means I stores) {identity : Nat}
    (hIdentity : symbolic.identityPrivate = .scalar identity) (signedPrekey otpk : Nat)
    (signedPrekeyId : UInt32) (oneTimePrekeyId : Option UInt32) :
    ∃ bundle stores', (generatePrekeyBundle prims manager (I.key signedPrekey) (I.key otpk) signedPrekeyId
        oneTimePrekeyId).run stores = .ok bundle stores' ∧
      (symbolic.generate signedPrekey otpk signedPrekeyId oneTimePrekeyId).1.Means I bundle ∧
      (symbolic.generate signedPrekey otpk signedPrekeyId oneTimePrekeyId).2.Means I stores' := by
  rw [generatePrekeyBundle_run, h.privatePrefix hIdentity]
  refine ⟨_, _, rfl, ⟨h.identityPublic, ?_, ?_, ?_⟩, ⟨h.identityPrivate, h.identityPublic, h.trusted, ?_, ?_,
    h.sessions⟩⟩
  · exact congrArg Subtype.val (I.publicKey signedPrekey).symm
  · change (prims.ed25519Sign (pad 32 (I.bytes symbolic.identityPrivate)) (I.point {signedPrekey}).val).val = _
    rw [hIdentity, ← I.publicKey]
    exact congrArg (fun key => (prims.ed25519Sign key _).val) (pad_val _)
  · cases oneTimePrekeyId with
    | none => rfl
    | some id => exact congrArg (fun key : Key => some key.val) (I.publicKey otpk).symm
  · cases oneTimePrekeyId with
    | none => exact h.prekeys
    | some id => exact I.lookup_insert h.prekeys id rfl
  · exact I.lookup_insert h.signedPrekeys signedPrekeyId rfl

theorem establish (h : symbolic.Means I stores) {bundleTerms : SymbolicBundle} {bundle : PreKeyBundle}
    (hBundle : bundleTerms.Means I bundle) {ephemeral : Nat} {address : String} {init : SymbolicInit}
    {symbolic' : SymbolicStores}
    (hRun : symbolic.establish ephemeral address bundleTerms = some (init, symbolic')) :
    ∃ info stores', (establishSession prims manager (I.key ephemeral) address bundle).run stores =
        .ok info stores' ∧ init.Means I info ∧ symbolic'.Means I stores' := by
  simp only [SymbolicStores.establish, bind, Option.bind_eq_some_iff, pure] at hRun
  obtain ⟨dh1, hDh1, dh2, hDh2, dh3, hDh3, dh4, hDh4, hRun⟩ := hRun
  cases hRun
  obtain ⟨identity, signedPoint, hPrivate, hSigned, rfl⟩ := exchange_eq_some hDh1
  obtain ⟨_, identityPoint, hEphemeral, hIdentity, rfl⟩ := exchange_eq_some hDh2
  cases hEphemeral
  obtain ⟨_, _, hEphemeral, hSigned', rfl⟩ := exchange_eq_some hDh3
  cases hEphemeral
  rw [hSigned] at hSigned'
  cases hSigned'
  obtain ⟨otpkPoint, hOtpk, rfl⟩ := mapM_exchange_eq_some hDh4
  have hPoints : (otpkPoint.map Symbolic.Term.point).map I.bytes = (otpkPoint.map I.point).map (·.val) := by
    cases otpkPoint <;> rfl
  have hEstablished := establishSession_of_bundle prims (I.key ephemeral) address bundle
    (h.privatePrefix hPrivate) (hBundle.signedPrekey.symm.trans (congrArg I.bytes hSigned))
    (hBundle.identityKey.symm.trans (congrArg I.bytes hIdentity))
    (hBundle.oneTimePrekey.symm.trans ((congrArg _ hOtpk).trans hPoints))
  have hOkm := I.bytes_initiatorInput identity ephemeral signedPoint identityPoint otpkPoint
  have hPublic : I.bytes (.point {ephemeral}) = (prims.x25519Public (I.key ephemeral)).val :=
    congrArg Subtype.val (I.publicKey ephemeral).symm
  refine ⟨_, _, hEstablished, ⟨hPublic, rfl, ?_⟩, ?_⟩
  · rw [hOtpk]
    cases otpkPoint <;> rfl
  · rw [hSigned, hIdentity]
    refine h.pin address ⟨?_, ?_, ?_, hPublic, rfl, rfl, rfl⟩ (initiatorRatchet_storable _ _ _) rfl
    · exact I.bytes_x3dhBlock hOkm 0
    · exact I.bytes_x3dhBlock hOkm 1
    · exact I.bytes_x3dhBlock hOkm 2

theorem otpkExchange (h : symbolic.Means I stores) {oneTimePrekeyId : Option UInt32}
    {ephemeralPoint : Multiset Nat} {shared : Option Term}
    (hShared : oneTimePrekeyId.mapM (fun id =>
      (symbolic.prekeys id).bind (exchange · (.point ephemeralPoint))) = some shared) :
    ∃ otpk : Option Nat, oneTimePrekeyId.mapM (storedOtpk stores) = .ok (otpk.map I.key) ∧
      shared = otpk.map fun otpk => .point (otpk ::ₘ ephemeralPoint) := by
  cases oneTimePrekeyId with
  | none =>
    cases hShared
    exact ⟨none, rfl, rfl⟩
  | some id =>
    obtain ⟨point, hPoint, rfl⟩ := Option.map_eq_some_iff.mp hShared
    obtain ⟨secretTerm, hStored, hExchange⟩ := Option.bind_eq_some_iff.mp hPoint
    obtain ⟨otpk, _, rfl, hFactors, rfl⟩ := exchange_eq_some hExchange
    cases hFactors
    refine ⟨some otpk, ?_, rfl⟩
    have hOtpk : ∀ other ∈ some id, stores.prekeys.lookup other = some (I.key otpk).val := by
      intro other hOther
      cases hOther
      rw [h.prekeys, hStored]
      rfl
    exact mapM_storedOtpk hOtpk

theorem respond (h : symbolic.Means I stores) {identityTerm ephemeralTerm : Term}
    {theirIdentityKey theirEphemeralKey : Bytes} (hIdentity : I.bytes identityTerm = theirIdentityKey)
    (hEphemeral : I.bytes ephemeralTerm = theirEphemeralKey) {address : String} {signedPrekeyId : UInt32}
    {oneTimePrekeyId : Option UInt32} {symbolic' : SymbolicStores}
    (hRun : symbolic.respond address identityTerm ephemeralTerm signedPrekeyId oneTimePrekeyId =
      some symbolic') :
    ∃ stores', (respondToSession prims manager address theirIdentityKey theirEphemeralKey signedPrekeyId
        oneTimePrekeyId).run stores = .ok () stores' ∧ symbolic'.Means I stores' := by
  simp only [SymbolicStores.respond, bind, Option.bind_eq_some_iff, pure] at hRun
  obtain ⟨signedPrekey, hSigned, dh1, hDh1, dh2, hDh2, dh3, hDh3, dh4, hDh4, ourPublic, hPublic, hRun⟩ := hRun
  cases hRun
  obtain ⟨secret, identityPoint, rfl, rfl, rfl⟩ := exchange_eq_some hDh1
  obtain ⟨identity, ephemeralPoint, hPrivate, rfl, rfl⟩ := exchange_eq_some hDh2
  obtain ⟨_, _, hSecret, hPoint, rfl⟩ := exchange_eq_some hDh3
  cases hSecret
  cases hPoint
  subst hIdentity hEphemeral
  cases hPublic
  have hStoredSigned : stores.signedPrekeys.lookup signedPrekeyId = some (I.key secret).val := by
    rw [h.signedPrekeys, hSigned]
    rfl
  obtain ⟨otpk, hOtpk, rfl⟩ := h.otpkExchange hDh4
  have hResponded := respondToSession_of_stored prims address (I.point identityPoint)
    (I.point ephemeralPoint) (h.privatePrefix hPrivate) hStoredSigned hOtpk
  have hOkm := I.bytes_responderInput identity secret identityPoint ephemeralPoint otpk
  have hOurs : I.bytes (.point (secret ::ₘ 0)) = (prims.x25519Public (I.key secret)).val :=
    congrArg Subtype.val (I.publicKey secret).symm
  refine ⟨_, hResponded, (h.consume oneTimePrekeyId).pin address ⟨?_, ?_, ?_, hOurs, rfl, rfl, rfl⟩
    (responderRatchet_storable _ _ _) rfl⟩
  · exact I.bytes_x3dhBlock hOkm 0
  · exact I.bytes_x3dhBlock hOkm 2
  · exact I.bytes_x3dhBlock hOkm 1

end SymbolicStores.Means

/-! ## Runs -/

/-- Two managers over bytes, with what each has sent. -/
structure Managers where
  stores : Side → MemoryStores
  sent : Side → List Bytes

variable (prims) in
def Managers.step (address : Side → String) (managers : Managers) : Transfer → Managers
  | .encrypts side plaintext =>
    match (encrypt prims manager (address side.other) plaintext).run (managers.stores side) with
    | .ok message stores =>
      { stores := Function.update managers.stores side stores
        sent := Function.update managers.sent side (managers.sent side ++ [message]) }
    | .error _ stores => { managers with stores := Function.update managers.stores side stores }
  | .decrypts side index =>
    match (managers.sent side.other)[index]? with
    | none => managers
    | some message => { managers with
        stores := Function.update managers.stores side (Result.state
          ((decrypt prims manager (address side.other) message).run (managers.stores side))) }

variable (I) in
/-- The terms stand for what the managers store and have sent. -/
structure Traffic.Means (traffic : Traffic) (managers : Managers) : Prop where
  stores : ∀ side, (traffic.stores side).Means I (managers.stores side)
  sent : ∀ side, List.Forall₂ I.Carries (traffic.sent side) (managers.sent side)

variable (prims) in
def jointStep (address : Side → String) (both : Traffic × Managers) (transfer : Transfer) :
    Traffic × Managers :=
  (both.1.step address transfer, both.2.step prims address transfer)

variable (prims) in
/-- The cipher takes the plaintext, and opens no message under a key that is not its own. -/
def Regular (address : Side → String) (both : Traffic × Managers) : Transfer → Prop
  | .encrypts side plaintext => ((both.1.stores side).encrypt (address side.other) plaintext).isSome →
      ∃ message stores, (encrypt prims manager (address side.other) plaintext).run (both.2.stores side) =
        .ok message stores
  | .decrypts side index => ∀ term message, (both.1.sent side.other)[index]? = some term →
      (both.2.sent side.other)[index]? = some message →
      (both.1.stores side).decrypt (address side.other) term = none →
      ∃ abort stores, (decrypt prims manager (address side.other) message).run (both.2.stores side) =
        .error abort stores

section Runs

variable {address : Side → String} {traffic : Traffic} {managers : Managers}

theorem encrypt_error_state {stores stores' : MemoryStores} {peer : String} {plaintext : Bytes}
    {abort : Abort} (h : (encrypt prims manager peer plaintext).run stores = .error abort stores') :
    stores' = stores := by
  rw [encrypt_run] at h
  split at h
  · cases h
    rfl
  · split at h
    · cases h
      rfl
    · cases h

theorem decrypt_error_state {stores stores' : MemoryStores} {peer : String} {message : Bytes}
    {abort : Abort} (h : (decrypt prims manager peer message).run stores = .error abort stores') :
    stores' = stores := by
  rw [decrypt_run] at h
  split at h
  · cases h
    rfl
  · split at h
    · cases h
      rfl
    · split at h
      · cases h
        rfl
      · cases h

theorem forall₂_get {α β : Type} {R : α → β → Prop} {xs : List α} {ys : List β} (h : List.Forall₂ R xs ys)
    (index : Nat) : Option.Rel R xs[index]? ys[index]? := by
  induction h generalizing index with
  | nil => exact .none
  | cons hHead _ ih =>
    cases index with
    | zero => exact .some hHead
    | succ index => exact ih index

theorem Traffic.Means.update (h : traffic.Means I managers) {side : Side} {symbolic : SymbolicStores}
    {stores : MemoryStores} (hMeans : symbolic.Means I stores) (other : Side) :
    (Function.update traffic.stores side symbolic other).Means I
      (Function.update managers.stores side stores other) := by
  by_cases hOther : other = side
  · subst hOther
    rw [Function.update_self, Function.update_self]
    exact hMeans
  · rw [Function.update_of_ne hOther, Function.update_of_ne hOther]
    exact h.stores other

theorem Traffic.Means.encrypts (h : traffic.Means I managers) {side : Side} {plaintext : Bytes}
    (hRegular : Regular prims address (traffic, managers) (.encrypts side plaintext)) :
    (traffic.step address (.encrypts side plaintext)).Means I
      (managers.step prims address (.encrypts side plaintext)) := by
  unfold Traffic.step Managers.step
  dsimp only
  cases hRun : (encrypt prims manager (address side.other) plaintext).run (managers.stores side) with
  | error abort stores =>
    obtain rfl := encrypt_error_state hRun
    dsimp only
    rw [Function.update_eq_self]
    cases hSymbolic : (traffic.stores side).encrypt (address side.other) plaintext with
    | none => exact h
    | some result =>
      obtain ⟨message, stores, hOk⟩ := hRegular (by rw [hSymbolic]; rfl)
      rw [hRun] at hOk
      cases hOk
  | ok message stores =>
    obtain ⟨term, symbolic, hSymbolic, hCarries, hMeans⟩ := (h.stores side).encrypt hRun
    rw [hSymbolic]
    refine ⟨fun other => h.update hMeans other, fun other => ?_⟩
    dsimp only
    by_cases hOther : other = side
    · subst hOther
      rw [Function.update_self, Function.update_self]
      exact List.rel_append (h.sent other) (.cons hCarries .nil)
    · rw [Function.update_of_ne hOther, Function.update_of_ne hOther]
      exact h.sent other

theorem Traffic.Means.decrypts (hDecrypts : prims.DecryptUndoesEncrypt) (h : traffic.Means I managers)
    {side : Side} {index : Nat}
    (hRegular : Regular prims address (traffic, managers) (.decrypts side index)) :
    (traffic.step address (.decrypts side index)).Means I
      (managers.step prims address (.decrypts side index)) := by
  unfold Traffic.step Managers.step
  dsimp only
  have hRel := forall₂_get (h.sent side.other) index
  cases hTerm : (traffic.sent side.other)[index]? with
  | none =>
    rw [hTerm] at hRel
    cases hMessage : (managers.sent side.other)[index]? with
    | none => exact h
    | some message =>
      rw [hMessage] at hRel
      cases hRel
  | some term =>
    rw [hTerm] at hRel
    cases hMessage : (managers.sent side.other)[index]? with
    | none =>
      rw [hMessage] at hRel
      cases hRel
    | some message =>
      rw [hMessage] at hRel
      obtain ⟨hCarries⟩ := hRel
      dsimp only
      cases hSymbolic : (traffic.stores side).decrypt (address side.other) term with
      | none =>
        obtain ⟨abort, stores, hFails⟩ := hRegular term message hTerm hMessage hSymbolic
        have hSame := decrypt_error_state hFails
        rw [hFails, Result.state_error, hSame, Function.update_eq_self]
        exact h
      | some result =>
        obtain ⟨plaintext, symbolic⟩ := result
        obtain ⟨stores, hRun, hMeans⟩ := (h.stores side).decrypt hDecrypts hCarries hSymbolic
        rw [hRun, Result.state_ok]
        exact ⟨fun other => h.update hMeans other, h.sent⟩

/-- In a regular run the terms keep standing for what the managers store and send. -/
theorem Traffic.Means.run (hDecrypts : prims.DecryptUndoesEncrypt) (h : traffic.Means I managers)
    {transfers : List Transfer} (hRegular : Runs.Along (jointStep prims address)
      (Regular prims address) (traffic, managers) transfers) :
    (Runs.final (jointStep prims address) (traffic, managers) transfers).1.Means I
      (Runs.final (jointStep prims address) (traffic, managers) transfers).2 := by
  refine Runs.Along.invariant (fun both => both.1.Means I both.2) ?_ h hRegular
  rintro ⟨traffic, managers⟩ transfer hMeans hRegular
  cases transfer with
  | encrypts side plaintext => exact hMeans.encrypts hRegular
  | decrypts side index => exact hMeans.decrypts hDecrypts hRegular

end Runs

namespace Reference

open scoped UInt8.CommRing in
/-- The reference primitives multiply bytes, whatever the order. -/
def interpretation : Interpretation primitives where
  key secret := sampleKey (UInt8.ofNat secret)
  point factors := sampleKey (9 * (factors.map UInt8.ofNat).prod)
  publicKey secret := by
    apply Subtype.ext
    change List.map (9 * ·) (List.replicate 32 _) = List.replicate 32 _
    rw [List.map_replicate, Multiset.map_singleton, Multiset.prod_singleton]
  exchange secret factors := by
    apply Subtype.ext
    change List.zipWith (· * ·) (List.replicate 32 _) (List.replicate 32 _) = List.replicate 32 _
    rw [List.zipWith_replicate, Multiset.map_cons, Multiset.prod_cons]
    congr 1
    ring

end Reference

end Rekindle.Signal
