import Rekindle.Signal.Agreement

/-! # Authenticity of prekey bundles

A bundle names its identity key as an Ed25519 key and carries a signature by it. The code signs
with the private half of whatever key pair the identity store holds, and checks no signature.
-/
namespace Rekindle.Signal
set_option autoImplicit false

open ByteWords Fallible MemoryStores

/-- The signature of the bundle verifies under the identity key of the bundle. -/
def PreKeyBundle.Authentic (prims : Primitives) (bundle : PreKeyBundle) : Prop :=
  ∃ (key : Key) (signature : Signature), bundle.identityKey = key.val ∧
    bundle.signedPrekeySignature = signature.val ∧
    prims.ed25519Verify key bundle.signedPrekey signature = true

/-- The identity key pair in the store is an Ed25519 seed with its public key. -/
def MemoryStores.SignsAsEd25519 (prims : Primitives) (stores : MemoryStores) : Prop :=
  ∀ secret, privatePrefix stores.identityPrivate = .ok secret →
    stores.identityPublic = (prims.ed25519Public secret).val

/-- All the lengths that `establish_session` looks at. -/
structure WellSized (stores : MemoryStores) (bundle : PreKeyBundle) : Prop where
  identityPrivate : 32 ≤ stores.identityPrivate.length
  signedPrekey : bundle.signedPrekey.length = 32
  identityKey : bundle.identityKey.length = 32
  oneTimePrekey : ∀ otpk ∈ bundle.oneTimePrekey, otpk.length = 32

variable {prims : Primitives}

theorem privatePrefix_of_length {bytes : Bytes} (h : 32 ≤ bytes.length) :
    ∃ secret, privatePrefix bytes = .ok secret := by
  have hSlice : (slice? bytes 0 32).isSome := slice?_isSome.mpr (by omega)
  obtain ⟨secret, hSecret⟩ := Option.isSome_iff_exists.mp hSlice
  exact ⟨secret, by simp only [privatePrefix, readAt, hSecret]⟩

theorem length_of_privatePrefix {bytes : Bytes} {secret : Key} (h : privatePrefix bytes = .ok secret) :
    32 ≤ bytes.length := by
  simp only [privatePrefix, readAt] at h
  cases hSlice : slice? bytes 0 32 with
  | none =>
    rw [hSlice] at h
    cases h
  | some window =>
    have hBound : 0 + 32 ≤ bytes.length := slice?_isSome.mp (by rw [hSlice]; rfl)
    omega

theorem establishSession_succeeds_iff (ephemeral : Key) (peerAddress : String) (bundle : PreKeyBundle)
    (stores : MemoryStores) :
    (∃ info stores', (establishSession prims manager ephemeral peerAddress bundle).run stores =
      .ok info stores') ↔ WellSized stores bundle := by
  constructor
  · rintro ⟨info, stores', hRun⟩
    rw [establishSession_run] at hRun
    cases hKeys : initiatorKeys stores.identityPrivate bundle with
    | error abort =>
      rw [hKeys] at hRun
      cases hRun
    | ok keys =>
      simp only [initiatorKeys, bind_eq_ok_iff, key32_eq_ok_iff] at hKeys
      obtain ⟨ourIdentity, hOur, signedPrekey, hSigned, identity, hIdentity, otpk, hOtpk, _⟩ := hKeys
      refine ⟨length_of_privatePrefix hOur, by rw [hSigned]; exact signedPrekey.property,
        by rw [hIdentity]; exact identity.property, ?_⟩
      intro bytes hBytes
      rw [hBytes, Option.mapM_some] at hOtpk
      obtain ⟨key, hKey, _⟩ := bind_eq_ok_iff.mp hOtpk
      rw [key32_eq_ok_iff.mp hKey]
      exact key.property
  · intro h
    obtain ⟨ourIdentity, hOur⟩ := privatePrefix_of_length h.identityPrivate
    have hSigned : bundle.signedPrekey = (⟨bundle.signedPrekey, h.signedPrekey⟩ : Key).val := rfl
    have hIdentity : bundle.identityKey = (⟨bundle.identityKey, h.identityKey⟩ : Key).val := rfl
    have hOtpk : bundle.oneTimePrekey = Option.map (·.val) (bundle.oneTimePrekey.attach.map
        fun otpk => (⟨otpk.1, h.oneTimePrekey otpk.1 otpk.2⟩ : Key)) := by simp
    exact ⟨_, _, establishSession_of_bundle prims ephemeral peerAddress bundle hOur hSigned hIdentity
      hOtpk⟩

theorem offeredBundle_authentic_iff (stores : MemoryStores) (secret signedPrekey otpk : Key)
    (oneTimePrekeyId : Option UInt32) :
    (offeredBundle prims stores secret signedPrekey otpk oneTimePrekeyId).Authentic prims ↔
      ∃ key : Key, stores.identityPublic = key.val ∧
        prims.ed25519Verify key (prims.x25519Public signedPrekey).val
          (prims.ed25519Sign secret (prims.x25519Public signedPrekey).val) = true := by
  constructor
  · rintro ⟨key, signature, hKey, hSignature, hVerifies⟩
    obtain rfl := Subtype.ext hSignature
    exact ⟨key, hKey, hVerifies⟩
  · rintro ⟨key, hKey, hVerifies⟩
    exact ⟨key, _, hKey, rfl, hVerifies⟩

/-- All generated bundles are authentic exactly when the identity store signs as Ed25519. -/
theorem generated_authentic_iff (hVerify : prims.SignaturesVerify)
    (hIdentify : prims.SignaturesIdentify) (stores : MemoryStores) :
    (∀ signedPrekey otpk signedPrekeyId oneTimePrekeyId bundle stores',
      (generatePrekeyBundle prims manager signedPrekey otpk signedPrekeyId oneTimePrekeyId).run stores =
        .ok bundle stores' → bundle.Authentic prims) ↔ stores.SignsAsEd25519 prims := by
  constructor
  · intro h secret hSecret
    have hAuthentic : ∀ signedPrekey : Key,
        (offeredBundle prims stores secret signedPrekey signedPrekey none).Authentic prims := by
      intro signedPrekey
      refine h signedPrekey signedPrekey 1 none _ (stores.offer signedPrekey signedPrekey 1 none) ?_
      rw [generatePrekeyBundle_run, hSecret]
    obtain ⟨key, hKey, _⟩ := (offeredBundle_authentic_iff _ _ _ _ _).mp (hAuthentic secret)
    rw [hKey, hIdentify secret key]
    intro prekey
    obtain ⟨other, hOther, hVerifies⟩ :=
      (offeredBundle_authentic_iff _ _ _ _ _).mp (hAuthentic prekey)
    obtain rfl : key = other := Subtype.ext (hKey.symm.trans hOther)
    exact hVerifies
  · intro h signedPrekey otpk signedPrekeyId oneTimePrekeyId bundle stores' hRun
    rw [generatePrekeyBundle_run] at hRun
    cases hSecret : privatePrefix stores.identityPrivate with
    | error abort =>
      rw [hSecret] at hRun
      cases hRun
    | ok secret =>
      rw [hSecret] at hRun
      cases hRun
      exact (offeredBundle_authentic_iff _ _ _ _ _).mpr ⟨_, h secret hSecret, hVerify _ _⟩

/-- Generated bundles are authentic and accepted ones were exactly when the store signs as
Ed25519 and the bundle, if it has the right lengths, happens to be authentic. -/
theorem bundles_authentic_iff (hVerify : prims.SignaturesVerify) (hIdentify : prims.SignaturesIdentify)
    (stores : MemoryStores) (peerBundle : PreKeyBundle) :
    ((∀ signedPrekey otpk signedPrekeyId oneTimePrekeyId bundle stores',
        (generatePrekeyBundle prims manager signedPrekey otpk signedPrekeyId oneTimePrekeyId).run stores =
          .ok bundle stores' → bundle.Authentic prims) ∧
      (∀ ephemeral peerAddress info stores',
        (establishSession prims manager ephemeral peerAddress peerBundle).run stores =
          .ok info stores' → peerBundle.Authentic prims)) ↔
      stores.SignsAsEd25519 prims ∧ (WellSized stores peerBundle → peerBundle.Authentic prims) := by
  rw [generated_authentic_iff hVerify hIdentify]
  apply and_congr_right
  intro _
  constructor
  · intro h hSized
    obtain ⟨ourIdentity, _⟩ := privatePrefix_of_length hSized.identityPrivate
    obtain ⟨info, stores', hRun⟩ :=
      (establishSession_succeeds_iff ourIdentity "" peerBundle stores).mpr hSized
    exact h ourIdentity "" info stores' hRun
  · intro h ephemeral peerAddress info stores' hRun
    exact h ((establishSession_succeeds_iff ephemeral peerAddress peerBundle stores).mp
      ⟨info, stores', hRun⟩)

namespace Reference

/-- A bundle in the name of user 2 with a signed prekey and a signature of somebody else. -/
def forgedBundle : PreKeyBundle where
  identityKey := (user 2).identityPublic
  signedPrekey := (primitives.x25519Public (sampleKey 6)).val
  signedPrekeySignature := (primitives.ed25519Sign (sampleKey 6) []).val
  oneTimePrekey := none
  registrationId := 1

end Reference

open Reference in
theorem bundles_authentic_iff_forged :
    ((∀ signedPrekey otpk signedPrekeyId oneTimePrekeyId bundle stores',
        (generatePrekeyBundle primitives manager signedPrekey otpk signedPrekeyId oneTimePrekeyId).run
          (user 1) = .ok bundle stores' → bundle.Authentic primitives) ∧
      (∀ ephemeral peerAddress info stores',
        (establishSession primitives manager ephemeral peerAddress forgedBundle).run (user 1) =
          .ok info stores' → forgedBundle.Authentic primitives)) ↔
      (user 1).SignsAsEd25519 primitives ∧
        (WellSized (user 1) forgedBundle → forgedBundle.Authentic primitives) :=
  bundles_authentic_iff signaturesVerify signaturesIdentify (user 1) forgedBundle

open Reference in
/-- An honest user's bundle does not verify, and a forged bundle establishes a session. -/
theorem honest_unverified_and_forged_accepted :
    (∃ bundle stores', (generatePrekeyBundle primitives manager (sampleKey 3) (sampleKey 4) 1
      (some 1)).run (user 2) = .ok bundle stores' ∧ ¬ bundle.Authentic primitives) ∧
    (∃ info stores', (establishSession primitives manager (sampleKey 5) "bob" forgedBundle).run
      (user 1) = .ok info stores') ∧ ¬ forgedBundle.Authentic primitives := by
  refine ⟨⟨_, _, user_offers 2 _ _ _, ?_⟩, ?_, ?_⟩
  · rintro ⟨key, signature, hKey, hSignature, hVerifies⟩
    obtain rfl : primitives.x25519Public (sampleKey 2) = key := Subtype.ext hKey
    obtain rfl : primitives.ed25519Sign (sampleKey 2) _ = signature := Subtype.ext hSignature
    exact absurd hVerifies (by decide +kernel)
  · exact (establishSession_succeeds_iff _ _ _ _).mpr
      ⟨by decide, by decide +kernel, by decide +kernel, by intro _ h; cases h⟩
  · rintro ⟨key, signature, hKey, hSignature, hVerifies⟩
    obtain rfl : primitives.x25519Public (sampleKey 2) = key := Subtype.ext hKey
    obtain rfl : primitives.ed25519Sign (sampleKey 6) [] = signature := Subtype.ext hSignature
    exact absurd hVerifies (by decide +kernel)

end Rekindle.Signal
