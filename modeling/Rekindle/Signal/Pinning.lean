import Rekindle.Signal.Authenticity

/-! # Identity pinning

Runs of a session manager on its in-memory stores. Both entry points save the peer's identity key
and neither asks `is_trusted_identity` first.
-/
namespace Rekindle.Signal
set_option autoImplicit false

open ByteWords Fallible MemoryStores

inductive Operation where
  | establish (ephemeral : Key) (peerAddress : String) (bundle : PreKeyBundle)
  | respond (peerAddress : String) (theirIdentityKey theirEphemeralKey : Bytes)
      (signedPrekeyId : UInt32) (oneTimePrekeyId : Option UInt32)
  | encrypt (peerAddress : String) (plaintext : Bytes)
  | decrypt (peerAddress : String) (message : Bytes)
  | delete (peerAddress : String)
  | generate (signedPrekey otpk : Key) (signedPrekeyId : UInt32) (oneTimePrekeyId : Option UInt32)

/-- All that `respond_to_session` looks up and checks. -/
structure Answerable (stores : MemoryStores) (theirIdentityKey theirEphemeralKey : Bytes)
    (signedPrekeyId : UInt32) (oneTimePrekeyId : Option UInt32) : Prop where
  identityPrivate : 32 ≤ stores.identityPrivate.length
  signedPrekey : ∃ key : Key, stores.signedPrekeys.lookup signedPrekeyId = some key.val
  theirIdentity : theirIdentityKey.length = 32
  theirEphemeral : theirEphemeralKey.length = 32
  oneTimePrekey : ∀ id ∈ oneTimePrekeyId, ∃ key : Key, stores.prekeys.lookup id = some key.val

/-- The peer and the identity key that an establishment is for. -/
def Operation.claims : Operation → Option (String × Bytes)
  | .establish _ peerAddress bundle => some (peerAddress, bundle.identityKey)
  | .respond peerAddress theirIdentityKey _ _ _ => some (peerAddress, theirIdentityKey)
  | _ => none

/-- The establishment has all the keys it needs, in the lengths it needs. -/
def Operation.Proceeds (stores : MemoryStores) : Operation → Prop
  | .establish _ _ bundle => WellSized stores bundle
  | .respond _ theirIdentityKey theirEphemeralKey signedPrekeyId oneTimePrekeyId =>
    Answerable stores theirIdentityKey theirEphemeralKey signedPrekeyId oneTimePrekeyId
  | _ => True

section Machine

variable (prims : Primitives)

def Operation.call : Operation → StoreM MemoryStores Unit
  | .establish ephemeral peerAddress bundle =>
    discard (establishSession prims manager ephemeral peerAddress bundle)
  | .respond peerAddress theirIdentityKey theirEphemeralKey signedPrekeyId oneTimePrekeyId =>
    respondToSession prims manager peerAddress theirIdentityKey theirEphemeralKey signedPrekeyId
      oneTimePrekeyId
  | .encrypt peerAddress plaintext => discard (Signal.encrypt prims manager peerAddress plaintext)
  | .decrypt peerAddress message => discard (Signal.decrypt prims manager peerAddress message)
  | .delete peerAddress => deleteSession manager peerAddress
  | .generate signedPrekey otpk signedPrekeyId oneTimePrekeyId =>
    discard (generatePrekeyBundle prims manager signedPrekey otpk signedPrekeyId oneTimePrekeyId)

def Operation.step (stores : MemoryStores) (operation : Operation) : MemoryStores :=
  Result.state ((operation.call prims).run stores)

/-- An establishment with another identity key than the pinned one fails, and leaves the pinned
key and the session of the peer alone. -/
def Operation.RespectsPin (stores : MemoryStores) (operation : Operation) : Prop :=
  ∀ peerAddress identityKey pinned, operation.claims = some (peerAddress, identityKey) →
    stores.trusted.lookup peerAddress = some pinned → pinned ≠ identityKey →
    (¬ ∃ stores', (operation.call prims).run stores = .ok () stores') ∧
    (operation.step prims stores).trusted.lookup peerAddress = some pinned ∧
    (operation.step prims stores).sessions.lookup peerAddress = stores.sessions.lookup peerAddress

end Machine

/-- The establishment is for an identity that `is_trusted_identity` accepts, or lacks a key. -/
def Operation.Admissible (stores : MemoryStores) (operation : Operation) : Prop :=
  ∀ peerAddress identityKey, operation.claims = some (peerAddress, identityKey) →
    (manager.identityStore.isTrustedIdentity peerAddress identityKey).run stores = .ok true stores ∨
    ¬ operation.Proceeds stores

variable {prims : Primitives}

theorem isTrustedIdentity_run_iff (stores : MemoryStores) (peerAddress : String) (identityKey : Bytes) :
    (manager.identityStore.isTrustedIdentity peerAddress identityKey).run stores = .ok true stores ↔
      ∀ pinned, stores.trusted.lookup peerAddress = some pinned → pinned = identityKey := by
  simp only [manager, identityKeyStore, EStateM.run_bind, EStateM.run_get]
  cases stores.trusted.lookup peerAddress with
  | none => simp
  | some stored => simp

theorem mapM_storedOtpk_isOk {stores : MemoryStores} {oneTimePrekeyId : Option UInt32} :
    (∃ otpk, oneTimePrekeyId.mapM (storedOtpk stores) = .ok otpk) ↔
      ∀ id ∈ oneTimePrekeyId, ∃ key : Key, stores.prekeys.lookup id = some key.val := by
  cases oneTimePrekeyId with
  | none =>
    constructor
    · intro _ id hId
      cases hId
    · intro _
      exact ⟨none, rfl⟩
  | some id =>
    constructor
    · rintro ⟨otpk, hOtpk⟩ id' hId
      cases hId
      rw [Option.mapM_some] at hOtpk
      obtain ⟨key, hKey, _⟩ := bind_eq_ok_iff.mp hOtpk
      obtain ⟨otpkData, hData, hKey⟩ := bind_eq_ok_iff.mp hKey
      rw [key32_eq_ok_iff.mp hKey] at hData
      exact ⟨key, okOr_eq_ok_iff.mp hData⟩
    · intro h
      obtain ⟨key, hKey⟩ := h id rfl
      refine ⟨some key, mapM_storedOtpk ?_⟩
      intro id' hId
      cases hId
      exact hKey

theorem respondToSession_succeeds_iff (peerAddress : String) (theirIdentityKey theirEphemeralKey : Bytes)
    (signedPrekeyId : UInt32) (oneTimePrekeyId : Option UInt32) (stores : MemoryStores) :
    (∃ stores', (respondToSession prims manager peerAddress theirIdentityKey theirEphemeralKey
      signedPrekeyId oneTimePrekeyId).run stores = .ok () stores') ↔
      Answerable stores theirIdentityKey theirEphemeralKey signedPrekeyId oneTimePrekeyId := by
  constructor
  · rintro ⟨stores', hRun⟩
    rw [respondToSession_run] at hRun
    cases hKeys : responderKeys stores theirIdentityKey theirEphemeralKey signedPrekeyId
        oneTimePrekeyId with
    | error abort =>
      rw [hKeys] at hRun
      cases hRun
    | ok keys =>
      simp only [responderKeys, bind_eq_ok_iff, key32_eq_ok_iff, okOr_eq_ok_iff] at hKeys
      obtain ⟨ourIdentity, hOur, spkData, hStored, signedPrekey, rfl, identity, rfl, ephemeral, rfl,
        otpk, hOtpk, _⟩ := hKeys
      exact ⟨length_of_privatePrefix hOur, ⟨signedPrekey, hStored⟩, identity.property,
        ephemeral.property, mapM_storedOtpk_isOk.mp ⟨otpk, hOtpk⟩⟩
  · intro h
    obtain ⟨ourIdentity, hOur⟩ := privatePrefix_of_length h.identityPrivate
    obtain ⟨signedPrekey, hSigned⟩ := h.signedPrekey
    obtain ⟨otpk, hOtpk⟩ := mapM_storedOtpk_isOk.mpr h.oneTimePrekey
    exact ⟨_, respondToSession_of_stored prims peerAddress ⟨_, h.theirIdentity⟩ ⟨_, h.theirEphemeral⟩
      hOur hSigned hOtpk⟩

theorem run_discard {σ α : Type} (x : StoreM σ α) (stores : σ) :
    (discard x).run stores = match x.run stores with
      | .ok _ stores => .ok () stores
      | .error abort stores => .error abort stores := by
  change (x >>= fun _ => pure ()).run stores = _
  rw [EStateM.run_bind]
  cases x.run stores <;> rfl

theorem Operation.call_succeeds_iff {operation : Operation} {peerAddress : String}
    {identityKey : Bytes} (hClaims : operation.claims = some (peerAddress, identityKey))
    (stores : MemoryStores) :
    (∃ stores', (operation.call prims).run stores = .ok () stores') ↔ operation.Proceeds stores := by
  cases operation with
  | establish ephemeral address bundle =>
    rw [Operation.Proceeds, ← establishSession_succeeds_iff ephemeral address bundle stores,
      Operation.call, run_discard]
    cases (establishSession prims manager ephemeral address bundle).run stores <;> simp
  | respond address theirIdentityKey theirEphemeralKey signedPrekeyId oneTimePrekeyId =>
    exact respondToSession_succeeds_iff _ _ _ _ _ _
  | encrypt | decrypt | delete | generate => cases hClaims

/-- A failed establishment leaves the stores as they were. -/
theorem Operation.step_of_fails {operation : Operation} {peerAddress : String}
    {identityKey : Bytes} (hClaims : operation.claims = some (peerAddress, identityKey))
    {stores : MemoryStores} (hFails : ¬ ∃ stores', (operation.call prims).run stores = .ok () stores') :
    operation.step prims stores = stores := by
  cases operation with
  | establish ephemeral address bundle =>
    rw [Operation.call, run_discard, establishSession_run] at hFails
    rw [Operation.step, Operation.call, run_discard, establishSession_run]
    cases hKeys : initiatorKeys stores.identityPrivate bundle with
    | error abort => rfl
    | ok keys => exact absurd ⟨_, by rw [hKeys]⟩ hFails
  | respond address theirIdentityKey theirEphemeralKey signedPrekeyId oneTimePrekeyId =>
    rw [Operation.call, respondToSession_run] at hFails
    rw [Operation.step, Operation.call, respondToSession_run]
    cases hKeys : responderKeys stores theirIdentityKey theirEphemeralKey signedPrekeyId
        oneTimePrekeyId with
    | error abort => rfl
    | ok keys => exact absurd ⟨_, by rw [hKeys]⟩ hFails
  | encrypt | decrypt | delete | generate => cases hClaims

theorem Operation.respectsPin_iff (stores : MemoryStores) (operation : Operation) :
    operation.RespectsPin prims stores ↔ operation.Admissible stores := by
  constructor
  · intro h peerAddress identityKey hClaims
    rw [isTrustedIdentity_run_iff, or_iff_not_imp_right, not_not]
    intro hProceeds pinned hPinned
    by_contra hDiffers
    exact (h peerAddress identityKey pinned hClaims hPinned hDiffers).1
      ((operation.call_succeeds_iff hClaims stores).mpr hProceeds)
  · intro h peerAddress identityKey pinned hClaims hPinned hDiffers
    have hFails : ¬ ∃ stores', (operation.call prims).run stores = .ok () stores' := by
      rw [operation.call_succeeds_iff hClaims]
      rcases h peerAddress identityKey hClaims with hTrusted | hStops
      · exact absurd ((isTrustedIdentity_run_iff _ _ _).mp hTrusted pinned hPinned) hDiffers
      · exact hStops
    rw [Operation.step_of_fails hClaims hFails]
    exact ⟨hFails, hPinned, rfl⟩

/-- A run keeps every pin exactly when `is_trusted_identity` would have accepted each of its
establishments that goes through. -/
theorem pinning_iff (stores : MemoryStores) (operations : List Operation) :
    Runs.Along (Operation.step prims) (Operation.RespectsPin prims) stores operations ↔
      Runs.Along (Operation.step prims) Operation.Admissible stores operations :=
  Runs.Along.congr (fun stores operation => operation.respectsPin_iff stores) stores operations

open Reference in
/-- A session with user 2, then one under the same address with the identity key of user 3. -/
theorem pin_overwritten :
    ¬ Runs.Along (Operation.step primitives) (Operation.RespectsPin primitives) (user 1)
      [.establish (sampleKey 5) "bob" (offeredBundle primitives (user 2) (sampleKey 2) (sampleKey 4)
        (sampleKey 4) none),
       .establish (sampleKey 5) "bob" (offeredBundle primitives (user 3) (sampleKey 3) (sampleKey 4)
        (sampleKey 4) none)] := by
  rintro ⟨-, hSecond, -⟩
  have hPin := (hSecond "bob" _ (user 2).identityPublic rfl (by decide +kernel) (by decide +kernel)).2.1
  revert hPin
  decide +kernel

end Rekindle.Signal
