import Rekindle.Signal.Reference

/-! # Handshakes that fail

The store traits return errors. A handshake writes to one store after the other, and nothing takes
back what is written when a later store fails.
-/
namespace Rekindle.Signal
set_option autoImplicit false

open ByteWords Fallible MemoryStores

/-- The store operations of a handshake; each is called at most once. -/
inductive StoreOperation where
  | getIdentityKeyPair
  | saveIdentity
  | loadPrekey
  | removePrekey
  | loadSignedPrekey
  | storeSession
  deriving DecidableEq

/-- An operation that fails has no effect. -/
def guarded {α : Type} (fails : Bool) (fault : CryptoError) (operation : StoreM MemoryStores α) :
    StoreM MemoryStores α :=
  if fails then throw (.error fault) else operation

/-- The in-memory stores, with some operations failing. -/
def failingManager (fails : StoreOperation → Bool) (fault : CryptoError) : SignalSessionManager MemoryStores where
  identityStore := { identityKeyStore with
    getIdentityKeyPair := guarded (fails .getIdentityKeyPair) fault identityKeyStore.getIdentityKeyPair
    saveIdentity := fun address identityKey =>
      guarded (fails .saveIdentity) fault (identityKeyStore.saveIdentity address identityKey) }
  prekeyStore := { preKeyStore with
    loadPrekey := fun id => guarded (fails .loadPrekey) fault (preKeyStore.loadPrekey id)
    removePrekey := fun id => guarded (fails .removePrekey) fault (preKeyStore.removePrekey id)
    loadSignedPrekey := fun id => guarded (fails .loadSignedPrekey) fault (preKeyStore.loadSignedPrekey id) }
  sessionStore := { MemoryStores.sessionStore with
    storeSession := fun address sessionData =>
      guarded (fails .storeSession) fault (MemoryStores.sessionStore.storeSession address sessionData) }

/-- A call that returns an error leaves the stores as they were. -/
def Atomic {α : Type} (x : StoreM MemoryStores α) (stores : MemoryStores) : Prop :=
  ∀ e after, x.run stores = .error (.error e) after → after = stores

section
variable (prims : Primitives) (fails : StoreOperation → Bool) (stores : MemoryStores)

/-- When the identity is not saved after the session has been stored, the session was there before. -/
def EstablishmentKept (ephemeral : Key) (peerAddress : String) (bundle : PreKeyBundle) : Prop :=
  ∀ ourIdentity theirSignedPrekey theirIdentity theirOtpk,
    initiatorKeys stores.identityPrivate bundle = .ok (ourIdentity, theirSignedPrekey, theirIdentity, theirOtpk) →
    fails .getIdentityKeyPair = false → fails .storeSession = false → fails .saveIdentity = true →
    stores.sessions.lookup peerAddress = some (initiatorRatchet
      (initiatorOkm prims ourIdentity ephemeral theirSignedPrekey theirIdentity theirOtpk)
      (prims.x25519Public ephemeral) theirSignedPrekey).parts.flatten

/-- After a one-time prekey is removed, the other stores do not fail; without one, as for the initiator. -/
def ResponseKept (peerAddress : String) (theirIdentityKey theirEphemeralKey : Bytes) (signedPrekeyId : UInt32)
    (oneTimePrekeyId : Option UInt32) : Prop :=
  ∀ ourIdentity signedPrekey theirIdentity theirEphemeral otpk,
    responderKeys stores theirIdentityKey theirEphemeralKey signedPrekeyId oneTimePrekeyId =
      .ok (ourIdentity, signedPrekey, theirIdentity, theirEphemeral, otpk) →
    fails .getIdentityKeyPair = false → fails .loadSignedPrekey = false →
    match oneTimePrekeyId with
    | some _ => fails .loadPrekey = false → fails .removePrekey = false →
      fails .storeSession = false ∧ fails .saveIdentity = false
    | none => fails .storeSession = false → fails .saveIdentity = true →
      stores.sessions.lookup peerAddress = some (responderRatchet
        (responderOkm prims ourIdentity signedPrekey theirIdentity theirEphemeral otpk)
        (prims.x25519Public signedPrekey) theirEphemeral).parts.flatten

end

section
variable {prims : Primitives} {fails : StoreOperation → Bool} {fault : CryptoError} {stores : MemoryStores}

theorem run_guarded_fails {α : Type} (operation : StoreM MemoryStores α) :
    (guarded true fault operation).run stores = .error (.error fault) stores := rfl

theorem run_guarded {α : Type} (operation : StoreM MemoryStores α) :
    (guarded false fault operation).run stores = operation.run stores := rfl

/-- Storing a session leaves the stores as they are only when it was there. -/
theorem advance_eq_self_iff {peerAddress : String} {ratchet : RatchetState} :
    stores.advance peerAddress ratchet = stores ↔
      stores.sessions.lookup peerAddress = some ratchet.parts.flatten := by
  constructor
  · intro h
    have hLookup := congrArg (fun stores => stores.sessions.lookup peerAddress) h
    exact hLookup.symm.trans (Finmap.lookup_insert _)
  · intro h
    have hSame : stores.sessions.insert peerAddress ratchet.parts.flatten = stores.sessions := by
      apply Finmap.ext_lookup
      intro other
      by_cases hOther : other = peerAddress
      · rw [hOther, Finmap.lookup_insert, h]
      · rw [Finmap.lookup_insert_of_ne _ hOther]
    unfold MemoryStores.advance
    rw [hSame]

theorem getIdentityKeyPair_failing : (failingManager fails fault).identityStore.getIdentityKeyPair.run stores =
    if fails .getIdentityKeyPair then .error (.error fault) stores
    else .ok (stores.identityPrivate, stores.identityPublic) stores := by
  change (guarded _ _ _).run stores = _
  cases fails .getIdentityKeyPair <;> rfl

theorem saveIdentity_failing (address : String) (identityKey : Bytes) :
    ((failingManager fails fault).identityStore.saveIdentity address identityKey).run stores =
      if fails .saveIdentity then .error (.error fault) stores
      else .ok () { stores with trusted := stores.trusted.insert address identityKey } := by
  change (guarded _ _ _).run stores = _
  cases fails .saveIdentity <;> rfl

theorem loadPrekey_failing (id : UInt32) : ((failingManager fails fault).prekeyStore.loadPrekey id).run stores =
    if fails .loadPrekey then .error (.error fault) stores else .ok (stores.prekeys.lookup id) stores := by
  change (guarded _ _ _).run stores = _
  cases fails .loadPrekey <;> rfl

theorem removePrekey_failing (id : UInt32) :
    ((failingManager fails fault).prekeyStore.removePrekey id).run stores =
      if fails .removePrekey then .error (.error fault) stores
      else .ok () { stores with prekeys := stores.prekeys.erase id } := by
  change (guarded _ _ _).run stores = _
  cases fails .removePrekey <;> rfl

theorem loadSignedPrekey_failing (id : UInt32) :
    ((failingManager fails fault).prekeyStore.loadSignedPrekey id).run stores =
      if fails .loadSignedPrekey then .error (.error fault) stores
      else .ok (stores.signedPrekeys.lookup id) stores := by
  change (guarded _ _ _).run stores = _
  cases fails .loadSignedPrekey <;> rfl

theorem storeRatchet_failing {peerAddress : String} {ratchet : RatchetState} (h : ratchet.Storable) :
    (storeRatchet (failingManager fails fault) peerAddress ratchet).run stores =
      if fails .storeSession then .error (.error fault) stores
      else .ok () (stores.advance peerAddress ratchet) := by
  rw [storeRatchet, serializeRatchet_eq_ok h]
  change (guarded _ _ _).run stores = _
  cases fails .storeSession <;> rfl

/-- The last two writes of a handshake. -/
theorem atomic_pin_iff {α : Type} {peerAddress : String} {ratchet : RatchetState} {identityKey : Bytes}
    (hStorable : ratchet.Storable) (before : MemoryStores) (a : α) :
    (∀ e after, (do
        storeRatchet (failingManager fails fault) peerAddress ratchet
        (failingManager fails fault).identityStore.saveIdentity peerAddress identityKey
        pure a : StoreM MemoryStores α).run stores = .error (.error e) after → after = before) ↔
      (fails .storeSession = true → stores = before) ∧
      (fails .storeSession = false → fails .saveIdentity = true → stores.advance peerAddress ratchet = before) := by
  cases hStore : fails .storeSession with
  | true =>
    have hRun : (storeRatchet (failingManager fails fault) peerAddress ratchet).run stores =
        .error (.error fault) stores := by
      rw [storeRatchet_failing hStorable, hStore]
      rfl
    rw [run_bind_of_error _ hRun]
    constructor
    · intro h
      exact ⟨fun _ => h fault stores rfl, Bool.noConfusion⟩
    · rintro ⟨hSame, -⟩ e after ⟨⟩
      exact hSame rfl
  | false =>
    have hRun : (storeRatchet (failingManager fails fault) peerAddress ratchet).run stores =
        .ok () (stores.advance peerAddress ratchet) := by
      rw [storeRatchet_failing hStorable, hStore]
      rfl
    rw [run_bind_of_ok _ hRun]
    cases hSave : fails .saveIdentity with
    | true =>
      have hFailed : ((failingManager fails fault).identityStore.saveIdentity peerAddress identityKey).run
          (stores.advance peerAddress ratchet) = .error (.error fault) (stores.advance peerAddress ratchet) := by
        rw [saveIdentity_failing, hSave]
        rfl
      rw [run_bind_of_error _ hFailed]
      constructor
      · intro h
        exact ⟨Bool.noConfusion, fun _ _ => h fault _ rfl⟩
      · rintro ⟨-, hSame⟩ e after ⟨⟩
        exact hSame rfl rfl
    | false =>
      have hSaved : ((failingManager fails fault).identityStore.saveIdentity peerAddress identityKey).run
          (stores.advance peerAddress ratchet) =
            .ok () { stores.advance peerAddress ratchet with
              trusted := (stores.advance peerAddress ratchet).trusted.insert peerAddress identityKey } := by
        rw [saveIdentity_failing, hSave]
        rfl
      rw [run_bind_of_ok _ hSaved]
      constructor
      · intro _
        exact ⟨Bool.noConfusion, fun _ => Bool.noConfusion⟩
      · rintro - e after ⟨⟩

section
variable {α β : Type} {x : StoreM MemoryStores α} {f : α → StoreM MemoryStores β}

theorem atomic_bind_read {a : α} (h : x.run stores = .ok a stores) :
    Atomic (x >>= f) stores ↔ Atomic (f a) stores := by
  unfold Atomic
  rw [run_bind_of_ok f h]

theorem atomic_bind_error {abort : Abort} (h : x.run stores = .error abort stores) : Atomic (x >>= f) stores := by
  intro e after hRun
  rw [run_bind_of_error f h] at hRun
  cases hRun
  rfl

theorem atomic_bind_check {r : Except Abort α} {f : α → StoreM MemoryStores β} {a : α} (h : r = .ok a) :
    Atomic (ofExcept r >>= f) stores ↔ Atomic (f a) stores := by
  rw [h]
  exact atomic_bind_read rfl

theorem atomic_bind_refused {r : Except Abort α} {f : α → StoreM MemoryStores β} {abort : Abort}
    (h : r = .error abort) : Atomic (ofExcept r >>= f) stores := by
  rw [h]
  exact atomic_bind_error rfl

end

theorem establish_atomic_iff (ephemeral : Key) (peerAddress : String) (bundle : PreKeyBundle) :
    Atomic (establishSession prims (failingManager fails fault) ephemeral peerAddress bundle) stores ↔
      EstablishmentKept prims fails stores ephemeral peerAddress bundle := by
  have hRefused {abort : Abort} (h : initiatorKeys stores.identityPrivate bundle = .error abort) :
      EstablishmentKept prims fails stores ephemeral peerAddress bundle := by
    intro _ _ _ _ hOk
    rw [h] at hOk
    cases hOk
  unfold establishSession
  cases hGet : fails .getIdentityKeyPair with
  | true =>
    refine iff_of_true (@atomic_bind_error _ _ _ _ _ (.error fault) ?_) ?_
    · rw [getIdentityKeyPair_failing, hGet]
      rfl
    · intro _ _ _ _ _ hWorks
      rw [hGet] at hWorks
      cases hWorks
  | false =>
    rw [atomic_bind_read (a := (stores.identityPrivate, stores.identityPublic))
      (by rw [getIdentityKeyPair_failing, hGet]; rfl)]
    dsimp only
    cases hOur : privatePrefix stores.identityPrivate with
    | error abort => exact iff_of_true (atomic_bind_refused rfl) (hRefused (by rw [initiatorKeys, hOur]; rfl))
    | ok ourIdentity =>
      rw [atomic_bind_check rfl]
      cases hSigned : key32 bundle.signedPrekey "signed prekey wrong length" with
      | error abort =>
        exact iff_of_true (atomic_bind_refused rfl) (hRefused (by rw [initiatorKeys, hOur, hSigned]; rfl))
      | ok theirSignedPrekey =>
        rw [atomic_bind_check rfl]
        cases hIdentity : key32 bundle.identityKey "identity key wrong length" with
        | error abort =>
          exact iff_of_true (atomic_bind_refused rfl)
            (hRefused (by rw [initiatorKeys, hOur, hSigned, hIdentity]; rfl))
        | ok theirIdentity =>
          rw [atomic_bind_check rfl]
          cases hOtpk : bundle.oneTimePrekey.mapM (key32 · "one-time prekey wrong length") with
          | error abort =>
            have hDh4 : initiatorDh4 prims ephemeral bundle.oneTimePrekey = .error abort := by
              rw [initiatorDh4_eq, hOtpk]
              rfl
            exact iff_of_true (atomic_bind_refused hDh4)
              (hRefused (by rw [initiatorKeys, hOur, hSigned, hIdentity, hOtpk]; rfl))
          | ok theirOtpk =>
            have hDh4 : initiatorDh4 prims ephemeral bundle.oneTimePrekey =
                .ok (theirOtpk.elim [] fun otpk => (prims.diffieHellman ephemeral otpk).val) := by
              rw [initiatorDh4_eq, hOtpk]
              rfl
            rw [atomic_bind_check hDh4]
            have hKeys : initiatorKeys stores.identityPrivate bundle =
                .ok (ourIdentity, theirSignedPrekey, theirIdentity, theirOtpk) := by
              rw [initiatorKeys, hOur, hSigned, hIdentity, hOtpk]
              rfl
            rw [key32_eq_ok_iff.mp hSigned]
            refine (atomic_pin_iff (initiatorRatchet_storable _ _ _) stores _).trans ?_
            constructor
            · rintro ⟨-, hSame⟩ _ _ _ _ hOk - hStore hSave
              cases hKeys.symm.trans hOk
              exact advance_eq_self_iff.mp (hSame hStore hSave)
            · intro hKept
              refine ⟨fun _ => rfl, fun hStore hSave => ?_⟩
              exact advance_eq_self_iff.mpr (hKept _ _ _ _ hKeys hGet hStore hSave)

/-- A one-time prekey is removed when it is read. -/
theorem responderDh4_failing (theirEphemeral : Key) (otpkId : UInt32) :
    (responderDh4 prims (failingManager fails fault) theirEphemeral (some otpkId)).run stores =
      if fails .loadPrekey then .error (.error fault) stores
      else match storedOtpk stores otpkId with
        | .error abort => .error abort stores
        | .ok otpk =>
          if fails .removePrekey then .error (.error fault) stores
          else .ok (prims.diffieHellman otpk theirEphemeral).val { stores with prekeys := stores.prekeys.erase otpkId } := by
  unfold responderDh4
  cases hLoad : fails .loadPrekey with
  | true =>
    have hFailed : ((failingManager fails fault).prekeyStore.loadPrekey otpkId).run stores =
        .error (.error fault) stores := by
      rw [loadPrekey_failing, hLoad]
      rfl
    rw [run_bind_of_error _ hFailed]
    rfl
  | false =>
    have hLoaded : ((failingManager fails fault).prekeyStore.loadPrekey otpkId).run stores =
        .ok (stores.prekeys.lookup otpkId) stores := by
      rw [loadPrekey_failing, hLoad]
      rfl
    rw [run_bind_of_ok _ hLoaded]
    cases hData : okOr (stores.prekeys.lookup otpkId) (.invalidKey "one-time prekey not found") with
    | error abort =>
      have hStored : storedOtpk stores otpkId = .error abort := by
        rw [storedOtpk, hData]
        rfl
      rw [hStored]
      rfl
    | ok otpkData =>
      have hStored : storedOtpk stores otpkId = key32 otpkData "one-time prekey wrong length" := by
        rw [storedOtpk, hData]
        rfl
      rw [ofExcept_ok_bind, hStored]
      cases key32 otpkData "one-time prekey wrong length" with
      | error abort => rfl
      | ok otpk =>
        rw [ofExcept_ok_bind]
        cases hRemove : fails .removePrekey with
        | true =>
          have hFailed : ((failingManager fails fault).prekeyStore.removePrekey otpkId).run stores =
              .error (.error fault) stores := by
            rw [removePrekey_failing, hRemove]
            rfl
          rw [run_bind_of_error _ hFailed]
          rfl
        | false =>
          have hRemoved : ((failingManager fails fault).prekeyStore.removePrekey otpkId).run stores =
              .ok () { stores with prekeys := stores.prekeys.erase otpkId } := by
            rw [removePrekey_failing, hRemove]
            rfl
          rw [run_bind_of_ok _ hRemoved]
          rfl

theorem lookup_of_storedOtpk {otpkId : UInt32} {otpk : Key} (h : storedOtpk stores otpkId = .ok otpk) :
    stores.prekeys.lookup otpkId ≠ none := by
  intro hNone
  unfold storedOtpk at h
  rw [hNone] at h
  cases h

/-- The writes of a responder that consumes a one-time prekey. -/
theorem atomic_consuming_iff {peerAddress : String} {theirEphemeral : Key} {otpkId : UInt32}
    {ratchet : Bytes → RatchetState} (hStorable : ∀ dh4, (ratchet dh4).Storable) (identityKey : Bytes) :
    Atomic (do
        let dh4 ← responderDh4 prims (failingManager fails fault) theirEphemeral (some otpkId)
        storeRatchet (failingManager fails fault) peerAddress (ratchet dh4)
        (failingManager fails fault).identityStore.saveIdentity peerAddress identityKey) stores ↔
      ∀ otpk, storedOtpk stores otpkId = .ok otpk → fails .loadPrekey = false → fails .removePrekey = false →
        fails .storeSession = false ∧ fails .saveIdentity = false := by
  have hRun := @responderDh4_failing prims fails fault stores theirEphemeral otpkId
  cases hLoad : fails .loadPrekey with
  | true =>
    rw [hLoad, if_pos rfl] at hRun
    exact iff_of_true (atomic_bind_error hRun) fun _ _ h => nomatch h
  | false =>
    rw [hLoad, if_neg Bool.false_ne_true] at hRun
    cases hOtpk : storedOtpk stores otpkId with
    | error abort =>
      rw [hOtpk] at hRun
      exact iff_of_true (atomic_bind_error hRun) fun _ h => nomatch h
    | ok otpk =>
      rw [hOtpk] at hRun
      dsimp only at hRun
      cases hRemove : fails .removePrekey with
      | true =>
        rw [hRemove, if_pos rfl] at hRun
        exact iff_of_true (atomic_bind_error hRun) fun _ _ _ h => nomatch h
      | false =>
        rw [hRemove, if_neg Bool.false_ne_true] at hRun
        have hGone {other : MemoryStores} (h : other.prekeys = stores.prekeys.erase otpkId) : other ≠ stores := by
          rintro rfl
          refine lookup_of_storedOtpk hOtpk ?_
          rw [h]
          exact Finmap.lookup_erase _ _
        unfold Atomic
        rw [run_bind_of_ok _ hRun, ← bind_pure ((failingManager fails fault).identityStore.saveIdentity _ _)]
        refine (atomic_pin_iff (hStorable _) stores ()).trans ⟨fun ⟨hStore, hSave⟩ _ _ _ _ => ?_, fun h => ?_⟩
        · have hStored : fails .storeSession = false := Bool.eq_false_iff.mpr fun h => hGone rfl (hStore h)
          exact ⟨hStored, Bool.eq_false_iff.mpr fun h => hGone rfl (hSave hStored h)⟩
        · obtain ⟨hStore, hSave⟩ := h otpk rfl rfl rfl
          rw [hStore, hSave]
          exact ⟨Bool.noConfusion, fun _ => Bool.noConfusion⟩

theorem respond_atomic_iff (peerAddress : String) (theirIdentityKey theirEphemeralKey : Bytes)
    (signedPrekeyId : UInt32) (oneTimePrekeyId : Option UInt32) :
    Atomic (respondToSession prims (failingManager fails fault) peerAddress theirIdentityKey theirEphemeralKey
        signedPrekeyId oneTimePrekeyId) stores ↔
      ResponseKept prims fails stores peerAddress theirIdentityKey theirEphemeralKey signedPrekeyId
        oneTimePrekeyId := by
  have hRefused {abort : Abort} (h : responderKeys stores theirIdentityKey theirEphemeralKey signedPrekeyId
      oneTimePrekeyId = .error abort) : ResponseKept prims fails stores peerAddress theirIdentityKey
        theirEphemeralKey signedPrekeyId oneTimePrekeyId := by
    intro _ _ _ _ _ hOk
    rw [h] at hOk
    cases hOk
  unfold respondToSession
  cases hGet : fails .getIdentityKeyPair with
  | true =>
    refine iff_of_true (@atomic_bind_error _ _ _ _ _ (.error fault) ?_) ?_
    · rw [getIdentityKeyPair_failing, hGet]
      rfl
    · intro _ _ _ _ _ _ hWorks
      rw [hGet] at hWorks
      cases hWorks
  | false =>
  rw [atomic_bind_read (a := (stores.identityPrivate, stores.identityPublic))
    (by rw [getIdentityKeyPair_failing, hGet]; rfl)]
  dsimp only
  cases hOur : privatePrefix stores.identityPrivate with
  | error abort => exact iff_of_true (atomic_bind_refused rfl) (hRefused (by rw [responderKeys, hOur]; rfl))
  | ok ourIdentity =>
  rw [atomic_bind_check rfl]
  cases hLoad : fails .loadSignedPrekey with
  | true =>
    refine iff_of_true (@atomic_bind_error _ _ _ _ _ (.error fault) ?_) ?_
    · rw [loadSignedPrekey_failing, hLoad]
      rfl
    · intro _ _ _ _ _ _ _ hWorks
      rw [hLoad] at hWorks
      cases hWorks
  | false =>
  rw [atomic_bind_read (a := stores.signedPrekeys.lookup signedPrekeyId)
    (by rw [loadSignedPrekey_failing, hLoad]; rfl)]
  cases hSigned : okOr (stores.signedPrekeys.lookup signedPrekeyId) (.invalidKey "signed prekey not found") with
  | error abort => exact iff_of_true (atomic_bind_refused rfl) (hRefused (by rw [responderKeys, hOur, hSigned]; rfl))
  | ok spkData =>
  rw [atomic_bind_check rfl]
  cases hSecret : key32 spkData "signed prekey wrong length" with
  | error abort =>
    refine iff_of_true (atomic_bind_refused rfl) (@hRefused abort ?_)
    simp only [responderKeys, hOur, hSigned, hSecret, bind, Except.bind]
  | ok signedPrekey =>
  rw [atomic_bind_check rfl]
  cases hIdentity : key32 theirIdentityKey "their identity key wrong length" with
  | error abort =>
    refine iff_of_true (atomic_bind_refused rfl) (@hRefused abort ?_)
    simp only [responderKeys, hOur, hSigned, hSecret, hIdentity, bind, Except.bind]
  | ok theirIdentity =>
  rw [atomic_bind_check rfl]
  cases hEphemeral : key32 theirEphemeralKey "their ephemeral key wrong length" with
  | error abort =>
    refine iff_of_true (atomic_bind_refused rfl) (@hRefused abort ?_)
    simp only [responderKeys, hOur, hSigned, hSecret, hIdentity, hEphemeral, bind, Except.bind]
  | ok theirEphemeral =>
  rw [atomic_bind_check rfl]
  have hKeys (otpk : Option Key) (h : oneTimePrekeyId.mapM (storedOtpk stores) = .ok otpk) :
      responderKeys stores theirIdentityKey theirEphemeralKey signedPrekeyId oneTimePrekeyId =
        .ok (ourIdentity, signedPrekey, theirIdentity, theirEphemeral, otpk) := by
    simp only [responderKeys, hOur, hSigned, hSecret, hIdentity, hEphemeral, h, bind, Except.bind]
    rfl
  obtain rfl := key32_eq_ok_iff.mp hEphemeral
  cases oneTimePrekeyId with
  | none =>
    rw [responderDh4, pure_bind,
      ← bind_pure ((failingManager fails fault).identityStore.saveIdentity _ _)]
    refine (atomic_pin_iff (responderRatchet_storable _ _ _) stores ()).trans ?_
    constructor
    · rintro ⟨-, hSame⟩ _ _ _ _ _ hOk - - hStore hSave
      cases (hKeys none rfl).symm.trans hOk
      exact advance_eq_self_iff.mp (hSame hStore hSave)
    · intro hKept
      refine ⟨fun _ => rfl, fun hStore hSave => ?_⟩
      exact advance_eq_self_iff.mpr (hKept _ _ _ _ _ (hKeys none rfl) hGet hLoad hStore hSave)
  | some otpkId =>
    refine (atomic_consuming_iff (fun _ => responderRatchet_storable _ _ _) _).trans ?_
    constructor
    · intro hWrites _ _ _ _ otpk hOk _ _ hLoaded hRemoved
      cases hOtpk : storedOtpk stores otpkId with
      | error abort =>
        have hNone : responderKeys stores theirIdentityKey theirEphemeral.val signedPrekeyId (some otpkId) =
            .error abort := by
          simp only [responderKeys, hOur, hSigned, hSecret, hIdentity, hEphemeral, Option.mapM_some, hOtpk, bind,
            Except.bind]
          rfl
        rw [hNone] at hOk
        cases hOk
      | ok key => exact hWrites key hOtpk hLoaded hRemoved
    · intro hKept otpk hOtpk hLoaded hRemoved
      have hSome : (some otpkId).mapM (storedOtpk stores) = .ok (some otpk) := by
        rw [Option.mapM_some, hOtpk]
        rfl
      exact hKept _ _ _ _ _ (hKeys _ hSome) hGet hLoad hLoaded hRemoved

end

/-- Handshakes that return an error have left the stores alone unless a store fails after another one
was written. -/
theorem failed_handshakes_atomic_iff (prims : Primitives) (fails : StoreOperation → Bool) (fault : CryptoError)
    (stores : MemoryStores) :
    (∀ ephemeral peerAddress bundle,
      Atomic (establishSession prims (failingManager fails fault) ephemeral peerAddress bundle) stores ↔
        EstablishmentKept prims fails stores ephemeral peerAddress bundle) ∧
    ∀ peerAddress theirIdentityKey theirEphemeralKey signedPrekeyId oneTimePrekeyId,
      Atomic (respondToSession prims (failingManager fails fault) peerAddress theirIdentityKey theirEphemeralKey
          signedPrekeyId oneTimePrekeyId) stores ↔
        ResponseKept prims fails stores peerAddress theirIdentityKey theirEphemeralKey signedPrekeyId
          oneTimePrekeyId :=
  ⟨establish_atomic_iff, respond_atomic_iff⟩

namespace Reference

/-- User 2 has offered a one-time prekey. -/
def offering : MemoryStores := (user 2).offer (sampleKey 3) (sampleKey 4) 1 (some 1)

/-- User 2 responds to user 1. -/
def response (fails : StoreOperation → Bool) : EStateM.Result Abort MemoryStores Unit :=
  (respondToSession primitives (failingManager fails (.sessionError "storage")) "alice" (user 1).identityPublic
    (primitives.x25519Public (sampleKey 5)) 1 (some 1)).run offering

/-- An error is returned, and the one-time prekey is gone. -/
def losesPrekey : EStateM.Result Abort MemoryStores Unit → Bool
  | .error (.error _) after => (after.prekeys.lookup 1).isNone
  | _ => false

end Reference

open Reference in
/-- The session is not stored, and the one-time prekey is gone: the handshake cannot be repeated with it. -/
theorem failed_response_consumes_prekey :
    losesPrekey (response (· == .storeSession)) = true ∧
    ¬∀ (prims : Primitives) (fails : StoreOperation → Bool) (fault : CryptoError) (stores : MemoryStores)
      (peerAddress : String) (theirIdentityKey theirEphemeralKey : Bytes) (signedPrekeyId : UInt32)
      (oneTimePrekeyId : Option UInt32),
      Atomic (respondToSession prims (failingManager fails fault) peerAddress theirIdentityKey theirEphemeralKey
        signedPrekeyId oneTimePrekeyId) stores := by
  have hLost : losesPrekey (response (· == .storeSession)) = true := by decide +kernel
  have hOffered : (offering.prekeys.lookup 1).isNone = false := by decide +kernel
  refine ⟨hLost, fun hClaim => ?_⟩
  have hAtomic : ∀ e after, response (· == .storeSession) = .error (.error e) after → after = offering :=
    hClaim primitives _ _ offering "alice" _ _ 1 (some 1)
  cases hRun : response (· == .storeSession) with
  | ok _ after =>
    rw [hRun] at hLost
    cases hLost
  | error abort after =>
    rw [hRun] at hLost
    cases abort with
    | panic => cases hLost
    | error e =>
      rw [hAtomic e after hRun] at hLost
      cases hOffered.symm.trans hLost

end Rekindle.Signal
