import Rekindle.Client.Effects
import Rekindle.Signal.Pinning

/-! # Where sessions go

Which steps of a client can take the session with a peer away. Several handlers delete it before
they try to build a new one.
-/
namespace Rekindle.Client
set_option autoImplicit false

open Fallible Signal MemoryStores

def AppState.HasSession (state : AppState) (peer : String) : Prop :=
  ∃ stores, state.signalManager = some stores ∧ peer ∈ stores.sessions

/-- The session with the peer, if there is one, outlives the change. -/
def KeepsSession (peer : String) (before after : AppState) : Prop :=
  before.HasSession peer → after.HasSession peer

/-! ## Manager calls -/

section Calls

variable (prims : Primitives) {stores : MemoryStores} {peer : String}

theorem mem_sessions_advance (other : String) (ratchet : RatchetState) (h : peer ∈ stores.sessions) :
    peer ∈ (stores.advance other ratchet).sessions :=
  Finmap.mem_insert.mpr (Or.inr h)

theorem mem_sessions_establish (ephemeral : Key) (other : String) (bundle : PreKeyBundle)
    (h : peer ∈ stores.sessions) :
    peer ∈ (Result.state ((establishSession prims manager ephemeral other bundle).run stores)).sessions := by
  rw [establishSession_run]
  cases initiatorKeys stores.identityPrivate bundle with
  | error abort => exact h
  | ok keys => exact mem_sessions_advance other _ h

theorem mem_sessions_established {bundle : PreKeyBundle} (hSized : WellSized stores bundle)
    (ephemeral : Key) :
    peer ∈ (Result.state ((establishSession prims manager ephemeral peer bundle).run stores)).sessions := by
  obtain ⟨info, stores', hRun⟩ : ∃ info stores',
      (establishSession prims manager ephemeral peer bundle).run stores = .ok info stores' :=
    (establishSession_succeeds_iff ephemeral peer bundle stores).mpr hSized
  rw [establishSession_run] at hRun ⊢
  cases hKeys : initiatorKeys stores.identityPrivate bundle with
  | error abort =>
    rw [hKeys] at hRun
    cases hRun
  | ok keys => exact Finmap.mem_insert.mpr (Or.inl rfl)

theorem mem_sessions_respond (other : String) (theirIdentityKey theirEphemeralKey : Bytes)
    (signedPrekeyId : UInt32) (oneTimePrekeyId : Option UInt32) (h : peer ∈ stores.sessions) :
    peer ∈ (Result.state ((respondToSession prims manager other theirIdentityKey theirEphemeralKey
      signedPrekeyId oneTimePrekeyId).run stores)).sessions := by
  rw [respondToSession_run]
  cases responderKeys stores theirIdentityKey theirEphemeralKey signedPrekeyId oneTimePrekeyId with
  | error abort => exact h
  | ok keys => exact mem_sessions_advance other _ h

theorem mem_sessions_responded {theirIdentityKey theirEphemeralKey : Bytes} {signedPrekeyId : UInt32}
    {oneTimePrekeyId : Option UInt32}
    (hAnswerable : Answerable stores theirIdentityKey theirEphemeralKey signedPrekeyId oneTimePrekeyId) :
    peer ∈ (Result.state ((respondToSession prims manager peer theirIdentityKey theirEphemeralKey
      signedPrekeyId oneTimePrekeyId).run stores)).sessions := by
  obtain ⟨stores', hRun⟩ : ∃ stores', (respondToSession prims manager peer theirIdentityKey
      theirEphemeralKey signedPrekeyId oneTimePrekeyId).run stores = .ok () stores' :=
    (respondToSession_succeeds_iff peer theirIdentityKey theirEphemeralKey signedPrekeyId oneTimePrekeyId
      stores).mpr hAnswerable
  rw [respondToSession_run] at hRun ⊢
  cases hKeys : responderKeys stores theirIdentityKey theirEphemeralKey signedPrekeyId oneTimePrekeyId with
  | error abort =>
    rw [hKeys] at hRun
    cases hRun
  | ok keys => exact Finmap.mem_insert.mpr (Or.inl rfl)

theorem sessions_generate (signedPrekey otpk : Key) (signedPrekeyId : UInt32)
    (oneTimePrekeyId : Option UInt32) :
    (Result.state ((generatePrekeyBundle prims manager signedPrekey otpk signedPrekeyId
      oneTimePrekeyId).run stores)).sessions = stores.sessions := by
  rw [generatePrekeyBundle_run]
  cases privatePrefix stores.identityPrivate <;> rfl

theorem mem_sessions_encrypt (other : String) (plaintext : Bytes) (h : peer ∈ stores.sessions) :
    peer ∈ (Result.state ((encrypt prims manager other plaintext).run stores)).sessions := by
  rw [encrypt_run]
  cases storedRatchet stores other with
  | error abort => exact h
  | ok ratchet =>
    dsimp only
    cases sealMessage prims ratchet.sendingChainKey (ratchet.sendCounter + 1) plaintext with
    | none => exact h
    | some message => exact mem_sessions_advance other _ h

theorem mem_sessions_decrypt (other : String) (message : Bytes) (h : peer ∈ stores.sessions) :
    peer ∈ (Result.state ((decrypt prims manager other message).run stores)).sessions := by
  rw [decrypt_run]
  split
  · exact h
  · cases storedRatchet stores other with
    | error abort => exact h
    | ok ratchet =>
      dsimp only
      cases openMessage prims ratchet.receivingChainKey message with
      | none => exact h
      | some plaintext => exact mem_sessions_advance other _ h

end Calls

namespace KeepsSession

variable {peer : String} {first second third : AppState}

theorem of_signalManager_eq (h : second.signalManager = first.signalManager) :
    KeepsSession peer first second := by
  rintro ⟨stores, hManager, hSession⟩
  exact ⟨stores, h.trans hManager, hSession⟩

theorem refl (state : AppState) : KeepsSession peer state state := id

theorem trans (h : KeepsSession peer first second) (h' : KeepsSession peer second third) :
    KeepsSession peer first third := h' ∘ h

theorem mapStores {change : MemoryStores → MemoryStores}
    (h : ∀ stores, first.signalManager = some stores → peer ∈ stores.sessions →
      peer ∈ (change stores).sessions) : KeepsSession peer first (first.mapStores change) := by
  rintro ⟨stores, hManager, hSession⟩
  refine ⟨change stores, ?_, h stores hManager hSession⟩
  rw [AppState.mapStores, hManager, Option.map_some]

theorem onlySends (h : OnlySends first second) : KeepsSession peer first second := by
  obtain ⟨_, _, rfl⟩ := h
  exact of_signalManager_eq rfl

end KeepsSession

variable (externals : Externals) (ambient : Ambient) {peer : String}

theorem keepsSession_offered (state : AppState) :
    KeepsSession peer state (state.offered externals ambient) := by
  refine .mapStores fun stores _ hSession => ?_
  rw [sessions_generate]
  exact hSession

theorem keepsSession_sendFriendAccept (other : String) (sessionInit : Option SessionInitInfo)
    (state : AppState) :
    KeepsSession peer state (sendFriendAccept externals ambient other sessionInit state).2 :=
  (keepsSession_offered externals ambient state).trans
    (.onlySends (sendFriendAccept_onlySends externals ambient other sessionInit state))

theorem keepsSession_sendFriendRequest (other message : String) (state : AppState) :
    KeepsSession peer state (sendFriendRequest externals ambient other message state).2 := by
  rcases sendFriendRequest_onlySends externals ambient other message state with h | h
  · exact .onlySends h
  · exact (keepsSession_offered externals ambient state).trans (.onlySends h)

theorem keepsSession_sendToPeerRaw (other : String) (payload : MessagePayload) (state : AppState) :
    KeepsSession peer state (sendToPeerRaw externals ambient other payload state).2 :=
  .onlySends (sendToPeerRaw_onlySends externals ambient other payload state)

theorem keepsSession_deleteSession {other : String} (hOther : peer ≠ other) (state : AppState) :
    KeepsSession peer state (state.callManager (deleteSession manager other)).2 := by
  rw [state.callManager_state]
  refine .mapStores fun stores _ hSession => ?_
  change peer ∈ stores.sessions.erase other
  exact Finmap.mem_erase.mpr ⟨hOther, hSession⟩

theorem keepsSession_establish (other : String) (bundle : PreKeyBundle) (state : AppState) :
    KeepsSession peer state
      (state.callManager (establishSession externals.prims manager ambient.ephemeral other bundle)).2 := by
  rw [state.callManager_state]
  exact .mapStores fun stores _ hSession => mem_sessions_establish externals.prims _ other bundle hSession

/-! ## Deleting, then building anew -/

/-- No session with the peer can be built from the serialized bundle. -/
def AppState.CannotEstablish (state : AppState) (prekeyBundle : Bytes) : Prop :=
  ∀ bundle stores, externals.bundleFromSlice prekeyBundle = some bundle →
    state.signalManager = some stores → ¬ WellSized stores bundle

variable {externals}

/-- The rebuilt session takes the place of the deleted one, if it can be built. -/
theorem keepsSession_rebuild {other : String} {bundle : PreKeyBundle} {state : AppState}
    (h : peer = other → ∀ stores, state.signalManager = some stores → WellSized stores bundle) :
    KeepsSession peer state ((state.callManager (deleteSession manager other)).2.callManager
      (establishSession externals.prims manager ambient.ephemeral other bundle)).2 := by
  by_cases hPeer : peer = other
  · subst hPeer
    rintro ⟨stores, hManager, _⟩
    rw [AppState.callManager_state, AppState.callManager_state]
    refine ⟨_, by simp only [AppState.mapStores, hManager, Option.map_some]; rfl, ?_⟩
    have hSized := h rfl stores hManager
    have hDeleted : WellSized (Result.state ((deleteSession manager peer).run stores)) bundle :=
      ⟨hSized.identityPrivate, hSized.signedPrekey, hSized.identityKey, hSized.oneTimePrekey⟩
    exact mem_sessions_established externals.prims hDeleted _
  · exact (keepsSession_deleteSession hPeer state).trans
      (keepsSession_establish externals ambient other bundle _)

theorem keepsSession_reestablish {other : String} {prekeyBundle : Bytes} {state : AppState}
    (h : peer = other → ¬ state.CannotEstablish externals prekeyBundle) :
    KeepsSession peer state (reestablishSession externals ambient other prekeyBundle state).2 := by
  unfold reestablishSession
  cases hBundle : externals.bundleFromSlice prekeyBundle with
  | none =>
    refine keepsSession_deleteSession ?_ state
    rintro hPeer
    apply h hPeer
    intro bundle stores hParsed
    rw [hBundle] at hParsed
    cases hParsed
  | some bundle =>
    refine keepsSession_rebuild ambient fun hPeer stores hManager => ?_
    by_contra hSized
    apply h hPeer
    intro bundle' stores' hParsed hManager'
    rw [hBundle] at hParsed
    rw [hManager] at hManager'
    cases hParsed
    cases hManager'
    exact hSized

/-- The accept of a peer cannot be answered: the session is deleted and none takes its place. -/
def AppState.CannotRespond (externals : Externals) (state : AppState) (accept : FriendAccept) : Prop :=
  accept.ephemeralKey ≠ [] ∧ ∃ bundle stores,
    externals.bundleFromSlice accept.prekeyBundle = some bundle ∧ state.signalManager = some stores ∧
      ¬ Answerable stores bundle.identityKey accept.ephemeralKey accept.signedPrekeyId
        accept.oneTimePrekeyId

theorem keepsSession_handleFriendAccept {sender : String} {accept : FriendAccept} {state : AppState}
    (h : peer = sender → ¬ state.CannotRespond externals accept) :
    KeepsSession peer state (handleFriendAccept externals sender accept state) := by
  unfold handleFriendAccept
  split
  · exact .refl state
  · rename_i hEphemeral
    cases hBundle : externals.bundleFromSlice accept.prekeyBundle with
    | none => exact .refl state
    | some bundle =>
      dsimp only
      rw [(state.callManager (deleteSession manager sender)).2.callManager_state]
      by_cases hPeer : peer = sender
      · subst hPeer
        rintro ⟨stores, hManager, _⟩
        rw [AppState.callManager_state]
        refine ⟨_, by simp only [AppState.mapStores, hManager, Option.map_some]; rfl, ?_⟩
        have hAnswerable : Answerable stores bundle.identityKey accept.ephemeralKey
            accept.signedPrekeyId accept.oneTimePrekeyId := by
          by_contra hUnanswerable
          exact h rfl ⟨hEphemeral, bundle, stores, hBundle, hManager, hUnanswerable⟩
        have hDeleted : Answerable (Result.state ((deleteSession manager peer).run stores))
            bundle.identityKey accept.ephemeralKey accept.signedPrekeyId accept.oneTimePrekeyId :=
          ⟨hAnswerable.identityPrivate, hAnswerable.signedPrekey, hAnswerable.theirIdentity,
            hAnswerable.theirEphemeral, hAnswerable.oneTimePrekey⟩
        exact mem_sessions_responded externals.prims hDeleted
      · exact (keepsSession_deleteSession hPeer state).trans
          (.mapStores fun stores _ hSession => mem_sessions_respond externals.prims _ _ _ _ _ hSession)

end Rekindle.Client
