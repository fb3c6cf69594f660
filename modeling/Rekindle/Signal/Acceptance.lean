import Rekindle.Library.Runs
import Rekindle.Signal.Delivery

/-! # What decryption accepts

A ciphertext is authenticated before the ratchet moves, so one that is not accepted leaves the session
as it is, and one that is accepted moves it past the key that opens it.
-/
namespace Rekindle.Signal
set_option autoImplicit false

open ByteWords Fallible MemoryStores Runs SymmetricRatchet

/-- AES-GCM rejects under any other key. -/
def Primitives.RejectsOtherKeys (prims : Primitives) : Prop :=
  ∀ key other nonce ciphertext, key ≠ other → (prims.aesGcmDecrypt key nonce ciphertext).isSome = true →
    prims.aesGcmDecrypt other nonce ciphertext = none

/-- The first chain keys from this one have message keys that do not repeat. -/
def FreshKeys (prims : Primitives) (chainKey : Key) (count : Nat) : Prop :=
  ∀ i j, i < j → j < count →
    messageKey prims ((nextChainKey prims)^[i] chainKey) ≠ messageKey prims ((nextChainKey prims)^[j] chainKey)

inductive SessionCall where
  | encrypt (peerAddress : String) (plaintext : Bytes)
  | decrypt (peerAddress : String) (message : Bytes)

section
variable (prims : Primitives)

def SessionCall.after (stores : MemoryStores) : SessionCall → MemoryStores
  | .encrypt peerAddress plaintext =>
    Result.state ((Signal.encrypt prims manager peerAddress plaintext).run stores)
  | .decrypt peerAddress message =>
    Result.state ((Signal.decrypt prims manager peerAddress message).run stores)

/-- The ciphertexts of the peer that the calls accept, in order. -/
def acceptedFrom (peerAddress : String) : MemoryStores → List SessionCall → List Bytes
  | _, [] => []
  | stores, call :: rest =>
    let later := acceptedFrom peerAddress (call.after prims stores) rest
    match call with
    | .encrypt _ _ => later
    | .decrypt peer message =>
      if peer = peerAddress then
        match (Signal.decrypt prims manager peer message).run stores with
        | .ok _ _ => message :: later
        | .error _ _ => later
      else later

/-- The ciphertexts that the calls bring from the peer. -/
def arrivals (peerAddress : String) (calls : List SessionCall) : List Bytes :=
  calls.filterMap fun
    | .encrypt _ _ => none
    | .decrypt peer message => if peer = peerAddress then some message else none

end

section
variable {prims : Primitives} {stores : MemoryStores} {peerAddress : String}

theorem after_encrypt (peer : String) (plaintext : Bytes) :
    (SessionCall.encrypt peer plaintext).after prims stores =
      Result.state ((encrypt prims manager peer plaintext).run stores) := rfl

theorem after_decrypt (peer : String) (message : Bytes) :
    (SessionCall.decrypt peer message).after prims stores =
      Result.state ((decrypt prims manager peer message).run stores) := rfl

/-- A decryption that does not return leaves the stores as they are. -/
theorem decrypt_atomic {message : Bytes} {abort : Abort} {after : MemoryStores}
    (h : (decrypt prims manager peerAddress message).run stores = .error abort after) : after = stores := by
  rw [decrypt_run] at h
  split at h
  · cases h
    rfl
  · split at h
    · cases h
      rfl
    · split at h <;> cases h
      rfl

theorem storedRatchet_other {other : String} (hOther : peerAddress ≠ other) (ratchet : RatchetState) :
    storedRatchet (stores.advance other ratchet) peerAddress = storedRatchet stores peerAddress := by
  unfold storedRatchet MemoryStores.advance
  rw [Finmap.lookup_insert_of_ne _ hOther]

/-- An encryption does not move the receiving chain of any session. -/
theorem encrypt_receivingChain (peer : String) (plaintext : Bytes) :
    (storedRatchet ((SessionCall.encrypt peer plaintext).after prims stores) peerAddress).map
        RatchetState.receivingChainKey =
      (storedRatchet stores peerAddress).map RatchetState.receivingChainKey := by
  rw [after_encrypt, encrypt_run]
  cases hStored : storedRatchet stores peer with
  | error abort => rfl
  | ok ratchet =>
    dsimp only
    cases hSealed : sealMessage prims ratchet.sendingChainKey (ratchet.sendCounter + 1) plaintext with
    | none => rfl
    | some message =>
      dsimp only [Result.state_ok]
      by_cases hPeer : peerAddress = peer
      · subst hPeer
        rw [storedRatchet_advance ((storedRatchet_storable hStored).sent prims), hStored]
        rfl
      · rw [storedRatchet_other hPeer]

/-- A decryption for one peer does not touch the sessions of others. -/
theorem decrypt_other {peer : String} (hPeer : peerAddress ≠ peer) (message : Bytes) :
    storedRatchet ((SessionCall.decrypt peer message).after prims stores) peerAddress =
      storedRatchet stores peerAddress := by
  rw [after_decrypt]
  cases hRun : (decrypt prims manager peer message).run stores with
  | error abort after => rw [Result.state_error, decrypt_atomic hRun]
  | ok plaintext after =>
    rw [decrypt_run] at hRun
    split at hRun
    · cases hRun
    · split at hRun
      · cases hRun
      · split at hRun <;> cases hRun
        exact storedRatchet_other hPeer _

/-- The chain at the receiver decides what is accepted, whatever else is called. -/
theorem acceptedFrom_eq {calls : List SessionCall} {chainKey : Key}
    (hStored : (storedRatchet stores peerAddress).map RatchetState.receivingChainKey = .ok chainKey) :
    acceptedFrom prims peerAddress stores calls =
      accepted (nextChainKey prims) (openMessage prims) chainKey (arrivals peerAddress calls) := by
  induction calls generalizing stores chainKey with
  | nil => rfl
  | cons call rest ih =>
    cases call with
    | encrypt peer plaintext =>
      exact ih ((@encrypt_receivingChain prims stores peerAddress peer plaintext).trans hStored)
    | decrypt peer message =>
      by_cases hPeer : peer = peerAddress
      · subst hPeer
        obtain ⟨ratchet, hRatchet, rfl⟩ : ∃ ratchet, storedRatchet stores peer = .ok ratchet ∧
            ratchet.receivingChainKey = chainKey := by
          cases hRatchet : storedRatchet stores peer with
          | error abort =>
            rw [hRatchet] at hStored
            cases hStored
          | ok ratchet =>
            rw [hRatchet] at hStored
            exact ⟨ratchet, rfl, Except.ok.inj hStored⟩
        have hArrivals : arrivals peer (.decrypt peer message :: rest) = message :: arrivals peer rest := by
          simp only [arrivals, List.filterMap_cons, if_true]
        rw [hArrivals, accepted, acceptedFrom, if_pos rfl]
        cases hOpened : openMessage prims ratchet.receivingChainKey message with
        | none =>
          obtain ⟨reason, hRun⟩ := decrypt_of_not_open hRatchet hOpened
          have hAfter : (SessionCall.decrypt peer message).after prims stores = stores := by
            rw [after_decrypt, hRun, Result.state_error]
          rw [hRun, hAfter]
          exact ih hStored
        | some plaintext =>
          have hRun := decrypt_of_open hRatchet hOpened
          have hAfter : (SessionCall.decrypt peer message).after prims stores =
              stores.advance peer (ratchet.received prims) := by
            rw [after_decrypt, hRun, Result.state_ok]
          rw [hRun, hAfter]
          refine congrArg (message :: ·) (ih ?_)
          rw [storedRatchet_advance ((storedRatchet_storable hRatchet).received prims)]
          rfl
      · have hArrivals : arrivals peerAddress (.decrypt peer message :: rest) = arrivals peerAddress rest := by
          simp only [arrivals, List.filterMap_cons, if_neg hPeer]
        rw [hArrivals, acceptedFrom, if_neg hPeer]
        refine ih ?_
        rw [decrypt_other (Ne.symm hPeer)]
        exact hStored

/-- Without a session that decodes, nothing is accepted. -/
theorem acceptedFrom_eq_nil {calls : List SessionCall} {abort : Abort}
    (hStored : (storedRatchet stores peerAddress).map RatchetState.receivingChainKey = .error abort) :
    acceptedFrom prims peerAddress stores calls = [] := by
  induction calls generalizing stores with
  | nil => rfl
  | cons call rest ih =>
    cases call with
    | encrypt peer plaintext =>
      exact ih ((@encrypt_receivingChain prims stores peerAddress peer plaintext).trans hStored)
    | decrypt peer message =>
      by_cases hPeer : peer = peerAddress
      · subst hPeer
        have hRefused : ∃ reason, (decrypt prims manager peer message).run stores = .error reason stores := by
          cases hRatchet : storedRatchet stores peer with
          | ok ratchet =>
            rw [hRatchet] at hStored
            cases hStored
          | error reason =>
            rw [decrypt_run, hRatchet]
            split
            · exact ⟨_, rfl⟩
            · exact ⟨reason, rfl⟩
        obtain ⟨reason, hRun⟩ := hRefused
        have hAfter : (SessionCall.decrypt peer message).after prims stores = stores := by
          rw [after_decrypt, hRun, Result.state_error]
        rw [acceptedFrom, if_pos rfl, hRun, hAfter]
        exact ih hStored
      · rw [acceptedFrom, if_neg hPeer]
        refine ih ?_
        rw [decrypt_other (Ne.symm hPeer)]
        exact hStored

theorem openMessage_once (hRejects : prims.RejectsOtherKeys) {chainKey other : Key} {message : Bytes}
    (hKeys : messageKey prims chainKey ≠ messageKey prims other)
    (hOpens : (openMessage prims chainKey message).isSome = true) : openMessage prims other message = none := by
  unfold openMessage at hOpens ⊢
  cases hNonce : slice? message 8 12 with
  | none => rfl
  | some nonce =>
    rw [hNonce, Option.bind_some] at hOpens
    rw [Option.bind_some]
    exact hRejects _ _ _ _ hKeys hOpens

end

/-- A decryption that fails leaves the stores as they are, and no ciphertext is accepted twice. -/
theorem decrypt_atomic_and_once {prims : Primitives} (hRejects : prims.RejectsOtherKeys) :
    (∀ (stores : MemoryStores) (peerAddress : String) (message : Bytes) (abort : Abort) (after : MemoryStores),
      (decrypt prims manager peerAddress message).run stores = .error abort after → after = stores) ∧
    ∀ (stores : MemoryStores) (peerAddress : String) (calls : List SessionCall),
      (∀ ratchet, storedRatchet stores peerAddress = .ok ratchet →
        FreshKeys prims ratchet.receivingChainKey calls.length) →
      (acceptedFrom prims peerAddress stores calls).Nodup := by
  refine ⟨fun stores peerAddress message abort after h => decrypt_atomic h, ?_⟩
  intro stores peerAddress calls hFresh
  cases hStored : storedRatchet stores peerAddress with
  | error abort =>
    rw [acceptedFrom_eq_nil (by rw [hStored]; rfl)]
    exact List.nodup_nil
  | ok ratchet =>
    rw [acceptedFrom_eq (by rw [hStored]; rfl)]
    refine accepted_nodup fun i j hij hj cipher hOpens => openMessage_once hRejects ?_ hOpens
    exact hFresh ratchet hStored i j hij (hj.trans_le (List.length_filterMap_le _ _))

namespace Reference

theorem rejectsOtherKeys : primitives.RejectsOtherKeys := by
  intro key other nonce ciphertext hKeys hOpens
  change (aeadDecrypt key nonce ciphertext).isSome = true at hOpens
  change aeadDecrypt other nonce ciphertext = none
  unfold aeadDecrypt at hOpens ⊢
  split at hOpens
  next hTag =>
    refine if_neg fun hOther => hKeys ?_
    exact Subtype.ext (List.append_cancel_right (hTag.symm.trans hOther))
  next => cases hOpens

/-- The two messages of the initiator arrive, and the first one again after each. -/
def replayedCalls : List SessionCall :=
  batch.flatMap fun (message, _) =>
    [.decrypt "alice" message, .encrypt "alice" [3]] ++ (batch.take 1).map fun (first, _) => .decrypt "alice" first

end Reference

open Reference in
theorem decrypt_atomic_and_once_replayed :
    acceptedFrom primitives "alice" responder replayedCalls = batch.map Prod.fst ∧
    (acceptedFrom primitives "alice" responder replayedCalls).Nodup := by
  refine ⟨by decide +kernel, (decrypt_atomic_and_once rejectsOtherKeys).2 responder "alice" replayedCalls ?_⟩
  have hStored : storedRatchet responder "alice" = .ok (ratchetOf responder "alice") := by decide +kernel
  have hKeys : ∀ j < 6, ∀ i < j,
      messageKey primitives ((nextChainKey primitives)^[i] (ratchetOf responder "alice").receivingChainKey) ≠
        messageKey primitives ((nextChainKey primitives)^[j] (ratchetOf responder "alice").receivingChainKey) := by
    decide +kernel
  have hCount : replayedCalls.length = 6 := by decide +kernel
  intro ratchet hRatchet
  rw [← Except.ok.inj (hStored.symm.trans hRatchet), hCount]
  exact fun i j hij hj => hKeys j hj i hij

end Rekindle.Signal
