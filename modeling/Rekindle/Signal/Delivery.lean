import Rekindle.Signal.Agreement

/-! # Delivery in any order

A batch of ciphertexts of one side of a session, handed to the other side by an arbitrary
schedule of positions: positions may be missing, repeated and out of order.
-/
namespace Rekindle.Signal
set_option autoImplicit false

open Fallible MemoryStores SymmetricRatchet

section Schedules

variable (prims : Primitives)

/-- The ciphertexts of a list of plaintexts, each with its plaintext. -/
def encryptBatch (peerAddress : String) : List Bytes → StoreM MemoryStores (List (Bytes × Bytes))
  | [] => pure []
  | plaintext :: rest => do
    let message ← encrypt prims manager peerAddress plaintext
    let batch ← encryptBatch peerAddress rest
    pure ((message, plaintext) :: batch)

/-- What `decrypt` makes of each delivery, in the order of the schedule. -/
def deliveries (peerAddress : String) (batch : List (Bytes × Bytes)) :
    MemoryStores → List (Fin batch.length) → List (Fin batch.length × Option Bytes)
  | _, [] => []
  | stores, i :: rest =>
    match (decrypt prims manager peerAddress (batch.get i).1).run stores with
    | .ok plaintext stores => (i, some plaintext) :: deliveries peerAddress batch stores rest
    | .error _ stores => (i, none) :: deliveries peerAddress batch stores rest

/-- Every delivered ciphertext that was not decrypted before yields its plaintext. -/
def EachDecrypts (batch : List (Bytes × Bytes)) (entries : List (Fin batch.length × Option Bytes)) :
    Prop :=
  Tolerant (fun i => (batch.get i).2) (fun _ => False) entries

/-- Every delivered ciphertext comes after all those encrypted before it. -/
def InSendingOrder {n : Nat} (schedule : List (Fin n)) : Prop :=
  InOrder (fun _ => False) schedule

variable {prims}

theorem encryptBatch_inFlight (hDecrypts : prims.DecryptUndoesEncrypt) {peerAddress : String}
    {plaintexts : List Bytes} {stores stores' : MemoryStores} {batch : List (Bytes × Bytes)}
    {ratchet : RatchetState} (hStored : storedRatchet stores peerAddress = .ok ratchet)
    (hBatch : (encryptBatch prims peerAddress plaintexts).run stores = .ok batch stores') :
    ∃ chain, InFlight (scheme hDecrypts) ratchet.sendingChainKey chain batch := by
  induction plaintexts generalizing stores batch ratchet with
  | nil =>
    cases hBatch
    exact ⟨_, .empty _⟩
  | cons plaintext rest ih =>
    rw [encryptBatch, run_bind_eq_ok_iff] at hBatch
    obtain ⟨message, next, hEncrypt, hBatch⟩ := hBatch
    obtain ⟨later, last, hLater, hBatch⟩ := run_bind_eq_ok_iff.mp hBatch
    cases hBatch
    rw [encrypt_run, hStored] at hEncrypt
    cases hSealed : sealMessage prims ratchet.sendingChainKey (ratchet.sendCounter + 1) plaintext with
    | none =>
      simp only [hSealed] at hEncrypt
      cases hEncrypt
    | some sealedMessage =>
      simp only [hSealed] at hEncrypt
      cases hEncrypt
      obtain ⟨chain, hInFlight⟩ := ih
        (storedRatchet_advance ((storedRatchet_storable hStored).sent prims)) hLater
      exact ⟨chain, .cons ⟨_, hSealed⟩ hInFlight⟩

/-- The receiver is the abstract receiver that knows only its current chain. -/
theorem deliveries_eq_log (hDecrypts : prims.DecryptUndoesEncrypt) {peerAddress : String}
    {batch : List (Bytes × Bytes)} {stores : MemoryStores} {ratchet : RatchetState}
    (hStored : storedRatchet stores peerAddress = .ok ratchet) (schedule : List (Fin batch.length)) :
    deliveries prims peerAddress batch stores schedule =
      log (scheme hDecrypts) (fun i => (batch.get i).1) ratchet.receivingChainKey schedule := by
  induction schedule generalizing stores ratchet with
  | nil => rfl
  | cons i rest ih =>
    cases hOpens : openMessage prims ratchet.receivingChainKey (batch.get i).1 with
    | none =>
      obtain ⟨reason, hRun⟩ := decrypt_of_not_open hStored hOpens
      have hLog : (scheme hDecrypts).open? ratchet.receivingChainKey (batch.get i).1 = none := hOpens
      simp only [deliveries, log, hRun, hLog, ih hStored]
    | some plaintext =>
      have hRun := decrypt_of_open hStored hOpens
      have hLog : (scheme hDecrypts).open? ratchet.receivingChainKey (batch.get i).1 = some plaintext :=
        hOpens
      have hStored' : storedRatchet (stores.advance peerAddress (ratchet.received prims)) peerAddress =
          .ok (ratchet.received prims) :=
        storedRatchet_advance ((storedRatchet_storable hStored).received prims)
      simp only [deliveries, log, hRun, hLog, ih hStored']
      rfl

/-- The schedules that a session tolerates are those in sending order: a receiver without the
keys of skipped messages never opens a message that overtook another. -/
theorem deliveries_tolerated_iff (hDecrypts : prims.DecryptUndoesEncrypt)
    (senderAddress receiverAddress : String) (sender receiver sender' : MemoryStores)
    (ours theirs : RatchetState) (plaintexts : List Bytes) (batch : List (Bytes × Bytes))
    (hSender : storedRatchet sender receiverAddress = .ok ours)
    (hReceiver : storedRatchet receiver senderAddress = .ok theirs)
    (hEstablished : ours.sendingChainKey = theirs.receivingChainKey)
    (hBatch : (encryptBatch prims receiverAddress plaintexts).run sender = .ok batch sender')
    (hRejects : Rejects (scheme hDecrypts) (fun i : Fin batch.length => (batch.get i).1)
      theirs.receivingChainKey) (schedule : List (Fin batch.length)) :
    EachDecrypts batch (deliveries prims senderAddress batch receiver schedule) ↔
      InSendingOrder schedule := by
  obtain ⟨chain, hInFlight⟩ := encryptBatch_inFlight hDecrypts hSender hBatch
  rw [hEstablished] at hInFlight
  have hIff := tolerant_log_iff (scheme hDecrypts) (fun i : Fin batch.length => (batch.get i).1)
    (fun i => (batch.get i).2) theirs.receivingChainKey (fun i => hInFlight.seals_get i) hRejects 0
    (Nat.zero_le _) schedule
  simp only [Nat.not_lt_zero] at hIff
  rw [deliveries_eq_log hDecrypts hReceiver]
  exact hIff

end Schedules

/-! ## A lost message -/

namespace Reference

/-- Two messages of the initiator of the sample session. -/
def batch : List (Bytes × Bytes) :=
  match (encryptBatch primitives "bob" [[1], [2]]).run initiator with
  | .ok batch _ => batch
  | .error _ _ => []

/-- The first message is lost, the second arrives. -/
def firstLost : List (Fin batch.length) := [⟨1, by decide +kernel⟩]

def ratchetOf (stores : MemoryStores) (peerAddress : String) : RatchetState :=
  match storedRatchet stores peerAddress with
  | .ok ratchet => ratchet
  | .error _ => ⟨sampleKey 0, sampleKey 0, sampleKey 0, [], [], 0, 0⟩

theorem batch_run :
    ∃ stores, (encryptBatch primitives "bob" [[1], [2]]).run initiator = .ok batch stores := by
  have hLength : batch.length = 2 := by decide +kernel
  unfold batch at hLength ⊢
  cases hRun : (encryptBatch primitives "bob" [[1], [2]]).run initiator with
  | ok batch stores => exact ⟨stores, rfl⟩
  | error abort stores =>
    rw [hRun] at hLength
    cases hLength

end Reference

open Reference in
theorem deliveries_tolerated_iff_firstLost :
    EachDecrypts batch (deliveries primitives "alice" batch responder firstLost) ↔
      InSendingOrder firstLost := by
  obtain ⟨sent, hBatch⟩ := batch_run
  exact deliveries_tolerated_iff decryptUndoesEncrypt "alice" "bob" initiator responder sent
    (ratchetOf initiator "bob") (ratchetOf responder "alice") [[1], [2]] batch (by decide +kernel)
    (by decide +kernel) (by decide +kernel) hBatch (by unfold Rejects; decide +kernel) firstLost

open Reference in
/-- A genuine ciphertext that no delivery has opened is not opened when it arrives. -/
theorem firstLost_not_tolerated :
    ¬ EachDecrypts batch (deliveries primitives "alice" batch responder firstLost) := by
  have hRun : deliveries primitives "alice" batch responder firstLost =
      [(⟨1, by decide +kernel⟩, none)] := by decide +kernel
  intro h
  have hOpened := h [] _ none [] hRun not_false (by simp)
  cases hOpened

end Rekindle.Signal
