import Rekindle.Signal.MemorySessions

/-! # Reference primitives

Small executable primitives with the laws of the real ones. Results that assume the laws are
instantiated here.
-/
namespace Rekindle.Signal.Reference
set_option autoImplicit false

open ByteWords Fallible MemoryStores

def scale (factor : UInt8) (key : Key) : Key := ⟨key.val.map (factor * ·), by simp⟩

def multiply (a b : Key) : Key := ⟨List.zipWith (· * ·) a.val b.val, by simp⟩

/-- Folds the 32-byte blocks of the input, each with a weight of its own. -/
def compress (ikm : Bytes) (i : Nat) : UInt8 :=
  (List.range (ikm.length / 32)).foldl
    (fun acc block => acc + UInt8.ofNat (block + 1) * ikm.getD (32 * block + i % 32) 0) 0

def expand (ikm info : Bytes) (length : Nat) : Window UInt8 length :=
  ⟨(List.range length).map fun i => compress ikm i + UInt8.ofNat (info.length + i / 32), by simp⟩

def mask (key : Key) (text : Bytes) : Bytes := text.map (key.val.headD 0 ^^^ ·)

def aeadEncrypt (key : Key) (nonce : Nonce) (plaintext : Bytes) : Option Bytes :=
  some (key.val ++ (nonce.val ++ mask key plaintext))

def aeadDecrypt (key : Key) (nonce : Nonce) (ciphertext : Bytes) : Option Bytes :=
  if ciphertext.take 44 = key.val ++ nonce.val then some (mask key (ciphertext.drop 44)) else none

def digest (message : Bytes) : Window UInt8 32 :=
  ⟨(message ++ List.replicate 32 0).take 32, by simp⟩

def verifier (secret : Key) : Key := scale 7 secret

def sign (secret : Key) (message : Bytes) : Signature :=
  ⟨(verifier secret).val ++ (digest message).val, by simp⟩

def verify (publicKey : Key) (message : Bytes) (signature : Signature) : Bool :=
  signature.val = publicKey.val ++ (digest message).val

def primitives : Primitives where
  x25519Public := scale 9
  diffieHellman := multiply
  hkdfExpand := expand
  aesGcmEncrypt := aeadEncrypt
  aesGcmDecrypt := aeadDecrypt
  ed25519Public := verifier
  ed25519Sign := sign
  ed25519Verify := verify

theorem commutes : primitives.Commutes := by
  rintro ⟨a, ha⟩ ⟨b, hb⟩
  apply Subtype.ext
  change List.zipWith (· * ·) a (b.map (9 * ·)) = List.zipWith (· * ·) b (a.map (9 * ·))
  rw [List.zipWith_map_right, List.zipWith_map_right, List.zipWith_comm]
  congr 1
  funext x y
  ac_rfl

theorem mask_mask (key : Key) (text : Bytes) : mask key (mask key text) = text := by
  simp [mask, Function.comp_def, ← UInt8.xor_assoc]

theorem decryptUndoesEncrypt : primitives.DecryptUndoesEncrypt := by
  intro key nonce plaintext ciphertext h
  cases h
  have hTag : (key.val ++ nonce.val).length = 44 := by simp
  change aeadDecrypt key nonce _ = _
  rw [aeadDecrypt, ← List.append_assoc, List.take_left' hTag, List.drop_left' hTag, if_pos rfl,
    mask_mask]

theorem signaturesVerify : primitives.SignaturesVerify :=
  fun _ _ => decide_eq_true rfl

theorem signaturesIdentify : primitives.SignaturesIdentify := by
  intro secret publicKey h
  have hSigned : (verifier secret).val ++ _ = publicKey.val ++ _ := of_decide_eq_true (h secret)
  exact Subtype.ext (List.append_cancel_right hSigned).symm

/-! ## Sample users -/

def sampleKey (seed : UInt8) : Key := .replicate 32 seed

/-- Fresh stores around the identity key of the seed. -/
def user (seed : UInt8) : MemoryStores :=
  .new (sampleKey seed) (primitives.x25519Public (sampleKey seed)) 1

@[simp] theorem user_private (seed : UInt8) :
    privatePrefix (user seed).identityPrivate = .ok (sampleKey seed) := rfl

theorem user_offers (seed : UInt8) (signedPrekey otpk : Key) (oneTimePrekeyId : Option UInt32) :
    (generatePrekeyBundle primitives manager signedPrekey otpk 1 oneTimePrekeyId).run (user seed) =
      .ok (offeredBundle primitives (user seed) (sampleKey seed) signedPrekey otpk oneTimePrekeyId)
        ((user seed).offer signedPrekey otpk 1 oneTimePrekeyId) := by
  rw [generatePrekeyBundle_run, user_private]

/-- User 1 after establishing a session with user 2. -/
def initiator : MemoryStores :=
  Result.state ((establishSession primitives manager (sampleKey 5) "bob" (offeredBundle primitives
    (user 2) (sampleKey 2) (sampleKey 3) (sampleKey 4) (some 1))).run (user 1))

/-- User 2 after responding. -/
def responder : MemoryStores :=
  Result.state ((respondToSession primitives manager "alice" (user 1).identityPublic
    (primitives.x25519Public (sampleKey 5)) 1 (some 1)).run
      ((user 2).offer (sampleKey 3) (sampleKey 4) 1 (some 1)))

end Rekindle.Signal.Reference
