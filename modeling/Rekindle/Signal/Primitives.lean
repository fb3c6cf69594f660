import Rekindle.Library.ByteWords

/-! # Cryptographic primitives

The curve, HKDF, AES-GCM and Ed25519 come from third-party crates: they are a parameter here.
What a result uses of them is a named law, stated once below.
-/
namespace Rekindle.Signal
set_option autoImplicit false

open ByteWords

abbrev Bytes := List UInt8

abbrev Key := Window UInt8 32
abbrev Nonce := Window UInt8 12
abbrev Signature := Window UInt8 64

/-- `StaticSecret`, `Hkdf::<Sha256>`, `Aes256Gcm` and `SigningKey` as the session code calls
them. HKDF expansion fails only past 255 blocks, and no call asks for more than 96 bytes. -/
structure Primitives where
  x25519Public : Key → Key
  diffieHellman : Key → Key → Key
  hkdfExpand : Bytes → Bytes → (length : Nat) → Window UInt8 length
  aesGcmEncrypt : Key → Nonce → Bytes → Option Bytes
  aesGcmDecrypt : Key → Nonce → Bytes → Option Bytes
  ed25519Public : Key → Key
  ed25519Sign : Key → Bytes → Signature
  ed25519Verify : Key → Bytes → Signature → Bool

variable (prims : Primitives)

def Primitives.Commutes : Prop :=
  ∀ a b : Key, prims.diffieHellman a (prims.x25519Public b) =
    prims.diffieHellman b (prims.x25519Public a)

def Primitives.DecryptUndoesEncrypt : Prop :=
  ∀ key nonce plaintext ciphertext, prims.aesGcmEncrypt key nonce plaintext = some ciphertext →
    prims.aesGcmDecrypt key nonce ciphertext = some plaintext

def Primitives.SignaturesVerify : Prop :=
  ∀ secret message,
    prims.ed25519Verify (prims.ed25519Public secret) message (prims.ed25519Sign secret message) = true

/-- Only a secret's public key verifies all its signatures on X25519 keys. -/
def Primitives.SignaturesIdentify : Prop :=
  ∀ secret verifier,
    (∀ prekey, prims.ed25519Verify verifier (prims.x25519Public prekey).val
      (prims.ed25519Sign secret (prims.x25519Public prekey).val) = true) →
    verifier = prims.ed25519Public secret

/-- A byte-string literal of the source. -/
def ascii (text : String) : Bytes := text.toUTF8.data.toList

end Rekindle.Signal
