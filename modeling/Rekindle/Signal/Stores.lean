import Mathlib.Data.Finmap
import Rekindle.Library.Fallible
import Rekindle.Signal.Primitives

/-! # Storage backends of the session manager

The three store traits are records of stateful operations, so that a manager is built over any
backend. The client builds its manager over the in-memory ones.
-/
namespace Rekindle.Signal
set_option autoImplicit false

inductive CryptoError where
  | encryptionError (reason : String)
  | decryptionError (reason : String)
  | invalidKey (reason : String)
  | sessionError (reason : String)
  deriving DecidableEq, Repr

/-- A call ends early with an error it returns or with a panic. -/
inductive Abort where
  | error (error : CryptoError)
  | panic
  deriving DecidableEq, Repr

/-- A call on stores in the state `σ`. -/
abbrev StoreM (σ : Type) := EStateM Abort σ

section Traits

variable (σ : Type)

structure IdentityKeyStore where
  getIdentityKeyPair : StoreM σ (Bytes × Bytes)
  getLocalRegistrationId : StoreM σ UInt32
  isTrustedIdentity : String → Bytes → StoreM σ Bool
  saveIdentity : String → Bytes → StoreM σ Unit

structure PreKeyStore where
  loadPrekey : UInt32 → StoreM σ (Option Bytes)
  storePrekey : UInt32 → Bytes → StoreM σ Unit
  removePrekey : UInt32 → StoreM σ Unit
  loadSignedPrekey : UInt32 → StoreM σ (Option Bytes)
  storeSignedPrekey : UInt32 → Bytes → StoreM σ Unit

structure SessionStore where
  loadSession : String → StoreM σ (Option Bytes)
  storeSession : String → Bytes → StoreM σ Unit
  hasSession : String → StoreM σ Bool
  deleteSession : String → StoreM σ Unit

structure SignalSessionManager where
  identityStore : IdentityKeyStore σ
  prekeyStore : PreKeyStore σ
  sessionStore : SessionStore σ

end Traits

/-! ## The in-memory stores -/

structure MemoryStores where
  identityPrivate : Bytes
  identityPublic : Bytes
  registrationId : UInt32
  trusted : Finmap fun _ : String => Bytes
  prekeys : Finmap fun _ : UInt32 => Bytes
  signedPrekeys : Finmap fun _ : UInt32 => Bytes
  sessions : Finmap fun _ : String => Bytes
  deriving DecidableEq

namespace MemoryStores

/-- Empty stores around an identity key pair. -/
def new (identityPrivate identityPublic : Bytes) (registrationId : UInt32) : MemoryStores where
  identityPrivate := identityPrivate
  identityPublic := identityPublic
  registrationId := registrationId
  trusted := ∅
  prekeys := ∅
  signedPrekeys := ∅
  sessions := ∅

def identityKeyStore : IdentityKeyStore MemoryStores where
  getIdentityKeyPair := do
    let stores ← get
    pure (stores.identityPrivate, stores.identityPublic)
  getLocalRegistrationId := do
    let stores ← get
    pure stores.registrationId
  isTrustedIdentity address identityKey := do
    let stores ← get
    match stores.trusted.lookup address with
    | some stored => pure (stored == identityKey)
    | none => pure true
  saveIdentity address identityKey :=
    modify fun stores => { stores with trusted := stores.trusted.insert address identityKey }

def preKeyStore : PreKeyStore MemoryStores where
  loadPrekey id := do
    let stores ← get
    pure (stores.prekeys.lookup id)
  storePrekey id keyData :=
    modify fun stores => { stores with prekeys := stores.prekeys.insert id keyData }
  removePrekey id :=
    modify fun stores => { stores with prekeys := stores.prekeys.erase id }
  loadSignedPrekey id := do
    let stores ← get
    pure (stores.signedPrekeys.lookup id)
  storeSignedPrekey id keyData :=
    modify fun stores => { stores with signedPrekeys := stores.signedPrekeys.insert id keyData }

def sessionStore : SessionStore MemoryStores where
  loadSession address := do
    let stores ← get
    pure (stores.sessions.lookup address)
  storeSession address sessionData :=
    modify fun stores => { stores with sessions := stores.sessions.insert address sessionData }
  hasSession address := do
    let stores ← get
    pure (decide (address ∈ stores.sessions))
  deleteSession address :=
    modify fun stores => { stores with sessions := stores.sessions.erase address }

def manager : SignalSessionManager MemoryStores where
  identityStore := identityKeyStore
  prekeyStore := preKeyStore
  sessionStore := sessionStore

end MemoryStores
end Rekindle.Signal
