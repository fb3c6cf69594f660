import Rekindle.Library.Runs
import Rekindle.Library.Symbolic
import Rekindle.Signal.Agreement

/-! # Sessions over terms

The session operations with a term in the place of every stored or transmitted key. `none` stands
for a call that fails, or whose inputs are not made as the peers make them.
-/
namespace Rekindle.Signal
set_option autoImplicit false

open ByteWords

/-- 32 bytes of an HKDF output. -/
structure Derivation where
  info : Bytes
  length : Nat
  block : Nat
  deriving DecidableEq

/-- Private keys are numbered. -/
abbrev Term := Symbolic.Term Nat Derivation Bytes

structure SymbolicRatchet where
  rootKey : Term
  sendingChainKey : Term
  receivingChainKey : Term
  ourRatchetSecret : Term
  theirRatchetPublic : Term
  sendCounter : UInt64
  recvCounter : UInt64

def SymbolicRatchet.keys (ratchet : SymbolicRatchet) : List Term :=
  [ratchet.rootKey, ratchet.sendingChainKey, ratchet.receivingChainKey, ratchet.ourRatchetSecret,
    ratchet.theirRatchetPublic]

structure SymbolicStores where
  identityPrivate : Term
  identityPublic : Term
  trusted : String → Option Term
  prekeys : UInt32 → Option Term
  signedPrekeys : UInt32 → Option Term
  sessions : String → Option SymbolicRatchet

/-- The complete contents of the three stores. -/
inductive SymbolicStores.Holds (stores : SymbolicStores) : Term → Prop where
  | identityPrivate : Holds stores stores.identityPrivate
  | identityPublic : Holds stores stores.identityPublic
  | trusted {address : String} {term : Term} (h : stores.trusted address = some term) : Holds stores term
  | prekey {id : UInt32} {term : Term} (h : stores.prekeys id = some term) : Holds stores term
  | signedPrekey {id : UInt32} {term : Term} (h : stores.signedPrekeys id = some term) : Holds stores term
  | session {address : String} {ratchet : SymbolicRatchet} {term : Term}
      (h : stores.sessions address = some ratchet) (hKey : term ∈ ratchet.keys) : Holds stores term

structure SymbolicBundle where
  identityKey : Term
  signedPrekey : Term
  signedPrekeySignature : Term
  oneTimePrekey : Option Term

structure SymbolicInit where
  ephemeralPublicKey : Term
  signedPrekeyId : UInt32
  oneTimePrekeyId : Option UInt32

/-! ## Operations -/

def exchange : Term → Term → Option Term
  | .scalar secret, .point factors => some (.point (secret ::ₘ factors))
  | _, _ => none

def x3dhBlock (block : Nat) (input : Term) : Term := .derived ⟨x3dhInfo, 96, block⟩ input

def messageKeyTerm (chainKey : Term) : Term := .derived ⟨messageKeyInfo, 32, 0⟩ chainKey

def chainKeyLabel : Derivation := ⟨chainKeyInfo, 32, 0⟩

/-- The exchanges, concatenated. -/
def x3dhInput (dh1 dh2 dh3 : Term) : Option Term → Term
  | some dh4 => .pair (.pair (.pair dh1 dh2) dh3) dh4
  | none => .pair (.pair dh1 dh2) dh3

namespace SymbolicStores

variable (stores : SymbolicStores)

def advance (address : String) (ratchet : SymbolicRatchet) : SymbolicStores :=
  { stores with sessions := Function.update stores.sessions address (some ratchet) }

def trust (address : String) (identityKey : Term) : SymbolicStores :=
  { stores with trusted := Function.update stores.trusted address (some identityKey) }

def pin (address : String) (ratchet : SymbolicRatchet) (identityKey : Term) : SymbolicStores :=
  (stores.trust address identityKey).advance address ratchet

def consume (oneTimePrekeyId : Option UInt32) : SymbolicStores :=
  { stores with
    prekeys := oneTimePrekeyId.elim stores.prekeys fun id => Function.update stores.prekeys id none }

def establish (ephemeral : Nat) (address : String) (bundle : SymbolicBundle) :
    Option (SymbolicInit × SymbolicStores) := do
  let dh1 ← exchange stores.identityPrivate bundle.signedPrekey
  let dh2 ← exchange (.scalar ephemeral) bundle.identityKey
  let dh3 ← exchange (.scalar ephemeral) bundle.signedPrekey
  let dh4 ← bundle.oneTimePrekey.mapM (exchange (.scalar ephemeral))
  let input := x3dhInput dh1 dh2 dh3 dh4
  let ratchet : SymbolicRatchet := {
    rootKey := x3dhBlock 0 input
    sendingChainKey := x3dhBlock 1 input
    receivingChainKey := x3dhBlock 2 input
    ourRatchetSecret := .point {ephemeral}
    theirRatchetPublic := bundle.signedPrekey
    sendCounter := 0
    recvCounter := 0
  }
  pure (⟨.point {ephemeral}, 1, bundle.oneTimePrekey.map fun _ => 1⟩,
    stores.pin address ratchet bundle.identityKey)

def respond (address : String) (theirIdentityKey theirEphemeralKey : Term) (signedPrekeyId : UInt32)
    (oneTimePrekeyId : Option UInt32) : Option SymbolicStores := do
  let signedPrekey ← stores.signedPrekeys signedPrekeyId
  let dh1 ← exchange signedPrekey theirIdentityKey
  let dh2 ← exchange stores.identityPrivate theirEphemeralKey
  let dh3 ← exchange signedPrekey theirEphemeralKey
  let dh4 ← oneTimePrekeyId.mapM fun id => do exchange (← stores.prekeys id) theirEphemeralKey
  let ourPublic ← exchange signedPrekey (.point 0)
  let input := x3dhInput dh1 dh2 dh3 dh4
  let ratchet : SymbolicRatchet := {
    rootKey := x3dhBlock 0 input
    receivingChainKey := x3dhBlock 1 input
    sendingChainKey := x3dhBlock 2 input
    ourRatchetSecret := ourPublic
    theirRatchetPublic := theirEphemeralKey
    sendCounter := 0
    recvCounter := 0
  }
  pure ((stores.consume oneTimePrekeyId).pin address ratchet theirIdentityKey)

def generate (signedPrekey otpk : Nat) (signedPrekeyId : UInt32) (oneTimePrekeyId : Option UInt32) :
    SymbolicBundle × SymbolicStores :=
  (⟨stores.identityPublic, .point {signedPrekey}, .signed stores.identityPrivate (.point {signedPrekey}),
      oneTimePrekeyId.map fun _ => .point {otpk}⟩,
    { stores with
      signedPrekeys := Function.update stores.signedPrekeys signedPrekeyId (some (.scalar signedPrekey))
      prekeys := oneTimePrekeyId.elim stores.prekeys
        fun id => Function.update stores.prekeys id (some (.scalar otpk)) })

end SymbolicStores

namespace SymbolicRatchet

variable (ratchet : SymbolicRatchet)

def sent : SymbolicRatchet :=
  { ratchet with
    sendingChainKey := .derived chainKeyLabel ratchet.sendingChainKey
    sendCounter := ratchet.sendCounter + 1 }

def received : SymbolicRatchet :=
  { ratchet with
    receivingChainKey := .derived chainKeyLabel ratchet.receivingChainKey
    recvCounter := ratchet.recvCounter + 1 }

/-- The counter and the nonce, then the ciphertext. -/
def message (plaintext : Bytes) : Term :=
  let counter := ratchet.sendCounter + 1
  let nonce := (counterNonce counter).val
  .pair (.data (toLeBytes 8 counter.toNat ++ nonce))
    (.encrypted (messageKeyTerm ratchet.sendingChainKey) nonce (.data plaintext))

end SymbolicRatchet

namespace SymbolicStores

variable (stores : SymbolicStores)

def encrypt (address : String) (plaintext : Bytes) : Option (Term × SymbolicStores) :=
  (stores.sessions address).map fun ratchet =>
    (ratchet.message plaintext, stores.advance address ratchet.sent)

/-- A ciphertext opens with the key and the nonce that it was made with. -/
def openTerm (key : Term) : Term → Option Bytes
  | .pair (.data header) (.encrypted key' nonce (.data plaintext)) =>
    if key' = key ∧ nonce = (header.drop 8).take 12 then some plaintext else none
  | _ => none

def decrypt (address : String) (message : Term) : Option (Bytes × SymbolicStores) := do
  let ratchet ← stores.sessions address
  let plaintext ← openTerm (messageKeyTerm ratchet.receivingChainKey) message
  pure (plaintext, stores.advance address ratchet.received)

end SymbolicStores

/-! ## Two peers -/

/-- Both ends' stores, what each has sent, oldest first, and what each has decrypted. -/
structure Traffic where
  stores : Side → SymbolicStores
  sent : Side → List Term
  opened : Side → List Term

inductive Transfer where
  | encrypts (side : Side) (plaintext : Bytes)
  /-- The message that the other end sent as its `index`th reaches `side`, once more perhaps. -/
  | decrypts (side : Side) (index : Nat)

def Traffic.step (address : Side → String) (traffic : Traffic) : Transfer → Traffic
  | .encrypts side plaintext =>
    match (traffic.stores side).encrypt (address side.other) plaintext with
    | none => traffic
    | some (message, stores) =>
      { traffic with
        stores := Function.update traffic.stores side stores
        sent := Function.update traffic.sent side (traffic.sent side ++ [message]) }
  | .decrypts side index =>
    match (traffic.sent side.other)[index]? with
    | none => traffic
    | some message =>
      match (traffic.stores side).decrypt (address side.other) message with
      | none => traffic
      | some (_, stores) =>
        { traffic with
          stores := Function.update traffic.stores side stores
          opened := Function.update traffic.opened side (traffic.opened side ++ [message]) }

/-- Right after a handshake. -/
def Traffic.start (alice bob : SymbolicStores) : Traffic where
  stores
    | .alice => alice
    | .bob => bob
  sent _ := []
  opened _ := []

end Rekindle.Signal
