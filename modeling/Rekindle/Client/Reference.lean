import Rekindle.Client.Codec
import Rekindle.Client.Commands
import Rekindle.Signal.Reference

/-! # Reference clients

The reference primitives with the JSON codec, and clients that run on them.
-/
namespace Rekindle.Client.Reference
set_option autoImplicit false

open Json Signal Signal.Reference

def externals : Externals where
  prims := primitives
  toX25519Secret := id
  isJson bytes := (parse bytes).isSome
  payloadToVec payload := write (payloadValue payload)
  payloadFromSlice bytes := (parse bytes).bind payloadOf
  bundleToVec bundle := write (bundleValue bundle)
  bundleFromSlice bytes := (parse bytes).bind bundleOf
  decodeInviteUrl _ := none
  inviteSignable blob := write (inviteValue blob)
  recordKeyParses key := key ≠ ""

theorem roundTrips : externals.RoundTrips where
  payload payload := by
    change (parse (write (payloadValue payload))).bind payloadOf = some payload
    rw [parse_write, Option.bind_some, payloadOf_payloadValue]
  bundle bundle := by
    change (parse (write (bundleValue bundle))).bind bundleOf = some bundle
    rw [parse_write, Option.bind_some, bundleOf_bundleValue]
  isJson payload := by
    change (parse (write (payloadValue payload))).isSome = true
    rw [parse_write]
    rfl

/-- The surroundings of a step, with keys of its own seed and a transport that takes everything. -/
def ambientOf (seed : UInt8) : Ambient where
  now := 1700000000000 + seed.toUInt64
  nonce _ := ⟨List.replicate 16 seed, List.length_replicate⟩
  queuedNonce := ⟨List.replicate 16 (seed + 128), List.length_replicate⟩
  ephemeral := sampleKey seed
  signedPrekey := sampleKey (seed + 1)
  otpk := sampleKey (seed + 2)
  reaches _ := true
  newProfileDhtKey := some "rotated"

/-- The address of the user with the key of the seed. -/
def address (seed : UInt8) : String := hexEncode (verifier (sampleKey seed)).val

def blank (seed : UInt8) : AppState where
  identity := none
  identitySecret := none
  signalManager := none
  friends := []
  node := some ⟨some "profile", some "mailbox", some [1]⟩
  dhtManager := some ⟨∅⟩
  removals := []
  db := ⟨[address seed], [], [], [], [], []⟩
  transmitted := []

/-- A user who has just logged in. -/
def user (seed : UInt8) (displayName : String) : AppState :=
  login externals (ambientOf seed) displayName (sampleKey seed) (blank seed)

/-- An envelope of the user with the key of the seed. -/
def envelope (seed nonce : UInt8) (payload : Bytes) : MessageEnvelope :=
  buildEnvelopeFromSecret primitives (sampleKey seed) (1700000000000 + nonce.toUInt64)
    (List.replicate 16 nonce) payload

end Rekindle.Client.Reference
