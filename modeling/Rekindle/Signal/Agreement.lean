import Mathlib.Logic.Function.Basic
import Rekindle.Library.Runs
import Rekindle.Signal.MemorySessions
import Rekindle.Signal.Reference

/-! # Session agreement

Two in-memory managers after a handshake, with the ciphertexts on their way between them. Each
queued ciphertext carries the plaintext it was made from, which only the statements look at.
-/
namespace Rekindle.Signal
set_option autoImplicit false

open ByteWords Fallible MemoryStores SymmetricRatchet

variable {prims : Primitives}

/-! ## The handshake -/

/-- The store holds a private key and the X25519 public key that belongs to it. -/
def MemoryStores.Matching (stores : MemoryStores) (prims : Primitives) : Prop :=
  ∃ secret, privatePrefix stores.identityPrivate = .ok secret ∧
    stores.identityPublic = (prims.x25519Public secret).val

/-- The private halves of a bundle generated in `offered` are still the ones stored. -/
structure PrekeysKept (offered current : MemoryStores) (oneTimePrekeyId : Option UInt32) : Prop where
  identityPrivate : current.identityPrivate = offered.identityPrivate
  signedPrekey : current.signedPrekeys.lookup 1 = offered.signedPrekeys.lookup 1
  oneTimePrekey : ∀ id ∈ oneTimePrekeyId, current.prekeys.lookup id = offered.prekeys.lookup id

theorem key32_val (key : Key) (message : String) : key32 key.val message = .ok key :=
  key32_eq_ok_iff.mpr rfl

variable (prims) in
theorem establishSession_of_bundle (ephemeral : Key) (bobAddress : String) (bundle : PreKeyBundle)
    {alice : MemoryStores} {ourIdentity signedPrekey identity : Key} {otpk : Option Key}
    (hPrivate : privatePrefix alice.identityPrivate = .ok ourIdentity)
    (hSigned : bundle.signedPrekey = signedPrekey.val) (hIdentity : bundle.identityKey = identity.val)
    (hOtpk : bundle.oneTimePrekey = otpk.map (·.val)) :
    (establishSession prims manager ephemeral bobAddress bundle).run alice =
      .ok ⟨(prims.x25519Public ephemeral).val, 1, otpk.map fun _ => 1⟩
        (alice.pin bobAddress (initiatorRatchet
          (initiatorOkm prims ourIdentity ephemeral signedPrekey identity otpk)
          (prims.x25519Public ephemeral) signedPrekey.val) identity.val) := by
  have hKeys : initiatorKeys alice.identityPrivate bundle =
      .ok (ourIdentity, signedPrekey, identity, otpk) := by
    simp only [initiatorKeys, hPrivate, hSigned, hIdentity, hOtpk, key32_val]
    cases otpk with
    | none => rfl
    | some otpk =>
      simp only [Option.map_some, Option.mapM_some, key32_val]
      rfl
  rw [establishSession_run, hKeys]

variable (prims) in
theorem respondToSession_of_stored (aliceAddress : String) (identity ephemeral : Key)
    {bob : MemoryStores} {ourIdentity signedPrekey : Key} {otpk : Option Key}
    {signedPrekeyId : UInt32} {oneTimePrekeyId : Option UInt32}
    (hPrivate : privatePrefix bob.identityPrivate = .ok ourIdentity)
    (hSigned : bob.signedPrekeys.lookup signedPrekeyId = some signedPrekey.val)
    (hOtpk : oneTimePrekeyId.mapM (storedOtpk bob) = .ok otpk) :
    (respondToSession prims manager aliceAddress identity.val ephemeral.val signedPrekeyId
        oneTimePrekeyId).run bob =
      .ok () ((bob.consume oneTimePrekeyId).pin aliceAddress (responderRatchet
        (responderOkm prims ourIdentity signedPrekey identity ephemeral otpk)
        (prims.x25519Public signedPrekey) ephemeral.val) identity.val) := by
  have hKeys : responderKeys bob identity.val ephemeral.val signedPrekeyId oneTimePrekeyId =
      .ok (ourIdentity, signedPrekey, identity, ephemeral, otpk) := by
    simp only [responderKeys, hPrivate, hSigned, hOtpk, key32_val, okOr, Option.elim_some, bind,
      Except.bind]
    rfl
  rw [respondToSession_run, hKeys]

/-! ## Two linked sessions -/

inductive Side where
  | alice
  | bob
  deriving DecidableEq

def Side.other : Side → Side
  | .alice => .bob
  | .bob => .alice

/-- Both ends' stores and the ciphertexts that wait at each end, oldest first. -/
structure Duplex where
  stores : Side → MemoryStores
  inbox : Side → List (Bytes × Bytes)

inductive Call where
  | encrypts (side : Side) (plaintext : Bytes)
  /-- `side` decrypts the oldest ciphertext that waits for it. -/
  | decrypts (side : Side)

section Runs

variable (prims) (address : Side → String)

def Duplex.step (duplex : Duplex) : Call → Duplex
  | .encrypts side plaintext =>
    match (encrypt prims manager (address side.other) plaintext).run (duplex.stores side) with
    | .ok message stores =>
      { stores := Function.update duplex.stores side stores
        inbox := Function.update duplex.inbox side.other
          (duplex.inbox side.other ++ [(message, plaintext)]) }
    | .error _ stores => { duplex with stores := Function.update duplex.stores side stores }
  | .decrypts side =>
    match duplex.inbox side with
    | [] => duplex
    | (message, _) :: rest =>
      let result := (decrypt prims manager (address side.other) message).run (duplex.stores side)
      { stores := Function.update duplex.stores side (Result.state result)
        inbox := Function.update duplex.inbox side rest }

/-- Decrypting the oldest waiting ciphertext gives the plaintext it was made from. -/
def Duplex.Returns (duplex : Duplex) : Call → Prop
  | .encrypts _ _ => True
  | .decrypts side => ∀ message plaintext rest, duplex.inbox side = (message, plaintext) :: rest →
      ∃ stores, (decrypt prims manager (address side.other) message).run (duplex.stores side) =
        .ok plaintext stores

variable {prims}

/-- The two stored sessions, and what is in flight between their chains. -/
structure Duplex.Linked (hDecrypts : prims.DecryptUndoesEncrypt) (duplex : Duplex)
    (ratchet : Side → RatchetState) : Prop where
  stored : ∀ side, storedRatchet (duplex.stores side) (address side.other) = .ok (ratchet side)
  inFlight : ∀ side, InFlight (scheme hDecrypts) (ratchet side).receivingChainKey
    (ratchet side.other).sendingChainKey (duplex.inbox side)

variable {address}

@[simp] theorem Side.other_other (side : Side) : side.other.other = side := by
  cases side <;> rfl

theorem Side.other_ne (side : Side) : side.other ≠ side := by
  cases side <;> decide

theorem Side.eq_or_eq_other (side other : Side) : other = side ∨ other = side.other := by
  cases side <;> cases other <;> decide

theorem Duplex.Linked.encrypts {hDecrypts : prims.DecryptUndoesEncrypt} {duplex : Duplex}
    {ratchet : Side → RatchetState} (h : duplex.Linked address hDecrypts ratchet) (side : Side)
    (plaintext : Bytes) :
    ∃ ratchet', (duplex.step prims address (.encrypts side plaintext)).Linked address hDecrypts ratchet' := by
  have hRun := encrypt_run prims (duplex.stores side) (address side.other) plaintext
  rw [h.stored side] at hRun
  cases hSealed : sealMessage prims (ratchet side).sendingChainKey ((ratchet side).sendCounter + 1)
      plaintext with
  | none =>
    simp only [hSealed] at hRun
    refine ⟨ratchet, ?_⟩
    simpa only [Duplex.step, hRun, Function.update_eq_self] using h
  | some message =>
    simp only [hSealed] at hRun
    refine ⟨Function.update ratchet side ((ratchet side).sent prims), ?_, ?_⟩
    · intro other
      simp only [Duplex.step, hRun]
      rcases side.eq_or_eq_other other with rfl | rfl
      · rw [Function.update_self, Function.update_self]
        exact storedRatchet_advance ((storedRatchet_storable (h.stored other)).sent prims)
      · rw [Function.update_of_ne side.other_ne, Function.update_of_ne side.other_ne]
        exact h.stored side.other
    · intro other
      simp only [Duplex.step, hRun]
      rcases side.eq_or_eq_other other with rfl | rfl
      · rw [Function.update_self, Function.update_of_ne other.other_ne,
          Function.update_of_ne other.other_ne.symm]
        exact h.inFlight other
      · rw [Function.update_of_ne side.other_ne, Function.update_self, Side.other_other,
          Function.update_self]
        have hQueue := h.inFlight side.other
        rw [Side.other_other] at hQueue
        exact hQueue.send ⟨_, hSealed⟩

theorem Duplex.Linked.decrypts {hDecrypts : prims.DecryptUndoesEncrypt} {duplex : Duplex}
    {ratchet : Side → RatchetState} (h : duplex.Linked address hDecrypts ratchet) (side : Side) :
    (∃ ratchet', (duplex.step prims address (.decrypts side)).Linked address hDecrypts ratchet') ∧
      duplex.Returns prims address (.decrypts side) := by
  cases hInbox : duplex.inbox side with
  | nil =>
    constructor
    · refine ⟨ratchet, ?_⟩
      simpa only [Duplex.step, hInbox] using h
    · intro message plaintext rest hQueue
      rw [hInbox] at hQueue
      cases hQueue
  | cons entry rest =>
    obtain ⟨message, plaintext⟩ := entry
    have hQueue := h.inFlight side
    rw [hInbox] at hQueue
    obtain ⟨hOpens, hRest⟩ := hQueue.receive
    have hRun := decrypt_of_open (h.stored side) hOpens
    constructor
    · refine ⟨Function.update ratchet side ((ratchet side).received prims), ?_, ?_⟩
      · intro other
        simp only [Duplex.step, hInbox, hRun, Result.state_ok]
        rcases side.eq_or_eq_other other with rfl | rfl
        · rw [Function.update_self, Function.update_self]
          exact storedRatchet_advance ((storedRatchet_storable (h.stored other)).received prims)
        · rw [Function.update_of_ne side.other_ne, Function.update_of_ne side.other_ne]
          exact h.stored side.other
      · intro other
        simp only [Duplex.step, hInbox, hRun, Result.state_ok]
        rcases side.eq_or_eq_other other with rfl | rfl
        · rw [Function.update_self, Function.update_self, Function.update_of_ne other.other_ne]
          exact hRest
        · rw [Function.update_of_ne side.other_ne, Side.other_other, Function.update_self,
            Function.update_of_ne side.other_ne]
          have hOther := h.inFlight side.other
          rwa [Side.other_other] at hOther
    · intro message' plaintext' rest' hInbox'
      rw [hInbox] at hInbox'
      cases hInbox'
      exact ⟨_, hRun⟩

/-- Every call keeps the sessions linked, and every decryption returns its plaintext. -/
theorem Duplex.Linked.run {hDecrypts : prims.DecryptUndoesEncrypt} {duplex : Duplex}
    {ratchet : Side → RatchetState} (h : duplex.Linked address hDecrypts ratchet) (calls : List Call) :
    Runs.Along (Duplex.step prims address) (Duplex.Returns prims address) duplex calls := by
  refine (Runs.Along.of_invariant (P := fun _ _ => True)
    (fun duplex => ∃ ratchet, duplex.Linked address hDecrypts ratchet) ?_ ⟨ratchet, h⟩
    (Runs.Along.of_forall (fun _ _ => trivial) _ _)).1
  rintro duplex call ⟨ratchet, hLinked⟩ -
  cases call with
  | encrypts side plaintext => exact ⟨hLinked.encrypts side plaintext, trivial⟩
  | decrypts side => exact hLinked.decrypts side

end Runs

/-- Both ends' stores right after a handshake, nothing in flight. -/
def Duplex.start (alice bob : MemoryStores) : Duplex where
  stores
    | .alice => alice
    | .bob => bob
  inbox _ := []

def addresses (aliceAddress bobAddress : String) : Side → String
  | .alice => aliceAddress
  | .bob => bobAddress

/-- Two sessions hold crossed chain keys. -/
def Crossed (ours theirs : RatchetState) : Prop :=
  ours.sendingChainKey = theirs.receivingChainKey ∧ ours.receivingChainKey = theirs.sendingChainKey

theorem Duplex.start_linked (hDecrypts : prims.DecryptUndoesEncrypt) {alice bob : MemoryStores}
    {aliceAddress bobAddress : String} {ours theirs : RatchetState}
    (hAlice : storedRatchet alice bobAddress = .ok ours)
    (hBob : storedRatchet bob aliceAddress = .ok theirs) (hCrossed : Crossed ours theirs) :
    (Duplex.start alice bob).Linked (addresses aliceAddress bobAddress) hDecrypts
      (fun | .alice => ours | .bob => theirs) where
  stored
    | .alice => hAlice
    | .bob => hBob
  inFlight
    | .alice => by
      change InFlight _ ours.receivingChainKey theirs.sendingChainKey []
      rw [hCrossed.2]
      exact .empty _
    | .bob => by
      change InFlight _ theirs.receivingChainKey ours.sendingChainKey []
      rw [hCrossed.1]
      exact .empty _

theorem crossed_ratchets (okm : Window UInt8 96) (ephemeralPublic signedPrekeyPublic : Key)
    (theirSignedPrekey theirEphemeral : Bytes) :
    Crossed (initiatorRatchet okm ephemeralPublic theirSignedPrekey)
      (responderRatchet okm signedPrekeyPublic theirEphemeral) := ⟨rfl, rfl⟩

theorem mapM_storedOtpk {bob : MemoryStores} {otpk : Key} {oneTimePrekeyId : Option UInt32}
    (h : ∀ id ∈ oneTimePrekeyId, bob.prekeys.lookup id = some otpk.val) :
    oneTimePrekeyId.mapM (storedOtpk bob) = .ok (oneTimePrekeyId.map fun _ => otpk) := by
  cases oneTimePrekeyId with
  | none => rfl
  | some id =>
    simp only [Option.mapM_some, storedOtpk, h id rfl, okOr, Option.elim_some, bind, Except.bind,
      key32_val]
    rfl

/-- A handshake succeeds at both ends with crossed chain keys, and from then on every
interleaving of calls decrypts every ciphertext to its plaintext. -/
theorem session_agreement (hCommutes : prims.Commutes) (hDecrypts : prims.DecryptUndoesEncrypt)
    (aliceAddress bobAddress : String) (alice bob bob' offered : MemoryStores)
    (hAlice : alice.Matching prims) (hBob : bob.Matching prims)
    (signedPrekey otpk ephemeral : Key) (oneTimePrekeyId : Option UInt32)
    (hIds : oneTimePrekeyId = none ∨ oneTimePrekeyId = some 1) (bundle : PreKeyBundle)
    (hOffer : (generatePrekeyBundle prims manager signedPrekey otpk 1 oneTimePrekeyId).run bob =
      .ok bundle offered)
    (hKept : PrekeysKept offered bob' oneTimePrekeyId) :
    ∃ info established responded ours theirs,
      (establishSession prims manager ephemeral bobAddress bundle).run alice = .ok info established ∧
      (respondToSession prims manager aliceAddress alice.identityPublic info.ephemeralPublicKey
        info.signedPrekeyId info.oneTimePrekeyId).run bob' = .ok () responded ∧
      storedRatchet established bobAddress = .ok ours ∧
      storedRatchet responded aliceAddress = .ok theirs ∧ Crossed ours theirs ∧
      ∀ calls, Runs.Along (Duplex.step prims (addresses aliceAddress bobAddress))
        (Duplex.Returns prims (addresses aliceAddress bobAddress))
        (Duplex.start established responded) calls := by
  obtain ⟨a, hAlicePrivate, hAlicePublic⟩ := hAlice
  obtain ⟨b, hBobPrivate, hBobPublic⟩ := hBob
  rw [generatePrekeyBundle_run, hBobPrivate] at hOffer
  cases hOffer
  generalize hSecrets : (oneTimePrekeyId.map fun _ => otpk) = otpkSecret
  have hInfo : ((otpkSecret.map prims.x25519Public).map fun _ => (1 : UInt32)) = oneTimePrekeyId := by
    subst hSecrets
    rcases hIds with rfl | rfl <;> rfl
  have hBundleOtpk : (oneTimePrekeyId.map fun _ => (prims.x25519Public otpk).val) =
      (otpkSecret.map prims.x25519Public).map (·.val) := by
    subst hSecrets
    rcases hIds with rfl | rfl <;> rfl
  have hEstablished := establishSession_of_bundle prims ephemeral bobAddress
    (offeredBundle prims bob b signedPrekey otpk oneTimePrekeyId) hAlicePrivate rfl hBobPublic hBundleOtpk
  have hSigned : bob'.signedPrekeys.lookup 1 = some signedPrekey.val := by
    rw [hKept.signedPrekey]
    exact Finmap.lookup_insert _
  have hOtpk : ∀ id ∈ oneTimePrekeyId, bob'.prekeys.lookup id = some otpk.val := by
    intro id hId
    rw [hKept.oneTimePrekey id hId]
    cases hId
    exact Finmap.lookup_insert _
  have hResponded := respondToSession_of_stored prims aliceAddress (prims.x25519Public a)
    (prims.x25519Public ephemeral) (hKept.identityPrivate.symm ▸ hBobPrivate) hSigned (mapM_storedOtpk hOtpk)
  rw [hSecrets, ← initiatorOkm_eq_responderOkm hCommutes] at hResponded
  rw [hInfo] at hEstablished
  generalize initiatorOkm prims a ephemeral _ _ _ = okm at hEstablished hResponded
  have hOurs := initiatorRatchet_storable okm (prims.x25519Public ephemeral)
    (prims.x25519Public signedPrekey)
  have hTheirs := responderRatchet_storable okm (prims.x25519Public signedPrekey)
    (prims.x25519Public ephemeral)
  have hCrossed := crossed_ratchets okm (prims.x25519Public ephemeral)
    (prims.x25519Public signedPrekey) (prims.x25519Public signedPrekey).val
    (prims.x25519Public ephemeral).val
  refine ⟨_, _, _, _, _, hEstablished, hAlicePublic ▸ hResponded, storedRatchet_pin hOurs,
    storedRatchet_pin hTheirs, hCrossed, fun calls => ?_⟩
  exact (Duplex.start_linked hDecrypts (storedRatchet_pin hOurs) (storedRatchet_pin hTheirs)
    hCrossed).run calls

theorem Reference.user_matching (seed : UInt8) :
    (Reference.user seed).Matching Reference.primitives := ⟨_, Reference.user_private seed, rfl⟩

theorem session_agreement_reference :
    ∃ info established responded ours theirs,
      (establishSession Reference.primitives manager (Reference.sampleKey 5) "bob"
        (offeredBundle Reference.primitives (Reference.user 2) (Reference.sampleKey 2)
          (Reference.sampleKey 3) (Reference.sampleKey 4) (some 1))).run (Reference.user 1) =
        .ok info established ∧
      (respondToSession Reference.primitives manager "alice" (Reference.user 1).identityPublic
        info.ephemeralPublicKey info.signedPrekeyId info.oneTimePrekeyId).run
          ((Reference.user 2).offer (Reference.sampleKey 3) (Reference.sampleKey 4) 1 (some 1)) =
        .ok () responded ∧
      storedRatchet established "bob" = .ok ours ∧ storedRatchet responded "alice" = .ok theirs ∧
      Crossed ours theirs ∧
      ∀ calls, Runs.Along (Duplex.step Reference.primitives (addresses "alice" "bob"))
        (Duplex.Returns Reference.primitives (addresses "alice" "bob"))
        (Duplex.start established responded) calls :=
  session_agreement Reference.commutes Reference.decryptUndoesEncrypt "alice" "bob" _ _ _ _
    (Reference.user_matching 1) (Reference.user_matching 2) _ _ (Reference.sampleKey 5) _
    (Or.inr rfl) _ (Reference.user_offers 2 _ _ _) ⟨rfl, rfl, fun _ _ => rfl⟩

end Rekindle.Signal
