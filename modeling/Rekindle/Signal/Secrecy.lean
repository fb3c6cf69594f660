import Rekindle.Signal.SymbolicSessions

/-! # What a compromise reveals

The message keys of a session form two chains that start from the handshake. The stores hold the
current key of each chain and nothing older.
-/
namespace Rekindle.Signal
set_option autoImplicit false

open Symbolic

/-! ## The chains of a run -/

/-- The key that the side's first message key is derived from. -/
def seed (input : Term) : Side → Term
  | .alice => x3dhBlock 1 input
  | .bob => x3dhBlock 2 input

def chainKeyTerm (input : Term) (side : Side) (index : Nat) : Term :=
  Term.chain chainKeyLabel (seed input side) index

def SealedUnder (key message : Term) : Prop :=
  ∃ header nonce plaintext, message = .pair (.data header) (.encrypted key nonce (.data plaintext))

/-- Where both ends stand on the two chains, over the stores that the handshake left. -/
structure Traffic.Follows (address : Side → String) (base : Side → SymbolicStores) (input : Term)
    (ours theirs : Side → Term) (traffic : Traffic) : Prop where
  stored : ∀ side, ∃ ratchet, traffic.stores side = (base side).advance (address side.other) ratchet ∧
    ratchet.keys = [x3dhBlock 0 input, chainKeyTerm input side (traffic.sent side).length,
      chainKeyTerm input side.other (traffic.opened side).length, ours side, theirs side]
  sealedUnder : ∀ side index message, (traffic.sent side)[index]? = some message →
    SealedUnder (messageKeyTerm (chainKeyTerm input side index)) message
  opened : ∀ side, traffic.opened side <+: traffic.sent side.other

theorem SymbolicStores.advance_advance (stores : SymbolicStores) (address : String)
    (ratchet ratchet' : SymbolicRatchet) :
    (stores.advance address ratchet).advance address ratchet' = stores.advance address ratchet' := by
  unfold SymbolicStores.advance
  dsimp only
  rw [Function.update_idem]

theorem SymbolicStores.advance_sessions (stores : SymbolicStores) (address : String)
    (ratchet : SymbolicRatchet) : (stores.advance address ratchet).sessions address = some ratchet :=
  Function.update_self _ _ _

theorem SymbolicStores.advance_sessions_of_ne (stores : SymbolicStores) {address other : String}
    (ratchet : SymbolicRatchet) (h : other ≠ address) :
    (stores.advance address ratchet).sessions other = stores.sessions other :=
  Function.update_of_ne h _ _

theorem SymbolicStores.trust_trusted (stores : SymbolicStores) (address other : String)
    (identityKey : Term) : (stores.trust address identityKey).trusted other =
      if other = address then some identityKey else stores.trusted other :=
  Function.update_apply _ _ _ _

theorem openTerm_eq_some {key message : Term} {plaintext : Bytes}
    (h : SymbolicStores.openTerm key message = some plaintext) : SealedUnder key message := by
  unfold SymbolicStores.openTerm at h
  split at h
  · rename_i header key' nonce text
    split at h
    · rename_i hSame
      exact ⟨header, nonce, text, by rw [hSame.1]⟩
    · cases h
  · cases h

theorem SealedUnder.key_inj {key key' message : Term} (h : SealedUnder key message)
    (h' : SealedUnder key' message) : key = key' := by
  obtain ⟨header, nonce, plaintext, rfl⟩ := h
  obtain ⟨header', nonce', plaintext', hMessage⟩ := h'
  cases hMessage
  rfl

theorem prefix_concat_of_get {α : Type} {opened sent : List α} (h : opened <+: sent) {message : α}
    (hMessage : sent[opened.length]? = some message) : opened ++ [message] <+: sent := by
  obtain ⟨rest, rfl⟩ := h
  rw [List.getElem?_append_right le_rfl, Nat.sub_self] at hMessage
  cases rest with
  | nil => cases hMessage
  | cons first rest =>
    cases hMessage
    exact ⟨rest, by rw [List.append_assoc, List.singleton_append]⟩

theorem get_concat {α : Type} {entries : List α} {last entry : α} {index : Nat}
    (h : (entries ++ [last])[index]? = some entry) :
    entries[index]? = some entry ∨ (index = entries.length ∧ entry = last) := by
  rcases Nat.lt_or_ge index entries.length with hIndex | hIndex
  · left
    rwa [List.getElem?_append_left hIndex] at h
  · right
    rw [List.getElem?_append_right hIndex, List.getElem?_singleton] at h
    split at h
    · exact ⟨by omega, (Option.some_inj.mp h).symm⟩
    · cases h

namespace Traffic.Follows

variable {address : Side → String} {base : Side → SymbolicStores} {input : Term}
  {ours theirs : Side → Term} {traffic : Traffic}

theorem encrypts (h : traffic.Follows address base input ours theirs) (side : Side) (plaintext : Bytes) :
    (traffic.step address (.encrypts side plaintext)).Follows address base input ours theirs := by
  obtain ⟨ratchet, hStores, hKeys⟩ := h.stored side
  simp only [SymbolicRatchet.keys, List.cons.injEq, and_true] at hKeys
  obtain ⟨hRoot, hSending, hReceiving, hOurs, hTheirs⟩ := hKeys
  have hEncrypted : (traffic.stores side).encrypt (address side.other) plaintext =
      some (ratchet.message plaintext, (base side).advance (address side.other) ratchet.sent) := by
    rw [hStores, SymbolicStores.encrypt, SymbolicStores.advance_sessions, Option.map_some,
      SymbolicStores.advance_advance]
  simp only [Traffic.step, hEncrypted]
  constructor
  · intro other
    dsimp only
    by_cases hOther : other = side
    · subst hOther
      refine ⟨ratchet.sent, Function.update_self _ _ _, ?_⟩
      rw [Function.update_self, List.length_append, List.length_singleton]
      simp only [SymbolicRatchet.keys, SymbolicRatchet.sent, hRoot, hSending, hReceiving, hOurs,
        hTheirs, chainKeyTerm, Term.chain_succ]
    · rw [Function.update_of_ne hOther, Function.update_of_ne hOther]
      exact h.stored other
  · intro other index message hMessage
    dsimp only at hMessage
    by_cases hOther : other = side
    · subst hOther
      rw [Function.update_self] at hMessage
      rcases get_concat hMessage with hOld | ⟨rfl, rfl⟩
      · exact h.sealedUnder other index message hOld
      · exact ⟨_, _, plaintext, by rw [SymbolicRatchet.message, hSending]⟩
    · rw [Function.update_of_ne hOther] at hMessage
      exact h.sealedUnder other index message hMessage
  · intro other
    dsimp only
    by_cases hOther : other.other = side
    · rw [hOther, Function.update_self, ← hOther]
      exact (h.opened other).trans (List.prefix_append _ _)
    · rw [Function.update_of_ne hOther]
      exact h.opened other

/-- A delivered message opens only where it is the next one of its chain. -/
theorem next_of_opens (h : traffic.Follows address base input ours theirs) {side : Side} {index : Nat}
    {message : Term} {plaintext : Bytes} (hMessage : (traffic.sent side.other)[index]? = some message)
    (hOpens : SymbolicStores.openTerm (messageKeyTerm
      (chainKeyTerm input side.other (traffic.opened side).length)) message = some plaintext) :
    index = (traffic.opened side).length := by
  have hKeys := (h.sealedUnder side.other index message hMessage).key_inj (openTerm_eq_some hOpens)
  exact Term.chain_inj.mp (Term.derived.inj hKeys).2

theorem decrypts (h : traffic.Follows address base input ours theirs) (side : Side) (index : Nat) :
    (traffic.step address (.decrypts side index)).Follows address base input ours theirs := by
  obtain ⟨ratchet, hStores, hKeys⟩ := h.stored side
  simp only [SymbolicRatchet.keys, List.cons.injEq, and_true] at hKeys
  obtain ⟨hRoot, hSending, hReceiving, hOurs, hTheirs⟩ := hKeys
  unfold Traffic.step
  dsimp only
  cases hMessage : (traffic.sent side.other)[index]? with
  | none => exact h
  | some message =>
    have hDecrypted : (traffic.stores side).decrypt (address side.other) message =
        (SymbolicStores.openTerm (messageKeyTerm ratchet.receivingChainKey) message).map fun plaintext =>
          (plaintext, (base side).advance (address side.other) ratchet.received) := by
      rw [hStores, SymbolicStores.decrypt, SymbolicStores.advance_sessions]
      dsimp only [bind, Option.bind]
      cases SymbolicStores.openTerm (messageKeyTerm ratchet.receivingChainKey) message with
      | none => rfl
      | some plaintext =>
        dsimp only [pure, Option.map]
        rw [SymbolicStores.advance_advance]
    dsimp only
    rw [hDecrypted, hReceiving]
    cases hOpens : SymbolicStores.openTerm (messageKeyTerm
      (chainKeyTerm input side.other (traffic.opened side).length)) message with
    | none => exact h
    | some plaintext =>
      obtain rfl := h.next_of_opens hMessage hOpens
      dsimp only [Option.map]
      constructor
      · intro other
        dsimp only
        by_cases hOther : other = side
        · subst hOther
          refine ⟨ratchet.received, Function.update_self _ _ _, ?_⟩
          rw [Function.update_self, List.length_append, List.length_singleton]
          simp only [SymbolicRatchet.keys, SymbolicRatchet.received, hRoot, hSending, hReceiving, hOurs,
            hTheirs, chainKeyTerm, Term.chain_succ]
        · rw [Function.update_of_ne hOther, Function.update_of_ne hOther]
          exact h.stored other
      · exact h.sealedUnder
      · intro other
        dsimp only
        by_cases hOther : other = side
        · subst hOther
          rw [Function.update_self]
          exact prefix_concat_of_get (h.opened other) hMessage
        · rw [Function.update_of_ne hOther]
          exact h.opened other

theorem step (h : traffic.Follows address base input ours theirs) (transfer : Transfer) :
    (traffic.step address transfer).Follows address base input ours theirs := by
  cases transfer with
  | encrypts side plaintext => exact h.encrypts side plaintext
  | decrypts side index => exact h.decrypts side index

theorem run (h : traffic.Follows address base input ours theirs) (transfers : List Transfer) :
    (Runs.final (Traffic.step address) traffic transfers).Follows address base input ours theirs := by
  induction transfers generalizing traffic with
  | nil => exact h
  | cons transfer transfers ih => exact ih (h.step transfer)

end Traffic.Follows

/-! ## The handshake -/

/-- The peer holds the numbered private key as its identity. -/
def SymbolicStores.Owns (stores : SymbolicStores) (identity : Nat) : Prop :=
  stores.identityPrivate = .scalar identity ∧ stores.identityPublic = .point {identity}

/-- A bundle with a one-time prekey, as its owner signs it. -/
def offeredTerms (identity signedPrekey otpk : Nat) : SymbolicBundle where
  identityKey := .point {identity}
  signedPrekey := .point {signedPrekey}
  signedPrekeySignature := .signed (.scalar identity) (.point {signedPrekey})
  oneTimePrekey := some (.point {otpk})

/-- What both ends put into HKDF. -/
def handshakeInput (alice bob ephemeral signedPrekey otpk : Nat) : Term :=
  x3dhInput (.point {alice, signedPrekey}) (.point {ephemeral, bob}) (.point {ephemeral, signedPrekey})
    (some (.point {ephemeral, otpk}))

theorem establish_of_owns {stores : SymbolicStores} {alice bob signedPrekey otpk : Nat}
    (h : stores.Owns alice) (ephemeral : Nat) (address : String) :
    ∃ ratchet, stores.establish ephemeral address (offeredTerms bob signedPrekey otpk) =
        some (⟨.point {ephemeral}, 1, some 1⟩, stores.pin address ratchet (.point {bob})) ∧
      ratchet.keys = [x3dhBlock 0 (handshakeInput alice bob ephemeral signedPrekey otpk),
        x3dhBlock 1 (handshakeInput alice bob ephemeral signedPrekey otpk),
        x3dhBlock 2 (handshakeInput alice bob ephemeral signedPrekey otpk),
        .point {ephemeral}, .point {signedPrekey}] := by
  unfold SymbolicStores.establish
  rw [h.1]
  exact ⟨_, rfl, rfl⟩

theorem respond_of_owns {stores : SymbolicStores} {bob signedPrekey otpk : Nat}
    (h : stores.Owns bob) (alice ephemeral : Nat) (address : String)
    (hSigned : stores.signedPrekeys 1 = some (.scalar signedPrekey))
    (hOtpk : stores.prekeys 1 = some (.scalar otpk)) :
    ∃ ratchet, stores.respond address (.point {alice}) (.point {ephemeral}) 1 (some 1) =
        some ((stores.consume (some 1)).pin address ratchet (.point {alice})) ∧
      ratchet.keys = [x3dhBlock 0 (handshakeInput alice bob ephemeral signedPrekey otpk),
        x3dhBlock 2 (handshakeInput alice bob ephemeral signedPrekey otpk),
        x3dhBlock 1 (handshakeInput alice bob ephemeral signedPrekey otpk),
        .point {signedPrekey}, .point {ephemeral}] := by
  have hSwap : ∀ first second : Nat, first ::ₘ {second} = second ::ₘ {first} :=
    fun first second => Multiset.cons_swap first second 0
  unfold SymbolicStores.respond
  rw [h.1, hSigned]
  simp only [Option.mapM_some, hOtpk, exchange, bind, Option.bind, pure, hSwap signedPrekey alice,
    hSwap bob ephemeral, hSwap signedPrekey ephemeral, hSwap otpk ephemeral]
  exact ⟨_, rfl, rfl⟩

namespace SymbolicStores.Holds

variable {stores : SymbolicStores} {term : Term}

theorem of_advance {address : String} {ratchet : SymbolicRatchet}
    (h : (stores.advance address ratchet).Holds term) : term ∈ ratchet.keys ∨ stores.Holds term := by
  cases h with
  | identityPrivate => exact Or.inr .identityPrivate
  | identityPublic => exact Or.inr .identityPublic
  | trusted h => exact Or.inr (.trusted h)
  | prekey h => exact Or.inr (.prekey h)
  | signedPrekey h => exact Or.inr (.signedPrekey h)
  | @session other _ _ h hKey =>
    by_cases hOther : other = address
    · subst hOther
      rw [advance_sessions] at h
      cases h
      exact Or.inl hKey
    · rw [advance_sessions_of_ne _ _ hOther] at h
      exact Or.inr (.session h hKey)

theorem of_trust {address : String} {identityKey : Term}
    (h : (stores.trust address identityKey).Holds term) : term = identityKey ∨ stores.Holds term := by
  cases h with
  | identityPrivate => exact Or.inr .identityPrivate
  | identityPublic => exact Or.inr .identityPublic
  | trusted h =>
    rw [trust_trusted] at h
    split at h
    · exact Or.inl (Option.some_inj.mp h).symm
    · exact Or.inr (.trusted h)
  | prekey h => exact Or.inr (.prekey h)
  | signedPrekey h => exact Or.inr (.signedPrekey h)
  | session h hKey => exact Or.inr (.session h hKey)

end SymbolicStores.Holds

/-! ## Forward secrecy -/

/-- What both ends let the network see of the handshake. -/
def handshakeTerms (alice bob ephemeral signedPrekey otpk : Nat) : Set Term :=
  {.point {alice}, .point {bob}, .point {signedPrekey}, .signed (.scalar bob) (.point {signedPrekey}),
    .point {otpk}, .point {ephemeral}}

/-- All ciphertexts, and the complete stores of both ends. -/
def Traffic.revealed (traffic : Traffic) : Set Term :=
  {term | ∃ side, term ∈ traffic.sent side ∨ (traffic.stores side).Holds term}

/-- The keys of the session that are in the stores. -/
def Traffic.leaked (traffic : Traffic) (input : Term) : Set Term :=
  {term | term = x3dhBlock 0 input ∨
    ∃ side : Side, term = chainKeyTerm input side.other (traffic.opened side).length}

theorem chainKeyTerm_ne_root (input : Term) (side : Side) (index : Nat) :
    chainKeyTerm input side index ≠ x3dhBlock 0 input := by
  unfold chainKeyTerm
  cases index with
  | zero => cases side <;> simp [seed, x3dhBlock]
  | succ index =>
    rw [Term.chain_succ]
    simp [chainKeyLabel, x3dhBlock]

theorem seed_ne (input : Term) (side : Side) : seed input side ≠ seed input side.other := by
  cases side <;> simp [seed, x3dhBlock, Side.other]

theorem height_seed (input : Term) (side : Side) : (seed input side).height = input.height + 1 := by
  cases side <;> rfl

theorem messageKeyTerm_ne (input chainKey : Term) (side : Side) (index : Nat) :
    messageKeyTerm chainKey ≠ chainKeyTerm input side index := by
  have hInfo : messageKeyInfo ≠ chainKeyInfo := by decide +kernel
  unfold chainKeyTerm
  cases index with
  | zero => cases side <;> simp [seed, x3dhBlock, messageKeyTerm]
  | succ index =>
    rw [Term.chain_succ]
    simp [chainKeyLabel, messageKeyTerm, hInfo]

theorem chainKeyTerm_inj {input : Term} {side side' : Side} {index index' : Nat}
    (h : chainKeyTerm input side index = chainKeyTerm input side' index') :
    side = side' ∧ index = index' := by
  rcases side.eq_or_eq_other side' with rfl | rfl
  · exact ⟨rfl, Term.chain_inj.mp h⟩
  · refine absurd h (Term.chain_ne_of_start_ne ?_ (seed_ne input side) _ _)
    rw [height_seed, height_seed]

section Visibility

variable {hidden : Finset Nat} {alice bob ephemeral signedPrekey otpk : Nat} {traffic : Traffic}
  {address : Side → String} {base : Side → SymbolicStores} {input : Term} {ours theirs : Side → Term}

theorem visible_of_leaked {leaked : Set Term} {label : Derivation} {source term : Term}
    (hTerm : term = .derived label source) (h : term ∈ leaked) : Visible hidden leaked term := by
  subst hTerm
  exact Or.inr h

theorem chainKeyTerm_derived (input : Term) (side : Side) (index : Nat) :
    ∃ label source, chainKeyTerm input side index = .derived label source := by
  cases index with
  | zero => cases side <;> exact ⟨_, _, rfl⟩
  | succ index => exact ⟨_, _, Term.chain_succ _ _⟩

variable (hidden) in
/-- A sender's chain has moved at least as far as its receiver's. -/
theorem Traffic.Follows.visible_chainKey (h : traffic.Follows address base input ours theirs)
    (side : Side) (ahead : Nat) : Visible hidden (traffic.leaked input)
      (chainKeyTerm input side.other ((traffic.opened side).length + ahead)) := by
  have hLeaked : Visible hidden (traffic.leaked input)
      (chainKeyTerm input side.other (traffic.opened side).length) := by
    obtain ⟨label, source, hDerived⟩ := chainKeyTerm_derived input side.other (traffic.opened side).length
    exact visible_of_leaked hDerived (Or.inr ⟨side, rfl⟩)
  have hAhead := hLeaked.chain chainKeyLabel ahead
  rwa [chainKeyTerm, Term.chain_add] at hAhead

theorem not_leaked_of_lt {side : Side} {index : Nat} (hIndex : index < (traffic.opened side).length) :
    chainKeyTerm input side.other index ∉ traffic.leaked input := by
  rintro (hRoot | ⟨side', hChain⟩)
  · exact chainKeyTerm_ne_root _ _ _ hRoot
  · obtain ⟨hSide, rfl⟩ := chainKeyTerm_inj hChain
    have hSame : side = side' := by rw [← side.other_other, hSide, Side.other_other]
    subst hSame
    exact absurd hIndex (lt_irrefl _)

/-- The key of a decrypted message lies behind what the stores still hold. -/
theorem Traffic.Follows.not_visible_messageKey (h : traffic.Follows address base input ours theirs)
    (hInput : ¬ Visible hidden (traffic.leaked input) input) {side : Side} {message key : Term}
    (hOpened : message ∈ traffic.opened side) (hKey : SealedUnder key message) :
    ¬ Visible hidden (traffic.leaked input) key := by
  obtain ⟨index, hIndex, hGet⟩ := List.getElem_of_mem hOpened
  have hSent : (traffic.sent side.other)[index]? = some message := by
    obtain ⟨rest, hRest⟩ := h.opened side
    rw [← hRest, List.getElem?_append_left hIndex, List.getElem?_eq_getElem hIndex, hGet]
  obtain rfl := hKey.key_inj (h.sealedUnder side.other index message hSent)
  rintro (hChain | hRoot | ⟨side', hLeaked⟩)
  · refine not_visible_chain ?_ ?_ hChain
    · intro hSeed
      have hFirst : chainKeyTerm input side.other 0 ∉ traffic.leaked input :=
        not_leaked_of_lt (Nat.zero_lt_of_lt hIndex)
      change seed input side.other ∉ _ at hFirst
      cases side with
      | alice => exact hSeed.elim hInput hFirst
      | bob => exact hSeed.elim hInput hFirst
    · exact fun i hi => not_leaked_of_lt (hi.trans_lt hIndex)
  · have hInfo : messageKeyInfo ≠ x3dhInfo := by decide +kernel
    exact hInfo (congrArg Derivation.info (Term.derived.inj hRoot).1)
  · exact messageKeyTerm_ne _ _ _ _ hLeaked

theorem not_visible_handshakeInput {leaked : Set Term} :
    ¬ Visible {ephemeral, otpk} leaked (handshakeInput alice bob ephemeral signedPrekey otpk) := by
  rintro ⟨_, hShared⟩
  exact not_visible_shared (by simp) (by simp) hShared

theorem visible_point (leaked : Set Term) (secret : Nat) : Visible hidden leaked (.point {secret} : Term) :=
  (Multiset.countP_le_card _ _).trans (Multiset.card_singleton secret).le

theorem visible_signed {leaked : Set Term} {key message : Term} (h : Visible hidden leaked message) :
    Visible hidden leaked (.signed key message) := h

/-- Of what the run reveals, only keys of the session are not visible from the start. -/
theorem Traffic.Follows.visible_revealed (h : traffic.Follows address base input ours theirs)
    (hBase : ∀ side term, (base side).Holds term → Visible hidden (traffic.leaked input) term)
    (hOurs : ∀ side, Visible hidden (traffic.leaked input) (ours side))
    (hTheirs : ∀ side, Visible hidden (traffic.leaked input) (theirs side)) {term : Term}
    (hTerm : term ∈ traffic.revealed) : Visible hidden (traffic.leaked input) term := by
  obtain ⟨side, hSent | hHolds⟩ := hTerm
  · obtain ⟨index, hIndex⟩ := List.mem_iff_getElem?.mp hSent
    obtain ⟨header, nonce, plaintext, rfl⟩ := h.sealedUnder side index term hIndex
    exact ⟨trivial, fun _ => trivial⟩
  · obtain ⟨ratchet, hStores, hKeys⟩ := h.stored side
    rw [hStores] at hHolds
    rcases hHolds.of_advance with hKey | hHolds
    · have hBehind : (traffic.opened side.other).length ≤ (traffic.sent side).length := by
        have hPrefix := (h.opened side.other).length_le
        rwa [Side.other_other] at hPrefix
      have hSending := h.visible_chainKey hidden side.other
        ((traffic.sent side).length - (traffic.opened side.other).length)
      rw [Side.other_other, Nat.add_sub_cancel' hBehind] at hSending
      have hReceiving := h.visible_chainKey hidden side 0
      rw [hKeys] at hKey
      simp only [List.mem_cons, List.not_mem_nil, or_false] at hKey
      rcases hKey with rfl | rfl | rfl | rfl | rfl
      · exact visible_of_leaked rfl (Or.inl rfl)
      · exact hSending
      · exact hReceiving
      · exact hOurs side
      · exact hTheirs side
    · exact hBase side term hHolds

end Visibility

/-- Whoever has seen a handshake with a one-time prekey and all that was sent since, and then all
that both ends store, cannot derive the key of any message that was decrypted before. -/
theorem forward_secrecy {alice bob alice' bob' : SymbolicStores} {init : SymbolicInit}
    {aliceSecret bobSecret ephemeral signedPrekey otpk : Nat} (aliceAddress bobAddress : String)
    (known : Set Term) (hAlice : alice.Owns aliceSecret) (hBob : bob.Owns bobSecret)
    (hSigned : bob.signedPrekeys 1 = some (.scalar signedPrekey))
    (hOtpk : bob.prekeys 1 = some (.scalar otpk))
    (hFresh : ∀ term, term ∈ known ∨ alice.Holds term ∨ (bob.consume (some 1)).Holds term →
      Avoids {ephemeral, otpk} term)
    (hEstablished : alice.establish ephemeral bobAddress (offeredTerms bobSecret signedPrekey otpk) =
      some (init, alice'))
    (hResponded : bob.respond aliceAddress alice.identityPublic init.ephemeralPublicKey
      init.signedPrekeyId init.oneTimePrekeyId = some bob')
    (transfers : List Transfer) {side : Side} {message key : Term}
    (hOpened : message ∈ (Runs.final (Traffic.step (addresses aliceAddress bobAddress))
      (Traffic.start alice' bob') transfers).opened side) (hKey : SealedUnder key message) :
    ¬ Derives (known ∪ handshakeTerms aliceSecret bobSecret ephemeral signedPrekey otpk ∪
      (Runs.final (Traffic.step (addresses aliceAddress bobAddress)) (Traffic.start alice' bob')
        transfers).revealed) key := by
  obtain ⟨ratchet, hAliceRun, hAliceKeys⟩ := establish_of_owns hAlice ephemeral bobAddress
  rw [hAliceRun] at hEstablished
  cases hEstablished
  obtain ⟨ratchet', hBobRun, hBobKeys⟩ := respond_of_owns hBob aliceSecret
    ephemeral aliceAddress hSigned hOtpk
  rw [hAlice.2, hBobRun] at hResponded
  cases hResponded
  have hStart : (Traffic.start (alice.pin bobAddress ratchet (.point {bobSecret}))
      ((bob.consume (some 1)).pin aliceAddress ratchet' (.point {aliceSecret}))).Follows
      (addresses aliceAddress bobAddress)
      (fun | .alice => alice.trust bobAddress (.point {bobSecret})
           | .bob => (bob.consume (some 1)).trust aliceAddress (.point {aliceSecret}))
      (handshakeInput aliceSecret bobSecret ephemeral signedPrekey otpk)
      (fun | .alice => .point {ephemeral} | .bob => .point {signedPrekey})
      (fun | .alice => .point {signedPrekey} | .bob => .point {ephemeral}) := by
    refine ⟨fun side => ?_, fun side index message hMessage => ?_, fun side => List.nil_prefix⟩
    · cases side with
      | alice => exact ⟨ratchet, rfl, hAliceKeys⟩
      | bob => exact ⟨ratchet', rfl, hBobKeys⟩
    · cases hMessage
  have hFinal := hStart.run transfers
  intro hDerives
  refine hFinal.not_visible_messageKey not_visible_handshakeInput hOpened hKey (hDerives.visible ?_)
  rintro term ((hKnown | hHandshake) | hRevealed)
  · exact (hFresh term (Or.inl hKnown)).visible
  · simp only [handshakeTerms, Set.mem_insert_iff, Set.mem_singleton_iff] at hHandshake
    rcases hHandshake with rfl | rfl | rfl | rfl | rfl | rfl
    · exact visible_point _ aliceSecret
    · exact visible_point _ bobSecret
    · exact visible_point _ signedPrekey
    · exact visible_signed (visible_point _ signedPrekey)
    · exact visible_point _ otpk
    · exact visible_point _ ephemeral
  · refine hFinal.visible_revealed (fun side term hHolds => ?_) (fun side => ?_) (fun side => ?_) hRevealed
    · cases side with
      | alice =>
        rcases hHolds.of_trust with rfl | hHolds
        · exact visible_point _ _
        · exact (hFresh term (Or.inr (Or.inl hHolds))).visible
      | bob =>
        rcases hHolds.of_trust with rfl | hHolds
        · exact visible_point _ _
        · exact (hFresh term (Or.inr (Or.inr hHolds))).visible
    · cases side <;> exact visible_point _ _
    · cases side <;> exact visible_point _ _

/-! ## After a compromise -/

/-- The session states that both ends store. -/
def Traffic.sessionKeys (address : Side → String) (traffic : Traffic) : Set Term :=
  {term | ∃ side ratchet, (traffic.stores side).sessions (address side.other) = some ratchet ∧
    term ∈ ratchet.keys}

/-- From the first state to the second, each end has decrypted a message that the other has sent
since. -/
def Traffic.Exchanged (before after : Traffic) : Prop :=
  ∀ side : Side, ∃ message ∈ (after.opened side).drop (before.opened side).length,
    message ∈ (after.sent side.other).drop (before.sent side.other).length

/-- Whoever learns the session states of both ends, and then only sees what is sent, can derive no
key of a message that is sent after both have sent one that the other decrypted. -/
def Traffic.Recovers (address : Side → String) (traffic : Traffic) (first later : List Transfer) : Prop :=
  traffic.Exchanged (Runs.final (Traffic.step address) traffic first) →
    ∀ side message key, message ∈ ((Runs.final (Traffic.step address) traffic (first ++ later)).sent side).drop
        ((Runs.final (Traffic.step address) traffic first).sent side).length →
      SealedUnder key message → ¬ Derives (traffic.sessionKeys address ∪ {term | ∃ side, term ∈
        (Runs.final (Traffic.step address) traffic (first ++ later)).sent side}) key

def Transfer.sender : Transfer → Option Side
  | .encrypts side _ => some side
  | .decrypts _ _ => none

/-- Both ends have a session, and the chains that they send on are known. -/
def Traffic.Compromised (address : Side → String) (known : Set Term) (traffic : Traffic) : Prop :=
  ∀ side : Side, ∃ ratchet, (traffic.stores side).sessions (address side.other) = some ratchet ∧
    Derives known ratchet.sendingChainKey

section Compromise

variable {address : Side → String} {known : Set Term} {traffic : Traffic}

/-- What a step sends is sealed under a key that is known as well. -/
theorem Traffic.Compromised.step (h : traffic.Compromised address known) (transfer : Transfer) :
    (traffic.step address transfer).Compromised address known ∧
      ∀ side, ∃ new, (traffic.step address transfer).sent side = traffic.sent side ++ new ∧
        (new = [] ↔ transfer.sender ≠ some side) ∧
        ∀ message ∈ new, ∃ key, SealedUnder key message ∧ Derives known key := by
  have hNothing : ∀ side, ∃ new, traffic.sent side = traffic.sent side ++ new ∧
      (new = [] ↔ none ≠ some side) ∧
      ∀ message ∈ new, ∃ key, SealedUnder key message ∧ Derives known key := by
    intro side
    exact ⟨[], (List.append_nil _).symm, iff_of_true rfl nofun, nofun⟩
  cases transfer with
  | encrypts sender plaintext =>
    obtain ⟨ratchet, hSession, hChain⟩ := h sender
    have hEncrypted : (traffic.stores sender).encrypt (address sender.other) plaintext =
        some (ratchet.message plaintext,
          (traffic.stores sender).advance (address sender.other) ratchet.sent) := by
      rw [SymbolicStores.encrypt, hSession, Option.map_some]
    simp only [Traffic.step, hEncrypted]
    constructor
    · intro side
      by_cases hSide : side = sender
      · subst hSide
        dsimp only
        rw [Function.update_self]
        exact ⟨ratchet.sent, SymbolicStores.advance_sessions _ _ _, .derive _ hChain⟩
      · dsimp only
        rw [Function.update_of_ne hSide]
        exact h side
    · intro side
      by_cases hSide : side = sender
      · subst hSide
        rw [Function.update_self]
        refine ⟨[ratchet.message plaintext], rfl, ?_, ?_⟩
        · exact iff_of_false (List.cons_ne_nil _ _) (not_not_intro rfl)
        · intro message hMessage
          obtain rfl := List.mem_singleton.mp hMessage
          exact ⟨messageKeyTerm ratchet.sendingChainKey, ⟨_, _, plaintext, rfl⟩, .derive _ hChain⟩
      · rw [Function.update_of_ne hSide]
        refine ⟨[], (List.append_nil _).symm, iff_of_true rfl fun hSender => ?_, nofun⟩
        exact hSide (Option.some_inj.mp hSender).symm
  | decrypts receiver index =>
    unfold Traffic.step
    dsimp only
    split
    · exact ⟨h, hNothing⟩
    · obtain ⟨ratchet, hSession, hChain⟩ := h receiver
      split
      · exact ⟨h, hNothing⟩
      · rename_i plaintext stores hDecrypted
        refine ⟨fun side => ?_, hNothing⟩
        by_cases hSide : side = receiver
        · subst hSide
          simp only [SymbolicStores.decrypt, hSession, bind, Option.bind_eq_some_iff] at hDecrypted
          obtain ⟨_, hRatchet, _, _, hStores⟩ := hDecrypted
          cases hRatchet
          cases hStores
          dsimp only
          rw [Function.update_self]
          exact ⟨ratchet.received, SymbolicStores.advance_sessions _ _ _, hChain⟩
        · dsimp only
          rw [Function.update_of_ne hSide]
          exact h side

theorem Traffic.Compromised.run (h : traffic.Compromised address known) (transfers : List Transfer) :
    (Runs.final (Traffic.step address) traffic transfers).Compromised address known ∧
      ∀ side, ∃ new,
        (Runs.final (Traffic.step address) traffic transfers).sent side = traffic.sent side ++ new ∧
        (new = [] ↔ ∀ transfer ∈ transfers, transfer.sender ≠ some side) ∧
        ∀ message ∈ new, ∃ key, SealedUnder key message ∧ Derives known key := by
  induction transfers generalizing traffic with
  | nil => exact ⟨h, fun side => ⟨[], (List.append_nil _).symm, iff_of_true rfl nofun, nofun⟩⟩
  | cons transfer transfers ih =>
    obtain ⟨hNext, hSent⟩ := h.step transfer
    obtain ⟨hFinal, hLater⟩ := ih hNext
    refine ⟨hFinal, fun side => ?_⟩
    obtain ⟨first, hFirst, hFirstEmpty, hFirstKeys⟩ := hSent side
    obtain ⟨rest, hRest, hRestEmpty, hRestKeys⟩ := hLater side
    refine ⟨first ++ rest, ?_, ?_, fun message hMessage => ?_⟩
    · rw [Runs.final_cons, hRest, hFirst, List.append_assoc]
    · rw [List.append_eq_nil_iff, hFirstEmpty, hRestEmpty, List.forall_mem_cons]
    · rcases List.mem_append.mp hMessage with hMessage | hMessage
      · exact hFirstKeys message hMessage
      · exact hRestKeys message hMessage

/-- The chains never take up anything new: a session does not recover from a compromise, however
much was exchanged since, as soon as one more message is sent. -/
theorem recovers_iff_silent
    (hSessions : ∀ side : Side, ∃ ratchet, (traffic.stores side).sessions (address side.other) = some ratchet)
    (first later : List Transfer) :
    traffic.Recovers address first later ↔
      (traffic.Exchanged (Runs.final (Traffic.step address) traffic first) →
        ∀ transfer ∈ later, transfer.sender = none) := by
  have hCompromised : traffic.Compromised address (traffic.sessionKeys address) := by
    intro side
    obtain ⟨ratchet, hSession⟩ := hSessions side
    refine ⟨ratchet, hSession, .known ⟨side, ratchet, hSession, ?_⟩⟩
    simp [SymbolicRatchet.keys]
  obtain ⟨hLast, _⟩ := hCompromised.run first
  obtain ⟨_, hLater⟩ := hLast.run later
  refine imp_congr_right fun _ => ?_
  rw [Runs.final_append]
  constructor
  · intro hRecovers transfer hTransfer
    by_contra hSender
    obtain ⟨side, hSide⟩ := Option.ne_none_iff_exists'.mp hSender
    obtain ⟨new, hNew, hEmpty, hKeys⟩ := hLater side
    cases new with
    | nil => exact hEmpty.mp rfl transfer hTransfer hSide
    | cons message rest =>
      obtain ⟨key, hSealed, hKey⟩ := hKeys message List.mem_cons_self
      refine hRecovers side message key ?_ hSealed (hKey.mono Set.subset_union_left)
      rw [hNew, List.drop_left]
      exact List.mem_cons_self
  · intro hSilent side message key hMessage
    obtain ⟨new, hNew, hEmpty, _⟩ := hLater side
    rw [hNew, List.drop_left, hEmpty.mpr fun transfer hTransfer => by rw [hSilent transfer hTransfer]; nofun]
      at hMessage
    cases hMessage

end Compromise

namespace Reference

def symbolicAlice : SymbolicStores :=
  ⟨.scalar 1, .point {1}, fun _ => none, fun _ => none, fun _ => none, fun _ => none⟩

def symbolicBob : SymbolicStores where
  identityPrivate := .scalar 2
  identityPublic := .point {2}
  trusted _ := none
  prekeys id := if id = 1 then some (.scalar 5) else none
  signedPrekeys id := if id = 1 then some (.scalar 3) else none
  sessions _ := none

/-- The two after their handshake, with 4 as the ephemeral key. -/
def symbolicPair : Traffic :=
  .start ((symbolicAlice.establish 4 "bob" (offeredTerms 2 3 5)).elim symbolicAlice (·.2))
    ((symbolicBob.respond "alice" (.point {1}) (.point {4}) 1 (some 1)).getD symbolicBob)

theorem symbolicAlice_avoids {term : Term} (h : symbolicAlice.Holds term) : Avoids {4, 5} term := by
  cases h with
  | identityPrivate | identityPublic => decide
  | trusted h | prekey h | signedPrekey h | session h => cases h

theorem symbolicBob_avoids {term : Term} (h : (symbolicBob.consume (some 1)).Holds term) :
    Avoids {4, 5} term := by
  cases h with
  | identityPrivate | identityPublic => decide
  | trusted h | session h => cases h
  | @prekey id _ h =>
    change Function.update symbolicBob.prekeys 1 none id = some term at h
    rw [Function.update_apply] at h
    split_ifs at h with hId
    rw [symbolicBob] at h
    simp only [hId, if_false] at h
    cases h
  | @signedPrekey id _ h =>
    change (if id = 1 then some (.scalar 3) else none) = some term at h
    split_ifs at h
    cases h
    decide

/-- A message of the pair, with the given chain key before it. -/
def messageUnder (chainKey : Term) (counter : UInt64) (plaintext : Bytes) : Term :=
  .pair (.data (ByteWords.toLeBytes 8 counter.toNat ++ (counterNonce counter).val))
    (.encrypted (messageKeyTerm chainKey) (counterNonce counter).val (.data plaintext))

def pairInput : Term := handshakeInput 1 2 4 3 5

/-- Bob decrypts a message of Alice's, then both lose all that they store. -/
theorem firstMessage_secret :
    ¬ Derives ({.scalar 9} ∪ handshakeTerms 1 2 4 3 5 ∪ (Runs.final
      (Traffic.step (addresses "alice" "bob")) symbolicPair
        [.encrypts .alice [7], .decrypts .bob 0]).revealed)
      (messageKeyTerm (x3dhBlock 1 pairInput)) := by
  have hFresh : ∀ term : Term, term ∈ ({.scalar 9} : Set Term) ∨ symbolicAlice.Holds term ∨
      (symbolicBob.consume (some 1)).Holds term → Avoids {4, 5} term := by
    rintro term (rfl | h | h)
    · decide
    · exact symbolicAlice_avoids h
    · exact symbolicBob_avoids h
  refine @forward_secrecy symbolicAlice symbolicBob _ _ _ 1 2 4 3 5 "alice" "bob" {.scalar 9} ⟨rfl, rfl⟩
    ⟨rfl, rfl⟩ rfl rfl hFresh rfl rfl [.encrypts .alice [7], .decrypts .bob 0] .bob
    (messageUnder (x3dhBlock 1 pairInput) 1 [7]) _ ?_ ⟨_, _, _, rfl⟩
  decide +kernel

def exchange : List Transfer :=
  [.encrypts .alice [7], .decrypts .bob 0, .encrypts .bob [8], .decrypts .alice 0]

theorem symbolicPair_sessions (side : Side) :
    ∃ ratchet, (symbolicPair.stores side).sessions (addresses "alice" "bob" side.other) = some ratchet := by
  cases side with
  | alice => exact ⟨_, SymbolicStores.advance_sessions _ _ _⟩
  | bob => exact ⟨_, SymbolicStores.advance_sessions _ _ _⟩

theorem silent_recovers : symbolicPair.Recovers (addresses "alice" "bob") exchange [.decrypts .bob 0] :=
  (recovers_iff_silent symbolicPair_sessions exchange [.decrypts .bob 0]).mpr fun _ => by
    intro transfer hTransfer
    rw [List.mem_singleton.mp hTransfer]
    rfl

/-- Both have sent a message that the other decrypted. The next one is still readable. -/
theorem exchange_not_recovers :
    ¬ symbolicPair.Recovers (addresses "alice" "bob") exchange [.encrypts .alice [9]] := by
  intro hRecovers
  refine hRecovers ?_ .alice (messageUnder (.derived chainKeyLabel (x3dhBlock 1 pairInput)) 2 [9]) _
    (by decide +kernel) ⟨_, _, _, rfl⟩ ?_
  · intro side
    cases side with
    | alice =>
      refine ⟨messageUnder (x3dhBlock 2 pairInput) 1 [8], ?_, ?_⟩
      · decide +kernel
      · decide +kernel
    | bob =>
      refine ⟨messageUnder (x3dhBlock 1 pairInput) 1 [7], ?_, ?_⟩
      · decide +kernel
      · decide +kernel
  · have hStored : Derives (symbolicPair.sessionKeys (addresses "alice" "bob")) (x3dhBlock 1 pairInput) :=
      .known ⟨.alice, _, SymbolicStores.advance_sessions _ _ _, List.mem_cons_of_mem _ List.mem_cons_self⟩
    exact (Derives.derive _ (.derive _ hStored)).mono Set.subset_union_left

end Reference

end Rekindle.Signal
