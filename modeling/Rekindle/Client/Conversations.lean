import Rekindle.Client.Reference
import Rekindle.Signal.Interpretation

/-! # Conversation keys

Both ends of a friendship derive a symmetric key for their conversation records, once when the
record is created and again at every sync.
-/
namespace Rekindle.Client
set_option autoImplicit false

open ByteWords Signal Symbolic

/-! ## Public keys in hexadecimal -/

theorem hexValue_hexDigit : ∀ digit < 16, hexValue (hexDigit digit) = some (UInt8.ofNat digit) := by
  decide

theorem hexDecode_byte (byte : UInt8) (rest : List Char) :
    hexDecode (hexDigit (byte.toNat / 16) :: hexDigit (byte.toNat % 16) :: rest) =
      (hexDecode rest).map (byte :: ·) := by
  have hByte := byte.toNat_lt
  have hHigh : byte.toNat / 16 < 16 := by omega
  have hLow : byte.toNat % 16 < 16 := by omega
  have hJoined : 16 * UInt8.ofNat (byte.toNat / 16) + UInt8.ofNat (byte.toNat % 16) = byte := by
    apply UInt8.toNat_inj.mp
    simp only [UInt8.toNat_add, UInt8.toNat_mul, UInt8.toNat_ofNat', UInt8.toNat_ofNat]
    omega
  rw [hexDecode, hexValue_hexDigit _ hHigh, hexValue_hexDigit _ hLow]
  cases hexDecode rest with
  | none => rfl
  | some bytes => exact congrArg (fun byte => some (byte :: bytes)) hJoined

theorem hexDecode_hexEncode (bytes : Bytes) : hexDecode (hexEncode bytes).toList = some bytes := by
  rw [hexEncode, String.toList_ofList]
  induction bytes with
  | nil => rfl
  | cons byte rest ih =>
    rw [List.flatMap_cons, List.cons_append, List.cons_append, List.nil_append, hexDecode_byte, ih]
    rfl

/-- A friend's public key, as both paths read it. -/
def friendKeyBytes (friendPublicKey : String) : Option Key := do
  let bytes ← hexDecode friendPublicKey.toList
  if h : bytes.length = 32 then pure ⟨bytes, h⟩ else none

theorem friendKeyBytes_hexEncode (key : Key) : friendKeyBytes (hexEncode key.val) = some key := by
  rw [friendKeyBytes, hexDecode_hexEncode]
  exact dif_pos key.property

/-! ## Deriving a key -/

section Derivation

variable (externals : Externals) (toMontgomery : Key → Option Key)

/-- The public keys in order, so that both ends have the same info. -/
def conversationInfo (mine theirs : Key) : Bytes :=
  (if mine.val < theirs.val then mine.val ++ theirs.val else theirs.val ++ mine.val) ++
    ascii "rekindle-conversation-v1"

theorem conversationInfo_comm (mine theirs : Key) :
    conversationInfo mine theirs = conversationInfo theirs mine := by
  rw [conversationInfo, conversationInfo]
  congr 1
  by_cases hLess : mine.val < theirs.val
  · rw [if_pos hLess, if_neg (List.lt_asymm hLess)]
  · by_cases hMore : theirs.val < mine.val
    · rw [if_neg hLess, if_pos hMore]
    · rw [if_neg hLess, if_neg hMore, List.le_antisymm hLess hMore]

def deriveConversationKey (mySecret theirPublic : Key) : Key :=
  externals.prims.hkdfExpand (externals.prims.diffieHellman mySecret theirPublic).val
    (conversationInfo (externals.prims.x25519Public mySecret) theirPublic) 32

/-- `create_conversation_for_friend`: the point behind the friend's public key. -/
def createdConversationKey (secret : Key) (friendPublicKey : String) : Option Key := do
  let friend ← friendKeyBytes friendPublicKey
  let friendPublic ← toMontgomery friend
  pure (deriveConversationKey externals (externals.toX25519Secret secret) friendPublic)

/-- `sync_single_conversation`: `from_secret_bytes` of the friend's public key. -/
def syncedConversationKey (secret : Key) (friendKey : String) : Option Key := do
  let friend ← friendKeyBytes friendKey
  pure (deriveConversationKey externals (externals.toX25519Secret secret)
    (externals.prims.x25519Public (externals.toX25519Secret friend)))

inductive ConversationPath where
  | creation
  | sync
  deriving DecidableEq

def conversationKey (secret : Key) (friendKey : String) : ConversationPath → Option Key
  | .creation => createdConversationKey externals toMontgomery secret friendKey
  | .sync => syncedConversationKey externals secret friendKey

/-- The birational map takes a secret's Ed25519 public key to its X25519 public key. -/
def MapsPublicKeys : Prop :=
  ∀ secret, toMontgomery (externals.prims.ed25519Public secret) =
    some (externals.prims.x25519Public (externals.toX25519Secret secret))

variable {externals toMontgomery}

theorem deriveConversationKey_comm (hCommutes : externals.prims.Commutes) (mine theirs : Key) :
    deriveConversationKey externals mine (externals.prims.x25519Public theirs) =
      deriveConversationKey externals theirs (externals.prims.x25519Public mine) := by
  rw [deriveConversationKey, deriveConversationKey, hCommutes mine theirs, conversationInfo_comm]

/-- Anyone has the key of a sync: it is what creation makes of the friend's public key in the
place of a secret. -/
theorem synced_from_public_keys (hMontgomery : MapsPublicKeys externals toMontgomery)
    (hCommutes : externals.prims.Commutes) (secret friend : Key) :
    syncedConversationKey externals secret (hexEncode friend.val) =
      createdConversationKey externals toMontgomery friend
        (hexEncode (externals.prims.ed25519Public secret).val) := by
  simp only [syncedConversationKey, createdConversationKey, friendKeyBytes_hexEncode, Option.bind_eq_bind,
    Option.bind_some, hMontgomery secret]
  rw [deriveConversationKey_comm hCommutes]

end Derivation

/-! ## Who can have the key -/

section Identities

variable {externals : Externals} (toMontgomery : Key → Option Key) (I : Interpretation externals.prims)

/-- An identity, with numbers for its private scalar and for the scalar that `from_secret_bytes`
makes of its public key. -/
structure Identity where
  secret : Key
  own : Nat
  misread : Nat
  own_key : I.key own = externals.toX25519Secret secret
  misread_key : I.key misread = externals.toX25519Secret (externals.prims.ed25519Public secret)

namespace Identity

variable {I} (me friend : Identity I)

def publicKey : Key := externals.prims.ed25519Public me.secret

def address : String := hexEncode me.publicKey.val

/-- The scalar whose point the path takes for the friend's public key. -/
def factorOf (friend : Identity I) : ConversationPath → Nat
  | .creation => friend.own
  | .sync => friend.misread

/-- What the conversation key is made from. -/
def conversationTerm (path : ConversationPath) : Term :=
  .derived ⟨conversationInfo (I.point {me.own}) (I.point {friend.factorOf path}), 32, 0⟩
    (.point {me.own, friend.factorOf path})

/-- The two public keys: the points behind them, and what their bytes are as secrets. -/
def publicKnowledge : Set Term :=
  {.point {me.own}, .scalar me.misread, .point {friend.own}, .scalar friend.misread}

/-- No public key read as a secret is a private scalar. -/
def Unrelated : Prop :=
  ∀ own ∈ [me.own, friend.own], ∀ misread ∈ [me.misread, friend.misread], misread ≠ own

/-- The key is the one the path derives, and cannot be computed from the public keys. -/
structure Guards (path : ConversationPath) (key : Key) : Prop where
  derived : conversationKey externals toMontgomery me.secret friend.address path = some key
  means : I.bytes (me.conversationTerm friend path) = key.val
  hidden : ¬ Derives (me.publicKnowledge friend) (me.conversationTerm friend path)

/-- Both ends have the same key, and the public keys do not give it away. -/
def ShareKey (path friendPath : ConversationPath) : Prop :=
  ∃ key, me.Guards toMontgomery friend path key ∧ friend.Guards toMontgomery me friendPath key

variable {me friend toMontgomery}

theorem Unrelated.symm (h : me.Unrelated friend) : friend.Unrelated me := by
  intro own hOwn misread hMisread
  refine h own ?_ misread ?_
  · simpa [or_comm] using hOwn
  · simpa [or_comm] using hMisread

variable (me friend) in
/-- Every path derives the key that its term stands for. -/
theorem conversationKey_eq (hMontgomery : MapsPublicKeys externals toMontgomery) (path : ConversationPath) :
    ∃ key, conversationKey externals toMontgomery me.secret friend.address path = some key ∧
      I.bytes (me.conversationTerm friend path) = key.val := by
  have hPoint : ∀ factor, I.bytes (.derived ⟨conversationInfo (I.point {me.own}) (I.point {factor}), 32, 0⟩
      (.point {me.own, factor})) =
        (deriveConversationKey externals (I.key me.own) (externals.prims.x25519Public (I.key factor))).val := by
    intro factor
    rw [Interpretation.bytes, Nat.mul_zero, List.drop_zero, List.take_of_length_le (Window.length_val _).le,
      deriveConversationKey, I.publicKey, I.publicKey, I.exchange]
    rfl
  cases path with
  | creation =>
    refine ⟨_, ?_, hPoint friend.own⟩
    rw [conversationKey, createdConversationKey, address, friendKeyBytes_hexEncode, me.own_key, friend.own_key]
    simp only [Option.bind_eq_bind, Option.bind_some, publicKey, hMontgomery friend.secret]
    rfl
  | sync =>
    refine ⟨_, ?_, hPoint friend.misread⟩
    rw [conversationKey, syncedConversationKey, address, friendKeyBytes_hexEncode, me.own_key,
      friend.misread_key]
    rfl

theorem conversationTerm_creation_comm :
    me.conversationTerm friend .creation = friend.conversationTerm me .creation := by
  rw [conversationTerm, conversationTerm, factorOf, factorOf, conversationInfo_comm, Multiset.pair_comm]

/-- The scalar of the friend's public key is enough for the key of a sync. -/
theorem derives_sync : Derives (me.publicKnowledge friend) (me.conversationTerm friend .sync) := by
  have hScalar : Derives (me.publicKnowledge friend) (.scalar friend.misread) := .known (by simp [publicKnowledge])
  have hPoint : Derives (me.publicKnowledge friend) (.point {me.own}) := .known (by simp [publicKnowledge])
  refine .derive _ ?_
  rw [factorOf, Multiset.pair_comm]
  exact .multiply hScalar hPoint

theorem not_derives_creation (h : me.Unrelated friend) :
    ¬ Derives (me.publicKnowledge friend) (me.conversationTerm friend .creation) := by
  have hPoint : ∀ own, Visible {me.own, friend.own} ∅ (.point {own} : Term) :=
    fun own => Multiset.countP_le_card _ {own}
  have hScalar : ∀ misread ∈ [me.misread, friend.misread],
      Visible {me.own, friend.own} ∅ (.scalar misread : Term) := by
    intro misread hMisread
    have hMe := h me.own (by simp) misread hMisread
    have hFriend := h friend.own (by simp) misread hMisread
    simp [Visible, hMe, hFriend]
  have hKnown : ∀ term ∈ me.publicKnowledge friend, Visible {me.own, friend.own} ∅ term := by
    rintro term (rfl | rfl | rfl | rfl)
    · exact hPoint me.own
    · exact hScalar _ (by simp)
    · exact hPoint friend.own
    · exact hScalar _ (by simp)
  intro hDerives
  obtain hShared | hLeaked := hDerives.visible hKnown
  · exact not_visible_shared (by simp) (by simp [factorOf]) hShared
  · exact hLeaked

/-- The two ends share a private key exactly when both are on the creation path. -/
theorem conversation_key_shared_iff (hMontgomery : MapsPublicKeys externals toMontgomery)
    (hUnrelated : me.Unrelated friend) (path friendPath : ConversationPath) :
    me.ShareKey toMontgomery friend path friendPath ↔ path = .creation ∧ friendPath = .creation := by
  constructor
  · rintro ⟨key, hMine, hTheirs⟩
    constructor
    · cases path with
      | creation => rfl
      | sync => exact absurd derives_sync hMine.hidden
    · cases friendPath with
      | creation => rfl
      | sync => exact absurd derives_sync hTheirs.hidden
  · rintro ⟨rfl, rfl⟩
    obtain ⟨key, hKey, hMeans⟩ := conversationKey_eq me friend hMontgomery .creation
    obtain ⟨key', hKey', hMeans'⟩ := conversationKey_eq friend me hMontgomery .creation
    obtain rfl : key = key' := by
      apply Subtype.ext
      rw [← hMeans, ← hMeans', conversationTerm_creation_comm]
    exact ⟨key, ⟨hKey, hMeans, not_derives_creation hUnrelated⟩,
      ⟨hKey', hMeans', not_derives_creation hUnrelated.symm⟩⟩

end Identity

end Identities

namespace Reference

open Signal.Reference

/-- The reference map undoes the factor of the Ed25519 public key and puts in that of X25519. -/
def montgomery (publicKey : Key) : Option Key := some (scale 111 publicKey)

theorem mapsPublicKeys : MapsPublicKeys externals montgomery := by
  rintro ⟨secret, hSecret⟩
  refine congrArg some (Subtype.ext ?_)
  change (secret.map (7 * ·)).map (111 * ·) = secret.map (9 * ·)
  rw [List.map_map]
  refine List.map_congr_left fun byte _ => ?_
  rw [Function.comp_apply, ← UInt8.mul_assoc]
  rfl

/-- The identity with the key of the number. -/
def identityOf (number : Nat) : @Identity externals interpretation where
  secret := sampleKey (UInt8.ofNat number)
  own := number
  misread := 7 * number
  own_key := rfl
  misread_key := by
    apply Subtype.ext
    change List.replicate 32 _ = (List.replicate 32 _).map (7 * ·)
    rw [List.map_replicate, UInt8.ofNat_mul]
    rfl

theorem reference_conversation_key_shared :
    (identityOf 1).Unrelated (identityOf 2) ∧
      (identityOf 1).ShareKey montgomery (identityOf 2) .creation .creation := by
  have hUnrelated : (identityOf 1).Unrelated (identityOf 2) := by
    change ∀ own ∈ [1, 2], ∀ misread ∈ [7, 14], misread ≠ own
    decide
  exact ⟨hUnrelated,
    (Identity.conversation_key_shared_iff mapsPublicKeys hUnrelated .creation .creation).mpr ⟨rfl, rfl⟩⟩

/-- The first identity creates the record, the second one syncs it. -/
theorem synced_key_not_shared :
    ¬ (identityOf 1).ShareKey montgomery (identityOf 2) .creation .sync ∧
      conversationKey externals montgomery (identityOf 1).secret (identityOf 2).address .creation ≠
        conversationKey externals montgomery (identityOf 2).secret (identityOf 1).address .sync ∧
      syncedConversationKey externals (identityOf 2).secret (identityOf 1).address =
        createdConversationKey externals montgomery (identityOf 1).publicKey (identityOf 2).address := by
  refine ⟨fun ⟨_, _, hGuards⟩ => hGuards.hidden Identity.derives_sync, ?_, ?_⟩
  · decide +kernel
  · exact synced_from_public_keys mapsPublicKeys commutes _ _

end Reference

end Rekindle.Client
