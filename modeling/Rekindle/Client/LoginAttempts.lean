import Rekindle.Client.State
import Rekindle.Community.KeyTasks

/-! # Logging in and creating identities

Both commands clear the session first and then fill it in, with steps in between that may fail. What the file system,
Stronghold and SQLite answer is given with the attempt; every entry of a map names the identity it was loaded for.
-/
namespace Rekindle.Client.LoginAttempts
set_option autoImplicit false
open ByteWords Server Fallible

/-- The columns of the identity table that a login hands on. -/
structure IdentityDhtColumns where
  existingDhtKey : Option String
  existingFriendListKey : Option String
  dhtOwnerKeypair : Option String
  friendListOwnerKeypair : Option String
  accountDhtKey : Option String
  accountOwnerKeypair : Option String
  mailboxDhtKey : Option String
  deriving DecidableEq

structure IdentityRow where
  publicKey : String
  displayName : String
  dhtColumns : IdentityDhtColumns
  deriving DecidableEq

/-- An unlocked keystore: whose it is, and what is under its keys. -/
structure StrongholdKeystore where
  publicKey : String
  store : Finmap fun _ : String => List UInt8
  deriving DecidableEq

structure Owned (α : Type) where
  owner : String
  value : α
  deriving DecidableEq

structure Session where
  identity : Option IdentityState
  keystore : Option StrongholdKeystore
  friends : Finmap fun _ : String => Owned FriendState
  communities : Finmap fun _ : String => Owned Community.CommunityState
  mekCache : Finmap fun _ : String => Owned MediaEncryptionKey
  identityRows : List IdentityRow

abbrev SessionM := EStateM String Session

structure LoginResult where
  publicKey : String
  displayName : String
  deriving DecidableEq

structure CreateAttempt where
  displayName : Option String
  secret : Window UInt8 32
  createDir : Except String Unit
  /-- What is under the keys of a snapshot that is already there. -/
  initializeForIdentity : Except String (Finmap fun _ : String => List UInt8)
  storeKey : Except String Unit
  save : Except String Unit
  /-- What keeps the database from answering. -/
  insertIdentity : Except String Unit

structure LoginAttempt where
  publicKey : String
  queryIdentity : Except String Unit
  initializeForIdentity : Except String (Finmap fun _ : String => List UInt8)
  loadKey : Except String Unit
  queryFriends : Except String (List FriendRow)
  queryCommunities : Except String (List Community.CommunityRow × List Community.ChannelRow)
  /-- The key that is drawn for a hosted community without one. -/
  freshKey : String → Window UInt8 32

def identityKeyName : String := "identity/ed25519_private"

def mekKeyName (communityId : String) : String := "communities/mek_" ++ communityId

def Session.clear (session : Session) : Session :=
  { session with identity := none, friends := ∅, communities := ∅ }

def Session.unlock (session : Session) (publicKey : String) (store : Finmap fun _ : String => List UInt8) : Session :=
  { session with keystore := some ⟨publicKey, store⟩ }

section
variable (publicKeyHex : Window UInt8 32 → String)

def isBlank (text : String) : Bool := text.toList.all Char.isWhitespace

def nameOrDefault (publicKey : String) (displayName : Option String) : String :=
  (displayName.filter fun name => !isBlank name).getD ("User_" ++ String.ofList (publicKey.toList.take 8))

def insertIdentityRow (row : IdentityRow) : SessionM Unit := do
  let session ← get
  ofExcept (refuseIf (row.publicKey ∈ session.identityRows.map IdentityRow.publicKey) "UNIQUE constraint failed")
  set { session with identityRows := session.identityRows ++ [row] }

def createIdentityCore (attempt : CreateAttempt) : SessionM (LoginResult × Window UInt8 32) := do
  modify Session.clear
  ofExcept attempt.createDir
  let publicKey := publicKeyHex attempt.secret
  let displayName := nameOrDefault publicKey attempt.displayName
  let store ← ofExcept attempt.initializeForIdentity
  ofExcept attempt.storeKey
  ofExcept attempt.save
  modify fun session => session.unlock publicKey (store.insert identityKeyName attempt.secret.val)
  ofExcept attempt.insertIdentity
  insertIdentityRow ⟨publicKey, displayName, ⟨none, none, none, none, none, none, none⟩⟩
  modify fun session => { session with identity := some ⟨publicKey, displayName⟩ }
  pure (⟨publicKey, displayName⟩, attempt.secret)

/-! ## Login -/

def mentions (text part : String) : Bool := decide (part.toList <:+: text.toList)

def unlockError (message : String) : String :=
  if mentions message "snapshot" || mentions message "decrypt" then "Wrong passphrase — unable to unlock keystore"
  else message

def toKeyArray (secret : List UInt8) : Except String (Window UInt8 32) :=
  if h : secret.length = 32 then .ok ⟨secret, h⟩ else .error "invalid secret key length in Stronghold"

/-- The keystore's content and the secret key, once the passphrase has proved to be right. -/
def LoginAttempt.unlocked (attempt : LoginAttempt) :
    Except String ((Finmap fun _ : String => List UInt8) × Window UInt8 32) := do
  let store ← attempt.initializeForIdentity.mapError unlockError
  attempt.loadKey
  let secret ← orThrow (store.lookup identityKeyName)
    "No private key found in keystore — identity may be corrupted. Please create a new identity."
  let key ← toKeyArray secret
  refuseIf (publicKeyHex key ≠ attempt.publicKey) "Wrong passphrase — decrypted key does not match stored identity"
  pure (store, key)

def loadedFriend (row : FriendRow) : FriendState where
  publicKey := row.publicKey
  displayName := row.displayName
  unreadCount := 0
  dhtRecordKey := row.dhtRecordKey
  mailboxDhtKey := row.mailboxDhtKey
  friendshipState := match row.friendshipState with
    | .pendingOut => .pendingOut
    | _ => .accepted

def Session.loadFriends (session : Session) (owner : String) (rows : List FriendRow) : Session :=
  { session with
    friends := rows.foldl (fun friends row => friends.insert row.publicKey ⟨owner, loadedFriend row⟩) session.friends }

def Session.loadCommunities (session : Session) (owner : String) (rows : List Community.CommunityRow)
    (channels : List Community.ChannelRow) : Session :=
  { session with
    communities := rows.foldl
      (fun communities row => communities.insert row.id ⟨owner, Community.loadedCommunity channels row⟩)
      session.communities }

def Session.updateCommunity (session : Session) (communityId : String)
    (change : Community.CommunityState → Community.CommunityState) : Session :=
  match session.communities.lookup communityId with
  | some community =>
    { session with
      communities := session.communities.insert communityId ⟨community.owner, change community.value⟩ }
  | none => session

def Session.cacheMek (session : Session) (owner communityId : String) (mek : MediaEncryptionKey) : Session :=
  { session with mekCache := session.mekCache.insert communityId ⟨owner, mek⟩ }

/-- A hosted community without a key in the keystore is given a new one. -/
def Session.restoreMek (session : Session) (attempt : LoginAttempt) (communityId : String) (isHosted : Bool) : Session :=
  match session.keystore with
  | none => session
  | some keystore =>
    match (keystore.store.lookup (mekKeyName communityId)).bind Community.storedMek with
    | some mek => session.cacheMek attempt.publicKey communityId mek
    | none =>
      if isHosted then
        let mek : MediaEncryptionKey := ⟨1, (attempt.freshKey communityId).val⟩
        let stored := session.unlock keystore.publicKey (keystore.store.insert (mekKeyName communityId) (mekPayload mek))
        (stored.updateCommunity communityId fun community => { community with mekGeneration := 1 }).cacheMek
          attempt.publicKey communityId mek
      else session

/-- `restore_community_pseudonyms_and_meks` for one community. -/
def Session.restoreCommunity (session : Session) (attempt : LoginAttempt) (derivePseudonym : String → String)
    (row : Community.CommunityRow) : Session :=
  (session.updateCommunity row.id fun community =>
    { community with myPseudonymKey := some (community.myPseudonymKey.getD (derivePseudonym row.id)) }).restoreMek
      attempt row.id row.isHosted

def loginCore (derivePseudonym : Window UInt8 32 → String → String) (attempt : LoginAttempt) :
    SessionM (LoginResult × Window UInt8 32 × IdentityDhtColumns) := do
  modify Session.clear
  ofExcept attempt.queryIdentity
  let session ← get
  let row ← ofExcept (orThrow (Keyed.find IdentityRow.publicKey attempt.publicKey session.identityRows)
    "no identity found — please create one first")
  let (store, key) ← ofExcept (attempt.unlocked publicKeyHex)
  modify fun session => session.unlock attempt.publicKey store
  modify fun session => { session with identity := some ⟨attempt.publicKey, row.displayName⟩ }
  let friends ← ofExcept attempt.queryFriends
  modify fun session => session.loadFriends attempt.publicKey friends
  let (communities, channels) ← ofExcept attempt.queryCommunities
  modify fun session => session.loadCommunities attempt.publicKey communities channels
  modify fun session =>
    communities.foldl (fun session row => session.restoreCommunity attempt (derivePseudonym key) row) session
  pure (⟨attempt.publicKey, row.displayName⟩, key, row.dhtColumns)

/-! ## What a failure leaves -/

/-- No identity is active, no keystore is open without it, and nothing in memory is of the identity named. -/
structure NothingActive (publicKey : String) (session : Session) : Prop where
  identity : session.identity = none
  keystore : ∀ keystore ∈ session.keystore, ∃ identity ∈ session.identity, identity.publicKey = keystore.publicKey
  friends : ∀ key entry, session.friends.lookup key = some entry → entry.owner ≠ publicKey
  communities : ∀ communityId entry, session.communities.lookup communityId = some entry → entry.owner ≠ publicKey
  meks : ∀ communityId entry, session.mekCache.lookup communityId = some entry → entry.owner ≠ publicKey

inductive Attempt where
  | create (attempt : CreateAttempt)
  | login (attempt : LoginAttempt)

def Attempt.publicKey : Attempt → String
  | .create attempt => publicKeyHex attempt.secret
  | .login attempt => attempt.publicKey

def Attempt.run (derivePseudonym : Window UInt8 32 → String → String) : Attempt → SessionM Unit
  | .create attempt => createIdentityCore publicKeyHex attempt >>= fun _ => pure ()
  | .login attempt => loginCore publicKeyHex derivePseudonym attempt >>= fun _ => pure ()

/-- Whatever makes the attempt fail, nothing of it is left. -/
def AllOrNothing (derivePseudonym : Window UInt8 32 → String → String) (attempt : Attempt) (session : Session) : Prop :=
  ∀ message after, (attempt.run publicKeyHex derivePseudonym).run session = .error message after →
    NothingActive (attempt.publicKey publicKeyHex) after

/-- The keystore opens and holds the secret key of the identity. -/
def LoginAttempt.Opens (attempt : LoginAttempt) : Prop :=
  attempt.loadKey = .ok () ∧ ∃ store, attempt.initializeForIdentity = .ok store ∧
    ∃ secret : Window UInt8 32, store.lookup identityKeyName = some secret.val ∧
      publicKeyHex secret = attempt.publicKey

/-- Everything goes well up to the point where the keystore is kept open. -/
def Attempt.Unlocks (session : Session) : Attempt → Prop
  | .create attempt =>
    attempt.createDir = .ok () ∧ (∃ store, attempt.initializeForIdentity = .ok store) ∧ attempt.storeKey = .ok () ∧
      attempt.save = .ok ()
  | .login attempt =>
    attempt.queryIdentity = .ok () ∧ (∃ row, Keyed.find IdentityRow.publicKey attempt.publicKey session.identityRows =
      some row) ∧ attempt.Opens publicKeyHex

/-- What comes after that goes well. -/
def Attempt.Completes (session : Session) : Attempt → Prop
  | .create attempt =>
    attempt.insertIdentity = .ok () ∧ publicKeyHex attempt.secret ∉ session.identityRows.map IdentityRow.publicKey
  | .login attempt =>
    (∃ friends, attempt.queryFriends = .ok friends) ∧ ∃ communities, attempt.queryCommunities = .ok communities

/-- What an attempt does not clear: the keystore that was open before and the keys of communities. -/
def LeavesNothing (publicKey : String) (session : Session) : Prop :=
  session.keystore = none ∧
    ∀ communityId entry, session.mekCache.lookup communityId = some entry → entry.owner ≠ publicKey

theorem nothingActive_clear_iff {publicKey : String} {session : Session} :
    NothingActive publicKey session.clear ↔ LeavesNothing publicKey session := by
  constructor
  · intro h
    refine ⟨Option.eq_none_iff_forall_not_mem.mpr fun keystore hOpen => ?_, h.meks⟩
    obtain ⟨identity, hIdentity, -⟩ := h.keystore keystore hOpen
    exact nomatch hIdentity
  · rintro ⟨hClosed, hMeks⟩
    constructor
    · rfl
    · intro keystore hOpen
      exact absurd hOpen (hClosed ▸ Option.not_mem_none keystore)
    · intro key entry hFriend
      cases hFriend.symm.trans (Finmap.lookup_empty key)
    · intro communityId entry hCommunity
      cases hCommunity.symm.trans (Finmap.lookup_empty communityId)
    · exact hMeks

theorem toKeyArray_eq_ok_iff {secret : List UInt8} {key : Window UInt8 32} :
    toKeyArray secret = .ok key ↔ secret = key.val := by
  unfold toKeyArray
  split
  · simp [Subtype.ext_iff]
  · rename_i hLength
    simp only [reduceCtorEq, false_iff]
    rintro rfl
    exact hLength key.property

theorem mapError_eq_ok_iff {ε α : Type} {result : Except ε α} {rename : ε → ε} {a : α} :
    result.mapError rename = .ok a ↔ result = .ok a := by
  cases result <;> simp [Except.mapError]

theorem unlocked_iff_opens (attempt : LoginAttempt) :
    (∃ opened, attempt.unlocked publicKeyHex = .ok opened) ↔ attempt.Opens publicKeyHex := by
  simp only [LoginAttempt.unlocked, bind_eq_ok_iff, mapError_eq_ok_iff, orThrow_eq_ok_iff, toKeyArray_eq_ok_iff,
    LoginAttempt.Opens]
  constructor
  · rintro ⟨opened, store, hStore, ⟨⟩, hLoad, secret, hSecret, key, rfl, ⟨⟩, hKey, -⟩
    exact ⟨hLoad, store, hStore, key, hSecret, not_not.mp (refuseIf_eq_ok_iff.mp hKey)⟩
  · rintro ⟨hLoad, store, hStore, key, hSecret, hKey⟩
    exact ⟨(store, key), store, hStore, (), hLoad, key.val, hSecret, key, rfl, (),
      refuseIf_eq_ok_iff.mpr (not_not.mpr hKey), rfl⟩

/-- The three ways an attempt may go. -/
inductive Outcome {α : Type} (attempt : Attempt) (session : Session) : EStateM.Result String Session α → Prop where
  | locked (message : String) (hLocked : ¬attempt.Unlocks publicKeyHex session) :
    Outcome attempt session (.error message session.clear)
  | halfway (message : String) (after : Session) (hUnlocks : attempt.Unlocks publicKeyHex session)
      (hFails : ¬attempt.Completes publicKeyHex session)
      (hLeft : ¬NothingActive (attempt.publicKey publicKeyHex) after) :
    Outcome attempt session (.error message after)
  | done (value : α) (after : Session) (hUnlocks : attempt.Unlocks publicKeyHex session)
      (hCompletes : attempt.Completes publicKeyHex session) :
    Outcome attempt session (.ok value after)

theorem Outcome.discard {α : Type} {attempt : Attempt} {session : Session} {x : SessionM α}
    (h : Outcome publicKeyHex attempt session (x.run session)) :
    Outcome publicKeyHex attempt session ((x >>= fun _ => pure ()).run session) := by
  cases hRun : x.run session with
  | ok value after =>
    rw [hRun] at h
    rw [run_bind_of_ok _ hRun]
    cases h with
    | done _ _ hUnlocks hCompletes => exact .done () after hUnlocks hCompletes
  | error message after =>
    rw [hRun] at h
    rw [run_bind_of_error _ hRun]
    cases h with
    | locked _ hLocked => exact .locked message hLocked
    | halfway _ _ hUnlocks hFails hLeft => exact .halfway message after hUnlocks hFails hLeft

/-- A keystore is open and no identity is active. -/
theorem not_nothingActive_of_open {publicKey : String} {session : Session} {keystore : StrongholdKeystore}
    (hOpen : session.keystore = some keystore) : ¬NothingActive publicKey session := by
  intro h
  obtain ⟨identity, hIdentity, -⟩ := h.keystore keystore hOpen
  rw [h.identity] at hIdentity
  exact nomatch hIdentity

theorem insertIdentityRow_of_taken {row : IdentityRow} {session : Session}
    (h : row.publicKey ∈ session.identityRows.map IdentityRow.publicKey) :
    (insertIdentityRow row).run session = .error "UNIQUE constraint failed" session := by
  unfold insertIdentityRow
  rw [run_bind_of_ok _ (show (get : SessionM Session).run session = .ok session session from rfl), refuseIf, if_pos h]
  rfl

theorem insertIdentityRow_of_fresh {row : IdentityRow} {session : Session}
    (h : row.publicKey ∉ session.identityRows.map IdentityRow.publicKey) :
    (insertIdentityRow row).run session =
      .ok () { session with identityRows := session.identityRows ++ [row] } := by
  unfold insertIdentityRow
  rw [run_bind_of_ok _ (show (get : SessionM Session).run session = .ok session session from rfl), refuseIf, if_neg h]
  rfl

theorem create_outcome (attempt : CreateAttempt) (session : Session) :
    Outcome publicKeyHex (.create attempt) session ((createIdentityCore publicKeyHex attempt).run session) := by
  unfold createIdentityCore
  rw [run_bind_of_ok _ (show (modify Session.clear : SessionM Unit).run session = .ok () session.clear from rfl)]
  refine run_bind_ofExcept_cases (fun message hDir => .locked message fun h => nomatch hDir.symm.trans h.1)
    fun _ hDir => ?_
  refine run_bind_ofExcept_cases (fun message hInit => .locked message fun ⟨_, ⟨_, hStore⟩, _⟩ =>
    nomatch hInit.symm.trans hStore) fun store hInit => ?_
  refine run_bind_ofExcept_cases (fun message hKey => .locked message fun h => nomatch hKey.symm.trans h.2.2.1)
    fun _ hKey => ?_
  refine run_bind_ofExcept_cases (fun message hSave => .locked message fun h => nomatch hSave.symm.trans h.2.2.2)
    fun _ hSave => ?_
  have hUnlocks : Attempt.Unlocks publicKeyHex session (.create attempt) := ⟨hDir, ⟨store, hInit⟩, hKey, hSave⟩
  refine run_bind_ofExcept_cases (fun message hInsert => .halfway message _ hUnlocks
    (fun h => nomatch hInsert.symm.trans h.1) (not_nothingActive_of_open rfl)) fun _ hInsert => ?_
  by_cases hTaken : publicKeyHex attempt.secret ∈ session.identityRows.map IdentityRow.publicKey
  · rw [run_bind_of_error _ (insertIdentityRow_of_taken hTaken)]
    exact .halfway _ _ hUnlocks (fun h => h.2 hTaken) (not_nothingActive_of_open rfl)
  · rw [run_bind_of_ok _ (insertIdentityRow_of_fresh hTaken)]
    exact .done _ _ hUnlocks ⟨hInsert, hTaken⟩

variable (derivePseudonym : Window UInt8 32 → String → String)

theorem login_outcome (attempt : LoginAttempt) (session : Session) :
    Outcome publicKeyHex (.login attempt) session ((loginCore publicKeyHex derivePseudonym attempt).run session) := by
  unfold loginCore
  rw [run_bind_of_ok _ (show (modify Session.clear : SessionM Unit).run session = .ok () session.clear from rfl)]
  refine run_bind_ofExcept_cases (fun message hQuery => .locked message fun h => nomatch hQuery.symm.trans h.1)
    fun _ hQuery => ?_
  refine run_bind_ofExcept_cases (fun message hRow => .locked message fun ⟨_, ⟨_, hFound⟩, _⟩ =>
    nomatch hRow.symm.trans (orThrow_eq_ok_iff.mpr hFound)) fun row hRow => ?_
  refine run_bind_ofExcept_cases (fun message hOpened => .locked message fun ⟨_, _, hOpens⟩ => ?_)
    fun ⟨store, key⟩ hOpened => ?_
  · obtain ⟨opened, h⟩ := (unlocked_iff_opens publicKeyHex attempt).mpr hOpens
    exact nomatch hOpened.symm.trans h
  have hUnlocks : Attempt.Unlocks publicKeyHex session (.login attempt) :=
    ⟨hQuery, ⟨row, orThrow_eq_ok_iff.mp hRow⟩, (unlocked_iff_opens publicKeyHex attempt).mp ⟨_, hOpened⟩⟩
  -- from here on the identity is active
  refine run_bind_ofExcept_cases (fun message hFriends => .halfway message _ hUnlocks
    (fun h => h.1.elim fun _ hLoaded => nomatch hFriends.symm.trans hLoaded) fun h => nomatch h.identity)
    fun friends hFriends => ?_
  refine run_bind_ofExcept_cases (fun message hCommunities => .halfway message _ hUnlocks
    (fun h => h.2.elim fun _ hLoaded => nomatch hCommunities.symm.trans hLoaded) fun h => nomatch h.identity)
    fun communities hCommunities => ?_
  exact .done _ _ hUnlocks ⟨⟨friends, hFriends⟩, communities, hCommunities⟩

theorem run_outcome (attempt : Attempt) (session : Session) :
    Outcome publicKeyHex attempt session ((attempt.run publicKeyHex derivePseudonym).run session) := by
  cases attempt with
  | create attempt => exact (create_outcome publicKeyHex attempt session).discard
  | login attempt => exact (login_outcome publicKeyHex derivePseudonym attempt session).discard

theorem not_allOrNothing_of_halfway {attempt : Attempt} {session : Session}
    (hUnlocks : attempt.Unlocks publicKeyHex session) (hFails : ¬attempt.Completes publicKeyHex session) :
    ¬AllOrNothing publicKeyHex derivePseudonym attempt session := by
  intro h
  have hOutcome := run_outcome publicKeyHex derivePseudonym attempt session
  cases hRun : (attempt.run publicKeyHex derivePseudonym).run session with
  | ok _ after =>
    rw [hRun] at hOutcome
    cases hOutcome with
    | done _ _ _ hCompletes => exact hFails hCompletes
  | error message after =>
    rw [hRun] at hOutcome
    cases hOutcome with
    | locked _ hLocked => exact hLocked hUnlocks
    | halfway _ _ _ _ hLeft => exact hLeft (h message after hRun)

theorem allOrNothing_iff (attempt : Attempt) (session : Session) :
    AllOrNothing publicKeyHex derivePseudonym attempt session ↔
      (attempt.Unlocks publicKeyHex session → attempt.Completes publicKeyHex session) ∧
        (¬attempt.Unlocks publicKeyHex session → LeavesNothing (attempt.publicKey publicKeyHex) session) := by
  have hOutcome := run_outcome publicKeyHex derivePseudonym attempt session
  constructor
  · intro h
    refine ⟨fun hUnlocks => ?_, fun hLocked => ?_⟩
    · by_contra hFails
      exact not_allOrNothing_of_halfway publicKeyHex derivePseudonym hUnlocks hFails h
    · generalize hRun : (attempt.run publicKeyHex derivePseudonym).run session = result at hOutcome
      cases hOutcome with
      | locked message => exact nothingActive_clear_iff.mp (h message _ hRun)
      | halfway _ _ hUnlocks => exact absurd hUnlocks hLocked
      | done _ _ hUnlocks => exact absurd hUnlocks hLocked
  · rintro ⟨hCompletes, hClean⟩ message after hRun
    rw [hRun] at hOutcome
    cases hOutcome with
    | locked _ hLocked => exact nothingActive_clear_iff.mpr (hClean hLocked)
    | halfway _ _ hUnlocks hFails => exact absurd (hCompletes hUnlocks) hFails

end

/-! The passphrase is right, but the friends cannot be read. -/

def zeroKey : Window UInt8 32 := .replicate 32 0

/-- Its Ed25519 public key. -/
def zeroPublicKey : String := "3b6a27bcceb6a42d62a3a8d02a6f0d73653215771de243a63ac048a18b59da29"

def unreadableFriends (publicKey : String) : LoginAttempt where
  publicKey := publicKey
  queryIdentity := .ok ()
  initializeForIdentity := .ok (Finmap.singleton identityKeyName zeroKey.val)
  loadKey := .ok ()
  queryFriends := .error "database disk image is malformed"
  queryCommunities := .ok ([], [])
  freshKey _ := zeroKey

def signedOut (publicKey : String) : Session where
  identity := none
  keystore := none
  friends := ∅
  communities := ∅
  mekCache := ∅
  identityRows := [⟨publicKey, "Ada", ⟨none, none, none, none, none, none, none⟩⟩]

theorem login_with_unreadable_friends :
    ¬AllOrNothing (fun _ => zeroPublicKey) (fun _ communityId => communityId) (.login (unreadableFriends zeroPublicKey))
      (signedOut zeroPublicKey) := by
  apply not_allOrNothing_of_halfway
  · exact ⟨rfl, ⟨_, (Keyed.find_cons _).trans (if_pos rfl)⟩, rfl, _, rfl, zeroKey, Finmap.lookup_singleton_eq, rfl⟩
  · rintro ⟨⟨friends, hFriends⟩, -⟩
    exact nomatch hFriends

end Rekindle.Client.LoginAttempts
