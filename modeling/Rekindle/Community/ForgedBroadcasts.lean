import Rekindle.Client.Reference
import Rekindle.Community.BroadcastHandlers

/-! # Broadcasts that the server has not sent

What an `app_message` of anyone changes in the client's communities.
-/
namespace Rekindle.Community
set_option autoImplicit false
open Client (Handler MessageEnvelope MessagePayload hexEncode saturateI64 verifyEnvelope)
open Protocol (Bytes)
open Server (CommunityBroadcast MediaEncryptionKey RoleDto)

/-! ## Tables as sets of rows -/

/-- The tables hold the same rows. -/
def SameRows {α : Type} (before after : List α) : Prop := ∀ row, row ∈ after ↔ row ∈ before

section
variable {α κ : Type} [DecidableEq κ] {rows : List α}

theorem SameRows.refl (rows : List α) : SameRows rows rows := fun _ => Iff.rfl

theorem sameRows_append_iff {row : α} : SameRows rows (rows ++ [row]) ↔ row ∈ rows := by
  constructor
  · intro h
    exact (h row).mp (List.mem_append_right _ List.mem_cons_self)
  · intro hMem other
    rw [List.mem_append, List.mem_singleton, or_iff_left_iff_imp]
    rintro rfl
    exact hMem

theorem sameRows_remove_iff {key : α → κ} {k : κ} :
    SameRows rows (Keyed.remove key k rows) ↔ ∀ row ∈ rows, key row ≠ k := by
  apply forall_congr'
  intro row
  rw [Keyed.mem_remove, and_iff_left_iff_imp]

/-- An `UPDATE` of one column writes what is there already. -/
theorem sameRows_updateRows_iff {β : Type} {key : α → κ} {k : κ} {change : α → α} (read : α → β) {value : β}
    (hWritten : ∀ row, read (change row) = value) (hKept : ∀ row, read row = value → change row = row) :
    SameRows rows (updateRows (fun row => key row = k) change rows) ↔ ∀ row ∈ rows, key row = k → read row = value := by
  constructor
  · intro h row hMem hKey
    obtain ⟨former, -, hFormer⟩ := List.mem_map.mp ((h row).mpr hMem)
    split at hFormer
    · rw [← hFormer, hWritten]
    · next hOther =>
      subst hFormer
      exact absurd (decide_eq_true hKey) hOther
  · intro h
    have hSame : updateRows (fun row => key row = k) change rows = rows.map id := by
      refine List.map_congr_left fun row hMem => ?_
      split
      · next hKey => exact hKept row (h row hMem (of_decide_eq_true hKey))
      · rfl
    rw [hSame, List.map_id]
    exact .refl rows

end

/-! ## What a broadcast must leave alone -/

/-- The messages of channels that are stored. -/
def channelMessages (app : Client.AppState) : List Client.MessageRow :=
  app.db.messages.filter fun row => row.conversationType = .channel

/-- The same communities with their channels, members, roles, timeouts, messages and keys. -/
structure Undisturbed (before after : Replica) : Prop where
  communities : after.communities = before.communities
  mekCache : after.mekCache = before.mekCache
  vault : after.vault = before.vault
  communityRows : SameRows before.communityRows after.communityRows
  channelRows : SameRows before.channelRows after.channelRows
  memberRows : SameRows before.memberRows after.memberRows
  roleRows : SameRows before.roleRows after.roleRows
  messages : SameRows (channelMessages before.app) (channelMessages after.app)

/-- The roles before the first that repeats an id. -/
def distinctPrefix : List UInt32 → List RoleDto → List RoleDto
  | _, [] => []
  | taken, role :: rest => if role.id ∈ taken then [] else role :: distinctPrefix (role.id :: taken) rest

namespace Replica

variable (env : Surroundings) (s : Replica)

/-- The client has the key everywhere that a fetch puts it. -/
structure HoldsKey (communityId : String) (mekEncrypted : List UInt8) (mek : MediaEncryptionKey) : Prop where
  memory : ∀ community, s.community? communityId = some community → community.mekGeneration = mek.generation
  cached : s.mekCache.lookup communityId = some mek
  persisted : s.unlocked = true → s.vault.lookup communityId = some mekEncrypted
  row : ∀ row ∈ s.communityRows, row.key = (s.ownerKey, communityId) →
    row.mekGeneration = generationColumn mek.generation

/-- What a fetch brings, if anything, is the key that the client has. -/
def FetchesNothingNew (communityId : String) : Prop :=
  ∀ mekEncrypted mek, s.fetched? env communityId = some (mekEncrypted, mek) → s.HoldsKey communityId mekEncrypted mek

/-- The client has what the broadcast tells, or does not listen to it. -/
def HasAlready : CommunityBroadcast → Prop
  | .newMessage communityId channelId senderPseudonym ciphertext mekGeneration timestamp =>
    s.IsSelf communityId senderPseudonym ∨
      match s.decryptWithCachedMek env communityId ciphertext mekGeneration with
      | .decrypted body => s.app.db.insertMessage (s.messageRow channelId senderPseudonym body timestamp) = none
      | .failed => True
      | .needRefresh => s.FetchesNothingNew env communityId
  | .mekRotated communityId _ => s.FetchesNothingNew env communityId
  | .memberJoined communityId pseudonymKey _ _ =>
    s.ownerKey ∉ s.app.db.identities ∨ ∃ row ∈ s.memberRows, row.key = (s.ownerKey, communityId, pseudonymKey)
  | .memberRemoved communityId pseudonymKey =>
    ¬s.IsSelf communityId pseudonymKey ∧ ∀ row ∈ s.memberRows, row.key ≠ (s.ownerKey, communityId, pseudonymKey)
  | .rolesChanged communityId roles =>
    (∀ community, s.community? communityId = some community → community.roles = roles) ∧
      ∀ row, row.community = (s.ownerKey, communityId) →
        (row ∈ s.roleRows ↔ ∃ role ∈ distinctPrefix [] roles, row = .ofDto s.ownerKey communityId role)
  | .memberRolesChanged communityId pseudonymKey roleIds =>
    (s.IsSelf communityId pseudonymKey →
      (∀ community, s.community? communityId = some community → community.myRoleIds = roleIds) ∧
        ∀ row ∈ s.communityRows, row.key = (s.ownerKey, communityId) → row.myRoleIds = roleIdsText roleIds) ∧
      ∀ row ∈ s.memberRows, row.key = (s.ownerKey, communityId, pseudonymKey) → row.roleIds = roleIdsText roleIds
  | .memberTimedOut communityId pseudonymKey timeoutUntil =>
    ∀ row ∈ s.memberRows, row.key = (s.ownerKey, communityId, pseudonymKey) →
      row.timeoutUntil = timeoutUntil.map fun deadline => deadline.toInt64.toInt
  | .channelOverwriteChanged _ _ => True

/-- The payload of an envelope, if its signature is right and its sender not blocked. -/
def openedPayload? (envelope : MessageEnvelope) : Option MessagePayload :=
  let sender := hexEncode envelope.senderKey
  if verifyEnvelope env.externals.prims envelope = true ∧ s.app.db.isUserBlocked s.ownerKey sender = false then
    (Client.openPayload env.externals sender envelope.payload s.app).1.bind env.externals.payloadFromSlice
  else none

/-- A friend's message for a channel, which is not stored yet. -/
def BringsChannelMessage (envelope : MessageEnvelope) : Prop :=
  ∃ channelId body replyTo, s.openedPayload? env envelope = some (.channelMessage channelId body replyTo) ∧
    s.app.friend? (hexEncode envelope.senderKey) ≠ none ∧
    s.app.db.insertMessage ⟨s.ownerKey, channelId, .channel, hexEncode envelope.senderKey, body,
      saturateI64 envelope.timestamp, false⟩ ≠ none

/-- Nothing in the message is news to the client's communities. -/
def HasNoNewsIn (message : Bytes) : Prop :=
  match Client.handleAppMessage env.fromSlice message with
  | .voice _ => True
  | .communityBroadcast broadcast => s.HasAlready env broadcast
  | .incomingMessage raw => ∀ envelope, env.readEnvelope raw = some envelope → ¬s.BringsChannelMessage env envelope

end Replica

/-! ## Stored messages -/

theorem tryInsert_messages (app : Client.AppState) (row : Client.MessageRow) :
    (app.tryDb (·.insertMessage row)).db.messages =
      if app.db.insertMessage row = none then app.db.messages else app.db.messages ++ [row] := by
  unfold Client.AppState.tryDb Client.AppState.mapDb
  dsimp only
  unfold Client.Database.insertMessage
  by_cases hFree : row.ownerKey ∈ app.db.identities ∧ Keyed.find Client.MessageRow.key row.key app.db.messages = none
  · rw [if_pos hFree, if_neg nofun]
    rfl
  · rw [if_neg hFree, if_pos rfl]
    rfl

theorem sameRows_tryInsert_iff {app : Client.AppState} {row : Client.MessageRow} :
    SameRows (channelMessages app) (channelMessages (app.tryDb (·.insertMessage row))) ↔
      (row.conversationType = .channel → app.db.insertMessage row = none) := by
  unfold channelMessages
  rw [tryInsert_messages]
  split
  · next hTaken => exact iff_of_true (.refl _) fun _ => hTaken
  · next hFree =>
    rw [List.filter_append, List.filter_singleton]
    by_cases hChannel : row.conversationType = .channel
    · refine iff_of_false (fun hSame => ?_) fun h => hFree (h hChannel)
      rw [hChannel, decide_eq_true rfl, cond_true, sameRows_append_iff] at hSame
      apply hFree
      rw [Client.Database.insertMessage, if_neg]
      exact fun hBoth => Keyed.find_eq_none_iff.mp hBoth.2 row (List.mem_filter.mp hSame).1 rfl
    · rw [decide_eq_false hChannel, cond_false, List.append_nil]
      exact iff_of_true (.refl _) fun h => absurd h hChannel

/-! ## Memory and keys -/

section
variable {α : Type} {entries : Finmap fun _ : String => α} {name : String}

theorem insert_eq_self_iff {value : α} : entries.insert name value = entries ↔ entries.lookup name = some value := by
  constructor
  · intro h
    rw [← h, Finmap.lookup_insert]
  · intro h
    apply Finmap.ext_lookup
    intro other
    by_cases hSame : other = name
    · rw [hSame, Finmap.lookup_insert, h]
    · rw [Finmap.lookup_insert_of_ne _ hSame]

end

namespace Replica

section
variable {s : Replica} {communityId : String}

theorem communities_updateCommunity_eq_iff {change : CommunityMemory → CommunityMemory} :
    (s.updateCommunity communityId change).communities = s.communities ↔
      ∀ community, s.community? communityId = some community → change community = community := by
  cases hFound : s.community? communityId with
  | none => simp [updateCommunity, hFound]
  | some community =>
    simp only [updateCommunity, hFound, Option.elim_some, Option.some.injEq, forall_eq']
    rw [insert_eq_self_iff, ← community?, hFound, Option.some.injEq]
    exact eq_comm

theorem undisturbed_refl (s : Replica) : Undisturbed s s :=
  ⟨rfl, rfl, rfl, .refl _, .refl _, .refl _, .refl _, .refl _⟩

/-- The insertion of a channel's message is not undone by what comes before. -/
theorem undisturbed_insertMessage_iff {before : Replica} {row : Client.MessageRow} (hApp : s.app = before.app)
    (hChannel : row.conversationType = .channel) :
    Undisturbed before (s.insertMessage row) ↔ Undisturbed before s ∧ before.app.db.insertMessage row = none := by
  have hMessages : SameRows (channelMessages before.app) (channelMessages (s.insertMessage row).app) ↔
      before.app.db.insertMessage row = none := by
    rw [insertMessage, hApp, sameRows_tryInsert_iff, hChannel]
    exact forall_prop_of_true rfl
  have hKept : SameRows (channelMessages before.app) (channelMessages s.app) := by
    rw [hApp]
    exact .refl _
  rw [← hMessages]
  exact ⟨fun h => ⟨{ h with messages := hKept }, h.messages⟩, fun ⟨h, hSame⟩ => { h with messages := hSame }⟩

variable {env : Surroundings}

theorem fetchMekFromServer_app : (s.fetchMekFromServer env communityId).app = s.app := by
  unfold fetchMekFromServer
  cases s.fetched? env communityId <;> rfl

/-- A fetch changes nothing if and only if its key is the one that is there. -/
theorem undisturbed_fetchMekFromServer_iff :
    Undisturbed s (s.fetchMekFromServer env communityId) ↔ s.FetchesNothingNew env communityId := by
  unfold fetchMekFromServer FetchesNothingNew
  cases hFetched : s.fetched? env communityId with
  | none => exact iff_of_true s.undisturbed_refl nofun
  | some fetched =>
    obtain ⟨mekEncrypted, mek⟩ := fetched
    have hMemory : ((s.updateCommunity communityId fun community =>
        { community with mekGeneration := mek.generation }).communities = s.communities) ↔
        ∀ community, s.community? communityId = some community → community.mekGeneration = mek.generation := by
      rw [communities_updateCommunity_eq_iff]
      refine forall₂_congr fun community _ => ⟨fun h => ?_, fun h => ?_⟩
      · rw [← h]
      · rw [← h]
    have hVault : (if s.unlocked then s.vault.insert communityId mekEncrypted else s.vault) = s.vault ↔
        (s.unlocked = true → s.vault.lookup communityId = some mekEncrypted) := by
      split
      · next hUnlocked =>
        rw [insert_eq_self_iff]
        exact ⟨fun h _ => h, fun h => h hUnlocked⟩
      · next hLocked => exact iff_of_true rfl fun hUnlocked => absurd hUnlocked hLocked
    have hRows : SameRows s.communityRows (updateRows (fun row => row.key = (s.ownerKey, communityId))
        (fun row => { row with mekGeneration := generationColumn mek.generation }) s.communityRows) ↔
        ∀ row ∈ s.communityRows, row.key = (s.ownerKey, communityId) →
          row.mekGeneration = generationColumn mek.generation :=
      sameRows_updateRows_iff StoredCommunity.mekGeneration (fun _ => rfl) fun row h => by rw [← h]
    simp only [Option.elim_some, Option.some.injEq, Prod.mk.injEq]
    constructor
    · rintro h _ _ ⟨rfl, rfl⟩
      exact ⟨hMemory.mp h.communities, insert_eq_self_iff.mp h.mekCache, hVault.mp h.vault, hRows.mp h.communityRows⟩
    · intro h
      obtain ⟨hHeld, hCached, hPersisted, hRow⟩ := h mekEncrypted mek ⟨rfl, rfl⟩
      exact ⟨hMemory.mpr hHeld, insert_eq_self_iff.mpr hCached, hVault.mpr hPersisted, hRows.mpr hRow, .refl _, .refl _,
        .refl _, .refl _⟩

/-! ## The handlers -/

theorem undisturbed_newMessage_iff {channelId senderPseudonym : String} {ciphertext : List UInt8}
    {mekGeneration timestamp : UInt64} :
    Undisturbed s (s.handleBroadcastNewMessage env communityId channelId senderPseudonym ciphertext mekGeneration
        timestamp) ↔
      s.HasAlready env (.newMessage communityId channelId senderPseudonym ciphertext mekGeneration timestamp) := by
  unfold handleBroadcastNewMessage
  dsimp only [HasAlready]
  by_cases hSelf : s.IsSelf communityId senderPseudonym
  · rw [if_pos hSelf]
    exact iff_of_true s.undisturbed_refl (.inl hSelf)
  rw [if_neg hSelf, or_iff_right hSelf]
  cases hFirst : s.decryptWithCachedMek env communityId ciphertext mekGeneration with
  | decrypted body =>
    rw [undisturbed_insertMessage_iff rfl rfl]
    exact and_iff_right s.undisturbed_refl
  | failed => exact iff_of_true s.undisturbed_refl trivial
  | needRefresh =>
    dsimp only
    rw [← undisturbed_fetchMekFromServer_iff]
    constructor
    · intro h
      split at h
      · exact ((undisturbed_insertMessage_iff fetchMekFromServer_app rfl).mp h).1
      · exact h
    · intro h
      -- The key is the one that did not do before.
      have hAgain : (s.fetchMekFromServer env communityId).decryptWithCachedMek env communityId ciphertext
          mekGeneration = .needRefresh := by
        rw [← hFirst]
        unfold decryptWithCachedMek
        rw [h.mekCache]
      rw [hAgain]
      exact h

theorem undisturbed_memberJoined_iff {pseudonymKey displayName : String} {roleIds : List UInt32} :
    Undisturbed s (s.handleBroadcastMemberJoined env communityId pseudonymKey displayName roleIds) ↔
      s.HasAlready env (.memberJoined communityId pseudonymKey displayName roleIds) := by
  have hTaken (row : StoredMember) : (∃ other ∈ s.memberRows, other.key = row.key) ↔
      ¬Keyed.find StoredMember.key row.key s.memberRows = none := by
    rw [Keyed.find_eq_none_iff]
    push Not
    rfl
  unfold handleBroadcastMemberJoined
  dsimp only [HasAlready]
  split
  · next hInserted =>
    refine iff_of_false (fun h => ?_) ?_
    · exact Keyed.find_eq_none_iff.mp hInserted.2 _ (sameRows_append_iff.mp h.memberRows) rfl
    · rintro (hUnknown | hThere)
      · exact hUnknown hInserted.1
      · exact (hTaken ⟨_, _, _, _, _, _, _⟩).mp hThere hInserted.2
  · next hNot =>
    refine iff_of_true s.undisturbed_refl ?_
    rcases not_and_or.mp hNot with hUnknown | hFound
    · exact .inl hUnknown
    · exact .inr ((hTaken _).mpr hFound)

/-- Our own removal takes the community away. -/
theorem undisturbed_memberRemoved_iff {pseudonymKey : String} :
    Undisturbed s (s.handleBroadcastMemberRemoved communityId pseudonymKey) ↔
      s.HasAlready env (.memberRemoved communityId pseudonymKey) := by
  unfold handleBroadcastMemberRemoved
  dsimp only [HasAlready]
  by_cases hSelf : s.IsSelf communityId pseudonymKey
  · rw [if_pos hSelf]
    refine iff_of_false (fun h => ?_) fun h => h.1 hSelf
    have hGone : s.community? communityId = none := by
      rw [community?, ← h.communities, Finmap.lookup_erase]
    rw [IsSelf, hGone] at hSelf
    cases hSelf
  · rw [if_neg hSelf, and_iff_right hSelf, ← sameRows_remove_iff]
    exact ⟨fun h => h.memberRows, fun h => { s.undisturbed_refl with memberRows := h }⟩

theorem mem_insertRoles {ownerKey : String} {rows : List StoredRole} {taken : List UInt32} {row : StoredRole}
    (hTaken : ∀ id, id ∈ taken ↔ ∃ row ∈ rows, row.community = (ownerKey, communityId) ∧ row.roleId = id)
    (roles : List RoleDto) :
    row ∈ insertRoles ownerKey communityId rows roles ↔
      row ∈ rows ∨ ∃ role ∈ distinctPrefix taken roles, row = .ofDto ownerKey communityId role := by
  induction roles generalizing rows taken with
  | nil => simp [insertRoles, distinctPrefix]
  | cons role rest ih =>
    have hAny : (rows.any fun row => row.community = (ownerKey, communityId) ∧ row.roleId = role.id) = true ↔
        role.id ∈ taken := by
      rw [hTaken, List.any_eq_true]
      simp only [decide_eq_true_eq]
    rw [insertRoles, distinctPrefix]
    by_cases hHere : role.id ∈ taken
    · rw [if_pos (hAny.mpr hHere), if_pos hHere]
      simp
    · have hMore : ∀ id, id ∈ role.id :: taken ↔ ∃ row ∈ rows ++ [.ofDto ownerKey communityId role],
          row.community = (ownerKey, communityId) ∧ row.roleId = id := by
        intro id
        simp only [List.mem_cons, hTaken, List.mem_append, List.not_mem_nil, or_false, or_and_right, exists_or,
          exists_eq_left, StoredRole.ofDto, StoredRole.community, true_and]
        rw [or_comm, @eq_comm _ id]
      rw [if_neg (hAny.not.mpr hHere), if_neg hHere, ih hMore]
      simp only [List.mem_append, List.mem_cons, List.not_mem_nil, or_false, exists_eq_or_imp, or_assoc]

theorem undisturbed_rolesChanged_iff {roles : List RoleDto} :
    Undisturbed s (s.handleBroadcastRolesChanged communityId roles) ↔
      s.HasAlready env (.rolesChanged communityId roles) := by
  have hMemory : (s.updateCommunity communityId fun community => { community with roles }).communities =
      s.communities ↔ ∀ community, s.community? communityId = some community → community.roles = roles := by
    rw [communities_updateCommunity_eq_iff]
    refine forall₂_congr fun community _ => ⟨fun h => ?_, fun h => ?_⟩
    · rw [← h]
    · rw [← h]
  have hNone : ∀ id, id ∈ ([] : List UInt32) ↔
      ∃ row ∈ Keyed.remove StoredRole.community (s.ownerKey, communityId) s.roleRows,
        row.community = (s.ownerKey, communityId) ∧ row.roleId = id := by
    intro id
    refine iff_of_false List.not_mem_nil ?_
    rintro ⟨row, hRow, hHere, -⟩
    exact (Keyed.mem_remove.mp hRow).2 hHere
  have hRows : SameRows s.roleRows (s.handleBroadcastRolesChanged communityId roles).roleRows ↔
      ∀ row, row.community = (s.ownerKey, communityId) →
        (row ∈ s.roleRows ↔ ∃ role ∈ distinctPrefix [] roles, row = .ofDto s.ownerKey communityId role) := by
    refine forall_congr' fun row => ?_
    have hMem : row ∈ (s.handleBroadcastRolesChanged communityId roles).roleRows ↔
        row ∈ Keyed.remove StoredRole.community (s.ownerKey, communityId) s.roleRows ∨
          ∃ role ∈ distinctPrefix [] roles, row = .ofDto s.ownerKey communityId role := mem_insertRoles hNone roles
    rw [hMem, Keyed.mem_remove]
    by_cases hHere : row.community = (s.ownerKey, communityId)
    · simp only [hHere, ne_eq, not_true_eq_false, and_false, false_or, forall_const]
      exact iff_comm
    · have hOther : ¬∃ role ∈ distinctPrefix [] roles, row = .ofDto s.ownerKey communityId role := by
        rintro ⟨role, -, rfl⟩
        exact hHere rfl
      simp [hHere, hOther]
  dsimp only [HasAlready]
  rw [← hMemory, ← hRows]
  exact ⟨fun h => ⟨h.communities, h.roleRows⟩,
    fun ⟨hCommunities, hRoles⟩ => { s.undisturbed_refl with communities := hCommunities, roleRows := hRoles }⟩

theorem undisturbed_memberRolesChanged_iff {pseudonymKey : String} {roleIds : List UInt32} :
    Undisturbed s (s.handleBroadcastMemberRolesChanged communityId pseudonymKey roleIds) ↔
      s.HasAlready env (.memberRolesChanged communityId pseudonymKey roleIds) := by
  have hMembers := @sameRows_updateRows_iff _ _ _ s.memberRows _ StoredMember.key (s.ownerKey, communityId, pseudonymKey)
    (fun row => { row with roleIds := roleIdsText roleIds }) StoredMember.roleIds (roleIdsText roleIds) (fun _ => rfl)
    fun row h => by rw [← h]
  have hOwn := @sameRows_updateRows_iff _ _ _ s.communityRows _ StoredCommunity.key (s.ownerKey, communityId)
    (fun row => { row with myRoleIds := roleIdsText roleIds }) StoredCommunity.myRoleIds (roleIdsText roleIds)
    (fun _ => rfl) fun row h => by rw [← h]
  have hMemory : (s.updateCommunity communityId fun community => { community with myRoleIds := roleIds }).communities =
      s.communities ↔ ∀ community, s.community? communityId = some community → community.myRoleIds = roleIds := by
    rw [communities_updateCommunity_eq_iff]
    refine forall₂_congr fun community _ => ⟨fun h => ?_, fun h => ?_⟩
    · rw [← h]
    · rw [← h]
  unfold handleBroadcastMemberRolesChanged
  dsimp only [HasAlready]
  by_cases hSelf : s.IsSelf communityId pseudonymKey
  · simp only [if_pos hSelf, hSelf, forall_const]
    rw [← hMembers, ← hOwn, ← hMemory]
    exact ⟨fun h => ⟨⟨h.communities, h.communityRows⟩, h.memberRows⟩, fun ⟨⟨hCommunities, hRow⟩, hRows⟩ =>
      { s.undisturbed_refl with communities := hCommunities, communityRows := hRow, memberRows := hRows }⟩
  · simp only [if_neg hSelf, hSelf, IsEmpty.forall_iff, true_and]
    rw [← hMembers]
    exact ⟨fun h => h.memberRows, fun h => { s.undisturbed_refl with memberRows := h }⟩

theorem undisturbed_memberTimedOut_iff {pseudonymKey : String} {timeoutUntil : Option UInt64} :
    Undisturbed s (s.handleBroadcastMemberTimedOut communityId pseudonymKey timeoutUntil) ↔
      s.HasAlready env (.memberTimedOut communityId pseudonymKey timeoutUntil) := by
  have hRows := @sameRows_updateRows_iff _ _ _ s.memberRows _ StoredMember.key (s.ownerKey, communityId, pseudonymKey)
    (fun row => { row with timeoutUntil := timeoutUntil.map fun deadline => deadline.toInt64.toInt })
    StoredMember.timeoutUntil (timeoutUntil.map fun deadline => deadline.toInt64.toInt) (fun _ => rfl)
    fun row h => by rw [← h]
  dsimp only [HasAlready]
  rw [← hRows]
  exact ⟨fun h => h.memberRows, fun h => { s.undisturbed_refl with memberRows := h }⟩

theorem undisturbed_handleCommunityBroadcast_iff (broadcast : CommunityBroadcast) :
    Undisturbed s (s.handleCommunityBroadcast env broadcast) ↔ s.HasAlready env broadcast := by
  cases broadcast with
  | newMessage => exact undisturbed_newMessage_iff
  | mekRotated => exact undisturbed_fetchMekFromServer_iff
  | memberJoined => exact undisturbed_memberJoined_iff
  | memberRemoved => exact undisturbed_memberRemoved_iff
  | rolesChanged => exact undisturbed_rolesChanged_iff
  | memberRolesChanged => exact undisturbed_memberRolesChanged_iff
  | memberTimedOut => exact undisturbed_memberTimedOut_iff
  | channelOverwriteChanged => exact iff_of_true s.undisturbed_refl trivial

theorem undisturbed_app_iff {app : Client.AppState} :
    Undisturbed s { s with app } ↔ SameRows (channelMessages s.app) (channelMessages app) :=
  ⟨fun h => h.messages, fun h => { s.undisturbed_refl with messages := h }⟩

theorem sameRows_of_messages {before after : Client.AppState} (h : after.db.messages = before.db.messages) :
    SameRows (channelMessages before) (channelMessages after) := by
  unfold channelMessages
  rw [h]
  exact .refl _

/-- Of the payloads only the messages for channels are stored with those. -/
theorem sameRows_dispatchPayload_iff (sender : String) (timestamp : Int) (app : Client.AppState)
    (payload : MessagePayload) :
    SameRows (channelMessages app)
        (channelMessages (Client.dispatchPayload env.externals env.ambient sender timestamp app payload)) ↔
      ¬∃ channelId body replyTo, payload = .channelMessage channelId body replyTo ∧
        app.db.insertMessage ⟨app.ownerKey, channelId, .channel, sender, body, timestamp, false⟩ ≠ none := by
  by_cases hText : payload.isText = true
  · cases payload with
    | directMessage body replyTo =>
      refine iff_of_true (sameRows_tryInsert_iff.mpr nofun) ?_
      rintro ⟨_, _, _, hPayload, -⟩
      cases hPayload
    | channelMessage channelId body replyTo =>
      refine sameRows_tryInsert_iff.trans ?_
      simp
    | _ => cases hText
  · refine iff_of_true (sameRows_of_messages
      (Client.dispatchPayload_messages env.ambient sender timestamp app (Bool.eq_false_iff.mpr hText))) ?_
    rintro ⟨_, _, _, rfl, -⟩
    exact hText rfl

theorem sameRows_handlePayload_iff (sender : String) (timestamp : Int) (payloadBytes : Option Bytes)
    (app : Client.AppState) :
    SameRows (channelMessages app)
        (channelMessages (Client.handlePayload env.externals env.ambient sender timestamp payloadBytes app)) ↔
      ¬∃ channelId body replyTo,
        payloadBytes.bind env.externals.payloadFromSlice = some (.channelMessage channelId body replyTo) ∧
        app.friend? sender ≠ none ∧
        app.db.insertMessage ⟨app.ownerKey, channelId, .channel, sender, body, timestamp, false⟩ ≠ none := by
  unfold Client.handlePayload
  cases payloadBytes.bind env.externals.payloadFromSlice with
  | none =>
    refine iff_of_true (.refl _) ?_
    rintro ⟨_, _, _, hPayload, -⟩
    cases hPayload
  | some payload =>
    dsimp only
    split
    · next hFiltered =>
      refine iff_of_true (.refl _) ?_
      rintro ⟨_, _, _, -, hFriend, -⟩
      exact hFriend (Option.isNone_iff_eq_none.mp hFiltered.2)
    · next hPasses =>
      rw [sameRows_dispatchPayload_iff]
      refine not_congr (exists₃_congr fun channelId body replyTo => ?_)
      rw [Option.some.injEq]
      refine and_congr_right fun hPayload => (and_iff_right fun hStranger => hPasses ⟨?_, ?_⟩).symm
      · rw [hPayload]
        nofun
      · rw [hStranger]
        rfl

theorem openPayload_frame (sender : String) (payload : Bytes) (app : Client.AppState) :
    (Client.openPayload env.externals sender payload app).2.db = app.db ∧
      (Client.openPayload env.externals sender payload app).2.ownerKey = app.ownerKey ∧
      (Client.openPayload env.externals sender payload app).2.friends = app.friends := by
  unfold Client.openPayload
  split
  · exact ⟨rfl, rfl, rfl⟩
  · rw [app.callManager_state]
    exact ⟨rfl, rfl, rfl⟩

theorem undisturbed_handleIncomingMessage_iff {raw : Bytes} :
    Undisturbed s (s.handleIncomingMessage env raw) ↔
      ∀ envelope, env.readEnvelope raw = some envelope → ¬s.BringsChannelMessage env envelope := by
  unfold handleIncomingMessage
  cases hRead : env.readEnvelope raw with
  | none => exact iff_of_true s.undisturbed_refl nofun
  | some envelope =>
    simp only [Option.elim_some, Option.some.injEq, forall_eq']
    rw [undisturbed_app_iff]
    unfold BringsChannelMessage openedPayload? Client.handleIncomingMessage
    dsimp only
    have hDropped : ¬∃ channelId body replyTo,
        (none : Option MessagePayload) = some (.channelMessage channelId body replyTo) ∧
        s.app.friend? (hexEncode envelope.senderKey) ≠ none ∧
        s.app.db.insertMessage ⟨s.ownerKey, channelId, .channel, hexEncode envelope.senderKey, body,
          saturateI64 envelope.timestamp, false⟩ ≠ none := by
      rintro ⟨_, _, _, hPayload, -⟩
      cases hPayload
    by_cases hVerified : verifyEnvelope env.externals.prims envelope = true
    · rw [if_neg (not_not_intro hVerified)]
      by_cases hBlocked : s.app.db.isUserBlocked s.app.ownerKey (hexEncode envelope.senderKey) = true
      · rw [if_pos hBlocked, if_neg fun h => absurd (h.2.symm.trans hBlocked) nofun]
        exact iff_of_true (.refl _) hDropped
      · obtain ⟨hDb, hOwner, hFriends⟩ :=
          @openPayload_frame env (hexEncode envelope.senderKey) envelope.payload s.app
        rw [if_neg hBlocked, if_pos ⟨hVerified, Bool.eq_false_iff.mpr hBlocked⟩]
        have hHandled := @sameRows_handlePayload_iff env (hexEncode envelope.senderKey) (saturateI64 envelope.timestamp)
          (Client.openPayload env.externals (hexEncode envelope.senderKey) envelope.payload s.app).1
          (Client.openPayload env.externals (hexEncode envelope.senderKey) envelope.payload s.app).2
        have hSame : channelMessages
            (Client.openPayload env.externals (hexEncode envelope.senderKey) envelope.payload s.app).2 =
            channelMessages s.app := by
          unfold channelMessages
          rw [hDb]
        rw [hSame, hDb, hOwner, Client.AppState.friend?, hFriends] at hHandled
        exact hHandled
    · rw [if_pos hVerified, if_neg fun h => hVerified h.1]
      exact iff_of_true (.refl _) hDropped

/-- A message of anyone leaves the communities as they are if and only if there is no news for them in it. -/
theorem undisturbed_iff (env : Surroundings) (s : Replica) (message : Bytes) :
    Undisturbed s (s.handleAppMessage env message) ↔ s.HasNoNewsIn env message := by
  unfold handleAppMessage HasNoNewsIn
  cases Client.handleAppMessage env.fromSlice message with
  | voice packet => exact iff_of_true s.undisturbed_refl trivial
  | communityBroadcast broadcast => exact undisturbed_handleCommunityBroadcast_iff broadcast
  | incomingMessage raw => exact undisturbed_handleIncomingMessage_iff

end

/-- Surroundings without a network. -/
def offline : Surroundings where
  externals := Client.Reference.externals
  ambient := Client.Reference.ambientOf 1
  fromSlice := Client.Reference.broadcastFromSlice
  readEnvelope _ := none
  sealBytes key _ plaintext := key ++ plaintext
  openBytes key _ ciphertext := if ciphertext.take 32 = key then some (ciphertext.drop 32) else none
  requestMek _ _ := none

/-- A member of one community. -/
def memberOfOne : Replica where
  app := Client.Reference.user 2 "Bob"
  communities := Finmap.singleton "c" ⟨[⟨"general", "general", .text, 0⟩], some "bob", [0, 1], [], 1, none⟩
  mekCache := Finmap.singleton "c" ⟨1, List.replicate 32 7⟩
  unlocked := true
  vault := Finmap.singleton "c" (List.replicate 40 7)
  communityRows := [⟨Client.Reference.address 2, "c", roleIdsText [0, 1], 1⟩]
  channelRows := [⟨Client.Reference.address 2, "general", "c", "general", .text, 0⟩]
  memberRows := []
  roleRows := []

/-- Whoever knows a community and a pseudonym makes its owner's client drop the community. -/
theorem removal_from_anyone :
    ¬Undisturbed memberOfOne
        (memberOfOne.handleAppMessage offline (Client.broadcastToVec (.memberRemoved "c" "bob"))) ∧
      (memberOfOne.handleAppMessage offline (Client.broadcastToVec (.memberRemoved "c" "bob"))).community? "c" = none ∧
      (memberOfOne.handleAppMessage offline (Client.broadcastToVec (.memberRemoved "c" "bob"))).channelRows = [] := by
  have hSelf : memberOfOne.IsSelf "c" "bob" := rfl
  have hHandled : memberOfOne.handleAppMessage offline (Client.broadcastToVec (.memberRemoved "c" "bob")) =
      memberOfOne.handleBroadcastMemberRemoved "c" "bob" := by
    unfold handleAppMessage
    rw [show offline.fromSlice = Client.Reference.broadcastFromSlice from rfl,
      Client.handleAppMessage_broadcast Client.Reference.broadcastFromSlice_reads]
    rfl
  rw [hHandled]
  refine ⟨fun h => ?_, ?_, ?_⟩
  · exact (undisturbed_memberRemoved_iff.mp h : memberOfOne.HasAlready offline _).1 hSelf
  · rw [handleBroadcastMemberRemoved, if_pos hSelf]
    exact Finmap.lookup_erase _ _
  · rw [handleBroadcastMemberRemoved, if_pos hSelf]
    decide +kernel

end Replica

end Rekindle.Community
