import Mathlib.Logic.Function.Basic
import Rekindle.Community.ForgedBroadcasts

/-! # The roster that broadcasts keep up

Roles, and members with their role ids and timeouts: what the members of a community share of it. A broadcast changes
the roster, and the client changes its memory and its rows in step.
-/
namespace Rekindle.Community
set_option autoImplicit false
open Protocol (Bytes)
open Server (CommunityBroadcast RoleDto)

structure RosterEntry where
  roleIds : List UInt32
  timeoutUntil : Option UInt64

@[ext]
structure Roster where
  roles : List RoleDto
  members : String → Option RosterEntry

/-- The community that a broadcast is about. -/
def broadcastCommunity : CommunityBroadcast → String
  | .newMessage communityId _ _ _ _ _ | .mekRotated communityId _ | .memberJoined communityId _ _ _
  | .memberRemoved communityId _ | .rolesChanged communityId _ | .memberRolesChanged communityId _ _
  | .memberTimedOut communityId _ _ | .channelOverwriteChanged communityId _ => communityId

namespace Roster

/-- What the roster is after a broadcast of its community. -/
def told (roster : Roster) : CommunityBroadcast → Roster
  | .memberJoined _ pseudonym _ roleIds =>
    { roster with
      members := Function.update roster.members pseudonym ((roster.members pseudonym).or (some ⟨roleIds, none⟩)) }
  | .memberRemoved _ pseudonym => { roster with members := Function.update roster.members pseudonym none }
  | .rolesChanged _ roles => { roster with roles }
  | .memberRolesChanged _ pseudonym roleIds =>
    { roster with
      members := Function.update roster.members pseudonym
        ((roster.members pseudonym).map fun entry => { entry with roleIds }) }
  | .memberTimedOut _ pseudonym timeoutUntil =>
    { roster with
      members := Function.update roster.members pseudonym
        ((roster.members pseudonym).map fun entry => { entry with timeoutUntil }) }
  | .newMessage _ _ _ _ _ _ | .mekRotated _ _ | .channelOverwriteChanged _ _ => roster

variable {roster : Roster}

theorem update_map_twice {α β : Type} [DecidableEq α] {f : α → Option β} {a : α} {change : β → β}
    (hTwice : ∀ b, change (change b) = change b) :
    Function.update (Function.update f a ((f a).map change)) a
        ((Function.update f a ((f a).map change) a).map change) = Function.update f a ((f a).map change) := by
  rw [Function.update_idem, Function.update_self, Option.map_map]
  congr 2
  exact funext hTwice

/-- To hear a broadcast again changes nothing. -/
theorem told_told (broadcast : CommunityBroadcast) : (roster.told broadcast).told broadcast = roster.told broadcast := by
  cases broadcast with
  | memberJoined _ pseudonym _ roleIds =>
    refine Roster.ext rfl ?_
    dsimp only [told]
    rw [Function.update_idem, Function.update_self]
    cases roster.members pseudonym <;> rfl
  | memberRemoved => exact Roster.ext rfl (Function.update_idem _ _ _)
  | memberRolesChanged => exact Roster.ext rfl (update_map_twice fun _ => rfl)
  | memberTimedOut => exact Roster.ext rfl (update_map_twice fun _ => rfl)
  | _ => rfl

end Roster

/-! ## The client's copy -/

/-- The columns of a member's row that the roster tells. -/
def RosterEntry.columns (entry : RosterEntry) : Bytes × Option Int :=
  (roleIdsText entry.roleIds, entry.timeoutUntil.map fun deadline => deadline.toInt64.toInt)

def StoredMember.columns (row : StoredMember) : Bytes × Option Int := (row.roleIds, row.timeoutUntil)

/-- The client, which is the member `me`, has the roster in memory and in its tables. -/
structure Mirrors (communityId me : String) (roster : Roster) (client : Replica) : Prop where
  /-- There is a row of the identity, which other rows refer to. -/
  owner : client.ownerKey ∈ client.app.db.identities
  memory : ∃ community, client.community? communityId = some community ∧ community.myPseudonymKey = some me ∧
    community.roles = roster.roles ∧ (roster.members me).map RosterEntry.roleIds = some community.myRoleIds
  myRow : ∀ row ∈ client.communityRows, row.key = (client.ownerKey, communityId) →
    (roster.members me).map (fun entry => roleIdsText entry.roleIds) = some row.myRoleIds
  roles : ∀ row, row.community = (client.ownerKey, communityId) →
    (row ∈ client.roleRows ↔ ∃ role ∈ roster.roles, row = .ofDto client.ownerKey communityId role)
  members : ∀ pseudonym,
    (Keyed.find StoredMember.key (client.ownerKey, communityId, pseudonym) client.memberRows).map
      StoredMember.columns = (roster.members pseudonym).map RosterEntry.columns

section
variable {communityId me : String} {roster : Roster} {client : Replica} {env : Surroundings}

namespace Replica

theorem community?_updateCommunity (client : Replica) (id other : String)
    (change : CommunityMemory → CommunityMemory) :
    (client.updateCommunity id change).community? other =
      if other = id then (client.community? id).map change else client.community? other := by
  unfold updateCommunity community?
  cases hFound : client.communities.lookup id with
  | none =>
    split
    · next hSame => rw [hSame, Option.elim_none, hFound, Option.map_none]
    · rfl
  | some community =>
    split
    · next hSame => rw [hSame, Option.elim_some, Finmap.lookup_insert, Option.map_some]
    · next hOther => rw [Option.elim_some, Finmap.lookup_insert_of_ne _ hOther]

end Replica

theorem find_updateRows {α κ : Type} [DecidableEq κ] {key : α → κ} {k : κ} {change : α → α}
    (hKey : ∀ row, key (change row) = key row) (rows : List α) (j : κ) :
    Keyed.find key j (updateRows (fun row => key row = k) change rows) =
      if j = k then (Keyed.find key k rows).map change else Keyed.find key j rows := by
  have hMapped : Keyed.find key j (rows.map fun row => if decide (key row = k) = true then change row else row) = _ :=
    Keyed.find_map _ fun row => by
      split
      · exact hKey row
      · rfl
  unfold updateRows
  rw [hMapped]
  split
  · next hSame =>
    subst hSame
    refine Option.map_congr fun row hRow => ?_
    rw [if_pos (decide_eq_true (Keyed.key_of_find hRow))]
  · next hOther =>
    refine (Option.map_congr fun row hRow => ?_).trans (congrFun Option.map_id _)
    rw [Keyed.key_of_find hRow, decide_eq_false hOther]
    rfl

theorem forall_mem_updateRows {α : Type} {test : α → Bool} {change : α → α} {rows : List α} {P : α → Prop}
    (h : ∀ row ∈ rows, P (if test row then change row else row)) : ∀ row ∈ updateRows test change rows, P row := by
  intro row hRow
  obtain ⟨former, hFormer, rfl⟩ := List.mem_map.mp hRow
  exact h former hFormer

namespace Mirrors

/-- The roster is about no messages and keys. -/
theorem insertMessage (h : Mirrors communityId me roster client) (row : Client.MessageRow) :
    Mirrors communityId me roster (client.insertMessage row) := by
  have hOwner : (client.insertMessage row).ownerKey = client.ownerKey := rfl
  have hIdentities : (client.insertMessage row).app.db.identities = client.app.db.identities := by
    unfold Replica.insertMessage Client.AppState.tryDb Client.AppState.mapDb Client.Database.insertMessage
    dsimp only
    split <;> rfl
  refine ⟨?_, h.memory, h.myRow, h.roles, h.members⟩
  rw [hOwner, hIdentities]
  exact h.owner

theorem updateCommunity (h : Mirrors communityId me roster client) (id : String)
    {change : CommunityMemory → CommunityMemory}
    (hKept : ∀ community, (change community).myPseudonymKey = community.myPseudonymKey ∧
      (change community).roles = community.roles ∧ (change community).myRoleIds = community.myRoleIds) :
    Mirrors communityId me roster (client.updateCommunity id change) := by
  obtain ⟨community, hFound, hMe, hRoles, hMine⟩ := h.memory
  refine ⟨h.owner, ?_, h.myRow, h.roles, h.members⟩
  rw [client.community?_updateCommunity]
  split
  · next hSame =>
    obtain ⟨hKeptMe, hKeptRoles, hKeptMine⟩ := hKept community
    refine ⟨change community, by rw [← hSame, hFound, Option.map_some], ?_, ?_, ?_⟩
    · rw [hKeptMe, hMe]
    · rw [hKeptRoles, hRoles]
    · rw [hKeptMine, hMine]
  · exact ⟨community, hFound, hMe, hRoles, hMine⟩

theorem fetchMekFromServer (h : Mirrors communityId me roster client) (id : String) :
    Mirrors communityId me roster (client.fetchMekFromServer env id) := by
  unfold Replica.fetchMekFromServer
  cases client.fetched? env id with
  | none => exact h
  | some fetched =>
    obtain ⟨mekEncrypted, mek⟩ := fetched
    have hCached : Mirrors communityId me roster { client with mekCache := client.mekCache.insert id mek } :=
      ⟨h.owner, h.memory, h.myRow, h.roles, h.members⟩
    have hLabelled := @updateCommunity _ _ _ _ hCached id
      (fun community => { community with mekGeneration := mek.generation }) fun _ => ⟨rfl, rfl, rfl⟩
    refine ⟨hLabelled.owner, hLabelled.memory, forall_mem_updateRows fun row hRow => ?_, h.roles, h.members⟩
    split
    · exact h.myRow row hRow
    · exact h.myRow row hRow

theorem newMessage (h : Mirrors communityId me roster client) (id channelId senderPseudonym : String)
    (ciphertext : List UInt8) (mekGeneration timestamp : UInt64) :
    Mirrors communityId me roster
      (client.handleBroadcastNewMessage env id channelId senderPseudonym ciphertext mekGeneration timestamp) := by
  unfold Replica.handleBroadcastNewMessage
  split
  · exact h
  · split
    · exact h.insertMessage _
    · exact h
    · dsimp only
      split
      · exact (h.fetchMekFromServer id).insertMessage _
      · exact h.fetchMekFromServer id

theorem isSelf_iff (h : Mirrors communityId me roster client) (pseudonym : String) :
    client.IsSelf communityId pseudonym ↔ pseudonym = me := by
  obtain ⟨community, hFound, hMe, -⟩ := h.memory
  rw [Replica.IsSelf, hFound, Option.bind_some, hMe, Option.some.injEq]
  exact eq_comm

theorem memberJoined (h : Mirrors communityId me roster client) (pseudonym displayName : String)
    (roleIds : List UInt32) :
    Mirrors communityId me (roster.told (.memberJoined communityId pseudonym displayName roleIds))
      (client.handleBroadcastMemberJoined env communityId pseudonym displayName roleIds) := by
  have hHere := h.members pseudonym
  unfold Replica.handleBroadcastMemberJoined
  dsimp only
  cases hEntry : roster.members pseudonym with
  | some entry =>
    -- The member has a row.
    have hSame : roster.told (.memberJoined communityId pseudonym displayName roleIds) = roster := by
      refine Roster.ext rfl ?_
      dsimp only [Roster.told]
      rw [hEntry, Option.some_or, ← hEntry, Function.update_eq_self]
    rw [hSame, if_neg]
    · exact h
    · rintro ⟨-, hNone⟩
      have hNo : Keyed.find StoredMember.key (client.ownerKey, communityId, pseudonym) client.memberRows = none := hNone
      rw [hNo, hEntry] at hHere
      cases hHere
  | none =>
    rw [hEntry, Option.map_none, Option.map_eq_none_iff] at hHere
    have hOther : me ≠ pseudonym := by
      rintro rfl
      obtain ⟨community, -, -, -, hMine⟩ := h.memory
      rw [hEntry] at hMine
      cases hMine
    have hMe : (roster.told (.memberJoined communityId pseudonym displayName roleIds)).members me =
        roster.members me := Function.update_of_ne hOther _ _
    have hMembers (row : StoredMember) (hKey : row.key = (client.ownerKey, communityId, pseudonym))
        (hColumns : row.columns = RosterEntry.columns ⟨roleIds, none⟩) (other : String) :
        (Keyed.find StoredMember.key (client.ownerKey, communityId, other) (client.memberRows ++ [row])).map
          StoredMember.columns =
        ((roster.told (.memberJoined communityId pseudonym displayName roleIds)).members other).map
          RosterEntry.columns := by
      dsimp only [Roster.told]
      rw [Function.update_apply, Keyed.find_append, Keyed.find_cons, hKey, hEntry, Option.none_or]
      by_cases hSame : other = pseudonym
      · rw [hSame, hHere, Option.none_or, if_pos rfl, if_pos rfl, Option.map_some, hColumns, Option.map_some]
      · rw [if_neg hSame, if_neg, ← h.members other]
        · exact congrArg _ (Option.or_none)
        · intro hKeys
          exact hSame (congrArg (fun key : String × String × String => key.2.2) hKeys).symm
    rw [if_pos ⟨h.owner, hHere⟩]
    refine ⟨h.owner, ?_, ?_, h.roles, hMembers _ rfl rfl⟩
    · rw [hMe]
      exact h.memory
    · rw [hMe]
      exact h.myRow

theorem memberRemoved (h : Mirrors communityId me roster client) {pseudonym : String} (hOther : pseudonym ≠ me) :
    Mirrors communityId me (roster.told (.memberRemoved communityId pseudonym))
      (client.handleBroadcastMemberRemoved communityId pseudonym) := by
  have hMe : (roster.told (.memberRemoved communityId pseudonym)).members me = roster.members me :=
    Function.update_of_ne (Ne.symm hOther) _ _
  have hMembers (other : String) :
      (Keyed.find StoredMember.key (client.ownerKey, communityId, other)
        (Keyed.remove StoredMember.key (client.ownerKey, communityId, pseudonym) client.memberRows)).map
        StoredMember.columns =
      ((roster.told (.memberRemoved communityId pseudonym)).members other).map RosterEntry.columns := by
    dsimp only [Roster.told]
    rw [Function.update_apply, Keyed.find_remove]
    by_cases hSame : other = pseudonym
    · rw [hSame, if_pos rfl, if_pos rfl]
      rfl
    · rw [if_neg hSame, if_neg, h.members other]
      intro hKey
      exact hSame (congrArg (fun key : String × String × String => key.2.2) hKey)
  rw [Replica.handleBroadcastMemberRemoved, if_neg fun hSelf => hOther ((h.isSelf_iff pseudonym).mp hSelf)]
  refine ⟨h.owner, ?_, ?_, h.roles, hMembers⟩
  · rw [hMe]
    exact h.memory
  · rw [hMe]
    exact h.myRow

theorem distinctPrefix_of_nodup {taken : List UInt32} {roles : List RoleDto} (hNodup : (roles.map RoleDto.id).Nodup)
    (hFresh : ∀ role ∈ roles, role.id ∉ taken) : distinctPrefix taken roles = roles := by
  induction roles generalizing taken with
  | nil => rfl
  | cons role rest ih =>
    rw [List.map_cons, List.nodup_cons] at hNodup
    rw [distinctPrefix, if_neg (hFresh role List.mem_cons_self), ih hNodup.2]
    intro other hOther
    rw [List.mem_cons, not_or]
    refine ⟨fun hSame => hNodup.1 ?_, hFresh other (List.mem_cons_of_mem _ hOther)⟩
    rw [← hSame]
    exact List.mem_map_of_mem hOther

theorem rolesChanged (h : Mirrors communityId me roster client) {roles : List RoleDto}
    (hNodup : (roles.map RoleDto.id).Nodup) :
    Mirrors communityId me (roster.told (.rolesChanged communityId roles))
      (client.handleBroadcastRolesChanged communityId roles) := by
  obtain ⟨community, hFound, hMe, -, hMine⟩ := h.memory
  refine ⟨h.owner, ?_, h.myRow, fun row hHere => ?_, h.members⟩
  · refine ⟨{ community with roles }, ?_, hMe, rfl, hMine⟩
    change (client.updateCommunity communityId _).community? communityId = _
    rw [client.community?_updateCommunity, if_pos rfl, hFound]
    rfl
  · have hNone : ∀ id, id ∈ ([] : List UInt32) ↔
        ∃ row ∈ Keyed.remove StoredRole.community (client.ownerKey, communityId) client.roleRows,
          row.community = (client.ownerKey, communityId) ∧ row.roleId = id := by
      intro id
      refine iff_of_false List.not_mem_nil ?_
      rintro ⟨row, hRow, hHere, -⟩
      exact (Keyed.mem_remove.mp hRow).2 hHere
    refine (Replica.mem_insertRoles hNone roles).trans ?_
    rw [distinctPrefix_of_nodup hNodup fun _ _ => List.not_mem_nil]
    exact or_iff_right fun hOld => (Keyed.mem_remove.mp hOld).2 hHere

/-- An `UPDATE` of a member's columns. -/
theorem find_updateMember (h : Mirrors communityId me roster client) {change : StoredMember → StoredMember}
    {changeEntry : RosterEntry → RosterEntry} (hKey : ∀ row, (change row).key = row.key) (pseudonym other : String)
    (hColumns : ∀ (row : StoredMember) (entry : RosterEntry), row.columns = entry.columns →
      (change row).columns = (changeEntry entry).columns) :
    (Keyed.find StoredMember.key (client.ownerKey, communityId, other)
        (updateRows (fun row => row.key = (client.ownerKey, communityId, pseudonym)) change client.memberRows)).map
        StoredMember.columns =
      (Function.update roster.members pseudonym ((roster.members pseudonym).map changeEntry) other).map
        RosterEntry.columns := by
  rw [find_updateRows hKey, Function.update_apply]
  by_cases hSame : other = pseudonym
  · subst hSame
    have hHere := h.members other
    rw [if_pos rfl, if_pos rfl]
    cases hRow : Keyed.find StoredMember.key (client.ownerKey, communityId, other) client.memberRows with
    | none =>
      rw [hRow, Option.map_none] at hHere
      rw [Option.map_eq_none_iff.mp hHere.symm]
      rfl
    | some row =>
      rw [hRow, Option.map_some] at hHere
      obtain ⟨entry, hEntry, hSame⟩ := Option.map_eq_some_iff.mp hHere.symm
      rw [hEntry]
      exact congrArg some (hColumns row entry hSame.symm)
  · rw [if_neg hSame, if_neg]
    · exact h.members other
    · intro hKeys
      exact hSame (congrArg (fun key : String × String × String => key.2.2) hKeys)

theorem memberTimedOut (h : Mirrors communityId me roster client) (pseudonym : String)
    (timeoutUntil : Option UInt64) :
    Mirrors communityId me (roster.told (.memberTimedOut communityId pseudonym timeoutUntil))
      (client.handleBroadcastMemberTimedOut communityId pseudonym timeoutUntil) := by
  have hMe {β : Type} (read : RosterEntry → β)
      (hRead : ∀ entry : RosterEntry, read { entry with timeoutUntil } = read entry) :
      ((roster.told (.memberTimedOut communityId pseudonym timeoutUntil)).members me).map read =
        (roster.members me).map read := by
    dsimp only [Roster.told]
    rw [Function.update_apply]
    split
    · next hSame =>
      rw [hSame, Option.map_map]
      exact Option.map_congr fun entry _ => hRead entry
    · rfl
  have hMembers (other : String) := @find_updateMember _ _ _ _ h
    (fun row => { row with timeoutUntil := timeoutUntil.map fun deadline => deadline.toInt64.toInt })
    (fun entry => { entry with timeoutUntil }) (fun _ => rfl) pseudonym other fun row entry hSame => by
      have hRoleIds : row.roleIds = roleIdsText entry.roleIds := congrArg Prod.fst hSame
      exact Prod.ext hRoleIds rfl
  refine ⟨h.owner, ?_, ?_, h.roles, hMembers⟩
  · rw [hMe _ fun _ => rfl]
    exact h.memory
  · rw [hMe _ fun _ => rfl]
    exact h.myRow

theorem memberRolesChanged (h : Mirrors communityId me roster client) (pseudonym : String)
    (roleIds : List UInt32) :
    Mirrors communityId me (roster.told (.memberRolesChanged communityId pseudonym roleIds))
      (client.handleBroadcastMemberRolesChanged communityId pseudonym roleIds) := by
  have hMembers (other : String) := @find_updateMember _ _ _ _ h
    (fun row => { row with roleIds := roleIdsText roleIds }) (fun entry => { entry with roleIds }) (fun _ => rfl)
    pseudonym other fun row entry hSame => by
      have hTimeout : row.timeoutUntil = entry.timeoutUntil.map fun deadline => deadline.toInt64.toInt :=
        congrArg Prod.snd hSame
      exact Prod.ext rfl hTimeout
  obtain ⟨community, hFound, hMe, hRoles, hMine⟩ := h.memory
  unfold Replica.handleBroadcastMemberRolesChanged
  by_cases hSelf : client.IsSelf communityId pseudonym
  · simp only [if_pos hSelf]
    obtain rfl := (h.isSelf_iff pseudonym).mp hSelf
    have hNow {β : Type} (read : RosterEntry → β) {b : β}
        (hRead : ∀ entry : RosterEntry, read { entry with roleIds } = b) :
        ((roster.told (.memberRolesChanged communityId pseudonym roleIds)).members pseudonym).map read = some b := by
      obtain ⟨entry, hEntry, -⟩ := Option.map_eq_some_iff.mp hMine
      dsimp only [Roster.told]
      rw [Function.update_self, hEntry, Option.map_some, Option.map_some, hRead]
    refine ⟨h.owner, ⟨{ community with myRoleIds := roleIds }, ?_, hMe, hRoles, hNow _ fun _ => rfl⟩,
      forall_mem_updateRows fun row _ hKey => ?_, h.roles, hMembers⟩
    · change (client.updateCommunity communityId _).community? communityId = _
      rw [client.community?_updateCommunity, if_pos rfl, hFound]
      rfl
    · split
      · exact hNow _ fun _ => rfl
      · next hNot =>
        rw [if_neg hNot] at hKey
        exact absurd (decide_eq_true hKey) hNot
  · simp only [if_neg hSelf]
    have hOther : me ≠ pseudonym := fun hSame => hSelf ((h.isSelf_iff pseudonym).mpr hSame.symm)
    have hSame : (roster.told (.memberRolesChanged communityId pseudonym roleIds)).members me = roster.members me :=
      Function.update_of_ne hOther _ _
    refine ⟨h.owner, ⟨community, hFound, hMe, hRoles, ?_⟩, ?_, h.roles, hMembers⟩
    · rw [hSame]
      exact hMine
    · rw [hSame]
      exact h.myRow

/-- The client keeps up with what it is told, unless it is told that it has left. -/
theorem handleCommunityBroadcast (h : Mirrors communityId me roster client) {broadcast : CommunityBroadcast}
    (hCommunity : broadcastCommunity broadcast = communityId) (hStays : broadcast ≠ .memberRemoved communityId me)
    (hNodup : ∀ roles, broadcast = .rolesChanged communityId roles → (roles.map RoleDto.id).Nodup) :
    Mirrors communityId me (roster.told broadcast) (client.handleCommunityBroadcast env broadcast) := by
  cases broadcast with
  | newMessage id channelId senderPseudonym ciphertext mekGeneration timestamp =>
    exact h.newMessage id channelId senderPseudonym ciphertext mekGeneration timestamp
  | mekRotated id => exact h.fetchMekFromServer id
  | memberJoined id pseudonym displayName roleIds =>
    cases hCommunity
    exact h.memberJoined pseudonym displayName roleIds
  | memberRemoved id pseudonym =>
    cases hCommunity
    exact h.memberRemoved fun hSame => hStays (congrArg _ hSame)
  | rolesChanged id roles =>
    cases hCommunity
    exact h.rolesChanged (hNodup roles rfl)
  | memberRolesChanged id pseudonym roleIds =>
    cases hCommunity
    exact h.memberRolesChanged pseudonym roleIds
  | memberTimedOut id pseudonym timeoutUntil =>
    cases hCommunity
    exact h.memberTimedOut pseudonym timeoutUntil
  | channelOverwriteChanged => exact h

/-! ### News of other communities -/

/-- What the roster is compared with stays. -/
theorem of_same {after : Replica} (h : Mirrors communityId me roster client) (hApp : after.app = client.app)
    (hMemory : after.community? communityId = client.community? communityId)
    (hMyRow : ∀ row ∈ after.communityRows, row.key = (client.ownerKey, communityId) → row ∈ client.communityRows)
    (hRoles : ∀ row, row.community = (client.ownerKey, communityId) →
      (row ∈ after.roleRows ↔ row ∈ client.roleRows))
    (hMembers : ∀ pseudonym, Keyed.find StoredMember.key (client.ownerKey, communityId, pseudonym) after.memberRows =
      Keyed.find StoredMember.key (client.ownerKey, communityId, pseudonym) client.memberRows) :
    Mirrors communityId me roster after := by
  have hOwner : after.ownerKey = client.ownerKey := congrArg Client.AppState.ownerKey hApp
  constructor
  · rw [hOwner, hApp]
    exact h.owner
  · rw [hMemory]
    exact h.memory
  · rw [hOwner]
    intro row hRow hKey
    exact h.myRow row (hMyRow row hRow hKey) hKey
  · rw [hOwner]
    intro row hHere
    exact (hRoles row hHere).trans (h.roles row hHere)
  · rw [hOwner]
    intro pseudonym
    rw [hMembers]
    exact h.members pseudonym

theorem memberKey_ne {owner id other : String} (hOther : id ≠ other) (pseudonym target : String) :
    ((owner, other, pseudonym) : String × String × String) ≠ (owner, id, target) := by
  intro hSame
  exact hOther (congrArg (fun key : String × String × String => key.2.1) hSame).symm

theorem find_updateMember_other {id : String} (hOther : id ≠ communityId) (change : StoredMember → StoredMember)
    (hKey : ∀ row, (change row).key = row.key) (pseudonym target : String) :
    Keyed.find StoredMember.key (client.ownerKey, communityId, pseudonym)
        (updateRows (fun row => row.key = (client.ownerKey, id, target)) change client.memberRows) =
      Keyed.find StoredMember.key (client.ownerKey, communityId, pseudonym) client.memberRows := by
  rw [find_updateRows hKey, if_neg (memberKey_ne hOther pseudonym target)]

theorem community?_updateCommunity_other {id : String} (hOther : id ≠ communityId)
    (change : CommunityMemory → CommunityMemory) :
    (client.updateCommunity id change).community? communityId = client.community? communityId := by
  rw [client.community?_updateCommunity, if_neg (Ne.symm hOther)]

variable {id : String} (hOther : id ≠ communityId)
include hOther

theorem memberJoined_other (h : Mirrors communityId me roster client) (pseudonym displayName : String)
    (roleIds : List UInt32) :
    Mirrors communityId me roster (client.handleBroadcastMemberJoined env id pseudonym displayName roleIds) := by
  unfold Replica.handleBroadcastMemberJoined
  dsimp only
  split
  · refine h.of_same rfl rfl (fun _ hRow _ => hRow) (fun _ _ => Iff.rfl) fun other => ?_
    rw [Keyed.find_append, Keyed.find_cons, if_neg]
    · exact Option.or_none
    · exact Ne.symm (memberKey_ne hOther other pseudonym)
  · exact h

theorem memberRemoved_other (h : Mirrors communityId me roster client) (pseudonym : String) :
    Mirrors communityId me roster (client.handleBroadcastMemberRemoved id pseudonym) := by
  unfold Replica.handleBroadcastMemberRemoved
  split
  · refine h.of_same rfl (Finmap.lookup_erase_ne (Ne.symm hOther)) (fun _ hRow _ => ?_) (fun _ _ => Iff.rfl) fun _ => rfl
    exact (Keyed.mem_remove.mp hRow).1
  · refine h.of_same rfl rfl (fun _ hRow _ => hRow) (fun _ _ => Iff.rfl) fun other => ?_
    rw [Keyed.find_remove, if_neg (memberKey_ne hOther other pseudonym)]

theorem rolesChanged_other (h : Mirrors communityId me roster client) (roles : List RoleDto) :
    Mirrors communityId me roster (client.handleBroadcastRolesChanged id roles) := by
  refine h.of_same rfl (community?_updateCommunity_other hOther _) (fun _ hRow _ => hRow) (fun row hHere => ?_)
    fun _ => rfl
  have hElsewhere : row.community ≠ (client.ownerKey, id) := by
    rw [hHere]
    exact fun hSame => hOther (congrArg Prod.snd hSame).symm
  have hNone : ∀ roleId, roleId ∈ ([] : List UInt32) ↔
      ∃ row ∈ Keyed.remove StoredRole.community (client.ownerKey, id) client.roleRows,
        row.community = (client.ownerKey, id) ∧ row.roleId = roleId := by
    intro roleId
    refine iff_of_false List.not_mem_nil ?_
    rintro ⟨row, hRow, hHere, -⟩
    exact (Keyed.mem_remove.mp hRow).2 hHere
  refine (Replica.mem_insertRoles hNone roles).trans ?_
  rw [or_iff_left, Keyed.mem_remove, and_iff_left hElsewhere]
  rintro ⟨role, -, rfl⟩
  exact hElsewhere rfl

theorem memberRolesChanged_other (h : Mirrors communityId me roster client) (pseudonym : String)
    (roleIds : List UInt32) :
    Mirrors communityId me roster (client.handleBroadcastMemberRolesChanged id pseudonym roleIds) := by
  have hMembers (other : String) := @find_updateMember_other _ client _ hOther
    (fun row => { row with roleIds := roleIdsText roleIds }) (fun _ => rfl) other pseudonym
  unfold Replica.handleBroadcastMemberRolesChanged
  by_cases hSelf : client.IsSelf id pseudonym
  · simp only [if_pos hSelf]
    refine h.of_same rfl (community?_updateCommunity_other hOther _)
      (forall_mem_updateRows fun row hRow hKey => ?_) (fun _ _ => Iff.rfl) hMembers
    split
    · next hHere =>
      rw [if_pos hHere] at hKey
      exact absurd ((congrArg Prod.snd (of_decide_eq_true hHere)).symm.trans (congrArg Prod.snd hKey)) hOther
    · exact hRow
  · simp only [if_neg hSelf]
    exact h.of_same rfl rfl (fun _ hRow _ => hRow) (fun _ _ => Iff.rfl) hMembers

theorem memberTimedOut_other (h : Mirrors communityId me roster client) (pseudonym : String)
    (timeoutUntil : Option UInt64) :
    Mirrors communityId me roster (client.handleBroadcastMemberTimedOut id pseudonym timeoutUntil) :=
  h.of_same rfl rfl (fun _ hRow _ => hRow) (fun _ _ => Iff.rfl)
    fun other => find_updateMember_other hOther
      (fun row => { row with timeoutUntil := timeoutUntil.map fun deadline => deadline.toInt64.toInt }) (fun _ => rfl)
      other pseudonym

omit hOther

theorem handleCommunityBroadcast_other (h : Mirrors communityId me roster client) {broadcast : CommunityBroadcast}
    (hOther : broadcastCommunity broadcast ≠ communityId) :
    Mirrors communityId me roster (client.handleCommunityBroadcast env broadcast) := by
  cases broadcast with
  | newMessage id channelId senderPseudonym ciphertext mekGeneration timestamp =>
    exact h.newMessage id channelId senderPseudonym ciphertext mekGeneration timestamp
  | mekRotated id => exact h.fetchMekFromServer id
  | memberJoined => exact memberJoined_other hOther h _ _ _
  | memberRemoved => exact memberRemoved_other hOther h _
  | rolesChanged => exact rolesChanged_other hOther h _
  | memberRolesChanged => exact memberRolesChanged_other hOther h _ _
  | memberTimedOut => exact memberTimedOut_other hOther h _ _
  | channelOverwriteChanged => exact h

end Mirrors

end

end Rekindle.Community
