import Rekindle.Server.Frames

/-! # Members and roles stay well formed

The representation invariant of a community, what corresponds to it in the tables, and the steps
that keep both: all but those that hand out a default role which is no longer there.
-/
namespace Rekindle.Server
set_option autoImplicit false
open Fallible Runs

def roleIdsOf (roles : List RoleDefinition) : List UInt32 := roles.map RoleDefinition.id

/-- The role ids of a member, in a community whose roles have the ids `existing`. -/
structure RoleIdsWellFormed (existing roleIds : List UInt32) : Prop where
  distinct : roleIds.Nodup
  everyone : roleEveryoneId ∈ roleIds
  exist : roleIds ⊆ existing

structure HostedCommunity.WellFormed (community : HostedCommunity) : Prop where
  members : (community.members.map ServerMember.pseudonymKeyHex).Nodup
  roles : (roleIdsOf community.roles).Nodup
  held : ∀ member ∈ community.members, RoleIdsWellFormed (roleIdsOf community.roles) member.roleIds

def MemberRow.key (row : MemberRow) : String × String := (row.communityId, row.pseudonymKeyHex)

def RoleRow.key (row : RoleRow) : String × UInt32 := (row.communityId, row.role.id)

structure Database.WellFormed (db : Database) : Prop where
  members : (db.serverMembers.map MemberRow.key).Nodup
  roles : (db.serverRoles.map RoleRow.key).Nodup
  distinct : db.serverMemberRoles.Nodup
  everyone : ∀ row ∈ db.serverMembers,
    ⟨row.communityId, row.pseudonymKeyHex, roleEveryoneId⟩ ∈ db.serverMemberRoles
  exist : ∀ row ∈ db.serverMemberRoles, (row.communityId, row.roleId) ∈ db.serverRoles.map RoleRow.key

/-- The community is well formed and its roles have rows. -/
structure HostedCommunity.Stored (communityId : String) (db : Database) (community : HostedCommunity) :
    Prop where
  wellFormed : community.WellFormed
  named : community.communityId = communityId
  roles : ∀ roleId ∈ roleIdsOf community.roles,
    (communityId, roleId) ∈ db.serverRoles.map RoleRow.key

/-- The invariant of a server whose database never fails. -/
structure ServerState.WellFormed (state : ServerState) : Prop where
  faultless : true ∉ state.dbFaults
  tables : state.db.WellFormed
  hosted : ∀ communityId community, state.hosted.lookup communityId = some community →
    community.Stored communityId state.db

/-! ## Statements -/

namespace Database

variable {db : Database}

theorem hasMember_iff {communityId pseudonym : String} :
    db.hasMember communityId pseudonym = true ↔
      (communityId, pseudonym) ∈ db.serverMembers.map MemberRow.key := by
  simp [hasMember, MemberRow.key]

theorem hasRole_iff {row : RoleRow} :
    db.serverRoles.any (fun other =>
        other.communityId == row.communityId && other.role.id == row.role.id) = true ↔
      row.key ∈ db.serverRoles.map RoleRow.key := by
  simp [RoleRow.key]

section
variable {db' : Database} (h : db.WellFormed)
include h

theorem WellFormed.insertMemberRole {row : MemberRoleRow}
    (hExists : (row.communityId, row.roleId) ∈ db.serverRoles.map RoleRow.key)
    (hRun : db.insertMemberRole row = some db') : db'.WellFormed := by
  unfold Database.insertMemberRole at hRun
  split_ifs at hRun with hThere hMember
  · cases hRun
    exact h
  · cases hRun
    refine ⟨h.members, h.roles, ?_, ?_, ?_⟩
    · exact h.distinct.append (List.nodup_singleton row) (List.disjoint_singleton.mpr hThere)
    · exact fun member hRow => List.mem_append_left _ (h.everyone member hRow)
    · intro other hOther
      rcases List.mem_append.mp hOther with hOld | hNew
      · exact h.exist other hOld
      · rw [List.mem_singleton.mp hNew]
        exact hExists

theorem WellFormed.deleteMember {communityId pseudonym : String}
    (hRun : db.deleteMember communityId pseudonym = some db') : db'.WellFormed := by
  cases hRun
  refine ⟨h.members.sublist (List.filter_sublist.map _), h.roles, h.distinct.filter _, ?_, ?_⟩
  · intro row hRow
    obtain ⟨hRow, hOther⟩ := List.mem_filter.mp hRow
    exact List.mem_filter.mpr ⟨h.everyone row hRow, hOther⟩
  · intro row hRow
    exact h.exist row (List.mem_filter.mp hRow).1

theorem WellFormed.updateRouteBlob {communityId pseudonym : String} {routeBlob : List UInt8}
    (hRun : db.updateRouteBlob communityId pseudonym routeBlob = some db') : db'.WellFormed := by
  cases hRun
  have hKeys : (db.serverMembers.map fun row =>
      if row.communityId == communityId && row.pseudonymKeyHex == pseudonym then
        { row with routeBlob := some routeBlob }
      else row).map MemberRow.key = db.serverMembers.map MemberRow.key := by
    rw [List.map_map]
    refine List.map_congr_left fun row _ => ?_
    dsimp only [Function.comp_apply]
    split <;> rfl
  refine ⟨hKeys ▸ h.members, h.roles, h.distinct, ?_, h.exist⟩
  intro row hRow
  obtain ⟨old, hOld, rfl⟩ := List.mem_map.mp hRow
  split <;> exact h.everyone old hOld

theorem WellFormed.insertRole {row : RoleRow} (hRun : db.insertRole row = some db') :
    db'.WellFormed ∧ row.key ∉ db.serverRoles.map RoleRow.key ∧
      db'.serverRoles = db.serverRoles ++ [row] := by
  unfold Database.insertRole at hRun
  split_ifs at hRun with hThere hCommunity
  cases hRun
  rw [hasRole_iff] at hThere
  refine ⟨⟨h.members, ?_, h.distinct, h.everyone, ?_⟩, hThere, rfl⟩
  · rw [List.map_append]
    exact h.roles.append (List.nodup_singleton _) (List.disjoint_singleton.mpr hThere)
  · intro held hHeld
    rw [List.map_append]
    exact List.mem_append_left _ (h.exist held hHeld)

theorem WellFormed.updateRole {communityId : String} {role : RoleDefinition}
    (hRun : db.updateRole communityId role = some db') :
    db'.WellFormed ∧ db'.serverRoles.map RoleRow.key = db.serverRoles.map RoleRow.key := by
  cases hRun
  have hKeys : (db.serverRoles.map fun row =>
      if row.communityId == communityId && row.role.id == role.id then { row with role := role }
      else row).map RoleRow.key = db.serverRoles.map RoleRow.key := by
    rw [List.map_map]
    refine List.map_congr_left fun row _ => ?_
    dsimp only [Function.comp_apply]
    split_ifs with hSame
    · rw [Bool.and_eq_true, beq_iff_eq, beq_iff_eq] at hSame
      exact Prod.ext rfl hSame.2.symm
    · rfl
  exact ⟨⟨h.members, hKeys ▸ h.roles, h.distinct, h.everyone, hKeys ▸ h.exist⟩, hKeys⟩

theorem WellFormed.deleteMemberRole {communityId pseudonym : String} {roleId : UInt32}
    (hRole : roleId ≠ roleEveryoneId)
    (hRun : db.deleteMemberRole communityId pseudonym roleId = some db') : db'.WellFormed := by
  cases hRun
  refine ⟨h.members, h.roles, h.distinct.filter _, ?_, fun row hRow => ?_⟩
  · intro row hRow
    refine List.mem_filter.mpr ⟨h.everyone row hRow, ?_⟩
    simp [hRole.symm]
  · exact h.exist row (List.mem_filter.mp hRow).1

/-- The two statements that delete a role. -/
theorem WellFormed.deleteRole {communityId : String} {roleId : UInt32} (hRole : roleId ≠ roleEveryoneId)
    {deleted : Database} (hRun : db.deleteRole communityId roleId = some deleted)
    (hThen : deleted.deleteRoleAssignments communityId roleId = some db') : db'.WellFormed := by
  cases hRun
  cases hThen
  refine ⟨h.members, h.roles.sublist (List.filter_sublist.map _), h.distinct.filter _, ?_, ?_⟩
  · intro row hRow
    refine List.mem_filter.mpr ⟨h.everyone row hRow, ?_⟩
    simp [hRole.symm]
  · intro row hRow
    obtain ⟨hRow, hKept⟩ := List.mem_filter.mp hRow
    obtain ⟨role, hRole, hKey⟩ := List.mem_map.mp (h.exist row hRow)
    refine List.mem_map.mpr ⟨role, List.mem_filter.mpr ⟨hRole, ?_⟩, hKey⟩
    obtain ⟨hCommunity, hId⟩ := Prod.mk.inj hKey
    rw [hCommunity, hId]
    exact hKept

theorem WellFormed.deleteCommunity {communityId : String}
    (hRun : db.deleteCommunity communityId = some db') : db'.WellFormed := by
  cases hRun
  refine ⟨h.members.sublist (List.filter_sublist.map _), h.roles.sublist (List.filter_sublist.map _),
    h.distinct.filter _, ?_, ?_⟩
  · intro row hRow
    obtain ⟨hRow, hOther⟩ := List.mem_filter.mp hRow
    exact List.mem_filter.mpr ⟨h.everyone row hRow, hOther⟩
  · intro row hRow
    obtain ⟨hRow, hOther⟩ := List.mem_filter.mp hRow
    obtain ⟨role, hRole, hKey⟩ := List.mem_map.mp (h.exist row hRow)
    refine List.mem_map.mpr ⟨role, List.mem_filter.mpr ⟨hRole, ?_⟩, hKey⟩
    rw [(Prod.mk.inj hKey).1]
    exact hOther

/-- The first two statements for a new member: its row, and @everyone. -/
theorem WellFormed.insertMember {row : MemberRow}
    (hEveryone : (row.communityId, roleEveryoneId) ∈ db.serverRoles.map RoleRow.key) :
    let inserted := (db.insertMember row).getD db
    ((inserted.insertMemberRole ⟨row.communityId, row.pseudonymKeyHex, roleEveryoneId⟩).getD
      inserted).WellFormed := by
  have hUnchanged : ((db.insertMemberRole ⟨row.communityId, row.pseudonymKeyHex, roleEveryoneId⟩).getD
      db).WellFormed := by
    cases hRun : db.insertMemberRole ⟨row.communityId, row.pseudonymKeyHex, roleEveryoneId⟩ with
    | none => exact h
    | some db' => exact h.insertMemberRole hEveryone hRun
  unfold Database.insertMember
  split_ifs with hMember hCommunity
  · exact hUnchanged
  · have hNew : row.key ∉ db.serverMembers.map MemberRow.key := by
      rw [hasMember_iff] at hMember
      exact hMember
    have hMembers : ((db.serverMembers ++ [row]).map MemberRow.key).Nodup := by
      rw [List.map_append]
      exact h.members.append (List.nodup_singleton _) (List.disjoint_singleton.mpr hNew)
    dsimp only [Option.getD_some]
    unfold Database.insertMemberRole
    split_ifs with hHeld hThere
    · refine ⟨hMembers, h.roles, h.distinct, fun member hRow => ?_, h.exist⟩
      rcases List.mem_append.mp hRow with hOld | hLast
      · exact h.everyone member hOld
      · rw [List.mem_singleton.mp hLast]
        exact hHeld
    · refine ⟨hMembers, h.roles, ?_, fun member hRow => ?_, fun held hIn => ?_⟩
      · exact h.distinct.append (List.nodup_singleton _) (List.disjoint_singleton.mpr hHeld)
      · rcases List.mem_append.mp hRow with hOld | hLast
        · exact List.mem_append_left _ (h.everyone member hOld)
        · rw [List.mem_singleton.mp hLast]
          exact List.mem_append_right _ List.mem_cons_self
      · rcases List.mem_append.mp hIn with hOld | hLast
        · exact h.exist held hOld
        · rw [List.mem_singleton.mp hLast]
          exact hEveryone
    · exact absurd (by simp [hasMember]) hThere
  · exact hUnchanged

end

end Database

/-! ## Calls to a database that does not fail -/

section
variable {ε : Type} {s t : ServerState}

theorem tail_faultless (h : true ∉ s.dbFaults) : true ∉ s.dbFaults.tail :=
  fun hTail => h (List.mem_of_mem_tail hTail)

theorem headD_faultless (h : true ∉ s.dbFaults) : s.dbFaults.headD false = false := by
  cases hFaults : s.dbFaults with
  | nil => rfl
  | cons fault rest =>
    rw [hFaults, List.mem_cons, not_or] at h
    exact Bool.eq_false_iff.mpr (Ne.symm h.1)

theorem execute_run_of_faultless (h : true ∉ s.dbFaults) (statement : Database → Option Database) :
    (execute statement : EStateM ε ServerState Bool).run s =
      .ok (statement s.db).isSome
        { s with dbFaults := s.dbFaults.tail, db := (statement s.db).getD s.db } := by
  change EStateM.Result.ok _ _ = _
  rw [headD_faultless h]
  rfl

theorem query_run_of_faultless {α : Type} (h : true ∉ s.dbFaults) (read : Database → α) :
    (query read : EStateM ε ServerState (Option α)).run s =
      .ok (some (read s.db)) { s with dbFaults := s.dbFaults.tail } := by
  change EStateM.Result.ok (if s.dbFaults.headD false then none else some (read s.db)) _ = _
  rw [headD_faultless h]
  rfl

theorem executeIgnoring_run_of_faultless (h : true ∉ s.dbFaults)
    (statement : Database → Option Database) :
    (executeIgnoring statement : EStateM ε ServerState Unit).run s =
      .ok () { s with dbFaults := s.dbFaults.tail, db := (statement s.db).getD s.db } := by
  unfold executeIgnoring
  rw [run_bind_of_ok _ (execute_run_of_faultless h statement), EStateM.run_pure]

end

/-! ## Changes of a community -/

theorem roleIdsOf_update (roles : List RoleDefinition) (roleId : UInt32) (edit : RoleEdit) :
    roleIdsOf (Keyed.update RoleDefinition.id roleId edit.apply roles) = roleIdsOf roles :=
  Keyed.map_key_update fun _ => rfl

theorem roleIdsOf_remove (roles : List RoleDefinition) (roleId : UInt32) :
    roleIdsOf (Keyed.remove RoleDefinition.id roleId roles) =
      (roleIdsOf roles).filter (· != roleId) := by
  rw [roleIdsOf, Keyed.remove, roleIdsOf, List.filter_map]
  rfl

theorem roleIdsOf_append (roles : List RoleDefinition) (role : RoleDefinition) :
    roleIdsOf (roles ++ [role]) = roleIdsOf roles ++ [role.id] := List.map_append

namespace HostedCommunity.WellFormed

variable {community : HostedCommunity} (h : community.WellFormed)
include h

theorem updateMember {target : String} {change : ServerMember → ServerMember}
    (hKey : ∀ member, (change member).pseudonymKeyHex = member.pseudonymKeyHex)
    (hRoles : ∀ member, findMember community.members target = some member →
      RoleIdsWellFormed (roleIdsOf community.roles) member.roleIds →
      RoleIdsWellFormed (roleIdsOf community.roles) (change member).roleIds) :
    { community with members := updateMember community.members target change }.WellFormed := by
  refine ⟨?_, h.roles, fun member hMember => ?_⟩
  · dsimp only
    rw [Server.updateMember, Keyed.map_key_update hKey]
    exact h.members
  · rcases Keyed.mem_of_mem_update hMember with hSame | ⟨former, hFound, rfl⟩
    · exact h.held member hSame
    · exact hRoles former hFound (h.held former (List.mem_of_find?_eq_some hFound))

theorem removeMember (target : String) :
    { community with
      members := Keyed.remove ServerMember.pseudonymKeyHex target community.members }.WellFormed :=
  ⟨h.members.sublist (List.filter_sublist.map _), h.roles,
    fun member hMember => h.held member (List.mem_filter.mp hMember).1⟩

theorem addMember {member : ServerMember} (hNew : findMember community.members member.pseudonymKeyHex = none)
    (hRoles : RoleIdsWellFormed (roleIdsOf community.roles) member.roleIds) :
    { community with members := community.members ++ [member] }.WellFormed := by
  refine ⟨?_, h.roles, fun other hOther => ?_⟩
  · dsimp only
    rw [List.map_append]
    refine h.members.append (List.nodup_singleton _) (List.disjoint_singleton.mpr fun hIn => ?_)
    obtain ⟨old, hOld, hSame⟩ := List.mem_map.mp hIn
    exact Keyed.find_eq_none_iff.mp hNew old hOld hSame
  · rcases List.mem_append.mp hOther with hOld | hLast
    · exact h.held other hOld
    · rw [List.mem_singleton.mp hLast]
      exact hRoles

theorem addRole {role : RoleDefinition} (hNew : role.id ∉ roleIdsOf community.roles) :
    { community with roles := community.roles ++ [role] }.WellFormed := by
  refine ⟨h.members, ?_, fun member hMember => ?_⟩
  · dsimp only
    rw [roleIdsOf_append]
    exact h.roles.append (List.nodup_singleton _) (List.disjoint_singleton.mpr hNew)
  · have hHeld := h.held member hMember
    refine ⟨hHeld.distinct, hHeld.everyone, fun roleId hRole => ?_⟩
    dsimp only
    rw [roleIdsOf_append]
    exact List.mem_append_left _ (hHeld.exist hRole)

theorem editRole (roleId : UInt32) (edit : RoleEdit) :
    { community with
      roles := Keyed.update RoleDefinition.id roleId edit.apply community.roles }.WellFormed := by
  refine ⟨h.members, ?_, ?_⟩
  · dsimp only
    rw [roleIdsOf_update]
    exact h.roles
  · dsimp only
    rw [roleIdsOf_update]
    exact h.held

omit h in
theorem dropRole_wellFormed {existing roleIds : List UInt32} {roleId : UInt32}
    (hHeld : RoleIdsWellFormed existing roleIds) (hRole : roleId ≠ roleEveryoneId) :
    RoleIdsWellFormed (existing.filter (· != roleId)) (roleIds.filter (· != roleId)) := by
  refine ⟨hHeld.distinct.filter _, ?_, fun other hOther => ?_⟩
  · refine List.mem_filter.mpr ⟨hHeld.everyone, ?_⟩
    simpa using hRole.symm
  · obtain ⟨hOther, hKept⟩ := List.mem_filter.mp hOther
    exact List.mem_filter.mpr ⟨hHeld.exist hOther, hKept⟩

theorem deleteRole {roleId : UInt32} (hRole : roleId ≠ roleEveryoneId) :
    { community with
      roles := Keyed.remove RoleDefinition.id roleId community.roles
      members := community.members.map (dropRole roleId) }.WellFormed := by
  refine ⟨?_, ?_, fun member hMember => ?_⟩
  · dsimp only
    rw [List.map_map]
    exact h.members
  · dsimp only
    rw [roleIdsOf_remove]
    exact h.roles.filter _
  · obtain ⟨old, hOld, rfl⟩ := List.mem_map.mp hMember
    dsimp only
    rw [roleIdsOf_remove]
    exact dropRole_wellFormed (h.held old hOld) hRole

end HostedCommunity.WellFormed

end Rekindle.Server
