import Rekindle.Server.Outcomes

/-! # Held roles

The permission bits and the rank of a member are read off the roles it holds, and a change moves
what is held and what role ids denote in few ways.
-/
namespace Rekindle.Server
set_option autoImplicit false

/-- The member has the role id in its list. -/
def Holds (community : HostedCommunity) (pseudonym : String) (roleId : UInt32) : Prop :=
  ∃ member, findMember community.members pseudonym = some member ∧ roleId ∈ member.roleIds

/-- The permissions of @everyone and of the held roles; none for someone who is not a member. -/
def rolePermissions (community : HostedCommunity) (pseudonym : String) : Permissions :=
  (findMember community.members pseudonym).elim 0 fun member =>
    basePermissions member.roleIds community.roles

section
variable {roles : List RoleDefinition} {roleIds : List UInt32} {bit : Nat}

theorem getLsbD_foldl_or (start : Permissions) :
    (roleIds.foldl (fun base roleId =>
        if roleId = roleEveryoneId then base
        else base ||| (findRole roles roleId).elim 0 RoleDefinition.permissions) start).getLsbD bit = true ↔
      start.getLsbD bit = true ∨ ∃ roleId ∈ roleIds, roleId ≠ roleEveryoneId ∧
        ((findRole roles roleId).elim 0 RoleDefinition.permissions).getLsbD bit = true := by
  induction roleIds generalizing start with
  | nil => simp
  | cons roleId rest ih =>
    rw [List.foldl_cons, ih]
    by_cases hEveryone : roleId = roleEveryoneId
    · simp [hEveryone]
    · simp [hEveryone, or_assoc]

theorem getLsbD_elim {found : Option RoleDefinition} :
    (found.elim 0 RoleDefinition.permissions).getLsbD bit = true ↔
      ∃ role, found = some role ∧ role.permissions.getLsbD bit = true := by
  cases found <;> simp

theorem getLsbD_basePermissions :
    (basePermissions roleIds roles).getLsbD bit = true ↔
      ∃ roleId role, (roleId = roleEveryoneId ∨ roleId ∈ roleIds) ∧
        findRole roles roleId = some role ∧ role.permissions.getLsbD bit = true := by
  unfold basePermissions
  rw [getLsbD_foldl_or]
  simp only [getLsbD_elim]
  constructor
  · rintro (⟨role, hFound, hBit⟩ | ⟨roleId, hHeld, _, role, hFound, hBit⟩)
    · exact ⟨roleEveryoneId, role, .inl rfl, hFound, hBit⟩
    · exact ⟨roleId, role, .inr hHeld, hFound, hBit⟩
  · rintro ⟨roleId, role, hHeld, hFound, hBit⟩
    by_cases hEveryone : roleId = roleEveryoneId
    · subst hEveryone
      exact .inl ⟨role, hFound, hBit⟩
    · exact .inr ⟨roleId, hHeld.resolve_left hEveryone, hEveryone, role, hFound, hBit⟩

end

/-- A member has a bit by a role that it holds or that everyone has. -/
theorem getLsbD_rolePermissions {community : HostedCommunity} {pseudonym : String} {bit : Nat} :
    (rolePermissions community pseudonym).getLsbD bit = true ↔
      ∃ member roleId role, findMember community.members pseudonym = some member ∧
        (roleId = roleEveryoneId ∨ roleId ∈ member.roleIds) ∧
        findRole community.roles roleId = some role ∧ role.permissions.getLsbD bit = true := by
  unfold rolePermissions
  cases hMember : findMember community.members pseudonym with
  | none => simp
  | some member => simp [getLsbD_basePermissions]

/-! ## Ranks -/

section
variable {roles : List RoleDefinition} {roleIds : List UInt32}

theorem mem_rolePositions {position : Position} :
    position ∈ rolePositions roles roleIds ↔
      ∃ roleId ∈ roleIds, ∃ role, findRole roles roleId = some role ∧ role.position = position := by
  simp only [rolePositions, List.mem_map, List.mem_filterMap]
  constructor
  · rintro ⟨role, ⟨roleId, hHeld, hFound⟩, hPosition⟩
    exact ⟨roleId, hHeld, role, hFound, hPosition⟩
  · rintro ⟨roleId, hHeld, role, hFound, hPosition⟩
    exact ⟨role, ⟨roleId, hHeld, hFound⟩, hPosition⟩

/-- A property that only grows with the position holds of the highest if it holds of any. -/
theorem max?_getD_iff {Q : Position → Prop} (hUp : ∀ low high, low ≤ high → Q low → Q high)
    {least : Position} (hLeast : ¬Q least) (positions : List Position) :
    Q (positions.max?.getD least) ↔ ∃ position ∈ positions, Q position := by
  cases hMax : positions.max? with
  | none =>
    rw [List.max?_eq_none_iff] at hMax
    subst hMax
    simp [hLeast]
  | some greatest =>
    obtain ⟨hMem, hUpper⟩ := List.max?_eq_some_iff.mp hMax
    constructor
    · intro hGreatest
      exact ⟨greatest, hMem, hGreatest⟩
    · rintro ⟨position, hPosition, hHolds⟩
      exact hUp _ _ (hUpper position hPosition) hHolds

end

/-- Above the rank of a member without roles, the rank is that of a held role. -/
theorem highestRolePosition_iff {Q : Position → Prop}
    (hUp : ∀ low high, low ≤ high → Q low → Q high) (hNone : ¬Q Position.none)
    (community : HostedCommunity) (pseudonym : String) :
    Q (highestRolePosition community pseudonym) ↔
      ∃ roleId role, Holds community pseudonym roleId ∧
        findRole community.roles roleId = some role ∧ Q role.position := by
  unfold highestRolePosition Holds
  cases hMember : findMember community.members pseudonym with
  | none => simp [hNone]
  | some member =>
    simp only [max?_getD_iff hUp hNone, mem_rolePositions, Option.some.injEq, exists_eq_left']
    constructor
    · rintro ⟨_, ⟨roleId, hHeld, role, hFound, rfl⟩, hHolds⟩
      exact ⟨roleId, role, hHeld, hFound, hHolds⟩
    · rintro ⟨roleId, role, hHeld, hFound, hHolds⟩
      exact ⟨role.position, ⟨roleId, hHeld, role, hFound, rfl⟩, hHolds⟩

theorem le_highestRolePosition_iff {community : HostedCommunity} {pseudonym : String}
    {floor : Position} (h : Position.none < floor) :
    floor ≤ highestRolePosition community pseudonym ↔
      ∃ roleId role, Holds community pseudonym roleId ∧
        findRole community.roles roleId = some role ∧ floor ≤ role.position :=
  highestRolePosition_iff (fun _ _ hLe hFloor => hFloor.trans hLe) (not_le.mpr h) community pseudonym

theorem lt_highestRolePosition_iff {community : HostedCommunity} {pseudonym : String}
    {floor : Position} (h : Position.none ≤ floor) :
    floor < highestRolePosition community pseudonym ↔
      ∃ roleId role, Holds community pseudonym roleId ∧
        findRole community.roles roleId = some role ∧ floor < role.position :=
  highestRolePosition_iff (fun _ _ hLe hFloor => hFloor.trans_le hLe) (not_lt.mpr h) community
    pseudonym

/-! ## What a change does to them -/

section
variable {community : HostedCommunity} {sender pseudonym : String} {change : Change}

theorem findMember_updateMember (members : List ServerMember) (target : String)
    {update : ServerMember → ServerMember}
    (hKey : ∀ member, (update member).pseudonymKeyHex = member.pseudonymKeyHex) :
    findMember (updateMember members target update) pseudonym =
      if pseudonym = target then (findMember members target).map update
      else findMember members pseudonym :=
  Keyed.find_update update hKey pseudonym

theorem findMember_removed (members : List ServerMember) (target : String) :
    findMember (Keyed.remove ServerMember.pseudonymKeyHex target members) pseudonym =
      if pseudonym = target then none else findMember members pseudonym :=
  Keyed.find_remove pseudonym

theorem findMember_map_dropRole (members : List ServerMember) (roleId : UInt32) :
    findMember (members.map (dropRole roleId)) pseudonym =
      (findMember members pseudonym).map (dropRole roleId) :=
  Keyed.find_map _ fun _ => rfl

theorem findMember_joined (members : List ServerMember) (member : ServerMember) :
    findMember (members ++ [member]) pseudonym = (findMember members pseudonym).or
      (if member.pseudonymKeyHex = pseudonym then some member else none) := by
  unfold findMember
  rw [Keyed.find_append, Keyed.find_cons]
  rfl

theorem findRole_append (roles : List RoleDefinition) (role : RoleDefinition) (roleId : UInt32) :
    findRole (roles ++ [role]) roleId =
      (findRole roles roleId).or (if role.id = roleId then some role else none) := by
  unfold findRole
  rw [Keyed.find_append, Keyed.find_cons]
  rfl

theorem findRole_update (roles : List RoleDefinition) (edited roleId : UInt32) (edit : RoleEdit) :
    findRole (Keyed.update RoleDefinition.id edited edit.apply roles) roleId =
      if roleId = edited then (findRole roles edited).map edit.apply else findRole roles roleId :=
  Keyed.find_update edit.apply (fun _ => rfl) roleId

theorem findRole_remove (roles : List RoleDefinition) (removed roleId : UInt32) :
    findRole (Keyed.remove RoleDefinition.id removed roles) roleId =
      if roleId = removed then none else findRole roles roleId :=
  Keyed.find_remove roleId

/-- What the change makes of a member's entry; none when it is removed. -/
def Change.onMember (sender pseudonym : String) (member : ServerMember) : Change → Option ServerMember
  | nothing | join _ _ _ | createRole _ | editRole _ _ => some member
  | rejoin routeBlob =>
    some (if pseudonym = sender then { member with routeBlob := some routeBlob } else member)
  | leave => if pseudonym = sender then none else some member
  | remove target => if pseudonym = target then none else some member
  | deleteRole roleId => some (dropRole roleId member)
  | assignRole target roleId =>
    some (if pseudonym = target then { member with roleIds := member.roleIds ++ [roleId] } else member)
  | unassignRole target roleId => some (if pseudonym = target then dropRole roleId member else member)
  | setTimeout target deadline =>
    some (if pseudonym = target then Server.setTimeout deadline member else member)

theorem findMember_apply_of_some {member : ServerMember}
    (h : findMember community.members pseudonym = some member) :
    findMember (change.apply sender community).members pseudonym =
      change.onMember sender pseudonym member := by
  have hUpdate (target : String) {update : ServerMember → ServerMember}
      (hKey : ∀ member, (update member).pseudonymKeyHex = member.pseudonymKeyHex) :
      findMember (updateMember community.members target update) pseudonym =
        some (if pseudonym = target then update member else member) := by
    rw [findMember_updateMember _ _ hKey]
    split
    · next hTarget => rw [← hTarget, h, Option.map_some]
    · exact h
  cases change with
  | nothing | createRole | editRole => exact h
  | rejoin | assignRole | unassignRole | setTimeout => exact hUpdate _ fun _ => rfl
  | join => simp only [Change.apply, Change.onMember, findMember_joined, h, Option.some_or]
  | leave | remove => simp only [Change.apply, Change.onMember, findMember_removed, h]
  | deleteRole => simp only [Change.apply, Change.onMember, findMember_map_dropRole, h, Option.map_some]

theorem findMember_apply_of_none (h : findMember community.members pseudonym = none)
    {member : ServerMember}
    (hAfter : findMember (change.apply sender community).members pseudonym = some member) :
    pseudonym = sender ∧ ∃ displayName joinedAt routeBlob,
      change = .join displayName joinedAt routeBlob ∧
      member = newMember community sender displayName joinedAt routeBlob := by
  have hUpdate {target : String} {update : ServerMember → ServerMember}
      (hUpdated : findMember (updateMember community.members target update) pseudonym = some member)
      (hKey : ∀ member, (update member).pseudonymKeyHex = member.pseudonymKeyHex) : False := by
    rw [findMember_updateMember _ _ hKey] at hUpdated
    split at hUpdated
    · next hTarget =>
      rw [← hTarget, h] at hUpdated
      cases hUpdated
    · rw [h] at hUpdated
      cases hUpdated
  cases change with
  | nothing | createRole | editRole =>
    rw [Change.apply, h] at hAfter
    cases hAfter
  | rejoin | assignRole | unassignRole | setTimeout => exact (hUpdate hAfter fun _ => rfl).elim
  | join displayName joinedAt routeBlob =>
    simp only [Change.apply, findMember_joined, h, Option.none_or] at hAfter
    split at hAfter
    · next hSender =>
      cases hAfter
      exact ⟨hSender.symm, displayName, joinedAt, routeBlob, rfl, rfl⟩
    · cases hAfter
  | leave | remove => simp [Change.apply, findMember_removed, h] at hAfter
  | deleteRole => simp [Change.apply, findMember_map_dropRole, h] at hAfter

theorem mem_roleIds_of_onMember {member after : ServerMember} {roleId : UInt32}
    (h : change.onMember sender pseudonym member = some after) (hHeld : roleId ∈ after.roleIds) :
    roleId ∈ member.roleIds ∨ change = .assignRole pseudonym roleId := by
  cases change <;> grind [Change.onMember, dropRole, Server.setTimeout]

/-- A role id that a member holds stays with it, or is taken away from it or from all. -/
theorem mem_roleIds_onMember {member after : ServerMember} {roleId : UInt32}
    (h : change.onMember sender pseudonym member = some after) (hHeld : roleId ∈ member.roleIds) :
    roleId ∈ after.roleIds ∨ change = .deleteRole roleId ∨ change = .unassignRole pseudonym roleId := by
  cases change <;> grind [Change.onMember, dropRole, Server.setTimeout]

theorem onMember_eq_none (member : ServerMember)
    (h : change.onMember sender pseudonym member = none) :
    change = .remove pseudonym ∨ change = .leave ∧ pseudonym = sender := by
  cases change <;> grind [Change.onMember]

theorem timeout_onMember {member after : ServerMember}
    (h : change.onMember sender pseudonym member = some after) :
    after.timeoutUntil = member.timeoutUntil ∨ change = .setTimeout pseudonym after.timeoutUntil := by
  cases change <;> grind [Change.onMember, dropRole, Server.setTimeout]

/-- What a role id denotes after the change: as before, a new role, or an edited one. -/
theorem role_of_apply {roleId : UInt32} {role : RoleDefinition}
    (h : findRole (change.apply sender community).roles roleId = some role) :
    findRole community.roles roleId = some role ∨
      change = .createRole role ∧ roleId = role.id ∧ findRole community.roles roleId = none ∨
      ∃ edit old, change = .editRole roleId edit ∧ findRole community.roles roleId = some old ∧
        role = edit.apply old := by
  cases change with
  | nothing | rejoin | join | leave | remove | assignRole | unassignRole | setTimeout => exact .inl h
  | createRole created =>
    simp only [Change.apply, findRole_append] at h
    cases hOld : findRole community.roles roleId with
    | some old => rw [hOld, Option.some_or] at h; exact .inl h
    | none =>
      rw [hOld, Option.none_or] at h
      split at h
      · next hId => cases h; exact .inr (.inl ⟨rfl, hId.symm, rfl⟩)
      · cases h
  | editRole edited edit =>
    simp only [Change.apply, findRole_update] at h
    split at h
    · next hId =>
      subst hId
      obtain ⟨old, hOld, hEdit⟩ := Option.map_eq_some_iff.mp h
      exact .inr (.inr ⟨edit, old, rfl, hOld, hEdit.symm⟩)
    · exact .inl h
  | deleteRole removed =>
    simp only [Change.apply, findRole_remove] at h
    split at h
    · cases h
    · exact .inl h

variable (sender change) in
/-- A role is as before after the change, or edited, or deleted. -/
theorem role_after_apply {roleId : UInt32} {role : RoleDefinition}
    (h : findRole community.roles roleId = some role) :
    findRole (change.apply sender community).roles roleId = some role ∨
      (∃ edit, change = .editRole roleId edit) ∨ change = .deleteRole roleId := by
  cases change with
  | nothing | rejoin | join | leave | remove | assignRole | unassignRole | setTimeout => exact .inl h
  | createRole created =>
    simp only [Change.apply, findRole_append, h, Option.some_or]
    exact .inl trivial
  | editRole edited edit =>
    simp only [Change.apply, findRole_update]
    split
    · next hId => exact .inr (.inl ⟨edit, hId ▸ rfl⟩)
    · exact .inl h
  | deleteRole removed =>
    simp only [Change.apply, findRole_remove]
    split
    · next hId => exact .inr (.inr (hId ▸ rfl))
    · exact .inl h

end

end Rekindle.Server
