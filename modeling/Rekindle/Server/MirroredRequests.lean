import Rekindle.Server.StoredCommunities

/-! # Requests keep memory and tables alike

One lemma for each change of a community in memory and the statements that go with it.
-/
namespace Rekindle.Server
set_option autoImplicit false
open Fallible Mirrors

theorem runAll_append (first second : List Statement) (db : Database) :
    runAll (first ++ second) db = runAll second (runAll first db) := List.foldl_append

theorem runAll_cons (statement : Statement) (rest : List Statement) (db : Database) :
    runAll (statement :: rest) db = runAll rest ((statement.run db).getD db) := rfl

/-- What each statement keeps when it is taken is kept by all of them. -/
theorem runAll_keeps {P : Database → Prop} {statements : List Statement} {db : Database} (h : P db)
    (hStep : ∀ statement ∈ statements, ∀ db db', P db → statement.run db = some db' → P db') : P (runAll statements db) := by
  induction statements generalizing db with
  | nil => exact h
  | cons statement rest ih =>
    rw [runAll_cons]
    refine ih ?_ fun other hOther => hStep other (List.mem_cons_of_mem _ hOther)
    cases hRun : statement.run db with
    | none => exact h
    | some db' => exact hStep statement List.mem_cons_self db db' h hRun

theorem Database.Valid.runAll {db : Database} (h : db.Valid) (statements : List Statement) :
    (runAll statements db).Valid :=
  runAll_keeps h fun statement _ _ _ hValid hRun => statement.valid hValid hRun

section
variable {now : UInt64} {communityId : String} {db : Database} {community : HostedCommunity}

/-! ## The row of the community -/

theorem Mirrored.hasCommunity (h : Mirrored now communityId db community) : db.hasCommunity communityId = true := by
  obtain ⟨row, hRow, hId, -⟩ := h.described
  exact List.any_eq_true.mpr ⟨row, hRow, beq_iff_eq.mpr hId⟩

/-- The row of the community is changed, and the memory as far as the row is read back. -/
theorem Mirrored.update (h : Mirrored now communityId db community) {update : CommunityRow → CommunityRow}
    {name description creator : String} (hId : ∀ row, (update row).id = row.id)
    (hDescription : ∀ row : CommunityRow, row.description = community.description → row.creatorPseudonym =
      community.creatorPseudonymHex → (update row).description = description ∧ (update row).creatorPseudonym = creator) :
    Mirrored now communityId
      { db with hostedCommunities := db.hostedCommunities.map fun row => if row.id == communityId then update row else row }
      { community with name := name, description := description, creatorPseudonymHex := creator } :=
  { h with
    distinct := ⟨h.distinct.members, h.distinct.held, h.distinct.roles, h.distinct.channels, h.distinct.overwrites⟩
    described := by
      obtain ⟨row, hRow, hOwn, hSame, hCreator⟩ := h.described
      refine ⟨update row, List.mem_map.mpr ⟨row, hRow, if_pos (beq_iff_eq.mpr hOwn)⟩, (hId row).trans hOwn, ?_⟩
      exact hDescription row hSame hCreator }

/-! ## Keys -/

theorem Mirrored.rotate (h : Mirrored now communityId db community) (hRoom : community.mek.generation.toNat < i64Max)
    (env : Environment) : Mirrored now communityId
      (runAll [mekStatement env communityId (community.mek.generation + 1)] db)
      { community with mek := { generation := community.mek.generation + 1, key := env.mekKey } } := by
  have hNext : (community.mek.generation + 1).toNat = community.mek.generation.toNat + 1 := by
    rw [UInt64.toNat_add]
    refine Nat.mod_eq_of_lt (Nat.lt_of_le_of_lt (Nat.succ_le_of_lt hRoom) ?_)
    decide
  have hFits : min (community.mek.generation + 1).toNat i64Max = community.mek.generation.toNat + 1 := by
    rw [hNext]
    exact min_eq_left hRoom
  have hNew : (db.serverMek.any fun other => other.communityId == communityId &&
      other.generation == min (community.mek.generation + 1).toNat i64Max) = false := by
    rw [hFits, List.any_eq_false]
    intro row hRow hSame
    rw [Bool.and_eq_true, beq_iff_eq, beq_iff_eq] at hSame
    have hLatest := h.key.latest row hRow hSame.1
    rw [hSame.2] at hLatest
    exact Nat.not_succ_le_self _ hLatest
  rw [runAll_cons, mekStatement, Statement.run, Database.insertMek, if_neg (by rw [hNew]; exact Bool.false_ne_true),
    if_pos h.hasCommunity]
  refine { h with
    distinct := ⟨h.distinct.members, h.distinct.held, h.distinct.roles, h.distinct.channels, h.distinct.overwrites⟩
    key := ⟨⟨_, List.mem_append_right _ List.mem_cons_self, rfl, hFits.trans hNext.symm, rfl⟩, ?_⟩ }
  intro row hRow hOwn
  rw [hNext]
  rcases List.mem_append.mp hRow with hOld | hLast
  · exact Nat.le_succ_of_le (h.key.latest row hOld hOwn)
  · rw [List.mem_singleton.mp hLast, hFits]

/-! ## Members -/

theorem Mirrored.hasMember_iff (h : Mirrored now communityId db community) {pseudonym : String} :
    (communityId, pseudonym) ∈ db.serverMembers.map MemberRow.key ↔ findMember community.members pseudonym ≠ none := by
  rw [findMember, Ne, Keyed.find_eq_none_iff, not_forall]
  simp only [not_forall, not_not, exists_prop]
  constructor
  · intro hKey
    obtain ⟨row, hRow, hSame⟩ := List.mem_map.mp hKey
    obtain ⟨hOwn, hPseudonym⟩ := Prod.mk.inj hSame
    obtain ⟨member, hMember, rfl⟩ := h.members.known row hRow hOwn trivial
    exact ⟨member, hMember, hPseudonym⟩
  · rintro ⟨member, hMember, rfl⟩
    exact List.mem_map.mpr ⟨_, h.members.stored member hMember, rfl⟩

theorem Mirrored.removeMember (h : Mirrored now communityId db community) (target : String) :
    Mirrored now communityId (runAll [.deleteMember communityId target] db)
      { community with members := Keyed.remove ServerMember.pseudonymKeyHex target community.members } := by
  have hOther {key pseudonym : String} (hKey : key = pseudonym) (hDiffers : pseudonym ≠ target) :
      (!(communityId == communityId && key == target)) = true := by
    rw [hKey, beq_false_of_ne hDiffers, Bool.and_false]
    rfl
  have hMembers : MembersMirrored communityId (Keyed.remove ServerMember.pseudonymKeyHex target community.members)
      (db.serverMembers.filter fun row => !(row.communityId == communityId && row.pseudonymKeyHex == target)) :=
    h.members.filter fun member _ => by simp [ServerMember.row, bne]
  exact { h with
    distinct := { h.distinct with
      members := h.distinct.members.sublist (List.filter_sublist.map _)
      held := fun member hMember => h.distinct.held member (List.mem_filter.mp hMember).1
      overwrites := h.distinct.overwrites }
    members := hMembers
    held := fun member hMember => by
      obtain ⟨hMember, hDiffers⟩ := Keyed.mem_remove.mp hMember
      refine (h.held member hMember).congr (fun _ _ => rfl) fun row hOwn => ?_
      obtain ⟨hCommunity, hPseudonym⟩ := Prod.mk.inj hOwn
      refine List.mem_filter.trans (and_iff_left ?_)
      rw [hCommunity]
      exact hOther hPseudonym hDiffers
    timeouts := fun member hMember => by
      obtain ⟨hMember, hDiffers⟩ := Keyed.mem_remove.mp hMember
      refine (h.timeouts member hMember).congr (fun _ _ => ⟨rfl, rfl⟩) fun entry hOwn => ?_
      simp only [List.mem_map]
      constructor
      · rintro ⟨row, hRow, rfl⟩
        exact ⟨row, (List.mem_filter.mp hRow).1, rfl⟩
      · rintro ⟨row, hRow, rfl⟩
        refine ⟨row, List.mem_filter.mpr ⟨hRow, ?_⟩, rfl⟩
        rw [show row.communityId = communityId from hOwn.1]
        exact hOther hOwn.2 hDiffers }

/-- A member without roles or timeout, as its first statement stores it. -/
theorem Mirrored.addMember (h : Mirrored now communityId db community) (hValid : db.Valid) {member : ServerMember}
    (hNew : findMember community.members member.pseudonymKeyHex = none) (hRoles : member.roleIds = [])
    (hTimeout : member.timeoutUntil = none) :
    Mirrored now communityId (runAll [.insertMember (member.row communityId)] db)
      { community with members := community.members ++ [member] } := by
  have hAbsent : (communityId, member.pseudonymKeyHex) ∉ db.serverMembers.map MemberRow.key :=
    fun hThere => h.hasMember_iff.mp hThere hNew
  have hMember : ¬db.hasMember (member.row communityId).communityId (member.row communityId).pseudonymKeyHex = true :=
    fun hThere => hAbsent (Database.hasMember_iff.mp hThere)
  have hCommunity : db.hasCommunity (member.row communityId).communityId = true := h.hasCommunity
  rw [runAll_cons, Statement.run, Database.insertMember, if_neg hMember, if_pos hCommunity]
  have hEach {P : ServerMember → Prop} (hOld : ∀ other ∈ community.members, P other) (hLast : P member) :
      ∀ other ∈ community.members ++ [member], P other := by
    intro other hOther
    rcases List.mem_append.mp hOther with hOther | hOther
    · exact hOld other hOther
    · rwa [List.mem_singleton.mp hOther]
  refine { h with
    distinct := { h.distinct with
      members := nodup_keys_append h.distinct.members fun hThere => ?_
      held := hEach h.distinct.held (hRoles ▸ List.nodup_nil)
      overwrites := h.distinct.overwrites }
    members := h.members.append member
    held := hEach h.held ?_
    timeouts := hEach h.timeouts ?_ }
  · obtain ⟨other, hOther, hSame⟩ := List.mem_map.mp hThere
    exact Keyed.find_eq_none_iff.mp hNew other hOther hSame
  · rw [HeldMirrored, hRoles]
    refine .empty fun row hRow hOwn => hAbsent ?_
    rw [← hOwn]
    exact hValid.heldBy row hRow
  · rw [TimeoutMirrored, hTimeout]
    refine .empty fun entry hEntry hOwn => hAbsent ?_
    obtain ⟨row, hRow, rfl⟩ := List.mem_map.mp hEntry
    have hKey : row.key = (communityId, member.pseudonymKeyHex) := Prod.ext hOwn.1 hOwn.2
    rw [← hKey]
    exact hValid.timedOut row hRow

/-- A change of one member that leaves its key alone. -/
theorem HostedCommunity.Distinct.updateMember (h : community.Distinct) (target : String)
    {change : ServerMember → ServerMember} (hKey : ∀ member, (change member).pseudonymKeyHex = member.pseudonymKeyHex)
    (hHeld : ∀ member ∈ community.members, member.pseudonymKeyHex = target → (change member).roleIds.Nodup) :
    { community with members := updateMember community.members target change }.Distinct :=
  { h with
    members := by
      dsimp only
      rw [Server.updateMember, Keyed.map_key_update hKey]
      exact h.members
    held := Keyed.forall_mem_update h.members (fun member hMember _ => h.held member hMember) hHeld
    overwrites := h.overwrites }

theorem Mirrored.setRoute (h : Mirrored now communityId db community) (pseudonym : String) (blob : List UInt8) :
    Mirrored now communityId (runAll [.updateRouteBlob communityId pseudonym blob] db)
      { community with
        members := updateMember community.members pseudonym fun member => { member with routeBlob := some blob } } := by
  have hUpdate := Keyed.update_eq_map (k := pseudonym) (fun member : ServerMember => { member with routeBlob := some blob })
    h.distinct.members
  refine { h with
    distinct := h.distinct.updateMember pseudonym (fun _ => rfl) fun member hMember _ => h.distinct.held member hMember
    members := ?_
    held := Keyed.forall_mem_update h.distinct.members (fun member hMember _ => h.held member hMember) fun member hMember _ =>
      h.held member hMember
    timeouts := Keyed.forall_mem_update h.distinct.members (fun member hMember _ => h.timeouts member hMember)
      fun member hMember _ => h.timeouts member hMember }
  dsimp only [updateMember]
  rw [hUpdate]
  refine h.members.map (fun member _ => ?_) fun row _ hOwn _ => .inl ⟨?_, trivial⟩
  · dsimp only [ServerMember.row]
    rw [beq_self_eq_true, Bool.true_and]
    by_cases hSame : member.pseudonymKeyHex = pseudonym
    · rw [if_pos hSame, if_pos (beq_iff_eq.mpr hSame)]
    · rw [if_neg hSame, if_neg (mt beq_iff_eq.mp hSame)]
  · split at hOwn <;> exact hOwn

/-! ### Roles of members -/

theorem Mirrored.rowsOfMembers (h : Mirrored now communityId db community) (target : String)
    {change : ServerMember → ServerMember} (hRow : ∀ member, (change member).row communityId = member.row communityId) :
    MembersMirrored communityId (updateMember community.members target change) db.serverMembers :=
  h.members.of_rows (Keyed.map_update hRow)

theorem Mirrored.assign (h : Mirrored now communityId db community) {target : String} {roleId : UInt32}
    (hMember : findMember community.members target ≠ none)
    (hNew : ∀ member ∈ community.members, member.pseudonymKeyHex = target → roleId ∉ member.roleIds) :
    Mirrored now communityId (runAll [.insertMemberRole ⟨communityId, target, roleId⟩] db)
      { community with
        members := updateMember community.members target fun member =>
          { member with roleIds := member.roleIds ++ [roleId] } } := by
  have hThere : db.hasMember communityId target = true := Database.hasMember_iff.mpr (h.hasMember_iff.mpr hMember)
  have hAbsent : ⟨communityId, target, roleId⟩ ∉ db.serverMemberRoles := by
    intro hHeld
    obtain ⟨member, hFound⟩ := Option.ne_none_iff_exists'.mp hMember
    have hKey : member.pseudonymKeyHex = target := Keyed.key_of_find hFound
    have hIn : member ∈ community.members := List.mem_of_find?_eq_some hFound
    obtain ⟨known, hKnown, hSame⟩ := (h.held member hIn).known _ hHeld (by rw [hKey]; rfl) trivial
    cases hSame
    exact hNew member hIn hKey hKnown
  rw [runAll_cons, Statement.run, Database.insertMemberRole, if_neg hAbsent, if_pos hThere]
  exact { h with
    distinct := h.distinct.updateMember target (fun _ => rfl) fun member hIn hKey =>
      (h.distinct.held member hIn).append (List.nodup_singleton _) (List.disjoint_singleton.mpr (hNew member hIn hKey))
    members := h.rowsOfMembers target fun _ => rfl
    held := Keyed.forall_mem_update h.distinct.members
      (fun member hIn hOther => (h.held member hIn).congr (fun _ _ => rfl) fun row hOwn => by
        refine List.mem_append.trans (or_iff_left fun hRow => hOther ?_)
        rw [List.mem_singleton.mp hRow] at hOwn
        exact (Prod.mk.inj hOwn).2.symm)
      fun member hIn hKey => by
        have hAppended := (h.held member hIn).append roleId
        rw [hKey] at hAppended
        dsimp only [HeldMirrored]
        rwa [hKey]
    timeouts := Keyed.forall_mem_update h.distinct.members (fun member hIn _ => h.timeouts member hIn)
      fun member hIn _ => h.timeouts member hIn }

theorem Mirrored.unassign (h : Mirrored now communityId db community) (target : String) (roleId : UInt32) :
    Mirrored now communityId (runAll [.deleteMemberRole communityId target roleId] db)
      { community with members := updateMember community.members target (dropRole roleId) } :=
  { h with
    distinct := h.distinct.updateMember target (fun _ => rfl) fun member hIn _ => (h.distinct.held member hIn).filter _
    members := h.rowsOfMembers target fun _ => rfl
    held := Keyed.forall_mem_update h.distinct.members
      (fun member hIn hOther => (h.held member hIn).congr (fun _ _ => rfl) fun row hOwn => by
        refine List.mem_filter.trans (and_iff_left ?_)
        rw [Bool.not_eq_true', beq_eq_false_iff_ne]
        rintro rfl
        exact hOther (Prod.mk.inj hOwn).2.symm)
      fun member hIn hKey => (h.held member hIn).filter fun held _ => by
        rw [hKey]
        by_cases hSame : held = roleId
        · rw [hSame, bne_self_eq_false, beq_self_eq_true]
          rfl
        · rw [bne_iff_ne.mpr hSame, beq_false_of_ne fun hRows => hSame (MemberRoleRow.mk.inj hRows).2.2]
          rfl
    timeouts := Keyed.forall_mem_update h.distinct.members (fun member hIn _ => h.timeouts member hIn)
      fun member hIn _ => h.timeouts member hIn }

/-! ### Timeouts -/

theorem Mirrored.timeout (h : Mirrored now communityId db community) {target : String} {deadline : UInt64}
    {reason : Option String} (hMember : findMember community.members target ≠ none) :
    Mirrored now communityId (runAll [.insertOrReplaceTimeout ⟨communityId, target, deadline, reason⟩] db)
      { community with members := updateMember community.members target (setTimeout (some deadline)) } := by
  have hThere : db.hasMember communityId target = true := Database.hasMember_iff.mpr (h.hasMember_iff.mpr hMember)
  rw [runAll_cons, Statement.run, Database.insertOrReplaceTimeout, if_pos hThere]
  change Mirrored now communityId
    { db with
      serverMemberTimeouts := db.serverMemberTimeouts.filter (fun other =>
        !(other.communityId == communityId && other.pseudonymKeyHex == target)) ++
          [⟨communityId, target, deadline, reason⟩] } _
  refine { h with
    distinct := h.distinct.updateMember target (fun _ => rfl) fun member hIn _ => h.distinct.held member hIn
    members := h.rowsOfMembers target fun _ => rfl
    held := Keyed.forall_mem_update h.distinct.members (fun member hIn _ => h.held member hIn)
      fun member hIn _ => h.held member hIn
    timeouts := Keyed.forall_mem_update h.distinct.members (fun member hIn hOther => ?_) fun member hIn hKey => ?_ }
  · refine (h.timeouts member hIn).congr (fun _ _ => ⟨rfl, rfl⟩) fun entry hOwn => ?_
    simp only [List.mem_map, List.mem_append, List.mem_singleton, List.mem_filter]
    constructor
    · rintro ⟨row, ⟨hRow, -⟩ | rfl, rfl⟩
      · exact ⟨row, hRow, rfl⟩
      · exact absurd hOwn.2.symm hOther
    · rintro ⟨row, hRow, rfl⟩
      refine ⟨row, .inl ⟨hRow, ?_⟩, rfl⟩
      rw [show row.pseudonymKeyHex = member.pseudonymKeyHex from hOwn.2, beq_false_of_ne hOther, Bool.and_false]
      rfl
  · constructor
    · intro record hRecord
      rw [List.mem_singleton.mp hRecord]
      dsimp only [setTimeout]
      rw [hKey]
      exact List.mem_map_of_mem (List.mem_append_right _ List.mem_cons_self)
    · intro entry hEntry hOwn _
      obtain ⟨row, hRow, rfl⟩ := List.mem_map.mp hEntry
      rcases List.mem_append.mp hRow with hOld | hNew
      · have hTest := (List.mem_filter.mp hOld).2
        rw [show row.communityId = communityId from hOwn.1, show row.pseudonymKeyHex = target from hOwn.2.trans hKey] at hTest
        simp at hTest
      · rw [List.mem_singleton.mp hNew]
        exact ⟨deadline, List.mem_singleton_self _, by rw [← hKey]; rfl⟩

theorem Mirrored.removeTimeout (h : Mirrored now communityId db community) (target : String) :
    Mirrored now communityId (runAll [.deleteTimeout communityId target] db)
      { community with members := updateMember community.members target (setTimeout none) } := by
  refine { h with
    distinct := h.distinct.updateMember target (fun _ => rfl) fun member hIn _ => h.distinct.held member hIn
    members := h.rowsOfMembers target fun _ => rfl
    held := Keyed.forall_mem_update h.distinct.members (fun member hIn _ => h.held member hIn)
      fun member hIn _ => h.held member hIn
    timeouts := Keyed.forall_mem_update h.distinct.members (fun member hIn hOther => ?_) fun member hIn hKey => ?_ }
  · refine (h.timeouts member hIn).congr (fun _ _ => ⟨rfl, rfl⟩) fun entry hOwn => ?_
    simp only [List.mem_map]
    constructor
    · rintro ⟨row, hRow, rfl⟩
      exact ⟨row, (List.mem_filter.mp hRow).1, rfl⟩
    · rintro ⟨row, hRow, rfl⟩
      refine ⟨row, List.mem_filter.mpr ⟨hRow, ?_⟩, rfl⟩
      rw [show row.pseudonymKeyHex = member.pseudonymKeyHex from hOwn.2, beq_false_of_ne hOther, Bool.and_false]
      rfl
  · refine .empty fun entry hEntry hOwn => ?_
    obtain ⟨row, hRow, rfl⟩ := List.mem_map.mp hEntry
    have hTest := (List.mem_filter.mp hRow).2
    rw [show row.communityId = communityId from hOwn.1, show row.pseudonymKeyHex = target from hOwn.2.trans hKey] at hTest
    simp at hTest

/-! ## Roles -/

theorem Mirrored.createRole (h : Mirrored now communityId db community) {role : RoleDefinition}
    (hNew : (communityId, role.id) ∉ db.serverRoles.map RoleRow.key) :
    Mirrored now communityId (runAll [.insertRole ⟨communityId, role⟩] db)
      { community with roles := community.roles ++ [role] } := by
  have hFree : ¬(db.serverRoles.any fun other => other.communityId == communityId && other.role.id == role.id) = true :=
    fun hThere => hNew ((@Database.hasRole_iff db ⟨communityId, role⟩).mp hThere)
  rw [runAll_cons, Statement.run, Database.insertRole, if_neg hFree, if_pos h.hasCommunity]
  refine { h with
    distinct := { h.distinct with
      held := h.distinct.held
      roles := nodup_keys_append h.distinct.roles fun hThere => ?_
      overwrites := h.distinct.overwrites }
    roles := h.roles.append role
    everyone := ?_ }
  · obtain ⟨other, hOther, hSame⟩ := List.mem_map.mp hThere
    exact hNew (List.mem_map.mpr ⟨_, h.roles.stored other hOther, by rw [← hSame]; rfl⟩)
  · obtain ⟨other, hOther, hEveryone⟩ := h.everyone
    exact ⟨other, List.mem_append_left _ hOther, hEveryone⟩

theorem Mirrored.editRole (h : Mirrored now communityId db community) (hValid : db.Valid) {roleId : UInt32}
    {role : RoleDefinition} (edit : RoleEdit) (hRole : findRole community.roles roleId = some role)
    (hEveryone : roleId = roleEveryoneId → ∀ permissions ∈ edit.permissions, readsAsU64 permissions = true) :
    Mirrored now communityId (runAll [.updateRole communityId (edit.apply role)] db)
      { community with roles := Keyed.update RoleDefinition.id roleId edit.apply community.roles } := by
  have hId : role.id = roleId := Keyed.key_of_find hRole
  have hIn : role ∈ community.roles := List.mem_of_find?_eq_some hRole
  have hOnly : ∀ other ∈ community.roles, other.id = roleId → other = role := fun other hOther hSame =>
    List.inj_on_of_nodup_map h.distinct.roles hOther hIn (hSame.trans hId.symm)
  have hUpdate := Keyed.update_eq_map (k := roleId) edit.apply h.distinct.roles
  refine { h with
    distinct := { h.distinct with
      held := h.distinct.held
      roles := ?_
      overwrites := h.distinct.overwrites }
    roles := ?_
    everyone := ?_ }
  · have hIds : (Keyed.update RoleDefinition.id roleId edit.apply community.roles).map RoleDefinition.id =
        community.roles.map RoleDefinition.id := Keyed.map_key_update fun _ => rfl
    dsimp only
    rw [hIds]
    exact h.distinct.roles
  · dsimp only
    rw [hUpdate]
    refine h.roles.map (fun other hOther => ?_) fun row hRow hOwn hReads => ?_
    · dsimp only
      by_cases hSame : other.id = roleId
      · rw [if_pos hSame, if_pos (by simp [hSame, hId, RoleEdit.apply]), hOnly other hOther hSame]
      · rw [if_neg hSame, if_neg (by simp [hSame, hId, RoleEdit.apply])]
    · split at hOwn
      · next hSame =>
        rw [Bool.and_eq_true, beq_iff_eq, beq_iff_eq] at hSame
        refine .inr ⟨role, hIn, List.inj_on_of_nodup_map hValid.roles (h.roles.stored role hIn) hRow ?_⟩
        exact Prod.ext hSame.1.symm hSame.2.symm
      · next hOther =>
        rw [if_neg hOther] at hReads
        exact .inl ⟨hOwn, hReads⟩
  · obtain ⟨other, hOther, hZero, hReads⟩ := h.everyone
    dsimp only
    rw [hUpdate]
    refine ⟨_, List.mem_map_of_mem hOther, ?_⟩
    split
    · next hSame =>
      refine ⟨hZero, ?_⟩
      cases hBits : edit.permissions with
      | none =>
        rw [RoleEdit.apply, hBits]
        exact hReads
      | some permissions =>
        rw [RoleEdit.apply, hBits]
        exact hEveryone (hSame.symm.trans hZero) permissions hBits
    · exact ⟨hZero, hReads⟩

theorem Mirrored.deleteRole (h : Mirrored now communityId db community) {roleId : UInt32} (hRole : roleId ≠ roleEveryoneId) :
    Mirrored now communityId
      (runAll [.deleteRole communityId roleId, .deleteRoleAssignments communityId roleId] db)
      { community with
        roles := Keyed.remove RoleDefinition.id roleId community.roles
        members := community.members.map (dropRole roleId) } := by
  have hEach {P : ServerMember → Prop} (hMember : ∀ member ∈ community.members, P (dropRole roleId member)) :
      ∀ member ∈ community.members.map (dropRole roleId), P member := by
    intro member hIn
    obtain ⟨former, hFormer, rfl⟩ := List.mem_map.mp hIn
    exact hMember former hFormer
  refine { h with
    distinct := { h.distinct with
      members := ?_
      held := hEach fun member hMember => (h.distinct.held member hMember).filter _
      roles := h.distinct.roles.sublist (List.filter_sublist.map _)
      overwrites := h.distinct.overwrites }
    members := h.members.of_rows ?_
    held := hEach fun member hMember => ?_
    timeouts := hEach fun member hMember => h.timeouts member hMember
    roles := ?_
    everyone := ?_ }
  · dsimp only
    rw [List.map_map]
    exact h.distinct.members
  · dsimp only
    rw [List.map_map]
    rfl
  · refine (h.held member hMember).filter fun held _ => ?_
    dsimp only
    rw [beq_self_eq_true, Bool.true_and]
    rfl
  · refine h.roles.filter fun role _ => ?_
    dsimp only
    rw [beq_self_eq_true, Bool.true_and]
    rfl
  · obtain ⟨role, hIn, hZero, hReads⟩ := h.everyone
    exact ⟨role, Keyed.mem_remove.mpr ⟨hIn, fun hSame => hRole (hSame.symm.trans hZero)⟩, hZero, hReads⟩

/-! ## Channels -/

theorem Mirrored.hasChannel (h : Mirrored now communityId db community) {channel : ServerChannel}
    (hChannel : channel ∈ community.channels) : db.hasChannel communityId channel.id = true :=
  Database.hasChannel_iff.mpr (List.mem_map.mpr ⟨_, h.channels.stored channel hChannel, rfl⟩)

theorem Mirrored.createChannel (h : Mirrored now communityId db community) (hValid : db.Valid) {channel : ServerChannel}
    (hNew : db.hasChannel communityId channel.id = false) (hType : channel.channelType ∈ ["text", "voice"])
    (hOverwrites : channel.permissionOverwrites = []) :
    Mirrored now communityId (runAll [.insertChannel (channel.row communityId)] db)
      { community with channels := community.channels ++ [channel] } := by
  have hAbsent : (communityId, channel.id) ∉ db.serverChannels.map ChannelRow.key := fun hThere => by
    rw [← Database.hasChannel_iff, hNew] at hThere
    cases hThere
  have hFree : ¬db.hasChannel (channel.row communityId).communityId (channel.row communityId).id = true :=
    ne_true_of_eq_false hNew
  have hAllowed : (channel.row communityId).channelType ∈ ["text", "voice"] ∧
      db.hasCommunity (channel.row communityId).communityId = true := ⟨hType, h.hasCommunity⟩
  rw [runAll_cons, Statement.run, Database.insertChannel, if_neg hFree, if_pos hAllowed]
  have hEach {P : ServerChannel → Prop} (hOld : ∀ other ∈ community.channels, P other) (hLast : P channel) :
      ∀ other ∈ community.channels ++ [channel], P other := by
    intro other hOther
    rcases List.mem_append.mp hOther with hOther | hOther
    · exact hOld other hOther
    · rwa [List.mem_singleton.mp hOther]
  refine { h with
    distinct := { h.distinct with
      held := h.distinct.held
      channels := nodup_keys_append h.distinct.channels fun hThere => ?_
      overwrites := hEach h.distinct.overwrites (hOverwrites ▸ List.nodup_nil) }
    channels := h.channels.append channel
    overwrites := hEach h.overwrites ?_ }
  · obtain ⟨other, hOther, hSame⟩ := List.mem_map.mp hThere
    rw [← hSame, h.hasChannel hOther] at hNew
    cases hNew
  · rw [OverwritesMirrored, hOverwrites]
    refine .empty fun row hRow hOwn => hAbsent ?_
    rw [← hOwn]
    exact hValid.overwritten row hRow

theorem Mirrored.deleteChannel (h : Mirrored now communityId db community) (channelId : String) :
    Mirrored now communityId (runAll [.deleteChannel communityId channelId] db)
      { community with channels := Keyed.remove ServerChannel.id channelId community.channels } := by
  refine { h with
    distinct := { h.distinct with
      held := h.distinct.held
      channels := h.distinct.channels.sublist (List.filter_sublist.map _)
      overwrites := fun channel hChannel => h.distinct.overwrites channel (List.mem_filter.mp hChannel).1 }
    channels := ?_
    overwrites := fun channel hChannel => ?_ }
  · refine h.channels.filter fun channel _ => ?_
    dsimp only [ServerChannel.row]
    rw [beq_self_eq_true, Bool.true_and]
    rfl
  · obtain ⟨hIn, hDiffers⟩ := Keyed.mem_remove.mp hChannel
    refine (h.overwrites channel hIn).congr (fun _ _ => rfl) fun row hOwn => ?_
    refine List.mem_filter.trans (and_iff_left ?_)
    rw [(Prod.mk.inj hOwn).2, beq_false_of_ne hDiffers, Bool.and_false]
    rfl

theorem HostedCommunity.Distinct.updateChannel (h : community.Distinct) (channelId : String)
    {change : ServerChannel → ServerChannel} (hId : ∀ channel, (change channel).id = channel.id)
    (hOverwrites : ∀ channel ∈ community.channels,
      ((change channel).permissionOverwrites.map overwriteTarget).Nodup) :
    { community with channels := Keyed.update ServerChannel.id channelId change community.channels }.Distinct :=
  { h with
    held := h.held
    channels := by
      dsimp only
      rw [Keyed.map_key_update hId]
      exact h.channels
    overwrites := Keyed.forall_mem_update h.channels (fun channel hChannel _ => h.overwrites channel hChannel)
      fun channel hChannel _ => hOverwrites channel hChannel }

theorem Mirrored.renameChannel (h : Mirrored now communityId db community) (channelId newName : String) :
    Mirrored now communityId (runAll [.updateChannelName communityId channelId newName] db)
      { community with
        channels := Keyed.update ServerChannel.id channelId (fun channel => { channel with name := newName })
          community.channels } := by
  have hUpdate := Keyed.update_eq_map (k := channelId) (fun channel : ServerChannel => { channel with name := newName })
    h.distinct.channels
  refine { h with
    distinct := h.distinct.updateChannel channelId (fun _ => rfl) h.distinct.overwrites
    channels := ?_
    overwrites := Keyed.forall_mem_update h.distinct.channels (fun channel hChannel _ => h.overwrites channel hChannel)
      fun channel hChannel _ => h.overwrites channel hChannel }
  dsimp only
  rw [hUpdate]
  refine h.channels.map (fun channel _ => ?_) fun row _ hOwn _ => .inl ⟨?_, trivial⟩
  · dsimp only [ServerChannel.row]
    rw [beq_self_eq_true, Bool.true_and]
    by_cases hSame : channel.id = channelId
    · rw [if_pos hSame, if_pos (beq_iff_eq.mpr hSame)]
    · rw [if_neg hSame, if_neg (mt beq_iff_eq.mp hSame)]
  · split at hOwn <;> exact hOwn

/-! ### Overwrites -/

theorem overwriteType_name (targetType : OverwriteType) : overwriteType targetType.name = targetType := by
  cases targetType <;> rfl

theorem name_overwriteType {targetType : String} (hTyped : targetType ∈ ["role", "member"]) :
    (overwriteType targetType).name = targetType := by
  rcases List.mem_cons.mp hTyped with rfl | hRest
  · rfl
  · rw [List.mem_singleton.mp hRest]
    rfl

/-- The row of an overwrite is found by its key. -/
theorem sameOverwrite_row {channelId targetType targetId : String} (hTyped : targetType ∈ ["role", "member"])
    (overwrite : PermissionOverwrite) :
    Database.sameOverwrite communityId (overwrite.row communityId channelId) channelId targetType targetId =
      ChannelOverwriteOf targetType targetId overwrite := by
  have hName : (overwrite.targetType.name == targetType) = (overwrite.targetType == overwriteType targetType) := by
    rw [Bool.eq_iff_iff, beq_iff_eq, beq_iff_eq]
    constructor
    · rintro rfl
      exact (overwriteType_name _).symm
    · rintro hSame
      rw [hSame, name_overwriteType hTyped]
  dsimp only [Database.sameOverwrite, PermissionOverwrite.row, ChannelOverwriteOf]
  rw [beq_self_eq_true, beq_self_eq_true, hName]
  rfl

theorem mem_upsertOverwrite_iff {overwrite other : PermissionOverwrite} {overwrites : List PermissionOverwrite}
    (hKeys : (overwrites.map overwriteTarget).Nodup) :
    other ∈ upsertOverwrite overwrite overwrites ↔
      other = overwrite ∨ other ∈ overwrites ∧ overwriteTarget other ≠ overwriteTarget overwrite := by
  induction overwrites with
  | nil => simp [upsertOverwrite]
  | cons existing rest ih =>
    obtain ⟨hFirst, hRest⟩ := List.nodup_cons.mp hKeys
    have hSame : (existing.targetType = overwrite.targetType ∧ existing.targetId = overwrite.targetId) ↔
        overwriteTarget existing = overwriteTarget overwrite := Prod.mk.injEq .. ▸ Iff.rfl
    rw [upsertOverwrite]
    split
    · next hHere =>
      rw [hSame] at hHere
      rw [List.mem_cons, List.mem_cons]
      refine or_congr_right ⟨fun hIn => ⟨.inr hIn, fun hKey => hFirst ?_⟩, ?_⟩
      · exact List.mem_map.mpr ⟨other, hIn, hKey.trans hHere.symm⟩
      · rintro ⟨rfl | hIn, hKey⟩
        · exact absurd hHere hKey
        · exact hIn
    · next hOther =>
      rw [hSame] at hOther
      rw [List.mem_cons, ih hRest, List.mem_cons]
      constructor
      · rintro (rfl | hNew | ⟨hIn, hKey⟩)
        · exact .inr ⟨.inl rfl, hOther⟩
        · exact .inl hNew
        · exact .inr ⟨.inr hIn, hKey⟩
      · rintro (hNew | ⟨rfl | hIn, hKey⟩)
        · exact .inr (.inl hNew)
        · exact .inl rfl
        · exact .inr (.inr ⟨hIn, hKey⟩)

theorem nodup_upsertOverwrite {overwrite : PermissionOverwrite} {overwrites : List PermissionOverwrite}
    (hKeys : (overwrites.map overwriteTarget).Nodup) :
    ((upsertOverwrite overwrite overwrites).map overwriteTarget).Nodup := by
  induction overwrites with
  | nil => exact List.nodup_singleton _
  | cons existing rest ih =>
    obtain ⟨hFirst, hRest⟩ := List.nodup_cons.mp hKeys
    rw [upsertOverwrite]
    split
    · next hHere =>
      have hSame : overwriteTarget existing = overwriteTarget overwrite := Prod.ext hHere.1 hHere.2
      exact List.nodup_cons.mpr ⟨hSame ▸ hFirst, hRest⟩
    · next hOther =>
      refine List.nodup_cons.mpr ⟨fun hIn => ?_, ih hRest⟩
      obtain ⟨other, hUpserted, hSame⟩ := List.mem_map.mp hIn
      rcases (mem_upsertOverwrite_iff hRest).mp hUpserted with rfl | ⟨hOld, -⟩
      · exact hOther ⟨(congrArg Prod.fst hSame).symm, (congrArg Prod.snd hSame).symm⟩
      · exact hFirst (List.mem_map.mpr ⟨other, hOld, hSame⟩)

theorem Mirrored.rowsOfChannels (h : Mirrored now communityId db community) (channelId : String)
    {change : ServerChannel → ServerChannel} (hRow : ∀ channel, (change channel).row communityId = channel.row communityId) :
    ChannelsMirrored communityId (Keyed.update ServerChannel.id channelId change community.channels) db.serverChannels :=
  h.channels.of_rows (Keyed.map_update hRow)

theorem Mirrored.setOverwrite (h : Mirrored now communityId db community) {channelId targetType targetId : String}
    {allow deny : Permissions} (hTyped : targetType ∈ ["role", "member"])
    (hFound : Keyed.find ServerChannel.id channelId community.channels ≠ none) :
    Mirrored now communityId
      (runAll [.insertOrReplaceOverwrite ⟨communityId, channelId, targetType, targetId, allow, deny⟩] db)
      { community with
        channels := Keyed.update ServerChannel.id channelId (fun channel => { channel with
          permissionOverwrites := upsertOverwrite ⟨overwriteType targetType, targetId, allow, deny⟩
            channel.permissionOverwrites }) community.channels } := by
  have hChannel : db.hasChannel communityId channelId = true := by
    obtain ⟨channel, hFound⟩ := Option.ne_none_iff_exists'.mp hFound
    rw [← Keyed.key_of_find hFound]
    exact h.hasChannel (List.mem_of_find?_eq_some hFound)
  rw [runAll_cons, Statement.run, Database.insertOrReplaceOverwrite, if_pos ⟨hTyped, hChannel⟩]
  change Mirrored now communityId
    { db with
      serverChannelOverwrites := db.serverChannelOverwrites.filter (fun other =>
        !Database.sameOverwrite communityId other channelId targetType targetId) ++
          [⟨communityId, channelId, targetType, targetId, allow, deny⟩] } _
  refine { h with
    distinct := h.distinct.updateChannel channelId (fun _ => rfl) fun channel hIn =>
      nodup_upsertOverwrite (h.distinct.overwrites channel hIn)
    channels := h.rowsOfChannels channelId fun _ => rfl
    overwrites := Keyed.forall_mem_update h.distinct.channels (fun channel hIn hOther => ?_) fun channel hIn hSame => ?_ }
  · refine (h.overwrites channel hIn).congr (fun _ _ => rfl) fun row hOwn => ?_
    have hRowChannel : row.channelId ≠ channelId := fun hRow => hOther ((Prod.mk.inj hOwn).2.symm.trans hRow)
    rw [List.mem_append, List.mem_singleton, List.mem_filter]
    constructor
    · rintro (⟨hRow, -⟩ | rfl)
      · exact hRow
      · exact absurd rfl hRowChannel
    · intro hRow
      refine .inl ⟨hRow, ?_⟩
      rw [Database.sameOverwrite, beq_false_of_ne hRowChannel, Bool.and_false]
      rfl
  · have hUpserted : OverwritesMirrored communityId
        { channel with permissionOverwrites :=
            channel.permissionOverwrites.filter (fun other => !ChannelOverwriteOf targetType targetId other) ++
              [⟨overwriteType targetType, targetId, allow, deny⟩] }
        (db.serverChannelOverwrites.filter (fun other =>
          !Database.sameOverwrite communityId other channelId targetType targetId) ++
            [(⟨overwriteType targetType, targetId, allow, deny⟩ : PermissionOverwrite).row communityId channel.id]) := by
      refine ((h.overwrites channel hIn).filter fun other _ => ?_).append _
      rw [hSame, sameOverwrite_row hTyped]
    have hRow : (⟨overwriteType targetType, targetId, allow, deny⟩ : PermissionOverwrite).row communityId channel.id =
        ⟨communityId, channelId, targetType, targetId, allow, deny⟩ := by
      dsimp only [PermissionOverwrite.row]
      rw [name_overwriteType hTyped, hSame]
    rw [hRow] at hUpserted
    refine hUpserted.of_mem_iff fun other => ?_
    rw [mem_upsertOverwrite_iff (h.distinct.overwrites channel hIn), List.mem_append, List.mem_singleton, List.mem_filter,
      or_comm]
    refine or_congr_left (and_congr_right' ?_)
    rw [Bool.not_eq_true', ← Bool.not_eq_true, ChannelOverwriteOf, Bool.and_eq_true, beq_iff_eq, beq_iff_eq]
    exact not_congr (Prod.mk.injEq .. ▸ Iff.rfl)

theorem Mirrored.deleteOverwrite (h : Mirrored now communityId db community) {channelId targetType targetId : String}
    (hTyped : targetType ∈ ["role", "member"]) :
    Mirrored now communityId (runAll [.deleteOverwrite communityId channelId targetType targetId] db)
      { community with
        channels := Keyed.update ServerChannel.id channelId (fun channel => { channel with
          permissionOverwrites := channel.permissionOverwrites.filter fun overwrite =>
            !ChannelOverwriteOf targetType targetId overwrite }) community.channels } := by
  refine { h with
    distinct := h.distinct.updateChannel channelId (fun _ => rfl) fun channel hIn =>
      (h.distinct.overwrites channel hIn).sublist (List.filter_sublist.map _)
    channels := h.rowsOfChannels channelId fun _ => rfl
    overwrites := Keyed.forall_mem_update h.distinct.channels (fun channel hIn hOther => ?_) fun channel hIn hSame => ?_ }
  · refine (h.overwrites channel hIn).congr (fun _ _ => rfl) fun row hOwn => ?_
    refine List.mem_filter.trans (and_iff_left ?_)
    have hRowChannel : row.channelId ≠ channelId := fun hRow => hOther ((Prod.mk.inj hOwn).2.symm.trans hRow)
    rw [Database.sameOverwrite, beq_false_of_ne hRowChannel, Bool.and_false]
    rfl
  · refine (h.overwrites channel hIn).filter fun other _ => ?_
    rw [hSame, sameOverwrite_row hTyped]

/-! ## Joins -/

theorem nodup_defaultRoleIds (isFirstMember : Bool) : (defaultRoleIds isFirstMember).Nodup := by
  cases isFirstMember <;> decide

/-- The last member gets role after role. -/
theorem Mirrored.assignEach {member : ServerMember} (hNew : findMember community.members member.pseudonymKeyHex = none)
    {held : List UInt32} (roleIds : List UInt32) (hRoles : (held ++ roleIds).Nodup)
    (h : Mirrored now communityId db
      { community with members := community.members ++ [{ member with roleIds := held }] }) :
    Mirrored now communityId
      (runAll (roleIds.map fun roleId => .insertMemberRole ⟨communityId, member.pseudonymKeyHex, roleId⟩) db)
      { community with members := community.members ++ [{ member with roleIds := held ++ roleIds }] } := by
  induction roleIds generalizing held db with
  | nil =>
    rw [List.append_nil]
    exact h
  | cons roleId rest ih =>
    have hThere : findMember (community.members ++ [{ member with roleIds := held }]) member.pseudonymKeyHex ≠ none := by
      rw [findMember, Keyed.find_append]
      change (findMember community.members member.pseudonymKeyHex).or _ ≠ none
      rw [hNew, Option.none_or, Keyed.find_cons, if_pos rfl]
      exact Option.some_ne_none _
    have hAbsent : ∀ other ∈ community.members ++ [{ member with roleIds := held }],
        other.pseudonymKeyHex = member.pseudonymKeyHex → roleId ∉ other.roleIds := by
      intro other hOther hSame
      rcases List.mem_append.mp hOther with hOld | hLast
      · exact absurd hSame (Keyed.find_eq_none_iff.mp hNew other hOld)
      · rw [List.mem_singleton.mp hLast]
        exact fun hHeld => List.disjoint_of_nodup_append hRoles hHeld List.mem_cons_self
    have hAssigned := h.assign hThere hAbsent
    have hLast : updateMember (community.members ++ [{ member with roleIds := held }]) member.pseudonymKeyHex
        (fun other => { other with roleIds := other.roleIds ++ [roleId] }) =
        community.members ++ [{ member with roleIds := held ++ [roleId] }] :=
      @Keyed.update_append_singleton _ _ _ ServerMember.pseudonymKeyHex _
        (fun other => { other with roleIds := other.roleIds ++ [roleId] }) { member with roleIds := held } hNew
    dsimp only at hAssigned
    rw [hLast] at hAssigned
    rw [List.map_cons, runAll_cons]
    have hAll := ih (by rwa [List.append_assoc]) hAssigned
    rwa [List.append_assoc] at hAll

theorem Mirrored.addMemberWithRoles (h : Mirrored now communityId db community) (hValid : db.Valid)
    {member : ServerMember} (hNew : findMember community.members member.pseudonymKeyHex = none)
    (hRoles : member.roleIds.Nodup) (hTimeout : member.timeoutUntil = none) :
    Mirrored now communityId
      (runAll (.insertMember (member.row communityId) :: member.roleIds.map fun roleId =>
        .insertMemberRole ⟨communityId, member.pseudonymKeyHex, roleId⟩) db)
      { community with members := community.members ++ [member] } := by
  have hAdded : Mirrored now communityId (runAll [.insertMember (member.row communityId)] db)
      { community with members := community.members ++ [{ member with roleIds := [] }] } :=
    @Mirrored.addMember _ _ _ _ h hValid { member with roleIds := [] } hNew rfl hTimeout
  exact @Mirrored.assignEach _ _ _ _ member hNew [] member.roleIds hRoles hAdded

theorem Mirrored.recordCreator (h : Mirrored now communityId db community) (creator : String) :
    Mirrored now communityId (runAll [.recordCreator communityId creator] db)
      { community with creatorPseudonymHex := creator } :=
  h.update (fun _ => rfl) fun _ hDescription _ => ⟨hDescription, rfl⟩

theorem Mirrored.join (h : Mirrored now communityId db community) (hValid : db.Valid) (env : Environment)
    {sender : String} (displayName : String) (routeBlob : Option (List UInt8))
    (hNew : findMember community.members sender = none) :
    Mirrored now communityId (runAll (joinStatements env communityId sender community displayName routeBlob) db)
      ((Change.join displayName env.timestampNow routeBlob).apply sender community) := by
  have hAdded := @Mirrored.addMemberWithRoles _ _ _ _ h hValid
    (newMember community sender displayName env.timestampNow none) hNew (nodup_defaultRoleIds _) rfl
  rw [joinStatements, runAll_append, runAll_append]
  have hRecorded {db : Database} {joined : HostedCommunity} (hJoined : Mirrored now communityId db joined) :
      Mirrored now communityId
        (runAll (if community.members.isEmpty then [.recordCreator communityId sender] else []) db)
        { joined with
          creatorPseudonymHex := if community.members.isEmpty then sender else joined.creatorPseudonymHex } := by
    split
    · exact hJoined.recordCreator sender
    · exact hJoined
  cases routeBlob with
  | none => exact hRecorded hAdded
  | some blob =>
    have hRouted := (hRecorded hAdded).setRoute sender blob
    have hLast : updateMember (community.members ++ [newMember community sender displayName env.timestampNow none]) sender
        (fun member => { member with routeBlob := some blob }) =
        community.members ++ [newMember community sender displayName env.timestampNow (some blob)] :=
      @Keyed.update_append_singleton _ _ _ ServerMember.pseudonymKeyHex _
        (fun member => { member with routeBlob := some blob })
        (newMember community sender displayName env.timestampNow none) hNew
    dsimp only at hRouted
    rw [hLast] at hRouted
    rw [h.named]
    exact hRouted

end

/-! ## Requests -/

/-- What the tables take as it is: a kind of target that they know, and permissions of @everyone that are read back. -/
def MemberRequest.Storable : MemberRequest → Prop
  | .setChannelOverwrite _ targetType _ _ _ | .deleteChannelOverwrite _ targetType _ => targetType ∈ ["role", "member"]
  | .editRole roleId edit =>
    roleId = roleEveryoneId → ∀ permissions ∈ edit.permissions, readsAsU64 permissions = true
  | _ => True

def IncomingRequest.Storable (incoming : IncomingRequest) : Prop :=
  match incoming.request with
  | .join _ _ _ => True
  | .member request => request.Storable

section
variable {now : UInt64} {env : Environment} {communityId sender : String} {s : ServerState} {community : HostedCommunity}

theorem Mirrored.aside {db : Database} (h : Mirrored now communityId db community) {statement : Statement}
    (hLeaves : statement.LeavesRows communityId) : Mirrored now communityId (runAll [statement] db) community := by
  rw [runAll_cons]
  cases hRun : statement.run db with
  | none => exact h
  | some db' => exact h.of_rowsKept (statement.rowsKept hLeaves hRun)

theorem Mirrored.departure {db : Database} (h : Mirrored now communityId db community)
    (hRoom : community.mek.generation.toNat < i64Max) (env : Environment) (target : String) :
    Mirrored now communityId (runAll (departure env communityId community target).statements db)
      (departure env communityId community target).community :=
  (h.removeMember target).rotate hRoom env

theorem Mirrored.rename {db : Database} (h : Mirrored now communityId db community) (newName : Option String) :
    Mirrored now communityId (runAll (newName.map (Statement.rename communityId)).toList db)
      { community with name := newName.getD community.name } := by
  cases newName with
  | none => exact h
  | some newName => exact h.update (fun _ => rfl) fun _ hDescription hCreator => ⟨hDescription, hCreator⟩

theorem Mirrored.describe {db : Database} (h : Mirrored now communityId db community) (newDescription : Option String) :
    Mirrored now communityId (runAll (newDescription.map (Statement.describe communityId)).toList db)
      { community with description := newDescription.getD community.description } := by
  cases newDescription with
  | none => exact h
  | some newDescription => exact h.update (fun _ => rfl) fun _ _ hCreator => ⟨rfl, hCreator⟩

theorem memberEffect_mirrored {request : MemberRequest} (h : Mirrored now communityId s.db community) (hValid : s.db.Valid)
    (hRoom : community.mek.generation.toNat < i64Max) (hFound : s.hosted.lookup communityId = some community)
    (hPasses : request.Passes env sender communityId s) (hStorable : request.Storable) :
    Mirrored now communityId (runAll (request.effect env communityId sender community).statements s.db)
      (request.effect env communityId sender community).community := by
  obtain rfl := h.named
  have hMeets {condition : HostedCommunity → Prop} (hMet : Meets community.communityId s condition) : condition community := by
    obtain ⟨found, hLookup, hCondition⟩ := hMet
    rwa [Option.some.inj (hFound.symm.trans hLookup)]
  cases request with
  | sendMessage => exact h.aside (.inr trivial)
  | unban => exact h.aside (.inr trivial)
  | getMessages | requestMek | getBanList | getRoles => exact h
  | leave => exact h.departure hRoom env sender
  | kick target => exact h.departure hRoom env target
  | ban target => exact (h.aside (.inr trivial)).departure hRoom env target
  | rotateMek => exact h.rotate hRoom env
  | createChannel name channelType =>
    obtain ⟨-, hType, -, hFree, -⟩ := hMeets hPasses
    exact @Mirrored.createChannel _ _ _ _ h hValid (createdChannel env community name channelType) hFree hType rfl
  | deleteChannel channelId =>
    exact h.deleteChannel channelId
  | renameChannel channelId newName =>
    exact h.renameChannel channelId newName
  | updateCommunity newName newDescription =>
    dsimp only [MemberRequest.effect]
    rw [runAll_append]
    exact (h.rename newName).describe newDescription
  | createRole name color permissions hoist mentionable =>
    obtain ⟨-, -, hFree, -⟩ := hMeets hPasses
    refine h.createRole fun hThere => ne_true_of_eq_false hFree ?_
    exact (@Database.hasRole_iff s.db
      ⟨community.communityId, createdRole sender community name color permissions hoist mentionable⟩).mpr hThere
  | editRole roleId edit =>
    obtain ⟨-, role, hRole, -⟩ := hMeets hPasses
    dsimp only [MemberRequest.effect]
    rw [hRole]
    exact h.editRole hValid edit hRole hStorable
  | deleteRole roleId =>
    exact h.deleteRole (hMeets hPasses).2.1
  | assignRole target roleId =>
    have hThere := (hMeets hPasses).2.2.2
    dsimp only [MemberRequest.effect]
    split
    · exact h
    · next hNew =>
      refine h.assign hThere fun member hMember hSame hHeld => hNew ?_
      have hFoundMember : findMember community.members target = some member := by
        rw [← hSame]
        exact Keyed.find_of_mem h.distinct.members hMember
      rw [hFoundMember]
      exact decide_eq_true hHeld
  | unassignRole target roleId =>
    exact h.unassign target roleId
  | setChannelOverwrite channelId targetType targetId allow deny =>
    exact h.setOverwrite hStorable (hMeets hPasses).2
  | deleteChannelOverwrite channelId targetType targetId =>
    exact h.deleteOverwrite hStorable
  | timeoutMember target durationSeconds reason =>
    exact h.timeout (hMeets hPasses).2.2
  | removeTimeout target =>
    exact h.removeTimeout target

theorem effect_mirrored {incoming : IncomingRequest} (h : Mirrored now communityId s.db community) (hValid : s.db.Valid)
    (hRoom : community.mek.generation.toNat < i64Max) (hFound : s.hosted.lookup communityId = some community)
    (hTarget : incoming.target = some communityId) (hPasses : incoming.Passes s) (hStorable : incoming.Storable) :
    Mirrored now communityId (runAll (incoming.effect communityId community).statements s.db)
      (incoming.effect communityId community).community := by
  obtain ⟨env, sender, routing, request⟩ := incoming
  cases request with
  | join pseudonym displayName routeBlob =>
    dsimp only [IncomingRequest.effect, joinEffect]
    split
    · next hNew => exact h.join hValid env displayName _ hNew
    · exact h
    · exact h.setRoute sender _
  | member request =>
    obtain ⟨resolved, hResolved, hPasses⟩ := hPasses
    cases hTarget.symm.trans hResolved
    exact memberEffect_mirrored h hValid hRoom hFound hPasses hStorable

end

end Rekindle.Server
