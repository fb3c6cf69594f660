import Rekindle.Server.Representation

/-! # Requests that keep members and roles well formed -/
namespace Rekindle.Server
set_option autoImplicit false
open Fallible Runs

/-- What a join must find: a hosted community if it came by a route, and the default roles of the
member it admits. -/
structure Admissible (state : ServerState) (sender : String) (routing : Routing) : Prop where
  hosted : routing.ipcCommunityId = none → ∀ communityId, routing.joinTarget = some communityId →
    communityId ∈ state.hosted
  defaults : ∀ communityId community, routing.joinTarget = some communityId →
    state.hosted.lookup communityId = some community →
    findMember community.members sender = none → state.db.isBanned communityId sender = false →
    defaultRoleIds community.members.isEmpty ⊆ roleIdsOf community.roles

/-! ## Steps -/

section
variable {s t : ServerState} {communityId : String} {community changed : HostedCommunity} {ε β : Type}
variable {statement : Database → Option Database}

theorem ServerState.WellFormed.of_rosterKept (h : s.WellFormed) (hKept : RosterKept s t) :
    t.WellFormed := by
  refine ⟨fun hFault => h.faultless (hKept.faults.subset hFault), ?_, fun id after hAfter => ?_⟩
  · obtain ⟨hMembers, hRoles, hDistinct, hEveryone, hExist⟩ := h.tables
    refine ⟨?_, ?_, ?_, ?_, ?_⟩
    · rwa [hKept.members]
    · rwa [hKept.roles]
    · rwa [hKept.memberRoles]
    · rwa [hKept.members, hKept.memberRoles]
    · rwa [hKept.memberRoles, hKept.roles]
  · have hSame := hKept.hosted id
    rw [hAfter, Option.map_some] at hSame
    obtain ⟨before, hBefore, hCore⟩ := Option.map_eq_some_iff.mp hSame.symm
    obtain ⟨hWellFormed, hNamed, hRoles⟩ := h.hosted id before hBefore
    obtain ⟨hId, hRest⟩ := Prod.mk.inj hCore
    obtain ⟨hMembers, hRoleList⟩ := Prod.mk.inj hRest
    refine ⟨⟨?_, ?_, ?_⟩, hId ▸ hNamed, ?_⟩
    · exact hMembers ▸ hWellFormed.members
    · exact hRoleList ▸ hWellFormed.roles
    · exact hMembers ▸ hRoleList ▸ hWellFormed.held
    · rw [hKept.roles]
      exact hRoleList ▸ hRoles

theorem ServerState.WellFormed.set (h : s.WellFormed) (hStored : changed.Stored communityId s.db) :
    { s with hosted := s.hosted.insert communityId changed }.WellFormed := by
  refine ⟨h.faultless, h.tables, fun other found hFound => ?_⟩
  by_cases hOther : other = communityId
  · subst hOther
    rw [Finmap.lookup_insert, Option.some_inj] at hFound
    exact hFound ▸ hStored
  · rw [Finmap.lookup_insert_of_ne _ hOther] at hFound
    exact h.hosted other found hFound

/-- The role rows are still there. -/
def KeepsRoleRows (before after : Database) : Prop :=
  before.serverRoles.map RoleRow.key ⊆ after.serverRoles.map RoleRow.key

theorem HostedCommunity.Stored.mono {db db' : Database} (h : community.Stored communityId db)
    (hRoles : KeepsRoleRows db db') : community.Stored communityId db' :=
  ⟨h.wellFormed, h.named, fun roleId hRole => hRoles (h.roles roleId hRole)⟩

/-- After a statement that keeps the tables well formed, if it succeeds. -/
theorem ServerState.WellFormed.executed (h : s.WellFormed)
    (hStatement : ∀ db, statement s.db = some db → db.WellFormed ∧ KeepsRoleRows s.db db) :
    { s with dbFaults := s.dbFaults.tail, db := (statement s.db).getD s.db }.WellFormed := by
  cases hRun : statement s.db with
  | none => exact ⟨tail_faultless h.faultless, h.tables, h.hosted⟩
  | some db =>
    obtain ⟨hTables, hRoles⟩ := hStatement db hRun
    exact ⟨tail_faultless h.faultless, hTables,
      fun id community hCommunity => (h.hosted id community hCommunity).mono hRoles⟩

theorem ServerState.WellFormed.queried (h : s.WellFormed) :
    { s with dbFaults := s.dbFaults.tail }.WellFormed :=
  ⟨tail_faultless h.faultless, h.tables, h.hosted⟩

theorem ends_executed {f : Unit → EStateM ε ServerState β} (h : s.WellFormed)
    (hStatement : ∀ db, statement s.db = some db → db.WellFormed ∧ KeepsRoleRows s.db db)
    (hRest : ∀ t, t.WellFormed → t.hosted = s.hosted → Ends ServerState.WellFormed (f ()) t) :
    Ends ServerState.WellFormed (executeIgnoring statement >>= f) s :=
  Ends.bind_of_ok (executeIgnoring_run_of_faultless h.faultless statement)
    (hRest _ (h.executed hStatement) rfl)

theorem ends_of_rosterKept {x : EStateM ε ServerState β} (h : s.WellFormed) (hKept : Keeps RosterKept x) :
    Ends ServerState.WellFormed x s :=
  Ends.of_keeps hKept fun _ => h.of_rosterKept

theorem ends_elsewhere {x : EStateM ε ServerState β} (h : s.WellFormed) (hElsewhere : Keeps Elsewhere x) :
    Ends ServerState.WellFormed x s :=
  Ends.of_keeps hElsewhere fun _ hKept => h.of_rosterKept hKept.roster

theorem ends_set {f : Unit → EStateM ε ServerState β} (h : s.WellFormed) (hStored : changed.Stored communityId s.db)
    (hRest : ∀ t, t.WellFormed → t.db = s.db → t.hosted.lookup communityId = some changed →
      Ends ServerState.WellFormed (f ()) t) :
    Ends ServerState.WellFormed (setCommunity communityId changed >>= f) s :=
  hRest { s with hosted := s.hosted.insert communityId changed } (h.set hStored) rfl
    (Finmap.lookup_insert _)

end

/-! ## Role handlers -/

theorem mem_deleteRole {db : Database} {communityId : String} {roleId : UInt32} {key : String × UInt32}
    (hKey : key ∈ db.serverRoles.map RoleRow.key) (hOther : key ≠ (communityId, roleId)) :
    key ∈ (db.serverRoles.filter fun row =>
      !(row.communityId == communityId && row.role.id == roleId)).map RoleRow.key := by
  obtain ⟨row, hRow, rfl⟩ := List.mem_map.mp hKey
  refine List.mem_map.mpr ⟨row, List.mem_filter.mpr ⟨hRow, ?_⟩, rfl⟩
  rw [Bool.not_eq_true', ← Bool.not_eq_true, Bool.and_eq_true, beq_iff_eq, beq_iff_eq]
  rintro ⟨hCommunity, hId⟩
  exact hOther (Prod.ext hCommunity hId)

/-- A role that does not exist counts as the highest of all. -/
theorem exists_of_rolePosition_lt {community : HostedCommunity} {roleId : UInt32} {position : Position}
    (h : rolePosition community roleId < position) : roleId ∈ roleIdsOf community.roles := by
  unfold rolePosition at h
  cases hRole : findRole community.roles roleId with
  | none =>
    rw [hRole] at h
    exact absurd h (not_lt.mpr (Position.le_greatest position))
  | some role =>
    refine List.mem_map.mpr ⟨role, List.mem_of_find?_eq_some hRole, ?_⟩
    exact Keyed.key_of_find hRole

theorem serverRoles_of_insertMemberRole {db db' : Database} {row : MemberRoleRow}
    (hRun : db.insertMemberRole row = some db') : db'.serverRoles = db.serverRoles := by
  unfold Database.insertMemberRole at hRun
  split_ifs at hRun <;> cases hRun <;> rfl

section
variable {env : Environment} {sender communityId : String} {s : ServerState} (h : s.WellFormed)
include h

theorem handleCreateRole_wellFormed (name : String) (color : UInt32) (permissions : Permissions)
    (hoist mentionable : Bool) :
    Ends ServerState.WellFormed
      (handleCreateRole env communityId sender name color permissions hoist mentionable) s := by
  apply ends_with_permission h
  intro community hCommunity _
  have hStored := h.hosted communityId community hCommunity
  obtain rfl := hStored.named
  set role : RoleDefinition :=
    { id := nextRoleId community.roles, name := name, color := color, permissions := permissions
      position := newRolePosition sender community, hoist := hoist, mentionable := mentionable }
  apply Ends.bind_of_ok (execute_run_of_faultless h.faultless _)
  cases hRun : s.db.insertRole ⟨community.communityId, role⟩ with
  | none =>
    refine Ends.bind_ofExcept ?_ fun _ hOk => ?_
    · exact h.queried
    · exact absurd rfl (refuseIf_eq_ok_iff.mp hOk)
  | some db =>
    obtain ⟨hTables, hNew, hRows⟩ := h.tables.insertRole hRun
    have hKeeps : KeepsRoleRows s.db db := by
      intro key hKey
      rw [hRows, List.map_append]
      exact List.mem_append_left _ hKey
    have hAfter : ServerState.WellFormed { s with dbFaults := s.dbFaults.tail, db := db } :=
      ⟨tail_faultless h.faultless, hTables,
        fun id found hFound => (h.hosted id found hFound).mono hKeeps⟩
    apply Ends.bind_ofExcept hAfter
    intro _ _
    refine hAfter.set ⟨?_, rfl, fun roleId hRole => ?_⟩
    · exact hStored.wellFormed.addRole fun hIn => hNew (hStored.roles _ hIn)
    · rw [roleIdsOf, List.map_append] at hRole
      rcases List.mem_append.mp hRole with hOld | hLast
      · exact hKeeps (hStored.roles roleId hOld)
      · rw [List.map_singleton, List.mem_singleton] at hLast
        rw [hLast]
        change _ ∈ db.serverRoles.map RoleRow.key
        rw [hRows, List.map_append]
        exact List.mem_append_right _ List.mem_cons_self

theorem handleEditRole_wellFormed (roleId : UInt32) (edit : RoleEdit) :
    Ends ServerState.WellFormed (handleEditRole env communityId sender roleId edit) s := by
  apply ends_with_permission h
  intro community hCommunity _
  apply Ends.bind_ofExcept h
  intro role _
  apply Ends.bind_ofExcept h
  intro _ _
  have hStored := h.hosted communityId community hCommunity
  have hIds : roleIdsOf (Keyed.update RoleDefinition.id roleId edit.apply community.roles) =
      roleIdsOf community.roles := Keyed.map_key_update fun _ => rfl
  refine ends_set h ⟨hStored.wellFormed.editRole roleId edit, hStored.named, ?_⟩ ?_
  · dsimp only
    rw [hIds]
    exact hStored.roles
  · intro t hAfter _ _
    apply ends_executed hAfter
    · intro db hRun
      obtain ⟨hTables, hKeys⟩ := hAfter.tables.updateRole hRun
      refine ⟨hTables, ?_⟩
      rw [KeepsRoleRows, hKeys]
      exact List.Subset.refl _
    · exact fun u hEnd _ => hEnd

theorem handleDeleteRole_wellFormed (roleId : UInt32) :
    Ends ServerState.WellFormed (handleDeleteRole env communityId sender roleId) s := by
  apply Ends.bind_ofExcept h
  intro _ hRole
  have hNotEveryone : roleId ≠ roleEveryoneId := refuseIf_eq_ok_iff.mp hRole
  apply ends_with_permission h
  intro community hCommunity _
  apply Ends.bind_ofExcept h
  intro _ _
  have hStored := h.hosted communityId community hCommunity
  obtain rfl := hStored.named
  refine ends_set h ⟨hStored.wellFormed.deleteRole hNotEveryone, rfl, ?_⟩ ?_
  · dsimp only
    rw [roleIdsOf_remove]
    exact fun other hOther => hStored.roles other (List.mem_filter.mp hOther).1
  · intro t hAfter _ hSet
    apply Ends.bind_of_ok (executeIgnoring_run_of_faultless hAfter.faultless _)
    apply Ends.bind_of_ok (executeIgnoring_run_of_faultless (tail_faultless hAfter.faultless) _)
    refine ⟨tail_faultless (tail_faultless hAfter.faultless),
      hAfter.tables.deleteRole hNotEveryone rfl rfl, fun id found hFound => ?_⟩
    have hFormer := hAfter.hosted id found hFound
    refine ⟨hFormer.wellFormed, hFormer.named, fun other hOther => ?_⟩
    apply mem_deleteRole (hFormer.roles other hOther)
    rintro ⟨⟩
    have hChanged := Option.some_inj.mp (Eq.trans hFound.symm hSet)
    rw [hChanged, roleIdsOf_remove] at hOther
    simpa using (List.mem_filter.mp hOther).2

theorem handleAssignRole_wellFormed (target : String) (roleId : UInt32) :
    Ends ServerState.WellFormed (handleAssignRole env communityId sender target roleId) s := by
  apply ends_with_permission h
  intro community hCommunity _
  apply Ends.bind_ofExcept h
  intro _ _
  apply Ends.bind_ofExcept h
  intro _ hBelow
  apply Ends.bind_ofExcept h
  intro member hMember
  rw [orThrow_eq_ok_iff] at hMember
  have hStored := h.hosted communityId community hCommunity
  have hExists : roleId ∈ roleIdsOf community.roles :=
    exists_of_rolePosition_lt (not_le.mp (refuseIf_eq_ok_iff.mp hBelow))
  split
  · rename_i hNotHeld
    refine ends_set h
      ⟨hStored.wellFormed.updateMember (fun _ => rfl) ?_, hStored.named, hStored.roles⟩ ?_
    · intro found hFound hHeld
      rw [hMember, Option.some_inj] at hFound
      subst hFound
      refine ⟨hHeld.distinct.append (List.nodup_singleton _) (List.disjoint_singleton.mpr hNotHeld),
        List.mem_append_left _ hHeld.everyone, List.append_subset.mpr ⟨hHeld.exist, ?_⟩⟩
      intro other hOther
      rw [List.mem_singleton.mp hOther]
      exact hExists
    · intro t hAfter hDb _
      apply ends_executed hAfter
      · intro db hRun
        refine ⟨hAfter.tables.insertMemberRole ?_ hRun, ?_⟩
        · dsimp only
          rw [hStored.named, hDb]
          exact hStored.roles roleId hExists
        · rw [KeepsRoleRows, serverRoles_of_insertMemberRole hRun]
          exact List.Subset.refl _
      · exact fun u hEnd _ => hEnd
  · exact h

theorem handleUnassignRole_wellFormed (target : String) (roleId : UInt32) :
    Ends ServerState.WellFormed (handleUnassignRole env communityId sender target roleId) s := by
  apply Ends.bind_ofExcept h
  intro _ hRole
  have hNotEveryone : roleId ≠ roleEveryoneId := refuseIf_eq_ok_iff.mp hRole
  apply ends_with_permission h
  intro community hCommunity _
  apply Ends.bind_ofExcept h
  intro _ _
  apply Ends.bind_ofExcept h
  intro _ _
  have hStored := h.hosted communityId community hCommunity
  refine ends_set h ⟨hStored.wellFormed.updateMember (fun _ => rfl) ?_, hStored.named, hStored.roles⟩ ?_
  · intro member _ hHeld
    refine ⟨hHeld.distinct.filter _, ?_, ?_⟩
    · refine List.mem_filter.mpr ⟨hHeld.everyone, ?_⟩
      simpa using hNotEveryone.symm
    · exact fun other hOther => hHeld.exist (List.mem_filter.mp hOther).1
  · intro t hAfter _ _
    apply ends_executed hAfter
    · intro db hRun
      refine ⟨hAfter.tables.deleteMemberRole hNotEveryone hRun, ?_⟩
      cases hRun
      exact List.Subset.refl _
    · exact fun u hEnd _ => hEnd

/-! ## Timeouts and keys -/

theorem handleTimeoutMember_wellFormed (target : String) (durationSeconds : UInt64)
    (reason : Option String) :
    Ends ServerState.WellFormed
      (handleTimeoutMember env communityId sender target durationSeconds reason) s := by
  apply ends_with_permission h
  intro community hCommunity _
  apply Ends.bind_ofExcept h
  intro _ _
  apply Ends.bind_ofExcept h
  intro _ _
  have hStored := h.hosted communityId community hCommunity
  refine ends_set h ⟨hStored.wellFormed.updateMember (fun _ => rfl) fun _ _ hHeld => hHeld,
    hStored.named, hStored.roles⟩ fun t hAfter _ _ => ?_
  apply ends_elsewhere hAfter
  refine Keeps.bind (elsewhere_executeIgnoring fun db db' hRun => ?_) fun _ => ?_
  · grind [Database.insertOrReplaceTimeout, KeysAside, RosterAside]
  · exact (elsewhere_broadcastToMembers _ _ rfl).bind fun _ => keeps_pure _

theorem handleRemoveTimeout_wellFormed (target : String) :
    Ends ServerState.WellFormed (handleRemoveTimeout env communityId sender target) s := by
  apply ends_with_permission h
  intro community hCommunity _
  have hStored := h.hosted communityId community hCommunity
  refine ends_set h ⟨hStored.wellFormed.updateMember (fun _ => rfl) fun _ _ hHeld => hHeld,
    hStored.named, hStored.roles⟩ fun t hAfter _ _ => ?_
  apply ends_elsewhere hAfter
  refine Keeps.bind (elsewhere_executeIgnoring ?_) fun _ => ?_
  · rintro _ _ ⟨⟩
    exact ⟨⟨rfl, rfl⟩, rfl, rfl, rfl⟩
  · exact (elsewhere_broadcastToMembers _ _ rfl).bind fun _ => keeps_pure _

omit h in
theorem rotateMek_rosterKept {ε : Type} (newGeneration : UInt64) :
    Keeps RosterKept (rotateMek env communityId newGeneration : EStateM ε ServerState _) := by
  refine Keeps.bind (rosterKept_executeIgnoring fun db db' hRun => ?_) fun _ => keeps_pure _
  grind [Database.insertMek, RosterAside]

omit h in
theorem HostedCommunity.Stored.withMek {community : HostedCommunity} {db : Database}
    (hStored : community.Stored communityId db) (mek : MediaEncryptionKey) :
    { community with mek := mek }.Stored communityId db :=
  ⟨⟨hStored.wellFormed.members, hStored.wellFormed.roles, hStored.wellFormed.held⟩, hStored.named,
    hStored.roles⟩

omit h in
theorem HostedCommunity.Stored.of_rosterKept {community : HostedCommunity} {t : ServerState}
    (hStored : community.Stored communityId s.db) (hKept : RosterKept s t) :
    community.Stored communityId t.db := by
  apply hStored.mono
  rw [KeepsRoleRows, hKept.roles]
  exact List.Subset.refl _

theorem handleRotateMek_wellFormed :
    Ends ServerState.WellFormed (handleRotateMek env communityId sender) s := by
  apply ends_with_permission h
  intro community hCommunity _
  refine Ends.bind_of_keeps (rotateMek_rosterKept _) (fun _ => h.of_rosterKept) fun mek t hKept => ?_
  have hStored := (h.hosted communityId community hCommunity).of_rosterKept hKept
  refine ends_set (h.of_rosterKept hKept) (hStored.withMek mek) fun u hAfter _ _ => ?_
  exact ends_of_rosterKept hAfter ((rosterKept_broadcastToMembers _ _ _).bind fun _ => keeps_pure _)

/-! ## Departures -/

theorem handleLeave_wellFormed :
    Ends ServerState.WellFormed (handleLeave env communityId sender) s := by
  have hVerify : Keeps Elsewhere (verifyMembershipIfHosted communityId sender) :=
    (elsewhere_lookupCommunity _).bind fun _ => keeps_ofExcept _
  refine Ends.bind_of_keeps hVerify (fun _ hKept => h.of_rosterKept hKept.roster)
    fun _ checked hKept => ?_
  have hChecked := h.of_rosterKept hKept.roster
  apply ends_executed hChecked
  · intro db hRun
    refine ⟨hChecked.tables.deleteMember hRun, ?_⟩
    cases hRun
    exact List.Subset.refl _
  intro deleted hDeleted _
  have hRest : Keeps RosterKept (do broadcastDeparture communityId sender; pure CommunityResponse.ok) :=
    rosterKept_broadcastDeparture.bind fun _ => keeps_pure _
  unfold removeMember
  rw [bind_assoc]
  apply ends_lookupCommunity
  cases hCommunity : deleted.hosted.lookup communityId with
  | none => exact ends_of_rosterKept hDeleted hRest
  | some community =>
    simp only [bind_assoc]
    refine Ends.bind_of_keeps (rotateMek_rosterKept _) (fun _ => hDeleted.of_rosterKept)
      fun mek t hRotated => ?_
    have hStored := (hDeleted.hosted communityId community hCommunity).of_rosterKept hRotated
    have hRemoved := hStored.wellFormed.removeMember sender
    refine ends_set (hDeleted.of_rosterKept hRotated)
      ⟨⟨hRemoved.members, hRemoved.roles, hRemoved.held⟩, hStored.named, hStored.roles⟩
      fun u hAfter _ _ => ends_of_rosterKept hAfter hRest

theorem handleKick_wellFormed (target : String) :
    Ends ServerState.WellFormed (handleKick env communityId sender target) s := by
  apply ends_with_community h
  intro community _
  apply Ends.bind_ofExcept h
  intro _ _
  apply Ends.bind_ofExcept h
  intro _ _
  apply Ends.bind_ofExcept h
  intro _ _
  exact handleLeave_wellFormed h

theorem handleBan_wellFormed (target : String) :
    Ends ServerState.WellFormed (handleBan env communityId sender target) s := by
  apply ends_with_permission h
  intro community _ _
  apply Ends.bind_ofExcept h
  intro _ _
  apply Ends.bind_ofExcept h
  intro _ _
  refine Ends.bind_of_keeps (elsewhere_executeIgnoring fun db db' hRun => ?_)
    (fun _ hKept => h.of_rosterKept hKept.roster)
    fun _ t hKept => handleLeave_wellFormed (h.of_rosterKept hKept.roster)
  grind [Database.insertOrReplaceBan, KeysAside, RosterAside]

/-! ## Joins -/

variable (sender) in
omit h in
theorem insertMemberRoles_run {ε : Type} (roleIds : List UInt32) (h : s.WellFormed)
    (hExist : ∀ roleId ∈ roleIds, (communityId, roleId) ∈ s.db.serverRoles.map RoleRow.key) :
    ∃ t, (roleIds.forM fun roleId => executeIgnoring fun db => db.insertMemberRole
        { communityId := communityId, pseudonymKeyHex := sender, roleId := roleId } :
        EStateM ε ServerState Unit).run s = .ok () t ∧
      t.WellFormed ∧ t.hosted = s.hosted ∧ t.db.serverRoles = s.db.serverRoles := by
  induction roleIds generalizing s with
  | nil => exact ⟨s, rfl, h, rfl, rfl⟩
  | cons roleId rest ih =>
    obtain ⟨hRole, hRest⟩ := List.forall_mem_cons.mp hExist
    set statement : Database → Option Database := fun db => db.insertMemberRole
      { communityId := communityId, pseudonymKeyHex := sender, roleId := roleId }
    have hRoles : ((statement s.db).getD s.db).serverRoles = s.db.serverRoles := by
      cases hRun : statement s.db with
      | none => rfl
      | some db => exact serverRoles_of_insertMemberRole hRun
    have hStep : ServerState.WellFormed
        { s with dbFaults := s.dbFaults.tail, db := (statement s.db).getD s.db } := by
      refine h.executed fun db hRun => ⟨h.tables.insertMemberRole hRole hRun, ?_⟩
      rw [KeepsRoleRows, serverRoles_of_insertMemberRole hRun]
      exact List.Subset.refl _
    obtain ⟨t, hRun, hEnd, hHosted, hSame⟩ := ih hStep (by
      dsimp only
      rw [hRoles]
      exact hRest)
    refine ⟨t, ?_, hEnd, hHosted, hSame.trans hRoles⟩
    change (executeIgnoring statement >>= _).run s = _
    rw [run_bind_of_ok _ (executeIgnoring_run_of_faultless h.faultless statement)]
    exact hRun

/-- The rows of a new member whose default roles exist. -/
theorem insertMemberRows_run {ε : Type} (displayName : String) (isFirstMember : Bool)
    (hDefaults : ∀ roleId ∈ defaultRoleIds isFirstMember,
      (communityId, roleId) ∈ s.db.serverRoles.map RoleRow.key) :
    ∃ t, (insertMemberRows env communityId sender displayName (defaultRoleIds isFirstMember) :
        EStateM ε ServerState Unit).run s = .ok () t ∧
      t.WellFormed ∧ t.hosted = s.hosted ∧ t.db.serverRoles = s.db.serverRoles := by
  obtain ⟨rest, hList⟩ : ∃ rest, defaultRoleIds isFirstMember = roleEveryoneId :: rest := by
    cases isFirstMember <;> exact ⟨_, rfl⟩
  rw [hList] at hDefaults ⊢
  obtain ⟨hEveryone, hRest⟩ := List.forall_mem_cons.mp hDefaults
  set row : MemberRow :=
    { communityId := communityId, pseudonymKeyHex := sender, displayName := displayName
      joinedAt := env.timestampNow, routeBlob := none }
  set everyone : Database → Option Database := fun db => db.insertMemberRole
    { communityId := communityId, pseudonymKeyHex := sender, roleId := roleEveryoneId }
  set inserted : Database := (s.db.insertMember row).getD s.db with hInserted
  set held : Database := (everyone inserted).getD inserted with hHeld
  have hRoles : held.serverRoles = s.db.serverRoles := by
    have hFirst : inserted.serverRoles = s.db.serverRoles := by
      grind [Database.insertMember]
    have hSecond : held.serverRoles = inserted.serverRoles := by
      cases hRun : everyone inserted with
      | none => rw [hHeld, hRun, Option.getD_none]
      | some db => rw [hHeld, hRun, Option.getD_some, serverRoles_of_insertMemberRole hRun]
    exact hSecond.trans hFirst
  have hStep : ServerState.WellFormed { s with dbFaults := s.dbFaults.tail.tail, db := held } := by
    refine ⟨fun hFault => h.faultless (List.mem_of_mem_tail (List.mem_of_mem_tail hFault)),
      h.tables.insertMember hEveryone, ?_⟩
    intro id community hCommunity
    apply (h.hosted id community hCommunity).mono
    rw [KeepsRoleRows, hRoles]
    exact List.Subset.refl _
  obtain ⟨t, hRun, hEnd, hHosted, hSame⟩ :=
    insertMemberRoles_run sender (ε := ε) rest hStep (by
      dsimp only
      rw [hRoles]
      exact hRest)
  refine ⟨t, ?_, hEnd, hHosted, hSame.trans hRoles⟩
  change (executeIgnoring (fun db => db.insertMember row) >>= fun _ =>
    executeIgnoring everyone >>= _).run s = _
  rw [run_bind_of_ok _ (executeIgnoring_run_of_faultless h.faultless _),
    run_bind_of_ok _ (executeIgnoring_run_of_faultless (tail_faultless h.faultless) _)]
  exact hRun

omit h in
theorem defaultRoleIds_wellFormed {existing : List UInt32} {isFirstMember : Bool}
    (hExist : defaultRoleIds isFirstMember ⊆ existing) :
    RoleIdsWellFormed existing (defaultRoleIds isFirstMember) := by
  refine ⟨?_, ?_, hExist⟩
  · cases isFirstMember <;> decide
  · cases isFirstMember <;> decide

theorem ends_updateRouteBlob {β : Type} {named : String} {blob : List UInt8} {f : Unit → ServerM β}
    (hRest : ∀ t, t.WellFormed → Ends ServerState.WellFormed (f ()) t) :
    Ends ServerState.WellFormed
      (executeIgnoring (Database.updateRouteBlob named sender · blob) >>= f) s := by
  apply ends_executed h
  · intro db hRun
    refine ⟨h.tables.updateRouteBlob hRun, ?_⟩
    cases hRun
    exact List.Subset.refl _
  · exact fun t hAfter _ => hRest t hAfter

theorem joinAsNewMember_wellFormed {community : HostedCommunity}
    (hCommunity : s.hosted.lookup communityId = some community)
    (hNew : findMember community.members sender = none)
    (hDefaults : defaultRoleIds community.members.isEmpty ⊆ roleIdsOf community.roles)
    (displayName : String) (routeBlob : Option (List UInt8)) :
    Ends ServerState.WellFormed
      (joinAsNewMember env communityId sender displayName routeBlob) s := by
  have hStored := h.hosted communityId community hCommunity
  unfold joinAsNewMember addNewMember
  simp only [bind_assoc]
  apply ends_lookupCommunity
  rw [hCommunity]
  obtain ⟨t, hRun, hInserted, hHosted, hRoles⟩ : ∃ t, (insertMemberRows env communityId sender
      displayName (defaultRoleIds community.members.isEmpty) : ServerM Unit).run s = .ok () t ∧ _ :=
    insertMemberRows_run h displayName community.members.isEmpty fun roleId hRole =>
      hStored.roles roleId (hDefaults hRole)
  apply Ends.bind_of_ok hRun
  unfold pushMember
  simp only [bind_assoc]
  apply ends_lookupCommunity
  rw [hHosted, hCommunity]
  simp only [bind_assoc, pure_bind, Option.any_some]
  refine Ends.bind_of_keeps (elsewhere_recordCreator _)
    (fun _ hKept => hInserted.of_rosterKept hKept.roster) fun _ u hKept => ?_
  set member : ServerMember :=
    { pseudonymKeyHex := sender, displayName := displayName
      roleIds := defaultRoleIds community.members.isEmpty, joinedAt := env.timestampNow
      routeBlob := routeBlob, timeoutUntil := none }
  have hJoined : { community with members := community.members ++ [member] }.WellFormed :=
    hStored.wellFormed.addMember hNew (defaultRoleIds_wellFormed hDefaults)
  refine ends_set (hInserted.of_rosterKept hKept.roster)
    ⟨⟨hJoined.members, hJoined.roles, hJoined.held⟩, hStored.named, ?_⟩ fun v hAfter _ _ => ?_
  · rw [hKept.roster.roles, hRoles]
    exact hStored.roles
  · cases routeBlob with
    | none => exact ends_elsewhere hAfter (elsewhere_announceJoin displayName (some _))
    | some blob =>
      exact ends_updateRouteBlob hAfter fun w hEnd =>
        ends_elsewhere hEnd (elsewhere_announceJoin displayName (some _))

theorem handleJoin_wellFormed (routing : Routing) (displayName : String)
    (routeBlob : Option (List UInt8)) (hAdmissible : Admissible s sender routing) :
    Ends ServerState.WellFormed (handleJoin env sender routing displayName routeBlob) s := by
  unfold handleJoin
  apply Ends.bind_ofExcept h
  intro communityId hTarget
  rw [orThrow_eq_ok_iff] at hTarget
  apply ends_lookupCommunity
  apply Ends.bind_ofExcept h
  intro _ hNamed
  have hChecked := h.queried
  unfold checkNotBanned
  rw [bind_assoc]
  apply Ends.bind_of_ok (query_run_of_faultless h.faultless _)
  apply Ends.bind_ofExcept hChecked
  intro _ hNotBanned
  have hNotBanned : s.db.isBanned communityId sender = false := by
    have hFalse := refuseIf_eq_ok_iff.mp hNotBanned
    rw [Option.some_inj, Bool.not_eq_true] at hFalse
    exact hFalse
  unfold handleRejoin
  rw [bind_assoc]
  apply ends_lookupCommunity
  dsimp only
  cases hCommunity : s.hosted.lookup communityId with
  | none =>
    exfalso
    cases hIpc : routing.ipcCommunityId with
    | none =>
      obtain ⟨found, hFound⟩ := Finmap.mem_iff.mp (hAdmissible.hosted hIpc communityId hTarget)
      rw [hCommunity] at hFound
      cases hFound
    | some named =>
      rw [hIpc, hCommunity] at hNamed
      exact refuseIf_eq_ok_iff.mp hNamed ⟨rfl, rfl⟩
  | some community =>
    cases hMember : findMember community.members sender with
    | none =>
      simp only [hMember, pure_bind]
      exact joinAsNewMember_wellFormed hChecked hCommunity hMember
        (hAdmissible.defaults communityId community hTarget hCommunity hMember hNotBanned) _ _
    | some member =>
      cases routeBlob with
      | none =>
        simp only [hMember, pure_bind]
        exact hChecked
      | some blob =>
        simp only [hMember, pure_bind, bind_assoc]
        have hStored := h.hosted communityId community hCommunity
        refine ends_set hChecked ⟨hStored.wellFormed.updateMember (fun _ => rfl) fun _ _ hHeld => hHeld,
          hStored.named, hStored.roles⟩ fun t hAfter _ _ => ?_
        exact ends_updateRouteBlob hAfter fun u hEnd => hEnd

/-! ## Requests -/

omit h in
theorem ends_thenBroadcast_wellFormed {handler : ServerM CommunityResponse} {broadcast : ServerM Unit}
    (hHandler : Ends ServerState.WellFormed handler s) (hBroadcast : Keeps Elsewhere broadcast) :
    Ends ServerState.WellFormed (thenBroadcast handler broadcast) s := by
  unfold Ends at hHandler
  unfold thenBroadcast
  cases hRun : handler.run s with
  | error e t =>
    unfold Ends
    rw [run_bind_of_error _ hRun]
    rwa [hRun] at hHandler
  | ok response t =>
    rw [hRun] at hHandler
    apply Ends.bind_of_ok hRun
    exact ends_elsewhere hHandler (hBroadcast.bind fun _ => keeps_pure _)

theorem handleRequest_wellFormed (request : MemberRequest) :
    Ends ServerState.WellFormed (handleRequest env sender communityId request) s := by
  cases request with
  | sendMessage => exact ends_elsewhere h (handleSendMessage_elsewhere _ _ _ _ _ _)
  | getMessages => exact ends_elsewhere h (handleGetMessages_elsewhere _ _ _ _ _)
  | requestMek => exact ends_elsewhere h (handleRequestMek_elsewhere _ _)
  | leave => exact handleLeave_wellFormed h
  | kick => exact handleKick_wellFormed h _
  | createChannel => exact ends_elsewhere h (handleCreateChannel_elsewhere _ _ _ _ _)
  | deleteChannel => exact ends_elsewhere h (handleDeleteChannel_elsewhere _ _ _ _)
  | rotateMek => exact handleRotateMek_wellFormed h
  | renameChannel => exact ends_elsewhere h (handleRenameChannel_elsewhere _ _ _ _ _)
  | updateCommunity => exact ends_elsewhere h (handleUpdateCommunity_elsewhere _ _ _ _ _)
  | ban => exact handleBan_wellFormed h _
  | unban => exact ends_elsewhere h (handleUnban_elsewhere _ _ _ _)
  | getBanList => exact ends_elsewhere h (handleGetBanList_elsewhere _ _ _)
  | createRole =>
    exact ends_thenBroadcast_wellFormed (handleCreateRole_wellFormed h _ _ _ _ _)
      elsewhere_broadcastRolesChanged
  | editRole =>
    exact ends_thenBroadcast_wellFormed (handleEditRole_wellFormed h _ _) elsewhere_broadcastRolesChanged
  | deleteRole =>
    exact ends_thenBroadcast_wellFormed (handleDeleteRole_wellFormed h _) elsewhere_broadcastRolesChanged
  | assignRole =>
    exact ends_thenBroadcast_wellFormed (handleAssignRole_wellFormed h _ _)
      (elsewhere_broadcastMemberRolesChanged _)
  | unassignRole =>
    exact ends_thenBroadcast_wellFormed (handleUnassignRole_wellFormed h _ _)
      (elsewhere_broadcastMemberRolesChanged _)
  | setChannelOverwrite => exact ends_elsewhere h (handleSetChannelOverwrite_elsewhere _ _ _ _ _ _ _ _)
  | deleteChannelOverwrite => exact ends_elsewhere h (handleDeleteChannelOverwrite_elsewhere _ _ _ _ _ _)
  | timeoutMember => exact handleTimeoutMember_wellFormed h _ _ _
  | removeTimeout => exact handleRemoveTimeout_wellFormed h _
  | getRoles => exact ends_elsewhere h (handleGetRoles_elsewhere _ _)

end

/-- A join that is not refused at once is admissible. -/
def JoinsAdmissibly (state : ServerState) (incoming : IncomingRequest) : Prop :=
  ∀ displayName routeBlob, incoming.request = .join incoming.sender displayName routeBlob →
    Admissible state incoming.sender incoming.routing

theorem serve_wellFormed {state : ServerState} {incoming : IncomingRequest} (h : state.WellFormed)
    (hJoin : JoinsAdmissibly state incoming) : (serve state incoming).WellFormed := by
  obtain ⟨env, sender, routing, request⟩ := incoming
  cases request with
  | join pseudonym displayName routeBlob =>
    refine Ends.bind_ofExcept h fun _ hClaimed => ?_
    have hSender : pseudonym = sender := not_not.mp (refuseIf_eq_ok_iff.mp hClaimed)
    subst hSender
    exact handleJoin_wellFormed h routing displayName routeBlob (hJoin displayName routeBlob rfl)
  | member request =>
    refine Ends.bind_ofExcept h fun communityId _ => ?_
    exact handleRequest_wellFormed h request

end Rekindle.Server
