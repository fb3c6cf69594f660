import Rekindle.Server.Atomicity
import Rekindle.Server.Effects
import Rekindle.Server.KeyHistory
import Rekindle.Server.RepresentationRuns

/-! # What a deleted role leaves behind

Ids of roles are given again. A new role is held by nobody and named by no overwrite, as long as every
id that members hold and overwrites name has a row in the table of roles.
-/
namespace Rekindle.Server
set_option autoImplicit false
open Fallible Runs

/-- The overwrite applies to the holders of the role. -/
def PermissionOverwrite.IsFor (roleId : UInt32) (overwrite : PermissionOverwrite) : Prop :=
  overwrite.targetType = .role ∧ parseU32 overwrite.targetId = some roleId

instance (roleId : UInt32) (overwrite : PermissionOverwrite) : Decidable (overwrite.IsFor roleId) :=
  inferInstanceAs (Decidable (_ ∧ _))

/-- A member holds the role, or an overwrite is for it. -/
def HostedCommunity.Mentions (community : HostedCommunity) (roleId : UInt32) : Prop :=
  (∃ member ∈ community.members, roleId ∈ member.roleIds) ∨
    ∃ channel ∈ community.channels, ∃ overwrite ∈ channel.permissionOverwrites, overwrite.IsFor roleId

def roleKeys (db : Database) : List (String × UInt32) := db.serverRoles.map RoleRow.key

/-- The roles of the community, and those that it mentions, have rows. -/
structure HostedCommunity.Backed (communityId : String) (db : Database) (community : HostedCommunity) : Prop where
  id : community.communityId = communityId
  roles : ∀ role ∈ community.roles, (communityId, role.id) ∈ roleKeys db
  mentioned : ∀ roleId, community.Mentions roleId → (communityId, roleId) ∈ roleKeys db

def ServerState.Backed (s : ServerState) : Prop :=
  ∀ communityId community, s.hosted.lookup communityId = some community → community.Backed communityId s.db

/-! ## Mentions -/

section
variable {community changed : HostedCommunity} {roleId : UInt32}

theorem HostedCommunity.Mentions.mono (h : changed.Mentions roleId)
    (hMembers : ∀ member ∈ changed.members, ∃ former ∈ community.members, member.roleIds ⊆ former.roleIds)
    (hChannels : ∀ channel ∈ changed.channels, ∃ former ∈ community.channels,
      channel.permissionOverwrites ⊆ former.permissionOverwrites) : community.Mentions roleId := by
  rcases h with ⟨member, hMember, hHeld⟩ | ⟨channel, hChannel, overwrite, hOverwrite, hFor⟩
  · obtain ⟨former, hFormer, hSubset⟩ := hMembers member hMember
    exact .inl ⟨former, hFormer, hSubset hHeld⟩
  · obtain ⟨former, hFormer, hSubset⟩ := hChannels channel hChannel
    exact .inr ⟨former, hFormer, overwrite, hSubset hOverwrite, hFor⟩

theorem members_kept (members : List ServerMember) :
    ∀ member ∈ members, ∃ former ∈ members, member.roleIds ⊆ former.roleIds :=
  fun member hMember => ⟨member, hMember, fun _ h => h⟩

theorem channels_kept (channels : List ServerChannel) : ∀ channel ∈ channels, ∃ former ∈ channels,
    channel.permissionOverwrites ⊆ former.permissionOverwrites :=
  fun channel hChannel => ⟨channel, hChannel, fun _ h => h⟩

theorem members_removed (members : List ServerMember) (target : String) :
    ∀ member ∈ Keyed.remove ServerMember.pseudonymKeyHex target members, ∃ former ∈ members,
      member.roleIds ⊆ former.roleIds :=
  fun member hMember => ⟨member, (List.mem_filter.mp hMember).1, fun _ h => h⟩

theorem members_updated (members : List ServerMember) (target : String) {change : ServerMember → ServerMember}
    (hChange : ∀ member, (change member).roleIds ⊆ member.roleIds) :
    ∀ member ∈ updateMember members target change, ∃ former ∈ members, member.roleIds ⊆ former.roleIds := by
  intro member hMember
  rcases Keyed.mem_of_mem_update hMember with hOld | ⟨former, hFormer, rfl⟩
  · exact ⟨member, hOld, fun _ h => h⟩
  · exact ⟨former, List.mem_of_find?_eq_some hFormer, hChange former⟩

theorem channels_removed (channels : List ServerChannel) (channelId : String) :
    ∀ channel ∈ Keyed.remove ServerChannel.id channelId channels, ∃ former ∈ channels,
      channel.permissionOverwrites ⊆ former.permissionOverwrites :=
  fun channel hChannel => ⟨channel, (List.mem_filter.mp hChannel).1, fun _ h => h⟩

theorem channels_updated (channels : List ServerChannel) (channelId : String) {change : ServerChannel → ServerChannel}
    (hChange : ∀ channel, (change channel).permissionOverwrites ⊆ channel.permissionOverwrites) :
    ∀ channel ∈ Keyed.update ServerChannel.id channelId change channels, ∃ former ∈ channels,
      channel.permissionOverwrites ⊆ former.permissionOverwrites := by
  intro channel hChannel
  rcases Keyed.mem_of_mem_update hChannel with hOld | ⟨former, hFormer, rfl⟩
  · exact ⟨channel, hOld, fun _ h => h⟩
  · exact ⟨former, List.mem_of_find?_eq_some hFormer, hChange former⟩

theorem dropRole_subset (dropped : UInt32) (member : ServerMember) :
    (dropRole dropped member).roleIds ⊆ member.roleIds := fun _ h => (List.mem_filter.mp h).1

theorem mem_upsertOverwrite {overwrite other : PermissionOverwrite} {overwrites : List PermissionOverwrite}
    (h : other ∈ upsertOverwrite overwrite overwrites) : other = overwrite ∨ other ∈ overwrites := by
  induction overwrites with
  | nil => exact .inl (List.mem_singleton.mp h)
  | cons existing rest ih =>
    rw [upsertOverwrite] at h
    split at h
    · exact (List.mem_cons.mp h).imp_right (List.mem_cons_of_mem _)
    · rcases List.mem_cons.mp h with rfl | hRest
      · exact .inr List.mem_cons_self
      · exact (ih hRest).imp_right (List.mem_cons_of_mem _)

end

/-! ## Rows of roles -/

/-- The statement deletes the row of the role. -/
def Statement.Drops (key : String × UInt32) : Statement → Prop
  | .deleteRole communityId roleId => key = (communityId, roleId)
  | .deleteCommunity communityId => key.1 = communityId
  | _ => False

theorem roleKeys_append {db : Database} {row : RoleRow} :
    roleKeys { db with serverRoles := db.serverRoles ++ [row] } = roleKeys db ++ [row.key] := by
  rw [roleKeys, List.map_append]
  rfl

theorem Statement.keeps_key {statement : Statement} {key : String × UInt32} (hSpared : ¬statement.Drops key)
    {db db' : Database} (hRun : statement.run db = some db') (hKey : key ∈ roleKeys db) : key ∈ roleKeys db' := by
  cases statement with
  | insertRole row | insertRoleOrIgnore row =>
    simp only [run, Database.insertRole, Database.insertRoleOrIgnore] at hRun
    split_ifs at hRun <;> cases hRun
    all_goals first
      | exact hKey
      | exact roleKeys_append ▸ List.mem_append_left _ hKey
  | updateRole communityId role =>
    cases hRun
    obtain ⟨row, hRow, rfl⟩ := List.mem_map.mp hKey
    refine List.mem_map.mpr ⟨_, List.mem_map.mpr ⟨row, hRow, rfl⟩, ?_⟩
    split
    · next hSame =>
      rw [Bool.and_eq_true, beq_iff_eq, beq_iff_eq] at hSame
      rw [RoleRow.key, RoleRow.key, hSame.2]
    · rfl
  | deleteRole communityId roleId =>
    cases hRun
    obtain ⟨row, hRow, rfl⟩ := List.mem_map.mp hKey
    refine List.mem_map.mpr ⟨row, List.mem_filter.mpr ⟨hRow, ?_⟩, rfl⟩
    simp only [Drops, RoleRow.key, Prod.mk.injEq] at hSpared
    simpa [imp_iff_not_or] using hSpared
  | deleteCommunity communityId =>
    cases hRun
    obtain ⟨row, hRow, rfl⟩ := List.mem_map.mp hKey
    exact List.mem_map.mpr ⟨row, List.mem_filter.mpr ⟨hRow, bne_iff_ne.mpr hSpared⟩, rfl⟩
  | insertCommunity | insertMember | insertMemberRole | insertMek | insertOrReplaceMek | insertOrReplaceBan
  | insertChannel | insertOrReplaceOverwrite | insertOrReplaceTimeout =>
    simp only [run, Database.insertCommunity, Database.insertMember, Database.insertMemberRole,
      Database.insertMek, Database.insertOrReplaceMek, Database.insertOrReplaceBan, Database.insertChannel,
      Database.insertOrReplaceOverwrite, Database.insertOrReplaceTimeout] at hRun
    split_ifs at hRun <;> cases hRun <;> exact hKey
  | _ =>
    cases hRun
    exact hKey

theorem Edited.keeps_key {allowed : Statement → Prop} {key : String × UInt32}
    (hSpared : ∀ statement, allowed statement → ¬statement.Drops key) {s t : ServerState}
    (h : Edited allowed s t) (hKey : key ∈ roleKeys s.db) : key ∈ roleKeys t.db := by
  have hTables := h.tables
  generalize t.db = db at hTables
  induction hTables with
  | refl => exact hKey
  | tail _ hStep ih =>
    obtain ⟨statement, hStatement, hRun⟩ := hStep
    exact Statement.keeps_key (hSpared statement hStatement) hRun ih

/-! ## What a request adds and drops -/

theorem Statement.Drops.communityId {key : String × UInt32} {statement : Statement} (h : statement.Drops key) :
    statement.communityId = key.1 := by
  cases statement with
  | deleteRole => rw [show key = _ from h]; rfl
  | deleteCommunity => exact h.symm
  | _ => cases h

/-- The roles that an answered request gives to a member or names in an overwrite. -/
def IncomingRequest.Introduces (incoming : IncomingRequest) (community : HostedCommunity) (roleId : UInt32) : Prop :=
  match incoming.request with
  | .join _ _ _ => findMember community.members incoming.sender = none ∧
      roleId ∈ defaultRoleIds community.members.isEmpty
  | .member (.assignRole _ assigned) => roleId = assigned
  | .member (.setChannelOverwrite _ targetType targetId _ _) =>
      overwriteType targetType = .role ∧ parseU32 targetId = some roleId
  | _ => False

def IncomingRequest.CreatesRole (incoming : IncomingRequest) : Prop :=
  ∃ name color permissions hoist mentionable,
    incoming.request = .member (.createRole name color permissions hoist mentionable)

section
variable {incoming : IncomingRequest} {communityId : String} {community : HostedCommunity}

theorem effect_drops {key : String × UInt32} {statement : Statement}
    (hStatement : statement ∈ (incoming.effect communityId community).statements) (hDrops : statement.Drops key) :
    ∃ roleId, incoming.request = .member (.deleteRole roleId) ∧ key = (community.communityId, roleId) := by
  obtain ⟨env, sender, routing, request⟩ := incoming
  cases request with
  | join pseudonym displayName routeBlob =>
    simp only [IncomingRequest.effect, joinEffect] at hStatement
    split at hStatement
    · simp only [joinStatements] at hStatement
      simp only [List.mem_append, List.mem_cons, List.mem_map, Option.mem_toList, Option.map_eq_some_iff] at hStatement
      grind [Statement.Drops]
    · cases hStatement
    · rw [List.mem_singleton.mp hStatement] at hDrops
      cases hDrops
  | member request =>
    cases request with
    | deleteRole roleId =>
      refine ⟨roleId, rfl, ?_⟩
      simp only [IncomingRequest.effect, MemberRequest.effect, List.mem_cons, List.not_mem_nil, or_false]
        at hStatement
      rcases hStatement with rfl | rfl
      · exact hDrops
      · cases hDrops
    | getMessages | requestMek | getBanList | getRoles => cases hStatement
    | assignRole target roleId =>
      simp only [IncomingRequest.effect, MemberRequest.effect] at hStatement
      split_ifs at hStatement
      · cases hStatement
      · rw [List.mem_singleton.mp hStatement] at hDrops
        cases hDrops
    | _ =>
      simp only [IncomingRequest.effect, MemberRequest.effect, departure, mekStatement, List.mem_cons,
        List.not_mem_nil, or_false, List.mem_append, Option.mem_toList, Option.map_eq_some_iff] at hStatement
      grind [Statement.Drops]

theorem effect_communityId :
    (incoming.effect communityId community).community.communityId = community.communityId := by
  obtain ⟨env, sender, routing, request⟩ := incoming
  cases request with
  | join =>
    simp only [IncomingRequest.effect, joinEffect]
    split <;> rfl
  | member request =>
    cases request with
    | assignRole =>
      simp only [IncomingRequest.effect, MemberRequest.effect]
      split_ifs <;> rfl
    | _ => rfl

theorem effect_mentions {roleId : UInt32}
    (h : (incoming.effect communityId community).community.Mentions roleId) :
    community.Mentions roleId ∨ incoming.Introduces community roleId := by
  obtain ⟨env, sender, routing, request⟩ := incoming
  cases request with
  | join pseudonym displayName routeBlob =>
    simp only [IncomingRequest.effect, joinEffect] at h
    split at h
    · next hNew =>
      rcases h with ⟨member, hMember, hHeld⟩ | hOverwrite
      · rcases List.mem_append.mp hMember with hOld | hJoined
        · exact .inl (.inl ⟨member, hOld, hHeld⟩)
        · rw [List.mem_singleton.mp hJoined] at hHeld
          exact .inr ⟨hNew, hHeld⟩
      · exact .inl (.inr hOverwrite)
    · exact .inl h
    · exact .inl (h.mono (members_updated _ _ fun _ _ h => h) (channels_kept _))
  | member request =>
    cases request with
    | leave => exact .inl (h.mono (members_removed _ _) (channels_kept _))
    | kick => exact .inl (h.mono (members_removed _ _) (channels_kept _))
    | ban => exact .inl (h.mono (members_removed _ _) (channels_kept _))
    | createChannel =>
      rcases h with hHeld | ⟨channel, hChannel, overwrite, hOverwrite, hFor⟩
      · exact .inl (.inl hHeld)
      · rcases List.mem_append.mp hChannel with hOld | hCreated
        · exact .inl (.inr ⟨channel, hOld, overwrite, hOverwrite, hFor⟩)
        · rw [List.mem_singleton.mp hCreated] at hOverwrite
          cases hOverwrite
    | deleteChannel => exact .inl (h.mono (members_kept _) (channels_removed _ _))
    | renameChannel =>
      exact .inl (h.mono (members_kept _) (channels_updated _ _ fun _ _ h => h))
    | deleteRole roleId =>
      refine .inl (h.mono (fun member hMember => ?_) (channels_kept _))
      obtain ⟨former, hFormer, rfl⟩ := List.mem_map.mp hMember
      exact ⟨former, hFormer, dropRole_subset roleId former⟩
    | assignRole target roleId =>
      simp only [IncomingRequest.effect, MemberRequest.effect] at h
      split_ifs at h
      · exact .inl h
      · rcases h with ⟨member, hMember, hHeld⟩ | hOverwrite
        · rcases Keyed.mem_of_mem_update hMember with hOld | ⟨former, hFormer, rfl⟩
          · exact .inl (.inl ⟨member, hOld, hHeld⟩)
          · rcases List.mem_append.mp hHeld with hOld | hAssigned
            · exact .inl (.inl ⟨former, List.mem_of_find?_eq_some hFormer, hOld⟩)
            · exact .inr (List.mem_singleton.mp hAssigned)
        · exact .inl (.inr hOverwrite)
    | unassignRole target roleId =>
      exact .inl (h.mono (members_updated _ _ (dropRole_subset roleId)) (channels_kept _))
    | setChannelOverwrite channelId targetType targetId allow deny =>
      rcases h with hHeld | ⟨channel, hChannel, overwrite, hOverwrite, hFor⟩
      · exact .inl (.inl hHeld)
      · rcases Keyed.mem_of_mem_update hChannel with hOld | ⟨former, hFormer, rfl⟩
        · exact .inl (.inr ⟨channel, hOld, overwrite, hOverwrite, hFor⟩)
        · rcases mem_upsertOverwrite hOverwrite with rfl | hOld
          · exact .inr hFor
          · exact .inl (.inr ⟨former, List.mem_of_find?_eq_some hFormer, overwrite, hOld, hFor⟩)
    | deleteChannelOverwrite =>
      exact .inl (h.mono (members_kept _)
        (channels_updated _ _ fun channel _ h => (List.mem_filter.mp h).1))
    | timeoutMember =>
      exact .inl (h.mono (members_updated _ _ fun _ _ h => h) (channels_kept _))
    | removeTimeout =>
      exact .inl (h.mono (members_updated _ _ fun _ _ h => h) (channels_kept _))
    | _ => exact .inl h

theorem mem_effect_roles {roleId : UInt32}
    (h : roleId ∈ roleIdsOf (incoming.effect communityId community).community.roles) :
    (roleId ∈ roleIdsOf community.roles ∧ incoming.request ≠ .member (.deleteRole roleId)) ∨
      incoming.CreatesRole ∧ roleId = nextRoleId community.roles := by
  obtain ⟨env, sender, routing, request⟩ := incoming
  cases request with
  | join =>
    simp only [IncomingRequest.effect, joinEffect] at h
    split at h
    · exact .inl ⟨h, by simp⟩
    · exact .inl ⟨h, by simp⟩
    · exact .inl ⟨h, by simp⟩
  | member request =>
    cases request with
    | createRole =>
      simp only [roleIdsOf, IncomingRequest.effect, MemberRequest.effect, List.map_append, List.mem_append,
        List.map_cons, List.map_nil, List.mem_singleton] at h
      rcases h with hOld | hCreated
      · exact .inl ⟨hOld, by simp⟩
      · exact .inr ⟨⟨_, _, _, _, _, rfl⟩, hCreated⟩
    | editRole edited edit =>
      refine .inl ⟨?_, by simp⟩
      have hIds : (Keyed.update RoleDefinition.id edited edit.apply community.roles).map RoleDefinition.id =
          community.roles.map RoleDefinition.id := Keyed.map_key_update fun _ => rfl
      rw [roleIdsOf, ← hIds]
      exact h
    | deleteRole deleted =>
      obtain ⟨role, hRole, rfl⟩ := List.mem_map.mp h
      obtain ⟨hRole, hOther⟩ := List.mem_filter.mp hRole
      refine .inl ⟨List.mem_map_of_mem hRole, fun hRequest => ?_⟩
      cases hRequest
      simp at hOther
    | assignRole =>
      simp only [IncomingRequest.effect, MemberRequest.effect] at h
      split_ifs at h
      · exact .inl ⟨h, by simp⟩
      · exact .inl ⟨h, by simp⟩
    | _ => exact .inl ⟨h, by simp⟩

/-- A deleted role is held by no member any more. -/
theorem mentions_of_deleteRole {roleId : UInt32} (hRequest : incoming.request = .member (.deleteRole roleId))
    (h : (incoming.effect communityId community).community.Mentions roleId) :
    ∃ channel ∈ community.channels, ∃ overwrite ∈ channel.permissionOverwrites, overwrite.IsFor roleId := by
  obtain ⟨env, sender, routing, request⟩ := incoming
  cases hRequest
  rcases h with ⟨member, hMember, hHeld⟩ | hOverwrite
  · obtain ⟨former, _, rfl⟩ := List.mem_map.mp hMember
    simp [dropRole] at hHeld
  · exact hOverwrite

end

/-! ## The row of a new role -/

section
variable {incoming : IncomingRequest} {s t : ServerState} {response : CommunityResponse}

theorem returns_execute {ε : Type} (statement : Database → Option Database) (s : ServerState) :
    Returns (fun stored t => stored = true → statement s.db = some t.db)
      (execute statement : EStateM ε ServerState Bool) s := by
  rintro stored t ⟨⟩ hStored
  change (if s.dbFaults.headD false then none else statement s.db).isSome = true at hStored
  change _ = some ((if s.dbFaults.headD false then none else statement s.db).getD s.db)
  split_ifs at hStored ⊢
  · cases hStored
  · obtain ⟨db, hDb⟩ := Option.isSome_iff_exists.mp hStored
    rw [hDb, Option.getD_some]

theorem handleCreateRole_stores (env : Environment) (communityId sender : String) (name : String) (color : UInt32)
    (permissions : Permissions) (hoist mentionable : Bool) :
    Returns (fun response t => ∃ community, s.hosted.lookup communityId = some community ∧
        response = .roleCreated (nextRoleId community.roles) ∧
        (community.communityId, nextRoleId community.roles) ∈ roleKeys t.db)
      (handleCreateRole env communityId sender name color permissions hoist mentionable) s := by
  apply returns_openCommunity
  intro community hCommunity
  refine (returns_execute _ s).bind fun stored t hStored => ?_
  refine .bind_ofExcept fun _ hOk => ?_
  rw [refuseIf_eq_ok_iff, Bool.not_eq_false] at hOk
  rintro response u ⟨⟩
  refine ⟨community, hCommunity, rfl, ?_⟩
  have hInserted := hStored hOk
  unfold Database.insertRole at hInserted
  split_ifs at hInserted
  rw [← Option.some.inj hInserted]
  exact roleKeys_append ▸ List.mem_append_right _ List.mem_cons_self

/-- An answered creation has had its effect, and the row of the role is there. -/
theorem createRole_performs (hCreates : incoming.CreatesRole) (hAnswer : incoming.answer s = .ok response t) :
    ∃ communityId community, incoming.target = some communityId ∧
      Performed communityId community (incoming.effect communityId community) s t ∧
      response = .roleCreated (nextRoleId community.roles) ∧
      (community.communityId, nextRoleId community.roles) ∈ roleKeys t.db := by
  obtain ⟨env, sender, routing, request⟩ := incoming
  obtain ⟨name, color, permissions, hoist, mentionable, rfl⟩ := hCreates
  have hReturns : Returns (fun response t => ∃ communityId community, resolveCommunityId routing = some communityId ∧
        Performed communityId community ((MemberRequest.createRole name color permissions hoist mentionable).effect
          env communityId sender community) s t ∧
        response = .roleCreated (nextRoleId community.roles) ∧
        (community.communityId, nextRoleId community.roles) ∈ roleKeys t.db)
      (dispatchRequest env sender routing (.member (.createRole name color permissions hoist mentionable))) s := by
    refine .bind_ofExcept fun communityId hTarget => ?_
    rw [orThrow_eq_ok_iff] at hTarget
    have hStores : Returns (fun response t => ∃ community, s.hosted.lookup communityId = some community ∧
          response = .roleCreated (nextRoleId community.roles) ∧
          (community.communityId, nextRoleId community.roles) ∈ roleKeys t.db)
        (handleRequest env sender communityId (.createRole name color permissions hoist mentionable)) s := by
      refine (handleCreateRole_stores env communityId sender name color permissions hoist mentionable).bind ?_
      rintro response u ⟨community, hCommunity, hResponse, hKey⟩
      refine Returns.bind (writes_broadcastRolesChanged communityId u) fun _ v hTold => ?_
      rintro _ _ ⟨⟩
      refine ⟨community, hCommunity, hResponse, ?_⟩
      exact hTold.ran.edited.keeps_key (fun statement hStatement => by cases hStatement) hKey
    intro response t hRun
    obtain ⟨community, hCommunity, hResponse, hKey⟩ := hStores response t hRun
    obtain ⟨found, hPerformed⟩ := ((handleCreateRole_performs env communityId sender s name color permissions
      hoist mentionable).thenBroadcast _ _ (writes_broadcastRolesChanged _)) response t hRun
    cases hCommunity.symm.trans hPerformed.found
    exact ⟨communityId, community, hTarget, hPerformed, hResponse, hKey⟩
  exact hReturns response t hAnswer

end

/-! ## Requests -/

/-- What a request must find so as to leave no reference to a role without a row: a join, the default
roles; a deletion, no overwrite for the role; an overwrite for a role, the role. -/
def IncomingRequest.LeavesNoReference (incoming : IncomingRequest) (communityId : String)
    (community : HostedCommunity) (db : Database) : Prop :=
  match incoming.request with
  | .join _ _ _ => findMember community.members incoming.sender = none →
      ∀ roleId ∈ defaultRoleIds community.members.isEmpty, (communityId, roleId) ∈ roleKeys db
  | .member (.deleteRole roleId) => ∀ channel ∈ community.channels,
      ∀ overwrite ∈ channel.permissionOverwrites, ¬overwrite.IsFor roleId
  | .member (.setChannelOverwrite _ targetType targetId _ _) => ∀ roleId,
      overwriteType targetType = .role → parseU32 targetId = some roleId → (communityId, roleId) ∈ roleKeys db
  | _ => True

/-- The role that the request creates is new: no member holds it and no overwrite is for it. -/
def NewRoleFresh (state : ServerState) : ServerEvent → Prop
  | .request incoming => incoming.CreatesRole → ∀ response t, incoming.answer state = .ok response t →
      ∃ communityId community roleId, incoming.target = some communityId ∧
        t.hosted.lookup communityId = some community ∧ response = .roleCreated roleId ∧
        roleId ∈ roleIdsOf community.roles ∧ ¬community.Mentions roleId
  | _ => True

section
variable {incoming : IncomingRequest} {communityId : String} {community : HostedCommunity} {s t : ServerState}

theorem ServerState.Backed.of_spared {allowed : Statement → Prop} (h : s.Backed) (hBeside : Beside allowed s t)
    (hSpared : ∀ communityId community roleId, s.hosted.lookup communityId = some community →
      ∀ statement, allowed statement → ¬statement.Drops (communityId, roleId)) : t.Backed := by
  intro communityId community hCommunity
  rw [hBeside.hosted] at hCommunity
  obtain ⟨hId, hRoles, hMentioned⟩ := h communityId community hCommunity
  have hKept roleId := hBeside.edited.keeps_key (hSpared communityId community roleId hCommunity)
  exact ⟨hId, fun role hRole => hKept _ (hRoles role hRole), fun roleId hMention => hKept _ (hMentioned roleId hMention)⟩

theorem introduces_known (hBacked : community.Backed communityId s.db)
    (hTarget : incoming.target = some communityId) (hCommunity : s.hosted.lookup communityId = some community)
    (hPasses : incoming.Passes s) (hLeaves : incoming.LeavesNoReference communityId community s.db) {roleId : UInt32}
    (hIntroduces : incoming.Introduces community roleId) : (communityId, roleId) ∈ roleKeys s.db := by
  obtain ⟨env, sender, routing, request⟩ := incoming
  cases request with
  | join => exact hLeaves hIntroduces.1 roleId hIntroduces.2
  | member request =>
    cases request with
    | assignRole target assigned =>
      obtain ⟨found, hFound, other, hOther, _, _, hRank, _⟩ := hPasses
      cases hTarget.symm.trans hFound
      cases hCommunity.symm.trans hOther
      obtain ⟨role, hRole, rfl⟩ := List.mem_map.mp (exists_of_rolePosition_lt hRank)
      rw [show roleId = role.id from hIntroduces]
      exact hBacked.roles role hRole
    | setChannelOverwrite => exact hLeaves roleId hIntroduces.1 hIntroduces.2
    | _ => cases hIntroduces

theorem answer_of_passes (hPasses : incoming.Passes s) : ∃ response, incoming.answer s = .ok response (serve s incoming) := by
  rcases (dispatch_settles s incoming).cases with ⟨response, t, hRun, _⟩ | ⟨e, t, _, hRefused, _⟩
  · refine ⟨response, ?_⟩
    unfold serve IncomingRequest.answer
    rw [hRun]
    rfl
  · exact absurd hPasses hRefused

/-- The step of the community that the request is for. -/
theorem Performed.backed (hBacked : community.Backed communityId s.db)
    (hTarget : incoming.target = some communityId) (hPasses : incoming.Passes s)
    (hLeaves : incoming.LeavesNoReference communityId community s.db)
    (hPerformed : Performed communityId community (incoming.effect communityId community) s (serve s incoming)) :
    (incoming.effect communityId community).community.Backed communityId (serve s incoming).db := by
  have hKept {roleId : UInt32} (hKey : (communityId, roleId) ∈ roleKeys s.db)
      (hSpared : incoming.request ≠ .member (.deleteRole roleId)) :
      (communityId, roleId) ∈ roleKeys (serve s incoming).db := by
    refine hPerformed.ran.edited.keeps_key (fun statement hStatement hDrops => ?_) hKey
    obtain ⟨dropped, hRequest, hSame⟩ := effect_drops hStatement hDrops
    rw [(Prod.mk.inj hSame).2] at hSpared
    exact hSpared hRequest
  refine ⟨effect_communityId.trans hBacked.id, fun role hRole => ?_, fun roleId hMention => ?_⟩
  · rcases mem_effect_roles (List.mem_map_of_mem hRole) with ⟨hOld, hSpared⟩ | ⟨hCreates, hNew⟩
    · obtain ⟨former, hFormer, hSame⟩ := List.mem_map.mp hOld
      exact hKept (hSame ▸ hBacked.roles former hFormer) hSpared
    · obtain ⟨response, hAnswer⟩ := answer_of_passes hPasses
      obtain ⟨other, found, hOther, hCreated, _, hKey⟩ := createRole_performs hCreates hAnswer
      cases hTarget.symm.trans hOther
      cases hPerformed.found.symm.trans hCreated.found
      rwa [hNew, ← hBacked.id]
  · by_cases hDeleted : incoming.request = .member (.deleteRole roleId)
    · obtain ⟨channel, hChannel, overwrite, hOverwrite, hFor⟩ := mentions_of_deleteRole hDeleted hMention
      unfold IncomingRequest.LeavesNoReference at hLeaves
      rw [hDeleted] at hLeaves
      exact absurd hFor (hLeaves channel hChannel overwrite hOverwrite)
    · refine hKept ?_ hDeleted
      rcases effect_mentions hMention with hOld | hIntroduces
      · exact hBacked.mentioned roleId hOld
      · exact introduces_known hBacked hTarget hPerformed.found hPasses hLeaves hIntroduces

theorem serve_backed (h : s.Backed) (hLeaves : incoming.Passes s → ∀ communityId community,
      incoming.target = some communityId → s.hosted.lookup communityId = some community →
      incoming.LeavesNoReference communityId community s.db) : (serve s incoming).Backed := by
  rcases serve_effect s incoming with ⟨communityId, community, hTarget, hPasses, hPerformed⟩ | hIdle
  · have hBacked := h communityId community hPerformed.found
    intro other found hFound
    rw [hPerformed.hosted] at hFound
    by_cases hOther : other = communityId
    · rw [hOther, Finmap.lookup_insert] at hFound
      cases hFound
      rw [hOther]
      exact hPerformed.backed hBacked hTarget hPasses (hLeaves hPasses communityId community hTarget hPerformed.found)
    · rw [Finmap.lookup_insert_of_ne _ hOther] at hFound
      obtain ⟨hId, hRoles, hMentioned⟩ := h other found hFound
      have hKept (roleId : UInt32) : (other, roleId) ∈ roleKeys s.db → (other, roleId) ∈ roleKeys (serve s incoming).db := by
        refine hPerformed.ran.edited.keeps_key fun statement hStatement hDrops => ?_
        obtain ⟨_, _, hSame⟩ := effect_drops hStatement hDrops
        exact hOther ((Prod.mk.inj hSame).1.trans hBacked.id)
      exact ⟨hId, fun role hRole => hKept _ (hRoles role hRole),
        fun roleId hMention => hKept _ (hMentioned roleId hMention)⟩
  · refine h.of_spared hIdle fun communityId community roleId hCommunity statement hStatement hDrops => ?_
    rcases hStatement with hAbsent | ⟨row, rfl⟩
    · rw [hDrops.communityId, hCommunity] at hAbsent
      cases hAbsent
    · cases hDrops

theorem passes_of_answer {response : CommunityResponse} (hAnswer : incoming.answer s = .ok response t) :
    incoming.Passes s := by
  rcases (dispatch_settles s incoming).cases with ⟨_, _, _, hPasses⟩ | ⟨e, u, hRun, _⟩
  · exact hPasses
  · cases hAnswer.symm.trans hRun

theorem request_newRoleFresh (h : s.Backed) : NewRoleFresh s (.request incoming) := by
  intro hCreates response t hAnswer
  obtain ⟨communityId, community, hTarget, hPerformed, hResponse, _⟩ := createRole_performs hCreates hAnswer
  have hPasses := passes_of_answer hAnswer
  have hBacked := h communityId community hPerformed.found
  obtain ⟨env, sender, routing, request⟩ := incoming
  obtain ⟨name, color, permissions, hoist, mentionable, rfl⟩ := hCreates
  obtain ⟨other, hOther, found, hFound, _, _, hFree, _⟩ := hPasses
  cases hTarget.symm.trans hOther
  cases hPerformed.found.symm.trans hFound
  have hAfter := (hPerformed.hosted communityId).trans (Finmap.lookup_insert _)
  refine ⟨communityId, _, nextRoleId community.roles, hTarget, hAfter, hResponse, ?_, fun hMention => ?_⟩
  · exact List.mem_map.mpr ⟨_, List.mem_append_right _ List.mem_cons_self, rfl⟩
  · rcases effect_mentions hMention with hOld | hIntroduces
    · obtain ⟨row, hRow, hKey⟩ := List.mem_map.mp (hBacked.mentioned _ hOld)
      refine Bool.eq_false_iff.mp hFree (List.any_eq_true.mpr ⟨row, hRow, ?_⟩)
      obtain ⟨hCommunity, hId⟩ := Prod.mk.inj hKey
      rw [hCommunity, hId, hBacked.id, beq_self_eq_true, beq_self_eq_true]
      rfl
    · cases hIntroduces

end

/-! ## Hosting -/

/-- The role has a row when the community is hosted: now, or as one of the default roles that are
created when no role is loaded. -/
def HostedWith (communityId : String) (db : Database) (roleId : UInt32) : Prop :=
  (communityId, roleId) ∈ roleKeys db ∨
    loadRolesFromDb communityId db = [] ∧ roleId ∈ roleIdsOf defaultRoles

/-- What hosting must find: rows for the roles of the members and of the overwrites that are loaded
and, if a creator is registered, for the default roles. -/
structure HostsKnownRoles (env : Environment) (state : ServerState) (communityId creatorKey : String) : Prop where
  members : ∀ member ∈ loadMembersFromDb env communityId state.db, ∀ roleId ∈ member.roleIds,
    HostedWith communityId state.db roleId
  channels : ∀ channel ∈ loadChannelsFromDb communityId state.db, ∀ overwrite ∈ channel.permissionOverwrites,
    ∀ roleId, overwrite.IsFor roleId → HostedWith communityId state.db roleId
  creator : creatorKey ≠ "" → recordedCreator communityId state.db = "" ∨ true ∈ state.dbFaults →
    state.db.hasMember communityId creatorKey = false →
    ∀ roleId ∈ defaultRoleIds true, HostedWith communityId state.db roleId

/-- The statement deletes no role. -/
def Statement.Spares (statement : Statement) : Prop := ∀ key, ¬statement.Drops key

/-- What hosting leaves alone until it registers the creator. -/
structure Loading (communityId : String) (before after : ServerState) : Prop where
  spared : Beside Statement.Spares before after
  members : after.db.serverMembers = before.db.serverMembers
  memberRoles : after.db.serverMemberRoles = before.db.serverMemberRoles
  creator : recordedCreator communityId after.db = recordedCreator communityId before.db

/-- What hosting leaves alone until it loads the roles. -/
structure BeforeRoles (communityId : String) (before after : ServerState) : Prop where
  loading : Loading communityId before after
  roles : after.db.serverRoles = before.db.serverRoles
  channels : after.db.serverChannels = before.db.serverChannels
  overwrites : after.db.serverChannelOverwrites = before.db.serverChannelOverwrites

section
variable {communityId : String} {s t : ServerState}

instance : Std.Refl (Loading communityId) := ⟨fun s => ⟨refl_of (Beside _) s, rfl, rfl, rfl⟩⟩

instance : IsTrans ServerState (Loading communityId) :=
  ⟨fun _ _ _ hFirst hSecond => ⟨trans_of (Beside _) hFirst.spared hSecond.spared,
    hSecond.members.trans hFirst.members, hSecond.memberRoles.trans hFirst.memberRoles,
    hSecond.creator.trans hFirst.creator⟩⟩

instance : Std.Refl (BeforeRoles communityId) := ⟨fun s => ⟨refl_of (Loading _) s, rfl, rfl, rfl⟩⟩

instance : IsTrans ServerState (BeforeRoles communityId) :=
  ⟨fun _ _ _ hFirst hSecond => ⟨trans_of (Loading _) hFirst.loading hSecond.loading,
    hSecond.roles.trans hFirst.roles, hSecond.channels.trans hFirst.channels,
    hSecond.overwrites.trans hFirst.overwrites⟩⟩

theorem Beside.backed (h : Beside Statement.Spares s t) (hBacked : s.Backed) : t.Backed :=
  hBacked.of_spared h fun _ _ _ _ _ hSpares => hSpares _

theorem Beside.keeps_key (h : Beside Statement.Spares s t) {key : String × UInt32} (hKey : key ∈ roleKeys s.db) :
    key ∈ roleKeys t.db := h.edited.keeps_key (fun _ hSpares => hSpares key) hKey

theorem beforeRoles_query {ε α : Type} (read : Database → α) :
    Keeps (BeforeRoles communityId) (query read : EStateM ε ServerState (Option α)) :=
  fun s => ⟨⟨beside_query read s, rfl, rfl, rfl⟩, rfl, rfl, rfl⟩

theorem loading_query {ε α : Type} (read : Database → α) :
    Keeps (Loading communityId) (query read : EStateM ε ServerState (Option α)) :=
  fun s => (beforeRoles_query read s).loading

theorem loading_load {α : Type} (read : Database → α) : Keeps (Loading communityId) (load read) :=
  (loading_query read).bind fun _ => keeps_ofExcept _

theorem beforeRoles_load {α : Type} (read : Database → α) : Keeps (BeforeRoles communityId) (load read) :=
  (beforeRoles_query read).bind fun _ => keeps_ofExcept _

theorem beforeRoles_executeIgnoring {ε : Type} {statement : Statement} (hSpares : statement.Spares)
    (hRun : ∀ db db', statement.run db = some db' → RosterAside db db' ∧
      recordedCreator communityId db' = recordedCreator communityId db ∧
      db'.serverChannels = db.serverChannels ∧ db'.serverChannelOverwrites = db.serverChannelOverwrites) :
    Keeps (BeforeRoles communityId)
      (executeIgnoring (fun db => statement.run db) : EStateM ε ServerState Unit) := by
  intro s
  have hBeside := @beside_executeIgnoring Statement.Spares ε statement hSpares s
  obtain ⟨db, hRan, hDb⟩ : ∃ db, (executeIgnoring (fun db => statement.run db) : EStateM ε _ _).run s = _ ∧ _ :=
    executeIgnoring_run _ s
  rw [hRan] at hBeside ⊢
  rcases hDb with rfl | hDb
  · exact ⟨⟨hBeside, rfl, rfl, rfl⟩, rfl, rfl, rfl⟩
  · obtain ⟨hAside, hCreator, hChannels, hOverwrites⟩ := hRun _ _ hDb
    exact ⟨⟨hBeside, hAside.members, hAside.memberRoles, hCreator⟩, hAside.roles, hChannels, hOverwrites⟩

theorem beforeRoles_insertCommunity (name : String) : Keeps (BeforeRoles communityId)
    (executeIgnoring (fun db => db.insertCommunity
      { id := communityId, name := name, description := "", creatorPseudonym := "" }) : HostM Unit) := by
  refine @beforeRoles_executeIgnoring _ _ (.insertCommunity _) (fun _ h => h) fun db db' hRun => ?_
  obtain ⟨hAside, hCreator⟩ := insertCommunity_recordedCreator hRun
  refine ⟨hAside, hCreator, ?_⟩
  simp only [Statement.run, Database.insertCommunity] at hRun
  split_ifs at hRun <;> cases hRun <;> exact ⟨rfl, rfl⟩

theorem beforeRoles_loadOrCreateMek (env : Environment) :
    Keeps (BeforeRoles communityId) (loadOrCreateMek env communityId) := by
  refine (beforeRoles_query _).bind fun row => ?_
  cases row.join with
  | some mek => exact keeps_pure _
  | none =>
    refine Keeps.bind (@beforeRoles_executeIgnoring _ _ (.insertOrReplaceMek _) (fun _ h => h)
      fun db db' hRun => ?_) fun _ => keeps_pure _
    simp only [Statement.run, Database.insertOrReplaceMek] at hRun
    split_ifs at hRun
    cases hRun
    exact ⟨⟨rfl, rfl, rfl⟩, rfl, rfl, rfl⟩

theorem loading_insertDefaultRole (role : RoleDefinition) :
    Keeps (Loading communityId) (insertDefaultRole communityId role) := by
  refine Keeps.bind (fun s => ?_) fun _ => keeps_ofExcept _
  have hBeside := @beside_execute Statement.Spares HostError (.insertRoleOrIgnore ⟨communityId, role⟩)
    (fun _ h => h) s
  obtain ⟨stored, db, hRan, hDb⟩ : ∃ stored db, (execute (fun db => db.insertRoleOrIgnore ⟨communityId, role⟩) :
      HostM Bool).run s = _ ∧ _ := execute_run _ s
  change Beside _ s (Result.state ((execute fun db => db.insertRoleOrIgnore ⟨communityId, role⟩).run s)) at hBeside
  rw [hRan] at hBeside ⊢
  rcases hDb with rfl | hDb
  · exact ⟨hBeside, rfl, rfl, rfl⟩
  · unfold Database.insertRoleOrIgnore at hDb
    split_ifs at hDb <;> cases hDb <;> exact ⟨hBeside, rfl, rfl, rfl⟩

theorem returns_insertDefaultRole (role : RoleDefinition) :
    Returns (fun _ t => (communityId, role.id) ∈ roleKeys t.db) (insertDefaultRole communityId role) s := by
  refine (returns_execute _ s).bind fun stored t hStored => ?_
  rintro _ u hRun
  cases stored with
  | false => cases hRun
  | true =>
    cases hRun
    have hInserted := hStored rfl
    unfold Database.insertRoleOrIgnore at hInserted
    split_ifs at hInserted with hThere
    · rw [← Option.some.inj hInserted]
      exact Database.hasRole_iff.mp hThere
    · rw [← Option.some.inj hInserted]
      exact roleKeys_append ▸ List.mem_append_right _ List.mem_cons_self

/-- When the loop is through, all rows are there. -/
theorem returns_insertDefaultRoles (roles : List RoleDefinition) :
    Returns (fun _ t => ∀ role ∈ roles, (communityId, role.id) ∈ roleKeys t.db)
      (roles.forM (insertDefaultRole communityId)) s := by
  induction roles generalizing s with
  | nil => exact returns_pure (by simp)
  | cons role rest ih =>
    refine (returns_insertDefaultRole role).bind fun _ t hKey => ?_
    intro _ u hRun
    have hLater := keeps_list_forM rest (@loading_insertDefaultRole communityId) t
    rw [hRun] at hLater
    exact List.forall_mem_cons.mpr ⟨hLater.spared.keeps_key hKey, ih _ u hRun⟩

theorem loading_loadOrCreateRoles : Keeps (Loading communityId) (loadOrCreateRoles communityId) := by
  refine (loading_load _).bind fun roles => ?_
  split
  · exact (keeps_list_forM _ loading_insertDefaultRole).bind fun _ => keeps_pure _
  · exact keeps_pure _

theorem returns_load {α : Type} (read : Database → α) :
    Returns (fun a t => a = read s.db ∧ t.db = s.db) (load read) s := by
  rintro a t hRun
  obtain ⟨rows, u, hQuery, hRows⟩ := run_bind_eq_ok_iff.mp hRun
  cases hQuery
  split_ifs at hRows
  · cases hRows
  · cases hRows
    exact ⟨rfl, rfl⟩

theorem returns_loadOrCreateRoles :
    Returns (fun roles t => (∀ role ∈ roles, (communityId, role.id) ∈ roleKeys t.db) ∧
        ∀ roleId, HostedWith communityId s.db roleId → (communityId, roleId) ∈ roleKeys t.db)
      (loadOrCreateRoles communityId) s := by
  refine (returns_load _).bind fun roles t ⟨hRoles, hDb⟩ => ?_
  subst hRoles
  split
  · next hNone =>
    rintro roles u hRun
    obtain ⟨_, v, hLoop, hReturned⟩ := run_bind_eq_ok_iff.mp hRun
    cases hReturned
    have hKeys := returns_insertDefaultRoles defaultRoles _ u hLoop
    have hLater := keeps_list_forM defaultRoles (@loading_insertDefaultRole communityId) t
    rw [show (defaultRoles.forM (insertDefaultRole communityId)).run t = _ from hLoop] at hLater
    refine ⟨hKeys, fun roleId hHosted => ?_⟩
    rcases hHosted with hThere | ⟨_, hDefault⟩
    · exact hLater.spared.keeps_key (hDb ▸ hThere)
    · obtain ⟨role, hRole, rfl⟩ := List.mem_map.mp hDefault
      exact hKeys role hRole
  · next hSome =>
    refine returns_pure ⟨fun role hRole => ?_, fun roleId hHosted => ?_⟩
    · obtain ⟨row, hRow, hKey, _⟩ := mem_loadRoles.mp (List.mem_map_of_mem hRole)
      rw [hDb]
      exact List.mem_map.mpr ⟨row, hRow, hKey⟩
    · rw [hDb]
      exact hHosted.resolve_right fun h => hSome h.1

theorem ends_registerCreator_backed {f : HostedCommunity → HostM Unit} {env : Environment}
    {creatorKey creatorDisplayName : String} {community : HostedCommunity}
    (hState : s.Backed) (hCommunity : community.Backed communityId s.db)
    (hDefaults : creatorKey ≠ "" → community.creatorPseudonymHex = "" →
      findMember community.members creatorKey = none →
      ∀ roleId ∈ defaultRoleIds true, (communityId, roleId) ∈ roleKeys s.db)
    (hRest : ∀ t registered, t.Backed → registered.Backed communityId t.db →
      Ends ServerState.Backed (f registered) t) :
    Ends ServerState.Backed
      (registerCreator env communityId creatorKey creatorDisplayName community >>= f) s := by
  unfold registerCreator
  split_ifs with hRegisters
  · have hKnown := hDefaults hRegisters.1 hRegisters.2.1 hRegisters.2.2
    simp only [bind_assoc, pure_bind]
    refine Ends.bind_of_keeps (@insertMemberRows_beside Statement.Spares _ _ _ _ _ _ (fun _ h => h) fun _ _ h => h)
      (fun _ hT => hT.backed hState) fun _ t hT => ?_
    refine Ends.bind_of_keeps (@beside_executeIgnoring Statement.Spares _
      (.recordCreator communityId creatorKey) fun _ h => h)
      (fun _ hU => hU.backed (hT.backed hState)) fun _ u hU => ?_
    have hLater := trans_of (Beside Statement.Spares) hT hU
    refine hRest u _ (hLater.backed hState) ⟨hCommunity.id, fun role hRole => hLater.keeps_key (hCommunity.roles role hRole),
      fun roleId hMention => hLater.keeps_key ?_⟩
    rcases hMention with ⟨member, hMember, hHeld⟩ | hOverwrite
    · rcases List.mem_append.mp hMember with hOld | hCreator
      · exact hCommunity.mentioned roleId (.inl ⟨member, hOld, hHeld⟩)
      · rw [List.mem_singleton.mp hCreator] at hHeld
        exact hKnown roleId hHeld
    · exact hCommunity.mentioned roleId (.inr hOverwrite)
  · exact hRest s community hState hCommunity

theorem ServerState.Backed.set {community : HostedCommunity} (h : s.Backed)
    (hCommunity : community.Backed communityId s.db) :
    Ends ServerState.Backed (setCommunity communityId community : HostM Unit) s := by
  intro other found hFound
  by_cases hOther : other = communityId
  · rw [hOther] at hFound ⊢
    cases (Finmap.lookup_insert _).symm.trans hFound
    exact hCommunity
  · exact h other found ((Finmap.lookup_insert_of_ne _ hOther).symm.trans hFound)

theorem returns_query {α : Type} (read : Database → α) :
    Returns (fun found _ => found = some (read s.db) ∨ true ∈ s.dbFaults)
      (query read : EStateM HostError ServerState (Option α)) s := by
  rintro found t ⟨⟩
  cases hHead : s.dbFaults.headD false with
  | false => exact .inl rfl
  | true =>
    refine .inr ?_
    cases hFaults : s.dbFaults with
    | nil => rw [hFaults] at hHead; cases hHead
    | cons fault rest =>
      rw [hFaults] at hHead
      rw [show fault = true from hHead]
      exact List.mem_cons_self

theorem HostedWith.congr {db db' : Database} (hRoles : db'.serverRoles = db.serverRoles) {roleId : UInt32}
    (h : HostedWith communityId db roleId) : HostedWith communityId db' roleId := by
  unfold HostedWith roleKeys loadRolesFromDb at h ⊢
  rwa [hRoles]

/-- The roles of the members that are loaded depend on two tables only. -/
theorem loadMembers_roleIds {db db' : Database} {env : Environment} (hMembers : db'.serverMembers = db.serverMembers)
    (hRoles : db'.serverMemberRoles = db.serverMemberRoles) {member : ServerMember}
    (hMember : member ∈ loadMembersFromDb env communityId db') :
    ∃ former ∈ loadMembersFromDb env communityId db, member.roleIds = former.roleIds := by
  obtain ⟨row, hRow, rfl⟩ := List.mem_map.mp hMember
  rw [hMembers] at hRow
  refine ⟨_, List.mem_map_of_mem hRow, ?_⟩
  change loadMemberRoles communityId db' _ = loadMemberRoles communityId db _
  rw [loadMemberRoles, hRoles]
  rfl

/-- What is loaded mentions only roles that have a row when all roles are there. -/
theorem backed_of_loaded {env : Environment} {creatorKey : String} (hKnown : HostsKnownRoles env s communityId creatorKey)
    (hKeys : ∀ roleId, HostedWith communityId s.db roleId → (communityId, roleId) ∈ roleKeys t.db)
    {community : HostedCommunity} (hId : community.communityId = communityId)
    (hRoles : ∀ role ∈ community.roles, (communityId, role.id) ∈ roleKeys t.db)
    (hMembers : ∀ member ∈ community.members, ∃ former ∈ loadMembersFromDb env communityId s.db,
      member.roleIds = former.roleIds)
    (hChannels : community.channels = loadChannelsFromDb communityId s.db) : community.Backed communityId t.db := by
  refine ⟨hId, hRoles, fun roleId hMention => hKeys roleId ?_⟩
  rcases hMention with ⟨member, hMember, hHeld⟩ | ⟨channel, hChannel, overwrite, hOverwrite, hFor⟩
  · obtain ⟨former, hFormer, hSame⟩ := hMembers member hMember
    exact hKnown.members former hFormer roleId (hSame ▸ hHeld)
  · exact hKnown.channels channel (hChannels ▸ hChannel) overwrite hOverwrite roleId hFor

theorem hostNewly_backed (h : s.Backed) (env : Environment) (name creatorKey creatorDisplayName : String)
    (setup : Except HostError Unit) (hKnown : HostsKnownRoles env s communityId creatorKey) :
    Ends ServerState.Backed (hostNewly env communityId name creatorKey creatorDisplayName setup) s := by
  unfold hostNewly
  refine Ends.bind_of_keeps (beforeRoles_insertCommunity name) (fun _ hT => hT.loading.spared.backed h)
    fun _ begun hBegun => ?_
  refine Ends.bind_of_keeps (beforeRoles_loadOrCreateMek env)
    (fun _ hT => (trans_of (BeforeRoles _) hBegun hT).loading.spared.backed h) fun mek keyed hKeyed => ?_
  replace hKeyed := trans_of (BeforeRoles communityId) hBegun hKeyed
  refine Ends.bind_of_returns (beforeRoles_load _) (returns_load _)
    (fun _ hT => (trans_of (BeforeRoles _) hKeyed hT).loading.spared.backed h) fun channels t hT hChannels => ?_
  replace hT := trans_of (BeforeRoles communityId) hKeyed hT
  refine Ends.bind_of_returns loading_loadOrCreateRoles returns_loadOrCreateRoles
    (fun _ hU => (trans_of (Loading _) hT.loading hU).spared.backed h) fun roles u hU hRoles => ?_
  replace hU := trans_of (Loading communityId) hT.loading hU
  refine Ends.bind_of_returns (loading_load _) (returns_load _)
    (fun _ hV => (trans_of (Loading _) hU hV).spared.backed h) fun members v hV hMembers => ?_
  refine Ends.bind_ofExcept ((trans_of (Loading _) hU hV).spared.backed h) fun _ _ => ?_
  refine Ends.bind_of_keeps (loading_query _)
    (fun _ hW => (trans_of (Loading _) hU (trans_of (Loading _) hV hW)).spared.backed h) fun description w hW => ?_
  replace hW := trans_of (Loading communityId) hV hW
  refine Ends.bind_of_returns (loading_query _) (returns_query _)
    (fun _ hX => (trans_of (Loading _) hU (trans_of (Loading _) hW hX)).spared.backed h)
    fun creator x hX hCreator => ?_
  have hAfter : Loading communityId u x := trans_of (Loading communityId) hW hX
  have hWhole : Loading communityId s x := trans_of (Loading communityId) hU hAfter
  have hKeys (roleId : UInt32) (hHosted : HostedWith communityId s.db roleId) :
      (communityId, roleId) ∈ roleKeys x.db :=
    hAfter.spared.keeps_key (hRoles.2 roleId (hHosted.congr hT.roles))
  refine ends_registerCreator_backed (hWhole.spared.backed h)
    (backed_of_loaded hKnown hKeys rfl (fun role hRole => hAfter.spared.keeps_key (hRoles.1 role hRole))
      (fun member hMember => loadMembers_roleIds hU.members hU.memberRoles (hMembers.1 ▸ hMember)) ?_) ?_
    fun _ _ hY hRegistered => hY.set hRegistered
  · change channels = _
    rw [hChannels.1]
    unfold loadChannelsFromDb loadOverwrites
    rw [hKeyed.channels, hKeyed.overwrites]
  · intro hKey hNone hNew roleId hRole
    refine hKeys roleId (hKnown.creator hKey ?_ ?_ roleId hRole)
    · rcases hCreator with rfl | hFault
      · refine .inl ?_
        rw [← hU.creator, ← hW.creator]
        exact hNone
      · exact .inr (hU.spared.edited.faults.subset (hW.spared.edited.faults.subset hFault))
    · have hAbsent := hasMember_of_findMember_eq_none (hMembers.1 ▸ hNew)
      rwa [Database.hasMember, hU.members] at hAbsent

end

/-! ## Runs -/

/-- What a step must find so as to leave no reference to a role without a row. -/
def LeavesNoReference (state : ServerState) : ServerEvent → Prop
  | .restart => True
  | .unhost _ => True
  | .host env communityId _ creatorKey _ _ =>
    communityId ∉ state.hosted → HostsKnownRoles env state communityId creatorKey
  | .request incoming => incoming.Passes state → ∀ communityId community,
      incoming.target = some communityId → state.hosted.lookup communityId = some community →
      incoming.LeavesNoReference communityId community state.db

theorem unhostCommunity_backed {state : ServerState} (h : state.Backed) (communityId : String) :
    Ends ServerState.Backed (unhostCommunity communityId) state := by
  cases hCommunity : state.hosted.lookup communityId with
  | none =>
    unfold Ends
    rwa [unhostCommunity_of_absent hCommunity]
  | some community =>
    unfold Ends
    rw [unhostCommunity_of_hosted hCommunity]
    have hErased : ServerState.Backed { state with hosted := state.hosted.erase communityId } := by
      intro other found hFound
      by_cases hOther : other = communityId
      · rw [hOther, Finmap.lookup_erase] at hFound
        cases hFound
      · exact h other found ((Finmap.lookup_erase_ne hOther).symm.trans hFound)
    refine hErased.of_spared (@beside_executeIgnoring (· = .deleteCommunity communityId) _
      (.deleteCommunity communityId) rfl _) ?_
    rintro other found roleId hFound _ rfl hDrops
    rw [show other = communityId from hDrops, Finmap.lookup_erase] at hFound
    cases hFound

theorem handleEvent_backed {state : ServerState} {event : ServerEvent} (h : state.Backed)
    (hLeaves : LeavesNoReference state event) : (handleEvent state event).Backed := by
  cases event with
  | restart =>
    intro communityId community hCommunity
    cases Finmap.lookup_empty communityId |>.symm.trans hCommunity
  | unhost communityId => exact unhostCommunity_backed h communityId
  | host env communityId name creatorKey creatorDisplayName setup =>
    change (Result.state ((hostCommunity env communityId name creatorKey creatorDisplayName setup).run state)).Backed
    cases hCommunity : state.hosted.lookup communityId with
    | some community =>
      rw [hostCommunity_of_hosted env name creatorKey creatorDisplayName setup hCommunity]
      exact h
    | none =>
      rw [hostCommunity_of_absent env name creatorKey creatorDisplayName setup hCommunity]
      exact hostNewly_backed h env name creatorKey creatorDisplayName setup
        (hLeaves (Finmap.lookup_eq_none.mp hCommunity))
  | request incoming => exact serve_backed h hLeaves

theorem initial_backed (dbFaults : List Bool) : (ServerState.initial dbFaults).Backed := by
  intro communityId community hCommunity
  rw [ServerState.initial, Finmap.lookup_empty] at hCommunity
  cases hCommunity

/-- New roles are fresh along every run whose steps leave no reference to a role without a row. -/
theorem new_roles_fresh (dbFaults : List Bool) {events : List ServerEvent}
    (hRun : Along handleEvent LeavesNoReference (ServerState.initial dbFaults) events) :
    Along handleEvent NewRoleFresh (ServerState.initial dbFaults) events := by
  refine (Along.of_invariant ServerState.Backed (fun state event h hLeaves => ?_) (initial_backed dbFaults) hRun).1
  refine ⟨handleEvent_backed h hLeaves, ?_⟩
  cases event with
  | request incoming => exact request_newRoleFresh h
  | _ => trivial

/-! ## A role with the id of a deleted one -/

def createPeers : IncomingRequest := sampleRequest "alice" (.member (.createRole "peers" 0 0 false false))

def peersDeleted : List ServerEvent :=
  [.host sampleEnvironment "c" "Community" "alice" "Alice" (.ok ()), .request createPeers,
   .request (sampleRequest "alice" (.member (.deleteRole 5)))]

theorem recreated_role_fresh :
    Along handleEvent NewRoleFresh (ServerState.initial []) (peersDeleted ++ [.request createPeers]) := by
  apply new_roles_fresh
  have hNoChannel : inSample (handleEvent hostedByAlice (.request createPeers))
      (fun community => community.channels = []) = true := by decide +kernel
  have hDeletes : LeavesNoReference (handleEvent hostedByAlice (.request createPeers))
      (.request (sampleRequest "alice" (.member (.deleteRole 5)))) := by
    rintro _ communityId community ⟨⟩ hCommunity channel hChannel
    rw [of_decide_eq_true (test_of_inSample hNoChannel hCommunity)] at hChannel
    cases hChannel
  refine ⟨fun _ => ⟨?_, ?_, ?_⟩, fun _ _ _ _ _ => trivial, hDeletes, fun _ _ _ _ _ => trivial, trivial⟩
  · rintro member hMember
    cases hMember
  · rintro channel hChannel
    cases hChannel
  · intro _ _ _ roleId hRole
    have hDefaults : (defaultRoleIds true).all (· ∈ roleIdsOf defaultRoles) = true := by decide
    exact .inr ⟨rfl, of_decide_eq_true (List.all_eq_true.mp hDefaults roleId hRole)⟩

/-- Alice lets the peers into a channel before she deletes their role. -/
def overwriteLeft : List ServerEvent :=
  [.host sampleEnvironment "c" "Community" "alice" "Alice" (.ok ()), .request createPeers,
   .request (sampleRequest "alice" (.member (.createChannel "plans" "text"))),
   .request (sampleRequest "alice" (.member (.setChannelOverwrite "channel_" "role" "5" viewChannel 0))),
   .request (sampleRequest "alice" (.member (.deleteRole 5)))]

/-- The answer creates the role, and a channel has an overwrite for it. -/
def opensChannelToNewRole : EStateM.Result RpcError ServerState CommunityResponse → Bool
  | .ok (.roleCreated roleId) t => inSample t fun community => community.channels.any fun channel =>
      channel.permissionOverwrites.any fun overwrite => decide (overwrite.IsFor roleId)
  | _ => false

theorem overwrite_outlives_role : ¬∀ dbFaults events,
    Along handleEvent NewRoleFresh (ServerState.initial dbFaults) events := by
  intro hClaim
  have hFresh := (hClaim [] (overwriteLeft ++ [.request createPeers])).last
  have hOpens : opensChannelToNewRole
      (createPeers.answer (final handleEvent (ServerState.initial []) overwriteLeft)) = true := by decide +kernel
  cases hAnswer : createPeers.answer (final handleEvent (ServerState.initial []) overwriteLeft) with
  | error => rw [hAnswer] at hOpens; cases hOpens
  | ok response t =>
    obtain ⟨communityId, community, roleId, hTarget, hCommunity, rfl, _, hNot⟩ :=
      hFresh ⟨_, _, _, _, _, rfl⟩ response t hAnswer
    cases hTarget
    rw [hAnswer] at hOpens
    have hTest := test_of_inSample hOpens hCommunity
    obtain ⟨channel, hChannel, hAny⟩ := List.any_eq_true.mp hTest
    obtain ⟨overwrite, hOverwrite, hFor⟩ := List.any_eq_true.mp hAny
    exact hNot (.inr ⟨channel, hChannel, overwrite, hOverwrite, of_decide_eq_true hFor⟩)

end Rekindle.Server
