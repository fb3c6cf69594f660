import Rekindle.Server.PersistedRuns

/-! # A restart brings every community back

The server hosts what its tables have again. Only the order of things, what cannot be read back and timeouts that are
over get lost.
-/
namespace Rekindle.Server
set_option autoImplicit false
open Fallible Mirrors Runs

/-- The same member, but for the order of roles and a timeout that is over. -/
structure MemberRestored (now : UInt64) (before after : ServerMember) : Prop where
  same : { after with roleIds := before.roleIds, timeoutUntil := before.timeoutUntil } = before
  roleIds : after.roleIds.Perm before.roleIds
  timeoutUntil : after.timeoutUntil = before.timeoutUntil.filter fun deadline => Lasting now deadline

structure ChannelRestored (before after : ServerChannel) : Prop where
  same : { after with permissionOverwrites := before.permissionOverwrites } = before
  overwrites : after.permissionOverwrites.Perm (before.permissionOverwrites.filter fun overwrite => overwrite.Readable)

/-- The same community, whatever its name. -/
structure Restored (now : UInt64) (before after : HostedCommunity) : Prop where
  communityId : after.communityId = before.communityId
  description : after.description = before.description
  creator : after.creatorPseudonymHex = before.creatorPseudonymHex
  mek : after.mek = before.mek
  members : ∀ pseudonym, Option.Rel (MemberRestored now) (findMember before.members pseudonym)
    (findMember after.members pseudonym)
  channels : ∀ channelId, Option.Rel ChannelRestored (Keyed.find ServerChannel.id channelId before.channels)
    (Keyed.find ServerChannel.id channelId after.channels)
  roles : after.roles.Perm (before.roles.filter fun role => readsAsU64 role.permissions)
  distinct : after.Distinct

/-! ## Two memories of the same tables -/

/-- What hosting finds at this time has nothing that it could not find again. -/
structure Loaded (now : UInt64) (community : HostedCommunity) : Prop where
  timeouts : ∀ member ∈ community.members, ∀ deadline ∈ member.timeoutUntil, Lasting now deadline
  overwrites : ∀ channel ∈ community.channels, ∀ overwrite ∈ channel.permissionOverwrites, overwrite.Readable
  roles : ∀ role ∈ community.roles, readsAsU64 role.permissions = true

section
variable {now : UInt64} {communityId name : String} {db : Database} {before after : HostedCommunity}

theorem KeyMirrored.unique {first second : MediaEncryptionKey} {rows : List MekRow} (hRows : (rows.map MekRow.key).Nodup)
    (hFirst : KeyMirrored communityId first rows) (hSecond : KeyMirrored communityId second rows) : first = second := by
  obtain ⟨row, hRow, hOwn, hGeneration, hKey⟩ := hFirst.stored
  obtain ⟨other, hOther, hSame, hOtherGeneration, hOtherKey⟩ := hSecond.stored
  have hLess := hFirst.latest other hOther hSame
  have hMore := hSecond.latest row hRow hOwn
  rw [hOtherGeneration] at hLess
  rw [hGeneration] at hMore
  have hGenerations : first.generation = second.generation := UInt64.toNat_inj.mp (Nat.le_antisymm hMore hLess)
  have hRowSame : row = other := by
    refine List.inj_on_of_nodup_map hRows hRow hOther (Prod.ext (hOwn.trans hSame.symm) ?_)
    rw [MekRow.key, MekRow.key, hGeneration, hOtherGeneration, hGenerations]
  have hKeys : first.key = second.key := by rw [← hKey, ← hOtherKey, hRowSame]
  obtain ⟨generation, key⟩ := first
  cases hGenerations
  cases hKeys
  rfl

theorem Mirrored.same_description (hCommunities : (db.hostedCommunities.map CommunityRow.id).Nodup)
    (hBefore : Mirrored now communityId db before) {row : CommunityRow} (hRow : row ∈ db.hostedCommunities)
    (hOwn : row.id = communityId) :
    row.description = before.description ∧ row.creatorPseudonym = before.creatorPseudonymHex := by
  obtain ⟨stored, hStored, hSame, hDescribed⟩ := hBefore.described
  rwa [List.inj_on_of_nodup_map hCommunities hRow hStored (hOwn.trans hSame.symm)]

theorem restored_timeout {first second : ServerMember} {rows : List TimeoutRow}
    (hFirst : TimeoutMirrored now communityId first rows) (hSecond : TimeoutMirrored now communityId second rows)
    (hKey : second.pseudonymKeyHex = first.pseudonymKeyHex) (hLasting : ∀ deadline ∈ second.timeoutUntil, Lasting now deadline) :
    second.timeoutUntil = first.timeoutUntil.filter fun deadline => Lasting now deadline := by
  rw [TimeoutMirrored, hKey] at hSecond
  obtain hNone | ⟨deadline, hDeadline⟩ := Option.eq_none_or_eq_some second.timeoutUntil
  · rw [hNone]
    symm
    rw [Option.filter_eq_none_iff]
    intro deadline hDeadline hTest
    obtain ⟨other, hOther, -⟩ := hFirst.agree hSecond (Option.mem_toList.mpr hDeadline) ⟨rfl, rfl⟩ (of_decide_eq_true hTest)
    rw [hNone] at hOther
    cases hOther
  · have hStill := hLasting deadline hDeadline
    obtain ⟨other, hOther, hSame⟩ := hSecond.agree hFirst (Option.mem_toList.mpr hDeadline) ⟨rfl, rfl⟩ hStill
    cases hSame
    rw [hDeadline, Option.mem_toList.mp hOther, Option.filter_some, if_pos (decide_eq_true hStill)]

theorem restored_member {before after : HostedCommunity} (hBefore : Mirrored now communityId db before)
    (hAfter : Mirrored now communityId db after) (hLoaded : Loaded now after) {first second : ServerMember}
    (hFirst : first ∈ before.members) (hSecond : second ∈ after.members)
    (hRow : second.row communityId = first.row communityId) : MemberRestored now first second := by
  have hKey : second.pseudonymKeyHex = first.pseudonymKeyHex := congrArg MemberRow.pseudonymKeyHex hRow
  refine ⟨?_, ?_, ?_⟩
  · obtain ⟨_, _, _, _, _, _⟩ := first
    obtain ⟨_, _, _, _, _, _⟩ := second
    cases hRow
    rfl
  · have hHeld := hAfter.held second hSecond
    rw [HeldMirrored, hKey] at hHeld
    have hPerm := (hBefore.held first hFirst).perm_visible hHeld (fun _ => rfl)
      (fun _ _ hSame => congrArg MemberRoleRow.roleId hSame) (hBefore.distinct.held first hFirst)
      (hAfter.distinct.held second hSecond)
    have hAll (roleIds : List UInt32) : roleIds.filter (fun _ => decide True) = roleIds :=
      List.filter_eq_self.mpr fun _ _ => decide_eq_true trivial
    rwa [hAll, hAll] at hPerm
  · exact restored_timeout (hBefore.timeouts first hFirst) (hAfter.timeouts second hSecond) hKey
      (hLoaded.timeouts second hSecond)

theorem restored_channel {before after : HostedCommunity} (hBefore : Mirrored now communityId db before)
    (hAfter : Mirrored now communityId db after) (hLoaded : Loaded now after) {first second : ServerChannel}
    (hFirst : first ∈ before.channels) (hSecond : second ∈ after.channels)
    (hRow : second.row communityId = first.row communityId) : ChannelRestored first second := by
  have hId : second.id = first.id := congrArg ChannelRow.id hRow
  refine ⟨?_, ?_⟩
  · obtain ⟨_, _, _, _, _⟩ := first
    obtain ⟨_, _, _, _, _⟩ := second
    cases hRow
    rfl
  · have hOverwrites := hAfter.overwrites second hSecond
    rw [OverwritesMirrored, hId] at hOverwrites
    have hInjective : Function.Injective (PermissionOverwrite.row communityId first.id) := by
      intro one other hSame
      obtain ⟨_, _, _, _⟩ := one
      obtain ⟨_, _, _, _⟩ := other
      obtain ⟨hType, rfl, rfl, rfl⟩ : _ ∧ _ ∧ _ ∧ _ := by
        simpa only [PermissionOverwrite.row, OverwriteRow.mk.injEq, true_and] using hSame
      have hTypes := congrArg overwriteType hType
      rw [overwriteType_name, overwriteType_name] at hTypes
      rw [hTypes]
    have hPerm := (hBefore.overwrites first hFirst).perm_visible hOverwrites (fun _ => rfl) hInjective
      ((hBefore.distinct.overwrites first hFirst).of_map _) ((hAfter.distinct.overwrites second hSecond).of_map _)
    have hAll : second.permissionOverwrites.filter (fun overwrite =>
        OverwriteRow.Readable (overwrite.row communityId first.id)) = second.permissionOverwrites :=
      List.filter_eq_self.mpr fun overwrite hOverwrite => decide_eq_true (hLoaded.overwrites second hSecond overwrite hOverwrite)
    rwa [hAll] at hPerm

theorem restored_of_mirrored (hValid : db.Valid) (hBefore : Mirrored now communityId db before)
    (hAfter : Mirrored now communityId db after) (hLoaded : Loaded now after) : Restored now before after := by
  obtain ⟨row, hRow, hOwn, hDescription, hCreator⟩ := hAfter.described
  obtain ⟨hDescribed, hCreated⟩ := hBefore.same_description hValid.communities hRow hOwn
  refine {
    communityId := hAfter.named.trans hBefore.named.symm
    description := hDescription.symm.trans hDescribed
    creator := hCreator.symm.trans hCreated
    mek := hAfter.key.unique hValid.meks hBefore.key
    members := fun pseudonym => ?_
    channels := fun channelId => ?_
    roles := ?_
    distinct := hAfter.distinct }
  · have hFound : Option.Rel _ (findMember before.members pseudonym) (findMember after.members pseudonym) :=
      hBefore.members.find_agree hAfter.members (fun _ => rfl)
        (fun _ _ hSame => congrArg MemberRow.pseudonymKeyHex hSame) hAfter.distinct.members pseudonym
    generalize findMember before.members pseudonym = first at hFound ⊢
    generalize findMember after.members pseudonym = second at hFound ⊢
    cases hFound with
    | none => exact .none
    | some hSame => exact .some (restored_member hBefore hAfter hLoaded hSame.1 hSame.2.1 hSame.2.2)
  · have hFound : Option.Rel _ (Keyed.find ServerChannel.id channelId before.channels)
        (Keyed.find ServerChannel.id channelId after.channels) :=
      hBefore.channels.find_agree hAfter.channels (fun _ => rfl) (fun _ _ hSame => congrArg ChannelRow.id hSame)
        hAfter.distinct.channels channelId
    generalize Keyed.find ServerChannel.id channelId before.channels = first at hFound ⊢
    generalize Keyed.find ServerChannel.id channelId after.channels = second at hFound ⊢
    cases hFound with
    | none => exact .none
    | some hSame => exact .some (restored_channel hBefore hAfter hLoaded hSame.1 hSame.2.1 hSame.2.2)
  · have hPerm := hBefore.roles.perm_visible hAfter.roles (fun _ => rfl) (fun _ _ hSame => congrArg RoleRow.role hSame)
      (hBefore.distinct.roles.of_map _) (hAfter.distinct.roles.of_map _)
    have hAll : after.roles.filter (fun role => readsAsU64 (RoleRow.mk communityId role).role.permissions = true) =
        after.roles := List.filter_eq_self.mpr fun role hRole => decide_eq_true (hLoaded.roles role hRole)
    rw [hAll] at hPerm
    refine hPerm.trans (List.Perm.of_eq (List.filter_congr fun role _ => ?_))
    exact Bool.decide_eq_true

end

/-! ## Hosting again -/

section
variable {env : Environment} {now : UInt64} {communityId name : String} {db : Database} {community : HostedCommunity}
  {limit : Nat}

theorem loaded_hostedCommunity (env : Environment) (communityId name : String) (db : Database) :
    Loaded env.now (hostedCommunity env communityId name db) := by
  refine ⟨fun member hMember deadline hDeadline => ?_, fun channel hChannel overwrite hOverwrite => ?_, fun role hRole => ?_⟩
  · obtain ⟨row, -, rfl⟩ := List.mem_map.mp hMember
    obtain ⟨timeout, hTimeout, rfl⟩ := Option.map_eq_some_iff.mp hDeadline
    have hTest := List.find?_some hTimeout
    simp only [Bool.and_eq_true, decide_eq_true_eq] at hTest
    exact ⟨hTest.1.2, hTest.2⟩
  · obtain ⟨row, -, rfl⟩ := List.mem_map.mp hChannel
    obtain ⟨stored, hStored, rfl⟩ := List.mem_map.mp hOverwrite
    have hTest := (List.mem_filter.mp hStored).2
    simp only [Bool.and_eq_true] at hTest
    exact ⟨hTest.1.2, hTest.2⟩
  · change role ∈ hostedRoles communityId db at hRole
    unfold hostedRoles at hRole
    split at hRole
    · have hAll : ∀ role ∈ defaultRoles, readsAsU64 role.permissions = true := by decide
      exact hAll role hRole
    · exact (mem_loadRolesFromDb.mp hRole).2

/-- Nothing is written when a community of the tables is hosted again. -/
theorem hostedTables_of_mirrored (h : Mirrored now communityId db community) (hLoadable : db.Loadable limit) :
    hostedTables env communityId name db = db := by
  have hCommunity : runAll [.insertCommunity (hostedRow communityId name)] db = db := by
    have hThere : db.hasCommunity (hostedRow communityId name).id = true := h.hasCommunity
    rw [runAll_cons, Statement.run, Database.insertCommunity, if_pos hThere]
    rfl
  have hMek : mekStatements env communityId db = [] := by
    refine if_neg fun hNone => ?_
    obtain ⟨stored, hStored, hOwn, -⟩ := h.key.stored
    rw [loadLatestMek, Option.bind_eq_none_iff] at hNone
    obtain hAbsent | ⟨latest, hLatest⟩ := Option.eq_none_or_eq_some (latestMekRow communityId db)
    · exact latestMekRow_eq_none hAbsent stored hStored hOwn
    · have hLoaded := hNone latest hLatest
      rw [if_pos (hLoadable.keys latest (latestMekRow_spec hLatest).1).1] at hLoaded
      cases hLoaded
  have hRoles : roleStatements communityId db = [] := by
    refine if_neg fun hNone => ?_
    obtain ⟨role, hRole, -, hReads⟩ := h.everyone
    have hLoaded : role ∈ loadRolesFromDb communityId db := mem_loadRolesFromDb.mpr ⟨h.roles.stored role hRole, hReads⟩
    rw [hNone] at hLoaded
    cases hLoaded
  unfold hostedTables hostingStatements
  rw [hMek, hRoles]
  exact hCommunity

theorem hostedCommunity_restored (h : Mirrored env.now communityId db community) (hLoadable : db.Loadable limit)
    (hLimit : limit ≤ i64Max) : Restored env.now community (hostedCommunity env communityId name db) := by
  have hLoaded := @hostedCommunity_mirrored env communityId name db limit hLoadable hLimit
  rw [hostedTables_of_mirrored h hLoadable] at hLoaded
  exact restored_of_mirrored hLoadable.valid h hLoaded (loaded_hostedCommunity env communityId name db)

end

/-! ## The start of the server -/

/-- Every community of the tables is hosted, its creator given as it is stored. -/
def loadPersistedCommunities (env : String → Environment) (setup : String → Except HostError Unit) (db : Database) :
    List ServerEvent :=
  db.hostedCommunities.map fun row => .host (env row.id) row.id row.name row.creatorPseudonym "" (setup row.id)

def startedAgain (env : String → Environment) (setup : String → Except HostError Unit) (s : ServerState) : ServerState :=
  final handleEvent s (.restart :: loadPersistedCommunities env setup s.db)

section
variable {communityId : String} {community : HostedCommunity} {limit : Nat} {s : ServerState}

theorem registerStatements_bans {env : Environment} {creatorKey creatorDisplayName : String} (db : Database) :
    (runAll (registerStatements env communityId creatorKey creatorDisplayName community) db).bannedMembers =
      db.bannedMembers := by
  refine runAll_keeps (P := fun other => other.bannedMembers = db.bannedMembers) rfl
    fun statement hStatement before after hSame hRun => ?_
  unfold registerStatements at hStatement
  split at hStatement
  · simp only [List.mem_append, List.mem_cons, List.mem_map, List.not_mem_nil, or_false] at hStatement
    rcases hStatement with (rfl | ⟨roleId, -, rfl⟩) | rfl
    · simp only [Statement.run, Database.insertMember] at hRun
      split_ifs at hRun <;> cases hRun <;> exact hSame
    · simp only [Statement.run, Database.insertMemberRole] at hRun
      split_ifs at hRun <;> cases hRun <;> exact hSame
    · cases hRun
      exact hSame
  · cases hStatement

/-- Hosting bans nobody and pardons nobody. -/
theorem host_bans {env : Environment} {name creatorKey creatorDisplayName : String} {setup : Except HostError Unit}
    (hFaults : true ∉ s.dbFaults) (hLoadable : s.db.Loadable limit) (hLimit : limit ≤ i64Max) :
    (handleEvent s (.host env communityId name creatorKey creatorDisplayName setup)).db.bannedMembers =
      s.db.bannedMembers := by
  have hAfter : handleEvent s (.host env communityId name creatorKey creatorDisplayName setup) =
    Result.state ((hostCommunity env communityId name creatorKey creatorDisplayName setup).run s) := rfl
  rw [hAfter]
  cases hAbsent : s.hosted.lookup communityId with
  | some community =>
    rw [hostCommunity_of_hosted env name creatorKey creatorDisplayName setup hAbsent]
    rfl
  | none =>
    rw [hostCommunity_of_absent env name creatorKey creatorDisplayName setup hAbsent]
    obtain ⟨communities, meks, roles, hTables, -⟩ := @hostedTables_spec env communityId name s.db limit hLoadable hLimit
    have hBans : (hostedTables env communityId name s.db).bannedMembers = s.db.bannedMembers := by rw [hTables]
    obtain ⟨faults, -, ⟨-, hState⟩ | hState⟩ := @hostNewly_state env communityId s hFaults name creatorKey creatorDisplayName setup
    · rw [hState]
      exact hBans
    · rw [hState]
      exact (registerStatements_bans _).trans hBans

/-- Hosting leaves another community and its rows alone. -/
theorem host_other {env : Environment} {other name creatorKey creatorDisplayName : String} {setup : Except HostError Unit}
    (hFaults : true ∉ s.dbFaults) (hKey : env.mekKey.length = 32) (hOther : other ≠ communityId) :
    (handleEvent s (.host env other name creatorKey creatorDisplayName setup)).hosted.lookup communityId =
        s.hosted.lookup communityId ∧
      RowsKept communityId s.db (handleEvent s (.host env other name creatorKey creatorDisplayName setup)).db := by
  have hAfter : handleEvent s (.host env other name creatorKey creatorDisplayName setup) =
    Result.state ((hostCommunity env other name creatorKey creatorDisplayName setup).run s) := rfl
  rw [hAfter]
  cases hAbsent : s.hosted.lookup other with
  | some community =>
    rw [hostCommunity_of_hosted env name creatorKey creatorDisplayName setup hAbsent]
    exact ⟨rfl, .refl communityId s.db⟩
  | none =>
    rw [hostCommunity_of_absent env name creatorKey creatorDisplayName setup hAbsent]
    have hHosting : RowsKept communityId s.db (hostedTables env other name s.db) :=
      rowsKept_runAll (fun statement hStatement => .inl
        ((@hosting_statements env other name 1 s hKey (Nat.le_refl 1) statement hStatement).1.trans_ne hOther)) s.db
    obtain ⟨faults, -, ⟨-, hState⟩ | hState⟩ := @hostNewly_state env other s hFaults name creatorKey creatorDisplayName setup
    · rw [hState]
      exact ⟨rfl, hHosting⟩
    · rw [hState]
      refine ⟨Finmap.lookup_insert_of_ne _ hOther.symm, hHosting.trans (rowsKept_runAll (fun statement hStatement => .inl ?_) _)⟩
      exact (@register_statements env other creatorKey creatorDisplayName _ 0 statement hStatement).1.trans_ne hOther

/-- The community is hosted from its rows. -/
theorem host_again {env : Environment} {name creatorKey : String} (hFaults : true ∉ s.dbFaults)
    (hLoadable : s.db.Loadable limit) (hLimit : limit ≤ i64Max) (h : Mirrored env.now communityId s.db community)
    (hAbsent : s.hosted.lookup communityId = none) (hCreator : creatorKey = community.creatorPseudonymHex) :
    (∃ after, (handleEvent s (.host env communityId name creatorKey "" (.ok ()))).hosted.lookup communityId = some after ∧
      Restored env.now community after) ∧
      (handleEvent s (.host env communityId name creatorKey "" (.ok ()))).db = s.db := by
  have hRestored := @hostedCommunity_restored env communityId name s.db community limit h hLoadable hLimit
  have hKnown : ¬RegistersCreator creatorKey (hostedCommunity env communityId name s.db) := by
    rintro ⟨hKey, hNone, -⟩
    exact hKey (hCreator.trans (hRestored.creator.symm.trans hNone))
  have hAfter : handleEvent s (.host env communityId name creatorKey "" (.ok ())) =
    Result.state ((hostCommunity env communityId name creatorKey "" (.ok ())).run s) := rfl
  rw [hAfter, hostCommunity_of_absent env name creatorKey "" (.ok ()) hAbsent]
  obtain ⟨faults, -, ⟨hFailed, -⟩ | hState⟩ := @hostNewly_state env communityId s hFaults name creatorKey "" (.ok ())
  · exact absurd rfl hFailed
  · rw [hState, registered, registerStatements, if_neg hKnown, if_neg hKnown]
    exact ⟨⟨_, Finmap.lookup_insert _, hRestored⟩, hostedTables_of_mirrored h hLoadable⟩

/-- The community is back, with the rows that it had. -/
structure Reloaded (now : UInt64) (communityId : String) (community : HostedCommunity) (before after : ServerState) :
    Prop where
  faultless : true ∉ after.dbFaults
  rows : RowsKept communityId before.db after.db
  bans : after.db.bannedMembers = before.db.bannedMembers
  restored : ∃ restored, after.hosted.lookup communityId = some restored ∧ Restored now community restored

/-- The rows are gone through one after the other, and the community is among them or hosted already. -/
theorem reload_restores {env : String → Environment} {setup : String → Except HostError Unit} {rows : List CommunityRow}
    (hKeys : ∀ id, (env id).mekKey.length = 32) (hOne : 1 ≤ limit) (hLimit : limit ≤ i64Max)
    (hSetup : setup communityId = .ok ())
    (hRows : ∀ row ∈ rows, row.id = communityId → row.creatorPseudonym = community.creatorPseudonymHex)
    (hPersisted : s.Persisted (fun id => (env id).now) limit)
    (hCase : (∃ after, s.hosted.lookup communityId = some after ∧ Restored (env communityId).now community after) ∨
      s.hosted.lookup communityId = none ∧ Mirrored (env communityId).now communityId s.db community ∧
        ∃ row ∈ rows, row.id = communityId) :
    Reloaded (env communityId).now communityId community s (final handleEvent s (rows.map fun row =>
      .host (env row.id) row.id row.name row.creatorPseudonym "" (setup row.id))) := by
  induction rows generalizing s with
  | nil =>
    refine ⟨hPersisted.faultless, .refl communityId s.db, rfl, hCase.resolve_right ?_⟩
    rintro ⟨-, -, row, hRow, -⟩
    cases hRow
  | cons row rest ih =>
    rw [List.map_cons, final_cons]
    have hLater := fun other hOther => hRows other (List.mem_cons_of_mem row hOther)
    have hNext := @host_persisted (env row.id) (fun id => (env id).now) row.id row.name row.creatorPseudonym "" limit s
      hPersisted hOne hLimit (hKeys row.id) (UInt64.le_refl _) (setup row.id)
    have hBans := @host_bans row.id limit s (env row.id) row.name row.creatorPseudonym "" (setup row.id)
      hPersisted.faultless hPersisted.tables hLimit
    have hRest {t : ServerState} (hKept : RowsKept communityId s.db t.db) (hSpared : t.db.bannedMembers = s.db.bannedMembers)
        (h : Reloaded (env communityId).now communityId community t (final handleEvent t (rest.map fun row =>
          .host (env row.id) row.id row.name row.creatorPseudonym "" (setup row.id)))) :
        Reloaded (env communityId).now communityId community s _ :=
      ⟨h.faultless, hKept.trans h.rows, h.bans.trans hSpared, h.restored⟩
    by_cases hSame : row.id = communityId
    · obtain rfl := hSame
      rcases hCase with ⟨after, hHosted, hRestored⟩ | ⟨hAbsent, hMirrored, -⟩
      · have hStays : handleEvent s (.host (env row.id) row.id row.name row.creatorPseudonym "" (setup row.id)) = s := by
          change Result.state ((hostCommunity _ _ _ _ _ _).run s) = s
          rw [hostCommunity_of_hosted _ _ _ _ _ hHosted]
          rfl
        rw [hStays] at hNext ⊢
        exact ih hLater hPersisted (.inl ⟨after, hHosted, hRestored⟩)
      · rw [hSetup] at hNext hBans ⊢
        obtain ⟨hRestored, hSameTables⟩ := @host_again row.id community limit s (env row.id) row.name row.creatorPseudonym
          hPersisted.faultless hPersisted.tables hLimit hMirrored hAbsent (hRows row List.mem_cons_self rfl)
        refine hRest ?_ hBans (ih hLater hNext (.inl hRestored))
        rw [hSameTables]
        exact .refl row.id s.db
    · obtain ⟨hHosted, hKept⟩ := @host_other communityId s (env row.id) row.id row.name row.creatorPseudonym ""
        (setup row.id) hPersisted.faultless (hKeys row.id) hSame
      refine hRest hKept hBans (ih hLater hNext ?_)
      rw [hHosted]
      refine hCase.imp id ?_
      rintro ⟨hAbsent, hMirrored, other, hOther, hId⟩
      refine ⟨hAbsent, hMirrored.of_rowsKept hKept, other, ?_, hId⟩
      exact (List.mem_cons.mp hOther).resolve_left fun hFirst => hSame (hFirst ▸ hId)

end

section
variable {dbFaults : List Bool} {events : List ServerEvent} {env : String → Environment}
  {setup : String → Except HostError Unit} {communityId : String} {community : HostedCommunity}

theorem startedAgain_reloaded (hFaults : true ∉ dbFaults) (hLength : events.length ≤ i64Max)
    (hStorable : ∀ event ∈ events, event.Storable fun id => (env id).now) (hKeys : ∀ id, (env id).mekKey.length = 32)
    (hHosted : (final handleEvent (ServerState.initial dbFaults) events).hosted.lookup communityId = some community)
    (hSetup : setup communityId = .ok ()) :
    Reloaded (env communityId).now communityId community (final handleEvent (ServerState.initial dbFaults) events)
      (startedAgain env setup (final handleEvent (ServerState.initial dbFaults) events)) := by
  have hPersisted := final_persisted hStorable (initial_persisted hFaults _) ((Nat.zero_add _).trans_le hLength)
  rw [Nat.zero_add] at hPersisted
  set s := final handleEvent (ServerState.initial dbFaults) events
  have hMirrored := hPersisted.hosted communityId community hHosted
  obtain ⟨row, hRow, hOwn, -⟩ := hMirrored.described
  have hRestarted : ({ s with hosted := ∅ } : ServerState).Persisted (fun id => (env id).now) (max 1 events.length) := by
    refine ⟨hPersisted.faultless, (hPersisted.mono (Nat.le_max_right 1 events.length)).tables, fun id found hFound => ?_⟩
    cases (Finmap.lookup_empty id).symm.trans hFound
  have hReloaded := @reload_restores communityId community _ { s with hosted := ∅ } env setup s.db.hostedCommunities hKeys
    (Nat.le_max_left 1 events.length) (Nat.max_le.mpr ⟨by decide, hLength⟩) hSetup (fun other hOther hSame =>
      (hMirrored.same_description hPersisted.tables.valid.communities hOther hSame).2)
    hRestarted (.inr ⟨Finmap.lookup_empty communityId, hMirrored, row, hRow, hOwn⟩)
  exact ⟨hReloaded.faultless, hReloaded.rows, hReloaded.bans, hReloaded.restored⟩

end

def storedEnvironment (now : UInt64) : Environment :=
  { now := now, mekKey := List.replicate 32 0, channelSuffix := "" }

/-- Alice hosts a community, which Bob joins. -/
def hostedAndJoined : List ServerEvent :=
  [.host (storedEnvironment 1000) "c" "Community" "alice" "Alice" (.ok ()),
   .request { sampleRequest "bob" (.join "bob" "Bob" none) with env := storedEnvironment 1000 }]

end Rekindle.Server
