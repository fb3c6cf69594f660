import Rekindle.Library.Mirrors
import Rekindle.Server.Schema

/-! # Communities in memory and their rows

The tables say the same of a hosted community as the memory does, up to roles and overwrites whose permissions cannot
be read back and timeouts that are over.
-/
namespace Rekindle.Server
set_option autoImplicit false
open Fallible Mirrors

/-! ## Rows -/

def ServerMember.row (communityId : String) (member : ServerMember) : MemberRow :=
  ⟨communityId, member.pseudonymKeyHex, member.displayName, member.joinedAt, member.routeBlob⟩

def ServerChannel.row (communityId : String) (channel : ServerChannel) : ChannelRow :=
  ⟨communityId, channel.id, channel.name, channel.channelType, channel.sortOrder⟩

def OverwriteType.name : OverwriteType → String
  | .role => "role"
  | .member => "member"

def PermissionOverwrite.row (communityId channelId : String) (overwrite : PermissionOverwrite) : OverwriteRow :=
  ⟨communityId, channelId, overwrite.targetType.name, overwrite.targetId, overwrite.allow, overwrite.deny⟩

/-- What a row says of a timeout. -/
def TimeoutRow.entry (row : TimeoutRow) : String × String × UInt64 :=
  (row.communityId, row.pseudonymKeyHex, row.timeoutUntil)

/-- Both halves can be read as `u64`. -/
def PermissionOverwrite.Readable (overwrite : PermissionOverwrite) : Prop :=
  readsAsU64 overwrite.allow = true ∧ readsAsU64 overwrite.deny = true

def OverwriteRow.Readable (row : OverwriteRow) : Prop :=
  readsAsU64 row.allowBits = true ∧ readsAsU64 row.denyBits = true

/-- A timeout that hosting at this time still finds. -/
def Lasting (now deadline : UInt64) : Prop := deadline < 9223372036854775808 ∧ now < deadline

instance (overwrite : PermissionOverwrite) : Decidable overwrite.Readable := inferInstanceAs (Decidable (_ ∧ _))

instance (row : OverwriteRow) : Decidable row.Readable := inferInstanceAs (Decidable (_ ∧ _))

instance (now deadline : UInt64) : Decidable (Lasting now deadline) := inferInstanceAs (Decidable (_ ∧ _))

section
variable (now : UInt64) (communityId : String)

abbrev MembersMirrored (members : List ServerMember) (rows : List MemberRow) : Prop :=
  Mirror (ServerMember.row communityId) (fun row => row.communityId = communityId) (fun _ => True) members rows

abbrev HeldMirrored (member : ServerMember) (rows : List MemberRoleRow) : Prop :=
  Mirror (MemberRoleRow.mk communityId member.pseudonymKeyHex)
    (fun row => row.member = (communityId, member.pseudonymKeyHex)) (fun _ => True) member.roleIds rows

abbrev TimeoutMirrored (member : ServerMember) (rows : List TimeoutRow) : Prop :=
  Mirror (fun deadline => (communityId, member.pseudonymKeyHex, deadline))
    (fun entry => entry.1 = communityId ∧ entry.2.1 = member.pseudonymKeyHex) (fun entry => Lasting now entry.2.2)
    member.timeoutUntil.toList (rows.map TimeoutRow.entry)

abbrev RolesMirrored (roles : List RoleDefinition) (rows : List RoleRow) : Prop :=
  Mirror (RoleRow.mk communityId) (fun row => row.communityId = communityId)
    (fun row => readsAsU64 row.role.permissions = true) roles rows

abbrev ChannelsMirrored (channels : List ServerChannel) (rows : List ChannelRow) : Prop :=
  Mirror (ServerChannel.row communityId) (fun row => row.communityId = communityId) (fun _ => True) channels rows

abbrev OverwritesMirrored (channel : ServerChannel) (rows : List OverwriteRow) : Prop :=
  Mirror (PermissionOverwrite.row communityId channel.id) (fun row => row.channel = (communityId, channel.id))
    OverwriteRow.Readable channel.permissionOverwrites rows

/-- The key is stored, and no later one. -/
structure KeyMirrored (mek : MediaEncryptionKey) (rows : List MekRow) : Prop where
  stored : ∃ row ∈ rows, row.communityId = communityId ∧ row.generation = mek.generation.toNat ∧ row.keyBytes = mek.key
  latest : ∀ row ∈ rows, row.communityId = communityId → row.generation ≤ mek.generation.toNat

/-- In memory nothing is there twice. -/
structure HostedCommunity.Distinct (community : HostedCommunity) : Prop where
  members : (community.members.map ServerMember.pseudonymKeyHex).Nodup
  held : ∀ member ∈ community.members, member.roleIds.Nodup
  roles : (community.roles.map RoleDefinition.id).Nodup
  channels : (community.channels.map ServerChannel.id).Nodup
  overwrites : ∀ channel ∈ community.channels, (channel.permissionOverwrites.map overwriteTarget).Nodup

/-- The role @everyone is there, and its permissions can be read back. -/
def EveryoneReadable (roles : List RoleDefinition) : Prop :=
  ∃ role ∈ roles, role.id = roleEveryoneId ∧ readsAsU64 role.permissions = true

/-- What the memory has of a community is in the tables, and what hosting at this time finds there is in memory. -/
structure Mirrored (db : Database) (community : HostedCommunity) : Prop where
  named : community.communityId = communityId
  distinct : community.Distinct
  described : ∃ row ∈ db.hostedCommunities, row.id = communityId ∧ row.description = community.description ∧
    row.creatorPseudonym = community.creatorPseudonymHex
  members : MembersMirrored communityId community.members db.serverMembers
  held : ∀ member ∈ community.members, HeldMirrored communityId member db.serverMemberRoles
  timeouts : ∀ member ∈ community.members, TimeoutMirrored now communityId member db.serverMemberTimeouts
  roles : RolesMirrored communityId community.roles db.serverRoles
  everyone : EveryoneReadable community.roles
  channels : ChannelsMirrored communityId community.channels db.serverChannels
  overwrites : ∀ channel ∈ community.channels, OverwritesMirrored communityId channel db.serverChannelOverwrites
  key : KeyMirrored communityId community.mek db.serverMek

end

/-! ## Rows of other communities -/

/-- The community has the same rows. -/
structure RowsKept (communityId : String) (before after : Database) : Prop where
  communities : ∀ row : CommunityRow, row.id = communityId →
    (row ∈ after.hostedCommunities ↔ row ∈ before.hostedCommunities)
  members : ∀ row : MemberRow, row.communityId = communityId → (row ∈ after.serverMembers ↔ row ∈ before.serverMembers)
  meks : ∀ row : MekRow, row.communityId = communityId → (row ∈ after.serverMek ↔ row ∈ before.serverMek)
  channels : ∀ row : ChannelRow, row.communityId = communityId → (row ∈ after.serverChannels ↔ row ∈ before.serverChannels)
  roles : ∀ row : RoleRow, row.communityId = communityId → (row ∈ after.serverRoles ↔ row ∈ before.serverRoles)
  held : ∀ row : MemberRoleRow, row.communityId = communityId →
    (row ∈ after.serverMemberRoles ↔ row ∈ before.serverMemberRoles)
  overwrites : ∀ row : OverwriteRow, row.communityId = communityId →
    (row ∈ after.serverChannelOverwrites ↔ row ∈ before.serverChannelOverwrites)
  timeouts : ∀ row : TimeoutRow, row.communityId = communityId →
    (row ∈ after.serverMemberTimeouts ↔ row ∈ before.serverMemberTimeouts)

theorem RowsKept.refl (communityId : String) (db : Database) : RowsKept communityId db db :=
  ⟨fun _ _ => .rfl, fun _ _ => .rfl, fun _ _ => .rfl, fun _ _ => .rfl, fun _ _ => .rfl, fun _ _ => .rfl,
    fun _ _ => .rfl, fun _ _ => .rfl⟩

section
variable {communityId : String} {before middle after : Database} {now : UInt64} {community : HostedCommunity}

theorem RowsKept.trans (hFirst : RowsKept communityId before middle) (hSecond : RowsKept communityId middle after) :
    RowsKept communityId before after where
  communities row hRow := (hSecond.communities row hRow).trans (hFirst.communities row hRow)
  members row hRow := (hSecond.members row hRow).trans (hFirst.members row hRow)
  meks row hRow := (hSecond.meks row hRow).trans (hFirst.meks row hRow)
  channels row hRow := (hSecond.channels row hRow).trans (hFirst.channels row hRow)
  roles row hRow := (hSecond.roles row hRow).trans (hFirst.roles row hRow)
  held row hRow := (hSecond.held row hRow).trans (hFirst.held row hRow)
  overwrites row hRow := (hSecond.overwrites row hRow).trans (hFirst.overwrites row hRow)
  timeouts row hRow := (hSecond.timeouts row hRow).trans (hFirst.timeouts row hRow)

theorem KeyMirrored.congr {mek : MediaEncryptionKey} {rows others : List MekRow} (h : KeyMirrored communityId mek rows)
    (hRows : ∀ row : MekRow, row.communityId = communityId → (row ∈ others ↔ row ∈ rows)) :
    KeyMirrored communityId mek others where
  stored := by
    obtain ⟨row, hRow, hOwn, hKey⟩ := h.stored
    exact ⟨row, (hRows row hOwn).mpr hRow, hOwn, hKey⟩
  latest row hRow hOwn := h.latest row ((hRows row hOwn).mp hRow) hOwn

/-- Timeouts are compared by what their rows say. -/
theorem mem_entries_congr {rows others : List TimeoutRow}
    (hRows : ∀ row : TimeoutRow, row.communityId = communityId → (row ∈ others ↔ row ∈ rows))
    {entry : String × String × UInt64} (hOwn : entry.1 = communityId) :
    entry ∈ others.map TimeoutRow.entry ↔ entry ∈ rows.map TimeoutRow.entry := by
  simp only [List.mem_map]
  constructor
  · rintro ⟨row, hRow, rfl⟩
    exact ⟨row, (hRows row hOwn).mp hRow, rfl⟩
  · rintro ⟨row, hRow, rfl⟩
    exact ⟨row, (hRows row hOwn).mpr hRow, rfl⟩

theorem Mirrored.of_rowsKept (h : Mirrored now communityId before community) (hRows : RowsKept communityId before after) :
    Mirrored now communityId after community where
  named := h.named
  distinct := h.distinct
  described := by
    obtain ⟨row, hRow, hId, hSame⟩ := h.described
    exact ⟨row, (hRows.communities row hId).mpr hRow, hId, hSame⟩
  members := h.members.congr (fun _ _ => rfl) hRows.members
  held member hMember := (h.held member hMember).congr (fun _ _ => rfl) fun row hOwn =>
    hRows.held row (Prod.mk.inj hOwn).1
  timeouts member hMember := (h.timeouts member hMember).congr (fun _ _ => ⟨rfl, rfl⟩) fun _ hOwn =>
    mem_entries_congr hRows.timeouts hOwn.1
  roles := h.roles.congr (fun _ _ => rfl) hRows.roles
  everyone := h.everyone
  channels := h.channels.congr (fun _ _ => rfl) hRows.channels
  overwrites channel hChannel := (h.overwrites channel hChannel).congr (fun _ _ => rfl) fun row hOwn =>
    hRows.overwrites row (Prod.mk.inj hOwn).1
  key := h.key.congr hRows.meks

end

/-! ### Statements about others -/

section
variable {ρ : Type} {owner : ρ → String} {communityId : String} {rows : List ρ}

theorem mem_append_other {row : ρ} (hRow : owner row ≠ communityId) :
    ∀ entry, owner entry = communityId → (entry ∈ rows ++ [row] ↔ entry ∈ rows) := by
  intro entry hEntry
  rw [List.mem_append, List.mem_singleton]
  refine or_iff_left ?_
  rintro rfl
  exact hRow hEntry

theorem mem_filter_other {keep : ρ → Bool} (hKeep : ∀ entry, owner entry = communityId → keep entry = true) :
    ∀ entry, owner entry = communityId → (entry ∈ rows.filter keep ↔ entry ∈ rows) :=
  fun entry hEntry => List.mem_filter.trans (and_iff_left (hKeep entry hEntry))

theorem mem_map_other {change : ρ → ρ} (hSame : ∀ entry, owner entry = communityId → change entry = entry)
    (hOwner : ∀ entry, owner (change entry) = owner entry) :
    ∀ entry, owner entry = communityId → (entry ∈ rows.map change ↔ entry ∈ rows) := by
  intro entry hEntry
  rw [List.mem_map]
  constructor
  · rintro ⟨old, hOld, rfl⟩
    rwa [hSame old ((hOwner old).symm.trans hEntry)]
  · exact fun hOld => ⟨entry, hOld, hSame entry hEntry⟩

theorem mem_replace_other {row : ρ} {keep : ρ → Bool} (hRow : owner row ≠ communityId)
    (hKeep : ∀ entry, owner entry = communityId → keep entry = true) :
    ∀ entry, owner entry = communityId → (entry ∈ rows.filter keep ++ [row] ↔ entry ∈ rows) :=
  fun entry hEntry => (mem_append_other hRow entry hEntry).trans (mem_filter_other hKeep entry hEntry)

end

/-- The statement leaves the rows of the community that hosting reads. -/
def Statement.LeavesRows (communityId : String) (statement : Statement) : Prop :=
  statement.communityId ≠ communityId ∨
    match statement with
    | .insertOrReplaceBan _ | .deleteBan _ _ | .insertMessage _ => True
    | _ => False

theorem Statement.rowsKept {statement : Statement} {communityId : String} (hLeaves : statement.LeavesRows communityId)
    {db db' : Database} (hRun : statement.run db = some db') : RowsKept communityId db db' := by
  have hRefl := RowsKept.refl communityId db
  have hMiss {owner id : String} {others : Bool} (hOther : id ≠ communityId) (hOwn : owner = communityId) :
      ¬(owner == id && others) = true := by
    rw [hOwn, beq_false_of_ne hOther.symm]
    exact Bool.false_ne_true
  have hKeep {owner id : String} {others : Bool} (hOther : id ≠ communityId) (hOwn : owner = communityId) :
      (!(owner == id && others)) = true := by
    rw [Bool.eq_false_of_not_eq_true (hMiss hOther hOwn)]
    rfl
  have hCommunity {id : String} {update : CommunityRow → CommunityRow} (hOther : id ≠ communityId)
      (hId : ∀ row, (update row).id = row.id) : ∀ row : CommunityRow, row.id = communityId →
        (row ∈ db.hostedCommunities.map (fun row => if row.id == id then update row else row) ↔
          row ∈ db.hostedCommunities) := by
    refine mem_map_other (fun row hRow => ?_) fun row => ?_
    · rw [if_neg (by simpa [hRow] using hOther.symm)]
    · split <;> simp [hId]
  obtain hOther | hSilent := hLeaves
  · cases statement with
    | insertCommunity row =>
      simp only [run, Database.insertCommunity] at hRun
      split_ifs at hRun <;> cases hRun
      · exact hRefl
      · exact { hRefl with communities := mem_append_other hOther }
    | deleteCommunity id =>
      cases hRun
      have hBut {owner : String} (hOwn : owner = communityId) : (owner != id) = true := by
        rw [hOwn]
        exact bne_iff_ne.mpr (Ne.symm hOther)
      exact {
        communities := mem_filter_other fun _ => hBut
        members := mem_filter_other fun _ => hBut
        meks := mem_filter_other fun _ => hBut
        channels := mem_filter_other fun _ => hBut
        roles := mem_filter_other fun _ => hBut
        held := mem_filter_other fun _ => hBut
        overwrites := mem_filter_other fun _ => hBut
        timeouts := mem_filter_other fun _ => hBut }
    | rename | describe | recordCreator =>
      cases hRun
      exact { hRefl with communities := hCommunity hOther fun _ => rfl }
    | insertMember row =>
      simp only [run, Database.insertMember] at hRun
      split_ifs at hRun <;> cases hRun
      · exact hRefl
      · exact { hRefl with members := mem_append_other hOther }
    | insertMemberRole row =>
      simp only [run, Database.insertMemberRole] at hRun
      split_ifs at hRun <;> cases hRun
      · exact hRefl
      · exact { hRefl with held := mem_append_other hOther }
    | deleteMember =>
      cases hRun
      exact { hRefl with
        members := mem_filter_other fun _ => hKeep hOther
        held := mem_filter_other fun _ => hKeep hOther
        timeouts := mem_filter_other fun _ => hKeep hOther }
    | updateRouteBlob id =>
      cases hRun
      exact { hRefl with members := mem_map_other (fun row hRow => if_neg (hMiss hOther hRow)) fun row => by split <;> rfl }
    | insertMek row =>
      simp only [run, Database.insertMek] at hRun
      split_ifs at hRun
      cases hRun
      exact { hRefl with meks := mem_append_other hOther }
    | insertOrReplaceMek row =>
      simp only [run, Database.insertOrReplaceMek] at hRun
      split_ifs at hRun
      cases hRun
      exact { hRefl with meks := mem_replace_other hOther fun _ => hKeep hOther }
    | insertOrReplaceBan row =>
      simp only [run, Database.insertOrReplaceBan] at hRun
      split_ifs at hRun
      cases hRun
      exact { hRefl with }
    | insertRole row =>
      simp only [run, Database.insertRole] at hRun
      split_ifs at hRun
      cases hRun
      exact { hRefl with roles := mem_append_other hOther }
    | insertRoleOrIgnore row =>
      simp only [run, Database.insertRoleOrIgnore] at hRun
      split_ifs at hRun <;> cases hRun
      · exact hRefl
      · exact { hRefl with roles := mem_append_other hOther }
    | updateRole =>
      cases hRun
      exact { hRefl with roles := mem_map_other (fun row hRow => if_neg (hMiss hOther hRow)) fun row => by split <;> rfl }
    | deleteRole =>
      cases hRun
      exact { hRefl with roles := mem_filter_other fun _ => hKeep hOther }
    | deleteRoleAssignments =>
      cases hRun
      exact { hRefl with held := mem_filter_other fun _ => hKeep hOther }
    | deleteOverwrite =>
      cases hRun
      refine { hRefl with overwrites := mem_filter_other fun row hRow => ?_ }
      rw [Database.sameOverwrite, Bool.and_assoc, Bool.and_assoc]
      exact hKeep hOther hRow
    | deleteTimeout =>
      cases hRun
      exact { hRefl with timeouts := mem_filter_other fun _ => hKeep hOther }
    | deleteMemberRole id pseudonym roleId =>
      cases hRun
      refine { hRefl with held := mem_filter_other fun row hRow => ?_ }
      rw [Bool.not_eq_true', beq_eq_false_iff_ne]
      rintro rfl
      exact hOther hRow
    | insertChannel row =>
      simp only [run, Database.insertChannel] at hRun
      split_ifs at hRun
      cases hRun
      exact { hRefl with channels := mem_append_other hOther }
    | deleteChannel =>
      cases hRun
      exact { hRefl with
        channels := mem_filter_other fun _ => hKeep hOther
        overwrites := mem_filter_other fun _ => hKeep hOther }
    | updateChannelName =>
      cases hRun
      exact { hRefl with channels := mem_map_other (fun row hRow => if_neg (hMiss hOther hRow)) fun row => by split <;> rfl }
    | insertOrReplaceOverwrite row =>
      simp only [run, Database.insertOrReplaceOverwrite] at hRun
      split_ifs at hRun
      cases hRun
      refine { hRefl with overwrites := mem_replace_other hOther fun entry hEntry => ?_ }
      rw [Database.sameOverwrite, Bool.and_assoc, Bool.and_assoc]
      exact hKeep hOther hEntry
    | insertOrReplaceTimeout row =>
      simp only [run, Database.insertOrReplaceTimeout] at hRun
      split_ifs at hRun
      cases hRun
      exact { hRefl with timeouts := mem_replace_other hOther fun _ => hKeep hOther }
    | deleteBan | insertMessage =>
      cases hRun
      exact { hRefl with }
  · cases statement with
    | insertOrReplaceBan row =>
      simp only [run, Database.insertOrReplaceBan] at hRun
      split_ifs at hRun
      cases hRun
      exact { hRefl with }
    | deleteBan | insertMessage =>
      cases hRun
      exact { hRefl with }
    | _ => exact hSilent.elim

theorem Edited.rowsKept {allowed : Statement → Prop} {communityId : String} {s t : ServerState} (h : Edited allowed s t)
    (hLeaves : ∀ statement, allowed statement → statement.LeavesRows communityId) : RowsKept communityId s.db t.db := by
  have hTables := h.tables
  generalize t.db = db at hTables
  induction hTables with
  | refl => exact .refl communityId s.db
  | tail _ hStep ih =>
    obtain ⟨statement, hStatement, hRun⟩ := hStep
    exact ih.trans (Statement.rowsKept (hLeaves statement hStatement) hRun)

end Rekindle.Server
