import Rekindle.Server.StandingTimeouts

/-! # What the schema enforces

Keys are unique, a role of a member and a timeout refer to a member, an overwrite refers to a channel. Every
statement keeps this.
-/
namespace Rekindle.Server
set_option autoImplicit false

def MekRow.key (row : MekRow) : String × Nat := (row.communityId, row.generation)

def ChannelRow.key (row : ChannelRow) : String × String := (row.communityId, row.id)

def MemberRoleRow.member (row : MemberRoleRow) : String × String := (row.communityId, row.pseudonymKeyHex)

def OverwriteRow.channel (row : OverwriteRow) : String × String := (row.communityId, row.channelId)

def OverwriteRow.key (row : OverwriteRow) : String × String × String × String :=
  (row.communityId, row.channelId, row.targetType, row.targetId)

structure Database.Valid (db : Database) : Prop where
  communities : (db.hostedCommunities.map CommunityRow.id).Nodup
  members : (db.serverMembers.map MemberRow.key).Nodup
  meks : (db.serverMek.map MekRow.key).Nodup
  channels : (db.serverChannels.map ChannelRow.key).Nodup
  roles : (db.serverRoles.map RoleRow.key).Nodup
  held : db.serverMemberRoles.Nodup
  overwrites : (db.serverChannelOverwrites.map OverwriteRow.key).Nodup
  timeouts : (db.serverMemberTimeouts.map TimeoutRow.key).Nodup
  heldBy : ∀ row ∈ db.serverMemberRoles, row.member ∈ db.serverMembers.map MemberRow.key
  timedOut : ∀ row ∈ db.serverMemberTimeouts, row.key ∈ db.serverMembers.map MemberRow.key
  overwritten : ∀ row ∈ db.serverChannelOverwrites, row.channel ∈ db.serverChannels.map ChannelRow.key
  typed : ∀ row ∈ db.serverChannelOverwrites, row.targetType ∈ ["role", "member"]

theorem emptyDatabase_valid : emptyDatabase.Valid where
  communities := List.nodup_nil
  members := List.nodup_nil
  meks := List.nodup_nil
  channels := List.nodup_nil
  roles := List.nodup_nil
  held := List.nodup_nil
  overwrites := List.nodup_nil
  timeouts := List.nodup_nil
  heldBy _ hRow := nomatch hRow
  timedOut _ hRow := nomatch hRow
  overwritten _ hRow := nomatch hRow
  typed _ hRow := nomatch hRow

/-! ## Tables with a key -/

section
variable {ρ κ σ : Type} {key : ρ → κ} {rows : List ρ}

theorem nodup_keys_filter (h : (rows.map key).Nodup) (keep : ρ → Bool) : ((rows.filter keep).map key).Nodup :=
  h.sublist (List.filter_sublist.map key)

theorem nodup_keys_append (h : (rows.map key).Nodup) {row : ρ} (hNew : key row ∉ rows.map key) :
    ((rows ++ [row]).map key).Nodup := by
  rw [List.map_append]
  exact h.append (List.nodup_singleton _) (List.disjoint_singleton.mpr hNew)

theorem keys_map {change : ρ → ρ} (hKey : ∀ row, key (change row) = key row) :
    (rows.map change).map key = rows.map key := by
  rw [List.map_map]
  exact List.map_congr_left fun row _ => hKey row

theorem nodup_keys_replace (h : (rows.map key).Nodup) {row : ρ} {keep : ρ → Bool}
    (hKeep : ∀ other, keep other = true → key other ≠ key row) : ((rows.filter keep ++ [row]).map key).Nodup := by
  refine nodup_keys_append (nodup_keys_filter h keep) fun hOld => ?_
  obtain ⟨other, hOther, hSame⟩ := List.mem_map.mp hOld
  exact hKeep other (List.mem_filter.mp hOther).2 hSame

/-- Rows go together with those that they refer to. -/
theorem refers_filter {others : List σ} {reference : ρ → κ} {otherKey : σ → κ}
    (h : ∀ row ∈ rows, reference row ∈ others.map otherKey) {keep : ρ → Bool} {keepOther : σ → Bool}
    (hKeep : ∀ row other, reference row = otherKey other → keep row = keepOther other) :
    ∀ row ∈ rows.filter keep, reference row ∈ (others.filter keepOther).map otherKey := by
  intro row hRow
  obtain ⟨hRow, hKept⟩ := List.mem_filter.mp hRow
  obtain ⟨other, hOther, hSame⟩ := List.mem_map.mp (h row hRow)
  exact List.mem_map.mpr ⟨other, List.mem_filter.mpr ⟨hOther, (hKeep row other hSame.symm).symm.trans hKept⟩, hSame⟩

theorem refers_append {others : List σ} {reference : ρ → κ} {otherKey : σ → κ} {row : ρ}
    (h : ∀ row ∈ rows, reference row ∈ others.map otherKey) (hRow : reference row ∈ others.map otherKey) :
    ∀ other ∈ rows ++ [row], reference other ∈ others.map otherKey := by
  intro other hOther
  rcases List.mem_append.mp hOther with hOld | hNew
  · exact h other hOld
  · rw [List.mem_singleton.mp hNew]
    exact hRow

end

/-! ## Statements -/

namespace Database
variable {db db' : Database}

theorem hasChannel_iff {communityId channelId : String} :
    db.hasChannel communityId channelId = true ↔ (communityId, channelId) ∈ db.serverChannels.map ChannelRow.key := by
  simp [hasChannel, ChannelRow.key]

theorem mem_mekKeys {row : MekRow} :
    (db.serverMek.any fun other => other.communityId == row.communityId && other.generation == row.generation) = true ↔
      row.key ∈ db.serverMek.map MekRow.key := by
  simp [MekRow.key]

theorem Valid.insertMember (h : db.Valid) {row : MemberRow} (hRun : db.insertMember row = some db') : db'.Valid := by
  unfold Database.insertMember at hRun
  split_ifs at hRun with hThere hCommunity
  · cases hRun
    exact h
  · cases hRun
    rw [hasMember_iff] at hThere
    have hMore : db.serverMembers.map MemberRow.key ⊆ (db.serverMembers ++ [row]).map MemberRow.key := by
      rw [List.map_append]
      exact List.subset_append_left _ _
    exact { h with
      members := nodup_keys_append h.members hThere
      heldBy := fun held hHeld => hMore (h.heldBy held hHeld)
      timedOut := fun timeout hTimeout => hMore (h.timedOut timeout hTimeout) }

theorem Valid.deleteCommunity (h : db.Valid) {communityId : String}
    (hRun : db.deleteCommunity communityId = some db') : db'.Valid := by
  cases hRun
  have hSame {first second : String × String} (hKeys : first = second) :
      (first.1 != communityId) = (second.1 != communityId) := by rw [hKeys]
  exact {
    communities := nodup_keys_filter h.communities _
    members := nodup_keys_filter h.members _
    meks := nodup_keys_filter h.meks _
    channels := nodup_keys_filter h.channels _
    roles := nodup_keys_filter h.roles _
    held := h.held.filter _
    overwrites := nodup_keys_filter h.overwrites _
    timeouts := nodup_keys_filter h.timeouts _
    heldBy := refers_filter h.heldBy fun _ _ => hSame
    timedOut := refers_filter h.timedOut fun _ _ => hSame
    overwritten := refers_filter h.overwritten fun _ _ => hSame
    typed := fun row hRow => h.typed row (List.mem_filter.mp hRow).1 }

theorem Valid.deleteMember (h : db.Valid) {communityId pseudonym : String}
    (hRun : db.deleteMember communityId pseudonym = some db') : db'.Valid := by
  cases hRun
  have hSame {first second : String × String} (hKeys : first = second) :
      (!(first.1 == communityId && first.2 == pseudonym)) = !(second.1 == communityId && second.2 == pseudonym) := by
    rw [hKeys]
  exact { h with
    members := nodup_keys_filter h.members _
    held := h.held.filter _
    timeouts := nodup_keys_filter h.timeouts _
    heldBy := refers_filter h.heldBy fun _ _ => hSame
    timedOut := refers_filter h.timedOut fun _ _ => hSame }

theorem Valid.updateRouteBlob (h : db.Valid) {communityId pseudonym : String} {routeBlob : List UInt8}
    (hRun : db.updateRouteBlob communityId pseudonym routeBlob = some db') : db'.Valid := by
  cases hRun
  have hKeys : (db.serverMembers.map fun row =>
      if row.communityId == communityId && row.pseudonymKeyHex == pseudonym then
        { row with routeBlob := some routeBlob }
      else row).map MemberRow.key = db.serverMembers.map MemberRow.key :=
    keys_map fun row => by split <;> rfl
  exact { h with
    members := hKeys ▸ h.members
    heldBy := fun row hRow => hKeys ▸ h.heldBy row hRow
    timedOut := fun row hRow => hKeys ▸ h.timedOut row hRow }

theorem Valid.updateRole (h : db.Valid) {communityId : String} {role : RoleDefinition}
    (hRun : db.updateRole communityId role = some db') : db'.Valid := by
  cases hRun
  have hKeys : (db.serverRoles.map fun row =>
      if row.communityId == communityId && row.role.id == role.id then { row with role := role } else row).map
        RoleRow.key = db.serverRoles.map RoleRow.key := keys_map fun row => by
    split
    · next hSame =>
      rw [Bool.and_eq_true, beq_iff_eq, beq_iff_eq] at hSame
      exact Prod.ext rfl hSame.2.symm
    · rfl
  exact { h with roles := hKeys ▸ h.roles }

theorem Valid.insertChannel (h : db.Valid) {row : ChannelRow} (hRun : db.insertChannel row = some db') : db'.Valid := by
  unfold Database.insertChannel at hRun
  split_ifs at hRun with hThere hCommunity
  cases hRun
  rw [hasChannel_iff] at hThere
  have hMore : db.serverChannels.map ChannelRow.key ⊆ (db.serverChannels ++ [row]).map ChannelRow.key := by
    rw [List.map_append]
    exact List.subset_append_left _ _
  exact { h with
    channels := nodup_keys_append h.channels hThere
    overwritten := fun overwrite hRow => hMore (h.overwritten overwrite hRow) }

theorem Valid.deleteChannel (h : db.Valid) {communityId channelId : String}
    (hRun : db.deleteChannel communityId channelId = some db') : db'.Valid := by
  cases hRun
  have hSame {first second : String × String} (hKeys : first = second) :
      (!(first.1 == communityId && first.2 == channelId)) = !(second.1 == communityId && second.2 == channelId) := by
    rw [hKeys]
  exact { h with
    channels := nodup_keys_filter h.channels _
    overwrites := nodup_keys_filter h.overwrites _
    overwritten := refers_filter h.overwritten fun _ _ => hSame
    typed := fun row hRow => h.typed row (List.mem_filter.mp hRow).1 }

theorem Valid.updateChannelName (h : db.Valid) {communityId channelId newName : String}
    (hRun : db.updateChannelName communityId channelId newName = some db') : db'.Valid := by
  cases hRun
  have hKeys : (db.serverChannels.map fun row =>
      if row.communityId == communityId && row.id == channelId then { row with name := newName } else row).map
        ChannelRow.key = db.serverChannels.map ChannelRow.key := keys_map fun row => by split <;> rfl
  exact { h with
    channels := hKeys ▸ h.channels
    overwritten := fun row hRow => hKeys ▸ h.overwritten row hRow }

theorem Valid.insertOrReplaceOverwrite (h : db.Valid) {row : OverwriteRow}
    (hRun : db.insertOrReplaceOverwrite row = some db') : db'.Valid := by
  unfold Database.insertOrReplaceOverwrite at hRun
  split_ifs at hRun with hAllowed
  cases hRun
  have hOthers {p : OverwriteRow → Prop} (hOld : ∀ other ∈ db.serverChannelOverwrites, p other) (hNew : p row)
      {keep : OverwriteRow → Bool} : ∀ other ∈ db.serverChannelOverwrites.filter keep ++ [row], p other := by
    intro other hOther
    rcases List.mem_append.mp hOther with hOther | hOther
    · exact hOld other (List.mem_filter.mp hOther).1
    · rw [List.mem_singleton.mp hOther]
      exact hNew
  refine { h with
    overwrites := nodup_keys_replace h.overwrites fun other hKeep hSame => ?_
    overwritten := hOthers h.overwritten (hasChannel_iff.mp hAllowed.2)
    typed := hOthers h.typed hAllowed.1 }
  obtain ⟨hCommunity, hChannel, hType, hId⟩ : other.communityId = row.communityId ∧ other.channelId = row.channelId ∧
      other.targetType = row.targetType ∧ other.targetId = row.targetId := by
    simpa only [OverwriteRow.key, Prod.mk.injEq] using hSame
  rw [sameOverwrite, hCommunity, hChannel, hType, hId] at hKeep
  simp at hKeep

theorem Valid.insertOrReplaceTimeout (h : db.Valid) {row : TimeoutRow}
    (hRun : db.insertOrReplaceTimeout row = some db') : db'.Valid := by
  unfold Database.insertOrReplaceTimeout at hRun
  split_ifs at hRun with hMember
  cases hRun
  refine { h with
    timeouts := nodup_keys_replace h.timeouts fun other hKeep hSame => ?_
    timedOut := fun other hOther => ?_ }
  · obtain ⟨hCommunity, hPseudonym⟩ := Prod.mk.inj hSame
    simp [hCommunity, hPseudonym] at hKeep
  · rcases List.mem_append.mp hOther with hOther | hOther
    · exact h.timedOut other (List.mem_filter.mp hOther).1
    · rw [List.mem_singleton.mp hOther]
      exact hasMember_iff.mp hMember

end Database

theorem Statement.valid {statement : Statement} {db db' : Database} (h : db.Valid) (hRun : statement.run db = some db') :
    db'.Valid := by
  have hRenamed {id : String} {update : CommunityRow → CommunityRow} (hId : ∀ row, (update row).id = row.id) :
      ((db.hostedCommunities.map fun row => if row.id == id then update row else row).map CommunityRow.id).Nodup := by
    rw [keys_map fun row => by split <;> simp [hId]]
    exact h.communities
  cases statement with
  | insertCommunity row =>
    simp only [run, Database.insertCommunity] at hRun
    split_ifs at hRun with hThere
    · cases hRun
      exact h
    · cases hRun
      refine { h with communities := nodup_keys_append h.communities ?_ }
      simpa [Database.hasCommunity] using hThere
  | deleteCommunity => exact h.deleteCommunity hRun
  | rename | describe | recordCreator =>
    cases hRun
    exact { h with communities := hRenamed fun _ => rfl }
  | insertMember => exact h.insertMember hRun
  | insertMemberRole row =>
    simp only [run, Database.insertMemberRole] at hRun
    split_ifs at hRun with hThere hMember
    · cases hRun
      exact h
    · cases hRun
      exact { h with
        held := h.held.append (List.nodup_singleton row) (List.disjoint_singleton.mpr hThere)
        heldBy := refers_append h.heldBy (Database.hasMember_iff.mp hMember) }
  | deleteMember => exact h.deleteMember hRun
  | updateRouteBlob => exact h.updateRouteBlob hRun
  | insertMek row =>
    simp only [run, Database.insertMek] at hRun
    split_ifs at hRun with hThere hCommunity
    cases hRun
    rw [Database.mem_mekKeys] at hThere
    exact { h with meks := nodup_keys_append h.meks hThere }
  | insertOrReplaceMek row =>
    simp only [run, Database.insertOrReplaceMek] at hRun
    split_ifs at hRun
    cases hRun
    refine { h with meks := nodup_keys_replace h.meks fun other hKeep hSame => ?_ }
    obtain ⟨hCommunity, hGeneration⟩ := Prod.mk.inj hSame
    simp [hCommunity, hGeneration] at hKeep
  | insertOrReplaceBan =>
    simp only [run, Database.insertOrReplaceBan] at hRun
    split_ifs at hRun
    cases hRun
    exact { h with }
  | deleteBan =>
    cases hRun
    exact { h with }
  | insertRole row =>
    simp only [run, Database.insertRole] at hRun
    split_ifs at hRun with hThere hCommunity
    cases hRun
    rw [Database.hasRole_iff] at hThere
    exact { h with roles := nodup_keys_append h.roles hThere }
  | insertRoleOrIgnore row =>
    simp only [run, Database.insertRoleOrIgnore] at hRun
    split_ifs at hRun with hThere hCommunity
    · cases hRun
      exact h
    · cases hRun
      rw [Database.hasRole_iff] at hThere
      exact { h with roles := nodup_keys_append h.roles hThere }
  | updateRole => exact h.updateRole hRun
  | deleteRole =>
    cases hRun
    exact { h with roles := nodup_keys_filter h.roles _ }
  | deleteRoleAssignments | deleteMemberRole =>
    cases hRun
    exact { h with
      held := h.held.filter _
      heldBy := fun row hRow => h.heldBy row (List.mem_filter.mp hRow).1 }
  | insertChannel => exact h.insertChannel hRun
  | deleteChannel => exact h.deleteChannel hRun
  | updateChannelName => exact h.updateChannelName hRun
  | insertOrReplaceOverwrite => exact h.insertOrReplaceOverwrite hRun
  | deleteOverwrite =>
    cases hRun
    exact { h with
      overwrites := nodup_keys_filter h.overwrites _
      overwritten := fun row hRow => h.overwritten row (List.mem_filter.mp hRow).1
      typed := fun row hRow => h.typed row (List.mem_filter.mp hRow).1 }
  | insertOrReplaceTimeout => exact h.insertOrReplaceTimeout hRun
  | deleteTimeout =>
    cases hRun
    exact { h with
      timeouts := nodup_keys_filter h.timeouts _
      timedOut := fun row hRow => h.timedOut row (List.mem_filter.mp hRow).1 }
  | insertMessage =>
    cases hRun
    exact { h with }

theorem Edited.valid {allowed : Statement → Prop} {s t : ServerState} (h : Edited allowed s t) (hValid : s.db.Valid) :
    t.db.Valid := by
  have hTables := h.tables
  generalize t.db = db at hTables
  induction hTables with
  | refl => exact hValid
  | tail _ hStep ih =>
    obtain ⟨statement, -, hRun⟩ := hStep
    exact statement.valid ih hRun

end Rekindle.Server
