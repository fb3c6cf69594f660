import Rekindle.Server.Generations
import Rekindle.Server.Representation
import Rekindle.Server.Sections

/-! # What a section does

The effect of one section on rosters and keys in memory, and on the rows of members, bans and keys.
-/
namespace Rekindle.Server
set_option autoImplicit false
open Fallible Interleaving

/-- Who is in a community and who made it, with its current key. -/
structure Standing where
  roster : List String
  creator : String
  key : MediaEncryptionKey
  deriving DecidableEq

def rosterOf (members : List ServerMember) : List String := members.map ServerMember.pseudonymKeyHex

def HostedCommunity.standing (community : HostedCommunity) : Standing :=
  { roster := rosterOf community.members, creator := community.creatorPseudonymHex
    key := community.mek }

def ServerState.standing (state : ServerState) (communityId : String) : Option Standing :=
  (state.hosted.lookup communityId).map HostedCommunity.standing

def Database.memberKeys (db : Database) : List (String × String) := db.serverMembers.map MemberRow.key

def BanRow.key (row : BanRow) : String × String := (row.communityId, row.pseudonymKeyHex)

def Database.banKeys (db : Database) : List (String × String) := db.bannedMembers.map BanRow.key

def Standing.without (before : Standing) (leaver : String) : List String :=
  before.roster.filter (· != leaver)

def Standing.nextKey (before : Standing) (env : Environment) : MediaEncryptionKey :=
  { generation := before.key.generation + 1, key := env.mekKey }

/-- How a section can move the standing of its community. -/
def Task.Moves (task : Task) (before after : Standing) : Prop :=
  match task.job with
  | .join _ _ (.push isFirstMember) =>
    after = { before with
      roster := before.roster ++ [task.sender]
      creator := if isFirstMember then task.sender else before.creator }
  | .depart leaver .remove =>
    after = { before with roster := before.without leaver, key := before.nextKey task.env }
  | .rotateKey => after = before ∨ after = { before with key := before.nextKey task.env }
  | _ => after = before

/-- A row for the key, under a generation that the community has no row for yet. -/
def KeyRowAdded (communityId : String) (key : MediaEncryptionKey) (before after : Database) : Prop :=
  ∃ row, row.communityId = communityId ∧ row.generation = min key.generation.toNat i64Max ∧
    (∀ old ∈ before.serverMek, old.communityId = communityId → old.generation ≠ row.generation) ∧
    after.serverMek = before.serverMek ++ [row]

structure Effect (task : Task) (before after : ServerState) : Prop where
  elsewhere : ∀ other, other ≠ task.communityId → after.standing other = before.standing other
  standing : ∀ standing, before.standing task.communityId = some standing →
    ∃ moved, after.standing task.communityId = some moved ∧ task.Moves standing moved ∧
      (after.db.serverMek = before.db.serverMek ∨
        KeyRowAdded task.communityId moved.key before.db after.db)
  keyRows : before.db.serverMek ⊆ after.db.serverMek
  membersKept : ∀ key ∈ before.db.memberKeys, key ∈ after.db.memberKeys ∨
    ∃ leaver, task.job = .depart leaver .deleteRows ∧ key = (task.communityId, leaver)
  membersAdded : ∀ key ∈ after.db.memberKeys, key ∈ before.db.memberKeys ∨
    ∃ displayName routeBlob isFirstMember,
      task.job = .join displayName routeBlob (.insertRows isFirstMember) ∧
      key = (task.communityId, task.sender)
  bansAdded : ∀ key ∈ after.db.banKeys, key ∈ before.db.banKeys ∨
    ∃ target displayName, task.job = .recordBan target displayName ∧ key = (task.communityId, target)

/-! ## Steady sections -/

structure Steady (before after : ServerState) : Prop where
  standing : ∀ communityId, after.standing communityId = before.standing communityId
  keys : after.db.serverMek = before.db.serverMek
  members : after.db.memberKeys = before.db.memberKeys
  bans : after.db.banKeys ⊆ before.db.banKeys

instance : Std.Refl Steady := ⟨fun _ => ⟨fun _ => rfl, rfl, rfl, List.Subset.refl _⟩⟩

instance : IsTrans ServerState Steady :=
  ⟨fun _ _ _ hFirst hSecond => ⟨fun id => (hSecond.standing id).trans (hFirst.standing id),
    hSecond.keys.trans hFirst.keys, hSecond.members.trans hFirst.members,
    List.Subset.trans hSecond.bans hFirst.bans⟩⟩

theorem Steady.effect {task : Task} {before after : ServerState} (h : Steady before after)
    (hJob : ∀ standing, before.standing task.communityId = some standing →
      task.Moves standing standing) : Effect task before after := by
  constructor
  · exact fun other _ => h.standing other
  · intro standing hStanding
    exact ⟨standing, (h.standing _).trans hStanding, hJob standing hStanding, .inl h.keys⟩
  · rw [h.keys]
    exact List.Subset.refl _
  · intro key hKey
    exact .inl (h.members ▸ hKey)
  · intro key hKey
    exact .inl (h.members ▸ hKey)
  · intro key hKey
    exact .inl (h.bans hKey)

/-- The statement touches none of the rows that matter here, but may lift bans. -/
structure SteadyRows (before after : Database) : Prop where
  keys : after.serverMek = before.serverMek
  members : after.memberKeys = before.memberKeys
  bans : after.banKeys ⊆ before.banKeys

section
variable {ε : Type}

theorem steady_executeIgnoring {statement : Database → Option Database}
    (h : ∀ db db', statement db = some db' → SteadyRows db db') :
    Keeps Steady (executeIgnoring statement : EStateM ε ServerState Unit) := by
  intro s
  obtain ⟨db, hRun, hDb⟩ : ∃ db, (executeIgnoring statement : EStateM ε _ _).run s = _ ∧ _ :=
    executeIgnoring_run statement s
  rw [hRun]
  rcases hDb with rfl | hStatement
  · exact ⟨fun _ => rfl, rfl, rfl, List.Subset.refl _⟩
  · have hRows := h s.db db hStatement
    exact ⟨fun _ => rfl, hRows.keys, hRows.members, hRows.bans⟩

theorem steady_query {α : Type} (read : Database → α) :
    Keeps Steady (query read : EStateM ε ServerState (Option α)) :=
  fun _ => ⟨fun _ => rfl, rfl, rfl, List.Subset.refl _⟩

theorem steady_lookupCommunity (communityId : String) :
    Keeps Steady (lookupCommunity communityId : EStateM ε ServerState _) :=
  fun s => refl_of Steady s

theorem steady_broadcastToMembers (communityId exclude : String) (broadcast : CommunityBroadcast) :
    Keeps Steady (broadcastToMembers communityId exclude broadcast : EStateM ε ServerState Unit) :=
  fun _ => ⟨fun _ => rfl, rfl, rfl, List.Subset.refl _⟩

end

section
variable {env : Environment} {communityId sender : String}

theorem steady_getCommunity (missing : RpcError) :
    Keeps Steady (getCommunity communityId missing : ServerM HostedCommunity) :=
  (steady_lookupCommunity _).bind fun _ => keeps_ofExcept _

theorem steady_openCommunity (required : Permissions) :
    Keeps Steady (openCommunity env communityId sender required) :=
  (steady_getCommunity _).bind fun _ => (keeps_ofExcept _).bind fun _ =>
    (keeps_ofExcept _).bind fun _ => keeps_pure _

theorem steady_updateRouteBlob (blob : List UInt8) (named : String) :
    Keeps Steady (executeIgnoring (Database.updateRouteBlob named sender · blob) : ServerM Unit) := by
  refine steady_executeIgnoring ?_
  rintro db _ ⟨⟩
  refine ⟨rfl, ?_, List.Subset.refl _⟩
  unfold Database.memberKeys
  rw [List.map_map]
  refine List.map_congr_left fun row _ => ?_
  dsimp only [Function.comp_apply]
  split <;> rfl

theorem steady_setCommunity {s : ServerState} {community changed : HostedCommunity}
    (hCommunity : s.hosted.lookup communityId = some community)
    (hSame : changed.standing = community.standing) :
    Steady s { s with hosted := s.hosted.insert communityId changed } := by
  refine ⟨fun other => ?_, rfl, rfl, List.Subset.refl _⟩
  unfold ServerState.standing
  by_cases hHere : other = communityId
  · subst hHere
    rw [Finmap.lookup_insert, hCommunity, Option.map_some, Option.map_some, hSame]
  · rw [Finmap.lookup_insert_of_ne _ hHere]

theorem steady_handleRejoin (routeBlob : Option (List UInt8)) :
    Keeps Steady (handleRejoin communityId sender routeBlob) := by
  intro s
  apply ends_lookupCommunity
  cases hCommunity : s.hosted.lookup communityId with
  | none => exact refl_of Steady s
  | some community =>
    cases hMember : findMember community.members sender with
    | none =>
      simp only [hMember]
      exact refl_of Steady s
    | some member =>
      cases routeBlob with
      | none =>
        simp only [hMember]
        exact refl_of Steady s
      | some blob =>
        simp only [hMember]
        have hSame : ∀ members, rosterOf (updateMember members sender fun member =>
            { member with routeBlob := some blob }) = rosterOf members :=
          fun members => Keyed.map_key_update fun _ => rfl
        refine trans_of Steady (steady_setCommunity hCommunity ?_)
          ((steady_updateRouteBlob blob communityId).bind (fun _ => keeps_pure _) _)
        unfold HostedCommunity.standing
        rw [hSame]

theorem steady_handleUnban (target : String) :
    Keeps Steady (handleUnban env communityId sender target) := by
  refine (steady_openCommunity _).bind fun community =>
    Keeps.bind (steady_executeIgnoring ?_) fun _ => keeps_pure _
  rintro db _ ⟨⟩
  exact ⟨rfl, rfl, List.map_subset _ (List.filter_subset_self _)⟩

theorem steady_checkHosted (viaIpc : Bool) : Keeps Steady (checkHosted communityId viaIpc) :=
  (steady_lookupCommunity _).bind fun _ => keeps_ofExcept _

theorem steady_checkNotBanned : Keeps Steady (checkNotBanned communityId sender) :=
  (steady_query _).bind fun _ => keeps_ofExcept _

theorem steady_verifyMembershipIfHosted : Keeps Steady (verifyMembershipIfHosted communityId sender) :=
  (steady_lookupCommunity _).bind fun _ => keeps_ofExcept _

theorem steady_checkKick (target : String) : Keeps Steady (checkKick env communityId sender target) :=
  (steady_getCommunity _).bind fun _ => (keeps_ofExcept _).bind fun _ =>
    (keeps_ofExcept _).bind fun _ => keeps_ofExcept _

theorem steady_checkBan (target : String) : Keeps Steady (checkBan env communityId sender target) :=
  (steady_openCommunity _).bind fun _ => (keeps_ofExcept _).bind fun _ =>
    (keeps_ofExcept _).bind fun _ => keeps_pure _

end

/-! ## Sections that write -/

section
variable {task : Task} {s t u : ServerState} {community changed : HostedCommunity}

theorem standing_of_lookup {communityId : String}
    (hCommunity : s.hosted.lookup communityId = some community) :
    s.standing communityId = some community.standing := by
  rw [ServerState.standing, hCommunity, Option.map_some]

/-- A write of the task's community, between statements on the tables. -/
theorem effect_of_write (hHosted : t.hosted = s.hosted) (hMembers : t.db.memberKeys = s.db.memberKeys)
    (hBans : t.db.banKeys ⊆ s.db.banKeys)
    (hKeys : t.db.serverMek = s.db.serverMek ∨ KeyRowAdded task.communityId changed.mek s.db t.db)
    (hCommunity : s.hosted.lookup task.communityId = some community)
    (hMoves : task.Moves community.standing changed.standing)
    (hAfter : Steady { t with hosted := t.hosted.insert task.communityId changed } u) :
    Effect task s u := by
  constructor
  · intro other hOther
    rw [hAfter.standing, ServerState.standing, Finmap.lookup_insert_of_ne _ hOther, hHosted]
    rfl
  · intro standing hStanding
    rw [standing_of_lookup hCommunity] at hStanding
    cases hStanding
    refine ⟨changed.standing, ?_, hMoves, ?_⟩
    · rw [hAfter.standing]
      exact standing_of_lookup (Finmap.lookup_insert _)
    · unfold KeyRowAdded
      rw [hAfter.keys]
      exact hKeys
  · rw [hAfter.keys]
    rcases hKeys with hSame | ⟨row, -, -, -, hAdded⟩
    · exact hSame ▸ List.Subset.refl _
    · exact hAdded ▸ List.subset_append_left _ _
  · intro key hKey
    rw [hAfter.members]
    exact .inl (hMembers ▸ hKey)
  · intro key hKey
    rw [hAfter.members] at hKey
    exact .inl (hMembers ▸ hKey)
  · exact fun key hKey => .inl (hBans (hAfter.bans hKey))

theorem recordCreator_run {communityId sender : String} (isFirstMember : Bool) :
    ∃ t, (recordCreator communityId sender isFirstMember).run s = .ok () t ∧ Steady s t ∧
      t.hosted = s.hosted := by
  cases isFirstMember with
  | false => exact ⟨s, rfl, refl_of Steady s, rfl⟩
  | true =>
    obtain ⟨db, hRun, hDb⟩ : ∃ db, (executeIgnoring (Database.updateCommunity communityId · fun row =>
        { row with creatorPseudonym := sender }) : ServerM Unit).run s = _ ∧ _ := executeIgnoring_run _ s
    refine ⟨_, hRun, ?_, rfl⟩
    rcases hDb with rfl | hUpdate
    · exact ⟨fun _ => rfl, rfl, rfl, List.Subset.refl _⟩
    · cases hUpdate
      exact ⟨fun _ => rfl, rfl, rfl, List.Subset.refl _⟩

theorem effect_push {displayName : String} {routeBlob : Option (List UInt8)} {isFirstMember : Bool}
    (hJob : task.job = .join displayName routeBlob (.push isFirstMember)) :
    Ends (Effect task s)
      (pushMember task.env task.communityId task.sender isFirstMember displayName routeBlob) s := by
  apply ends_lookupCommunity
  cases hCommunity : s.hosted.lookup task.communityId with
  | none =>
    refine (refl_of Steady s).effect fun standing hStanding => ?_
    rw [ServerState.standing, hCommunity] at hStanding
    cases hStanding
  | some community =>
    obtain ⟨t, hRun, hSteady, hHosted⟩ := recordCreator_run isFirstMember
    apply Ends.bind_of_ok hRun
    refine effect_of_write hHosted hSteady.members hSteady.bans (.inl hSteady.keys) hCommunity ?_
      (Keeps.bind (keeps_option_forM _ fun blob => steady_updateRouteBlob blob _)
        (fun _ => keeps_pure _) _)
    rw [Task.Moves, hJob]
    simp only [HostedCommunity.standing, rosterOf, List.map_append]
    cases isFirstMember <;> rfl

theorem rotateMek_rows {env : Environment} {communityId : String} (generation : UInt64) :
    ∃ t, (rotateMek env communityId generation : ServerM MediaEncryptionKey).run s =
        .ok { generation := generation, key := env.mekKey } t ∧
      t.hosted = s.hosted ∧ t.db.memberKeys = s.db.memberKeys ∧ t.db.banKeys = s.db.banKeys ∧
      (t.db.serverMek = s.db.serverMek ∨
        KeyRowAdded communityId { generation := generation, key := env.mekKey } s.db t.db) := by
  set row : MekRow :=
    { communityId := communityId, generation := min generation.toNat i64Max
      keyBytes := env.mekKey, createdAt := env.timestampNow } with hRow
  obtain ⟨db, hRun, hDb⟩ : ∃ db, (executeIgnoring (fun db => db.insertMek row) :
      ServerM Unit).run s = _ ∧ _ := executeIgnoring_run (fun db => db.insertMek row) s
  refine ⟨_, run_bind_of_ok _ hRun, rfl, ?_⟩
  rcases hDb with rfl | hInsert
  · exact ⟨rfl, rfl, .inl rfl⟩
  · unfold Database.insertMek at hInsert
    split_ifs at hInsert with hThere hCommunity
    cases hInsert
    refine ⟨rfl, rfl, .inr ⟨row, rfl, rfl, fun old hOld hHere hSame => hThere ?_, rfl⟩⟩
    refine List.any_eq_true.mpr ⟨old, hOld, ?_⟩
    rw [hHere, hSame]
    simp [hRow]

/-- The write section of a departure or of a rotation. -/
theorem effect_rotation {members : List ServerMember}
    (hCommunity : s.hosted.lookup task.communityId = some community)
    (hMoves : ∀ mek, mek = community.standing.nextKey task.env → task.Moves community.standing
      { community.standing with roster := rosterOf members, key := mek }) :
    ∃ mek t, (rotateMek task.env task.communityId (community.mek.generation + 1) : ServerM _).run s =
        .ok mek t ∧
      Effect task s { t with
        hosted := t.hosted.insert task.communityId { community with members := members, mek := mek } } := by
  obtain ⟨t, hRun, hHosted, hMembers, hBans, hKeys⟩ :=
    @rotateMek_rows s task.env task.communityId (community.mek.generation + 1)
  refine ⟨_, t, hRun, ?_⟩
  have hMoved : task.Moves community.standing
      (HostedCommunity.standing { community with
        members := members, mek := community.standing.nextKey task.env }) := hMoves _ rfl
  exact effect_of_write hHosted hMembers (hBans ▸ List.Subset.refl _) hKeys hCommunity hMoved
    (refl_of Steady _)

theorem effect_remove {leaver : String} (hJob : task.job = .depart leaver .remove) :
    Ends (Effect task s) (removeMember task.env task.communityId leaver) s := by
  apply ends_lookupCommunity
  cases hCommunity : s.hosted.lookup task.communityId with
  | none =>
    refine (refl_of Steady s).effect fun standing hStanding => ?_
    rw [ServerState.standing, hCommunity] at hStanding
    cases hStanding
  | some community =>
    obtain ⟨mek, t, hRun, hEffect⟩ := @effect_rotation task s community
      (Keyed.remove ServerMember.pseudonymKeyHex leaver community.members) hCommunity (by
        rintro _ rfl
        rw [Task.Moves, hJob]
        simp only [Standing.without, HostedCommunity.standing, rosterOf, Keyed.remove, List.filter_map]
        rfl)
    exact Ends.bind_of_ok hRun hEffect

theorem effect_rotateKey (hJob : task.job = .rotateKey) :
    Ends (Effect task s) (rotateKey task.env task.communityId task.sender) s := by
  have hSame : ∀ standing, task.Moves standing standing := by
    intro standing
    rw [Task.Moves, hJob]
    exact .inl rfl
  have hSteady := (refl_of Steady s).effect fun standing _ => hSame standing
  apply ends_with_permission hSteady
  intro community hCommunity _
  obtain ⟨mek, t, hRun, hEffect⟩ := @effect_rotation task s community community.members hCommunity (by
    rintro _ rfl
    rw [Task.Moves, hJob]
    exact .inr rfl)
  exact Ends.bind_of_ok hRun hEffect

/-- A section that is one statement on the tables. -/
theorem effect_executeIgnoring {statement : Database → Option Database}
    (hMoves : ∀ standing, task.Moves standing standing)
    (hKeys : ∀ db db', statement db = some db' → db'.serverMek = db.serverMek)
    (hKept : ∀ db db', statement db = some db' → ∀ key ∈ db.memberKeys, key ∈ db'.memberKeys ∨
      ∃ leaver, task.job = .depart leaver .deleteRows ∧ key = (task.communityId, leaver))
    (hAdded : ∀ db db', statement db = some db' → db'.memberKeys ⊆ db.memberKeys)
    (hBans : ∀ db db', statement db = some db' → ∀ key ∈ db'.banKeys, key ∈ db.banKeys ∨
      ∃ target displayName, task.job = .recordBan target displayName ∧
        key = (task.communityId, target)) :
    Ends (Effect task s) (executeIgnoring statement : ServerM Unit) s := by
  obtain ⟨db, hRun, hDb⟩ : ∃ db, (executeIgnoring statement : ServerM Unit).run s = _ ∧ _ :=
    executeIgnoring_run statement s
  unfold Ends
  rw [hRun]
  rcases hDb with rfl | hStatement
  · exact Steady.effect ⟨fun _ => rfl, rfl, rfl, List.Subset.refl _⟩ fun standing _ => hMoves standing
  · have hSame : db.serverMek = s.db.serverMek := hKeys _ _ hStatement
    refine ⟨fun _ _ => rfl, fun standing hStanding => ?_, hSame ▸ List.Subset.refl _,
      hKept _ _ hStatement, ?_, hBans _ _ hStatement⟩
    · exact ⟨standing, hStanding, hMoves standing, .inl hSame⟩
    · exact fun key hKey => .inl (hAdded _ _ hStatement hKey)

theorem effect_deleteRows {leaver : String} (hJob : task.job = .depart leaver .deleteRows) :
    Ends (Effect task s) (executeIgnoring (Database.deleteMember task.communityId leaver) : ServerM Unit)
      s := by
  refine effect_executeIgnoring (fun standing => ?_) ?_ ?_ ?_ ?_
  · rw [Task.Moves, hJob]
  · rintro _ _ ⟨⟩
    rfl
  · rintro db _ ⟨⟩ key hKey
    by_cases hLeaver : key = (task.communityId, leaver)
    · exact .inr ⟨leaver, hJob, hLeaver⟩
    · obtain ⟨row, hRow, rfl⟩ := List.mem_map.mp hKey
      refine .inl (List.mem_map_of_mem (List.mem_filter.mpr ⟨hRow, ?_⟩))
      rw [Bool.not_eq_true', Bool.and_eq_false_iff, beq_eq_false_iff_ne, beq_eq_false_iff_ne,
        ← not_and_or]
      exact fun hSame => hLeaver (Prod.ext hSame.1 hSame.2)
  · rintro db _ ⟨⟩
    exact List.map_subset _ (List.filter_subset_self _)
  · rintro _ _ ⟨⟩ key hKey
    exact .inl hKey

theorem effect_recordBan {target displayName : String} (hJob : task.job = .recordBan target displayName) :
    Ends (Effect task s) (recordBan task.env task.communityId target displayName) s := by
  have hRun : ∀ {db db' : Database} {row : BanRow}, db.insertOrReplaceBan row = some db' →
      db'.serverMek = db.serverMek ∧ db'.serverMembers = db.serverMembers ∧
        db'.bannedMembers ⊆ db.bannedMembers ++ [row] := by
    intro db db' row hInsert
    unfold Database.insertOrReplaceBan at hInsert
    split_ifs at hInsert
    cases hInsert
    exact ⟨rfl, rfl, fun _ hIn => List.mem_append.mpr
      ((List.mem_append.mp hIn).imp (fun h => (List.mem_filter.mp h).1) id)⟩
  refine effect_executeIgnoring (fun standing => ?_) ?_ ?_ ?_ ?_
  · rw [Task.Moves, hJob]
  · exact fun db db' h => (hRun h).1
  · intro db db' h key hKey
    rw [Database.memberKeys, (hRun h).2.1]
    exact .inl hKey
  · intro db db' h
    rw [Database.memberKeys, (hRun h).2.1]
    exact List.Subset.refl _
  · intro db db' h key hKey
    obtain ⟨row, hRow, rfl⟩ := List.mem_map.mp hKey
    rcases List.mem_append.mp ((hRun h).2.2 hRow) with hOld | hNew
    · exact .inl (List.mem_map_of_mem hOld)
    · rw [List.mem_singleton.mp hNew]
      exact .inr ⟨target, displayName, hJob, rfl⟩

/-- Rows may be added for one member, and that is all. -/
structure RowsAdded (key : String × String) (before after : ServerState) : Prop where
  hosted : after.hosted = before.hosted
  keys : after.db.serverMek = before.db.serverMek
  bans : after.db.banKeys = before.db.banKeys
  kept : before.db.memberKeys ⊆ after.db.memberKeys
  added : ∀ other ∈ after.db.memberKeys, other ∈ before.db.memberKeys ∨ other = key

instance (key : String × String) : Std.Refl (RowsAdded key) :=
  ⟨fun _ => ⟨rfl, rfl, rfl, List.Subset.refl _, fun _ h => .inl h⟩⟩

instance (key : String × String) : IsTrans ServerState (RowsAdded key) :=
  ⟨fun _ _ _ hFirst hSecond => ⟨hSecond.hosted.trans hFirst.hosted, hSecond.keys.trans hFirst.keys,
    hSecond.bans.trans hFirst.bans, List.Subset.trans hFirst.kept hSecond.kept,
    fun other hOther => (hSecond.added other hOther).elim (hFirst.added other) .inr⟩⟩

theorem rowsAdded_executeIgnoring {key : String × String} {statement : Database → Option Database}
    (h : ∀ db db', statement db = some db' → db'.serverMek = db.serverMek ∧
      db'.bannedMembers = db.bannedMembers ∧
      (db'.serverMembers = db.serverMembers ∨
        ∃ row : MemberRow, row.key = key ∧ db'.serverMembers = db.serverMembers ++ [row])) :
    Keeps (RowsAdded key) (executeIgnoring statement : ServerM Unit) := by
  intro s
  obtain ⟨db, hRun, hDb⟩ : ∃ db, (executeIgnoring statement : ServerM Unit).run s = _ ∧ _ :=
    executeIgnoring_run statement s
  rw [hRun]
  rcases hDb with rfl | hStatement
  · exact ⟨rfl, rfl, rfl, List.Subset.refl _, fun _ h => .inl h⟩
  · obtain ⟨hKeys, hBans, hMembers⟩ := h _ _ hStatement
    have hRows : s.db.memberKeys ⊆ db.memberKeys ∧
        ∀ other ∈ db.memberKeys, other ∈ s.db.memberKeys ∨ other = key := by
      unfold Database.memberKeys
      rcases hMembers with hSame | ⟨row, rfl, hAdded⟩
      · rw [hSame]
        exact ⟨List.Subset.refl _, fun _ h => .inl h⟩
      · rw [hAdded, List.map_append]
        refine ⟨List.subset_append_left _ _, fun other hOther => ?_⟩
        exact (List.mem_append.mp hOther).imp id List.mem_singleton.mp
    exact ⟨rfl, hKeys, congrArg (List.map BanRow.key) hBans, hRows.1, hRows.2⟩

theorem effect_insertRows {displayName : String} {routeBlob : Option (List UInt8)}
    {isFirstMember : Bool} (hJob : task.job = .join displayName routeBlob (.insertRows isFirstMember)) :
    Ends (Effect task s) (insertMemberRows task.env task.communityId task.sender displayName
      (defaultRoleIds isFirstMember) : ServerM Unit) s := by
  have hRows : Keeps (RowsAdded (task.communityId, task.sender)) (insertMemberRows task.env
      task.communityId task.sender displayName (defaultRoleIds isFirstMember) : ServerM Unit) := by
    refine Keeps.bind (rowsAdded_executeIgnoring fun db db' hRun => ?_) fun _ =>
      keeps_list_forM _ fun _ => rowsAdded_executeIgnoring fun db db' hRun => ?_
    · unfold Database.insertMember at hRun
      split_ifs at hRun
      · cases hRun
        exact ⟨rfl, rfl, .inl rfl⟩
      · cases hRun
        exact ⟨rfl, rfl, .inr ⟨_, rfl, rfl⟩⟩
    · unfold Database.insertMemberRole at hRun
      split_ifs at hRun
      · cases hRun
        exact ⟨rfl, rfl, .inl rfl⟩
      · cases hRun
        exact ⟨rfl, rfl, .inl rfl⟩
  obtain ⟨hHosted, hKeys, hBans, hKept, hAdded⟩ := hRows s
  have hStanding : ∀ other, ServerState.standing (Result.state ((insertMemberRows task.env
      task.communityId task.sender displayName (defaultRoleIds isFirstMember) : ServerM Unit).run s)) other =
      s.standing other := by
    intro other
    rw [ServerState.standing, hHosted, ServerState.standing]
  refine ⟨fun other _ => hStanding other, fun standing hBefore => ?_, hKeys ▸ List.Subset.refl _,
    fun key hKey => .inl (hKept hKey), fun key hKey => ?_, fun key hKey => .inl (hBans ▸ hKey)⟩
  · refine ⟨standing, (hStanding _).trans hBefore, ?_, .inl hKeys⟩
    rw [Task.Moves, hJob]
  · exact (hAdded key hKey).imp id fun hNew => ⟨displayName, routeBlob, isFirstMember, hJob, hNew⟩

end

/-! ## Any section -/

theorem state_of_going {α : Type} {x : ServerM α} {route : α → Task ⊕ CommunityResponse}
    {task : Task} {s : ServerState} (h : Ends (Effect task s) x s) :
    Ends (Effect task s) (x >>= fun a => pure (route a)) s := by
  unfold Ends
  rw [state_bind_pure]
  exact h

theorem section_effect (task : Task) (s : ServerState) : Ends (Effect task s) task.advance s := by
  have hSteady : ∀ {x : ServerM (Task ⊕ CommunityResponse)}, Keeps Steady x →
      (∀ standing, task.Moves standing standing) → Ends (Effect task s) x s :=
    fun hKeeps hMoves => (hKeeps s).effect fun standing _ => hMoves standing
  unfold Task.advance
  split
  next displayName routeBlob stage hJob =>
    cases stage with
    | find viaIpc =>
      refine hSteady ((steady_checkHosted viaIpc).bind fun _ => keeps_pure _) fun _ => ?_
      rw [Task.Moves, hJob]
    | checkBanned =>
      refine hSteady (steady_checkNotBanned.bind fun _ => keeps_pure _) fun _ => ?_
      rw [Task.Moves, hJob]
    | rejoin =>
      refine hSteady ((steady_handleRejoin routeBlob).bind fun _ => keeps_pure _) fun _ => ?_
      rw [Task.Moves, hJob]
    | countMembers =>
      refine hSteady (((steady_lookupCommunity _).bind fun _ => keeps_pure _).bind fun _ => keeps_pure _)
        fun _ => ?_
      rw [Task.Moves, hJob]
    | insertRows isFirstMember => exact state_of_going (effect_insertRows hJob)
    | push isFirstMember =>
      refine state_of_going ?_
      unfold Ends pushOrFail
      rw [state_bind_ofExcept]
      exact effect_push hJob
    | announce joined =>
      refine hSteady ((steady_broadcastToMembers _ _ _).bind fun _ => keeps_pure _) fun _ => ?_
      rw [Task.Moves, hJob]
  next leaver stage hJob =>
    cases stage with
    | verify =>
      refine hSteady (steady_verifyMembershipIfHosted.bind fun _ => keeps_pure _) fun _ => ?_
      rw [Task.Moves, hJob]
    | deleteRows => exact state_of_going (effect_deleteRows hJob)
    | remove => exact state_of_going (effect_remove hJob)
    | announce =>
      refine hSteady ((steady_broadcastToMembers _ _ _).bind fun _ => keeps_pure _) fun _ => ?_
      rw [Task.Moves, hJob]
    | readGeneration =>
      refine hSteady (((steady_lookupCommunity _).bind fun _ => keeps_pure _).bind fun _ => keeps_pure _)
        fun _ => ?_
      rw [Task.Moves, hJob]
    | announceKey generation =>
      refine hSteady ((steady_broadcastToMembers _ _ _).bind fun _ => keeps_pure _) fun _ => ?_
      rw [Task.Moves, hJob]
  next target hJob =>
    refine hSteady ((steady_checkKick target).bind fun _ => keeps_pure _) fun _ => ?_
    rw [Task.Moves, hJob]
  next target hJob =>
    refine hSteady ((steady_checkBan target).bind fun _ => keeps_pure _) fun _ => ?_
    rw [Task.Moves, hJob]
  next target displayName hJob => exact state_of_going (effect_recordBan hJob)
  next target hJob =>
    refine hSteady ((steady_handleUnban target).bind fun _ => keeps_pure _) fun _ => ?_
    rw [Task.Moves, hJob]
  next hJob => exact state_of_going (effect_rotateKey hJob)
  next generation hJob =>
    refine hSteady ((steady_broadcastToMembers _ _ _).bind fun _ => keeps_pure _) fun _ => ?_
    rw [Task.Moves, hJob]
  next hJob =>
    refine hSteady (((steady_getCommunity _).bind fun _ => (keeps_ofExcept _).bind fun _ =>
      keeps_pure _).bind fun _ => keeps_pure _) fun _ => ?_
    rw [Task.Moves, hJob]

/-! ## Moves -/

section
variable {task : Task} {before after : Standing} {pseudonym : String}

theorem mem_roster_of_moves (h : task.Moves before after) (hAfter : pseudonym ∈ after.roster) :
    pseudonym ∈ before.roster ∨ pseudonym = task.sender ∧
      ∃ displayName routeBlob isFirstMember,
        task.job = .join displayName routeBlob (.push isFirstMember) := by
  unfold Task.Moves at h
  split at h
  next displayName routeBlob isFirstMember hJob =>
    subst h
    rcases List.mem_append.mp hAfter with hOld | hNew
    · exact .inl hOld
    · exact .inr ⟨List.mem_singleton.mp hNew, displayName, routeBlob, isFirstMember, hJob⟩
  next =>
    subst h
    exact .inl (List.mem_of_mem_filter hAfter)
  next =>
    rcases h with rfl | rfl
    · exact .inl hAfter
    · exact .inl hAfter
  next =>
    subst h
    exact .inl hAfter

theorem mem_roster_moved (h : task.Moves before after) (hBefore : pseudonym ∈ before.roster) :
    pseudonym ∈ after.roster ∨ task.job = .depart pseudonym .remove := by
  unfold Task.Moves at h
  split at h
  next =>
    subst h
    exact .inl (List.mem_append_left _ hBefore)
  next leaver hJob =>
    subst h
    by_cases hLeaver : pseudonym = leaver
    · subst hLeaver
      exact .inr hJob
    · exact .inl (List.mem_filter.mpr ⟨hBefore, bne_iff_ne.mpr hLeaver⟩)
  next =>
    rcases h with rfl | rfl
    · exact .inl hBefore
    · exact .inl hBefore
  next =>
    subst h
    exact .inl hBefore

theorem not_mem_removed (h : task.Moves before after) (hJob : task.job = .depart pseudonym .remove) :
    pseudonym ∉ after.roster := by
  rw [Task.Moves, hJob] at h
  subst h
  intro hIn
  exact bne_iff_ne.mp (List.mem_filter.mp hIn).2 rfl

theorem mem_pushed (h : task.Moves before after) {displayName : String}
    {routeBlob : Option (List UInt8)} {isFirstMember : Bool}
    (hJob : task.job = .join displayName routeBlob (.push isFirstMember)) :
    task.sender ∈ after.roster := by
  rw [Task.Moves, hJob] at h
  subst h
  exact List.mem_append_right _ (List.mem_singleton.mpr rfl)

end

end Rekindle.Server
