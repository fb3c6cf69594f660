import Rekindle.Server.RepresentationRequests

/-! # Runs that keep members and roles well formed

A community is loaded well formed from well-formed tables. Along a run the only steps to watch are
those that hand out default roles, and those that load roles which members hold.
-/
namespace Rekindle.Server
set_option autoImplicit false
open Fallible Runs

/-! ## Hosting -/

/-- The roles that a community is hosted with. -/
def hostedRoles (communityId : String) (db : Database) : List RoleDefinition :=
  if loadRolesFromDb communityId db = [] then defaultRoles else loadRolesFromDb communityId db

/-- The recorded creator of a community; empty when there is none. -/
def recordedCreator (communityId : String) (db : Database) : String :=
  (communityRow communityId db).elim "" CommunityRow.creatorPseudonym

/-- What hosting must find: readable permissions for the roles that members hold and, if it registers
a creator, all default roles. -/
structure Hostable (state : ServerState) (communityId creatorKey : String) : Prop where
  readable : ∀ held ∈ state.db.serverMemberRoles, held.communityId = communityId →
    ∀ row ∈ state.db.serverRoles, row.key = (communityId, held.roleId) →
      readsAsU64 row.role.permissions = true
  defaults : creatorKey ≠ "" → recordedCreator communityId state.db = "" →
    state.db.hasMember communityId creatorKey = false →
    defaultRoleIds true ⊆ roleIdsOf (hostedRoles communityId state.db)

section
variable {db : Database} {communityId : String}

theorem mem_loadRoles {roleId : UInt32} :
    roleId ∈ roleIdsOf (loadRolesFromDb communityId db) ↔
      ∃ row ∈ db.serverRoles, row.key = (communityId, roleId) ∧
        readsAsU64 row.role.permissions = true := by
  unfold roleIdsOf loadRolesFromDb
  rw [((List.perm_insertionSort _ _).map _).mem_iff, List.map_map, List.mem_map]
  constructor
  · rintro ⟨row, hRow, rfl⟩
    obtain ⟨hRow, hTest⟩ := List.mem_filter.mp hRow
    rw [Bool.and_eq_true, beq_iff_eq] at hTest
    exact ⟨row, hRow, Prod.ext hTest.1 rfl, hTest.2⟩
  · rintro ⟨row, hRow, hKey, hReads⟩
    obtain ⟨hCommunity, hId⟩ := Prod.mk.inj hKey
    refine ⟨row, List.mem_filter.mpr ⟨hRow, ?_⟩, hId⟩
    rw [hCommunity, beq_self_eq_true, hReads]
    rfl

variable (communityId) in
/-- Records of one community with distinct keys have distinct second parts. -/
theorem nodup_of_keys {α κ : Type} {records : List α} (key : α → String × κ) {part : α → κ}
    (hKeys : (records.map key).Nodup) (hKey : ∀ record ∈ records, key record = (communityId, part record)) :
    (records.map part).Nodup := by
  rw [List.map_congr_left hKey] at hKeys
  refine List.Nodup.of_map (Prod.mk communityId) ?_
  rwa [List.map_map]

theorem nodup_hostedRoles (h : db.WellFormed) : (roleIdsOf (hostedRoles communityId db)).Nodup := by
  unfold hostedRoles
  split
  · decide
  · unfold roleIdsOf loadRolesFromDb
    rw [((List.perm_insertionSort _ _).map _).nodup_iff, List.map_map]
    refine nodup_of_keys communityId RoleRow.key
      (h.roles.sublist (List.filter_sublist.map _)) fun row hRow => ?_
    have hTest := (List.mem_filter.mp hRow).2
    rw [Bool.and_eq_true, beq_iff_eq] at hTest
    exact Prod.ext hTest.1 rfl

/-- The members that are loaded, when each role that they hold is among `roles`. -/
theorem loadMembers_wellFormed (env : Environment) {community : HostedCommunity} (h : db.WellFormed)
    (hMembers : community.members = loadMembersFromDb env communityId db)
    (hRoles : (roleIdsOf community.roles).Nodup)
    (hExist : ∀ held ∈ db.serverMemberRoles, held.communityId = communityId →
      held.roleId ∈ roleIdsOf community.roles) : community.WellFormed := by
  refine ⟨?_, hRoles, ?_⟩
  · rw [hMembers, loadMembersFromDb, List.map_map]
    refine nodup_of_keys communityId MemberRow.key
      (h.members.sublist (List.filter_sublist.map _)) fun row hRow => ?_
    exact Prod.ext (beq_iff_eq.mp (List.mem_filter.mp hRow).2) rfl
  · rw [hMembers]
    intro member hMember
    obtain ⟨row, hRow, rfl⟩ := List.mem_map.mp hMember
    obtain ⟨hRow, hCommunity⟩ := List.mem_filter.mp hRow
    rw [beq_iff_eq] at hCommunity
    dsimp only [loadMemberRoles]
    refine ⟨?_, ?_, fun roleId hRole => ?_⟩
    · refine (h.distinct.filter _).map_on fun first hFirst second hSecond hSame => ?_
      have hOne := (List.mem_filter.mp hFirst).2
      have hTwo := (List.mem_filter.mp hSecond).2
      rw [Bool.and_eq_true, beq_iff_eq, beq_iff_eq] at hOne hTwo
      obtain ⟨_, _, _⟩ := first
      obtain ⟨_, _, _⟩ := second
      simp_all
    · refine List.mem_map.mpr ⟨_, List.mem_filter.mpr ⟨h.everyone row hRow, ?_⟩, rfl⟩
      simp [hCommunity]
    · obtain ⟨held, hHeld, rfl⟩ := List.mem_map.mp hRole
      obtain ⟨hHeld, hTest⟩ := List.mem_filter.mp hHeld
      rw [Bool.and_eq_true, beq_iff_eq] at hTest
      exact hExist held hHeld hTest.1

/-- Steps of hosting that touch neither the roster nor the rows of communities. -/
structure Prepared (before after : ServerState) : Prop where
  roster : RosterKept before after
  communities : after.db.hostedCommunities = before.db.hostedCommunities

instance : Std.Refl Prepared := ⟨fun state => ⟨refl_of RosterKept state, rfl⟩⟩

instance : IsTrans ServerState Prepared :=
  ⟨fun _ _ _ hFirst hSecond => ⟨trans_of RosterKept hFirst.roster hSecond.roster,
    hSecond.communities.trans hFirst.communities⟩⟩

theorem prepared_query {ε α : Type} (read : Database → α) :
    Keeps Prepared (query read : EStateM ε ServerState (Option α)) :=
  fun _ => ⟨⟨rfl, rfl, rfl, fun _ => rfl, List.tail_suffix _⟩, rfl⟩

theorem prepared_load {α : Type} (read : Database → α) : Keeps Prepared (load read) :=
  (prepared_query read).bind fun _ => keeps_ofExcept _

theorem prepared_executeIgnoring {ε : Type} {statement : Database → Option Database}
    (h : ∀ db db', statement db = some db' → RosterAside db db' ∧
      db'.hostedCommunities = db.hostedCommunities) :
    Keeps Prepared (executeIgnoring statement : EStateM ε ServerState Unit) := by
  intro s
  obtain ⟨db, hRun, hDb⟩ : ∃ db, (executeIgnoring statement : EStateM ε _ _).run s = _ ∧ _ :=
    executeIgnoring_run statement s
  rw [hRun]
  rcases hDb with rfl | hStatement
  · exact ⟨⟨rfl, rfl, rfl, fun _ => rfl, List.tail_suffix _⟩, rfl⟩
  · obtain ⟨hAside, hCommunities⟩ := h s.db db hStatement
    exact ⟨⟨hAside.members, hAside.roles, hAside.memberRoles, fun _ => rfl, List.tail_suffix _⟩,
      hCommunities⟩

theorem prepared_loadOrCreateMek (env : Environment) :
    Keeps Prepared (loadOrCreateMek env communityId) := by
  refine (prepared_query _).bind fun row => ?_
  cases row.join with
  | some mek => exact keeps_pure _
  | none =>
    refine Keeps.bind (prepared_executeIgnoring fun db db' hRun => ?_) fun _ => keeps_pure _
    grind [Database.insertOrReplaceMek, RosterAside]

/-- A community's row, and the creator in it, is not changed by another hosting. -/
theorem insertCommunity_recordedCreator {db' : Database} {name : String}
    (hRun : db.insertCommunity
      { id := communityId, name := name, description := "", creatorPseudonym := "" } = some db') :
    RosterAside db db' ∧ recordedCreator communityId db' = recordedCreator communityId db := by
  unfold Database.insertCommunity at hRun
  split_ifs at hRun with hThere
  · cases hRun
    exact ⟨⟨rfl, rfl, rfl⟩, rfl⟩
  · cases hRun
    refine ⟨⟨rfl, rfl, rfl⟩, ?_⟩
    have hNone : communityRow communityId db = none := by
      rw [communityRow, List.find?_eq_none]
      intro row hRow hSame
      exact hThere (List.any_eq_true.mpr ⟨row, hRow, hSame⟩)
    unfold recordedCreator
    rw [hNone, communityRow, List.find?_append]
    change ((communityRow communityId db).or _).elim "" _ = _
    rw [hNone]
    simp

/-- Role rows are added, and nothing else changes. -/
structure RolesAdded (before after : ServerState) : Prop where
  hosted : after.hosted = before.hosted
  members : after.db.serverMembers = before.db.serverMembers
  memberRoles : after.db.serverMemberRoles = before.db.serverMemberRoles
  communities : after.db.hostedCommunities = before.db.hostedCommunities
  roles : KeepsRoleRows before.db after.db

theorem Database.WellFormed.insertRoleOrIgnore (h : db.WellFormed) {db' : Database} {row : RoleRow}
    (hRun : db.insertRoleOrIgnore row = some db') :
    db'.WellFormed ∧ row.key ∈ db'.serverRoles.map RoleRow.key ∧
      ∃ added, db' = { db with serverRoles := db.serverRoles ++ added } := by
  unfold Database.insertRoleOrIgnore at hRun
  split_ifs at hRun with hThere hCommunity
  · cases hRun
    exact ⟨h, Database.hasRole_iff.mp hThere, [], by rw [List.append_nil]⟩
  · cases hRun
    rw [Database.hasRole_iff] at hThere
    refine ⟨⟨h.members, ?_, h.distinct, h.everyone, fun held hHeld => ?_⟩, ?_, [row], rfl⟩
    · rw [List.map_append]
      exact h.roles.append (List.nodup_singleton _) (List.disjoint_singleton.mpr hThere)
    · rw [List.map_append]
      exact List.mem_append_left _ (h.exist held hHeld)
    · rw [List.map_append]
      exact List.mem_append_right _ List.mem_cons_self

/-- One turn of the loop of `createDefaultRoles`. -/
def insertDefaultRole (communityId : String) (role : RoleDefinition) : HostM Unit := do
  let stored ← execute fun db => db.insertRoleOrIgnore ⟨communityId, role⟩
  ofExcept (refuseIf (stored = false) .insertDefaultRole)

theorem insertDefaultRoles_run {s : ServerState} (h : s.WellFormed) (roles : List RoleDefinition) :
    ∃ t, t.WellFormed ∧ RolesAdded s t ∧
      ((∃ e, (roles.forM (insertDefaultRole communityId)).run s = .error e t) ∨
        (roles.forM (insertDefaultRole communityId)).run s = .ok () t ∧
        ∀ roleId ∈ roleIdsOf roles, (communityId, roleId) ∈ t.db.serverRoles.map RoleRow.key) := by
  induction roles generalizing s with
  | nil =>
    refine ⟨s, h, ⟨rfl, rfl, rfl, rfl, List.Subset.refl _⟩, .inr ⟨rfl, ?_⟩⟩
    intro roleId hRole
    cases hRole
  | cons role rest ih =>
    have hExecuted := execute_run_of_faultless (ε := HostError) h.faultless
      fun db => db.insertRoleOrIgnore ⟨communityId, role⟩
    cases hRun : s.db.insertRoleOrIgnore ⟨communityId, role⟩ with
    | none =>
      rw [hRun] at hExecuted
      refine ⟨{ s with dbFaults := s.dbFaults.tail },
        h.queried, ⟨rfl, rfl, rfl, rfl, List.Subset.refl _⟩, .inl ⟨.insertDefaultRole, ?_⟩⟩
      apply run_bind_of_error
      unfold insertDefaultRole
      rw [run_bind_of_ok _ hExecuted]
      rfl
    | some db =>
      rw [hRun] at hExecuted
      obtain ⟨hTables, hKey, added, rfl⟩ := h.tables.insertRoleOrIgnore hRun
      have hKeeps : KeepsRoleRows s.db { s.db with serverRoles := s.db.serverRoles ++ added } := by
        intro key hIn
        rw [List.map_append]
        exact List.mem_append_left _ hIn
      have hStep : ServerState.WellFormed
          { s with dbFaults := s.dbFaults.tail
                   db := { s.db with serverRoles := s.db.serverRoles ++ added } } :=
        ⟨tail_faultless h.faultless, hTables, fun id community hCommunity =>
          (h.hosted id community hCommunity).mono hKeeps⟩
      have hFirst : (insertDefaultRole communityId role).run s = .ok ()
          { s with dbFaults := s.dbFaults.tail
                   db := { s.db with serverRoles := s.db.serverRoles ++ added } } := by
        unfold insertDefaultRole
        rw [run_bind_of_ok _ hExecuted]
        rfl
      obtain ⟨t, hEnd, hAdded, hCase⟩ := ih hStep
      refine ⟨t, hEnd, ⟨hAdded.hosted, hAdded.members, hAdded.memberRoles, hAdded.communities,
        List.Subset.trans hKeeps hAdded.roles⟩, ?_⟩
      change (∃ e, (insertDefaultRole communityId role >>= fun _ =>
          rest.forM (insertDefaultRole communityId)).run s = _) ∨
        (insertDefaultRole communityId role >>= fun _ =>
          rest.forM (insertDefaultRole communityId)).run s = _ ∧ _
      rw [run_bind_of_ok _ hFirst]
      refine hCase.imp id (And.imp id fun hRest roleId hRole => ?_)
      rcases List.mem_cons.mp hRole with rfl | hLater
      · exact hAdded.roles hKey
      · exact hRest roleId hLater

theorem load_run_of_faultless {s : ServerState} {α : Type} (h : true ∉ s.dbFaults)
    (read : Database → α) :
    (load read).run s = .ok (read s.db) { s with dbFaults := s.dbFaults.tail } := by
  unfold load
  rw [run_bind_of_ok _ (query_run_of_faultless h _)]
  rfl

theorem ends_loadOrCreateRoles {s : ServerState} {β : Type} {f : List RoleDefinition → HostM β}
    (h : s.WellFormed)
    (hRest : ∀ t, t.WellFormed → RolesAdded s t →
      (∀ roleId ∈ roleIdsOf (hostedRoles communityId s.db),
        (communityId, roleId) ∈ t.db.serverRoles.map RoleRow.key) →
      Ends ServerState.WellFormed (f (hostedRoles communityId s.db)) t) :
    Ends ServerState.WellFormed (loadOrCreateRoles communityId >>= f) s := by
  have hQueried := h.queried
  unfold loadOrCreateRoles
  rw [bind_assoc]
  apply Ends.bind_of_ok (load_run_of_faultless h.faultless _)
  unfold hostedRoles at hRest
  split
  · rename_i hNone
    rw [if_pos hNone] at hRest
    obtain ⟨t, hEnd, hAdded, hCase⟩ : ∃ t, _ ∧ _ ∧
        ((∃ e, (defaultRoles.forM (insertDefaultRole communityId)).run _ = .error e t) ∨ _) :=
      insertDefaultRoles_run hQueried defaultRoles
    rcases hCase with ⟨e, hRun⟩ | ⟨hRun, hKeys⟩
    · have hError : (createDefaultRoles communityId).run { s with dbFaults := s.dbFaults.tail } =
          .error e t := run_bind_of_error _ hRun
      unfold Ends
      rw [run_bind_of_error _ hError]
      exact hEnd
    · have hOk : (createDefaultRoles communityId).run { s with dbFaults := s.dbFaults.tail } =
          .ok defaultRoles t := run_bind_of_ok _ hRun
      apply Ends.bind_of_ok hOk
      exact hRest t hEnd ⟨hAdded.hosted, hAdded.members, hAdded.memberRoles, hAdded.communities,
        hAdded.roles⟩ hKeys
  · rename_i hSome
    rw [if_neg hSome] at hRest
    refine hRest _ hQueried ⟨rfl, rfl, rfl, rfl, List.Subset.refl _⟩ fun roleId hRole => ?_
    obtain ⟨row, hRow, hKey, _⟩ := mem_loadRoles.mp hRole
    exact List.mem_map.mpr ⟨row, hRow, hKey⟩

theorem ends_registerCreator {s : ServerState} {β : Type} {f : HostedCommunity → HostM β}
    {env : Environment} {creatorKey creatorDisplayName : String} {community : HostedCommunity}
    (h : s.WellFormed) (hStored : community.Stored communityId s.db)
    (hDefaults : creatorKey ≠ "" → community.creatorPseudonymHex = "" →
      findMember community.members creatorKey = none →
      defaultRoleIds true ⊆ roleIdsOf community.roles)
    (hRest : ∀ t registered, t.WellFormed → registered.Stored communityId t.db →
      Ends ServerState.WellFormed (f registered) t) :
    Ends ServerState.WellFormed
      (registerCreator env communityId creatorKey creatorDisplayName community >>= f) s := by
  unfold registerCreator
  split_ifs with hRegisters
  · obtain ⟨hKey, hNone, hNew⟩ := hRegisters
    have hExist := hDefaults hKey hNone hNew
    obtain ⟨t, hRun, hInserted, _, hRoles⟩ : ∃ t, (insertMemberRows env communityId creatorKey
        creatorDisplayName (defaultRoleIds true) : HostM Unit).run s = .ok () t ∧ _ :=
      insertMemberRows_run h creatorDisplayName true fun roleId hRole =>
        hStored.roles roleId (hExist hRole)
    simp only [bind_assoc, pure_bind]
    apply Ends.bind_of_ok hRun
    refine Ends.bind_of_keeps (elsewhere_updateCommunity _ _)
      (fun _ hKept => hInserted.of_rosterKept hKept.roster) fun _ u hKept => ?_
    set member : ServerMember :=
      { pseudonymKeyHex := creatorKey, displayName := creatorDisplayName
        roleIds := defaultRoleIds true, joinedAt := env.timestampNow, routeBlob := none
        timeoutUntil := none }
    have hJoined : { community with members := community.members ++ [member] }.WellFormed :=
      hStored.wellFormed.addMember hNew (defaultRoleIds_wellFormed hExist)
    refine hRest u _ (hInserted.of_rosterKept hKept.roster)
      ⟨⟨hJoined.members, hJoined.roles, hJoined.held⟩, hStored.named, ?_⟩
    rw [hKept.roster.roles, hRoles]
    exact hStored.roles
  · exact hRest s community h hStored

/-- The roles of the community's members are among those it is hosted with. -/
theorem held_mem_hostedRoles {s : ServerState} (h : s.WellFormed) {creatorKey : String}
    (hHostable : Hostable s communityId creatorKey) :
    ∀ held ∈ s.db.serverMemberRoles, held.communityId = communityId →
      held.roleId ∈ roleIdsOf (hostedRoles communityId s.db) := by
  rintro held hHeld rfl
  obtain ⟨row, hRow, hKey⟩ := List.mem_map.mp (h.tables.exist held hHeld)
  have hLoaded : held.roleId ∈ roleIdsOf (loadRolesFromDb held.communityId s.db) :=
    mem_loadRoles.mpr ⟨row, hRow, hKey, hHostable.readable held hHeld rfl row hRow hKey⟩
  unfold hostedRoles
  split
  · rename_i hNone
    rw [hNone] at hLoaded
    cases hLoaded
  · exact hLoaded

theorem hostedRoles_congr {db' : Database} (hRoles : db'.serverRoles = db.serverRoles) :
    hostedRoles communityId db' = hostedRoles communityId db := by
  unfold hostedRoles loadRolesFromDb
  rw [hRoles]

theorem recordedCreator_congr {db' : Database}
    (hCommunities : db'.hostedCommunities = db.hostedCommunities) :
    recordedCreator communityId db' = recordedCreator communityId db := by
  unfold recordedCreator communityRow
  rw [hCommunities]

theorem hasMember_of_findMember_eq_none {env : Environment} {pseudonym : String}
    (h : findMember (loadMembersFromDb env communityId db) pseudonym = none) :
    db.hasMember communityId pseudonym = false := by
  rw [← Bool.not_eq_true]
  intro hMember
  obtain ⟨row, hRow, hTest⟩ := List.any_eq_true.mp hMember
  rw [Bool.and_eq_true, beq_iff_eq, beq_iff_eq] at hTest
  refine Keyed.find_eq_none_iff.mp h _ (List.mem_map.mpr ⟨row, List.mem_filter.mpr ⟨hRow, ?_⟩, rfl⟩)
    hTest.2
  exact beq_iff_eq.mpr hTest.1

theorem hostNewly_wellFormed {s : ServerState} (h : s.WellFormed) (env : Environment)
    (name creatorKey creatorDisplayName : String) (setup : Except HostError Unit)
    (hHostable : Hostable s communityId creatorKey) :
    Ends ServerState.WellFormed
      (hostNewly env communityId name creatorKey creatorDisplayName setup) s := by
  unfold hostNewly
  have hInsert := executeIgnoring_run_of_faultless (ε := HostError) h.faultless fun db =>
    db.insertCommunity { id := communityId, name := name, description := "", creatorPseudonym := "" }
  apply Ends.bind_of_ok hInsert
  set begun : ServerState := { s with
    dbFaults := s.dbFaults.tail
    db := (s.db.insertCommunity
      { id := communityId, name := name, description := "", creatorPseudonym := "" }).getD s.db }
  have hBegun : RosterKept s begun ∧
      recordedCreator communityId begun.db = recordedCreator communityId s.db := by
    cases hRun : s.db.insertCommunity
        { id := communityId, name := name, description := "", creatorPseudonym := "" } with
    | none =>
      have hSame : begun.db = s.db := by
        change Option.getD _ _ = _
        rw [hRun, Option.getD_none]
      rw [hSame]
      exact ⟨⟨by rw [hSame], by rw [hSame], by rw [hSame], fun _ => rfl, List.tail_suffix _⟩, rfl⟩
    | some db =>
      have hSame : begun.db = db := by
        change Option.getD _ _ = _
        rw [hRun, Option.getD_some]
      obtain ⟨hAside, hCreator⟩ := insertCommunity_recordedCreator hRun
      rw [hSame]
      exact ⟨⟨by rw [hSame, hAside.members], by rw [hSame, hAside.roles],
        by rw [hSame, hAside.memberRoles], fun _ => rfl, List.tail_suffix _⟩, hCreator⟩
  refine Ends.bind_of_keeps (prepared_loadOrCreateMek env)
    (fun t hT => h.of_rosterKept (trans_of RosterKept hBegun.1 hT.roster)) fun mek keyed hKeyed => ?_
  refine Ends.bind_of_keeps (prepared_load _)
    (fun t hT => h.of_rosterKept (trans_of RosterKept hBegun.1
      (trans_of Prepared hKeyed hT).roster)) fun channels t hLoaded => ?_
  have hPrepared : Prepared begun t := trans_of Prepared hKeyed hLoaded
  have hKept : RosterKept s t := trans_of RosterKept hBegun.1 hPrepared.roster
  have hRoles : hostedRoles communityId t.db = hostedRoles communityId s.db := hostedRoles_congr hKept.roles
  apply ends_loadOrCreateRoles (h.of_rosterKept hKept)
  intro u hU hAdded hKeys
  rw [hRoles] at hKeys ⊢
  apply Ends.bind_of_ok (load_run_of_faultless hU.faultless _)
  apply Ends.bind_ofExcept hU.queried
  intro _ _
  apply Ends.bind_of_ok (query_run_of_faultless hU.queried.faultless _)
  apply Ends.bind_of_ok (query_run_of_faultless hU.queried.queried.faultless _)
  apply ends_registerCreator hU.queried.queried.queried
  · refine ⟨loadMembers_wellFormed env hU.tables rfl (nodup_hostedRoles h.tables) ?_, rfl, hKeys⟩
    rw [hAdded.memberRoles, hKept.memberRoles]
    exact held_mem_hostedRoles h hHostable
  · intro hKey hNone hNew
    have hCreator : recordedCreator communityId u.db = "" := hNone
    rw [recordedCreator_congr hAdded.communities, recordedCreator_congr hPrepared.communities,
      hBegun.2] at hCreator
    have hAbsent := hasMember_of_findMember_eq_none hNew
    rw [Database.hasMember, hAdded.members, hKept.members] at hAbsent
    exact hHostable.defaults hKey hCreator hAbsent
  · exact fun w registered hW hStored => hW.set hStored

end

/-! ## Runs -/

/-- What a step must find so as to hand out only roles that exist. -/
def GrantsExistingRoles (state : ServerState) : ServerEvent → Prop
  | .restart => True
  | .unhost _ => True
  | .host _ communityId _ creatorKey _ _ =>
    communityId ∉ state.hosted → Hostable state communityId creatorKey
  | .request incoming => JoinsAdmissibly state incoming

theorem unhostCommunity_wellFormed {state : ServerState} (h : state.WellFormed) (communityId : String) :
    Ends ServerState.WellFormed (unhostCommunity communityId) state := by
  apply ends_lookupCommunity
  cases hCommunity : state.hosted.lookup communityId with
  | none => exact h
  | some community =>
    have hErased : ServerState.WellFormed { state with hosted := state.hosted.erase communityId } := by
      refine ⟨h.faultless, h.tables, fun other found hFound => ?_⟩
      by_cases hOther : other = communityId
      · rw [hOther, Finmap.lookup_erase] at hFound
        cases hFound
      · rw [Finmap.lookup_erase_ne hOther] at hFound
        exact h.hosted other found hFound
    have hRun := executeIgnoring_run_of_faultless (ε := HostError) hErased.faultless
      (Database.deleteCommunity communityId)
    unfold Ends
    change ServerState.WellFormed (Result.state ((executeIgnoring _).run _))
    rw [hRun]
    refine ⟨tail_faultless h.faultless, h.tables.deleteCommunity rfl, fun other found hFound => ?_⟩
    have hFormer := hErased.hosted other found hFound
    refine ⟨hFormer.wellFormed, hFormer.named, fun roleId hRole => ?_⟩
    obtain ⟨row, hRow, hKey⟩ := List.mem_map.mp (hFormer.roles roleId hRole)
    refine List.mem_map.mpr ⟨row, List.mem_filter.mpr ⟨hRow, ?_⟩, hKey⟩
    rw [(Prod.mk.inj hKey).1, bne_iff_ne]
    rintro rfl
    cases (Finmap.lookup_erase other state.hosted).symm.trans hFound

theorem handleEvent_wellFormed {state : ServerState} {event : ServerEvent} (h : state.WellFormed)
    (hGrants : GrantsExistingRoles state event) : (handleEvent state event).WellFormed := by
  cases event with
  | restart =>
    refine ⟨h.faultless, h.tables, fun communityId community hCommunity => ?_⟩
    have hNone : (∅ : Finmap fun _ : String => HostedCommunity).lookup communityId = some community :=
      hCommunity
    rw [Finmap.lookup_empty] at hNone
    cases hNone
  | unhost communityId => exact unhostCommunity_wellFormed h communityId
  | host env communityId name creatorKey creatorDisplayName setup =>
    apply ends_lookupCommunity
    cases hCommunity : state.hosted.lookup communityId with
    | some community => exact h
    | none =>
      have hAbsent : communityId ∉ state.hosted := Finmap.lookup_eq_none.mp hCommunity
      exact hostNewly_wellFormed h env name creatorKey creatorDisplayName setup (hGrants hAbsent)
  | request incoming => exact serve_wellFormed h hGrants

theorem initial_wellFormed {dbFaults : List Bool} (hFaults : true ∉ dbFaults) :
    (ServerState.initial dbFaults).WellFormed := by
  refine ⟨hFaults, ⟨List.nodup_nil, List.nodup_nil, List.nodup_nil, ?_, ?_⟩, ?_⟩
  · intro row hRow
    cases hRow
  · intro row hRow
    cases hRow
  · intro communityId community hCommunity
    rw [ServerState.initial, Finmap.lookup_empty] at hCommunity
    cases hCommunity

/-- Every hosted community is well formed, along every run without database errors whose steps hand
out only roles that exist. -/
theorem communities_wellFormed {dbFaults : List Bool} (hFaults : true ∉ dbFaults)
    {events : List ServerEvent}
    (hRun : Along handleEvent GrantsExistingRoles (ServerState.initial dbFaults) events)
    {communityId : String} {community : HostedCommunity}
    (hHosted : (final handleEvent (ServerState.initial dbFaults) events).hosted.lookup communityId =
      some community) : community.WellFormed := by
  have hFinal := hRun.invariant ServerState.WellFormed
    (fun state event h hGrants => handleEvent_wellFormed h hGrants) (initial_wellFormed hFaults)
  exact (hFinal.hosted communityId community hHosted).wellFormed

/-! ## A member with a role that is gone -/

def roleDeleted (roleId : UInt32) : ServerState :=
  handleEvent hostedByAlice (.request (sampleRequest "alice" (.member (.deleteRole roleId))))

/-- Alice hosts a community and deletes a role, and Bob joins. -/
def joinAfterDeletion (roleId : UInt32) : List ServerEvent :=
  [.host sampleEnvironment "c" "Community" "alice" "Alice" (.ok ()),
   .request (sampleRequest "alice" (.member (.deleteRole roleId))),
   .request (sampleRequest "bob" (.join "bob" "Bob" none))]

theorem join_dangles : ¬∀ state, Reachable state → ∀ communityId community,
    state.hosted.lookup communityId = some community → community.WellFormed := by
  intro hClaim
  have hDangling : inSample (final handleEvent (ServerState.initial []) (joinAfterDeletion 1))
      (fun community => community.members.any fun member => member.roleIds.any fun roleId =>
        roleId ∉ roleIdsOf community.roles) = true := by decide +kernel
  obtain ⟨community, hCommunity⟩ := exists_of_inSample hDangling
  have hWellFormed := hClaim _ ⟨[], joinAfterDeletion 1, rfl⟩ "c" community hCommunity
  have hTest := test_of_inSample hDangling hCommunity
  simp only [List.any_eq_true, decide_eq_true_eq] at hTest
  obtain ⟨member, hMember, roleId, hRole, hGone⟩ := hTest
  exact hGone ((hWellFormed.held member hMember).exist hRole)

/-- Bob does not get the role Moderator, so that it may go. -/
theorem joinAfterDeletion_wellFormed : ∃ community,
    (final handleEvent (ServerState.initial []) (joinAfterDeletion 2)).hosted.lookup "c" =
        some community ∧ community.WellFormed := by
  have hHosted : inSample (final handleEvent (ServerState.initial []) (joinAfterDeletion 2))
      (fun _ => true) = true := by decide +kernel
  have hDefaults : inSample (roleDeleted 2) (fun community =>
      (defaultRoleIds community.members.isEmpty).all fun roleId =>
        roleId ∈ roleIdsOf community.roles) = true := by decide +kernel
  have hJoin : Admissible (roleDeleted 2) "bob" (sampleRequest "bob" (.join "bob" "Bob" none)).routing := by
    refine ⟨fun hRoute => ?_, fun communityId community hTarget hCommunity _ _ roleId hRole => ?_⟩
    · cases hRoute
    · cases hTarget
      have hTest := test_of_inSample hDefaults hCommunity
      rw [List.all_eq_true] at hTest
      exact of_decide_eq_true (hTest roleId hRole)
  obtain ⟨community, hCommunity⟩ := exists_of_inSample hHosted
  refine ⟨community, hCommunity, @communities_wellFormed [] (by decide) _ ?_ _ _ hCommunity⟩
  refine ⟨fun _ => ⟨fun held hHeld => ?_, fun _ _ _ => ?_⟩, fun _ _ hJoin => ?_, fun _ _ _ => hJoin, trivial⟩
  · cases hHeld
  · intro roleId hRole
    have hStored : (defaultRoleIds true).all (· ∈ roleIdsOf defaultRoles) = true := by decide
    rw [List.all_eq_true] at hStored
    exact of_decide_eq_true (hStored roleId hRole)
  · cases hJoin

end Rekindle.Server
