import Rekindle.Server.HostedTables

/-! # The tables keep up with the memory

Along every run on a database that does not fail what is hosted is in the tables.
-/
namespace Rekindle.Server
set_option autoImplicit false
open Fallible Mirrors Runs

/-! ## Runs -/

/-- Every hosted community is in the tables, and all tables can be loaded. -/
structure ServerState.Persisted (now : String → UInt64) (limit : Nat) (s : ServerState) : Prop where
  faultless : true ∉ s.dbFaults
  tables : s.db.Loadable limit
  hosted : ∀ id community, s.hosted.lookup id = some community → Mirrored (now id) id s.db community

/-- The keys have their length, no clock is later than that of the next start, and requests can be stored. -/
def ServerEvent.Storable (now : String → UInt64) : ServerEvent → Prop
  | .host env communityId _ _ _ _ => env.mekKey.length = 32 ∧ env.now ≤ now communityId
  | .request incoming => incoming.env.mekKey.length = 32 ∧ incoming.Storable
  | _ => True

/-- A key that the statement stores has its length, and a generation below the limit. -/
def Statement.KeySized (limit : Nat) : Statement → Prop
  | .insertMek row | .insertOrReplaceMek row => row.keyBytes.length = 32 ∧ row.generation ≤ limit
  | _ => True

section
variable {now : UInt64} {communityId : String} {db db' : Database} {community : HostedCommunity} {limit : Nat}

theorem Mirrored.later (h : Mirrored now communityId db community) {later : UInt64} (hLater : now ≤ later) :
    Mirrored later communityId db community :=
  { h with
    timeouts := fun member hMember => (h.timeouts member hMember).mono fun _ hLasting =>
      ⟨hLasting.1, UInt64.lt_of_le_of_lt hLater hLasting.2⟩ }

theorem Statement.keys_run {statement : Statement} (hKeys : ∀ row ∈ db.serverMek, row.keyBytes.length = 32 ∧ row.generation ≤ limit)
    (hSized : statement.KeySized limit) (hRun : statement.run db = some db') :
    ∀ row ∈ db'.serverMek, row.keyBytes.length = 32 ∧ row.generation ≤ limit := by
  cases statement with
  | deleteCommunity id =>
    cases hRun
    exact fun row hRow => hKeys row (List.mem_filter.mp hRow).1
  | insertMek row =>
    simp only [Statement.run, Database.insertMek] at hRun
    split_ifs at hRun
    cases hRun
    intro other hOther
    rcases List.mem_append.mp hOther with hOld | hNew
    · exact hKeys other hOld
    · rw [List.mem_singleton.mp hNew]
      exact hSized
  | insertOrReplaceMek row =>
    simp only [Statement.run, Database.insertOrReplaceMek] at hRun
    split_ifs at hRun
    cases hRun
    intro other hOther
    rcases List.mem_append.mp hOther with hOld | hNew
    · exact hKeys other (List.mem_filter.mp hOld).1
    · rw [List.mem_singleton.mp hNew]
      exact hSized
  | insertCommunity | insertMember | insertMemberRole | insertOrReplaceBan | insertRole | insertRoleOrIgnore
  | insertChannel | insertOrReplaceOverwrite | insertOrReplaceTimeout =>
    simp only [Statement.run, Database.insertCommunity, Database.insertMember, Database.insertMemberRole,
      Database.insertOrReplaceBan, Database.insertRole, Database.insertRoleOrIgnore, Database.insertChannel,
      Database.insertOrReplaceOverwrite, Database.insertOrReplaceTimeout] at hRun
    split_ifs at hRun <;> cases hRun <;> exact hKeys
  | _ =>
    cases hRun
    exact hKeys

theorem rowsKept_runAll {statements : List Statement} (hLeaves : ∀ statement ∈ statements, statement.LeavesRows communityId)
    (db : Database) : RowsKept communityId db (runAll statements db) :=
  runAll_keeps (.refl communityId db) fun statement hStatement _ _ hKept hRun =>
    hKept.trans (statement.rowsKept (hLeaves statement hStatement) hRun)

/-- @everyone of a hosted community is in the table. -/
theorem Mirrored.storedEveryone (h : Mirrored now communityId db community) :
    ∃ row ∈ db.serverRoles, row.communityId = communityId ∧ row.role.id = roleEveryoneId ∧
      readsAsU64 row.role.permissions = true := by
  obtain ⟨role, hRole, hZero, hReads⟩ := h.everyone
  exact ⟨_, h.roles.stored role hRole, rfl, hZero, hReads⟩

/-- Statements about one community keep the tables as they are for others. -/
theorem Database.Loadable.runAll {statements : List Statement} (h : db.Loadable limit) {next : Nat} (hNext : limit ≤ next)
    (hOwn : ∀ statement ∈ statements, statement.communityId = communityId ∧ statement.KeySized next)
    (hEveryone : (∀ row ∈ (Server.runAll statements db).serverRoles, row.communityId ≠ communityId) ∨
      ∃ row ∈ (Server.runAll statements db).serverRoles, row.communityId = communityId ∧ row.role.id = roleEveryoneId ∧
        readsAsU64 row.role.permissions = true) : (Server.runAll statements db).Loadable next where
  valid := h.valid.runAll statements
  keys := runAll_keeps (fun row hRow => (h.keys row hRow).imp_right (Nat.le_trans · hNext))
    fun statement hStatement _ _ hKeys hRun => statement.keys_run hKeys (hOwn statement hStatement).2 hRun
  everyone other := by
    by_cases hOther : other = communityId
    · rw [hOther]
      exact hEveryone
    · have hRows := rowsKept_runAll (fun statement hStatement => .inl ((hOwn statement hStatement).1.trans_ne
        (Ne.symm hOther))) db
      refine (h.everyone other).imp (fun hNone row hRow hSame => ?_) ?_
      · exact hNone row ((hRows.roles row hSame).mp hRow) hSame
      · rintro ⟨row, hRow, hSame, hReads⟩
        exact ⟨row, (hRows.roles row hSame).mpr hRow, hSame, hReads⟩

end

/-! ### Requests -/

section
variable {now : String → UInt64} {communityId : String} {community : HostedCommunity} {limit : Nat} {s : ServerState}
  {incoming : IncomingRequest}

theorem mekStatement_sized {env : Environment} (hKey : env.mekKey.length = 32)
    (hGeneration : community.mek.generation.toNat ≤ limit) :
    (mekStatement env communityId (community.mek.generation + 1)).KeySized (limit + 1) := by
  refine ⟨hKey, (Nat.min_le_left _ _).trans ?_⟩
  rw [UInt64.toNat_add]
  exact (Nat.mod_le _ _).trans (Nat.succ_le_succ hGeneration)

/-- The statements of a request are about its community, and its keys are the next ones. -/
theorem effect_statements (hId : community.communityId = communityId) (hKey : incoming.env.mekKey.length = 32)
    (hGeneration : community.mek.generation.toNat ≤ limit) :
    ∀ statement ∈ (incoming.effect communityId community).statements,
      statement.communityId = communityId ∧ statement.KeySized (limit + 1) := by
  obtain ⟨env, sender, routing, request⟩ := incoming
  have hMek := @mekStatement_sized communityId community limit env hKey hGeneration
  intro statement hStatement
  cases request with
  | join pseudonym displayName routeBlob =>
    simp only [IncomingRequest.effect, joinEffect] at hStatement
    split at hStatement
    · simp only [joinStatements, List.mem_append, List.mem_cons, List.mem_map, Option.mem_toList,
        Option.map_eq_some_iff] at hStatement
      grind [Statement.communityId, Statement.KeySized]
    · cases hStatement
    · rw [List.mem_singleton.mp hStatement]
      exact ⟨rfl, trivial⟩
  | member request =>
    cases request with
    | assignRole assigned roleId =>
      simp only [IncomingRequest.effect, MemberRequest.effect] at hStatement
      split at hStatement
      · cases hStatement
      · rw [List.mem_singleton.mp hStatement]
        exact ⟨hId, trivial⟩
    | getMessages | requestMek | getBanList | getRoles => cases hStatement
    | _ =>
      simp only [IncomingRequest.effect, MemberRequest.effect, departure, List.mem_cons,
        List.not_mem_nil, or_false, List.mem_append, Option.mem_toList, Option.map_eq_some_iff] at hStatement
      grind [Statement.communityId, Statement.KeySized, mekStatement]

theorem ServerState.Persisted.generation_le (h : s.Persisted now limit)
    (hHosted : s.hosted.lookup communityId = some community) : community.mek.generation.toNat ≤ limit := by
  obtain ⟨row, hRow, -, hGeneration, -⟩ := (h.hosted communityId community hHosted).key.stored
  rw [← hGeneration]
  exact (h.tables.keys row hRow).2

/-- One community changes together with its tables, the others stay. -/
theorem ServerState.Persisted.change (h : s.Persisted now limit) {next : Nat} (hNext : limit ≤ next) {t : ServerState}
    {statements : List Statement} {changed : HostedCommunity} (hFaults : true ∉ t.dbFaults)
    (hTables : t.db = runAll statements s.db)
    (hOwn : ∀ statement ∈ statements, statement.communityId = communityId ∧ statement.KeySized next)
    (hHosted : ∀ other, t.hosted.lookup other = (s.hosted.insert communityId changed).lookup other)
    (hChanged : Mirrored (now communityId) communityId t.db changed) : t.Persisted now next where
  faultless := hFaults
  tables := by
    rw [hTables] at hChanged ⊢
    exact h.tables.runAll hNext hOwn (.inr hChanged.storedEveryone)
  hosted other found hFound := by
    rw [hHosted] at hFound
    by_cases hOther : other = communityId
    · rw [hOther, Finmap.lookup_insert] at hFound
      rw [hOther, ← Option.some.inj hFound]
      exact hChanged
    · rw [Finmap.lookup_insert_of_ne _ hOther] at hFound
      rw [hTables]
      exact (h.hosted other found hFound).of_rowsKept (rowsKept_runAll (fun statement hStatement =>
        .inl ((hOwn statement hStatement).1.trans_ne (Ne.symm hOther))) s.db)

theorem Statement.Stray.leaves {Departs : String → String → Prop} {statement : Statement} (h : statement.Stray s Departs)
    (hHosted : s.hosted.lookup communityId = some community) : statement.LeavesRows communityId := by
  have hOther {other : String} (hAbsent : s.hosted.lookup other = none) : other ≠ communityId := by
    rintro rfl
    cases hAbsent.symm.trans hHosted
  cases statement with
  | deleteMember => exact .inl (hOther h.1)
  | insertMember | insertMemberRole => exact .inl (hOther h)
  | insertOrReplaceBan => exact .inr trivial
  | _ => exact h.elim

/-- What strays leaves keys and roles alone. -/
theorem Statement.Stray.spares {Departs : String → String → Prop} {statement : Statement} (h : statement.Stray s Departs)
    {db db' : Database} (hRun : statement.run db = some db') :
    db'.serverMek = db.serverMek ∧ db'.serverRoles = db.serverRoles := by
  cases statement with
  | deleteMember =>
    cases hRun
    exact ⟨rfl, rfl⟩
  | insertMember | insertMemberRole | insertOrReplaceBan =>
    simp only [Statement.run, Database.insertMember, Database.insertMemberRole, Database.insertOrReplaceBan] at hRun
    split_ifs at hRun <;> cases hRun <;> exact ⟨rfl, rfl⟩
  | _ => exact h.elim

theorem ServerState.Persisted.beside (h : s.Persisted now limit) {Departs : String → String → Prop} {t : ServerState}
    (hBeside : Beside (Statement.Stray s Departs) s t) : t.Persisted now limit := by
  have hSpared : t.db.serverMek = s.db.serverMek ∧ t.db.serverRoles = s.db.serverRoles := by
    have hTables := hBeside.edited.tables
    generalize t.db = db at hTables
    induction hTables with
    | refl => exact ⟨rfl, rfl⟩
    | tail _ hStep ih =>
      obtain ⟨statement, hStray, hRun⟩ := hStep
      obtain ⟨hMek, hRoles⟩ := hStray.spares hRun
      exact ⟨hMek.trans ih.1, hRoles.trans ih.2⟩
  refine ⟨fun hFault => h.faultless (hBeside.edited.faults.subset hFault),
    ⟨hBeside.edited.valid h.tables.valid, hSpared.1 ▸ h.tables.keys, hSpared.2 ▸ h.tables.everyone⟩,
    fun id community hHosted => ?_⟩
  rw [hBeside.hosted] at hHosted
  exact (h.hosted id community hHosted).of_rowsKept (hBeside.edited.rowsKept fun _ hStray => hStray.leaves hHosted)

theorem ServerState.Persisted.mono (h : s.Persisted now limit) {next : Nat} (hNext : limit ≤ next) :
    s.Persisted now next :=
  { h with tables := { h.tables with keys := fun row hRow => (h.tables.keys row hRow).imp_right (Nat.le_trans · hNext) } }

theorem serve_persisted (h : s.Persisted now limit) (hRoom : limit < i64Max) (hKey : incoming.env.mekKey.length = 32)
    (hStorable : incoming.Storable) : (serve s incoming).Persisted now (limit + 1) := by
  rcases serve_effect_or_stray s incoming with ⟨id, community, hTarget, hPasses, hPerformed⟩ | hBeside
  · have hGeneration := h.generation_le hPerformed.found
    have hMirrored := h.hosted id community hPerformed.found
    refine h.change (Nat.le_succ limit) (fun hFault => h.faultless (hPerformed.ran.edited.faults.subset hFault))
      (hPerformed.ran.exact h.faultless) (effect_statements hMirrored.named hKey hGeneration) hPerformed.hosted ?_
    rw [hPerformed.ran.exact h.faultless]
    exact effect_mirrored hMirrored h.tables.valid (Nat.lt_of_le_of_lt hGeneration hRoom) hPerformed.found hTarget
      hPasses hStorable
  · exact (h.beside hBeside).mono (Nat.le_succ limit)

end

/-! ### Hosting -/

section
variable {env : Environment} {now : String → UInt64} {communityId name creatorKey creatorDisplayName : String}
  {community : HostedCommunity} {limit : Nat} {s : ServerState}

theorem hosting_statements (hKey : env.mekKey.length = 32) (hOne : 1 ≤ limit) :
    ∀ statement ∈ hostingStatements env communityId name s.db,
      statement.communityId = communityId ∧ statement.KeySized limit := by
  intro statement hStatement
  rcases List.mem_cons.mp hStatement with rfl | hRest
  · exact ⟨rfl, trivial⟩
  · rcases List.mem_append.mp hRest with hMek | hRole
    · unfold mekStatements at hMek
      split at hMek
      · rw [List.mem_singleton.mp hMek]
        exact ⟨rfl, hKey, hOne⟩
      · cases hMek
    · unfold roleStatements at hRole
      split at hRole
      · obtain ⟨role, -, rfl⟩ := List.mem_map.mp hRole
        exact ⟨rfl, trivial⟩
      · cases hRole

theorem register_statements :
    ∀ statement ∈ registerStatements env communityId creatorKey creatorDisplayName community,
      statement.communityId = communityId ∧ statement.KeySized limit := by
  intro statement hStatement
  unfold registerStatements at hStatement
  split at hStatement
  · simp only [List.mem_append, List.mem_cons, List.mem_map, List.not_mem_nil, or_false] at hStatement
    rcases hStatement with (rfl | ⟨roleId, -, rfl⟩) | rfl <;> exact ⟨rfl, trivial⟩
  · cases hStatement

theorem Mirrored.registered {now : UInt64} {db : Database} (h : Mirrored now communityId db community) (hValid : db.Valid) :
    Mirrored now communityId
      (runAll (registerStatements env communityId creatorKey creatorDisplayName community) db)
      (registered env creatorKey creatorDisplayName community) := by
  unfold registerStatements Server.registered
  split
  · next hRegisters =>
    rw [runAll_append]
    have hAdded := @Mirrored.addMemberWithRoles _ _ _ _ h hValid (creatorMember env creatorKey creatorDisplayName)
      hRegisters.2.2 (nodup_defaultRoleIds true) rfl
    exact hAdded.recordCreator creatorKey
  · exact h

/-- What is loaded is in the tables, whether or not it gets into memory. -/
theorem ServerState.Persisted.prepare (h : s.Persisted now limit) (hOne : 1 ≤ limit) (hRoom : limit ≤ i64Max)
    (hKey : env.mekKey.length = 32) (hAbsent : s.hosted.lookup communityId = none) {faults : List Bool}
    (hFaults : true ∉ faults) :
    { s with dbFaults := faults, db := hostedTables env communityId name s.db }.Persisted now limit := by
  have hOwn := @hosting_statements env communityId name limit s hKey hOne
  have hLoaded := @hostedCommunity_mirrored env communityId name s.db limit h.tables hRoom
  refine ⟨hFaults, h.tables.runAll (Nat.le_refl limit) hOwn (.inr hLoaded.storedEveryone), fun other found hFound => ?_⟩
  refine (h.hosted other found hFound).of_rowsKept (rowsKept_runAll (fun statement hStatement => .inl ?_) s.db)
  rw [(hOwn statement hStatement).1]
  rintro rfl
  cases hAbsent.symm.trans hFound

theorem host_persisted (h : s.Persisted now limit) (hOne : 1 ≤ limit) (hRoom : limit ≤ i64Max)
    (hKey : env.mekKey.length = 32) (hNow : env.now ≤ now communityId) (setup : Except HostError Unit) :
    (handleEvent s (.host env communityId name creatorKey creatorDisplayName setup)).Persisted now limit := by
  change (Result.state ((hostCommunity env communityId name creatorKey creatorDisplayName setup).run s)).Persisted now _
  cases hAbsent : s.hosted.lookup communityId with
  | some community =>
    rw [hostCommunity_of_hosted env name creatorKey creatorDisplayName setup hAbsent]
    exact h
  | none =>
    rw [hostCommunity_of_absent env name creatorKey creatorDisplayName setup hAbsent]
    obtain ⟨faults, hFaults, ⟨-, hState⟩ | hState⟩ :=
      @hostNewly_state env communityId s h.faultless name creatorKey creatorDisplayName setup
    · rw [hState]
      exact h.prepare hOne hRoom hKey hAbsent hFaults
    · rw [hState]
      have hPrepared : { s with dbFaults := faults, db := hostedTables env communityId name s.db }.Persisted now limit :=
        h.prepare hOne hRoom hKey hAbsent hFaults
      refine hPrepared.change (Nat.le_refl _) hFaults rfl register_statements (fun _ => rfl) ?_
      have hLoaded := @hostedCommunity_mirrored env communityId name s.db limit h.tables hRoom
      exact (hLoaded.later hNow).registered hPrepared.tables.valid

/-! ### All events -/

theorem unhost_persisted (h : s.Persisted now limit) (communityId : String) :
    (handleEvent s (.unhost communityId)).Persisted now limit := by
  change (Result.state ((unhostCommunity communityId).run s)).Persisted now limit
  cases hHosted : s.hosted.lookup communityId with
  | none =>
    rw [unhostCommunity_of_absent hHosted]
    exact h
  | some community =>
    have hFaultless : true ∉ ({ s with hosted := s.hosted.erase communityId } : ServerState).dbFaults := h.faultless
    have hRun := @executeIgnoring_run_of_faultless HostError _ hFaultless (Database.deleteCommunity communityId)
    rw [unhostCommunity_of_hosted hHosted, hRun]
    have hOwn : ∀ statement ∈ [Statement.deleteCommunity communityId],
        statement.communityId = communityId ∧ statement.KeySized limit := by
      intro statement hStatement
      rw [List.mem_singleton.mp hStatement]
      exact ⟨rfl, trivial⟩
    refine ⟨tail_faultless h.faultless, ?_, fun other found hFound => ?_⟩
    · refine h.tables.runAll (Nat.le_refl limit) hOwn (.inl fun row hRow hSame => ?_)
      exact bne_iff_ne.mp (List.mem_filter.mp hRow).2 hSame
    · have hOther : other ≠ communityId := by
        rintro rfl
        cases (Finmap.lookup_erase other s.hosted).symm.trans hFound
      have hFormer := h.hosted other found ((Finmap.lookup_erase_ne hOther).symm.trans hFound)
      exact hFormer.of_rowsKept (rowsKept_runAll (fun statement hStatement =>
        .inl ((hOwn statement hStatement).1.trans_ne (Ne.symm hOther))) s.db)

theorem handleEvent_persisted (h : s.Persisted now limit) (hRoom : limit < i64Max) {event : ServerEvent}
    (hStorable : event.Storable now) : (handleEvent s event).Persisted now (limit + 1) := by
  cases event with
  | restart =>
    refine ⟨h.faultless, (h.mono (Nat.le_succ limit)).tables, fun id community hHosted => ?_⟩
    cases (Finmap.lookup_empty id).symm.trans hHosted
  | unhost communityId => exact (unhost_persisted h communityId).mono (Nat.le_succ limit)
  | host env communityId =>
    exact host_persisted (h.mono (Nat.le_succ limit)) (Nat.le_add_left 1 limit) hRoom hStorable.1 hStorable.2 _
  | request incoming => exact serve_persisted h hRoom hStorable.1 hStorable.2

theorem final_persisted {events : List ServerEvent} (hStorable : ∀ event ∈ events, event.Storable now)
    (h : s.Persisted now limit) (hRoom : limit + events.length ≤ i64Max) :
    (final handleEvent s events).Persisted now (limit + events.length) := by
  induction events generalizing s limit with
  | nil => exact h
  | cons event rest ih =>
    have hLength : limit + (event :: rest).length = limit + 1 + rest.length := by
      rw [List.length_cons]
      omega
    rw [hLength] at hRoom ⊢
    refine ih (fun other hOther => hStorable other (List.mem_cons_of_mem _ hOther)) ?_ hRoom
    exact handleEvent_persisted h (by omega) (hStorable event List.mem_cons_self)

theorem initial_persisted {dbFaults : List Bool} (hFaults : true ∉ dbFaults) (now : String → UInt64) :
    (ServerState.initial dbFaults).Persisted now 0 := by
  refine ⟨hFaults, ⟨emptyDatabase_valid, fun row hRow => (nomatch hRow), fun _ => .inl fun row hRow => (nomatch hRow)⟩,
    fun id community hHosted => ?_⟩
  cases (Finmap.lookup_empty id).symm.trans hHosted

end

end Rekindle.Server
