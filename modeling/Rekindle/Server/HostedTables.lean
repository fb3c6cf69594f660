import Rekindle.Server.MirroredRequests

/-! # What hosting writes and reads

On a database that does not fail hosting runs a list of statements. What it then has in memory is what the tables say.
-/
namespace Rekindle.Server
set_option autoImplicit false
open Fallible Mirrors

/-! ## Statements of a computation -/

/-- The computation answers, and has run the statements. -/
def Stores {ε α : Type} (x : EStateM ε ServerState α) (s : ServerState) (answer : α) (statements : List Statement) : Prop :=
  ∃ faults, true ∉ faults ∧ x.run s = .ok answer { s with dbFaults := faults, db := runAll statements s.db }

section
variable {ε α β : Type} {s : ServerState} {first second : List Statement} {answer : α} {result : β}

theorem stores_pure (h : true ∉ s.dbFaults) (answer : α) : Stores (pure answer : EStateM ε ServerState α) s answer [] :=
  ⟨s.dbFaults, h, rfl⟩

theorem Stores.bind {x : EStateM ε ServerState α} {f : α → EStateM ε ServerState β} (hFirst : Stores x s answer first)
    (hRest : ∀ faults, true ∉ faults →
      Stores (f answer) { s with dbFaults := faults, db := runAll first s.db } result second) :
    Stores (x >>= f) s result (first ++ second) := by
  obtain ⟨faults, hFaults, hRun⟩ := hFirst
  obtain ⟨later, hLater, hSecond⟩ := hRest faults hFaults
  refine ⟨later, hLater, ?_⟩
  rw [run_bind_of_ok _ hRun, hSecond, runAll_append]

/-- What only reads leaves the statements to the rest. -/
theorem Stores.read {x : EStateM ε ServerState α} {f : α → EStateM ε ServerState β} (hFirst : Stores x s answer [])
    (hRest : ∀ faults, true ∉ faults → Stores (f answer) { s with dbFaults := faults } result second) :
    Stores (x >>= f) s result second := hFirst.bind hRest

/-- The answer is made from that of another computation. -/
theorem Stores.thenPure {x : EStateM ε ServerState α} (h : Stores x s answer first) (result : β) :
    Stores (x >>= fun _ => pure result) s result first := by
  have hBoth : Stores (x >>= fun _ => pure result) s result (first ++ []) :=
    h.bind fun _ hFaults => stores_pure (by exact hFaults) result
  rwa [List.append_nil] at hBoth

theorem stores_executeIgnoring (h : true ∉ s.dbFaults) (statement : Statement) :
    Stores (executeIgnoring (fun db => statement.run db) : EStateM ε ServerState Unit) s () [statement] :=
  ⟨_, tail_faultless h, executeIgnoring_run_of_faultless h _⟩

theorem stores_query (h : true ∉ s.dbFaults) (read : Database → α) :
    Stores (query read : EStateM ε ServerState (Option α)) s (some (read s.db)) [] :=
  ⟨_, tail_faultless h, query_run_of_faultless h _⟩

theorem stores_load (h : true ∉ s.dbFaults) (read : Database → α) : Stores (load read) s (read s.db) [] :=
  ⟨_, tail_faultless h, load_run_of_faultless h _⟩

theorem stores_forM (values : List α) {f : α → EStateM ε ServerState PUnit} {statement : α → Statement}
    {P : Database → Prop} (hFaults : true ∉ s.dbFaults) (hStart : P s.db)
    (hEach : ∀ value ∈ values, ∀ state : ServerState, true ∉ state.dbFaults → P state.db →
      Stores (f value) state () [statement value] ∧ P (runAll [statement value] state.db)) :
    Stores (values.forM f) s () (values.map statement) := by
  induction values generalizing s with
  | nil => exact stores_pure hFaults ()
  | cons value rest ih =>
    obtain ⟨hFirst, hKept⟩ := hEach value List.mem_cons_self s hFaults hStart
    exact hFirst.bind fun faults hLater => ih hLater hKept fun other hOther => hEach other (List.mem_cons_of_mem _ hOther)

end

/-! ## Hosting -/

section
variable (env : Environment) (communityId : String)

def hostedRow (name : String) : CommunityRow := { id := communityId, name := name, description := "", creatorPseudonym := "" }

def hostedMek (db : Database) : MediaEncryptionKey :=
  (loadLatestMek communityId db).getD { generation := 1, key := env.mekKey }

def mekStatements (db : Database) : List Statement :=
  if loadLatestMek communityId db = none then
    [.insertOrReplaceMek
      { communityId := communityId, generation := 1, keyBytes := env.mekKey, createdAt := env.timestampNow }]
  else []

def roleStatements (db : Database) : List Statement :=
  if loadRolesFromDb communityId db = [] then
    defaultRoles.map fun role => .insertRoleOrIgnore ⟨communityId, role⟩
  else []

/-- The statements before the setup. -/
def hostingStatements (name : String) (db : Database) : List Statement :=
  .insertCommunity (hostedRow communityId name) :: (mekStatements env communityId db ++ roleStatements communityId db)

/-- What is loaded from the tables. -/
def loadedCommunity (name : String) (mek : MediaEncryptionKey) (roles : List RoleDefinition) (db : Database) :
    HostedCommunity :=
  { communityId := communityId, name := name
    description := (communityRow communityId db).elim "" CommunityRow.description, mek := mek
    members := loadMembersFromDb env communityId db, channels := loadChannelsFromDb communityId db, roles := roles
    creatorPseudonymHex := recordedCreator communityId db }

abbrev RegistersCreator (creatorKey : String) (community : HostedCommunity) : Prop :=
  creatorKey ≠ "" ∧ community.creatorPseudonymHex = "" ∧ findMember community.members creatorKey = none

def creatorMember (creatorKey creatorDisplayName : String) : ServerMember :=
  { pseudonymKeyHex := creatorKey, displayName := creatorDisplayName, roleIds := defaultRoleIds true
    joinedAt := env.timestampNow, routeBlob := none, timeoutUntil := none }

def registered (creatorKey creatorDisplayName : String) (community : HostedCommunity) : HostedCommunity :=
  if RegistersCreator creatorKey community then
    { community with
      creatorPseudonymHex := creatorKey
      members := community.members ++ [creatorMember env creatorKey creatorDisplayName] }
  else community

def registerStatements (creatorKey creatorDisplayName : String) (community : HostedCommunity) : List Statement :=
  if RegistersCreator creatorKey community then
    .insertMember ((creatorMember env creatorKey creatorDisplayName).row communityId) ::
      (defaultRoleIds true).map (fun roleId => .insertMemberRole ⟨communityId, creatorKey, roleId⟩) ++
        [.recordCreator communityId creatorKey]
  else []

end

section
variable {env : Environment} {communityId : String} {db : Database} {s : ServerState}

theorem insertCommunity_run (db : Database) (row : CommunityRow) :
    ∃ communities, runAll [.insertCommunity row] db = { db with hostedCommunities := communities } ∧
      db.hostedCommunities ⊆ communities ∧ (∀ other ∈ communities, other.id ≠ row.id → other ∈ db.hostedCommunities) ∧
      Database.hasCommunity row.id { db with hostedCommunities := communities } = true := by
  rw [runAll_cons, Statement.run, Database.insertCommunity]
  split
  · next hThere => exact ⟨db.hostedCommunities, rfl, List.Subset.refl _, fun _ hOther _ => hOther, hThere⟩
  · refine ⟨db.hostedCommunities ++ [row], rfl, List.subset_append_left _ _, fun other hOther hDiffers => ?_, ?_⟩
    · exact (List.mem_append.mp hOther).resolve_right fun hNew => hDiffers (by rw [List.mem_singleton.mp hNew])
    · exact List.any_eq_true.mpr ⟨row, List.mem_append_right _ List.mem_cons_self, beq_self_eq_true _⟩

theorem loadOrCreateMek_stores (h : true ∉ s.dbFaults) :
    Stores (loadOrCreateMek env communityId) s (hostedMek env communityId s.db) (mekStatements env communityId s.db) := by
  unfold loadOrCreateMek hostedMek mekStatements
  refine (stores_query h (loadLatestMek communityId)).read fun faults hFaults => ?_
  cases loadLatestMek communityId s.db with
  | some mek => exact stores_pure hFaults mek
  | none =>
    have hCreated := @stores_executeIgnoring HostError { s with dbFaults := faults } hFaults (.insertOrReplaceMek
      { communityId := communityId, generation := 1, keyBytes := env.mekKey, createdAt := env.timestampNow })
    exact hCreated.thenPure _

/-- The default roles find the row of their community. -/
theorem insertDefaultRole_stores {role : RoleDefinition} (h : true ∉ s.dbFaults)
    (hCommunity : s.db.hasCommunity communityId = true) :
    Stores (insertDefaultRole communityId role) s () [.insertRoleOrIgnore ⟨communityId, role⟩] ∧
      (runAll [.insertRoleOrIgnore ⟨communityId, role⟩] s.db).hasCommunity communityId = true := by
  have hTaken : ∃ db', s.db.insertRoleOrIgnore ⟨communityId, role⟩ = some db' ∧
      db'.hasCommunity communityId = true := by
    unfold Database.insertRoleOrIgnore
    split
    · exact ⟨_, rfl, hCommunity⟩
    · exact ⟨_, rfl, hCommunity⟩
  obtain ⟨db', hRun, hThere⟩ := hTaken
  have hAll : runAll [.insertRoleOrIgnore ⟨communityId, role⟩] s.db = db' := by
    rw [runAll_cons, Statement.run, hRun]
    rfl
  refine ⟨⟨_, tail_faultless h, ?_⟩, by rwa [hAll]⟩
  unfold insertDefaultRole
  rw [run_bind_of_ok _ (execute_run_of_faultless h _), hRun, hAll]
  rfl

theorem loadOrCreateRoles_stores (h : true ∉ s.dbFaults) (hCommunity : s.db.hasCommunity communityId = true) :
    Stores (loadOrCreateRoles communityId) s (hostedRoles communityId s.db) (roleStatements communityId s.db) := by
  unfold loadOrCreateRoles hostedRoles roleStatements
  refine (stores_load h (loadRolesFromDb communityId)).read fun faults hFaults => ?_
  split
  · have hInserted : Stores (defaultRoles.forM (insertDefaultRole communityId)) { s with dbFaults := faults } ()
        (defaultRoles.map fun role => .insertRoleOrIgnore ⟨communityId, role⟩) :=
      @stores_forM _ _ _ defaultRoles _ _ (fun db => db.hasCommunity communityId = true) hFaults hCommunity
        fun role _ state hState hThere => insertDefaultRole_stores hState hThere
    exact hInserted.thenPure defaultRoles
  · exact stores_pure (by exact hFaults) _

/-- Inserting roles touches no other table. -/
theorem insertRoles_run (roles : List RoleDefinition) (db : Database) :
    ∃ rows, runAll (roles.map fun role => .insertRoleOrIgnore ⟨communityId, role⟩) db = { db with serverRoles := rows } := by
  induction roles generalizing db with
  | nil => exact ⟨db.serverRoles, rfl⟩
  | cons role rest ih =>
    have hFirst : ∃ rows, runAll [.insertRoleOrIgnore ⟨communityId, role⟩] db = { db with serverRoles := rows } := by
      rw [runAll_cons, Statement.run, Database.insertRoleOrIgnore]
      split_ifs <;> exact ⟨_, rfl⟩
    obtain ⟨first, hFirst⟩ := hFirst
    obtain ⟨rows, hRest⟩ := ih (runAll [.insertRoleOrIgnore ⟨communityId, role⟩] db)
    refine ⟨rows, hRest.trans ?_⟩
    rw [hFirst]

theorem roleStatements_run (before db : Database) :
    ∃ rows, runAll (roleStatements communityId before) db = { db with serverRoles := rows } := by
  unfold roleStatements
  split
  · exact insertRoles_run defaultRoles db
  · exact ⟨db.serverRoles, rfl⟩

theorem mekStatements_run (before db : Database) :
    ∃ rows, runAll (mekStatements env communityId before) db = { db with serverMek := rows } := by
  unfold mekStatements
  split
  · rw [runAll_cons, Statement.run, Database.insertOrReplaceMek]
    split <;> exact ⟨_, rfl⟩
  · exact ⟨db.serverMek, rfl⟩

theorem insertMemberRows_stores {ε : Type} (h : true ∉ s.dbFaults) (pseudonym displayName : String) (roleIds : List UInt32) :
    Stores (insertMemberRows env communityId pseudonym displayName roleIds : EStateM ε ServerState Unit) s ()
      (.insertMember
          { communityId := communityId, pseudonymKeyHex := pseudonym, displayName := displayName
            joinedAt := env.timestampNow, routeBlob := none } ::
        roleIds.map fun roleId => .insertMemberRole ⟨communityId, pseudonym, roleId⟩) := by
  refine (stores_executeIgnoring h (.insertMember _)).bind fun faults hFaults => ?_
  exact @stores_forM _ _ _ roleIds _ _ (fun _ => True) hFaults trivial fun roleId _ state hState _ =>
    ⟨stores_executeIgnoring hState (.insertMemberRole ⟨communityId, pseudonym, roleId⟩), trivial⟩

theorem registerCreator_stores (h : true ∉ s.dbFaults) (creatorKey creatorDisplayName : String)
    (community : HostedCommunity) :
    Stores (registerCreator env communityId creatorKey creatorDisplayName community) s
      (registered env creatorKey creatorDisplayName community)
      (registerStatements env communityId creatorKey creatorDisplayName community) := by
  unfold registerCreator registered registerStatements
  split
  · refine (insertMemberRows_stores h creatorKey creatorDisplayName (defaultRoleIds true)).bind fun faults hFaults => ?_
    exact (stores_executeIgnoring (by exact hFaults) (.recordCreator communityId creatorKey)).thenPure _
  · exact stores_pure h community

/-! ### The whole of it -/

/-- The tables when everything is loaded. -/
def hostedTables (env : Environment) (communityId name : String) (db : Database) : Database :=
  runAll (hostingStatements env communityId name db) db

/-- What is loaded when a community is hosted. -/
def hostedCommunity (env : Environment) (communityId name : String) (db : Database) : HostedCommunity :=
  loadedCommunity env communityId name (hostedMek env communityId db) (hostedRoles communityId db)
    (hostedTables env communityId name db)

/-- Hosting ends with the error of the setup, or the community is in memory. -/
theorem hostNewly_state (h : true ∉ s.dbFaults) (name creatorKey creatorDisplayName : String)
    (setup : Except HostError Unit) :
    ∃ faults, true ∉ faults ∧
      (setup ≠ .ok () ∧ Result.state ((hostNewly env communityId name creatorKey creatorDisplayName setup).run s) =
          { s with dbFaults := faults, db := hostedTables env communityId name s.db } ∨
        Result.state ((hostNewly env communityId name creatorKey creatorDisplayName setup).run s) =
          { s with
            dbFaults := faults
            db := runAll (registerStatements env communityId creatorKey creatorDisplayName
              (hostedCommunity env communityId name s.db)) (hostedTables env communityId name s.db)
            hosted := s.hosted.insert communityId
              (registered env creatorKey creatorDisplayName (hostedCommunity env communityId name s.db)) }) := by
  obtain ⟨communities, hCommunities, -, -, hCommunity⟩ := insertCommunity_run s.db (hostedRow communityId name)
  obtain ⟨meks, hMeks⟩ := @mekStatements_run env communityId s.db { s.db with hostedCommunities := communities }
  obtain ⟨roles, hRoles⟩ := @roleStatements_run communityId s.db
    { s.db with hostedCommunities := communities, serverMek := meks }
  have hTables : hostedTables env communityId name s.db =
      { s.db with hostedCommunities := communities, serverMek := meks, serverRoles := roles } := by
    unfold hostedTables hostingStatements
    rw [← List.singleton_append, runAll_append, hCommunities, runAll_append, hMeks, hRoles]
  set listed : ServerState := { s with db := { s.db with hostedCommunities := communities } }
  set keyed : ServerState := { s with db := { s.db with hostedCommunities := communities, serverMek := meks } }
  set filled : ServerState :=
    { s with db := { s.db with hostedCommunities := communities, serverMek := meks, serverRoles := roles } }
  obtain ⟨begun, hBegun, hInsert⟩ : ∃ faults, true ∉ faults ∧ (executeIgnoring (fun db => db.insertCommunity
      { id := communityId, name := name, description := "", creatorPseudonym := "" }) : HostM Unit).run s =
        .ok () { listed with dbFaults := faults } := by
    rw [← show runAll [.insertCommunity (hostedRow communityId name)] s.db = listed.db from hCommunities]
    exact stores_executeIgnoring h (.insertCommunity (hostedRow communityId name))
  obtain ⟨made, hMade, hMek⟩ : ∃ faults, true ∉ faults ∧ (loadOrCreateMek env communityId).run
      { listed with dbFaults := begun } = .ok (hostedMek env communityId s.db) { keyed with dbFaults := faults } := by
    rw [← show runAll (mekStatements env communityId s.db) listed.db = keyed.db from hMeks]
    exact @loadOrCreateMek_stores env communityId { listed with dbFaults := begun } hBegun
  obtain ⟨read, hRead, hChannels⟩ : ∃ faults, true ∉ faults ∧ (load (loadChannelsFromDb communityId)).run
      { keyed with dbFaults := made } = .ok (loadChannelsFromDb communityId s.db) { keyed with dbFaults := faults } :=
    @stores_load _ { keyed with dbFaults := made } hMade _
  obtain ⟨created, hCreated, hRolesRun⟩ : ∃ faults, true ∉ faults ∧ (loadOrCreateRoles communityId).run
      { keyed with dbFaults := read } = .ok (hostedRoles communityId s.db) { filled with dbFaults := faults } := by
    rw [← show runAll (roleStatements communityId s.db) keyed.db = filled.db from hRoles]
    exact @loadOrCreateRoles_stores communityId { keyed with dbFaults := read } hRead hCommunity
  obtain ⟨known, hKnown, hMembers⟩ : ∃ faults, true ∉ faults ∧ (load (loadMembersFromDb env communityId)).run
      { filled with dbFaults := created } =
        .ok (loadMembersFromDb env communityId s.db) { filled with dbFaults := faults } :=
    @stores_load _ { filled with dbFaults := created } hCreated _
  unfold hostNewly
  rw [run_bind_of_ok _ hInsert, run_bind_of_ok _ hMek, run_bind_of_ok _ hChannels, run_bind_of_ok _ hRolesRun,
    run_bind_of_ok _ hMembers, hTables]
  cases setup with
  | error e => exact ⟨known, hKnown, .inl ⟨nofun, rfl⟩⟩
  | ok =>
    obtain ⟨described, hDescribed, hDescription⟩ : ∃ faults, true ∉ faults ∧ (query (communityRow communityId) : HostM _).run
        { filled with dbFaults := known } =
          .ok (some (communityRow communityId filled.db)) { filled with dbFaults := faults } :=
      @stores_query _ _ { filled with dbFaults := known } hKnown _
    obtain ⟨named, hNamed, hCreator⟩ : ∃ faults, true ∉ faults ∧ (query (communityRow communityId) : HostM _).run
        { filled with dbFaults := described } =
          .ok (some (communityRow communityId filled.db)) { filled with dbFaults := faults } :=
      @stores_query _ _ { filled with dbFaults := described } hDescribed _
    set loaded := loadedCommunity env communityId name (hostedMek env communityId s.db) (hostedRoles communityId s.db)
      filled.db
    have hHosted : hostedCommunity env communityId name s.db = loaded := by
      rw [hostedCommunity, hTables]
    obtain ⟨faults, hFaults, hRegistered⟩ := @registerCreator_stores env communityId { filled with dbFaults := named }
      hNamed creatorKey creatorDisplayName loaded
    refine ⟨faults, hFaults, .inr ?_⟩
    have hSetup : (ofExcept (.ok ()) : HostM Unit).run { filled with dbFaults := known } =
      .ok () { filled with dbFaults := known } := rfl
    rw [run_bind_of_ok _ hSetup, run_bind_of_ok _ hDescription, run_bind_of_ok _ hCreator, hHosted]
    change Result.state ((registerCreator env communityId creatorKey creatorDisplayName loaded >>=
      setCommunity communityId).run { filled with dbFaults := named }) = _
    rw [run_bind_of_ok _ hRegistered]
    rfl

end

/-! ## Memory as it is loaded -/

/-- The tables can be loaded: keys have their length and a generation below the limit, and a community with roles has
@everyone among those that are read back. -/
structure Database.Loadable (limit : Nat) (db : Database) : Prop where
  valid : db.Valid
  keys : ∀ row ∈ db.serverMek, row.keyBytes.length = 32 ∧ row.generation ≤ limit
  everyone : ∀ communityId, (∀ row ∈ db.serverRoles, row.communityId ≠ communityId) ∨
    ∃ row ∈ db.serverRoles, row.communityId = communityId ∧ row.role.id = roleEveryoneId ∧
      readsAsU64 row.role.permissions = true

section
variable {env : Environment} {communityId name : String} {db : Database} {limit : Nat}

/-! ### The key -/

theorem latestMekRow_spec {row : MekRow} (h : latestMekRow communityId db = some row) :
    row ∈ db.serverMek ∧ row.communityId = communityId ∧
      ∀ other ∈ db.serverMek, other.communityId = communityId → other.generation ≤ row.generation := by
  unfold latestMekRow at h
  have hSorted := (db.serverMek.filter fun row => row.communityId == communityId).pairwise_insertionSort
    fun a b => a.generation ≥ b.generation
  have hPerm := (db.serverMek.filter fun row => row.communityId == communityId).perm_insertionSort
    fun a b => a.generation ≥ b.generation
  obtain ⟨rest, hRest⟩ := List.head?_eq_some_iff.mp h
  rw [hRest] at hSorted hPerm
  have hMine {other : MekRow} (hOther : other ∈ db.serverMek) (hOwn : other.communityId = communityId) :
      other ∈ row :: rest := hPerm.symm.subset (List.mem_filter.mpr ⟨hOther, beq_iff_eq.mpr hOwn⟩)
  obtain ⟨hRow, hOwn⟩ := List.mem_filter.mp (hPerm.subset List.mem_cons_self)
  refine ⟨hRow, beq_iff_eq.mp hOwn, fun other hOther hSame => ?_⟩
  rcases List.mem_cons.mp (hMine hOther hSame) with rfl | hLater
  · exact Nat.le_refl _
  · exact (List.pairwise_cons.mp hSorted).1 other hLater

theorem latestMekRow_eq_none (h : latestMekRow communityId db = none) :
    ∀ row ∈ db.serverMek, row.communityId ≠ communityId := by
  intro row hRow hOwn
  have hPerm := (db.serverMek.filter fun row => row.communityId == communityId).perm_insertionSort
    fun a b => a.generation ≥ b.generation
  rw [List.head?_eq_none_iff.mp h] at hPerm
  cases hPerm.symm.subset (List.mem_filter.mpr ⟨hRow, beq_iff_eq.mpr hOwn⟩)

theorem hostedMek_mirrored (h : db.Loadable limit) (hLimit : limit ≤ i64Max) {stored : Database}
    (hMeks : stored.serverMek = db.serverMek) (hCommunity : stored.hasCommunity communityId = true) :
    KeyMirrored communityId (hostedMek env communityId db) (runAll (mekStatements env communityId db) stored).serverMek := by
  unfold hostedMek mekStatements loadLatestMek
  cases hLatest : latestMekRow communityId db with
  | some row =>
    obtain ⟨hRow, hOwn, hMost⟩ := latestMekRow_spec hLatest
    obtain ⟨hLength, hGeneration⟩ := h.keys row hRow
    have hFits : (UInt64.ofNat row.generation).toNat = row.generation := by
      refine Nat.mod_eq_of_lt (Nat.lt_of_le_of_lt (hGeneration.trans hLimit) ?_)
      decide
    rw [Option.bind_some, if_pos hLength, if_neg (Option.some_ne_none _)]
    change KeyMirrored communityId _ stored.serverMek
    rw [hMeks]
    refine ⟨⟨row, hRow, hOwn, hFits.symm, rfl⟩, fun other hOther hSame => ?_⟩
    exact (hMost other hOther hSame).trans (Nat.le_of_eq hFits.symm)
  | none =>
    have hNone := latestMekRow_eq_none hLatest
    rw [Option.bind_none, if_pos rfl, runAll_cons, Statement.run, Database.insertOrReplaceMek, if_pos hCommunity]
    refine ⟨⟨_, List.mem_append_right _ List.mem_cons_self, rfl, rfl, rfl⟩, fun other hOther hSame => ?_⟩
    rcases List.mem_append.mp hOther with hOld | hNew
    · refine absurd hSame (hNone other ?_)
      rw [← hMeks]
      exact (List.mem_filter.mp hOld).1
    · rw [List.mem_singleton.mp hNew]
      exact Nat.le_refl _

/-! ### Roles -/

theorem insertNewRoles_run {roles : List RoleDefinition} (hCommunity : db.hasCommunity communityId = true)
    (hIds : (roles.map RoleDefinition.id).Nodup)
    (hNew : ∀ row ∈ db.serverRoles, row.communityId = communityId → row.role.id ∉ roles.map RoleDefinition.id) :
    runAll (roles.map fun role => .insertRoleOrIgnore ⟨communityId, role⟩) db =
      { db with serverRoles := db.serverRoles ++ roles.map (RoleRow.mk communityId) } := by
  induction roles generalizing db with
  | nil => rw [List.map_nil, List.map_nil, List.append_nil]; rfl
  | cons role rest ih =>
    obtain ⟨hFirst, hRest⟩ := List.nodup_cons.mp hIds
    have hFree : ¬(db.serverRoles.any fun other => other.communityId == communityId && other.role.id == role.id) = true := by
      rw [List.any_eq_true]
      rintro ⟨row, hRow, hSame⟩
      rw [Bool.and_eq_true, beq_iff_eq, beq_iff_eq] at hSame
      exact hNew row hRow hSame.1 (hSame.2 ▸ List.mem_cons_self)
    rw [List.map_cons, runAll_cons, Statement.run, Database.insertRoleOrIgnore, if_neg hFree, if_pos hCommunity,
      Option.getD_some, @ih { db with serverRoles := db.serverRoles ++ [⟨communityId, role⟩] } hCommunity hRest]
    · rw [List.map_cons, List.append_assoc, List.singleton_append]
    · intro row hRow hOwn
      rcases List.mem_append.mp hRow with hOld | hLast
      · exact fun hIn => hNew row hOld hOwn (List.mem_cons_of_mem _ hIn)
      · rw [List.mem_singleton.mp hLast]
        exact hFirst

theorem mem_loadRolesFromDb {role : RoleDefinition} :
    role ∈ loadRolesFromDb communityId db ↔
      ⟨communityId, role⟩ ∈ db.serverRoles ∧ readsAsU64 role.permissions = true := by
  unfold loadRolesFromDb
  rw [List.mem_insertionSort, List.mem_map]
  constructor
  · rintro ⟨⟨owner, role⟩, hRow, rfl⟩
    obtain ⟨hThere, hTest⟩ := List.mem_filter.mp hRow
    rw [Bool.and_eq_true, beq_iff_eq] at hTest
    obtain ⟨hOwn, hReads⟩ := hTest
    rw [← show owner = communityId from hOwn]
    exact ⟨hThere, hReads⟩
  · rintro ⟨hRow, hReads⟩
    refine ⟨_, List.mem_filter.mpr ⟨hRow, ?_⟩, rfl⟩
    rw [beq_self_eq_true, hReads]
    rfl

/-- The roles that are loaded or created. -/
structure RolesHosted (communityId : String) (roles : List RoleDefinition) (rows : List RoleRow) : Prop where
  distinct : (roles.map RoleDefinition.id).Nodup
  mirrored : RolesMirrored communityId roles rows
  everyone : EveryoneReadable roles

theorem hostedRoles_mirrored (h : db.Loadable limit) {stored : Database} (hRoles : stored.serverRoles = db.serverRoles)
    (hCommunity : stored.hasCommunity communityId = true) :
    RolesHosted communityId (hostedRoles communityId db) (runAll (roleStatements communityId db) stored).serverRoles := by
  unfold hostedRoles roleStatements
  split
  · next hNone =>
    -- no role can be read, so that there is none
    have hAbsent : ∀ row ∈ stored.serverRoles, row.communityId ≠ communityId := by
      rw [hRoles]
      refine (h.everyone communityId).resolve_right ?_
      rintro ⟨⟨owner, role⟩, hRow, hOwn, -, hReads⟩
      cases hOwn
      have hLoaded : role ∈ loadRolesFromDb owner db := mem_loadRolesFromDb.mpr ⟨hRow, hReads⟩
      rw [hNone] at hLoaded
      cases hLoaded
    have hDistinct : (defaultRoles.map RoleDefinition.id).Nodup := by decide
    rw [insertNewRoles_run hCommunity hDistinct fun row hRow hOwn => absurd hOwn (hAbsent row hRow)]
    refine ⟨hDistinct, ⟨fun role hRole => List.mem_append_right _ (List.mem_map_of_mem hRole), ?_⟩,
      ⟨_, List.mem_cons_self, rfl, by decide⟩⟩
    intro row hRow hOwn _
    exact (List.mem_append.mp hRow).elim (fun hOld => absurd hOwn (hAbsent row hOld)) List.mem_map.mp
  · next hSome =>
    change RolesHosted communityId _ stored.serverRoles
    rw [hRoles]
    refine ⟨?_, ⟨fun role hRole => (mem_loadRolesFromDb.mp hRole).1, ?_⟩, ?_⟩
    · unfold loadRolesFromDb
      rw [((List.perm_insertionSort _ _).map _).nodup_iff, List.map_map]
      refine nodup_of_keys communityId RoleRow.key (nodup_keys_filter h.valid.roles _) fun row hRow => ?_
      have hTest := (List.mem_filter.mp hRow).2
      rw [Bool.and_eq_true, beq_iff_eq] at hTest
      exact Prod.ext hTest.1 rfl
    · rintro ⟨owner, role⟩ hRow rfl hReads
      exact ⟨role, mem_loadRolesFromDb.mpr ⟨hRow, hReads⟩, rfl⟩
    · rcases h.everyone communityId with hAbsent | ⟨⟨owner, role⟩, hRow, rfl, hZero, hReads⟩
      · obtain ⟨role, hRole⟩ := List.exists_mem_of_ne_nil _ hSome
        exact absurd rfl (hAbsent _ (mem_loadRolesFromDb.mp hRole).1)
      · exact ⟨role, mem_loadRolesFromDb.mpr ⟨hRow, hReads⟩, hZero, hReads⟩

/-! ### Members and channels -/

theorem loadedMembers_mirrored (env : Environment) (communityId : String) (db : Database) :
    MembersMirrored communityId (loadMembersFromDb env communityId db) db.serverMembers := by
  refine .of_read (fun row => ?_) fun row _ hOwn => ?_
  · rw [beq_iff_eq, and_true]
  · rw [ServerMember.row, ← hOwn]

theorem loadedRoleIds_mirrored (env : Environment) (row : MemberRow) (communityId : String) (db : Database) :
    Mirror (MemberRoleRow.mk communityId row.pseudonymKeyHex)
      (fun held => held.member = (communityId, row.pseudonymKeyHex)) (fun _ => True)
      (loadMemberRoles communityId db row.pseudonymKeyHex) db.serverMemberRoles := by
  refine .of_read (fun held => ?_) fun held _ hOwn => ?_
  · rw [Bool.and_eq_true, beq_iff_eq, beq_iff_eq, and_true]
    exact Prod.mk.injEq .. ▸ Iff.rfl
  · obtain ⟨hCommunity, hMember⟩ := Prod.mk.inj hOwn
    rw [← hCommunity, ← hMember]

theorem loadedTimeout_mirrored (h : (db.serverMemberTimeouts.map TimeoutRow.key).Nodup) (pseudonym : String) :
    Mirror (fun deadline => (communityId, pseudonym, deadline))
      (fun entry => entry.1 = communityId ∧ entry.2.1 = pseudonym) (fun entry => Lasting env.now entry.2.2)
      (loadTimeout env communityId db pseudonym).toList (db.serverMemberTimeouts.map TimeoutRow.entry) := by
  obtain ⟨test, hLoad, hTest⟩ : ∃ test : TimeoutRow → Bool,
      loadTimeout env communityId db pseudonym = (db.serverMemberTimeouts.find? test).map TimeoutRow.timeoutUntil ∧
        ∀ row, test row = true ↔
          (row.communityId = communityId ∧ row.pseudonymKeyHex = pseudonym) ∧ Lasting env.now row.timeoutUntil := by
    refine ⟨_, rfl, fun row => ?_⟩
    simp only [Bool.and_eq_true, beq_iff_eq, decide_eq_true_eq, Lasting, and_assoc, gt_iff_lt]
  rw [hLoad]
  constructor
  · intro deadline hDeadline
    obtain ⟨row, hRow, rfl⟩ := Option.map_eq_some_iff.mp (Option.mem_toList.mp hDeadline)
    obtain ⟨⟨hCommunity, hMember⟩, -⟩ := (hTest row).mp (List.find?_some hRow)
    refine List.mem_map.mpr ⟨row, List.mem_of_find?_eq_some hRow, ?_⟩
    rw [TimeoutRow.entry, hCommunity, hMember]
  · intro entry hEntry hOwn hLasting
    obtain ⟨row, hRow, rfl⟩ := List.mem_map.mp hEntry
    obtain ⟨found, hFound⟩ :=
      Option.isSome_iff_exists.mp (List.find?_isSome.mpr ⟨row, hRow, (hTest row).mpr ⟨hOwn, hLasting⟩⟩)
    obtain ⟨⟨hCommunity, hMember⟩, -⟩ := (hTest found).mp (List.find?_some hFound)
    have hSame : found = row := List.inj_on_of_nodup_map h (List.mem_of_find?_eq_some hFound) hRow
      (Prod.ext (hCommunity.trans hOwn.1.symm) (hMember.trans hOwn.2.symm))
    refine ⟨found.timeoutUntil, Option.mem_toList.mpr (congrArg (Option.map TimeoutRow.timeoutUntil) hFound), ?_⟩
    rw [hSame]
    exact Prod.ext hOwn.1.symm (Prod.ext hOwn.2.symm rfl)

theorem loadedChannels_mirrored (communityId : String) (db : Database) :
    ChannelsMirrored communityId (loadChannelsFromDb communityId db) db.serverChannels := by
  refine .of_read (fun row => ?_) fun row _ hOwn => ?_
  · rw [beq_iff_eq, and_true]
  · rw [ServerChannel.row, ← hOwn]

theorem loadedOverwrites_mirrored (h : db.Valid) (channelId : String) :
    Mirror (PermissionOverwrite.row communityId channelId) (fun row => row.channel = (communityId, channelId))
      OverwriteRow.Readable (loadOverwrites communityId db channelId) db.serverChannelOverwrites := by
  refine .of_read (fun row => ?_) fun row hRow hOwn => ?_
  · simp only [Bool.and_eq_true, beq_iff_eq, and_assoc]
    refine and_assoc.symm.trans (and_congr_left' ?_)
    exact Prod.mk.injEq .. ▸ Iff.rfl
  · obtain ⟨hCommunity, hChannel⟩ := Prod.mk.inj hOwn
    rw [PermissionOverwrite.row, name_overwriteType (h.typed row hRow), ← hCommunity, ← hChannel]

theorem loaded_distinct (h : db.Valid) {mek : MediaEncryptionKey} {roles : List RoleDefinition}
    (hRoles : (roles.map RoleDefinition.id).Nodup) :
    (loadedCommunity env communityId name mek roles db).Distinct := by
  refine ⟨?_, fun member hMember => ?_, hRoles, ?_, fun channel hChannel => ?_⟩
  · dsimp only [loadedCommunity]
    rw [loadMembersFromDb, List.map_map]
    refine nodup_of_keys communityId MemberRow.key (nodup_keys_filter h.members _) fun row hRow => ?_
    exact Prod.ext (beq_iff_eq.mp (List.mem_filter.mp hRow).2) rfl
  · obtain ⟨row, -, rfl⟩ := List.mem_map.mp hMember
    refine (h.held.filter _).map_on fun first hFirst second hSecond hSame => ?_
    have hOne := (List.mem_filter.mp hFirst).2
    have hTwo := (List.mem_filter.mp hSecond).2
    rw [Bool.and_eq_true, beq_iff_eq, beq_iff_eq] at hOne hTwo
    obtain ⟨_, _, _⟩ := first
    obtain ⟨_, _, _⟩ := second
    simp_all
  · dsimp only [loadedCommunity]
    rw [loadChannelsFromDb, List.map_map]
    refine nodup_of_keys communityId ChannelRow.key (nodup_keys_filter h.channels _) fun row hRow => ?_
    exact Prod.ext (beq_iff_eq.mp (List.mem_filter.mp hRow).2) rfl
  · obtain ⟨row, -, rfl⟩ := List.mem_map.mp hChannel
    dsimp only [loadOverwrites]
    rw [List.map_map]
    refine ((h.overwrites.of_map _).filter _).map_on fun first hFirst second hSecond hSame => ?_
    obtain ⟨hFirst, hOne⟩ := List.mem_filter.mp hFirst
    obtain ⟨hSecond, hTwo⟩ := List.mem_filter.mp hSecond
    simp only [Bool.and_eq_true, beq_iff_eq] at hOne hTwo
    obtain ⟨hType, hTarget⟩ := Prod.mk.inj hSame
    have hTypes : first.targetType = second.targetType := by
      rw [← name_overwriteType (h.typed first hFirst), ← name_overwriteType (h.typed second hSecond)]
      exact congrArg OverwriteType.name hType
    refine List.inj_on_of_nodup_map h.overwrites hFirst hSecond ?_
    rw [OverwriteRow.key, OverwriteRow.key, hOne.1.1.1, hOne.1.1.2, hTwo.1.1.1, hTwo.1.1.2, hTypes]
    exact congrArg _ (congrArg _ (congrArg _ hTarget))

/-! ### All of it -/

theorem hostedTables_spec (h : db.Loadable limit) (hLimit : limit ≤ i64Max) :
    ∃ communities meks roles,
      hostedTables env communityId name db =
          { db with hostedCommunities := communities, serverMek := meks, serverRoles := roles } ∧
        (hostedTables env communityId name db).hasCommunity communityId = true ∧
        KeyMirrored communityId (hostedMek env communityId db) meks ∧
        RolesHosted communityId (hostedRoles communityId db) roles := by
  obtain ⟨communities, hCommunities, -, -, hCommunity⟩ := insertCommunity_run db (hostedRow communityId name)
  obtain ⟨meks, hMeks⟩ := @mekStatements_run env communityId db { db with hostedCommunities := communities }
  obtain ⟨roles, hRoles⟩ := @roleStatements_run communityId db
    { db with hostedCommunities := communities, serverMek := meks }
  have hTables : hostedTables env communityId name db =
      { db with hostedCommunities := communities, serverMek := meks, serverRoles := roles } := by
    unfold hostedTables hostingStatements
    rw [← List.singleton_append, runAll_append, hCommunities, runAll_append, hMeks, hRoles]
  refine ⟨communities, meks, roles, hTables, ?_, ?_, ?_⟩
  · rw [hTables]
    exact hCommunity
  · have hKey := @hostedMek_mirrored env communityId db limit h hLimit { db with hostedCommunities := communities } rfl
      hCommunity
    rwa [hMeks] at hKey
  · have hHosted := @hostedRoles_mirrored communityId db limit h
      { db with hostedCommunities := communities, serverMek := meks } rfl hCommunity
    rwa [hRoles] at hHosted

theorem hostedCommunity_mirrored (h : db.Loadable limit) (hLimit : limit ≤ i64Max) :
    Mirrored env.now communityId (hostedTables env communityId name db) (hostedCommunity env communityId name db) := by
  obtain ⟨communities, meks, roles, hTables, hCommunity, hKey, hRoles⟩ :=
    @hostedTables_spec env communityId name db limit h hLimit
  have hValid : (hostedTables env communityId name db).Valid := h.valid.runAll _
  obtain ⟨row, hRow⟩ : ∃ row, communityRow communityId (hostedTables env communityId name db) = some row :=
    Option.isSome_iff_exists.mp (List.find?_isSome.mpr (List.any_eq_true.mp hCommunity))
  unfold hostedCommunity
  exact {
    named := rfl
    distinct := loaded_distinct hValid hRoles.distinct
    described := by
      have hOwn : (row.id == communityId) = true :=
        @List.find?_some _ (fun row : CommunityRow => row.id == communityId) _ _ hRow
      refine ⟨row, List.mem_of_find?_eq_some hRow, beq_iff_eq.mp hOwn, ?_, ?_⟩
      · rw [loadedCommunity, hRow]
        rfl
      · rw [loadedCommunity, recordedCreator, hRow]
        rfl
    members := loadedMembers_mirrored env communityId _
    held := fun member hMember => by
      obtain ⟨row, -, rfl⟩ := List.mem_map.mp hMember
      exact loadedRoleIds_mirrored env row communityId _
    timeouts := fun member hMember => by
      obtain ⟨row, -, rfl⟩ := List.mem_map.mp hMember
      exact loadedTimeout_mirrored hValid.timeouts row.pseudonymKeyHex
    roles := by
      rw [hTables]
      exact hRoles.mirrored
    everyone := hRoles.everyone
    channels := loadedChannels_mirrored communityId _
    overwrites := fun channel hChannel => by
      obtain ⟨row, -, rfl⟩ := List.mem_map.mp hChannel
      exact loadedOverwrites_mirrored hValid row.id
    key := by
      rw [hTables]
      exact hKey }

end

end Rekindle.Server
