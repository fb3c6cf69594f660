import Rekindle.Server.Calculation
import Rekindle.Server.Effects
import Rekindle.Server.Escalation
import Rekindle.Server.HostOverlaps
import Rekindle.Server.KeyHistory
import Rekindle.Server.RepresentationRuns

/-! # Timeouts

The deadline of a timeout stands in memory and in a table that is read when the community is hosted again.
-/
namespace Rekindle.Server
set_option autoImplicit false
open Fallible

/-! ## Sending in a channel -/

section
variable {env : Environment} {target channelId : String} {community : HostedCommunity} {member : ServerMember}

/-- The member may send in the channel but for a timeout, and is no administrator there. -/
structure Silenceable (env : Environment) (target : String) (community : HostedCommunity) (member : ServerMember)
    (channelId : String) : Prop where
  sends : hasPermission (channelPermissions env target community (setTimeout none member) channelId) sendMessages = true
  ordinary : isAdministrator (channelPermissions env target community (setTimeout none member) channelId) = false

/-- From the time `start` on, the target cannot send exactly as long as the deadline has not come. -/
def SilentUntil (deadline : Nat) (start : UInt64) (target : String) (community : HostedCommunity) : Prop :=
  ∀ env member channelId, start ≤ env.now → findMember community.members target = some member →
    Silenceable env target community member channelId →
    (checkMaySend env target community channelId ≠ .ok () ↔ env.now.toNat < deadline)

theorem timedOut_none (now : UInt64) : timedOut now none = false := rfl

theorem timedOut_some {now deadline : UInt64} : timedOut now (some deadline) = true ↔ now.toNat < deadline.toNat := by
  simp [timedOut, UInt64.lt_iff_toNat_lt]

/-- A timeout silences who is no administrator in the channel. -/
theorem silenced (hOrdinary : isAdministrator (channelPermissions env target community (setTimeout none member) channelId) =
      false) (hTimedOut : timedOut env.now member.timeoutUntil = true) :
    hasPermission (channelPermissions env target community member channelId) sendMessages = false := by
  have hBase : isAdministrator (basePermissions member.roleIds community.roles) = false := by
    cases hBase : isAdministrator (basePermissions member.roleIds community.roles) with
    | false => rfl
    | true =>
      simp only [channelPermissions, calculatePermissions_eq, setTimeout, hBase, if_true] at hOrdinary
      cases hOrdinary
  apply hasPermission_of_timedOut hBase hTimedOut
  · rw [← Bool.and_eq_true, Bool.not_eq_true, ← getLsbD_administrator hBase, ← Bool.not_eq_true, ← isAdministrator_iff]
    exact Bool.eq_false_iff.mp hOrdinary
  · decide

theorem Silenceable.hasPermission (h : Silenceable env target community member channelId) :
    Server.hasPermission (channelPermissions env target community member channelId) sendMessages =
      !timedOut env.now member.timeoutUntil := by
  cases hTimedOut : timedOut env.now member.timeoutUntil with
  | false =>
    have hSame : channelPermissions env target community member channelId =
        channelPermissions env target community (setTimeout none member) channelId := by
      simp only [channelPermissions, calculatePermissions_eq, setTimeout, silence, hTimedOut, timedOut_none]
      rfl
    rw [hSame, h.sends]
    rfl
  | true => exact silenced h.ordinary hTimedOut

theorem checkMaySend_eq_ok_iff (hMember : findMember community.members target = some member) :
    checkMaySend env target community channelId = .ok () ↔
      Server.hasPermission (channelPermissions env target community member channelId) sendMessages = true := by
  rw [checkMaySend, hMember]
  change refuseIf _ _ = _ ↔ _
  rw [refuseIf_eq_ok_iff, Bool.not_eq_false]

theorem silentUntil_of_timedOut {deadline : Nat} {start : UInt64}
    (h : ∀ member, findMember community.members target = some member → ∀ now, start ≤ now →
      (timedOut now member.timeoutUntil = true ↔ now.toNat < deadline)) :
    SilentUntil deadline start target community := by
  intro env member channelId hStart hMember hSilenceable
  rw [Ne, checkMaySend_eq_ok_iff hMember, hSilenceable.hasPermission, Bool.not_eq_true', Bool.not_eq_false,
    h member hMember env.now hStart]

end

/-! ## What hosting reads -/

/-- The hosted communities and the rows of members and timeouts are as before. -/
structure TimeoutsKept (before after : ServerState) : Prop where
  hosted : after.hosted = before.hosted
  members : after.db.serverMembers = before.db.serverMembers
  timeouts : after.db.serverMemberTimeouts = before.db.serverMemberTimeouts

instance : Std.Refl TimeoutsKept := ⟨fun _ => ⟨rfl, rfl, rfl⟩⟩

instance : IsTrans ServerState TimeoutsKept :=
  ⟨fun _ _ _ hFirst hSecond => ⟨hSecond.hosted.trans hFirst.hosted, hSecond.members.trans hFirst.members,
    hSecond.timeouts.trans hFirst.timeouts⟩⟩

section
variable {ε α : Type} {env : Environment} {communityId : String}

/-- The statement touches neither members nor timeouts. -/
def LeavesTimeouts (statement : Database → Option Database) : Prop :=
  ∀ db db', statement db = some db' →
    db'.serverMembers = db.serverMembers ∧ db'.serverMemberTimeouts = db.serverMemberTimeouts

theorem timeoutsKept_execute {statement : Database → Option Database} (h : LeavesTimeouts statement) :
    Keeps TimeoutsKept (execute statement : EStateM ε ServerState Bool) := by
  intro s
  obtain ⟨stored, db, hRun, hDb⟩ := execute_run (ε := ε) statement s
  rw [hRun]
  rcases hDb with rfl | hStatement
  · exact ⟨rfl, rfl, rfl⟩
  · exact ⟨rfl, (h _ _ hStatement).1, (h _ _ hStatement).2⟩

theorem timeoutsKept_executeIgnoring {statement : Database → Option Database} (h : LeavesTimeouts statement) :
    Keeps TimeoutsKept (executeIgnoring statement : EStateM ε ServerState Unit) :=
  (timeoutsKept_execute h).bind fun _ => keeps_pure _

theorem timeoutsKept_query (read : Database → α) :
    Keeps TimeoutsKept (query read : EStateM ε ServerState (Option α)) := fun _ => ⟨rfl, rfl, rfl⟩

theorem timeoutsKept_load (read : Database → α) : Keeps TimeoutsKept (load read) :=
  (timeoutsKept_query read).bind fun _ => keeps_ofExcept _

theorem leavesTimeouts_insertCommunity (row : CommunityRow) : LeavesTimeouts (·.insertCommunity row) := by
  intro db db' h
  grind [Database.insertCommunity]

theorem leavesTimeouts_insertOrReplaceMek (row : MekRow) : LeavesTimeouts (·.insertOrReplaceMek row) := by
  intro db db' h
  grind [Database.insertOrReplaceMek]

theorem leavesTimeouts_insertRoleOrIgnore (row : RoleRow) : LeavesTimeouts (·.insertRoleOrIgnore row) := by
  intro db db' h
  grind [Database.insertRoleOrIgnore]

theorem timeoutsKept_loadOrCreateMek : Keeps TimeoutsKept (loadOrCreateMek env communityId) := by
  refine (timeoutsKept_query _).bind fun row => ?_
  cases row.join with
  | some mek => exact keeps_pure _
  | none => exact (timeoutsKept_executeIgnoring (leavesTimeouts_insertOrReplaceMek _)).bind fun _ => keeps_pure _

theorem timeoutsKept_loadOrCreateRoles : Keeps TimeoutsKept (loadOrCreateRoles communityId) := by
  refine (timeoutsKept_load _).bind fun roles => ?_
  split
  · refine (keeps_list_forM _ fun role => ?_).bind fun _ => keeps_pure _
    exact (timeoutsKept_execute (leavesTimeouts_insertRoleOrIgnore _)).bind fun _ => keeps_ofExcept _
  · exact keeps_pure _

/-! ### After a restart -/

theorem loadTimeout_congr {before after : Database} (h : after.serverMemberTimeouts = before.serverMemberTimeouts)
    (pseudonym : String) : loadTimeout env communityId after pseudonym = loadTimeout env communityId before pseudonym := by
  rw [loadTimeout, loadTimeout, h]

/-- Every member of the table is hosted with the timeout that the table gives it. -/
def Reloads (env : Environment) (communityId : String) (db : Database) (after : ServerState) : Prop :=
  ∀ community, after.hosted.lookup communityId = some community → ∀ pseudonym member,
    db.hasMember communityId pseudonym = true → findMember community.members pseudonym = some member →
      member.timeoutUntil = loadTimeout env communityId db pseudonym

/-- The community that is hosted has its id, and every member of the table with the timeout that the table gives it. -/
def Restores (env : Environment) (communityId : String) (db : Database) (after : ServerState) : Prop :=
  ∀ community, after.hosted.lookup communityId = some community → community.communityId = communityId ∧
    ∀ pseudonym, db.hasMember communityId pseudonym = true → ∃ member,
      findMember community.members pseudonym = some member ∧ member.timeoutUntil = loadTimeout env communityId db pseudonym

theorem Restores.congr {s t after : ServerState} (h : Restores env communityId t.db after) (hKept : TimeoutsKept s t) :
    Restores env communityId s.db after := by
  intro community hCommunity
  obtain ⟨hId, hMembers⟩ := h community hCommunity
  refine ⟨hId, fun pseudonym hStored => ?_⟩
  rw [← loadTimeout_congr hKept.timeouts]
  apply hMembers pseudonym
  rw [Database.hasMember, hKept.members]
  exact hStored

theorem Restores.reloads {db : Database} {after : ServerState} (h : Restores env communityId db after) :
    Reloads env communityId db after := by
  intro community hCommunity pseudonym member hStored hMember
  obtain ⟨found, hFound, hTimeout⟩ := (h community hCommunity).2 pseudonym hStored
  cases hMember.symm.trans hFound
  exact hTimeout

theorem timeoutUntil_of_loaded {db : Database} {pseudonym : String} {member : ServerMember}
    (h : findMember (loadMembersFromDb env communityId db) pseudonym = some member) :
    member.timeoutUntil = loadTimeout env communityId db pseudonym := by
  obtain ⟨row, -, rfl⟩ := List.mem_map.mp (List.mem_of_find?_eq_some h)
  rw [← Keyed.key_of_find h]

/-- The creator is at most added to the members that are loaded. -/
theorem registerCreator_members {creatorKey creatorDisplayName : String} {community : HostedCommunity}
    {s : ServerState} : Returns (fun registered _ => registered.communityId = community.communityId ∧
        ∃ joined, registered.members = community.members ++ joined)
      (registerCreator env communityId creatorKey creatorDisplayName community) s := by
  rw [registerCreator]
  split
  · intro registered t hRun
    obtain ⟨_, _, -, hRun⟩ := run_bind_eq_ok_iff.mp hRun
    obtain ⟨_, _, -, hRun⟩ := run_bind_eq_ok_iff.mp hRun
    cases hRun
    exact ⟨rfl, _, rfl⟩
  · exact returns_pure ⟨rfl, [], (List.append_nil _).symm⟩

theorem restores_of_members {db : Database} {after : ServerState} {community : HostedCommunity}
    (hCommunity : after.hosted.lookup communityId = some community) (hId : community.communityId = communityId)
    {joined : List ServerMember} (hMembers : community.members = loadMembersFromDb env communityId db ++ joined) :
    Restores env communityId db after := by
  intro found hFound
  cases hCommunity.symm.trans hFound
  refine ⟨hId, fun pseudonym hStored => ?_⟩
  cases hLoaded : findMember (loadMembersFromDb env communityId db) pseudonym with
  | none =>
    rw [hasMember_of_findMember_eq_none hLoaded] at hStored
    cases hStored
  | some loaded =>
    refine ⟨loaded, ?_, timeoutUntil_of_loaded hLoaded⟩
    rw [findMember, hMembers, Keyed.find_append]
    change (findMember (loadMembersFromDb env communityId db) pseudonym).or _ = _
    rw [hLoaded, Option.some_or]

theorem load_returns {s : ServerState} (read : Database → α) :
    Returns (fun value _ => value = read s.db) (load read) s := by
  intro value t hRun
  obtain ⟨found, u, hQuery, hFound⟩ := run_bind_eq_ok_iff.mp hRun
  cases hQuery
  split at hFound
  · cases hFound
  · cases hFound
    rfl

theorem hostNewly_restores {s : ServerState} (hAbsent : s.hosted.lookup communityId = none)
    (name creatorKey creatorDisplayName : String) (setup : Except HostError Unit) :
    Ends (Restores env communityId s.db) (hostNewly env communityId name creatorKey creatorDisplayName setup) s := by
  have hError (t : ServerState) (h : SameHosted s t) : Restores env communityId s.db t := by
    intro community hCommunity
    rw [h, hAbsent] at hCommunity
    cases hCommunity
  have hKept (t : ServerState) (h : TimeoutsKept s t) : Restores env communityId s.db t := hError t h.hosted
  refine Ends.bind_of_keeps (timeoutsKept_executeIgnoring (leavesTimeouts_insertCommunity _)) hKept fun _ t hT => ?_
  refine Ends.bind_of_keeps timeoutsKept_loadOrCreateMek (fun u hU => hKept u (trans_of _ hT hU)) fun mek u hU => ?_
  replace hT := trans_of TimeoutsKept hT hU
  refine Ends.bind_of_keeps (timeoutsKept_load _) (fun u hU => hKept u (trans_of _ hT hU)) fun channels u hU => ?_
  replace hT := trans_of TimeoutsKept hT hU
  refine Ends.bind_of_keeps timeoutsKept_loadOrCreateRoles (fun u hU => hKept u (trans_of _ hT hU)) fun roles u hU => ?_
  replace hT := trans_of TimeoutsKept hT hU
  refine Ends.bind_of_returns (timeoutsKept_load _) (load_returns _)
    (fun v hV => hKept v (trans_of _ hT hV)) fun members v hV hMembers => ?_
  have hRead := hT
  replace hT := trans_of TimeoutsKept hT hV
  refine Ends.bind_ofExcept (hKept v hT) fun _ _ => ?_
  refine Ends.bind_of_keeps (timeoutsKept_query _) (fun u hU => hKept u (trans_of _ hT hU)) fun description w hW => ?_
  replace hT := trans_of TimeoutsKept hT hW
  refine Ends.bind_of_keeps (timeoutsKept_query _) (fun u hU => hKept u (trans_of _ hT hU)) fun creator x hX => ?_
  replace hT := trans_of TimeoutsKept hT hX
  refine Ends.bind_of_returns (sameHosted_registerCreator _ _ _ _ _) registerCreator_members
    (fun u hU => hError u (hU.trans hT.hosted)) fun community y hY hRegistered => ?_
  obtain ⟨hId, joined, hJoined⟩ := hRegistered
  rw [hMembers] at hJoined
  exact (restores_of_members (Finmap.lookup_insert _) hId hJoined).congr hRead

theorem hostNewly_reloads {s : ServerState} (hAbsent : s.hosted.lookup communityId = none)
    (name creatorKey creatorDisplayName : String) (setup : Except HostError Unit) :
    Ends (Reloads env communityId s.db) (hostNewly env communityId name creatorKey creatorDisplayName setup) s :=
  (hostNewly_restores hAbsent name creatorKey creatorDisplayName setup).reloads

end

/-! ## The request -/

/-- The statement of the request runs, and its member is in the table of members. -/
def storesTimeout (s : ServerState) (community : HostedCommunity) (target : String) : Bool :=
  !s.dbFaults.headD false && s.db.hasMember community.communityId target

section
variable {env : Environment} {communityId sender target : String} {durationSeconds : UInt64} {reason : Option String}
  {s after : ServerState} {community : HostedCommunity}

def timeoutRow (env : Environment) (community : HostedCommunity) (target : String) (durationSeconds : UInt64)
    (reason : Option String) : TimeoutRow :=
  { communityId := community.communityId, pseudonymKeyHex := target, timeoutUntil := env.now + durationSeconds, reason }

/-- What an accepted request leaves. -/
structure TimeoutSet (env : Environment) (communityId target : String) (durationSeconds : UInt64)
    (reason : Option String) (s : ServerState) (community : HostedCommunity) (after : ServerState) : Prop where
  member : ∃ member, findMember community.members target = some member
  hosted : after.hosted.lookup communityId = some { community with
    members := updateMember community.members target (setTimeout (some (env.now + durationSeconds))) }
  db : after.db = (if s.dbFaults.headD false then none
    else s.db.insertOrReplaceTimeout (timeoutRow env community target durationSeconds reason)).getD s.db

theorem handleTimeoutMember_sets (hCommunity : s.hosted.lookup communityId = some community) :
    Returns (fun _ after => TimeoutSet env communityId target durationSeconds reason s community after)
      (handleTimeoutMember env communityId sender target durationSeconds reason) s := by
  refine returns_openCommunity fun found hFound => .bind_ofExcept fun _ _ => .bind_ofExcept fun _ hKnown => ?_
  cases hCommunity.symm.trans hFound
  intro answer after hRun
  cases hRun
  refine ⟨Option.ne_none_iff_exists'.mp (refuseIf_eq_ok_iff.mp hKnown), Finmap.lookup_insert _, rfl⟩

theorem TimeoutSet.hasMember (h : TimeoutSet env communityId target durationSeconds reason s community after)
    (id pseudonym : String) : after.db.hasMember id pseudonym = s.db.hasMember id pseudonym := by
  rw [h.db]
  split
  · rfl
  · rw [Database.insertOrReplaceTimeout]
    split <;> rfl

theorem TimeoutSet.timeouts (h : TimeoutSet env communityId target durationSeconds reason s community after)
    (hStored : storesTimeout s community target = true) :
    ∃ earlier, after.db.serverMemberTimeouts =
        earlier ++ [timeoutRow env community target durationSeconds reason] ∧
      ∀ row ∈ earlier, ¬(row.communityId = community.communityId ∧ row.pseudonymKeyHex = target) := by
  rw [storesTimeout, Bool.and_eq_true, Bool.not_eq_true'] at hStored
  have hRow : s.db.hasMember (timeoutRow env community target durationSeconds reason).communityId
      (timeoutRow env community target durationSeconds reason).pseudonymKeyHex = true := hStored.2
  rw [h.db, hStored.1, if_neg Bool.false_ne_true, Database.insertOrReplaceTimeout, if_pos hRow]
  refine ⟨_, rfl, fun row hEarlier => ?_⟩
  have hOther := (List.mem_filter.mp hEarlier).2
  rw [Bool.not_eq_true', Bool.and_eq_false_iff, beq_eq_false_iff_ne, beq_eq_false_iff_ne] at hOther
  rintro ⟨hSame, hTarget⟩
  exact hOther.elim (absurd hSame) (absurd hTarget)

/-- The deadline is read back while it lies ahead, if it is no negative integer in the table. -/
theorem TimeoutSet.loadTimeout (h : TimeoutSet env communityId target durationSeconds reason s community after)
    (hStored : storesTimeout s community target = true) (reload : Environment) :
    Server.loadTimeout reload community.communityId after.db target =
      if env.now + durationSeconds < 9223372036854775808 ∧ env.now + durationSeconds > reload.now then
        some (env.now + durationSeconds)
      else none := by
  obtain ⟨earlier, hRows, hOthers⟩ := h.timeouts hStored
  have hEarlier : (earlier.find? fun row => row.communityId == community.communityId &&
      row.pseudonymKeyHex == target && row.timeoutUntil < 9223372036854775808 && row.timeoutUntil > reload.now) =
      none := by
    rw [List.find?_eq_none]
    intro row hRow hTest
    simp only [Bool.and_eq_true, beq_iff_eq] at hTest
    exact hOthers row hRow hTest.1.1
  rw [Server.loadTimeout, hRows, List.find?_append, hEarlier, Option.none_or, List.find?_singleton]
  change Option.map TimeoutRow.timeoutUntil (if (community.communityId == community.communityId && target == target &&
      decide (env.now + durationSeconds < 9223372036854775808) && decide (env.now + durationSeconds > reload.now)) = true
    then some _ else none) = _
  simp only [beq_self_eq_true, Bool.true_and, Bool.and_eq_true, decide_eq_true_eq]
  by_cases hAhead : env.now + durationSeconds < 9223372036854775808 ∧ env.now + durationSeconds > reload.now
  · rw [if_pos hAhead, if_pos hAhead]
    rfl
  · rw [if_neg hAhead, if_neg hAhead]
    rfl

/-- The server after a restart at which the community is hosted again. -/
def rehosted (after : ServerState) (reload : Environment) (communityId name creatorKey creatorDisplayName : String)
    (setup : Except HostError Unit) : ServerState :=
  handleEvent (handleEvent after .restart) (.host reload communityId name creatorKey creatorDisplayName setup)

/-- The deadline is the sum, and so it stays in the database and for the target, also after a restart. -/
structure TimeoutExact (env : Environment) (communityId target : String) (durationSeconds : UInt64) (s : ServerState)
    (community : HostedCommunity) (after : ServerState) : Prop where
  deadline : ∃ changed member deadline, after.hosted.lookup communityId = some changed ∧
    findMember changed.members target = some member ∧ member.timeoutUntil = some deadline ∧
    deadline.toNat = env.now.toNat + durationSeconds.toNat
  silent : ∀ changed, after.hosted.lookup communityId = some changed →
    SilentUntil (env.now.toNat + durationSeconds.toNat) env.now target changed
  reloaded : storesTimeout s community target = true → ∀ reload,
    reload.now.toNat < env.now.toNat + durationSeconds.toNat →
    ∃ deadline, Server.loadTimeout reload community.communityId after.db target = some deadline ∧
      deadline.toNat = env.now.toNat + durationSeconds.toNat
  restarted : storesTimeout s community target = true →
    ∀ reload name creatorKey creatorDisplayName setup changed,
      (rehosted after reload community.communityId name creatorKey creatorDisplayName setup).hosted.lookup
        community.communityId = some changed →
      SilentUntil (env.now.toNat + durationSeconds.toNat) reload.now target changed

theorem findMember_setTimeout {member : ServerMember} {deadline : Option UInt64}
    (h : findMember community.members target = some member) :
    findMember (updateMember community.members target (setTimeout deadline)) target =
      some (setTimeout deadline member) := by
  have hKey (member : ServerMember) : (setTimeout deadline member).pseudonymKeyHex = member.pseudonymKeyHex := rfl
  rw [findMember_updateMember _ target hKey, if_pos rfl, h, Option.map_some]

theorem toNat_deadline (h : env.now.toNat + durationSeconds.toNat < 18446744073709551616) :
    (env.now + durationSeconds).toNat = env.now.toNat + durationSeconds.toNat := by
  rw [UInt64.toNat_add]
  exact Nat.mod_eq_of_lt h

theorem TimeoutSet.exact_iff (h : TimeoutSet env communityId target durationSeconds reason s community after) :
    TimeoutExact env communityId target durationSeconds s community after ↔
      env.now.toNat + durationSeconds.toNat < 18446744073709551616 ∧
        (storesTimeout s community target = true →
          env.now.toNat + durationSeconds.toNat < 9223372036854775808) := by
  obtain ⟨member, hMember⟩ := h.member
  have hChanged : _ = some (setTimeout (some (env.now + durationSeconds)) member) := findMember_setTimeout hMember
  constructor
  · intro hExact
    obtain ⟨changed, found, deadline, hHosted, hFound, hDeadline, hSum⟩ := hExact.deadline
    have hFits : env.now.toNat + durationSeconds.toNat < 18446744073709551616 := by
      rw [← hSum]
      exact deadline.toNat_lt
    refine ⟨hFits, fun hStored => ?_⟩
    by_contra hLarge
    obtain ⟨read, hRead, -⟩ := hExact.reloaded hStored { env with now := 0 } (by simp; omega)
    rw [h.loadTimeout hStored, if_neg] at hRead
    · cases hRead
    · rintro ⟨hSmall, -⟩
      rw [UInt64.lt_iff_toNat_lt, toNat_deadline hFits] at hSmall
      exact hLarge hSmall
  · rintro ⟨hFits, hSigned⟩
    have hSum := toNat_deadline hFits
    refine ⟨⟨_, _, _, h.hosted, hChanged, rfl, hSum⟩, ?_, fun hStored reload hBefore => ?_, ?_⟩
    · intro changed hHosted
      cases h.hosted.symm.trans hHosted
      apply silentUntil_of_timedOut
      intro found hFound now _
      cases hChanged.symm.trans hFound
      rw [setTimeout, timedOut_some, hSum]
    · refine ⟨env.now + durationSeconds, ?_, hSum⟩
      rw [h.loadTimeout hStored, if_pos]
      rw [gt_iff_lt, UInt64.lt_iff_toNat_lt, UInt64.lt_iff_toNat_lt, hSum]
      exact ⟨hSigned hStored, hBefore⟩
    · intro hStored reload name creatorKey creatorDisplayName setup changed hHosted
      have hReloads : Reloads reload community.communityId after.db
          (rehosted after reload community.communityId name creatorKey creatorDisplayName setup) := by
        have hAbsent : (handleEvent after .restart).hosted.lookup community.communityId = none :=
          Finmap.lookup_empty _
        have hHosts : Ends (Reloads reload community.communityId after.db) _ _ :=
          hostNewly_reloads hAbsent name creatorKey creatorDisplayName setup
        rw [Ends, ← hostCommunity_of_absent reload name creatorKey creatorDisplayName setup (Finmap.lookup_empty _)]
          at hHosts
        exact hHosts
      have hRow : after.db.hasMember community.communityId target = true := by
        rw [h.hasMember]
        exact (Bool.and_eq_true_iff.mp hStored).2
      apply silentUntil_of_timedOut
      intro found hFound now hNow
      rw [hReloads changed hHosted target found hRow hFound, h.loadTimeout hStored]
      split
      · rw [timedOut_some, hSum]
      · next hPast =>
        rw [gt_iff_lt, UInt64.lt_iff_toNat_lt, UInt64.lt_iff_toNat_lt, hSum] at hPast
        have hLater := UInt64.le_iff_toNat_le.mp hNow
        have hOver : ¬now.toNat < env.now.toNat + durationSeconds.toNat := by
          intro hAhead
          exact hPast ⟨hSigned hStored, by omega⟩
        rw [timedOut_none]
        exact iff_of_false Bool.false_ne_true hOver

/-- An accepted timeout is exact if the sum fits: in 64 bits, and in 63 bits for the database. -/
theorem handleTimeoutMember_exact_iff {answer : CommunityResponse} (hCommunity : s.hosted.lookup communityId = some community)
    (hRun : (handleTimeoutMember env communityId sender target durationSeconds reason).run s = .ok answer after) :
    TimeoutExact env communityId target durationSeconds s community after ↔
      env.now.toNat + durationSeconds.toNat < 18446744073709551616 ∧
        (storesTimeout s community target = true →
          env.now.toNat + durationSeconds.toNat < 9223372036854775808) :=
  (handleTimeoutMember_sets hCommunity answer after hRun).exact_iff

/-- Alice, who created the community, times Carol out. -/
def timeoutOfCarol (durationSeconds : UInt64) : ServerM CommunityResponse :=
  handleTimeoutMember sampleEnvironment "c" "alice" "carol" durationSeconds none

theorem timeoutOfCarol_accepted (durationSeconds : UInt64)
    (h : (Result.value? ((timeoutOfCarol durationSeconds).run sampleCommunityState)).isSome = true) :
    ∃ community answer after, sampleCommunityState.hosted.lookup "c" = some community ∧
      (timeoutOfCarol durationSeconds).run sampleCommunityState = .ok answer after := by
  obtain ⟨community, hCommunity⟩ : ∃ community, sampleCommunityState.hosted.lookup "c" = some community :=
    have hThere : inSample sampleCommunityState (fun _ => true) = true := by decide +kernel
    exists_of_inSample hThere
  cases hRun : (timeoutOfCarol durationSeconds).run sampleCommunityState with
  | ok answer after => exact ⟨community, answer, after, hCommunity, rfl⟩
  | error e after =>
    rw [hRun] at h
    cases h

theorem handleTimeoutMember_exact_iff_minute : ∃ community after,
    TimeoutExact sampleEnvironment "c" "carol" 60 sampleCommunityState community after ↔
      sampleEnvironment.now.toNat + (60 : UInt64).toNat < 18446744073709551616 ∧
        (storesTimeout sampleCommunityState community "carol" = true →
          sampleEnvironment.now.toNat + (60 : UInt64).toNat < 9223372036854775808) := by
  obtain ⟨community, answer, after, hCommunity, hRun⟩ := timeoutOfCarol_accepted 60 (by decide +kernel)
  exact ⟨community, after, handleTimeoutMember_exact_iff hCommunity hRun⟩

/-- A timeout of the longest duration ends before it has begun. -/
theorem longest_timeout_wraps : ∃ community answer after,
    sampleCommunityState.hosted.lookup "c" = some community ∧
      (timeoutOfCarol 18446744073709551615).run sampleCommunityState = .ok answer after ∧
      ¬TimeoutExact sampleEnvironment "c" "carol" 18446744073709551615 sampleCommunityState community after := by
  obtain ⟨community, answer, after, hCommunity, hRun⟩ :=
    timeoutOfCarol_accepted 18446744073709551615 (by decide +kernel)
  refine ⟨community, answer, after, hCommunity, hRun, ?_⟩
  rw [(handleTimeoutMember_sets hCommunity answer after hRun).exact_iff]
  rintro ⟨hFits, -⟩
  revert hFits
  decide

end

end Rekindle.Server
