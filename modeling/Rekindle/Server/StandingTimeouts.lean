import Rekindle.Server.RoleReferences
import Rekindle.Server.Timeouts

/-! # Timeouts that their target cannot shake off

A timeout stands in memory, and in the table for the next hosting. Only a departure of its target and the two
requests about timeouts touch it, and an administrator does not mind it.
-/
namespace Rekindle.Server
set_option autoImplicit false
open Fallible Runs

/-- Where the community is hosted, the target is a member that is timed out until the deadline. -/
def TimedOutUntil (communityId target : String) (deadline : UInt64) (s : ServerState) : Prop :=
  ∀ community, s.hosted.lookup communityId = some community →
    ∃ member, findMember community.members target = some member ∧ member.timeoutUntil = some deadline

def timeoutRows (communityId target : String) (db : Database) : List TimeoutRow :=
  db.serverMemberTimeouts.filter fun row => row.communityId == communityId && row.pseudonymKeyHex == target

/-- The table has the timeout, for a deadline that it can give back. -/
structure TimeoutStored (communityId target : String) (deadline : UInt64) (db : Database) : Prop where
  member : db.hasMember communityId target = true
  rows : (timeoutRows communityId target db).map TimeoutRow.timeoutUntil = [deadline]
  fits : deadline < 9223372036854775808

/-- The statement may take the timeout off the table. -/
def Statement.Frees (communityId target : String) : Statement → Prop
  | .deleteCommunity deleted => deleted = communityId
  | .deleteMember id pseudonym | .deleteTimeout id pseudonym => id = communityId ∧ pseudonym = target
  | .insertOrReplaceTimeout row => row.communityId = communityId ∧ row.pseudonymKeyHex = target
  | _ => False

/-- The request takes the target out of the community or is about its timeout. -/
def IncomingRequest.Concerns (target : String) (incoming : IncomingRequest) : Prop :=
  match incoming.request with
  | .member .leave => incoming.sender = target
  | .member (.kick other) | .member (.ban other) | .member (.timeoutMember other _ _)
  | .member (.removeTimeout other) => other = target
  | _ => False

/-- The event may lift the timeout: the community is unhosted, or a request about the target is accepted. -/
def Lifts (communityId target : String) (s : ServerState) : ServerEvent → Prop
  | .unhost unhosted => unhosted = communityId
  | .request incoming => incoming.target = some communityId ∧ incoming.Passes s ∧ incoming.Concerns target
  | _ => False

def ServerEvent.Before (deadline : UInt64) : ServerEvent → Prop
  | .host env _ _ _ _ _ => env.now < deadline
  | .request incoming => incoming.env.now < deadline
  | _ => True

def ServerEvent.HostsCommunity (communityId : String) : ServerEvent → Prop
  | .host _ hosted _ _ _ _ => hosted = communityId
  | _ => False

/-! ## The table -/

section
variable {communityId target : String} {deadline : UInt64} {db db' : Database} {statement : Statement}

theorem loadTimeout_of_recorded (h : TimeoutStored communityId target deadline db) {env : Environment}
    (hNow : env.now < deadline) : loadTimeout env communityId db target = some deadline := by
  obtain ⟨row, hRow, hDeadline⟩ : ∃ row, timeoutRows communityId target db = [row] ∧ row.timeoutUntil = deadline := by
    obtain ⟨row, hRow, hDeadline⟩ := List.map_eq_singleton_iff.mp h.rows
    exact ⟨row, hRow, hDeadline⟩
  have hFound : db.serverMemberTimeouts.find? (fun row => row.communityId == communityId &&
      row.pseudonymKeyHex == target && row.timeoutUntil < 9223372036854775808 && row.timeoutUntil > env.now) =
      (timeoutRows communityId target db).find? fun row =>
        row.timeoutUntil < 9223372036854775808 && row.timeoutUntil > env.now := by
    rw [timeoutRows, List.find?_filter]
    congr 1
    funext other
    simp only [Bool.and_assoc, Bool.decide_and, Bool.decide_eq_true]
  rw [loadTimeout, hFound, hRow, List.find?_cons, hDeadline, decide_eq_true h.fits, decide_eq_true hNow]
  exact congrArg some hDeadline

def TimeoutRow.key (row : TimeoutRow) : String × String := (row.communityId, row.pseudonymKeyHex)

theorem key_of_mem_timeoutRows {row : TimeoutRow} :
    (row.communityId == communityId && row.pseudonymKeyHex == target) = true ↔ row.key = (communityId, target) := by
  rw [Bool.and_eq_true, beq_iff_eq, beq_iff_eq]
  exact Prod.mk.injEq .. ▸ Iff.rfl

/-- Rows are taken off the table, but not those of the target. -/
theorem timeoutRows_of_filter {keep : TimeoutRow → Bool} (hKeep : ∀ row, row.key = (communityId, target) → keep row = true)
    (hTimeouts : db'.serverMemberTimeouts = db.serverMemberTimeouts.filter keep) :
    timeoutRows communityId target db' = timeoutRows communityId target db := by
  rw [timeoutRows, hTimeouts, List.filter_filter]
  refine List.filter_congr fun row _ => ?_
  cases hRow : (row.communityId == communityId && row.pseudonymKeyHex == target) with
  | false => rfl
  | true => exact hKeep row (key_of_mem_timeoutRows.mp hRow)

theorem hasMember_of_filter {keep : MemberRow → Bool} (hKeep : ∀ row, row.key = (communityId, target) → keep row = true)
    (hMembers : db'.serverMembers = db.serverMembers.filter keep) (h : db.hasMember communityId target = true) :
    db'.hasMember communityId target = true := by
  rw [Database.hasMember_iff, List.mem_map] at h ⊢
  obtain ⟨row, hRow, hKey⟩ := h
  rw [hMembers]
  exact ⟨row, List.mem_filter.mpr ⟨hRow, hKeep row hKey⟩, hKey⟩

theorem keeps_of_ne {key : String × String} {id pseudonym : String} (hOther : ¬(id = communityId ∧ pseudonym = target))
    (hKey : key = (communityId, target)) : (!(key.1 == id && key.2 == pseudonym)) = true := by
  rw [hKey, Bool.not_eq_true', Bool.and_eq_false_iff, beq_eq_false_iff_ne, beq_eq_false_iff_ne, ← not_and_or]
  rintro ⟨rfl, rfl⟩
  exact hOther ⟨rfl, rfl⟩

theorem TimeoutStored.congr (h : TimeoutStored communityId target deadline db) (hMembers : db'.serverMembers = db.serverMembers)
    (hTimeouts : db'.serverMemberTimeouts = db.serverMemberTimeouts) : TimeoutStored communityId target deadline db' := by
  refine ⟨?_, ?_, h.fits⟩
  · rw [Database.hasMember, hMembers]
    exact h.member
  · rw [timeoutRows, hTimeouts]
    exact h.rows

theorem TimeoutStored.insertMember (h : TimeoutStored communityId target deadline db) {row : MemberRow}
    (hRun : db.insertMember row = some db') : TimeoutStored communityId target deadline db' := by
  unfold Database.insertMember at hRun
  split_ifs at hRun
  · cases hRun
    exact h
  · cases hRun
    refine ⟨?_, h.rows, h.fits⟩
    rw [Database.hasMember, List.any_append, show db.serverMembers.any _ = true from h.member, Bool.true_or]

theorem TimeoutStored.updateRouteBlob (h : TimeoutStored communityId target deadline db) {id pseudonym : String}
    {routeBlob : List UInt8} (hRun : db.updateRouteBlob id pseudonym routeBlob = some db') :
    TimeoutStored communityId target deadline db' := by
  cases hRun
  refine ⟨?_, h.rows, h.fits⟩
  have hMember := h.member
  rw [Database.hasMember, List.any_eq_true] at hMember ⊢
  obtain ⟨row, hRow, hTest⟩ := hMember
  refine ⟨_, List.mem_map_of_mem hRow, ?_⟩
  split <;> exact hTest

theorem TimeoutStored.run (h : TimeoutStored communityId target deadline db) (hSpared : ¬statement.Frees communityId target)
    (hRun : statement.run db = some db') : TimeoutStored communityId target deadline db' := by
  cases statement with
  | deleteCommunity deleted =>
    cases hRun
    have hKeep {key : String × String} (hKey : key = (communityId, target)) : (key.1 != deleted) = true := by
      rw [hKey]
      exact bne_iff_ne.mpr (Ne.symm hSpared)
    refine ⟨hasMember_of_filter (fun _ => hKeep) rfl h.member, ?_, h.fits⟩
    rw [timeoutRows_of_filter (fun _ => hKeep) rfl]
    exact h.rows
  | deleteMember id pseudonym =>
    cases hRun
    refine ⟨hasMember_of_filter (fun _ => keeps_of_ne hSpared) rfl h.member, ?_, h.fits⟩
    rw [timeoutRows_of_filter (fun _ => keeps_of_ne hSpared) rfl]
    exact h.rows
  | deleteTimeout id pseudonym =>
    cases hRun
    refine ⟨h.member, ?_, h.fits⟩
    rw [timeoutRows_of_filter (fun _ => keeps_of_ne hSpared) rfl]
    exact h.rows
  | insertOrReplaceTimeout row =>
    simp only [Statement.run, Database.insertOrReplaceTimeout] at hRun
    split_ifs at hRun
    cases hRun
    refine ⟨h.member, ?_, h.fits⟩
    have hOut : (row.communityId == communityId && row.pseudonymKeyHex == target) = false := by
      rw [← Bool.not_eq_true, key_of_mem_timeoutRows]
      exact fun hKey => hSpared (Prod.mk.inj hKey)
    rw [timeoutRows, List.filter_append, List.filter_cons, hOut, List.filter_nil]
    change List.map _ (timeoutRows communityId target { db with serverMemberTimeouts := _ } ++ []) = _
    rw [List.append_nil, timeoutRows_of_filter (fun _ => keeps_of_ne hSpared) rfl]
    exact h.rows
  | insertMember row => exact h.insertMember hRun
  | updateRouteBlob id pseudonym blob => exact h.updateRouteBlob hRun
  | insertCommunity | insertMemberRole | insertMek | insertOrReplaceMek | insertOrReplaceBan
  | insertRole | insertRoleOrIgnore | insertChannel | insertOrReplaceOverwrite =>
    simp only [Statement.run, Database.insertCommunity, Database.insertMemberRole,
      Database.insertMek, Database.insertOrReplaceMek, Database.insertOrReplaceBan, Database.insertRole,
      Database.insertRoleOrIgnore, Database.insertChannel, Database.insertOrReplaceOverwrite] at hRun
    split_ifs at hRun <;> cases hRun <;> exact h.congr rfl rfl
  | _ => cases hRun; exact h.congr rfl rfl

theorem Edited.recorded {allowed : Statement → Prop} {s t : ServerState} (h : Edited allowed s t)
    (hSpared : ∀ statement, allowed statement → ¬statement.Frees communityId target)
    (hRecorded : TimeoutStored communityId target deadline s.db) : TimeoutStored communityId target deadline t.db := by
  have hTables := h.tables
  generalize t.db = db at hTables
  induction hTables with
  | refl => exact hRecorded
  | tail _ hStep ih =>
    obtain ⟨statement, hStatement, hRun⟩ := hStep
    exact ih.run (hSpared statement hStatement) hRun

end

/-! ## Requests -/

section
variable {communityId id target : String} {deadline : UInt64} {incoming : IncomingRequest}
  {community : HostedCommunity} {s : ServerState}

theorem effect_frees {statement : Statement} (hId : community.communityId = id)
    (hStatement : statement ∈ (incoming.effect id community).statements) (hFrees : statement.Frees communityId target) :
    id = communityId ∧ incoming.Concerns target := by
  obtain ⟨env, sender, routing, request⟩ := incoming
  cases request with
  | join pseudonym displayName routeBlob =>
    simp only [IncomingRequest.effect, joinEffect] at hStatement
    split at hStatement
    · simp only [joinStatements, List.mem_append, List.mem_cons, List.mem_map, Option.mem_toList,
        Option.map_eq_some_iff] at hStatement
      grind [Statement.Frees]
    · cases hStatement
    · rw [List.mem_singleton.mp hStatement] at hFrees
      cases hFrees
  | member request =>
    cases request with
    | assignRole assigned roleId =>
      simp only [IncomingRequest.effect, MemberRequest.effect] at hStatement
      split at hStatement
      · cases hStatement
      · rw [List.mem_singleton.mp hStatement] at hFrees
        cases hFrees
    | getMessages | requestMek | getBanList | getRoles => cases hStatement
    | _ =>
      simp only [IncomingRequest.effect, MemberRequest.effect, departure, mekStatement, List.mem_cons,
        List.not_mem_nil, or_false, List.mem_append, Option.mem_toList, Option.map_eq_some_iff] at hStatement
      grind [Statement.Frees, IncomingRequest.Concerns]

theorem effect_member {member : ServerMember} (hSpared : ¬incoming.Concerns target)
    (hMember : findMember community.members target = some member) :
    ∃ after, findMember (incoming.effect id community).community.members target = some after ∧
      after.timeoutUntil = member.timeoutUntil := by
  obtain ⟨env, sender, routing, request⟩ := incoming
  have hUpdate (other : String) {change : ServerMember → ServerMember}
      (hKey : ∀ member, (change member).pseudonymKeyHex = member.pseudonymKeyHex)
      (hTimeout : other = target → ∀ member, (change member).timeoutUntil = member.timeoutUntil) :
      ∃ after, findMember (updateMember community.members other change) target = some after ∧
        after.timeoutUntil = member.timeoutUntil := by
    rw [findMember_updateMember _ _ hKey]
    split
    · next hOther => exact ⟨change member, by rw [← hOther, hMember]; rfl, hTimeout hOther.symm member⟩
    · exact ⟨member, hMember, rfl⟩
  have hRemove {other : String} (hOther : other ≠ target) :
      ∃ after, findMember (Keyed.remove ServerMember.pseudonymKeyHex other community.members) target = some after ∧
        after.timeoutUntil = member.timeoutUntil := by
    rw [findMember_removed, if_neg (Ne.symm hOther)]
    exact ⟨member, hMember, rfl⟩
  cases request with
  | join pseudonym displayName routeBlob =>
    simp only [IncomingRequest.effect, joinEffect]
    split
    · refine ⟨member, ?_, rfl⟩
      simp only [Change.apply, findMember_joined, hMember, Option.some_or]
    · exact ⟨member, hMember, rfl⟩
    · exact hUpdate _ (fun _ => rfl) fun _ _ => rfl
  | member request =>
    cases request with
    | leave | kick | ban => exact hRemove hSpared
    | timeoutMember | removeTimeout => exact hUpdate _ (fun _ => rfl) fun hOther => absurd hOther hSpared
    | deleteRole roleId =>
      refine ⟨dropRole roleId member, ?_, rfl⟩
      exact (findMember_map_dropRole _ _).trans (congrArg (Option.map _) hMember)
    | unassignRole => exact hUpdate _ (fun _ => rfl) fun _ _ => rfl
    | assignRole assigned roleId =>
      simp only [IncomingRequest.effect, MemberRequest.effect]
      split
      · exact ⟨member, hMember, rfl⟩
      · exact hUpdate _ (fun _ => rfl) fun _ _ => rfl
    | _ => exact ⟨member, hMember, rfl⟩

/-- Every community is hosted under its id. -/
def Named (s : ServerState) : Prop :=
  ∀ id community, s.hosted.lookup id = some community → community.communityId = id

/-- What stands of the timeout: it is in memory wherever the community is hosted, and in the table if it was there. -/
structure Stands (communityId target : String) (deadline : UInt64) (recorded : Prop) (s : ServerState) : Prop where
  named : Named s
  hosted : TimedOutUntil communityId target deadline s
  table : recorded → TimeoutStored communityId target deadline s.db

variable {recorded : Prop}

theorem named_serve (h : Named s) : Named (serve s incoming) := by
  intro id community hCommunity
  rcases serve_effect s incoming with ⟨served, before, -, -, hPerformed⟩ | hBeside
  · rw [hPerformed.hosted] at hCommunity
    by_cases hId : id = served
    · subst hId
      rw [Finmap.lookup_insert] at hCommunity
      cases hCommunity
      exact effect_communityId.trans (h id before hPerformed.found)
    · rw [Finmap.lookup_insert_of_ne _ hId] at hCommunity
      exact h id community hCommunity
  · rw [hBeside.hosted] at hCommunity
    exact h id community hCommunity

theorem stray_frees {statement : Statement} (hStray : statement.Stray s incoming.LeavesAs)
    (hFrees : statement.Frees communityId target) :
    s.hosted.lookup communityId = none ∧ incoming.target = some communityId ∧
      incoming.request = .member .leave ∧ incoming.sender = target := by
  cases statement with
  | deleteMember id pseudonym =>
    obtain ⟨hAbsent, hLeave, hTarget, rfl⟩ := hStray
    obtain ⟨rfl, rfl⟩ := hFrees
    exact ⟨hAbsent, hTarget, hLeave, rfl⟩
  | deleteCommunity | deleteTimeout | insertOrReplaceTimeout => exact hStray.elim
  | _ => exact hFrees.elim

theorem stands_request (h : Stands communityId target deadline recorded s)
    (hSpared : ¬Lifts communityId target s (.request incoming)) :
    Stands communityId target deadline recorded (serve s incoming) := by
  refine ⟨named_serve h.named, ?_, fun hRecorded => ?_⟩
  all_goals
    rcases serve_effect_or_stray s incoming with ⟨served, before, hTarget, hPasses, hPerformed⟩ | hBeside
  · intro community hCommunity
    rw [hPerformed.hosted] at hCommunity
    by_cases hId : communityId = served
    · subst hId
      rw [Finmap.lookup_insert] at hCommunity
      cases hCommunity
      obtain ⟨member, hMember, hDeadline⟩ := h.hosted before hPerformed.found
      obtain ⟨after, hAfter, hSame⟩ := effect_member (fun hConcerns => hSpared ⟨hTarget, hPasses, hConcerns⟩) hMember
      exact ⟨after, hAfter, hSame.trans hDeadline⟩
    · rw [Finmap.lookup_insert_of_ne _ hId] at hCommunity
      exact h.hosted community hCommunity
  · intro community hCommunity
    rw [hBeside.hosted] at hCommunity
    exact h.hosted community hCommunity
  · refine hPerformed.ran.edited.recorded (fun statement hStatement hFrees => ?_) (h.table hRecorded)
    obtain ⟨rfl, hConcerns⟩ := effect_frees (h.named _ _ hPerformed.found) hStatement hFrees
    exact hSpared ⟨hTarget, hPasses, hConcerns⟩
  · refine hBeside.edited.recorded (fun statement hStray hFrees => ?_) (h.table hRecorded)
    obtain ⟨hAbsent, hTarget, hLeave, hSender⟩ := stray_frees hStray hFrees
    refine hSpared ⟨hTarget, ?_, ?_⟩
    · obtain ⟨env, sender, routing, request⟩ := incoming
      cases hLeave
      exact ⟨communityId, hTarget, fun community hCommunity =>
        absurd (hCommunity.symm.trans hAbsent) (Option.some_ne_none _)⟩
    · rw [IncomingRequest.Concerns, hLeave]
      exact hSender

end

/-! ## Hosting -/

/-- A timeout that is in the table stays there. -/
def KeepsRecorded (communityId target : String) (deadline : UInt64) (before after : ServerState) : Prop :=
  TimeoutStored communityId target deadline before.db → TimeoutStored communityId target deadline after.db

section
variable {communityId id target : String} {deadline : UInt64} {s : ServerState} {ε α : Type}

instance : Std.Refl (KeepsRecorded communityId target deadline) := ⟨fun _ h => h⟩

instance : IsTrans ServerState (KeepsRecorded communityId target deadline) :=
  ⟨fun _ _ _ hFirst hSecond h => hSecond (hFirst h)⟩

theorem keepsRecorded_of_timeoutsKept {x : EStateM ε ServerState α} (h : Keeps TimeoutsKept x) :
    Keeps (KeepsRecorded communityId target deadline) x :=
  fun s hRecorded => hRecorded.congr (h s).members (h s).timeouts

theorem keepsRecorded_of_beside {x : EStateM ε ServerState α}
    (h : Keeps (Beside fun statement => ¬statement.Frees communityId target) x) :
    Keeps (KeepsRecorded communityId target deadline) x :=
  fun s hRecorded => (h s).edited.recorded (fun _ hSpared => hSpared) hRecorded

theorem keepsRecorded_registerCreator (env : Environment) (creatorKey creatorDisplayName : String)
    (community : HostedCommunity) :
    Keeps (KeepsRecorded communityId target deadline)
      (registerCreator env id creatorKey creatorDisplayName community) := by
  rw [registerCreator]
  split
  · refine Keeps.bind (keepsRecorded_of_beside (insertMemberRows_beside (fun h => h) fun _ h => h)) fun _ => ?_
    exact Keeps.bind (keepsRecorded_of_timeoutsKept (timeoutsKept_executeIgnoring fun db db' hRun => by
      cases hRun
      exact ⟨rfl, rfl⟩)) fun _ => keeps_pure _
  · exact keeps_pure _

theorem keepsRecorded_hostNewly (env : Environment) (name creatorKey creatorDisplayName : String)
    (setup : Except HostError Unit) :
    Keeps (KeepsRecorded communityId target deadline)
      (hostNewly env id name creatorKey creatorDisplayName setup) := by
  refine Keeps.bind (keepsRecorded_of_timeoutsKept (timeoutsKept_executeIgnoring
    (leavesTimeouts_insertCommunity _))) fun _ => ?_
  refine Keeps.bind (keepsRecorded_of_timeoutsKept timeoutsKept_loadOrCreateMek) fun _ => ?_
  refine Keeps.bind (keepsRecorded_of_timeoutsKept (timeoutsKept_load _)) fun _ => ?_
  refine Keeps.bind (keepsRecorded_of_timeoutsKept timeoutsKept_loadOrCreateRoles) fun _ => ?_
  refine Keeps.bind (keepsRecorded_of_timeoutsKept (timeoutsKept_load _)) fun _ => ?_
  refine Keeps.bind (keeps_ofExcept _) fun _ => ?_
  refine Keeps.bind (keepsRecorded_of_timeoutsKept (timeoutsKept_query _)) fun _ => ?_
  refine Keeps.bind (keepsRecorded_of_timeoutsKept (timeoutsKept_query _)) fun _ => ?_
  exact Keeps.bind (keepsRecorded_registerCreator _ _ _ _) fun _ _ hRecorded => hRecorded

variable {recorded : Prop}

theorem keepsRecorded_hostCommunity (env : Environment) (name creatorKey creatorDisplayName : String)
    (setup : Except HostError Unit) :
    Keeps (KeepsRecorded communityId target deadline)
      (hostCommunity env id name creatorKey creatorDisplayName setup) := by
  refine Keeps.bind (fun _ hRecorded => hRecorded) fun community => ?_
  cases community with
  | some community => exact keeps_pure _
  | none => exact keepsRecorded_hostNewly env name creatorKey creatorDisplayName setup

/-- A community that is hosted afterwards was hosted before, or its timeouts are those of the table. -/
theorem lookup_host {env : Environment} {name creatorKey creatorDisplayName : String} {setup : Except HostError Unit}
    {other : String} {community : HostedCommunity}
    (hCommunity : (handleEvent s (.host env id name creatorKey creatorDisplayName setup)).hosted.lookup other =
      some community) :
    s.hosted.lookup other = some community ∨
      other = id ∧ Restores env id s.db (handleEvent s (.host env id name creatorKey creatorDisplayName setup)) := by
  have hAfter : handleEvent s (.host env id name creatorKey creatorDisplayName setup) =
    Result.state ((hostCommunity env id name creatorKey creatorDisplayName setup).run s) := rfl
  cases hAbsent : s.hosted.lookup id with
  | some community =>
    rw [hostCommunity_of_hosted env name creatorKey creatorDisplayName setup hAbsent] at hAfter
    rw [hAfter] at hCommunity
    exact .inl hCommunity
  | none =>
    rw [hostCommunity_of_absent env name creatorKey creatorDisplayName setup hAbsent] at hAfter
    rw [hAfter] at hCommunity ⊢
    by_cases hOther : other = id
    · exact .inr ⟨hOther, hostNewly_restores hAbsent name creatorKey creatorDisplayName setup⟩
    · have hKept : OthersKept id s _ := hostNewly_othersKept env name creatorKey creatorDisplayName setup s
      exact .inl ((hKept.hosted other hOther).symm.trans hCommunity)

theorem beside_unhost : ∃ t, t.db = s.db ∧ (∀ other community, t.hosted.lookup other = some community →
    s.hosted.lookup other = some community) ∧ Beside (· = .deleteCommunity id) t (handleEvent s (.unhost id)) := by
  have hAfter : handleEvent s (.unhost id) = Result.state ((unhostCommunity id).run s) := rfl
  cases hCommunity : s.hosted.lookup id with
  | none =>
    rw [unhostCommunity_of_absent hCommunity] at hAfter
    exact ⟨s, rfl, fun _ _ h => h, hAfter ▸ refl_of (Beside _) s⟩
  | some community =>
    rw [unhostCommunity_of_hosted hCommunity] at hAfter
    refine ⟨{ s with hosted := s.hosted.erase id }, rfl, fun other found hFound => ?_, ?_⟩
    · by_cases hErased : other = id
      · rw [hErased, Finmap.lookup_erase] at hFound
        cases hFound
      · exact (Finmap.lookup_erase_ne hErased).symm.trans hFound
    · rw [hAfter]
      exact @beside_executeIgnoring (· = .deleteCommunity id) HostError (.deleteCommunity id) rfl _

theorem named_handleEvent (h : Named s) (event : ServerEvent) : Named (handleEvent s event) := by
  cases event with
  | restart =>
    intro id community hCommunity
    cases (Finmap.lookup_empty id).symm.trans hCommunity
  | unhost id =>
    intro other community hCommunity
    obtain ⟨t, -, hHosted, hBeside⟩ := @beside_unhost id s
    rw [hBeside.hosted] at hCommunity
    exact h other community (hHosted other community hCommunity)
  | host env id =>
    intro other community hCommunity
    rcases lookup_host hCommunity with hBefore | ⟨rfl, hRestores⟩
    · exact h other community hBefore
    · exact (hRestores community hCommunity).1
  | request incoming => exact named_serve h

theorem named_of_reachable (h : Reachable s) : Named s := by
  obtain ⟨dbFaults, events, rfl⟩ := h
  refine Along.invariant Named (fun state event hNamed _ => named_handleEvent hNamed event) ?_
    (Along.of_forall (Q := fun _ _ => True) (fun _ _ => trivial) _ events)
  intro id community hCommunity
  cases (Finmap.lookup_empty id).symm.trans hCommunity

variable {recorded : Prop}

theorem stands_handleEvent (h : Stands communityId target deadline recorded s) {event : ServerEvent}
    (hSpared : ¬Lifts communityId target s event) (hBefore : event.Before deadline)
    (hKnown : event.HostsCommunity communityId → recorded) :
    Stands communityId target deadline recorded (handleEvent s event) := by
  have hNamed := named_handleEvent h.named event
  cases event with
  | restart =>
    refine ⟨hNamed, fun community hCommunity => ?_, h.table⟩
    cases (Finmap.lookup_empty communityId).symm.trans hCommunity
  | unhost id =>
    obtain ⟨t, hDb, hHosted, hBeside⟩ := @beside_unhost id s
    refine ⟨hNamed, fun community hCommunity => ?_, fun hRecorded => ?_⟩
    · rw [hBeside.hosted] at hCommunity
      exact h.hosted community (hHosted communityId community hCommunity)
    · refine hBeside.edited.recorded ?_ (hDb ▸ h.table hRecorded)
      rintro _ rfl hFrees
      exact hSpared hFrees
  | host env id name creatorKey creatorDisplayName setup =>
    refine ⟨hNamed, fun community hCommunity => ?_, fun hRecorded => ?_⟩
    · rcases lookup_host hCommunity with hHosted | ⟨rfl, hRestores⟩
      · exact h.hosted community hHosted
      · have hRecorded := h.table (hKnown rfl)
        obtain ⟨member, hMember, hLoaded⟩ := (hRestores community hCommunity).2 target hRecorded.member
        exact ⟨member, hMember, hLoaded.trans (loadTimeout_of_recorded hRecorded hBefore)⟩
    · exact keepsRecorded_hostCommunity env name creatorKey creatorDisplayName setup s (h.table hRecorded)
  | request incoming => exact stands_request h hSpared

end

/-! ## Sending before the deadline -/

section
variable {env : Environment} {communityId target : String} {durationSeconds : UInt64} {reason : Option String}
  {s after : ServerState} {community : HostedCommunity}

/-- So the request leaves it. -/
theorem TimeoutSet.timedOutUntil (h : TimeoutSet env communityId target durationSeconds reason s community after) :
    TimedOutUntil communityId target (env.now + durationSeconds) after := by
  intro changed hChanged
  cases h.hosted.symm.trans hChanged
  obtain ⟨member, hMember⟩ := h.member
  exact ⟨_, findMember_setTimeout hMember, rfl⟩

theorem TimeoutSet.recorded (h : TimeoutSet env communityId target durationSeconds reason s community after)
    (hId : community.communityId = communityId) (hStored : storesTimeout s community target = true)
    (hFits : env.now + durationSeconds < 9223372036854775808) :
    TimeoutStored communityId target (env.now + durationSeconds) after.db := by
  obtain ⟨earlier, hTimeouts, hEarlier⟩ := h.timeouts hStored
  rw [storesTimeout, Bool.and_eq_true, hId] at hStored
  refine ⟨(h.hasMember communityId target).trans hStored.2, ?_, hFits⟩
  have hNone : earlier.filter (fun row => row.communityId == communityId && row.pseudonymKeyHex == target) = [] := by
    rw [List.filter_eq_nil_iff]
    intro row hRow hTest
    rw [Bool.and_eq_true, beq_iff_eq, beq_iff_eq, ← hId] at hTest
    exact hEarlier row hRow hTest
  have hRow : (community.communityId == communityId && target == target) = true := by
    rw [hId, beq_self_eq_true, beq_self_eq_true]
    rfl
  rw [timeoutRows, hTimeouts, List.filter_append, hNone, List.filter_singleton]
  change List.map _ ([] ++ bif community.communityId == communityId && target == target then _ else _) = _
  rw [hRow]
  rfl

end

section
variable {communityId target channelId : String} {deadline : UInt64} {s t : ServerState} {events : List ServerEvent}
  {incoming : IncomingRequest} {ciphertext : List UInt8} {mekGeneration : UInt64} {response : CommunityResponse}

/-- By its roles, or by an overwrite of the channel. -/
def IsAdministratorIn (env : Environment) (communityId target channelId : String) (s : ServerState) : Prop :=
  ∃ community member, s.hosted.lookup communityId = some community ∧
    findMember community.members target = some member ∧
    isAdministrator (channelPermissions env target community (setTimeout none member) channelId) = true

theorem isAdministratorIn_of_sent (hTimedOut : TimedOutUntil communityId target deadline s)
    (hRequest : incoming.request = .member (.sendMessage channelId ciphertext mekGeneration))
    (hSender : incoming.sender = target) (hTarget : incoming.target = some communityId)
    (hNow : incoming.env.now < deadline) (hAnswer : incoming.answer s = .ok response t) :
    IsAdministratorIn incoming.env communityId target channelId s := by
  have hPasses := passes_of_answer hAnswer
  obtain ⟨env, sender, routing, request⟩ := incoming
  cases hRequest
  cases hSender
  obtain ⟨id, hId, community, hCommunity, -, hMaySend, -⟩ := hPasses
  cases hTarget.symm.trans hId
  obtain ⟨member, hMember, hDeadline⟩ := hTimedOut community hCommunity
  refine ⟨community, member, hCommunity, hMember, ?_⟩
  by_contra hOrdinary
  rw [checkMaySend_eq_ok_iff hMember] at hMaySend
  rw [silenced (Bool.eq_false_of_not_eq_true hOrdinary) (hDeadline ▸ timedOut_some.mpr hNow)] at hMaySend
  cases hMaySend

/-- Before the deadline the target sends only as an administrator, unless the timeout was lifted. -/
theorem sent_by_administrator (hReachable : Reachable s) (hTimedOut : TimedOutUntil communityId target deadline s)
    (hRecorded : (∃ event ∈ events, event.HostsCommunity communityId) → TimeoutStored communityId target deadline s.db)
    (hBefore : ∀ event ∈ events, event.Before deadline)
    (hSpared : Along handleEvent (fun state event => ¬Lifts communityId target state event) s events)
    (hRequest : incoming.request = .member (.sendMessage channelId ciphertext mekGeneration))
    (hSender : incoming.sender = target) (hTarget : incoming.target = some communityId)
    (hNow : incoming.env.now < deadline) (hAnswer : incoming.answer (final handleEvent s events) = .ok response t) :
    IsAdministratorIn incoming.env communityId target channelId (final handleEvent s events) := by
  have hKnown : Along handleEvent (fun _ event => event.Before deadline ∧
      (event.HostsCommunity communityId → ∃ other ∈ events, other.HostsCommunity communityId)) s events :=
    Along.of_mem (fun event hEvent => ⟨hBefore event hEvent, fun hHosts => ⟨event, hEvent, hHosts⟩⟩) s
  have hStands : Stands communityId target deadline (∃ event ∈ events, event.HostsCommunity communityId)
      (final handleEvent s events) :=
    (hSpared.and hKnown).invariant (Stands communityId target deadline _)
      (fun _ _ h hStep => stands_handleEvent h hStep.1 hStep.2.1 hStep.2.2)
      ⟨named_of_reachable hReachable, hTimedOut, hRecorded⟩
  exact isAdministratorIn_of_sent hStands.hosted hRequest hSender hTarget hNow hAnswer

end

/-! ## An administrator and a member that leaves -/

/-- Alice makes Bob an administrator and times him and Carol out. -/
def timedOutEvents : List ServerEvent :=
  sampleCommunityEvents ++
    [.request (sampleRequest "alice" (.member (.createRole "root" 0 administrator false false))),
     .request (sampleRequest "alice" (.member (.assignRole "bob" 5))),
     .request (sampleRequest "alice" (.member (.timeoutMember "bob" 60 none))),
     .request (sampleRequest "alice" (.member (.timeoutMember "carol" 60 none)))]

def timedOutState : ServerState := final handleEvent (ServerState.initial []) timedOutEvents

def hello (sender : String) (mekGeneration : UInt64) : IncomingRequest :=
  sampleRequest sender (.member (.sendMessage "general" [] mekGeneration))

def leaveAndJoin : List IncomingRequest :=
  [sampleRequest "carol" (.member .leave), sampleRequest "carol" (.join "carol" "Carol" none)]

def restartOfC : List ServerEvent :=
  [.restart, .host sampleEnvironment "c" "Community" "alice" "Alice" (.ok ())]

theorem answered_of_isSome {incoming : IncomingRequest} {s : ServerState}
    (h : (Result.value? (incoming.answer s)).isSome = true) : ∃ response t, incoming.answer s = .ok response t := by
  obtain ⟨response, hResponse⟩ := Option.isSome_iff_exists.mp h
  exact ⟨response, _, eq_ok_of_value? hResponse⟩

theorem timedOutUntil_of_inSample {s : ServerState} {target : String} {deadline : UInt64}
    (h : inSample s (fun community => (findMember community.members target).any fun member =>
      member.timeoutUntil == some deadline) = true) : TimedOutUntil "c" target deadline s := by
  intro community hCommunity
  have hTest := test_of_inSample h hCommunity
  cases hMember : findMember community.members target with
  | none =>
    rw [hMember] at hTest
    cases hTest
  | some member =>
    rw [hMember, Option.any_some] at hTest
    exact ⟨member, rfl, beq_iff_eq.mp hTest⟩

theorem administrator_sends_after_restart : ∃ (s t : ServerState) (incoming : IncomingRequest)
    (response : CommunityResponse), incoming.answer (final handleEvent s restartOfC) = .ok response t ∧
      IsAdministratorIn incoming.env "c" "bob" "general" (final handleEvent s restartOfC) := by
  obtain ⟨response, t, hAnswer⟩ := @answered_of_isSome (hello "bob" 1)
    (final handleEvent timedOutState restartOfC) (by decide +kernel)
  have hTimedOut : TimedOutUntil "c" "bob" 1060 timedOutState := timedOutUntil_of_inSample (by decide +kernel)
  refine ⟨timedOutState, t, hello "bob" 1, response, hAnswer, ?_⟩
  exact sent_by_administrator ⟨[], timedOutEvents, rfl⟩ hTimedOut
    (fun _ => ⟨by decide +kernel, by decide +kernel, by decide⟩)
    (by simp [restartOfC, ServerEvent.Before, sampleEnvironment]) ⟨id, id, trivial⟩ rfl rfl rfl (by decide) hAnswer

/-- Whatever requests it makes, a member that is timed out sends no message before the deadline. -/
def CannotShakeOff (communityId target : String) (deadline : UInt64) (s : ServerState) : Prop :=
  ∀ run : List IncomingRequest, (∀ incoming ∈ run, incoming.sender = target ∧ incoming.env.now < deadline) →
    ∀ (incoming : IncomingRequest) channelId ciphertext mekGeneration,
      incoming.request = .member (.sendMessage channelId ciphertext mekGeneration) → incoming.sender = target →
      incoming.target = some communityId → incoming.env.now < deadline →
      ∀ response t, incoming.answer (final serve s run) ≠ .ok response t

theorem not_cannotShakeOff {s : ServerState} {target : String} {run : List IncomingRequest} {mekGeneration : UInt64}
    (hRun : ∀ incoming ∈ run, incoming.sender = target ∧ incoming.env.now < 1060)
    (h : (Result.value? ((hello target mekGeneration).answer (final serve s run))).isSome = true) :
    ¬CannotShakeOff "c" target 1060 s := by
  obtain ⟨response, t, hAnswer⟩ := answered_of_isSome h
  intro hCannot
  exact hCannot run hRun (hello target mekGeneration) _ _ _ rfl rfl rfl (show (1000 : UInt64) < 1060 by decide) response t hAnswer

/-- Bob is an administrator, and Carol leaves and joins again. -/
theorem timeouts_shaken_off : Reachable timedOutState ∧
    ∀ target ∈ ["bob", "carol"], inSample timedOutState (fun community => isCreator community target) = false ∧
      TimedOutUntil "c" target 1060 timedOutState ∧ ¬CannotShakeOff "c" target 1060 timedOutState := by
  refine ⟨⟨[], timedOutEvents, rfl⟩, ?_⟩
  rw [List.forall_mem_cons, List.forall_mem_singleton]
  constructor
  · have hSent : (Result.value? ((hello "bob" 1).answer (final serve timedOutState []))).isSome = true := by
      decide +kernel
    exact ⟨by decide +kernel, timedOutUntil_of_inSample (by decide +kernel),
      not_cannotShakeOff (fun _ h => absurd h List.not_mem_nil) hSent⟩
  · have hSent : (Result.value? ((hello "carol" 2).answer (final serve timedOutState leaveAndJoin))).isSome = true := by
      decide +kernel
    refine ⟨by decide +kernel, timedOutUntil_of_inSample (by decide +kernel), not_cannotShakeOff ?_ hSent⟩
    simp [leaveAndJoin, sampleRequest, sampleEnvironment]

end Rekindle.Server
