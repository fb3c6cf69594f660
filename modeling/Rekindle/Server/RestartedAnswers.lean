import Rekindle.Server.Restarts

/-! # A restart refuses nobody

What the handlers check comes out the same after a restart as before it.
-/
namespace Rekindle.Server
set_option autoImplicit false
open Fallible Runs

/-- Everything about the community can be read back. -/
structure Recoverable (community : HostedCommunity) : Prop where
  timeouts : ∀ member ∈ community.members, ∀ deadline ∈ member.timeoutUntil, deadline < 9223372036854775808
  overwrites : ∀ channel ∈ community.channels, ∀ overwrite ∈ channel.permissionOverwrites, overwrite.Readable
  roles : ∀ role ∈ community.roles, readsAsU64 role.permissions = true

theorem max?_of_perm {α : Type} [LinearOrder α] {first second : List α} (h : first.Perm second) :
    first.max? = second.max? := by
  induction h with
  | nil => rfl
  | cons a _ ih => rw [List.max?_cons, List.max?_cons, ih]
  | swap a b rest =>
    simp only [List.max?_cons, Option.elim_some]
    cases rest.max? with
    | none => exact congrArg some (max_comm b a)
    | some most => exact congrArg some (max_left_comm b a most)
  | trans _ _ ihFirst ihSecond => exact ihFirst.trans ihSecond

section
variable {now time : UInt64} {before after : HostedCommunity}

/-! ## Members and roles -/

theorem Restored.roles_perm (h : Restored now before after) (hRecoverable : Recoverable before) :
    after.roles.Perm before.roles := by
  have hRoles := h.roles
  rwa [List.filter_eq_self.mpr hRecoverable.roles] at hRoles

theorem Restored.findRole_eq (h : Restored now before after) (hRecoverable : Recoverable before) (roleId : UInt32) :
    findRole after.roles roleId = findRole before.roles roleId :=
  Keyed.find_of_perm h.distinct.roles (h.roles_perm hRecoverable)

theorem Restored.member_cases (h : Restored now before after) (pseudonym : String) :
    findMember before.members pseudonym = none ∧ findMember after.members pseudonym = none ∨
      ∃ first second, findMember before.members pseudonym = some first ∧ first ∈ before.members ∧
        findMember after.members pseudonym = some second ∧ MemberRestored now first second := by
  have hFound := h.members pseudonym
  have hMember {first : ServerMember} (hFirst : findMember before.members pseudonym = some first) :
      first ∈ before.members := List.mem_of_find?_eq_some hFirst
  generalize findMember before.members pseudonym = first at hFound hMember ⊢
  generalize findMember after.members pseudonym = second at hFound ⊢
  cases hFound with
  | none => exact .inl ⟨rfl, rfl⟩
  | some hRestored => exact .inr ⟨_, _, rfl, hMember rfl, rfl, hRestored⟩

theorem Restored.findMember_ne_none_iff (h : Restored now before after) (pseudonym : String) :
    findMember after.members pseudonym ≠ none ↔ findMember before.members pseudonym ≠ none := by
  rcases h.member_cases pseudonym with ⟨hBefore, hAfter⟩ | ⟨first, second, hFirst, -, hSecond, -⟩
  · rw [hBefore, hAfter]
  · rw [hFirst, hSecond]
    exact iff_of_true (Option.some_ne_none _) (Option.some_ne_none _)

/-- A timeout that is over at the restart is over later on. -/
theorem timedOut_filter (hTime : now ≤ time) {timeoutUntil : Option UInt64}
    (hFits : ∀ deadline ∈ timeoutUntil, deadline < 9223372036854775808) :
    timedOut time (timeoutUntil.filter fun deadline => Lasting now deadline) = timedOut time timeoutUntil := by
  cases timeoutUntil with
  | none => rfl
  | some deadline =>
    rw [Option.filter_some]
    split
    · rfl
    · next hOver =>
      have hPast : ¬now < deadline := fun hLater => hOver (decide_eq_true ⟨hFits deadline rfl, hLater⟩)
      have hNot : ¬time < deadline := fun hLater => hPast (UInt64.lt_of_le_of_lt hTime hLater)
      exact (decide_eq_false hNot).symm

/-- The calculation for a restored member, whatever the overwrites are. -/
theorem Restored.calculatePermissions_eq (h : Restored now before after) (hRecoverable : Recoverable before)
    (hTime : now ≤ time) {first second : ServerMember} (hMember : MemberRestored now first second)
    (hFirst : first ∈ before.members) {overwrites overwrites' : List PermissionOverwrite}
    (hTargets : (overwrites'.map overwriteTarget).Nodup) (hPerm : overwrites'.Perm overwrites) (pseudonym : String) :
    calculatePermissions time second.roleIds after.roles overwrites' pseudonym second.timeoutUntil =
      calculatePermissions time first.roleIds before.roles overwrites pseudonym first.timeoutUntil := by
  have hBase := basePermissions_of_perm h.distinct.roles hMember.roleIds (h.roles_perm hRecoverable)
  have hApply (permissions : Permissions) :=
    applyOverwrites_of_perm pseudonym permissions hTargets hMember.roleIds hPerm
  have hSilence (permissions : Permissions) :
      silence time second.timeoutUntil permissions = silence time first.timeoutUntil permissions := by
    rw [silence, silence, hMember.timeoutUntil, timedOut_filter hTime (hRecoverable.timeouts first hFirst)]
  simp only [Server.calculatePermissions_eq, hBase, hApply, hSilence]

theorem Restored.memberBasePermissions_eq (h : Restored now before after) (hRecoverable : Recoverable before)
    (hTime : now ≤ time) (pseudonym : String) :
    memberBasePermissions time after pseudonym = memberBasePermissions time before pseudonym := by
  unfold memberBasePermissions
  rcases h.member_cases pseudonym with ⟨hBefore, hAfter⟩ | ⟨first, second, hFirst, hIn, hSecond, hMember⟩
  · rw [hBefore, hAfter]
  · have hNone : (([] : List PermissionOverwrite).map overwriteTarget).Nodup := List.nodup_nil
    rw [hFirst, hSecond]
    exact h.calculatePermissions_eq hRecoverable hTime hMember hIn hNone (List.Perm.refl []) pseudonym

/-! ## Checks -/

theorem Restored.isCreator_eq (h : Restored now before after) (sender : String) :
    isCreator after sender = isCreator before sender := by
  rw [isCreator, isCreator, h.creator]

theorem Restored.isMember_iff (h : Restored now before after) (sender : String) :
    IsMember after sender ↔ IsMember before sender := by
  have hAny (community : HostedCommunity) : (community.members.any fun member => member.pseudonymKeyHex == sender) = true ↔
      findMember community.members sender ≠ none := by
    rw [List.any_eq_true, findMember, Ne, Keyed.find_eq_none_iff, not_forall]
    simp only [not_forall, not_not, exists_prop, beq_iff_eq]
  have hMembers : (after.members.any fun member => member.pseudonymKeyHex == sender) =
      before.members.any fun member => member.pseudonymKeyHex == sender := by
    rw [Bool.eq_iff_iff, hAny, hAny]
    exact h.findMember_ne_none_iff sender
  rw [IsMember, IsMember, verifyMembership, verifyMembership, h.creator, hMembers]

theorem Restored.permitted_iff (h : Restored now before after) (hRecoverable : Recoverable before) (hTime : now ≤ time)
    (sender : String) (required : Permissions) :
    Permitted time after sender required ↔ Permitted time before sender required := by
  rw [Permitted, Permitted, checkPermission, checkPermission, h.isCreator_eq,
    h.memberBasePermissions_eq hRecoverable hTime]

theorem Restored.highestRolePosition_eq (h : Restored now before after) (hRecoverable : Recoverable before)
    (pseudonym : String) : highestRolePosition after pseudonym = highestRolePosition before pseudonym := by
  unfold highestRolePosition
  rcases h.member_cases pseudonym with ⟨hBefore, hAfter⟩ | ⟨first, second, hFirst, -, hSecond, hMember⟩
  · rw [hBefore, hAfter]
  · have hRoles : findRole after.roles = findRole before.roles := funext fun roleId => h.findRole_eq hRecoverable roleId
    have hPositions : (rolePositions after.roles second.roleIds).Perm (rolePositions before.roles first.roleIds) := by
      rw [rolePositions, rolePositions, hRoles]
      exact (hMember.roleIds.filterMap _).map _
    rw [hFirst, hSecond]
    exact congrArg (·.getD Position.none) (max?_of_perm hPositions)

theorem Restored.outranks_iff (h : Restored now before after) (hRecoverable : Recoverable before) (sender target : String) :
    Outranks after sender target ↔ Outranks before sender target := by
  rw [Outranks, Outranks, checkHierarchy, checkHierarchy, h.isCreator_eq, h.highestRolePosition_eq hRecoverable,
    h.highestRolePosition_eq hRecoverable]

theorem Restored.rolePosition_eq (h : Restored now before after) (hRecoverable : Recoverable before) (roleId : UInt32) :
    rolePosition after roleId = rolePosition before roleId := by
  rw [rolePosition, rolePosition, h.findRole_eq hRecoverable]

theorem Restored.nextRoleId_eq (h : Restored now before after) (hRecoverable : Recoverable before) :
    nextRoleId after.roles = nextRoleId before.roles := by
  rw [nextRoleId, nextRoleId, max?_of_perm ((h.roles_perm hRecoverable).map fun role => role.id.toNat)]

theorem Restored.findChannel_ne_none_iff (h : Restored now before after) (channelId : String) :
    Keyed.find ServerChannel.id channelId after.channels ≠ none ↔
      Keyed.find ServerChannel.id channelId before.channels ≠ none := by
  have hFound := h.channels channelId
  generalize Keyed.find ServerChannel.id channelId before.channels = first at hFound ⊢
  generalize Keyed.find ServerChannel.id channelId after.channels = second at hFound ⊢
  cases hFound with
  | none => exact .rfl
  | some => exact iff_of_true (Option.some_ne_none _) (Option.some_ne_none _)

/-- The overwrites of a channel, none when there is no such channel. -/
theorem Restored.overwrites_perm (h : Restored now before after) (hRecoverable : Recoverable before) (channelId : String) :
    (((after.channels.find? (·.id == channelId)).elim [] ServerChannel.permissionOverwrites).map overwriteTarget).Nodup ∧
      ((after.channels.find? (·.id == channelId)).elim [] ServerChannel.permissionOverwrites).Perm
        ((before.channels.find? (·.id == channelId)).elim [] ServerChannel.permissionOverwrites) := by
  have hFound : Option.Rel ChannelRestored (before.channels.find? (·.id == channelId))
    (after.channels.find? (·.id == channelId)) := h.channels channelId
  have hBefore {channel : ServerChannel} (hChannel : before.channels.find? (·.id == channelId) = some channel) :
      channel ∈ before.channels := List.mem_of_find?_eq_some hChannel
  have hAfter {channel : ServerChannel} (hChannel : after.channels.find? (·.id == channelId) = some channel) :
      channel ∈ after.channels := List.mem_of_find?_eq_some hChannel
  generalize before.channels.find? (·.id == channelId) = first at hFound hBefore ⊢
  generalize after.channels.find? (·.id == channelId) = second at hFound hAfter ⊢
  cases hFound with
  | none => exact ⟨List.nodup_nil, List.Perm.refl []⟩
  | some hRestored =>
    refine ⟨h.distinct.overwrites _ (hAfter rfl), ?_⟩
    have hPerm := hRestored.overwrites
    rwa [List.filter_eq_self.mpr fun overwrite hIn =>
      decide_eq_true (hRecoverable.overwrites _ (hBefore rfl) overwrite hIn)] at hPerm

theorem Restored.checkMaySend_eq (h : Restored now before after) (hRecoverable : Recoverable before) {env : Environment}
    (hTime : now ≤ env.now) (sender channelId : String) :
    checkMaySend env sender after channelId = checkMaySend env sender before channelId := by
  unfold checkMaySend
  rcases h.member_cases sender with ⟨hBefore, hAfter⟩ | ⟨first, second, hFirst, hIn, hSecond, hMember⟩
  · rw [hBefore, hAfter]
  · rw [hFirst, hSecond]
    obtain ⟨hTargets, hPerm⟩ := h.overwrites_perm hRecoverable channelId
    have hSame : channelPermissions env sender after second channelId = channelPermissions env sender before first channelId :=
      h.calculatePermissions_eq hRecoverable hTime hMember hIn hTargets hPerm sender
    dsimp only
    rw [hSame]

end

/-! ## Requests -/

section
variable {now : UInt64} {communityId : String} {before after : HostedCommunity} {s t : ServerState}

theorem RowsKept.any_eq {α : Type} {owner : α → String} {rows others : List α} {test : α → Bool}
    (h : ∀ row, owner row = communityId → (row ∈ others ↔ row ∈ rows)) (hTest : ∀ row, test row = true → owner row = communityId) :
    others.any test = rows.any test := by
  rw [Bool.eq_iff_iff, List.any_eq_true, List.any_eq_true]
  refine exists_congr fun row => and_congr_left fun hRow => ?_
  exact h row (hTest row hRow)

theorem RowsKept.hasCommunity_eq (h : RowsKept communityId s.db t.db) :
    t.db.hasCommunity communityId = s.db.hasCommunity communityId :=
  RowsKept.any_eq h.communities fun _ hRow => beq_iff_eq.mp hRow

theorem RowsKept.hasChannel_eq (h : RowsKept communityId s.db t.db) (channelId : String) :
    t.db.hasChannel communityId channelId = s.db.hasChannel communityId channelId :=
  RowsKept.any_eq h.channels fun _ hRow => beq_iff_eq.mp (Bool.and_eq_true_iff.mp hRow).1

theorem RowsKept.hasRole_eq (h : RowsKept communityId s.db t.db) (roleId : UInt32) :
    (t.db.serverRoles.any fun row => row.communityId == communityId && row.role.id == roleId) =
      s.db.serverRoles.any fun row => row.communityId == communityId && row.role.id == roleId :=
  RowsKept.any_eq h.roles fun _ hRow => beq_iff_eq.mp (Bool.and_eq_true_iff.mp hRow).1

theorem passes_restored {env : Environment} {sender : String} (hBefore : s.hosted.lookup communityId = some before)
    (hAfter : t.hosted.lookup communityId = some after) (h : Restored now before after) (hRecoverable : Recoverable before)
    (hTime : now ≤ env.now) (hRows : RowsKept communityId s.db t.db) (hNamed : before.communityId = communityId)
    (hFaults : true ∉ s.dbFaults) (hLater : true ∉ t.dbFaults) (request : MemberRequest) :
    request.Passes env sender communityId t ↔ request.Passes env sender communityId s := by
  have hMeets {P Q : HostedCommunity → Prop} (hSame : P after ↔ Q before) : Meets communityId t P ↔ Meets communityId s Q := by
    rw [Meets, Meets, hBefore, hAfter]
    simp only [Option.some.injEq, exists_eq_left']
    exact hSame
  have hIfHosted : MemberIfHosted sender communityId t ↔ MemberIfHosted sender communityId s := by
    rw [MemberIfHosted, MemberIfHosted, hBefore, hAfter]
    simp only [Option.some.injEq, forall_eq']
    exact h.isMember_iff sender
  have hAnswering : t.Answering ↔ s.Answering := iff_of_true (headD_faultless hLater) (headD_faultless hFaults)
  have hMember := h.isMember_iff
  have hPermitted := h.permitted_iff hRecoverable hTime
  have hOutranks := h.outranks_iff hRecoverable
  have hMay {required : Permissions} : MayDo env sender after required ↔ MayDo env sender before required :=
    and_congr (hMember sender) (hPermitted sender required)
  have hNamedAfter : after.communityId = communityId := h.communityId.trans hNamed
  cases request with
  | sendMessage channelId ciphertext mekGeneration =>
    refine hMeets (and_congr (hMember sender) ?_)
    rw [h.checkMaySend_eq hRecoverable hTime, h.mek]
    exact and_congr_right' (and_congr_right' hAnswering)
  | getMessages => exact and_congr hIfHosted hAnswering
  | leave => exact hIfHosted
  | requestMek | getRoles => exact hMeets (hMember sender)
  | kick target => exact hMeets (and_congr (hPermitted sender _) (and_congr_right' (and_congr (hOutranks sender target) (hMember target))))
  | createChannel name channelType =>
    refine hMeets (and_congr hMay (and_congr_right' (and_congr hAnswering ?_)))
    rw [hNamed, hNamedAfter, hRows.hasChannel_eq, hRows.hasCommunity_eq]
  | deleteChannel | rotateMek | updateCommunity | unban | getBanList | deleteChannelOverwrite | removeTimeout =>
    exact hMeets hMay
  | renameChannel channelId | setChannelOverwrite channelId =>
    exact hMeets (and_congr hMay (h.findChannel_ne_none_iff channelId))
  | ban target =>
    exact hMeets (and_congr hMay (and_congr_right' (and_congr (hOutranks sender target) (hMember target))))
  | createRole =>
    refine hMeets (and_congr hMay (and_congr hAnswering ?_))
    rw [hNamed, hNamedAfter, h.nextRoleId_eq hRecoverable, hRows.hasRole_eq, hRows.hasCommunity_eq]
  | editRole roleId edit =>
    refine hMeets (and_congr hMay ?_)
    rw [h.findRole_eq hRecoverable, h.highestRolePosition_eq hRecoverable, h.memberBasePermissions_eq hRecoverable hTime]
  | deleteRole roleId =>
    refine hMeets (and_congr hMay ?_)
    rw [h.rolePosition_eq hRecoverable, h.highestRolePosition_eq hRecoverable]
  | assignRole target roleId =>
    refine hMeets (and_congr hMay (and_congr (hOutranks sender target) ?_))
    rw [h.rolePosition_eq hRecoverable, h.highestRolePosition_eq hRecoverable]
    exact and_congr_right' (h.findMember_ne_none_iff target)
  | unassignRole target roleId =>
    exact hMeets (and_congr hMay (and_congr_right' (and_congr (hOutranks sender target) (h.findMember_ne_none_iff target))))
  | timeoutMember target =>
    exact hMeets (and_congr hMay (and_congr (hOutranks sender target) (h.findMember_ne_none_iff target)))

theorem incoming_passes_restored {incoming : IncomingRequest} (hTarget : incoming.target = some communityId)
    (hBefore : s.hosted.lookup communityId = some before) (hReloaded : Reloaded now communityId before s t)
    (hRecoverable : Recoverable before) (hTime : now ≤ incoming.env.now) (hNamed : before.communityId = communityId)
    (hFaults : true ∉ s.dbFaults) : incoming.Passes t ↔ incoming.Passes s := by
  obtain ⟨after, hAfter, h⟩ := hReloaded.restored
  obtain ⟨env, sender, routing, request⟩ := incoming
  cases request with
  | join pseudonym displayName routeBlob =>
    refine and_congr_right' ?_
    rw [show routing.joinTarget = some communityId from hTarget]
    simp only [Option.some.injEq, exists_eq_left']
    rw [hBefore, hAfter, Database.isBanned, Database.isBanned, hReloaded.bans]
    exact and_congr_right' (not_congr (and_congr_left' (iff_of_true (headD_faultless hReloaded.faultless)
      (headD_faultless hFaults))))
  | member request =>
    rw [IncomingRequest.Passes, IncomingRequest.Passes]
    dsimp only
    rw [show resolveCommunityId routing = some communityId from hTarget]
    simp only [Option.some.injEq, exists_eq_left']
    exact passes_restored hBefore hAfter h hRecoverable hTime hReloaded.rows hNamed hFaults hReloaded.faultless request

end

/-- A restart turns no answer into a refusal and no refusal into an answer, for any request to a community that
can be read back and whose setup succeeds. -/
theorem answered_startedAgain {dbFaults : List Bool} (hFaults : true ∉ dbFaults) {events : List ServerEvent}
    {env : String → Environment} {setup : String → Except HostError Unit} (hLength : events.length ≤ i64Max)
    (hStorable : ∀ event ∈ events, event.Storable fun id => (env id).now) (hKeys : ∀ id, (env id).mekKey.length = 32)
    {communityId : String} {community : HostedCommunity}
    (hHosted : (final handleEvent (ServerState.initial dbFaults) events).hosted.lookup communityId = some community)
    (hSetup : setup communityId = .ok ()) (hRecoverable : Recoverable community) {incoming : IncomingRequest}
    (hTarget : incoming.target = some communityId) (hTime : (env communityId).now ≤ incoming.env.now) :
    (∃ response t, incoming.answer
        (startedAgain env setup (final handleEvent (ServerState.initial dbFaults) events)) = .ok response t) ↔
      ∃ response t, incoming.answer (final handleEvent (ServerState.initial dbFaults) events) = .ok response t := by
  have hAnswers (state : ServerState) : (∃ response t, incoming.answer state = .ok response t) ↔ incoming.Passes state :=
    ⟨fun ⟨_, _, hAnswer⟩ => passes_of_answer hAnswer, fun hPasses =>
      (answer_of_passes hPasses).imp fun _ hAnswer => ⟨_, hAnswer⟩⟩
  have hReloaded := startedAgain_reloaded hFaults hLength hStorable hKeys hHosted hSetup
  have hPersisted := final_persisted hStorable (initial_persisted hFaults _) ((Nat.zero_add _).trans_le hLength)
  rw [hAnswers, hAnswers]
  exact incoming_passes_restored hTarget hHosted hReloaded hRecoverable hTime (hPersisted.hosted _ _ hHosted).named
    hPersisted.faultless

/-- Bob wants Alice to go. -/
theorem answered_startedAgain_joined :
    (∃ response t, IncomingRequest.answer
        { sampleRequest "bob" (.member (.kick "alice")) with env := storedEnvironment 3000 }
        (startedAgain (fun _ => storedEnvironment 2000) (fun _ => .ok ())
          (final handleEvent (ServerState.initial []) hostedAndJoined)) = .ok response t) ↔
      ∃ response t, IncomingRequest.answer
        { sampleRequest "bob" (.member (.kick "alice")) with env := storedEnvironment 3000 }
        (final handleEvent (ServerState.initial []) hostedAndJoined) = .ok response t := by
  have hJoined : inSample (final handleEvent (ServerState.initial []) hostedAndJoined) (fun community =>
      (community.members.all fun member => member.timeoutUntil.isNone) &&
        (community.channels.all fun channel => channel.permissionOverwrites.isEmpty) &&
          community.roles.all fun role => readsAsU64 role.permissions) = true := by
    decide +kernel
  obtain ⟨before, hBefore⟩ := exists_of_inSample hJoined
  have hTest := test_of_inSample hJoined hBefore
  simp only [Bool.and_eq_true, List.all_eq_true, Option.isNone_iff_eq_none, List.isEmpty_iff] at hTest
  have hRecoverable : Recoverable before := by
    refine ⟨fun member hMember deadline hDeadline => ?_, fun channel hChannel overwrite hOverwrite => ?_, hTest.2⟩
    · rw [hTest.1.1 member hMember] at hDeadline
      cases hDeadline
    · rw [hTest.1.2 channel hChannel] at hOverwrite
      cases hOverwrite
  exact @answered_startedAgain [] (by decide) hostedAndJoined (fun _ => storedEnvironment 2000)
    (fun _ => .ok ()) (by decide)
    (List.forall_mem_cons.mpr ⟨⟨by decide, by decide⟩, List.forall_mem_singleton.mpr ⟨by decide, trivial⟩⟩)
    (fun _ => by decide) "c" before hBefore rfl hRecoverable
    { sampleRequest "bob" (.member (.kick "alice")) with env := storedEnvironment 3000 } rfl
    (show (2000 : UInt64) ≤ 3000 by decide)

end Rekindle.Server
