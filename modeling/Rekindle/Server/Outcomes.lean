import Rekindle.Server.Changes

/-! # The outcome of every handler -/
namespace Rekindle.Server
set_option autoImplicit false
open Fallible

/-! ## Statements that add no ban -/

theorem addsNoBan_insertMember (row : MemberRow) : AddsNoBan (·.insertMember row) := by
  intro db db' h
  grind [Database.insertMember]

theorem addsNoBan_insertMemberRole (row : MemberRoleRow) : AddsNoBan (·.insertMemberRole row) := by
  intro db db' h
  grind [Database.insertMemberRole]

theorem addsNoBan_insertMek (row : MekRow) : AddsNoBan (·.insertMek row) := by
  intro db db' h
  grind [Database.insertMek]

theorem addsNoBan_insertRole (row : RoleRow) : AddsNoBan (·.insertRole row) := by
  intro db db' h
  grind [Database.insertRole]

theorem addsNoBan_insertChannel (row : ChannelRow) : AddsNoBan (·.insertChannel row) := by
  intro db db' h
  grind [Database.insertChannel]

theorem addsNoBan_insertOrReplaceOverwrite (row : OverwriteRow) :
    AddsNoBan (·.insertOrReplaceOverwrite row) := by
  intro db db' h
  grind [Database.insertOrReplaceOverwrite]

theorem addsNoBan_insertOrReplaceTimeout (row : TimeoutRow) :
    AddsNoBan (·.insertOrReplaceTimeout row) := by
  intro db db' h
  grind [Database.insertOrReplaceTimeout]

theorem addsNoBan_same {statement : Database → Option Database}
    (h : ∀ db, (statement db).map Database.bannedMembers = some db.bannedMembers) :
    AddsNoBan statement := by
  intro db db' hRun
  have hSame := h db
  rw [hRun, Option.map_some, Option.some_inj] at hSame
  rw [hSame]
  exact List.Subset.refl _

theorem addsNoBan_deleteBan (communityId pseudonym : String) :
    AddsNoBan (Database.deleteBan communityId pseudonym) := by
  intro db db' hRun
  cases hRun
  exact List.filter_subset_self _

/-! ## Rules for the steps of a handler -/

section
variable {env : Environment} {sender communityId : String} {request : CommunityRequest}
variable {s t u : ServerState} {community changed : HostedCommunity}

/-- No community is touched yet; a ban may be recorded. -/
structure Untouched (env : Environment) (sender communityId : String) (request : CommunityRequest)
    (before after : ServerState) : Prop where
  hosted : after.hosted = before.hosted
  bans : BansKept env sender communityId request before after

theorem Untouched.then_quiet (hFirst : Untouched env sender communityId request s t)
    (hThen : Quietly t u) : Untouched env sender communityId request s u :=
  ⟨hThen.1.trans hFirst.hosted, fun row hRow => hFirst.bans row (hThen.2 hRow)⟩

theorem Untouched.refl (s : ServerState) : Untouched env sender communityId request s s :=
  ⟨rfl, fun _ hRow => .inl hRow⟩

theorem Untouched.outcome (h : Untouched env sender communityId request s t) :
    Outcome env sender communityId request s t :=
  ⟨h.bans, .inl h.hosted⟩

theorem Outcome.then_quiet (hFirst : Outcome env sender communityId request s t)
    (hThen : Quietly t u) : Outcome env sender communityId request s u :=
  ⟨fun row hRow => hFirst.bans row (hThen.2 hRow), by rw [hThen.1]; exact hFirst.hosted⟩

theorem Changed.requested {change : Change}
    (hChange : requestedChange env sender community request = change)
    (hAllowed : change.Allowed env.now community sender)
    (hSame : SameAuthority changed (change.apply sender community)) :
    Changed env sender request community changed :=
  .inr ⟨change, hChange.symm, hAllowed, hSame⟩

theorem SameAuthority.refl (community : HostedCommunity) : SameAuthority community community :=
  ⟨rfl, rfl, rfl⟩

variable {α β : Type}

theorem ends_lookupCommunity {ε : Type} {Q : ServerState → Prop}
    {f : Option HostedCommunity → EStateM ε ServerState β} (h : Ends Q (f (s.hosted.lookup communityId)) s) :
    Ends Q (lookupCommunity communityId >>= f) s := h

theorem ends_check {r : Except RpcError α} {f : α → ServerM β}
    (hBefore : Untouched env sender communityId request s t)
    (h : ∀ a, r = .ok a → Ends (Outcome env sender communityId request s) (f a) t) :
    Ends (Outcome env sender communityId request s) (ofExcept r >>= f) t :=
  Ends.bind_ofExcept hBefore.outcome h

theorem ends_refuseIf {bad : Prop} [Decidable bad] {e : RpcError} {f : Unit → ServerM β}
    (hBefore : Untouched env sender communityId request s t)
    (h : ¬bad → Ends (Outcome env sender communityId request s) (f ()) t) :
    Ends (Outcome env sender communityId request s) (ofExcept (refuseIf bad e) >>= f) t :=
  ends_check hBefore fun _ hOk => h (refuseIf_eq_ok_iff.mp hOk)

theorem ends_quiet_bind {x : ServerM α} {f : α → ServerM β}
    (hBefore : Untouched env sender communityId request s t) (hFirst : Keeps Quietly x)
    (hRest : ∀ a u, Untouched env sender communityId request s u →
      Ends (Outcome env sender communityId request s) (f a) u) :
    Ends (Outcome env sender communityId request s) (x >>= f) t :=
  Ends.bind_of_keeps hFirst (fun _ hQuiet => (hBefore.then_quiet hQuiet).outcome)
    fun a u hQuiet => hRest a u (hBefore.then_quiet hQuiet)

theorem ends_of_quiet {x : ServerM α} (hBefore : Untouched env sender communityId request s t)
    (h : Keeps Quietly x) : Ends (Outcome env sender communityId request s) x t :=
  Ends.of_keeps h fun _ hQuiet => (hBefore.then_quiet hQuiet).outcome

theorem ends_getCommunity {missing : RpcError} {f : HostedCommunity → ServerM β}
    (h : ∀ community, s.hosted.lookup communityId = some community →
      Ends (Outcome env sender communityId request s) (f community) s) :
    Ends (Outcome env sender communityId request s) (getCommunity communityId missing >>= f) s :=
  ends_with_community (Untouched.refl s).outcome h

theorem ends_openCommunity {required : Permissions} {f : HostedCommunity → ServerM β}
    (h : ∀ community, s.hosted.lookup communityId = some community →
      Permitted env.now community sender required →
      Ends (Outcome env sender communityId request s) (f community) s) :
    Ends (Outcome env sender communityId request s)
      (openCommunity env communityId sender required >>= f) s :=
  ends_with_permission (Untouched.refl s).outcome h

/-- The one write of a handler, with what comes after it. -/
theorem ends_setCommunity (hBefore : Untouched env sender communityId request s t)
    (hCommunity : s.hosted.lookup communityId = some community)
    (hChanged : Changed env sender request community changed) {f : Unit → ServerM β}
    (hRest : Keeps Quietly (f ())) :
    Ends (Outcome env sender communityId request s) (setCommunity communityId changed >>= f) t := by
  have hSet : Outcome env sender communityId request s
      { t with hosted := t.hosted.insert communityId changed } :=
    ⟨hBefore.bans, .inr ⟨community, changed, hCommunity, hChanged, by rw [hBefore.hosted]⟩⟩
  exact hSet.then_quiet (hRest _)

end

/-! ## Handlers that change no role, member or creator -/

section
variable {env : Environment} {sender communityId : String} {request : CommunityRequest}
variable (s : ServerState)

theorem keeps_rotateMek {ε : Type} (newGeneration : UInt64) :
    Keeps Quietly (rotateMek env communityId newGeneration : EStateM ε ServerState _) :=
  (keeps_executeIgnoring (addsNoBan_insertMek _)).bind fun _ => keeps_pure _

theorem handleSendMessage_outcome (channelId : String) (ciphertext : List UInt8)
    (mekGeneration : UInt64) :
    Ends (Outcome env sender communityId request s)
      (handleSendMessage env communityId sender channelId ciphertext mekGeneration) s := by
  apply ends_getCommunity
  intro community _
  apply ends_check (Untouched.refl s)
  intro _ _
  apply ends_check (Untouched.refl s)
  intro _ _
  apply ends_check (Untouched.refl s)
  intro _ _
  apply ends_of_quiet (Untouched.refl s)
  refine (keeps_execute (addsNoBan_same fun _ => rfl)).bind fun _ => ?_
  refine (keeps_ofExcept _).bind fun _ => ?_
  exact (keeps_broadcastToMembers _ _ _).bind fun _ => keeps_pure _

theorem keeps_verifyMembershipIfHosted :
    Keeps Quietly (verifyMembershipIfHosted communityId sender) :=
  (keeps_lookupCommunity _).bind fun _ => keeps_ofExcept _

theorem handleGetMessages_outcome (channelId : String) (beforeTimestamp : Option UInt64)
    (limit : UInt32) :
    Ends (Outcome env sender communityId request s)
      (handleGetMessages communityId sender channelId beforeTimestamp limit) s := by
  apply ends_of_quiet (Untouched.refl s)
  refine keeps_verifyMembershipIfHosted.bind fun _ => ?_
  refine (keeps_query _).bind fun _ => ?_
  exact (keeps_ofExcept _).bind fun _ => keeps_pure _

theorem handleRequestMek_outcome :
    Ends (Outcome env sender communityId request s) (handleRequestMek communityId sender) s := by
  apply ends_getCommunity
  intro community _
  apply ends_of_quiet (Untouched.refl s)
  exact (keeps_ofExcept _).bind fun _ => keeps_pure _

theorem handleCreateChannel_outcome (name channelType : String) :
    Ends (Outcome env sender communityId request s)
      (handleCreateChannel env communityId sender name channelType) s := by
  apply ends_openCommunity
  intro community hCommunity _
  apply ends_check (Untouched.refl s)
  intro _ _
  apply ends_quiet_bind (Untouched.refl s) (keeps_execute (addsNoBan_insertChannel _))
  intro stored t hBefore
  apply ends_check hBefore
  intro _ _
  refine ends_setCommunity hBefore hCommunity ?_ (keeps_pure _)
  exact .inl ⟨rfl, rfl, rfl⟩

theorem handleDeleteChannel_outcome (channelId : String) :
    Ends (Outcome env sender communityId request s)
      (handleDeleteChannel env communityId sender channelId) s := by
  apply ends_openCommunity
  intro community hCommunity _
  refine ends_setCommunity (Untouched.refl s) hCommunity ?_ ?_
  · exact .inl ⟨rfl, rfl, rfl⟩
  · exact (keeps_executeIgnoring (addsNoBan_same fun _ => rfl)).bind fun _ => keeps_pure _

theorem handleRenameChannel_outcome (channelId newName : String) :
    Ends (Outcome env sender communityId request s)
      (handleRenameChannel env communityId sender channelId newName) s := by
  apply ends_openCommunity
  intro community hCommunity _
  apply ends_check (Untouched.refl s)
  intro _ _
  refine ends_setCommunity (Untouched.refl s) hCommunity ?_ ?_
  · exact .inl ⟨rfl, rfl, rfl⟩
  · exact (keeps_executeIgnoring (addsNoBan_same fun _ => rfl)).bind fun _ => keeps_pure _

theorem handleRotateMek_outcome :
    Ends (Outcome env sender communityId request s) (handleRotateMek env communityId sender) s := by
  apply ends_openCommunity
  intro community hCommunity _
  apply ends_quiet_bind (Untouched.refl s) (keeps_rotateMek _)
  intro mek t hBefore
  refine ends_setCommunity hBefore hCommunity ?_ ?_
  · exact .inl ⟨rfl, rfl, rfl⟩
  · exact (keeps_broadcastToMembers _ _ _).bind fun _ => keeps_pure _

theorem handleUpdateCommunity_outcome (newName newDescription : Option String) :
    Ends (Outcome env sender communityId request s)
      (handleUpdateCommunity env communityId sender newName newDescription) s := by
  apply ends_openCommunity
  intro community hCommunity _
  refine ends_setCommunity (Untouched.refl s) hCommunity ?_ ?_
  · exact .inl ⟨rfl, rfl, rfl⟩
  · refine (keeps_option_forM _ fun _ => keeps_executeIgnoring (addsNoBan_same fun _ => rfl)).bind
      fun _ => ?_
    exact (keeps_option_forM _ fun _ => keeps_executeIgnoring (addsNoBan_same fun _ => rfl)).bind
      fun _ => keeps_pure _

theorem handleUnban_outcome (target : String) :
    Ends (Outcome env sender communityId request s) (handleUnban env communityId sender target) s := by
  apply ends_openCommunity
  intro community _ _
  apply ends_of_quiet (Untouched.refl s)
  exact (keeps_executeIgnoring (addsNoBan_deleteBan _ _)).bind fun _ => keeps_pure _

theorem handleGetBanList_outcome :
    Ends (Outcome env sender communityId request s) (handleGetBanList env communityId sender) s := by
  apply ends_openCommunity
  intro community _ _
  apply ends_of_quiet (Untouched.refl s)
  exact (keeps_query _).bind fun _ => keeps_pure _

theorem handleGetRoles_outcome :
    Ends (Outcome env sender communityId request s) (handleGetRoles communityId sender) s := by
  apply ends_getCommunity
  intro community _
  apply ends_of_quiet (Untouched.refl s)
  exact (keeps_ofExcept _).bind fun _ => keeps_pure _

theorem handleSetChannelOverwrite_outcome (channelId targetType targetId : String)
    (allow deny : Permissions) :
    Ends (Outcome env sender communityId request s)
      (handleSetChannelOverwrite env communityId sender channelId targetType targetId allow deny) s := by
  apply ends_openCommunity
  intro community hCommunity _
  apply ends_check (Untouched.refl s)
  intro _ _
  refine ends_setCommunity (Untouched.refl s) hCommunity ?_ ?_
  · exact .inl ⟨rfl, rfl, rfl⟩
  · refine (keeps_executeIgnoring (addsNoBan_insertOrReplaceOverwrite _)).bind fun _ => ?_
    exact (keeps_broadcastToMembers _ _ _).bind fun _ => keeps_pure _

theorem handleDeleteChannelOverwrite_outcome (channelId targetType targetId : String) :
    Ends (Outcome env sender communityId request s)
      (handleDeleteChannelOverwrite env communityId sender channelId targetType targetId) s := by
  apply ends_openCommunity
  intro community hCommunity _
  refine ends_setCommunity (Untouched.refl s) hCommunity ?_ ?_
  · exact .inl ⟨rfl, rfl, rfl⟩
  · exact (keeps_executeIgnoring (addsNoBan_same fun _ => rfl)).bind fun _ => keeps_pure _

end

/-! ## Roles and timeouts -/

section
variable {env : Environment} {sender communityId : String} (s : ServerState)

theorem keeps_broadcastRolesChanged : Keeps Quietly (broadcastRolesChanged communityId) :=
  (keeps_lookupCommunity _).bind fun _ => keeps_option_forM _ fun _ => keeps_broadcastToMembers _ _ _

theorem keeps_broadcastMemberRolesChanged (target : String) :
    Keeps Quietly (broadcastMemberRolesChanged communityId target) :=
  (keeps_lookupCommunity _).bind fun _ => keeps_option_forM _ fun _ => keeps_broadcastToMembers _ _ _

theorem handleCreateRole_outcome (name : String) (color : UInt32) (permissions : Permissions)
    (hoist mentionable : Bool) :
    Ends (Outcome env sender communityId
        (.member (.createRole name color permissions hoist mentionable)) s)
      (handleCreateRole env communityId sender name color permissions hoist mentionable) s := by
  apply ends_openCommunity
  intro community hCommunity hPermitted
  apply ends_quiet_bind (Untouched.refl s) (keeps_execute (addsNoBan_insertRole _))
  intro stored t hBefore
  apply ends_check hBefore
  intro _ _
  refine ends_setCommunity hBefore hCommunity ?_ (keeps_pure _)
  exact Changed.requested rfl ⟨hPermitted, rfl, rfl⟩ ⟨rfl, rfl, rfl⟩

theorem handleEditRole_outcome (roleId : UInt32) (edit : RoleEdit) :
    Ends (Outcome env sender communityId (.member (.editRole roleId edit)) s)
      (handleEditRole env communityId sender roleId edit) s := by
  apply ends_openCommunity
  intro community hCommunity hPermitted
  apply ends_check (Untouched.refl s)
  intro role hRole
  apply ends_refuseIf (Untouched.refl s)
  intro hBelow
  have hAllowed : role.position < highestRolePosition community sender ∨
      isAdministrator (memberBasePermissions env.now community sender) = true := by
    by_cases hPosition : role.position < highestRolePosition community sender
    · exact .inl hPosition
    · refine .inr ?_
      by_contra hAdmin
      exact hBelow ⟨not_lt.mp hPosition, by simpa using hAdmin⟩
  refine ends_setCommunity (Untouched.refl s) hCommunity ?_ ?_
  · exact Changed.requested rfl ⟨hPermitted, role, orThrow_eq_ok_iff.mp hRole, hAllowed⟩ ⟨rfl, rfl, rfl⟩
  · exact (keeps_executeIgnoring (addsNoBan_same fun _ => rfl)).bind fun _ => keeps_pure _

theorem handleDeleteRole_outcome (roleId : UInt32) :
    Ends (Outcome env sender communityId (.member (.deleteRole roleId)) s)
      (handleDeleteRole env communityId sender roleId) s := by
  apply ends_refuseIf (Untouched.refl s)
  intro hNotEveryone
  apply ends_openCommunity
  intro community hCommunity hPermitted
  apply ends_refuseIf (Untouched.refl s)
  intro hBelow
  refine ends_setCommunity (Untouched.refl s) hCommunity ?_ ?_
  · exact Changed.requested rfl ⟨hPermitted, hNotEveryone, not_le.mp hBelow⟩ ⟨rfl, rfl, rfl⟩
  · refine (keeps_executeIgnoring (addsNoBan_same fun _ => rfl)).bind fun _ => ?_
    exact (keeps_executeIgnoring (addsNoBan_same fun _ => rfl)).bind fun _ => keeps_pure _

theorem handleAssignRole_outcome (target : String) (roleId : UInt32) :
    Ends (Outcome env sender communityId (.member (.assignRole target roleId)) s)
      (handleAssignRole env communityId sender target roleId) s := by
  apply ends_openCommunity
  intro community hCommunity hPermitted
  apply ends_check (Untouched.refl s)
  intro _ hOutranks
  apply ends_refuseIf (Untouched.refl s)
  intro hBelow
  apply ends_check (Untouched.refl s)
  intro member _
  by_cases hHeld : roleId ∉ member.roleIds
  · rw [if_pos hHeld]
    refine ends_setCommunity (Untouched.refl s) hCommunity ?_ ?_
    · exact Changed.requested rfl ⟨hPermitted, hOutranks, not_le.mp hBelow⟩ ⟨rfl, rfl, rfl⟩
    · exact (keeps_executeIgnoring (addsNoBan_insertMemberRole _)).bind fun _ => keeps_pure _
  · rw [if_neg hHeld]
    exact ends_of_quiet (Untouched.refl s) (keeps_pure _)

theorem handleUnassignRole_outcome (target : String) (roleId : UInt32) :
    Ends (Outcome env sender communityId (.member (.unassignRole target roleId)) s)
      (handleUnassignRole env communityId sender target roleId) s := by
  apply ends_refuseIf (Untouched.refl s)
  intro hNotEveryone
  apply ends_openCommunity
  intro community hCommunity hPermitted
  apply ends_check (Untouched.refl s)
  intro _ hOutranks
  apply ends_check (Untouched.refl s)
  intro _ _
  refine ends_setCommunity (Untouched.refl s) hCommunity ?_ ?_
  · exact Changed.requested rfl ⟨hPermitted, hNotEveryone, hOutranks⟩ ⟨rfl, rfl, rfl⟩
  · exact (keeps_executeIgnoring (addsNoBan_same fun _ => rfl)).bind fun _ => keeps_pure _

theorem handleTimeoutMember_outcome (target : String) (durationSeconds : UInt64)
    (reason : Option String) :
    Ends (Outcome env sender communityId
        (.member (.timeoutMember target durationSeconds reason)) s)
      (handleTimeoutMember env communityId sender target durationSeconds reason) s := by
  apply ends_openCommunity
  intro community hCommunity hPermitted
  apply ends_check (Untouched.refl s)
  intro _ hOutranks
  apply ends_check (Untouched.refl s)
  intro _ _
  refine ends_setCommunity (Untouched.refl s) hCommunity ?_ ?_
  · exact Changed.requested rfl ⟨hPermitted, .inr hOutranks⟩ ⟨rfl, rfl, rfl⟩
  · refine (keeps_executeIgnoring (addsNoBan_insertOrReplaceTimeout _)).bind fun _ => ?_
    exact (keeps_broadcastToMembers _ _ _).bind fun _ => keeps_pure _

theorem handleRemoveTimeout_outcome (target : String) :
    Ends (Outcome env sender communityId (.member (.removeTimeout target)) s)
      (handleRemoveTimeout env communityId sender target) s := by
  apply ends_openCommunity
  intro community hCommunity hPermitted
  refine ends_setCommunity (Untouched.refl s) hCommunity ?_ ?_
  · exact Changed.requested rfl ⟨hPermitted, .inl rfl⟩ ⟨rfl, rfl, rfl⟩
  · refine (keeps_executeIgnoring (addsNoBan_same fun _ => rfl)).bind fun _ => ?_
    exact (keeps_broadcastToMembers _ _ _).bind fun _ => keeps_pure _

end

/-! ## Departures -/

section
variable {env : Environment} {sender communityId : String} {request : CommunityRequest}
variable {s t : ServerState}

theorem keeps_broadcastDeparture (target : String) :
    Keeps Quietly (broadcastDeparture communityId target) := by
  refine (keeps_broadcastToMembers _ _ _).bind fun _ => ?_
  refine (keeps_lookupCommunity _).bind fun _ => ?_
  exact keeps_option_forM _ fun _ => keeps_broadcastToMembers _ _ _

/-- Leave, and the end of Kick and of Ban, which run it for their target. -/
theorem ends_handleLeave {target : String}
    (hBefore : Untouched env sender communityId request s t)
    (hDepart : ∀ community changed, s.hosted.lookup communityId = some community →
      SameAuthority changed ((Change.remove target).apply sender community) →
      Changed env sender request community changed) :
    Ends (Outcome env sender communityId request s) (handleLeave env communityId target) t := by
  apply ends_quiet_bind hBefore keeps_verifyMembershipIfHosted
  intro _ checked hChecked
  apply ends_quiet_bind hChecked (keeps_executeIgnoring (addsNoBan_same fun _ => rfl))
  intro _ deleted hDeleted
  unfold removeMember
  rw [bind_assoc]
  apply ends_lookupCommunity
  have hRest : Keeps Quietly (do broadcastDeparture communityId target; pure CommunityResponse.ok) :=
    (keeps_broadcastDeparture target).bind fun _ => keeps_pure _
  cases hCommunity : deleted.hosted.lookup communityId with
  | none => exact ends_of_quiet hDeleted hRest
  | some community =>
    rw [hDeleted.hosted] at hCommunity
    simp only [bind_assoc]
    apply ends_quiet_bind hDeleted (keeps_rotateMek _)
    intro mek rotated hRotated
    refine ends_setCommunity hRotated hCommunity ?_ hRest
    exact hDepart community _ hCommunity ⟨rfl, rfl, rfl⟩

theorem handleLeave_outcome (s : ServerState) :
    Ends (Outcome env sender communityId (.member .leave) s) (handleLeave env communityId sender) s := by
  apply ends_handleLeave (Untouched.refl s)
  intro community changed _ hSame
  have hAllowed : Change.leave.Allowed env.now community sender := trivial
  exact Changed.requested rfl hAllowed hSame

theorem handleKick_outcome (s : ServerState) (target : String) :
    Ends (Outcome env sender communityId (.member (.kick target)) s)
      (handleKick env communityId sender target) s := by
  apply ends_getCommunity
  intro community hCommunity
  apply ends_check (Untouched.refl s)
  intro _ hPermitted
  apply ends_refuseIf (Untouched.refl s)
  intro _
  apply ends_check (Untouched.refl s)
  intro _ hOutranks
  apply ends_handleLeave (Untouched.refl s)
  intro found changed hFound hSame
  rw [hCommunity] at hFound
  cases hFound
  exact Changed.requested rfl ⟨.inl hPermitted, hOutranks⟩ hSame

theorem mem_insertOrReplaceBan {db db' : Database} {row : BanRow}
    (h : db.insertOrReplaceBan row = some db') :
    ∀ other ∈ db'.bannedMembers, other ∈ db.bannedMembers ∨ other = row := by
  grind [Database.insertOrReplaceBan]

theorem handleBan_outcome (s : ServerState) (target : String) :
    Ends (Outcome env sender communityId (.member (.ban target)) s)
      (handleBan env communityId sender target) s := by
  apply ends_openCommunity
  intro community hCommunity hPermitted
  apply ends_refuseIf (Untouched.refl s)
  intro _
  apply ends_check (Untouched.refl s)
  intro _ hOutranks
  obtain ⟨db, hRun, hDb⟩ : ∃ db, _ ∧ _ := executeIgnoring_run (fun db => db.insertOrReplaceBan
    { communityId := communityId, pseudonymKeyHex := target
      displayName := (findMember community.members target).elim "" ServerMember.displayName
      bannedAt := env.timestampNow }) s
  apply Ends.bind_of_ok hRun
  have hRecorded : Untouched env sender communityId (.member (.ban target)) s
      { s with dbFaults := s.dbFaults.tail, db := db } := by
    refine ⟨rfl, fun row hRow => ?_⟩
    rcases hDb with rfl | hInsert
    · exact .inl hRow
    · rcases mem_insertOrReplaceBan hInsert row hRow with hOld | rfl
      · exact .inl hOld
      · exact .inr ⟨rfl, rfl, community, hCommunity, hPermitted, hOutranks⟩
  apply ends_handleLeave hRecorded
  intro found changed hFound hSame
  rw [hCommunity] at hFound
  cases hFound
  exact Changed.requested rfl ⟨.inr hPermitted, hOutranks⟩ hSame

end

/-! ## Joins -/

section
variable {env : Environment} {sender communityId : String}
variable {s t : ServerState}

theorem keeps_insertMemberRows (displayName : String) (roleIds : List UInt32) :
    Keeps Quietly (insertMemberRows env communityId sender displayName roleIds : ServerM Unit) := by
  refine (keeps_executeIgnoring (addsNoBan_insertMember _)).bind fun _ => ?_
  exact keeps_list_forM _ fun _ => keeps_executeIgnoring (addsNoBan_insertMemberRole _)

theorem keeps_recordCreator (isFirstMember : Bool) :
    Keeps Quietly (recordCreator communityId sender isFirstMember) := by
  cases isFirstMember with
  | true => exact keeps_executeIgnoring (addsNoBan_same fun _ => rfl)
  | false => exact keeps_pure _

theorem keeps_announceJoin (displayName : String) (joined : Option JoinResult) :
    Keeps Quietly (do
      let joined ← ofExcept (orThrow joined communityNotFound)
      broadcastToMembers communityId sender
        (.memberJoined communityId sender displayName joined.roleIds)
      pure (.joined joined.mekPayload joined.mekGeneration joined.channels joined.roleIds
        joined.roles) : ServerM CommunityResponse) := by
  refine (keeps_ofExcept _).bind fun _ => ?_
  exact (keeps_broadcastToMembers _ _ _).bind fun _ => keeps_pure _

theorem ends_joinAsNewMember {pseudonym displayName : String} {routeBlob : Option (List UInt8)}
    (hBefore : Untouched env sender communityId (.join pseudonym displayName routeBlob) s t)
    (hNew : ∀ community, s.hosted.lookup communityId = some community →
      findMember community.members sender = none) :
    Ends (Outcome env sender communityId (.join pseudonym displayName routeBlob) s)
      (joinAsNewMember env communityId sender displayName routeBlob) t := by
  unfold joinAsNewMember addNewMember
  simp only [bind_assoc]
  apply ends_lookupCommunity
  apply ends_quiet_bind hBefore (keeps_insertMemberRows _ _)
  intro _ inserted hInserted
  unfold pushMember
  rw [bind_assoc]
  apply ends_lookupCommunity
  rw [hBefore.hosted, hInserted.hosted]
  cases hCommunity : s.hosted.lookup communityId with
  | none =>
    simp only [pure_bind]
    exact ends_of_quiet hInserted (keeps_announceJoin displayName none)
  | some community =>
    simp only [bind_assoc, pure_bind]
    apply ends_quiet_bind hInserted (keeps_recordCreator _)
    intro _ recorded hRecorded
    refine ends_setCommunity hRecorded hCommunity ?_ ?_
    · have hAbsent := hNew community hCommunity
      have hRequested : requestedChange env sender community (.join pseudonym displayName routeBlob) =
          .join displayName env.timestampNow routeBlob := by
        simp only [requestedChange, hAbsent]
      exact Changed.requested hRequested hAbsent ⟨rfl, rfl, rfl⟩
    · refine Keeps.bind (keeps_option_forM _ fun _ =>
        keeps_executeIgnoring (addsNoBan_same fun _ => rfl)) fun _ => ?_
      exact keeps_announceJoin displayName (some _)

variable (env sender) in
theorem handleJoin_outcome (s : ServerState) (routing : Routing) (pseudonym displayName : String)
    (routeBlob : Option (List UInt8)) :
    ∃ communityId, Ends (Outcome env sender communityId (.join pseudonym displayName routeBlob) s)
      (handleJoin env sender routing displayName routeBlob) s := by
  cases hTarget : routing.joinTarget with
  | none =>
    refine ⟨"", ?_⟩
    unfold handleJoin
    apply ends_check (Untouched.refl s)
    intro communityId hOk
    rw [hTarget] at hOk
    cases hOk
  | some communityId =>
    refine ⟨communityId, ?_⟩
    unfold handleJoin
    rw [hTarget]
    apply ends_check (Untouched.refl s)
    intro found hFound
    cases hFound
    apply ends_lookupCommunity
    apply ends_check (Untouched.refl s)
    intro _ _
    apply ends_quiet_bind (Untouched.refl s) ((keeps_query _).bind fun _ => keeps_ofExcept _)
    intro _ t hBefore
    unfold handleRejoin
    rw [bind_assoc]
    apply ends_lookupCommunity
    rw [hBefore.hosted]
    cases hCommunity : s.hosted.lookup communityId with
    | none =>
      simp only [pure_bind]
      apply ends_joinAsNewMember hBefore
      intro community hSome
      rw [hCommunity] at hSome
      cases hSome
    | some community =>
      cases hMember : findMember community.members sender with
      | none =>
        simp only [hMember, pure_bind]
        apply ends_joinAsNewMember hBefore
        intro found hFound
        rw [hCommunity] at hFound
        cases hFound
        exact hMember
      | some member =>
        cases routeBlob with
        | none =>
          simp only [hMember, pure_bind]
          exact ends_of_quiet hBefore (keeps_pure _)
        | some blob =>
          simp only [hMember, pure_bind, bind_assoc]
          refine ends_setCommunity hBefore hCommunity ?_ ?_
          · have hRequested : requestedChange env sender community
                (.join pseudonym displayName (some blob)) = .rejoin blob := by
              simp only [requestedChange, hMember]
            have hPresent : findMember community.members sender ≠ none := by
              rw [hMember]
              exact Option.some_ne_none member
            exact Changed.requested hRequested hPresent ⟨rfl, rfl, rfl⟩
          · exact (keeps_executeIgnoring (addsNoBan_same fun _ => rfl)).bind fun _ => keeps_pure _

end

/-! ## Dispatch -/

section
variable (env : Environment) (sender : String)

theorem ends_thenBroadcast {communityId : String} {request : CommunityRequest} {s : ServerState}
    {handler : ServerM CommunityResponse} {broadcast : ServerM Unit}
    (hHandler : Ends (Outcome env sender communityId request s) handler s)
    (hBroadcast : Keeps Quietly broadcast) :
    Ends (Outcome env sender communityId request s) (thenBroadcast handler broadcast) s := by
  unfold thenBroadcast
  cases hRun : handler.run s with
  | error e t =>
    unfold Ends at hHandler ⊢
    rw [run_bind_of_error _ hRun]
    rwa [hRun] at hHandler
  | ok response t =>
    apply Ends.bind_of_ok hRun
    unfold Ends at hHandler
    rw [hRun] at hHandler
    have hQuiet : Keeps Quietly (do broadcast; pure response : ServerM CommunityResponse) :=
      hBroadcast.bind fun _ => keeps_pure _
    exact hHandler.then_quiet (hQuiet t)

theorem handleRequest_outcome (communityId : String) (request : MemberRequest) (s : ServerState) :
    Ends (Outcome env sender communityId (.member request) s)
      (handleRequest env sender communityId request) s := by
  cases request with
  | sendMessage => exact handleSendMessage_outcome s _ _ _
  | getMessages => exact handleGetMessages_outcome s _ _ _
  | requestMek => exact handleRequestMek_outcome s
  | leave => exact handleLeave_outcome s
  | kick => exact handleKick_outcome s _
  | createChannel => exact handleCreateChannel_outcome s _ _
  | deleteChannel => exact handleDeleteChannel_outcome s _
  | rotateMek => exact handleRotateMek_outcome s
  | renameChannel => exact handleRenameChannel_outcome s _ _
  | updateCommunity => exact handleUpdateCommunity_outcome s _ _
  | ban => exact handleBan_outcome s _
  | unban => exact handleUnban_outcome s _
  | getBanList => exact handleGetBanList_outcome s
  | createRole =>
    exact ends_thenBroadcast env sender (handleCreateRole_outcome s _ _ _ _ _)
      keeps_broadcastRolesChanged
  | editRole =>
    exact ends_thenBroadcast env sender (handleEditRole_outcome s _ _) keeps_broadcastRolesChanged
  | deleteRole =>
    exact ends_thenBroadcast env sender (handleDeleteRole_outcome s _) keeps_broadcastRolesChanged
  | assignRole =>
    exact ends_thenBroadcast env sender (handleAssignRole_outcome s _ _)
      (keeps_broadcastMemberRolesChanged _)
  | unassignRole =>
    exact ends_thenBroadcast env sender (handleUnassignRole_outcome s _ _)
      (keeps_broadcastMemberRolesChanged _)
  | setChannelOverwrite => exact handleSetChannelOverwrite_outcome s _ _ _ _ _
  | deleteChannelOverwrite => exact handleDeleteChannelOverwrite_outcome s _ _ _
  | timeoutMember => exact handleTimeoutMember_outcome s _ _ _
  | removeTimeout => exact handleRemoveTimeout_outcome s _
  | getRoles => exact handleGetRoles_outcome s

end

/-- Every request has its outcome in one community. -/
theorem serve_outcome (state : ServerState) (incoming : IncomingRequest) :
    ∃ communityId, Outcome incoming.env incoming.sender communityId incoming.request state
      (serve state incoming) := by
  obtain ⟨env, sender, routing, request⟩ := incoming
  cases request with
  | join pseudonym displayName routeBlob =>
    obtain ⟨communityId, hJoin⟩ :=
      handleJoin_outcome env sender state routing pseudonym displayName routeBlob
    refine ⟨communityId, ?_⟩
    exact ends_refuseIf (Untouched.refl state) fun _ => hJoin
  | member request =>
    cases hTarget : resolveCommunityId routing with
    | none =>
      refine ⟨"", ?_⟩
      apply ends_check (Untouched.refl state)
      intro communityId hOk
      rw [hTarget] at hOk
      cases hOk
    | some communityId =>
      refine ⟨communityId, ?_⟩
      apply ends_check (Untouched.refl state)
      intro found hFound
      rw [hTarget] at hFound
      cases hFound
      exact handleRequest_outcome env sender communityId request state

/-- What a request does to a hosted community, whichever it was for. -/
theorem serve_changed (state : ServerState) (incoming : IncomingRequest) {communityId : String}
    {before : HostedCommunity} (hBefore : state.hosted.lookup communityId = some before) :
    ∃ after, (serve state incoming).hosted.lookup communityId = some after ∧
      Changed incoming.env incoming.sender incoming.request before after := by
  obtain ⟨target, hOutcome⟩ := serve_outcome state incoming
  rcases hOutcome.hosted with hSame | ⟨community, changed, hCommunity, hChanged, hInsert⟩
  · exact ⟨before, by rw [hSame]; exact hBefore, .inl (SameAuthority.refl before)⟩
  · by_cases hTarget : communityId = target
    · subst hTarget
      rw [hBefore] at hCommunity
      cases hCommunity
      exact ⟨changed, by rw [hInsert]; exact Finmap.lookup_insert _, hChanged⟩
    · refine ⟨before, ?_, .inl (SameAuthority.refl before)⟩
      rw [hInsert, Finmap.lookup_insert_of_ne _ hTarget]
      exact hBefore

theorem serve_bans (state : ServerState) (incoming : IncomingRequest) {communityId : String}
    {before : HostedCommunity} (hBefore : state.hosted.lookup communityId = some before)
    {row : BanRow} (hRow : row ∈ (serve state incoming).db.bannedMembers)
    (hCommunity : row.communityId = communityId) :
    row ∈ state.db.bannedMembers ∨
      incoming.request = .member (.ban row.pseudonymKeyHex) ∧
        Permitted incoming.env.now before incoming.sender banMembers ∧
        Outranks before incoming.sender row.pseudonymKeyHex := by
  obtain ⟨target, hOutcome⟩ := serve_outcome state incoming
  rcases hOutcome.bans row hRow with hOld | ⟨hTarget, hBan, community, hFound, hChecks⟩
  · exact .inl hOld
  · rw [← hTarget, hCommunity, hBefore] at hFound
    cases hFound
    exact .inr ⟨hBan, hChecks⟩

/-- A request hosts no community. -/
theorem serve_lookup_none (state : ServerState) (incoming : IncomingRequest) {communityId : String}
    (hNone : state.hosted.lookup communityId = none) :
    (serve state incoming).hosted.lookup communityId = none := by
  obtain ⟨target, hOutcome⟩ := serve_outcome state incoming
  rcases hOutcome.hosted with hSame | ⟨community, changed, hCommunity, _, hInsert⟩
  · rw [hSame]
    exact hNone
  · have hTarget : communityId ≠ target := by
      rintro rfl
      rw [hNone] at hCommunity
      cases hCommunity
    rw [hInsert, Finmap.lookup_insert_of_ne _ hTarget]
    exact hNone

end Rekindle.Server
