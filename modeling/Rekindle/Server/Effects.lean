import Rekindle.Server.Answers
import Rekindle.Server.Representation
import Rekindle.Server.Statements

/-! # What a request does when it is answered

One community changes in memory, and a list of statements is run on the tables.
-/
namespace Rekindle.Server
set_option autoImplicit false
open Fallible

structure RequestEffect where
  community : HostedCommunity
  statements : List Statement

/-! ## The effects of the requests -/

section
variable (env : Environment) (communityId sender : String) (community : HostedCommunity)

def mekStatement (newGeneration : UInt64) : Statement :=
  .insertMek
    { communityId := communityId, generation := min newGeneration.toNat i64Max
      keyBytes := env.mekKey, createdAt := env.timestampNow }

/-- A departure takes the member off the roster and changes the key. -/
def departure (target : String) : RequestEffect where
  community := { community with
    members := Keyed.remove ServerMember.pseudonymKeyHex target community.members
    mek := { generation := community.mek.generation + 1, key := env.mekKey } }
  statements := [.deleteMember communityId target, mekStatement env communityId (community.mek.generation + 1)]

def createdChannel (name channelType : String) : ServerChannel :=
  { id := "channel_" ++ env.channelSuffix, name := name, channelType := channelType
    sortOrder := min community.channels.length i32Max, permissionOverwrites := [] }

def createdRole (name : String) (color : UInt32) (permissions : Permissions) (hoist mentionable : Bool) :
    RoleDefinition :=
  { id := nextRoleId community.roles, name := name, color := color, permissions := permissions
    position := newRolePosition sender community, hoist := hoist, mentionable := mentionable }

def ChannelOverwriteOf (targetType targetId : String) (overwrite : PermissionOverwrite) : Bool :=
  overwrite.targetType == overwriteType targetType && overwrite.targetId == targetId

def MemberRequest.effect : MemberRequest → RequestEffect
  | .sendMessage channelId ciphertext mekGeneration =>
    ⟨community, [.insertMessage
      { communityId := communityId, channelId := channelId, senderPseudonym := sender
        ciphertext := ciphertext, mekGeneration := min mekGeneration.toNat i64Max
        timestamp := env.timestampNow }]⟩
  | .getMessages _ _ _ | .requestMek | .getBanList | .getRoles => ⟨community, []⟩
  | .leave => departure env communityId community sender
  | .kick target => departure env communityId community target
  | .createChannel name channelType =>
    let channel := createdChannel env community name channelType
    ⟨{ community with channels := community.channels ++ [channel] }, [.insertChannel
      { communityId := community.communityId, id := channel.id, name := channel.name
        channelType := channel.channelType, sortOrder := channel.sortOrder }]⟩
  | .deleteChannel channelId =>
    ⟨{ community with channels := Keyed.remove ServerChannel.id channelId community.channels },
      [.deleteChannel community.communityId channelId]⟩
  | .rotateMek =>
    ⟨{ community with mek := { generation := community.mek.generation + 1, key := env.mekKey } },
      [mekStatement env communityId (community.mek.generation + 1)]⟩
  | .renameChannel channelId newName =>
    ⟨{ community with
        channels := Keyed.update ServerChannel.id channelId (fun channel => { channel with name := newName })
          community.channels },
      [.updateChannelName community.communityId channelId newName]⟩
  | .updateCommunity newName newDescription =>
    ⟨{ community with
        name := newName.getD community.name, description := newDescription.getD community.description },
      (newName.map (Statement.rename communityId)).toList ++
        (newDescription.map (Statement.describe communityId)).toList⟩
  | .ban target =>
    let departed := departure env communityId community target
    ⟨departed.community, .insertOrReplaceBan
      { communityId := communityId, pseudonymKeyHex := target
        displayName := (findMember community.members target).elim "" ServerMember.displayName
        bannedAt := env.timestampNow } :: departed.statements⟩
  | .unban target => ⟨community, [.deleteBan community.communityId target]⟩
  | .createRole name color permissions hoist mentionable =>
    let role := createdRole sender community name color permissions hoist mentionable
    ⟨{ community with roles := community.roles ++ [role] }, [.insertRole ⟨community.communityId, role⟩]⟩
  | .editRole roleId edit =>
    ⟨{ community with roles := Keyed.update RoleDefinition.id roleId edit.apply community.roles },
      (findRole community.roles roleId).toList.map fun role =>
        .updateRole community.communityId (edit.apply role)⟩
  | .deleteRole roleId =>
    ⟨{ community with
        roles := Keyed.remove RoleDefinition.id roleId community.roles
        members := community.members.map (dropRole roleId) },
      [.deleteRole community.communityId roleId, .deleteRoleAssignments community.communityId roleId]⟩
  | .assignRole target roleId =>
    if (findMember community.members target).any (roleId ∈ ·.roleIds) then ⟨community, []⟩
    else
      ⟨{ community with
          members := updateMember community.members target fun member =>
            { member with roleIds := member.roleIds ++ [roleId] } },
        [.insertMemberRole
          { communityId := community.communityId, pseudonymKeyHex := target, roleId := roleId }]⟩
  | .unassignRole target roleId =>
    ⟨{ community with members := updateMember community.members target (dropRole roleId) },
      [.deleteMemberRole community.communityId target roleId]⟩
  | .setChannelOverwrite channelId targetType targetId allow deny =>
    let overwrite : PermissionOverwrite :=
      { targetType := overwriteType targetType, targetId := targetId, allow := allow, deny := deny }
    ⟨{ community with
        channels := Keyed.update ServerChannel.id channelId (fun channel => { channel with
          permissionOverwrites := upsertOverwrite overwrite channel.permissionOverwrites })
          community.channels },
      [.insertOrReplaceOverwrite
        { communityId := community.communityId, channelId := channelId, targetType := targetType
          targetId := targetId, allowBits := allow, denyBits := deny }]⟩
  | .deleteChannelOverwrite channelId targetType targetId =>
    ⟨{ community with
        channels := Keyed.update ServerChannel.id channelId (fun channel => { channel with
          permissionOverwrites := channel.permissionOverwrites.filter fun overwrite =>
            !ChannelOverwriteOf targetType targetId overwrite })
          community.channels },
      [.deleteOverwrite community.communityId channelId targetType targetId]⟩
  | .timeoutMember target durationSeconds reason =>
    ⟨{ community with
        members := updateMember community.members target (setTimeout (some (env.now + durationSeconds))) },
      [.insertOrReplaceTimeout
        { communityId := community.communityId, pseudonymKeyHex := target
          timeoutUntil := env.now + durationSeconds, reason := reason }]⟩
  | .removeTimeout target =>
    ⟨{ community with members := updateMember community.members target (setTimeout none) },
      [.deleteTimeout community.communityId target]⟩

def joinStatements (displayName : String) (routeBlob : Option (List UInt8)) : List Statement :=
  .insertMember
      { communityId := communityId, pseudonymKeyHex := sender, displayName := displayName
        joinedAt := env.timestampNow, routeBlob := none } ::
    (defaultRoleIds community.members.isEmpty).map (fun roleId => .insertMemberRole
      { communityId := communityId, pseudonymKeyHex := sender, roleId := roleId }) ++
    (if community.members.isEmpty then [.recordCreator communityId sender] else []) ++
    (routeBlob.map (Statement.updateRouteBlob community.communityId sender)).toList

def joinEffect (displayName : String) (routeBlob : Option (List UInt8)) : RequestEffect :=
  match findMember community.members sender, routeBlob with
  | none, routeBlob =>
    ⟨(Change.join displayName env.timestampNow routeBlob).apply sender community,
      joinStatements env communityId sender community displayName routeBlob⟩
  | some _, none => ⟨community, []⟩
  | some _, some blob =>
    ⟨(Change.rejoin blob).apply sender community, [.updateRouteBlob communityId sender blob]⟩

end

/-! ## Statements in a row -/

/-- Every statement is run; one that the database refuses leaves it as it is. -/
def runAll (statements : List Statement) (db : Database) : Database :=
  statements.foldl (fun db statement => (statement.run db).getD db) db

/-- Only these statements are run, and all of them when the database never fails. -/
structure Ran (statements : List Statement) (before after : ServerState) : Prop where
  edited : Edited (· ∈ statements) before after
  exact : true ∉ before.dbFaults → after.db = runAll statements before.db

structure Wrote (statements : List Statement) (before after : ServerState) : Prop where
  hosted : after.hosted = before.hosted
  ran : Ran statements before after

/-- A computation that, when it returns, ran these statements. -/
def Writes {ε α : Type} (statements : List Statement) (x : EStateM ε ServerState α) : Prop :=
  ∀ s, Returns (fun _ t => Wrote statements s t) x s

section
variable {ε α β : Type} {s t u : ServerState} {first second : List Statement}

theorem Ran.refl (s : ServerState) : Ran [] s s := ⟨refl_of (Edited _) s, fun _ => rfl⟩

theorem Ran.append (hFirst : Ran first s t) (hSecond : Ran second t u) : Ran (first ++ second) s u := by
  refine ⟨trans_of (Edited _) (hFirst.edited.mono fun _ => List.mem_append_left second)
    (hSecond.edited.mono fun _ => List.mem_append_right first), fun hFaults => ?_⟩
  have hLater : true ∉ t.dbFaults := fun hFault => hFaults (hFirst.edited.faults.subset hFault)
  rw [hSecond.exact hLater, hFirst.exact hFaults]
  exact List.foldl_append.symm

theorem Wrote.refl (s : ServerState) : Wrote [] s s := ⟨rfl, .refl s⟩

theorem Wrote.append (hFirst : Wrote first s t) (hSecond : Wrote second t u) : Wrote (first ++ second) s u :=
  ⟨hSecond.hosted.trans hFirst.hosted, hFirst.ran.append hSecond.ran⟩

theorem Writes.bind {x : EStateM ε ServerState α} {f : α → EStateM ε ServerState β} (hFirst : Writes first x)
    (hRest : ∀ a, Writes second (f a)) : Writes (first ++ second) (x >>= f) :=
  fun s => (hFirst s).bind fun a t hT b u hRun => hT.append (hRest a t b u hRun)

theorem writes_pure (a : α) : Writes [] (pure a : EStateM ε ServerState α) := fun s => returns_pure (.refl s)

theorem writes_ofExcept (r : Except ε α) : Writes [] (ofExcept r : EStateM ε ServerState α) := by
  intro s a t hRun
  cases r with
  | ok => cases hRun; exact .refl s
  | error => cases hRun

theorem writes_execute (statement : Statement) :
    Writes [statement] (execute (fun db => statement.run db) : EStateM ε ServerState Bool) := by
  intro s
  have hEdited := @edited_execute (· ∈ [statement]) ε statement List.mem_cons_self s
  refine fun a t hRun => ?_
  rw [hRun] at hEdited
  cases hRun
  refine ⟨rfl, hEdited, fun hFaults => ?_⟩
  change ((if s.dbFaults.headD false then none else statement.run s.db).getD s.db) = _
  rw [headD_faultless hFaults]
  rfl

theorem writes_executeIgnoring (statement : Statement) :
    Writes [statement] (executeIgnoring (fun db => statement.run db) : EStateM ε ServerState Unit) :=
  (writes_execute statement).bind fun _ => writes_pure _

theorem writes_query (read : Database → α) : Writes [] (query read : EStateM ε ServerState (Option α)) := by
  rintro s a t ⟨⟩
  exact ⟨rfl, ⟨.refl, List.tail_suffix _⟩, fun _ => rfl⟩

theorem writes_lookupCommunity (communityId : String) :
    Writes [] (lookupCommunity communityId : EStateM ε ServerState _) := by
  rintro s a t ⟨⟩
  exact .refl s

theorem writes_broadcastToMembers (communityId exclude : String) (broadcast : CommunityBroadcast) :
    Writes [] (broadcastToMembers communityId exclude broadcast : EStateM ε ServerState Unit) := by
  rintro s a t ⟨⟩
  exact ⟨rfl, ⟨.refl, List.suffix_refl _⟩, fun _ => rfl⟩

theorem writes_option_forM (value : Option α) {f : α → EStateM ε ServerState PUnit} {statements : α → List Statement}
    (h : ∀ a, Writes (statements a) (f a)) : Writes (value.elim [] statements) (value.forM f) := by
  cases value with
  | none => exact writes_pure _
  | some a => exact h a

theorem writes_list_forM (values : List α) {f : α → EStateM ε ServerState PUnit} {statement : α → Statement}
    (h : ∀ a, Writes [statement a] (f a)) : Writes (values.map statement) (values.forM f) := by
  induction values with
  | nil => exact writes_pure _
  | cons a rest ih => exact (h a).bind fun _ => ih

end

section
variable {β : Type} {communityId sender : String} {s t : ServerState} {P : β → ServerState → Prop}
  {effect : HostedCommunity → RequestEffect}

/-- The community in memory has changed as the effect says, and its statements were run. -/
structure Performed (communityId : String) (community : HostedCommunity) (effect : RequestEffect)
    (before after : ServerState) : Prop where
  found : before.hosted.lookup communityId = some community
  hosted : ∀ other, after.hosted.lookup other =
    (before.hosted.insert communityId effect.community).lookup other
  ran : Ran effect.statements before after

theorem returns_getCommunity {missing : RpcError} {f : HostedCommunity → ServerM β}
    (h : ∀ community, s.hosted.lookup communityId = some community → Returns P (f community) s) :
    Returns P (getCommunity communityId missing >>= f) s := by
  unfold getCommunity
  rw [bind_assoc]
  change Returns P (ofExcept (orThrow (s.hosted.lookup communityId) missing) >>= f) s
  exact .bind_ofExcept fun community hOk => h community (orThrow_eq_ok_iff.mp hOk)

theorem returns_openCommunity {env : Environment} {required : Permissions} {f : HostedCommunity → ServerM β}
    (h : ∀ community, s.hosted.lookup communityId = some community → Returns P (f community) s) :
    Returns P (openCommunity env communityId sender required >>= f) s := by
  unfold openCommunity
  simp only [bind_assoc, pure_bind]
  exact returns_getCommunity fun community hCommunity => .bind_ofExcept fun _ _ => .bind_ofExcept fun _ _ =>
    h community hCommunity

/-- The effect leaves the community in memory. -/
theorem Wrote.performed {community : HostedCommunity} {statements : List Statement} (h : Wrote statements s t)
    (hCommunity : s.hosted.lookup communityId = some community) :
    Performed communityId community ⟨community, statements⟩ s t := by
  refine ⟨hCommunity, fun other => ?_, h.ran⟩
  rw [h.hosted]
  by_cases hOther : other = communityId
  · rw [hOther, Finmap.lookup_insert, hCommunity]
  · rw [Finmap.lookup_insert_of_ne _ hOther]

end

/-! ## Handlers -/

section
variable (env : Environment) (communityId sender : String) (s : ServerState)

/-- A handler that answers has had the effect. -/
abbrev Performs {α : Type} (communityId : String) (effect : HostedCommunity → RequestEffect) (x : ServerM α)
    (s : ServerState) : Prop :=
  Returns (fun _ t => ∃ community, Performed communityId community (effect community) s t) x s

section
variable {communityId} {s} {α : Type} {community : HostedCommunity} {effect : HostedCommunity → RequestEffect}

theorem Writes.performs {statements : List Statement} {x : ServerM α} (h : Writes statements x)
    (hCommunity : s.hosted.lookup communityId = some community)
    (hEffect : effect community = ⟨community, statements⟩) : Performs communityId effect x s :=
  fun a t hRun => ⟨_, hEffect ▸ (h s a t hRun).performed hCommunity⟩

/-- A write to the community with the statements before and after it. -/
theorem Wrote.performs_setCommunity {t : ServerState} {changed : HostedCommunity} {first second : List Statement}
    (hBefore : Wrote first s t) (hCommunity : s.hosted.lookup communityId = some community)
    {f : Unit → ServerM α} (hRest : Writes second (f ())) (hEffect : effect community = ⟨changed, first ++ second⟩) :
    Returns (fun _ u => ∃ found, Performed communityId found (effect found) s u)
      (setCommunity communityId changed >>= f) t := by
  intro a u hRun
  have hAfter : Wrote second { t with hosted := t.hosted.insert communityId changed } u := hRest _ a u hRun
  have hLater : Ran second t u := ⟨⟨hAfter.ran.edited.tables, hAfter.ran.edited.faults⟩, hAfter.ran.exact⟩
  refine ⟨community, hEffect ▸ ⟨hCommunity, fun other => ?_, hBefore.ran.append hLater⟩⟩
  rw [hAfter.hosted, hBefore.hosted]

theorem performs_setCommunity {changed : HostedCommunity} {statements : List Statement} {f : Unit → ServerM α}
    (hCommunity : s.hosted.lookup communityId = some community) (hRest : Writes statements (f ()))
    (hEffect : effect community = ⟨changed, statements⟩) :
    Performs communityId effect (setCommunity communityId changed >>= f) s :=
  (Wrote.refl s).performs_setCommunity hCommunity hRest hEffect

end

theorem handleSendMessage_performs (channelId : String) (ciphertext : List UInt8) (mekGeneration : UInt64) :
    Performs communityId (fun community => MemberRequest.effect env communityId sender community
        (.sendMessage channelId ciphertext mekGeneration))
      (handleSendMessage env communityId sender channelId ciphertext mekGeneration) s := by
  refine returns_getCommunity fun community hCommunity => .bind_ofExcept fun _ _ => .bind_ofExcept fun _ _ =>
    .bind_ofExcept fun _ _ => Writes.performs ?_ hCommunity rfl
  exact (writes_execute (.insertMessage _)).bind fun stored => (writes_ofExcept _).bind fun _ =>
    (writes_broadcastToMembers _ _ _).bind fun _ => writes_pure _

theorem handleRequestMek_performs :
    Performs communityId (fun community => MemberRequest.effect env communityId sender community .requestMek)
      (handleRequestMek communityId sender) s :=
  returns_getCommunity fun _ hCommunity => .bind_ofExcept fun _ _ =>
    (writes_pure _).performs hCommunity rfl

theorem handleDeleteChannel_performs (channelId : String) :
    Performs communityId (fun community => MemberRequest.effect env communityId sender community
        (.deleteChannel channelId))
      (handleDeleteChannel env communityId sender channelId) s := by
  refine returns_openCommunity fun community hCommunity => performs_setCommunity hCommunity ?_ rfl
  exact (writes_executeIgnoring (.deleteChannel _ channelId)).bind fun _ => writes_pure _

theorem handleGetRoles_performs :
    Performs communityId (fun community => MemberRequest.effect env communityId sender community .getRoles)
      (handleGetRoles communityId sender) s :=
  returns_getCommunity fun _ hCommunity => .bind_ofExcept fun _ _ =>
    (writes_pure _).performs hCommunity rfl

theorem handleGetBanList_performs :
    Performs communityId (fun community => MemberRequest.effect env communityId sender community .getBanList)
      (handleGetBanList env communityId sender) s := by
  refine returns_openCommunity fun community hCommunity => Writes.performs ?_ hCommunity rfl
  exact (writes_query _).bind fun _ => writes_pure _

theorem handleUnban_performs (target : String) :
    Performs communityId (fun community => MemberRequest.effect env communityId sender community (.unban target))
      (handleUnban env communityId sender target) s := by
  refine returns_openCommunity fun community hCommunity => Writes.performs ?_ hCommunity rfl
  exact (writes_executeIgnoring (.deleteBan _ target)).bind fun _ => writes_pure _

/-! ### Departures -/

theorem writes_broadcastDeparture : Writes [] (broadcastDeparture communityId sender) := by
  refine (writes_broadcastToMembers _ _ _).bind fun _ => (writes_lookupCommunity _).bind fun community => ?_
  cases community with
  | none => exact writes_pure _
  | some community => exact writes_broadcastToMembers _ _ _

theorem writes_verifyMembershipIfHosted : Writes [] (verifyMembershipIfHosted communityId sender) :=
  (writes_lookupCommunity _).bind fun _ => writes_ofExcept _

theorem writes_rotateMek {ε : Type} (newGeneration : UInt64) :
    Writes [mekStatement env communityId newGeneration]
      (rotateMek env communityId newGeneration : EStateM ε ServerState MediaEncryptionKey) :=
  (writes_executeIgnoring (mekStatement env communityId newGeneration)).bind fun _ => writes_pure _

variable {communityId s} in
/-- A departure after other statements. -/
theorem Wrote.departs {first : List Statement} {t : ServerState} {community : HostedCommunity}
    {effect : HostedCommunity → RequestEffect} (target : String) (hBefore : Wrote first s t)
    (hCommunity : s.hosted.lookup communityId = some community)
    (hEffect : effect community = ⟨(departure env communityId community target).community,
      first ++ (departure env communityId community target).statements⟩) :
    Returns (fun _ u => ∃ found, Performed communityId found (effect found) s u)
      (handleLeave env communityId target) t := by
  refine Returns.bind (writes_verifyMembershipIfHosted communityId target t) fun _ checked hChecked => ?_
  refine Returns.bind (writes_executeIgnoring (.deleteMember communityId target) checked) fun _ deleted hDeleted => ?_
  have hGone := hBefore.append (hChecked.append hDeleted)
  unfold removeMember
  rw [bind_assoc]
  apply returns_lookupCommunity
  rw [hGone.hosted, hCommunity]
  simp only [rotateMek, bind_assoc, pure_bind]
  refine Returns.bind (writes_executeIgnoring (mekStatement env communityId _) deleted) fun _ rotated hRotated => ?_
  refine (hGone.append hRotated).performs_setCommunity hCommunity
    ((writes_broadcastDeparture communityId target).bind fun _ => writes_pure _) ?_
  simp only [hEffect, departure, List.nil_append, List.append_nil, List.append_assoc, List.cons_append]

theorem handleLeave_stray (hCommunity : s.hosted.lookup communityId = none) :
    Returns (fun _ t => Wrote [.deleteMember communityId sender] s t) (handleLeave env communityId sender) s := by
  have hRemoved : ∀ t : ServerState, t.hosted = s.hosted →
      Returns (fun _ u => Wrote [] t u) (removeMember env communityId sender) t := by
    intro t hSame
    unfold removeMember
    apply returns_lookupCommunity
    rw [hSame, hCommunity]
    exact writes_pure _ t
  refine Returns.bind (writes_verifyMembershipIfHosted communityId sender s) fun _ checked hChecked => ?_
  refine Returns.bind (writes_executeIgnoring (.deleteMember communityId sender) checked) fun _ deleted hDeleted => ?_
  have hGone := hChecked.append hDeleted
  refine Returns.bind (hRemoved deleted hGone.hosted) fun _ removed hRemoved => ?_
  refine Returns.bind (writes_broadcastDeparture communityId sender removed) fun _ t hTold => ?_
  exact returns_pure (hGone.append (hRemoved.append hTold))

theorem handleKick_performs (target : String) :
    Performs communityId (fun community => MemberRequest.effect env communityId sender community (.kick target))
      (handleKick env communityId sender target) s :=
  returns_getCommunity fun _ hCommunity => .bind_ofExcept fun _ _ => .bind_ofExcept fun _ _ =>
    .bind_ofExcept fun _ _ => (Wrote.refl s).departs env target hCommunity rfl

theorem handleBan_performs (target : String) :
    Performs communityId (fun community => MemberRequest.effect env communityId sender community (.ban target))
      (handleBan env communityId sender target) s := by
  refine returns_openCommunity fun community hCommunity => .bind_ofExcept fun _ _ => .bind_ofExcept fun _ _ => ?_
  exact Returns.bind (writes_executeIgnoring (.insertOrReplaceBan _) s) fun _ t hBanned =>
    hBanned.departs env target hCommunity rfl

/-! ### Channels and keys -/

theorem handleCreateChannel_performs (name channelType : String) :
    Performs communityId (fun community => MemberRequest.effect env communityId sender community
        (.createChannel name channelType))
      (handleCreateChannel env communityId sender name channelType) s := by
  refine returns_openCommunity fun community hCommunity => .bind_ofExcept fun _ _ => ?_
  refine Returns.bind (writes_execute (.insertChannel _) s) fun _ t hStored => .bind_ofExcept fun _ _ =>
    hStored.performs_setCommunity hCommunity (writes_pure _) rfl

theorem handleRenameChannel_performs (channelId newName : String) :
    Performs communityId (fun community => MemberRequest.effect env communityId sender community
        (.renameChannel channelId newName))
      (handleRenameChannel env communityId sender channelId newName) s := by
  refine returns_openCommunity fun community hCommunity => .bind_ofExcept fun _ _ =>
    performs_setCommunity hCommunity ?_ rfl
  exact (writes_executeIgnoring (.updateChannelName _ channelId newName)).bind fun _ => writes_pure _

theorem handleRotateMek_performs :
    Performs communityId (fun community => MemberRequest.effect env communityId sender community .rotateMek)
      (handleRotateMek env communityId sender) s := by
  refine returns_openCommunity fun community hCommunity => ?_
  simp only [rotateMek, bind_assoc, pure_bind]
  refine Returns.bind (writes_executeIgnoring (mekStatement env communityId _) s) fun _ t hRotated => ?_
  exact hRotated.performs_setCommunity hCommunity
    ((writes_broadcastToMembers _ _ _).bind fun _ => writes_pure _) rfl

theorem handleUpdateCommunity_performs (newName newDescription : Option String) :
    Performs communityId (fun community => MemberRequest.effect env communityId sender community
        (.updateCommunity newName newDescription))
      (handleUpdateCommunity env communityId sender newName newDescription) s := by
  refine returns_openCommunity fun community hCommunity => performs_setCommunity hCommunity
    ((writes_option_forM newName fun name => writes_executeIgnoring (.rename communityId name)).bind fun _ =>
      (writes_option_forM newDescription fun description =>
        writes_executeIgnoring (.describe communityId description)).bind fun _ => writes_pure _) ?_
  cases newName <;> cases newDescription <;> rfl

theorem handleSetChannelOverwrite_performs (channelId targetType targetId : String) (allow deny : Permissions) :
    Performs communityId (fun community => MemberRequest.effect env communityId sender community
        (.setChannelOverwrite channelId targetType targetId allow deny))
      (handleSetChannelOverwrite env communityId sender channelId targetType targetId allow deny) s := by
  refine returns_openCommunity fun community hCommunity => .bind_ofExcept fun _ _ =>
    performs_setCommunity hCommunity ?_ rfl
  exact (writes_executeIgnoring (.insertOrReplaceOverwrite _)).bind fun _ =>
    (writes_broadcastToMembers _ _ _).bind fun _ => writes_pure _

theorem handleDeleteChannelOverwrite_performs (channelId targetType targetId : String) :
    Performs communityId (fun community => MemberRequest.effect env communityId sender community
        (.deleteChannelOverwrite channelId targetType targetId))
      (handleDeleteChannelOverwrite env communityId sender channelId targetType targetId) s := by
  refine returns_openCommunity fun community hCommunity => performs_setCommunity hCommunity ?_ rfl
  exact (writes_executeIgnoring (.deleteOverwrite _ channelId targetType targetId)).bind fun _ => writes_pure _

/-! ### Roles -/

theorem handleCreateRole_performs (name : String) (color : UInt32) (permissions : Permissions)
    (hoist mentionable : Bool) :
    Performs communityId (fun community => MemberRequest.effect env communityId sender community
        (.createRole name color permissions hoist mentionable))
      (handleCreateRole env communityId sender name color permissions hoist mentionable) s := by
  refine returns_openCommunity fun community hCommunity => ?_
  refine Returns.bind (writes_execute (.insertRole _) s) fun _ t hStored => .bind_ofExcept fun _ _ =>
    hStored.performs_setCommunity hCommunity (writes_pure _) rfl

theorem handleEditRole_performs (roleId : UInt32) (edit : RoleEdit) :
    Performs communityId (fun community => MemberRequest.effect env communityId sender community
        (.editRole roleId edit))
      (handleEditRole env communityId sender roleId edit) s := by
  refine returns_openCommunity fun community hCommunity => .bind_ofExcept fun role hRole =>
    .bind_ofExcept fun _ _ => performs_setCommunity hCommunity
      ((writes_executeIgnoring (.updateRole _ (edit.apply role))).bind fun _ => writes_pure _) ?_
  rw [orThrow_eq_ok_iff] at hRole
  simp only [MemberRequest.effect, hRole]
  rfl

theorem handleDeleteRole_performs (roleId : UInt32) :
    Performs communityId (fun community => MemberRequest.effect env communityId sender community
        (.deleteRole roleId))
      (handleDeleteRole env communityId sender roleId) s := by
  refine .bind_ofExcept fun _ _ => returns_openCommunity fun community hCommunity => .bind_ofExcept fun _ _ =>
    performs_setCommunity hCommunity ?_ rfl
  exact (writes_executeIgnoring (.deleteRole _ roleId)).bind fun _ =>
    (writes_executeIgnoring (.deleteRoleAssignments _ roleId)).bind fun _ => writes_pure _

theorem handleAssignRole_performs (target : String) (roleId : UInt32) :
    Performs communityId (fun community => MemberRequest.effect env communityId sender community
        (.assignRole target roleId))
      (handleAssignRole env communityId sender target roleId) s := by
  refine returns_openCommunity fun community hCommunity => .bind_ofExcept fun _ _ => .bind_ofExcept fun _ _ =>
    .bind_ofExcept fun member hMember => ?_
  rw [orThrow_eq_ok_iff] at hMember
  by_cases hHeld : roleId ∈ member.roleIds
  · have hEffect : MemberRequest.effect env communityId sender community (.assignRole target roleId) =
        ⟨community, []⟩ := by
      simp [MemberRequest.effect, hMember, hHeld]
    simp only [hHeld, not_true_eq_false, if_false]
    exact (writes_pure _).performs hCommunity hEffect
  · simp only [hHeld, not_false_eq_true, if_true]
    refine performs_setCommunity hCommunity ((writes_executeIgnoring
      (.insertMemberRole ⟨community.communityId, target, roleId⟩)).bind fun _ => writes_pure _) ?_
    simp [MemberRequest.effect, hMember, hHeld]

theorem handleUnassignRole_performs (target : String) (roleId : UInt32) :
    Performs communityId (fun community => MemberRequest.effect env communityId sender community
        (.unassignRole target roleId))
      (handleUnassignRole env communityId sender target roleId) s := by
  refine .bind_ofExcept fun _ _ => returns_openCommunity fun community hCommunity => .bind_ofExcept fun _ _ =>
    .bind_ofExcept fun _ _ => performs_setCommunity hCommunity ?_ rfl
  exact (writes_executeIgnoring (.deleteMemberRole _ target roleId)).bind fun _ => writes_pure _

/-! ### Timeouts -/

theorem handleTimeoutMember_performs (target : String) (durationSeconds : UInt64) (reason : Option String) :
    Performs communityId (fun community => MemberRequest.effect env communityId sender community
        (.timeoutMember target durationSeconds reason))
      (handleTimeoutMember env communityId sender target durationSeconds reason) s := by
  refine returns_openCommunity fun community hCommunity => .bind_ofExcept fun _ _ => .bind_ofExcept fun _ _ =>
    performs_setCommunity hCommunity ?_ rfl
  exact (writes_executeIgnoring (.insertOrReplaceTimeout _)).bind fun _ =>
    (writes_broadcastToMembers _ _ _).bind fun _ => writes_pure _

theorem handleRemoveTimeout_performs (target : String) :
    Performs communityId (fun community => MemberRequest.effect env communityId sender community
        (.removeTimeout target))
      (handleRemoveTimeout env communityId sender target) s := by
  refine returns_openCommunity fun community hCommunity => performs_setCommunity hCommunity ?_ rfl
  exact (writes_executeIgnoring (.deleteTimeout _ target)).bind fun _ =>
    (writes_broadcastToMembers _ _ _).bind fun _ => writes_pure _

/-! ### Joins -/

theorem writes_insertMemberRows {ε : Type} (displayName : String) (roleIds : List UInt32) :
    Writes (.insertMember
        { communityId := communityId, pseudonymKeyHex := sender, displayName := displayName
          joinedAt := env.timestampNow, routeBlob := none } ::
        roleIds.map fun roleId => .insertMemberRole
          { communityId := communityId, pseudonymKeyHex := sender, roleId := roleId })
      (insertMemberRows env communityId sender displayName roleIds : EStateM ε ServerState Unit) :=
  (writes_executeIgnoring (.insertMember _)).bind fun _ => writes_list_forM roleIds fun _ =>
    writes_executeIgnoring (.insertMemberRole _)

theorem writes_recordCreator (isFirstMember : Bool) :
    Writes (if isFirstMember then [.recordCreator communityId sender] else [])
      (recordCreator communityId sender isFirstMember) := by
  cases isFirstMember with
  | false => exact writes_pure _
  | true => exact writes_executeIgnoring (.recordCreator communityId sender)

theorem joinAsNewMember_performs (displayName : String) (routeBlob : Option (List UInt8))
    {community : HostedCommunity} (hCommunity : s.hosted.lookup communityId = some community)
    (hNew : findMember community.members sender = none) {t : ServerState} (hBefore : Wrote [] s t) :
    Returns (fun _ u => ∃ found, Performed communityId found
        (joinEffect env communityId sender found displayName routeBlob) s u)
      (joinAsNewMember env communityId sender displayName routeBlob) t := by
  unfold joinAsNewMember addNewMember
  simp only [bind_assoc]
  apply returns_lookupCommunity
  rw [hBefore.hosted, hCommunity, Option.any_some]
  refine Returns.bind (writes_insertMemberRows env communityId sender displayName _ t) fun _ inserted hInserted => ?_
  unfold pushMember
  rw [bind_assoc]
  apply returns_lookupCommunity
  rw [hInserted.hosted, hBefore.hosted, hCommunity]
  simp only [bind_assoc, pure_bind]
  refine Returns.bind (writes_recordCreator communityId sender _ inserted) fun _ recorded hRecorded => ?_
  refine (hBefore.append (hInserted.append hRecorded)).performs_setCommunity hCommunity
    ((writes_option_forM routeBlob fun blob =>
      writes_executeIgnoring (.updateRouteBlob community.communityId sender blob)).bind fun _ =>
      (writes_broadcastToMembers _ _ _).bind fun _ => writes_pure _) ?_
  simp only [joinEffect, hNew, joinStatements, Change.apply, newMember]
  cases routeBlob <;> simp

theorem joinAsNewMember_stray (displayName : String) (routeBlob : Option (List UInt8))
    (hCommunity : s.hosted.lookup communityId = none) (P : CommunityResponse → ServerState → Prop) :
    Returns P (joinAsNewMember env communityId sender displayName routeBlob) s := by
  unfold joinAsNewMember addNewMember
  simp only [bind_assoc]
  apply returns_lookupCommunity
  refine Returns.bind (writes_insertMemberRows env communityId sender displayName _ s) fun _ inserted hInserted => ?_
  unfold pushMember
  rw [bind_assoc]
  apply returns_lookupCommunity
  rw [hInserted.hosted, hCommunity]
  rintro a t ⟨⟩

theorem rejoinOrJoin_performs (displayName : String) (routeBlob : Option (List UInt8)) :
    Performs communityId (fun community => joinEffect env communityId sender community displayName routeBlob)
      (handleRejoin communityId sender routeBlob >>= fun
        | some response => pure response
        | none => joinAsNewMember env communityId sender displayName routeBlob) s := by
  unfold handleRejoin
  rw [bind_assoc]
  apply returns_lookupCommunity
  cases hCommunity : s.hosted.lookup communityId with
  | none => exact joinAsNewMember_stray env communityId sender s displayName routeBlob hCommunity _
  | some community =>
    cases hMember : findMember community.members sender with
    | none =>
      simp only [hMember, pure_bind]
      exact joinAsNewMember_performs env communityId sender s displayName routeBlob hCommunity hMember (.refl s)
    | some member =>
      cases routeBlob with
      | none =>
        simp only [hMember, pure_bind]
        refine (writes_pure _).performs hCommunity ?_
        simp only [joinEffect, hMember]
      | some blob =>
        simp only [hMember, bind_assoc, pure_bind]
        refine performs_setCommunity hCommunity ((writes_executeIgnoring
          (.updateRouteBlob communityId sender blob)).bind fun _ => writes_pure _) ?_
        simp only [joinEffect, hMember]
        rfl

theorem handleJoin_performs (routing : Routing) (displayName : String) (routeBlob : Option (List UInt8)) :
    Returns (fun _ t => ∃ communityId community, routing.joinTarget = some communityId ∧
        Performed communityId community (joinEffect env communityId sender community displayName routeBlob) s t)
      (handleJoin env sender routing displayName routeBlob) s := by
  refine .bind_ofExcept fun communityId hTarget => ?_
  rw [orThrow_eq_ok_iff] at hTarget
  apply returns_lookupCommunity
  refine .bind_ofExcept fun _ _ => ?_
  have hCheck : Writes [] (checkNotBanned communityId sender) :=
    (writes_query _).bind fun _ => writes_ofExcept _
  refine Returns.bind (hCheck s) fun _ t hChecked a u hRun => ?_
  obtain ⟨community, hPerformed⟩ :=
    rejoinOrJoin_performs env communityId sender t displayName routeBlob a u hRun
  refine ⟨communityId, community, hTarget, ?_, fun other => ?_, hChecked.ran.append hPerformed.ran⟩
  · rw [← hChecked.hosted, hPerformed.found]
  · rw [hPerformed.hosted, hChecked.hosted]

end

/-! ## Requests -/

/-- The community whose rows the statement is about. -/
def Statement.communityId : Statement → String
  | .insertCommunity row => row.id
  | .deleteCommunity communityId | .rename communityId _ | .describe communityId _
  | .recordCreator communityId _ | .deleteMember communityId _ | .updateRouteBlob communityId _ _
  | .deleteBan communityId _ | .updateRole communityId _ | .deleteRole communityId _
  | .deleteRoleAssignments communityId _ | .deleteMemberRole communityId _ _ | .deleteChannel communityId _
  | .updateChannelName communityId _ _ | .deleteOverwrite communityId _ _ _
  | .deleteTimeout communityId _ => communityId
  | .insertMember row => row.communityId
  | .insertMemberRole row => row.communityId
  | .insertMek row | .insertOrReplaceMek row => row.communityId
  | .insertOrReplaceBan row => row.communityId
  | .insertRole row | .insertRoleOrIgnore row => row.communityId
  | .insertChannel row => row.communityId
  | .insertOrReplaceOverwrite row => row.communityId
  | .insertOrReplaceTimeout row => row.communityId
  | .insertMessage row => row.communityId

/-- The statement touches no row of a hosted community but its bans. -/
def Statement.Idle (s : ServerState) (statement : Statement) : Prop :=
  s.hosted.lookup statement.communityId = none ∨ ∃ row, statement = .insertOrReplaceBan row

/-- What a request runs that has no effect: it deletes the sender of a Leave or adds rows of a Join in communities
that are not hosted, or stores a ban. -/
def Statement.Stray (s : ServerState) (Departs : String → String → Prop) : Statement → Prop
  | .deleteMember communityId pseudonym => s.hosted.lookup communityId = none ∧ Departs communityId pseudonym
  | .insertMember row => s.hosted.lookup row.communityId = none
  | .insertMemberRole row => s.hosted.lookup row.communityId = none
  | .insertOrReplaceBan _ => True
  | _ => False

theorem Statement.Stray.idle {s : ServerState} {Departs : String → String → Prop} {statement : Statement}
    (h : statement.Stray s Departs) : statement.Idle s := by
  cases statement with
  | deleteMember => exact .inl h.1
  | insertMember | insertMemberRole => exact .inl h
  | insertOrReplaceBan row => exact .inr ⟨row, rfl⟩
  | _ => exact h.elim

theorem Statement.Stray.mono {s : ServerState} {First Second : String → String → Prop} {statement : Statement}
    (h : statement.Stray s First) (hDeparts : ∀ id pseudonym, First id pseudonym → Second id pseudonym) :
    statement.Stray s Second := by
  cases statement with
  | deleteMember id pseudonym => exact ⟨h.1, hDeparts id pseudonym h.2⟩
  | _ => exact h

def IncomingRequest.effect (incoming : IncomingRequest) (communityId : String) (community : HostedCommunity) :
    RequestEffect :=
  match incoming.request with
  | .join _ displayName routeBlob =>
    joinEffect incoming.env communityId incoming.sender community displayName routeBlob
  | .member request => request.effect incoming.env communityId incoming.sender community

section
variable (env : Environment) (sender communityId : String) (s : ServerState)

theorem Performs.thenBroadcast {effect : HostedCommunity → RequestEffect} {handler : ServerM CommunityResponse}
    {broadcast : ServerM Unit} (hHandler : Performs communityId effect handler s)
    (hBroadcast : Writes [] broadcast) : Performs communityId effect (thenBroadcast handler broadcast) s := by
  refine Returns.bind hHandler fun response t hPerformed => ?_
  obtain ⟨community, hFound, hHosted, hRan⟩ := hPerformed
  refine Returns.bind (hBroadcast t) fun _ u hTold => returns_pure ⟨community, hFound, fun other => ?_, ?_⟩
  · rw [hTold.hosted, hHosted]
  · exact List.append_nil (effect community).statements ▸ hRan.append hTold.ran

theorem writes_broadcastRolesChanged : Writes [] (broadcastRolesChanged communityId) := by
  refine (writes_lookupCommunity _).bind fun community => ?_
  cases community with
  | none => exact writes_pure _
  | some community => exact writes_broadcastToMembers _ _ _

theorem writes_broadcastMemberRolesChanged (target : String) :
    Writes [] (broadcastMemberRolesChanged communityId target) := by
  refine (writes_lookupCommunity _).bind fun community => ?_
  cases community with
  | none => exact writes_pure _
  | some community => exact writes_broadcastToMembers _ _ _

variable {s} in
theorem Wrote.beside {t : ServerState} {statements : List Statement} {allowed : Statement → Prop}
    (h : Wrote statements s t) (hAllowed : ∀ statement ∈ statements, allowed statement) : Beside allowed s t :=
  ⟨h.hosted, h.ran.edited.mono hAllowed⟩

/-- The sender leaves the community. -/
def LeavesAs (request : MemberRequest) (id pseudonym : String) : Prop :=
  request = .leave ∧ id = communityId ∧ pseudonym = sender

theorem handleGetMessages_writes (channelId : String) (beforeTimestamp : Option UInt64) (limit : UInt32) :
    Writes [] (handleGetMessages communityId sender channelId beforeTimestamp limit) :=
  (writes_verifyMembershipIfHosted communityId sender).bind fun _ => (writes_query _).bind fun _ =>
    (writes_ofExcept _).bind fun _ => writes_pure _

/-- An answered request has had its effect, or was for no community and left rows of none. -/
theorem handleRequest_performs (request : MemberRequest) :
    Returns (fun _ t =>
        (∃ community, Performed communityId community (request.effect env communityId sender community) s t) ∨
        s.hosted.lookup communityId = none ∧ Beside (Statement.Stray s (LeavesAs sender communityId request)) s t)
      (handleRequest env sender communityId request) s := by
  have hLeft {effect : HostedCommunity → RequestEffect} {x : ServerM CommunityResponse}
      (h : Performs communityId effect x s) : Returns (fun _ t =>
        (∃ community, Performed communityId community (effect community) s t) ∨
        s.hosted.lookup communityId = none ∧ Beside (Statement.Stray s (LeavesAs sender communityId request)) s t)
      x s := fun a t hRun => .inl (h a t hRun)
  cases request with
  | sendMessage => exact hLeft (handleSendMessage_performs env communityId sender s _ _ _)
  | getMessages channelId beforeTimestamp limit =>
    have hWrites := handleGetMessages_writes sender communityId channelId beforeTimestamp limit
    obtain hCommunity | ⟨community, hCommunity⟩ := Option.eq_none_or_eq_some (s.hosted.lookup communityId)
    · refine fun a t hRun => .inr ⟨hCommunity, (hWrites s a t hRun).beside fun statement hStatement => ?_⟩
      cases hStatement
    · exact hLeft (hWrites.performs hCommunity rfl)
  | requestMek => exact hLeft (handleRequestMek_performs env communityId sender s)
  | leave =>
    obtain hCommunity | ⟨community, hCommunity⟩ := Option.eq_none_or_eq_some (s.hosted.lookup communityId)
    · refine fun a t hRun => .inr
        ⟨hCommunity, (handleLeave_stray env communityId sender s hCommunity a t hRun).beside ?_⟩
      rintro statement hStatement
      rw [List.mem_singleton.mp hStatement]
      exact ⟨hCommunity, rfl, rfl, rfl⟩
    · exact hLeft ((Wrote.refl s).departs env sender hCommunity rfl)
  | kick target => exact hLeft (handleKick_performs env communityId sender s target)
  | createChannel => exact hLeft (handleCreateChannel_performs env communityId sender s _ _)
  | deleteChannel => exact hLeft (handleDeleteChannel_performs env communityId sender s _)
  | rotateMek => exact hLeft (handleRotateMek_performs env communityId sender s)
  | renameChannel => exact hLeft (handleRenameChannel_performs env communityId sender s _ _)
  | updateCommunity => exact hLeft (handleUpdateCommunity_performs env communityId sender s _ _)
  | ban target => exact hLeft (handleBan_performs env communityId sender s target)
  | unban target => exact hLeft (handleUnban_performs env communityId sender s target)
  | getBanList => exact hLeft (handleGetBanList_performs env communityId sender s)
  | createRole =>
    exact hLeft ((handleCreateRole_performs env communityId sender s _ _ _ _ _).thenBroadcast _ _
      (writes_broadcastRolesChanged _))
  | editRole =>
    exact hLeft ((handleEditRole_performs env communityId sender s _ _).thenBroadcast _ _
      (writes_broadcastRolesChanged _))
  | deleteRole =>
    exact hLeft ((handleDeleteRole_performs env communityId sender s _).thenBroadcast _ _
      (writes_broadcastRolesChanged _))
  | assignRole =>
    exact hLeft ((handleAssignRole_performs env communityId sender s _ _).thenBroadcast _ _
      (writes_broadcastMemberRolesChanged _ _))
  | unassignRole =>
    exact hLeft ((handleUnassignRole_performs env communityId sender s _ _).thenBroadcast _ _
      (writes_broadcastMemberRolesChanged _ _))
  | setChannelOverwrite =>
    exact hLeft (handleSetChannelOverwrite_performs env communityId sender s _ _ _ _ _)
  | deleteChannelOverwrite =>
    exact hLeft (handleDeleteChannelOverwrite_performs env communityId sender s _ _ _)
  | timeoutMember => exact hLeft (handleTimeoutMember_performs env communityId sender s _ _ _)
  | removeTimeout => exact hLeft (handleRemoveTimeout_performs env communityId sender s _)
  | getRoles => exact hLeft (handleGetRoles_performs env communityId sender s)

variable {s} in
/-- A refused ban leaves the row of the ban. -/
theorem OutsiderBanned.stray {target : String} {t : ServerState} {Departs : String → String → Prop}
    (h : OutsiderBanned env communityId sender s target t) (hFaults : t.dbFaults <:+ s.dbFaults) :
    Beside (Statement.Stray s Departs) s t := by
  refine ⟨h.hosted, ?_, hFaults⟩
  rw [h.db]
  cases hHead : s.dbFaults.headD false with
  | true => exact .refl
  | false =>
    cases hRun : s.db.insertOrReplaceBan (outsiderBan env communityId target) with
    | none => simpa [hRun] using Relation.ReflTransGen.refl
    | some db =>
      simp only [Bool.false_eq_true, if_false, Option.getD_some]
      exact .single ⟨.insertOrReplaceBan (outsiderBan env communityId target), trivial, hRun⟩

variable {s} in
theorem SameData.beside {t : ServerState} {allowed : Statement → Prop} (h : SameData s t)
    (hFaults : t.dbFaults <:+ s.dbFaults) : Beside allowed s t := by
  refine ⟨h.hosted, ?_, hFaults⟩
  rw [h.db]

/-- Joining a community that is not hosted leaves rows of it. -/
theorem handleJoin_stray {routing : Routing} (hStray : Stray s routing) (displayName : String)
    (routeBlob : Option (List UInt8)) {Departs : String → String → Prop} :
    Ends (Beside (Statement.Stray s Departs) s) (handleJoin env sender routing displayName routeBlob) s := by
  obtain ⟨_, communityId, hTarget, hCommunity⟩ := hStray
  have hQuery : Keeps (Beside (Statement.Stray s Departs)) (checkNotBanned communityId sender) :=
    (beside_query _).bind fun _ => keeps_ofExcept _
  have hRows : ∀ displayName roleIds, Keeps (Beside (Statement.Stray s Departs))
      (insertMemberRows env communityId sender displayName roleIds : ServerM Unit) :=
    fun _ _ => insertMemberRows_beside hCommunity fun _ => hCommunity
  unfold handleJoin
  rw [hTarget]
  refine Ends.bind_of_ok (a := communityId) (t := s) rfl ?_
  refine Ends.bind_of_ok (a := s.hosted.lookup communityId) (t := s) rfl ?_
  refine Ends.bind_ofExcept (refl_of (Beside _) s) fun _ _ => ?_
  refine Ends.bind_of_keeps hQuery (fun _ h => h) fun _ t hT => ?_
  have hAbsent : t.hosted.lookup communityId = none := by rw [hT.hosted, hCommunity]
  have hRejoin : (handleRejoin communityId sender routeBlob).run t = .ok none t := by
    have hLookup : (lookupCommunity communityId : ServerM _).run t = .ok none t := by
      rw [← hAbsent]
      rfl
    unfold handleRejoin
    rw [run_bind_of_ok _ hLookup]
    rfl
  refine Ends.bind_of_ok hRejoin ?_
  unfold joinAsNewMember addNewMember
  simp only [bind_assoc]
  refine Ends.bind_of_ok (a := t.hosted.lookup communityId) (t := t) rfl ?_
  refine Ends.bind_of_keeps (hRows _ _) (fun _ h => trans_of _ hT h) fun _ u hU => ?_
  have hGone : u.hosted.lookup communityId = none := by rw [hU.hosted, hAbsent]
  unfold pushMember
  rw [bind_assoc]
  refine Ends.bind_of_ok (a := none) (t := u) (congrArg (EStateM.Result.ok · u) hGone) ?_
  exact trans_of (Beside _) hT hU

def IncomingRequest.LeavesAs (incoming : IncomingRequest) (id pseudonym : String) : Prop :=
  incoming.request = .member .leave ∧ incoming.target = some id ∧ pseudonym = incoming.sender

/-- A request that has no effect runs stray statements at most. -/
theorem serve_effect_or_stray (incoming : IncomingRequest) :
    (∃ communityId community, incoming.target = some communityId ∧ incoming.Passes s ∧
        Performed communityId community (incoming.effect communityId community) s (serve s incoming)) ∨
      Beside (Statement.Stray s incoming.LeavesAs) s (serve s incoming) := by
  obtain ⟨env, sender, routing, request⟩ := incoming
  have hSettles := (dispatch_settles s ⟨env, sender, routing, request⟩).cases
  unfold serve
  cases request with
  | member request =>
    cases hTarget : resolveCommunityId routing with
    | none =>
      have hRun : dispatchRequest env sender routing (.member request) =
          throw ⟨403, "not a member of any hosted community"⟩ := by
        unfold dispatchRequest
        rw [hTarget]
        rfl
      rw [hRun]
      exact .inr (refl_of (Beside _) s)
    | some communityId =>
      have hRun : dispatchRequest env sender routing (.member request) =
          handleRequest env sender communityId request := by
        unfold dispatchRequest
        rw [hTarget]
        rfl
      have hFaults := (handleRequest_namesNoCreator env communityId sender request s).faults
      rw [hRun] at hSettles ⊢
      rcases hSettles with ⟨a, t, hRun, hPasses⟩ | ⟨e, t, hRun, hRefused, hLeft⟩
      · rw [hRun, Result.state_ok]
        refine (handleRequest_performs env sender communityId s request a t hRun).imp ?_ fun ⟨_, hBeside⟩ => ?_
        · rintro ⟨community, hPerformed⟩
          exact ⟨communityId, community, hTarget, hPasses, hPerformed⟩
        · refine ⟨hBeside.hosted, hBeside.edited.mono fun statement hStray => ?_⟩
          refine hStray.mono ?_
          rintro id pseudonym ⟨rfl, rfl, rfl⟩
          exact ⟨rfl, hTarget, rfl⟩
      · rw [hRun, Result.state_error] at hFaults ⊢
        refine .inr ?_
        rcases hLeft with hSame | ⟨_, _, target, _, hBanned⟩
        · exact hSame.beside hFaults
        · exact hBanned.stray _ _ _ hFaults
  | join pseudonym displayName routeBlob =>
    have hEdited : Keeps (Edited Statement.StoresNoMessage)
        (dispatchRequest env sender routing (.join pseudonym displayName routeBlob)) :=
      edited_check fun _ => handleJoin_edited env sender routing displayName routeBlob
    have hFaults := (hEdited s).faults
    rcases hSettles with ⟨a, t, hRun, hPasses⟩ | ⟨e, t, hRun, _, hSame | hStray⟩
    · have hReturns : Returns (fun _ t => ∃ communityId community, routing.joinTarget = some communityId ∧
            Performed communityId community (joinEffect env communityId sender community displayName routeBlob) s t)
          (dispatchRequest env sender routing (.join pseudonym displayName routeBlob)) s :=
        .bind_ofExcept fun _ _ => handleJoin_performs env sender s routing displayName routeBlob
      obtain ⟨communityId, community, hTarget, hPerformed⟩ := hReturns a t hRun
      rw [hRun, Result.state_ok]
      exact .inl ⟨communityId, community, hTarget, hPasses, hPerformed⟩
    · rw [hRun, Result.state_error] at hFaults ⊢
      exact .inr (hSame.beside hFaults)
    · refine .inr ?_
      change Ends (Beside _ s) (dispatchRequest env sender routing (.join pseudonym displayName routeBlob)) s
      exact Ends.bind_ofExcept (refl_of (Beside _) s) fun _ _ =>
        handleJoin_stray env sender s hStray displayName routeBlob

/-- Every request has the effect it asks for on its community, or leaves the hosted communities and
their rows alone. -/
theorem serve_effect (incoming : IncomingRequest) :
    (∃ communityId community, incoming.target = some communityId ∧ incoming.Passes s ∧
        Performed communityId community (incoming.effect communityId community) s (serve s incoming)) ∨
      Beside (Statement.Idle s) s (serve s incoming) :=
  (serve_effect_or_stray s incoming).imp_right fun hBeside =>
    ⟨hBeside.hosted, hBeside.edited.mono fun _ => Statement.Stray.idle⟩

end

end Rekindle.Server
