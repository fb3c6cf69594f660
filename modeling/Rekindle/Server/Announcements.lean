import Rekindle.Server.Effects

/-! # What the members are told

A request that is answered sends its broadcasts last, to the members that it leaves in the community. A refused one
sends none.
-/
namespace Rekindle.Server
set_option autoImplicit false
open Fallible

/-- A broadcast with the pseudonym that is left out. -/
abbrev Announcement := String × CommunityBroadcast

def memberRoutes (community : HostedCommunity) (excludePseudonym : String) : List (List UInt8) :=
  (community.members.filter (·.pseudonymKeyHex != excludePseudonym)).filterMap (·.routeBlob)

/-- What is handed to the network for the announcements. -/
def announced (community : HostedCommunity) (announcements : List Announcement) :
    List (List UInt8 × CommunityBroadcast) :=
  announcements.flatMap fun (exclude, broadcast) => (memberRoutes community exclude).map (·, broadcast)

section
variable (env : Environment) (communityId sender : String) (after : HostedCommunity)

/-- A departure is announced to those who stay, with the new key's generation. -/
def departureNews (target : String) : List Announcement :=
  [(target, .memberRemoved communityId target), (target, .mekRotated communityId after.mek.generation)]

/-- What a request announces when it has left the community as `after`. -/
def MemberRequest.announcements : MemberRequest → List Announcement
  | .sendMessage channelId ciphertext mekGeneration =>
    [(sender, .newMessage communityId channelId sender ciphertext mekGeneration
      (UInt64.ofNat env.timestampNow.toNat))]
  | .leave => departureNews communityId after sender
  | .kick target | .ban target => departureNews communityId after target
  | .rotateMek => [("", .mekRotated communityId after.mek.generation)]
  | .createRole _ _ _ _ _ | .editRole _ _ | .deleteRole _ => [("", .rolesChanged communityId (rolesToDto after))]
  | .assignRole target _ | .unassignRole target _ =>
    [("", .memberRolesChanged communityId target
      ((findMember after.members target).elim [] ServerMember.roleIds))]
  | .setChannelOverwrite channelId _ _ _ _ => [("", .channelOverwriteChanged communityId channelId)]
  | .timeoutMember target durationSeconds _ =>
    [("", .memberTimedOut communityId target (some (env.now + durationSeconds)))]
  | .removeTimeout target => [("", .memberTimedOut communityId target none)]
  | .getMessages _ _ _ | .requestMek | .createChannel _ _ | .deleteChannel _ | .renameChannel _ _
  | .updateCommunity _ _ | .unban _ | .getBanList | .deleteChannelOverwrite _ _ _ | .getRoles => []

/-- Only a new member is announced. -/
def joinNews (before : HostedCommunity) (displayName : String) : List Announcement :=
  if findMember before.members sender = none then
    [(sender, .memberJoined communityId sender displayName (defaultRoleIds before.members.isEmpty))]
  else []

end

def IncomingRequest.announcements (incoming : IncomingRequest) (communityId : String)
    (before after : HostedCommunity) : List Announcement :=
  match incoming.request with
  | .join _ displayName _ => joinNews communityId incoming.sender before displayName
  | .member request => request.announcements incoming.env communityId incoming.sender after

/-! ## Before anything is said -/

/-- Nothing is sent, and the hosted communities stay. -/
structure Silent (before after : ServerState) : Prop where
  hosted : after.hosted = before.hosted
  sent : after.sent = before.sent

instance : Std.Refl Silent := ⟨fun _ => ⟨rfl, rfl⟩⟩

instance : IsTrans ServerState Silent :=
  ⟨fun _ _ _ hFirst hSecond => ⟨hSecond.hosted.trans hFirst.hosted, hSecond.sent.trans hFirst.sent⟩⟩

section
variable {ε : Type} (env : Environment) (communityId sender : String)

theorem silent_execute (statement : Database → Option Database) :
    Keeps Silent (execute statement : EStateM ε ServerState Bool) := by
  intro s
  obtain ⟨stored, db, hRun, -⟩ : ∃ stored db, (execute statement : EStateM ε _ _).run s = _ ∧ _ :=
    execute_run statement s
  rw [hRun]
  exact ⟨rfl, rfl⟩

theorem silent_executeIgnoring (statement : Database → Option Database) :
    Keeps Silent (executeIgnoring statement : EStateM ε ServerState Unit) :=
  (silent_execute statement).bind fun _ => keeps_pure _

theorem silent_query {α : Type} (read : Database → α) :
    Keeps Silent (query read : EStateM ε ServerState (Option α)) := fun _ => ⟨rfl, rfl⟩

theorem silent_lookupCommunity : Keeps Silent (lookupCommunity communityId : EStateM ε ServerState _) :=
  fun _ => ⟨rfl, rfl⟩

theorem silent_getCommunity (missing : RpcError) : Keeps Silent (getCommunity communityId missing) :=
  (silent_lookupCommunity communityId).bind fun _ => keeps_ofExcept _

theorem silent_openCommunity (required : Permissions) :
    Keeps Silent (openCommunity env communityId sender required) :=
  (silent_getCommunity communityId _).bind fun _ => (keeps_ofExcept _).bind fun _ => (keeps_ofExcept _).bind fun _ =>
    keeps_pure _

theorem silent_verifyMembershipIfHosted : Keeps Silent (verifyMembershipIfHosted communityId sender) :=
  (silent_lookupCommunity communityId).bind fun _ => keeps_ofExcept _

theorem silent_rotateMek (newGeneration : UInt64) :
    Keeps Silent (rotateMek env communityId newGeneration : EStateM ε ServerState MediaEncryptionKey) :=
  (silent_executeIgnoring _).bind fun _ => keeps_pure _

theorem silent_checkNotBanned : Keeps Silent (checkNotBanned communityId sender) :=
  (silent_query _).bind fun _ => keeps_ofExcept _

theorem silent_insertMemberRows (displayName : String) (roleIds : List UInt32) :
    Keeps Silent (insertMemberRows env communityId sender displayName roleIds : EStateM ε ServerState Unit) :=
  (silent_executeIgnoring _).bind fun _ => keeps_list_forM _ fun _ => silent_executeIgnoring _

theorem silent_recordCreator (isFirstMember : Bool) : Keeps Silent (recordCreator communityId sender isFirstMember) := by
  cases isFirstMember with
  | false => exact keeps_pure _
  | true => exact silent_executeIgnoring _

end

/-! ## Announcing -/

/-- A computation that, when it returns, has sent the announcements to the members that are left, and otherwise
nothing. -/
def Announces {α : Type} (communityId : String) (announcements : HostedCommunity → List Announcement)
    (x : ServerM α) (s : ServerState) : Prop :=
  Settles (fun _ t => t.sent = s.sent ++ (t.hosted.lookup communityId).elim [] fun after =>
      announced after (announcements after))
    (fun _ t => t.sent = s.sent) x s

section
variable {α β : Type} {communityId : String} {announcements : HostedCommunity → List Announcement} {s : ServerState}

theorem Announces.of_ok {x : ServerM α} {a : α} {t : ServerState} (h : Announces communityId announcements x s)
    (hRun : x.run s = .ok a t) :
    t.sent = s.sent ++ (t.hosted.lookup communityId).elim [] fun after => announced after (announcements after) := by
  unfold Announces Settles at h
  rwa [hRun] at h

theorem Announces.of_error {x : ServerM α} {e : RpcError} {t : ServerState}
    (h : Announces communityId announcements x s) (hRun : x.run s = .error e t) : t.sent = s.sent := by
  unfold Announces Settles at h
  rwa [hRun] at h

theorem Announces.silent_bind {x : ServerM α} {f : α → ServerM β} (hFirst : Keeps Silent x)
    (hRest : ∀ a t, t.hosted = s.hosted → Announces communityId announcements (f a) t) :
    Announces communityId announcements (x >>= f) s := by
  have hStep := hFirst s
  unfold Announces Settles
  cases hRun : x.run s with
  | error e t =>
    rw [run_bind_of_error f hRun]
    rw [hRun] at hStep
    exact hStep.sent
  | ok a t =>
    rw [hRun] at hStep
    rw [run_bind_of_ok f hRun]
    have hAfter := hRest a t hStep.hosted
    unfold Announces Settles at hAfter
    have hSent : t.sent = s.sent := hStep.sent
    rwa [hSent] at hAfter

theorem Announces.bind_ofExcept {r : Except RpcError α} {f : α → ServerM β}
    (hRest : ∀ a, r = .ok a → Announces communityId announcements (f a) s) :
    Announces communityId announcements (ofExcept r >>= f) s := by
  cases r with
  | ok a => exact hRest a rfl
  | error e => exact rfl

theorem Announces.setCommunity_bind {changed : HostedCommunity} {f : Unit → ServerM β}
    (hRest : ∀ t, t.hosted.lookup communityId = some changed → Announces communityId announcements (f ()) t) :
    Announces communityId announcements (setCommunity communityId changed >>= f) s :=
  hRest { s with hosted := s.hosted.insert communityId changed } (Finmap.lookup_insert _)

theorem Announces.lookup_bind {f : Option HostedCommunity → ServerM β}
    (hRest : Announces communityId announcements (f (s.hosted.lookup communityId)) s) :
    Announces communityId announcements (lookupCommunity communityId >>= f) s := hRest

theorem announces_pure (a : α) : Announces communityId (fun _ => []) (pure a : ServerM α) s := by
  change s.sent = s.sent ++ (s.hosted.lookup communityId).elim [] fun _ => []
  cases s.hosted.lookup communityId <;> exact (List.append_nil _).symm

theorem announces_silent {x : ServerM α} (h : Keeps Silent x) : Announces communityId (fun _ => []) x s := by
  have hBind : Announces communityId (fun _ => []) (x >>= pure) s := .silent_bind h fun a t _ => announces_pure a
  rwa [bind_pure] at hBind

/-- The last thing that is said. -/
theorem announces_broadcastToMembers {exclude : String} {broadcast : CommunityBroadcast} (a : α)
    (h : ∀ after, s.hosted.lookup communityId = some after → announcements after = [(exclude, broadcast)]) :
    Announces communityId announcements (broadcastToMembers communityId exclude broadcast >>= fun _ => pure a) s := by
  change s.sent ++ _ = s.sent ++ (s.hosted.lookup communityId).elim [] fun after => announced after (announcements after)
  cases hFound : s.hosted.lookup communityId with
  | none => rfl
  | some after =>
    rw [Option.elim_some, Option.elim_some, h after hFound]
    simp only [announced, List.flatMap_cons, List.flatMap_nil, List.append_nil, memberRoutes]

end

/-! ## Handlers -/

section
variable (env : Environment) (communityId sender : String) (s : ServerState)

theorem announces_broadcastDeparture {α : Type} (target : String) (a : α) :
    Announces communityId (fun after => departureNews communityId after target)
      (broadcastDeparture communityId target >>= fun _ => pure a) s := by
  cases hFound : s.hosted.lookup communityId with
  | none =>
    have hRun : (broadcastDeparture communityId target >>= fun _ => pure a).run s =
        (.ok a { s with sent := s.sent ++ [] } : EStateM.Result RpcError ServerState α) := by
      simp [broadcastDeparture, broadcastToMembers, lookupCommunity, hFound]
    unfold Announces Settles
    rw [hRun]
    exact congrArg (s.sent ++ ·) (by rw [hFound]; rfl)
  | some after =>
    have hRun : (broadcastDeparture communityId target >>= fun _ => pure a).run s =
        (.ok a { s with sent := s.sent ++ announced after (departureNews communityId after target) } :
          EStateM.Result RpcError ServerState α) := by
      simp only [broadcastDeparture, bind_assoc]
      have hLookup (t : ServerState) (h : t.hosted = s.hosted) :
          (lookupCommunity communityId : ServerM _).run t = .ok (some after) t := by
        rw [← hFound, ← h]
        rfl
      rw [run_bind_of_ok _ (show (broadcastToMembers communityId target _ : ServerM Unit).run s = .ok () _ from rfl)]
      refine (run_bind_of_ok _ (hLookup _ ?_)).trans (congrArg (EStateM.Result.ok a) ?_)
      · rfl
      simp [hFound, announced, departureNews, memberRoutes]
    unfold Announces Settles
    rw [hRun]
    exact congrArg (s.sent ++ ·) (by rw [hFound]; rfl)

theorem announces_handleSendMessage (channelId : String) (ciphertext : List UInt8) (mekGeneration : UInt64) :
    Announces communityId (fun after => MemberRequest.announcements env communityId sender after
        (.sendMessage channelId ciphertext mekGeneration))
      (handleSendMessage env communityId sender channelId ciphertext mekGeneration) s := by
  refine .silent_bind (silent_getCommunity _ _) fun _ _ _ => ?_
  refine .bind_ofExcept fun _ _ => .bind_ofExcept fun _ _ => .bind_ofExcept fun _ _ => ?_
  refine .silent_bind (silent_execute _) fun _ _ _ => .bind_ofExcept fun _ _ => ?_
  exact announces_broadcastToMembers _ fun _ _ => rfl

theorem announces_handleLeave (target : String) :
    Announces communityId (fun after => departureNews communityId after target)
      (handleLeave env communityId target) s := by
  refine .silent_bind (silent_verifyMembershipIfHosted _ _) fun _ _ _ => ?_
  refine .silent_bind (silent_executeIgnoring _) fun _ _ _ => ?_
  unfold removeMember
  rw [bind_assoc]
  refine .silent_bind (silent_lookupCommunity _) fun community _ _ => ?_
  cases community with
  | none =>
    rw [pure_bind]
    exact announces_broadcastDeparture communityId _ target _
  | some community =>
    rw [bind_assoc]
    refine .silent_bind (silent_rotateMek _ _ _) fun _ _ _ => .setCommunity_bind fun _ _ => ?_
    exact announces_broadcastDeparture communityId _ target _

theorem announces_handleKick (target : String) :
    Announces communityId (fun after => MemberRequest.announcements env communityId sender after (.kick target))
      (handleKick env communityId sender target) s := by
  refine .silent_bind (silent_getCommunity _ _) fun _ _ _ => ?_
  refine .bind_ofExcept fun _ _ => .bind_ofExcept fun _ _ => .bind_ofExcept fun _ _ => ?_
  exact announces_handleLeave env communityId _ target

theorem announces_handleBan (target : String) :
    Announces communityId (fun after => MemberRequest.announcements env communityId sender after (.ban target))
      (handleBan env communityId sender target) s := by
  refine .silent_bind (silent_openCommunity _ _ _ _) fun _ _ _ => ?_
  refine .bind_ofExcept fun _ _ => .bind_ofExcept fun _ _ => ?_
  exact .silent_bind (silent_executeIgnoring _) fun _ _ _ => announces_handleLeave env communityId _ target

theorem announces_handleCreateChannel (name channelType : String) :
    Announces communityId (fun _ => []) (handleCreateChannel env communityId sender name channelType) s := by
  refine .silent_bind (silent_openCommunity _ _ _ _) fun _ _ _ => .bind_ofExcept fun _ _ => ?_
  refine .silent_bind (silent_execute _) fun _ _ _ => .bind_ofExcept fun _ _ => ?_
  exact .setCommunity_bind fun _ _ => announces_pure _

theorem announces_handleDeleteChannel (channelId : String) :
    Announces communityId (fun _ => []) (handleDeleteChannel env communityId sender channelId) s := by
  refine .silent_bind (silent_openCommunity _ _ _ _) fun _ _ _ => .setCommunity_bind fun _ _ => ?_
  exact announces_silent ((silent_executeIgnoring _).bind fun _ => keeps_pure _)

theorem announces_handleRenameChannel (channelId newName : String) :
    Announces communityId (fun _ => []) (handleRenameChannel env communityId sender channelId newName) s := by
  refine .silent_bind (silent_openCommunity _ _ _ _) fun _ _ _ => .bind_ofExcept fun _ _ => ?_
  exact .setCommunity_bind fun _ _ => announces_silent ((silent_executeIgnoring _).bind fun _ => keeps_pure _)

theorem announces_handleRotateMek :
    Announces communityId (fun after => MemberRequest.announcements env communityId sender after .rotateMek)
      (handleRotateMek env communityId sender) s := by
  refine .silent_bind (silent_openCommunity _ _ _ _) fun community _ _ => ?_
  refine .silent_bind (silent_rotateMek _ _ _) fun mek _ _ => .setCommunity_bind fun t hSet => ?_
  refine announces_broadcastToMembers _ fun after hAfter => ?_
  obtain rfl := Option.some.inj (hSet.symm.trans hAfter)
  rfl

theorem announces_handleUpdateCommunity (newName newDescription : Option String) :
    Announces communityId (fun _ => []) (handleUpdateCommunity env communityId sender newName newDescription) s := by
  refine .silent_bind (silent_openCommunity _ _ _ _) fun _ _ _ => .setCommunity_bind fun _ _ => ?_
  refine announces_silent ((keeps_option_forM _ fun _ => silent_executeIgnoring _).bind fun _ => ?_)
  exact (keeps_option_forM _ fun _ => silent_executeIgnoring _).bind fun _ => keeps_pure _

theorem announces_handleSetChannelOverwrite (channelId targetType targetId : String) (allow deny : Permissions) :
    Announces communityId (fun after => MemberRequest.announcements env communityId sender after
        (.setChannelOverwrite channelId targetType targetId allow deny))
      (handleSetChannelOverwrite env communityId sender channelId targetType targetId allow deny) s := by
  refine .silent_bind (silent_openCommunity _ _ _ _) fun _ _ _ => .bind_ofExcept fun _ _ => ?_
  refine .setCommunity_bind fun _ _ => .silent_bind (silent_executeIgnoring _) fun _ _ _ => ?_
  exact announces_broadcastToMembers _ fun _ _ => rfl

theorem announces_handleDeleteChannelOverwrite (channelId targetType targetId : String) :
    Announces communityId (fun _ => [])
      (handleDeleteChannelOverwrite env communityId sender channelId targetType targetId) s := by
  refine .silent_bind (silent_openCommunity _ _ _ _) fun _ _ _ => .setCommunity_bind fun _ _ => ?_
  exact announces_silent ((silent_executeIgnoring _).bind fun _ => keeps_pure _)

theorem announces_handleTimeoutMember (target : String) (durationSeconds : UInt64) (reason : Option String) :
    Announces communityId (fun after => MemberRequest.announcements env communityId sender after
        (.timeoutMember target durationSeconds reason))
      (handleTimeoutMember env communityId sender target durationSeconds reason) s := by
  refine .silent_bind (silent_openCommunity _ _ _ _) fun _ _ _ => .bind_ofExcept fun _ _ => .bind_ofExcept fun _ _ => ?_
  refine .setCommunity_bind fun _ _ => .silent_bind (silent_executeIgnoring _) fun _ _ _ => ?_
  exact announces_broadcastToMembers _ fun _ _ => rfl

theorem announces_handleRemoveTimeout (target : String) :
    Announces communityId (fun after => MemberRequest.announcements env communityId sender after
        (.removeTimeout target))
      (handleRemoveTimeout env communityId sender target) s := by
  refine .silent_bind (silent_openCommunity _ _ _ _) fun _ _ _ => .setCommunity_bind fun _ _ => ?_
  refine .silent_bind (silent_executeIgnoring _) fun _ _ _ => announces_broadcastToMembers _ fun _ _ => rfl

/-! ### Roles -/

/-- A look at the community as it is left, and a broadcast of what is seen. -/
theorem announces_lookup {α : Type} {exclude : String} {broadcast : HostedCommunity → CommunityBroadcast} (a : α) :
    Announces communityId (fun after => [(exclude, broadcast after)])
      ((do
        let community ← lookupCommunity communityId
        community.forM fun community => broadcastToMembers communityId exclude (broadcast community)) >>=
        fun _ => pure a) s := by
  rw [bind_assoc]
  have hRun : (lookupCommunity communityId : ServerM _).run s = .ok (s.hosted.lookup communityId) s := rfl
  unfold Announces Settles
  rw [run_bind_of_ok _ hRun]
  cases hFound : s.hosted.lookup communityId with
  | none =>
    change s.sent = s.sent ++ (s.hosted.lookup communityId).elim [] _
    rw [hFound, Option.elim_none, List.append_nil]
  | some after =>
    refine announces_broadcastToMembers a fun other hOther => ?_
    obtain rfl := Option.some.inj (hFound.symm.trans hOther)
    rfl

variable {communityId s} in
theorem Announces.thenBroadcast {announcements : HostedCommunity → List Announcement}
    {handler : ServerM CommunityResponse} {broadcast : ServerM Unit}
    (hHandler : Announces communityId (fun _ => []) handler s)
    (hBroadcast : ∀ (response : CommunityResponse) t, Announces communityId announcements (broadcast >>= fun _ => pure response) t) :
    Announces communityId announcements (thenBroadcast handler broadcast) s := by
  refine Settles.bind hHandler (fun response t hSent => ?_) fun _ _ hSent => hSent
  have hSame : t.sent = s.sent := by
    rw [hSent]
    cases t.hosted.lookup communityId <;> exact List.append_nil _
  have hTold := hBroadcast response t
  unfold Announces at hTold
  rwa [hSame] at hTold

theorem announces_handleCreateRole (name : String) (color : UInt32) (permissions : Permissions)
    (hoist mentionable : Bool) :
    Announces communityId (fun _ => [])
      (handleCreateRole env communityId sender name color permissions hoist mentionable) s := by
  refine .silent_bind (silent_openCommunity _ _ _ _) fun _ _ _ => ?_
  refine .silent_bind (silent_execute _) fun _ _ _ => .bind_ofExcept fun _ _ => ?_
  exact .setCommunity_bind fun _ _ => announces_pure _

theorem announces_handleEditRole (roleId : UInt32) (edit : RoleEdit) :
    Announces communityId (fun _ => []) (handleEditRole env communityId sender roleId edit) s := by
  refine .silent_bind (silent_openCommunity _ _ _ _) fun _ _ _ => .bind_ofExcept fun _ _ => .bind_ofExcept fun _ _ => ?_
  exact .setCommunity_bind fun _ _ => announces_silent ((silent_executeIgnoring _).bind fun _ => keeps_pure _)

theorem announces_handleDeleteRole (roleId : UInt32) :
    Announces communityId (fun _ => []) (handleDeleteRole env communityId sender roleId) s := by
  refine .bind_ofExcept fun _ _ => .silent_bind (silent_openCommunity _ _ _ _) fun _ _ _ => .bind_ofExcept fun _ _ => ?_
  refine .setCommunity_bind fun _ _ => announces_silent ?_
  exact (silent_executeIgnoring _).bind fun _ => (silent_executeIgnoring _).bind fun _ => keeps_pure _

theorem announces_handleAssignRole (target : String) (roleId : UInt32) :
    Announces communityId (fun _ => []) (handleAssignRole env communityId sender target roleId) s := by
  refine .silent_bind (silent_openCommunity _ _ _ _) fun _ _ _ => .bind_ofExcept fun _ _ => .bind_ofExcept fun _ _ => ?_
  refine .bind_ofExcept fun member _ => ?_
  by_cases hHeld : roleId ∈ member.roleIds
  · simp only [hHeld, not_true_eq_false, if_false]
    exact announces_pure _
  · simp only [hHeld, not_false_eq_true, if_true]
    exact .setCommunity_bind fun _ _ => announces_silent ((silent_executeIgnoring _).bind fun _ => keeps_pure _)

theorem announces_handleUnassignRole (target : String) (roleId : UInt32) :
    Announces communityId (fun _ => []) (handleUnassignRole env communityId sender target roleId) s := by
  refine .bind_ofExcept fun _ _ => .silent_bind (silent_openCommunity _ _ _ _) fun _ _ _ => ?_
  refine .bind_ofExcept fun _ _ => .bind_ofExcept fun _ _ => .setCommunity_bind fun _ _ => ?_
  exact announces_silent ((silent_executeIgnoring _).bind fun _ => keeps_pure _)

/-! ### Joins -/

theorem announces_joinAsNewMember (displayName : String) (routeBlob : Option (List UInt8)) :
    Announces communityId (fun _ => (s.hosted.lookup communityId).elim [] fun before =>
        [(sender, .memberJoined communityId sender displayName (defaultRoleIds before.members.isEmpty))])
      (joinAsNewMember env communityId sender displayName routeBlob) s := by
  unfold joinAsNewMember addNewMember
  simp only [bind_assoc]
  refine .lookup_bind (.silent_bind (silent_insertMemberRows _ _ _ _ _) fun _ t hSame => ?_)
  unfold pushMember
  rw [bind_assoc]
  apply Announces.lookup_bind
  rw [hSame]
  cases s.hosted.lookup communityId with
  | none =>
    rw [pure_bind]
    exact .bind_ofExcept fun _ hNone => by cases hNone
  | some before =>
    simp only [bind_assoc, pure_bind]
    refine .silent_bind (silent_recordCreator _ _ _) fun _ _ _ => .setCommunity_bind fun _ _ => ?_
    refine .silent_bind (keeps_option_forM _ fun _ => silent_executeIgnoring _) fun _ _ _ => ?_
    refine .bind_ofExcept fun joined hJoined => ?_
    obtain rfl := Option.some.inj (orThrow_eq_ok_iff.mp hJoined)
    exact announces_broadcastToMembers _ fun _ _ => rfl

theorem announces_rejoinOrJoin (displayName : String) (routeBlob : Option (List UInt8)) :
    Announces communityId
      (fun _ => (s.hosted.lookup communityId).elim [] fun before => joinNews communityId sender before displayName)
      (handleRejoin communityId sender routeBlob >>= fun
        | some response => pure response
        | none => joinAsNewMember env communityId sender displayName routeBlob) s := by
  have hJoin := announces_joinAsNewMember env communityId sender s displayName routeBlob
  unfold handleRejoin
  rw [bind_assoc]
  apply Announces.lookup_bind
  cases hBefore : s.hosted.lookup communityId with
  | none =>
    rw [hBefore] at hJoin
    exact hJoin
  | some before =>
    rw [hBefore] at hJoin
    cases hMember : findMember before.members sender with
    | none =>
      simp only [Option.elim_some, joinNews, hMember, if_true, pure_bind]
      exact hJoin
    | some member =>
      simp only [Option.elim_some, joinNews, hMember, reduceCtorEq, if_false]
      cases routeBlob with
      | none =>
        simp only [pure_bind]
        exact announces_pure _
      | some blob =>
        simp only [bind_assoc, pure_bind]
        exact .setCommunity_bind fun _ _ => announces_silent ((silent_executeIgnoring _).bind fun _ => keeps_pure _)

theorem announces_handleJoin {routing : Routing} (hTarget : routing.joinTarget = some communityId)
    (displayName : String) (routeBlob : Option (List UInt8)) :
    Announces communityId
      (fun _ => (s.hosted.lookup communityId).elim [] fun before => joinNews communityId sender before displayName)
      (handleJoin env sender routing displayName routeBlob) s := by
  unfold handleJoin
  rw [hTarget]
  refine .bind_ofExcept fun found hFound => ?_
  obtain rfl := Option.some.inj (orThrow_eq_ok_iff.mp hFound)
  refine .lookup_bind (.bind_ofExcept fun _ _ => .silent_bind (silent_checkNotBanned _ _) fun _ t hSame => ?_)
  have hRest := announces_rejoinOrJoin env communityId sender t displayName routeBlob
  rwa [hSame] at hRest

/-! ## Requests -/

theorem announces_handleRequest (request : MemberRequest) :
    Announces communityId (fun after => request.announcements env communityId sender after)
      (handleRequest env sender communityId request) s := by
  cases request with
  | sendMessage => exact announces_handleSendMessage env communityId sender s _ _ _
  | getMessages =>
    refine announces_silent ((silent_verifyMembershipIfHosted _ _).bind fun _ => (silent_query _).bind fun _ => ?_)
    exact (keeps_ofExcept _).bind fun _ => keeps_pure _
  | requestMek =>
    exact announces_silent ((silent_getCommunity _ _).bind fun _ => (keeps_ofExcept _).bind fun _ => keeps_pure _)
  | leave => exact announces_handleLeave env communityId s sender
  | kick target => exact announces_handleKick env communityId sender s target
  | createChannel => exact announces_handleCreateChannel env communityId sender s _ _
  | deleteChannel => exact announces_handleDeleteChannel env communityId sender s _
  | rotateMek => exact announces_handleRotateMek env communityId sender s
  | renameChannel => exact announces_handleRenameChannel env communityId sender s _ _
  | updateCommunity => exact announces_handleUpdateCommunity env communityId sender s _ _
  | ban target => exact announces_handleBan env communityId sender s target
  | unban =>
    exact announces_silent ((silent_openCommunity _ _ _ _).bind fun _ => (silent_executeIgnoring _).bind fun _ =>
      keeps_pure _)
  | getBanList =>
    exact announces_silent ((silent_openCommunity _ _ _ _).bind fun _ => (silent_query _).bind fun _ => keeps_pure _)
  | createRole =>
    exact (announces_handleCreateRole env communityId sender s _ _ _ _ _).thenBroadcast fun response t =>
      announces_lookup communityId t response
  | editRole =>
    exact (announces_handleEditRole env communityId sender s _ _).thenBroadcast fun response t =>
      announces_lookup communityId t response
  | deleteRole =>
    exact (announces_handleDeleteRole env communityId sender s _).thenBroadcast fun response t =>
      announces_lookup communityId t response
  | assignRole =>
    exact (announces_handleAssignRole env communityId sender s _ _).thenBroadcast fun response t =>
      announces_lookup communityId t response
  | unassignRole =>
    exact (announces_handleUnassignRole env communityId sender s _ _).thenBroadcast fun response t =>
      announces_lookup communityId t response
  | setChannelOverwrite => exact announces_handleSetChannelOverwrite env communityId sender s _ _ _ _ _
  | deleteChannelOverwrite => exact announces_handleDeleteChannelOverwrite env communityId sender s _ _ _
  | timeoutMember => exact announces_handleTimeoutMember env communityId sender s _ _ _
  | removeTimeout => exact announces_handleRemoveTimeout env communityId sender s _
  | getRoles =>
    exact announces_silent ((silent_getCommunity _ _).bind fun _ => (keeps_ofExcept _).bind fun _ => keeps_pure _)

variable {communityId s} in
/-- The announcements that go out with the effect. -/
theorem Performed.sent {t : ServerState} {community : HostedCommunity} {effect : RequestEffect}
    {announcements : HostedCommunity → List Announcement} (h : Performed communityId community effect s t)
    (hSent : t.sent = s.sent ++ (t.hosted.lookup communityId).elim [] fun after =>
      announced after (announcements after)) :
    t.sent = s.sent ++ announced effect.community (announcements effect.community) := by
  rw [hSent, h.hosted, Finmap.lookup_insert, Option.elim_some]

variable {s} in
/-- A request that is answered for a hosted community has had its effect and announced it; any other has left the
hosted communities alone and said nothing. -/
theorem serve_announces (incoming : IncomingRequest) :
    (∃ communityId before, incoming.target = some communityId ∧ incoming.Passes s ∧
        Performed communityId before (incoming.effect communityId before) s (serve s incoming) ∧
        (serve s incoming).sent = s.sent ++ announced (incoming.effect communityId before).community
          (incoming.announcements communityId before (incoming.effect communityId before).community)) ∨
      Silent s (serve s incoming) := by
  have hSettles := dispatch_settles s incoming
  obtain ⟨env, sender, routing, request⟩ := incoming
  unfold serve
  cases request with
  | member request =>
    cases hTarget : resolveCommunityId routing with
    | none =>
      have hRun : dispatchRequest env sender routing (.member request) =
          throw ⟨403, "not a member of any hosted community"⟩ := by
        unfold dispatchRequest
        rw [hTarget]
        rfl
      rw [hRun]
      exact .inr (refl_of Silent s)
    | some communityId =>
      have hRun : dispatchRequest env sender routing (.member request) =
          handleRequest env sender communityId request := by
        unfold dispatchRequest
        rw [hTarget]
        rfl
      rw [hRun] at hSettles ⊢
      have hTold := announces_handleRequest env communityId sender s request
      rcases hSettles.cases with ⟨a, t, hRun, hPasses⟩ | ⟨e, t, hRun, hRefused, hLeft⟩
      · have hSent := hTold.of_ok hRun
        rw [hRun, Result.state_ok]
        rcases handleRequest_performs env sender communityId s request a t hRun with
          ⟨before, hPerformed⟩ | ⟨hAbsent, hBeside⟩
        · exact .inl ⟨communityId, before, hTarget, hPasses, hPerformed, hPerformed.sent hSent⟩
        · refine .inr ⟨hBeside.hosted, ?_⟩
          rw [hSent, hBeside.hosted, hAbsent, Option.elim_none, List.append_nil]
      · have hSent := hTold.of_error hRun
        rw [hRun, Result.state_error]
        rcases hLeft with hSame | ⟨_, _, target, _, hBanned⟩
        · exact .inr ⟨hSame.hosted, hSent⟩
        · exact .inr ⟨hBanned.hosted, hSent⟩
  | join pseudonym displayName routeBlob =>
    have hTold {communityId : String} (hTarget : routing.joinTarget = some communityId) :
        Announces communityId
          (fun _ => (s.hosted.lookup communityId).elim [] fun before => joinNews communityId sender before displayName)
          (dispatchRequest env sender routing (.join pseudonym displayName routeBlob)) s :=
      .bind_ofExcept fun _ _ => announces_handleJoin env communityId sender s hTarget displayName routeBlob
    have hRefused {e : RpcError} {t : ServerState}
        (hRun : (dispatchRequest env sender routing (.join pseudonym displayName routeBlob)).run s = .error e t) :
        t.sent = s.sent := by
      cases hTarget : routing.joinTarget with
      | some communityId => exact (hTold hTarget).of_error hRun
      | none =>
        have hNowhere : Announces "" (fun _ => [])
            (dispatchRequest env sender routing (.join pseudonym displayName routeBlob)) s := by
          refine .bind_ofExcept fun _ _ => ?_
          unfold handleJoin
          rw [hTarget]
          exact .bind_ofExcept fun _ hFound => by cases hFound
        exact hNowhere.of_error hRun
    rcases hSettles.cases with ⟨a, t, hRun, hPasses⟩ | ⟨e, t, hRun, _, hSame | hStray⟩
    · have hReturns : Returns (fun _ t => ∃ communityId community, routing.joinTarget = some communityId ∧
            Performed communityId community (joinEffect env communityId sender community displayName routeBlob) s t)
          (dispatchRequest env sender routing (.join pseudonym displayName routeBlob)) s :=
        .bind_ofExcept fun _ _ => handleJoin_performs env sender s routing displayName routeBlob
      obtain ⟨communityId, before, hTarget, hPerformed⟩ := hReturns a t hRun
      have hSent := hPerformed.sent ((hTold hTarget).of_ok hRun)
      rw [hPerformed.found, Option.elim_some] at hSent
      rw [hRun, Result.state_ok]
      exact .inl ⟨communityId, before, hTarget, hPasses, hPerformed, hSent⟩
    · rw [hRun, Result.state_error]
      exact .inr ⟨hSame.hosted, hRefused hRun⟩
    · have hBeside : Ends (Beside (Statement.Stray s fun _ _ => False) s)
          (dispatchRequest env sender routing (.join pseudonym displayName routeBlob)) s :=
        Ends.bind_ofExcept (refl_of (Beside _) s) fun _ _ => handleJoin_stray env sender s hStray displayName routeBlob
      unfold Ends at hBeside
      rw [hRun, Result.state_error] at hBeside ⊢
      exact .inr ⟨hBeside.hosted, hRefused hRun⟩

end

end Rekindle.Server
