import Rekindle.Server.Frames

/-! # Requests and key generations

A request tells its community's current generation only, and either leaves all keys alone or gives
its community the next generation with a fresh key.
-/
namespace Rekindle.Server
set_option autoImplicit false
open Fallible

/-! ## Handlers that change no key -/

section
variable {env : Environment} {sender communityId : String}

theorem handleCreateRole_keysKept (name : String) (color : UInt32) (permissions : Permissions)
    (hoist mentionable : Bool) :
    Keeps KeysKept (handleCreateRole env communityId sender name color permissions hoist mentionable) := by
  intro s
  have hHere := refl_of KeysKept s
  apply ends_with_permission hHere
  intro community hCommunity _
  refine Ends.bind_of_keeps (keysKept_execute fun db db' hRun => ?_) (fun _ hStored => hStored)
    fun stored t hStored => ?_
  · grind [Database.insertRole, KeysAside]
  · apply Ends.bind_ofExcept hStored
    intro _ _
    exact hStored.ends_setCommunity hCommunity (by rfl) (keeps_pure _)

theorem handleEditRole_keysKept (roleId : UInt32) (edit : RoleEdit) :
    Keeps KeysKept (handleEditRole env communityId sender roleId edit) := by
  intro s
  have hHere := refl_of KeysKept s
  apply ends_with_permission hHere
  intro community hCommunity _
  apply Ends.bind_ofExcept hHere
  intro role _
  apply Ends.bind_ofExcept hHere
  intro _ _
  refine hHere.ends_setCommunity hCommunity (by rfl) ?_
  refine Keeps.bind (keysKept_executeIgnoring ?_) fun _ => keeps_pure _
  rintro _ _ ⟨⟩
  exact ⟨rfl, rfl⟩

theorem handleDeleteRole_keysKept (roleId : UInt32) :
    Keeps KeysKept (handleDeleteRole env communityId sender roleId) := by
  intro s
  have hHere := refl_of KeysKept s
  apply Ends.bind_ofExcept hHere
  intro _ _
  apply ends_with_permission hHere
  intro community hCommunity _
  apply Ends.bind_ofExcept hHere
  intro _ _
  refine hHere.ends_setCommunity hCommunity (by rfl) ?_
  refine Keeps.bind (keysKept_executeIgnoring ?_) fun _ =>
    Keeps.bind (keysKept_executeIgnoring ?_) fun _ => keeps_pure _
  · rintro _ _ ⟨⟩
    exact ⟨rfl, rfl⟩
  · rintro _ _ ⟨⟩
    exact ⟨rfl, rfl⟩

theorem keysKept_insertMemberRole {ε : Type} (row : MemberRoleRow) :
    Keeps KeysKept (executeIgnoring (fun db => db.insertMemberRole row) :
      EStateM ε ServerState Unit) := by
  refine keysKept_executeIgnoring fun db db' hRun => ?_
  grind [Database.insertMemberRole, KeysAside]

theorem handleAssignRole_keysKept (target : String) (roleId : UInt32) :
    Keeps KeysKept (handleAssignRole env communityId sender target roleId) := by
  intro s
  have hHere := refl_of KeysKept s
  apply ends_with_permission hHere
  intro community hCommunity _
  apply Ends.bind_ofExcept hHere
  intro _ _
  apply Ends.bind_ofExcept hHere
  intro _ _
  apply Ends.bind_ofExcept hHere
  intro member _
  split
  · refine hHere.ends_setCommunity hCommunity (by rfl) ?_
    exact (keysKept_insertMemberRole _).bind fun _ => keeps_pure _
  · exact hHere

theorem handleUnassignRole_keysKept (target : String) (roleId : UInt32) :
    Keeps KeysKept (handleUnassignRole env communityId sender target roleId) := by
  intro s
  have hHere := refl_of KeysKept s
  apply Ends.bind_ofExcept hHere
  intro _ _
  apply ends_with_permission hHere
  intro community hCommunity _
  apply Ends.bind_ofExcept hHere
  intro _ _
  apply Ends.bind_ofExcept hHere
  intro _ _
  refine hHere.ends_setCommunity hCommunity (by rfl) ?_
  refine Keeps.bind (keysKept_executeIgnoring ?_) fun _ => keeps_pure _
  rintro _ _ ⟨⟩
  exact ⟨rfl, rfl⟩

theorem keysKept_broadcastToMembers (exclude : String) {broadcast : CommunityBroadcast}
    (hTold : broadcast.announced = none) :
    Keeps KeysKept (broadcastToMembers communityId exclude broadcast : ServerM Unit) :=
  fun s => (elsewhere_broadcastToMembers communityId exclude hTold s).keys

theorem handleTimeoutMember_keysKept (target : String) (durationSeconds : UInt64)
    (reason : Option String) :
    Keeps KeysKept (handleTimeoutMember env communityId sender target durationSeconds reason) := by
  intro s
  have hHere := refl_of KeysKept s
  apply ends_with_permission hHere
  intro community hCommunity _
  apply Ends.bind_ofExcept hHere
  intro _ _
  apply Ends.bind_ofExcept hHere
  intro _ _
  refine hHere.ends_setCommunity hCommunity (by rfl) ?_
  refine Keeps.bind (keysKept_executeIgnoring fun db db' hRun => ?_) fun _ =>
    (keysKept_broadcastToMembers _ rfl).bind fun _ => keeps_pure _
  grind [Database.insertOrReplaceTimeout, KeysAside]

theorem handleRemoveTimeout_keysKept (target : String) :
    Keeps KeysKept (handleRemoveTimeout env communityId sender target) := by
  intro s
  have hHere := refl_of KeysKept s
  apply ends_with_permission hHere
  intro community hCommunity _
  refine hHere.ends_setCommunity hCommunity (by rfl) ?_
  refine Keeps.bind (keysKept_executeIgnoring ?_) fun _ =>
    (keysKept_broadcastToMembers _ rfl).bind fun _ => keeps_pure _
  rintro _ _ ⟨⟩
  exact ⟨rfl, rfl⟩

theorem keysKept_insertMemberRows (displayName : String) (roleIds : List UInt32) :
    Keeps KeysKept (insertMemberRows env communityId sender displayName roleIds : ServerM Unit) := by
  refine Keeps.bind (keysKept_executeIgnoring fun db db' hRun => ?_) fun _ =>
    keeps_list_forM _ fun _ => keysKept_insertMemberRole _
  grind [Database.insertMember, KeysAside]

theorem keysKept_updateRouteBlob (named : String) (blob : List UInt8) :
    Keeps KeysKept (executeIgnoring (Database.updateRouteBlob named sender · blob) : ServerM Unit) := by
  refine keysKept_executeIgnoring ?_
  rintro _ _ ⟨⟩
  exact ⟨rfl, rfl⟩

theorem pushMember_keysKept (isFirstMember : Bool) (displayName : String)
    (routeBlob : Option (List UInt8)) :
    Keeps KeysKept (pushMember env communityId sender isFirstMember displayName routeBlob) := by
  intro s
  apply ends_lookupCommunity
  cases hCommunity : s.hosted.lookup communityId with
  | none => exact refl_of KeysKept s
  | some community =>
    refine Ends.bind_of_keeps (fun t => (elsewhere_recordCreator _ t).keys) (fun _ hKept => hKept)
      fun _ t hKept => ?_
    refine hKept.ends_setCommunity hCommunity (by rfl) ?_
    exact Keeps.bind (keeps_option_forM _ fun _ => keysKept_updateRouteBlob _ _) fun _ => keeps_pure _

theorem handleRejoin_keysKept (routeBlob : Option (List UInt8)) :
    Keeps KeysKept (handleRejoin communityId sender routeBlob) := by
  intro s
  apply ends_lookupCommunity
  cases hCommunity : s.hosted.lookup communityId with
  | none => exact refl_of KeysKept s
  | some community =>
    cases hMember : findMember community.members sender with
    | none =>
      simp only [hMember]
      exact refl_of KeysKept s
    | some member =>
      cases routeBlob with
      | none =>
        simp only [hMember]
        exact refl_of KeysKept s
      | some blob =>
        simp only [hMember]
        refine (refl_of KeysKept s).ends_setCommunity hCommunity (by rfl) ?_
        exact (keysKept_updateRouteBlob _ _).bind fun _ => keeps_pure _

theorem joinAsNewMember_keysKept (displayName : String) (routeBlob : Option (List UInt8)) :
    Keeps KeysKept (joinAsNewMember env communityId sender displayName routeBlob) := by
  have hAdd : Keeps KeysKept (addNewMember env communityId sender displayName routeBlob) := by
    refine Keeps.bind (fun s => (elsewhere_lookupCommunity _ s).keys) fun community => ?_
    exact (keysKept_insertMemberRows _ _).bind fun _ => pushMember_keysKept _ _ _
  refine hAdd.bind fun joined => ?_
  exact fun s => (elsewhere_announceJoin displayName joined s).keys

theorem handleJoin_keysKept (routing : Routing) (displayName : String)
    (routeBlob : Option (List UInt8)) :
    Keeps KeysKept (handleJoin env sender routing displayName routeBlob) := by
  refine (keeps_ofExcept _).bind fun communityId => ?_
  refine Keeps.bind (fun s => (elsewhere_lookupCommunity _ s).keys) fun community => ?_
  refine (keeps_ofExcept _).bind fun _ => ?_
  refine Keeps.bind (fun s => ?_) fun _ => ?_
  · exact ((elsewhere_query _).bind fun _ => keeps_ofExcept _ : Keeps Elsewhere _) s |>.keys
  refine (handleRejoin_keysKept routeBlob).bind fun response => ?_
  cases response with
  | none => exact joinAsNewMember_keysKept displayName routeBlob
  | some response => exact keeps_pure _

end

/-! ## Rotations -/

/-- What is told between two states, to members and by new messages, is current in the later one. -/
structure TellsCurrent (before after : ServerState) : Prop where
  messages : ∃ added, after.db.serverMessages = before.db.serverMessages ++ added ∧
    ∀ row ∈ added, ∃ generation, IsCurrent after row.communityId generation ∧ row.Labelled generation
  sent : ∃ added, after.sent = before.sent ++ added ∧
    ∀ entry ∈ added, ∀ communityId generation, entry.2.announced = some (communityId, generation) →
      IsCurrent after communityId generation

theorem KeysKept.tellsCurrent {before after : ServerState} (h : KeysKept before after) :
    TellsCurrent before after := by
  obtain ⟨rows, hRows, hLabels⟩ := h.messages
  obtain ⟨sent, hSent, hTold⟩ := h.sent
  refine ⟨⟨rows, hRows, fun row hRow => ?_⟩, ⟨sent, hSent, fun entry hEntry id generation hAnnounced => ?_⟩⟩
  · obtain ⟨generation, hCurrent, hLabel⟩ := hLabels row hRow
    exact ⟨generation, h.isCurrent_iff.mpr hCurrent, hLabel⟩
  · exact h.isCurrent_iff.mpr (hTold entry hEntry id generation hAnnounced)

/-- The community gets the next generation, with the key; the other communities keep theirs. -/
structure Rotated (communityId : String) (key : List UInt8) (before after : ServerState) : Prop where
  tells : TellsCurrent before after
  rotated : ∃ community changed, before.hosted.lookup communityId = some community ∧
    after.hosted.lookup communityId = some changed ∧
    changed.mek = { generation := community.mek.generation + 1, key := key }
  others : ∀ other, other ≠ communityId →
    (after.hosted.lookup other).map HostedCommunity.mek =
      (before.hosted.lookup other).map HostedCommunity.mek
  rows : ∀ other, other ≠ communityId →
    after.db.serverMek.filter (·.communityId == other) =
      before.db.serverMek.filter (·.communityId == other)

/-- Steps before a rotation: the tables of keys and messages, and what was sent, stay. -/
structure Unheard (before after : ServerState) : Prop where
  hosted : after.hosted = before.hosted
  keys : after.db.serverMek = before.db.serverMek
  messages : after.db.serverMessages = before.db.serverMessages
  sent : after.sent = before.sent

instance : Std.Refl Unheard := ⟨fun _ => ⟨rfl, rfl, rfl, rfl⟩⟩

instance : IsTrans ServerState Unheard :=
  ⟨fun _ _ _ hFirst hSecond => ⟨hSecond.hosted.trans hFirst.hosted, hSecond.keys.trans hFirst.keys,
    hSecond.messages.trans hFirst.messages, hSecond.sent.trans hFirst.sent⟩⟩

theorem Unheard.keysKept {before after : ServerState} (h : Unheard before after) :
    KeysKept before after :=
  .of_same h.keys h.messages h.sent fun communityId => by rw [h.hosted]

theorem unheard_executeIgnoring {ε : Type} {statement : Database → Option Database}
    (h : ∀ db db', statement db = some db' → KeysAside db db') :
    Keeps Unheard (executeIgnoring statement : EStateM ε ServerState Unit) := by
  intro s
  obtain ⟨db, hRun, hDb⟩ : ∃ db, (executeIgnoring statement : EStateM ε _ _).run s = _ ∧ _ :=
    executeIgnoring_run statement s
  rw [hRun]
  rcases hDb with rfl | hStatement
  · exact ⟨rfl, rfl, rfl, rfl⟩
  · have hAside := h s.db db hStatement
    exact ⟨rfl, hAside.keys, hAside.messages, rfl⟩

section
variable {env : Environment} {sender communityId : String} {s t : ServerState}

theorem rotateMek_run {ε : Type} (newGeneration : UInt64) (s : ServerState) :
    ∃ u, (rotateMek env communityId newGeneration : EStateM ε ServerState _).run s =
        .ok { generation := newGeneration, key := env.mekKey } u ∧
      u.hosted = s.hosted ∧ u.sent = s.sent ∧ u.db.serverMessages = s.db.serverMessages ∧
      ∀ other, other ≠ communityId → u.db.serverMek.filter (·.communityId == other) =
        s.db.serverMek.filter (·.communityId == other) := by
  set row : MekRow :=
    { communityId := communityId, generation := min newGeneration.toNat i64Max
      keyBytes := env.mekKey, createdAt := env.timestampNow }
  obtain ⟨db, hRun, hDb⟩ : ∃ db, (executeIgnoring (fun db => db.insertMek row) :
      EStateM ε _ _).run s = _ ∧ _ := executeIgnoring_run (fun db => db.insertMek row) s
  refine ⟨_, run_bind_of_ok _ hRun, rfl, rfl, ?_⟩
  rcases hDb with rfl | hInsert
  · exact ⟨rfl, fun _ _ => rfl⟩
  · unfold Database.insertMek at hInsert
    split_ifs at hInsert
    cases hInsert
    refine ⟨rfl, fun other hOther => ?_⟩
    have hNot : (row.communityId == other) = false := beq_false_of_ne (Ne.symm hOther)
    simp [List.filter_append, hNot]

/-- The write section of a rotation, with what comes after it. -/
theorem ends_rotate {β : Type} {community : HostedCommunity}
    {changed : MediaEncryptionKey → HostedCommunity} {f : MediaEncryptionKey → ServerM β}
    (hBefore : Unheard s t) (hCommunity : s.hosted.lookup communityId = some community)
    (hChanged : ∀ mek, (changed mek).mek = mek)
    (hRest : ∀ mek v, v.hosted.lookup communityId = some (changed mek) →
      KeysKept v (Result.state ((f mek).run v))) :
    Ends (Rotated communityId env.mekKey s) (do
      let mek ← rotateMek env communityId (community.mek.generation + 1)
      setCommunity communityId (changed mek)
      f mek) t := by
  set mek : MediaEncryptionKey := { generation := community.mek.generation + 1, key := env.mekKey }
  obtain ⟨u, hRun, hHosted, hSent, hMessages, hRows⟩ : ∃ u, (rotateMek env communityId
      (community.mek.generation + 1) : ServerM _).run t = .ok mek u ∧ _ := rotateMek_run _ t
  apply Ends.bind_of_ok hRun
  set v : ServerState := { u with hosted := u.hosted.insert communityId (changed mek) }
  have hInserted : v.hosted.lookup communityId = some (changed mek) := Finmap.lookup_insert _
  have hKept := hRest mek v hInserted
  have hTells := hKept.tellsCurrent
  obtain ⟨after, hAfter, hMek⟩ : ∃ after, (Result.state ((f mek).run v)).hosted.lookup communityId =
      some after ∧ after.mek = mek := by
    have hSame := hKept.hosted communityId
    rw [hInserted, Option.map_some, hChanged] at hSame
    exact Option.map_eq_some_iff.mp hSame
  refine ⟨⟨?_, ?_⟩, ⟨community, after, hCommunity, hAfter, hMek⟩, fun other hOther => ?_,
    fun other hOther => ?_⟩
  · obtain ⟨added, hAdded, hLabels⟩ := hTells.messages
    refine ⟨added, ?_, hLabels⟩
    rw [← hBefore.messages, ← hMessages]
    exact hAdded
  · obtain ⟨added, hAdded, hTold⟩ := hTells.sent
    refine ⟨added, ?_, hTold⟩
    rw [← hBefore.sent, ← hSent]
    exact hAdded
  · refine (hKept.hosted other).trans ?_
    change ((u.hosted.insert communityId (changed mek)).lookup other).map _ = _
    rw [Finmap.lookup_insert_of_ne _ hOther, hHosted, hBefore.hosted]
  · refine (congrArg _ hKept.keys).trans ?_
    rw [← hBefore.keys]
    exact hRows other hOther

/-- The keys stay, or the community gets the next one. -/
def KeyStep (communityId : String) (key : List UInt8) (before after : ServerState) : Prop :=
  KeysKept before after ∨ Rotated communityId key before after

theorem handleRotateMek_keyStep :
    Ends (KeyStep communityId env.mekKey s) (handleRotateMek env communityId sender) s := by
  apply ends_with_permission (.inl (refl_of KeysKept s))
  intro community hCommunity _
  refine Ends.mono (fun _ => .inr) (ends_rotate (refl_of Unheard s) hCommunity (fun _ => rfl) ?_)
  intro mek v hInserted
  refine keysKept_broadcast (ε := RpcError) communityId "" fun id generation hTold => ?_
  cases hTold
  exact ⟨_, hInserted, rfl⟩

/-- Leave, and the end of Kick and of Ban. -/
theorem handleLeave_keyStep (hBefore : Unheard s t) :
    Ends (KeyStep communityId env.mekKey s) (handleLeave env communityId sender) t := by
  have hVerify : Keeps Unheard (verifyMembershipIfHosted communityId sender) := by
    refine Keeps.bind (fun s => refl_of Unheard s) fun community => keeps_ofExcept _
  refine Ends.bind_of_keeps hVerify (fun _ hKept => .inl (trans_of Unheard hBefore hKept).keysKept)
    fun _ checked hChecked => ?_
  have hDelete : Keeps Unheard
      (executeIgnoring (Database.deleteMember communityId sender) : ServerM Unit) := by
    refine unheard_executeIgnoring ?_
    rintro _ _ ⟨⟩
    exact ⟨rfl, rfl⟩
  have hUntil : Unheard s checked := trans_of Unheard hBefore hChecked
  refine Ends.bind_of_keeps hDelete (fun _ hKept => .inl (trans_of Unheard hUntil hKept).keysKept)
    fun _ deleted hDeleted => ?_
  have hUnheard : Unheard s deleted := trans_of Unheard hUntil hDeleted
  unfold removeMember
  rw [bind_assoc]
  apply ends_lookupCommunity
  have hRest : Keeps KeysKept (do broadcastDeparture communityId sender; pure CommunityResponse.ok) :=
    keysKept_broadcastDeparture.bind fun _ => keeps_pure _
  rw [hUnheard.hosted]
  cases hCommunity : s.hosted.lookup communityId with
  | none => exact .inl (trans_of KeysKept hUnheard.keysKept (hRest deleted))
  | some community =>
    simp only [bind_assoc]
    exact Ends.mono (fun _ => .inr)
      (ends_rotate hUnheard hCommunity (fun _ => rfl) fun _ v _ => hRest v)

theorem handleKick_keyStep (target : String) :
    Ends (KeyStep communityId env.mekKey s) (handleKick env communityId sender target) s := by
  have hHere : KeyStep communityId env.mekKey s s := .inl (refl_of KeysKept s)
  apply ends_with_community hHere
  intro community _
  apply Ends.bind_ofExcept hHere
  intro _ _
  apply Ends.bind_ofExcept hHere
  intro _ _
  apply Ends.bind_ofExcept hHere
  intro _ _
  exact handleLeave_keyStep (refl_of Unheard s)

theorem handleBan_keyStep (target : String) :
    Ends (KeyStep communityId env.mekKey s) (handleBan env communityId sender target) s := by
  have hHere : KeyStep communityId env.mekKey s s := .inl (refl_of KeysKept s)
  apply ends_with_permission hHere
  intro community _ _
  apply Ends.bind_ofExcept hHere
  intro _ _
  apply Ends.bind_ofExcept hHere
  intro _ _
  refine Ends.bind_of_keeps (unheard_executeIgnoring fun db db' hRun => ?_)
    (fun _ hKept => .inl hKept.keysKept) fun _ t hKept => handleLeave_keyStep hKept
  grind [Database.insertOrReplaceBan, KeysAside]

end

/-! ## Requests -/

/-- The requests that can lead to a new key. -/
def MemberRequest.rotates : MemberRequest → Bool
  | leave | kick _ | ban _ | rotateMek => true
  | _ => false

section
variable {env : Environment} {sender communityId : String}

theorem keysKept_thenBroadcast {handler : ServerM CommunityResponse} {broadcast : ServerM Unit}
    (hHandler : Keeps KeysKept handler) (hBroadcast : Keeps Elsewhere broadcast) :
    Keeps KeysKept (thenBroadcast handler broadcast) :=
  hHandler.bind fun _ => Keeps.bind (fun s => (hBroadcast s).keys) fun _ => keeps_pure _

theorem handleRequest_keyStep (request : MemberRequest) (s : ServerState) :
    KeysKept s (Result.state ((handleRequest env sender communityId request).run s)) ∨
      request.rotates = true ∧
        Rotated communityId env.mekKey s
          (Result.state ((handleRequest env sender communityId request).run s)) := by
  cases request with
  | leave => exact (handleLeave_keyStep (refl_of Unheard s)).imp_right fun h => ⟨rfl, h⟩
  | kick target => exact (handleKick_keyStep target).imp_right fun h => ⟨rfl, h⟩
  | ban target => exact (handleBan_keyStep target).imp_right fun h => ⟨rfl, h⟩
  | rotateMek => exact handleRotateMek_keyStep.imp_right fun h => ⟨rfl, h⟩
  | sendMessage => exact .inl (handleSendMessage_elsewhere _ _ _ _ _ _ s).keys
  | getMessages => exact .inl (handleGetMessages_elsewhere _ _ _ _ _ s).keys
  | requestMek => exact .inl (handleRequestMek_elsewhere _ _ s).keys
  | createChannel => exact .inl (handleCreateChannel_elsewhere _ _ _ _ _ s).keys
  | deleteChannel => exact .inl (handleDeleteChannel_elsewhere _ _ _ _ s).keys
  | renameChannel => exact .inl (handleRenameChannel_elsewhere _ _ _ _ _ s).keys
  | updateCommunity => exact .inl (handleUpdateCommunity_elsewhere _ _ _ _ _ s).keys
  | unban => exact .inl (handleUnban_elsewhere _ _ _ _ s).keys
  | getBanList => exact .inl (handleGetBanList_elsewhere _ _ _ s).keys
  | createRole =>
    exact .inl (keysKept_thenBroadcast (handleCreateRole_keysKept _ _ _ _ _)
      elsewhere_broadcastRolesChanged s)
  | editRole =>
    exact .inl (keysKept_thenBroadcast (handleEditRole_keysKept _ _) elsewhere_broadcastRolesChanged s)
  | deleteRole =>
    exact .inl (keysKept_thenBroadcast (handleDeleteRole_keysKept _) elsewhere_broadcastRolesChanged s)
  | assignRole =>
    exact .inl (keysKept_thenBroadcast (handleAssignRole_keysKept _ _)
      (elsewhere_broadcastMemberRolesChanged _) s)
  | unassignRole =>
    exact .inl (keysKept_thenBroadcast (handleUnassignRole_keysKept _ _)
      (elsewhere_broadcastMemberRolesChanged _) s)
  | setChannelOverwrite => exact .inl (handleSetChannelOverwrite_elsewhere _ _ _ _ _ _ _ _ s).keys
  | deleteChannelOverwrite => exact .inl (handleDeleteChannelOverwrite_elsewhere _ _ _ _ _ _ s).keys
  | timeoutMember => exact .inl (handleTimeoutMember_keysKept _ _ _ s)
  | removeTimeout => exact .inl (handleRemoveTimeout_keysKept _ s)
  | getRoles => exact .inl (handleGetRoles_elsewhere _ _ s).keys

end

/-- A request leaves the keys alone, or it is a rotation in the community it is for. -/
theorem serve_keyStep (state : ServerState) (incoming : IncomingRequest) :
    KeysKept state (serve state incoming) ∨ ∃ communityId request,
      incoming.request = .member request ∧ request.rotates = true ∧
      incoming.target = some communityId ∧
      Rotated communityId incoming.env.mekKey state (serve state incoming) := by
  obtain ⟨env, sender, routing, request⟩ := incoming
  cases request with
  | join pseudonym displayName routeBlob =>
    have hJoin : Keeps KeysKept
        (handleJoinRequest env sender routing pseudonym displayName routeBlob) :=
      (keeps_ofExcept _).bind fun _ => handleJoin_keysKept routing displayName routeBlob
    exact .inl (hJoin state)
  | member request =>
    cases hTarget : resolveCommunityId routing with
    | none =>
      refine .inl ?_
      unfold serve dispatchRequest
      rw [hTarget]
      exact refl_of KeysKept state
    | some communityId =>
      unfold serve dispatchRequest
      rw [hTarget]
      refine (handleRequest_keyStep request state).imp_right fun hRotated => ?_
      exact ⟨communityId, request, rfl, hRotated.1, hTarget, hRotated.2⟩

/-! ## Answers -/

/-- The generation that an answer tells. -/
def CommunityResponse.generation : CommunityResponse → Option UInt64
  | joined _ mekGeneration _ _ _ => some mekGeneration
  | mek _ mekGeneration => some mekGeneration
  | _ => none

/-- No answer of the handler tells a generation. -/
def TellsNothing (handler : ServerM CommunityResponse) : Prop :=
  ∀ s response t, handler.run s = .ok response t → response.generation = none

theorem tellsNothing_pure {response : CommunityResponse} (h : response.generation = none) :
    TellsNothing (pure response) := by
  rintro s _ t ⟨⟩
  exact h

theorem tellsNothing_bind {α : Type} {x : ServerM α} {f : α → ServerM CommunityResponse}
    (h : ∀ a, TellsNothing (f a)) : TellsNothing (x >>= f) := by
  intro s response t hRun
  obtain ⟨a, u, _, hRest⟩ := run_bind_eq_ok_iff.mp hRun
  exact h a u response t hRest

theorem tellsNothing_thenBroadcast {handler : ServerM CommunityResponse} {broadcast : ServerM Unit}
    (h : TellsNothing handler) : TellsNothing (thenBroadcast handler broadcast) := by
  intro s response t hRun
  obtain ⟨_, u, hHandler, hRest⟩ := run_bind_eq_ok_iff.mp hRun
  obtain ⟨_, v, _, hEnd⟩ := run_bind_eq_ok_iff.mp hRest
  cases hEnd
  exact h s _ u hHandler

section
variable (env : Environment) (sender communityId : String)

theorem handleLeave_tellsNothing : TellsNothing (handleLeave env communityId sender) := by
  repeat refine tellsNothing_bind fun _ => ?_
  exact tellsNothing_pure rfl

theorem handleAssignRole_tellsNothing (target : String) (roleId : UInt32) :
    TellsNothing (handleAssignRole env communityId sender target roleId) := by
  refine tellsNothing_bind fun _ => tellsNothing_bind fun _ => tellsNothing_bind fun _ =>
    tellsNothing_bind fun member => ?_
  split
  · exact tellsNothing_bind fun _ => tellsNothing_bind fun _ => tellsNothing_pure rfl
  · exact tellsNothing_pure rfl

/-- Only RequestMEK tells a generation to a member. -/
theorem handleRequest_tellsNothing {request : MemberRequest} (hOther : request ≠ .requestMek) :
    TellsNothing (handleRequest env sender communityId request) := by
  cases request with
  | requestMek => exact absurd rfl hOther
  | leave => exact handleLeave_tellsNothing env sender communityId
  | assignRole => exact tellsNothing_thenBroadcast (handleAssignRole_tellsNothing _ _ _ _ _)
  | createRole | editRole | deleteRole | unassignRole =>
    apply tellsNothing_thenBroadcast
    repeat refine tellsNothing_bind fun _ => ?_
    exact tellsNothing_pure rfl
  | _ =>
    repeat refine tellsNothing_bind fun _ => ?_
    exact tellsNothing_pure rfl

/-- What the answer tells is the community's current generation. -/
def CommunityResponse.AnswersCurrent (response : CommunityResponse) (state : ServerState) : Prop :=
  ∀ generation, response.generation = some generation → IsCurrent state communityId generation

variable {env sender communityId} {s : ServerState}

theorem handleRequestMek_answers :
    Returns (CommunityResponse.AnswersCurrent communityId) (handleRequestMek communityId sender) s := by
  change Returns _ (ofExcept (orThrow (s.hosted.lookup communityId) communityNotFound) >>= _) s
  apply Returns.bind_ofExcept
  intro community hCommunity
  apply Returns.bind_ofExcept
  intro _ _
  apply returns_pure
  rintro _ ⟨⟩
  exact ⟨community, orThrow_eq_ok_iff.mp hCommunity, rfl⟩

theorem handleRejoin_answers (routeBlob : Option (List UInt8)) :
    Returns (fun response _ => ∀ told, response = some told → told.AnswersCurrent communityId s)
      (handleRejoin communityId sender routeBlob) s := by
  apply returns_lookupCommunity
  cases hCommunity : s.hosted.lookup communityId with
  | none =>
    apply returns_pure
    rintro _ ⟨⟩
  | some community =>
    cases hMember : findMember community.members sender with
    | none =>
      simp only [hMember]
      apply returns_pure
      rintro _ ⟨⟩
    | some member =>
      cases routeBlob with
      | none =>
        simp only [hMember]
        apply returns_pure
        rintro _ ⟨⟩ _ ⟨⟩
        exact ⟨community, hCommunity, rfl⟩
      | some blob =>
        simp only [hMember]
        refine Returns.bind (P := fun _ _ => True) (fun _ _ _ => trivial) fun _ _ _ => ?_
        refine Returns.bind (P := fun _ _ => True) (fun _ _ _ => trivial) fun _ _ _ => ?_
        apply returns_pure
        rintro _ ⟨⟩ _ ⟨⟩
        exact ⟨community, hCommunity, rfl⟩

theorem pushMember_tells (isFirstMember : Bool) (displayName : String)
    (routeBlob : Option (List UInt8)) :
    Returns (fun joined _ => ∀ result, joined = some result → IsCurrent s communityId result.mekGeneration)
      (pushMember env communityId sender isFirstMember displayName routeBlob) s := by
  apply returns_lookupCommunity
  cases hCommunity : s.hosted.lookup communityId with
  | none =>
    apply returns_pure
    rintro _ ⟨⟩
  | some community =>
    refine Returns.bind (P := fun _ _ => True) (fun _ _ _ => trivial) fun _ _ _ => ?_
    refine Returns.bind (P := fun _ _ => True) (fun _ _ _ => trivial) fun _ _ _ => ?_
    refine Returns.bind (P := fun _ _ => True) (fun _ _ _ => trivial) fun _ _ _ => ?_
    apply returns_pure
    rintro _ ⟨⟩
    exact ⟨community, hCommunity, rfl⟩

theorem addNewMember_tells (displayName : String) (routeBlob : Option (List UInt8)) :
    Returns (fun joined _ => ∀ result, joined = some result → IsCurrent s communityId result.mekGeneration)
      (addNewMember env communityId sender displayName routeBlob) s := by
  apply returns_lookupCommunity
  refine Returns.bind (returns_of_keeps (keysKept_insertMemberRows _ _)) fun _ t hKept => ?_
  intro joined u hRun result hResult
  exact hKept.isCurrent_iff.mp (pushMember_tells _ _ _ joined u hRun result hResult)

theorem joinAsNewMember_answers (displayName : String) (routeBlob : Option (List UInt8)) :
    Returns (fun response _ => response.AnswersCurrent communityId s)
      (joinAsNewMember env communityId sender displayName routeBlob) s := by
  refine Returns.bind (addNewMember_tells displayName routeBlob) fun joined t hTold => ?_
  apply Returns.bind_ofExcept
  intro result hResult
  refine Returns.bind (P := fun _ _ => True) (fun _ _ _ => trivial) fun _ _ _ => ?_
  apply returns_pure
  rintro _ ⟨⟩
  exact hTold result (orThrow_eq_ok_iff.mp hResult)

theorem handleJoin_answers (routing : Routing) (displayName : String)
    (routeBlob : Option (List UInt8)) :
    Returns (fun response t => ∃ communityId, routing.joinTarget = some communityId ∧
        response.AnswersCurrent communityId t)
      (handleJoin env sender routing displayName routeBlob) s := by
  intro response t hRun
  have hKept := returns_of_keeps (handleJoin_keysKept routing displayName routeBlob) response t hRun
  suffices hBefore : Returns (fun response _ => ∃ communityId, routing.joinTarget = some communityId ∧
      response.AnswersCurrent communityId s)
      (handleJoin env sender routing displayName routeBlob) s by
    obtain ⟨communityId, hTarget, hCurrent⟩ := hBefore response t hRun
    exact ⟨communityId, hTarget, fun generation hTold =>
      hKept.isCurrent_iff.mpr (hCurrent generation hTold)⟩
  apply Returns.bind_ofExcept
  intro communityId hTarget
  have hTarget := orThrow_eq_ok_iff.mp hTarget
  apply returns_lookupCommunity
  apply Returns.bind_ofExcept
  intro _ _
  have hCheck : Keeps Elsewhere (checkNotBanned communityId sender) :=
    (elsewhere_query _).bind fun _ => keeps_ofExcept _
  refine Returns.bind (returns_of_keeps hCheck) fun _ u hChecked => ?_
  have hRejoin : Returns (fun response v => (∀ told, response = some told →
      told.AnswersCurrent communityId u) ∧ KeysKept u v) (handleRejoin communityId sender routeBlob) u :=
    fun response v hRun => ⟨handleRejoin_answers routeBlob response v hRun,
      returns_of_keeps (handleRejoin_keysKept routeBlob) response v hRun⟩
  refine Returns.bind hRejoin fun response v hAnswer => ?_
  cases response with
  | some told =>
    apply returns_pure
    refine ⟨communityId, hTarget, fun generation hTold => ?_⟩
    exact hChecked.keys.isCurrent_iff.mp (hAnswer.1 told rfl generation hTold)
  | none =>
    intro told w hJoined
    refine ⟨communityId, hTarget, fun generation hTold => ?_⟩
    have hCurrent := joinAsNewMember_answers displayName routeBlob told w hJoined generation hTold
    exact hChecked.keys.isCurrent_iff.mp (hAnswer.2.isCurrent_iff.mp hCurrent)

end

/-- What the answer to a request tells is current, in the community it is for. -/
theorem dispatchRequest_answers (state : ServerState) (incoming : IncomingRequest)
    {response : CommunityResponse} {after : ServerState} {generation : UInt64}
    (hRun : (dispatchRequest incoming.env incoming.sender incoming.routing incoming.request).run state =
      .ok response after) (hTold : response.generation = some generation) :
    ∃ communityId, incoming.target = some communityId ∧ IsCurrent after communityId generation := by
  obtain ⟨env, sender, routing, request⟩ := incoming
  cases request with
  | join pseudonym displayName routeBlob =>
    have hJoin : Returns (fun response t => ∃ communityId, routing.joinTarget = some communityId ∧
        response.AnswersCurrent communityId t)
        (handleJoinRequest env sender routing pseudonym displayName routeBlob) state :=
      Returns.bind_ofExcept fun _ _ => handleJoin_answers routing displayName routeBlob
    obtain ⟨communityId, hTarget, hCurrent⟩ := hJoin response after hRun
    exact ⟨communityId, hTarget, hCurrent generation hTold⟩
  | member request =>
    have hMember : Returns (fun response t => ∀ generation, response.generation = some generation →
        ∃ communityId, resolveCommunityId routing = some communityId ∧
          IsCurrent t communityId generation) (dispatchRequest env sender routing (.member request)) state := by
      apply Returns.bind_ofExcept
      intro communityId hTarget told t hHandled generation hGeneration
      refine ⟨communityId, orThrow_eq_ok_iff.mp hTarget, ?_⟩
      by_cases hRequest : request = .requestMek
      · subst hRequest
        exact handleRequestMek_answers told t hHandled generation hGeneration
      · rw [handleRequest_tellsNothing env sender communityId hRequest state told t hHandled] at hGeneration
        cases hGeneration
    exact hMember response after hRun generation hTold

end Rekindle.Server
