import Mathlib.Data.List.Infix
import Rekindle.Server.Outcomes

/-! # What requests leave alone

Most handlers touch neither the keys nor the roster and the roles: their effect is elsewhere.
-/
namespace Rekindle.Server
set_option autoImplicit false
open Fallible

/-- The community's key has the generation. -/
def IsCurrent (state : ServerState) (communityId : String) (generation : UInt64) : Prop :=
  ∃ community, state.hosted.lookup communityId = some community ∧ community.mek.generation = generation

/-- The generation that a broadcast tells its receivers. -/
def CommunityBroadcast.announced : CommunityBroadcast → Option (String × UInt64)
  | newMessage communityId _ _ _ mekGeneration _ => some (communityId, mekGeneration)
  | mekRotated communityId newGeneration => some (communityId, newGeneration)
  | _ => none

/-- The message is labelled with the generation, as far as an `i64` goes. -/
def MessageRow.Labelled (row : MessageRow) (generation : UInt64) : Prop :=
  row.mekGeneration = min generation.toNat i64Max

/-- Keys stay, and only their generations are told or put on new messages. -/
structure KeysKept (before after : ServerState) : Prop where
  keys : after.db.serverMek = before.db.serverMek
  messages : ∃ added, after.db.serverMessages = before.db.serverMessages ++ added ∧
    ∀ row ∈ added, ∃ generation, IsCurrent before row.communityId generation ∧ row.Labelled generation
  sent : ∃ added, after.sent = before.sent ++ added ∧
    ∀ entry ∈ added, ∀ communityId generation, entry.2.announced = some (communityId, generation) →
      IsCurrent before communityId generation
  hosted : ∀ communityId, (after.hosted.lookup communityId).map HostedCommunity.mek =
    (before.hosted.lookup communityId).map HostedCommunity.mek

/-- Members, roles and who holds which stay. -/
structure RosterKept (before after : ServerState) : Prop where
  members : after.db.serverMembers = before.db.serverMembers
  roles : after.db.serverRoles = before.db.serverRoles
  memberRoles : after.db.serverMemberRoles = before.db.serverMemberRoles
  hosted : ∀ communityId,
    (after.hosted.lookup communityId).map (fun community =>
      (community.communityId, community.members, community.roles)) =
    (before.hosted.lookup communityId).map (fun community =>
      (community.communityId, community.members, community.roles))
  faults : after.dbFaults <:+ before.dbFaults

structure Elsewhere (before after : ServerState) : Prop where
  keys : KeysKept before after
  roster : RosterKept before after

theorem KeysKept.isCurrent_iff {before after : ServerState} (h : KeysKept before after)
    {communityId : String} {generation : UInt64} :
    IsCurrent after communityId generation ↔ IsCurrent before communityId generation := by
  have hSame := congrArg (Option.map MediaEncryptionKey.generation) (h.hosted communityId)
  rw [Option.map_map, Option.map_map] at hSame
  unfold IsCurrent
  rw [← Option.map_eq_some_iff, ← Option.map_eq_some_iff]
  exact Eq.congr_left hSame

theorem KeysKept.of_same {before after : ServerState} (hKeys : after.db.serverMek = before.db.serverMek)
    (hMessages : after.db.serverMessages = before.db.serverMessages) (hSent : after.sent = before.sent)
    (hHosted : ∀ communityId, (after.hosted.lookup communityId).map HostedCommunity.mek =
      (before.hosted.lookup communityId).map HostedCommunity.mek) : KeysKept before after :=
  ⟨hKeys, ⟨[], by rw [hMessages, List.append_nil], by simp⟩, ⟨[], by rw [hSent, List.append_nil], by simp⟩,
    hHosted⟩

instance : Std.Refl KeysKept := ⟨fun _ => .of_same rfl rfl rfl fun _ => rfl⟩

instance : IsTrans ServerState KeysKept := by
  constructor
  intro first second third hFirst hSecond
  obtain ⟨rowsOne, hRowsOne, hLabelsOne⟩ := hFirst.messages
  obtain ⟨rowsTwo, hRowsTwo, hLabelsTwo⟩ := hSecond.messages
  obtain ⟨sentOne, hSentOne, hToldOne⟩ := hFirst.sent
  obtain ⟨sentTwo, hSentTwo, hToldTwo⟩ := hSecond.sent
  refine ⟨hSecond.keys.trans hFirst.keys, ⟨rowsOne ++ rowsTwo, ?_, ?_⟩, ⟨sentOne ++ sentTwo, ?_, ?_⟩,
    fun id => (hSecond.hosted id).trans (hFirst.hosted id)⟩
  · rw [hRowsTwo, hRowsOne, List.append_assoc]
  · intro row hRow
    rcases List.mem_append.mp hRow with hOne | hTwo
    · exact hLabelsOne row hOne
    · obtain ⟨generation, hCurrent, hLabel⟩ := hLabelsTwo row hTwo
      exact ⟨generation, hFirst.isCurrent_iff.mp hCurrent, hLabel⟩
  · rw [hSentTwo, hSentOne, List.append_assoc]
  · intro entry hEntry id generation hTold
    rcases List.mem_append.mp hEntry with hOne | hTwo
    · exact hToldOne entry hOne id generation hTold
    · exact hFirst.isCurrent_iff.mp (hToldTwo entry hTwo id generation hTold)

instance : Std.Refl RosterKept := ⟨fun _ => ⟨rfl, rfl, rfl, fun _ => rfl, List.suffix_refl _⟩⟩

instance : IsTrans ServerState RosterKept :=
  ⟨fun _ _ _ hFirst hSecond =>
    ⟨hSecond.members.trans hFirst.members, hSecond.roles.trans hFirst.roles,
      hSecond.memberRoles.trans hFirst.memberRoles,
      fun id => (hSecond.hosted id).trans (hFirst.hosted id), hSecond.faults.trans hFirst.faults⟩⟩

instance : Std.Refl Elsewhere := ⟨fun state => ⟨refl_of KeysKept state, refl_of RosterKept state⟩⟩

instance : IsTrans ServerState Elsewhere :=
  ⟨fun _ _ _ hFirst hSecond =>
    ⟨trans_of KeysKept hFirst.keys hSecond.keys, trans_of RosterKept hFirst.roster hSecond.roster⟩⟩

/-! ## Statements -/

/-- The statement touches neither keys nor messages. -/
structure KeysAside (before after : Database) : Prop where
  keys : after.serverMek = before.serverMek
  messages : after.serverMessages = before.serverMessages

/-- The statement touches neither members nor roles. -/
structure RosterAside (before after : Database) : Prop where
  members : after.serverMembers = before.serverMembers
  roles : after.serverRoles = before.serverRoles
  memberRoles : after.serverMemberRoles = before.serverMemberRoles

section
variable {ε : Type} {statement : Database → Option Database}

theorem keysKept_execute (h : ∀ db db', statement db = some db' → KeysAside db db') :
    Keeps KeysKept (execute statement : EStateM ε ServerState Bool) := by
  intro s
  obtain ⟨stored, db, hRun, hDb⟩ : ∃ stored db, (execute statement : EStateM ε _ _).run s = _ ∧ _ :=
    execute_run statement s
  rw [hRun]
  rcases hDb with rfl | hStatement
  · exact .of_same rfl rfl rfl fun _ => rfl
  · have hAside := h s.db db hStatement
    exact .of_same hAside.keys hAside.messages rfl fun _ => rfl

theorem rosterKept_execute (h : ∀ db db', statement db = some db' → RosterAside db db') :
    Keeps RosterKept (execute statement : EStateM ε ServerState Bool) := by
  intro s
  obtain ⟨stored, db, hRun, hDb⟩ : ∃ stored db, (execute statement : EStateM ε _ _).run s = _ ∧ _ :=
    execute_run statement s
  rw [hRun]
  rcases hDb with rfl | hStatement
  · exact ⟨rfl, rfl, rfl, fun _ => rfl, List.tail_suffix _⟩
  · have hAside := h s.db db hStatement
    exact ⟨hAside.members, hAside.roles, hAside.memberRoles, fun _ => rfl, List.tail_suffix _⟩

theorem elsewhere_execute
    (h : ∀ db db', statement db = some db' → KeysAside db db' ∧ RosterAside db db') :
    Keeps Elsewhere (execute statement : EStateM ε ServerState Bool) :=
  fun s => ⟨keysKept_execute (fun db db' hRun => (h db db' hRun).1) s,
    rosterKept_execute (fun db db' hRun => (h db db' hRun).2) s⟩

theorem keysKept_executeIgnoring (h : ∀ db db', statement db = some db' → KeysAside db db') :
    Keeps KeysKept (executeIgnoring statement : EStateM ε ServerState Unit) :=
  (keysKept_execute h).bind fun _ => keeps_pure _

theorem elsewhere_executeIgnoring
    (h : ∀ db db', statement db = some db' → KeysAside db db' ∧ RosterAside db db') :
    Keeps Elsewhere (executeIgnoring statement : EStateM ε ServerState Unit) :=
  (elsewhere_execute h).bind fun _ => keeps_pure _

theorem rosterKept_executeIgnoring (h : ∀ db db', statement db = some db' → RosterAside db db') :
    Keeps RosterKept (executeIgnoring statement : EStateM ε ServerState Unit) :=
  (rosterKept_execute h).bind fun _ => keeps_pure _

theorem elsewhere_query {α : Type} (read : Database → α) :
    Keeps Elsewhere (query read : EStateM ε ServerState (Option α)) :=
  fun _ => ⟨.of_same rfl rfl rfl fun _ => rfl, ⟨rfl, rfl, rfl, fun _ => rfl, List.tail_suffix _⟩⟩

theorem elsewhere_lookupCommunity (communityId : String) :
    Keeps Elsewhere (lookupCommunity communityId : EStateM ε ServerState _) :=
  fun state => refl_of Elsewhere state

theorem returns_lookupCommunity {β : Type} {P : β → ServerState → Prop} {s : ServerState} {communityId : String}
    {f : Option HostedCommunity → ServerM β} (h : Returns P (f (s.hosted.lookup communityId)) s) :
    Returns P (lookupCommunity communityId >>= f) s := h

theorem rosterKept_broadcastToMembers (communityId exclude : String) (broadcast : CommunityBroadcast) :
    Keeps RosterKept (broadcastToMembers communityId exclude broadcast : EStateM ε ServerState Unit) :=
  fun _ => ⟨rfl, rfl, rfl, fun _ => rfl, List.suffix_refl _⟩

/-- A broadcast tells only what it carries. -/
theorem keysKept_broadcast {s : ServerState} (communityId exclude : String)
    {broadcast : CommunityBroadcast}
    (hTold : ∀ id generation, broadcast.announced = some (id, generation) → IsCurrent s id generation) :
    KeysKept s (Result.state ((broadcastToMembers communityId exclude broadcast :
      EStateM ε ServerState Unit).run s)) := by
  refine ⟨rfl, ⟨[], (List.append_nil _).symm, by simp⟩, ⟨_, rfl, ?_⟩, fun _ => rfl⟩
  intro entry hEntry id generation hAnnounced
  obtain ⟨route, _, rfl⟩ := List.mem_map.mp hEntry
  exact hTold id generation hAnnounced

theorem elsewhere_broadcastToMembers (communityId exclude : String) {broadcast : CommunityBroadcast}
    (hTold : broadcast.announced = none) :
    Keeps Elsewhere (broadcastToMembers communityId exclude broadcast : EStateM ε ServerState Unit) := by
  intro s
  refine ⟨keysKept_broadcast communityId exclude fun id generation hAnnounced => ?_,
    rosterKept_broadcastToMembers communityId exclude broadcast s⟩
  rw [hTold] at hAnnounced
  cases hAnnounced

end

/-! ## Writes to a community -/

section
variable {s t : ServerState} {communityId : String} {community changed : HostedCommunity} {β : Type}

theorem lookup_insert_map {γ : Type} {core : HostedCommunity → γ}
    (hSame : ∀ other, (t.hosted.lookup other).map core = (s.hosted.lookup other).map core)
    (hCommunity : s.hosted.lookup communityId = some community) (hCore : core changed = core community)
    (other : String) :
    ((t.hosted.insert communityId changed).lookup other).map core = (s.hosted.lookup other).map core := by
  by_cases hOther : other = communityId
  · subst hOther
    rw [Finmap.lookup_insert, hCommunity, Option.map_some, Option.map_some, hCore]
  · rw [Finmap.lookup_insert_of_ne _ hOther]
    exact hSame other

theorem KeysKept.insert (hBefore : KeysKept s t)
    (hCommunity : s.hosted.lookup communityId = some community) (hMek : changed.mek = community.mek) :
    KeysKept s { t with hosted := t.hosted.insert communityId changed } :=
  ⟨hBefore.keys, hBefore.messages, hBefore.sent,
    lookup_insert_map hBefore.hosted hCommunity hMek⟩

theorem RosterKept.insert (hBefore : RosterKept s t)
    (hCommunity : s.hosted.lookup communityId = some community)
    (hRoster : (changed.communityId, changed.members, changed.roles) =
      (community.communityId, community.members, community.roles)) :
    RosterKept s { t with hosted := t.hosted.insert communityId changed } :=
  ⟨hBefore.members, hBefore.roles, hBefore.memberRoles,
    lookup_insert_map hBefore.hosted hCommunity hRoster, hBefore.faults⟩

/-- The write of a handler that changes no key, with what comes after it. -/
theorem KeysKept.ends_setCommunity (hBefore : KeysKept s t)
    (hCommunity : s.hosted.lookup communityId = some community) (hMek : changed.mek = community.mek)
    {f : Unit → ServerM β} (hRest : Keeps KeysKept (f ())) :
    Ends (KeysKept s) (setCommunity communityId changed >>= f) t :=
  trans_of KeysKept (hBefore.insert hCommunity hMek) (hRest _)

/-- The write of a handler that changes neither keys nor roster, with what comes after it. -/
theorem Elsewhere.ends_setCommunity (hBefore : Elsewhere s t)
    (hCommunity : s.hosted.lookup communityId = some community) (hMek : changed.mek = community.mek)
    (hRoster : (changed.communityId, changed.members, changed.roles) =
      (community.communityId, community.members, community.roles))
    {f : Unit → ServerM β} (hRest : Keeps Elsewhere (f ())) :
    Ends (Elsewhere s) (setCommunity communityId changed >>= f) t :=
  trans_of Elsewhere ⟨hBefore.keys.insert hCommunity hMek, hBefore.roster.insert hCommunity hRoster⟩
    (hRest _)

end

/-! ## Handlers with their effect elsewhere -/

section
variable (env : Environment) (sender communityId : String)

theorem insertMessage_run {s : ServerState} {row : MessageRow} {generation : UInt64}
    (hCurrent : IsCurrent s row.communityId generation) (hLabel : row.Labelled generation) :
    ∃ stored t, (execute (fun db => db.insertMessage row) : ServerM Bool).run s = .ok stored t ∧
      Elsewhere s t := by
  obtain ⟨stored, db, hRun, hDb⟩ : ∃ stored db, _ ∧ _ := execute_run (fun db => db.insertMessage row) s
  refine ⟨stored, _, hRun, ?_⟩
  rcases hDb with rfl | hInsert
  · exact ⟨.of_same rfl rfl rfl fun _ => rfl, ⟨rfl, rfl, rfl, fun _ => rfl, List.tail_suffix _⟩⟩
  · cases hInsert
    refine ⟨⟨rfl, ⟨[row], rfl, fun other hOther => ?_⟩, ⟨[], (List.append_nil _).symm, by simp⟩,
      fun _ => rfl⟩, ⟨rfl, rfl, rfl, fun _ => rfl, List.tail_suffix _⟩⟩
    rw [List.mem_singleton.mp hOther]
    exact ⟨generation, hCurrent, hLabel⟩

theorem handleSendMessage_elsewhere (channelId : String) (ciphertext : List UInt8)
    (mekGeneration : UInt64) :
    Keeps Elsewhere (handleSendMessage env communityId sender channelId ciphertext mekGeneration) := by
  intro s
  have hHere := refl_of Elsewhere s
  apply ends_with_community hHere
  intro community hCommunity
  apply Ends.bind_ofExcept hHere
  intro _ _
  apply Ends.bind_ofExcept hHere
  intro _ _
  apply Ends.bind_ofExcept hHere
  intro _ hGeneration
  have hLabel : mekGeneration = community.mek.generation := by
    by_contra hOther
    exact refuseIf_eq_ok_iff.mp hGeneration hOther
  have hCurrent : IsCurrent s communityId mekGeneration := ⟨community, hCommunity, hLabel.symm⟩
  obtain ⟨stored, t, hRun, hStored⟩ : ∃ stored t, (execute fun db => db.insertMessage
      { communityId := communityId, channelId := channelId, senderPseudonym := sender
        ciphertext := ciphertext, mekGeneration := min mekGeneration.toNat i64Max
        timestamp := env.timestampNow } : ServerM Bool).run s = .ok stored t ∧ Elsewhere s t :=
    insertMessage_run hCurrent rfl
  apply Ends.bind_of_ok hRun
  apply Ends.bind_ofExcept hStored
  intro _ _
  have hSent : Elsewhere t (Result.state ((broadcastToMembers communityId sender
      (.newMessage communityId channelId sender ciphertext mekGeneration
        (UInt64.ofNat env.timestampNow.toNat)) : ServerM Unit).run t)) := by
    refine ⟨keysKept_broadcast _ _ fun id generation hTold => ?_, rosterKept_broadcastToMembers _ _ _ t⟩
    cases hTold
    exact hStored.keys.isCurrent_iff.mpr hCurrent
  exact trans_of Elsewhere hStored hSent

theorem handleGetMessages_elsewhere (channelId : String) (beforeTimestamp : Option UInt64)
    (limit : UInt32) :
    Keeps Elsewhere (handleGetMessages communityId sender channelId beforeTimestamp limit) := by
  refine Keeps.bind ((elsewhere_lookupCommunity _).bind fun _ => keeps_ofExcept _) fun _ => ?_
  refine (elsewhere_query _).bind fun _ => ?_
  exact (keeps_ofExcept _).bind fun _ => keeps_pure _

theorem elsewhere_getCommunity (missing : RpcError) :
    Keeps Elsewhere (getCommunity communityId missing : ServerM HostedCommunity) :=
  (elsewhere_lookupCommunity _).bind fun _ => keeps_ofExcept _

theorem elsewhere_openCommunity (required : Permissions) :
    Keeps Elsewhere (openCommunity env communityId sender required) := by
  refine (elsewhere_getCommunity _ _).bind fun _ => ?_
  refine (keeps_ofExcept _).bind fun _ => ?_
  exact (keeps_ofExcept _).bind fun _ => keeps_pure _

theorem handleRequestMek_elsewhere : Keeps Elsewhere (handleRequestMek communityId sender) :=
  (elsewhere_getCommunity _ _).bind fun _ => (keeps_ofExcept _).bind fun _ => keeps_pure _

theorem handleGetRoles_elsewhere : Keeps Elsewhere (handleGetRoles communityId sender) :=
  (elsewhere_getCommunity _ _).bind fun _ => (keeps_ofExcept _).bind fun _ => keeps_pure _

theorem handleGetBanList_elsewhere : Keeps Elsewhere (handleGetBanList env communityId sender) :=
  (elsewhere_openCommunity _ _ _ _).bind fun _ => (elsewhere_query _).bind fun _ => keeps_pure _

theorem handleUnban_elsewhere (target : String) :
    Keeps Elsewhere (handleUnban env communityId sender target) := by
  refine (elsewhere_openCommunity _ _ _ _).bind fun _ => ?_
  refine Keeps.bind (elsewhere_executeIgnoring ?_) fun _ => keeps_pure _
  rintro _ _ ⟨⟩
  exact ⟨⟨rfl, rfl⟩, rfl, rfl, rfl⟩

theorem handleCreateChannel_elsewhere (name channelType : String) :
    Keeps Elsewhere (handleCreateChannel env communityId sender name channelType) := by
  intro s
  have hHere := refl_of Elsewhere s
  apply ends_with_permission hHere
  intro community hCommunity _
  apply Ends.bind_ofExcept hHere
  intro _ _
  apply Ends.bind_of_keeps (elsewhere_execute ?_) (fun _ hStored => hStored)
  · intro stored t hStored
    apply Ends.bind_ofExcept hStored
    intro _ _
    exact hStored.ends_setCommunity hCommunity (by rfl) (by rfl) (keeps_pure _)
  · intro db db' hInsert
    grind [Database.insertChannel, KeysAside, RosterAside]

theorem handleDeleteChannel_elsewhere (channelId : String) :
    Keeps Elsewhere (handleDeleteChannel env communityId sender channelId) := by
  intro s
  apply ends_with_permission (refl_of Elsewhere s)
  intro community hCommunity _
  refine (refl_of Elsewhere s).ends_setCommunity hCommunity (by rfl) (by rfl) ?_
  refine Keeps.bind (elsewhere_executeIgnoring ?_) fun _ => keeps_pure _
  rintro _ _ ⟨⟩
  exact ⟨⟨rfl, rfl⟩, rfl, rfl, rfl⟩

theorem handleRenameChannel_elsewhere (channelId newName : String) :
    Keeps Elsewhere (handleRenameChannel env communityId sender channelId newName) := by
  intro s
  have hHere := refl_of Elsewhere s
  apply ends_with_permission hHere
  intro community hCommunity _
  apply Ends.bind_ofExcept hHere
  intro _ _
  refine hHere.ends_setCommunity hCommunity (by rfl) (by rfl) ?_
  refine Keeps.bind (elsewhere_executeIgnoring ?_) fun _ => keeps_pure _
  rintro _ _ ⟨⟩
  exact ⟨⟨rfl, rfl⟩, rfl, rfl, rfl⟩

theorem elsewhere_updateCommunity {ε : Type} (update : CommunityRow → CommunityRow) :
    Keeps Elsewhere (executeIgnoring (Database.updateCommunity communityId · update) :
      EStateM ε ServerState Unit) := by
  refine elsewhere_executeIgnoring ?_
  rintro db _ ⟨⟩
  exact ⟨⟨rfl, rfl⟩, rfl, rfl, rfl⟩

theorem handleUpdateCommunity_elsewhere (newName newDescription : Option String) :
    Keeps Elsewhere (handleUpdateCommunity env communityId sender newName newDescription) := by
  intro s
  apply ends_with_permission (refl_of Elsewhere s)
  intro community hCommunity _
  refine (refl_of Elsewhere s).ends_setCommunity hCommunity (by rfl) (by rfl) ?_
  refine Keeps.bind (keeps_option_forM _ fun _ => elsewhere_updateCommunity _ _) fun _ => ?_
  exact Keeps.bind (keeps_option_forM _ fun _ => elsewhere_updateCommunity _ _)
    fun _ => keeps_pure _

theorem handleSetChannelOverwrite_elsewhere (channelId targetType targetId : String)
    (allow deny : Permissions) :
    Keeps Elsewhere
      (handleSetChannelOverwrite env communityId sender channelId targetType targetId allow deny) := by
  intro s
  have hHere := refl_of Elsewhere s
  apply ends_with_permission hHere
  intro community hCommunity _
  apply Ends.bind_ofExcept hHere
  intro _ _
  refine hHere.ends_setCommunity hCommunity (by rfl) (by rfl) ?_
  refine Keeps.bind (elsewhere_executeIgnoring fun db db' hInsert => ?_) fun _ => ?_
  · grind [Database.insertOrReplaceOverwrite, KeysAside, RosterAside]
  · exact (elsewhere_broadcastToMembers _ _ rfl).bind fun _ => keeps_pure _

theorem handleDeleteChannelOverwrite_elsewhere (channelId targetType targetId : String) :
    Keeps Elsewhere
      (handleDeleteChannelOverwrite env communityId sender channelId targetType targetId) := by
  intro s
  apply ends_with_permission (refl_of Elsewhere s)
  intro community hCommunity _
  refine (refl_of Elsewhere s).ends_setCommunity hCommunity (by rfl) (by rfl) ?_
  refine Keeps.bind (elsewhere_executeIgnoring ?_) fun _ => keeps_pure _
  rintro _ _ ⟨⟩
  exact ⟨⟨rfl, rfl⟩, rfl, rfl, rfl⟩

/-! ## Broadcasts and the creator -/

variable {sender communityId}

theorem elsewhere_broadcastRolesChanged : Keeps Elsewhere (broadcastRolesChanged communityId) :=
  (elsewhere_lookupCommunity _).bind fun _ =>
    keeps_option_forM _ fun _ => elsewhere_broadcastToMembers _ _ rfl

theorem elsewhere_broadcastMemberRolesChanged (target : String) :
    Keeps Elsewhere (broadcastMemberRolesChanged communityId target) :=
  (elsewhere_lookupCommunity _).bind fun _ =>
    keeps_option_forM _ fun _ => elsewhere_broadcastToMembers _ _ rfl

theorem keysKept_broadcastDeparture : Keeps KeysKept (broadcastDeparture communityId sender) := by
  refine Keeps.bind (fun s => (elsewhere_broadcastToMembers _ _ rfl s).keys) fun _ s => ?_
  cases hCommunity : s.hosted.lookup communityId with
  | none =>
    have hRun : (lookupCommunity communityId : ServerM _).run s = .ok none s := by
      rw [← hCommunity]
      rfl
    rw [run_bind_of_ok _ hRun]
    exact refl_of KeysKept s
  | some community =>
    have hRun : (lookupCommunity communityId : ServerM _).run s = .ok (some community) s := by
      rw [← hCommunity]
      rfl
    rw [run_bind_of_ok _ hRun]
    refine keysKept_broadcast _ _ fun id generation hTold => ?_
    cases hTold
    exact ⟨community, hCommunity, rfl⟩

theorem rosterKept_broadcastDeparture : Keeps RosterKept (broadcastDeparture communityId sender) := by
  refine (rosterKept_broadcastToMembers _ _ _).bind fun _ => ?_
  refine Keeps.bind (fun s => (elsewhere_lookupCommunity _ s).roster) fun _ => ?_
  exact keeps_option_forM _ fun _ => rosterKept_broadcastToMembers _ _ _

theorem elsewhere_announceJoin (displayName : String) (joined : Option JoinResult) :
    Keeps Elsewhere (do
      let joined ← ofExcept (orThrow joined communityNotFound)
      broadcastToMembers communityId sender
        (.memberJoined communityId sender displayName joined.roleIds)
      pure (.joined joined.mekPayload joined.mekGeneration joined.channels joined.roleIds
        joined.roles) : ServerM CommunityResponse) := by
  refine (keeps_ofExcept _).bind fun _ => ?_
  exact (elsewhere_broadcastToMembers _ _ rfl).bind fun _ => keeps_pure _

theorem elsewhere_recordCreator (isFirstMember : Bool) :
    Keeps Elsewhere (recordCreator communityId sender isFirstMember) := by
  cases isFirstMember with
  | true => exact elsewhere_updateCommunity _ _
  | false => exact keeps_pure _

end

end Rekindle.Server
