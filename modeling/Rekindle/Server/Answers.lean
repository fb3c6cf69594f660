import Rekindle.Server.Outcomes

/-! # When a request is answered

What every handler checks, as one predicate on the state before the request, and what a refusal
leaves behind.
-/
namespace Rekindle.Server
set_option autoImplicit false
open Fallible

/-! ## What must hold -/

section
variable (env : Environment) (sender communityId : String) (s : ServerState)

def IsMember (community : HostedCommunity) (pseudonym : String) : Prop :=
  verifyMembership community pseudonym = .ok ()

/-- The checks of `openCommunity`. -/
def MayDo (community : HostedCommunity) (required : Permissions) : Prop :=
  IsMember community sender ∧ Permitted env.now community sender required

/-- The community is hosted and meets the condition. -/
def Meets (condition : HostedCommunity → Prop) : Prop :=
  ∃ community, s.hosted.lookup communityId = some community ∧ condition community

def MemberIfHosted : Prop :=
  ∀ community, s.hosted.lookup communityId = some community → IsMember community sender

/-- The next database call does not fail by itself. -/
def ServerState.Answering (s : ServerState) : Prop := s.dbFaults.headD false = false

/-- The checks that the handler of the request makes. -/
def MemberRequest.Passes : MemberRequest → Prop
  | .sendMessage channelId _ mekGeneration => Meets communityId s fun community =>
      IsMember community sender ∧ checkMaySend env sender community channelId = .ok () ∧
        mekGeneration = community.mek.generation ∧ s.Answering
  | .getMessages _ _ _ => MemberIfHosted sender communityId s ∧ s.Answering
  | .requestMek => Meets communityId s fun community => IsMember community sender
  | .leave => MemberIfHosted sender communityId s
  | .kick target => Meets communityId s fun community =>
      Permitted env.now community sender kickMembers ∧ sender ≠ target ∧
        Outranks community sender target ∧ IsMember community target
  | .createChannel _ channelType => Meets communityId s fun community =>
      MayDo env sender community manageChannels ∧ channelType ∈ ["text", "voice"] ∧ s.Answering ∧
        s.db.hasChannel community.communityId ("channel_" ++ env.channelSuffix) = false ∧
        s.db.hasCommunity community.communityId = true
  | .deleteChannel _ => Meets communityId s fun community => MayDo env sender community manageChannels
  | .rotateMek => Meets communityId s fun community => MayDo env sender community manageCommunity
  | .renameChannel channelId _ => Meets communityId s fun community =>
      MayDo env sender community manageChannels ∧
        Keyed.find ServerChannel.id channelId community.channels ≠ none
  | .updateCommunity _ _ => Meets communityId s fun community => MayDo env sender community manageCommunity
  | .ban target => Meets communityId s fun community =>
      MayDo env sender community banMembers ∧ sender ≠ target ∧ Outranks community sender target ∧
        IsMember community target
  | .unban _ => Meets communityId s fun community => MayDo env sender community banMembers
  | .getBanList => Meets communityId s fun community => MayDo env sender community banMembers
  | .createRole _ _ _ _ _ => Meets communityId s fun community =>
      MayDo env sender community manageRoles ∧ s.Answering ∧
        (s.db.serverRoles.any fun row => row.communityId == community.communityId &&
          row.role.id == nextRoleId community.roles) = false ∧
        s.db.hasCommunity community.communityId = true
  | .editRole roleId _ => Meets communityId s fun community =>
      MayDo env sender community manageRoles ∧ ∃ role, findRole community.roles roleId = some role ∧
        (role.position < highestRolePosition community sender ∨
          isAdministrator (memberBasePermissions env.now community sender) = true)
  | .deleteRole roleId => Meets communityId s fun community =>
      MayDo env sender community manageRoles ∧ roleId ≠ roleEveryoneId ∧
        rolePosition community roleId < highestRolePosition community sender
  | .assignRole target roleId => Meets communityId s fun community =>
      MayDo env sender community manageRoles ∧ Outranks community sender target ∧
        rolePosition community roleId < highestRolePosition community sender ∧
        findMember community.members target ≠ none
  | .unassignRole target roleId => Meets communityId s fun community =>
      MayDo env sender community manageRoles ∧ roleId ≠ roleEveryoneId ∧
        Outranks community sender target ∧ findMember community.members target ≠ none
  | .setChannelOverwrite channelId _ _ _ _ => Meets communityId s fun community =>
      MayDo env sender community manageRoles ∧
        Keyed.find ServerChannel.id channelId community.channels ≠ none
  | .deleteChannelOverwrite _ _ _ => Meets communityId s fun community =>
      MayDo env sender community manageRoles
  | .timeoutMember target _ _ => Meets communityId s fun community =>
      MayDo env sender community moderateMembers ∧ Outranks community sender target ∧
        findMember community.members target ≠ none
  | .removeTimeout _ => Meets communityId s fun community => MayDo env sender community moderateMembers
  | .getRoles => Meets communityId s fun community => IsMember community sender

end

section
variable (env : Environment) (sender communityId : String) (s : ServerState) (community : HostedCommunity)

instance (pseudonym : String) : Decidable (IsMember community pseudonym) :=
  inferInstanceAs (Decidable (_ = _))

instance (now : UInt64) (required : Permissions) : Decidable (Permitted now community sender required) :=
  inferInstanceAs (Decidable (_ = _))

instance (target : String) : Decidable (Outranks community sender target) :=
  inferInstanceAs (Decidable (_ = _))

instance (required : Permissions) : Decidable (MayDo env sender community required) :=
  inferInstanceAs (Decidable (_ ∧ _))

instance : Decidable s.Answering := inferInstanceAs (Decidable (_ = _))

instance decidableExistsSome {α : Type} (value : Option α) (P : α → Prop) [DecidablePred P] :
    Decidable (∃ a, value = some a ∧ P a) :=
  match value with
  | none => .isFalse fun ⟨_, h, _⟩ => nomatch h
  | some a => decidable_of_iff (P a) ⟨fun h => ⟨a, rfl, h⟩, fun ⟨_, h, hP⟩ => Option.some.inj h ▸ hP⟩

instance (condition : HostedCommunity → Prop) [DecidablePred condition] :
    Decidable (Meets communityId s condition) :=
  decidableExistsSome _ _

instance : Decidable (MemberIfHosted sender communityId s) :=
  match hFound : s.hosted.lookup communityId with
  | none => .isTrue fun _ h => nomatch hFound.symm.trans h
  | some community => decidable_of_iff (IsMember community sender)
      ⟨fun h _ hSome => Option.some.inj (hFound.symm.trans hSome) ▸ h, fun h => h community hFound⟩

instance (request : MemberRequest) : Decidable (request.Passes env sender communityId s) := by
  unfold MemberRequest.Passes
  split <;> infer_instance

end

/-- The checks that a request makes wherever it is dispatched to. -/
def IncomingRequest.Passes (s : ServerState) (incoming : IncomingRequest) : Prop :=
  match incoming.request with
  | .join pseudonymPubkey _ _ => pseudonymPubkey = incoming.sender ∧
      ∃ communityId, incoming.routing.joinTarget = some communityId ∧
        (s.hosted.lookup communityId).isSome = true ∧
        ¬(s.Answering ∧ s.db.isBanned communityId incoming.sender = true)
  | .member request => ∃ communityId, resolveCommunityId incoming.routing = some communityId ∧
      request.Passes incoming.env incoming.sender communityId s

/-! ## Answers and refusals -/

/-- Communities and tables agree. -/
structure SameData (before after : ServerState) : Prop where
  hosted : after.hosted = before.hosted
  db : after.db = before.db

theorem SameData.refl (s : ServerState) : SameData s s := ⟨rfl, rfl⟩

section
variable {s : ServerState} {α β : Type}

/-- The computation returns exactly when the checks pass, and otherwise leaves the data as it is, or
as the exception says. -/
def AnswersOr (exception : ServerState → Prop) (passes : Prop) (x : ServerM α) (s : ServerState) : Prop :=
  Settles (fun _ _ => passes) (fun _ t => ¬passes ∧ (SameData s t ∨ exception t)) x s

abbrev AnswersWhen (passes : Prop) (x : ServerM α) (s : ServerState) : Prop :=
  AnswersOr (fun _ => False) passes x s

variable {exception : ServerState → Prop}

theorem AnswersOr.congr {passes passes' : Prop} {x : ServerM α} (h : AnswersOr exception passes x s)
    (hIff : passes ↔ passes') : AnswersOr exception passes' x s := by
  rwa [← propext hIff]

theorem AnswersOr.mono {exception' : ServerState → Prop} {passes : Prop} {x : ServerM α}
    (h : AnswersOr exception passes x s) (hMono : ∀ t, exception t → exception' t) :
    AnswersOr exception' passes x s :=
  Settles.mono h (fun _ _ hPasses => hPasses) fun _ t hRefused => hRefused.imp_right (Or.imp_right (hMono t))

theorem answers_of_total {x : ServerM α} (h : Total x) : AnswersOr exception True x s := by
  obtain ⟨a, t, hRun⟩ := h s
  unfold AnswersOr Settles
  rw [hRun]
  trivial

theorem answers_check {r : Except RpcError α} {f : α → ServerM β} {rest : α → Prop}
    (h : ∀ a, r = .ok a → AnswersOr exception (rest a) (f a) s) :
    AnswersOr exception (∃ a, r = .ok a ∧ rest a) (ofExcept r >>= f) s := by
  cases r with
  | error e =>
    refine ⟨?_, .inl (SameData.refl s)⟩
    rintro ⟨_, hOk, _⟩
    cases hOk
  | ok a =>
    refine (h a rfl).congr ⟨fun hRest => ⟨a, rfl, hRest⟩, ?_⟩
    rintro ⟨_, ⟨⟩, hRest⟩
    exact hRest

theorem answers_unit {r : Except RpcError Unit} {f : Unit → ServerM β} {rest : Prop}
    (h : r = .ok () → AnswersOr exception rest (f ()) s) :
    AnswersOr exception (r = .ok () ∧ rest) (ofExcept r >>= f) s := by
  refine (answers_check fun _ hOk => h hOk).congr ⟨?_, fun hBoth => ⟨(), hBoth⟩⟩
  rintro ⟨_, hBoth⟩
  exact hBoth

theorem answers_refuseIf {bad : Prop} [Decidable bad] {e : RpcError} {f : Unit → ServerM β} {rest : Prop}
    (h : ¬bad → AnswersOr exception rest (f ()) s) :
    AnswersOr exception (¬bad ∧ rest) (ofExcept (refuseIf bad e) >>= f) s :=
  (answers_unit fun hOk => h (refuseIf_eq_ok_iff.mp hOk)).congr (and_congr_left' refuseIf_eq_ok_iff)

variable {communityId sender : String}

theorem answers_getCommunity {missing : RpcError} {f : HostedCommunity → ServerM β}
    {rest : HostedCommunity → Prop}
    (h : ∀ community, s.hosted.lookup communityId = some community →
      AnswersOr exception (rest community) (f community) s) :
    AnswersOr exception (Meets communityId s rest) (getCommunity communityId missing >>= f) s := by
  unfold getCommunity
  rw [bind_assoc]
  change AnswersOr _ _ (ofExcept (orThrow (s.hosted.lookup communityId) missing) >>= f) s
  refine (answers_check fun community hOk => h community (orThrow_eq_ok_iff.mp hOk)).congr ?_
  simp only [orThrow_eq_ok_iff, Meets]

theorem answers_openCommunity {env : Environment} {required : Permissions}
    {f : HostedCommunity → ServerM β} {rest : HostedCommunity → Prop}
    (h : ∀ community, s.hosted.lookup communityId = some community → MayDo env sender community required →
      AnswersOr exception (rest community) (f community) s) :
    AnswersOr exception
      (Meets communityId s fun community => MayDo env sender community required ∧ rest community)
      (openCommunity env communityId sender required >>= f) s := by
  unfold openCommunity
  simp only [bind_assoc, pure_bind]
  refine (answers_getCommunity fun community hCommunity => answers_unit fun hMember =>
    answers_unit fun hPermitted => h community hCommunity ⟨hMember, hPermitted⟩).congr ?_
  simp only [Meets, MayDo, IsMember, Permitted, and_assoc]

theorem answers_verifyIfHosted {f : Unit → ServerM β} {rest : Prop} (h : AnswersOr exception rest (f ()) s) :
    AnswersOr exception (MemberIfHosted sender communityId s ∧ rest)
      (verifyMembershipIfHosted communityId sender >>= f) s := by
  unfold verifyMembershipIfHosted
  rw [bind_assoc]
  change AnswersOr _ _
    (ofExcept ((s.hosted.lookup communityId).elim (.ok ()) (verifyMembership · sender)) >>= f) s
  refine (answers_unit fun _ => h).congr (and_congr_left' ?_)
  unfold MemberIfHosted IsMember
  cases s.hosted.lookup communityId with
  | none => simp
  | some community => simp

end

/-! ## Steps that never fail -/

section
variable {ε : Type}

theorem total_execute (statement : Database → Option Database) :
    Total (execute statement : EStateM ε ServerState Bool) :=
  fun _ => ⟨_, _, rfl⟩

theorem total_executeIgnoring (statement : Database → Option Database) :
    Total (executeIgnoring statement : EStateM ε ServerState Unit) :=
  (total_execute statement).bind fun _ => total_pure _

theorem total_query {α : Type} (read : Database → α) :
    Total (query read : EStateM ε ServerState (Option α)) :=
  fun _ => ⟨_, _, rfl⟩

theorem total_lookupCommunity (communityId : String) :
    Total (lookupCommunity communityId : EStateM ε ServerState _) :=
  fun _ => ⟨_, _, rfl⟩

theorem total_setCommunity (communityId : String) (community : HostedCommunity) :
    Total (setCommunity communityId community : EStateM ε ServerState Unit) := total_modify _

theorem total_broadcastToMembers (communityId exclude : String) (broadcast : CommunityBroadcast) :
    Total (broadcastToMembers communityId exclude broadcast : EStateM ε ServerState Unit) := total_modify _

theorem total_rotateMek (env : Environment) (communityId : String) (newGeneration : UInt64) :
    Total (rotateMek env communityId newGeneration : EStateM ε ServerState _) :=
  (total_executeIgnoring _).bind fun _ => total_pure _

end

theorem total_removeMember (env : Environment) (communityId sender : String) :
    Total (removeMember env communityId sender) := by
  refine (total_lookupCommunity _).bind fun community => ?_
  cases community with
  | none => exact total_pure _
  | some community => exact (total_rotateMek _ _ _).bind fun _ => total_setCommunity _ _

theorem total_broadcastDeparture (communityId sender : String) :
    Total (broadcastDeparture communityId sender) := by
  refine (total_broadcastToMembers _ _ _).bind fun _ => (total_lookupCommunity _).bind fun community => ?_
  exact total_option_forM _ fun _ => total_broadcastToMembers _ _ _

theorem total_broadcastRolesChanged (communityId : String) : Total (broadcastRolesChanged communityId) :=
  (total_lookupCommunity _).bind fun _ => total_option_forM _ fun _ => total_broadcastToMembers _ _ _

theorem total_broadcastMemberRolesChanged (communityId target : String) :
    Total (broadcastMemberRolesChanged communityId target) :=
  (total_lookupCommunity _).bind fun _ => total_option_forM _ fun _ => total_broadcastToMembers _ _ _

/-! ## Handlers -/

section
variable (env : Environment) (communityId sender : String) (s : ServerState)

/-- A statement whose failure is reported, with what comes after it. -/
theorem answers_execute {β : Type} {statement : Database → Option Database} {e : RpcError}
    {f : ServerM β} (hRest : Total f) :
    AnswersWhen (s.Answering ∧ (statement s.db).isSome = true)
      (execute statement >>= fun stored => ofExcept (refuseIf (stored = false) e) >>= fun _ => f) s := by
  have hRun : (execute statement : ServerM Bool).run s = .ok
      (if s.dbFaults.headD false then none else statement s.db).isSome
      { s with dbFaults := s.dbFaults.tail
               db := (if s.dbFaults.headD false then none else statement s.db).getD s.db } := rfl
  unfold AnswersWhen AnswersOr Settles
  rw [run_bind_of_ok _ hRun]
  unfold ServerState.Answering
  cases hFault : s.dbFaults.headD false with
  | true => exact ⟨by simp, .inl ⟨rfl, rfl⟩⟩
  | false =>
    cases hStatement : statement s.db with
    | none => exact ⟨by simp, .inl ⟨rfl, rfl⟩⟩
    | some db =>
      obtain ⟨a, t, hRest⟩ := hRest { s with dbFaults := s.dbFaults.tail, db := db }
      simp [refuseIf, hRest]

theorem handleSendMessage_settles (channelId : String) (ciphertext : List UInt8) (mekGeneration : UInt64) :
    AnswersWhen (MemberRequest.Passes env sender communityId s
        (.sendMessage channelId ciphertext mekGeneration))
      (handleSendMessage env communityId sender channelId ciphertext mekGeneration) s := by
  refine (answers_getCommunity fun community _ => answers_unit fun _ => answers_unit fun _ =>
    answers_refuseIf fun _ => answers_execute s
      ((total_broadcastToMembers _ _ _).bind fun _ => total_pure _)).congr ?_
  simp [MemberRequest.Passes, Meets, IsMember, Database.insertMessage]

theorem handleGetMessages_settles (channelId : String) (beforeTimestamp : Option UInt64) (limit : UInt32) :
    AnswersWhen (MemberRequest.Passes env sender communityId s
        (.getMessages channelId beforeTimestamp limit))
      (handleGetMessages communityId sender channelId beforeTimestamp limit) s := by
  refine answers_verifyIfHosted ?_
  unfold AnswersOr Settles ServerState.Answering
  have hRun : (query (messagePage communityId · channelId
      (beforeTimestamp.map fun time => (min time.toNat i64Max : Int)) (min limit.toNat 500)) :
      ServerM _).run s = .ok _ { s with dbFaults := s.dbFaults.tail } := rfl
  rw [run_bind_of_ok _ hRun]
  cases hFault : s.dbFaults.headD false with
  | true => exact ⟨by simp, .inl ⟨rfl, rfl⟩⟩
  | false => rfl

theorem handleRequestMek_settles :
    AnswersWhen (MemberRequest.Passes env sender communityId s .requestMek)
      (handleRequestMek communityId sender) s := by
  refine AnswersOr.congr (answers_getCommunity fun community _ => answers_unit fun _ =>
    answers_of_total (total_pure _)) ?_
  simp [MemberRequest.Passes, Meets, IsMember]

theorem handleGetRoles_settles :
    AnswersWhen (MemberRequest.Passes env sender communityId s .getRoles)
      (handleGetRoles communityId sender) s := by
  refine AnswersOr.congr (answers_getCommunity fun community _ => answers_unit fun _ =>
    answers_of_total (total_pure _)) ?_
  simp [MemberRequest.Passes, Meets, IsMember]

theorem handleLeave_settles :
    AnswersWhen (MemberIfHosted sender communityId s) (handleLeave env communityId sender) s := by
  refine (answers_verifyIfHosted (answers_of_total ?_)).congr (iff_of_eq (and_true _))
  refine (total_executeIgnoring _).bind fun _ => (total_removeMember _ _ _).bind fun _ => ?_
  exact (total_broadcastDeparture _ _).bind fun _ => total_pure _

theorem handleKick_settles (target : String) :
    AnswersWhen (MemberRequest.Passes env sender communityId s (.kick target))
      (handleKick env communityId sender target) s := by
  refine (answers_getCommunity fun community hCommunity => answers_unit fun _ =>
    answers_refuseIf fun _ => answers_unit fun _ => handleLeave_settles env communityId target s).congr ?_
  constructor
  · rintro ⟨community, hCommunity, hPermitted, hOther, hOutranks, hMember⟩
    exact ⟨community, hCommunity, hPermitted, hOther, hOutranks, hMember community hCommunity⟩
  · rintro ⟨community, hCommunity, hPermitted, hOther, hOutranks, hMember⟩
    refine ⟨community, hCommunity, hPermitted, hOther, hOutranks, fun found hFound => ?_⟩
    rw [hCommunity] at hFound
    cases hFound
    exact hMember

theorem handleCreateChannel_settles (name channelType : String) :
    AnswersWhen (MemberRequest.Passes env sender communityId s (.createChannel name channelType))
      (handleCreateChannel env communityId sender name channelType) s := by
  refine (answers_openCommunity fun community _ _ => answers_refuseIf fun _ => answers_execute s
    ((total_setCommunity _ _).bind fun _ => total_pure _)).congr ?_
  refine exists_congr fun community => and_congr_right' (and_congr_right' ?_)
  by_cases hType : channelType ∈ ["text", "voice"]
  · have hKnown : ¬(channelType ≠ "text" ∧ channelType ≠ "voice") := by simpa [or_iff_not_imp_left] using hType
    cases hChannel : s.db.hasChannel community.communityId ("channel_" ++ env.channelSuffix) with
    | true => simp [Database.insertChannel, hChannel]
    | false => simp [Database.insertChannel, hChannel, hType, hKnown]
  · have hUnknown : channelType ≠ "text" ∧ channelType ≠ "voice" := by simpa using hType
    simp [hType, hUnknown]

theorem handleDeleteChannel_settles (channelId : String) :
    AnswersWhen (MemberRequest.Passes env sender communityId s (.deleteChannel channelId))
      (handleDeleteChannel env communityId sender channelId) s := by
  refine (answers_openCommunity fun community _ _ => answers_of_total
    ((total_setCommunity _ _).bind fun _ => (total_executeIgnoring _).bind fun _ => total_pure _)).congr ?_
  simp [MemberRequest.Passes]

theorem handleRenameChannel_settles (channelId newName : String) :
    AnswersWhen (MemberRequest.Passes env sender communityId s (.renameChannel channelId newName))
      (handleRenameChannel env communityId sender channelId newName) s := by
  refine (answers_openCommunity fun community _ _ => answers_refuseIf fun _ => answers_of_total
    ((total_setCommunity _ _).bind fun _ => (total_executeIgnoring _).bind fun _ => total_pure _)).congr ?_
  simp [MemberRequest.Passes]

theorem handleRotateMek_settles :
    AnswersWhen (MemberRequest.Passes env sender communityId s .rotateMek)
      (handleRotateMek env communityId sender) s := by
  refine (answers_openCommunity fun community _ _ => answers_of_total ?_).congr
    (exists_congr fun community => and_congr_right' (iff_of_eq (and_true _)))
  refine (total_rotateMek _ _ _).bind fun _ => (total_setCommunity _ _).bind fun _ => ?_
  exact (total_broadcastToMembers _ _ _).bind fun _ => total_pure _

theorem handleUpdateCommunity_settles (newName newDescription : Option String) :
    AnswersWhen (MemberRequest.Passes env sender communityId s (.updateCommunity newName newDescription))
      (handleUpdateCommunity env communityId sender newName newDescription) s := by
  refine (answers_openCommunity fun community _ _ => answers_of_total ?_).congr
    (exists_congr fun community => and_congr_right' (iff_of_eq (and_true _)))
  refine (total_setCommunity _ _).bind fun _ => ?_
  refine (total_option_forM _ fun _ => total_executeIgnoring _).bind fun _ => ?_
  exact (total_option_forM _ fun _ => total_executeIgnoring _).bind fun _ => total_pure _

theorem handleUnban_settles (target : String) :
    AnswersWhen (MemberRequest.Passes env sender communityId s (.unban target))
      (handleUnban env communityId sender target) s := by
  refine (answers_openCommunity fun community _ _ => answers_of_total
    ((total_executeIgnoring _).bind fun _ => total_pure _)).congr ?_
  simp [MemberRequest.Passes]

theorem handleGetBanList_settles :
    AnswersWhen (MemberRequest.Passes env sender communityId s .getBanList)
      (handleGetBanList env communityId sender) s := by
  refine (answers_openCommunity fun community _ _ => answers_of_total
    ((total_query _).bind fun _ => total_pure _)).congr ?_
  simp [MemberRequest.Passes]

theorem handleCreateRole_settles (name : String) (color : UInt32) (permissions : Permissions)
    (hoist mentionable : Bool) :
    AnswersWhen (MemberRequest.Passes env sender communityId s
        (.createRole name color permissions hoist mentionable))
      (handleCreateRole env communityId sender name color permissions hoist mentionable) s := by
  refine (answers_openCommunity fun community _ _ => answers_execute s
    ((total_setCommunity _ _).bind fun _ => total_pure _)).congr ?_
  refine exists_congr fun community => and_congr_right' (and_congr_right' (and_congr_right' ?_))
  unfold Database.insertRole
  cases s.db.serverRoles.any fun row => row.communityId == community.communityId &&
      row.role.id == nextRoleId community.roles with
  | true => simp
  | false => simp

theorem handleEditRole_settles (roleId : UInt32) (edit : RoleEdit) :
    AnswersWhen (MemberRequest.Passes env sender communityId s (.editRole roleId edit))
      (handleEditRole env communityId sender roleId edit) s := by
  refine (answers_openCommunity fun community _ _ => answers_check fun role _ =>
    answers_refuseIf fun _ => answers_of_total
      ((total_setCommunity _ _).bind fun _ => (total_executeIgnoring _).bind fun _ => total_pure _)).congr ?_
  refine exists_congr fun community => and_congr_right' (and_congr_right' (exists_congr fun role => ?_))
  rw [orThrow_eq_ok_iff, and_true, not_and_or, not_le, Bool.not_eq_false]

theorem handleDeleteRole_settles (roleId : UInt32) :
    AnswersWhen (MemberRequest.Passes env sender communityId s (.deleteRole roleId))
      (handleDeleteRole env communityId sender roleId) s := by
  refine (answers_refuseIf fun _ => answers_openCommunity fun community _ _ =>
    answers_refuseIf fun _ => answers_of_total ?_).congr ?_
  · refine (total_setCommunity _ _).bind fun _ => (total_executeIgnoring _).bind fun _ => ?_
    exact (total_executeIgnoring _).bind fun _ => total_pure _
  · simp only [MemberRequest.Passes, Meets, ge_iff_le, not_le, and_true]
    tauto

theorem handleAssignRole_settles (target : String) (roleId : UInt32) :
    AnswersWhen (MemberRequest.Passes env sender communityId s (.assignRole target roleId))
      (handleAssignRole env communityId sender target roleId) s := by
  refine (answers_openCommunity fun community _ _ => answers_unit fun _ => answers_refuseIf fun _ =>
    answers_check fun member _ => answers_of_total ?_).congr ?_
  · split
    · exact (total_setCommunity _ _).bind fun _ => (total_executeIgnoring _).bind fun _ => total_pure _
    · exact total_pure _
  · simp [MemberRequest.Passes, Meets, Outranks, orThrow_eq_ok_iff, Option.ne_none_iff_exists']

theorem handleUnassignRole_settles (target : String) (roleId : UInt32) :
    AnswersWhen (MemberRequest.Passes env sender communityId s (.unassignRole target roleId))
      (handleUnassignRole env communityId sender target roleId) s := by
  refine (answers_refuseIf fun _ => answers_openCommunity fun community _ _ =>
    answers_unit fun _ => answers_refuseIf fun _ => answers_of_total
      ((total_setCommunity _ _).bind fun _ => (total_executeIgnoring _).bind fun _ => total_pure _)).congr ?_
  simp only [MemberRequest.Passes, Meets, Outranks, and_true]
  tauto

theorem handleSetChannelOverwrite_settles (channelId targetType targetId : String) (allow deny : Permissions) :
    AnswersWhen (MemberRequest.Passes env sender communityId s
        (.setChannelOverwrite channelId targetType targetId allow deny))
      (handleSetChannelOverwrite env communityId sender channelId targetType targetId allow deny) s := by
  refine (answers_openCommunity fun community _ _ => answers_refuseIf fun _ =>
    answers_of_total ?_).congr ?_
  · refine (total_setCommunity _ _).bind fun _ => (total_executeIgnoring _).bind fun _ => ?_
    exact (total_broadcastToMembers _ _ _).bind fun _ => total_pure _
  · simp [MemberRequest.Passes]

theorem handleDeleteChannelOverwrite_settles (channelId targetType targetId : String) :
    AnswersWhen (MemberRequest.Passes env sender communityId s
        (.deleteChannelOverwrite channelId targetType targetId))
      (handleDeleteChannelOverwrite env communityId sender channelId targetType targetId) s := by
  refine (answers_openCommunity fun community _ _ => answers_of_total
    ((total_setCommunity _ _).bind fun _ => (total_executeIgnoring _).bind fun _ => total_pure _)).congr ?_
  simp [MemberRequest.Passes]

theorem handleTimeoutMember_settles (target : String) (durationSeconds : UInt64) (reason : Option String) :
    AnswersWhen (MemberRequest.Passes env sender communityId s (.timeoutMember target durationSeconds reason))
      (handleTimeoutMember env communityId sender target durationSeconds reason) s := by
  refine (answers_openCommunity fun community _ _ => answers_unit fun _ => answers_refuseIf fun _ =>
    answers_of_total ?_).congr ?_
  · refine (total_setCommunity _ _).bind fun _ => (total_executeIgnoring _).bind fun _ => ?_
    exact (total_broadcastToMembers _ _ _).bind fun _ => total_pure _
  · simp [MemberRequest.Passes, Meets, Outranks]

theorem handleRemoveTimeout_settles (target : String) :
    AnswersWhen (MemberRequest.Passes env sender communityId s (.removeTimeout target))
      (handleRemoveTimeout env communityId sender target) s := by
  refine (answers_openCommunity fun community _ _ => answers_of_total ?_).congr
    (exists_congr fun community => and_congr_right' (iff_of_eq (and_true _)))
  refine (total_setCommunity _ _).bind fun _ => (total_executeIgnoring _).bind fun _ => ?_
  exact (total_broadcastToMembers _ _ _).bind fun _ => total_pure _

/-! ## Bans -/

/-- The row for someone who has no entry in the roster. -/
def outsiderBan (target : String) : BanRow :=
  { communityId := communityId, pseudonymKeyHex := target, displayName := "", bannedAt := env.timestampNow }

/-- The target passes the checks of a ban, but is neither in the roster nor the creator. -/
def BansOutsider (target : String) : Prop :=
  Meets communityId s fun community => MayDo env sender community banMembers ∧ sender ≠ target ∧
    Outranks community sender target ∧ ¬IsMember community target

/-- The row was written before the error. -/
structure OutsiderBanned (target : String) (t : ServerState) : Prop where
  outsider : BansOutsider env communityId sender s target
  hosted : t.hosted = s.hosted
  db : t.db = (if s.dbFaults.headD false then none
    else s.db.insertOrReplaceBan (outsiderBan env communityId target)).getD s.db

theorem findMember_of_not_isMember {community : HostedCommunity} {pseudonym : String}
    (h : ¬IsMember community pseudonym) : findMember community.members pseudonym = none := by
  rw [findMember, Keyed.find_eq_none_iff]
  intro member hMember hKey
  apply h
  unfold IsMember verifyMembership
  have hAny : community.members.any (·.pseudonymKeyHex == pseudonym) = true :=
    List.any_eq_true.mpr ⟨member, hMember, beq_iff_eq.mpr hKey⟩
  rw [hAny]
  split <;> rfl

theorem settles_executeIgnoring {ε : Type} (statement : Database → Option Database) :
    Settles (fun _ t => t.hosted = s.hosted ∧
        t.db = (if s.dbFaults.headD false then none else statement s.db).getD s.db)
      (fun _ _ => False) (executeIgnoring statement : EStateM ε ServerState Unit) s :=
  ⟨rfl, rfl⟩

theorem memberIfHosted_iff {community : HostedCommunity} {target : String} {t : ServerState}
    (hCommunity : s.hosted.lookup communityId = some community) (hHosted : t.hosted = s.hosted) :
    MemberIfHosted target communityId t ↔ IsMember community target := by
  unfold MemberIfHosted
  rw [hHosted, hCommunity]
  simp

theorem handleBan_settles (target : String) :
    AnswersOr (OutsiderBanned env communityId sender s target)
      (MemberRequest.Passes env sender communityId s (.ban target))
      (handleBan env communityId sender target) s := by
  refine (answers_openCommunity fun community hCommunity hMayDo => answers_refuseIf fun hOther =>
    answers_unit fun hOutranks => ?_).congr (Iff.rfl)
  refine (settles_executeIgnoring s _).bind (fun _ t hWritten => ?_) (fun _ _ => False.elim)
  have hTarget : MemberIfHosted target communityId t ↔ IsMember community target :=
    memberIfHosted_iff communityId s hCommunity hWritten.1
  refine Settles.mono (handleLeave_settles env communityId target t) (fun _ _ => hTarget.mp) fun _ u hRefused => ?_
  have hOutsider : ¬IsMember community target := fun hMember => hRefused.1 (hTarget.mpr hMember)
  have hSame : SameData t u := hRefused.2.resolve_right id
  refine ⟨hOutsider, .inr ⟨⟨community, hCommunity, hMayDo, hOther, hOutranks, hOutsider⟩, ?_, ?_⟩⟩
  · rw [hSame.hosted, hWritten.1]
  · rw [hSame.db, hWritten.2, findMember_of_not_isMember hOutsider]
    rfl

/-! ## Joins -/

section
variable {α β : Type}

theorem settles_lookupCommunity {ε : Type} {P : β → ServerState → Prop} {E : ε → ServerState → Prop}
    {f : Option HostedCommunity → EStateM ε ServerState β} (h : Settles P E (f (s.hosted.lookup communityId)) s) :
    Settles P E (lookupCommunity communityId >>= f) s := h

theorem settles_of_total {x : ServerM α} {passes : Prop} {E : RpcError → ServerState → Prop} (h : Total x)
    (hPasses : passes) : Settles (fun _ _ => passes) E x s := by
  obtain ⟨a, t, hRun⟩ := h s
  unfold Settles
  rw [hRun]
  exact hPasses

theorem settles_of_quiet {x : ServerM α} (hTotal : Total x) (hQuiet : Keeps Quietly x) :
    Settles (fun _ t => t.hosted = s.hosted) (fun _ _ => False) x s := by
  obtain ⟨a, t, hRun⟩ := hTotal s
  have hHosted := (hQuiet s).1
  unfold Settles
  rw [hRun] at hHosted ⊢
  exact hHosted

end

theorem total_insertMemberRows (displayName : String) (roleIds : List UInt32) :
    Total (insertMemberRows env communityId sender displayName roleIds : ServerM Unit) :=
  (total_executeIgnoring _).bind fun _ => total_list_forM _ fun _ => total_executeIgnoring _

theorem total_recordCreator (isFirstMember : Bool) : Total (recordCreator communityId sender isFirstMember) := by
  cases isFirstMember with
  | true => exact total_executeIgnoring _
  | false => exact total_pure _

theorem joinAsNewMember_settles (displayName : String) (routeBlob : Option (List UInt8)) :
    Settles (fun _ _ => (s.hosted.lookup communityId).isSome = true)
      (fun _ _ => s.hosted.lookup communityId = none)
      (joinAsNewMember env communityId sender displayName routeBlob) s := by
  unfold joinAsNewMember addNewMember
  simp only [bind_assoc]
  apply settles_lookupCommunity
  refine (settles_of_quiet s (total_insertMemberRows env communityId sender displayName _)
    (keeps_insertMemberRows _ _)).bind (fun _ t hHosted => ?_) fun _ _ => False.elim
  unfold pushMember
  rw [bind_assoc, ← hHosted]
  apply settles_lookupCommunity
  cases hCommunity : t.hosted.lookup communityId with
  | none => exact rfl
  | some community =>
    simp only [bind_assoc, pure_bind]
    refine settles_of_total t ?_ rfl
    refine (total_recordCreator _ _ _).bind fun _ => (total_setCommunity _ _).bind fun _ => ?_
    refine (total_option_forM _ fun _ => total_executeIgnoring _).bind fun _ => ?_
    exact (total_broadcastToMembers _ _ _).bind fun _ => total_pure _

/-- A member of a hosted community is answered at once; nobody else is changed by the attempt. -/
theorem rejoinOrJoin_settles (displayName : String) (routeBlob : Option (List UInt8)) :
    Settles (fun _ _ => (s.hosted.lookup communityId).isSome = true)
      (fun _ _ => s.hosted.lookup communityId = none)
      (handleRejoin communityId sender routeBlob >>= fun
        | some response => pure response
        | none => joinAsNewMember env communityId sender displayName routeBlob) s := by
  have hJoin := joinAsNewMember_settles env communityId sender s displayName routeBlob
  unfold handleRejoin
  rw [bind_assoc]
  apply settles_lookupCommunity
  cases hCommunity : s.hosted.lookup communityId with
  | none =>
    rw [hCommunity] at hJoin
    exact hJoin
  | some community =>
    rw [hCommunity] at hJoin
    cases hMember : findMember community.members sender with
    | none =>
      simp only [hMember, pure_bind]
      exact hJoin
    | some member =>
      cases routeBlob with
      | none =>
        simp only [hMember, pure_bind]
        exact settles_of_total s (total_pure _) rfl
      | some blob =>
        simp only [hMember, bind_assoc, pure_bind]
        exact settles_of_total s ((total_setCommunity _ _).bind fun _ =>
          (total_executeIgnoring _).bind fun _ => total_pure _) rfl

/-- The request came in by a route that leads to no hosted community. -/
def Stray (routing : Routing) : Prop :=
  routing.ipcCommunityId = none ∧ ∃ communityId, routing.joinTarget = some communityId ∧
    s.hosted.lookup communityId = none

theorem checkNotBanned_settles :
    Settles (fun _ t => ¬(s.Answering ∧ s.db.isBanned communityId sender = true) ∧ SameData s t)
      (fun _ t => (s.Answering ∧ s.db.isBanned communityId sender = true) ∧ SameData s t)
      (checkNotBanned communityId sender) s := by
  unfold ServerState.Answering Settles
  have hRun : (checkNotBanned communityId sender).run s =
      (ofExcept (refuseIf ((if s.dbFaults.headD false then none
        else some (s.db.isBanned communityId sender)) = some true)
          ⟨403, "you are banned from this community"⟩) : ServerM Unit).run
        { s with dbFaults := s.dbFaults.tail } := rfl
  rw [hRun]
  cases hFault : s.dbFaults.headD false with
  | true => exact ⟨by simp, rfl, rfl⟩
  | false =>
    cases hBanned : s.db.isBanned communityId sender with
    | true => exact ⟨by simp, rfl, rfl⟩
    | false => exact ⟨by simp, rfl, rfl⟩

theorem handleJoin_settles (routing : Routing) (displayName : String) (routeBlob : Option (List UInt8)) :
    AnswersOr (fun _ => Stray s routing)
      (∃ communityId, routing.joinTarget = some communityId ∧
        (s.hosted.lookup communityId).isSome = true ∧
        ¬(s.Answering ∧ s.db.isBanned communityId sender = true))
      (handleJoin env sender routing displayName routeBlob) s := by
  refine AnswersOr.congr (answers_check fun communityId hTarget => ?_)
    (exists_congr fun _ => and_congr_left' orThrow_eq_ok_iff)
  rw [orThrow_eq_ok_iff] at hTarget
  apply settles_lookupCommunity
  refine AnswersOr.congr (answers_refuseIf fun hKnown => ?_) (and_iff_right_of_imp fun hPasses hUnknown => ?_)
  · refine (checkNotBanned_settles communityId sender s).bind (fun _ t hAdmitted => ?_) fun _ _ hRefused =>
      ⟨fun hPasses => hPasses.2 hRefused.1, .inl hRefused.2⟩
    refine (rejoinOrJoin_settles env communityId sender t displayName routeBlob).mono (fun _ _ hHosted => ?_)
      fun _ u hMissing => ?_
    · rw [hAdmitted.2.hosted] at hHosted
      exact ⟨hHosted, hAdmitted.1⟩
    · rw [hAdmitted.2.hosted] at hMissing
      rw [hMissing] at hKnown
      refine ⟨fun hPasses => by simp [hMissing] at hPasses, .inr ⟨?_, communityId, hTarget, hMissing⟩⟩
      simpa using hKnown
  · obtain ⟨_, hNone⟩ := hUnknown
    rw [Option.isNone_iff_eq_none] at hNone
    simp [hNone] at hPasses

end

/-! ## Dispatch -/

section
variable (s : ServerState)

theorem answers_thenBroadcast {passes : Prop} {handler : ServerM CommunityResponse} {broadcast : ServerM Unit}
    (hHandler : AnswersWhen passes handler s) (hBroadcast : Total broadcast) :
    AnswersWhen passes (thenBroadcast handler broadcast) s := by
  refine Settles.bind hHandler (fun response t hPasses => ?_) fun _ _ hRefused => hRefused
  obtain ⟨a, u, hRun⟩ := (hBroadcast.bind fun _ => total_pure response) t
  unfold Settles
  rw [hRun]
  exact hPasses

/-- What a refused request may still have done. -/
def RefusalWrites (env : Environment) (sender communityId : String) (request : MemberRequest)
    (t : ServerState) : Prop :=
  ∃ target, request = .ban target ∧ OutsiderBanned env communityId sender s target t

theorem handleRequest_settles (env : Environment) (sender communityId : String) (request : MemberRequest) :
    AnswersOr (RefusalWrites s env sender communityId request)
      (request.Passes env sender communityId s) (handleRequest env sender communityId request) s := by
  have hNothing : ∀ t, False → RefusalWrites s env sender communityId request t := fun _ => False.elim
  cases request with
  | sendMessage => exact (handleSendMessage_settles env communityId sender s _ _ _).mono hNothing
  | getMessages => exact (handleGetMessages_settles env communityId sender s _ _ _).mono hNothing
  | requestMek => exact (handleRequestMek_settles env communityId sender s).mono hNothing
  | leave => exact (handleLeave_settles env communityId sender s).mono hNothing
  | kick => exact (handleKick_settles env communityId sender s _).mono hNothing
  | createChannel => exact (handleCreateChannel_settles env communityId sender s _ _).mono hNothing
  | deleteChannel => exact (handleDeleteChannel_settles env communityId sender s _).mono hNothing
  | rotateMek => exact (handleRotateMek_settles env communityId sender s).mono hNothing
  | renameChannel => exact (handleRenameChannel_settles env communityId sender s _ _).mono hNothing
  | updateCommunity => exact (handleUpdateCommunity_settles env communityId sender s _ _).mono hNothing
  | ban target =>
    exact (handleBan_settles env communityId sender s target).mono fun _ hBanned => ⟨target, rfl, hBanned⟩
  | unban => exact (handleUnban_settles env communityId sender s _).mono hNothing
  | getBanList => exact (handleGetBanList_settles env communityId sender s).mono hNothing
  | createRole =>
    exact (answers_thenBroadcast s (handleCreateRole_settles env communityId sender s _ _ _ _ _)
      (total_broadcastRolesChanged _)).mono hNothing
  | editRole =>
    exact (answers_thenBroadcast s (handleEditRole_settles env communityId sender s _ _)
      (total_broadcastRolesChanged _)).mono hNothing
  | deleteRole =>
    exact (answers_thenBroadcast s (handleDeleteRole_settles env communityId sender s _)
      (total_broadcastRolesChanged _)).mono hNothing
  | assignRole =>
    exact (answers_thenBroadcast s (handleAssignRole_settles env communityId sender s _ _)
      (total_broadcastMemberRolesChanged _ _)).mono hNothing
  | unassignRole =>
    exact (answers_thenBroadcast s (handleUnassignRole_settles env communityId sender s _ _)
      (total_broadcastMemberRolesChanged _ _)).mono hNothing
  | setChannelOverwrite =>
    exact (handleSetChannelOverwrite_settles env communityId sender s _ _ _ _ _).mono hNothing
  | deleteChannelOverwrite =>
    exact (handleDeleteChannelOverwrite_settles env communityId sender s _ _ _).mono hNothing
  | timeoutMember => exact (handleTimeoutMember_settles env communityId sender s _ _ _).mono hNothing
  | removeTimeout => exact (handleRemoveTimeout_settles env communityId sender s _).mono hNothing
  | getRoles => exact (handleGetRoles_settles env communityId sender s).mono hNothing

/-- What a refusal of the request may leave changed. -/
def IncomingRequest.RefusalWrites (incoming : IncomingRequest) (t : ServerState) : Prop :=
  match incoming.request with
  | .join _ _ _ => Stray s incoming.routing
  | .member request => ∃ communityId, resolveCommunityId incoming.routing = some communityId ∧
      Server.RefusalWrites s incoming.env incoming.sender communityId request t

/-- Every request is answered exactly when its checks pass, and a refusal leaves the data alone but
for the exceptions. -/
theorem dispatch_settles (incoming : IncomingRequest) :
    AnswersOr (incoming.RefusalWrites s) (incoming.Passes s)
      (dispatchRequest incoming.env incoming.sender incoming.routing incoming.request) s := by
  obtain ⟨env, sender, routing, request⟩ := incoming
  cases request with
  | join pseudonym displayName routeBlob =>
    refine AnswersOr.congr (answers_refuseIf fun hClaimed => ?_) (and_congr_left' not_not)
    exact handleJoin_settles env sender s routing displayName routeBlob
  | member request =>
    refine AnswersOr.congr (answers_check fun communityId hTarget => ?_)
      (exists_congr fun _ => and_congr_left' orThrow_eq_ok_iff)
    exact (handleRequest_settles s env sender communityId request).mono
      fun t hWrites => ⟨communityId, orThrow_eq_ok_iff.mp hTarget, hWrites⟩

end

end Rekindle.Server
