import Mathlib.Logic.Relation
import Rekindle.Server.Changes

/-! # Which statements a request runs

A request reaches the database through a fixed list of statements. What none of them touches stays
as it is through the whole request.
-/
namespace Rekindle.Server
set_option autoImplicit false
open Fallible

inductive Statement where
  | insertCommunity (row : CommunityRow)
  | deleteCommunity (communityId : String)
  | rename (communityId name : String)
  | describe (communityId description : String)
  | recordCreator (communityId pseudonym : String)
  | insertMember (row : MemberRow)
  | insertMemberRole (row : MemberRoleRow)
  | deleteMember (communityId pseudonym : String)
  | updateRouteBlob (communityId pseudonym : String) (routeBlob : List UInt8)
  | insertMek (row : MekRow)
  | insertOrReplaceMek (row : MekRow)
  | insertOrReplaceBan (row : BanRow)
  | deleteBan (communityId pseudonym : String)
  | insertRole (row : RoleRow)
  | insertRoleOrIgnore (row : RoleRow)
  | updateRole (communityId : String) (role : RoleDefinition)
  | deleteRole (communityId : String) (roleId : UInt32)
  | deleteRoleAssignments (communityId : String) (roleId : UInt32)
  | deleteMemberRole (communityId pseudonym : String) (roleId : UInt32)
  | insertChannel (row : ChannelRow)
  | deleteChannel (communityId channelId : String)
  | updateChannelName (communityId channelId newName : String)
  | insertOrReplaceOverwrite (row : OverwriteRow)
  | deleteOverwrite (communityId channelId targetType targetId : String)
  | insertOrReplaceTimeout (row : TimeoutRow)
  | deleteTimeout (communityId pseudonym : String)
  | insertMessage (row : MessageRow)

namespace Statement

def run (db : Database) : Statement → Option Database
  | insertCommunity row => db.insertCommunity row
  | deleteCommunity communityId => db.deleteCommunity communityId
  | rename communityId name => db.updateCommunity communityId fun row => { row with name := name }
  | describe communityId description =>
    db.updateCommunity communityId fun row => { row with description := description }
  | recordCreator communityId pseudonym =>
    db.updateCommunity communityId fun row => { row with creatorPseudonym := pseudonym }
  | insertMember row => db.insertMember row
  | insertMemberRole row => db.insertMemberRole row
  | deleteMember communityId pseudonym => db.deleteMember communityId pseudonym
  | updateRouteBlob communityId pseudonym routeBlob => db.updateRouteBlob communityId pseudonym routeBlob
  | insertMek row => db.insertMek row
  | insertOrReplaceMek row => db.insertOrReplaceMek row
  | insertOrReplaceBan row => db.insertOrReplaceBan row
  | deleteBan communityId pseudonym => db.deleteBan communityId pseudonym
  | insertRole row => db.insertRole row
  | insertRoleOrIgnore row => db.insertRoleOrIgnore row
  | updateRole communityId role => db.updateRole communityId role
  | deleteRole communityId roleId => db.deleteRole communityId roleId
  | deleteRoleAssignments communityId roleId => db.deleteRoleAssignments communityId roleId
  | deleteMemberRole communityId pseudonym roleId => db.deleteMemberRole communityId pseudonym roleId
  | insertChannel row => db.insertChannel row
  | deleteChannel communityId channelId => db.deleteChannel communityId channelId
  | updateChannelName communityId channelId newName => db.updateChannelName communityId channelId newName
  | insertOrReplaceOverwrite row => db.insertOrReplaceOverwrite row
  | deleteOverwrite communityId channelId targetType targetId =>
    db.deleteOverwrite communityId channelId targetType targetId
  | insertOrReplaceTimeout row => db.insertOrReplaceTimeout row
  | deleteTimeout communityId pseudonym => db.deleteTimeout communityId pseudonym
  | insertMessage row => db.insertMessage row

/-- The statement stores no message and leaves the communities and their creators alone. -/
def Routine : Statement → Prop
  | insertMessage _ | insertCommunity _ | deleteCommunity _ | recordCreator _ _ => False
  | _ => True

def NamesNoCreator : Statement → Prop
  | insertCommunity _ | deleteCommunity _ | recordCreator _ _ => False
  | _ => True

theorem Routine.namesNoCreator {statement : Statement} (h : statement.Routine) : statement.NamesNoCreator := by
  cases statement with
  | insertCommunity | deleteCommunity | recordCreator => exact h
  | _ => trivial

def StoresNoMessage : Statement → Prop
  | insertMessage _ => False
  | _ => True

theorem Routine.storesNoMessage {statement : Statement} (h : statement.Routine) : statement.StoresNoMessage := by
  cases statement with
  | insertMessage => exact h
  | _ => trivial

/-- No message is stored, and the community is the only one whose hosting changes. -/
def Hosts (communityId : String) : Statement → Prop
  | insertCommunity row => row.id = communityId
  | deleteCommunity other | recordCreator other _ => other = communityId
  | insertMessage _ => False
  | _ => True

theorem Routine.hosts {statement : Statement} (h : statement.Routine) (communityId : String) :
    statement.Hosts communityId := by
  cases statement with
  | insertCommunity | deleteCommunity | recordCreator | insertMessage => exact h.elim
  | _ => trivial

theorem Hosts.storesNoMessage {statement : Statement} {communityId : String} (h : statement.Hosts communityId) :
    statement.StoresNoMessage := by
  cases statement with
  | insertMessage => exact h.elim
  | _ => trivial

theorem StoresNoMessage.messages {statement : Statement} (h : statement.StoresNoMessage) {db db' : Database}
    (hRun : statement.run db = some db') : db'.serverMessages = db.serverMessages := by
  cases statement with
  | insertMessage => exact h.elim
  | insertCommunity | insertMember | insertMemberRole | insertMek | insertOrReplaceMek | insertOrReplaceBan
  | insertRole | insertRoleOrIgnore | insertChannel | insertOrReplaceOverwrite | insertOrReplaceTimeout =>
    simp only [run, Database.insertCommunity, Database.insertMember, Database.insertMemberRole,
      Database.insertMek, Database.insertOrReplaceMek, Database.insertOrReplaceBan, Database.insertRole,
      Database.insertRoleOrIgnore, Database.insertChannel, Database.insertOrReplaceOverwrite,
      Database.insertOrReplaceTimeout] at hRun
    split_ifs at hRun <;> cases hRun <;> rfl
  | _ => cases hRun; rfl

end Statement

/-- The database went through statements that are allowed. -/
structure Edited (allowed : Statement → Prop) (before after : ServerState) : Prop where
  tables : Relation.ReflTransGen
    (fun db db' => ∃ statement : Statement, allowed statement ∧ statement.run db = some db') before.db after.db
  faults : after.dbFaults <:+ before.dbFaults

section
variable {allowed allowed' : Statement → Prop}

instance : Std.Refl (Edited allowed) := ⟨fun _ => ⟨.refl, List.suffix_refl _⟩⟩

instance : IsTrans ServerState (Edited allowed) :=
  ⟨fun _ _ _ hFirst hSecond => ⟨hFirst.tables.trans hSecond.tables, hSecond.faults.trans hFirst.faults⟩⟩

theorem Edited.mono (hAllowed : ∀ statement, allowed statement → allowed' statement) {s t : ServerState}
    (h : Edited allowed s t) : Edited allowed' s t := by
  refine ⟨Relation.ReflTransGen.mono ?_ _ _ h.tables, h.faults⟩
  rintro db db' ⟨statement, hStatement, hRun⟩
  exact ⟨statement, hAllowed statement hStatement, hRun⟩

/-- What every allowed statement keeps is kept. -/
theorem Edited.keeps {α : Type} {part : Database → α}
    (hPart : ∀ statement, allowed statement → ∀ db db', statement.run db = some db' → part db' = part db)
    {s t : ServerState} (h : Edited allowed s t) : part t.db = part s.db := by
  have hTables := h.tables
  generalize t.db = db at hTables
  induction hTables with
  | refl => rfl
  | tail _ hStep ih =>
    obtain ⟨statement, hStatement, hRun⟩ := hStep
    rw [hPart statement hStatement _ _ hRun, ih]

variable {ε : Type}

theorem edited_execute (statement : Statement) (h : allowed statement) :
    Keeps (Edited allowed) (execute (fun db => statement.run db) : EStateM ε ServerState Bool) := by
  intro s
  obtain ⟨stored, db, hRun, hDb⟩ : ∃ stored db,
      (execute (fun db => statement.run db) : EStateM ε _ _).run s = _ ∧ _ := execute_run _ s
  rw [hRun]
  refine ⟨?_, List.tail_suffix _⟩
  rcases hDb with rfl | hStatement
  · exact .refl
  · exact .single ⟨statement, h, hStatement⟩

theorem edited_executeIgnoring (statement : Statement) (h : allowed statement) :
    Keeps (Edited allowed) (executeIgnoring (fun db => statement.run db) : EStateM ε ServerState Unit) :=
  (edited_execute statement h).bind fun _ => keeps_pure _

theorem edited_query {α : Type} (read : Database → α) :
    Keeps (Edited allowed) (query read : EStateM ε ServerState (Option α)) :=
  fun _ => ⟨.refl, List.tail_suffix _⟩

theorem edited_lookupCommunity (communityId : String) :
    Keeps (Edited allowed) (lookupCommunity communityId : EStateM ε ServerState _) :=
  fun s => refl_of (Edited allowed) s

theorem edited_setCommunity (communityId : String) (community : HostedCommunity) :
    Keeps (Edited allowed) (setCommunity communityId community : EStateM ε ServerState Unit) :=
  fun _ => ⟨.refl, List.suffix_refl _⟩

theorem edited_broadcastToMembers (communityId exclude : String) (broadcast : CommunityBroadcast) :
    Keeps (Edited allowed) (broadcastToMembers communityId exclude broadcast : EStateM ε ServerState Unit) :=
  fun _ => ⟨.refl, List.suffix_refl _⟩

end

/-! ## Steps that leave the communities in memory alone -/

structure Beside (allowed : Statement → Prop) (before after : ServerState) : Prop where
  hosted : after.hosted = before.hosted
  edited : Edited allowed before after

section
variable {allowed : Statement → Prop} {ε : Type}

instance : Std.Refl (Beside allowed) := ⟨fun s => ⟨rfl, refl_of (Edited _) s⟩⟩

instance : IsTrans ServerState (Beside allowed) :=
  ⟨fun _ _ _ hFirst hSecond =>
    ⟨hSecond.hosted.trans hFirst.hosted, trans_of (Edited _) hFirst.edited hSecond.edited⟩⟩

theorem beside_execute (statement : Statement) (h : allowed statement) :
    Keeps (Beside allowed) (execute (fun db => statement.run db) : EStateM ε ServerState Bool) := by
  refine fun s => ⟨?_, edited_execute statement h s⟩
  obtain ⟨stored, db, hRun, _⟩ : ∃ stored db,
      (execute (fun db => statement.run db) : EStateM ε _ _).run s = _ ∧ _ := execute_run _ s
  rw [hRun]
  rfl

theorem beside_executeIgnoring (statement : Statement) (h : allowed statement) :
    Keeps (Beside allowed) (executeIgnoring (fun db => statement.run db) : EStateM ε ServerState Unit) :=
  (beside_execute statement h).bind fun _ => keeps_pure _

theorem beside_query {α : Type} (read : Database → α) :
    Keeps (Beside allowed) (query read : EStateM ε ServerState (Option α)) :=
  fun s => ⟨rfl, edited_query read s⟩

theorem insertMemberRows_beside {env : Environment} {communityId sender displayName : String}
    {roleIds : List UInt32} (hMember : allowed (.insertMember
      { communityId := communityId, pseudonymKeyHex := sender, displayName := displayName
        joinedAt := env.timestampNow, routeBlob := none }))
    (hRoles : ∀ roleId, allowed (.insertMemberRole
      { communityId := communityId, pseudonymKeyHex := sender, roleId := roleId })) :
    Keeps (Beside allowed)
      (insertMemberRows env communityId sender displayName roleIds : EStateM ε ServerState Unit) := by
  refine (beside_executeIgnoring _ hMember).bind fun _ => ?_
  exact keeps_list_forM _ fun roleId => beside_executeIgnoring _ (hRoles roleId)

end

/-! ## Handlers -/

section
variable (env : Environment) (communityId sender : String)

variable {communityId sender}

theorem edited_check {α β : Type} {allowed : Statement → Prop} {r : Except RpcError α} {f : α → ServerM β}
    (h : ∀ a, Keeps (Edited allowed) (f a)) : Keeps (Edited allowed) (ofExcept r >>= f) :=
  (keeps_ofExcept r).bind h

theorem edited_getCommunity {β : Type} {allowed : Statement → Prop} {missing : RpcError}
    {f : HostedCommunity → ServerM β} (h : ∀ community, Keeps (Edited allowed) (f community)) :
    Keeps (Edited allowed) (getCommunity communityId missing >>= f) :=
  ((edited_lookupCommunity _).bind fun _ => keeps_ofExcept _).bind h

theorem edited_openCommunity {env : Environment} {β : Type} {allowed : Statement → Prop}
    {required : Permissions} {f : HostedCommunity → ServerM β}
    (h : ∀ community, Keeps (Edited allowed) (f community)) :
    Keeps (Edited allowed) (openCommunity env communityId sender required >>= f) := by
  refine Keeps.bind (edited_getCommunity fun _ => ?_) h
  exact edited_check fun _ => edited_check fun _ => keeps_pure _

variable (communityId sender)

theorem rotateMek_edited {ε : Type} (newGeneration : UInt64) :
    Keeps (Edited Statement.Routine) (rotateMek env communityId newGeneration : EStateM ε ServerState _) :=
  (edited_executeIgnoring (.insertMek _) trivial).bind fun _ => keeps_pure _

theorem handleRequestMek_edited : Keeps (Edited Statement.Routine) (handleRequestMek communityId sender) :=
  edited_getCommunity fun _ => edited_check fun _ => keeps_pure _

theorem handleGetRoles_edited : Keeps (Edited Statement.Routine) (handleGetRoles communityId sender) :=
  edited_getCommunity fun _ => edited_check fun _ => keeps_pure _

theorem handleGetMessages_edited (channelId : String) (beforeTimestamp : Option UInt64) (limit : UInt32) :
    Keeps (Edited Statement.Routine)
      (handleGetMessages communityId sender channelId beforeTimestamp limit) := by
  refine Keeps.bind ((edited_lookupCommunity _).bind fun _ => keeps_ofExcept _) fun _ => ?_
  exact (edited_query _).bind fun _ => edited_check fun _ => keeps_pure _

theorem handleLeave_edited : Keeps (Edited Statement.Routine) (handleLeave env communityId sender) := by
  refine Keeps.bind ((edited_lookupCommunity _).bind fun _ => keeps_ofExcept _) fun _ => ?_
  refine (edited_executeIgnoring (.deleteMember communityId sender) trivial).bind fun _ => ?_
  refine Keeps.bind ((edited_lookupCommunity _).bind fun community => ?_) fun _ => ?_
  · cases community with
    | none => exact keeps_pure _
    | some community => exact (rotateMek_edited env communityId _).bind fun _ => edited_setCommunity _ _
  · refine Keeps.bind ?_ fun _ => keeps_pure _
    refine (edited_broadcastToMembers _ _ _).bind fun _ => (edited_lookupCommunity _).bind fun _ => ?_
    exact keeps_option_forM _ fun _ => edited_broadcastToMembers _ _ _

theorem handleKick_edited (target : String) :
    Keeps (Edited Statement.Routine) (handleKick env communityId sender target) :=
  edited_getCommunity fun _ => edited_check fun _ => edited_check fun _ => edited_check fun _ =>
    handleLeave_edited env communityId target

theorem handleCreateChannel_edited (name channelType : String) :
    Keeps (Edited Statement.Routine) (handleCreateChannel env communityId sender name channelType) := by
  refine edited_openCommunity fun community => edited_check fun _ => ?_
  refine (edited_execute (.insertChannel _) trivial).bind fun _ => edited_check fun _ => ?_
  exact (edited_setCommunity _ _).bind fun _ => keeps_pure _

theorem handleDeleteChannel_edited (channelId : String) :
    Keeps (Edited Statement.Routine) (handleDeleteChannel env communityId sender channelId) := by
  refine edited_openCommunity fun community => (edited_setCommunity _ _).bind fun _ => ?_
  exact (edited_executeIgnoring (.deleteChannel _ channelId) trivial).bind fun _ => keeps_pure _

theorem handleRenameChannel_edited (channelId newName : String) :
    Keeps (Edited Statement.Routine) (handleRenameChannel env communityId sender channelId newName) := by
  refine edited_openCommunity fun community => edited_check fun _ => (edited_setCommunity _ _).bind fun _ => ?_
  exact (edited_executeIgnoring (.updateChannelName _ channelId newName) trivial).bind fun _ => keeps_pure _

theorem handleRotateMek_edited : Keeps (Edited Statement.Routine) (handleRotateMek env communityId sender) := by
  refine edited_openCommunity fun community => (rotateMek_edited env communityId _).bind fun _ => ?_
  exact (edited_setCommunity _ _).bind fun _ => (edited_broadcastToMembers _ _ _).bind fun _ => keeps_pure _

theorem handleUpdateCommunity_edited (newName newDescription : Option String) :
    Keeps (Edited Statement.Routine)
      (handleUpdateCommunity env communityId sender newName newDescription) := by
  refine edited_openCommunity fun community => (edited_setCommunity _ _).bind fun _ => ?_
  refine (keeps_option_forM _ fun name =>
    edited_executeIgnoring (.rename communityId name) trivial).bind fun _ => ?_
  exact (keeps_option_forM _ fun description =>
    edited_executeIgnoring (.describe communityId description) trivial).bind fun _ => keeps_pure _

theorem handleBan_edited (target : String) :
    Keeps (Edited Statement.Routine) (handleBan env communityId sender target) := by
  refine edited_openCommunity fun community => edited_check fun _ => edited_check fun _ => ?_
  exact (edited_executeIgnoring (.insertOrReplaceBan _) trivial).bind fun _ =>
    handleLeave_edited env communityId target

theorem handleUnban_edited (target : String) :
    Keeps (Edited Statement.Routine) (handleUnban env communityId sender target) := by
  refine edited_openCommunity fun community => ?_
  exact (edited_executeIgnoring (.deleteBan _ target) trivial).bind fun _ => keeps_pure _

theorem handleGetBanList_edited : Keeps (Edited Statement.Routine) (handleGetBanList env communityId sender) :=
  edited_openCommunity fun _ => (edited_query _).bind fun _ => keeps_pure _

theorem handleCreateRole_edited (name : String) (color : UInt32) (permissions : Permissions)
    (hoist mentionable : Bool) :
    Keeps (Edited Statement.Routine)
      (handleCreateRole env communityId sender name color permissions hoist mentionable) := by
  refine edited_openCommunity fun community => (edited_execute (.insertRole _) trivial).bind fun _ => ?_
  exact edited_check fun _ => (edited_setCommunity _ _).bind fun _ => keeps_pure _

theorem handleEditRole_edited (roleId : UInt32) (edit : RoleEdit) :
    Keeps (Edited Statement.Routine) (handleEditRole env communityId sender roleId edit) := by
  refine edited_openCommunity fun community => edited_check fun role => edited_check fun _ => ?_
  refine (edited_setCommunity _ _).bind fun _ => ?_
  exact (edited_executeIgnoring (.updateRole _ (edit.apply role)) trivial).bind fun _ => keeps_pure _

theorem handleDeleteRole_edited (roleId : UInt32) :
    Keeps (Edited Statement.Routine) (handleDeleteRole env communityId sender roleId) := by
  refine edited_check fun _ => edited_openCommunity fun community => edited_check fun _ => ?_
  refine (edited_setCommunity _ _).bind fun _ => ?_
  refine (edited_executeIgnoring (.deleteRole _ roleId) trivial).bind fun _ => ?_
  exact (edited_executeIgnoring (.deleteRoleAssignments _ roleId) trivial).bind fun _ => keeps_pure _

theorem handleAssignRole_edited (target : String) (roleId : UInt32) :
    Keeps (Edited Statement.Routine) (handleAssignRole env communityId sender target roleId) := by
  refine edited_openCommunity fun community => edited_check fun _ => edited_check fun _ =>
    edited_check fun member => ?_
  split
  · refine (edited_setCommunity _ _).bind fun _ => ?_
    exact (edited_executeIgnoring (.insertMemberRole _) trivial).bind fun _ => keeps_pure _
  · exact keeps_pure _

theorem handleUnassignRole_edited (target : String) (roleId : UInt32) :
    Keeps (Edited Statement.Routine) (handleUnassignRole env communityId sender target roleId) := by
  refine edited_check fun _ => edited_openCommunity fun community => edited_check fun _ =>
    edited_check fun _ => ?_
  refine (edited_setCommunity _ _).bind fun _ => ?_
  exact (edited_executeIgnoring (.deleteMemberRole _ target roleId) trivial).bind fun _ => keeps_pure _

theorem handleSetChannelOverwrite_edited (channelId targetType targetId : String) (allow deny : Permissions) :
    Keeps (Edited Statement.Routine)
      (handleSetChannelOverwrite env communityId sender channelId targetType targetId allow deny) := by
  refine edited_openCommunity fun community => edited_check fun _ => (edited_setCommunity _ _).bind fun _ => ?_
  refine (edited_executeIgnoring (.insertOrReplaceOverwrite _) trivial).bind fun _ => ?_
  exact (edited_broadcastToMembers _ _ _).bind fun _ => keeps_pure _

theorem handleDeleteChannelOverwrite_edited (channelId targetType targetId : String) :
    Keeps (Edited Statement.Routine)
      (handleDeleteChannelOverwrite env communityId sender channelId targetType targetId) := by
  refine edited_openCommunity fun community => (edited_setCommunity _ _).bind fun _ => ?_
  exact (edited_executeIgnoring (.deleteOverwrite _ channelId targetType targetId) trivial).bind
    fun _ => keeps_pure _

theorem handleTimeoutMember_edited (target : String) (durationSeconds : UInt64) (reason : Option String) :
    Keeps (Edited Statement.Routine)
      (handleTimeoutMember env communityId sender target durationSeconds reason) := by
  refine edited_openCommunity fun community => edited_check fun _ => edited_check fun _ => ?_
  refine (edited_setCommunity _ _).bind fun _ => ?_
  refine (edited_executeIgnoring (.insertOrReplaceTimeout _) trivial).bind fun _ => ?_
  exact (edited_broadcastToMembers _ _ _).bind fun _ => keeps_pure _

theorem handleRemoveTimeout_edited (target : String) :
    Keeps (Edited Statement.Routine) (handleRemoveTimeout env communityId sender target) := by
  refine edited_openCommunity fun community => (edited_setCommunity _ _).bind fun _ => ?_
  refine (edited_executeIgnoring (.deleteTimeout _ target) trivial).bind fun _ => ?_
  exact (edited_broadcastToMembers _ _ _).bind fun _ => keeps_pure _

theorem broadcastRolesChanged_edited : Keeps (Edited Statement.Routine) (broadcastRolesChanged communityId) :=
  (edited_lookupCommunity _).bind fun _ => keeps_option_forM _ fun _ => edited_broadcastToMembers _ _ _

theorem broadcastMemberRolesChanged_edited (target : String) :
    Keeps (Edited Statement.Routine) (broadcastMemberRolesChanged communityId target) :=
  (edited_lookupCommunity _).bind fun _ => keeps_option_forM _ fun _ => edited_broadcastToMembers _ _ _

theorem thenBroadcast_edited {allowed : Statement → Prop} {handler : ServerM CommunityResponse}
    {broadcast : ServerM Unit} (hHandler : Keeps (Edited allowed) handler)
    (hBroadcast : Keeps (Edited allowed) broadcast) : Keeps (Edited allowed) (thenBroadcast handler broadcast) :=
  hHandler.bind fun _ => hBroadcast.bind fun _ => keeps_pure _

def MemberRequest.IsSend : MemberRequest → Prop
  | .sendMessage _ _ _ => True
  | _ => False

/-- Only SendMessage runs a statement that is not routine. -/
theorem handleRequest_edited {request : MemberRequest} (h : ¬request.IsSend) :
    Keeps (Edited Statement.Routine) (handleRequest env sender communityId request) := by
  cases request with
  | sendMessage => exact absurd trivial h
  | getMessages => exact handleGetMessages_edited _ _ _ _ _
  | requestMek => exact handleRequestMek_edited _ _
  | leave => exact handleLeave_edited _ _ _
  | kick => exact handleKick_edited _ _ _ _
  | createChannel => exact handleCreateChannel_edited _ _ _ _ _
  | deleteChannel => exact handleDeleteChannel_edited _ _ _ _
  | rotateMek => exact handleRotateMek_edited _ _ _
  | renameChannel => exact handleRenameChannel_edited _ _ _ _ _
  | updateCommunity => exact handleUpdateCommunity_edited _ _ _ _ _
  | ban => exact handleBan_edited _ _ _ _
  | unban => exact handleUnban_edited _ _ _ _
  | getBanList => exact handleGetBanList_edited _ _ _
  | createRole =>
    exact thenBroadcast_edited (handleCreateRole_edited _ _ _ _ _ _ _ _) (broadcastRolesChanged_edited _)
  | editRole => exact thenBroadcast_edited (handleEditRole_edited _ _ _ _ _) (broadcastRolesChanged_edited _)
  | deleteRole => exact thenBroadcast_edited (handleDeleteRole_edited _ _ _ _) (broadcastRolesChanged_edited _)
  | assignRole =>
    exact thenBroadcast_edited (handleAssignRole_edited _ _ _ _ _) (broadcastMemberRolesChanged_edited _ _)
  | unassignRole =>
    exact thenBroadcast_edited (handleUnassignRole_edited _ _ _ _ _) (broadcastMemberRolesChanged_edited _ _)
  | setChannelOverwrite => exact handleSetChannelOverwrite_edited _ _ _ _ _ _ _ _
  | deleteChannelOverwrite => exact handleDeleteChannelOverwrite_edited _ _ _ _ _ _
  | timeoutMember => exact handleTimeoutMember_edited _ _ _ _ _ _
  | removeTimeout => exact handleRemoveTimeout_edited _ _ _ _
  | getRoles => exact handleGetRoles_edited _ _

theorem handleSendMessage_edited (channelId : String) (ciphertext : List UInt8) (mekGeneration : UInt64) :
    Keeps (Edited Statement.NamesNoCreator)
      (handleSendMessage env communityId sender channelId ciphertext mekGeneration) := by
  refine edited_getCommunity fun community => edited_check fun _ => edited_check fun _ => edited_check fun _ => ?_
  refine (edited_execute (.insertMessage _) trivial).bind fun _ => edited_check fun _ => ?_
  exact (edited_broadcastToMembers _ _ _).bind fun _ => keeps_pure _

theorem handleRequest_namesNoCreator (request : MemberRequest) :
    Keeps (Edited Statement.NamesNoCreator) (handleRequest env sender communityId request) := by
  by_cases hSend : request.IsSend
  · cases request with
    | sendMessage => exact handleSendMessage_edited env communityId sender _ _ _
    | _ => exact hSend.elim
  · exact fun s => (handleRequest_edited env communityId sender hSend s).mono
      fun _ => Statement.Routine.namesNoCreator

/-! ## Joins -/

theorem insertMemberRows_edited {ε : Type} (displayName : String) (roleIds : List UInt32) :
    Keeps (Edited Statement.Routine)
      (insertMemberRows env communityId sender displayName roleIds : EStateM ε ServerState Unit) := by
  refine (edited_executeIgnoring (.insertMember _) trivial).bind fun _ => ?_
  exact keeps_list_forM _ fun roleId => edited_executeIgnoring (.insertMemberRole _) trivial

theorem recordCreator_edited (isFirstMember : Bool) :
    Keeps (Edited Statement.StoresNoMessage) (recordCreator communityId sender isFirstMember) := by
  cases isFirstMember with
  | true => exact edited_executeIgnoring (.recordCreator communityId sender) trivial
  | false => exact keeps_pure _

theorem Keeps.of_routine {ε α : Type} {x : EStateM ε ServerState α}
    (h : Keeps (Edited Statement.Routine) x) : Keeps (Edited Statement.StoresNoMessage) x :=
  fun s => (h s).mono fun _ => Statement.Routine.storesNoMessage

theorem pushMember_edited (isFirstMember : Bool) (displayName : String) (routeBlob : Option (List UInt8)) :
    Keeps (Edited Statement.StoresNoMessage)
      (pushMember env communityId sender isFirstMember displayName routeBlob) := by
  refine (edited_lookupCommunity _).bind fun community => ?_
  cases community with
  | none => exact keeps_pure _
  | some community =>
    refine (recordCreator_edited communityId sender isFirstMember).bind fun _ => ?_
    refine (edited_setCommunity _ _).bind fun _ => ?_
    exact (keeps_option_forM _ fun blob =>
      edited_executeIgnoring (.updateRouteBlob _ sender blob) trivial).bind fun _ => keeps_pure _

theorem joinAsNewMember_edited (displayName : String) (routeBlob : Option (List UInt8)) :
    Keeps (Edited Statement.StoresNoMessage)
      (joinAsNewMember env communityId sender displayName routeBlob) := by
  refine Keeps.bind ?_ fun _ => edited_check fun _ =>
    (edited_broadcastToMembers _ _ _).bind fun _ => keeps_pure _
  refine (edited_lookupCommunity _).bind fun _ => ?_
  exact (Keeps.of_routine (insertMemberRows_edited env communityId sender displayName _)).bind fun _ =>
    pushMember_edited env communityId sender _ displayName routeBlob

theorem handleRejoin_edited (routeBlob : Option (List UInt8)) :
    Keeps (Edited Statement.StoresNoMessage) (handleRejoin communityId sender routeBlob) := by
  refine (edited_lookupCommunity _).bind fun community => ?_
  cases community with
  | none => exact keeps_pure _
  | some community =>
    cases hMember : findMember community.members sender with
    | none =>
      simp only [hMember]
      exact keeps_pure _
    | some member =>
      simp only [hMember]
      cases routeBlob with
      | none => exact keeps_pure _
      | some blob =>
        refine (edited_setCommunity _ _).bind fun _ => ?_
        exact (edited_executeIgnoring (.updateRouteBlob _ sender blob) trivial).bind fun _ => keeps_pure _

theorem handleJoin_edited (routing : Routing) (displayName : String) (routeBlob : Option (List UInt8)) :
    Keeps (Edited Statement.StoresNoMessage) (handleJoin env sender routing displayName routeBlob) := by
  refine edited_check fun communityId => (edited_lookupCommunity _).bind fun _ => edited_check fun _ => ?_
  refine Keeps.bind ((edited_query _).bind fun _ => keeps_ofExcept _) fun _ => ?_
  refine (handleRejoin_edited communityId sender routeBlob).bind fun response => ?_
  cases response with
  | none => exact joinAsNewMember_edited env communityId sender displayName routeBlob
  | some response => exact keeps_pure _

end

def CommunityRequest.IsSend : CommunityRequest → Prop
  | .join _ _ _ => False
  | .member request => request.IsSend

/-- No request but SendMessage stores a message. -/
theorem serve_messages {state : ServerState} {incoming : IncomingRequest} (h : ¬incoming.request.IsSend) :
    (serve state incoming).db.serverMessages = state.db.serverMessages := by
  obtain ⟨env, sender, routing, request⟩ := incoming
  have hEdited : Keeps (Edited Statement.StoresNoMessage) (dispatchRequest env sender routing request) := by
    cases request with
    | join => exact edited_check fun _ => handleJoin_edited env sender routing _ _
    | member request =>
      exact edited_check fun communityId => Keeps.of_routine (handleRequest_edited env communityId sender h)
  exact (hEdited state).keeps fun _ hStatement _ _ hRun => hStatement.messages hRun

/-! ## Hosting -/

section
variable (env : Environment) (communityId : String)

theorem load_edited {α : Type} {allowed : Statement → Prop} (read : Database → α) :
    Keeps (Edited allowed) (load read) :=
  (edited_query _).bind fun _ => keeps_ofExcept _

theorem loadOrCreateMek_edited : Keeps (Edited Statement.Routine) (loadOrCreateMek env communityId) := by
  refine (edited_query _).bind fun row => ?_
  cases row.join with
  | some mek => exact keeps_pure _
  | none => exact (edited_executeIgnoring (.insertOrReplaceMek _) trivial).bind fun _ => keeps_pure _

theorem loadOrCreateRoles_edited : Keeps (Edited Statement.Routine) (loadOrCreateRoles communityId) := by
  refine (load_edited _).bind fun roles => ?_
  split
  · refine Keeps.bind (keeps_list_forM _ fun role => ?_) fun _ => keeps_pure _
    exact (edited_execute (.insertRoleOrIgnore ⟨communityId, role⟩) trivial).bind fun _ => keeps_ofExcept _
  · exact keeps_pure _

theorem Keeps.of_routine_hosts {ε α : Type} {x : EStateM ε ServerState α}
    (h : Keeps (Edited Statement.Routine) x) : Keeps (Edited (Statement.Hosts communityId)) x :=
  fun s => (h s).mono fun _ hRoutine => hRoutine.hosts communityId

theorem registerCreator_edited (creatorKey creatorDisplayName : String) (community : HostedCommunity) :
    Keeps (Edited (Statement.Hosts communityId))
      (registerCreator env communityId creatorKey creatorDisplayName community) := by
  unfold registerCreator
  split
  · refine Keeps.bind (Keeps.of_routine_hosts communityId
      (insertMemberRows_edited env communityId creatorKey _ _)) fun _ => ?_
    have hAllowed : Statement.Hosts communityId (.recordCreator communityId creatorKey) := rfl
    exact (edited_executeIgnoring _ hAllowed).bind fun _ => keeps_pure _
  · exact keeps_pure _

theorem hostCommunity_edited (name creatorKey creatorDisplayName : String) (setup : Except HostError Unit) :
    Keeps (Edited (Statement.Hosts communityId))
      (hostCommunity env communityId name creatorKey creatorDisplayName setup) := by
  refine (edited_lookupCommunity _).bind fun community => ?_
  cases community with
  | some community => exact keeps_pure _
  | none =>
    have hAllowed : Statement.Hosts communityId (.insertCommunity
      { id := communityId, name := name, description := "", creatorPseudonym := "" }) := rfl
    refine (edited_executeIgnoring _ hAllowed).bind fun _ => ?_
    refine (Keeps.of_routine_hosts communityId (loadOrCreateMek_edited env communityId)).bind fun mek => ?_
    refine (load_edited _).bind fun channels => ?_
    refine (Keeps.of_routine_hosts communityId (loadOrCreateRoles_edited communityId)).bind fun roles => ?_
    refine (load_edited _).bind fun members => (keeps_ofExcept _).bind fun _ => ?_
    refine (edited_query _).bind fun description => (edited_query _).bind fun creator => ?_
    exact (registerCreator_edited env communityId creatorKey creatorDisplayName _).bind fun _ =>
      edited_setCommunity _ _

theorem unhostCommunity_edited :
    Keeps (Edited (Statement.Hosts communityId)) (unhostCommunity communityId) := by
  refine (edited_lookupCommunity _).bind fun community => ?_
  cases community with
  | none => exact keeps_pure _
  | some community =>
    have hAllowed : Statement.Hosts communityId (.deleteCommunity communityId) := rfl
    exact Keeps.bind (fun _ => ⟨.refl, List.suffix_refl _⟩) fun _ => edited_executeIgnoring _ hAllowed

end

/-- Nothing but a request stores messages. -/
theorem handleEvent_messages (state : ServerState) {event : ServerEvent}
    (h : ∀ incoming, event ≠ .request incoming) :
    (handleEvent state event).db.serverMessages = state.db.serverMessages := by
  have hMessages {communityId : String} {t : ServerState} (hEdited : Edited (Statement.Hosts communityId) state t) :
      t.db.serverMessages = state.db.serverMessages :=
    hEdited.keeps fun _ hStatement _ _ hRun => hStatement.storesNoMessage.messages hRun
  cases event with
  | restart => rfl
  | request incoming => exact absurd rfl (h incoming)
  | unhost communityId => exact hMessages (unhostCommunity_edited communityId state)
  | host env communityId name creatorKey creatorDisplayName setup =>
    exact hMessages (hostCommunity_edited env communityId name creatorKey creatorDisplayName setup state)

end Rekindle.Server
