import Rekindle.Server.Hosting

/-! # What one request can change

`serve_outcome` sums up every handler: a request leaves the roles, the members and the creator of
all communities alone, or makes one `Change`, allowed by the checks, in the community it is for.
Results about authority split on the changes and never look at a handler.
-/
namespace Rekindle.Server
set_option autoImplicit false
open Fallible

inductive Change where
  | nothing
  | rejoin (routeBlob : List UInt8)
  | join (displayName : String) (joinedAt : Int) (routeBlob : Option (List UInt8))
  | leave
  | remove (target : String)
  | createRole (role : RoleDefinition)
  | editRole (roleId : UInt32) (edit : RoleEdit)
  | deleteRole (roleId : UInt32)
  | assignRole (target : String) (roleId : UInt32)
  | unassignRole (target : String) (roleId : UInt32)
  | setTimeout (target : String) (deadline : Option UInt64)

/-- The entry of a member that joins. -/
def newMember (community : HostedCommunity) (sender displayName : String) (joinedAt : Int)
    (routeBlob : Option (List UInt8)) : ServerMember :=
  { pseudonymKeyHex := sender, displayName := displayName
    roleIds := defaultRoleIds community.members.isEmpty, joinedAt := joinedAt
    routeBlob := routeBlob, timeoutUntil := none }

def Change.apply (sender : String) (community : HostedCommunity) : Change → HostedCommunity
  | nothing => community
  | rejoin routeBlob => { community with
      members := updateMember community.members sender fun member =>
        { member with routeBlob := some routeBlob } }
  | join displayName joinedAt routeBlob => { community with
      creatorPseudonymHex :=
        if community.members.isEmpty then sender else community.creatorPseudonymHex
      members := community.members ++ [newMember community sender displayName joinedAt routeBlob] }
  | leave => { community with
      members := Keyed.remove ServerMember.pseudonymKeyHex sender community.members }
  | remove target => { community with
      members := Keyed.remove ServerMember.pseudonymKeyHex target community.members }
  | createRole role => { community with roles := community.roles ++ [role] }
  | editRole roleId edit => { community with
      roles := Keyed.update RoleDefinition.id roleId edit.apply community.roles }
  | deleteRole roleId => { community with
      roles := Keyed.remove RoleDefinition.id roleId community.roles
      members := community.members.map (dropRole roleId) }
  | assignRole target roleId => { community with
      members := updateMember community.members target fun member =>
        { member with roleIds := member.roleIds ++ [roleId] } }
  | unassignRole target roleId => { community with
      members := updateMember community.members target (dropRole roleId) }
  | setTimeout target deadline => { community with
      members := updateMember community.members target (Server.setTimeout deadline) }

section
variable (now : UInt64) (community : HostedCommunity) (sender : String)

def Permitted (required : Permissions) : Prop :=
  checkPermission now community sender required = .ok ()

def Outranks (target : String) : Prop := checkHierarchy community sender target = .ok ()

/-- What the handlers have checked when they make the change. -/
def Change.Allowed : Change → Prop
  | nothing => True
  | rejoin _ => findMember community.members sender ≠ none
  | join _ _ _ => findMember community.members sender = none
  | leave => True
  | remove target =>
      (Permitted now community sender kickMembers ∨ Permitted now community sender banMembers) ∧
        Outranks community sender target
  | createRole role => Permitted now community sender manageRoles ∧
      role.id = nextRoleId community.roles ∧ role.position = newRolePosition sender community
  | editRole roleId _ => Permitted now community sender manageRoles ∧
      ∃ role, findRole community.roles roleId = some role ∧
        (role.position < highestRolePosition community sender ∨
          isAdministrator (memberBasePermissions now community sender) = true)
  | deleteRole roleId => Permitted now community sender manageRoles ∧ roleId ≠ roleEveryoneId ∧
      rolePosition community roleId < highestRolePosition community sender
  | assignRole target roleId => Permitted now community sender manageRoles ∧
      Outranks community sender target ∧
      rolePosition community roleId < highestRolePosition community sender
  | unassignRole target roleId => Permitted now community sender manageRoles ∧
      roleId ≠ roleEveryoneId ∧ Outranks community sender target
  | setTimeout target deadline => Permitted now community sender moderateMembers ∧
      (deadline = none ∨ Outranks community sender target)

end

/-- The change that a request asks for. -/
def requestedChange (env : Environment) (sender : String) (community : HostedCommunity) :
    CommunityRequest → Change
  | .join _ displayName routeBlob =>
    match findMember community.members sender, routeBlob with
    | none, routeBlob => .join displayName env.timestampNow routeBlob
    | some _, some routeBlob => .rejoin routeBlob
    | some _, none => .nothing
  | .member request =>
    match request with
    | .leave => .leave
    | .kick target => .remove target
    | .ban target => .remove target
    | .createRole name color permissions hoist mentionable => .createRole
        { id := nextRoleId community.roles, name := name, color := color
          permissions := permissions, position := newRolePosition sender community
          hoist := hoist, mentionable := mentionable }
    | .editRole roleId edit => .editRole roleId edit
    | .deleteRole roleId => .deleteRole roleId
    | .assignRole target roleId => .assignRole target roleId
    | .unassignRole target roleId => .unassignRole target roleId
    | .timeoutMember target durationSeconds _ => .setTimeout target (some (env.now + durationSeconds))
    | .removeTimeout target => .setTimeout target none
    | _ => .nothing

/-- Roles, members and creator agree. -/
structure SameAuthority (first second : HostedCommunity) : Prop where
  roles : first.roles = second.roles
  members : first.members = second.members
  creator : first.creatorPseudonymHex = second.creatorPseudonymHex

/-- The community comes out of the request with the requested change or with none. -/
def Changed (env : Environment) (sender : String) (request : CommunityRequest)
    (before after : HostedCommunity) : Prop :=
  SameAuthority after before ∨
    ∃ change, change = requestedChange env sender before request ∧
      change.Allowed env.now before sender ∧ SameAuthority after (change.apply sender before)

/-- A ban row can be new only through a Ban of a member the sender outranks. -/
def BansKept (env : Environment) (sender communityId : String) (request : CommunityRequest)
    (before after : ServerState) : Prop :=
  ∀ row ∈ after.db.bannedMembers, row ∈ before.db.bannedMembers ∨
    row.communityId = communityId ∧ request = .member (.ban row.pseudonymKeyHex) ∧
      ∃ community, before.hosted.lookup communityId = some community ∧
        Permitted env.now community sender banMembers ∧
        Outranks community sender row.pseudonymKeyHex

structure Outcome (env : Environment) (sender communityId : String) (request : CommunityRequest)
    (before after : ServerState) : Prop where
  bans : BansKept env sender communityId request before after
  hosted : after.hosted = before.hosted ∨
    ∃ community changed, before.hosted.lookup communityId = some community ∧
      Changed env sender request community changed ∧
      after.hosted = before.hosted.insert communityId changed

/-! ## How handlers begin -/

section
variable {s : ServerState} {communityId sender : String} {β : Type} {Q : ServerState → Prop}

theorem ends_with_community {missing : RpcError} {f : HostedCommunity → ServerM β} (hRefused : Q s)
    (h : ∀ community, s.hosted.lookup communityId = some community → Ends Q (f community) s) :
    Ends Q (getCommunity communityId missing >>= f) s := by
  unfold getCommunity
  rw [bind_assoc]
  change Ends Q (ofExcept (orThrow (s.hosted.lookup communityId) missing) >>= f) s
  apply Ends.bind_ofExcept hRefused
  intro community hOk
  exact h community (orThrow_eq_ok_iff.mp hOk)

theorem ends_with_permission {env : Environment} {required : Permissions}
    {f : HostedCommunity → ServerM β} (hRefused : Q s)
    (h : ∀ community, s.hosted.lookup communityId = some community →
      Permitted env.now community sender required → Ends Q (f community) s) :
    Ends Q (openCommunity env communityId sender required >>= f) s := by
  unfold openCommunity
  simp only [bind_assoc, pure_bind]
  apply ends_with_community hRefused
  intro community hCommunity
  apply Ends.bind_ofExcept hRefused
  intro _ _
  apply Ends.bind_ofExcept hRefused
  intro _ hPermitted
  exact h community hCommunity hPermitted

end

/-! ## Steps that leave the communities alone -/

def Quietly (before after : ServerState) : Prop :=
  after.hosted = before.hosted ∧ after.db.bannedMembers ⊆ before.db.bannedMembers

instance : Std.Refl Quietly := ⟨fun _ => ⟨rfl, List.Subset.refl _⟩⟩

instance : IsTrans ServerState Quietly :=
  ⟨fun _ _ _ hFirst hSecond =>
    ⟨hSecond.1.trans hFirst.1, List.Subset.trans hSecond.2 hFirst.2⟩⟩

/-- The statement adds no ban. -/
def AddsNoBan (statement : Database → Option Database) : Prop :=
  ∀ db db', statement db = some db' → db'.bannedMembers ⊆ db.bannedMembers

section
variable {ε : Type}

theorem execute_run (statement : Database → Option Database) (s : ServerState) :
    ∃ stored db, (execute statement : EStateM ε ServerState Bool).run s =
        .ok stored { s with dbFaults := s.dbFaults.tail, db := db } ∧
      (db = s.db ∨ statement s.db = some db) := by
  refine ⟨_, _, rfl, ?_⟩
  cases hFault : s.dbFaults.headD false with
  | true => exact .inl rfl
  | false =>
    cases hRun : statement s.db with
    | none => simp
    | some db => simp

theorem executeIgnoring_run (statement : Database → Option Database) (s : ServerState) :
    ∃ db, (executeIgnoring statement : EStateM ε ServerState Unit).run s =
        .ok () { s with dbFaults := s.dbFaults.tail, db := db } ∧
      (db = s.db ∨ statement s.db = some db) := by
  obtain ⟨stored, db, hRun, hDb⟩ := execute_run statement s
  refine ⟨db, ?_, hDb⟩
  unfold executeIgnoring
  rw [run_bind_of_ok _ hRun, EStateM.run_pure]

theorem keeps_execute {statement : Database → Option Database} (h : AddsNoBan statement) :
    Keeps Quietly (execute statement : EStateM ε ServerState Bool) := by
  intro s
  obtain ⟨stored, db, hRun, hDb⟩ : ∃ stored db, (execute statement : EStateM ε _ _).run s = _ ∧ _ :=
    execute_run statement s
  rw [hRun]
  refine ⟨rfl, ?_⟩
  rcases hDb with rfl | hStatement
  · exact List.Subset.refl _
  · exact h s.db db hStatement

theorem keeps_executeIgnoring {statement : Database → Option Database} (h : AddsNoBan statement) :
    Keeps Quietly (executeIgnoring statement : EStateM ε ServerState Unit) :=
  (keeps_execute h).bind fun _ => keeps_pure _

theorem keeps_query {α : Type} (read : Database → α) :
    Keeps Quietly (query read : EStateM ε ServerState (Option α)) :=
  fun _ => ⟨rfl, List.Subset.refl _⟩

theorem keeps_lookupCommunity (communityId : String) :
    Keeps Quietly (lookupCommunity communityId : EStateM ε ServerState _) :=
  fun _ => ⟨rfl, List.Subset.refl _⟩

theorem keeps_broadcastToMembers (communityId exclude : String) (broadcast : CommunityBroadcast) :
    Keeps Quietly (broadcastToMembers communityId exclude broadcast : EStateM ε ServerState Unit) :=
  fun _ => ⟨rfl, List.Subset.refl _⟩

end

end Rekindle.Server
